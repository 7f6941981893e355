import TensorGraph.Proofs.Tensor.Payload

/-!
# Typed lists and raw data

The content of a tensor can be written into a record in two ways: as entries of the typed list that
belongs to the element type, or as bytes.  Five typed lists serve twelve element types, so entries
may be wider than elements and have to be narrowed.

`Carries` is the table of this: for each element type the list its elements stand in, the kind of
numbers they are read back as, and how an entry is narrowed to an element.  Three lemmas about the
table (`Carries.unitSize?_eq`, `Carries.patterns_eq` and `Carries.pattern_narrow`) are all that is
used of it; in particular, to narrow an entry is always to cut its bit pattern down.

`typed_agrees_with_raw` says that the two ways mean the same: a typed list is read back as its
narrowed entries in either byte order, and so are the bytes of the narrowed entries, whatever else
stands in the record.
-/

set_option autoImplicit false

namespace TensorGraph

open FixedWidth

/-! ## Narrowing -/

theorem pattern_toInt16 (v : Int32) : pattern v.toInt16 = pattern v % wordCount 2 := by
  have h : v.toInt16.toUInt16 = v.toUInt32.toUInt16 := by
    apply UInt16.toBitVec_inj.1
    exact BitVec.signExtend_eq_setWidth_of_le v.toBitVec (by decide)
  show v.toInt16.toUInt16.toNat = v.toUInt32.toNat % 65536
  rw [h, UInt32.toNat_toUInt16]

theorem pattern_toInt8 (v : Int32) : pattern v.toInt8 = pattern v % wordCount 1 := by
  have h : v.toInt8.toUInt8 = v.toUInt32.toUInt8 := by
    apply UInt8.toBitVec_inj.1
    exact BitVec.signExtend_eq_setWidth_of_le v.toBitVec (by decide)
  show v.toInt8.toUInt8.toNat = v.toUInt32.toNat % 256
  rw [h, UInt32.toNat_toUInt8]

/-- Elements of the type stand in the list `entries` of a record; they are read back as numbers of
the kind `α`, to which an entry is cut down by `narrow`. -/
inductive Carries : {α β : Type} → [FixedWidth α] → [FixedWidth β] → ElementType →
    (entries : TensorRecord → List β) → (narrow : β → α) → Prop
  | float : Carries .float TensorRecord.floatData (id : Binary32 → Binary32)
  | double : Carries .double TensorRecord.doubleData (id : Binary64 → Binary64)
  | int64 : Carries .int64 TensorRecord.int64Data (id : Int64 → Int64)
  | int32 : Carries .int32 TensorRecord.int32Data (id : Int32 → Int32)
  | int16 : Carries .int16 TensorRecord.int32Data Int32.toInt16
  | int8 : Carries .int8 TensorRecord.int32Data Int32.toInt8
  | uint16 : Carries .uint16 TensorRecord.int32Data fun v => v.toUInt32.toUInt16
  | float16 : Carries .float16 TensorRecord.int32Data fun v => v.toUInt32.toUInt16
  | uint8 : Carries .uint8 TensorRecord.int32Data fun v => v.toUInt32.toUInt8
  | bool : Carries .bool TensorRecord.int32Data fun v => v.toUInt32.toUInt8
  | uint32 : Carries .uint32 TensorRecord.uint64Data UInt64.toUInt32
  | uint64 : Carries .uint64 TensorRecord.uint64Data (id : UInt64 → UInt64)

/-- The table has every element type that can be held. -/
theorem exists_carries {elementType : ElementType} {unit : Nat}
    (h : elementType.unitSize? = some unit) :
    ∃ (α β : Type) (_ : FixedWidth α) (_ : FixedWidth β) (entries : TensorRecord → List β)
      (narrow : β → α), Carries elementType entries narrow := by
  cases elementType with
  | float => exact ⟨_, _, _, _, _, _, .float⟩
  | double => exact ⟨_, _, _, _, _, _, .double⟩
  | int64 => exact ⟨_, _, _, _, _, _, .int64⟩
  | int32 => exact ⟨_, _, _, _, _, _, .int32⟩
  | int16 => exact ⟨_, _, _, _, _, _, .int16⟩
  | int8 => exact ⟨_, _, _, _, _, _, .int8⟩
  | uint16 => exact ⟨_, _, _, _, _, _, .uint16⟩
  | float16 => exact ⟨_, _, _, _, _, _, .float16⟩
  | uint8 => exact ⟨_, _, _, _, _, _, .uint8⟩
  | bool => exact ⟨_, _, _, _, _, _, .bool⟩
  | uint32 => exact ⟨_, _, _, _, _, _, .uint32⟩
  | uint64 => exact ⟨_, _, _, _, _, _, .uint64⟩
  | string | complex64 | complex128 => cases h

namespace Carries

variable {α β : Type} [FixedWidth α] [FixedWidth β] {elementType : ElementType}
  {entries : TensorRecord → List β} {narrow : β → α}

theorem unitSize?_eq (h : Carries elementType entries narrow) :
    elementType.unitSize? = some (width α) := by
  cases h <;> rfl

theorem patterns_eq (h : Carries elementType entries narrow) (r : TensorRecord) :
    r.patterns elementType = (entries r).map pattern := by
  cases h <;> rfl

/-- **Narrowing keeps the low bytes** of an entry and nothing else. -/
theorem pattern_narrow (h : Carries elementType entries narrow) (v : β) :
    pattern (narrow v) = pattern v % wordCount (width α) := by
  have hid {γ : Type} [FixedWidth γ] (v : γ) : pattern v = pattern v % wordCount (width γ) :=
    (Nat.mod_eq_of_lt (pattern_lt v)).symm
  cases h with
  | float | double | int64 | int32 | uint64 => exact hid v
  | int16 => exact pattern_toInt16 v
  | int8 => exact pattern_toInt8 v
  | uint16 | float16 => exact UInt32.toNat_toUInt16 v.toUInt32
  | uint8 | bool => exact UInt32.toNat_toUInt8 v.toUInt32
  | uint32 => exact UInt64.toNat_toUInt32 v

theorem map_pattern_narrow (h : Carries elementType entries narrow) (r : TensorRecord) :
    ((entries r).map narrow).map pattern =
      (r.patterns elementType).map (· % wordCount (width α)) := by
  rw [h.patterns_eq, List.map_map, List.map_map]
  exact List.map_congr_left fun v _ => h.pattern_narrow v

/-- The bytes of the narrowed entries are those of the typed list. -/
theorem pack_patterns (h : Carries elementType entries narrow) (r : TensorRecord)
    (order : ByteOrder) :
    order.pack (width α) (r.patterns elementType) =
      ((entries r).map narrow).flatMap (encode order) := by
  rw [ByteOrder.flatMap_encode, h.map_pattern_narrow, ByteOrder.pack_map_mod]

end Carries

/-! ## The dimensions of a list -/

/-- The shape of a number of elements for which a record has the given dimensions. -/
def Shape.ofCount (dims : List Int64) (count : Nat) : Shape :=
  if dims = [] then ⟨[count]⟩ else ⟨dims.map fun d => d.toInt.toNat⟩

/-- The dimensions are left out, or they are sizes and describe the given number of elements. -/
def DimsFit (dims : List Int64) (count : Nat) : Prop :=
  dims = [] ∨ (∀ d ∈ dims, 0 ≤ d.toInt) ∧ (dims.map fun d => d.toInt.toNat).prod = count

theorem DimsFit.prod_dims {dims : List Int64} {count : Nat} (h : DimsFit dims count) :
    (Shape.ofCount dims count).dims.prod = count := by
  rw [Shape.ofCount]
  by_cases hdims : dims = []
  · rw [if_pos hdims, List.prod_singleton]
  · rw [if_neg hdims]
    exact (h.resolve_left hdims).2

theorem DimsFit.shape_eq {r : TensorRecord} {count unit : Nat} (h : DimsFit r.dims count)
    (hunit : 0 < unit) : r.shape unit (unit * count) = .ok (Shape.ofCount r.dims count) := by
  rw [TensorRecord.shape, Shape.ofCount]
  by_cases hdims : r.dims = []
  · rw [if_pos hdims, if_pos hdims, Nat.mul_div_cancel_left _ hunit]
  · rw [if_neg hdims, if_neg hdims]
    exact Shape.ofDims_eq_ok_iff.2 ⟨(h.resolve_left hdims).1, rfl⟩

/-! ## Both ways -/

/-- A tensor equals itself as long as it has a buffer. -/
theorem Tensor.same_self {t : Tensor} {buffer : Buffer} (h : t.buffer = some buffer) :
    t.same t = true := by
  rw [same, h]
  simp [ValueInfo.same, Shape.same]

section Readable

variable {r : TensorRecord} {elementType : ElementType} {unit count : Nat}
  (hcode : r.elementType = elementType.code) (hexternal : r.isExternal = false)
  (hdims : DimsFit r.dims count)

include hcode hexternal hdims

/-- A record is read if its content is a positive number of elements that its dimensions
describe. -/
theorem ofRecord_of_dimsFit (hunit : elementType.unitSize? = some unit)
    (hlength : r.payloadLength = unit * count) (hpos : 0 < unit * count)
    (hlt : unit * count < 0x7fffffffffffffc0) (options : TensorOptions) :
    Tensor.ofRecord r options =
      .ok (r.tensor ⟨elementType, Shape.ofCount r.dims count⟩ options) := by
  have hshape := hdims.shape_eq (ElementType.unitSize?_pos hunit)
  refine Tensor.ofRecord_eq_ok_iff.2 ⟨_, TensorRecord.valueInfo_eq_ok_iff.2 ⟨hexternal, ?_, unit,
    hunit, ?_, ?_⟩, ?_, rfl⟩
  · rw [hcode, ElementType.ofCode?_code]
  · rw [hlength, hshape]
  · refine ValueInfo.byteCount_eq_ok_iff.2 ⟨unit, hunit, ?_, ?_⟩
    · rw [hlength, hdims.prod_dims]
    · rw [hlength]
      exact ⟨hpos, Nat.lt_trans hlt (by decide)⟩
  · rw [hlength]
    exact Allocation.le_capacity hlt options.allocation

variable {α : Type} [FixedWidth α]

/-- Raw data that is the little-endian bytes of numbers is read, and taken as it is. -/
theorem ofRecord_raw {values : List α} (hraw : r.rawData = values.flatMap (encode .little))
    (hcount : values.length = count) (hpos : 0 < count)
    (hunit : elementType.unitSize? = some (width α))
    (hlt : width α * count < 0x7fffffffffffffc0) (options : TensorOptions) :
    Tensor.ofRecord r options =
      .ok ⟨⟨elementType, Shape.ofCount r.dims count⟩, .little,
        some ⟨values.flatMap (encode .little), options.allocation⟩⟩ := by
  have hlength : r.rawData.length = width α * count := by
    rw [hraw, ByteOrder.flatMap_encode, ByteOrder.length_pack, List.length_map, hcount]
  have hwidth : 0 < width α * count := Nat.mul_pos width_pos hpos
  have hne : r.rawData ≠ [] := by
    rw [← List.length_pos_iff, hlength]
    exact hwidth
  rw [ofRecord_of_dimsFit hcode hexternal hdims hunit
      ((TensorRecord.payloadLength_of_rawData hne).trans hlength) hwidth hlt,
    TensorRecord.tensor_of_rawData hne, hraw]

/-- A typed list is read, and its narrowed entries are laid out in the order that was chosen. -/
theorem ofRecord_typed {β : Type} [FixedWidth β] {entries : TensorRecord → List β} {narrow : β → α}
    (hcarries : Carries elementType entries narrow) (hraw : r.rawData = [])
    (hcount : (entries r).length = count) (hpos : 0 < count)
    (hlt : width α * count < 0x7fffffffffffffc0) (options : TensorOptions) :
    Tensor.ofRecord r options =
      .ok ⟨⟨elementType, Shape.ofCount r.dims count⟩, options.byteOrder,
        some ⟨((entries r).map narrow).flatMap (encode options.byteOrder),
          options.allocation⟩⟩ := by
  have hunit := hcarries.unitSize?_eq
  have hlength : r.payloadLength = width α * count := by
    rw [TensorRecord.payloadLength_of_patterns hraw (hcode ▸ ElementType.ofCode?_code _) hunit,
      hcarries.patterns_eq, List.length_map, hcount]
  rw [ofRecord_of_dimsFit hcode hexternal hdims hunit hlength (Nat.mul_pos width_pos hpos) hlt,
    TensorRecord.tensor_of_patterns hraw hunit, hcarries.pack_patterns]

end Readable

/-- **Typed lists and raw data carry the same values.**  The elements of every type that can be held
stand in some typed list.  Such a list is read, whatever the options are, and gives its entries cut
down to the width of the elements, on every host.  The little-endian bytes of the same numbers are
read too, whatever the typed lists of that record hold; the result has the same value info and gives
the same numbers, its bytes are those of the record, and if typed lists are laid out little-endian as
well then it equals the first. -/
theorem typed_agrees_with_raw :
    (∀ (elementType : ElementType) (unit : Nat), elementType.unitSize? = some unit →
      ∃ (α β : Type) (_ : FixedWidth α) (_ : FixedWidth β) (entries : TensorRecord → List β)
        (narrow : β → α), Carries elementType entries narrow) ∧
    ∀ {α β : Type} [FixedWidth α] [FixedWidth β] {elementType : ElementType}
      {entries : TensorRecord → List β} {narrow : β → α}, Carries elementType entries narrow →
      (∀ v, pattern (narrow v) = pattern v % wordCount (width α)) ∧
      ∀ {r : TensorRecord}, r.elementType = elementType.code → r.isExternal = false →
        r.rawData = [] → entries r ≠ [] →
        width α * (entries r).length < 0x7fffffffffffffc0 →
        DimsFit r.dims (entries r).length → ∀ options : TensorOptions,
          ∃ a b,
            Tensor.ofRecord r options = .ok a ∧
            (∀ host, a.toList host α = .ok ((entries r).map narrow)) ∧
            (∀ r' : TensorRecord, r'.elementType = r.elementType → r'.isExternal = false →
              r'.dims = r.dims → r'.rawData = ((entries r).map narrow).flatMap (encode .little) →
              Tensor.ofRecord r' options = .ok b) ∧
            b.info = a.info ∧
            (∀ host, b.toList host α = .ok ((entries r).map narrow)) ∧
            b.bytes = .ok (((entries r).map narrow).flatMap (encode .little)) ∧
            b.byteOrder = .little ∧
            (options.byteOrder = .little → a.same b = true) := by
  refine ⟨fun _ _ hunit => exists_carries hunit, ?_⟩
  intro α β _ _ elementType entries narrow hcarries
  refine ⟨hcarries.pattern_narrow, ?_⟩
  intro r hcode hexternal hraw hentries hsize hdims options
  have hunit := hcarries.unitSize?_eq
  have hpos : 0 < (entries r).length := List.length_pos_iff.2 hentries
  have htyped := ofRecord_typed hcode hexternal hdims hcarries hraw rfl hpos hsize options
  refine ⟨_,
    ⟨⟨elementType, Shape.ofCount r.dims (entries r).length⟩, .little, some ⟨_, options.allocation⟩⟩,
    htyped, fun _ => Tensor.toList_of_encode hunit rfl, ?_, rfl,
    fun _ => Tensor.toList_of_encode hunit rfl, rfl, rfl, ?_⟩
  · intro r' hcode' hexternal' hdims' hraw'
    rw [← hdims'] at hdims ⊢
    exact ofRecord_raw (hcode'.trans hcode) hexternal' hdims hraw' (List.length_map _) hpos hunit
      hsize options
  · intro horder
    rw [horder]
    exact Tensor.same_self rfl

/-- Two numbers of 16 bits in entries of 32, laid out big-endian, and the same as raw data. -/
theorem typed_agrees_with_raw_int16 :
    ∃ a b,
      Tensor.ofRecord
        ({ dims := [2], elementType := 5, int32Data := [-2, 65537] } : TensorRecord)
        ⟨.direct, .big⟩ = .ok a ∧
      (∀ host, a.toList host Int16 = .ok [-2, 1]) ∧
      Tensor.ofRecord
        ({ dims := [2], elementType := 5, rawData := [254, 255, 1, 0], int64Data := [7] } :
          TensorRecord) ⟨.direct, .big⟩ = .ok b ∧
      ∀ host, b.toList host Int16 = .ok [-2, 1] := by
  obtain ⟨a, b, ha, hlist, hraw, -, hlist', -⟩ := (typed_agrees_with_raw.2 .int16).2
      (r := { dims := [2], elementType := 5, int32Data := [-2, 65537] }) rfl rfl rfl
      (by decide) (by decide) (.inr ⟨by simp, rfl⟩) ⟨.direct, .big⟩
  have hvalues : [(-2 : Int32), 65537].map Int32.toInt16 = [-2, 1] := by decide
  refine ⟨a, b, ha, hvalues ▸ hlist, hraw _ rfl rfl rfl ?_, hvalues ▸ hlist'⟩
  decide

end TensorGraph
