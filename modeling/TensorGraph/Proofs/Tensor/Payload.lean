import TensorGraph.Proofs.Tensor.Words
import TensorGraph.Tensor.OfRecord

/-!
# What a tensor record means

How a tensor is stored is chosen by the reader of a record, and what it is by the record alone.
This module takes the two apart.  `TensorRecord.payloadLength` is the number of bytes of the content
and `TensorRecord.valueInfo` the value info of the tensor, or the reason why there is none; neither
knows of any options.  `TensorRecord.tensor` is the tensor with that value info, stored in the way
that was chosen.

`Tensor.ofRecord_eq` says that reading a record is just this: the value info, a look at the
capacity of the place, and the tensor.
-/

set_option autoImplicit false

namespace TensorGraph

/-! ## The length of the bytes -/

/-- Refuses another number of bytes than that of a value. -/
def ValueInfo.checkLength (info : ValueInfo) (length : Nat) : Except Error Unit := do
  let count ← info.byteCount
  if length = count then return ()
  else throw (.illegalArgument (.byteCount info count length))

theorem ValueInfo.checkLength_eq_ok_iff {info : ValueInfo} {length : Nat} :
    info.checkLength length = .ok () ↔ info.byteCount = .ok length := by
  rw [checkLength, bind_eq_ok_iff]
  constructor
  · rintro ⟨count, hcount, h⟩
    split at h
    · rename_i hlength
      rw [hlength, hcount]
    · cases h
  · intro h
    exact ⟨length, h, if_pos rfl⟩

/-- A tensor is made of bytes after two checks, which look at their number only. -/
theorem Tensor.ofBytes_eq (info : ValueInfo) (bytes : Bytes) (order : ByteOrder)
    (options : TensorOptions) :
    Tensor.ofBytes info bytes order options = do
      info.checkLength bytes.length
      options.allocation.checkCapacity bytes.length
      return ⟨info, order, some ⟨bytes, options.allocation⟩⟩ := by
  rw [ofBytes, ValueInfo.checkLength]
  cases info.byteCount with
  | error e => rfl
  | ok count =>
    by_cases h : bytes.length = count
    · subst h
      simp [bind, Except.bind, pure, Except.pure]
    · simp [bind, Except.bind, h]
      rfl

namespace TensorRecord

/-- The number of bytes of the content: those of the raw data if there are any, and else one unit
for each entry of the typed list. -/
def payloadLength (r : TensorRecord) : Nat :=
  if r.rawData = [] then
    match ElementType.ofCode? r.elementType with
    | some elementType => elementType.unitSize?.getD 0 * (r.patterns elementType).length
    | none => 0
  else r.rawData.length

/-- The value info of the tensor that a record describes. -/
def valueInfo (r : TensorRecord) : Except Error ValueInfo :=
  if r.isExternal then .error (.unsupportedOperation (.externalData r.name))
  else do
    let elementType ← ElementType.ofCode r.elementType
    match elementType.unitSize? with
    | none => throw (.unsupportedOperation (.byteConversion r.name elementType))
    | some unit =>
      let shape ← r.shape unit r.payloadLength
      (ValueInfo.checkLength ⟨elementType, shape⟩ r.payloadLength).mapError (·.inTensor r.name)
      return ⟨elementType, shape⟩

/-- The tensor that a record describes, if it has the given value info. -/
def tensor (r : TensorRecord) (info : ValueInfo) (options : TensorOptions) : Tensor :=
  let (bytes, order) :=
    r.content info.elementType (info.elementType.unitSize?.getD 0) options.byteOrder
  ⟨info, order, some ⟨bytes, options.allocation⟩⟩

theorem payloadLength_of_rawData {r : TensorRecord} (hraw : r.rawData ≠ []) :
    r.payloadLength = r.rawData.length := by
  rw [payloadLength, if_neg hraw]

theorem payloadLength_of_patterns {r : TensorRecord} {elementType : ElementType} {unit : Nat}
    (hraw : r.rawData = []) (hcode : ElementType.ofCode? r.elementType = some elementType)
    (hunit : elementType.unitSize? = some unit) :
    r.payloadLength = unit * (r.patterns elementType).length := by
  rw [payloadLength, if_pos hraw, hcode]
  show elementType.unitSize?.getD 0 * _ = _
  rw [hunit, Option.getD_some]

/-- The content has the same length in every byte order. -/
theorem length_content {r : TensorRecord} {elementType : ElementType} {unit : Nat}
    (hcode : ElementType.ofCode? r.elementType = some elementType)
    (hunit : elementType.unitSize? = some unit) (order : ByteOrder) :
    (r.content elementType unit order).1.length = r.payloadLength := by
  rw [content]
  by_cases hraw : r.rawData = []
  · rw [if_pos hraw, payloadLength_of_patterns hraw hcode hunit]
    exact ByteOrder.length_pack _
  · rw [if_neg hraw, payloadLength_of_rawData hraw]

end TensorRecord

theorem ElementType.ofCode_eq_ok_iff {code : Int32} {elementType : ElementType} :
    ElementType.ofCode code = .ok elementType ↔ ElementType.ofCode? code = some elementType := by
  rw [ofCode]
  cases ElementType.ofCode? code <;> simp

/-- Dimensions make a shape if none of them is negative. -/
theorem Shape.ofDims_eq_ok_iff {dims : List Int64} {shape : Shape} :
    Shape.ofDims dims = .ok shape ↔
      (∀ d ∈ dims, 0 ≤ d.toInt) ∧ shape = ⟨dims.map fun d => d.toInt.toNat⟩ := by
  rw [ofDims]
  cases hfind : dims.find? fun d => d.toInt < 0 with
  | none =>
    rw [List.find?_eq_none] at hfind
    have hdims : ∀ d ∈ dims, 0 ≤ d.toInt := fun d hd => by simpa using hfind d hd
    constructor
    · intro h
      cases h
      exact ⟨hdims, rfl⟩
    · rintro ⟨-, rfl⟩
      rfl
  | some d =>
    have hneg : d.toInt < 0 := by simpa using List.find?_some hfind
    constructor
    · intro h
      cases h
    · rintro ⟨hdims, -⟩
      exact absurd (hdims d (List.mem_of_find?_eq_some hfind)) (Int.not_le.2 hneg)

section Readable

variable {r : TensorRecord} {elementType : ElementType} {unit : Nat}
  (hexternal : r.isExternal = false) (hcode : ElementType.ofCode r.elementType = .ok elementType)
  (hunit : elementType.unitSize? = some unit)

include hexternal hcode hunit

theorem TensorRecord.valueInfo_of_unitSize :
    r.valueInfo = do
      let shape ← r.shape unit r.payloadLength
      (ValueInfo.checkLength ⟨elementType, shape⟩ r.payloadLength).mapError (·.inTensor r.name)
      return ⟨elementType, shape⟩ := by
  rw [valueInfo, hexternal, if_neg Bool.false_ne_true, hcode]
  show (match elementType.unitSize? with | none => _ | some unit => _) = _
  rw [hunit]

theorem Tensor.ofRecord_of_unitSize (options : TensorOptions) :
    Tensor.ofRecord r options =
      r.shape unit (r.content elementType unit options.byteOrder).1.length >>= fun shape =>
        (Tensor.ofBytes ⟨elementType, shape⟩ (r.content elementType unit options.byteOrder).1
          (r.content elementType unit options.byteOrder).2 options).mapError
            (·.inTensor r.name) := by
  rw [ofRecord, hexternal, if_neg Bool.false_ne_true, hcode]
  show (match elementType.unitSize? with | none => _ | some unit => _) = _
  rw [hunit]

/-- A record of elements of fixed width is read in the order of its checks: the dimensions, the
number of bytes, the capacity. -/
theorem Tensor.ofRecord_eq_of_unitSize (options : TensorOptions) :
    Tensor.ofRecord r options = do
      let info ← r.valueInfo
      (options.allocation.checkCapacity r.payloadLength).mapError (·.inTensor r.name)
      return r.tensor info options := by
  have hlength := TensorRecord.length_content (ElementType.ofCode_eq_ok_iff.1 hcode) hunit
    options.byteOrder
  rw [ofRecord_of_unitSize hexternal hcode hunit,
    TensorRecord.valueInfo_of_unitSize hexternal hcode hunit, hlength]
  cases r.shape unit r.payloadLength with
  | error e => rfl
  | ok shape =>
    show (Tensor.ofBytes ⟨elementType, shape⟩ _ _ _).mapError _ =
      ((ValueInfo.checkLength ⟨elementType, shape⟩ _).mapError _ >>= _) >>= _
    rw [ofBytes_eq, hlength]
    cases ValueInfo.checkLength ⟨elementType, shape⟩ r.payloadLength with
    | error e => rfl
    | ok _ =>
      cases options.allocation.checkCapacity r.payloadLength with
      | error e => rfl
      | ok _ =>
        show Except.ok _ = Except.ok (r.tensor ⟨elementType, shape⟩ options)
        rw [TensorRecord.tensor, hunit, Option.getD_some]

end Readable

/-- **Reading a tensor record**: what the record means is found out first, whatever the options
are, and then only the capacity of the place can stand in the way. -/
theorem Tensor.ofRecord_eq (r : TensorRecord) (options : TensorOptions) :
    Tensor.ofRecord r options = do
      let info ← r.valueInfo
      (options.allocation.checkCapacity r.payloadLength).mapError (·.inTensor r.name)
      return r.tensor info options := by
  cases hexternal : r.isExternal with
  | true =>
    rw [ofRecord, TensorRecord.valueInfo, hexternal]
    rfl
  | false =>
    cases hcode : ElementType.ofCode r.elementType with
    | error e =>
      rw [ofRecord, TensorRecord.valueInfo, hexternal, hcode]
      rfl
    | ok elementType =>
      cases hunit : elementType.unitSize? with
      | none =>
        rw [ofRecord, TensorRecord.valueInfo, hexternal, hcode]
        show (match elementType.unitSize? with | none => _ | some unit => _) =
          (match elementType.unitSize? with | none => _ | some unit => _) >>= _
        rw [hunit]
        rfl
      | some unit => exact ofRecord_eq_of_unitSize hexternal hcode hunit options

theorem Tensor.ofRecord_eq_ok_iff {r : TensorRecord} {options : TensorOptions} {t : Tensor} :
    Tensor.ofRecord r options = .ok t ↔
      ∃ info, r.valueInfo = .ok info ∧ r.payloadLength ≤ options.allocation.capacity ∧
        t = r.tensor info options := by
  rw [ofRecord_eq, bind_eq_ok_iff]
  constructor
  · rintro ⟨info, hinfo, h⟩
    obtain ⟨_, hcapacity, h⟩ := bind_eq_ok_iff.1 h
    cases h
    exact ⟨info, hinfo, Allocation.checkCapacity_eq_ok_iff.1 (mapError_eq_ok_iff.1 hcapacity), rfl⟩
  · rintro ⟨info, hinfo, hcapacity, rfl⟩
    exact ⟨info, hinfo, bind_eq_ok_iff.2
      ⟨(), mapError_eq_ok_iff.2 (Allocation.checkCapacity_eq_ok_iff.2 hcapacity), rfl⟩⟩

namespace TensorRecord

variable {r : TensorRecord} {info : ValueInfo}

/-- When a record describes a tensor, and which. -/
theorem valueInfo_eq_ok_iff :
    r.valueInfo = .ok info ↔
      r.isExternal = false ∧ ElementType.ofCode? r.elementType = some info.elementType ∧
      ∃ unit, info.elementType.unitSize? = some unit ∧
        r.shape unit r.payloadLength = .ok info.shape ∧ info.byteCount = .ok r.payloadLength := by
  constructor
  · intro h
    cases hexternal : r.isExternal with
    | true =>
      rw [valueInfo, hexternal] at h
      cases h
    | false =>
      rw [valueInfo, hexternal, if_neg Bool.false_ne_true] at h
      obtain ⟨elementType, hcode, h⟩ := bind_eq_ok_iff.1 h
      split at h
      · cases h
      · rename_i unit hunit
        obtain ⟨shape, hshape, h⟩ := bind_eq_ok_iff.1 h
        obtain ⟨_, hlength, h⟩ := bind_eq_ok_iff.1 h
        cases h
        exact ⟨rfl, ElementType.ofCode_eq_ok_iff.1 hcode, unit, hunit, hshape,
          ValueInfo.checkLength_eq_ok_iff.1 (mapError_eq_ok_iff.1 hlength)⟩
  · rintro ⟨hexternal, hcode, unit, hunit, hshape, hcount⟩
    rw [valueInfo_of_unitSize hexternal (ElementType.ofCode_eq_ok_iff.2 hcode) hunit,
      bind_eq_ok_iff]
    refine ⟨info.shape, hshape, bind_eq_ok_iff.2 ⟨(), ?_, rfl⟩⟩
    exact mapError_eq_ok_iff.2 (ValueInfo.checkLength_eq_ok_iff.2 hcount)

/-! ## The content -/

theorem isDirect_tensor (options : TensorOptions) :
    (r.tensor info options).isDirect = (options.allocation == .direct) := rfl

theorem byteOrder_tensor (options : TensorOptions) :
    (r.tensor info options).byteOrder = if r.rawData = [] then options.byteOrder else .little := by
  show (r.content _ _ _).2 = _
  rw [content]
  split <;> rfl

theorem byteCount_of_valueInfo (h : r.valueInfo = .ok info) :
    info.byteCount = .ok r.payloadLength := by
  obtain ⟨-, -, unit, -, -, hcount⟩ := valueInfo_eq_ok_iff.1 h
  exact hcount

theorem byteLength_tensor (h : r.valueInfo = .ok info) (options : TensorOptions) :
    (r.tensor info options).byteLength = r.payloadLength := by
  obtain ⟨-, hcode, unit, hunit, -⟩ := valueInfo_eq_ok_iff.1 h
  show (r.content _ _ _).1.length = _
  rw [hunit, Option.getD_some, length_content hcode hunit]

/-- Raw data is taken as it is. -/
theorem tensor_of_rawData (hraw : r.rawData ≠ []) (options : TensorOptions) :
    r.tensor info options = ⟨info, .little, some ⟨r.rawData, options.allocation⟩⟩ := by
  rw [tensor, content, if_neg hraw]

/-- A typed list is laid out in the order that was asked for. -/
theorem tensor_of_patterns {unit : Nat} (hraw : r.rawData = [])
    (hunit : info.elementType.unitSize? = some unit) (options : TensorOptions) :
    r.tensor info options =
      ⟨info, options.byteOrder,
        some ⟨options.byteOrder.pack unit (r.patterns info.elementType), options.allocation⟩⟩ := by
  rw [tensor, content, if_pos hraw, hunit]
  rfl

/-- **The numbers in a tensor do not depend on how it is stored.** -/
theorem toList_tensor_congr (host : ByteOrder) (α : Type) [FixedWidth α]
    (options options' : TensorOptions) :
    (r.tensor info options).toList host α = (r.tensor info options').toList host α := by
  by_cases hwidth : info.elementType.unitSize? = some (FixedWidth.width α)
  · by_cases hraw : r.rawData = []
    · rw [tensor_of_patterns hraw hwidth, tensor_of_patterns hraw hwidth,
        Tensor.toList_of_pack hwidth rfl, Tensor.toList_of_pack hwidth rfl]
    · rw [tensor_of_rawData hraw, tensor_of_rawData hraw]
      rfl
  · rw [Tensor.toList_of_unitSize?_ne hwidth, Tensor.toList_of_unitSize?_ne hwidth]
    rfl

end TensorRecord

end TensorGraph
