import TensorGraph.Proofs.Record.RoundTrip
import TensorGraph.Proofs.Record.Tables
import TensorGraph.Proofs.Wire.Places

/-!
# Records do not depend on how they are cut

The same content can be written in many ways.  A record that stands in a field at most once may
come in two pieces, and a list of numbers may be cut anywhere, into runs that are packed behind a
length and single numbers, with other fields in between.  What is decoded is always the same.

The fields for which the format allows this are listed here, `RecordField` and `NumberList`, each
with the place of its record that it fills.  That a table reads them as such fields is a matter of
comparing (`RecordField.field?`, `NumberList.field?`); that no other field of the table touches the
place is `RecordField.reserves` and `NumberList.reserves`.  The rest is what `merge_framed` and
`Layout.contributes` say of all tables.
-/

set_option autoImplicit false

namespace TensorGraph

open Wire

/-! ## Records inside records -/

/-- A field with at most one record: the table around it, its number, the table of the record and
where it is put. -/
inductive RecordField : {R M : Type} → Message R → Nat → Message M → Place R (Option M) → Prop
  | graph : RecordField ModelRecord.message 7 GraphRecord.message
      { get := (·.graph), put := fun a r => { r with graph := a } }
  | tensor : RecordField AttributeRecord.message 5 TensorRecord.message
      { get := (·.tensor), put := fun a r => { r with tensor := a } }
  | type : RecordField ValueInfoRecord.message 2 TypeRecord.message
      { get := (·.type), put := fun a r => { r with type := a } }
  | tensorType : RecordField TypeRecord.message 1 TensorTypeRecord.message
      { get := (·.tensorType), put := fun a r => { r with tensorType := a } }
  | shape : RecordField TensorTypeRecord.message 2 ShapeRecord.message
      { get := (·.shape), put := fun a r => { r with shape := a } }

namespace RecordField

variable {R M : Type} {m : Message R} {number : Nat} {sub : Message M} {place : Place R (Option M)}

theorem steady (h : RecordField m number sub place) : m.Steady ∧ sub.Steady := by
  cases h <;> simp

theorem field? (h : RecordField m number sub place) : ∃ label, m.field? number =
    some (.message number label sub (place.update sub.empty)) := by
  cases h <;> exact ⟨_, rfl⟩

theorem reserves (h : RecordField m number sub place) : m.Reserves number place := by
  cases h with
  | graph => simp [Message.Reserves, ModelRecord.message]
  | tensor => simp [Message.Reserves, AttributeRecord.message]
  | type => simp [Message.Reserves, ValueInfoRecord.message]
  | tensorType => simp [Message.Reserves, TypeRecord.message]
  | shape => simp [Message.Reserves, TensorTypeRecord.message]

/-- **A record in two pieces**, with fields of other numbers in between, is the record in one. -/
theorem decode_merged (h : RecordField m number sub place)
    {p q first second whole front between : Bytes} (hp : ∃ a, sub.decode p = .ok a)
    (hq : ∃ a, sub.decode q = .ok a) (hfirst : Framed number p first)
    (hsecond : Framed number q second) (hwhole : Framed number (p ++ q) whole)
    (hfront : ∃ r, m.decode front = .ok r) (hbetween : m.Lacks number between) (behind : Bytes) :
    m.decode (front ++ (first ++ (between ++ second) ++ behind)) =
        m.decode (front ++ (whole ++ between ++ behind)) ∧
      m.decode (front ++ (first ++ (between ++ second) ++ behind)) =
        m.decode (front ++ (between ++ whole ++ behind)) := by
  obtain ⟨hm, hsub⟩ := h.steady
  obtain ⟨label, hf⟩ := h.field?
  obtain ⟨a, ha⟩ := hp
  obtain ⟨b, hb⟩ := hq
  obtain ⟨r, hr⟩ := hfront
  obtain ⟨x, hx⟩ := (Message.isRow_of_decode hr).exists_contributes hm (Nat.le_refl _)
  obtain ⟨hleft, hright⟩ := Message.merge_framed hf hm hsub h.reserves
    (Message.isRow_of_decode ha) (Message.isRow_of_decode hb) hfirst hsecond hwhole hbetween
  exact ⟨(Message.Interchangeable.append_left hx (hleft.append_right behind)).decode_eq,
    (Message.Interchangeable.append_left hx (hright.append_right behind)).decode_eq⟩

end RecordField

/-! ## Lists of numbers -/

/-- A field with a list of numbers: the table around it, its number, how a value is read and
spelled, and where the list is. -/
inductive NumberList : {R α : Type} → Message R → Nat → Scalar α → (Bytes → α → Prop) →
    Place R (List α) → Prop
  | dims : NumberList TensorRecord.message 1 .int64 SpellsInt64
      { get := (·.dims), put := fun l r => { r with dims := l } }
  | floatData : NumberList TensorRecord.message 4 .float SpellsFloat
      { get := (·.floatData), put := fun l r => { r with floatData := l } }
  | int32Data : NumberList TensorRecord.message 5 .int32 SpellsInt32
      { get := (·.int32Data), put := fun l r => { r with int32Data := l } }
  | int64Data : NumberList TensorRecord.message 7 .int64 SpellsInt64
      { get := (·.int64Data), put := fun l r => { r with int64Data := l } }
  | doubleData : NumberList TensorRecord.message 10 .double SpellsDouble
      { get := (·.doubleData), put := fun l r => { r with doubleData := l } }
  | uint64Data : NumberList TensorRecord.message 11 .uint64 SpellsUInt64
      { get := (·.uint64Data), put := fun l r => { r with uint64Data := l } }
  | floats : NumberList AttributeRecord.message 7 .float SpellsFloat
      { get := (·.floats), put := fun l r => { r with floats := l } }
  | ints : NumberList AttributeRecord.message 8 .int64 SpellsInt64
      { get := (·.ints), put := fun l r => { r with ints := l } }

namespace NumberList

variable {R α : Type} {m : Message R} {number : Nat} {s : Scalar α} {writes : Bytes → α → Prop}
  {list : Place R (List α)}

theorem steady (h : NumberList m number s writes list) : m.Steady := by
  cases h <;> simp

theorem field? (h : NumberList m number s writes list) : ∃ label, m.field? number =
    some (.packable number label s list.append) := by
  cases h <;> exact ⟨_, rfl⟩

theorem get_empty (h : NumberList m number s writes list) : list.get m.empty = [] := by
  cases h <;> rfl

theorem wireType_ne (h : NumberList m number s writes list) : s.wireType ≠ .lengthDelimited := by
  cases h <;> decide

theorem finds (h : NumberList m number s writes list) (data : Bytes) (a : α)
    (hvalue : writes data a) : s.read.Finds data (.ok a) := by
  cases h with
  | dims | int64Data | ints => exact hvalue.finds
  | floatData | floats => exact hvalue.finds
  | int32Data => exact hvalue.finds
  | doubleData => exact hvalue.finds
  | uint64Data => exact hvalue.finds

theorem reserves (h : NumberList m number s writes list) : m.Reserves number list := by
  cases h <;> simp [Message.Reserves, TensorRecord.message, AttributeRecord.message]

/-- **A list of numbers, however it is cut**, is decoded to the list, and the record is otherwise
what the other fields make of it. -/
theorem decode_layout (h : NumberList m number s writes list) {data others : Bytes}
    {values : List α} (hlayout : m.Layout number s writes data values others) :
    ∃ r, m.decode data = .ok r ∧ list.get r = values ∧
      m.decode others = .ok (list.put [] r) := by
  obtain ⟨label, hf⟩ := h.field?
  obtain ⟨u, hdata, hothers, hu⟩ :=
    hlayout.contributes hf h.wireType_ne h.finds h.steady h.reserves
  have hnone : list.get (u m.empty) = [] := (hu.1 m.empty).trans h.get_empty
  refine ⟨list.append values (u m.empty), hdata.decode, ?_, ?_⟩
  · show list.get (list.put (list.get (u m.empty) ++ values) (u m.empty)) = values
    rw [list.get_put, hnone, List.nil_append]
  · have hrest : list.put [] (list.append values (u m.empty)) = u m.empty := by
      show list.put [] (list.put (list.get (u m.empty) ++ values) (u m.empty)) = u m.empty
      rw [list.put_put, ← hnone, list.put_get]
    rw [hrest]
    exact hothers.decode

end NumberList

/-! ## Both together -/

/-- **Decoding does not depend on how a record is cut into fields.**  A record that stands in a
field at most once may come in two pieces, and a list of numbers in any pieces, whatever other
fields stand in between. -/
theorem decode_eq_however_cut :
    (∀ (R M : Type) (m : Message R) (number : Nat) (sub : Message M) (place : Place R (Option M)),
      RecordField m number sub place → ∀ p q first second whole front between behind,
      (∃ a, sub.decode p = .ok a) → (∃ a, sub.decode q = .ok a) →
      Framed number p first → Framed number q second → Framed number (p ++ q) whole →
      (∃ r, m.decode front = .ok r) → m.Lacks number between →
      m.decode (front ++ (first ++ (between ++ second) ++ behind)) =
          m.decode (front ++ (whole ++ between ++ behind)) ∧
        m.decode (front ++ (first ++ (between ++ second) ++ behind)) =
          m.decode (front ++ (between ++ whole ++ behind))) ∧
    ∀ (R α : Type) (m : Message R) (number : Nat) (s : Scalar α) (writes : Bytes → α → Prop)
      (list : Place R (List α)), NumberList m number s writes list →
      ∀ data values others, m.Layout number s writes data values others →
      ∃ r, m.decode data = .ok r ∧ list.get r = values ∧
        m.decode others = .ok (list.put [] r) := by
  refine ⟨?_, ?_⟩
  · intro R M m number sub place h p q first second whole front between behind hp hq hfirst
      hsecond hwhole hfront hbetween
    exact h.decode_merged hp hq hfirst hsecond hwhole hfront hbetween behind
  · intro R α m number s writes list h data values others hlayout
    exact h.decode_layout hlayout

namespace TypeRecord

/-- The code of a tensor's elements. -/
def elementPart : Bytes := ({ tensorType := some { elementType := 1 } } : TypeRecord).encode

/-- The shape of a tensor, and a denotation. -/
def shapePart : Bytes :=
  ({ tensorType := some { shape := some { dims := [{}] } }, denotation := "d" } : TypeRecord).encode

end TypeRecord

/-- A value info with only a text. -/
def ValueInfoRecord.textPart : Bytes := ({ docString := "s" } : ValueInfoRecord).encode

/-- Four numbers: two packed, a name behind them, one for itself, a run of none and one of one. -/
def TensorRecord.cutNumbers : Bytes :=
  Encode.delimitedField 5 [Encode.int32Bytes (-1), Encode.int32Bytes 300].flatten ++
    (Encode.stringField 8 "x" ++ (Key.encode ⟨5, .varint⟩ ++ Encode.int32Bytes 0 ++
      (Encode.delimitedField 5 [] ++
        (Encode.delimitedField 5 [Encode.int32Bytes 7].flatten ++ []))))

theorem TensorRecord.layout_cutNumbers : message.Layout 5 .int32 SpellsInt32 cutNumbers
    [-1, 300, 0, 7] (Encode.stringField 8 "x" ++ []) := by
  have hspell : ∀ a : Int32, UInt32.ofNat a.toInt64.toUInt64.toNat = a.toUInt32 →
      SpellsInt32 (Encode.int32Bytes a) a := fun a h =>
    ⟨_, Varint.isSpelling_encode a.toInt64.toUInt64.toNat_lt, h⟩
  have hpair : List.Forall₂ SpellsInt32 [Encode.int32Bytes (-1), Encode.int32Bytes 300]
      [-1, 300] := .cons (hspell _ (by decide)) (.cons (hspell _ (by decide)) .nil)
  have hlast : List.Forall₂ SpellsInt32 [Encode.int32Bytes 7] [7] :=
    .cons (hspell _ (by decide)) .nil
  have hlacks : message.Lacks 5 (Encode.stringField 8 "x") := ⟨[8], by decide +kernel, by decide⟩
  have hframed : ∀ content : Bytes, content.length < Varint.bound →
      Framed 5 content (Encode.delimitedField 5 content) := fun _ h =>
    framed_delimitedField (by decide) h
  exact .packed hpair (hframed _ (by decide +kernel)) <| .other hlacks <|
    .single (Key.isSpelling_encode (by decide)) (hspell _ (by decide)) <|
    .packed .nil (hframed [] (by decide)) <| .packed hlast (hframed _ (by decide +kernel)) .nil

theorem decode_eq_however_cut_sample :
    (∃ place, RecordField ValueInfoRecord.message 2 TypeRecord.message place) ∧
      (∃ a, TypeRecord.message.decode TypeRecord.elementPart = .ok a) ∧
      (∃ a, TypeRecord.message.decode TypeRecord.shapePart = .ok a) ∧
      (∃ r, ValueInfoRecord.message.decode ValueInfoRecord.textPart = .ok r) ∧
      ValueInfoRecord.message.Lacks 2 (Encode.stringField 1 "x") ∧
      ValueInfoRecord.message.decode (ValueInfoRecord.textPart ++
          (Encode.delimitedField 2 TypeRecord.elementPart ++
            (Encode.stringField 1 "x" ++ Encode.delimitedField 2 TypeRecord.shapePart) ++ [])) =
        ValueInfoRecord.message.decode (ValueInfoRecord.textPart ++
          (Encode.delimitedField 2 (TypeRecord.elementPart ++ TypeRecord.shapePart) ++
            Encode.stringField 1 "x" ++ [])) ∧
      TensorRecord.message.Layout 5 .int32 SpellsInt32 TensorRecord.cutNumbers [-1, 300, 0, 7]
        (Encode.stringField 8 "x" ++ []) ∧
      ∃ r, TensorRecord.message.decode TensorRecord.cutNumbers = .ok r ∧
        r.int32Data = [-1, 300, 0, 7] ∧
        TensorRecord.message.decode (Encode.stringField 8 "x" ++ []) =
          .ok { r with int32Data := [] } := by
  have hframed : ∀ content : Bytes, content.length < Varint.bound →
      Framed 2 content (Encode.delimitedField 2 content) := fun _ h =>
    framed_delimitedField (by decide) h
  have helement : ∃ a, TypeRecord.message.decode TypeRecord.elementPart = .ok a :=
    ⟨_, Message.decode_of_updates (TypeRecord.updates_encode 97 _) (by decide +kernel)⟩
  have hshape : ∃ a, TypeRecord.message.decode TypeRecord.shapePart = .ok a :=
    ⟨_, Message.decode_of_updates (TypeRecord.updates_encode 97 _) (by decide +kernel)⟩
  have hfront : ∃ r, ValueInfoRecord.message.decode ValueInfoRecord.textPart = .ok r :=
    ⟨_, Message.decode_of_updates (ValueInfoRecord.updates_encode 96 _) (by decide +kernel)⟩
  have hlacks : ValueInfoRecord.message.Lacks 2 (Encode.stringField 1 "x") :=
    ⟨[1], by decide +kernel, by decide⟩
  have hcut := TensorRecord.layout_cutNumbers
  exact ⟨⟨_, .type⟩, helement, hshape, hfront, hlacks,
    (decode_eq_however_cut.1 _ _ _ _ _ _ .type _ _ _ _ _ _ _ [] helement hshape
      (hframed _ (by decide +kernel)) (hframed _ (by decide +kernel))
      (hframed _ (by decide +kernel)) hfront hlacks).1, hcut,
    decode_eq_however_cut.2 _ _ _ _ _ _ _ .int32Data _ _ _ hcut⟩

end TensorGraph
