import TensorGraph.Proofs.Wire.Updates
import TensorGraph.Record.Schema

/-!
# Reading back what was written

A record is written by `encode` and read by the table of its fields.  For each type of record,
`updates_encode` says that the bytes of a record turn the empty record into it; the proofs go
through the fields in the order in which they are written, and those of records inside other
records use the statement about the inner ones.  `ModelRecord.decode_encode_eq_ok` is what this
comes to for the outermost record.

Each record type is nested to a fixed depth.  The budget of a table is the depth that is left for
what stands inside its records, so a record with others inside it needs one more than these do.
-/

set_option autoImplicit false

namespace TensorGraph

open Wire Wire.Encode Wire.Message

/-! ## Keys, operator sets and types

One step a field, in the order of the numbers.  In each of them the first `rfl` finds the field in
the table, the next says that leaving the value out is right for the record so far, and the last
that putting it in gives the next record; `decide` finds that the number is one of a field. -/

theorem EntryRecord.updates_encode (budget : Nat) (r : EntryRecord) :
    message.Updates budget r.encode {} r := by
  rw [encode]
  refine .append (.string rfl rfl rfl (by decide)) ?_
  exact .string rfl rfl rfl (by decide)

theorem OperatorSetRecord.updates_encode (budget : Nat) (r : OperatorSetRecord) :
    message.Updates budget r.encode {} r := by
  rw [encode]
  refine .append (.string rfl rfl rfl (by decide)) ?_
  exact .int64 rfl rfl rfl (by decide)

theorem DimensionRecord.updates_encode (budget : Nat) (r : DimensionRecord) :
    message.Updates budget r.encode {} r := by
  obtain ⟨value, denotation⟩ := r
  rw [encode]
  rcases value with _ | (a | name)
  · exact .append (.refl _) (.string rfl rfl rfl (by decide))
  · refine .append (.scalar rfl (takes_int64 a) rfl (by decide)) ?_
    exact .string rfl rfl rfl (by decide)
  · refine .append (.scalar rfl (takes_string name) rfl (by decide)) ?_
    exact .string rfl rfl rfl (by decide)

theorem ShapeRecord.updates_encode (budget : Nat) (r : ShapeRecord) :
    message.Updates (budget + 1) r.encode {} r := by
  rw [encode]
  exact .messages (fun l r => { r with dims := l }) rfl (DimensionRecord.updates_encode budget)
    (fun _ _ => rfl) rfl rfl (by decide)

theorem TensorTypeRecord.updates_encode (budget : Nat) (r : TensorTypeRecord) :
    message.Updates (budget + 2) r.encode {} r := by
  rw [encode]
  refine .append (.int32 rfl rfl rfl (by decide)) ?_
  exact .optional (fun t r => { r with shape := t }) rfl (ShapeRecord.updates_encode budget)
    (fun _ => rfl) rfl rfl (by decide)

theorem TypeRecord.updates_encode (budget : Nat) (r : TypeRecord) :
    message.Updates (budget + 3) r.encode {} r := by
  rw [encode]
  refine .append (.optional (fun t r => { r with tensorType := t }) rfl
    (TensorTypeRecord.updates_encode budget) (fun _ => rfl) rfl rfl (by decide)) ?_
  exact .string rfl rfl rfl (by decide)

theorem ValueInfoRecord.updates_encode (budget : Nat) (r : ValueInfoRecord) :
    message.Updates (budget + 4) r.encode {} r := by
  simp only [encode, List.append_assoc]
  refine .append (.string rfl rfl rfl (by decide)) ?_
  refine .append (.optional (fun t r => { r with type := t }) rfl
    (TypeRecord.updates_encode budget) (fun _ => rfl) rfl rfl (by decide)) ?_
  exact .string rfl rfl rfl (by decide)

/-! ## Tensors, attributes and nodes -/

theorem TensorRecord.updates_encode (budget : Nat) (r : TensorRecord) :
    message.Updates (budget + 1) r.encode {} r := by
  simp only [encode, List.append_assoc]
  refine .append (.packed rfl takes_int64 rfl rfl (by decide)) ?_
  refine .append (.int32 rfl rfl rfl (by decide)) ?_
  refine .append (.packed rfl takes_float rfl rfl (by decide)) ?_
  refine .append (.packed rfl takes_int32 rfl rfl (by decide)) ?_
  refine .append (.scalars (fun l r => { r with stringData := l }) rfl rfl takes_delimited
    (fun _ _ => rfl) rfl rfl (by decide)) ?_
  refine .append (.packed rfl takes_int64 rfl rfl (by decide)) ?_
  refine .append (.string rfl rfl rfl (by decide)) ?_
  refine .append (.bytes rfl rfl rfl (by decide)) ?_
  refine .append (.packed rfl takes_double rfl rfl (by decide)) ?_
  refine .append (.packed rfl takes_uint64 rfl rfl (by decide)) ?_
  refine .append (.string rfl rfl rfl (by decide)) ?_
  refine .append (.messages (fun l r => { r with externalData := l }) rfl
    (EntryRecord.updates_encode budget) (fun _ _ => rfl) rfl rfl (by decide)) ?_
  -- Where the content stands is written whenever it is said, whatever the code for it.
  obtain ⟨_, _, _, _, _, _, _, _, _, _, _, _, location⟩ := r
  cases location with
  | none => exact .refl _
  | some location => exact .scalar rfl (takes_int32 location) rfl (by decide)

theorem AttributeRecord.updates_encode (budget : Nat) (r : AttributeRecord) :
    message.Updates (budget + 2) r.encode {} r := by
  simp only [encode, List.append_assoc]
  refine .append (.string rfl rfl rfl (by decide)) ?_
  refine .append (.float rfl rfl rfl (by decide)) ?_
  refine .append (.int64 rfl rfl rfl (by decide)) ?_
  refine .append (.bytes rfl rfl rfl (by decide)) ?_
  refine .append (.optional (fun t r => { r with tensor := t }) rfl
    (TensorRecord.updates_encode budget) (fun _ => rfl) rfl rfl (by decide)) ?_
  refine .append (.packed rfl takes_float rfl rfl (by decide)) ?_
  refine .append (.packed rfl takes_int64 rfl rfl (by decide)) ?_
  refine .append (.scalars (fun l r => { r with strings := l }) rfl rfl takes_delimited
    (fun _ _ => rfl) rfl rfl (by decide)) ?_
  refine .append (.messages (fun l r => { r with tensors := l }) rfl
    (TensorRecord.updates_encode budget) (fun _ _ => rfl) rfl rfl (by decide)) ?_
  refine .append (.string rfl rfl rfl (by decide)) ?_
  exact .int32 rfl rfl rfl (by decide)

theorem NodeRecord.updates_encode (budget : Nat) (r : NodeRecord) :
    message.Updates (budget + 3) r.encode {} r := by
  simp only [encode, List.append_assoc]
  refine .append (.scalars (fun l r => { r with inputs := l }) rfl rfl takes_string
    (fun _ _ => rfl) rfl rfl (by decide)) ?_
  refine .append (.scalars (fun l r => { r with outputs := l }) rfl rfl takes_string
    (fun _ _ => rfl) rfl rfl (by decide)) ?_
  refine .append (.string rfl rfl rfl (by decide)) ?_
  refine .append (.string rfl rfl rfl (by decide)) ?_
  refine .append (.messages (fun l r => { r with attributes := l }) rfl
    (AttributeRecord.updates_encode budget) (fun _ _ => rfl) rfl rfl (by decide)) ?_
  refine .append (.string rfl rfl rfl (by decide)) ?_
  exact .string rfl rfl rfl (by decide)

/-! ## Graphs and models -/

theorem GraphRecord.updates_encode (budget : Nat) (r : GraphRecord) :
    message.Updates (budget + 5) r.encode {} r := by
  simp only [encode, List.append_assoc]
  refine .append (.messages (fun l r => { r with nodes := l }) rfl
    (NodeRecord.updates_encode (budget + 1)) (fun _ _ => rfl) rfl rfl (by decide)) ?_
  refine .append (.string rfl rfl rfl (by decide)) ?_
  refine .append (.messages (fun l r => { r with initializers := l }) rfl
    (TensorRecord.updates_encode (budget + 3)) (fun _ _ => rfl) rfl rfl (by decide)) ?_
  refine .append (.string rfl rfl rfl (by decide)) ?_
  refine .append (.messages (fun l r => { r with inputs := l }) rfl
    (ValueInfoRecord.updates_encode budget) (fun _ _ => rfl) rfl rfl (by decide)) ?_
  refine .append (.messages (fun l r => { r with outputs := l }) rfl
    (ValueInfoRecord.updates_encode budget) (fun _ _ => rfl) rfl rfl (by decide)) ?_
  exact .messages (fun l r => { r with valueInfos := l }) rfl
    (ValueInfoRecord.updates_encode budget) (fun _ _ => rfl) rfl rfl (by decide)

theorem ModelRecord.updates_encode (budget : Nat) (r : ModelRecord) :
    message.Updates (budget + 6) r.encode {} r := by
  simp only [encode, List.append_assoc]
  refine .append (.int64 rfl rfl rfl (by decide)) ?_
  refine .append (.string rfl rfl rfl (by decide)) ?_
  refine .append (.string rfl rfl rfl (by decide)) ?_
  refine .append (.string rfl rfl rfl (by decide)) ?_
  refine .append (.int64 rfl rfl rfl (by decide)) ?_
  refine .append (.string rfl rfl rfl (by decide)) ?_
  refine .append (.optional (fun t r => { r with graph := t }) rfl
    (GraphRecord.updates_encode budget) (fun _ => rfl) rfl rfl (by decide)) ?_
  refine .append (.messages (fun l r => { r with opsetImports := l }) rfl
    (OperatorSetRecord.updates_encode (budget + 5)) (fun _ _ => rfl) rfl rfl (by decide)) ?_
  exact .messages (fun l r => { r with metadata := l }) rfl
    (EntryRecord.updates_encode (budget + 5)) (fun _ _ => rfl) rfl rfl (by decide)

/-- **What was written is read back**, every field of every record bit for bit.  The bytes of a
model have to be fewer than `2 ^ 64`, as those of any byte string in memory are. -/
theorem ModelRecord.decode_encode_eq_ok (r : ModelRecord) (h : r.encode.length < Varint.bound) :
    decode r.encode = .ok r :=
  decode_of_updates (updates_encode 94 r) h

/-- A model with negative numbers, a code that stands for nothing, a size of zero that is said, a
NaN with a payload, and a text that is not ASCII. -/
def ModelRecord.sample : ModelRecord where
  irVersion := -1
  producerName := "é"
  graph := some {
    nodes := [{
      inputs := ["x", "", "x"]
      opType := "Scale"
      attributes := [{
        name := "factor"
        float := ⟨0x7fc00001⟩
        tensor := some { dims := [-2, 300], int32Data := [-1, 0], dataLocation := some 0 }
        kind := -7 }] }]
    inputs := [{
      name := "x"
      type := some {
        tensorType := some {
          elementType := 99
          shape := some {
            dims := [{ value := some (.size 0) }, { value := some (.symbol "") }, {}] } } } }] }
  metadata := [{ key := "k" }, {}]

theorem ModelRecord.decode_encode_eq_ok_sample :
    sample.encode.length < Varint.bound ∧ decode sample.encode = .ok sample := by
  have hlen : sample.encode.length < Varint.bound := by decide +kernel
  exact ⟨hlen, decode_encode_eq_ok sample hlen⟩

end TensorGraph
