import TensorGraph.Proofs.Wire.Rows
import TensorGraph.Record.Schema

/-!
# The tables of the schema

`IsTable m` says that `m` is the table of one of the types of record.  What is proved of every
`Message` whose fields are steady holds of all of them: `IsTable.steady`, which goes from the
records without others inside them to the model.
-/

set_option autoImplicit false

namespace TensorGraph

open Wire

/-- The table of some type of record. -/
inductive IsTable : {R : Type} → Message R → Prop
  | entry : IsTable EntryRecord.message
  | operatorSet : IsTable OperatorSetRecord.message
  | dimension : IsTable DimensionRecord.message
  | shape : IsTable ShapeRecord.message
  | tensorType : IsTable TensorTypeRecord.message
  | type : IsTable TypeRecord.message
  | valueInfo : IsTable ValueInfoRecord.message
  | tensor : IsTable TensorRecord.message
  | attribute : IsTable AttributeRecord.message
  | node : IsTable NodeRecord.message
  | graph : IsTable GraphRecord.message
  | model : IsTable ModelRecord.message

/-! ## Scalars -/

namespace Wire.Scalar

@[simp] theorem follows_int64 : int64.read.Follows int64.read := Varint.follows_reader.map _

@[simp] theorem follows_uint64 : uint64.read.Follows uint64.read := Varint.follows_reader.map _

@[simp] theorem follows_int32 : int32.read.Follows int32.read := Varint.follows_reader.map _

@[simp] theorem follows_float : float.read.Follows float.read := (Reader.follows_take _).map _

@[simp] theorem follows_double : double.read.Follows double.read := (Reader.follows_take _).map _

@[simp] theorem follows_bytes : bytes.read.Follows bytes.read :=
  Reader.follows_delimited Varint.follows_reader

@[simp] theorem follows_string : string.read.Follows string.read :=
  (Reader.follows_delimited Varint.follows_reader).mapOrFail _

end Wire.Scalar

/-! ## Records -/

@[simp] theorem EntryRecord.steady : message.Steady := by
  rw [Message.Steady, message]
  simp

@[simp] theorem OperatorSetRecord.steady : message.Steady := by
  rw [Message.Steady, message]
  simp

@[simp] theorem DimensionRecord.steady : message.Steady := by
  rw [Message.Steady, message]
  simp

@[simp] theorem ShapeRecord.steady : message.Steady := by
  rw [Message.Steady, message]
  simp

@[simp] theorem TensorTypeRecord.steady : message.Steady := by
  rw [Message.Steady, message]
  simp

@[simp] theorem TypeRecord.steady : message.Steady := by
  rw [Message.Steady, message]
  simp

@[simp] theorem ValueInfoRecord.steady : message.Steady := by
  rw [Message.Steady, message]
  simp

@[simp] theorem TensorRecord.steady : message.Steady := by
  rw [Message.Steady, message]
  simp

@[simp] theorem AttributeRecord.steady : message.Steady := by
  rw [Message.Steady, message]
  simp

@[simp] theorem NodeRecord.steady : message.Steady := by
  rw [Message.Steady, message]
  simp

@[simp] theorem GraphRecord.steady : message.Steady := by
  rw [Message.Steady, message]
  simp

@[simp] theorem ModelRecord.steady : message.Steady := by
  rw [Message.Steady, message]
  simp

/-- **Every table of the schema is steady.** -/
theorem IsTable.steady {R : Type} {m : Message R} (h : IsTable m) : m.Steady := by
  cases h <;> simp

end TensorGraph
