import TensorGraph.Wire.Skip

/-!
# Messages

A record type is described by its `Message`: the record that holds nothing, and for each field a
number, a label and a reader.  What a field reads is not a value but an *update* of the record, a
function from records to records; whether a field can be read, and how far it reaches, therefore
never depends on the record read so far.  Decoding a record is reading all of its updates
(`Message.entry`, many times) and then applying them in order to the empty record.

This is why a record may be written in pieces.  A scalar given twice is replaced, a repeated field
is appended to, and a record inside a record is updated by all the pieces that were given for it,
since each piece is read as an update as well (`Message.embedded`).
-/

set_option autoImplicit false

namespace TensorGraph.Wire

/-- A field of the records of type `R`. -/
structure Field (R : Type) where
  number : Nat
  /-- The name of the field in the path of an error. -/
  label : String
  /-- Reads a value laid out in the given way, as an update of the record around it. -/
  read : (budget : Nat) → WireType → Reader (R → R)

/-- A record type: its name in the path of an error, its empty record and its fields. -/
structure Message (R : Type) where
  name : String
  empty : R
  fields : List (Field R)

variable {R M α : Type}

/-- Applies updates in order. -/
def applyAll (updates : List (R → R)) (r : R) : R := updates.foldl (fun r update => update r) r

theorem applyAll_append (us vs : List (R → R)) (r : R) :
    applyAll (us ++ vs) r = applyAll vs (applyAll us r) := by
  simp [applyAll]

namespace Message

/-- The field with a given number. -/
def field? (m : Message R) (number : Nat) : Option (Field R) :=
  m.fields.find? fun f => f.number == number

/-- Reads one field, known or unknown, as an update. -/
def entry (m : Message R) (budget : Nat) : Reader (R → R) :=
  Key.reader.bind fun key =>
    match m.field? key.number with
    | some f => (f.read budget key.wireType).within ⟨m.name, f.label⟩
    | none => (skip budget key.wireType key.number).map fun _ => id

/-- Reads a record that stands in a field of another one, as an update of that record. -/
def embedded (m : Message R) (budget : Nat) (wireType : WireType) : Reader (R → R) :=
  if wireType = .lengthDelimited then
    match budget with
    | 0 => .fail .tooDeep
    | budget + 1 => (m.entry budget).delimitedMany.map applyAll
  else .fail (.wireType wireType .lengthDelimited)

/-- The record that a byte string stands for. -/
def decode (m : Message R) (data : Bytes) : Except DecodeError R :=
  match (m.entry depthLimit).many 0 data with
  | .error e => .error e
  | .ok (updates, _) => .ok (applyAll updates m.empty)

end Message

namespace Field

/-- A field with at most one scalar, or with several that are never packed. -/
def scalar (number : Nat) (label : String) (s : Scalar α) (put : α → R → R) : Field R where
  number := number
  label := label
  read _ wireType :=
    if wireType = s.wireType then s.read.map put else .fail (.wireType wireType s.wireType)

/-- A field with several numbers, each alone or many packed behind one key. -/
def packable (number : Nat) (label : String) (s : Scalar α) (append : List α → R → R) :
    Field R where
  number := number
  label := label
  read _ wireType :=
    if wireType = .lengthDelimited then s.read.delimitedMany.map append
    else if wireType = s.wireType then s.read.map fun a => append [a]
    else .fail (.wireType wireType s.wireType)

/-- A field with records; `modify` says what an update of such a record does to the record around
it. -/
def message (number : Nat) (label : String) (m : Message M) (modify : (M → M) → R → R) :
    Field R where
  number := number
  label := label
  read budget wireType := (m.embedded budget wireType).map modify

end Field

end TensorGraph.Wire
