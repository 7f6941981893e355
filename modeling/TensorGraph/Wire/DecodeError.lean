/-!
# Errors of the wire format

A byte string that is not a record fails with a cause, `DecodeFault`, and with the path of fields
that were being read when it did, the innermost first.  A field stands in the path only once its
number has been recognised; a fault in a key, or in a field that is skipped, belongs to the fields
around it.
-/

set_option autoImplicit false

namespace TensorGraph.Wire

/-- How the value of a field is laid out. -/
inductive WireType where
  | varint
  | fixed64
  | lengthDelimited
  | startGroup
  | endGroup
  | fixed32
  deriving DecidableEq, Repr

/-- The name by which messages speak of a layout. -/
def WireType.name : WireType → String
  | varint => "Varint"
  | fixed64 => "SixtyFourBit"
  | lengthDelimited => "LengthDelimited"
  | startGroup => "StartGroup"
  | endGroup => "EndGroup"
  | fixed32 => "ThirtyTwoBit"

/-- Why a byte string is not a record. -/
inductive DecodeFault where
  /-- A varint is cut short, or does not fit 64 bits. -/
  | varint
  /-- A key does not fit 32 bits. -/
  | key (value : Nat)
  /-- A key with a layout that does not exist. -/
  | unknownWireType (value : Nat)
  /-- A key with the field number zero. -/
  | zeroNumber
  /-- A field is laid out in another way than its type is. -/
  | wireType (actual expected : WireType)
  /-- The data ends inside a value. -/
  | underflow
  /-- The content of a field ends behind the end that its length announced. -/
  | pastLength
  /-- Records or groups are nested too deeply. -/
  | tooDeep
  /-- A group is closed that is not open. -/
  | endGroup
  /-- A text is not well-formed UTF-8. -/
  | utf8
  deriving DecidableEq, Repr

/-- The text of a fault. -/
def DecodeFault.message : DecodeFault → String
  | varint => "invalid varint"
  | key value => "invalid key value: " ++ toString value
  | unknownWireType value => "invalid wire type value: " ++ toString value
  | zeroNumber => "invalid tag value: 0"
  | wireType actual expected =>
    "invalid wire type: " ++ actual.name ++ " (expected " ++ expected.name ++ ")"
  | underflow => "buffer underflow"
  | pastLength => "delimited length exceeded"
  | tooDeep => "recursion limit reached"
  | endGroup => "unexpected end group tag"
  | utf8 => "invalid string value: data is not UTF-8 encoded"

/-- A field of a record. -/
structure Location where
  record : String
  field : String
  deriving DecidableEq, Repr

/-- The record, a dot and the field. -/
def Location.text (location : Location) : String := location.record ++ "." ++ location.field

/-- A fault and the fields that were being read, the innermost first. -/
structure DecodeError where
  path : List Location
  fault : DecodeFault
  deriving DecidableEq, Repr

/-- The text of an error: the path, then the fault. -/
def DecodeError.message (e : DecodeError) : String :=
  "failed to decode Protobuf message: "
    ++ String.join (e.path.map fun location => location.text ++ ": ") ++ e.fault.message

/-- The error as seen from a field around it. -/
def DecodeError.within (location : Location) (e : DecodeError) : DecodeError :=
  ⟨e.path ++ [location], e.fault⟩

end TensorGraph.Wire
