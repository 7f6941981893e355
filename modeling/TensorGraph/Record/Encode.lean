import TensorGraph.Record.Basic
import TensorGraph.Text
import TensorGraph.Wire.Key

/-!
# Writing records

How a record is written: the fields in the order of their numbers, a scalar left out if it is what
an empty record holds, numbers in a list packed behind one key, an alternative or an optional
value written whenever it is there.  The field numbers are the format's and stand here once more,
apart from the tables by which records are read, so that reading what was written says something
about both.
-/

set_option autoImplicit false

namespace TensorGraph

namespace Wire.Encode

/-! ## Values -/

/-- A length and the bytes. -/
def delimited (data : Bytes) : Bytes := Varint.encode data.length ++ data

/-- A signed integer in two's complement of 64 bits. -/
def int64Bytes (a : Int64) : Bytes := Varint.encode a.toUInt64.toNat

/-- A signed integer of 32 bits, widened to 64. -/
def int32Bytes (a : Int32) : Bytes := int64Bytes a.toInt64

/-- An unsigned integer. -/
def uint64Bytes (a : UInt64) : Bytes := Varint.encode a.toNat

/-- A floating-point number of 32 bits. -/
def binary32Bytes (a : Binary32) : Bytes := lowBytes 4 a.bits.toNat

/-- A floating-point number of 64 bits. -/
def binary64Bytes (a : Binary64) : Bytes := lowBytes 8 a.bits.toNat

/-! ## Fields -/

/-- A key and a value that is a varint. -/
def varintField (number : Nat) (value : Bytes) : Bytes := Key.encode ⟨number, .varint⟩ ++ value

/-- A key and a value behind its length. -/
def delimitedField (number : Nat) (data : Bytes) : Bytes :=
  Key.encode ⟨number, .lengthDelimited⟩ ++ delimited data

/-- A signed integer, left out if it is zero. -/
def int64Field (number : Nat) (a : Int64) : Bytes :=
  if a = 0 then [] else varintField number (int64Bytes a)

/-- A signed integer of 32 bits, left out if it is zero. -/
def int32Field (number : Nat) (a : Int32) : Bytes :=
  if a = 0 then [] else varintField number (int32Bytes a)

/-- A floating-point number, left out if its bits are all zero. -/
def floatField (number : Nat) (a : Binary32) : Bytes :=
  if a.bits = 0 then [] else Key.encode ⟨number, .fixed32⟩ ++ binary32Bytes a

/-- A byte string, left out if it is empty. -/
def bytesField (number : Nat) (data : Bytes) : Bytes :=
  if data = [] then [] else delimitedField number data

/-- A text, left out if it is empty. -/
def stringField (number : Nat) (text : String) : Bytes := bytesField number (Text.toUtf8 text)

/-- A list of numbers behind one key, left out if it is empty. -/
def packedField {α : Type} (number : Nat) (value : α → Bytes) (as : List α) : Bytes :=
  if as = [] then [] else delimitedField number (as.flatMap value)

/-- A list of byte strings, texts or records, each behind a key of its own. -/
def repeatedField {α : Type} (number : Nat) (value : α → Bytes) (as : List α) : Bytes :=
  as.flatMap fun a => delimitedField number (value a)

/-- A byte string, text or record that may be absent. -/
def optionalField {α : Type} (number : Nat) (value : α → Bytes) (a : Option α) : Bytes :=
  match a with
  | none => []
  | some a => delimitedField number (value a)

end Wire.Encode

open Wire Wire.Encode

/-! ## Records -/

/-- The bytes of a key and a value. -/
def EntryRecord.encode (r : EntryRecord) : Bytes := stringField 1 r.key ++ stringField 2 r.value

/-- The bytes of an operator set. -/
def OperatorSetRecord.encode (r : OperatorSetRecord) : Bytes :=
  stringField 1 r.domain ++ int64Field 2 r.version

/-- The bytes of a dimension's size. -/
def DimensionValue.encode : DimensionValue → Bytes
  | .size a => varintField 1 (int64Bytes a)
  | .symbol name => delimitedField 2 (Text.toUtf8 name)

/-- The bytes of a dimension. -/
def DimensionRecord.encode (r : DimensionRecord) : Bytes :=
  (match r.value with
    | none => []
    | some value => value.encode) ++ stringField 3 r.denotation

/-- The bytes of a shape. -/
def ShapeRecord.encode (r : ShapeRecord) : Bytes := repeatedField 1 DimensionRecord.encode r.dims

/-- The bytes of a tensor type. -/
def TensorTypeRecord.encode (r : TensorTypeRecord) : Bytes :=
  int32Field 1 r.elementType ++ optionalField 2 ShapeRecord.encode r.shape

/-- The bytes of a type. -/
def TypeRecord.encode (r : TypeRecord) : Bytes :=
  optionalField 1 TensorTypeRecord.encode r.tensorType ++ stringField 6 r.denotation

/-- The bytes of a value info. -/
def ValueInfoRecord.encode (r : ValueInfoRecord) : Bytes :=
  stringField 1 r.name ++ optionalField 2 TypeRecord.encode r.type ++ stringField 3 r.docString

/-- The bytes of a tensor. -/
def TensorRecord.encode (r : TensorRecord) : Bytes :=
  packedField 1 int64Bytes r.dims ++ int32Field 2 r.elementType
    ++ packedField 4 binary32Bytes r.floatData ++ packedField 5 int32Bytes r.int32Data
    ++ repeatedField 6 id r.stringData
    ++ packedField 7 int64Bytes r.int64Data ++ stringField 8 r.name ++ bytesField 9 r.rawData
    ++ packedField 10 binary64Bytes r.doubleData ++ packedField 11 uint64Bytes r.uint64Data
    ++ stringField 12 r.docString ++ repeatedField 13 EntryRecord.encode r.externalData
    ++ (match r.dataLocation with
      | none => []
      | some location => varintField 14 (int32Bytes location))

/-- The bytes of an attribute. -/
def AttributeRecord.encode (r : AttributeRecord) : Bytes :=
  stringField 1 r.name ++ floatField 2 r.float ++ int64Field 3 r.int ++ bytesField 4 r.string
    ++ optionalField 5 TensorRecord.encode r.tensor ++ packedField 7 binary32Bytes r.floats
    ++ packedField 8 int64Bytes r.ints ++ repeatedField 9 id r.strings
    ++ repeatedField 10 TensorRecord.encode r.tensors ++ stringField 13 r.docString
    ++ int32Field 20 r.kind

/-- The bytes of a node. -/
def NodeRecord.encode (r : NodeRecord) : Bytes :=
  repeatedField 1 Text.toUtf8 r.inputs ++ repeatedField 2 Text.toUtf8 r.outputs
    ++ stringField 3 r.name ++ stringField 4 r.opType
    ++ repeatedField 5 AttributeRecord.encode r.attributes ++ stringField 6 r.docString
    ++ stringField 7 r.domain

/-- The bytes of a graph. -/
def GraphRecord.encode (r : GraphRecord) : Bytes :=
  repeatedField 1 NodeRecord.encode r.nodes ++ stringField 2 r.name
    ++ repeatedField 5 TensorRecord.encode r.initializers ++ stringField 10 r.docString
    ++ repeatedField 11 ValueInfoRecord.encode r.inputs
    ++ repeatedField 12 ValueInfoRecord.encode r.outputs
    ++ repeatedField 13 ValueInfoRecord.encode r.valueInfos

/-- The bytes of a model. -/
def ModelRecord.encode (r : ModelRecord) : Bytes :=
  int64Field 1 r.irVersion ++ stringField 2 r.producerName ++ stringField 3 r.producerVersion
    ++ stringField 4 r.domain ++ int64Field 5 r.modelVersion ++ stringField 6 r.docString
    ++ optionalField 7 GraphRecord.encode r.graph
    ++ repeatedField 8 OperatorSetRecord.encode r.opsetImports
    ++ repeatedField 14 EntryRecord.encode r.metadata

end TensorGraph
