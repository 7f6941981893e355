import TensorGraph.Record.Basic
import TensorGraph.Wire.Message

/-!
# The schema of the records

For each type of record, the table of its fields: the number in the key, the label in an error's
path, the layout, and what a value does to the record.  Each table is a `Message`, and
`ModelRecord.decode` is what the table of the outermost record makes of a byte string.

A repeated field appends to its list.  A field that is one of several alternatives, as the size of
a dimension is, sets the alternative and drops the other; a record that stands in a field at most
once updates the one that is there already.
-/

set_option autoImplicit false

namespace TensorGraph

open Wire

/-- The table of `EntryRecord`. -/
def EntryRecord.message : Message EntryRecord where
  name := "StringStringEntryProto"
  empty := {}
  fields :=
    [ .scalar 1 "key" .string fun a r => { r with key := a },
      .scalar 2 "value" .string fun a r => { r with value := a } ]

/-- The table of `OperatorSetRecord`. -/
def OperatorSetRecord.message : Message OperatorSetRecord where
  name := "OperatorSetIdProto"
  empty := {}
  fields :=
    [ .scalar 1 "domain" .string fun a r => { r with domain := a },
      .scalar 2 "version" .int64 fun a r => { r with version := a } ]

/-- The table of `DimensionRecord`. -/
def DimensionRecord.message : Message DimensionRecord where
  name := "Dimension"
  empty := {}
  fields :=
    [ .scalar 1 "value" .int64 fun a r => { r with value := some (.size a) },
      .scalar 2 "value" .string fun a r => { r with value := some (.symbol a) },
      .scalar 3 "denotation" .string fun a r => { r with denotation := a } ]

/-- The table of `ShapeRecord`. -/
def ShapeRecord.message : Message ShapeRecord where
  name := "TensorShapeProto"
  empty := {}
  fields :=
    [ .message 1 "dim" DimensionRecord.message fun u r => { r with dims := r.dims ++ [u {}] } ]

/-- The table of `TensorTypeRecord`. -/
def TensorTypeRecord.message : Message TensorTypeRecord where
  name := "Tensor"
  empty := {}
  fields :=
    [ .scalar 1 "elem_type" .int32 fun a r => { r with elementType := a },
      .message 2 "shape" ShapeRecord.message
        fun u r => { r with shape := some (u (r.shape.getD {})) } ]

/-- The table of `TypeRecord`. -/
def TypeRecord.message : Message TypeRecord where
  name := "TypeProto"
  empty := {}
  fields :=
    [ .message 1 "value" TensorTypeRecord.message
        fun u r => { r with tensorType := some (u (r.tensorType.getD {})) },
      .scalar 6 "denotation" .string fun a r => { r with denotation := a } ]

/-- The table of `ValueInfoRecord`. -/
def ValueInfoRecord.message : Message ValueInfoRecord where
  name := "ValueInfoProto"
  empty := {}
  fields :=
    [ .scalar 1 "name" .string fun a r => { r with name := a },
      .message 2 "r#type" TypeRecord.message
        fun u r => { r with type := some (u (r.type.getD {})) },
      .scalar 3 "doc_string" .string fun a r => { r with docString := a } ]

/-- The table of `TensorRecord`. -/
def TensorRecord.message : Message TensorRecord where
  name := "TensorProto"
  empty := {}
  fields :=
    [ .packable 1 "dims" .int64 fun as r => { r with dims := r.dims ++ as },
      .scalar 2 "data_type" .int32 fun a r => { r with elementType := a },
      .packable 4 "float_data" .float fun as r => { r with floatData := r.floatData ++ as },
      .packable 5 "int32_data" .int32 fun as r => { r with int32Data := r.int32Data ++ as },
      .scalar 6 "string_data" .bytes fun a r => { r with stringData := r.stringData ++ [a] },
      .packable 7 "int64_data" .int64 fun as r => { r with int64Data := r.int64Data ++ as },
      .scalar 8 "name" .string fun a r => { r with name := a },
      .scalar 9 "raw_data" .bytes fun a r => { r with rawData := a },
      .packable 10 "double_data" .double fun as r => { r with doubleData := r.doubleData ++ as },
      .packable 11 "uint64_data" .uint64 fun as r => { r with uint64Data := r.uint64Data ++ as },
      .scalar 12 "doc_string" .string fun a r => { r with docString := a },
      .message 13 "external_data" EntryRecord.message
        fun u r => { r with externalData := r.externalData ++ [u {}] },
      .scalar 14 "data_location" .int32 fun a r => { r with dataLocation := some a } ]

/-- The table of `AttributeRecord`. -/
def AttributeRecord.message : Message AttributeRecord where
  name := "AttributeProto"
  empty := {}
  fields :=
    [ .scalar 1 "name" .string fun a r => { r with name := a },
      .scalar 2 "f" .float fun a r => { r with float := a },
      .scalar 3 "i" .int64 fun a r => { r with int := a },
      .scalar 4 "s" .bytes fun a r => { r with string := a },
      .message 5 "t" TensorRecord.message
        fun u r => { r with tensor := some (u (r.tensor.getD {})) },
      .packable 7 "floats" .float fun as r => { r with floats := r.floats ++ as },
      .packable 8 "ints" .int64 fun as r => { r with ints := r.ints ++ as },
      .scalar 9 "strings" .bytes fun a r => { r with strings := r.strings ++ [a] },
      .message 10 "tensors" TensorRecord.message
        fun u r => { r with tensors := r.tensors ++ [u {}] },
      .scalar 13 "doc_string" .string fun a r => { r with docString := a },
      .scalar 20 "r#type" .int32 fun a r => { r with kind := a } ]

/-- The table of `NodeRecord`. -/
def NodeRecord.message : Message NodeRecord where
  name := "NodeProto"
  empty := {}
  fields :=
    [ .scalar 1 "input" .string fun a r => { r with inputs := r.inputs ++ [a] },
      .scalar 2 "output" .string fun a r => { r with outputs := r.outputs ++ [a] },
      .scalar 3 "name" .string fun a r => { r with name := a },
      .scalar 4 "op_type" .string fun a r => { r with opType := a },
      .message 5 "attribute" AttributeRecord.message
        fun u r => { r with attributes := r.attributes ++ [u {}] },
      .scalar 6 "doc_string" .string fun a r => { r with docString := a },
      .scalar 7 "domain" .string fun a r => { r with domain := a } ]

/-- The table of `GraphRecord`. -/
def GraphRecord.message : Message GraphRecord where
  name := "GraphProto"
  empty := {}
  fields :=
    [ .message 1 "node" NodeRecord.message fun u r => { r with nodes := r.nodes ++ [u {}] },
      .scalar 2 "name" .string fun a r => { r with name := a },
      .message 5 "initializer" TensorRecord.message
        fun u r => { r with initializers := r.initializers ++ [u {}] },
      .scalar 10 "doc_string" .string fun a r => { r with docString := a },
      .message 11 "input" ValueInfoRecord.message
        fun u r => { r with inputs := r.inputs ++ [u {}] },
      .message 12 "output" ValueInfoRecord.message
        fun u r => { r with outputs := r.outputs ++ [u {}] },
      .message 13 "value_info" ValueInfoRecord.message
        fun u r => { r with valueInfos := r.valueInfos ++ [u {}] } ]

/-- The table of `ModelRecord`. -/
def ModelRecord.message : Message ModelRecord where
  name := "ModelProto"
  empty := {}
  fields :=
    [ .scalar 1 "ir_version" .int64 fun a r => { r with irVersion := a },
      .scalar 2 "producer_name" .string fun a r => { r with producerName := a },
      .scalar 3 "producer_version" .string fun a r => { r with producerVersion := a },
      .scalar 4 "domain" .string fun a r => { r with domain := a },
      .scalar 5 "model_version" .int64 fun a r => { r with modelVersion := a },
      .scalar 6 "doc_string" .string fun a r => { r with docString := a },
      .message 7 "graph" GraphRecord.message
        fun u r => { r with graph := some (u (r.graph.getD {})) },
      .message 8 "opset_import" OperatorSetRecord.message
        fun u r => { r with opsetImports := r.opsetImports ++ [u {}] },
      .message 14 "metadata_props" EntryRecord.message
        fun u r => { r with metadata := r.metadata ++ [u {}] } ]

/-- The model that a byte string stands for. -/
def ModelRecord.decode (data : Bytes) : Except DecodeError ModelRecord :=
  ModelRecord.message.decode data

end TensorGraph
