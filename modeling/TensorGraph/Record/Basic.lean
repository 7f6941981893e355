import TensorGraph.Bytes
import TensorGraph.Binary

/-!
# Records

A model file is a tree of records, one type of record for each part of a model: the model, its
graph, the graph's nodes and their attributes, tensors, and the types of the values that enter and
leave the graph.  The types here say what such a record can hold, before anything is checked: a
code may be one that does not exist, a name may be repeated, a size may be negative.

A field that is left out of a record has the value of the empty record, which `default` is: zero,
an empty text or list, or `none`.
-/

set_option autoImplicit false

namespace TensorGraph

/-- A key and a value. -/
structure EntryRecord where
  key : String := ""
  value : String := ""
  deriving DecidableEq, Repr, Inhabited

/-- An operator set, by its domain and version. -/
structure OperatorSetRecord where
  domain : String := ""
  version : Int64 := 0
  deriving DecidableEq, Repr, Inhabited

/-! ## Types of values -/

/-- The size of a dimension: a number, or a symbol for one. -/
inductive DimensionValue where
  | size (value : Int64)
  | symbol (name : String)
  deriving DecidableEq, Repr, Inhabited

/-- One dimension of a shape. -/
structure DimensionRecord where
  value : Option DimensionValue := none
  denotation : String := ""
  deriving DecidableEq, Repr, Inhabited

/-- The dimensions of a shape. -/
structure ShapeRecord where
  dims : List DimensionRecord := []
  deriving DecidableEq, Repr, Inhabited

/-- An element type, by its code, and a shape. -/
structure TensorTypeRecord where
  elementType : Int32 := 0
  shape : Option ShapeRecord := none
  deriving DecidableEq, Repr, Inhabited

/-- The type of a value; only tensor types are known. -/
structure TypeRecord where
  tensorType : Option TensorTypeRecord := none
  denotation : String := ""
  deriving DecidableEq, Repr, Inhabited

/-- A named value and its type. -/
structure ValueInfoRecord where
  name : String := ""
  type : Option TypeRecord := none
  docString : String := ""
  deriving DecidableEq, Repr, Inhabited

/-! ## Tensors -/

/-- A tensor.  Its content stands in `rawData`, or in the typed list that belongs to its element
type, or outside the record. -/
structure TensorRecord where
  dims : List Int64 := []
  elementType : Int32 := 0
  floatData : List Binary32 := []
  int32Data : List Int32 := []
  stringData : List Bytes := []
  int64Data : List Int64 := []
  name : String := ""
  rawData : Bytes := []
  doubleData : List Binary64 := []
  uint64Data : List UInt64 := []
  docString : String := ""
  externalData : List EntryRecord := []
  dataLocation : Option Int32 := none
  deriving DecidableEq, Repr, Inhabited

/-! ## Attributes and nodes -/

/-- A named attribute of a node: a code for its kind, and a field for each kind of payload. -/
structure AttributeRecord where
  name : String := ""
  float : Binary32 := ⟨0⟩
  int : Int64 := 0
  string : Bytes := []
  tensor : Option TensorRecord := none
  floats : List Binary32 := []
  ints : List Int64 := []
  strings : List Bytes := []
  tensors : List TensorRecord := []
  docString : String := ""
  kind : Int32 := 0
  deriving DecidableEq, Repr, Inhabited

/-- One use of an operator, tied to others by the names of its inputs and outputs. -/
structure NodeRecord where
  inputs : List String := []
  outputs : List String := []
  name : String := ""
  opType : String := ""
  attributes : List AttributeRecord := []
  docString : String := ""
  domain : String := ""
  deriving DecidableEq, Repr, Inhabited

/-! ## Graphs and models -/

/-- Nodes, the tensors they start from, and the values that enter and leave. -/
structure GraphRecord where
  nodes : List NodeRecord := []
  name : String := ""
  initializers : List TensorRecord := []
  docString : String := ""
  inputs : List ValueInfoRecord := []
  outputs : List ValueInfoRecord := []
  valueInfos : List ValueInfoRecord := []
  deriving DecidableEq, Repr, Inhabited

/-- A graph, the version of the format and the operator sets that it is written against. -/
structure ModelRecord where
  irVersion : Int64 := 0
  producerName : String := ""
  producerVersion : String := ""
  domain : String := ""
  modelVersion : Int64 := 0
  docString : String := ""
  graph : Option GraphRecord := none
  opsetImports : List OperatorSetRecord := []
  metadata : List EntryRecord := []
  deriving DecidableEq, Repr, Inhabited

end TensorGraph
