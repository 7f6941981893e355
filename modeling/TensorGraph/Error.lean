import TensorGraph.Attribute.Kind
import TensorGraph.Shape
import TensorGraph.Tensor.Options
import TensorGraph.Wire.DecodeError

/-!
# Errors

Everything that can be wrong with a model, from the bytes of its file to the structure of its
graph.  An error is its cause together with what the message names; the wording is in `message`
and nowhere else.  `Error.kind` forgets the details and keeps the sort of error, which is what two
different failures can be compared by.
-/

set_option autoImplicit false

namespace TensorGraph

/-! ## Graphs -/

/-- The sorts of faults in a graph's structure. -/
inductive GraphFaultKind where
  | missingGraph
  | missingInputs
  | missingOutputs
  | danglingOutput
  | selfLoop
  | cycle
  deriving DecidableEq, Repr

/-- The text of a sort of fault. -/
def GraphFaultKind.text : GraphFaultKind → String
  | missingGraph => "missing graph"
  | missingInputs => "missing inputs"
  | missingOutputs => "missing outputs"
  | danglingOutput => "dangling output"
  | selfLoop => "self loop"
  | cycle => "cycle"

/-- A fault in a graph's structure; nodes are named by their labels. -/
inductive GraphFault where
  /-- A model without a graph. -/
  | missingGraph
  /-- A graph that declares no inputs. -/
  | missingInputs (graph : String)
  /-- A graph that declares no outputs. -/
  | missingOutputs (graph : String)
  /-- A declared output that nothing provides. -/
  | danglingOutput (output : String)
  /-- A node that reads what it writes itself. -/
  | selfLoop (node output : String)
  /-- A node from which a chain of nodes leads back to it. -/
  | cycle (node : String)
  deriving DecidableEq, Repr

namespace GraphFault

/-- The sort of a fault. -/
def kind : GraphFault → GraphFaultKind
  | missingGraph => .missingGraph
  | missingInputs _ => .missingInputs
  | missingOutputs _ => .missingOutputs
  | danglingOutput _ => .danglingOutput
  | selfLoop _ _ => .selfLoop
  | cycle _ => .cycle

/-- What is wrong, with its names. -/
def detail : GraphFault → String
  | missingGraph => "model record has no graph"
  | missingInputs graph => "graph '" ++ graph ++ "' declares no inputs"
  | missingOutputs graph => "graph '" ++ graph ++ "' declares no outputs"
  | danglingOutput output =>
    "output '" ++ output ++ "' is not produced by any node, input or constant"
  | selfLoop node output => "node '" ++ node ++ "' consumes its own output '" ++ output ++ "'"
  | cycle node => "node '" ++ node ++ "' is part of a cycle"

end GraphFault

/-! ## Arguments and operations -/

/-- A value that does not fit the place it is given for. -/
inductive IllegalArgument where
  /-- A dimension of a tensor is negative. -/
  | negativeDimension (size : Int64) (dims : List Int64)
  /-- A dimension of an input or output is negative. -/
  | negativeSize (size : Int64) (value : String)
  /-- A tensor of more bytes than can be counted. -/
  | tooLarge (info : ValueInfo)
  /-- A tensor of no bytes. -/
  | noBytes (info : ValueInfo)
  /-- A buffer of more bytes than can be had in one piece. -/
  | overCapacity (bytes : Nat) (allocation : Allocation)
  /-- Content of another length than the tensor's. -/
  | byteCount (info : ValueInfo) (needed given : Nat)
  /-- Numbers of another width than the tensor's elements. -/
  | elementWidth (number : String) (elementType : ElementType)
  /-- A position behind the end of a view. -/
  | pastEnd (position length : Nat)
  /-- A fault in the content of a named tensor. -/
  | inTensor (name : String) (cause : IllegalArgument)
  /-- A target type by a name that no type has. -/
  | targetName (name : String)
  /-- A target type by a code that is no code at all. -/
  | targetCode (code : Int64)
  deriving DecidableEq, Repr

/-- Why a buffer of a place cannot be had. -/
def Allocation.refusal : Allocation → String
  | heap => "memory allocation failed because the computed capacity exceeded "
      ++ "the collection's maximum"
  | direct => "invalid parameters to Layout::from_size_align"

/-- What is wrong with an argument. -/
def IllegalArgument.detail : IllegalArgument → String
  | negativeDimension size dims =>
    "negative dimension " ++ toString size.toInt ++ " in shape "
      ++ Text.bracketed (dims.map fun d => toString d.toInt)
  | negativeSize size value =>
    "negative dimension " ++ toString size.toInt ++ " for value '" ++ value ++ "'"
  | tooLarge info => info.text ++ " is too large"
  | noBytes info => info.text ++ " has a non-positive buffer size"
  | overCapacity bytes allocation =>
    "invalid buffer size " ++ toString bytes ++ ": " ++ allocation.refusal
  | byteCount info needed given =>
    info.text ++ " needs " ++ toString needed ++ " bytes, got " ++ toString given
  | elementWidth number elementType =>
    number ++ " is not a " ++ elementType.name ++ " element"
  | pastEnd position length =>
    "position " ++ toString position ++ " is past the end of a " ++ toString length
      ++ "-byte view"
  | inTensor name cause => "tensor '" ++ name ++ "': " ++ cause.detail
  | targetName name => "Cast: unknown target type '" ++ name ++ "'"
  | targetCode code => "Cast: target type code " ++ toString code.toInt ++ " out of range"

/-- Something that the format allows and that is not supported. -/
inductive UnsupportedOperation where
  /-- A code of an element type that is reserved, unknown or not modelled. -/
  | elementCode (code : Int32)
  /-- A tensor whose elements have no fixed width. -/
  | allocation (elementType : ElementType)
  /-- A tensor whose content stands outside the record. -/
  | externalData (tensor : String)
  /-- A tensor record whose elements have no fixed width. -/
  | byteConversion (tensor : String) (elementType : ElementType)
  deriving DecidableEq, Repr

/-- What is not supported. -/
def UnsupportedOperation.detail : UnsupportedOperation → String
  | elementCode code =>
    if code = 0 then "element type Undefined is not supported"
    else if code = 16 then "element type Bfloat16 is not supported"
    else "unknown element type " ++ toString code.toInt
  | allocation elementType => elementType.name ++ " tensors cannot be allocated"
  | externalData tensor => "tensor '" ++ tensor ++ "' uses external data"
  | byteConversion tensor elementType =>
    "tensor '" ++ tensor ++ "' has element type " ++ elementType.name
      ++ ", which has no byte conversion"

/-! ## Files -/

/-- Why no model record could be had from a file. -/
inductive LoadError where
  | missingFile
  | malformed (cause : Wire.DecodeError)
  deriving DecidableEq, Repr

/-- The text of a failure to load. -/
def LoadError.message : LoadError → String
  | missingFile => "Failed to read ONNX file: No such file or directory (os error 2)"
  | malformed cause => "Failed to parse ONNX protobuf: " ++ cause.message

/-! ## All of them -/

/-- The oldest version of the format that is read. -/
def oldestIrVersion : Int64 := 3

/-- The newest version of the format that is read. -/
def newestIrVersion : Int64 := 10

/-- Why a model, or a part of one, cannot be had. -/
inductive Error where
  | unsupportedIrVersion (version : Int64)
  | graph (fault : GraphFault)
  | missingAttribute (opType name : String)
  | attributeKind (name : String) (expected actual : AttributeKind)
  | invalidUtf8 (name : String)
  | illegalArgument (cause : IllegalArgument)
  | unsupportedOperation (cause : UnsupportedOperation)
  | tensorReleased (info : ValueInfo)
  | load (cause : LoadError)
  deriving DecidableEq, Repr

namespace Error

/-- The text of an error. -/
def message : Error → String
  | unsupportedIrVersion version =>
    "Unsupported IR version " ++ toString version.toInt ++ " (supported: "
      ++ toString oldestIrVersion.toInt ++ "..=" ++ toString newestIrVersion.toInt ++ ")"
  | graph fault => "Invalid graph structure (" ++ fault.kind.text ++ "): " ++ fault.detail
  | missingAttribute opType name =>
    "Illegal argument: " ++ opType ++ " requires attribute '" ++ name ++ "'"
  | attributeKind name expected actual =>
    "Attribute '" ++ name ++ "' is " ++ actual.name ++ ", requested as " ++ expected.name
  | invalidUtf8 name => "Invalid UTF-8 in attribute '" ++ name ++ "'"
  | illegalArgument cause => "Illegal argument: " ++ cause.detail
  | unsupportedOperation cause => "Unsupported operation: " ++ cause.detail
  | tensorReleased info => "Tensor " ++ info.text ++ " has been released"
  | load cause => cause.message

/-- A fault in the content of a tensor, with the tensor's name put in front. -/
def inTensor (name : String) : Error → Error
  | illegalArgument cause => illegalArgument (.inTensor name cause)
  | e => e

end Error

/-! ## Sorts of errors -/

/-- The sort of an error. -/
inductive ErrorKind where
  | unsupportedIrVersion
  | graph (kind : GraphFaultKind)
  | missingAttribute
  | attributeKind
  | invalidUtf8
  | illegalArgument
  | unsupportedOperation
  | tensorReleased
  | missingFile
  | malformed
  deriving DecidableEq, Repr

/-- The sort of an error. -/
def Error.kind : Error → ErrorKind
  | unsupportedIrVersion _ => .unsupportedIrVersion
  | graph fault => .graph fault.kind
  | missingAttribute _ _ => .missingAttribute
  | attributeKind _ _ _ => .attributeKind
  | invalidUtf8 _ => .invalidUtf8
  | illegalArgument _ => .illegalArgument
  | unsupportedOperation _ => .unsupportedOperation
  | tensorReleased _ => .tensorReleased
  | load .missingFile => .missingFile
  | load (.malformed _) => .malformed

@[simp] theorem Error.kind_inTensor (name : String) (e : Error) :
    (e.inTensor name).kind = e.kind := by
  cases e <;> rfl

end TensorGraph
