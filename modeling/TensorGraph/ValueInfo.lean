import TensorGraph.Error
import TensorGraph.Record.Basic

/-!
# Reading types and shapes from records

Records write element types as codes and sizes as signed integers.  A code has to be one of a type
that is modelled, and a size has to be at least zero; a size that is only a symbol, or is missing,
counts as zero.  A value without a tensor type counts as a single floating-point number.
-/

set_option autoImplicit false

namespace TensorGraph

/-- The element type with a code. -/
def ElementType.ofCode (code : Int32) : Except Error ElementType :=
  match ElementType.ofCode? code with
  | some elementType => .ok elementType
  | none => .error (.unsupportedOperation (.elementCode code))

/-- The shape with the given sizes, or the first size that is negative. -/
def Shape.ofDims (dims : List Int64) : Except Error Shape :=
  match dims.find? fun d => d.toInt < 0 with
  | some d => .error (.illegalArgument (.negativeDimension d dims))
  | none => .ok ⟨dims.map fun d => d.toInt.toNat⟩

namespace DimensionRecord

/-- The size of a dimension, if it is given as a number. -/
def size? (r : DimensionRecord) : Option Int64 :=
  match r.value with
  | some (.size a) => some a
  | _ => none

/-- Whether the size is a negative number. -/
def isNegative (r : DimensionRecord) : Bool :=
  match r.size? with
  | some a => a.toInt < 0
  | none => false

/-- The size of a dimension, zero if no number is given. -/
def size (r : DimensionRecord) : Int64 := r.size?.getD 0

end DimensionRecord

/-- The shape that a type record describes, for a value of the given name. -/
def Shape.ofRecord (value : String) (dims : List DimensionRecord) : Except Error Shape :=
  match dims.find? DimensionRecord.isNegative with
  | some d => .error (.illegalArgument (.negativeSize d.size value))
  | none => .ok ⟨dims.map fun d => d.size.toInt.toNat⟩

/-- The tensor type of a value, if it has one. -/
def ValueInfoRecord.tensorType? (r : ValueInfoRecord) : Option TensorTypeRecord :=
  r.type.bind TypeRecord.tensorType

/-- The value info that a record describes. -/
def ValueInfo.ofRecord (r : ValueInfoRecord) : Except Error ValueInfo :=
  match r.tensorType? with
  | none => .ok ⟨.float, .scalar⟩
  | some type => do
    let elementType ← ElementType.ofCode type.elementType
    let shape ← Shape.ofRecord r.name (type.shape.getD {}).dims
    return ⟨elementType, shape⟩

end TensorGraph
