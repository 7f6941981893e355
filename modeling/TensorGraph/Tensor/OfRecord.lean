import TensorGraph.Tensor.Basic
import TensorGraph.ValueInfo

/-!
# Reading tensors from records

The content of a tensor record stands in its raw data, which is little-endian and taken as it is,
or else in the typed list that belongs to the element type.  A typed list may be wider than the
elements, so each of its entries is narrowed to the elements' width: only the low bytes of its bit
pattern are kept, in the byte order that was asked for.

A record without dimensions holds a list of all its elements.
-/

set_option autoImplicit false

namespace TensorGraph

namespace TensorRecord

/-- Whether the content stands outside the record. -/
def isExternal (r : TensorRecord) : Bool := r.dataLocation == some 1

/-- The bit patterns of the entries of the typed list that belongs to an element type. -/
def patterns (r : TensorRecord) : ElementType → List Nat
  | .float => r.floatData.map FixedWidth.pattern
  | .double => r.doubleData.map FixedWidth.pattern
  | .int64 => r.int64Data.map FixedWidth.pattern
  | .int32 | .int16 | .int8 | .uint16 | .float16 | .uint8 | .bool =>
    r.int32Data.map FixedWidth.pattern
  | .uint32 | .uint64 => r.uint64Data.map FixedWidth.pattern
  | .string | .complex64 | .complex128 => []

/-- The content as bytes, with their order. -/
def content (r : TensorRecord) (elementType : ElementType) (unit : Nat) (order : ByteOrder) :
    Bytes × ByteOrder :=
  if r.rawData = [] then ((r.patterns elementType).flatMap (order.encode unit), order)
  else (r.rawData, .little)

/-- The shape for content of a number of bytes. -/
def shape (r : TensorRecord) (unit byteCount : Nat) : Except Error Shape :=
  if r.dims = [] then .ok ⟨[byteCount / unit]⟩ else Shape.ofDims r.dims

end TensorRecord

/-- The tensor that a record describes. -/
def Tensor.ofRecord (r : TensorRecord) (options : TensorOptions) : Except Error Tensor :=
  if r.isExternal then .error (.unsupportedOperation (.externalData r.name))
  else do
    let elementType ← ElementType.ofCode r.elementType
    match elementType.unitSize? with
    | none => throw (.unsupportedOperation (.byteConversion r.name elementType))
    | some unit =>
      let (bytes, order) := r.content elementType unit options.byteOrder
      let shape ← r.shape unit bytes.length
      (Tensor.ofBytes ⟨elementType, shape⟩ bytes order options).mapError (·.inTensor r.name)

end TensorGraph
