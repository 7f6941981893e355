import TensorGraph.Tensor.Basic

/-!
# Describing a tensor

For logs a tensor is described by everything but its content.
-/

set_option autoImplicit false

namespace TensorGraph

/-- The name of a byte order in a description. -/
def ByteOrder.description : ByteOrder → String
  | little => "LittleEndian"
  | big => "BigEndian"

/-- The dimensions as a group of fields. -/
def Shape.description (shape : Shape) : String := Text.group "Shape" [("dims", shape.text)]

/-- The element type and the shape as a group of fields. -/
def ValueInfo.description (info : ValueInfo) : String :=
  Text.group "ValueInfo"
    [("data_type", info.elementType.capitalized), ("shape", info.shape.description)]

/-- Everything about a tensor but its content. -/
def Tensor.description (t : Tensor) : String :=
  Text.group "Tensor"
    [("value_info", t.info.description), ("byte_order", t.byteOrder.description),
      ("byte_len", toString t.byteLength), ("direct", toString t.isDirect),
      ("released", toString t.isReleased)]

end TensorGraph
