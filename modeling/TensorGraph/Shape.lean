import TensorGraph.ElementType
import TensorGraph.Text

/-!
# Shapes and value infos

A shape is the list of a tensor's dimension sizes; together with an element type it is a value
info, which is all that is known of a value before it is computed.  Sizes are counted in words of
64 bits, so a product of dimensions is formed with a check after every factor
(`checkedProduct`), and a product that was ever too large stays too large even if a zero follows.

The first dimension is by custom the batch, and two shapes count as the `same` whatever it is.
-/

set_option autoImplicit false

namespace TensorGraph

/-! ## Checked products -/

/-- Sizes are below this bound. -/
def sizeBound : Nat := 0x10000000000000000

/-- Multiplies a size by factors from left to right, unless a partial product is too large. -/
def checkedProduct (size : Nat) (factors : List Nat) : Option Nat :=
  factors.foldlM (fun size d => if size * d < sizeBound then some (size * d) else none) size

/-! ## Shapes -/

/-- The dimension sizes of a tensor. -/
structure Shape where
  dims : List Nat
  deriving DecidableEq, Repr

namespace Shape

/-- The shape of a single element. -/
def scalar : Shape := ⟨[]⟩

/-- The number of dimensions. -/
def rank (shape : Shape) : Nat := shape.dims.length

/-- The number of elements, unless it is too large. -/
def elementCount? (shape : Shape) : Option Nat := checkedProduct 1 shape.dims

/-- Equality up to the size of the first dimension. -/
def same (a b : Shape) : Bool := a.rank == b.rank && a.dims.drop 1 == b.dims.drop 1

/-- The dimension sizes in brackets. -/
def text (shape : Shape) : String := Text.bracketed (shape.dims.map toString)

end Shape

/-! ## Value infos -/

/-- The element type and the shape of a value. -/
structure ValueInfo where
  elementType : ElementType
  shape : Shape
  deriving DecidableEq, Repr

namespace ValueInfo

/-- Equality up to the size of the first dimension. -/
def same (a b : ValueInfo) : Bool := a.elementType == b.elementType && a.shape.same b.shape

/-- The type's name and the dimensions, without a blank. -/
def text (info : ValueInfo) : String := info.elementType.name ++ info.shape.text

end ValueInfo

end TensorGraph
