import TensorGraph.Tensor.Basic

/-!
# Views

A view reads a tensor's bytes through a position of its own.  Numbers are taken in the tensor's
byte order and only whole; raw bytes are taken as far as there are any; and the position may be
moved to any place up to the end.  A view is a value: whatever is read through one of them, the
tensor and all other views stay as they are.
-/

set_option autoImplicit false

namespace TensorGraph

/-- The bytes of a tensor, their order, and how many of them have been read. -/
structure TensorView where
  bytes : Bytes
  byteOrder : ByteOrder
  position : Nat
  deriving DecidableEq, Repr

/-- A view of a tensor from its first byte on. -/
def Tensor.view (t : Tensor) : Except Error TensorView := do
  return ⟨← t.bytes, t.byteOrder, 0⟩

namespace TensorView

/-- The number of bytes, read or not. -/
def length (v : TensorView) : Nat := v.bytes.length

/-- The number of bytes that have not been read. -/
def remaining (v : TensorView) : Nat := v.length - v.position

/-- The bytes that have not been read. -/
def rest (v : TensorView) : Bytes := v.bytes.drop v.position

/-- The next bytes, at most a given number of them. -/
def take (v : TensorView) (count : Nat) : Bytes × TensorView :=
  let taken := v.rest.take count
  (taken, { v with position := v.position + taken.length })

/-- All bytes that have not been read. -/
def takeAll (v : TensorView) : Bytes × TensorView := v.take v.remaining

/-- The next number of a kind, if that many bytes are left. -/
def next? (α : Type) [FixedWidth α] (v : TensorView) : Option (α × TensorView) :=
  if v.position + FixedWidth.width α ≤ v.length then
    let (taken, v') := v.take (FixedWidth.width α)
    some (FixedWidth.decode v.byteOrder taken, v')
  else none

/-- The view moved to a position, which may not be behind the end. -/
def seek (v : TensorView) (position : Nat) : Except Error TensorView :=
  if position ≤ v.length then .ok { v with position := position }
  else .error (.illegalArgument (.pastEnd position v.length))

end TensorView

end TensorGraph
