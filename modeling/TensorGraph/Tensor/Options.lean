import TensorGraph.Bytes

/-!
# How tensors are stored

A reader of a model may choose where the content of tensors is kept and in which byte order the
values of typed lists are laid out.  Neither changes what a model means.  Both places bound the
size of a single buffer; memory outside the heap comes in blocks of 64 bytes, so its bound is a
little lower.
-/

set_option autoImplicit false

namespace TensorGraph

/-- Where a buffer is kept. -/
inductive Allocation where
  | heap
  | direct
  deriving DecidableEq, Repr

/-- The most bytes that one buffer can have. -/
def Allocation.capacity : Allocation → Nat
  | heap => 0x7fffffffffffffff
  | direct => 0x7fffffffffffffc0

/-- What a reader of a model chooses about its tensors. -/
structure TensorOptions where
  allocation : Allocation := .heap
  byteOrder : ByteOrder := .little
  deriving DecidableEq, Repr

end TensorGraph
