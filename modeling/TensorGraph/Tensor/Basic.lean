import TensorGraph.Error
import TensorGraph.FixedWidth

/-!
# Tensors

A tensor owns a buffer of bytes, laid out in one byte order, whose length is what its value info
says: `ValueInfo.byteCount`.  It can be allocated with zeros, or made of bytes or of numbers of
the right width; its bytes can be overwritten in place; and its buffer can be released, once, after
which only the value info is left.

Two tensors are the `same` if both still have a buffer and agree in value info, byte order and
bytes.  The comparison of value infos overlooks the first dimension, but the bytes do not: their
number pins the first dimension down.

Numbers are taken in bulk as they lie in the memory of a host, which has a byte order of its own; it
is an argument wherever it matters.
-/

set_option autoImplicit false

namespace TensorGraph

/-! ## Sizes -/

/-- The number of bytes of a tensor: the product of its dimensions, times the width of an
element. -/
def ValueInfo.byteCount (info : ValueInfo) : Except Error Nat :=
  match info.elementType.unitSize? with
  | none => .error (.unsupportedOperation (.allocation info.elementType))
  | some unit =>
    match checkedProduct 1 (info.shape.dims ++ [unit]) with
    | none => .error (.illegalArgument (.tooLarge info))
    | some 0 => .error (.illegalArgument (.noBytes info))
    | some (n + 1) => .ok (n + 1)

/-- Whether a kind of numbers has the width of a type's elements. -/
def ElementType.holds (elementType : ElementType) (α : Type) [FixedWidth α] : Bool :=
  elementType.unitSize? == some (FixedWidth.width α)

/-- Refuses numbers of another width than the type's elements. -/
def ElementType.checkWidth (elementType : ElementType) (α : Type) [FixedWidth α] :
    Except Error Unit :=
  if elementType.holds α then .ok ()
  else .error (.illegalArgument (.elementWidth (FixedWidth.name α) elementType))

/-! ## Buffers -/

/-- The bytes of a tensor and where they are kept. -/
structure Buffer where
  bytes : Bytes
  allocation : Allocation
  deriving DecidableEq, Repr

/-- Refuses more bytes than a place can have in one piece. -/
def Allocation.checkCapacity (allocation : Allocation) (count : Nat) : Except Error Unit :=
  if count ≤ allocation.capacity then .ok ()
  else .error (.illegalArgument (.overCapacity count allocation))

/-- Puts new bytes in place of old ones from an offset on; what would reach behind the end is
left out, so the length stays as it was. -/
def overwriteBytes (bytes : Bytes) (offset : Nat) (patch : Bytes) : Bytes :=
  let patch := patch.take (bytes.length - offset)
  bytes.take offset ++ patch ++ bytes.drop (offset + patch.length)

@[simp] theorem length_overwriteBytes (bytes : Bytes) (offset : Nat) (patch : Bytes) :
    (overwriteBytes bytes offset patch).length = bytes.length := by
  simp only [overwriteBytes, List.length_append, List.length_take, List.length_drop]
  omega

/-- Cuts a byte string into a number of words of one width. -/
def cutWords (width : Nat) : (count : Nat) → Bytes → List Bytes
  | 0, _ => []
  | count + 1, bytes => bytes.take width :: cutWords width count (bytes.drop width)

@[simp] theorem length_cutWords (width count : Nat) (bytes : Bytes) :
    (cutWords width count bytes).length = count := by
  induction count generalizing bytes with
  | zero => rfl
  | succ count ih => simp [cutWords, ih]

/-- The bytes with those of every whole word reversed. -/
def reverseWords (width : Nat) (bytes : Bytes) : Bytes :=
  (cutWords width (bytes.length / width) bytes).flatMap List.reverse ++
    bytes.drop (bytes.length / width * width)

/-- The numbers of a kind whose words stand in a byte string, as a host takes them. -/
def collect (host : ByteOrder) (α : Type) [FixedWidth α] (bytes : Bytes) : List α :=
  (cutWords (FixedWidth.width α) (bytes.length / FixedWidth.width α) bytes).map
    (FixedWidth.decode host)

/-- Releases things one after the other: how many buffers there were in all, and what is left. -/
def releaseEach {α : Type} (release : α → Nat × α) : List α → Nat × List α
  | [] => (0, [])
  | a :: rest =>
    let (count, a) := release a
    let (counts, rest) := releaseEach release rest
    (count + counts, a :: rest)

/-! ## Tensors -/

/-- A value info and, until it is released, a buffer with the elements in a byte order. -/
structure Tensor where
  info : ValueInfo
  byteOrder : ByteOrder
  buffer : Option Buffer
  deriving DecidableEq, Repr

namespace Tensor

/-- A tensor of zeros. -/
def allocate (info : ValueInfo) (options : TensorOptions) : Except Error Tensor := do
  let count ← info.byteCount
  options.allocation.checkCapacity count
  return ⟨info, options.byteOrder, some ⟨List.replicate count 0, options.allocation⟩⟩

/-- A tensor with the given bytes, which are laid out in the given order. -/
def ofBytes (info : ValueInfo) (bytes : Bytes) (order : ByteOrder) (options : TensorOptions) :
    Except Error Tensor := do
  let count ← info.byteCount
  if bytes.length = count then
    options.allocation.checkCapacity count
    return ⟨info, order, some ⟨bytes, options.allocation⟩⟩
  else throw (.illegalArgument (.byteCount info count bytes.length))

/-- A tensor with the given numbers, which are laid out as they are on the host. -/
def ofList {α : Type} [FixedWidth α] (host : ByteOrder) (info : ValueInfo) (values : List α)
    (options : TensorOptions) : Except Error Tensor := do
  info.elementType.checkWidth α
  ofBytes info (values.flatMap (FixedWidth.encode host)) host options

/-- The number of elements that the shape describes, zero if it is too large. -/
def elementCount (t : Tensor) : Nat := t.info.shape.elementCount?.getD 0

/-- The number of bytes in the buffer, zero once it is released. -/
def byteLength (t : Tensor) : Nat :=
  match t.buffer with
  | some buffer => buffer.bytes.length
  | none => 0

/-- Whether the buffer is kept outside the heap. -/
def isDirect (t : Tensor) : Bool :=
  match t.buffer with
  | some buffer => buffer.allocation == .direct
  | none => false

/-- Whether the buffer has been released. -/
def isReleased (t : Tensor) : Bool := t.buffer.isNone

/-- The bytes of a tensor that is not released. -/
def bytes (t : Tensor) : Except Error Bytes :=
  match t.buffer with
  | some buffer => .ok buffer.bytes
  | none => .error (.tensorReleased t.info)

/-- The tensor with new bytes from an offset on. -/
def overwrite (t : Tensor) (offset : Nat) (patch : Bytes) : Except Error Tensor :=
  match t.buffer with
  | some buffer =>
    .ok { t with buffer := some { buffer with bytes := overwriteBytes buffer.bytes offset patch } }
  | none => .error (.tensorReleased t.info)

/-- The elements as numbers of one kind, which has to have the elements' width.  Words that are not
in the host's order are turned around first, and then all are taken as they are. -/
def toList (host : ByteOrder) (α : Type) [FixedWidth α] (t : Tensor) : Except Error (List α) := do
  t.info.elementType.checkWidth α
  let bytes ← t.bytes
  if t.byteOrder = host ∨ FixedWidth.width α = 1 then return collect host α bytes
  else return collect host α (reverseWords (FixedWidth.width α) bytes)

/-- The tensor without its buffer. -/
def released (t : Tensor) : Tensor := { t with buffer := none }

/-- Gives the buffer back: whether there was one, and what is left. -/
def release (t : Tensor) : Bool × Tensor := (!t.isReleased, t.released)

/-- Gives the buffer back: how many there were, and what is left. -/
def releaseCounted (t : Tensor) : Nat × Tensor :=
  let (freed, t) := t.release
  (if freed then 1 else 0, t)

/-- Equality of value info, byte order and bytes; a released tensor equals nothing. -/
def same (a b : Tensor) : Bool :=
  match a.buffer, b.buffer with
  | some x, some y => a.info.same b.info && a.byteOrder == b.byteOrder && x.bytes == y.bytes
  | _, _ => false

@[simp] theorem isReleased_released (t : Tensor) : t.released.isReleased = true := rfl

@[simp] theorem info_released (t : Tensor) : t.released.info = t.info := rfl

end Tensor

end TensorGraph
