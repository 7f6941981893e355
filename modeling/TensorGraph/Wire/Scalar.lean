import TensorGraph.FixedWidth
import TensorGraph.Text
import TensorGraph.Wire.Key

/-!
# Scalars

The value of a field that is not itself a record is a scalar: an integer, a floating-point number,
a text or a byte string.  A `Scalar` says how values of a type are laid out and how they are taken
off the front of the data.  Integers are varints of 64 bits, a negative one in two's complement
and therefore always of ten bytes; an integer of 32 bits is the low half of such a varint.
-/

set_option autoImplicit false

namespace TensorGraph.Wire

/-! ## Building blocks -/

namespace Reader

/-- A given number of bytes, at least one, off the front of the data. -/
def take (count : Nat) (pos : 0 < count) : Reader Bytes where
  run data :=
    if data.length < count then .error ⟨[], .underflow⟩
    else .ok (data.take count, data.drop count)
  shorter {data a rest} h := by
    split at h
    · simp at h
    · simp only [Except.ok.injEq, Prod.mk.injEq] at h
      rw [← h.2, List.length_drop]
      omega

/-- A length, then that many bytes. -/
def delimited : Reader Bytes where
  run data :=
    match Varint.reader.run data with
    | .error e => .error e
    | .ok (length, rest) =>
      if rest.length < length then .error ⟨[], .underflow⟩
      else .ok (rest.take length, rest.drop length)
  shorter {data a rest} h := by
    split at h
    · simp at h
    · rename_i length rest' hl
      have := Varint.reader.shorter hl
      split at h
      · simp at h
      · simp only [Except.ok.injEq, Prod.mk.injEq] at h
        rw [← h.2, List.length_drop]
        omega

/-- A length, then values up to the end that it announces. -/
def delimitedMany {α : Type} (r : Reader α) : Reader (List α) where
  run data :=
    match Varint.reader.run data with
    | .error e => .error e
    | .ok (length, rest) =>
      if rest.length < length then .error ⟨[], .underflow⟩
      else r.many (rest.length - length) rest
  shorter {data a rest} h := by
    split at h
    · simp at h
    · rename_i length rest' hl
      have := Varint.reader.shorter hl
      split at h
      · simp at h
      · rw [length_of_many r h]
        omega

end Reader

/-! ## The scalars -/

/-- How values of a type stand in a field. -/
structure Scalar (α : Type) where
  wireType : WireType
  read : Reader α

namespace Scalar

/-- A signed integer of 64 bits. -/
def int64 : Scalar Int64 := ⟨.varint, Varint.reader.map fun n => (UInt64.ofNat n).toInt64⟩

/-- An unsigned integer of 64 bits. -/
def uint64 : Scalar UInt64 := ⟨.varint, Varint.reader.map UInt64.ofNat⟩

/-- A signed integer of 32 bits, and the code of an enumeration. -/
def int32 : Scalar Int32 := ⟨.varint, Varint.reader.map fun n => (UInt32.ofNat n).toInt32⟩

/-- The number of bytes of a fixed-width kind, the least significant first. -/
def fixed (α : Type) [FixedWidth α] : Reader α :=
  (Reader.take (FixedWidth.width α) FixedWidth.width_pos).map (FixedWidth.decode .little)

/-- A floating-point number of 32 bits. -/
def float : Scalar Binary32 := ⟨.fixed32, fixed Binary32⟩

/-- A floating-point number of 64 bits. -/
def double : Scalar Binary64 := ⟨.fixed64, fixed Binary64⟩

/-- A byte string. -/
def bytes : Scalar Bytes := ⟨.lengthDelimited, .delimited⟩

/-- A text. -/
def string : Scalar String :=
  ⟨.lengthDelimited, Reader.delimited.mapOrFail fun bytes =>
    match Text.ofUtf8? bytes with
    | some text => .ok text
    | none => .error .utf8⟩

end Scalar

end TensorGraph.Wire
