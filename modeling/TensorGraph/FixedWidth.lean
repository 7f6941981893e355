import TensorGraph.Bytes
import TensorGraph.Binary

/-!
# Numbers of fixed width

The elements of a tensor are read and written as numbers of one of ten kinds.  All that a tensor
needs to know of such a kind is in the class `FixedWidth`: its name, its width in bytes, and that
its values are exactly the bit patterns of that width.  `FixedWidth.encode` and
`FixedWidth.decode` lay a value out in a byte order and read it back; `decode_encode` holds for
every kind, so nothing further on has to be proved ten times.
-/

set_option autoImplicit false

namespace TensorGraph

/-- A kind of numbers whose values are the bit patterns of `width` bytes. -/
class FixedWidth (α : Type) where
  /-- The name by which messages speak of the kind. -/
  name : String
  /-- The width in bytes. -/
  width : Nat
  width_pos : 0 < width
  /-- The bit pattern of a value, as a natural number. -/
  pattern : α → Nat
  /-- The value with a given bit pattern. -/
  ofPattern : Nat → α
  pattern_lt : ∀ a : α, pattern a < wordCount width
  ofPattern_pattern : ∀ a : α, ofPattern (pattern a) = a
  pattern_ofPattern : ∀ n : Nat, n < wordCount width → pattern (ofPattern n) = n

namespace FixedWidth

variable {α : Type} [FixedWidth α]

/-- The bytes of a value in the given order. -/
def encode (order : ByteOrder) (a : α) : Bytes := order.encode (width α) (pattern a)

/-- The value that the bytes stand for in the given order. -/
def decode (order : ByteOrder) (bytes : Bytes) : α := ofPattern (order.decode bytes)

@[simp] theorem length_encode (order : ByteOrder) (a : α) :
    (encode order a).length = width α := by
  simp [encode]

@[simp] theorem decode_encode (order : ByteOrder) (a : α) :
    decode order (encode order a) = a := by
  rw [decode, encode, ByteOrder.decode_encode, Nat.mod_eq_of_lt (pattern_lt a),
    ofPattern_pattern]

theorem encode_decode (order : ByteOrder) {bytes : Bytes} (h : bytes.length = width α) :
    encode order (decode order bytes : α) = bytes := by
  have hlt := order.decode_lt bytes
  rw [h] at hlt
  rw [encode, decode, pattern_ofPattern _ hlt, ← h, ByteOrder.encode_decode]

/-! ## The ten kinds -/

instance : FixedWidth UInt8 where
  name := "u8"
  width := 1
  width_pos := by decide
  pattern := UInt8.toNat
  ofPattern := UInt8.ofNat
  pattern_lt := UInt8.toNat_lt
  ofPattern_pattern := by simp
  pattern_ofPattern n h := UInt8.toNat_ofNat_of_lt' h

instance : FixedWidth UInt16 where
  name := "u16"
  width := 2
  width_pos := by decide
  pattern := UInt16.toNat
  ofPattern := UInt16.ofNat
  pattern_lt := UInt16.toNat_lt
  ofPattern_pattern := by simp
  pattern_ofPattern n h := UInt16.toNat_ofNat_of_lt' h

instance : FixedWidth UInt32 where
  name := "u32"
  width := 4
  width_pos := by decide
  pattern := UInt32.toNat
  ofPattern := UInt32.ofNat
  pattern_lt := UInt32.toNat_lt
  ofPattern_pattern := by simp
  pattern_ofPattern n h := UInt32.toNat_ofNat_of_lt' h

instance : FixedWidth UInt64 where
  name := "u64"
  width := 8
  width_pos := by decide
  pattern := UInt64.toNat
  ofPattern := UInt64.ofNat
  pattern_lt := UInt64.toNat_lt
  ofPattern_pattern := by simp
  pattern_ofPattern n h := UInt64.toNat_ofNat_of_lt' h

instance : FixedWidth Int8 where
  name := "i8"
  width := 1
  width_pos := by decide
  pattern a := a.toUInt8.toNat
  ofPattern n := (UInt8.ofNat n).toInt8
  pattern_lt a := a.toUInt8.toNat_lt
  ofPattern_pattern := by simp
  pattern_ofPattern n h := by simpa [wordCount] using h

instance : FixedWidth Int16 where
  name := "i16"
  width := 2
  width_pos := by decide
  pattern a := a.toUInt16.toNat
  ofPattern n := (UInt16.ofNat n).toInt16
  pattern_lt a := a.toUInt16.toNat_lt
  ofPattern_pattern := by simp
  pattern_ofPattern n h := by simpa [wordCount] using h

instance : FixedWidth Int32 where
  name := "i32"
  width := 4
  width_pos := by decide
  pattern a := a.toUInt32.toNat
  ofPattern n := (UInt32.ofNat n).toInt32
  pattern_lt a := a.toUInt32.toNat_lt
  ofPattern_pattern := by simp
  pattern_ofPattern n h := by simpa [wordCount] using h

instance : FixedWidth Int64 where
  name := "i64"
  width := 8
  width_pos := by decide
  pattern a := a.toUInt64.toNat
  ofPattern n := (UInt64.ofNat n).toInt64
  pattern_lt a := a.toUInt64.toNat_lt
  ofPattern_pattern := by simp
  pattern_ofPattern n h := by simpa [wordCount] using h

instance : FixedWidth Binary32 where
  name := "f32"
  width := 4
  width_pos := by decide
  pattern a := a.bits.toNat
  ofPattern n := ⟨UInt32.ofNat n⟩
  pattern_lt a := a.bits.toNat_lt
  ofPattern_pattern := by simp
  pattern_ofPattern n h := by simpa [wordCount] using h

instance : FixedWidth Binary64 where
  name := "f64"
  width := 8
  width_pos := by decide
  pattern a := a.bits.toNat
  ofPattern n := ⟨UInt64.ofNat n⟩
  pattern_lt a := a.bits.toNat_lt
  ofPattern_pattern := by simp
  pattern_ofPattern n h := by simpa [wordCount] using h

end FixedWidth

end TensorGraph
