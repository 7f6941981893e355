/-!
# Bytes and words

A serialized model is a byte string, and so is the content of a tensor.  A number of fixed width
is laid out in a byte string in one of two orders; `ByteOrder.encode` writes it and
`ByteOrder.decode` reads it back.  Both are defined on natural numbers, through the digits to
base 256, so that a two's complement integer and a floating-point bit pattern are laid out by the
same rule: `encode` keeps the low bytes of the number it is given, which is what narrowing an
integer means.

The main statements are `ByteOrder.decode_encode` and `ByteOrder.encode_decode`: on numbers below
`wordCount width` and on byte strings of length `width` the two are inverse to each other.
-/

set_option autoImplicit false

namespace TensorGraph

/-- A byte string. -/
abbrev Bytes := List UInt8

/-! ## Digits to base 256 -/

/-- The number of byte strings of the given length. -/
def wordCount : (width : Nat) → Nat
  | 0 => 1
  | width + 1 => 256 * wordCount width

/-- The `width` low bytes of a number, the least significant first. -/
def lowBytes : (width : Nat) → Nat → Bytes
  | 0, _ => []
  | width + 1, n => UInt8.ofNat n :: lowBytes width (n / 256)

/-- The number with the given bytes, the least significant first. -/
def ofLowBytes : Bytes → Nat
  | [] => 0
  | b :: bytes => b.toNat + 256 * ofLowBytes bytes

@[simp] theorem length_lowBytes (width n : Nat) : (lowBytes width n).length = width := by
  induction width generalizing n with
  | zero => rfl
  | succ width ih => simp [lowBytes, ih]

theorem ofLowBytes_lt (bytes : Bytes) : ofLowBytes bytes < wordCount bytes.length := by
  induction bytes with
  | nil => simp [ofLowBytes, wordCount]
  | cons b bytes ih =>
    have hb := b.toNat_lt
    simp only [ofLowBytes, List.length_cons, wordCount]
    omega

/-- Only the low bytes of a number are written. -/
theorem ofLowBytes_lowBytes (width n : Nat) :
    ofLowBytes (lowBytes width n) = n % wordCount width := by
  induction width generalizing n with
  | zero => simp [lowBytes, ofLowBytes, wordCount, Nat.mod_one]
  | succ width ih =>
    have hb : (UInt8.ofNat n).toNat = n % 256 := UInt8.toNat_ofNat'
    rw [lowBytes, ofLowBytes, ih, hb, wordCount, Nat.mod_mul]

theorem lowBytes_ofLowBytes (bytes : Bytes) :
    lowBytes bytes.length (ofLowBytes bytes) = bytes := by
  induction bytes with
  | nil => rfl
  | cons b bytes ih =>
    have hb := b.toNat_lt
    have hdiv : (b.toNat + 256 * ofLowBytes bytes) / 256 = ofLowBytes bytes := by omega
    have hmod : UInt8.ofNat (b.toNat + 256 * ofLowBytes bytes) = b := by
      apply UInt8.toNat_inj.mp
      rw [UInt8.toNat_ofNat']
      omega
    simp only [List.length_cons, lowBytes, ofLowBytes, hdiv, hmod, ih]

/-! ## Byte orders -/

/-- The order of the bytes of a number: least significant first, or most significant first. -/
inductive ByteOrder where
  | little
  | big
  deriving DecidableEq, Repr

namespace ByteOrder

/-- Puts bytes that stand least significant first into the given order, and back. -/
def arrange : ByteOrder → Bytes → Bytes
  | little, bytes => bytes
  | big, bytes => bytes.reverse

/-- The `width` low bytes of a number, in the given order. -/
def encode (order : ByteOrder) (width n : Nat) : Bytes := order.arrange (lowBytes width n)

/-- The number that the bytes stand for in the given order. -/
def decode (order : ByteOrder) (bytes : Bytes) : Nat := ofLowBytes (order.arrange bytes)

@[simp] theorem arrange_arrange (order : ByteOrder) (bytes : Bytes) :
    order.arrange (order.arrange bytes) = bytes := by
  cases order <;> simp [arrange]

@[simp] theorem length_arrange (order : ByteOrder) (bytes : Bytes) :
    (order.arrange bytes).length = bytes.length := by
  cases order <;> simp [arrange]

@[simp] theorem length_encode (order : ByteOrder) (width n : Nat) :
    (order.encode width n).length = width := by
  simp [encode]

theorem decode_lt (order : ByteOrder) (bytes : Bytes) :
    order.decode bytes < wordCount bytes.length := by
  simpa [decode] using ofLowBytes_lt (order.arrange bytes)

/-- Reading in the order of writing gives back the low bytes of the number. -/
theorem decode_encode (order : ByteOrder) (width n : Nat) :
    order.decode (order.encode width n) = n % wordCount width := by
  simp [decode, encode, ofLowBytes_lowBytes]

theorem encode_decode (order : ByteOrder) (bytes : Bytes) :
    order.encode bytes.length (order.decode bytes) = bytes := by
  have h := lowBytes_ofLowBytes (order.arrange bytes)
  rw [length_arrange] at h
  simp [decode, encode, h]

end ByteOrder

end TensorGraph
