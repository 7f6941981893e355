/-!
# Floating-point values as bit patterns

Weights and attributes are floating-point numbers that are carried, never computed with: what has
to survive is the bit pattern, the payload of a NaN included.  `Binary32` and `Binary64` are
therefore the patterns themselves, and equality of patterns (`=`) is kept apart from equality of
numbers (`same`), in which a NaN differs from itself and the two zeros agree.
-/

set_option autoImplicit false

namespace TensorGraph

/-- A floating-point number of 32 bits, by its bit pattern. -/
structure Binary32 where
  bits : UInt32
  deriving DecidableEq, Repr

namespace Binary32

/-- The sign bit taken away. -/
def magnitude (x : Binary32) : Nat := x.bits.toNat % 0x80000000

/-- The exponent is full and the fraction is not zero. -/
def isNaN (x : Binary32) : Bool := 0x7f800000 < x.magnitude

/-- One of the two zeros. -/
def isZero (x : Binary32) : Bool := x.magnitude = 0

/-- Equality as numbers. -/
def same (x y : Binary32) : Bool := !x.isNaN && (x = y || x.isZero && y.isZero)

/-- The greatest finite number. -/
def greatest : Binary32 := ⟨0x7f7fffff⟩

/-- The least finite number. -/
def least : Binary32 := ⟨0xff7fffff⟩

theorem same_self (x : Binary32) : x.same x = !x.isNaN := by simp [same]

end Binary32

/-- A floating-point number of 64 bits, by its bit pattern. -/
structure Binary64 where
  bits : UInt64
  deriving DecidableEq, Repr

end TensorGraph
