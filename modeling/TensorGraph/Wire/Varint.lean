import TensorGraph.Wire.Reader

/-!
# Varints

A natural number below `2 ^ 64` is written as its digits to base 128, the least significant first,
one digit a byte; a byte of 128 or more says that another digit follows.  Digits that are zero may
be appended to a number, so one number has several spellings, but no spelling has more than ten
bytes, and the tenth can only be 0 or 1.  `Varint.encode` writes the shortest spelling.
-/

set_option autoImplicit false

namespace TensorGraph.Wire.Varint

/-- The most bytes that a varint can have. -/
def maxBytes : Nat := 10

/-- The digits of a number, all but the last marked by 128. -/
def encode (n : Nat) : Bytes :=
  if n < 128 then [UInt8.ofNat n] else UInt8.ofNat (n % 128 + 128) :: encode (n / 128)

/-- Reads a number of at most `room` digits; none if there is no end to it. -/
def read? : (room : Nat) → Bytes → Option (Nat × Bytes)
  | 0, _ => none
  | _ + 1, [] => none
  | room + 1, b :: data =>
    if b < 128 then
      if room = 0 ∧ 1 < b then none else some (b.toNat, data)
    else
      match read? room data with
      | none => none
      | some (n, rest) => some (b.toNat % 128 + 128 * n, rest)

theorem length_of_read? {room : Nat} {data : Bytes} {n : Nat} {rest : Bytes}
    (h : read? room data = some (n, rest)) : rest.length < data.length := by
  fun_induction read? room data generalizing n rest with
  | case1 => simp at h
  | case2 => simp at h
  | case3 => simp at h
  | case4 =>
    simp only [Option.some.injEq, Prod.mk.injEq] at h
    simp [h.2]
  | case5 => simp at h
  | case6 room b data _ m rest' hm ih =>
    simp only [Option.some.injEq, Prod.mk.injEq] at h
    have := ih hm
    rw [← h.2, List.length_cons]
    omega

/-- A varint off the front of the data. -/
def reader : Reader Nat where
  run data :=
    match read? maxBytes data with
    | none => .error ⟨[], .varint⟩
    | some found => .ok found
  shorter {data n rest} h := by
    split at h
    · simp at h
    · rename_i found hf
      simp only [Except.ok.injEq] at h
      exact length_of_read? (h ▸ hf)

end TensorGraph.Wire.Varint
