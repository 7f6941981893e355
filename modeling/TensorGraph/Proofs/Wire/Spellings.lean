import TensorGraph.Proofs.Wire.Takes

/-!
# How things are spelled

What the wire format allows to be written is more than what `Encode` writes: a number may have
digits too many, and a field may hold anything.  The relations here describe it without any
reader.

* `Varint.IsSpelling data n`: the digits of `n`, with any number of zeros behind them as long as
  there are no more than ten digits.  `Varint.reader_eq_ok_iff` says that these are what the reader
  of varints takes, neither more nor less.
* `Key.IsSpelling` is the same for keys, and `Framed number content data` says that the data is a
  field that holds the content behind its length.
* `SpellsInt64` to `SpellsDouble` say it of the numbers that a field can hold.
-/

set_option autoImplicit false

namespace TensorGraph.Wire

open Encode

/-! ## Varints -/

namespace Varint

/-- The data is digits to base 128, the least significant first, of which all but the last are
marked by 128, and they stand for `n`. -/
inductive Digits : Bytes → Nat → Prop
  | last {b : UInt8} (h : b < 128) : Digits [b] b.toNat
  | next {b : UInt8} {data : Bytes} {n : Nat} (h : ¬ b < 128) (tail : Digits data n) :
    Digits (b :: data) (b.toNat % 128 + 128 * n)

/-- The data spells `n` as a varint: it has no more than ten digits, and 64 bits hold the number. -/
structure IsSpelling (data : Bytes) (n : Nat) : Prop where
  digits : Digits data n
  length_le : data.length ≤ maxBytes
  lt_bound : n < bound

variable {data rest : Bytes} {n room : Nat}

theorem Digits.ne_nil (h : Digits data n) : data ≠ [] := by
  cases h <;> simp

theorem read?_of_digits (h : Digits data n) (hlen : data.length ≤ room + 1)
    (hn : n < capacity room) (rest : Bytes) :
    read? (room + 1) (data ++ rest) = some (n, rest) := by
  induction h generalizing room with
  | @last b h =>
    have hfits : ¬ (room = 0 ∧ 1 < b) := by
      rintro ⟨rfl, hone⟩
      rw [UInt8.lt_iff_toNat_lt, UInt8.toNat_one] at hone
      rw [capacity] at hn
      omega
    rw [List.singleton_append, read?, if_pos h, if_neg hfits]
  | @next b data n h tail ih =>
    have hpos := List.length_pos_iff.2 tail.ne_nil
    rw [List.length_cons] at hlen
    cases room with
    | zero => omega
    | succ room =>
      rw [capacity] at hn
      rw [List.cons_append, read?, if_neg h, ih (by omega) (by omega)]

theorem two_le_capacity (room : Nat) : 2 ≤ capacity room := by
  induction room with
  | zero => exact Nat.le_refl _
  | succ room ih =>
    rw [capacity]
    omega

theorem digits_of_read? (h : read? (room + 1) data = some (n, rest)) :
    ∃ piece, data = piece ++ rest ∧ Digits piece n ∧ piece.length ≤ room + 1 ∧
      n < capacity room := by
  induction room generalizing data n with
  | zero =>
    cases data with
    | nil => cases h
    | cons b data =>
      rw [read?] at h
      split at h
      · rename_i hb
        split at h
        · cases h
        · rename_i hone
          cases h
          have hle : b.toNat ≤ 1 := by
            simpa [UInt8.lt_iff_toNat_lt] using hone
          refine ⟨[b], rfl, .last hb, Nat.le_refl _, ?_⟩
          rw [capacity]
          omega
      · cases h
  | succ room ih =>
    cases data with
    | nil => cases h
    | cons b data =>
      rw [read?] at h
      split at h
      · rename_i hb
        split at h
        · cases h
        · cases h
          have hlt : b.toNat < 128 := by
            simpa [UInt8.lt_iff_toNat_lt] using hb
          have htwo := two_le_capacity room
          refine ⟨[b], rfl, .last hb, by simp, ?_⟩
          rw [capacity]
          omega
      · rename_i hb
        split at h
        · cases h
        · rename_i m rest' hm
          cases h
          obtain ⟨piece, rfl, hdigits, hlen, hlt⟩ := ih hm
          refine ⟨b :: piece, rfl, .next hb hdigits, ?_, ?_⟩
          · rw [List.length_cons]
            omega
          · rw [capacity]
            omega

theorem reader_eq_ok_iff_read? :
    reader.run data = .ok (n, rest) ↔ read? (9 + 1) data = some (n, rest) := by
  simp only [reader, maxBytes]
  cases read? 10 data <;> simp

/-- **What the reader of varints takes** are the spellings of numbers. -/
theorem reader_eq_ok_iff :
    reader.run data = .ok (n, rest) ↔ ∃ piece, data = piece ++ rest ∧ IsSpelling piece n := by
  rw [reader_eq_ok_iff_read?]
  constructor
  · intro h
    obtain ⟨piece, hdata, hdigits, hlen, hlt⟩ := digits_of_read? h
    exact ⟨piece, hdata, hdigits, hlen, hlt⟩
  · rintro ⟨piece, rfl, hdigits, hlen, hlt⟩
    exact read?_of_digits hdigits hlen hlt rest

theorem IsSpelling.finds (h : IsSpelling data n) : reader.Finds data (.ok n) :=
  fun _ => reader_eq_ok_iff.2 ⟨data, rfl, h⟩

theorem follows_reader : reader.Follows reader := by
  refine Reader.follows_of_finds fun data n rest h => ?_
  obtain ⟨piece, hdata, hpiece⟩ := reader_eq_ok_iff.1 h
  exact ⟨piece, hdata, hpiece.finds⟩

/-- The shortest spelling is one. -/
theorem isSpelling_encode (h : n < bound) : IsSpelling (encode n) n := by
  obtain ⟨piece, hdata, hpiece⟩ :=
    reader_eq_ok_iff.1 (reader_eq_ok_iff_read?.2 (read?_encode 9 h []))
  rw [List.append_nil, List.append_nil] at hdata
  rwa [hdata]

end Varint

/-! ## Keys and fields -/

/-- The data spells the key, whose number is one that a field can have. -/
structure Key.IsSpelling (data : Bytes) (key : Key) : Prop where
  isNumber : Key.IsNumber key.number
  varint : Varint.IsSpelling data (8 * key.number + key.wireType.code)

theorem Key.ofNat_of_isNumber {key : Key} (h : IsNumber key.number) :
    ofNat (8 * key.number + key.wireType.code) = .ok key := by
  have hcode : key.wireType.code < 8 := by cases key.wireType <;> decide
  refine ofNat_eq_ok (Nat.ne_of_gt h.1) ?_
  have hlt := h.2
  rw [bound]
  omega

theorem Key.IsSpelling.finds {data : Bytes} {key : Key} (h : IsSpelling data key) :
    Key.reader.Finds data (.ok key) :=
  h.varint.finds.mapOrFail (ofNat_of_isNumber h.isNumber)

theorem Key.follows_reader : Key.reader.Follows Key.reader := Varint.follows_reader.mapOrFail _

theorem Key.isSpelling_encode {key : Key} (h : IsNumber key.number) :
    IsSpelling (encode key) key := by
  refine ⟨h, Varint.isSpelling_encode ?_⟩
  have hcode : key.wireType.code < 8 := by cases key.wireType <;> decide
  have hlt := h.2
  rw [Varint.bound]
  omega

/-- The data is a field of the number that holds the content behind its length. -/
def Framed (number : Nat) (content data : Bytes) : Prop :=
  ∃ key length, Key.IsSpelling key ⟨number, .lengthDelimited⟩ ∧
    Varint.IsSpelling length content.length ∧ data = key ++ (length ++ content)

theorem Framed.ne_nil {number : Nat} {content data : Bytes} (h : Framed number content data) :
    data ≠ [] := by
  obtain ⟨key, length, hkey, -, rfl⟩ := h
  simp [hkey.finds.ne_nil]

theorem framed_delimitedField {number : Nat} {content : Bytes} (hnumber : Key.IsNumber number)
    (h : content.length < Varint.bound) :
    Framed number content (delimitedField number content) :=
  ⟨_, _, Key.isSpelling_encode hnumber, Varint.isSpelling_encode h, rfl⟩

/-! ## Numbers in a field -/

/-- The data spells a signed integer, in two's complement. -/
def SpellsInt64 (data : Bytes) (a : Int64) : Prop := Varint.IsSpelling data a.toUInt64.toNat

/-- The data spells an unsigned integer. -/
def SpellsUInt64 (data : Bytes) (a : UInt64) : Prop := Varint.IsSpelling data a.toNat

/-- The data spells a number whose low 32 bits are those of the signed integer. -/
def SpellsInt32 (data : Bytes) (a : Int32) : Prop :=
  ∃ n, Varint.IsSpelling data n ∧ UInt32.ofNat n = a.toUInt32

/-- The data is the bits of a floating-point number. -/
def SpellsFloat (data : Bytes) (a : Binary32) : Prop := data = binary32Bytes a

/-- The data is the bits of a floating-point number with 64 bits. -/
def SpellsDouble (data : Bytes) (a : Binary64) : Prop := data = binary64Bytes a

theorem SpellsInt64.finds {data : Bytes} {a : Int64} (h : SpellsInt64 data a) :
    Scalar.int64.read.Finds data (.ok a) := by
  have hvalue : (UInt64.ofNat a.toUInt64.toNat).toInt64 = a := by simp
  have hread := (Varint.IsSpelling.finds h).map fun n => (UInt64.ofNat n).toInt64
  rwa [Except.map, hvalue] at hread

theorem SpellsUInt64.finds {data : Bytes} {a : UInt64} (h : SpellsUInt64 data a) :
    Scalar.uint64.read.Finds data (.ok a) := by
  have hread := (Varint.IsSpelling.finds h).map UInt64.ofNat
  rwa [Except.map, UInt64.ofNat_toNat] at hread

theorem SpellsInt32.finds {data : Bytes} {a : Int32} (h : SpellsInt32 data a) :
    Scalar.int32.read.Finds data (.ok a) := by
  obtain ⟨n, hn, hlow⟩ := h
  have hread := hn.finds.map fun n => (UInt32.ofNat n).toInt32
  rwa [Except.map, hlow, Int32.toInt32_toUInt32] at hread

theorem SpellsFloat.finds {data : Bytes} {a : Binary32} (h : SpellsFloat data a) :
    Scalar.float.read.Finds data (.ok a) := by
  subst h
  exact finds_fixed a

theorem SpellsDouble.finds {data : Bytes} {a : Binary64} (h : SpellsDouble data a) :
    Scalar.double.read.Finds data (.ok a) := by
  subst h
  exact finds_fixed a

end TensorGraph.Wire
