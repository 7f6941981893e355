import TensorGraph.Proofs.Wire.Pieces
import TensorGraph.Record.Encode

/-!
# What a reader takes off the front

To read back what was written, a reader has to know where it ends, whatever stands behind it.
`Reader.Takes r data a` says that `r` takes just `data` off the front of anything and makes `a` of
it, and `Reader.TakesMany r data as` that `data` is a row of such pieces.  For data that fits into
memory this is `Reader.Finds` and `Reader.FindsMany`.

* `Takes.mapOrFail`, `Takes.bind` and `Takes.within` follow the ways in which readers are put
  together.
* `TakesMany.many` reads a row of pieces up to its end, and `TakesMany.delimited` one that stands
  behind its length.
* `takes_varint` and `takes_key` are the two leaves that all other readers end in.

Lengths are written as varints, which end at `Varint.bound`; data of that length fits into no
memory, and `Takes` says nothing about it.  In return, no statement here or further on has to speak
of lengths.
-/

set_option autoImplicit false

namespace TensorGraph.Wire

open Encode

/-- The numbers below this bound are those that ten digits can hold. -/
def Varint.bound : Nat := 0x10000000000000000

/-- How many numbers can be read if there is room for `room` digits in front of the tenth, which is
0 or 1. -/
def Varint.capacity : (room : Nat) → Nat
  | 0 => 2
  | room + 1 => 128 * capacity room

variable {α β : Type}

namespace Reader

/-- The reader takes `data` off the front of anything, and makes `a` of it. -/
def Takes (r : Reader α) (data : Bytes) (a : α) : Prop :=
  data.length < Varint.bound → ∀ rest, r.run (data ++ rest) = .ok (a, rest)

/-- The data consists of pieces that the reader takes one after the other. -/
inductive TakesMany (r : Reader α) : Bytes → List α → Prop where
  | nil : TakesMany r [] []
  | cons {piece data : Bytes} {a : α} {as : List α} (head : r.Takes piece a)
      (tail : TakesMany r data as) : TakesMany r (piece ++ data) (a :: as)

/-! ## Readers put together -/

variable {r : Reader α} {data data' : Bytes} {a : α} {b : β}

theorem Takes.mapOrFail {f : α → Except DecodeFault β} (h : r.Takes data a) (hf : f a = .ok b) :
    (r.mapOrFail f).Takes data b := by
  intro hlen
  have hfinds : r.Finds data (.ok a) := h hlen
  exact hfinds.mapOrFail hf

theorem Takes.map (h : r.Takes data a) (f : α → β) : (r.map f).Takes data (f a) :=
  h.mapOrFail rfl

theorem Takes.bind {f : α → Reader β} (h : r.Takes data a) (h' : (f a).Takes data' b) :
    (r.bind f).Takes (data ++ data') b := by
  intro hlen
  rw [List.length_append] at hlen
  have hfirst : r.Finds data (.ok a) := h (by omega)
  have hsecond : (f a).Finds data' (.ok b) := h' (by omega)
  exact hfirst.bind hsecond

theorem Takes.within (h : r.Takes data a) (location : Location) :
    (r.within location).Takes data a := by
  intro hlen
  have hfinds : r.Finds data (.ok a) := h hlen
  exact hfinds.within location

/-! ## Reading in a row -/

theorem TakesMany.append {as as' : List α} (h : r.TakesMany data as) (h' : r.TakesMany data' as') :
    r.TakesMany (data ++ data') (as ++ as') := by
  induction h with
  | nil => exact h'
  | cons head _ ih =>
    rw [List.append_assoc, List.cons_append]
    exact .cons head ih

theorem Takes.many (h : r.Takes data a) : r.TakesMany data [a] := by
  simpa using TakesMany.cons h .nil

theorem takesMany_flatMap {value : α → Bytes} (h : ∀ a, r.Takes (value a) a) (as : List α) :
    r.TakesMany (as.flatMap value) as := by
  induction as with
  | nil => exact .nil
  | cons a as ih => exact .cons (h a) ih

/-- **A row of pieces is read as a row.** -/
theorem TakesMany.findsMany {as : List α} (h : r.TakesMany data as)
    (hlen : data.length < Varint.bound) : r.FindsMany data (.ok as) := by
  induction h with
  | nil => exact findsMany_nil r
  | @cons piece data a as head _ ih =>
    rw [List.length_append] at hlen
    have hfirst : r.Finds piece (.ok a) := head (by omega)
    exact .cons hfirst (ih (by omega))

/-- A row of pieces is read up to its end. -/
theorem TakesMany.many {as : List α} (h : r.TakesMany data as) (hlen : data.length < Varint.bound)
    (rest : Bytes) : r.many rest.length (data ++ rest) = .ok (as, rest) := by
  rw [h.findsMany hlen rest rest.length (Nat.le_refl _), many_length]
  simp [Bind.bind, Except.bind, pure, Except.pure]

end Reader

/-! ## Varints and keys -/

namespace Varint

theorem read?_last {room n : Nat} (h : n < 128) (hroom : room = 0 → n < 2) (rest : Bytes) :
    read? (room + 1) (UInt8.ofNat n :: rest) = some (n, rest) := by
  have hb : (UInt8.ofNat n).toNat = n := by
    rw [UInt8.toNat_ofNat']
    omega
  have hsmall : UInt8.ofNat n < 128 := by
    rw [UInt8.lt_iff_toNat_lt, hb]
    exact h
  have hfits : ¬ (room = 0 ∧ 1 < UInt8.ofNat n) := by
    rintro ⟨hzero, hone⟩
    rw [UInt8.lt_iff_toNat_lt, hb, UInt8.toNat_one] at hone
    have := hroom hzero
    omega
  rw [read?, if_pos hsmall, if_neg hfits, hb]

theorem read?_next {room n : Nat} {data rest : Bytes} (h : read? room data = some (n / 128, rest)) :
    read? (room + 1) (UInt8.ofNat (n % 128 + 128) :: data) = some (n, rest) := by
  have hb : (UInt8.ofNat (n % 128 + 128)).toNat = n % 128 + 128 := by
    rw [UInt8.toNat_ofNat']
    omega
  have hlarge : ¬ UInt8.ofNat (n % 128 + 128) < 128 := by
    have h128 : (128 : UInt8).toNat = 128 := rfl
    rw [UInt8.lt_iff_toNat_lt, hb, h128]
    omega
  have hvalue : (n % 128 + 128) % 128 + 128 * (n / 128) = n := by omega
  rw [read?, if_neg hlarge, h, hb]
  simp only [hvalue]

/-- **A number is read back from its digits**, if there is room for them. -/
theorem read?_encode (room : Nat) {n : Nat} (h : n < capacity room) (rest : Bytes) :
    read? (room + 1) (encode n ++ rest) = some (n, rest) := by
  induction room generalizing n with
  | zero =>
    rw [capacity] at h
    rw [encode, if_pos (by omega)]
    exact read?_last (by omega) (fun _ => by omega) rest
  | succ room ih =>
    by_cases hn : n < 128
    · rw [encode, if_pos hn]
      exact read?_last hn (fun hzero => by omega) rest
    · rw [encode, if_neg hn, List.cons_append]
      refine read?_next (ih ?_)
      rw [capacity] at h
      omega

end Varint

theorem takes_varint {n : Nat} (h : n < Varint.bound) :
    Varint.reader.Takes (Varint.encode n) n := by
  intro _ rest
  have hread := Varint.read?_encode 9 h rest
  simp only [Varint.reader, Varint.maxBytes, hread]

/-- The numbers that a field can have. -/
abbrev Key.IsNumber (number : Nat) : Prop := 0 < number ∧ number < 0x20000000

theorem takes_key {number : Nat} (wireType : WireType) (h : Key.IsNumber number) :
    Key.reader.Takes (Key.encode ⟨number, wireType⟩) ⟨number, wireType⟩ := by
  have hcode : wireType.code < 8 := by cases wireType <;> decide
  have hkey : 8 * number + wireType.code < Key.bound := by
    have hlt := h.2
    rw [Key.bound]
    omega
  have hbound : Key.bound < Varint.bound := by decide
  exact (takes_varint (Nat.lt_trans hkey hbound)).mapOrFail
    (Key.ofNat_eq_ok (Nat.ne_of_gt h.1) hkey)

/-! ## Behind a length -/

theorem takes_delimited (data : Bytes) : Reader.delimited.Takes (delimited data) data := by
  intro hlen
  rw [delimited, List.length_append] at hlen
  have hlength := takes_varint (n := data.length) (by omega) (by omega)
  exact Reader.finds_delimited hlength

/-- **Values that stand in a row behind their length are read back.** -/
theorem Reader.TakesMany.delimited {r : Reader α} {data : Bytes} {as : List α}
    (h : r.TakesMany data as) : r.delimitedMany.Takes (Encode.delimited data) as := by
  intro hlen
  rw [Encode.delimited, List.length_append] at hlen
  have hlength := takes_varint (n := data.length) (by omega) (by omega)
  exact (h.findsMany (by omega)).delimited hlength

/-! ## Scalars -/

theorem takes_int64 (a : Int64) : Scalar.int64.read.Takes (int64Bytes a) a := by
  have hvalue : (UInt64.ofNat a.toUInt64.toNat).toInt64 = a := by simp
  have hread := (takes_varint a.toUInt64.toNat_lt).map fun n => (UInt64.ofNat n).toInt64
  rwa [hvalue] at hread

theorem takes_uint64 (a : UInt64) : Scalar.uint64.read.Takes (uint64Bytes a) a := by
  have hread := (takes_varint a.toNat_lt).map UInt64.ofNat
  rwa [UInt64.ofNat_toNat] at hread

/-- A negative number of 32 bits is written with 64, of which the low half is read. -/
theorem takes_int32 (a : Int32) : Scalar.int32.read.Takes (int32Bytes a) a := by
  have hlow : a.toInt64.toUInt64.toUInt32.toInt32 = a.toInt64.toInt32 := by
    have hcut : a.toInt64.toBitVec.signExtend 32 = a.toInt64.toBitVec.setWidth 32 :=
      BitVec.signExtend_eq_setWidth_of_le _ (by decide)
    exact Int32.toBitVec.inj hcut.symm
  have hvalue : (UInt32.ofNat a.toInt64.toUInt64.toNat).toInt32 = a := by
    rw [← UInt64.toUInt32_ofNat', UInt64.ofNat_toNat, hlow, a.toInt32_toInt64]
  have hread := (takes_varint a.toInt64.toUInt64.toNat_lt).map fun n => (UInt32.ofNat n).toInt32
  rwa [hvalue] at hread

theorem finds_fixed {α : Type} [FixedWidth α] (a : α) :
    (Scalar.fixed α).Finds (FixedWidth.encode .little a) (.ok a) := by
  have hbytes := Reader.finds_take FixedWidth.width_pos (FixedWidth.length_encode .little a)
  have hread := hbytes.map (FixedWidth.decode .little : Bytes → α)
  rwa [Except.map, FixedWidth.decode_encode] at hread

theorem takes_float (a : Binary32) : Scalar.float.read.Takes (binary32Bytes a) a :=
  fun _ => finds_fixed a

theorem takes_double (a : Binary64) : Scalar.double.read.Takes (binary64Bytes a) a :=
  fun _ => finds_fixed a

theorem takes_string (text : String) :
    Scalar.string.read.Takes (delimited (Text.toUtf8 text)) text := by
  refine (takes_delimited (Text.toUtf8 text)).mapOrFail ?_
  rw [Text.ofUtf8?_toUtf8]

end TensorGraph.Wire
