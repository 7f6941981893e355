import TensorGraph.Proofs.Tensor.Sizes

/-!
# Words in a byte string

The content of a tensor is a sequence of words of one width, all laid out in one byte order.
Here such a sequence is `ByteOrder.pack`, on bit patterns and not on numbers, so that one lemma
serves every kind of numbers and every byte order: what is read from a packed tensor as numbers of
a kind are the numbers with those patterns, cut down to the width (`Tensor.toList_of_pack`).  In
particular the byte order can no longer be seen.

Packed words are cut apart again (`cutWords_flatten`), reversed or not, and so the two ways to read
in bulk come to one (`Tensor.toList_eq`).
-/

set_option autoImplicit false

namespace TensorGraph

/-! ## Low bytes -/

/-- Only the low bytes of a number are written. -/
theorem lowBytes_mod (width n : Nat) : lowBytes width (n % wordCount width) = lowBytes width n := by
  have h := lowBytes_ofLowBytes (lowBytes width n)
  rwa [length_lowBytes, ofLowBytes_lowBytes] at h

theorem ByteOrder.encode_mod (order : ByteOrder) (width n : Nat) :
    order.encode width (n % wordCount width) = order.encode width n := by
  rw [encode, lowBytes_mod, encode]

/-! ## Packing -/

/-- The words with the given bit patterns, one after the other. -/
def ByteOrder.pack (order : ByteOrder) (width : Nat) (patterns : List Nat) : Bytes :=
  patterns.flatMap (order.encode width)

namespace ByteOrder

variable {order : ByteOrder} {width : Nat}

theorem pack_cons (n : Nat) (patterns : List Nat) :
    order.pack width (n :: patterns) = order.encode width n ++ order.pack width patterns := rfl

@[simp] theorem length_pack (patterns : List Nat) :
    (order.pack width patterns).length = width * patterns.length := by
  induction patterns with
  | nil => rfl
  | cons n patterns ih =>
    rw [pack_cons, List.length_append, length_encode, ih, List.length_cons, Nat.mul_succ,
      Nat.add_comm]

theorem pack_map_mod (patterns : List Nat) :
    order.pack width (patterns.map (· % wordCount width)) = order.pack width patterns := by
  induction patterns with
  | nil => rfl
  | cons n patterns ih => rw [List.map_cons, pack_cons, pack_cons, encode_mod, ih]

/-- To pack numbers is to pack their bit patterns. -/
theorem flatMap_encode {α : Type} [FixedWidth α] (values : List α) :
    values.flatMap (FixedWidth.encode order) =
      order.pack (FixedWidth.width α) (values.map FixedWidth.pattern) := by
  rw [pack, List.flatMap_map]
  rfl

end ByteOrder

/-! ## Cutting -/

theorem length_flatten_words {width : Nat} {words : List Bytes}
    (h : ∀ word ∈ words, word.length = width) : words.flatten.length = words.length * width := by
  induction words with
  | nil => simp
  | cons word words ih =>
    rw [List.forall_mem_cons] at h
    rw [List.flatten_cons, List.length_append, h.1, ih h.2, List.length_cons, Nat.succ_mul,
      Nat.add_comm]

/-- Words one after the other are cut apart again, whatever comes behind them. -/
theorem cutWords_flatten {width : Nat} {words : List Bytes}
    (h : ∀ word ∈ words, word.length = width) (rest : Bytes) :
    cutWords width words.length (words.flatten ++ rest) = words := by
  induction words with
  | nil => rfl
  | cons word words ih =>
    rw [List.forall_mem_cons] at h
    rw [List.flatten_cons, List.append_assoc, List.length_cons, cutWords, List.take_left' h.1,
      List.drop_left' h.1, ih h.2]

section Cut

variable {width count : Nat} {bytes : Bytes}

theorem flatten_cutWords (width count : Nat) (bytes : Bytes) :
    (cutWords width count bytes).flatten = bytes.take (count * width) := by
  induction count generalizing bytes with
  | zero => simp [cutWords]
  | succ count ih =>
    rw [cutWords, List.flatten_cons, ih, Nat.succ_mul, Nat.add_comm, List.take_add]

theorem length_of_mem_cutWords (h : count * width ≤ bytes.length) :
    ∀ word ∈ cutWords width count bytes, word.length = width := by
  induction count generalizing bytes with
  | zero => simp [cutWords]
  | succ count ih =>
    rw [Nat.succ_mul] at h
    rw [cutWords, List.forall_mem_cons]
    refine ⟨?_, ih ?_⟩
    · rw [List.length_take]
      omega
    · rw [List.length_drop]
      omega

theorem length_of_mem_wholeWords :
    ∀ word ∈ cutWords width (bytes.length / width) bytes, word.length = width :=
  length_of_mem_cutWords (Nat.div_mul_le_self _ _)

theorem length_of_mem_map_reverse {words : List Bytes} (h : ∀ word ∈ words, word.length = width) :
    ∀ word ∈ words.map List.reverse, word.length = width :=
  List.forall_mem_map.2 fun word hword => List.length_reverse.trans (h word hword)

@[simp] theorem length_reverseWords (width : Nat) (bytes : Bytes) :
    (reverseWords width bytes).length = bytes.length := by
  have hle := Nat.div_mul_le_self bytes.length width
  rw [reverseWords, List.flatMap_def, List.length_append, List.length_drop,
    length_flatten_words (length_of_mem_map_reverse length_of_mem_wholeWords), List.length_map,
    length_cutWords]
  omega

/-- What was reversed word by word is cut into the reversed words. -/
theorem cutWords_reverseWords (width : Nat) (bytes : Bytes) :
    cutWords width (bytes.length / width) (reverseWords width bytes) =
      (cutWords width (bytes.length / width) bytes).map List.reverse := by
  have h := cutWords_flatten (length_of_mem_map_reverse (@length_of_mem_wholeWords width bytes))
    (bytes.drop (bytes.length / width * width))
  rwa [List.length_map, length_cutWords, ← List.flatMap_def] at h

end Cut

theorem cutWords_pack (order : ByteOrder) (width : Nat) (patterns : List Nat) :
    cutWords width patterns.length (order.pack width patterns) =
      patterns.map (order.encode width) := by
  have hlength : ∀ word ∈ patterns.map (order.encode width), word.length = width := by simp
  have h := cutWords_flatten hlength []
  rwa [List.length_map, List.append_nil, ← List.flatMap_def] at h

/-- Every byte string of whole words is a packing of bit patterns. -/
theorem exists_pack (order : ByteOrder) {width count : Nat} {bytes : Bytes}
    (h : bytes.length = width * count) :
    ∃ patterns : List Nat, patterns.length = count ∧ (∀ n ∈ patterns, n < wordCount width) ∧
      bytes = order.pack width patterns := by
  rw [Nat.mul_comm] at h
  have hlength := length_of_mem_cutWords (Nat.le_of_eq h.symm)
  refine ⟨(cutWords width count bytes).map order.decode, ?_, ?_, ?_⟩
  · rw [List.length_map, length_cutWords]
  · intro n hn
    obtain ⟨word, hword, rfl⟩ := List.mem_map.1 hn
    rw [← hlength word hword]
    exact order.decode_lt word
  · have hword : ∀ word ∈ cutWords width count bytes,
        order.encode width (order.decode word) = word := fun word hword => by
      rw [← hlength word hword, ByteOrder.encode_decode]
    rw [ByteOrder.pack, List.flatMap_map, List.flatMap_def, List.map_congr_left hword,
      List.map_id', flatten_cutWords, ← h, List.take_length]

/-! ## Reading -/

section Reading

variable (host order : ByteOrder) (α : Type) [FixedWidth α]

theorem ByteOrder.decode_reverse {host order : ByteOrder} (h : order ≠ host) (bytes : Bytes) :
    host.decode bytes.reverse = order.decode bytes := by
  cases host <;> cases order <;> simp_all [decode, arrange]

/-- To read reversed words in the one order is to read the words in the other one. -/
theorem collect_reverseWords {host order : ByteOrder} (h : order ≠ host) (bytes : Bytes) :
    collect host α (reverseWords (FixedWidth.width α) bytes) =
      (cutWords (FixedWidth.width α) (bytes.length / FixedWidth.width α) bytes).map
        (FixedWidth.decode order) := by
  rw [collect, length_reverseWords, cutWords_reverseWords, List.map_map]
  exact List.map_congr_left fun word _ =>
    congrArg FixedWidth.ofPattern (ByteOrder.decode_reverse h word)

/-- A single byte reads the same in either order. -/
theorem collect_of_width_eq_one (hwidth : FixedWidth.width α = 1) (bytes : Bytes) :
    collect host α bytes =
      (cutWords (FixedWidth.width α) (bytes.length / FixedWidth.width α) bytes).map
        (FixedWidth.decode order) := by
  refine List.map_congr_left fun word hword => ?_
  have hlength := length_of_mem_wholeWords word hword
  rw [hwidth] at hlength
  obtain ⟨b, rfl⟩ := List.length_eq_one_iff.1 hlength
  cases host <;> cases order <;> rfl

/-- **Both ways to read in bulk** are to cut the bytes into words and to decode each of them in the
tensor's byte order, whatever the host's is. -/
theorem Tensor.toList_eq (t : Tensor) :
    t.toList host α = do
      t.info.elementType.checkWidth α
      let bytes ← t.bytes
      return (cutWords (FixedWidth.width α) (bytes.length / FixedWidth.width α) bytes).map
        (FixedWidth.decode t.byteOrder) := by
  rw [toList]
  refine bind_congr fun _ => bind_congr fun bytes => ?_
  by_cases horder : t.byteOrder = host
  · rw [if_pos (.inl horder), collect, horder]
  · by_cases hwidth : FixedWidth.width α = 1
    · rw [if_pos (.inr hwidth), collect_of_width_eq_one host t.byteOrder α hwidth]
    · rw [if_neg (not_or.2 ⟨horder, hwidth⟩), collect_reverseWords α horder]

end Reading

namespace Tensor

variable {host : ByteOrder}

/-- Numbers of another width than the elements' are refused before anything else. -/
theorem toList_of_unitSize?_ne {α : Type} [FixedWidth α] {t : Tensor}
    (hwidth : t.info.elementType.unitSize? ≠ some (FixedWidth.width α)) :
    t.toList host α =
      .error (.illegalArgument (.elementWidth (FixedWidth.name α) t.info.elementType)) := by
  rw [toList_eq, ElementType.checkWidth, ElementType.holds, if_neg (by simpa using hwidth)]
  rfl

/-- **Reading packed words.**  Whatever the byte order of a tensor is, its words are read as the
numbers that have their bit patterns, cut down to the width. -/
theorem toList_of_pack {α : Type} [FixedWidth α] {t : Tensor} {patterns : List Nat}
    (hwidth : t.info.elementType.unitSize? = some (FixedWidth.width α))
    (hbytes : t.bytes = .ok (t.byteOrder.pack (FixedWidth.width α) patterns)) :
    t.toList host α =
      .ok (patterns.map fun n => FixedWidth.ofPattern (n % wordCount (FixedWidth.width α))) := by
  have hcount : FixedWidth.width α * patterns.length / FixedWidth.width α = patterns.length :=
    Nat.mul_div_cancel_left _ FixedWidth.width_pos
  rw [toList_eq, ElementType.checkWidth_eq_ok_iff.2 hwidth, hbytes]
  show Except.ok _ = _
  rw [ByteOrder.length_pack, hcount, cutWords_pack, List.map_map]
  congr 2
  funext n
  show FixedWidth.ofPattern (t.byteOrder.decode (t.byteOrder.encode _ n)) = _
  rw [ByteOrder.decode_encode]

/-- What was packed is read back. -/
theorem toList_of_encode {α : Type} [FixedWidth α] {t : Tensor} {values : List α}
    (hwidth : t.info.elementType.unitSize? = some (FixedWidth.width α))
    (hbytes : t.bytes = .ok (values.flatMap (FixedWidth.encode t.byteOrder))) :
    t.toList host α = .ok values := by
  rw [ByteOrder.flatMap_encode] at hbytes
  rw [toList_of_pack hwidth hbytes, List.map_map]
  congr 1
  have hvalue (a : α) : FixedWidth.ofPattern
      (FixedWidth.pattern a % wordCount (FixedWidth.width α)) = a := by
    rw [Nat.mod_eq_of_lt (FixedWidth.pattern_lt a), FixedWidth.ofPattern_pattern]
  exact (List.map_congr_left fun a _ => hvalue a).trans (List.map_id _)

end Tensor

end TensorGraph
