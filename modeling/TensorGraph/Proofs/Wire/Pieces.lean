import TensorGraph.Wire.Message

/-!
# What a reader finds does not depend on what stands behind it

A reader looks at data to whose end it does not go, so it should not matter to it what stands
there.  `Reader.Finds r piece x` says so of one piece: whatever stands behind the piece, the reader
finds `x` at it, and that is either a value, with just the piece taken off, or a fault.

All readers of the format have the property that wherever they read a value they also find it, and
they keep it when the budget for nested records shrinks, except that they may then find a fault in
place of the value.  `Follows r' r` is this property of the reader with the smaller budget and the
one with the greater: where `r` reads a value, `r'` finds the same value in the same piece, or a
fault.

* `Finds.mapOrFail`, `Finds.bind` and `Finds.within`, and the same lemmas of `Follows`, follow the
  ways in which readers are put together.
* `FindsMany` is the same for values in a row, and `Follows.many` makes a row of pieces out of
  whatever was read.
* `finds_delimited`, `FindsMany.delimited` and `Follows.delimitedMany` are about what stands behind
  a length.
-/

set_option autoImplicit false

namespace TensorGraph.Wire

variable {α β : Type}

namespace Reader

variable {r r' : Reader α} {data piece piece' row rest : Bytes} {a : α} {as : List α}

/-- Whatever stands behind the piece, the reader finds `x` at it: a value, for which it takes just
the piece, or a fault. -/
def Finds (r : Reader α) (piece : Bytes) (x : Except DecodeError α) : Prop :=
  ∀ rest, r.run (piece ++ rest) = x.map fun a => (a, rest)

/-- Where `r` reads a value, `r'` finds that value in the same piece, or finds a fault there. -/
def Follows (r' r : Reader α) : Prop :=
  ∀ ⦃data a rest⦄, r.run data = .ok (a, rest) →
    ∃ piece, data = piece ++ rest ∧ (r'.Finds piece (.ok a) ∨ ∃ e, r'.Finds piece (.error e))

theorem Finds.ne_nil (h : r.Finds piece (.ok a)) : piece ≠ [] := by
  rintro rfl
  have hshorter := r.shorter (h [])
  simp at hshorter

/-- A reader that follows itself finds what it reads. -/
theorem Follows.finds (h : r.Follows r) (hread : r.run data = .ok (a, rest)) :
    ∃ piece, data = piece ++ rest ∧ r.Finds piece (.ok a) := by
  obtain ⟨piece, rfl, hfinds | ⟨e, hfinds⟩⟩ := h hread
  · exact ⟨piece, rfl, hfinds⟩
  · have herror := hfinds rest
    rw [hread] at herror
    cases herror

theorem follows_of_finds (h : ∀ data a rest, r.run data = .ok (a, rest) →
    ∃ piece, data = piece ++ rest ∧ r.Finds piece (.ok a)) : r.Follows r := by
  intro data a rest hread
  obtain ⟨piece, hdata, hfinds⟩ := h data a rest hread
  exact ⟨piece, hdata, .inl hfinds⟩

theorem follows_fail (h : r.Follows r) (fault : DecodeFault) : (fail fault).Follows r := by
  intro data a rest hread
  obtain ⟨piece, hdata, -⟩ := h.finds hread
  exact ⟨piece, hdata, .inr ⟨⟨[], fault⟩, fun _ => rfl⟩⟩

theorem fail_follows (r : Reader α) (fault : DecodeFault) : r.Follows (fail fault) := by
  intro data a rest hread
  cases hread

/-! ## Readers put together -/

theorem Finds.mapOrFail {f : α → Except DecodeFault β} {b : β} (h : r.Finds piece (.ok a))
    (hf : f a = .ok b) : (r.mapOrFail f).Finds piece (.ok b) := by
  intro rest
  simp only [Reader.mapOrFail, h rest, Except.map, hf]

theorem Finds.map {x : Except DecodeError α} (h : r.Finds piece x) (f : α → β) :
    (r.map f).Finds piece (x.map f) := by
  intro rest
  simp only [Reader.map, Reader.mapOrFail, h rest]
  cases x <;> rfl

theorem Finds.bind {f : α → Reader β} {y : Except DecodeError β} (h : r.Finds piece (.ok a))
    (hf : (f a).Finds piece' y) : (r.bind f).Finds (piece ++ piece') y := by
  intro rest
  simp only [Reader.bind, List.append_assoc, h (piece' ++ rest), Except.map]
  exact hf rest

theorem Finds.within {x : Except DecodeError α} (h : r.Finds piece x) (location : Location) :
    (r.within location).Finds piece (x.mapError (·.within location)) := by
  intro rest
  simp only [Reader.within, h rest]
  cases x <;> rfl

theorem Follows.mapOrFail (h : r'.Follows r) (f : α → Except DecodeFault β) :
    (r'.mapOrFail f).Follows (r.mapOrFail f) := by
  intro data b rest hread
  simp only [Reader.mapOrFail] at hread
  split at hread
  · cases hread
  · rename_i a rest' ha
    split at hread
    · cases hread
    · rename_i b' hb
      cases hread
      obtain ⟨piece, hdata, hfinds | ⟨e, hfinds⟩⟩ := h ha
      · exact ⟨piece, hdata, .inl (hfinds.mapOrFail hb)⟩
      · refine ⟨piece, hdata, .inr ⟨e, fun more => ?_⟩⟩
        simp only [Reader.mapOrFail, hfinds more, Except.map]

theorem Follows.map (h : r'.Follows r) (f : α → β) : (r'.map f).Follows (r.map f) :=
  h.mapOrFail _

theorem Follows.bind {f f' : α → Reader β} (h : r'.Follows r) (hf : ∀ a, (f' a).Follows (f a)) :
    (r'.bind f').Follows (r.bind f) := by
  intro data b rest hread
  simp only [Reader.bind] at hread
  split at hread
  · cases hread
  · rename_i a rest' ha
    obtain ⟨piece', rfl, hsecond⟩ := hf a hread
    obtain ⟨piece, rfl, hfinds | ⟨e, hfinds⟩⟩ := h ha
    · refine ⟨piece ++ piece', (List.append_assoc _ _ _).symm, ?_⟩
      rcases hsecond with hsecond | ⟨e, hsecond⟩
      · exact .inl (hfinds.bind hsecond)
      · exact .inr ⟨e, hfinds.bind hsecond⟩
    · refine ⟨piece ++ piece', (List.append_assoc _ _ _).symm, .inr ⟨e, fun more => ?_⟩⟩
      simp only [Reader.bind, List.append_assoc, hfinds (piece' ++ more), Except.map]

theorem Follows.within (h : r'.Follows r) (location : Location) :
    (r'.within location).Follows (r.within location) := by
  intro data a rest hread
  simp only [Reader.within] at hread
  split at hread
  · cases hread
  · rename_i found ha
    cases hread
    obtain ⟨piece, hdata, hfinds | ⟨e, hfinds⟩⟩ := h ha
    · exact ⟨piece, hdata, .inl (hfinds.within location)⟩
    · exact ⟨piece, hdata, .inr ⟨_, hfinds.within location⟩⟩

/-! ## Reading in a row -/

/-- Whatever stands behind the row, the reader finds `x` at it: the values of the row, or a
fault. -/
def FindsMany (r : Reader α) (row : Bytes) (x : Except DecodeError (List α)) : Prop :=
  ∀ rest limit, limit ≤ rest.length → r.many limit (row ++ rest) = do
    let as ← x
    let (later, rest') ← r.many limit rest
    return (as ++ later, rest')

/-- One step of reading in a row. -/
theorem many_of_lt {limit : Nat} (hlt : limit < data.length) :
    r.many limit data = do
      let (a, rest) ← r.run data
      let (as, rest') ← r.many limit rest
      return (a :: as, rest') := by
  rw [many, if_pos hlt]
  split
  · rename_i e he
    rw [he]
    rfl
  · rename_i a rest ha
    rw [ha]
    simp only [Bind.bind, Except.bind]
    cases r.many limit rest <;> rfl

theorem many_length (r : Reader α) (rest : Bytes) : r.many rest.length rest = .ok ([], rest) := by
  rw [many]
  simp

theorem findsMany_nil (r : Reader α) : r.FindsMany [] (.ok []) := by
  intro rest limit _
  rw [List.nil_append]
  cases r.many limit rest <;> rfl

theorem Finds.lt_length (hne : piece ≠ []) {limit : Nat} (hlimit : limit ≤ rest.length) :
    limit < (piece ++ rest).length := by
  have hpos := List.length_pos_iff.2 hne
  rw [List.length_append]
  omega

theorem FindsMany.cons {x : Except DecodeError (List α)} (h : r.Finds piece (.ok a))
    (hrow : r.FindsMany row x) : r.FindsMany (piece ++ row) (x.map (a :: ·)) := by
  intro rest limit hlimit
  have hlimit' : limit ≤ (row ++ rest).length := by
    rw [List.length_append]
    omega
  rw [List.append_assoc, many_of_lt (Finds.lt_length h.ne_nil hlimit'), h (row ++ rest)]
  simp only [Bind.bind, Except.bind, Except.map, hrow rest limit hlimit]
  cases x with
  | error e => rfl
  | ok as => cases r.many limit rest <;> rfl

theorem findsMany_error {e : DecodeError} (h : r.Finds piece (.error e)) (hne : piece ≠ [])
    (row : Bytes) : r.FindsMany (piece ++ row) (.error e) := by
  intro rest limit hlimit
  have hlimit' : limit ≤ (row ++ rest).length := by
    rw [List.length_append]
    omega
  rw [List.append_assoc, many_of_lt (Finds.lt_length hne hlimit'), h (row ++ rest)]
  rfl

/-- **What was read in a row is a row of pieces**, at which a reader that follows finds the same
values or a fault. -/
theorem Follows.many (h : r'.Follows r) {limit : Nat} (hmany : r.many limit data = .ok (as, rest)) :
    ∃ row, data = row ++ rest ∧
      (r'.FindsMany row (.ok as) ∨ ∃ e, r'.FindsMany row (.error e)) := by
  fun_induction Reader.many r limit data generalizing as rest with
  | case1 => cases hmany
  | case2 => cases hmany
  | case3 data _ a rest₁ ha as₁ rest₂ htail ih =>
    cases hmany
    obtain ⟨piece, rfl, hpiece⟩ := h ha
    obtain ⟨row, rfl, hrow⟩ := ih htail
    refine ⟨piece ++ row, (List.append_assoc _ _ _).symm, ?_⟩
    rcases hpiece with hpiece | ⟨e, hpiece⟩
    · rcases hrow with hrow | ⟨e, hrow⟩
      · exact .inl (.cons hpiece hrow)
      · exact .inr ⟨e, .cons hpiece hrow⟩
    · have hne : piece ≠ [] := by
        rintro rfl
        exact Nat.lt_irrefl _ (r.shorter ha)
      exact .inr ⟨e, findsMany_error hpiece hne row⟩
  | case4 =>
    cases hmany
    exact ⟨[], rfl, .inl (findsMany_nil r')⟩
  | case5 => cases hmany

/-! ## Behind a length -/

theorem finds_take {count : Nat} (pos : 0 < count) (h : piece.length = count) :
    (take count pos).Finds piece (.ok piece) := by
  intro rest
  subst h
  simp [take, Except.map]

theorem follows_take {count : Nat} (pos : 0 < count) :
    (take count pos).Follows (take count pos) := by
  refine follows_of_finds fun data a rest hread => ?_
  simp only [take] at hread
  split at hread
  · cases hread
  · rename_i hlen
    cases hread
    have hcount : (data.take count).length = count := by
      rw [List.length_take]
      omega
    exact ⟨_, (List.take_append_drop _ _).symm, finds_take pos hcount⟩

variable {length content : Bytes}

theorem finds_delimited (h : Varint.reader.Finds length (.ok content.length)) :
    delimited.Finds (length ++ content) (.ok content) := by
  intro rest
  have hfits : ¬ (content ++ rest).length < content.length := by
    rw [List.length_append]
    omega
  simp only [delimited, List.append_assoc, h (content ++ rest), Except.map, if_neg hfits]
  simp

/-- Values that stand in a row behind their length. -/
theorem FindsMany.delimited {x : Except DecodeError (List α)} (h : r.FindsMany row x)
    (hlength : Varint.reader.Finds length (.ok row.length)) :
    r.delimitedMany.Finds (length ++ row) x := by
  intro rest
  have hfits : ¬ (row ++ rest).length < row.length := by
    rw [List.length_append]
    omega
  have hlimit : (row ++ rest).length - row.length = rest.length := by
    rw [List.length_append, Nat.add_sub_cancel_left]
  simp only [delimitedMany, List.append_assoc, hlength (row ++ rest), Except.map, if_neg hfits,
    hlimit, h rest rest.length (Nat.le_refl _), many_length]
  cases x with
  | error e => rfl
  | ok as => simp [Bind.bind, Except.bind, pure, Except.pure]

theorem follows_delimited (hvarint : Varint.reader.Follows Varint.reader) :
    delimited.Follows delimited := by
  refine follows_of_finds fun data a rest hread => ?_
  simp only [delimited] at hread
  split at hread
  · cases hread
  · rename_i count rest' hcount
    split at hread
    · cases hread
    · rename_i hlen
      cases hread
      obtain ⟨length, rfl, hlength⟩ := hvarint.finds hcount
      have hcontent : (rest'.take count).length = count := by
        rw [List.length_take]
        omega
      rw [← hcontent] at hlength
      refine ⟨length ++ rest'.take count, ?_, finds_delimited hlength⟩
      rw [List.append_assoc, List.take_append_drop]

theorem Follows.delimitedMany (h : r'.Follows r) (hvarint : Varint.reader.Follows Varint.reader) :
    r'.delimitedMany.Follows r.delimitedMany := by
  intro data as rest hread
  simp only [Reader.delimitedMany] at hread
  split at hread
  · cases hread
  · rename_i count rest' hcount
    split at hread
    · cases hread
    · rename_i hlen
      obtain ⟨length, rfl, hlength⟩ := hvarint.finds hcount
      have hrest := length_of_many r hread
      obtain ⟨row, rfl, hrow⟩ := h.many hread
      have hrowlen : row.length = count := by
        rw [List.length_append] at hrest hlen
        omega
      rw [← hrowlen] at hlength
      refine ⟨length ++ row, (List.append_assoc _ _ _).symm, ?_⟩
      rcases hrow with hrow | ⟨e, hrow⟩
      · exact .inl (hrow.delimited hlength)
      · exact .inr ⟨e, hrow.delimited hlength⟩

end Reader

end TensorGraph.Wire
