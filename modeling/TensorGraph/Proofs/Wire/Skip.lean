import TensorGraph.Proofs.Wire.Spellings
import TensorGraph.Wire.Skip

/-!
# Skipping takes just one field

A field that nobody knows can hold anything, so all that can go wrong with it is that its reader
stops too early or too late.  `IsField depth number data` says without any reader that the data is
one field, and that no field inside it stands in `depth` groups.

* `IsField.finds_skip` says that skipping takes just such a field, whatever stands behind it.  The
  induction is on the field, and inside a group on the list of its fields.
* `follows_skip` says that skipping is one of the readers that find what they read, and that with
  a smaller budget it still does, or fails.
-/

set_option autoImplicit false

namespace TensorGraph.Wire

/-! ## Fields -/

/-- The data is one field of the number, of any layout, and it and every field inside it stand in
less than `depth` groups. -/
inductive IsField : (depth number : Nat) → Bytes → Prop
  | varint {depth number n : Nat} {key value : Bytes}
    (hkey : Key.IsSpelling key ⟨number, .varint⟩) (hvalue : Varint.IsSpelling value n) :
    IsField (depth + 1) number (key ++ value)
  | fixed64 {depth number : Nat} {key value : Bytes}
    (hkey : Key.IsSpelling key ⟨number, .fixed64⟩) (hvalue : value.length = 8) :
    IsField (depth + 1) number (key ++ value)
  | fixed32 {depth number : Nat} {key value : Bytes}
    (hkey : Key.IsSpelling key ⟨number, .fixed32⟩) (hvalue : value.length = 4) :
    IsField (depth + 1) number (key ++ value)
  | delimited {depth number : Nat} {content data : Bytes} (h : Framed number content data) :
    IsField (depth + 1) number data
  | group {depth number : Nat} {opening closing : Bytes} {fields : List (Nat × Bytes)}
    (hopening : Key.IsSpelling opening ⟨number, .startGroup⟩)
    (hfields : ∀ f ∈ fields, IsField depth f.1 f.2)
    (hclosing : Key.IsSpelling closing ⟨number, .endGroup⟩) :
    IsField (depth + 1) number (opening ++ (fields.flatMap Prod.snd ++ closing))

/-! ## Groups -/

section Groups

variable {number : Nat} {skip skip' : WireType → Nat → Reader Unit} {data rest rest' : Bytes}
  {key : Key}

theorem skipGroup_of_endGroup (hkey : Key.reader.run data = .ok (⟨number, .endGroup⟩, rest)) :
    skipGroup number skip data = .ok ((), rest) := by
  rw [skipGroup]
  split
  · rename_i e he
    rw [hkey] at he
    cases he
  · rename_i key' rest' hkey'
    rw [hkey] at hkey'
    cases hkey'
    simp

/-- A field inside a group is skipped, and then the rest of the group. -/
theorem skipGroup_of_run (hkey : Key.reader.run data = .ok (key, rest))
    (hend : key.wireType ≠ .endGroup) :
    skipGroup number skip data =
      (skip key.wireType key.number).run rest >>= fun p => skipGroup number skip p.2 := by
  rw [skipGroup]
  split
  · rename_i e he
    rw [hkey] at he
    cases he
  · rename_i key' rest' hkey'
    rw [hkey] at hkey'
    cases hkey'
    rw [if_neg hend]
    split
    · rename_i e he
      rw [he]
      rfl
    · rename_i rest'' hskip
      rw [hskip]
      rfl

/-- Skips the fields of an open group and the key that closes it. -/
def skipOpen (number : Nat) (skip : WireType → Nat → Reader Unit) : Reader Unit :=
  ⟨skipGroup number skip, length_of_skipGroup⟩

theorem follows_skipOpen (h : ∀ wireType number,
    (skip' wireType number).Follows (skip wireType number)) :
    (skipOpen number skip').Follows (skipOpen number skip) := by
  intro data u rest hread
  replace hread : skipGroup number skip data = .ok (u, rest) := hread
  fun_induction skipGroup number skip data with
  | case1 => cases hread
  | case2 data key rest₁ hkey hend hnumber =>
    cases hread
    obtain ⟨wireType, rfl⟩ : ∃ t, key = ⟨number, t⟩ := ⟨key.wireType, hnumber ▸ rfl⟩
    obtain rfl : wireType = .endGroup := hend
    obtain ⟨piece, rfl, hpiece⟩ := Key.follows_reader.finds hkey
    exact ⟨piece, rfl, .inl fun more => skipGroup_of_endGroup (hpiece more)⟩
  | case3 => cases hread
  | case4 => cases hread
  | case5 data key rest₁ hkey hend rest₂ hskip ih =>
    obtain ⟨first, rfl, hfirst⟩ := Key.follows_reader.finds hkey
    obtain ⟨value, rfl, hvalue⟩ := h _ _ hskip
    obtain ⟨others, rfl, hothers⟩ := ih hread
    refine ⟨first ++ (value ++ others), by simp, ?_⟩
    -- What the key and the value come to is the same for all that stands behind them.
    have hstep : ∀ more, (skipOpen number skip').run (first ++ (value ++ others) ++ more) =
        (skip' key.wireType key.number).run (value ++ (others ++ more)) >>=
          fun p => skipGroup number skip' p.2 := by
      intro more
      rw [List.append_assoc, List.append_assoc]
      exact skipGroup_of_run (hfirst _) hend
    rcases hvalue with hvalue | ⟨e, hvalue⟩
    · have hnext : ∀ more, (skipOpen number skip').run (first ++ (value ++ others) ++ more) =
          (skipOpen number skip').run (others ++ more) := by
        intro more
        rw [hstep, hvalue]
        rfl
      rcases hothers with hothers | ⟨e, hothers⟩
      · exact .inl fun more => (hnext more).trans (hothers more)
      · exact .inr ⟨e, fun more => (hnext more).trans (hothers more)⟩
    · refine .inr ⟨e, fun more => ?_⟩
      rw [hstep, hvalue]
      rfl

end Groups

/-! ## Skipping -/

/-- **With a smaller budget, skipping takes the same field or fails.** -/
theorem follows_skip {budget budget' : Nat} (h : budget' ≤ budget) (wireType : WireType)
    (number : Nat) : (skip budget' wireType number).Follows (skip budget wireType number) := by
  induction budget generalizing budget' wireType number with
  | zero =>
    rw [Nat.le_zero.1 h]
    exact Reader.fail_follows _ _
  | succ budget ih =>
    have hpositive : ∀ b ≤ budget,
        (skip (b + 1) wireType number).Follows (skip (budget + 1) wireType number) := by
      intro b hb
      cases wireType with
      | varint => exact Varint.follows_reader.map _
      | fixed64 => exact (Reader.follows_take _).map _
      | fixed32 => exact (Reader.follows_take _).map _
      | lengthDelimited => exact (Reader.follows_delimited Varint.follows_reader).map _
      | startGroup => exact follows_skipOpen (ih hb)
      | endGroup => exact Reader.fail_follows _ _
    cases budget' with
    | zero => exact Reader.follows_fail (hpositive budget (Nat.le_refl _)) _
    | succ budget' => exact hpositive budget' (Nat.le_of_succ_le_succ h)

theorem finds_skipOpen {depth number : Nat} {fields : List (Nat × Bytes)} {closing : Bytes}
    (hfields : ∀ f ∈ fields, ∃ key value wireType, f.2 = key ++ value ∧
      Key.IsSpelling key ⟨f.1, wireType⟩ ∧ wireType ≠ .endGroup ∧
      (skip depth wireType f.1).Finds value (.ok ()))
    (hclosing : Key.IsSpelling closing ⟨number, .endGroup⟩) :
    (skipOpen number (skip depth)).Finds (fields.flatMap Prod.snd ++ closing) (.ok ()) := by
  intro rest
  induction fields with
  | nil => exact skipGroup_of_endGroup (hclosing.finds rest)
  | cons f fields ih =>
    rw [List.forall_mem_cons] at hfields
    obtain ⟨key, value, wireType, hdata, hkey, hend, hvalue⟩ := hfields.1
    have hall : (f :: fields).flatMap Prod.snd ++ closing ++ rest =
        key ++ (value ++ (fields.flatMap Prod.snd ++ closing ++ rest)) := by
      simp [hdata]
    have hstep := (skipGroup_of_run (hkey.finds _) hend).trans
      (congrArg (· >>= fun p => skipGroup number (skip depth) p.2)
        (hvalue (fields.flatMap Prod.snd ++ closing ++ rest)))
    rw [hall]
    exact hstep.trans (ih hfields.2)

/-- **Skipping takes just the field**, if its groups are nested no deeper than the budget allows. -/
theorem IsField.finds_skip {depth number : Nat} {data : Bytes} (h : IsField depth number data) :
    ∃ key value wireType, data = key ++ value ∧ Key.IsSpelling key ⟨number, wireType⟩ ∧
      wireType ≠ .endGroup ∧ (skip depth wireType number).Finds value (.ok ()) := by
  induction h with
  | varint hkey hvalue => exact ⟨_, _, _, rfl, hkey, by simp, hvalue.finds.map _⟩
  | fixed64 hkey hvalue =>
    exact ⟨_, _, _, rfl, hkey, by simp, (Reader.finds_take (by decide) hvalue).map _⟩
  | fixed32 hkey hvalue =>
    exact ⟨_, _, _, rfl, hkey, by simp, (Reader.finds_take (by decide) hvalue).map _⟩
  | delimited h =>
    obtain ⟨key, length, hkey, hlength, rfl⟩ := h
    exact ⟨_, _, _, rfl, hkey, by simp, (Reader.finds_delimited hlength.finds).map _⟩
  | group hopening _ hclosing ih =>
    exact ⟨_, _, _, rfl, hopening, by simp, finds_skipOpen ih hclosing⟩

end TensorGraph.Wire
