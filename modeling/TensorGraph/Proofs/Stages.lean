import Mathlib.Data.List.Forall2

/-!
# Failing at the first of several stages

Much of what is made from a record is made in stages, each of which goes through one list of parts,
and the first part of the first list that is at fault decides the error.  `FirstFault` says so for
one list; since the stages are a list too, it also says so for the stages.

* `mapM_eq_ok_iff`, `mapM_eq_error_iff` and `foldlM_eq_error_iff`: a list is gone through in order,
  and the first entry at fault decides.
* `Staged x stages` says that the computation `x` fails exactly if one of the stages does, and then
  with the fault of the first of them.  `Staged.guard` and `Staged.bind` follow the shape of a
  computation, so one that checks this and then that is described by the list of what it checks.
-/

set_option autoImplicit false

namespace TensorGraph

variable {α β γ ε : Type}

/-! ## The first fault of a list -/

/-- `e` is the fault of the first entry of the list that has one. -/
def FirstFault (fails : α → ε → Prop) (l : List α) (e : ε) : Prop :=
  ∃ before a after, l = before ++ a :: after ∧ (∀ b ∈ before, ∀ e', ¬ fails b e') ∧ fails a e

theorem not_firstFault_nil (fails : α → ε → Prop) (e : ε) : ¬ FirstFault fails [] e := by
  rintro ⟨before, a, after, h, -⟩
  simp at h

theorem firstFault_cons {fails : α → ε → Prop} {a : α} {l : List α} {e : ε} :
    FirstFault fails (a :: l) e ↔ fails a e ∨ (∀ e', ¬ fails a e') ∧ FirstFault fails l e := by
  constructor
  · rintro ⟨before, b, after, h, hbefore, hb⟩
    cases before with
    | nil =>
      cases h
      exact .inl hb
    | cons c before =>
      rw [List.cons_append, List.cons.injEq] at h
      obtain ⟨rfl, h⟩ := h
      exact .inr ⟨hbefore a (by simp), before, b, after, h,
        fun d hd => hbefore d (List.mem_cons_of_mem _ hd), hb⟩
  · rintro (ha | ⟨ha, before, b, after, rfl, hbefore, hb⟩)
    · exact ⟨[], a, l, rfl, by simp, ha⟩
    · refine ⟨a :: before, b, after, rfl, fun d hd => ?_, hb⟩
      rcases List.mem_cons.1 hd with rfl | hd
      · exact ha
      · exact hbefore d hd

theorem firstFault_singleton {fails : α → ε → Prop} {a : α} {e : ε} :
    FirstFault fails [a] e ↔ fails a e := by
  simp only [firstFault_cons, not_firstFault_nil, and_false, or_false]

theorem firstFault_congr_of_mem {fails fails' : α → ε → Prop} {l : List α}
    (h : ∀ a ∈ l, ∀ e, fails a e ↔ fails' a e) {e : ε} :
    FirstFault fails l e ↔ FirstFault fails' l e := by
  induction l with
  | nil => simp [not_firstFault_nil]
  | cons a l ih =>
    rw [List.forall_mem_cons] at h
    simp only [firstFault_cons, h.1, ih h.2]

theorem firstFault_congr {fails fails' : α → ε → Prop} (h : ∀ a e, fails a e ↔ fails' a e)
    {l : List α} {e : ε} : FirstFault fails l e ↔ FirstFault fails' l e :=
  firstFault_congr_of_mem fun a _ => h a

/-- A list without a fault has no first one. -/
theorem forall_not_firstFault {fails : α → ε → Prop} {l : List α} :
    (∀ e, ¬ FirstFault fails l e) ↔ ∀ a ∈ l, ∀ e, ¬ fails a e := by
  induction l with
  | nil => simp [not_firstFault_nil]
  | cons a l ih =>
    rw [List.forall_mem_cons, ← ih]
    constructor
    · intro h
      have ha : ∀ e, ¬ fails a e := fun e he => h e (firstFault_cons.2 (.inl he))
      exact ⟨ha, fun e he => h e (firstFault_cons.2 (.inr ⟨ha, he⟩))⟩
    · rintro ⟨ha, hl⟩ e he
      rcases firstFault_cons.1 he with he | ⟨-, he⟩
      · exact ha e he
      · exact hl e he

theorem firstFault_append {fails : α → ε → Prop} {l m : List α} {e : ε} :
    FirstFault fails (l ++ m) e ↔
      FirstFault fails l e ∨ (∀ e', ¬ FirstFault fails l e') ∧ FirstFault fails m e := by
  induction l with
  | nil => simp [not_firstFault_nil]
  | cons a l ih =>
    have hnone : (∀ e', ¬ FirstFault fails (a :: l) e') ↔
        (∀ e', ¬ fails a e') ∧ ∀ e', ¬ FirstFault fails l e' := by
      rw [forall_not_firstFault, List.forall_mem_cons, forall_not_firstFault]
    rw [List.cons_append, firstFault_cons, ih, firstFault_cons, hnone, and_or_left, or_assoc,
      and_assoc]

/-- To go through lists one after the other is to go through one long list. -/
theorem firstFault_flatMap {fails : β → ε → Prop} {f : α → List β} {l : List α} {e : ε} :
    FirstFault fails (l.flatMap f) e ↔ FirstFault (fun a => FirstFault fails (f a)) l e := by
  induction l with
  | nil => simp [not_firstFault_nil]
  | cons a l ih => rw [List.flatMap_cons, firstFault_append, firstFault_cons, ih]

theorem firstFault_map {fails : β → ε → Prop} {f : α → β} {l : List α} {e : ε} :
    FirstFault fails (l.map f) e ↔ FirstFault (fun a => fails (f a)) l e := by
  induction l with
  | nil => simp [not_firstFault_nil]
  | cons a l ih => rw [List.map_cons, firstFault_cons, firstFault_cons, ih]

/-- Where all faults are the same, the first one says only that there is one. -/
theorem firstFault_const {p : α → Prop} {l : List α} {c e : ε} :
    FirstFault (fun a e => p a ∧ e = c) l e ↔ (∃ a ∈ l, p a) ∧ e = c := by
  induction l with
  | nil => simp [not_firstFault_nil]
  | cons a l ih =>
    rw [firstFault_cons, ih]
    by_cases ha : p a <;> simp [ha]

theorem firstFault_of_find? {p : α → Bool} {l : List α} {a : α} (h : l.find? p = some a)
    (fault : α → ε) : FirstFault (fun a e => p a = true ∧ e = fault a) l (fault a) := by
  obtain ⟨ha, before, after, rfl, hbefore⟩ := List.find?_eq_some_iff_append.1 h
  refine ⟨before, a, after, rfl, fun b hb e he => ?_, ha, rfl⟩
  have := hbefore b hb
  simp [he.1] at this

/-! ## Going through a list -/

theorem bind_eq_error_iff {x : Except ε α} {f : α → Except ε β} {e : ε} :
    (x >>= f) = .error e ↔ x = .error e ∨ ∃ a, x = .ok a ∧ f a = .error e := by
  cases x <;> simp [bind, Except.bind]

theorem bind_eq_ok_iff {x : Except ε α} {f : α → Except ε β} {b : β} :
    (x >>= f) = .ok b ↔ ∃ a, x = .ok a ∧ f a = .ok b := by
  cases x <;> simp [bind, Except.bind]

/-- What is made of a result does not matter for a failure. -/
theorem bind_pure_eq_error_iff {x : Except ε α} (g : α → β) {e : ε} :
    (do return g (← x) : Except ε β) = .error e ↔ x = .error e := by
  cases x <;> simp

theorem mapError_eq_ok_iff {δ : Type} {x : Except ε α} {g : ε → δ} {a : α} :
    x.mapError g = .ok a ↔ x = .ok a := by
  cases x <;> simp [Except.mapError]

/-- A computation that does not fail comes back with something. -/
theorem exists_ok_iff {x : Except ε α} : (∃ a, x = .ok a) ↔ ∀ e, x ≠ .error e := by
  cases x <;> simp

theorem exists_ok_of_isOk {x : Except ε α} (h : x.isOk = true) : ∃ a, x = .ok a := by
  cases x with
  | error e => cases h
  | ok a => exact ⟨a, rfl⟩

theorem mapM_eq_ok_iff {f : α → Except ε β} {l : List α} {bs : List β} :
    l.mapM f = .ok bs ↔ List.Forall₂ (fun a b => f a = .ok b) l bs := by
  induction l generalizing bs with
  | nil => cases bs <;> simp [pure, Except.pure]
  | cons a l ih =>
    rw [List.mapM_cons, bind_eq_ok_iff, List.forall₂_cons_left_iff]
    simp only [bind_eq_ok_iff, ih, pure, Except.pure, Except.ok.injEq]
    constructor
    · rintro ⟨b, hb, bs', hbs, rfl⟩
      exact ⟨b, bs', hb, hbs, rfl⟩
    · rintro ⟨b, bs', hb, hbs, rfl⟩
      exact ⟨b, hb, bs', hbs, rfl⟩

theorem exists_forall₂ {R : α → β → Prop} {l : List α} (h : ∀ a ∈ l, ∃ b, R a b) :
    ∃ bs, List.Forall₂ R l bs := by
  induction l with
  | nil => exact ⟨[], .nil⟩
  | cons a l ih =>
    rw [List.forall_mem_cons] at h
    obtain ⟨b, hb⟩ := h.1
    obtain ⟨bs, hbs⟩ := ih h.2
    exact ⟨b :: bs, .cons hb hbs⟩

/-- A list whose entries have to meet a condition and are then turned into given things. -/
theorem mapM_eq_ok_iff_map {f : α → Except ε β} {p : α → Prop} {g : α → β} {l : List α}
    (hf : ∀ a ∈ l, ∀ b, f a = .ok b ↔ p a ∧ b = g a) {bs : List β} :
    l.mapM f = .ok bs ↔ (∀ a ∈ l, p a) ∧ bs = l.map g := by
  induction l generalizing bs with
  | nil => simp [pure, Except.pure, eq_comm]
  | cons a l ih =>
    rw [List.forall_mem_cons] at hf
    rw [List.mapM_cons, bind_eq_ok_iff, List.forall_mem_cons, List.map_cons]
    simp only [bind_eq_ok_iff, hf.1, ih hf.2, pure, Except.pure, Except.ok.injEq]
    constructor
    · rintro ⟨b, ⟨ha, rfl⟩, bs', ⟨hl, rfl⟩, rfl⟩
      exact ⟨⟨ha, hl⟩, rfl⟩
    · rintro ⟨⟨ha, hl⟩, rfl⟩
      exact ⟨g a, ⟨ha, rfl⟩, l.map g, ⟨hl, rfl⟩, rfl⟩

theorem mapM_congr {f g : α → Except ε β} {l : List α} (h : ∀ a ∈ l, f a = g a) :
    l.mapM f = l.mapM g := by
  induction l with
  | nil => rfl
  | cons a l ih =>
    rw [List.forall_mem_cons] at h
    rw [List.mapM_cons, List.mapM_cons, h.1, ih h.2]

/-- A computation for every entry of a list, whose results are then all changed in one way. -/
theorem mapM_bind_pure (f : α → Except ε β) (g : β → γ) (l : List α) :
    l.mapM (fun a => do return g (← f a)) = do return (← l.mapM f).map g := by
  induction l with
  | nil => rfl
  | cons a l ih =>
    rw [List.mapM_cons, List.mapM_cons, ih]
    cases f a with
    | error e => rfl
    | ok b => cases l.mapM f <;> rfl

/-- Lists whose entries correspond have the same image if corresponding entries do. -/
theorem map_eq_of_forall₂ {R : α → β → Prop} {l : List α} {bs : List β} {f : α → γ} {g : β → γ}
    (h : List.Forall₂ R l bs) (hf : ∀ a b, R a b → f a = g b) : l.map f = bs.map g := by
  induction h with
  | nil => rfl
  | cons hab _ ih => rw [List.map_cons, List.map_cons, ih, hf _ _ hab]

/-- What is kept of the entries of a list is also found in what they were turned into. -/
theorem map_eq_of_mapM_eq_ok {f : α → Except ε β} {l : List α} {bs : List β} {g : β → γ}
    {h : α → γ} (hl : l.mapM f = .ok bs) (hf : ∀ a b, f a = .ok b → g b = h a) :
    bs.map g = l.map h :=
  (map_eq_of_forall₂ (mapM_eq_ok_iff.1 hl) fun a b hab => (hf a b hab).symm).symm

theorem mapM_eq_error_iff {f : α → Except ε β} {l : List α} {e : ε} :
    l.mapM f = .error e ↔ FirstFault (fun a e => f a = .error e) l e := by
  induction l with
  | nil => simp [not_firstFault_nil, pure, Except.pure]
  | cons a l ih =>
    rw [List.mapM_cons, bind_eq_error_iff, firstFault_cons, ← exists_ok_iff]
    simp only [bind_eq_error_iff, ih, pure, Except.pure, reduceCtorEq, and_false, exists_false,
      or_false, exists_and_right]

theorem exists_mapM_iff {f : α → Except ε β} {l : List α} :
    (∃ bs, l.mapM f = .ok bs) ↔ ∀ a ∈ l, ∃ b, f a = .ok b := by
  simp only [exists_ok_iff, ne_eq, mapM_eq_error_iff, forall_not_firstFault]

/-- A list that is gone through with a state fails at its first fault too, if it does not depend on
the state whether an entry is at fault. -/
theorem foldlM_eq_error_iff {f : β → α → Except ε β} {fails : α → ε → Prop}
    (hf : ∀ b a e, f b a = .error e ↔ fails a e) {l : List α} {b : β} {e : ε} :
    l.foldlM f b = .error e ↔ FirstFault fails l e := by
  induction l generalizing b with
  | nil => simp [not_firstFault_nil, pure, Except.pure]
  | cons a l ih =>
    rw [List.foldlM_cons, bind_eq_error_iff, firstFault_cons, hf]
    simp only [ih, exists_and_right, exists_ok_iff, ne_eq, hf]

/-! ## Stages -/

/-- The computation fails exactly if one of the stages does, and then with the fault of the first
of them. -/
def Staged (x : Except ε α) (stages : List (ε → Prop)) : Prop :=
  match x with
  | .ok _ => ∀ stage ∈ stages, ∀ e, ¬ stage e
  | .error e => FirstFault (fun stage e => stage e) stages e

namespace Staged

variable {x : Except ε α} {stages stages' : List (ε → Prop)}

theorem ok (a : α) : Staged (.ok a : Except ε α) [] := by
  intro stage h
  simp at h

/-- A computation that is described by one stage. -/
theorem of {stage : ε → Prop} (herror : ∀ e, x = .error e → stage e)
    (hok : ∀ a, x = .ok a → ∀ e, ¬ stage e) : Staged x [stage] := by
  cases x with
  | ok a =>
    intro s hs
    rw [List.mem_singleton.1 hs]
    exact hok a rfl
  | error e => exact firstFault_cons.2 (.inl (herror e rfl))

theorem of_iff {stage : ε → Prop} (h : ∀ e, x = .error e ↔ stage e) : Staged x [stage] :=
  of (fun e => (h e).1) fun a ha e he => by
    rw [(h e).2 he] at ha
    cases ha

/-- A list that is gone through is one stage. -/
theorem mapM {f : α → Except ε β} {fails : α → ε → Prop} (hf : ∀ a e, f a = .error e ↔ fails a e)
    (l : List α) : Staged (l.mapM f) [FirstFault fails l] :=
  of_iff fun _ => mapM_eq_error_iff.trans (firstFault_congr hf)

/-- Stages without a fault may stand in front. -/
theorem skip (h : ∀ stage ∈ stages, ∀ e, ¬ stage e) (hx : Staged x stages') :
    Staged x (stages ++ stages') := by
  cases x with
  | ok a =>
    intro stage hmem
    rcases List.mem_append.1 hmem with hmem | hmem
    · exact h stage hmem
    · exact hx stage hmem
  | error e => exact firstFault_append.2 (.inr ⟨forall_not_firstFault.2 h, hx⟩)

/-- One thing after the other. -/
theorem bind {f : α → Except ε β} (hx : Staged x stages)
    (hf : ∀ a, x = .ok a → Staged (f a) stages') : Staged (x >>= f) (stages ++ stages') := by
  cases x with
  | ok a => exact skip hx (hf a rfl)
  | error e => exact firstFault_append.2 (.inl hx)

/-- A check, and then the rest. -/
theorem guard {p : Prop} [Decidable p] {fault : ε} (hx : ¬ p → Staged x stages) :
    Staged (if p then .error fault else x) ((fun e => p ∧ e = fault) :: stages) := by
  by_cases hp : p
  · rw [if_pos hp]
    exact firstFault_cons.2 (.inl ⟨hp, rfl⟩)
  · rw [if_neg hp]
    have hnone : ∀ stage ∈ [fun e => p ∧ e = fault], ∀ e, ¬ stage e := by
      intro stage hmem e he
      rw [List.mem_singleton.1 hmem] at he
      exact hp he.1
    exact skip hnone (hx hp)

/-- A staged computation comes back with something if no stage is at fault. -/
theorem exists_ok_iff (hx : Staged x stages) :
    (∃ a, x = .ok a) ↔ ∀ stage ∈ stages, ∀ e, ¬ stage e := by
  cases x with
  | ok a => exact ⟨fun _ => hx, fun _ => ⟨a, rfl⟩⟩
  | error e =>
    refine ⟨fun h => ?_, fun h => absurd hx (forall_not_firstFault.2 h e)⟩
    obtain ⟨a, ha⟩ := h
    cases ha

theorem firstFault (hx : Staged x stages) {e : ε} (he : x = .error e) :
    FirstFault (fun stage e => stage e) stages e := by
  subst he
  exact hx

end Staged

end TensorGraph
