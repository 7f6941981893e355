import TensorGraph.Proofs.Stages

/-!
# Two runs side by side

That something does not matter to a computation is a statement about two runs of it: either both
fail, and alike, or both come back, with results that agree.  `Alike E R x y` is this statement,
with `E` for what alike means of errors and `R` of results.

It is proved along the computation: `Alike.bind` for one thing after the other, and `Alike.mapM`
and `Alike.foldlM` for two lists whose entries correspond.  A run that fails early takes the other
one with it, so nothing has to be said about which stage fails.  `FailAlike` is the case in which
only the errors matter.

Where two runs do not go through the same data in the same order, they may still find faults in the
same stages.  `FaultsAlike` says so of one stage, and `Staged.alike` of computations that are
described by their stages.
-/

set_option autoImplicit false

namespace TensorGraph

variable {ε ε' α α' β β' γ γ' : Type}

/-- Both computations fail, alike, or both come back, with related results. -/
inductive Alike (E : ε → ε' → Prop) (R : α → α' → Prop) : Except ε α → Except ε' α' → Prop
  | error {e : ε} {e' : ε'} (h : E e e') : Alike E R (.error e) (.error e')
  | ok {a : α} {a' : α'} (h : R a a') : Alike E R (.ok a) (.ok a')

namespace Alike

variable {E : ε → ε' → Prop} {R : α → α' → Prop} {S : β → β' → Prop} {x : Except ε α}
  {x' : Except ε' α'}

/-- A computation that is the same in both runs. -/
theorem refl {R : α → α → Prop} (x : Except ε α) (h : ∀ a, R a a) : Alike Eq R x x := by
  cases x with
  | error e => exact .error rfl
  | ok a => exact .ok (h a)

/-- One thing after the other. -/
theorem bind {f : α → Except ε β} {f' : α' → Except ε' β'} (hx : Alike E R x x')
    (hf : ∀ a a', R a a' → Alike E S (f a) (f' a')) : Alike E S (x >>= f) (x' >>= f') := by
  cases hx with
  | error h => exact .error h
  | ok h => exact hf _ _ h

/-- Something made of what comes back. -/
theorem map {f : α → β} {f' : α' → β'} (hx : Alike E R x x')
    (hf : ∀ a a', R a a' → S (f a) (f' a')) :
    Alike E S (do return f (← x)) (do return f' (← x')) :=
  hx.bind fun a a' h => .ok (hf a a' h)

theorem imp {R' : α → α' → Prop} (hx : Alike E R x x') (hR : ∀ a a', R a a' → R' a a') :
    Alike E R' x x' := by
  cases hx with
  | error h => exact .error h
  | ok h => exact .ok (hR _ _ h)

/-- Equal errors stay so, whatever is made of them. -/
theorem mapError {x : Except ε α} {x' : Except ε α'} (hx : Alike Eq R x x') (g : ε → γ) :
    Alike Eq R (x.mapError g) (x'.mapError g) := by
  cases hx with
  | error h => exact .error (h ▸ rfl)
  | ok h => exact .ok h

theorem eq {x x' : Except ε α} (hx : Alike Eq Eq x x') : x = x' := by
  cases hx with
  | error h => rw [h]
  | ok h => rw [h]

variable {T : γ → γ' → Prop} {l : List γ} {l' : List γ'}

/-- A computation for each entry of two lists. -/
theorem mapM {f : γ → Except ε α} {f' : γ' → Except ε' α'} (hl : List.Forall₂ T l l')
    (hf : ∀ c c', T c c' → Alike E R (f c) (f' c')) :
    Alike E (List.Forall₂ R) (l.mapM f) (l'.mapM f') := by
  induction hl with
  | nil => exact .ok .nil
  | cons hc _ ih =>
    rw [List.mapM_cons, List.mapM_cons]
    refine (hf _ _ hc).bind fun a a' ha => ih.bind fun as as' has => ?_
    exact .ok (.cons ha has)

/-- Two lists that are gone through with a state. -/
theorem foldlM {f : α → γ → Except ε α} {f' : α' → γ' → Except ε' α'} {a : α} {a' : α'}
    (hl : List.Forall₂ T l l') (ha : R a a')
    (hf : ∀ a a' c c', R a a' → T c c' → Alike E R (f a c) (f' a' c')) :
    Alike E R (l.foldlM f a) (l'.foldlM f' a') := by
  induction hl generalizing a a' with
  | nil => exact .ok ha
  | cons hc _ ih =>
    rw [List.foldlM_cons, List.foldlM_cons]
    exact (hf _ _ _ _ ha hc).bind fun b b' hb => ih hb

variable {m : List γ}

theorem mapM_same {f : γ → Except ε α} {f' : γ → Except ε' α'}
    (h : ∀ c ∈ m, Alike E R (f c) (f' c)) :
    Alike E (List.Forall₂ R) (m.mapM f) (m.mapM f') :=
  mapM (List.forall₂_same.2 h) fun _ _ hc => hc

/-- A list, and what its entries are turned into before they are gone through. -/
theorem mapM_map {f : γ → Except ε α} {f' : γ' → Except ε' α'} {g : γ → γ'} {h : α → α'}
    (hf : ∀ c, Alike E (fun a a' => a' = h a) (f c) (f' (g c))) :
    Alike E (fun as as' => as' = as.map h) (m.mapM f) ((m.map g).mapM f') := by
  rw [List.mapM_map]
  refine (mapM_same fun c _ => hf c).imp fun as as' has => ?_
  simpa using (map_eq_of_forall₂ (g := id) has fun a a' ha => ha.symm).symm

theorem foldlM_same {f : α → γ → Except ε α} {f' : α' → γ → Except ε' α'} {a : α} {a' : α'}
    (ha : R a a') (h : ∀ c ∈ m, ∀ a a', R a a' → Alike E R (f a c) (f' a' c)) :
    Alike E R (m.foldlM f a) (m.foldlM f' a') :=
  foldlM (T := fun c c' => ∀ a a', R a a' → Alike E R (f a c) (f' a' c'))
    (List.forall₂_same.2 h) ha fun _ _ _ _ ha hc => hc _ _ ha

theorem exists_ok_iff (h : Alike E R x x') : (∃ a, x = .ok a) ↔ ∃ a', x' = .ok a' := by
  cases h <;> simp

end Alike

/-- Both computations fail with the same error, or both come back with anything. -/
abbrev FailAlike (x : Except ε α) (x' : Except ε α') : Prop := Alike Eq (fun _ _ => True) x x'

theorem FailAlike.mapM {l : List γ} {f : γ → Except ε α} {f' : γ → Except ε α'}
    (h : ∀ c ∈ l, FailAlike (f c) (f' c)) : FailAlike (l.mapM f) (l.mapM f') :=
  (Alike.mapM_same h).imp fun _ _ _ => trivial

/-! ## Stages side by side -/

/-- There is a fault of the one sort exactly if there is one of the other, and then they are
alike. -/
structure FaultsAlike (E : ε → ε' → Prop) (stage : ε → Prop) (stage' : ε' → Prop) : Prop where
  exists_iff : (∃ e, stage e) ↔ ∃ e', stage' e'
  alike : ∀ e e', stage e → stage' e' → E e e'

variable {E : ε → ε' → Prop}

theorem exists_firstFault {fails : α → ε → Prop} {l : List α} :
    (∃ e, FirstFault fails l e) ↔ ∃ a ∈ l, ∃ e, fails a e := by
  rw [← not_iff_not]
  push Not
  exact forall_not_firstFault

/-- The first faults of two lists are alike if those of corresponding entries are. -/
theorem FaultsAlike.firstFault {fails : α → ε → Prop} {fails' : α' → ε' → Prop} {l : List α}
    {l' : List α'} (h : List.Forall₂ (fun a a' => FaultsAlike E (fails a) (fails' a')) l l') :
    FaultsAlike E (FirstFault fails l) (FirstFault fails' l') := by
  induction h with
  | nil =>
    refine ⟨?_, fun e _ he => absurd he (not_firstFault_nil fails e)⟩
    rw [exists_firstFault, exists_firstFault]
    simp
  | cons ha _ ih =>
    refine ⟨?_, ?_⟩
    · rw [exists_firstFault, exists_firstFault, List.exists_mem_cons_iff,
        List.exists_mem_cons_iff, ha.exists_iff, ← exists_firstFault, ← exists_firstFault,
        ih.exists_iff]
    · intro e e' he he'
      rcases firstFault_cons.1 he with he | ⟨hnone, he⟩
      · rcases firstFault_cons.1 he' with he' | ⟨hnone', -⟩
        · exact ha.alike e e' he he'
        · obtain ⟨d', hd'⟩ := ha.exists_iff.1 ⟨e, he⟩
          exact absurd hd' (hnone' d')
      · rcases firstFault_cons.1 he' with he' | ⟨-, he'⟩
        · obtain ⟨d, hd⟩ := ha.exists_iff.2 ⟨e', he'⟩
          exact absurd hd (hnone d)
        · exact ih.alike e e' he he'

/-- **Computations whose stages are at fault alike** fail alike. -/
theorem Staged.alike {x : Except ε α} {x' : Except ε' α'} {stages : List (ε → Prop)}
    {stages' : List (ε' → Prop)} (hx : Staged x stages) (hx' : Staged x' stages')
    (h : List.Forall₂ (FaultsAlike E) stages stages') : Alike E (fun _ _ => True) x x' := by
  have hall := FaultsAlike.firstFault h
  cases x with
  | error e =>
    cases x' with
    | error e' => exact .error (hall.alike e e' hx hx')
    | ok a' =>
      obtain ⟨e', he'⟩ := hall.exists_iff.1 ⟨e, hx⟩
      exact absurd he' (forall_not_firstFault.2 hx' e')
  | ok a =>
    cases x' with
    | error e' =>
      obtain ⟨e, he⟩ := hall.exists_iff.2 ⟨e', hx'⟩
      exact absurd he (forall_not_firstFault.2 hx e)
    | ok a' => exact .ok trivial

end TensorGraph
