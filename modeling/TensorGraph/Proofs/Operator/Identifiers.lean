import TensorGraph.OperatorSetId

/-!
# What the text of an identifier tells

The text of an operator set is its domain, a colon and its version, and nothing in it is quoted.
A domain may be any text, so the first colon of `a:1:2` says nothing: this is version 2 of `a:1`.
What can be relied on is the *last* colon.  A version is written with digits and perhaps a minus
sign (`toList_toString`), so no colon comes after the one that separates the two parts, and there is
only one way to cut the text (`append_cons_inj_of_notMem_back`).  What stands behind the cut can be
read back (`toString_injective`), so the text of an identifier determines it (`text_injective`).

What remains open is how the domain was written, for the default domain has two spellings.
`canonicalDomain_eq_iff` says that there is nothing else that two spellings can have in common.
-/

set_option autoImplicit false

namespace TensorGraph

/-! ## Cutting a list at the last separator -/

section Separator

variable {α : Type} {sep : α} {mid front front' back back' : List α}

theorem eq_nil_of_cons_eq_append_cons (h : sep ∉ back)
    (heq : sep :: back = mid ++ sep :: back') : mid = [] := by
  cases mid with
  | nil => rfl
  | cons a mid =>
    obtain ⟨-, rfl⟩ := List.cons.inj heq
    exact absurd (by simp) h

/-- A list can be cut in one way only at a separator that does not come again. -/
theorem append_cons_inj_of_notMem_back (h : sep ∉ back) (h' : sep ∉ back') :
    front ++ sep :: back = front' ++ sep :: back' ↔ front = front' ∧ back = back' := by
  constructor
  · intro heq
    -- One of the fronts begins with the other.  What it has in addition would put a separator into
    -- the back of the other cut.
    obtain ⟨mid, rfl, hback⟩ | ⟨mid, rfl, hback⟩ := List.append_eq_append_iff.1 heq
    · obtain rfl := eq_nil_of_cons_eq_append_cons h hback
      simpa using heq
    · obtain rfl := eq_nil_of_cons_eq_append_cons h' hback
      simpa using heq
  · rintro ⟨rfl, rfl⟩
    rfl

end Separator

/-! ## How numbers are written -/

theorem isDigit_of_mem_toDigits {n : Nat} {c : Char} (h : c ∈ Nat.toDigits 10 n) :
    c.isDigit = true :=
  Nat.isDigit_of_mem_toDigits (by decide) (by decide) h

theorem toDigits_injective : Function.Injective (Nat.toDigits 10) := by
  have hread : Function.LeftInverse (Nat.ofDigitChars 10 · 0) (Nat.toDigits 10) :=
    fun _ => Nat.ofDigitChars_ten_toDigits
  exact hread.injective

/-- A number is written with its digits, behind a minus sign if it is negative. -/
theorem toList_toString (n : Int) :
    (toString n).toList =
      if 0 ≤ n then Nat.toDigits 10 n.toNat else '-' :: Nat.toDigits 10 (-n).toNat := by
  rw [Int.toString_eq_repr, Int.repr_eq_if]
  split <;> simp

theorem colon_notMem_toString (n : Int) : ':' ∉ (toString n).toList := by
  have hdigits : ∀ m : Nat, ':' ∉ Nat.toDigits 10 m := fun m h =>
    absurd (isDigit_of_mem_toDigits h) (by decide)
  rw [toList_toString]
  split
  · exact hdigits _
  · rw [List.mem_cons, not_or]
    exact ⟨by decide, hdigits _⟩

theorem toString_injective : Function.Injective fun n : Int => toString n := by
  have hsign : ∀ {m : Nat} {digits : List Char}, Nat.toDigits 10 m ≠ '-' :: digits := by
    intro m digits h
    have hdigit : '-'.isDigit = true := isDigit_of_mem_toDigits (h ▸ List.mem_cons_self)
    exact absurd hdigit (by decide)
  intro n n' h
  have hlists := congrArg String.toList h
  simp only [toList_toString] at hlists
  split at hlists
  · split at hlists
    · have hdigits := toDigits_injective hlists
      omega
    · exact absurd hlists hsign
  · split at hlists
    · exact absurd hlists.symm hsign
    · have hdigits := toDigits_injective (List.cons.inj hlists).2
      omega

/-! ## Spellings of a domain -/

/-- The spellings of the default domain: none at all, or its name. -/
def NamesDefault (domain : String) : Prop := domain = "" ∨ domain = defaultDomain

theorem canonicalDomain_eq_defaultDomain_iff {d : String} :
    canonicalDomain d = defaultDomain ↔ NamesDefault d := by
  rw [canonicalDomain, NamesDefault]
  split
  · rename_i h
    simp [h]
  · rename_i h
    simp [h]

theorem canonicalDomain_of_ne {d : String} (h : canonicalDomain d ≠ defaultDomain) :
    canonicalDomain d = d :=
  if_neg fun hempty => h (canonicalDomain_eq_defaultDomain_iff.2 (.inl hempty))

/-- Two spellings stand for the same domain only if they are the same, or both for the default
one. -/
theorem canonicalDomain_eq_iff (d d' : String) :
    canonicalDomain d = canonicalDomain d' ↔ d = d' ∨ NamesDefault d ∧ NamesDefault d' := by
  constructor
  · intro h
    by_cases hd : canonicalDomain d = defaultDomain
    · have hd' : canonicalDomain d' = defaultDomain := h ▸ hd
      exact .inr ⟨canonicalDomain_eq_defaultDomain_iff.1 hd,
        canonicalDomain_eq_defaultDomain_iff.1 hd'⟩
    · have hd' : canonicalDomain d' ≠ defaultDomain := h ▸ hd
      rw [canonicalDomain_of_ne hd, canonicalDomain_of_ne hd'] at h
      exact .inl h
  · rintro (rfl | ⟨hd, hd'⟩)
    · rfl
    · rw [canonicalDomain_eq_defaultDomain_iff.2 hd, canonicalDomain_eq_defaultDomain_iff.2 hd']

/-! ## The text of an identifier -/

namespace OperatorSetId

theorem of_eq_of_iff {d d' : String} {v v' : Int64} :
    of d v = of d' v' ↔ canonicalDomain d = canonicalDomain d' ∧ v = v' := by
  rw [of, of, mk.injEq]

theorem toList_text (id : OperatorSetId) :
    id.text.toList = id.domain.toList ++ ':' :: (toString id.version.toInt).toList := by
  simp [text]

example : (of "a:1" 2).text = "a:1:2" ∧ (of "a:" (-1)).text = "a::-1" := by decide

theorem text_injective : Function.Injective text := by
  rintro ⟨d, v⟩ ⟨d', v'⟩ h
  have hlists := congrArg String.toList h
  rw [toList_text, toList_text, append_cons_inj_of_notMem_back (colon_notMem_toString _)
    (colon_notMem_toString _)] at hlists
  obtain ⟨hdomain, hversion⟩ := hlists
  have hd : d = d' := String.toList_inj.1 hdomain
  have hv : v = v' := Int64.toInt_inj.1 (toString_injective (String.toList_inj.1 hversion))
  rw [hd, hv]

/-- **The text of an identifier identifies the set.**  Two of them have the same text exactly if
they are the same, which is to say that they have the same version and that their domains were
written alike or both stand for the default one. -/
theorem text_identifies (d d' : String) (v v' : Int64) :
    ((of d v).text = (of d' v').text ↔ of d v = of d' v') ∧
      (of d v = of d' v' ↔ canonicalDomain d = canonicalDomain d' ∧ v = v') ∧
      (canonicalDomain d = canonicalDomain d' ↔ d = d' ∨ NamesDefault d ∧ NamesDefault d') :=
  ⟨text_injective.eq_iff, of_eq_of_iff, canonicalDomain_eq_iff d d'⟩

end OperatorSetId
end TensorGraph
