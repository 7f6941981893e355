import Mathlib.Data.List.Induction
import TensorGraph.Operator.Registry

/-!
# Which operators a set holds

A set for the default domain is filled by a loop that replaces what it holds whenever something
newer comes along, and leaves out what is newer than the set.  Whatever the list and its order, it
ends with the newest: of the operators of a kind that are not newer than the set
(`Operator.Applies`), the first one in the list that none of the others is newer than
(`OperatorSet.Prevails`).

* `get?_offer` and `prevails_concat_iff` say what one more operator changes, in the set and in the
  list, and `get?_select_eq_some_iff` that the two changes agree all along the loop.
* `OperatorSet.SameAs` is said of sets that nobody can tell apart, and `sameAs_of_perm` says that
  the order of a list does not matter if no two operators in it are of one kind and one version.

For the catalogue this makes a plain statement.  `c.InEffect opType version` says of a contract
that no other one of its kind is newer and still not newer than the version; there is at most one
such contract, from version 1 on there is one for each kind of operator, and before version 1 there
is none.  `get?_standard_eq_some_iff` says that it is what the standard operators hold.
-/

set_option autoImplicit false

namespace TensorGraph

/-! ## The loop -/

/-- The operator is of the kind, and not newer than the version. -/
structure Operator.Applies (op : Operator) (opType : String) (version : Int64) : Prop where
  kind : op.opType = opType
  since_le : op.since ≤ version

instance (op : Operator) (opType : String) (version : Int64) :
    Decidable (op.Applies opType version) :=
  decidable_of_iff (op.opType = opType ∧ op.since ≤ version)
    ⟨fun h => ⟨h.1, h.2⟩, fun h => ⟨h.kind, h.since_le⟩⟩

namespace OperatorSet

variable {version : Int64} {opType : String} {operators : List Operator} {op d : Operator}

theorem get?_register (set : OperatorSet) (op : Operator) (opType : String) :
    (set.register op).get? opType = if opType = op.opType then some op else set.get? opType :=
  NameMap.get?_insert _ _ _ _

/-- What one step of the loop does to what the set holds. -/
theorem get?_offer (version : Int64) (set : OperatorSet) (op : Operator) (opType : String) :
    (offer version set op).get? opType =
      if op.Applies opType version then
        match set.get? opType with
        | none => some op
        | some current => if current.since < op.since then some op else some current
      else set.get? opType := by
  rw [offer]
  by_cases hnewer : version < op.since
  · have hout : ¬ op.Applies opType version := fun h =>
      Int64.not_le.2 hnewer h.since_le
    rw [if_pos hnewer, if_neg hout]
  · rw [if_neg hnewer]
    by_cases hkind : op.opType = opType
    · subst hkind
      rw [if_pos ⟨rfl, Int64.not_lt.1 hnewer⟩]
      have hself : (set.register op).get? op.opType = some op := by
        rw [get?_register, if_pos rfl]
      cases hcurrent : set.get? op.opType with
      | none => exact hself
      | some current =>
        show (if current.since < op.since then set.register op else set).get? op.opType =
          if current.since < op.since then some op else some current
        split
        · exact hself
        · exact hcurrent
    · rw [if_neg fun h => hkind h.kind]
      -- An operator of another kind goes under another name, if it goes in at all.
      have hother : (set.register op).get? opType = set.get? opType := by
        rw [get?_register, if_neg (Ne.symm hkind)]
      split
      · split
        · exact hother
        · rfl
      · exact hother

/-- One step of the loop puts the operator into the set if it is newer than what the set holds, and
else leaves what is there. -/
theorem get?_offer_eq_some_iff {set : OperatorSet} :
    (offer version set d).get? opType = some op ↔
      (op = d ∧ d.Applies opType version ∧
        ∀ current, set.get? opType = some current → current.since < d.since) ∨
      set.get? opType = some op ∧ (d.Applies opType version → d.since ≤ op.since) := by
  rw [get?_offer]
  by_cases happlies : d.Applies opType version
  · rw [if_pos happlies]
    cases set.get? opType with
    | none => simp [happlies, eq_comm]
    | some current =>
      by_cases hnewer : current.since < d.since
      · have hle : ¬ d.since ≤ current.since := Int64.not_le.2 hnewer
        simp only [if_pos hnewer, Option.some.injEq]
        grind
      · have hle : d.since ≤ current.since := Int64.not_lt.1 hnewer
        simp only [if_neg hnewer, Option.some.injEq]
        grind
  · simp [happlies]

theorem select_concat (version : Int64) (operators : List Operator) (op : Operator) :
    select version (operators ++ [op]) = offer version (select version operators) op := by
  rw [select, List.foldl_append]
  rfl

/-- The loop ends with nothing of a kind only if nothing of the kind applies. -/
theorem get?_select_eq_none_iff : (select version operators).get? opType = none ↔
    ∀ op ∈ operators, ¬ op.Applies opType version := by
  induction operators using List.reverseRecOn with
  | nil => exact iff_of_true rfl (by simp)
  | append_singleton operators op ih =>
    rw [select_concat, get?_offer]
    by_cases happlies : op.Applies opType version
    · have hsome : ¬ ∀ d ∈ operators ++ [op], ¬ d.Applies opType version := fun h =>
        h op (by simp) happlies
      rw [if_pos happlies, iff_false_intro hsome, iff_false]
      split
      · nofun
      · split <;> nofun
    · rw [if_neg happlies, ih]
      simp only [List.forall_mem_append, List.forall_mem_singleton, happlies, not_false_eq_true,
        and_true]

/-- The operator applies, and of the others that do, those listed before it are older and those
listed behind it are not newer. -/
def Prevails (version : Int64) (opType : String) (operators : List Operator) (op : Operator) :
    Prop :=
  ∃ before after, operators = before ++ op :: after ∧ op.Applies opType version ∧
    (∀ d ∈ before, d.Applies opType version → d.since < op.since) ∧
    ∀ d ∈ after, d.Applies opType version → d.since ≤ op.since

theorem Prevails.mem (h : Prevails version opType operators op) : op ∈ operators := by
  obtain ⟨before, after, rfl, -⟩ := h
  simp

theorem Prevails.applies (h : Prevails version opType operators op) :
    op.Applies opType version := by
  obtain ⟨before, after, -, happlies, -⟩ := h
  exact happlies

/-- Nothing that applies is newer than what prevails. -/
theorem Prevails.since_le (h : Prevails version opType operators op) (hd : d ∈ operators)
    (happlies : d.Applies opType version) : d.since ≤ op.since := by
  obtain ⟨before, after, rfl, -, hbefore, hafter⟩ := h
  rcases List.mem_append.1 hd with hd | hd
  · exact Int64.le_of_lt (hbefore d hd happlies)
  · rcases List.mem_cons.1 hd with rfl | hd
    · exact Int64.le_refl _
    · exact hafter d hd happlies

/-- What one more operator changes: it prevails if it is newer than all that apply, and else leaves
it to the one that did before. -/
theorem prevails_concat_iff : Prevails version opType (operators ++ [d]) op ↔
    (op = d ∧ d.Applies opType version ∧
      ∀ c ∈ operators, c.Applies opType version → c.since < d.since) ∨
    Prevails version opType operators op ∧ (d.Applies opType version → d.since ≤ op.since) := by
  constructor
  · rintro ⟨before, after, hsplit, happlies, hbefore, hafter⟩
    rcases List.eq_nil_or_concat after with rfl | ⟨after, last, rfl⟩
    · obtain ⟨rfl, hlast⟩ := List.append_inj' hsplit rfl
      cases hlast
      exact .inl ⟨rfl, happlies, hbefore⟩
    · rw [List.concat_eq_append, ← List.cons_append, ← List.append_assoc] at hsplit
      rw [List.concat_eq_append, List.forall_mem_append, List.forall_mem_singleton] at hafter
      obtain ⟨rfl, hlast⟩ := List.append_inj' hsplit rfl
      cases hlast
      exact .inr ⟨⟨before, after, rfl, happlies, hbefore, hafter.1⟩, hafter.2⟩
  · rintro (⟨rfl, happlies, hall⟩ | ⟨⟨before, after, rfl, happlies, hbefore, hafter⟩, hd⟩)
    · exact ⟨operators, [], rfl, happlies, hall, by simp⟩
    · refine ⟨before, after ++ [d], by simp, happlies, hbefore, ?_⟩
      rw [List.forall_mem_append, List.forall_mem_singleton]
      exact ⟨hafter, hd⟩

/-- To be newer than everything that applies is to be newer than what the set holds. -/
theorem forall_get?_select_lt_iff {since : Int64}
    (h : ∀ op, (select version operators).get? opType = some op ↔
      Prevails version opType operators op) :
    (∀ op, (select version operators).get? opType = some op → op.since < since) ↔
      ∀ d ∈ operators, d.Applies opType version → d.since < since := by
  constructor
  · intro hall d hd happlies
    cases hget : (select version operators).get? opType with
    | none => exact absurd happlies (get?_select_eq_none_iff.1 hget d hd)
    | some op =>
      exact Int64.lt_of_le_of_lt (((h op).1 hget).since_le hd happlies) (hall op hget)
  · intro hall op hget
    have hprevails := (h op).1 hget
    exact hall op hprevails.mem hprevails.applies

/-- **The loop ends with the operator that prevails.** -/
theorem get?_select_eq_some_iff :
    (select version operators).get? opType = some op ↔ Prevails version opType operators op := by
  induction operators using List.reverseRecOn generalizing op with
  | nil =>
    refine iff_of_false nofun fun h => ?_
    exact absurd h.mem List.not_mem_nil
  | append_singleton operators d ih =>
    rw [select_concat, get?_offer_eq_some_iff, prevails_concat_iff, ih,
      forall_get?_select_lt_iff fun _ => ih]

theorem of_get?_select_eq_some (h : (select version operators).get? opType = some op) :
    op ∈ operators ∧ op.opType = opType ∧ op.since ≤ version ∧
      ∀ d ∈ operators, d.opType = opType → d.since ≤ version → d.since ≤ op.since := by
  have hprevails := get?_select_eq_some_iff.1 h
  exact ⟨hprevails.mem, hprevails.applies.kind, hprevails.applies.since_le,
    fun d hd hkind hle => hprevails.since_le hd ⟨hkind, hle⟩⟩

end OperatorSet

/-! ## The order of the list -/

namespace OperatorSet

variable {version : Int64} {opType : String} {operators operators' : List Operator}
  {op : Operator}

/-- The sets cannot be told apart. -/
structure SameAs (a b : OperatorSet) : Prop where
  id_eq : a.id = b.id
  get?_eq : ∀ opType, a.get? opType = b.get? opType
  entries : a.operators.entries.Perm b.operators.entries
  description_eq : a.description = b.description

theorem sameAs_of_get? {a b : OperatorSet} (hid : a.id = b.id)
    (h : ∀ opType, a.get? opType = b.get? opType) : a.SameAs b := by
  refine ⟨hid, h, NameMap.perm_entries h, ?_⟩
  rw [description, description, hid, NameMap.sorted_congr h]

theorem id_select (version : Int64) (operators : List Operator) :
    (select version operators).id = .of defaultDomain version := by
  induction operators using List.reverseRecOn with
  | nil => rfl
  | append_singleton operators op ih =>
    have hoffer : ∀ set : OperatorSet, (offer version set op).id = set.id := by
      intro set
      rw [offer]
      repeat' split
      all_goals rfl
    rw [select_concat, hoffer, ih]

/-- No two operators of the list are of one kind and one version. -/
def Distinct (operators : List Operator) : Prop :=
  ∀ op ∈ operators, ∀ d ∈ operators, op.opType = d.opType → op.since = d.since → op = d

/-- Without two operators of one version, the place in the list does not matter. -/
theorem get?_select_eq_some_iff_of_distinct (hdistinct : Distinct operators) :
    (select version operators).get? opType = some op ↔
      op ∈ operators ∧ op.Applies opType version ∧
        ∀ d ∈ operators, d.Applies opType version → d.since ≤ op.since := by
  rw [get?_select_eq_some_iff]
  constructor
  · intro h
    exact ⟨h.mem, h.applies, fun d => h.since_le⟩
  · rintro ⟨hmem, happlies, hmax⟩
    cases hget : (select version operators).get? opType with
    | none => exact absurd happlies (get?_select_eq_none_iff.1 hget op hmem)
    | some d =>
      have hd := get?_select_eq_some_iff.1 hget
      have hsince := Int64.le_antisymm (hd.since_le hmem happlies) (hmax d hd.mem hd.applies)
      rwa [hdistinct op hmem d hd.mem (happlies.kind.trans hd.applies.kind.symm) hsince]

/-- **The order in which the operators are listed does not matter.** -/
theorem sameAs_of_perm (hdistinct : Distinct operators) (hperm : operators.Perm operators')
    (version : Int64) : (select version operators').SameAs (select version operators) := by
  have hdistinct' : Distinct operators' := fun op hop d hd =>
    hdistinct op (hperm.mem_iff.2 hop) d (hperm.mem_iff.2 hd)
  refine sameAs_of_get? (by rw [id_select, id_select]) fun opType => Option.ext fun op => ?_
  rw [get?_select_eq_some_iff_of_distinct hdistinct, get?_select_eq_some_iff_of_distinct hdistinct']
  simp only [hperm.mem_iff]

end OperatorSet

/-! ## The catalogue -/

/-- The contract is the newest of its kind that is not newer than the version. -/
structure Contract.InEffect (c : Contract) (opType : String) (version : Int64) : Prop where
  mem : c ∈ Catalog.contracts
  kind : c.opType = opType
  since_le : c.since ≤ version
  newest : ∀ d ∈ Catalog.contracts, d.opType = opType → d.since ≤ version → d.since ≤ c.since

namespace Catalog

/-- No two contracts of a kind are of the same version. -/
theorem eq_of_since_eq : ∀ c ∈ contracts, ∀ d ∈ contracts, c.opType = d.opType →
    c.since = d.since → c = d := by
  decide +kernel

/-- Every kind of operator is there from version 1 on. -/
theorem exists_first : ∀ d ∈ contracts, ∃ c ∈ contracts, c.opType = d.opType ∧ c.since = 1 := by
  decide +kernel

theorem one_le_since : ∀ c ∈ contracts, 1 ≤ c.since := by
  decide +kernel

end Catalog

variable {c d : Contract} {opType : String} {version : Int64}

theorem Contract.InEffect.eq (hc : c.InEffect opType version) (hd : d.InEffect opType version) :
    c = d :=
  Catalog.eq_of_since_eq c hc.mem d hd.mem (hc.kind.trans hd.kind.symm)
    (Int64.le_antisymm (hd.newest c hc.mem hc.kind hc.since_le)
      (hc.newest d hd.mem hd.kind hd.since_le))

namespace OperatorSet

theorem mem_operators {op : Operator} :
    op ∈ Catalog.operators ↔ ∃ c ∈ Catalog.contracts, c.operator = op :=
  List.mem_map

theorem get?_standard_eq_none_iff : (standard version).get? opType = none ↔
    ∀ c ∈ Catalog.contracts, c.opType = opType → ¬ c.since ≤ version := by
  rw [standard, get?_select_eq_none_iff, Catalog.operators, List.forall_mem_map]
  exact forall₂_congr fun c _ =>
    ⟨fun h hkind hle => h ⟨hkind, hle⟩, fun h happlies => h happlies.kind happlies.since_le⟩

/-- **What the standard operators hold** is the contract in effect. -/
theorem get?_standard_eq_some_iff {op : Operator} : (standard version).get? opType = some op ↔
    ∃ c : Contract, c.InEffect opType version ∧ c.operator = op := by
  have hsome : ∀ op, (standard version).get? opType = some op →
      ∃ c : Contract, c.InEffect opType version ∧ c.operator = op := by
    intro op h
    obtain ⟨hmem, hkind, hle, hmax⟩ := of_get?_select_eq_some h
    obtain ⟨c, hc, rfl⟩ := mem_operators.1 hmem
    refine ⟨c, ⟨hc, hkind, hle, ?_⟩, rfl⟩
    intro d hd hdkind hdle
    exact hmax d.operator (mem_operators.2 ⟨d, hd, rfl⟩) hdkind hdle
  refine ⟨hsome op, ?_⟩
  rintro ⟨c, hc, rfl⟩
  cases hget : (standard version).get? opType with
  | none => exact absurd hc.since_le (get?_standard_eq_none_iff.1 hget c hc.mem hc.kind)
  | some op =>
    obtain ⟨d, hd, rfl⟩ := hsome op hget
    rw [hc.eq hd]

theorem exists_inEffect (h : 1 ≤ version) (hd : d ∈ Catalog.contracts) :
    ∃ c : Contract, c.InEffect d.opType version := by
  cases hget : (standard version).get? d.opType with
  | none =>
    obtain ⟨c, hc, hkind, hsince⟩ := Catalog.exists_first d hd
    exact absurd (hsince ▸ h) (get?_standard_eq_none_iff.1 hget c hc hkind)
  | some op =>
    obtain ⟨c, hc, -⟩ := get?_standard_eq_some_iff.1 hget
    exact ⟨c, hc⟩

theorem get?_standard_of_lt (h : ¬ 1 ≤ version) (opType : String) :
    (standard version).get? opType = none := by
  refine get?_standard_eq_none_iff.2 fun c hc _ hle => h ?_
  exact Int64.le_trans (Catalog.one_le_since c hc) hle

theorem distinct_operators : Distinct Catalog.operators := by
  intro op hop d hd hkind hsince
  obtain ⟨c, hc, rfl⟩ := mem_operators.1 hop
  obtain ⟨c', hc', rfl⟩ := mem_operators.1 hd
  rw [Catalog.eq_of_since_eq c hc c' hc' hkind hsince]

/-- **The loop picks the newest, whatever the order.**  From any list of operators it takes, of each
kind that the list has an operator of that is not newer than the version, the first of the newest
ones.  A later version has all kinds that an earlier one has, and none of them older.  The catalogue
may be listed in any order. -/
theorem select_picks_newest :
    (∀ version opType operators,
      (∃ op, (select version operators).get? opType = some op) ↔
        ∃ op ∈ operators, op.Applies opType version) ∧
    (∀ version opType operators op,
      (select version operators).get? opType = some op ↔
        Prevails version opType operators op) ∧
    (∀ v w opType operators op, v ≤ w → (select v operators).get? opType = some op →
      ∃ op', (select w operators).get? opType = some op' ∧ op.since ≤ op'.since) ∧
    ∀ version operators, Catalog.operators.Perm operators →
      (select version operators).SameAs (standard version) := by
  have hexists : ∀ version opType operators,
      (∃ op, (select version operators).get? opType = some op) ↔
        ∃ op ∈ operators, op.Applies opType version := by
    intro version opType operators
    rw [← Option.ne_none_iff_exists', ne_eq, get?_select_eq_none_iff]
    push Not
    exact Iff.rfl
  refine ⟨hexists, fun _ _ _ _ => get?_select_eq_some_iff, ?_, ?_⟩
  · intro v w opType operators op hle hget
    have hop := get?_select_eq_some_iff.1 hget
    have hlater : op.Applies opType w :=
      ⟨hop.applies.kind, Int64.le_trans hop.applies.since_le hle⟩
    obtain ⟨op', hget'⟩ := (hexists w opType operators).2 ⟨op, hop.mem, hlater⟩
    exact ⟨op', hget', (get?_select_eq_some_iff.1 hget').since_le hop.mem hlater⟩
  · intro version operators hperm
    exact sameAs_of_perm distinct_operators hperm version

/-- An operator of version 6 that goes by the name of a domain of its own. -/
def reluOf (domain : String) : Operator := { Catalog.reluV6.operator with domain := domain }

/-- Of two operators of one version the first is taken, and the catalogue may be listed from its
end. -/
theorem select_picks_newest_reversed :
    (select 13 [Catalog.reluV1.operator, reluOf "first", reluOf "last"]).get? "Relu" =
        some (reluOf "first") ∧
      (1 : Int64) ≤ 13 ∧
      (select 1 Catalog.operators.reverse).get? "Clip" = some Catalog.clipV1.operator ∧
      (∃ op, (select 13 Catalog.operators.reverse).get? "Clip" = some op ∧ 1 ≤ op.since) ∧
      Catalog.operators.Perm Catalog.operators.reverse ∧
      (select 13 Catalog.operators.reverse).SameAs (standard 13) := by
  obtain ⟨-, hprevails, hlater, hperm⟩ := select_picks_newest
  have hfirst : Prevails 13 "Relu" [Catalog.reluV1.operator, reluOf "first", reluOf "last"]
      (reluOf "first") :=
    ⟨[Catalog.reluV1.operator], [reluOf "last"], rfl, ⟨rfl, by decide⟩,
      by simpa using fun _ => by decide, by simpa using fun _ => by decide⟩
  have hle : (1 : Int64) ≤ 13 := by decide
  have hclip : (select 1 Catalog.operators.reverse).get? "Clip" = some Catalog.clipV1.operator :=
    rfl
  have hreverse : Catalog.operators.Perm Catalog.operators.reverse :=
    Catalog.operators.reverse_perm.symm
  refine ⟨(hprevails _ _ _ _).2 hfirst, hle, hclip, ?_, hreverse, hperm 13 _ hreverse⟩
  exact hlater 1 13 "Clip" Catalog.operators.reverse Catalog.clipV1.operator hle hclip

end OperatorSet

end TensorGraph
