/-!
# Maps from names

A node's attributes, a model's metadata and the operators of a set are all keyed by a name, and in
all of them a name written again replaces what it stood for.  `NameMap` is such a map: a list of
pairs in which no name occurs twice, in the order in which the names first appeared.  That order
is never shown; whoever prints a map asks for it `sorted`.

The view of a map is `get?`, and `get?_insert` says what insertion does to it.
-/

set_option autoImplicit false

namespace TensorGraph

/-- A finite map from names. -/
structure NameMap (α : Type) where
  /-- The pairs, in the order in which the names first appeared. -/
  entries : List (String × α)
  /-- No name occurs twice. -/
  nodup : (entries.map Prod.fst).Nodup

namespace NameMap

variable {α : Type}

/-- The map that holds nothing. -/
def empty : NameMap α := ⟨[], List.nodup_nil⟩

/-- What a list of pairs holds under a name. -/
def lookup (name : String) : List (String × α) → Option α
  | [] => none
  | (n, a) :: rest => if n = name then some a else lookup name rest

/-- Replaces the value of a name in a list of pairs, or puts a new pair at the end. -/
def put (name : String) (value : α) : List (String × α) → List (String × α)
  | [] => [(name, value)]
  | (n, a) :: rest => if n = name then (n, value) :: rest else (n, a) :: put name value rest

theorem mem_names_put {name n : String} {value : α} {l : List (String × α)} :
    n ∈ (put name value l).map Prod.fst ↔ n = name ∨ n ∈ l.map Prod.fst := by
  induction l with
  | nil => simp [put]
  | cons p rest ih =>
    obtain ⟨m, a⟩ := p
    by_cases h : m = name
    · simp only [put, h, if_true, List.map_cons, List.mem_cons]
      grind
    · simp only [put, h, if_false, List.map_cons, List.mem_cons, ih]
      grind

theorem nodup_put {name : String} {value : α} {l : List (String × α)}
    (h : (l.map Prod.fst).Nodup) : ((put name value l).map Prod.fst).Nodup := by
  induction l with
  | nil => simp [put]
  | cons p rest ih =>
    obtain ⟨m, a⟩ := p
    rw [List.map_cons, List.nodup_cons] at h
    rw [put]
    split
    · rw [List.map_cons, List.nodup_cons]
      exact h
    · rename_i hm
      rw [List.map_cons, List.nodup_cons]
      refine ⟨fun hmem => ?_, ih h.2⟩
      rcases mem_names_put.1 hmem with h' | h'
      · exact hm h'
      · exact h.1 h'

theorem lookup_put {name n : String} {value : α} {l : List (String × α)} :
    lookup n (put name value l) = if n = name then some value else lookup n l := by
  induction l with
  | nil => simp only [put, lookup, eq_comm]
  | cons p rest ih =>
    obtain ⟨m, a⟩ := p
    by_cases hm : m = name
    · subst hm
      by_cases hn : n = m
      · simp only [put, lookup, if_true, hn]
      · have hn' : ¬ m = n := fun h => hn h.symm
        simp only [put, lookup, if_true, hn, hn', if_false]
    · by_cases hn : m = n
      · subst hn
        simp only [put, lookup, hm, if_false, if_true]
      · simp only [put, lookup, hm, hn, if_false, ih]

theorem lookup_eq_some_iff {l : List (String × α)} (h : (l.map Prod.fst).Nodup) {name : String}
    {value : α} : lookup name l = some value ↔ (name, value) ∈ l := by
  induction l with
  | nil => simp [lookup]
  | cons p rest ih =>
    obtain ⟨n, a⟩ := p
    rw [List.map_cons, List.nodup_cons] at h
    rw [lookup, List.mem_cons, Prod.mk.injEq]
    by_cases hn : n = name
    · subst hn
      have hnot : (n, value) ∉ rest := fun hmem => h.1 (List.mem_map.2 ⟨_, hmem, rfl⟩)
      simp [hnot, eq_comm]
    · rw [if_neg hn, ih h.2, or_iff_right fun h => hn h.1.symm]

/-- What the map holds under a name. -/
def get? (m : NameMap α) (name : String) : Option α := lookup name m.entries

/-- The map with a value under a name, whatever stood there before. -/
def insert (m : NameMap α) (name : String) (value : α) : NameMap α :=
  ⟨put name value m.entries, nodup_put m.nodup⟩

/-- Whether the map holds anything under a name. -/
def contains (m : NameMap α) (name : String) : Bool := (m.get? name).isSome

/-- The number of names in the map. -/
def size (m : NameMap α) : Nat := m.entries.length

/-- The values in the map. -/
def values (m : NameMap α) : List α := m.entries.map Prod.snd

/-- The map with a function applied to every value. -/
def map {β : Type} (f : α → β) (m : NameMap α) : NameMap β :=
  ⟨m.entries.map fun p => (p.1, f p.2), by simpa [Function.comp_def] using m.nodup⟩

/-- The pairs in the order of their names. -/
def sorted (m : NameMap α) : List (String × α) :=
  m.entries.mergeSort fun p q => decide (p.1 ≤ q.1)

/-- Both maps hold the same names, and values that agree under each of them. -/
def same (agree : α → α → Bool) (m n : NameMap α) : Bool :=
  m.size == n.size && m.entries.all fun p =>
    match n.get? p.1 with
    | some b => agree p.2 b
    | none => false

@[simp] theorem get?_empty (name : String) : (empty : NameMap α).get? name = none := rfl

theorem get?_insert (m : NameMap α) (name n : String) (value : α) :
    (m.insert name value).get? n = if n = name then some value else m.get? n :=
  lookup_put

theorem contains_iff (m : NameMap α) (name : String) :
    m.contains name = true ↔ ∃ a, m.get? name = some a := by
  rw [contains, Option.isSome_iff_exists]

theorem lookup_map {β : Type} (f : α → β) (l : List (String × α)) (name : String) :
    lookup name (l.map fun p => (p.1, f p.2)) = (lookup name l).map f := by
  induction l with
  | nil => rfl
  | cons p rest ih =>
    by_cases h : p.1 = name
    · simp [lookup, h]
    · simp [lookup, h, ih]

theorem get?_map {β : Type} (f : α → β) (m : NameMap α) (name : String) :
    (m.map f).get? name = (m.get? name).map f :=
  lookup_map f m.entries name

theorem get?_eq_some_iff {m : NameMap α} {name : String} {value : α} :
    m.get? name = some value ↔ (name, value) ∈ m.entries :=
  lookup_eq_some_iff m.nodup

/-- The names of a map, in any order and without repetition. -/
theorem perm_names {m : NameMap α} {names : List String} (hnodup : names.Nodup)
    (hnames : ∀ name, name ∈ names ↔ m.contains name = true) :
    names.Perm (m.entries.map Prod.fst) := by
  refine (List.perm_ext_iff_of_nodup hnodup m.nodup).2 fun name => ?_
  rw [hnames, contains_iff]
  constructor
  · rintro ⟨a, ha⟩
    exact List.mem_map.2 ⟨_, get?_eq_some_iff.1 ha, rfl⟩
  · intro hname
    obtain ⟨p, hp, rfl⟩ := List.mem_map.1 hname
    exact ⟨p.2, get?_eq_some_iff.2 hp⟩

theorem size_eq_length {m : NameMap α} {names : List String} (hnodup : names.Nodup)
    (hnames : ∀ name, name ∈ names ↔ m.contains name = true) : m.size = names.length := by
  rw [(perm_names hnodup hnames).length_eq, List.length_map, size]

/-- Maps that answer alike hold the same pairs. -/
theorem perm_entries {m n : NameMap α} (h : ∀ name, m.get? name = n.get? name) :
    m.entries.Perm n.entries := by
  have hnodup (m : NameMap α) : m.entries.Nodup :=
    List.Pairwise.of_map Prod.fst (fun _ _ hne heq => hne (congrArg Prod.fst heq)) m.nodup
  refine (List.perm_ext_iff_of_nodup (hnodup m) (hnodup n)).2 ?_
  rintro ⟨name, a⟩
  rw [← get?_eq_some_iff, ← get?_eq_some_iff, h]

/-- In the order of the names, maps that answer alike look alike. -/
theorem sorted_congr {m n : NameMap α} (h : ∀ name, m.get? name = n.get? name) :
    m.sorted = n.sorted := by
  have hperm : m.sorted.Perm n.sorted :=
    (List.mergeSort_perm _ _).trans ((perm_entries h).trans (List.mergeSort_perm _ _).symm)
  have hpairwise (m : NameMap α) :
      m.sorted.Pairwise fun p q => decide (p.1 ≤ q.1) = true :=
    List.pairwise_mergeSort (fun _ _ _ => by simpa using String.le_trans)
      (fun p q => by simpa using String.le_total p.1 q.1) _
  refine hperm.eq_of_pairwise (fun p q hp hq hpq hqp => ?_) (hpairwise m) (hpairwise n)
  have hname : p.1 = q.1 := String.le_antisymm (of_decide_eq_true hpq) (of_decide_eq_true hqp)
  have hp' : n.get? p.1 = some p.2 := by
    rw [← h]
    exact get?_eq_some_iff.2 ((List.mergeSort_perm _ _).mem_iff.1 hp)
  have hq' : n.get? q.1 = some q.2 := get?_eq_some_iff.2 ((List.mergeSort_perm _ _).mem_iff.1 hq)
  rw [hname, hq', Option.some.injEq] at hp'
  exact Prod.ext hname hp'.symm

@[simp] theorem values_map {β : Type} (f : α → β) (m : NameMap α) :
    (m.map f).values = m.values.map f := by
  simp [values, map]

theorem map_map {β γ : Type} (f : α → β) (g : β → γ) (m : NameMap α) :
    (m.map f).map g = m.map (g ∘ f) := by
  simp [map]

end NameMap

end TensorGraph
