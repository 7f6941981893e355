import Mathlib.Data.List.Basic
import Mathlib.Data.List.Induction
import TensorGraph.Graph.NameIndex

/-!
# What a name index says

Which node writes a name and which nodes read it can be found out by going through the nodes, once
for every name that is asked for.  This file does so, in `Wiring.producer?` and `Wiring.consumers`,
and says that a name index, which goes through the nodes only once, gives the same answers.

* `Wiring.Reads`, `Wiring.Writes` and `Wiring.Provides` are what the names of a node mean;
  `producer?_eq_some_iff` and `mem_consumers` say that the slow look-ups follow them.
* `NameIndex.Describes index w` says that the index answers as the nodes of `w` would.  It is the
  invariant of the pass, kept by every node (`Describes.addNode`) and so true of the result
  (`describes_ofWiring`).
-/

set_option autoImplicit false

namespace TensorGraph
namespace Wiring

/-! ## Reading and writing -/

/-- The node `i` reads the name `t`. -/
def Reads (w : Wiring) (i : Nat) (t : String) : Prop := ∃ p, w[i]? = some p ∧ t ∈ p.inputs

/-- The node `i` writes the name `t`. -/
def Writes (w : Wiring) (i : Nat) (t : String) : Prop := ∃ p, w[i]? = some p ∧ t ∈ p.outputs

/-- The name `t` stands for an output of the node `i`, the last one that writes it. -/
def Provides (w : Wiring) (i : Nat) (t : String) : Prop :=
  t ≠ "" ∧ w.Writes i t ∧ ∀ k, i < k → ¬ w.Writes k t

variable {w : Wiring} {i j : Nat} {t : String}

theorem Reads.lt (h : w.Reads i t) : i < w.length := by
  obtain ⟨p, hp, -⟩ := h
  exact (List.getElem?_eq_some_iff.1 hp).1

theorem Writes.lt (h : w.Writes i t) : i < w.length := by
  obtain ⟨p, hp, -⟩ := h
  exact (List.getElem?_eq_some_iff.1 hp).1

/-! ## Looking names up -/

/-- The nodes whose ports pass a test, in ascending order. -/
def idsWhere (w : Wiring) (test : Ports → Bool) : List Nat :=
  (w.zipIdx.filter fun p => test p.1).map Prod.snd

/-- The nodes that write a name. -/
def writers (w : Wiring) (tensor : String) : List Nat :=
  if tensor = "" then [] else idsWhere w fun p => p.outputs.contains tensor

/-- The node whose output a name stands for: the last one that writes it. -/
def producer? (w : Wiring) (tensor : String) : Option Nat := (writers w tensor).getLast?

/-- The nodes that read a name, each once. -/
def consumers (w : Wiring) (tensor : String) : List Nat :=
  if tensor = "" then [] else idsWhere w fun p => p.inputs.contains tensor

theorem mem_idsWhere {test : Ports → Bool} :
    i ∈ idsWhere w test ↔ ∃ p, w[i]? = some p ∧ test p = true := by
  simp only [idsWhere, List.mem_map, List.mem_filter, Prod.exists, List.mem_zipIdx_iff_getElem?]
  constructor
  · rintro ⟨p, k, ⟨hp, htest⟩, rfl⟩
    exact ⟨p, hp, htest⟩
  · rintro ⟨p, hp, htest⟩
    exact ⟨p, i, ⟨hp, htest⟩, rfl⟩

/-- Nodes are found in ascending order, each of them once. -/
theorem pairwise_idsWhere (w : Wiring) (test : Ports → Bool) :
    (idsWhere w test).Pairwise (· < ·) := by
  have hall : (w.zipIdx.map Prod.snd).Pairwise (· < ·) := by
    rw [List.zipIdx_map_snd]
    exact List.pairwise_lt_range'
  exact hall.sublist (List.filter_sublist.map _)

theorem mem_writers : i ∈ writers w t ↔ t ≠ "" ∧ w.Writes i t := by
  by_cases ht : t = ""
  · simp [writers, ht]
  · simp [writers, ht, mem_idsWhere, Writes]

theorem mem_consumers : i ∈ consumers w t ↔ t ≠ "" ∧ w.Reads i t := by
  by_cases ht : t = ""
  · simp [consumers, ht]
  · simp [consumers, ht, mem_idsWhere, Reads]

theorem pairwise_writers (w : Wiring) (t : String) : (writers w t).Pairwise (· < ·) := by
  rw [writers]
  split
  · exact List.Pairwise.nil
  · exact pairwise_idsWhere _ _

theorem pairwise_consumers (w : Wiring) (t : String) : (consumers w t).Pairwise (· < ·) := by
  rw [consumers]
  split
  · exact List.Pairwise.nil
  · exact pairwise_idsWhere _ _

/-- The last entry of an ascending list is its greatest. -/
theorem getLast?_eq_some_iff_of_pairwise {l : List Nat} (h : l.Pairwise (· < ·)) :
    l.getLast? = some i ↔ i ∈ l ∧ ∀ k ∈ l, k ≤ i := by
  constructor
  · intro hlast
    obtain ⟨front, rfl⟩ := List.getLast?_eq_some_iff.1 hlast
    refine ⟨by simp, fun k hk => ?_⟩
    rcases List.mem_append.1 hk with hk | hk
    · exact Nat.le_of_lt ((List.pairwise_append.1 h).2.2 k hk i (by simp))
    · exact Nat.le_of_eq (List.mem_singleton.1 hk)
  · rintro ⟨hi, hmax⟩
    obtain ⟨k, hk⟩ : ∃ k, l.getLast? = some k := by
      cases hl : l.getLast? with
      | none => simp [List.getLast?_eq_none_iff.1 hl] at hi
      | some k => exact ⟨k, rfl⟩
    obtain ⟨front, rfl⟩ := List.getLast?_eq_some_iff.1 hk
    rcases List.mem_append.1 hi with hi' | hi'
    · have h1 := (List.pairwise_append.1 h).2.2 i hi' k (by simp)
      have h2 := hmax k (by simp)
      omega
    · rw [hk, List.mem_singleton.1 hi']

/-- **The last node that writes a name provides it.** -/
theorem producer?_eq_some_iff : producer? w t = some i ↔ w.Provides i t := by
  rw [producer?, getLast?_eq_some_iff_of_pairwise (pairwise_writers w t), mem_writers]
  constructor
  · rintro ⟨⟨ht, hi⟩, hmax⟩
    exact ⟨ht, hi, fun k hlt hk => absurd (hmax k (mem_writers.2 ⟨ht, hk⟩)) (Nat.not_le.2 hlt)⟩
  · rintro ⟨ht, hi, hlast⟩
    exact ⟨⟨ht, hi⟩, fun k hk => Nat.not_lt.1 fun hlt => hlast k hlt (mem_writers.1 hk).2⟩

theorem producer?_eq_none_iff : producer? w t = none ↔ t = "" ∨ ∀ i, ¬ w.Writes i t := by
  rw [producer?, List.getLast?_eq_none_iff, List.eq_nil_iff_forall_not_mem]
  simp only [mem_writers]
  by_cases ht : t = "" <;> simp [ht]

/-- A name that is written at all stands for the output of some node. -/
theorem exists_provides (ht : t ≠ "") (h : ∃ i, w.Writes i t) : ∃ i, w.Provides i t := by
  cases hp : producer? w t with
  | none =>
    obtain ⟨i, hi⟩ := h
    exact absurd hi ((producer?_eq_none_iff.1 hp).resolve_left ht i)
  | some i => exact ⟨i, producer?_eq_some_iff.1 hp⟩

/-! ## One more node -/

theorem idsWhere_concat (w : Wiring) (p : Ports) (test : Ports → Bool) :
    idsWhere (w ++ [p]) test = idsWhere w test ++ if test p then [w.length] else [] := by
  rw [idsWhere, List.zipIdx_append, List.filter_append, List.map_append, idsWhere, Nat.zero_add,
    List.zipIdx_singleton, List.filter_singleton]
  cases test p <;> rfl

/-- The last node provides all names that it writes. -/
theorem producer?_concat (w : Wiring) (p : Ports) (t : String) :
    producer? (w ++ [p]) t =
      if t ≠ "" ∧ t ∈ p.outputs then some w.length else producer? w t := by
  by_cases ht : t = ""
  · simp [producer?, writers, ht]
  · rw [producer?, producer?, writers, writers, if_neg ht, if_neg ht, idsWhere_concat]
    by_cases hp : t ∈ p.outputs
    · simp [ht, hp]
    · simp [hp]

/-- The last node is the last to read a name. -/
theorem consumers_concat (w : Wiring) (p : Ports) (t : String) :
    consumers (w ++ [p]) t =
      if t ≠ "" ∧ t ∈ p.inputs then consumers w t ++ [w.length] else consumers w t := by
  by_cases ht : t = ""
  · simp [consumers, ht]
  · rw [consumers, consumers, if_neg ht, if_neg ht, idsWhere_concat]
    by_cases hp : t ∈ p.inputs
    · simp [ht, hp]
    · simp [hp]

theorem forall_not_provides_iff : (∀ i, ¬ w.Provides i t) ↔ producer? w t = none := by
  simp only [← producer?_eq_some_iff, Option.eq_none_iff_forall_ne_some, ne_eq]

theorem length_not_mem_consumers (w : Wiring) (t : String) : w.length ∉ consumers w t :=
  fun h => Nat.lt_irrefl _ (mem_consumers.1 h).2.lt

end Wiring

/-! ## One pass over the nodes -/

namespace NameIndex

variable {index : NameIndex} {id : Nat} {s t : String}

theorem producer?_addWriter :
    (addWriter id index s).producer? t =
      if t ≠ "" ∧ t = s then some id else index.producer? t := by
  rw [addWriter]
  by_cases hs : s = ""
  · rw [if_pos hs, if_neg (by grind)]
  · rw [if_neg hs, producer?, NameMap.get?_insert, producer?]
    grind

theorem consumers_addWriter : (addWriter id index s).consumers t = index.consumers t := by
  rw [addWriter]
  split <;> rfl

theorem producer?_addReader : (addReader id index s).producer? t = index.producer? t := by
  rw [addReader]
  split <;> rfl

theorem consumers_addReader :
    (addReader id index s).consumers t =
      if t ≠ "" ∧ t = s ∧ id ∉ index.consumers t then index.consumers t ++ [id]
      else index.consumers t := by
  rw [addReader]
  by_cases hs : s = "" ∨ id ∈ index.consumers s
  · rw [if_pos hs, if_neg (by grind)]
  · rw [if_neg hs, consumers, NameMap.get?_insert]
    by_cases ht : t = s
    · subst ht
      rw [if_pos rfl, if_pos (by grind), Option.getD_some]
    · rw [if_neg ht, if_neg (by grind), consumers]

/-- Of all names that it writes, a node becomes the one that writes them. -/
theorem producer?_foldl_addWriter (names : List String) :
    (names.foldl (addWriter id) index).producer? t =
      if t ≠ "" ∧ t ∈ names then some id else index.producer? t := by
  induction names generalizing index with
  | nil => simp
  | cons s names ih =>
    rw [List.foldl_cons, ih, producer?_addWriter]
    grind

theorem consumers_foldl_addWriter (names : List String) :
    (names.foldl (addWriter id) index).consumers t = index.consumers t := by
  induction names generalizing index with
  | nil => rfl
  | cons s names ih => rw [List.foldl_cons, ih, consumers_addWriter]

theorem producer?_foldl_addReader (names : List String) :
    (names.foldl (addReader id) index).producer? t = index.producer? t := by
  induction names generalizing index with
  | nil => rfl
  | cons s names ih => rw [List.foldl_cons, ih, producer?_addReader]

/-- However often a node reads a name, it is put among the readers once. -/
theorem consumers_foldl_addReader (names : List String) :
    (names.foldl (addReader id) index).consumers t =
      if t ≠ "" ∧ t ∈ names ∧ id ∉ index.consumers t then index.consumers t ++ [id]
      else index.consumers t := by
  induction names generalizing index with
  | nil => simp
  | cons s names ih =>
    rw [List.foldl_cons, ih, consumers_addReader]
    grind

/-- The index answers as the nodes would. -/
structure Describes (index : NameIndex) (w : Wiring) : Prop where
  producer?_eq : ∀ t, index.producer? t = w.producer? t
  consumers_eq : ∀ t, index.consumers t = w.consumers t

variable {w : Wiring}

theorem describes_empty : empty.Describes [] := by
  refine ⟨fun t => ?_, fun t => ?_⟩
  · simp [producer?, empty, Wiring.producer?, Wiring.writers, Wiring.idsWhere]
  · simp [consumers, empty, Wiring.consumers, Wiring.idsWhere]

/-- The next node keeps the index right. -/
theorem Describes.addNode (h : index.Describes w) (p : Ports) :
    (index.addNode w.length p).Describes (w ++ [p]) := by
  refine ⟨fun t => ?_, fun t => ?_⟩
  · rw [NameIndex.addNode, producer?_foldl_addReader, producer?_foldl_addWriter, h.producer?_eq,
      Wiring.producer?_concat]
  · have hnew := Wiring.length_not_mem_consumers w t
    rw [NameIndex.addNode, consumers_foldl_addReader, consumers_foldl_addWriter, h.consumers_eq,
      Wiring.consumers_concat]
    simp only [hnew, not_false_eq_true, and_true]

theorem ofWiring_concat (w : Wiring) (p : Ports) :
    ofWiring (w ++ [p]) = (ofWiring w).addNode w.length p := by
  rw [ofWiring, List.zipIdx_append, List.foldl_append, Nat.zero_add, List.zipIdx_singleton]
  rfl

/-- **One pass is enough**: the index that it fills answers for every name. -/
theorem describes_ofWiring (w : Wiring) : (ofWiring w).Describes w := by
  induction w using List.reverseRecOn with
  | nil => exact describes_empty
  | append_singleton w p ih =>
    rw [ofWiring_concat]
    exact ih.addNode p

theorem Describes.producer?_eq_some_iff (h : index.Describes w) :
    index.producer? t = some id ↔ w.Provides id t := by
  rw [h.producer?_eq, Wiring.producer?_eq_some_iff]

theorem Describes.mem_consumers (h : index.Describes w) :
    id ∈ index.consumers t ↔ t ≠ "" ∧ w.Reads id t := by
  rw [h.consumers_eq, Wiring.mem_consumers]

end NameIndex

end TensorGraph
