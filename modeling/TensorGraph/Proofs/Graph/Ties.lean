import Mathlib.Data.List.Nodup
import TensorGraph.Graph.Wiring
import TensorGraph.Proofs.Graph.NameIndex
import TensorGraph.Proofs.Graph.Walk
import TensorGraph.Proofs.Stages

/-!
# The ties between nodes

The ties between nodes are computed from lists of names and an index of them.  This file says what
is computed, in terms of which node reads and writes which name and nothing else.  All that is asked
of the index is that it describes the nodes.

* `Wiring.Ties w i j` is the relation that the edges stand for: some name that is not empty is
  written by node `i`, by no later node, and is read by node `j`.
* `mem_links` describes the walk over all outputs, and `mem_edges` what is left when repetitions
  are dropped.
* `selfLoop?_eq_none_iff` and `firstFault_of_selfLoop?` say when a node is tied to itself, and which
  one is named; `edge_digraph` hands the relation over to `Digraph`.
-/

set_option autoImplicit false

namespace TensorGraph
namespace Wiring

/-- Some name ties `j` to `i`: it stands for an output of `i`, and `j` reads it. -/
def Ties (w : Wiring) (i j : Nat) : Prop := ∃ t, w.Provides i t ∧ w.Reads j t

variable {w : Wiring} {index : NameIndex} {i j : Nat}

theorem Ties.lt (h : w.Ties i j) : i < w.length ∧ j < w.length := by
  obtain ⟨t, ⟨-, hi, -⟩, hj⟩ := h
  exact ⟨hi.lt, hj.lt⟩

/-! ## Links and edges -/

/-- **The walk over all outputs finds the ties**, together with the names that make them. -/
theorem mem_links (h : index.Describes w) {link : Link} :
    link ∈ links w index ↔
      w.Provides link.producer link.tensor ∧ w.Reads link.consumer link.tensor := by
  obtain ⟨i, t, j⟩ := link
  simp only [links, linksFrom, List.mem_flatMap, List.mem_filter, List.mem_map, Prod.exists,
    List.mem_zipIdx_iff_getElem?, beq_iff_eq, h.producer?_eq_some_iff, Link.mk.injEq]
  constructor
  · rintro ⟨p, k, hp, u, ⟨hu, hprovides⟩, c, hc, rfl, rfl, rfl⟩
    exact ⟨hprovides, (h.mem_consumers.1 hc).2⟩
  · rintro ⟨hprovides, hreads⟩
    obtain ⟨p, hp, hmem⟩ := hprovides.2.1
    have hc := h.mem_consumers.2 ⟨hprovides.1, hreads⟩
    exact ⟨p, i, hp, t, ⟨hmem, hprovides⟩, j, hc, rfl, rfl, rfl⟩

theorem nodup_eraseDups (es : List (Nat × Nat)) : es.eraseDups.Nodup := by
  match es with
  | [] => exact List.nodup_nil
  | e :: es =>
    rw [List.eraseDups_cons, List.nodup_cons]
    exact ⟨by simp, nodup_eraseDups (es.filter fun e' => !e' == e)⟩
termination_by es.length
decreasing_by exact Nat.lt_succ_of_le (List.length_filter_le _ _)

/-- **The edges are the ties.** -/
theorem mem_edges (h : index.Describes w) : (i, j) ∈ edges w index ↔ w.Ties i j := by
  rw [edges, List.mem_eraseDups, List.mem_map]
  constructor
  · rintro ⟨link, hlink, heq⟩
    cases heq
    exact ⟨link.tensor, (mem_links h).1 hlink⟩
  · rintro ⟨t, ht⟩
    exact ⟨⟨i, t, j⟩, (mem_links h).2 ht, rfl⟩

theorem nodup_edges (w : Wiring) (index : NameIndex) : (edges w index).Nodup := nodup_eraseDups _

theorem edge_digraph (h : index.Describes w) : (digraph w index).Edge i j ↔ w.Ties i j :=
  mem_edges h

theorem bounded_digraph (h : index.Describes w) : (digraph w index).Bounded :=
  fun _ _ he => ((edge_digraph h).1 he).lt

theorem transGen_edge_digraph (h : index.Describes w) :
    Relation.TransGen (digraph w index).Edge i j ↔ Relation.TransGen w.Ties i j := by
  have hedge : (digraph w index).Edge = w.Ties := by
    funext a b
    exact propext (edge_digraph h)
  rw [hedge]

/-! ## Nodes that are tied to themselves -/

/-- The outputs of all nodes, each with its node, by nodes and then by outputs. -/
def outputPorts (w : Wiring) : List (Nat × String) :=
  w.zipIdx.flatMap fun p => p.1.outputs.map fun t => (p.2, t)

/-- An output that stands for its name and is read by its own node. -/
def SelfTied (w : Wiring) (port : Nat × String) : Prop :=
  w.Provides port.1 port.2 ∧ w.Reads port.1 port.2

theorem selfLoop?_eq_none_iff (h : index.Describes w) :
    selfLoop? w index = none ↔ ∀ i, ¬ w.Ties i i := by
  rw [selfLoop?, List.find?_eq_none]
  constructor
  · rintro hnone i ⟨t, ht⟩
    exact hnone ⟨i, t, i⟩ ((mem_links h).2 ht) (by simp)
  · intro hnone link hlink heq
    rw [beq_iff_eq] at heq
    have hmem := (mem_links h).1 hlink
    rw [← heq] at hmem
    exact hnone link.producer ⟨link.tensor, hmem⟩

/-- The ties that one output makes. -/
def linksOf (index : NameIndex) (port : Nat × String) : List Link :=
  if index.producer? port.2 = some port.1 then
    (index.consumers port.2).map fun consumer => ⟨port.1, port.2, consumer⟩
  else []

theorem links_eq_flatMap (w : Wiring) (index : NameIndex) :
    links w index = (outputPorts w).flatMap (linksOf index) := by
  rw [links, outputPorts, List.flatMap_assoc]
  refine congrArg (fun f => List.flatMap f w.zipIdx) (funext fun p => ?_)
  rw [linksFrom, List.flatMap_map]
  induction p.1.outputs with
  | nil => rfl
  | cons t ts ih =>
    rw [List.flatMap_cons, ← ih, List.filter_cons]
    by_cases ht : index.producer? t = some p.2 <;> simp [linksOf, ht]

/-- Among the ties that one output makes there is one to its own node if that node reads it. -/
theorem firstFault_linksOf {ε : Type} (h : index.Describes w) (fault : Nat → String → ε)
    {port : Nat × String} {e : ε} :
    FirstFault (fun link e => (link.producer == link.consumer) = true ∧
        e = fault link.producer link.tensor) (linksOf index port) e ↔
      w.SelfTied port ∧ e = fault port.1 port.2 := by
  obtain ⟨i, t⟩ := port
  rw [linksOf]
  split
  · rename_i hproducer
    have hprovides := h.producer?_eq_some_iff.1 hproducer
    have hloop : (∃ j ∈ index.consumers t, i = j) ↔ w.SelfTied (i, t) := by
      simp only [h.mem_consumers, SelfTied, exists_eq_right', hprovides, true_and, hprovides.1,
        ne_eq, not_false_eq_true]
    rw [← hloop, ← firstFault_const, firstFault_map]
    simp only [beq_iff_eq]
  · rename_i hproducer
    have hnot : ¬ w.SelfTied (i, t) := fun ht => hproducer (h.producer?_eq_some_iff.2 ht.1)
    simp [not_firstFault_nil, hnot]

/-- **The tie that is named is that of the first output its own node reads.** -/
theorem firstFault_of_selfLoop? {ε : Type} (h : index.Describes w) (fault : Nat → String → ε)
    {link : Link} (hlink : selfLoop? w index = some link) :
    FirstFault (fun port e => w.SelfTied port ∧ e = fault port.1 port.2) w.outputPorts
      (fault link.producer link.tensor) := by
  have hfirst := firstFault_of_find? hlink fun link => fault link.producer link.tensor
  rw [links_eq_flatMap, firstFault_flatMap] at hfirst
  exact (firstFault_congr fun _ _ => firstFault_linksOf h fault).1 hfirst

end Wiring
end TensorGraph
