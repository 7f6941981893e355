import Mathlib.Data.List.Permutation
import Mathlib.Data.List.Sort
import Mathlib.Data.Set.Card
import TensorGraph.Graph.Basic
import TensorGraph.Proofs.Graph.Ties

/-!
# The dependencies of a graph

What `Graph.ofRecord` keeps of the nodes of a record is their names, and from these come the index,
the edges and the order of the graph.

* `GraphRecord.wiring` is what the record itself says about who reads and writes what, and
  `Graph.Built` lists the parts a graph is put together from; `wiring_eq` says that the graph reads
  and writes what its record does, and `describes` that its index says so.
* `schedule_eq_ok` and `staged_schedule` open the one stage in which the dependencies are judged.
* `Graph.adjacency` says that the neighbours of a node are those it is tied to, and
  `Graph.producers_first` that the order is an order in which every node can be computed.
-/

set_option autoImplicit false

namespace TensorGraph

/-- The names that a node of a record reads and writes. -/
def NodeRecord.ports (r : NodeRecord) : Ports := ⟨r.inputs, r.outputs⟩

/-- What messages call the node: its name, or its operator if it has none. -/
def NodeRecord.label (r : NodeRecord) : String := if r.name = "" then r.opType else r.name

/-- The names that each node of a record reads and writes. -/
def GraphRecord.wiring (r : GraphRecord) : Wiring := r.nodes.map NodeRecord.ports

/-- What messages call the node with an id. -/
def GraphRecord.labelOf (r : GraphRecord) (id : Nat) : String :=
  ((r.nodes.map NodeRecord.label)[id]?).getD ""

/-! ## Faulty wirings -/

namespace Wiring

/-- The fault of nodes of which one reads its own output. -/
def LoopFault (w : Wiring) (label : Nat → String) : Error → Prop :=
  FirstFault (fun port e => w.SelfTied port ∧ e = .graph (.selfLoop (label port.1) port.2))
    w.outputPorts

/-- The fault of nodes of which some depend on themselves. -/
def CycleFault (w : Wiring) (label : Nat → String) (e : Error) : Prop :=
  ∃ i, Relation.TransGen w.Ties i i ∧ e = .graph (.cycle (label i))

theorem not_loopFault {w : Wiring} (h : ∀ i, ¬ w.Ties i i) (label : Nat → String) (e : Error) :
    ¬ w.LoopFault label e :=
  forall_not_firstFault.2 (fun port _ _ he => h port.1 ⟨port.2, he.1⟩) e

end Wiring

/-! ## The parts of a graph -/

namespace Graph

variable {r : GraphRecord} {options : TensorOptions} {g : Graph}

/-- The names that each node reads and writes. -/
def wiring (g : Graph) : Wiring := g.nodes.map Node.ports

/-- The parts that a graph is put together from. -/
structure Built (r : GraphRecord) (options : TensorOptions) (g : Graph) : Prop where
  nodes : r.nodes.mapM (Node.ofRecord · options) = .ok g.nodes
  constants : r.initializers.mapM (Constant.ofRecord · options) = .ok g.constants
  inputs : r.inputs.mapM GraphInput.ofRecord = .ok g.inputs
  index : g.index = .ofWiring g.wiring
  order : schedule g.nodes g.index = .ok g.order
  edges : g.edges = Wiring.edges g.wiring g.index
  outputs : r.outputs.mapM (GraphOutput.ofRecord (OutputSource.find? g.index
    (g.inputs.map GraphInput.name) (g.constants.map Constant.name))) = .ok g.outputs

theorem built_of_ofRecord (h : ofRecord r options = .ok g) : Built r options g := by
  rw [ofRecord] at h
  split at h
  · cases h
  split at h
  · cases h
  simp only [bind_eq_ok_iff, pure, Except.pure, Except.ok.injEq] at h
  obtain ⟨nodes, hnodes, constants, hconstants, inputs, hinputs, order, horder, outputs, houtputs,
    rfl⟩ := h
  exact ⟨hnodes, hconstants, hinputs, rfl, horder, rfl, houtputs⟩

/-- A node keeps the names of its record. -/
theorem nodeOfRecord_eq_ok {nr : NodeRecord} {node : Node}
    (h : Node.ofRecord nr options = .ok node) :
    node.ports = nr.ports ∧ node.label = nr.label := by
  rw [Node.ofRecord, bind_eq_ok_iff] at h
  obtain ⟨attributes, -, h⟩ := h
  cases h
  exact ⟨rfl, rfl⟩

theorem ports_eq {nodes : List Node} (h : r.nodes.mapM (Node.ofRecord · options) = .ok nodes) :
    nodes.map Node.ports = r.wiring :=
  map_eq_of_mapM_eq_ok h fun _ _ hnode => (nodeOfRecord_eq_ok hnode).1

theorem labelOf_eq_getD (nodes : List Node) (id : Nat) :
    labelOf nodes id = ((nodes.map Node.label)[id]?).getD "" := by
  rw [labelOf, List.getElem?_map]
  cases nodes[id]? <;> rfl

theorem labelOf_eq {nodes : List Node} (h : r.nodes.mapM (Node.ofRecord · options) = .ok nodes) :
    labelOf nodes = r.labelOf := by
  have hlabels : nodes.map Node.label = r.nodes.map NodeRecord.label :=
    map_eq_of_mapM_eq_ok h fun _ _ hnode => (nodeOfRecord_eq_ok hnode).2
  funext id
  rw [labelOf_eq_getD, GraphRecord.labelOf, hlabels]

/-- A graph reads and writes the names that its record does. -/
theorem Built.wiring_eq (h : Built r options g) : g.wiring = r.wiring := ports_eq h.nodes

/-- The index that a graph keeps is that of its record. -/
theorem Built.describes (h : Built r options g) : g.index.Describes r.wiring := by
  rw [h.index, h.wiring_eq]
  exact NameIndex.describes_ofWiring r.wiring

theorem Built.length_nodes (h : Built r options g) : g.nodes.length = r.nodes.length := by
  simpa [wiring, GraphRecord.wiring] using congrArg List.length h.wiring_eq

/-! ## The order of the nodes -/

theorem schedule_eq_ok {nodes : List Node} {index : NameIndex} {order : List Nat}
    (hindex : index.Describes (nodes.map Node.ports)) (h : schedule nodes index = .ok order) :
    (∀ i, ¬ Wiring.Ties (nodes.map Node.ports) i i) ∧
      order.Perm (List.range nodes.length) ∧
      ∀ i j, Wiring.Ties (nodes.map Node.ports) i j → [i, j].Sublist order := by
  rw [schedule] at h
  split at h
  · cases h
  rename_i hloop
  split at h
  · cases h
  rename_i order' horder
  cases h
  have hno := (Wiring.selfLoop?_eq_none_iff hindex).1 hloop
  obtain ⟨hperm, hforward⟩ :=
    Digraph.topologicalOrder_eq_ok (Wiring.bounded_digraph hindex) horder
  refine ⟨hno, by simpa [Wiring.digraph] using hperm, fun i j hij => ?_⟩
  exact hforward i j ((Wiring.edge_digraph hindex).2 hij) fun e => hno i (e ▸ hij)

/-- Nodes that can be put in order have no cycle among them. -/
theorem acyclic_of_schedule_eq_ok {nodes : List Node} {index : NameIndex} {order : List Nat}
    (hindex : index.Describes (nodes.map Node.ports)) (h : schedule nodes index = .ok order)
    (i : Nat) : ¬ Relation.TransGen (Wiring.Ties (nodes.map Node.ports)) i i := by
  obtain ⟨-, hperm, hforward⟩ := schedule_eq_ok hindex h
  rw [← Wiring.transGen_edge_digraph hindex]
  refine Digraph.not_transGen_self (hperm.nodup_iff.2 List.nodup_range) (fun v w he => ?_) i
  exact hforward v w ((Wiring.edge_digraph hindex).1 he)

/-- **What is wrong with nodes that cannot be put in order**: one reads its own output, or else
some lie on a longer cycle, and the error names one of those. -/
theorem staged_schedule {nodes : List Node} {index : NameIndex}
    (hindex : index.Describes (nodes.map Node.ports)) :
    Staged (schedule nodes index)
      [Wiring.LoopFault (nodes.map Node.ports) (labelOf nodes),
        Wiring.CycleFault (nodes.map Node.ports) (labelOf nodes)] := by
  cases h : schedule nodes index with
  | ok order =>
    have hno := (schedule_eq_ok hindex h).1
    intro stage hmem e he
    simp only [List.mem_cons, List.not_mem_nil, or_false] at hmem
    rcases hmem with rfl | rfl
    · exact Wiring.not_loopFault hno _ e he
    · obtain ⟨i, hi, -⟩ := he
      exact acyclic_of_schedule_eq_ok hindex h i hi
  | error e =>
    rw [schedule] at h
    split at h
    · rename_i link hlink
      cases h
      exact firstFault_cons.2 (.inl (Wiring.firstFault_of_selfLoop? hindex
        (fun i t => Error.graph (.selfLoop (labelOf nodes i) t)) hlink))
    · rename_i hloop
      have hno := (Wiring.selfLoop?_eq_none_iff hindex).1 hloop
      split at h
      · rename_i i hi
        cases h
        have hcycle := Digraph.topologicalOrder_eq_error (Wiring.bounded_digraph hindex) hi
        refine firstFault_cons.2 (.inr ⟨Wiring.not_loopFault hno _, firstFault_cons.2 (.inl ?_)⟩)
        exact ⟨i, (Wiring.transGen_edge_digraph hindex).1 hcycle, rfl⟩
      · cases h

/-! ## What the graph says about its nodes -/

theorem Built.mem_edges (h : Built r options g) {i j : Nat} :
    (i, j) ∈ g.edges ↔ r.wiring.Ties i j := by
  rw [h.edges, h.wiring_eq, Wiring.mem_edges h.describes]

theorem Built.nodup_edges (h : Built r options g) : g.edges.Nodup :=
  h.edges ▸ Wiring.nodup_edges _ _

theorem Built.lt_of_ties (h : Built r options g) {i j : Nat} (hij : r.wiring.Ties i j) :
    i < g.nodes.length ∧ j < g.nodes.length := by
  have hlt := hij.lt
  rwa [GraphRecord.wiring, List.length_map, ← h.length_nodes] at hlt

theorem Built.mem_successors (h : Built r options g) {i j : Nat} :
    j ∈ g.successors i ↔ r.wiring.Ties i j := by
  rw [successors, List.mem_mergeSort, Digraph.mem_successors, ← h.mem_edges]
  rfl

theorem Built.mem_predecessors (h : Built r options g) {i j : Nat} :
    i ∈ g.predecessors j ↔ r.wiring.Ties i j := by
  rw [predecessors, List.mem_mergeSort, Digraph.mem_predecessors, ← h.mem_edges]
  rfl

/-- No neighbour comes twice, since no edge does. -/
theorem Built.nodup_neighbours (h : Built r options g) (i : Nat) :
    (g.successors i).Nodup ∧ (g.predecessors i).Nodup := by
  have hsuccessors : (g.digraph.successors i).Nodup := h.nodup_edges.filterMap (by grind)
  have hpredecessors : (g.digraph.predecessors i).Nodup := h.nodup_edges.filterMap (by grind)
  exact ⟨(List.mergeSort_perm _ _).nodup_iff.2 hsuccessors,
    (List.mergeSort_perm _ _).nodup_iff.2 hpredecessors⟩

theorem Built.pairwise_neighbours (h : Built r options g) (i : Nat) :
    (g.successors i).Pairwise (· < ·) ∧ (g.predecessors i).Pairwise (· < ·) :=
  ⟨(List.sortedLE_mergeSort.sortedLT_of_nodup (h.nodup_neighbours i).1).pairwise,
    (List.sortedLE_mergeSort.sortedLT_of_nodup (h.nodup_neighbours i).2).pairwise⟩

/-- Four nodes, of which two write the name `b` and one reads a name twice. -/
def shadowed : GraphRecord where
  nodes :=
    [ { inputs := ["x"], outputs := ["a"] },
      { inputs := ["a", "a", ""], outputs := ["b", ""] },
      { inputs := ["a"], outputs := ["b"] },
      { inputs := ["b", "a"], outputs := ["y"] } ]
  inputs := [{ name := "x" }]
  outputs := [{ name := "y" }]

theorem exists_ofRecord_shadowed : ∃ g, ofRecord shadowed {} = .ok g := by
  have hok : (ofRecord shadowed {}).isOk = true := by cbv
  exact exists_ok_of_isOk hok

/-- **Neighbours are the nodes that are tied.**  For a graph that is made from a record, the nodes
listed before and after a node are those that the names of the record tie to it, in ascending order;
there are none for a node that does not exist; and there is one edge for each tied pair. -/
theorem adjacency (h : ofRecord r options = .ok g) :
    (∀ i j, (j ∈ g.successors i ↔ r.wiring.Ties i j) ∧
        (i ∈ g.predecessors j ↔ r.wiring.Ties i j)) ∧
      (∀ i, (g.successors i).Pairwise (· < ·) ∧ (g.predecessors i).Pairwise (· < ·)) ∧
      (∀ i, g.nodes.length ≤ i → g.successors i = [] ∧ g.predecessors i = []) ∧
      g.edges.length = {p : Nat × Nat | r.wiring.Ties p.1 p.2}.ncard := by
  have hb := built_of_ofRecord h
  refine ⟨fun i j => ⟨hb.mem_successors, hb.mem_predecessors⟩, hb.pairwise_neighbours,
    fun i hi => ?_, ?_⟩
  · have houtside : ∀ j, ¬ r.wiring.Ties i j ∧ ¬ r.wiring.Ties j i := fun j =>
      ⟨fun hij => Nat.not_lt.2 hi (hb.lt_of_ties hij).1,
        fun hij => Nat.not_lt.2 hi (hb.lt_of_ties hij).2⟩
    exact ⟨List.eq_nil_iff_forall_not_mem.2 fun j hj => (houtside j).1 (hb.mem_successors.1 hj),
      List.eq_nil_iff_forall_not_mem.2 fun j hj => (houtside j).2 (hb.mem_predecessors.1 hj)⟩
  · have hset : {p : Nat × Nat | r.wiring.Ties p.1 p.2} = g.edges.toFinset := by
      ext ⟨i, j⟩
      simp [hb.mem_edges]
    rw [hset, Set.ncard_coe_finset, List.toFinset_card_of_nodup hb.nodup_edges]

/-- The last node depends on the second one that writes `b`, and not on the first. -/
theorem adjacency_shadowed :
    ∃ g, ofRecord shadowed {} = .ok g ∧ 3 ∈ g.successors 2 ∧ 3 ∉ g.successors 1 ∧
      0 ∈ g.predecessors 1 ∧ g.successors 4 = [] := by
  obtain ⟨g, hg⟩ := exists_ofRecord_shadowed
  obtain ⟨hmem, -, hempty, -⟩ := adjacency hg
  have hties (i j : Nat) := Wiring.mem_edges (i := i) (j := j)
    (NameIndex.describes_ofWiring shadowed.wiring)
  refine ⟨g, hg, (hmem 2 3).1.2 ((hties 2 3).1 (by decide)), fun h => ?_,
    (hmem 0 1).2.2 ((hties 0 1).1 (by decide)), (hempty 4 ?_).1⟩
  · have hnot : (1, 3) ∉ Wiring.edges shadowed.wiring (.ofWiring shadowed.wiring) := by decide
    exact hnot ((hties 1 3).2 ((hmem 1 3).1.1 h))
  · exact (built_of_ofRecord hg).length_nodes.le

/-- **Every node can be computed when its turn comes.**  The order lists every node exactly once,
and a node that reads a name which is written at all comes after the node that provides it. -/
theorem producers_first (h : ofRecord r options = .ok g) :
    g.order.Perm (List.range g.nodes.length) ∧
      ∀ n t, t ≠ "" → r.wiring.Reads n t → (∃ m, r.wiring.Writes m t) →
        ∃ p, g.producer? t = some p ∧ [p, n].Sublist g.order := by
  have hb := built_of_ofRecord h
  have hindex : g.index.Describes g.wiring := hb.wiring_eq ▸ hb.describes
  obtain ⟨-, hperm, hforward⟩ := schedule_eq_ok hindex hb.order
  refine ⟨hperm, fun n t ht hreads hwritten => ?_⟩
  obtain ⟨p, hp⟩ := Wiring.exists_provides ht hwritten
  have hties : g.wiring.Ties p n := hb.wiring_eq ▸ ⟨t, hp, hreads⟩
  exact ⟨p, hb.describes.producer?_eq_some_iff.2 hp, hforward p n hties⟩

/-- The name `b` stands for what the second of its two writers writes, and its reader comes
later. -/
theorem producers_first_shadowed :
    ∃ g, ofRecord shadowed {} = .ok g ∧ g.order.Perm [0, 1, 2, 3] ∧
      g.producer? "b" = some 2 ∧ [2, 3].Sublist g.order := by
  obtain ⟨g, hg⟩ := exists_ofRecord_shadowed
  obtain ⟨hperm, hfirst⟩ := producers_first hg
  rw [(built_of_ofRecord hg).length_nodes] at hperm
  have hreads : shadowed.wiring.Reads 3 "b" := ⟨⟨["b", "a"], ["y"]⟩, rfl, by decide⟩
  have hwrites : shadowed.wiring.Writes 1 "b" := ⟨⟨["a", "a", ""], ["b", ""]⟩, rfl, by decide⟩
  obtain ⟨p, hp, hbefore⟩ := hfirst 3 "b" (by decide) hreads ⟨1, hwrites⟩
  have hlast : g.producer? "b" = some 2 := by
    rw [producer?, (built_of_ofRecord hg).describes.producer?_eq]
    decide
  cases hp.symm.trans hlast
  exact ⟨g, hg, hperm, hp, hbefore⟩

end Graph
end TensorGraph
