import Mathlib.Logic.Equiv.Basic
import TensorGraph.Proofs.Graph.WellFormed
import TensorGraph.Proofs.TwoRuns

/-!
# The order in which nodes are listed

The nodes of a record stand in some order, and their places in it are their ids.  As long as no
name is written by two nodes, that is all the order means: another order gives the same graph with
other ids, or the same sort of fault.

* `Moves σ l l'` says that `l'` is `l` in another order, in which the entry at `i` stands at `σ i`;
  every permutation of a list is of this kind (`exists_moves`).
* `Rewired σ w w'` carries this over to wirings.  Reading and writing follow the nodes wherever they
  go; with one writer for each name, providing does too, for the last node that writes a name is the
  only one.  So ties, cycles and the search for the source of an output follow
  (`Rewired.ties`, `Rewired.exists_cycle_iff`, `Rewired.find?`).
* `GraphRecord.faultsAlike_stages` goes through the stages in which a record may fail, and
  `Built.renumbered` compares the two graphs.
-/

set_option autoImplicit false

namespace TensorGraph

/-! ## Lists in another order -/

section Moves

variable {α β : Type} {σ : Equiv.Perm ℕ} {l l' : List α}

/-- The entry at `i` of the one list stands at `σ i` in the other one. -/
def Moves (σ : Equiv.Perm ℕ) (l l' : List α) : Prop := ∀ i, l'[σ i]? = l[i]?

theorem Moves.map (h : Moves σ l l') (f : α → β) : Moves σ (l.map f) (l'.map f) := by
  intro i
  rw [List.getElem?_map, List.getElem?_map, h i]

theorem Moves.symm (h : Moves σ l l') : Moves σ.symm l' l := by
  intro i
  have hi := h (σ.symm i)
  rw [σ.apply_symm_apply] at hi
  exact hi.symm

/-- The permutation that keeps 0 and moves the numbers behind it. -/
def shifted (σ : Equiv.Perm ℕ) : Equiv.Perm ℕ where
  toFun
    | 0 => 0
    | i + 1 => σ i + 1
  invFun
    | 0 => 0
    | i + 1 => σ.symm i + 1
  left_inv i := by cases i <;> simp
  right_inv i := by cases i <;> simp

/-- **A permutation of a list moves its entries.** -/
theorem exists_moves (h : l.Perm l') : ∃ σ : Equiv.Perm ℕ, Moves σ l l' := by
  induction h with
  | nil => exact ⟨1, fun _ => rfl⟩
  | cons a _ ih =>
    obtain ⟨σ, hσ⟩ := ih
    refine ⟨shifted σ, ?_⟩
    rintro (_ | i)
    · rfl
    · exact hσ i
  | swap a b l =>
    refine ⟨Equiv.swap 0 1, ?_⟩
    rintro (_ | _ | i)
    · rw [Equiv.swap_apply_left]
      rfl
    · rw [Equiv.swap_apply_right]
      rfl
    · rw [Equiv.swap_apply_of_ne_of_ne (by omega) (by omega)]
      rfl
  | trans _ _ ih₁ ih₂ =>
    obtain ⟨σ, hσ⟩ := ih₁
    obtain ⟨τ, hτ⟩ := ih₂
    exact ⟨τ * σ, fun i => (hτ (σ i)).trans (hσ i)⟩

/-- Lists without repetition that have the same entries, up to new names, are the same up to
order. -/
theorem perm_map_of_mem_iff (e : α ≃ β) {l : List α} {l' : List β} (hl : l.Nodup) (hl' : l'.Nodup)
    (h : ∀ a, a ∈ l ↔ e a ∈ l') : (l.map e).Perm l' := by
  rw [List.perm_ext_iff_of_nodup (hl.map e.injective) hl']
  intro b
  rw [List.mem_map]
  constructor
  · rintro ⟨a, ha, rfl⟩
    exact (h a).1 ha
  · intro hb
    exact ⟨e.symm b, (h _).2 (by rwa [e.apply_symm_apply]), e.apply_symm_apply b⟩

end Moves

/-! ## Wirings in another order -/

namespace Wiring

/-- Of the names that are not empty, none is written by two nodes. -/
def SingleWriter (w : Wiring) : Prop :=
  ∀ t, t ≠ "" → ∀ i j, w.Writes i t → w.Writes j t → i = j

/-- The same nodes in another order, without a name that two of them write. -/
structure Rewired (σ : Equiv.Perm ℕ) (w w' : Wiring) : Prop where
  moves : Moves σ w w'
  single : w.SingleWriter

theorem mem_outputPorts {w : Wiring} {i : ℕ} {t : String} :
    (i, t) ∈ w.outputPorts ↔ w.Writes i t := by
  simp only [outputPorts, List.mem_flatMap, List.mem_map, Prod.exists, Prod.mk.injEq,
    List.mem_zipIdx_iff_getElem?, Writes]
  constructor
  · rintro ⟨p, k, hp, u, hu, rfl, rfl⟩
    exact ⟨p, hp, hu⟩
  · rintro ⟨p, hp, ht⟩
    exact ⟨p, i, hp, t, ht, rfl, rfl⟩

/-- Only the names that are written need to be looked at. -/
theorem singleWriter_of_outputPorts {w : Wiring} (h : ∀ p ∈ w.outputPorts, ∀ q ∈ w.outputPorts,
    p.2 = q.2 → p.2 = "" ∨ p.1 = q.1) : w.SingleWriter := by
  intro t ht i j hi hj
  exact (h (i, t) (mem_outputPorts.2 hi) (j, t) (mem_outputPorts.2 hj) rfl).resolve_left ht

/-- A name with one writer stands for its output. -/
theorem SingleWriter.provides_iff {w : Wiring} (h : w.SingleWriter) {i : ℕ} {t : String} :
    w.Provides i t ↔ t ≠ "" ∧ w.Writes i t := by
  refine ⟨fun hp => ⟨hp.1, hp.2.1⟩, ?_⟩
  rintro ⟨ht, hi⟩
  refine ⟨ht, hi, fun k hlt hk => ?_⟩
  exact absurd (h t ht i k hi hk) (Nat.ne_of_lt hlt)

namespace Rewired

variable {σ : Equiv.Perm ℕ} {w w' : Wiring} {i j : ℕ} {t : String}

theorem reads (h : Rewired σ w w') : w'.Reads (σ i) t ↔ w.Reads i t := by
  rw [Reads, h.moves i, Reads]

theorem writes (h : Rewired σ w w') : w'.Writes (σ i) t ↔ w.Writes i t := by
  rw [Writes, h.moves i, Writes]

theorem symm (h : Rewired σ w w') : Rewired σ.symm w' w := by
  refine ⟨h.moves.symm, ?_⟩
  intro t ht i j hi hj
  rw [← σ.apply_symm_apply i, h.writes] at hi
  rw [← σ.apply_symm_apply j, h.writes] at hj
  exact σ.symm.injective (h.single t ht _ _ hi hj)

theorem provides (h : Rewired σ w w') : w'.Provides (σ i) t ↔ w.Provides i t := by
  rw [h.symm.single.provides_iff, h.single.provides_iff, h.writes]

theorem ties (h : Rewired σ w w') : w'.Ties (σ i) (σ j) ↔ w.Ties i j := by
  rw [Ties, Ties]
  simp only [h.provides, h.reads]

theorem transGen_ties (h : Rewired σ w w') (hij : Relation.TransGen w.Ties i j) :
    Relation.TransGen w'.Ties (σ i) (σ j) :=
  hij.lift σ fun _ _ => h.ties.2

theorem exists_cycle_iff (h : Rewired σ w w') :
    (∃ i, Relation.TransGen w.Ties i i) ↔ ∃ i, Relation.TransGen w'.Ties i i := by
  constructor
  · rintro ⟨i, hi⟩
    exact ⟨σ i, h.transGen_ties hi⟩
  · rintro ⟨i, hi⟩
    exact ⟨σ.symm i, h.symm.transGen_ties hi⟩

theorem exists_self_tie_iff (h : Rewired σ w w') : (∃ i, w.Ties i i) ↔ ∃ i, w'.Ties i i := by
  constructor
  · rintro ⟨i, hi⟩
    exact ⟨σ i, h.ties.2 hi⟩
  · rintro ⟨i, hi⟩
    exact ⟨σ.symm i, h.symm.ties.2 hi⟩

theorem producer? (h : Rewired σ w w') (t : String) :
    Wiring.producer? w' t = (Wiring.producer? w t).map σ := by
  cases hproducer : Wiring.producer? w t with
  | some i => exact producer?_eq_some_iff.2 (h.provides.2 (producer?_eq_some_iff.1 hproducer))
  | none =>
    refine producer?_eq_none_iff.2 ((producer?_eq_none_iff.1 hproducer).imp_right ?_)
    intro hnone i hi
    exact hnone (σ.symm i) (h.symm.writes.2 hi)

end Rewired

/-! ## Faulty wirings in another order -/

theorem exists_loopFault_iff {w : Wiring} {label : ℕ → String} :
    (∃ e, w.LoopFault label e) ↔ ∃ i, w.Ties i i := by
  constructor
  · rintro ⟨e, he⟩
    by_contra hnone
    push Not at hnone
    exact not_loopFault hnone label e he
  · rintro ⟨i, t, hprovides, hreads⟩
    exact exists_firstFault.2 ⟨(i, t), mem_outputPorts.2 hprovides.2.1, _, ⟨hprovides, hreads⟩, rfl⟩

theorem LoopFault.eq_selfLoop {w : Wiring} {label : ℕ → String} {e : Error}
    (h : w.LoopFault label e) : ∃ node output, e = .graph (.selfLoop node output) := by
  obtain ⟨-, port, -, -, -, -, he⟩ := h
  exact ⟨_, _, he⟩

end Wiring

/-! ## Sources of outputs -/

/-- The source under the new ids. -/
def OutputSource.renumber (σ : ℕ → ℕ) : OutputSource → OutputSource
  | node id => node (σ id)
  | input => input
  | constant => constant

/-- The output with its source under the new ids. -/
def GraphOutput.renumber (σ : ℕ → ℕ) (output : GraphOutput) : GraphOutput :=
  { output with source := output.source.renumber σ }

namespace Wiring.Rewired

variable {σ : Equiv.Perm ℕ} {w w' : Wiring} {index index' : NameIndex}

theorem find? (h : Rewired σ w w') (hindex : index.Describes w) (hindex' : index'.Describes w')
    (inputs constants : List String) (name : String) :
    OutputSource.find? index' inputs constants name =
      (OutputSource.find? index inputs constants name).map (OutputSource.renumber σ) := by
  rw [OutputSource.find?, OutputSource.find?, hindex'.producer?_eq, hindex.producer?_eq,
    h.producer?]
  cases Wiring.producer? w name with
  | some i => rfl
  | none =>
    show (if inputs.contains name then some OutputSource.input
      else if constants.contains name then some .constant else none) = _
    split
    · rfl
    · split <;> rfl

theorem outputOfRecord (h : Rewired σ w w') (hindex : index.Describes w)
    (hindex' : index'.Describes w') (inputs constants : List String) (r : ValueInfoRecord) :
    GraphOutput.ofRecord (OutputSource.find? index' inputs constants) r = do
      return (← GraphOutput.ofRecord (OutputSource.find? index inputs constants) r).renumber σ := by
  rw [GraphOutput.ofRecord, GraphOutput.ofRecord, h.find? hindex hindex']
  cases OutputSource.find? index inputs constants r.name with
  | none => rfl
  | some source => cases ValueInfo.ofRecord r <;> rfl

end Wiring.Rewired

/-! ## Records with their nodes in another order -/

namespace GraphRecord

/-- Everything can be read that is read before the outputs. -/
structure Decodes (r : GraphRecord) (options : TensorOptions) : Prop where
  attributes : ∀ node ∈ r.nodes, ∀ a ∈ node.attributes, ∃ x, Attribute.ofRecord a options = .ok x
  initializers : ∀ tensor ∈ r.initializers, ∃ t, Tensor.ofRecord tensor options = .ok t
  inputs : ∀ input ∈ r.inputs, ∃ info, ValueInfo.ofRecord input = .ok info

theorem Decodes.not_firstFault {r : GraphRecord} {options : TensorOptions} (h : r.Decodes options)
    (e : Error) :
    ¬ FirstFault (fun a e => Attribute.ofRecord a options = .error e)
        (r.nodes.flatMap NodeRecord.attributes) e ∧
      ¬ FirstFault (fun tensor e => Tensor.ofRecord tensor options = .error e) r.initializers e ∧
      ¬ FirstFault (fun input e => ValueInfo.ofRecord input = .error e) r.inputs e := by
  refine ⟨forall_not_firstFault.2 (fun a ha => ?_) e,
    forall_not_firstFault.2 (fun t ht => exists_ok_iff.1 (h.initializers t ht)) e,
    forall_not_firstFault.2 (fun i hi => exists_ok_iff.1 (h.inputs i hi)) e⟩
  obtain ⟨node, hnode, ha⟩ := List.mem_flatMap.1 ha
  exact exists_ok_iff.1 (h.attributes node hnode a ha)

/-- The errors are faults of the same kind in a graph, or one error, about the type of an
output. -/
def SameFailure (r : GraphRecord) (e e' : Error) : Prop :=
  (∃ f f' : GraphFault, e = .graph f ∧ e' = .graph f' ∧ f.kind = f'.kind) ∨
    e = e' ∧ ∃ output ∈ r.outputs, ValueInfo.ofRecord output = .error e

variable {r : GraphRecord} {options : TensorOptions} {nodes' : List NodeRecord}
  {σ : Equiv.Perm ℕ}

theorem offers_of_perm (h : r.nodes.Perm nodes') (name : String) :
    { r with nodes := nodes' }.Offers name ↔ r.Offers name := by
  simp only [Offers, h.mem_iff]

theorem outputFault_of_perm (h : r.nodes.Perm nodes') :
    { r with nodes := nodes' }.OutputFault = r.OutputFault := by
  funext output e
  simp only [OutputFault, offers_of_perm h]

/-- A fault in the graph that does not depend on the nodes. -/
theorem faultsAlike_graph (p : Prop) (fault : GraphFault) :
    FaultsAlike (fun e e' => r.Decodes options → r.SameFailure e e')
      (fun e => p ∧ e = .graph fault) (fun e => p ∧ e = .graph fault) := by
  refine ⟨Iff.rfl, ?_⟩
  rintro e e' ⟨-, rfl⟩ ⟨-, rfl⟩ -
  exact .inl ⟨fault, fault, rfl, rfl, rfl⟩

/-- **The stages in which a record may fail** are at fault alike. -/
theorem faultsAlike_stages (hperm : r.nodes.Perm nodes')
    (hrewired : r.wiring.Rewired σ { r with nodes := nodes' }.wiring) :
    List.Forall₂ (FaultsAlike fun e e' => r.Decodes options → r.SameFailure e e')
      (r.stages options) ({ r with nodes := nodes' }.stages options) := by
  refine .cons (faultsAlike_graph _ _) (.cons (faultsAlike_graph _ _) (.cons ?_ (.cons ?_
    (.cons ?_ (.cons ?_ (.cons ?_ (.cons ?_ .nil)))))))
  · refine ⟨?_, fun e _ he _ hdecodes => absurd he (hdecodes.not_firstFault e).1⟩
    rw [exists_firstFault, exists_firstFault]
    simp only [List.mem_flatMap, hperm.mem_iff]
  · exact ⟨Iff.rfl, fun e _ he _ hdecodes => absurd he (hdecodes.not_firstFault e).2.1⟩
  · exact ⟨Iff.rfl, fun e _ he _ hdecodes => absurd he (hdecodes.not_firstFault e).2.2⟩
  · refine ⟨?_, fun e e' he he' _ => ?_⟩
    · rw [Wiring.exists_loopFault_iff, Wiring.exists_loopFault_iff]
      exact hrewired.exists_self_tie_iff
    · obtain ⟨node, output, rfl⟩ := he.eq_selfLoop
      obtain ⟨node', output', rfl⟩ := he'.eq_selfLoop
      exact .inl ⟨_, _, rfl, rfl, rfl⟩
  · refine ⟨?_, ?_⟩
    · have hexists : ∀ (w : Wiring) (label : ℕ → String),
          (∃ e, w.CycleFault label e) ↔ ∃ i, Relation.TransGen w.Ties i i := fun w label =>
        ⟨fun ⟨_, i, hi, _⟩ => ⟨i, hi⟩, fun ⟨i, hi⟩ => ⟨_, i, hi, rfl⟩⟩
      rw [hexists, hexists]
      exact hrewired.exists_cycle_iff
    · rintro e e' ⟨i, -, rfl⟩ ⟨j, -, rfl⟩ -
      exact .inl ⟨_, _, rfl, rfl, rfl⟩
  · refine FaultsAlike.firstFault (List.forall₂_same.2 fun output houtput => ?_)
    rw [outputFault_of_perm hperm]
    refine ⟨Iff.rfl, ?_⟩
    rintro e e' (⟨hnot, rfl⟩ | ⟨hoffers, he⟩) (⟨hnot', rfl⟩ | ⟨hoffers', he'⟩) -
    · exact .inl ⟨_, _, rfl, rfl, rfl⟩
    · exact absurd hoffers' hnot
    · exact absurd hoffers hnot'
    · rw [he] at he'
      cases he'
      exact .inr ⟨rfl, output, houtput, he⟩

end GraphRecord

/-! ## Graphs with their nodes in another order -/

namespace Graph

variable {r : GraphRecord} {options : TensorOptions} {nodes' : List NodeRecord} {g g' : Graph}
  {σ : Equiv.Perm ℕ}

/-- The second graph is the first one under the new ids. -/
structure Renumbered (σ : Equiv.Perm ℕ) (g g' : Graph) : Prop where
  successors : ∀ i, ((g.successors i).map σ).Perm (g'.successors (σ i))
  predecessors : ∀ i, ((g.predecessors i).map σ).Perm (g'.predecessors (σ i))
  producer? : ∀ t, g'.producer? t = (g.producer? t).map σ
  consumers : ∀ t, ((g.consumers t).map σ).Perm (g'.consumers t)
  outputs : g'.outputs = g.outputs.map (GraphOutput.renumber σ)
  edges : (g.edges.map (Prod.map σ σ)).Perm g'.edges
  length_edges : g'.edges.length = g.edges.length

theorem Built.nodup_consumers (h : Built r options g) (t : String) : (g.consumers t).Nodup := by
  rw [consumers, h.describes.consumers_eq]
  exact (Wiring.pairwise_consumers r.wiring t).imp Nat.ne_of_lt

/-- **Graphs made from records that differ in the order of their nodes** differ in the ids. -/
theorem Built.renumbered (h : Built r options g)
    (h' : Built { r with nodes := nodes' } options g')
    (hrewired : r.wiring.Rewired σ { r with nodes := nodes' }.wiring) : Renumbered σ g g' := by
  have hedges : (g.edges.map (Equiv.prodCongr σ σ)).Perm g'.edges := by
    refine perm_map_of_mem_iff _ h.nodup_edges h'.nodup_edges ?_
    rintro ⟨i, j⟩
    rw [h.mem_edges, ← hrewired.ties]
    exact h'.mem_edges.symm
  refine ⟨fun i => ?_, fun i => ?_, fun t => ?_, fun t => ?_, ?_, hedges, ?_⟩
  · refine perm_map_of_mem_iff σ (h.nodup_neighbours i).1 (h'.nodup_neighbours _).1 fun j => ?_
    rw [h.mem_successors, h'.mem_successors, hrewired.ties]
  · refine perm_map_of_mem_iff σ (h.nodup_neighbours i).2 (h'.nodup_neighbours _).2 fun j => ?_
    rw [h.mem_predecessors, h'.mem_predecessors, hrewired.ties]
  · rw [producer?, producer?, h.describes.producer?_eq, h'.describes.producer?_eq,
      hrewired.producer?]
  · refine perm_map_of_mem_iff σ (h.nodup_consumers t) (h'.nodup_consumers t) fun i => ?_
    rw [consumers, consumers, h.describes.mem_consumers, h'.describes.mem_consumers,
      hrewired.reads]
  · have hinputs : g'.inputs = g.inputs := Except.ok.inj (h'.inputs.symm.trans h.inputs)
    have hconstants : g'.constants = g.constants :=
      Except.ok.inj (h'.constants.symm.trans h.constants)
    have houtputs := h'.outputs
    rw [hinputs, hconstants, funext (hrewired.outputOfRecord h.describes h'.describes _ _),
      mapM_bind_pure, h.outputs] at houtputs
    exact (Except.ok.inj houtputs).symm
  · rw [← hedges.length_eq, List.length_map]

/-- **The order in which nodes are listed does not matter**, if no name is written by two of them.
A record with its nodes in another order describes a graph exactly if the record does; the graphs
are the same under the new ids; and if everything else can be read, both records fail with the same
kind of fault. -/
theorem reorder_nodes (options : TensorOptions) (hperm : r.nodes.Perm nodes')
    (hsingle : r.wiring.SingleWriter) :
    ((∃ g, ofRecord r options = .ok g) ↔
        ∃ g', ofRecord { r with nodes := nodes' } options = .ok g') ∧
      (∃ σ, Moves σ r.nodes nodes') ∧
      (∀ σ, Moves σ r.nodes nodes' → ∀ g g', ofRecord r options = .ok g →
        ofRecord { r with nodes := nodes' } options = .ok g' → Renumbered σ g g') ∧
      (r.Decodes options → ∀ e e', ofRecord r options = .error e →
        ofRecord { r with nodes := nodes' } options = .error e' → r.SameFailure e e') := by
  have hrewired : ∀ σ, Moves σ r.nodes nodes' →
      r.wiring.Rewired σ { r with nodes := nodes' }.wiring := fun σ hσ => ⟨hσ.map _, hsingle⟩
  obtain ⟨σ, hσ⟩ := exists_moves hperm
  have halike := (staged_ofRecord r options).alike (staged_ofRecord _ options)
    (GraphRecord.faultsAlike_stages hperm (hrewired σ hσ))
  refine ⟨halike.exists_ok_iff, ⟨σ, hσ⟩, ?_, ?_⟩
  · intro τ hτ g g' hg hg'
    exact (built_of_ofRecord hg).renumbered (built_of_ofRecord hg') (hrewired τ hτ)
  · intro hdecodes e e' he he'
    rw [he, he'] at halike
    cases halike with
    | error h => exact h hdecodes

/-- Three nodes in a row, of which the last one also reads what the first one writes. -/
def braided : GraphRecord where
  nodes :=
    [ { name := "first", inputs := ["x"], outputs := ["a"] },
      { name := "second", inputs := ["a", "a", ""], outputs := ["b", ""] },
      { name := "third", inputs := ["b", "a"], outputs := ["y", ""] } ]
  inputs := [{ name := "x" }]
  outputs := [{ name := "y" }, { name := "x" }]

theorem reorder_nodes_braided :
    braided.nodes.Perm (braided.nodes.rotate 2) ∧ braided.wiring.SingleWriter ∧
      (∃ σ g g', Moves σ braided.nodes (braided.nodes.rotate 2) ∧ ofRecord braided {} = .ok g ∧
        ofRecord { braided with nodes := braided.nodes.rotate 2 } {} = .ok g' ∧
        Renumbered σ g g') ∧
      crossed.nodes.Perm crossed.nodes.reverse ∧ crossed.wiring.SingleWriter ∧
      crossed.Decodes {} ∧ ofRecord crossed {} = .error (.graph (.cycle "second")) ∧
      ∃ e', ofRecord { crossed with nodes := crossed.nodes.reverse } {} = .error e' ∧
        crossed.SameFailure (.graph (.cycle "second")) e' := by
  have hperm : braided.nodes.Perm (braided.nodes.rotate 2) := (List.rotate_perm _ 2).symm
  have hsingle : braided.wiring.SingleWriter := Wiring.singleWriter_of_outputPorts (by decide)
  have hperm' : crossed.nodes.Perm crossed.nodes.reverse := crossed.nodes.reverse_perm.symm
  have hsingle' : crossed.wiring.SingleWriter := Wiring.singleWriter_of_outputPorts (by decide)
  have hdecodes : crossed.Decodes {} := ⟨by simp [crossed], by simp [crossed], by
    simp only [crossed, List.forall_mem_singleton]
    exact ⟨_, rfl⟩⟩
  have herror : ofRecord crossed {} = .error (.graph (.cycle "second")) := by cbv
  have herror' : ofRecord { crossed with nodes := crossed.nodes.reverse } {} =
      .error (.graph (.cycle "first")) := by cbv
  obtain ⟨hok, ⟨σ, hσ⟩, hrenumbered, -⟩ := reorder_nodes {} hperm hsingle
  have hisOk : (ofRecord braided {}).isOk = true := by cbv
  obtain ⟨g, hg⟩ := exists_ok_of_isOk hisOk
  obtain ⟨g', hg'⟩ := hok.1 ⟨g, hg⟩
  exact ⟨hperm, hsingle, ⟨σ, g, g', hσ, hg, hg', hrenumbered σ hσ g g' hg hg'⟩, hperm', hsingle',
    hdecodes, herror, _, herror',
    (reorder_nodes {} hperm' hsingle').2.2.2 hdecodes _ _ herror herror'⟩

end Graph
end TensorGraph
