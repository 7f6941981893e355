import TensorGraph.Proofs.Graph.WellFormed

/-!
# Looking names up

A name in a graph is looked up in three ways: which node writes it, which nodes read it, and, for a
declared output, where its value comes from.  This file says what the answers are, in terms of the
record alone.

* The first two are answered by the index that the graph keeps, which describes the nodes of the
  record (`Graph.Built.describes`).
* `GraphRecord.ComesFrom` says where the value of a name comes from when several places offer it,
  and `comesFrom_of_find?` that the search follows it.
* `Graph.name_lookups` puts the answers of a graph together.
-/

set_option autoImplicit false

namespace TensorGraph

/-! ## Where outputs come from -/

/-- The value of a name comes out of the node that provides it, or else is an input, or else a
constant. -/
inductive GraphRecord.ComesFrom (r : GraphRecord) (name : String) : OutputSource → Prop
  | node {i : Nat} (hnode : r.wiring.Provides i name) : ComesFrom r name (.node i)
  | input (hnode : ∀ i, ¬ r.wiring.Provides i name)
      (hinput : ∃ input ∈ r.inputs, input.name = name) : ComesFrom r name .input
  | constant (hnode : ∀ i, ¬ r.wiring.Provides i name)
      (hinput : ∀ input ∈ r.inputs, input.name ≠ name)
      (hconstant : ∃ tensor ∈ r.initializers, tensor.name = name) : ComesFrom r name .constant

/-- A value comes from one place only. -/
theorem GraphRecord.ComesFrom.unique {r : GraphRecord} {name : String} {s s' : OutputSource}
    (h : r.ComesFrom name s) (h' : r.ComesFrom name s') : s = s' := by
  cases h with
  | node hi =>
    cases h' with
    | node hj =>
      have hij := (Wiring.producer?_eq_some_iff.2 hi).symm.trans (Wiring.producer?_eq_some_iff.2 hj)
      rw [Option.some.inj hij]
    | input hnode | constant hnode => exact absurd hi (hnode _)
  | input hnode hinput =>
    cases h' with
    | node hi => exact absurd hi (hnode _)
    | input => rfl
    | constant _ hno =>
      obtain ⟨input, hmem, heq⟩ := hinput
      exact absurd heq (hno input hmem)
  | constant hnode hno =>
    cases h' with
    | node hi => exact absurd hi (hnode _)
    | input _ hinput =>
      obtain ⟨input, hmem, heq⟩ := hinput
      exact absurd heq (hno input hmem)
    | constant => rfl

namespace Graph

variable {r : GraphRecord} {options : TensorOptions} {g : Graph}

theorem comesFrom_of_find? {index : NameIndex} (hindex : index.Describes r.wiring) {name : String}
    {source : OutputSource}
    (h : OutputSource.find? index (r.inputs.map ValueInfoRecord.name)
      (r.initializers.map TensorRecord.name) name = some source) : r.ComesFrom name source := by
  rw [OutputSource.find?, hindex.producer?_eq] at h
  split at h
  · rename_i i hproducer
    cases h
    exact .node (Wiring.producer?_eq_some_iff.1 hproducer)
  · rename_i hproducer
    have hnode := Wiring.forall_not_provides_iff.2 hproducer
    simp only [List.contains_iff_mem, List.mem_map] at h
    split at h
    · rename_i hinput
      cases h
      exact .input hnode hinput
    · rename_i hinput
      split at h
      · rename_i hconstant
        cases h
        exact .constant hnode (fun input hmem heq => hinput ⟨input, hmem, heq⟩) hconstant
      · cases h

theorem outputOfRecord_eq_ok {source? : String → Option OutputSource} {declared : ValueInfoRecord}
    {output : GraphOutput} (h : GraphOutput.ofRecord source? declared = .ok output) :
    output.name = declared.name ∧ source? declared.name = some output.source := by
  rw [GraphOutput.ofRecord] at h
  split at h
  · cases h
  · rename_i source hsource
    obtain ⟨info, -, h⟩ := bind_eq_ok_iff.1 h
    cases h
    exact ⟨rfl, hsource⟩

/-- The outputs of a graph are those that are declared, each from where its value comes from. -/
theorem Built.forall₂_outputs (h : Built r options g) :
    List.Forall₂ (fun declared output =>
      output.name = declared.name ∧ r.ComesFrom declared.name output.source)
      r.outputs g.outputs := by
  have houtputs := mapM_eq_ok_iff.1 h.outputs
  rw [inputNames_eq h.inputs, constantNames_eq h.constants] at houtputs
  refine houtputs.imp fun declared output houtput => ?_
  obtain ⟨hname, hsource⟩ := outputOfRecord_eq_ok houtput
  exact ⟨hname, comesFrom_of_find? h.describes hsource⟩

/-- **Every name is looked up right.**  In a graph that is made from a record, the node that writes
a name is the last one that does, and there is none for the empty name or one that is not written;
the readers of a name are all the nodes that read it, each once and in ascending order, and nobody
reads the empty name.  These answers, of an index that was filled in one pass, are those that going
through the nodes would give for each name.  The outputs are the declared ones, in order, and each
comes from its node, or else an input, or else a constant. -/
theorem name_lookups (h : ofRecord r options = .ok g) :
    (∀ t i, g.producer? t = some i ↔ r.wiring.Provides i t) ∧
      (∀ t, g.producer? t = none ↔ t = "" ∨ ∀ i, ¬ r.wiring.Writes i t) ∧
      (∀ t, (g.consumers t).Pairwise (· < ·) ∧
        ∀ i, i ∈ g.consumers t ↔ t ≠ "" ∧ r.wiring.Reads i t) ∧
      (∀ t, g.producer? t = Wiring.producer? r.wiring t ∧
        g.consumers t = Wiring.consumers r.wiring t) ∧
      List.Forall₂ (fun declared output =>
        output.name = declared.name ∧ r.ComesFrom declared.name output.source)
        r.outputs g.outputs := by
  have hb := built_of_ofRecord h
  have hindex := hb.describes
  refine ⟨fun t i => hindex.producer?_eq_some_iff, fun t => ?_,
    fun t => ⟨?_, fun i => hindex.mem_consumers⟩,
    fun t => ⟨hindex.producer?_eq t, hindex.consumers_eq t⟩, hb.forall₂_outputs⟩
  · rw [producer?, hindex.producer?_eq, Wiring.producer?_eq_none_iff]
  · rw [consumers, hindex.consumers_eq]
    exact Wiring.pairwise_consumers _ _

/-- Two nodes that write `y`, which is the name of an input as well, and outputs from everywhere. -/
def offering : GraphRecord where
  nodes :=
    [ { inputs := ["x", "x", ""], outputs := ["y"] }, { inputs := ["x"], outputs := ["y", ""] } ]
  inputs := [{ name := "x" }, { name := "y" }]
  initializers := [{ name := "c", elementType := 2, int32Data := [7] }]
  outputs := [{ name := "y" }, { name := "x" }, { name := "c" }]

/-- The second node writes `y`, for the outputs too. -/
theorem name_lookups_offering :
    ∃ g, ofRecord offering {} = .ok g ∧ g.producer? "y" = some 1 ∧ g.producer? "" = none ∧
      0 ∈ g.consumers "x" ∧ g.outputs.map GraphOutput.source = [.node 1, .input, .constant] := by
  have hok : (ofRecord offering {}).isOk = true := by cbv
  obtain ⟨g, hg⟩ := exists_ok_of_isOk hok
  obtain ⟨hproducer, hnone, hconsumers, -, houtputs⟩ := name_lookups hg
  have hlast : offering.wiring.Provides 1 "y" := Wiring.producer?_eq_some_iff.1 (by decide)
  have hreads : offering.wiring.Reads 0 "x" := ⟨⟨["x", "x", ""], ["y"]⟩, rfl, by decide⟩
  have hx : offering.ComesFrom "x" .input :=
    .input (Wiring.forall_not_provides_iff.2 (by decide)) ⟨_, List.mem_cons_self, rfl⟩
  have hc : offering.ComesFrom "c" .constant :=
    .constant (Wiring.forall_not_provides_iff.2 (by decide)) (by simp [offering])
      ⟨_, List.mem_cons_self, rfl⟩
  refine ⟨g, hg, (hproducer "y" 1).2 hlast, (hnone "").2 (.inl rfl),
    ((hconsumers "x").2 0).2 ⟨by decide, hreads⟩, ?_⟩
  rw [show offering.outputs = [{ name := "y" }, { name := "x" }, { name := "c" }] from rfl]
    at houtputs
  generalize g.outputs = outputs at houtputs
  obtain _ | ⟨⟨-, h₁⟩, _ | ⟨⟨-, h₂⟩, _ | ⟨⟨-, h₃⟩, _ | _⟩⟩⟩ := houtputs
  rw [List.map_cons, List.map_cons, List.map_cons, h₁.unique (.node hlast), h₂.unique hx,
    h₃.unique hc]
  rfl

end Graph

end TensorGraph
