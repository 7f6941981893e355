import TensorGraph.Proofs.Attribute.Records
import TensorGraph.Proofs.Graph.Dependencies

/-!
# Which records describe a graph

`Graph.ofRecord` does its work in eight stages, and the first of them that finds a fault decides the
error.  This file says which records pass all of them, in terms of the record alone.

* `GraphRecord.WellFormed` is that condition, with no mention of an order of stages: everything that
  has to be read can be read, no node depends on itself, and every declared output is offered by a
  node, an input or a constant.
* `GraphRecord.stages` lists the faults of the stages in their order, and `staged_ofRecord` says
  that these are the faults of `Graph.ofRecord`.
* `forall_stages_iff` says that a record without a fault is a well-formed one, and
  `Graph.accepts_exactly` puts both together.
-/

set_option autoImplicit false

namespace TensorGraph

/-! ## What a record says -/

namespace GraphRecord

variable {r : GraphRecord} {options : TensorOptions}

/-- A value of this name comes out of a node, or is an input or a constant. -/
def Offers (r : GraphRecord) (name : String) : Prop :=
  (name ≠ "" ∧ ∃ node ∈ r.nodes, name ∈ node.outputs) ∨
    (∃ input ∈ r.inputs, input.name = name) ∨ ∃ tensor ∈ r.initializers, tensor.name = name

/-- The record describes a graph. -/
structure WellFormed (r : GraphRecord) (options : TensorOptions) : Prop where
  inputs_ne_nil : r.inputs ≠ []
  outputs_ne_nil : r.outputs ≠ []
  attributes : ∀ node ∈ r.nodes, ∀ a ∈ node.attributes, ∃ x, Attribute.ofRecord a options = .ok x
  initializers : ∀ tensor ∈ r.initializers, ∃ t, Tensor.ofRecord tensor options = .ok t
  inputs : ∀ input ∈ r.inputs, ∃ info, ValueInfo.ofRecord input = .ok info
  acyclic : ∀ i, ¬ Relation.TransGen r.wiring.Ties i i
  outputs : ∀ output ∈ r.outputs,
    r.Offers output.name ∧ ∃ info, ValueInfo.ofRecord output = .ok info

/-! ## The faults, stage by stage -/

/-- An output is at fault if nothing offers it, or else if its type cannot be read. -/
def OutputFault (r : GraphRecord) (output : ValueInfoRecord) (e : Error) : Prop :=
  (¬ r.Offers output.name ∧ e = .graph (.danglingOutput output.name)) ∨
    (r.Offers output.name ∧ ValueInfo.ofRecord output = .error e)

/-- The faults of the stages in which a graph is made, in their order. -/
def stages (r : GraphRecord) (options : TensorOptions) : List (Error → Prop) :=
  [fun e => r.inputs = [] ∧ e = .graph (.missingInputs r.name),
    fun e => r.outputs = [] ∧ e = .graph (.missingOutputs r.name),
    FirstFault (fun a e => Attribute.ofRecord a options = .error e)
      (r.nodes.flatMap NodeRecord.attributes),
    FirstFault (fun tensor e => Tensor.ofRecord tensor options = .error e) r.initializers,
    FirstFault (fun input e => ValueInfo.ofRecord input = .error e) r.inputs,
    r.wiring.LoopFault r.labelOf,
    r.wiring.CycleFault r.labelOf,
    FirstFault r.OutputFault r.outputs]

theorem forall_not_outputFault {output : ValueInfoRecord} :
    (∀ e, ¬ r.OutputFault output e) ↔
      r.Offers output.name ∧ ∃ info, ValueInfo.ofRecord output = .ok info := by
  rw [exists_ok_iff]
  constructor
  · intro h
    have hoffers : r.Offers output.name := by
      by_contra hnot
      exact h _ (.inl ⟨hnot, rfl⟩)
    exact ⟨hoffers, fun e he => h e (.inr ⟨hoffers, he⟩)⟩
  · rintro ⟨hoffers, htype⟩ e (⟨hnot, -⟩ | ⟨-, he⟩)
    · exact hnot hoffers
    · exact htype e he

/-- **Without a fault, a record is well-formed.** -/
theorem forall_stages_iff :
    (∀ stage ∈ r.stages options, ∀ e, ¬ stage e) ↔ r.WellFormed options := by
  simp only [stages, List.forall_mem_cons, forall_not_firstFault, forall_not_outputFault]
  constructor
  · rintro ⟨hinputs, houtputs, hattributes, hinitializers, htypes, -, hcycle, hoffers, -⟩
    exact {
      inputs_ne_nil := fun h => hinputs _ ⟨h, rfl⟩
      outputs_ne_nil := fun h => houtputs _ ⟨h, rfl⟩
      attributes := fun node hnode a ha =>
        exists_ok_iff.2 (hattributes a (List.mem_flatMap_of_mem hnode ha))
      initializers := fun tensor htensor => exists_ok_iff.2 (hinitializers tensor htensor)
      inputs := fun input hinput => exists_ok_iff.2 (htypes input hinput)
      acyclic := fun i hi => hcycle _ ⟨i, hi, rfl⟩
      outputs := hoffers }
  · intro h
    refine ⟨fun e he => h.inputs_ne_nil he.1, fun e he => h.outputs_ne_nil he.1, fun a ha => ?_,
      fun tensor htensor => exists_ok_iff.1 (h.initializers tensor htensor),
      fun input hinput => exists_ok_iff.1 (h.inputs input hinput), ?_, ?_, h.outputs, by simp⟩
    · obtain ⟨node, hnode, ha⟩ := List.mem_flatMap.1 ha
      exact exists_ok_iff.1 (h.attributes node hnode a ha)
    · exact Wiring.not_loopFault (fun i hi => h.acyclic i (.single hi)) _
    · rintro e ⟨i, hi, -⟩
      exact h.acyclic i hi

end GraphRecord

/-! ## What each stage does -/

namespace Graph

variable {r : GraphRecord} {options : TensorOptions}

/-- The attributes of a node are read in order, and the first that cannot be read decides. -/
theorem nodeOfRecord_eq_error_iff {r : NodeRecord} {e : Error} :
    Node.ofRecord r options = .error e ↔
      FirstFault (fun a e => Attribute.ofRecord a options = .error e) r.attributes e := by
  rw [Node.ofRecord, bind_eq_error_iff, Attributes.ofRecords_eq_error_iff, or_iff_left]
  rintro ⟨attributes, -, hnode⟩
  cases hnode

theorem constantOfRecord_eq_error_iff {r : TensorRecord} {e : Error} :
    Constant.ofRecord r options = .error e ↔ Tensor.ofRecord r options = .error e := by
  rw [Constant.ofRecord, bind_eq_error_iff, or_iff_left]
  rintro ⟨tensor, -, hconstant⟩
  cases hconstant

theorem inputOfRecord_eq_error_iff {r : ValueInfoRecord} {e : Error} :
    GraphInput.ofRecord r = .error e ↔ ValueInfo.ofRecord r = .error e := by
  rw [GraphInput.ofRecord, bind_eq_error_iff, or_iff_left]
  rintro ⟨info, -, hinput⟩
  cases hinput

theorem inputNames_eq {inputs : List GraphInput}
    (h : r.inputs.mapM GraphInput.ofRecord = .ok inputs) :
    inputs.map GraphInput.name = r.inputs.map ValueInfoRecord.name := by
  refine map_eq_of_mapM_eq_ok h fun vr input hinput => ?_
  rw [GraphInput.ofRecord, bind_eq_ok_iff] at hinput
  obtain ⟨info, -, hinput⟩ := hinput
  cases hinput
  rfl

theorem constantNames_eq {constants : List Constant}
    (h : r.initializers.mapM (Constant.ofRecord · options) = .ok constants) :
    constants.map Constant.name = r.initializers.map TensorRecord.name := by
  refine map_eq_of_mapM_eq_ok h fun tr constant hconstant => ?_
  rw [Constant.ofRecord, bind_eq_ok_iff] at hconstant
  obtain ⟨tensor, -, hconstant⟩ := hconstant
  cases hconstant
  rfl

theorem exists_writes_iff {name : String} :
    (∃ i, r.wiring.Writes i name) ↔ ∃ node ∈ r.nodes, name ∈ node.outputs := by
  constructor
  · rintro ⟨i, ports, hports, hname⟩
    rw [GraphRecord.wiring, List.getElem?_map, Option.map_eq_some_iff] at hports
    obtain ⟨node, hnode, rfl⟩ := hports
    exact ⟨node, List.mem_of_getElem? hnode, hname⟩
  · rintro ⟨node, hnode, hname⟩
    obtain ⟨i, hi⟩ := List.getElem?_of_mem hnode
    refine ⟨i, node.ports, ?_, hname⟩
    rw [GraphRecord.wiring, List.getElem?_map, hi, Option.map_some]

/-- **The search for the source of an output fails if nothing offers its name.** -/
theorem find?_eq_none_iff {index : NameIndex} (hindex : index.Describes r.wiring)
    {name : String} :
    OutputSource.find? index (r.inputs.map ValueInfoRecord.name)
        (r.initializers.map TensorRecord.name) name = none ↔ ¬ r.Offers name := by
  rw [OutputSource.find?, GraphRecord.Offers, ← exists_writes_iff, hindex.producer?_eq]
  cases hproducer : Wiring.producer? r.wiring name with
  | some i =>
    have hprovides := Wiring.producer?_eq_some_iff.1 hproducer
    have hwrites : ∃ i, r.wiring.Writes i name := ⟨i, hprovides.2.1⟩
    simp [hprovides.1, hwrites]
  | none =>
    have hnot : ¬ (name ≠ "" ∧ ∃ i, r.wiring.Writes i name) := by
      rintro ⟨hname, i, hi⟩
      exact (Wiring.producer?_eq_none_iff.1 hproducer).resolve_left hname i hi
    rw [or_iff_right hnot]
    simp only [List.contains_iff_mem, List.mem_map]
    split
    · rename_i hinput
      simp [hinput]
    · rename_i hinput
      rw [or_iff_right hinput]
      split
      · rename_i hconstant
        simp [hconstant]
      · rename_i hconstant
        simp [hconstant]

theorem outputOfRecord_eq_error_iff {index : NameIndex} (hindex : index.Describes r.wiring)
    {output : ValueInfoRecord} {e : Error} :
    GraphOutput.ofRecord (OutputSource.find? index (r.inputs.map ValueInfoRecord.name)
        (r.initializers.map TensorRecord.name)) output = .error e ↔ r.OutputFault output e := by
  rw [GraphOutput.ofRecord, GraphRecord.OutputFault]
  split
  · rename_i hnone
    have hnot := (find?_eq_none_iff hindex).1 hnone
    simp [hnot, eq_comm]
  · rename_i source hsome
    have hoffers : r.Offers output.name := by
      by_contra hnot
      rw [(find?_eq_none_iff hindex).2 hnot] at hsome
      cases hsome
    simp only [hoffers, not_true_eq_false, false_and, true_and, false_or]
    rw [bind_eq_error_iff, or_iff_left]
    rintro ⟨info, -, houtput⟩
    cases houtput

/-- **The stages of a record are the stages of the work.** -/
theorem staged_ofRecord (r : GraphRecord) (options : TensorOptions) :
    Staged (ofRecord r options) (r.stages options) := by
  refine Staged.guard fun _ => Staged.guard fun _ => ?_
  have hattributes : Staged (r.nodes.mapM (Node.ofRecord · options))
      [FirstFault (fun a e => Attribute.ofRecord a options = .error e)
        (r.nodes.flatMap NodeRecord.attributes)] := by
    refine Staged.of_iff fun e => ?_
    rw [mapM_eq_error_iff, firstFault_flatMap]
    exact firstFault_congr fun _ _ => nodeOfRecord_eq_error_iff
  refine hattributes.bind fun nodes hnodes => ?_
  refine (Staged.mapM (fun _ _ => constantOfRecord_eq_error_iff) _).bind
    fun constants hconstants => ?_
  refine (Staged.mapM (fun _ _ => inputOfRecord_eq_error_iff) _).bind fun inputs hinputs => ?_
  have hschedule := staged_schedule (NameIndex.describes_ofWiring (nodes.map Node.ports))
  have hindex := NameIndex.describes_ofWiring r.wiring
  rw [ports_eq hnodes, labelOf_eq hnodes] at hschedule
  rw [ports_eq hnodes]
  refine hschedule.bind fun order horder => ?_
  rw [inputNames_eq hinputs, constantNames_eq hconstants]
  exact (Staged.mapM (fun _ _ => outputOfRecord_eq_error_iff hindex) _).bind
    fun outputs _ => Staged.ok _

/-- **A graph is made from exactly the well-formed records**, and the first fault of any other
record decides the error. -/
theorem accepts_exactly (r : GraphRecord) (options : TensorOptions) :
    ((∃ g, ofRecord r options = .ok g) ↔ r.WellFormed options) ∧
      ∀ e, ofRecord r options = .error e →
        FirstFault (fun stage e => stage e) (r.stages options) e := by
  have hstaged := staged_ofRecord r options
  exact ⟨hstaged.exists_ok_iff.trans GraphRecord.forall_stages_iff, fun e => hstaged.firstFault⟩

/-- Two nodes that read each other, and an output that comes from nowhere. -/
def crossed : GraphRecord where
  nodes :=
    [ { name := "first", inputs := ["b", "x"], outputs := ["a"] },
      { name := "second", inputs := ["a"], outputs := ["b"] } ]
  inputs := [{ name := "x" }]
  outputs := [{ name := "z" }]

/-- The cycle is found before the output is looked at. -/
theorem accepts_exactly_crossed :
    ofRecord crossed {} = .error (.graph (.cycle "second")) ∧
      ¬ crossed.WellFormed {} ∧
      FirstFault (fun stage e => stage e) (crossed.stages {}) (.graph (.cycle "second")) := by
  have herror : ofRecord crossed {} = .error (.graph (.cycle "second")) := by cbv
  obtain ⟨hok, hfault⟩ := accepts_exactly crossed {}
  refine ⟨herror, fun h => ?_, hfault _ herror⟩
  obtain ⟨g, hg⟩ := hok.2 h
  rw [hg] at herror
  cases herror

end Graph
end TensorGraph
