import Mathlib.Data.List.Chain
import TensorGraph.Proofs.ContentErrors
import TensorGraph.Proofs.Graph.Reordering

/-!
# Which node is blamed

Two of the faults of a graph name a node: one that reads its own output, and one that lies on a
longer cycle.  This file says that the node that is named is guilty, and when a node that reads its
own output is found.

* `stage_of_graphFault` says what has been found when such an error is raised.  The parts of a
  record are read with errors of another sort (`Attribute.failsWith_ofRecord` and the like), so a
  fault of the graph comes from a stage that looks at the graph.
* `Wiring.Circuit` is a way from a node back to itself that comes through no node twice, and
  `Wiring.exists_circuit` cuts one out of any cycle.
* `Graph.circuit_of_cycleError` is the statement about cycles.
* `Graph.selfLoop_iff` is the one about nodes that read their own output.  By the rule none of them
  is to be accepted, but only those outputs are searched that names stand for in the end.  So a node
  slips through if a later node writes its output again (`Graph.not_selfLoop_of_overwritten`).
-/

set_option autoImplicit false

namespace TensorGraph

/-! ## Ways without detours -/

/-- Where there is a way from `a` to `b`, there is one that comes through nothing twice. -/
theorem exists_nodup_way {α : Type} {rel : α → α → Prop} {a b : α}
    (h : Relation.ReflTransGen rel a b) :
    ∃ way, (a :: way).IsChain rel ∧ (a :: way).getLast? = some b ∧ (a :: way).Nodup := by
  classical
  induction h using Relation.ReflTransGen.head_induction_on with
  | refl => exact ⟨[], .singleton b, rfl, List.nodup_singleton b⟩
  | @head a c hac _ ih =>
    obtain ⟨way, hchain, hlast, hnodup⟩ := ih
    by_cases ha : a ∈ c :: way
    · -- the way comes back to `a`, so everything before that is a detour
      obtain ⟨before, after, hsplit⟩ := List.append_of_mem ha
      rw [hsplit] at hchain hlast hnodup
      refine ⟨after, hchain.right_of_append, ?_, hnodup.of_append_right⟩
      rwa [List.getLast?_append_of_ne_nil _ (by simp)] at hlast
    · exact ⟨c :: way, hchain.cons_cons hac, by simpa using hlast, List.nodup_cons.2 ⟨ha, hnodup⟩⟩

namespace Wiring

/-- Along the ties the nodes of `way` lead from `v` back to `v`.  They are at least two, and none
of them comes twice. -/
structure Circuit (w : Wiring) (v : Nat) (way : List Nat) : Prop where
  chain : (v :: way).IsChain w.Ties
  back : way.getLast? = some v
  nodup : way.Nodup
  two_le : 2 ≤ way.length

/-- A node on a cycle lies on a circuit, unless some node is tied to itself. -/
theorem exists_circuit {w : Wiring} {v : Nat} (hno : ∀ i, ¬ w.Ties i i)
    (h : Relation.TransGen w.Ties v v) : ∃ way, w.Circuit v way := by
  obtain ⟨c, hvc, hcv⟩ := Relation.TransGen.head'_iff.1 h
  obtain ⟨way, hchain, hlast, hnodup⟩ := exists_nodup_way hcv
  refine ⟨c :: way, hchain.cons_cons hvc, hlast, hnodup, ?_⟩
  cases way with
  | nil =>
    rw [List.getLast?_singleton, Option.some.injEq] at hlast
    exact absurd (hlast ▸ hvc) (hno v)
  | cons d way => simp

end Wiring

/-! ## What has been found when an error is raised -/

namespace Graph

variable {r : GraphRecord} {options : TensorOptions} {e : Error} {kind : GraphFaultKind}

/-- A fault of a graph is found in one of the five stages that do not read contents, when the
stages before have found nothing. -/
theorem stage_of_graphFault (h : ofRecord r options = .error e) (hkind : e.kind = .graph kind) :
    e = .graph (.missingInputs r.name) ∨ e = .graph (.missingOutputs r.name) ∨
      r.wiring.LoopFault r.labelOf e ∨
      (∀ e', ¬ r.wiring.LoopFault r.labelOf e') ∧ r.wiring.CycleFault r.labelOf e ∨
      ∃ output, e = .graph (.danglingOutput output) := by
  have hcontent := Error.not_isContent_of_kind hkind
  have hfirst := (accepts_exactly r options).2 e h
  simp only [GraphRecord.stages, firstFault_cons] at hfirst
  rcases hfirst with hinputs | ⟨-, hfirst⟩
  · exact .inl hinputs.2
  rcases hfirst with houtputs | ⟨-, hfirst⟩
  · exact .inr (.inl houtputs.2)
  rcases hfirst with hread | ⟨-, hfirst⟩
  · exact absurd hread
      (not_firstFault_of_failsWith (Attribute.failsWith_ofRecord · options) hcontent _)
  rcases hfirst with hread | ⟨-, hfirst⟩
  · exact absurd hread
      (not_firstFault_of_failsWith (Tensor.failsWith_ofRecord · options) hcontent _)
  rcases hfirst with hread | ⟨-, hfirst⟩
  · exact absurd hread (not_firstFault_of_failsWith ValueInfo.failsWith_ofRecord hcontent _)
  rcases hfirst with hloop | ⟨hloop, hfirst⟩
  · exact .inr (.inr (.inl hloop))
  rcases hfirst with hcycle | ⟨-, hfirst⟩
  · exact .inr (.inr (.inr (.inl ⟨hloop, hcycle⟩)))
  rcases hfirst with ⟨-, output, -, -, -, ⟨-, he⟩ | ⟨-, hread⟩⟩ | ⟨-, hfirst⟩
  · exact .inr (.inr (.inr (.inr ⟨_, he⟩)))
  · exact absurd (ValueInfo.failsWith_ofRecord output e hread) hcontent
  · exact absurd hfirst (not_firstFault_nil _ e)

/-- The label of a node that exists is the one its record has. -/
theorem exists_node_of_lt {v : Nat} (hv : v < r.nodes.length) :
    ∃ node, r.nodes[v]? = some node ∧ r.labelOf v = node.label := by
  refine ⟨r.nodes[v], List.getElem?_eq_getElem hv, ?_⟩
  rw [GraphRecord.labelOf, List.getElem?_map, List.getElem?_eq_getElem hv]
  rfl

/-- **The node that is blamed for a cycle lies on one.**  An error about a cycle gives the label of
some node of the record, and along the ties that node leads back to itself, through at least two
nodes of which none comes twice. -/
theorem circuit_of_cycleError (h : ofRecord r options = .error e) (hkind : e.kind = .graph .cycle) :
    ∃ v node way, r.nodes[v]? = some node ∧ e = .graph (.cycle node.label) ∧
      e.message = "Invalid graph structure (cycle): " ++
        ("node '" ++ node.label ++ "' is part of a cycle") ∧
      r.wiring.Circuit v way := by
  rcases stage_of_graphFault h hkind with rfl | rfl | hloop | ⟨hloop, v, hv, rfl⟩ | ⟨output, rfl⟩
  · cases hkind
  · cases hkind
  · obtain ⟨node, output, rfl⟩ := hloop.eq_selfLoop
    cases hkind
  · have hno : ∀ i, ¬ r.wiring.Ties i i := fun i hi =>
      (Wiring.exists_loopFault_iff.2 ⟨i, hi⟩).elim hloop
    obtain ⟨way, hway⟩ := Wiring.exists_circuit hno hv
    obtain ⟨c, ⟨t, hprovides, -⟩, -⟩ := Relation.TransGen.head'_iff.1 hv
    obtain ⟨node, hnode, hlabel⟩ := exists_node_of_lt (by
      simpa [GraphRecord.wiring] using hprovides.2.1.lt)
    rw [hlabel]
    exact ⟨v, node, way, hnode, rfl, rfl, hway⟩
  · cases hkind

/-- The cycle of `crossed` is found from its second node. -/
theorem circuit_of_cycleError_crossed :
    ofRecord crossed {} = .error (.graph (.cycle "second")) ∧
      ∃ v node way, crossed.nodes[v]? = some node ∧ node.label = "second" ∧
        crossed.wiring.Circuit v way := by
  have herror : ofRecord crossed {} = .error (.graph (.cycle "second")) := by cbv
  obtain ⟨v, node, way, hnode, he, -, hway⟩ := circuit_of_cycleError herror rfl
  have hlabel : node.label = "second" := by simpa using he.symm
  exact ⟨herror, v, node, way, hnode, hlabel, hway⟩

/-! ## Nodes that read their own output -/

/-- If everything can be read, a node that is tied to itself is reported. -/
theorem exists_selfLoop_of_ties (hinputs : r.inputs ≠ []) (houtputs : r.outputs ≠ [])
    (hdecodes : r.Decodes options) {i : Nat} (hi : r.wiring.Ties i i) :
    ∃ e, ofRecord r options = .error e ∧ e.kind = .graph .selfLoop := by
  have hstaged := staged_ofRecord r options
  obtain ⟨e', he'⟩ : ∃ e, r.wiring.LoopFault r.labelOf e :=
    Wiring.exists_loopFault_iff.2 ⟨i, hi⟩
  cases h : ofRecord r options with
  | ok g =>
    rw [h] at hstaged
    exact absurd he' (hstaged (r.wiring.LoopFault r.labelOf) (by simp [GraphRecord.stages]) e')
  | error e =>
    refine ⟨e, rfl, ?_⟩
    have hfirst := hstaged.firstFault h
    simp only [GraphRecord.stages, firstFault_cons] at hfirst
    rcases hfirst with hnone | ⟨-, hfirst⟩
    · exact absurd hnone.1 hinputs
    rcases hfirst with hnone | ⟨-, hfirst⟩
    · exact absurd hnone.1 houtputs
    rcases hfirst with hread | ⟨-, hfirst⟩
    · exact absurd hread (hdecodes.not_firstFault e).1
    rcases hfirst with hread | ⟨-, hfirst⟩
    · exact absurd hread (hdecodes.not_firstFault e).2.1
    rcases hfirst with hread | ⟨-, hfirst⟩
    · exact absurd hread (hdecodes.not_firstFault e).2.2
    rcases hfirst with hloop | ⟨hnone, -⟩
    · obtain ⟨node, output, rfl⟩ := hloop.eq_selfLoop
      rfl
    · exact absurd he' (hnone e')

/-- **Which graphs are rejected for a loop.**  If everything can be read, they are those in which a
node reads a name that it also writes, and that no later node writes again. -/
theorem selfLoop_iff (hinputs : r.inputs ≠ []) (houtputs : r.outputs ≠ [])
    (hdecodes : r.Decodes options) :
    (∃ e, ofRecord r options = .error e ∧ e.kind = .graph .selfLoop) ↔
      ∃ i t, t ≠ "" ∧ r.wiring.Reads i t ∧ r.wiring.Writes i t ∧
        ∀ k, i < k → ¬ r.wiring.Writes k t := by
  constructor
  · rintro ⟨e, h, hkind⟩
    rcases stage_of_graphFault h hkind with rfl | rfl | hloop | ⟨-, v, -, rfl⟩ | ⟨output, rfl⟩
    · cases hkind
    · cases hkind
    · obtain ⟨-, port, -, -, -, ⟨⟨ht, hwrites, hlast⟩, hreads⟩, -⟩ := hloop
      exact ⟨port.1, port.2, ht, hreads, hwrites, hlast⟩
    · cases hkind
    · cases hkind
  · rintro ⟨i, t, ht, hreads, hwrites, hlast⟩
    exact exists_selfLoop_of_ties hinputs houtputs hdecodes ⟨t, ⟨ht, hwrites, hlast⟩, hreads⟩

/-- Two nodes that write the name `y`, which one of them reads: the first, or else the second. -/
def rewritten (first second : List String) : GraphRecord where
  nodes :=
    [ { name := "first", inputs := first, outputs := ["y"] },
      { name := "second", inputs := second, outputs := ["y"] } ]
  inputs := [{ name := "x" }]
  outputs := [{ name := "y" }]

theorem decodes_rewritten (first second : List String) : (rewritten first second).Decodes {} := by
  refine ⟨by simp [rewritten], by simp [rewritten], ?_⟩
  simp only [rewritten, List.forall_mem_singleton]
  exact ⟨_, rfl⟩

/-- The last node that writes `y` reads it. -/
theorem selfLoop_iff_rewritten :
    (rewritten ["x"] ["x", "y"]).inputs ≠ [] ∧ (rewritten ["x"] ["x", "y"]).outputs ≠ [] ∧
      (rewritten ["x"] ["x", "y"]).Decodes {} ∧
      ∃ e, ofRecord (rewritten ["x"] ["x", "y"]) {} = .error e ∧ e.kind = .graph .selfLoop := by
  refine ⟨by decide, by decide, decodes_rewritten _ _, ?_⟩
  refine (selfLoop_iff (by decide) (by decide) (decodes_rewritten _ _)).2 ⟨1, "y", by decide, ?_⟩
  refine ⟨⟨⟨["x", "y"], ["y"]⟩, rfl, by decide⟩, ⟨⟨["x", "y"], ["y"]⟩, rfl, by decide⟩, ?_⟩
  intro k hk hwrites
  exact absurd hwrites.lt (Nat.not_lt.2 hk)

/-- A node that reads its own output is not always rejected, as the rule has it: a later node writes
`y` again, so the output is left out when loops are searched for, and the graph is made. -/
theorem not_selfLoop_of_overwritten :
    (rewritten ["x", "y"] ["x"]).inputs ≠ [] ∧ (rewritten ["x", "y"] ["x"]).outputs ≠ [] ∧
      (rewritten ["x", "y"] ["x"]).Decodes {} ∧
      (rewritten ["x", "y"] ["x"]).wiring.Reads 0 "y" ∧
      (rewritten ["x", "y"] ["x"]).wiring.Writes 0 "y" ∧
      (∃ g, ofRecord (rewritten ["x", "y"] ["x"]) {} = .ok g) ∧
      ¬ ∃ e, ofRecord (rewritten ["x", "y"] ["x"]) {} = .error e ∧
        e.kind = .graph .selfLoop := by
  have hok : (ofRecord (rewritten ["x", "y"] ["x"]) {}).isOk = true := by cbv
  obtain ⟨g, hg⟩ := exists_ok_of_isOk hok
  refine ⟨by decide, by decide, decodes_rewritten _ _, ⟨⟨["x", "y"], ["y"]⟩, rfl, by decide⟩,
    ⟨⟨["x", "y"], ["y"]⟩, rfl, by decide⟩, ⟨g, hg⟩, ?_⟩
  rintro ⟨e, he, -⟩
  rw [hg] at he
  cases he

end Graph
end TensorGraph
