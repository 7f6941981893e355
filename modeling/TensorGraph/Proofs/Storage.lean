import TensorGraph.Model
import TensorGraph.Proofs.Attribute.Records
import TensorGraph.Proofs.Graph.Dependencies
import TensorGraph.Proofs.Tensor.Payload
import TensorGraph.Proofs.TwoRuns

/-!
# How tensors are stored does not matter

A reader of a model chooses where tensors are kept and in which order typed lists are laid out.
This module compares two readings of one record with different choices.

For each part of a model, `Agree` says that two of them are the same but for the storage of their
tensors: the tensors have the same value infos and give the same numbers, and everything else is
equal.  `LaidOut` says that the tensors of a part are stored in the way that was chosen.  Each
constructor gets two lemmas: two runs of it are `Alike`, and the result of one run is `LaidOut`.
Only the first needs that contents fit into every place.

`Model.agree_of_options` puts them together.
-/

set_option autoImplicit false

namespace TensorGraph

/-! ## Tensors -/

namespace Tensor

/-- The tensors have the same value info and give the same numbers. -/
structure Agree (a b : Tensor) : Prop where
  info_eq : a.info = b.info
  toList_eq : ∀ (α : Type) [FixedWidth α],
    a.info.elementType.unitSize? = some (FixedWidth.width α) →
    ∃ values : List α, ∀ host, a.toList host α = .ok values ∧ b.toList host α = .ok values

/-- The tensor is stored as the options ask for. -/
structure LaidOut (r : TensorRecord) (options : TensorOptions) (t : Tensor) : Prop where
  isDirect_iff : t.isDirect = true ↔ options.allocation = .direct
  byteOrder_eq : t.byteOrder = if r.rawData = [] then options.byteOrder else .little

variable {r : TensorRecord} {options options' : TensorOptions}

theorem agree_tensor (r : TensorRecord) (info : ValueInfo) (options options' : TensorOptions) :
    (r.tensor info options).Agree (r.tensor info options') := by
  refine ⟨rfl, fun α _ hwidth => ?_⟩
  obtain ⟨values, hvalues⟩ : ∃ values, ∀ host, (r.tensor info options).toList host α =
      .ok values := by
    simp only [toList_eq, ElementType.checkWidth_eq_ok_iff.2 hwidth]
    exact ⟨_, fun _ => rfl⟩
  refine ⟨values, fun host => ⟨hvalues host, ?_⟩⟩
  rw [r.toList_tensor_congr host α options' options, hvalues]

theorem alike_ofRecord (hsize : r.payloadLength < 0x7fffffffffffffc0)
    (options options' : TensorOptions) :
    Alike Eq Agree (ofRecord r options) (ofRecord r options') := by
  have hcapacity (allocation : Allocation) : allocation.checkCapacity r.payloadLength = .ok () :=
    Allocation.checkCapacity_eq_ok_iff.2 (allocation.le_capacity hsize)
  rw [ofRecord_eq, ofRecord_eq, hcapacity, hcapacity]
  exact (Alike.refl (R := Eq) r.valueInfo fun _ => rfl).bind fun info _ h =>
    h ▸ .ok (agree_tensor r info options options')

theorem laidOut_of_ofRecord {t : Tensor} (h : ofRecord r options = .ok t) :
    t.LaidOut r options := by
  obtain ⟨info, -, -, rfl⟩ := ofRecord_eq_ok_iff.1 h
  refine ⟨?_, TensorRecord.byteOrder_tensor options⟩
  rw [TensorRecord.isDirect_tensor, beq_iff_eq]

end Tensor

/-! ## Attributes -/

/-- The tensors in an attribute record, whether they count or not. -/
def AttributeRecord.tensorRecords (r : AttributeRecord) : List TensorRecord :=
  r.tensor.toList ++ r.tensors

namespace Attribute

/-- The attributes are equal but for the storage of their tensors. -/
inductive Agree : Attribute → Attribute → Prop
  | plain (a : Attribute) (h : a.ownedTensors = []) : Agree a a
  | tensor {a b : Tensor} (h : a.Agree b) : Agree (.tensor a) (.tensor b)
  | tensors {as bs : List Tensor} (h : List.Forall₂ Tensor.Agree as bs) :
      Agree (.tensors as) (.tensors bs)

/-- The tensors of the attribute are those of its record, stored as the options ask for. -/
inductive LaidOut (r : AttributeRecord) (options : TensorOptions) : Attribute → Prop
  | plain (a : Attribute) (h : a.ownedTensors = []) : LaidOut r options a
  | tensor {tr : TensorRecord} {t : Tensor} (hr : r.tensor = some tr) (ht : t.LaidOut tr options) :
      LaidOut r options (.tensor t)
  | tensors {ts : List Tensor} (h : List.Forall₂ (Tensor.LaidOut · options) r.tensors ts) :
      LaidOut r options (.tensors ts)

variable {r : AttributeRecord} {options options' : TensorOptions}

theorem alike_payload (hsize : ∀ t ∈ r.tensorRecords, t.payloadLength < 0x7fffffffffffffc0)
    (kind : AttributeKind) : Alike Eq Agree (r.payload options kind) (r.payload options' kind) := by
  cases kind with
  | int | ints | float | floats | null => exact .ok (.plain _ rfl)
  | string =>
    exact (Alike.refl (R := Eq) (r.text r.string) fun _ => rfl).map fun _ _ h => h ▸ .plain _ rfl
  | strings =>
    exact (Alike.refl (R := Eq) (r.strings.mapM r.text) fun _ => rfl).map fun _ _ h =>
      h ▸ .plain _ rfl
  | tensor =>
    rw [AttributeRecord.payload, AttributeRecord.payload]
    cases h : r.tensor with
    | none => exact .ok (.plain _ rfl)
    | some t =>
      have ht : t ∈ r.tensorRecords := by simp [AttributeRecord.tensorRecords, h]
      exact (Tensor.alike_ofRecord (hsize t ht) options options').map fun _ _ h => .tensor h
  | tensors =>
    refine (Alike.mapM_same fun t ht => ?_).map fun _ _ h => .tensors h
    exact Tensor.alike_ofRecord (hsize t (List.mem_append_right _ ht)) options options'

theorem alike_ofRecord (hsize : ∀ t ∈ r.tensorRecords, t.payloadLength < 0x7fffffffffffffc0) :
    Alike Eq (Option.Rel Agree) (ofRecord r options) (ofRecord r options') := by
  rw [ofRecord, ofRecord]
  cases r.selected? with
  | none => exact .ok .none
  | some kind => exact (alike_payload hsize kind).map fun _ _ h => .some h

theorem laidOut_of_payload {kind : AttributeKind} {a : Attribute}
    (h : r.payload options kind = .ok a) : a.LaidOut r options := by
  rcases AttributeRecord.payload_eq_ok h with
    ⟨hnone, -⟩ | ⟨tr, t, -, hr, ht, rfl⟩ | ⟨ts, -, hts, rfl⟩
  · exact .plain a hnone
  · exact .tensor hr (Tensor.laidOut_of_ofRecord ht)
  · exact .tensors ((mapM_eq_ok_iff.1 hts).imp fun _ _ ht => Tensor.laidOut_of_ofRecord ht)

end Attribute

/-! ## The attributes of a node -/

namespace Attributes

/-- There are attributes of the same names, which agree. -/
def Agree (m m' : Attributes) : Prop :=
  ∀ name, Option.Rel Attribute.Agree (m.get? name) (m'.get? name)

/-- Each attribute is stored as the options ask for, from the record that decides about it. -/
def LaidOut (records : List AttributeRecord) (options : TensorOptions) (m : Attributes) : Prop :=
  ∀ name a, m.get? name = some a →
    ∃ r, AttributeRecord.deciding? records name = some r ∧ a.LaidOut r options

variable {records : List AttributeRecord} {options options' : TensorOptions} {m m' : Attributes}

theorem Agree.insert (h : Agree m m') {a a' : Attribute} (ha : a.Agree a') (name : String) :
    Agree (m.insert name a) (m'.insert name a') := by
  intro n
  rw [NameMap.get?_insert, NameMap.get?_insert]
  by_cases hn : n = name
  · rw [if_pos hn, if_pos hn]
    exact .some ha
  · rw [if_neg hn, if_neg hn]
    exact h n

theorem alike_ofRecords
    (hsize : ∀ r ∈ records, ∀ t ∈ r.tensorRecords, t.payloadLength < 0x7fffffffffffffc0) :
    Alike Eq Agree (ofRecords records options) (ofRecords records options') := by
  refine Alike.foldlM_same (fun _ => .none) fun r hr m m' hm => ?_
  refine (Attribute.alike_ofRecord (hsize r hr)).bind fun a a' ha => ?_
  cases ha with
  | none => exact .ok hm
  | some ha => exact .ok (hm.insert ha r.name)

theorem laidOut_of_ofRecords (h : ofRecords records options = .ok m) :
    LaidOut records options m := by
  intro name a ha
  rcases get?_ofRecords h name with ⟨-, hnone⟩ | ⟨r, a', hr, ha', hsome⟩
  · rw [ha] at hnone
    cases hnone
  · obtain ⟨kind, -, hpayload⟩ := Attribute.ofRecord_eq_ok_some_iff.1 ha'
    cases ha.symm.trans hsome
    exact ⟨r, hr, Attribute.laidOut_of_payload hpayload⟩

end Attributes

/-! ## Nodes and constants -/

/-- The tensors in the attribute records of a node. -/
def NodeRecord.tensorRecords (r : NodeRecord) : List TensorRecord :=
  r.attributes.flatMap AttributeRecord.tensorRecords

/-- The nodes are equal but for the storage of tensors. -/
structure Node.Agree (a b : Node) : Prop where
  name_eq : a.name = b.name
  domain_eq : a.domain = b.domain
  opType_eq : a.opType = b.opType
  inputs_eq : a.inputs = b.inputs
  outputs_eq : a.outputs = b.outputs
  attributes : a.attributes.Agree b.attributes
  docString_eq : a.docString = b.docString

theorem Node.Agree.ports_eq {a b : Node} (h : a.Agree b) : a.ports = b.ports := by
  rw [ports, ports, h.inputs_eq, h.outputs_eq]

theorem Node.Agree.label_eq {a b : Node} (h : a.Agree b) : a.label = b.label := by
  rw [label, label, h.name_eq, h.opType_eq]

theorem Node.alike_ofRecord {r : NodeRecord} {options options' : TensorOptions}
    (hsize : ∀ t ∈ r.tensorRecords, t.payloadLength < 0x7fffffffffffffc0) :
    Alike Eq Agree (ofRecord r options) (ofRecord r options') := by
  have hattributes : ∀ a ∈ r.attributes, ∀ t ∈ a.tensorRecords,
      t.payloadLength < 0x7fffffffffffffc0 := fun a ha t ht =>
    hsize t (List.mem_flatMap.2 ⟨a, ha, ht⟩)
  exact (Attributes.alike_ofRecords hattributes).map fun _ _ h =>
    ⟨rfl, rfl, rfl, rfl, rfl, h, rfl⟩

theorem Node.laidOut_of_ofRecord {r : NodeRecord} {options : TensorOptions} {node : Node}
    (h : ofRecord r options = .ok node) : node.attributes.LaidOut r.attributes options := by
  obtain ⟨m, hm, h⟩ := bind_eq_ok_iff.1 h
  cases h
  exact Attributes.laidOut_of_ofRecords hm

/-- The constants are equal but for the storage of the tensor. -/
structure Constant.Agree (a b : Constant) : Prop where
  name_eq : a.name = b.name
  docString_eq : a.docString = b.docString
  tensor : a.tensor.Agree b.tensor

theorem Constant.alike_ofRecord {r : TensorRecord} {options options' : TensorOptions}
    (hsize : r.payloadLength < 0x7fffffffffffffc0) :
    Alike Eq Agree (ofRecord r options) (ofRecord r options') :=
  (Tensor.alike_ofRecord hsize options options').map fun _ _ h => ⟨rfl, rfl, h⟩

theorem Constant.laidOut_of_ofRecord {r : TensorRecord} {options : TensorOptions} {c : Constant}
    (h : ofRecord r options = .ok c) : c.tensor.LaidOut r options := by
  obtain ⟨t, ht, h⟩ := bind_eq_ok_iff.1 h
  cases h
  exact Tensor.laidOut_of_ofRecord ht

/-! ## Graphs -/

/-- The tensors in the record of a graph. -/
def GraphRecord.tensorRecords (r : GraphRecord) : List TensorRecord :=
  r.nodes.flatMap NodeRecord.tensorRecords ++ r.initializers

/-- Nodes that differ in nothing but their attributes are put in the same order. -/
theorem schedule_congr {nodes nodes' : List Node}
    (hports : nodes.map Node.ports = nodes'.map Node.ports)
    (hlabels : nodes.map Node.label = nodes'.map Node.label) (index : NameIndex) :
    schedule nodes index = schedule nodes' index := by
  simp only [schedule, Graph.labelOf_eq_getD, hports, hlabels]

namespace Graph

/-- The graphs are equal but for the storage of tensors. -/
structure Agree (g g' : Graph) : Prop where
  name_eq : g.name = g'.name
  docString_eq : g.docString = g'.docString
  nodes : List.Forall₂ Node.Agree g.nodes g'.nodes
  index_eq : g.index = g'.index
  edges_eq : g.edges = g'.edges
  order_eq : g.order = g'.order
  constants : List.Forall₂ Constant.Agree g.constants g'.constants
  inputs_eq : g.inputs = g'.inputs
  outputs_eq : g.outputs = g'.outputs
  producer?_eq : ∀ tensor, g.producer? tensor = g'.producer? tensor
  consumers_eq : ∀ tensor, g.consumers tensor = g'.consumers tensor

/-- The tensors of the graph are stored as the options ask for: those of the attributes of each
node, and the constants. -/
structure LaidOut (r : GraphRecord) (options : TensorOptions) (g : Graph) : Prop where
  attributes : List.Forall₂ (fun nr node => node.attributes.LaidOut nr.attributes options)
    r.nodes g.nodes
  constants : List.Forall₂ (fun tr c => c.tensor.LaidOut tr options) r.initializers g.constants

variable {r : GraphRecord} {options options' : TensorOptions}

theorem alike_ofRecord (hsize : ∀ t ∈ r.tensorRecords, t.payloadLength < 0x7fffffffffffffc0) :
    Alike Eq Agree (ofRecord r options) (ofRecord r options') := by
  rw [ofRecord, ofRecord]
  by_cases hinputs : r.inputs = []
  · rw [if_pos hinputs, if_pos hinputs]
    exact .error rfl
  rw [if_neg hinputs, if_neg hinputs]
  by_cases houtputs : r.outputs = []
  · rw [if_pos houtputs, if_pos houtputs]
    exact .error rfl
  rw [if_neg houtputs, if_neg houtputs]
  refine (Alike.mapM_same fun nr hnr => Node.alike_ofRecord fun t ht =>
    hsize t (List.mem_append_left _ (List.mem_flatMap.2 ⟨nr, hnr, ht⟩))).bind
      fun nodes nodes' hnodes => ?_
  refine (Alike.mapM_same fun tr htr => Constant.alike_ofRecord
    (hsize tr (List.mem_append_right _ htr))).bind fun constants constants' hconstants => ?_
  refine (Alike.refl (R := Eq) _ fun _ => rfl).bind fun inputs _ h => ?_
  subst h
  have hports : nodes.map Node.ports = nodes'.map Node.ports :=
    map_eq_of_forall₂ hnodes fun _ _ h => h.ports_eq
  have hlabels : nodes.map Node.label = nodes'.map Node.label :=
    map_eq_of_forall₂ hnodes fun _ _ h => h.label_eq
  have hnames : constants.map Constant.name = constants'.map Constant.name :=
    map_eq_of_forall₂ hconstants fun _ _ h => h.name_eq
  simp only [hports, schedule_congr hports hlabels, hnames]
  refine (Alike.refl (R := Eq) _ fun _ => rfl).bind fun order _ h => ?_
  subst h
  refine (Alike.refl (R := Eq) _ fun _ => rfl).map fun outputs _ h => ?_
  subst h
  exact ⟨rfl, rfl, hnodes, rfl, rfl, rfl, hconstants, rfl, rfl, fun _ => rfl, fun _ => rfl⟩

theorem laidOut_of_ofRecord {g : Graph} (h : ofRecord r options = .ok g) : g.LaidOut r options := by
  have hb := built_of_ofRecord h
  exact ⟨(mapM_eq_ok_iff.1 hb.nodes).imp fun _ _ hn => Node.laidOut_of_ofRecord hn,
    (mapM_eq_ok_iff.1 hb.constants).imp fun _ _ hc => Constant.laidOut_of_ofRecord hc⟩

end Graph

/-! ## Models -/

/-- The tensors in the record of a model. -/
def ModelRecord.tensorRecords (r : ModelRecord) : List TensorRecord :=
  r.graph.toList.flatMap GraphRecord.tensorRecords

namespace Model

/-- The models are equal but for the storage of tensors, and the options that asked for it. -/
structure Agree (m m' : Model) : Prop where
  irVersion_eq : m.irVersion = m'.irVersion
  modelVersion_eq : m.modelVersion = m'.modelVersion
  producerName_eq : m.producerName = m'.producerName
  producerVersion_eq : m.producerVersion = m'.producerVersion
  domain_eq : m.domain = m'.domain
  docString_eq : m.docString = m'.docString
  metadata_eq : m.metadata = m'.metadata
  opsetImports_eq : m.opsetImports = m'.opsetImports
  graph : m.graph.Agree m'.graph

variable {r : ModelRecord} {options options' : TensorOptions}

theorem alike_ofRecord (hsize : ∀ t ∈ r.tensorRecords, t.payloadLength < 0x7fffffffffffffc0) :
    Alike Eq Agree (ofRecord r options) (ofRecord r options') := by
  rw [ofRecord, ofRecord]
  by_cases hversion : readsVersion r.irVersion = true
  · rw [if_pos hversion, if_pos hversion]
    cases hgraph : r.graph with
    | none => exact .error rfl
    | some graph =>
      have hgraphSize : ∀ t ∈ graph.tensorRecords, t.payloadLength < 0x7fffffffffffffc0 := by
        intro t ht
        exact hsize t (by simpa [ModelRecord.tensorRecords, hgraph] using ht)
      exact (Graph.alike_ofRecord hgraphSize).map fun _ _ h =>
        ⟨rfl, rfl, rfl, rfl, rfl, rfl, rfl, rfl, h⟩
  · rw [if_neg hversion, if_neg hversion]
    exact .error rfl

theorem laidOut_of_ofRecord {m : Model} (h : ofRecord r options = .ok m) :
    ∃ graph, r.graph = some graph ∧ m.graph.LaidOut graph options := by
  rw [ofRecord] at h
  split at h
  · split at h
    · cases h
    · rename_i graph hgraph
      obtain ⟨g, hg, h⟩ := bind_eq_ok_iff.1 h
      cases h
      exact ⟨graph, hgraph, Graph.laidOut_of_ofRecord hg⟩
  · cases h

/-- **How tensors are stored does not change the meaning of a model.**  With any two choices of
options, a record whose contents fit into every place is refused with the same error, or it is read
as models that agree, each of them stored as was asked for. -/
theorem agree_of_options (hsize : ∀ t ∈ r.tensorRecords, t.payloadLength < 0x7fffffffffffffc0)
    (options options' : TensorOptions) :
    (∃ e, ofRecord r options = .error e ∧ ofRecord r options' = .error e) ∨
      ∃ m m' graph, ofRecord r options = .ok m ∧ ofRecord r options' = .ok m' ∧ m.Agree m' ∧
        r.graph = some graph ∧ m.graph.LaidOut graph options ∧
        m'.graph.LaidOut graph options' := by
  have halike : Alike Eq Agree (ofRecord r options) (ofRecord r options') := alike_ofRecord hsize
  generalize hm : ofRecord r options = x at halike ⊢
  generalize hm' : ofRecord r options' = x' at halike ⊢
  cases halike with
  | @error e e' h =>
    subst h
    exact .inl ⟨e, rfl, rfl⟩
  | @ok m m' hagree =>
    obtain ⟨graph, hgraph, hlaid⟩ := laidOut_of_ofRecord hm
    obtain ⟨graph', hgraph', hlaid'⟩ := laidOut_of_ofRecord hm'
    cases hgraph.symm.trans hgraph'
    exact .inr ⟨m, m', graph, rfl, rfl, hagree, hgraph, hlaid, hlaid'⟩

/-- A graph with a typed list among its constants and raw data in an attribute. -/
def weighted : GraphRecord where
  nodes :=
    [ { inputs := ["x", "w"]
        outputs := ["y"]
        opType := "Add"
        attributes :=
          [ { name := "offset"
              kind := 4
              tensor := some { elementType := 5, rawData := [1, 0] } } ] } ]
  initializers := [{ name := "w", dims := [2], elementType := 5, int32Data := [-2, 65537] }]
  inputs := [{ name := "x" }]
  outputs := [{ name := "y" }]

theorem exists_ofRecord_weighted : ∃ g, Graph.ofRecord weighted {} = .ok g := by
  obtain ⟨nodes, hnodes, hports⟩ : ∃ nodes,
      weighted.nodes.mapM (Node.ofRecord · {}) = .ok nodes ∧
        nodes.map Node.ports = [⟨["x", "w"], ["y"]⟩] := ⟨_, rfl, rfl⟩
  obtain ⟨constants, hconstants⟩ : ∃ constants,
      weighted.initializers.mapM (Constant.ofRecord · {}) = .ok constants := ⟨_, rfl⟩
  have hschedule : schedule nodes (.ofWiring (nodes.map Node.ports)) = .ok [0] := by
    rw [schedule, hports]
    cbv
  rw [Graph.ofRecord, if_neg (by decide), if_neg (by decide), hnodes, hconstants]
  exact ⟨_, by
    change (schedule nodes (.ofWiring (nodes.map Node.ports)) >>= _) = _
    rw [hschedule, hports]
    rfl⟩

/-- The graph is read from the heap as well as from outside, in either byte order. -/
theorem agree_of_options_weighted :
    ∃ m m', ofRecord { irVersion := 8, graph := some weighted } {} = .ok m ∧
      ofRecord { irVersion := 8, graph := some weighted } ⟨.direct, .big⟩ = .ok m' ∧
      m.Agree m' ∧ m'.graph.LaidOut weighted ⟨.direct, .big⟩ := by
  obtain ⟨g, hg⟩ := exists_ofRecord_weighted
  have hsize : ∀ t ∈ ({ irVersion := 8, graph := some weighted } : ModelRecord).tensorRecords,
      t.payloadLength < 0x7fffffffffffffc0 := by decide
  rcases agree_of_options hsize {} ⟨.direct, .big⟩ with
    ⟨e, he, -⟩ | ⟨m, m', graph, hm, hm', hagree, hgraph, -, hlaid⟩
  · rw [ofRecord, if_pos (by decide)] at he
    simp only [hg] at he
    cases he
  · cases hgraph
    exact ⟨m, m', hm, hm', hagree, hlaid⟩

end Model

end TensorGraph
