import Mathlib.Logic.Equiv.Basic
import TensorGraph.Proofs.Graph.NameLookup
import TensorGraph.Proofs.TwoRuns

/-!
# The names of tensors

Names tie the nodes of a graph together, and that is all they are for: which names they are does not
matter, only which of them are equal.  A `Renaming` gives every tensor another name, so that
different names stay different and a name that is left out stays left out.  Each part of a record
and of a graph has its `rename`, and reading a record commutes with it.

* An index that is filled from the new names answers for them as the old one did for the old names
  (`NameIndex.renamed_ofWiring`), so the links are the old ones under new names, in the old order.
  The pairs of nodes that are tied do not show the names any more (`Wiring.digraph_rename`), and
  neither does the order that they are put in (`schedule_rename`).
* Tensors and value infos are read without their names, which only occur in errors
  (`Tensor.ofRecord_rename`, `ValueInfo.ofRecord_rename`); what is left of an error without its
  names is its kind.

`Graph.alike_ofRecord_rename` puts the stages together, and `Graph.names_up_to_equality` says what
this means for all that can be asked of a graph.
-/

set_option autoImplicit false

namespace TensorGraph

/-! ## Renamings -/

/-- Another name for every name: no two names become one, and the empty name stays what it is. -/
structure Renaming where
  name : String → String
  injective : Function.Injective name
  name_empty : name "" = ""

namespace Renaming

instance : CoeFun Renaming fun _ => String → String := ⟨name⟩

variable (ρ : Renaming)

theorem eq_empty_iff {t : String} : ρ t = "" ↔ t = "" := by
  constructor
  · intro h
    exact ρ.injective (h.trans ρ.name_empty.symm)
  · rintro rfl
    exact ρ.name_empty

theorem contains_map (names : List String) (t : String) :
    (names.map ρ).contains (ρ t) = names.contains t := by
  rw [Bool.eq_iff_iff, List.contains_iff_mem, List.contains_iff_mem,
    List.mem_map_of_injective ρ.injective]

/-- Two names that change places. -/
def swap (a b : String) (ha : a ≠ "") (hb : b ≠ "") : Renaming where
  name := Equiv.swap a b
  injective := (Equiv.swap a b).injective
  name_empty := Equiv.swap_apply_of_ne_of_ne ha.symm hb.symm

end Renaming

/-! ## Wirings -/

/-- The ports under new names. -/
def Ports.rename (ρ : Renaming) (p : Ports) : Ports := ⟨p.inputs.map ρ, p.outputs.map ρ⟩

/-- The link under a new name. -/
def Link.rename (ρ : Renaming) (link : Link) : Link := { link with tensor := ρ link.tensor }

namespace Wiring

/-- The wiring under new names. -/
def rename (ρ : Renaming) (w : Wiring) : Wiring := w.map (Ports.rename ρ)

variable (ρ : Renaming) (w : Wiring) (t : String)

theorem idsWhere_map (f : Ports → Ports) (test : Ports → Bool) :
    idsWhere (w.map f) test = idsWhere w (test ∘ f) := by
  rw [idsWhere, idsWhere, List.zipIdx_map, List.filter_map, List.map_map]
  rfl

theorem writers_rename : writers (w.rename ρ) (ρ t) = writers w t := by
  have htest : (fun p : Ports => p.outputs.contains (ρ t)) ∘ Ports.rename ρ =
      fun p => p.outputs.contains t := funext fun p => ρ.contains_map p.outputs t
  simp only [writers, ρ.eq_empty_iff, rename, idsWhere_map, htest]

theorem producer?_rename : producer? (w.rename ρ) (ρ t) = producer? w t := by
  rw [producer?, producer?, writers_rename]

theorem consumers_rename : consumers (w.rename ρ) (ρ t) = consumers w t := by
  have htest : (fun p : Ports => p.inputs.contains (ρ t)) ∘ Ports.rename ρ =
      fun p => p.inputs.contains t := funext fun p => ρ.contains_map p.inputs t
  simp only [consumers, ρ.eq_empty_iff, rename, idsWhere_map, htest]

end Wiring

/-! ## Indexes and what is found with them -/

/-- The second index answers for the new names as the first one does for the old ones. -/
structure NameIndex.Renamed (ρ : Renaming) (index index' : NameIndex) : Prop where
  producer?_eq : ∀ t, index'.producer? (ρ t) = index.producer? t
  consumers_eq : ∀ t, index'.consumers (ρ t) = index.consumers t

/-- **An index that is filled from the new names** answers as that of the old names did. -/
theorem NameIndex.renamed_ofWiring (ρ : Renaming) (w : Wiring) :
    (ofWiring w).Renamed ρ (ofWiring (w.rename ρ)) := by
  have h := describes_ofWiring w
  have h' := describes_ofWiring (w.rename ρ)
  refine ⟨fun t => ?_, fun t => ?_⟩
  · rw [h'.producer?_eq, h.producer?_eq, Wiring.producer?_rename]
  · rw [h'.consumers_eq, h.consumers_eq, Wiring.consumers_rename]

section Index

variable {ρ : Renaming} {index index' : NameIndex} (h : index.Renamed ρ index')
include h

namespace Wiring

theorem linksFrom_rename (id : Nat) (p : Ports) :
    linksFrom index' id (p.rename ρ) = (linksFrom index id p).map (Link.rename ρ) := by
  have htest : (fun tensor => index'.producer? tensor == some id) ∘ ρ =
      fun tensor => index.producer? tensor == some id :=
    funext fun tensor => congrArg (· == some id) (h.producer?_eq tensor)
  rw [linksFrom, linksFrom, Ports.rename, List.filter_map, htest, List.flatMap_map,
    List.map_flatMap]
  congr 1
  funext tensor
  rw [h.consumers_eq, List.map_map]
  rfl

/-- The links are the same, in the same order, under new names. -/
theorem links_rename (w : Wiring) :
    links (w.rename ρ) index' = (links w index).map (Link.rename ρ) := by
  rw [links, links, rename, List.zipIdx_map, List.flatMap_map, List.map_flatMap]
  congr 1
  funext p
  exact linksFrom_rename h p.2 p.1

theorem selfLoop?_rename (w : Wiring) :
    selfLoop? (w.rename ρ) index' = (selfLoop? w index).map (Link.rename ρ) := by
  rw [selfLoop?, selfLoop?, links_rename h, List.find?_map]
  rfl

theorem edges_rename (w : Wiring) : edges (w.rename ρ) index' = edges w index := by
  rw [edges, edges, links_rename h, List.map_map]
  rfl

/-- **The dependencies of nodes do not show the names** that make them. -/
theorem digraph_rename (w : Wiring) : digraph (w.rename ρ) index' = digraph w index := by
  rw [digraph, digraph, edges_rename h, rename, List.length_map]

end Wiring

theorem OutputSource.find?_rename (inputs constants : List String) (t : String) :
    find? index' (inputs.map ρ) (constants.map ρ) (ρ t) = find? index inputs constants t := by
  rw [find?, find?, h.producer?_eq, ρ.contains_map, ρ.contains_map]

end Index

/-! ## Kinds of errors -/

/-- The errors are the same but for the names in them. -/
abbrev SameKind (e e' : Error) : Prop := e.kind = e'.kind

theorem alike_same {α : Type} (x : Except Error α) : Alike SameKind Eq x x := by
  cases x with
  | error e => exact .error rfl
  | ok a => exact .ok rfl

/-- What a name is put in front of does not show it. -/
theorem alike_inTensor {α : Type} (x : Except Error α) (name name' : String) :
    Alike SameKind Eq (x.mapError (·.inTensor name)) (x.mapError (·.inTensor name')) := by
  cases x with
  | error e => exact .error ((e.kind_inTensor name).trans (e.kind_inTensor name').symm)
  | ok a => exact .ok rfl

/-! ## Records -/

section Rename

variable (ρ : Renaming)

/-- The record of a tensor under a new name. -/
def TensorRecord.rename (r : TensorRecord) : TensorRecord := { r with name := ρ r.name }

/-- The record of a value under a new name. -/
def ValueInfoRecord.rename (r : ValueInfoRecord) : ValueInfoRecord := { r with name := ρ r.name }

/-- The record of a node that reads and writes new names. -/
def NodeRecord.rename (r : NodeRecord) : NodeRecord :=
  { r with inputs := r.inputs.map ρ, outputs := r.outputs.map ρ }

/-- The record of a graph with new names for the tensors that its nodes read and write, that enter
and leave, and that it starts from. -/
def GraphRecord.rename (r : GraphRecord) : GraphRecord :=
  { r with
    nodes := r.nodes.map (NodeRecord.rename ρ)
    initializers := r.initializers.map (TensorRecord.rename ρ)
    inputs := r.inputs.map (ValueInfoRecord.rename ρ)
    outputs := r.outputs.map (ValueInfoRecord.rename ρ) }

theorem Shape.ofRecord_rename (value : String) (dims : List DimensionRecord) :
    Alike SameKind Eq (Shape.ofRecord value dims) (Shape.ofRecord (ρ value) dims) := by
  rw [ofRecord, ofRecord]
  split
  · exact .error rfl
  · exact .ok rfl

theorem ValueInfo.ofRecord_rename (r : ValueInfoRecord) :
    Alike SameKind Eq (ofRecord r) (ofRecord (r.rename ρ)) := by
  rw [ofRecord, ofRecord, show (r.rename ρ).tensorType? = r.tensorType? from rfl]
  split
  · exact .ok rfl
  · refine (alike_same _).bind fun elementType _ h => ?_
    subst h
    refine (Shape.ofRecord_rename ρ r.name _).bind fun shape _ h => ?_
    exact .ok (h ▸ rfl)

theorem Tensor.ofRecord_rename (r : TensorRecord) (options : TensorOptions) :
    Alike SameKind Eq (ofRecord r options) (ofRecord (r.rename ρ) options) := by
  rw [ofRecord, ofRecord, show (r.rename ρ).isExternal = r.isExternal from rfl]
  split
  · exact .error rfl
  · refine (alike_same _).bind fun elementType _ h => ?_
    subst h
    cases elementType.unitSize? with
    | none => exact .error rfl
    | some unit =>
      refine (alike_same (r.shape unit _)).bind fun shape _ h => ?_
      subst h
      exact alike_inTensor _ r.name (ρ r.name)

/-! ## Graphs -/

/-- The node with new names for what it reads and writes. -/
def Node.rename (node : Node) : Node :=
  { node with inputs := node.inputs.map ρ, outputs := node.outputs.map ρ }

/-- The constant under a new name. -/
def Constant.rename (c : Constant) : Constant := { c with name := ρ c.name }

/-- The input under a new name. -/
def GraphInput.rename (input : GraphInput) : GraphInput := { input with name := ρ input.name }

/-- The output under a new name, from where it comes. -/
def GraphOutput.rename (output : GraphOutput) : GraphOutput :=
  { output with name := ρ output.name }

/-- The graph with new names for its tensors, and the index of these.  The edges, the order of the
nodes and the tensors themselves are the old ones. -/
def Graph.rename (g : Graph) : Graph :=
  { g with
    nodes := g.nodes.map (Node.rename ρ)
    index := .ofWiring (g.wiring.rename ρ)
    constants := g.constants.map (Constant.rename ρ)
    inputs := g.inputs.map (GraphInput.rename ρ)
    outputs := g.outputs.map (GraphOutput.rename ρ) }

theorem Node.ofRecord_rename (r : NodeRecord) (options : TensorOptions) :
    Alike SameKind (fun node node' => node' = node.rename ρ) (ofRecord r options)
      (ofRecord (r.rename ρ) options) :=
  (alike_same (Attributes.ofRecords r.attributes options)).map fun _ _ h => h ▸ rfl

theorem Constant.ofRecord_rename (r : TensorRecord) (options : TensorOptions) :
    Alike SameKind (fun c c' => c' = c.rename ρ) (ofRecord r options)
      (ofRecord (r.rename ρ) options) :=
  (Tensor.ofRecord_rename ρ r options).map fun _ _ h => h ▸ rfl

theorem GraphInput.ofRecord_rename (r : ValueInfoRecord) :
    Alike SameKind (fun input input' => input' = input.rename ρ) (ofRecord r)
      (ofRecord (r.rename ρ)) :=
  (ValueInfo.ofRecord_rename ρ r).map fun _ _ h => h ▸ rfl

theorem GraphOutput.ofRecord_rename {source? source?' : String → Option OutputSource}
    (hsource : ∀ t, source?' (ρ t) = source? t) (r : ValueInfoRecord) :
    Alike SameKind (fun output output' => output' = output.rename ρ) (ofRecord source? r)
      (ofRecord source?' (r.rename ρ)) := by
  rw [ofRecord, ofRecord, show (r.rename ρ).name = ρ r.name from rfl, hsource]
  split
  · exact .error rfl
  · exact (ValueInfo.ofRecord_rename ρ r).map fun _ _ h => h ▸ rfl

/-- The names that renamed nodes read and write. -/
theorem ports_rename (nodes : List Node) :
    (nodes.map (Node.rename ρ)).map Node.ports = Wiring.rename ρ (nodes.map Node.ports) := by
  rw [Wiring.rename, List.map_map, List.map_map]
  rfl

/-- **Nodes are put in the same order** under any names. -/
theorem schedule_rename {index index' : NameIndex} (h : index.Renamed ρ index')
    (nodes : List Node) :
    Alike SameKind Eq (schedule nodes index) (schedule (nodes.map (Node.rename ρ)) index') := by
  rw [schedule, schedule, ports_rename, Wiring.selfLoop?_rename h, Wiring.digraph_rename h]
  cases Wiring.selfLoop? (nodes.map Node.ports) index with
  | some link => exact .error rfl
  | none =>
    cases (Wiring.digraph (nodes.map Node.ports) index).topologicalOrder with
    | error id => exact .error rfl
    | ok order => exact .ok rfl

namespace Graph

theorem wiring_rename (g : Graph) : (g.rename ρ).wiring = g.wiring.rename ρ :=
  ports_rename ρ g.nodes

/-- **Reading a record commutes with renaming.** -/
theorem alike_ofRecord_rename (r : GraphRecord) (options : TensorOptions) :
    Alike SameKind (fun g g' => g' = g.rename ρ) (ofRecord r options)
      (ofRecord (r.rename ρ) options) := by
  have hinputs : (r.rename ρ).inputs = [] ↔ r.inputs = [] := List.map_eq_nil_iff
  have houtputs : (r.rename ρ).outputs = [] ↔ r.outputs = [] := List.map_eq_nil_iff
  simp only [ofRecord, hinputs, houtputs]
  split
  · exact .error rfl
  split
  · exact .error rfl
  refine (Alike.mapM_map fun nr => Node.ofRecord_rename ρ nr options).bind
    fun nodes _ h => ?_
  subst h
  refine (Alike.mapM_map fun tr => Constant.ofRecord_rename ρ tr options).bind
    fun constants _ h => ?_
  subst h
  refine (Alike.mapM_map (GraphInput.ofRecord_rename ρ)).bind fun inputs _ h => ?_
  subst h
  have hindex := NameIndex.renamed_ofWiring ρ (nodes.map Node.ports)
  rw [ports_rename]
  refine (schedule_rename ρ hindex nodes).bind fun order _ h => ?_
  subst h
  have hsource : ∀ t, OutputSource.find? (.ofWiring (Wiring.rename ρ (nodes.map Node.ports)))
      ((inputs.map (GraphInput.rename ρ)).map GraphInput.name)
      ((constants.map (Constant.rename ρ)).map Constant.name) (ρ t) =
      OutputSource.find? (.ofWiring (nodes.map Node.ports)) (inputs.map GraphInput.name)
        (constants.map Constant.name) t := by
    intro t
    have hinputs : (inputs.map (GraphInput.rename ρ)).map GraphInput.name =
        (inputs.map GraphInput.name).map ρ := by simp [GraphInput.rename]
    have hconstants : (constants.map (Constant.rename ρ)).map Constant.name =
        (constants.map Constant.name).map ρ := by simp [Constant.rename]
    rw [hinputs, hconstants, OutputSource.find?_rename hindex]
  refine (Alike.mapM_map (GraphOutput.ofRecord_rename ρ hsource)).bind fun outputs _ h => ?_
  subst h
  refine .ok ?_
  rw [Wiring.edges_rename hindex]
  rfl

end Graph

end Rename

/-! ## Two graphs -/

namespace Graph

/-- The graphs differ in the names of tensors and in nothing else, and answer alike for the new and
the old name of a tensor. -/
structure Renamed (ρ : Renaming) (g g' : Graph) : Prop where
  eq_rename : g' = g.rename ρ
  node?_eq : ∀ id, g'.node? id = (g.node? id).map (Node.rename ρ)
  edges_eq : g'.edges = g.edges
  order_eq : g'.order = g.order
  tensors_eq : g'.constants.map Constant.tensor = g.constants.map Constant.tensor
  sources_eq : g'.outputs.map GraphOutput.source = g.outputs.map GraphOutput.source
  producer?_eq : ∀ tensor, g'.producer? (ρ tensor) = g.producer? tensor
  consumers_eq : ∀ tensor, g'.consumers (ρ tensor) = g.consumers tensor
  wiring_producer?_eq : ∀ tensor,
    Wiring.producer? g'.wiring (ρ tensor) = Wiring.producer? g.wiring tensor
  wiring_consumers_eq : ∀ tensor,
    Wiring.consumers g'.wiring (ρ tensor) = Wiring.consumers g.wiring tensor

theorem renamed_rename (ρ : Renaming) {g : Graph} (h : g.index = .ofWiring g.wiring) :
    g.Renamed ρ (g.rename ρ) := by
  have hindex := NameIndex.renamed_ofWiring ρ g.wiring
  rw [← h] at hindex
  exact {
    eq_rename := rfl
    node?_eq := fun _ => List.getElem?_map
    edges_eq := rfl
    order_eq := rfl
    tensors_eq := List.map_map
    sources_eq := List.map_map
    producer?_eq := hindex.producer?_eq
    consumers_eq := hindex.consumers_eq
    wiring_producer?_eq := fun tensor => by rw [wiring_rename, Wiring.producer?_rename]
    wiring_consumers_eq := fun tensor => by rw [wiring_rename, Wiring.consumers_rename] }

/-- **The names of tensors matter only as far as they are equal.**  If all tensors of a record get
other names, so that different names stay different and names that are left out stay so, then both
records can be read or neither can.  The graphs have the same nodes under the same ids, the same
edges and the same order of nodes, the same tensors, and outputs that come from the same places,
and what writes and reads a tensor is found under its new name as it was under its old one; where
there is no graph, the kind of the error is the same. -/
theorem names_up_to_equality (ρ : Renaming) (r : GraphRecord) (options : TensorOptions) :
    (∃ g g', ofRecord r options = .ok g ∧ ofRecord (r.rename ρ) options = .ok g' ∧
      g.Renamed ρ g') ∨
    ∃ e e', ofRecord r options = .error e ∧ ofRecord (r.rename ρ) options = .error e' ∧
      e.kind = e'.kind := by
  have h := alike_ofRecord_rename ρ r options
  generalize hx : ofRecord r options = x at h
  generalize ofRecord (r.rename ρ) options = x' at h
  cases h with
  | error h => exact .inr ⟨_, _, rfl, rfl, h⟩
  | @ok g g' h =>
    exact .inl ⟨g, g', rfl, rfl, h ▸ renamed_rename ρ (built_of_ofRecord hx).index⟩

/-- If `a` and `b` change places, `a` is the name that two nodes write, and the second of them still
provides it. -/
theorem names_up_to_equality_shadowed :
    ∃ g g', ofRecord shadowed {} = .ok g ∧
      ofRecord (shadowed.rename (.swap "a" "b" (by decide) (by decide))) {} = .ok g' ∧
      g'.order = g.order ∧ g'.producer? "a" = some 2 := by
  obtain ⟨g, hg⟩ := exists_ofRecord_shadowed
  rcases names_up_to_equality (.swap "a" "b" (by decide) (by decide)) shadowed {} with
    ⟨g₀, g', hg₀, hg', h⟩ | ⟨e, -, he, -⟩
  · cases hg.symm.trans hg₀
    refine ⟨g, g', hg, hg', h.order_eq, ?_⟩
    have hlast : g.producer? "b" = some 2 := by
      rw [producer?, (built_of_ofRecord hg).describes.producer?_eq]
      decide
    rw [← hlast, ← h.producer?_eq "b"]
    rfl
  · cases hg.symm.trans he

end Graph

end TensorGraph
