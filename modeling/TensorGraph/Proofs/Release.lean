import TensorGraph.Proofs.OwnedTensors
import TensorGraph.Proofs.Storage
import TensorGraph.Proofs.Tensor.Lifecycle

/-!
# Releasing the tensors of a graph

A release goes through the constants and the nodes, through the attributes of each node and through
the tensors of each attribute, and adds up how many buffers it gave back.  This module says what
comes out of these loops.

`releaseEach_eq` is the lemma about loops: if each entry of a list is released as it should be, so
is the list.  From it, part by part up to `Graph.release_eq`: the number is that of the owned
tensors that were not released yet, and what is left is the part with all of them `released`.  For
each part `Keeps` says what is the same before and after, which is everything but the buffers.

Attributes can also be replaced between releases.  `Attributes.Change` is one of the two things that
can be done, and `Attributes.get?_run_of_no_release` follows an attribute back to where it was
inserted.

`Graph.releases_each_once` puts this together.
-/

set_option autoImplicit false

namespace TensorGraph

/-! ## Loops -/

/-- If each entry of a list is released as it should be, then so is the list. -/
theorem releaseEach_eq {α : Type} {release : α → Nat × α} {owned : α → List Tensor}
    {released : α → α}
    (h : ∀ a, release a = ((owned a).countP fun t => !t.isReleased, released a)) (l : List α) :
    releaseEach release l =
      ((l.flatMap owned).countP fun t => !t.isReleased, l.map released) := by
  induction l with
  | nil => rfl
  | cons a l ih =>
    simp only [releaseEach, h, ih, List.flatMap_cons, List.countP_append, List.map_cons]

theorem Tensor.releaseCounted_eq (t : Tensor) :
    t.releaseCounted = ([t].countP fun t => !t.isReleased, t.released) := by
  cases h : t.isReleased <;> simp [releaseCounted, release, h]

theorem Attribute.release_eq (a : Attribute) :
    a.release = (a.ownedTensors.countP fun t => !t.isReleased, a.released) := by
  cases a with
  | tensor t =>
    rw [release, Tensor.releaseCounted_eq]
    rfl
  | tensors ts =>
    rw [release, releaseEach_eq Tensor.releaseCounted_eq, List.flatMap_singleton']
    rfl
  | int | ints | float | floats | string | strings | null => rfl

theorem Attributes.release_eq (m : Attributes) : m.release = (m.liveCount, m.released) := by
  rw [release, releaseEach_eq Attribute.release_eq]
  simp only [Attribute.release_eq]
  rfl

theorem Node.release_eq (node : Node) :
    node.release = (node.attributes.liveCount, node.released) := by
  rw [release, Attributes.release_eq]
  rfl

theorem Constant.release_eq (c : Constant) :
    c.release = ([c.tensor].countP fun t => !t.isReleased,
      { c with tensor := c.tensor.released }) := by
  rw [release, Tensor.releaseCounted_eq]

/-- **What the loops come to**: the number of the tensors that had a buffer, and the graph without
any. -/
theorem Graph.release_eq (g : Graph) : g.release = (g.liveCount, g.released) := by
  have hconstants : g.constants.flatMap (fun c => [c.tensor]) = g.constants.map Constant.tensor :=
    List.map_eq_flatMap.symm
  rw [release, releaseEach_eq Constant.release_eq, releaseEach_eq Node.release_eq, hconstants,
    liveCount, ownedTensors, List.countP_append]
  rfl

/-! ## Nothing is left to release -/

theorem Attribute.ownedTensors_released (a : Attribute) :
    a.released.ownedTensors = a.ownedTensors.map Tensor.released := by
  cases a <;> rfl

theorem Attributes.ownedTensors_released (m : Attributes) :
    m.released.ownedTensors = m.ownedTensors.map Tensor.released := by
  rw [ownedTensors, released, NameMap.values_map, List.flatMap_map, ownedTensors, List.map_flatMap]
  simp only [Attribute.ownedTensors_released]

theorem Graph.ownedTensors_released (g : Graph) :
    g.released.ownedTensors = g.ownedTensors.map Tensor.released := by
  simp only [ownedTensors, released, Node.released, Attributes.ownedTensors_released,
    List.map_append, List.map_map, List.flatMap_map, List.map_flatMap]
  rfl

/-- Released tensors have no buffer to give back. -/
theorem countP_map_released (ts : List Tensor) :
    (ts.map Tensor.released).countP (fun t => !t.isReleased) = 0 := by
  rw [List.countP_eq_zero]
  intro t ht
  obtain ⟨t, -, rfl⟩ := List.mem_map.1 ht
  simp

theorem Attribute.released_released (a : Attribute) : a.released.released = a.released := by
  cases a with
  | tensors ts =>
    rw [released, released, List.map_map]
    rfl
  | tensor | int | ints | float | floats | string | strings | null => rfl

theorem Node.released_released (node : Node) : node.released.released = node.released := by
  rw [released, released, Attributes.released, Attributes.released, NameMap.map_map]
  simp only [Function.comp_def, Attribute.released_released]

theorem Graph.released_released (g : Graph) : g.released.released = g.released := by
  simp only [released, List.map_map, Function.comp_def, Node.released_released]
  rfl

/-- However often it is repeated, a release leaves the same. -/
theorem Graph.iterate_release (g : Graph) (k : Nat) :
    (fun g : Graph => g.release.2)^[k + 1] g = g.released := by
  induction k with
  | zero => rw [Function.iterate_one, release_eq]
  | succ k ih => rw [Function.iterate_succ_apply', ih, release_eq, released_released]

/-! ## What a release keeps -/

/-- The tensors are equal but for their buffers. -/
structure Tensor.Keeps (t t' : Tensor) : Prop where
  info_eq : t'.info = t.info
  byteOrder_eq : t'.byteOrder = t.byteOrder

/-- The attributes are equal but for the buffers of their tensors. -/
inductive Attribute.Keeps : Attribute → Attribute → Prop
  | plain (a : Attribute) (h : a.ownedTensors = []) : Keeps a a
  | tensor {t t' : Tensor} (h : t.Keeps t') : Keeps (.tensor t) (.tensor t')
  | tensors {ts ts' : List Tensor} (h : List.Forall₂ Tensor.Keeps ts ts') :
      Keeps (.tensors ts) (.tensors ts')

/-- There are attributes of the same names, equal but for the buffers of their tensors. -/
def Attributes.Keeps (m m' : Attributes) : Prop :=
  ∀ name, Option.Rel Attribute.Keeps (m.get? name) (m'.get? name)

/-- The nodes are equal but for the buffers in their attributes. -/
structure Node.Keeps (node node' : Node) : Prop where
  eq_with : node' = { node with attributes := node'.attributes }
  attributes : node.attributes.Keeps node'.attributes

/-- The constants are equal but for the buffer of the tensor. -/
structure Constant.Keeps (c c' : Constant) : Prop where
  eq_with : c' = { c with tensor := c'.tensor }
  tensor : c.tensor.Keeps c'.tensor

/-- The graphs are equal but for the buffers of their tensors. -/
structure Graph.Keeps (g g' : Graph) : Prop where
  eq_with : g' = { g with nodes := g'.nodes, constants := g'.constants }
  nodes : List.Forall₂ Node.Keeps g.nodes g'.nodes
  constants : List.Forall₂ Constant.Keeps g.constants g'.constants
  producer?_eq : ∀ tensor, g'.producer? tensor = g.producer? tensor
  consumers_eq : ∀ tensor, g'.consumers tensor = g.consumers tensor

theorem forall₂_map {α β : Type} {R : α → β → Prop} {f : α → β} (h : ∀ a, R a (f a))
    (l : List α) : List.Forall₂ R l (l.map f) :=
  List.forall₂_map_right_iff.2 (List.forall₂_same.2 fun a _ => h a)

theorem Tensor.keeps_released (t : Tensor) : t.Keeps t.released := ⟨rfl, rfl⟩

theorem Attribute.keeps_released (a : Attribute) : a.Keeps a.released := by
  cases a with
  | tensor t => exact .tensor t.keeps_released
  | tensors ts => exact .tensors (forall₂_map Tensor.keeps_released ts)
  | int | ints | float | floats | string | strings | null => exact .plain _ rfl

theorem Attributes.keeps_released (m : Attributes) : m.Keeps m.released := by
  intro name
  rw [released, NameMap.get?_map]
  cases m.get? name with
  | none => exact .none
  | some a => exact .some a.keeps_released

theorem Node.keeps_released (node : Node) : node.Keeps node.released :=
  ⟨rfl, node.attributes.keeps_released⟩

theorem Graph.keeps_released (g : Graph) : g.Keeps g.released := by
  exact {
    eq_with := rfl
    nodes := forall₂_map Node.keeps_released g.nodes
    constants := forall₂_map (fun c => ⟨rfl, c.tensor.keeps_released⟩) g.constants
    producer?_eq := fun _ => rfl
    consumers_eq := fun _ => rfl }

/-! ## The first release -/

variable {options : TensorOptions}

theorem Tensor.IsOf.isReleased_eq {r : TensorRecord} {t : Tensor} (h : t.IsOf options r) :
    t.isReleased = false := by
  obtain ⟨buffer, hbuffer, -⟩ := (Made.ofRecord h).exists_buffer
  rw [isReleased, hbuffer]
  rfl

/-- Tensors that have just been made from records all have a buffer. -/
theorem countP_of_forall₂ {rs : List TensorRecord} {ts owned : List Tensor}
    (h : List.Forall₂ (Tensor.IsOf options) rs ts) (hperm : ts.Perm owned) :
    (owned.countP fun t => !t.isReleased) = rs.length := by
  rw [← hperm.countP_eq]
  clear hperm
  induction h with
  | nil => rfl
  | cons hhead _ ih =>
    rw [List.countP_cons_of_pos (by rw [hhead.isReleased_eq]; rfl), ih, List.length_cons]

/-! ## Attributes that are changed -/

namespace Attributes

/-- One way to change the attributes of a node. -/
inductive Change
  | insert (name : String) (a : Attribute)
  | release

/-- The attributes after a change. -/
def apply (m : Attributes) : Change → Attributes
  | .insert name a => m.insert name a
  | .release => m.release.2

/-- The attributes after changes one after the other. -/
def run (m : Attributes) (changes : List Change) : Attributes := changes.foldl apply m

/-- As long as nothing is released, an attribute is from the start, or else it was inserted. -/
theorem get?_run_of_no_release {m : Attributes} {changes : List Change}
    (h : .release ∉ changes) {name : String} {a : Attribute}
    (ha : (m.run changes).get? name = some a) :
    m.get? name = some a ∨ .insert name a ∈ changes := by
  induction changes generalizing m with
  | nil => exact .inl ha
  | cons change changes ih =>
    rw [List.mem_cons, not_or] at h
    rcases ih h.2 ha with hm | hmem
    · cases change with
      | insert n b =>
        rw [apply, NameMap.get?_insert] at hm
        by_cases hn : name = n
        · rw [if_pos hn, Option.some.injEq] at hm
          rw [hn, hm]
          exact .inr List.mem_cons_self
        · rw [if_neg hn] at hm
          exact .inl hm
      | release => exact absurd rfl h.1
    · exact .inr (List.mem_cons_of_mem _ hmem)

/-- No attribute has a buffer left after a release. -/
theorem isReleased_of_get?_released {m : Attributes} {name : String} {a : Attribute}
    (ha : m.released.get? name = some a) {t : Tensor} (ht : t ∈ a.ownedTensors) :
    t.isReleased = true := by
  rw [released, NameMap.get?_map, Option.map_eq_some_iff] at ha
  obtain ⟨a, -, rfl⟩ := ha
  rw [Attribute.ownedTensors_released] at ht
  obtain ⟨t, -, rfl⟩ := List.mem_map.1 ht
  rfl

/-- After a release, only what was inserted since can have a buffer. -/
theorem isReleased_or_insert_mem {m : Attributes} (before : List Change) {after : List Change}
    (hafter : .release ∉ after) {name : String} {a : Attribute}
    (ha : (m.run (before ++ .release :: after)).get? name = some a) :
    (∀ t ∈ a.ownedTensors, t.isReleased = true) ∨ .insert name a ∈ after := by
  rw [run, List.foldl_append, List.foldl_cons, apply, release_eq] at ha
  rcases get?_run_of_no_release hafter ha with hm | hmem
  · exact .inl fun t ht => isReleased_of_get?_released hm ht
  · exact .inr hmem

end Attributes

/-! ## Once and no more -/

/-- **Every buffer is given back exactly once, and nothing else changes.**  The first release of a
graph counts its initializers and the tensors in the attributes that count; from then on there is
nothing left to release, and the graph is as it was but for the buffers.  With attributes that are
changed in between, a release counts the tensors that still have a buffer, which after an earlier
release are those of attributes that were inserted since. -/
theorem Graph.releases_each_once {r : GraphRecord} {g : Graph} (h : ofRecord r options = .ok g) :
    g.release.1 = r.initializers.length + (r.nodes.flatMap NodeRecord.heldTensors).length ∧
    (∀ k, let g' := (fun g : Graph => g.release.2)^[k + 1] g
      g'.release.1 = 0 ∧
      (∀ c ∈ g'.constants, c.tensor.isReleased = true) ∧
      (∀ node ∈ g'.nodes, ∀ name a, node.attributes.get? name = some a →
        ∀ t ∈ a.ownedTensors, t.isReleased = true) ∧
      g.Keeps g') ∧
    ∀ (records : List AttributeRecord) (options : TensorOptions) (m : Attributes),
      Attributes.ofRecords records options = .ok m →
      m.release.1 =
        ((AttributeRecord.kept records).flatMap AttributeRecord.heldTensors).length ∧
      ∀ changes, let m' := m.run changes
        m'.release.1 = (m'.ownedTensors.countP fun t => !t.isReleased) ∧
        (∀ name a, m'.release.2.get? name = some a →
          ∀ t ∈ a.ownedTensors, t.isReleased = true) ∧
        m'.Keeps m'.release.2 ∧
        ∀ before after, changes = before ++ .release :: after → .release ∉ after →
          ∀ name a, m'.get? name = some a →
            (∀ t ∈ a.ownedTensors, t.isReleased = true) ∨ .insert name a ∈ after := by
  refine ⟨?_, fun k => ?_, fun records options m hm => ⟨?_, fun changes => ?_⟩⟩
  · obtain ⟨ts, hts, hperm⟩ := exists_perm_ownedTensors h
    rw [release_eq, liveCount, countP_of_forall₂ hts hperm, GraphRecord.heldTensors,
      List.length_append]
  · rw [iterate_release]
    refine ⟨?_, ?_, ?_, g.keeps_released⟩
    · rw [release_eq, liveCount, ownedTensors_released, countP_map_released]
    · intro c hc
      obtain ⟨c, -, rfl⟩ := List.mem_map.1 hc
      rfl
    · intro node hnode name a ha t ht
      obtain ⟨node, -, rfl⟩ := List.mem_map.1 hnode
      exact Attributes.isReleased_of_get?_released ha ht
  · obtain ⟨ts, hts, hperm⟩ := Attributes.exists_perm_ownedTensors hm
    rw [Attributes.release_eq, Attributes.liveCount, countP_of_forall₂ hts hperm]
  · intro m'
    rw [Attributes.release_eq]
    refine ⟨rfl, fun name a ha t ht => Attributes.isReleased_of_get?_released ha ht,
      Attributes.keeps_released _, ?_⟩
    rintro before after rfl hafter name a ha
    exact Attributes.isReleased_or_insert_mem before hafter ha

/-- The attributes of a node in which a list replaces a tensor and an empty record counts for
nothing. -/
def AttributeRecord.replaced : List AttributeRecord :=
  [ { name := "offset", kind := 4, tensor := some { elementType := 5, rawData := [1, 0] } },
    { name := "scale", tensor := some { elementType := 5, rawData := [3, 0] } },
    { name := "offset"
      kind := 9
      tensors := List.replicate 2 { elementType := 5, rawData := [2, 0] } },
    { name := "scale" } ]

/-- A graph that is released twice, and attributes of which one is new after their release. -/
theorem Graph.releases_each_once_weighted :
    ∃ g, ofRecord Model.weighted {} = .ok g ∧ g.release.1 = 2 ∧ g.release.2.release.1 = 0 ∧
      ∃ m, Attributes.ofRecords AttributeRecord.replaced {} = .ok m ∧ m.release.1 = 3 ∧
        ∀ t name a,
          (m.run [.release, .insert "bias" (.tensor t)]).get? name = some a → name ≠ "bias" →
          ∀ t ∈ a.ownedTensors, t.isReleased = true := by
  obtain ⟨g, hg⟩ := Model.exists_ofRecord_weighted
  obtain ⟨hfirst, hagain, hmap⟩ := releases_each_once hg
  refine ⟨g, hg, hfirst, (hagain 0).1, ?_⟩
  obtain ⟨m, hm⟩ : ∃ m, Attributes.ofRecords AttributeRecord.replaced {} = .ok m := ⟨_, rfl⟩
  obtain ⟨hcount, hchanges⟩ := hmap _ _ m hm
  refine ⟨m, hm, hcount, fun t name a ha hname => ?_⟩
  obtain ⟨-, -, -, hsince⟩ := hchanges [.release, .insert "bias" (.tensor t)]
  rcases hsince [] [.insert "bias" (.tensor t)] rfl (by simp) name a ha with hreleased | hmem
  · exact hreleased
  · rw [List.mem_singleton, Attributes.Change.insert.injEq] at hmem
    exact absurd hmem.1 hname

end TensorGraph
