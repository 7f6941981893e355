import Mathlib.Data.List.Dedup
import Mathlib.Data.List.Forall2
import Mathlib.Data.List.Perm.Basic
import TensorGraph.Proofs.Attribute.Records
import TensorGraph.Proofs.Graph.Dependencies

/-!
# Which tensors a graph owns

The tensors of a graph are its constants and those in the attributes of its nodes.  This module
says which tensor records they come from, in terms of the record of the graph alone.

`AttributeRecord.kept` are the attribute records that count: for each name the one that decides
about it.  `heldTensors` are the tensor records in there, for an attribute, for a node and for a
graph.  The tensors that are owned come from these one by one, in some order:
`Attribute.forall₂_ownedTensors`, `Attributes.exists_perm_ownedTensors`,
`Graph.exists_perm_ownedTensors`.
-/

set_option autoImplicit false

namespace TensorGraph

/-! ## One attribute -/

/-- The tensor records that count in an attribute record. -/
def AttributeRecord.heldTensors (r : AttributeRecord) : List TensorRecord :=
  match r.selected? with
  | some .tensor => r.tensor.toList
  | some .tensors => r.tensors
  | _ => []

/-- The tensor comes from the record. -/
def Tensor.IsOf (options : TensorOptions) (r : TensorRecord) (t : Tensor) : Prop :=
  Tensor.ofRecord r options = .ok t

variable {options : TensorOptions}

theorem Attribute.forall₂_ownedTensors {r : AttributeRecord} {a : Attribute}
    (h : Attribute.ofRecord r options = .ok (some a)) :
    List.Forall₂ (Tensor.IsOf options) r.heldTensors a.ownedTensors := by
  obtain ⟨kind, hkind, hpayload⟩ := ofRecord_eq_ok_some_iff.1 h
  rw [AttributeRecord.heldTensors, hkind]
  rcases AttributeRecord.payload_eq_ok hpayload with
    ⟨hnone, hlist, htensor⟩ | ⟨tr, t, rfl, hr, ht, rfl⟩ | ⟨ts, rfl, hts, rfl⟩
  · rw [hnone]
    cases kind with
    | tensor =>
      rw [htensor rfl]
      exact .nil
    | tensors => exact absurd rfl hlist
    | int | ints | float | floats | string | strings | null => exact .nil
  · rw [hr]
    exact .cons ht .nil
  · exact mapM_eq_ok_iff.1 hts

/-! ## The attributes of a node -/

/-- The attribute records that count, one for each name that has any. -/
def AttributeRecord.kept (records : List AttributeRecord) : List AttributeRecord :=
  (records.map AttributeRecord.name).dedup.filterMap (deciding? records)

theorem AttributeRecord.mem_names_of_deciding? {records : List AttributeRecord} {name : String}
    {r : AttributeRecord} (h : deciding? records name = some r) :
    name ∈ records.map AttributeRecord.name := by
  have hr := List.mem_filter.1 (List.mem_of_getLast? h)
  rw [Bool.and_eq_true, beq_iff_eq] at hr
  exact List.mem_map.2 ⟨r, hr.1, hr.2.1⟩

/-- The values of a map stand under its names. -/
theorem NameMap.filterMap_get?_names {α : Type} (m : NameMap α) :
    (m.entries.map Prod.fst).filterMap m.get? = m.values := by
  have hget (p : String × α) (hp : p ∈ m.entries) : m.get? p.1 = some p.2 :=
    get?_eq_some_iff.2 hp
  rw [List.filterMap_map, values, ← List.filterMap_eq_map]
  exact List.filterMap_congr hget

/-- Any names without repetition that comprise those of a map lead to its values. -/
theorem NameMap.perm_filterMap_get? {α : Type} {m : NameMap α} {names : List String}
    (hnodup : names.Nodup) (hnames : ∀ name a, m.get? name = some a → name ∈ names) :
    (names.filterMap m.get?).Perm m.values := by
  have hperm : (names.filter m.contains).Perm (m.entries.map Prod.fst) := by
    refine perm_names (hnodup.filter _) fun name => ?_
    rw [List.mem_filter, and_iff_right_iff_imp, contains_iff]
    rintro ⟨a, ha⟩
    exact hnames name a ha
  have hfilter : (names.filter m.contains).filterMap m.get? = names.filterMap m.get? := by
    rw [List.filterMap_filter]
    refine List.filterMap_congr fun name _ => ?_
    rw [contains]
    cases m.get? name <;> rfl
  rw [← m.filterMap_get?_names, ← hfilter]
  exact hperm.filterMap _

namespace Attributes

variable {records : List AttributeRecord} {m : Attributes}

/-- The attributes of a node are what the records that count describe. -/
theorem exists_perm_values (h : ofRecords records options = .ok m) :
    ∃ as, List.Forall₂ (fun r a => Attribute.ofRecord r options = .ok (some a))
      (AttributeRecord.kept records) as ∧ as.Perm m.values := by
  refine ⟨(records.map AttributeRecord.name).dedup.filterMap m.get?, ?_, ?_⟩
  · refine List.rel_filterMap (R := Eq) ?_ (List.forall₂_eq_eq_eq ▸ rfl)
    rintro name _ rfl
    rcases get?_ofRecords h name with ⟨hr, hm⟩ | ⟨r, a, hr, ha, hm⟩
    · rw [hr, hm]
      exact .none
    · rw [hr, hm]
      exact .some ha
  · refine NameMap.perm_filterMap_get? (List.nodup_dedup _) fun name a ha => ?_
    rcases get?_ofRecords h name with ⟨-, hm⟩ | ⟨r, a', hr, -, -⟩
    · rw [ha] at hm
      cases hm
    · exact List.mem_dedup.2 (AttributeRecord.mem_names_of_deciding? hr)

/-- The tensors of a node come from the tensor records that count. -/
theorem exists_perm_ownedTensors (h : ofRecords records options = .ok m) :
    ∃ ts, List.Forall₂ (Tensor.IsOf options)
      ((AttributeRecord.kept records).flatMap AttributeRecord.heldTensors) ts ∧
      ts.Perm m.ownedTensors := by
  obtain ⟨as, has, hperm⟩ := exists_perm_values h
  exact ⟨as.flatMap Attribute.ownedTensors,
    List.rel_flatMap has fun _ _ => Attribute.forall₂_ownedTensors, hperm.flatMap_right _⟩

end Attributes

/-! ## Nodes and graphs -/

/-- The tensor records that count in a node record. -/
def NodeRecord.heldTensors (r : NodeRecord) : List TensorRecord :=
  (AttributeRecord.kept r.attributes).flatMap AttributeRecord.heldTensors

/-- The tensor records that count in a graph record. -/
def GraphRecord.heldTensors (r : GraphRecord) : List TensorRecord :=
  r.initializers ++ r.nodes.flatMap NodeRecord.heldTensors

/-- If corresponding entries of two lists own related things up to order, then so do the lists. -/
theorem exists_perm_flatMap {α β γ δ : Type} {R : α → β → Prop} {f : γ → List α} {g : δ → List β}
    {l : List γ} {l' : List δ}
    (h : List.Forall₂ (fun c d => ∃ bs, List.Forall₂ R (f c) bs ∧ bs.Perm (g d)) l l') :
    ∃ bs, List.Forall₂ R (l.flatMap f) bs ∧ bs.Perm (l'.flatMap g) := by
  induction h with
  | nil => exact ⟨[], .nil, .refl _⟩
  | cons hhead _ ih =>
    obtain ⟨bs, hbs, hperm⟩ := hhead
    obtain ⟨rest, hrest, hrestPerm⟩ := ih
    rw [List.flatMap_cons, List.flatMap_cons]
    exact ⟨bs ++ rest, List.rel_append hbs hrest, hperm.append hrestPerm⟩

/-- **The tensors of a graph** come from the tensor records that count. -/
theorem Graph.exists_perm_ownedTensors {r : GraphRecord} {g : Graph}
    (h : Graph.ofRecord r options = .ok g) :
    ∃ ts, List.Forall₂ (Tensor.IsOf options) r.heldTensors ts ∧ ts.Perm g.ownedTensors := by
  have hb := built_of_ofRecord h
  have hconstants : List.Forall₂ (Tensor.IsOf options) r.initializers
      (g.constants.map Constant.tensor) := by
    rw [List.forall₂_map_right_iff]
    refine (mapM_eq_ok_iff.1 hb.constants).imp fun tr c hc => ?_
    obtain ⟨t, ht, hc⟩ := bind_eq_ok_iff.1 hc
    cases hc
    exact ht
  obtain ⟨ts, hts, hperm⟩ := exists_perm_flatMap (R := Tensor.IsOf options)
    (f := NodeRecord.heldTensors) (g := fun node : Node => node.attributes.ownedTensors) <| by
      refine (mapM_eq_ok_iff.1 hb.nodes).imp fun nr node hnode => ?_
      obtain ⟨m, hm, hnode⟩ := bind_eq_ok_iff.1 hnode
      cases hnode
      exact Attributes.exists_perm_ownedTensors hm
  exact ⟨_, List.rel_append hconstants hts, hperm.append_left _⟩

end TensorGraph
