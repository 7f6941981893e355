import TensorGraph.Operator.Contract
import TensorGraph.Proofs.Stages

/-!
# What it takes to bind a node

`Contract.bind` goes through the slots and then through the attributes of a contract.  What it does
with one of them is said here once, so that nothing further on has to look into a binding.

* `TensorSlot.bind_eq_ok_iff` says when a slot can be bound and to what, and
  `Contract.bindTensors_eq_mapM` that the tensors are bound slot by slot, whether the slots are
  fixed or as many as there are tensors (`InputSlots.slots`).
* `AttributeSlot.fill` makes a field of what a node has under an attribute's name, so `bind` is
  reading and filling (`AttributeSlot.bind_eq`).
* `Contract.Bound` lists the parts of a bundle, and `find?_eq_of_boundAttributes` says that the
  field of an attribute is found in it by its name.
-/

set_option autoImplicit false

namespace TensorGraph

/-! ## Tensors -/

section Tensors

variable {opType : String} {constraint : TypeConstraint} {tensors tensors' : SlotTensors}
  {slot : TensorSlot} {index : Nat} {field : Option TensorField}

theorem TensorField.bind_eq_ok_iff {tensor : Tensor} {name : String} {isOptional : Bool}
    {f : TensorField} :
    bind opType tensor index name constraint isOptional = .ok f ↔
      tensor.info.elementType ∈ constraint.allowed ∧
        f = ⟨index, name, constraint, isOptional, tensor⟩ := by
  rw [bind, List.contains_eq_mem]
  by_cases h : tensor.info.elementType ∈ constraint.allowed
  · simp [h, eq_comm]
  · simp [h]

/-- **What it takes to bind a slot**: a tensor of an allowed type, or none if there need not be
one. -/
theorem TensorSlot.bind_eq_ok_iff :
    slot.bind opType constraint tensors index = .ok field ↔
      (∃ tensor, tensors.tensor? index = some tensor ∧
        tensor.info.elementType ∈ constraint.allowed ∧
        field = some ⟨index, slot.name, constraint, slot.isOptional, tensor⟩) ∨
      tensors.tensor? index = none ∧ slot.isOptional = true ∧ field = none := by
  rw [bind, TensorField.optional, TensorField.required]
  cases tensors.tensor? index with
  | none => cases slot.isOptional <;> simp [eq_comm]
  | some tensor =>
    have hsome : (∃ f, (tensor.info.elementType ∈ constraint.allowed ∧
          f = ⟨index, slot.name, constraint, slot.isOptional, tensor⟩) ∧ some f = field) ↔
        tensor.info.elementType ∈ constraint.allowed ∧
          field = some ⟨index, slot.name, constraint, slot.isOptional, tensor⟩ := by
      constructor
      · rintro ⟨f, ⟨hallowed, rfl⟩, rfl⟩
        exact ⟨hallowed, rfl⟩
      · rintro ⟨hallowed, rfl⟩
        exact ⟨_, ⟨hallowed, rfl⟩, rfl⟩
    cases hoptional : slot.isOptional
    all_goals
      simpa [TensorGraph.bind_eq_ok_iff, TensorField.bind_eq_ok_iff, pure, Except.pure, hoptional]
        using hsome

/-- All that matters of the tensors for a slot is the one in it. -/
theorem TensorSlot.bind_congr (htensor : tensors'.tensor? index = tensors.tensor? index) :
    slot.bind opType constraint tensors' index = slot.bind opType constraint tensors index := by
  rw [bind, bind, TensorField.optional, TensorField.optional, TensorField.required,
    TensorField.required, htensor]

end Tensors

/-! ## Slots -/

/-- The slots that are bound when there are `count` tensors, with their numbers. -/
def InputSlots.slots (inputs : InputSlots) (count : Nat) : List (TensorSlot × Nat) :=
  match inputs with
  | .fixed slots => slots.zipIdx
  | .variadic name => (List.range count).map fun index => (⟨name, false⟩, index)

/-- The number of slots, if it is fixed. -/
def InputSlots.count? : InputSlots → Option Nat
  | .fixed slots => some slots.length
  | .variadic _ => none

section Slots

variable {c : Contract} {tensors : SlotTensors} {fields : List (Option TensorField)}

/-- The fields are what slots make of the tensors in them. -/
abbrev BoundSlots (opType : String) (constraint : TypeConstraint) (tensors : SlotTensors)
    (slots : List (TensorSlot × Nat)) (fields : List (Option TensorField)) : Prop :=
  List.Forall₂ (fun p field => p.1.bind opType constraint tensors p.2 = .ok field) slots fields

/-- To bind the tensors is to bind every slot; only a list that may have any length has to have
some entry. -/
theorem Contract.bindTensors_eq_mapM
    (h : ∀ name, c.inputs = .variadic name → tensors ≠ []) :
    c.bindTensors tensors = (c.inputs.slots tensors.length).mapM
      fun p => p.1.bind c.opType c.inputTypes tensors p.2 := by
  rw [bindTensors]
  cases hinputs : c.inputs with
  | fixed slots => rfl
  | variadic name =>
    simp only [InputSlots.slots, List.mapM_map, TensorField.variadic, if_neg (h name hinputs)]
    exact (mapM_bind_pure _ _ _).symm

theorem Contract.boundSlots_of_bindTensors (h : c.bindTensors tensors = .ok fields) :
    (∀ name, c.inputs = .variadic name → tensors ≠ []) ∧
      BoundSlots c.opType c.inputTypes tensors (c.inputs.slots tensors.length) fields := by
  have hne : ∀ name, c.inputs = .variadic name → tensors ≠ [] := by
    rintro name hname rfl
    simp only [bindTensors, hname, TensorField.variadic, if_true] at h
    cases h
  rw [bindTensors_eq_mapM hne, mapM_eq_ok_iff] at h
  exact ⟨hne, h⟩

end Slots

/-! ## Attributes -/

namespace AttributeSlot

variable {slot : AttributeSlot} {opType : String} {attributes : Attributes}
  {found : Option Attribute} {field : Option AttributeField}

/-- Makes a field of what a node has under the name of an attribute. -/
def fill (opType : String) (slot : AttributeSlot) :
    Option Attribute → Except Error (Option AttributeField)
  | some value => .ok (some ⟨slot.name, slot.presence == .required, value, true⟩)
  | none =>
    match slot.presence with
    | .required => .error (.missingAttribute opType slot.name)
    | .optional => .ok none
    | .withDefault default => .ok (some ⟨slot.name, false, default, false⟩)

/-- To bind an attribute is to read it and to make a field of what there is. -/
theorem bind_eq (slot : AttributeSlot) (opType : String) (attributes : Attributes) :
    slot.bind opType attributes = attributes.read slot.name slot.kind >>= slot.fill opType := by
  obtain ⟨name, kind, presence, namesType⟩ := slot
  cases presence with
  | required =>
    simp only [bind, AttributeField.required]
    cases attributes.read name kind with
    | error e => rfl
    | ok found => cases found <;> rfl
  | optional =>
    simp only [bind, AttributeField.optional]
    cases attributes.read name kind with
    | error e => rfl
    | ok found => cases found <;> rfl
  | withDefault default =>
    simp only [bind, AttributeField.withDefault]
    cases attributes.read name kind with
    | error e => rfl
    | ok found => cases found <;> rfl

/-- A field bears the name of its attribute. -/
theorem name_of_fill {f : AttributeField} (h : slot.fill opType found = .ok (some f)) :
    f.name = slot.name := by
  obtain ⟨name, kind, presence, namesType⟩ := slot
  cases found with
  | some value =>
    cases h
    rfl
  | none =>
    cases presence with
    | required => cases h
    | optional => cases h
    | withDefault default =>
      cases h
      rfl

theorem name_of_bind {f : AttributeField} (h : slot.bind opType attributes = .ok (some f)) :
    f.name = slot.name := by
  rw [bind_eq, bind_eq_ok_iff] at h
  obtain ⟨found, -, hfill⟩ := h
  exact name_of_fill hfill

theorem kind_of_read {name : String} {kind : ValueKind} {value : Attribute}
    (h : attributes.read name kind = .ok (some value)) : value.kind = kind := by
  rw [Attributes.read] at h
  split at h
  · cases h
  · split at h
    · rename_i hkind
      cases h
      exact hkind
    · cases h

/-- An attribute that has to be given has a value of its kind, which is given. -/
theorem required_of_bind (hpresence : slot.presence = .required)
    (h : slot.bind opType attributes = .ok field) :
    ∃ value : Attribute, value.kind = slot.kind ∧ field = some ⟨slot.name, true, value, true⟩ := by
  rw [bind_eq, bind_eq_ok_iff] at h
  obtain ⟨found, hread, hfill⟩ := h
  cases found with
  | some value =>
    simp only [fill, hpresence] at hfill
    cases hfill
    exact ⟨value, kind_of_read hread, rfl⟩
  | none =>
    simp only [fill, hpresence] at hfill
    cases hfill

/-- An attribute with a default has a value of its kind, if the default is of that kind. -/
theorem withDefault_of_bind {default : Attribute} (hpresence : slot.presence = .withDefault default)
    (hkind : default.kind = slot.kind) (h : slot.bind opType attributes = .ok field) :
    ∃ (value : Attribute) (isExplicit : Bool), value.kind = slot.kind ∧
      field = some ⟨slot.name, false, value, isExplicit⟩ := by
  rw [bind_eq, bind_eq_ok_iff] at h
  obtain ⟨found, hread, hfill⟩ := h
  cases found with
  | some value =>
    simp only [fill, hpresence] at hfill
    cases hfill
    exact ⟨value, true, kind_of_read hread, rfl⟩
  | none =>
    simp only [fill, hpresence] at hfill
    cases hfill
    exact ⟨default, false, hkind, rfl⟩

theorem bind_insert {value : Attribute} (hkind : value.kind = slot.kind) (opType : String)
    (attributes : Attributes) :
    slot.bind opType (attributes.insert slot.name value) = slot.fill opType (some value) := by
  have hread : Attributes.read (attributes.insert slot.name value) slot.name slot.kind =
      .ok (some value) := by
    rw [Attributes.read, NameMap.get?_insert, if_pos rfl]
    exact if_pos hkind
  rw [bind_eq, hread]
  rfl

end AttributeSlot

section Attributes

variable {slots : List AttributeSlot} {opType : String} {attributes : Attributes}
  {fields : List (Option AttributeField)} {slot : AttributeSlot}

/-- The fields are what the attributes of an operator make of those of a node. -/
abbrev BoundAttributes (opType : String) (attributes : Attributes) (slots : List AttributeSlot)
    (fields : List (Option AttributeField)) : Prop :=
  List.Forall₂ (fun slot field => slot.bind opType attributes = .ok field) slots fields

theorem exists_slot_of_mem (h : BoundAttributes opType attributes slots fields) {f : AttributeField}
    (hf : f ∈ fields.filterMap id) : ∃ slot ∈ slots, f.name = slot.name := by
  induction h with
  | nil => cases hf
  | @cons slot field slots fields hfield _ ih =>
    cases field with
    | none =>
      obtain ⟨slot', hmem, hname⟩ := ih hf
      exact ⟨slot', List.mem_cons_of_mem _ hmem, hname⟩
    | some g =>
      rcases List.mem_cons.1 hf with rfl | hf
      · exact ⟨slot, List.mem_cons_self, AttributeSlot.name_of_bind hfield⟩
      · obtain ⟨slot', hmem, hname⟩ := ih hf
        exact ⟨slot', List.mem_cons_of_mem _ hmem, hname⟩

/-- **The field of an attribute is found by its name**, as the attributes of an operator have
different names. -/
theorem find?_eq_of_boundAttributes (hnodup : (slots.map AttributeSlot.name).Nodup)
    (h : BoundAttributes opType attributes slots fields) (hslot : slot ∈ slots) :
    slot.bind opType attributes =
      .ok ((fields.filterMap id).find? fun f => f.name == slot.name) := by
  induction h with
  | nil => cases hslot
  | @cons slot' field slots fields hfield htail ih =>
    rw [List.map_cons, List.nodup_cons] at hnodup
    rcases List.mem_cons.1 hslot with rfl | hslot
    · cases field with
      | none =>
        rw [hfield, eq_comm, Except.ok.injEq]
        refine List.find?_eq_none.2 fun f hf hname => hnodup.1 ?_
        obtain ⟨other, hother, hname'⟩ := exists_slot_of_mem htail hf
        rw [← beq_iff_eq.1 hname, hname']
        exact List.mem_map_of_mem hother
      | some f =>
        have hname := AttributeSlot.name_of_bind hfield
        have hcons : (some f :: fields).filterMap id = f :: fields.filterMap id := rfl
        simp only [hfield, hcons, List.find?_cons, hname, beq_self_eq_true]
    · have hne : slot'.name ≠ slot.name := fun hname =>
        hnodup.1 (hname ▸ List.mem_map_of_mem hslot)
      rw [ih hnodup.2 hslot]
      cases field with
      | none => rfl
      | some f =>
        have hname := AttributeSlot.name_of_bind hfield
        have hcons : (some f :: fields).filterMap id = f :: fields.filterMap id := rfl
        have hskip : (f.name == slot.name) = false := beq_eq_false_iff_ne.2 (hname ▸ hne)
        simp only [hcons, List.find?_cons, hskip]

end Attributes

/-! ## Bundles -/

namespace Contract

variable {c : Contract} {node : Node} {tensors : SlotTensors} {b : Bundle}

/-- The parts that a bundle is put together from. -/
structure Bound (c : Contract) (node : Node) (tensors : SlotTensors) (b : Bundle) : Prop where
  contract_eq : b.contract = c
  tensors_eq : c.bindTensors tensors = .ok b.tensors
  attributes : BoundAttributes c.opType node.attributes c.attributes b.attributes

theorem bound_of_bind (h : c.bind node tensors = .ok b) : c.Bound node tensors b := by
  rw [bind, bind_eq_ok_iff] at h
  obtain ⟨fields, hfields, h⟩ := h
  obtain ⟨attributes, hattributes, h⟩ := bind_eq_ok_iff.1 h
  cases h
  refine ⟨rfl, hfields, mapM_eq_ok_iff.1 ?_⟩
  rw [bindAttributes] at hattributes
  cases hmapM : c.attributes.mapM (AttributeSlot.bind c.opType node.attributes) with
  | error e =>
    rw [hmapM] at hattributes
    cases hattributes
  | ok as =>
    rw [hmapM] at hattributes
    cases hattributes
    rfl

theorem bindAttributes_eq_ok {attributes : Attributes} {fields : List (Option AttributeField)}
    (h : BoundAttributes c.opType attributes c.attributes fields) :
    c.bindAttributes attributes = .ok fields := by
  rw [bindAttributes, mapM_eq_ok_iff.2 h]
  rfl

/-- The field of the only attribute is the one that was bound. -/
theorem Bound.bind_eq_attribute? {slot : AttributeSlot} (hb : c.Bound node tensors b)
    (hc : c.attributes = [slot]) :
    slot.bind c.opType node.attributes = .ok (b.attribute? slot.name) := by
  have hattributes := hb.attributes
  rw [hc] at hattributes
  exact find?_eq_of_boundAttributes (by simp) hattributes (List.mem_singleton_self slot)

end Contract

end TensorGraph
