import Mathlib.Data.List.Forall2
import TensorGraph.Operator.Catalog
import TensorGraph.Proofs.Operator.Extension

/-!
# Upgrading a bundle

There are two ways to a bundle of some version of an operator: to bind the node under that version,
or to bind it under the version before and to upgrade the bundle.  Both lead to the same bundle,
though an upgrade has its own constraints, names, defaults and flags.

* `Upgrade.FitsTensors` says that what an upgrade has about tensors is what its versions say.
  `apply_stepsTo` turns its steps into those of a binding, of which the first are known to succeed
  (`mapM_constrain?`, and `mapM_bind_widened` for the direct way), and
  `Contract.Bound.apply_eq_bind` compares both ways, errors included.
* `AttributeStep.Continues` says when a step makes the field that the later version makes of the
  same attribute, and `AttributeStep.Continues.apply_eq_fill` that it does.
* `Upgrade.Continues.agrees` is for upgrades that take nothing new, and `Contract.Bound.agrees` for
  those after which an attribute is given.
* `Contract.upgrade_agrees_with_bind` goes through the upgrades of the catalogue.
-/

set_option autoImplicit false

namespace TensorGraph

/-! ## Tensors -/

/-- The field under another constraint, if it passes that. -/
def TensorField.widened (constraint : TypeConstraint) (field : TensorField) : TensorField :=
  { field with constraint := constraint }

section Tensors

variable {opType : String} {constraint wider : TypeConstraint} {tensors tensors' : SlotTensors}
  {slot : TensorSlot} {index : Nat} {field : Option TensorField}
  {slots : List (TensorSlot × Nat)} {fields : List (Option TensorField)}

/-- A tensor that was bound is also bound under a wider constraint, by the same slot of other
tensors among which it stands in the same place. -/
theorem TensorSlot.bind_widened (h : slot.bind opType constraint tensors index = .ok field)
    (hwider : constraint.Within wider) (htensor : tensors'.tensor? index = tensors.tensor? index) :
    slot.bind opType wider tensors' index = .ok (field.map (TensorField.widened wider)) := by
  rw [bind_eq_ok_iff, htensor]
  rcases bind_eq_ok_iff.1 h with ⟨tensor, ht, hallowed, rfl⟩ | ⟨ht, hoptional, rfl⟩
  · exact .inl ⟨tensor, ht, hwider _ hallowed, rfl⟩
  · exact .inr ⟨ht, hoptional, rfl⟩

/-- The field itself passes the wider constraint too. -/
theorem TensorSlot.constrain?_eq (h : slot.bind opType constraint tensors index = .ok field)
    (hwider : constraint.Within wider) :
    TensorField.constrain? opType wider field = .ok (field.map (TensorField.widened wider)) := by
  rcases bind_eq_ok_iff.1 h with ⟨tensor, -, hallowed, rfl⟩ | ⟨-, -, rfl⟩
  · have hbind : TensorField.bind opType tensor index slot.name wider slot.isOptional =
        .ok ⟨index, slot.name, wider, slot.isOptional, tensor⟩ :=
      TensorField.bind_eq_ok_iff.2 ⟨hwider _ hallowed, rfl⟩
    rw [TensorField.constrain?, TensorField.constrain, hbind]
    rfl
  · rfl

theorem mapM_constrain? (h : BoundSlots opType constraint tensors slots fields)
    (hwider : constraint.Within wider) :
    fields.mapM (TensorField.constrain? opType wider) =
      .ok (fields.map (Option.map (TensorField.widened wider))) := by
  induction h with
  | nil => rfl
  | cons hfield _ ih =>
    rw [List.mapM_cons, TensorSlot.constrain?_eq hfield hwider, ih]
    rfl

theorem mapM_bind_widened (h : BoundSlots opType constraint tensors slots fields)
    (hwider : constraint.Within wider)
    (htensors : ∀ p ∈ slots, tensors'.tensor? p.2 = tensors.tensor? p.2) :
    slots.mapM (fun p => p.1.bind opType wider tensors' p.2) =
      .ok (fields.map (Option.map (TensorField.widened wider))) := by
  induction h with
  | nil => rfl
  | cons hfield _ ih =>
    rw [List.forall_mem_cons] at htensors
    rw [List.mapM_cons, TensorSlot.bind_widened hfield hwider htensors.1, ih htensors.2]
    rfl

end Tensors

/-- The steps that lead from the tensors of one contract to those of another: the slots that both
have are bound again, and the others are new. -/
def Contract.stepsTo (c d : Contract) : TensorSteps :=
  match c.inputs with
  | .fixed slots =>
    .fixed ((List.range slots.length).map (TensorStep.again · d.inputTypes) ++
      (c.newSlots d).map fun p => .added p.2 p.1.name d.inputTypes)
  | .variadic _ => .variadic d.inputTypes

/-- What an upgrade has about tensors is what its two versions say. -/
structure Upgrade.FitsTensors (u : Upgrade) : Prop extends u.earlier.Extends u.later where
  opType_eq : u.opType = u.later.opType
  kind_eq : u.earlier.opType = u.later.opType
  tensors_eq : u.tensors = u.earlier.stepsTo u.later
  isOptional : ∀ p ∈ u.earlier.newSlots u.later, p.1.isOptional = true

instance (u : Upgrade) : Decidable u.FitsTensors :=
  decidable_of_iff (u.earlier.Extends u.later ∧ u.opType = u.later.opType ∧
      u.earlier.opType = u.later.opType ∧ u.tensors = u.earlier.stepsTo u.later ∧
      ∀ p ∈ u.earlier.newSlots u.later, p.1.isOptional = true)
    ⟨fun ⟨h₁, h₂, h₃, h₄, h₅⟩ => ⟨h₁, h₂, h₃, h₄, h₅⟩,
      fun ⟨h₁, h₂, h₃, h₄, h₅⟩ => ⟨h₁, h₂, h₃, h₄, h₅⟩⟩

theorem mapM_range_join {α β ε : Type} (f : Option α → Except ε β) (l : List (Option α)) :
    (List.range l.length).mapM (fun place => f l[place]?.join) = l.mapM f := by
  have hplaces : (List.range l.length).map (fun place => l[place]?.join) = l := by
    refine List.ext_getElem (by simp) fun i _ hi => ?_
    simp [List.getElem?_eq_getElem hi]
  have hmapM := congrArg (List.mapM f) hplaces
  rw [List.mapM_map] at hmapM
  exact hmapM

namespace Contract.Bound

variable {u : Upgrade} {node : Node} {tensors added : SlotTensors} {b : Bundle}

theorem length_eq {c : Contract} (hb : c.Bound node tensors b) {slots : List TensorSlot}
    (hinputs : c.inputs = .fixed slots) : b.tensors.length = slots.length := by
  have hlength := (boundSlots_of_bindTensors hb.tensors_eq).2.length_eq
  rw [hinputs] at hlength
  simpa [InputSlots.slots] using hlength.symm

/-- The steps of an upgrade bind all tensors again, then what is new. -/
theorem apply_stepsTo (hb : u.earlier.Bound node tensors b) (h : u.FitsTensors)
    (added : SlotTensors) :
    u.tensors.apply u.opType b added = do
      let kept ← b.tensors.mapM (TensorField.constrain? u.later.opType u.later.inputTypes)
      let new ← (u.earlier.newSlots u.later).mapM fun p =>
        p.1.bind u.later.opType u.later.inputTypes (b.slotTensors ++ added) p.2
      return kept ++ new := by
  rw [h.tensors_eq, h.opType_eq, stepsTo]
  cases hinputs : u.earlier.inputs with
  | fixed slots =>
    have hnew : (u.earlier.newSlots u.later).mapM (fun p => TensorStep.apply u.later.opType b added
          (.added p.2 p.1.name u.later.inputTypes)) =
        (u.earlier.newSlots u.later).mapM fun p =>
          p.1.bind u.later.opType u.later.inputTypes (b.slotTensors ++ added) p.2 :=
      mapM_congr fun p hp => by rw [TensorSlot.bind, if_pos (h.isOptional p hp), TensorStep.apply]
    rw [TensorSteps.apply, List.mapM_append, List.mapM_map, List.mapM_map, ← hb.length_eq hinputs,
      ← hnew, ← mapM_range_join]
    rfl
  | variadic name =>
    have hnew : u.earlier.newSlots u.later = [] := by
      have hbegins := h.inputs
      rw [hinputs] at hbegins
      rw [newSlots]
      cases hlater : u.later.inputs with
      | fixed slots =>
        rw [hlater] at hbegins
        exact hbegins.elim
      | variadic name => rfl
    rw [hnew, TensorSteps.apply]
    cases b.tensors.mapM (TensorField.constrain? u.later.opType u.later.inputTypes) with
    | error e => rfl
    | ok kept => exact congrArg Except.ok (List.append_nil kept).symm

/-- What an upgrade does, once the attributes are taken over. -/
theorem apply_eq {fields : List (Option AttributeField)}
    (happly : u.attributes.mapM (AttributeStep.apply b) = .ok fields) :
    u.apply b added = do return ⟨u.later, ← u.tensors.apply u.opType b added, fields⟩ := by
  rw [Upgrade.apply, happly]
  rfl

/-- **An upgrade is a binding under the later version**, of a node whose attributes are taken over
and of tensors among which the old slots hold what they did and the new ones what is added. -/
theorem apply_eq_bind (hb : u.earlier.Bound node tensors b) (h : u.FitsTensors)
    {attributes : Attributes} {fields : List (Option AttributeField)}
    (happly : u.attributes.mapM (AttributeStep.apply b) = .ok fields)
    (hattributes : BoundAttributes u.later.opType attributes u.later.attributes fields)
    {tensors' : SlotTensors} (hne : ∀ name, u.later.inputs = .variadic name → tensors' ≠ [])
    (hcount : u.earlier.inputs.slots tensors'.length = u.earlier.inputs.slots tensors.length)
    (hold : ∀ p ∈ u.earlier.inputs.slots tensors.length,
      tensors'.tensor? p.2 = tensors.tensor? p.2)
    (hnew : ∀ p ∈ u.earlier.newSlots u.later,
      (b.slotTensors ++ added).tensor? p.2 = tensors'.tensor? p.2) :
    u.apply b added = u.later.bind { node with attributes := attributes } tensors' := by
  have hfields := (boundSlots_of_bindTensors hb.tensors_eq).2
  rw [h.kind_eq] at hfields
  have hnew' : (u.earlier.newSlots u.later).mapM (fun p =>
        p.1.bind u.later.opType u.later.inputTypes (b.slotTensors ++ added) p.2) =
      (u.earlier.newSlots u.later).mapM fun p =>
        p.1.bind u.later.opType u.later.inputTypes tensors' p.2 :=
    mapM_congr fun p hp => TensorSlot.bind_congr (hnew p hp)
  rw [apply_eq happly, hb.apply_stepsTo h, bind, bindTensors_eq_mapM hne, h.slots_eq_append, hcount,
    List.mapM_append, mapM_constrain? hfields h.inputTypes,
    mapM_bind_widened hfields h.inputTypes hold, hnew', bindAttributes_eq_ok hattributes]
  cases (u.earlier.newSlots u.later).mapM fun p =>
    p.1.bind u.later.opType u.later.inputTypes tensors' p.2 <;> rfl

/-- Where no slot is new, a binding of the same tensors cannot fail. -/
theorem exists_apply_eq_bind (hb : u.earlier.Bound node tensors b) (h : u.FitsTensors)
    (hnone : u.earlier.newSlots u.later = []) {attributes : Attributes}
    {fields : List (Option AttributeField)}
    (happly : u.attributes.mapM (AttributeStep.apply b) = .ok fields)
    (hattributes : BoundAttributes u.later.opType attributes u.later.attributes fields) :
    ∃ b', u.apply b added = .ok b' ∧
      u.later.bind { node with attributes := attributes } tensors = .ok b' := by
  obtain ⟨hne, hfields⟩ := boundSlots_of_bindTensors hb.tensors_eq
  have hne' : ∀ name, u.later.inputs = .variadic name → tensors ≠ [] := by
    intro name hname
    have hbegins := h.inputs
    rw [hname] at hbegins
    cases hinputs : u.earlier.inputs with
    | fixed slots =>
      rw [hinputs] at hbegins
      exact hbegins.elim
    | variadic name' => exact hne name' hinputs
  have hbind : ∃ b', u.later.bind { node with attributes := attributes } tensors = .ok b' := by
    rw [h.kind_eq] at hfields
    rw [bind, bindTensors_eq_mapM hne', h.slots_eq_append, hnone, List.append_nil,
      mapM_bind_widened hfields h.inputTypes fun _ _ => rfl, bindAttributes_eq_ok hattributes]
    exact ⟨_, rfl⟩
  obtain ⟨b', hb'⟩ := hbind
  refine ⟨b', ?_, hb'⟩
  rw [← hb']
  exact hb.apply_eq_bind h happly hattributes hne' rfl (fun _ _ => rfl) (by simp [hnone])

end Contract.Bound

/-! ## Attributes -/

/-- The change makes of the field of one attribute what another attribute would have. -/
def FieldChange.Fits (old new : AttributeSlot) : FieldChange → Prop
  | keep => new.presence = old.presence
  | orElse default =>
    old.presence = .optional ∧ new.presence = .withDefault default.value ∧
      default = ⟨new.name, false, default.value, false⟩
  | relabel _ _ => False
  | encode _ _ => False

instance (old new : AttributeSlot) : (change : FieldChange) → Decidable (change.Fits old new)
  | .keep => inferInstanceAs (Decidable (new.presence = old.presence))
  | .orElse default =>
    inferInstanceAs (Decidable (old.presence = .optional ∧
      new.presence = .withDefault default.value ∧
      default = ⟨new.name, false, default.value, false⟩))
  | .relabel _ _ => .isFalse id
  | .encode _ _ => .isFalse id

/-- A step goes from an attribute to the one that has its place in the later version. -/
structure AttributeStep.Continues (old new : AttributeSlot) (step : AttributeStep) : Prop where
  name_eq : step.name = old.name
  newName_eq : new.name = old.name
  kind_eq : new.kind = old.kind
  change : step.change.Fits old new

instance (old new : AttributeSlot) (step : AttributeStep) : Decidable (step.Continues old new) :=
  decidable_of_iff (step.name = old.name ∧ new.name = old.name ∧ new.kind = old.kind ∧
      step.change.Fits old new)
    ⟨fun ⟨h₁, h₂, h₃, h₄⟩ => ⟨h₁, h₂, h₃, h₄⟩, fun ⟨h₁, h₂, h₃, h₄⟩ => ⟨h₁, h₂, h₃, h₄⟩⟩

/-- **To take a field over is to make it of what the node has.** -/
theorem AttributeStep.Continues.apply_eq_fill {old new : AttributeSlot} {step : AttributeStep}
    (h : step.Continues old new) {opType : String} {found : Option Attribute}
    {field : Option AttributeField} (hfield : old.fill opType found = .ok field) :
    ∃ field', step.change.apply step.name field = .ok field' ∧
      new.fill opType found = .ok field' := by
  obtain ⟨name, kind, presence, namesType⟩ := new
  obtain ⟨oldName, oldKind, oldPresence, oldNamesType⟩ := old
  obtain ⟨stepName, change⟩ := step
  obtain ⟨hname, hnewName, hkind, hchange⟩ := h
  simp only at hname hnewName hkind hchange
  subst hname hnewName hkind
  cases change with
  | keep =>
    obtain rfl : presence = oldPresence := hchange
    exact ⟨field, rfl, hfield⟩
  | orElse default =>
    obtain ⟨rfl, rfl, hdefault⟩ := hchange
    cases found with
    | some value =>
      cases hfield
      exact ⟨_, rfl, rfl⟩
    | none =>
      cases hfield
      exact ⟨some default, rfl, congrArg (Except.ok ∘ some) hdefault.symm⟩
  | relabel isRequired isExplicit => exact hchange.elim
  | encode newName isRequired => exact hchange.elim

/-- An upgrade that takes nothing new: every attribute of the later version has its step. -/
structure Upgrade.Continues (u : Upgrade) : Prop where
  newSlots_eq : u.earlier.newSlots u.later = []
  nodup : (u.earlier.attributes.map AttributeSlot.name).Nodup
  length_eq : u.attributes.length = u.later.attributes.length
  attributes : ∀ p ∈ u.attributes.zip u.later.attributes,
    ∃ old ∈ u.earlier.attributes, p.1.Continues old p.2

instance (u : Upgrade) : Decidable u.Continues :=
  decidable_of_iff (u.earlier.newSlots u.later = [] ∧
      (u.earlier.attributes.map AttributeSlot.name).Nodup ∧
      u.attributes.length = u.later.attributes.length ∧
      ∀ p ∈ u.attributes.zip u.later.attributes, ∃ old ∈ u.earlier.attributes,
        p.1.Continues old p.2)
    ⟨fun ⟨h₁, h₂, h₃, h₄⟩ => ⟨h₁, h₂, h₃, h₄⟩, fun ⟨h₁, h₂, h₃, h₄⟩ => ⟨h₁, h₂, h₃, h₄⟩⟩

/-- The node with an attribute set to a value. -/
def Node.withAttribute (node : Node) (name : String) (value : Attribute) : Node :=
  { node with attributes := node.attributes.insert name value }

section Bundles

variable {u : Upgrade} {node : Node} {tensors added : SlotTensors} {b : Bundle}

/-- A step makes the field that the later version binds. -/
theorem AttributeStep.Continues.apply_eq_bind {old new : AttributeSlot} {step : AttributeStep}
    (h : step.Continues old new) (hb : u.earlier.Bound node tensors b)
    (hkind : u.earlier.opType = u.later.opType)
    (hnodup : (u.earlier.attributes.map AttributeSlot.name).Nodup)
    (hold : old ∈ u.earlier.attributes) :
    ∃ field, step.apply b = .ok field ∧ new.bind u.later.opType node.attributes = .ok field := by
  have hbind : old.bind u.earlier.opType node.attributes = .ok (b.attribute? old.name) :=
    find?_eq_of_boundAttributes hnodup hb.attributes hold
  rw [AttributeSlot.bind_eq, bind_eq_ok_iff] at hbind
  obtain ⟨found, hread, hfill⟩ := hbind
  obtain ⟨field, happly, hfill'⟩ := h.apply_eq_fill hfill
  refine ⟨field, ?_, ?_⟩
  · rw [apply, ← happly, h.name_eq]
  · rw [AttributeSlot.bind_eq, h.newName_eq, h.kind_eq, hread, ← hkind]
    exact hfill'

/-- **Where nothing new is taken, an upgrade is a binding of the same node to the same tensors.** -/
theorem Upgrade.Continues.agrees (h : u.Continues) (hfits : u.FitsTensors)
    (hb : u.earlier.Bound node tensors b) :
    ∃ b', u.apply b added = .ok b' ∧ u.later.bind node tensors = .ok b' := by
  have hsteps : ∀ p ∈ u.attributes.zip u.later.attributes, ∃ field, p.1.apply b = .ok field ∧
      p.2.bind u.later.opType node.attributes = .ok field := by
    intro p hp
    obtain ⟨old, hold, hcontinues⟩ := h.attributes p hp
    exact hcontinues.apply_eq_bind hb hfits.kind_eq h.nodup hold
  obtain ⟨fields, hfields⟩ := exists_forall₂ hsteps
  have happly : List.Forall₂ (fun step field => AttributeStep.apply b step = .ok field)
      ((u.attributes.zip u.later.attributes).map Prod.fst) fields :=
    List.forall₂_map_left_iff.2 (hfields.imp fun _ _ hfield => hfield.1)
  have hbound : BoundAttributes u.later.opType node.attributes
      ((u.attributes.zip u.later.attributes).map Prod.snd) fields :=
    List.forall₂_map_left_iff.2 (hfields.imp fun _ _ hfield => hfield.2)
  rw [List.map_fst_zip (Nat.le_of_eq h.length_eq)] at happly
  rw [List.map_snd_zip (Nat.le_of_eq h.length_eq.symm)] at hbound
  exact hb.exists_apply_eq_bind hfits h.newSlots_eq (mapM_eq_ok_iff.2 happly) hbound

/-- Where the one attribute is given in the end, an upgrade is a binding of a node that gives it. -/
theorem Contract.Bound.agrees (hb : u.earlier.Bound node tensors b) (h : u.FitsTensors)
    (hnone : u.earlier.newSlots u.later = []) {new : AttributeSlot}
    (hnew : u.later.attributes = [new]) (hrequired : new.presence = .required) {value : Attribute}
    (hkind : value.kind = new.kind)
    (happly : u.attributes.mapM (AttributeStep.apply b) =
      .ok [some ⟨new.name, true, value, true⟩]) :
    ∃ b', u.apply b added = .ok b' ∧
      u.later.bind (node.withAttribute new.name value) tensors = .ok b' := by
  have hbind : new.bind u.later.opType (node.attributes.insert new.name value) =
      .ok (some ⟨new.name, true, value, true⟩) := by
    rw [AttributeSlot.bind_insert hkind, AttributeSlot.fill, hrequired]
    rfl
  refine hb.exists_apply_eq_bind h hnone happly ?_
  rw [hnew]
  exact .cons hbind .nil

end Bundles

/-! ## The catalogue -/

namespace Catalog

variable {node : Node} {tensors added : SlotTensors} {b : Bundle}

theorem fitsTensors_of_mem : ∀ u ∈ upgrades, u.FitsTensors := by decide

/-- The upgrades in which a bundle keeps what it has. -/
def plainUpgrades : List Upgrade :=
  [reluV1ToV6, reluV6ToV14, addV1ToV6, addV6ToV7, addV7ToV14, clipV1ToV6, clipV11ToV12]

theorem continues_of_mem : ∀ u ∈ plainUpgrades, u ∈ upgrades ∧ u.Continues := by decide

/-- The bounds become inputs, and are bound as if they had always been. -/
theorem apply_clip (hb : clipV6.Bound node tensors b) (min max : Option Tensor) :
    clipV6ToV11.apply b [min, max] = clipV11.bind node [tensors.tensor? 0, min, max] := by
  have hb' : clipV6ToV11.earlier.Bound node tensors b := hb
  obtain ⟨field, htensors⟩ := List.length_eq_one_iff.1 (hb'.length_eq rfl)
  have hnew : clipV6ToV11.earlier.newSlots clipV6ToV11.later =
      [(possible "min", 1), (possible "max", 2)] := rfl
  refine hb'.apply_eq_bind (fitsTensors_of_mem _ (by decide)) rfl .nil (fun _ => nofun) rfl ?_ ?_
  · intro p hp
    rw [List.mem_singleton.1 hp]
    rfl
  · intro p hp
    rw [hnew] at hp
    rw [Bundle.slotTensors, htensors]
    simp only [List.mem_cons, List.not_mem_nil, or_false] at hp
    rcases hp with rfl | rfl <;> rfl

/-- The dimension along which to concatenate is known, and has to be given from now on. -/
theorem apply_concat (hb : concatV1.Bound node tensors b) :
    ∃ field a, b.attribute? "axis" = some field ∧ field.value = .int a ∧ ∀ added,
      ∃ b', concatV1ToV4.apply b added = .ok b' ∧
        concatV4.bind (node.withAttribute "axis" (.int a)) tensors = .ok b' := by
  have hb' : concatV1ToV4.earlier.Bound node tensors b := hb
  obtain ⟨value, isExplicit, hkind, hfield⟩ :=
    AttributeSlot.withDefault_of_bind rfl rfl (hb.bind_eq_attribute? rfl)
  cases value with
  | int a =>
    refine ⟨_, a, hfield, rfl, fun added => ?_⟩
    have happly : concatV1ToV4.attributes.mapM (AttributeStep.apply b) =
        .ok [some ⟨"axis", true, .int a, true⟩] := by
      show [AttributeStep.mk "axis" (.relabel true true)].mapM (AttributeStep.apply b) = _
      rw [List.mapM_cons, AttributeStep.apply, hfield]
      rfl
    have hnew : concatV1ToV4.later.attributes = [⟨"axis", .int, .required, false⟩] := rfl
    exact hb'.agrees (fitsTensors_of_mem _ (by decide)) rfl hnew rfl rfl happly
  | _ => cases hkind

/-- The type to convert to was given by its name, and is given by its code from now on. -/
theorem apply_cast (hb : castV1.Bound node tensors b) :
    ∃ target, b.target? = some target ∧ ∀ added,
      (∀ e, target = .error e → castV1ToV6.apply b added = .error (.model e)) ∧
        ∀ t, target = .ok t → ∃ b', castV1ToV6.apply b added = .ok b' ∧
          castV6.bind (node.withAttribute "to" (.int t.targetCode)) tensors = .ok b' := by
  have hb' : castV1ToV6.earlier.Bound node tensors b := hb
  obtain ⟨value, hkind, hfield⟩ := AttributeSlot.required_of_bind rfl (hb.bind_eq_attribute? rfl)
  have htarget : b.target? = some (value.target "to") := by
    rw [Bundle.target?, hb.contract_eq]
    exact congrArg (Option.map fun field => field.value.target "to") hfield
  have happly : castV1ToV6.attributes.mapM (AttributeStep.apply b) = do
      return [some ⟨"to", true, .int (← value.target "to").targetCode, true⟩] := by
    have hstep : AttributeStep.apply b ⟨"to", .encode "to" true⟩ = do
        return some ⟨"to", true, .int (← value.target "to").targetCode, true⟩ := by
      rw [AttributeStep.apply, hfield]
      rfl
    show [AttributeStep.mk "to" (.encode "to" true)].mapM (AttributeStep.apply b) = _
    rw [List.mapM_cons, hstep]
    cases value.target "to" <;> rfl
  refine ⟨_, htarget, fun added => ⟨fun e he => ?_, fun t ht => ?_⟩⟩
  · rw [Upgrade.apply, happly, he]
    rfl
  · rw [ht] at happly
    have hnew : castV1ToV6.later.attributes = [⟨"to", .int, .required, true⟩] := rfl
    exact hb'.agrees (fitsTensors_of_mem _ (by decide)) rfl hnew rfl rfl happly

end Catalog

namespace Contract

open Catalog

/-- **An upgraded bundle is the one that the newer version would have bound.**  Where an upgrade adds
nothing, that is a binding of the same node to the same tensors; the bounds of a clipping that come
in as tensors are bound behind the input; a dimension that has to be given, and a type that is given
by its code, are bound from a node that gives them. -/
theorem upgrade_agrees_with_bind (node : Node) (tensors : SlotTensors) :
    (∀ u ∈ plainUpgrades, ∀ b, u.earlier.bind node tensors = .ok b → ∀ added,
      ∃ b', u.apply b added = .ok b' ∧ u.later.bind node tensors = .ok b') ∧
    (∀ b, clipV6.bind node tensors = .ok b → ∀ min max,
      clipV6ToV11.apply b [min, max] = clipV11.bind node [tensors.tensor? 0, min, max]) ∧
    (∀ b, concatV1.bind node tensors = .ok b →
      ∃ field a, b.attribute? "axis" = some field ∧ field.value = .int a ∧ ∀ added,
        ∃ b', concatV1ToV4.apply b added = .ok b' ∧
          concatV4.bind (node.withAttribute "axis" (.int a)) tensors = .ok b') ∧
    ∀ b, castV1.bind node tensors = .ok b →
      ∃ target, b.target? = some target ∧ ∀ added,
        (∀ e, target = .error e → castV1ToV6.apply b added = .error (.model e)) ∧
          ∀ t, target = .ok t → ∃ b', castV1ToV6.apply b added = .ok b' ∧
            castV6.bind (node.withAttribute "to" (.int t.targetCode)) tensors = .ok b' := by
  refine ⟨fun u hu b hb added => ?_, fun b hb min max => ?_, fun b hb => ?_, fun b hb => ?_⟩
  · obtain ⟨hmem, hcontinues⟩ := continues_of_mem u hu
    exact hcontinues.agrees (fitsTensors_of_mem u hmem) (bound_of_bind hb)
  · exact apply_clip (bound_of_bind hb) min max
  · exact apply_concat (bound_of_bind hb)
  · exact apply_cast (bound_of_bind hb)

/-- A node with one attribute. -/
def nodeWith (name : String) (value : Attribute) : Node := (Node.ofType "").withAttribute name value

/-- A tensor of two zeros. -/
def zeros (elementType : ElementType) : Tensor :=
  ⟨⟨elementType, ⟨[2]⟩⟩, .little, some ⟨List.replicate 8 0, .heap⟩⟩

/-- One input for each kind of step: a bound that is kept, a bound of a type that is not allowed,
a dimension that was left out, and the name of a type. -/
theorem upgrade_agrees_with_bind_zeros :
    (∃ b b', clipV1.bind (nodeWith "min" (.float ⟨0⟩)) [some (zeros .float)] = .ok b ∧
      clipV1ToV6.apply b [] = .ok b' ∧
      clipV6.bind (nodeWith "min" (.float ⟨0⟩)) [some (zeros .float)] = .ok b') ∧
    (∃ b, clipV6.bind (Node.ofType "") [some (zeros .float)] = .ok b ∧
      clipV6ToV11.apply b [none, some (zeros .int32)] =
        .error (.typeConstraint "Clip" 2 "max" .int32 [.float16, .float, .double])) ∧
    (∃ b b', concatV1.bind (Node.ofType "") [some (zeros .float)] = .ok b ∧
      concatV1ToV4.apply b [] = .ok b' ∧
      concatV4.bind (nodeWith "axis" (.int 1)) [some (zeros .float)] = .ok b') ∧
    ∃ b b', castV1.bind (nodeWith "to" (.string "int64")) [some (zeros .float)] = .ok b ∧
      castV1ToV6.apply b [] = .ok b' ∧
      castV6.bind ((nodeWith "to" (.string "int64")).withAttribute "to" (.int 7))
        [some (zeros .float)] = .ok b' := by
  refine ⟨?_, ?_, ?_, ?_⟩
  · obtain ⟨b, hb⟩ : ∃ b, clipV1.bind (nodeWith "min" (.float ⟨0⟩)) [some (zeros .float)] = .ok b :=
      ⟨_, rfl⟩
    obtain ⟨hplain, -⟩ :=
      upgrade_agrees_with_bind (nodeWith "min" (.float ⟨0⟩)) [some (zeros .float)]
    obtain ⟨b', hb'⟩ := hplain clipV1ToV6 (by decide) b hb []
    exact ⟨b, b', hb, hb'⟩
  · obtain ⟨b, hb⟩ : ∃ b, clipV6.bind (Node.ofType "") [some (zeros .float)] = .ok b := ⟨_, rfl⟩
    obtain ⟨-, hclip, -⟩ := upgrade_agrees_with_bind (Node.ofType "") [some (zeros .float)]
    refine ⟨b, hb, ?_⟩
    rw [hclip b hb]
    rfl
  · obtain ⟨b, hb⟩ : ∃ b, concatV1.bind (Node.ofType "") [some (zeros .float)] = .ok b := ⟨_, rfl⟩
    obtain ⟨-, -, hconcat, -⟩ := upgrade_agrees_with_bind (Node.ofType "") [some (zeros .float)]
    obtain ⟨field, a, hfield, ha, h⟩ := hconcat b hb
    obtain ⟨b', hb'⟩ := h []
    cases hb
    cases hfield
    cases ha
    exact ⟨_, b', rfl, hb'⟩
  · obtain ⟨b, hb⟩ : ∃ b,
        castV1.bind (nodeWith "to" (.string "int64")) [some (zeros .float)] = .ok b := ⟨_, rfl⟩
    obtain ⟨-, -, -, hcast⟩ :=
      upgrade_agrees_with_bind (nodeWith "to" (.string "int64")) [some (zeros .float)]
    obtain ⟨target, htarget, h⟩ := hcast b hb
    obtain ⟨b', hb'⟩ := (h []).2 .int64 (by
      cases hb
      cases htarget
      rfl)
    exact ⟨b, b', hb, hb'⟩

end Contract

end TensorGraph
