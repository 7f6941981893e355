import Mathlib.Data.List.Enum
import TensorGraph.Operator.Catalog
import TensorGraph.Proofs.Operator.Declared

/-!
# What a check refuses first

A call may break a contract in many ways at once, and a check answers with one error.  What a slot
or an attribute refuses, and with which error, is said for each of them alone
(`TensorSlot.Refuses`, `AttributeSlot.Refuses`).  `Contract.refusals` puts the refusals in the order
of a check, and `Contract.validate_eq_error_iff` says that the first of them is the answer.

`Concat` takes a list of any length.  To go through its slots is to go through the tensors at hand
(`InputSlots.slots_variadic`), so its fields are these tensors, and the first of them that cannot be
bound is what a check reports, whatever else is wrong (`Catalog.concat_reports_first_fault`).
-/

set_option autoImplicit false

namespace TensorGraph

/-! ## What is refused -/

/-- What a slot refuses, and the error it is refused with. -/
def TensorSlot.Refuses (slot : TensorSlot) (opType : String) (constraint : TypeConstraint)
    (index : Nat) : Option ElementType → ContractError → Prop
  | some elementType, e =>
    elementType ∉ constraint.allowed ∧
      e = .typeConstraint opType index slot.name elementType constraint.allowed
  | none, e => slot.isOptional = false ∧ e = .missingInput opType index slot.name

/-- What an attribute refuses, and the error it is refused with. -/
def AttributeSlot.Refuses (slot : AttributeSlot) (opType : String) :
    Option AttributeKind → Error → Prop
  | some kind, e => kind ≠ slot.kind ∧ e = .attributeKind slot.name slot.kind kind
  | none, e => slot.presence = .required ∧ e = .missingAttribute opType slot.name

section Slots

variable {opType : String} {constraint : TypeConstraint} {tensors : SlotTensors} {index : Nat}

theorem TensorField.bind_eq_error_iff {tensor : Tensor} {name : String} {isOptional : Bool}
    {e : ContractError} :
    bind opType tensor index name constraint isOptional = .error e ↔
      tensor.info.elementType ∉ constraint.allowed ∧
        e = .typeConstraint opType index name tensor.info.elementType constraint.allowed := by
  rw [bind, List.contains_eq_mem]
  by_cases h : tensor.info.elementType ∈ constraint.allowed
  · simp [h]
  · simp [h, eq_comm]

theorem TensorField.required_eq_error_iff {name : String} {e : ContractError} :
    required opType tensors index name constraint = .error e ↔
      TensorSlot.Refuses ⟨name, false⟩ opType constraint index (tensors.type? index) e := by
  rw [required, SlotTensors.type?]
  cases tensors.tensor? index with
  | none => simp [TensorSlot.Refuses, eq_comm]
  | some tensor => exact bind_eq_error_iff

theorem TensorField.optional_eq_error_iff {name : String} {e : ContractError} :
    optional opType tensors index name constraint = .error e ↔
      TensorSlot.Refuses ⟨name, true⟩ opType constraint index (tensors.type? index) e := by
  rw [optional, SlotTensors.type?]
  cases tensors.tensor? index with
  | none => simp [TensorSlot.Refuses]
  | some tensor => exact (bind_pure_eq_error_iff some).trans bind_eq_error_iff

theorem TensorSlot.bind_eq_error_iff {slot : TensorSlot} {e : ContractError} :
    slot.bind opType constraint tensors index = .error e ↔
      slot.Refuses opType constraint index (tensors.type? index) e := by
  obtain ⟨name, isOptional⟩ := slot
  cases isOptional with
  | false => exact (bind_pure_eq_error_iff some).trans TensorField.required_eq_error_iff
  | true => exact TensorField.optional_eq_error_iff

theorem AttributeSlot.bind_eq_error_iff {slot : AttributeSlot} {attributes : Attributes}
    {e : Error} :
    slot.bind opType attributes = .error e ↔
      slot.Refuses opType (attributes.kind? slot.name) e := by
  rw [bind_eq, Attributes.read, Attributes.kind?]
  cases attributes.get? slot.name with
  | none =>
    show slot.fill opType none = .error e ↔ slot.Refuses opType none e
    rw [fill, Refuses]
    cases slot.presence <;> simp [eq_comm]
  | some a =>
    by_cases hkind : a.kind = slot.kind
    · simp [hkind, TensorGraph.bind_eq_error_iff, fill, Refuses]
    · simp [hkind, TensorGraph.bind_eq_error_iff, Refuses, @eq_comm _ e]

end Slots

/-! ## The first refusal of a check -/

namespace Contract

variable {c : Contract} {node : Node} {inputs outputs : SlotTensors} {e : ContractError}

/-- What is wrong with the input tensors: the first slot at fault, or that there is no tensor where
there has to be one. -/
def RefusesInputs (c : Contract) (inputs : SlotTensors) (e : ContractError) : Prop :=
  (∃ name, c.inputs = .variadic name ∧ inputs = [] ∧ e = .missingInput c.opType 0 name) ∨
    FirstFault (fun p e => p.1.Refuses c.opType c.inputTypes p.2 (inputs.type? p.2) e)
      (c.inputs.slots inputs.length) e

/-- What is wrong with the attributes: the first one at fault. -/
def RefusesAttributes (c : Contract) (attributes : Attributes) (e : ContractError) : Prop :=
  ∃ cause, e = .model cause ∧
    FirstFault (fun slot e => slot.Refuses c.opType (attributes.kind? slot.name) e) c.attributes
      cause

/-- What is wrong with the output. -/
def RefusesOutput (c : Contract) (outputs : SlotTensors) (e : ContractError) : Prop :=
  TensorSlot.Refuses ⟨"output", false⟩ c.opType c.outputTypes 0 (outputs.type? 0) e

theorem bindTensors_eq_error_iff :
    c.bindTensors inputs = .error e ↔ c.RefusesInputs inputs e := by
  rw [RefusesInputs]
  by_cases hempty : ∃ name, c.inputs = .variadic name ∧ inputs = []
  · obtain ⟨name, hname, rfl⟩ := hempty
    have herror : c.bindTensors [] = .error (.missingInput c.opType 0 name) := by
      simp only [bindTensors, hname, TensorField.variadic, if_true]
      rfl
    have hslots : c.inputs.slots ([] : SlotTensors).length = [] := by
      rw [hname]
      rfl
    rw [hslots, or_iff_left (not_firstFault_nil _ e), herror]
    simp [hname, eq_comm]
  · have hne : ∀ name, c.inputs = .variadic name → inputs ≠ [] := by
      intro name hname hinputs
      exact hempty ⟨name, hname, hinputs⟩
    have hnone : ¬ ∃ name, c.inputs = .variadic name ∧ inputs = [] ∧
        e = .missingInput c.opType 0 name := by
      rintro ⟨name, hname, hinputs, -⟩
      exact hempty ⟨name, hname, hinputs⟩
    rw [or_iff_right hnone, bindTensors_eq_mapM hne, mapM_eq_error_iff]
    exact firstFault_congr fun _ _ => TensorSlot.bind_eq_error_iff

theorem bindAttributes_eq_error_iff {attributes : Attributes} :
    c.bindAttributes attributes = .error e ↔ c.RefusesAttributes attributes e := by
  have hcause : ∀ cause, c.attributes.mapM (AttributeSlot.bind c.opType attributes) =
      .error cause ↔ FirstFault (fun slot e =>
        slot.Refuses c.opType (attributes.kind? slot.name) e) c.attributes cause := by
    intro cause
    rw [mapM_eq_error_iff]
    exact firstFault_congr fun _ _ => AttributeSlot.bind_eq_error_iff
  rw [RefusesAttributes, bindAttributes]
  simp only [← hcause]
  cases c.attributes.mapM (AttributeSlot.bind c.opType attributes) with
  | error cause => simp [Except.mapError, eq_comm]
  | ok fields => simp [Except.mapError]

theorem bindOutput_eq_error_iff :
    c.bindOutput outputs = .error e ↔ c.RefusesOutput outputs e :=
  TensorField.required_eq_error_iff

/-- What can be wrong with a call, in the order in which it is looked for. -/
def refusals (c : Contract) (node : Node) (inputs outputs : SlotTensors) :
    List (ContractError → Prop) :=
  [c.RefusesInputs inputs, c.RefusesAttributes node.attributes, c.RefusesOutput outputs]

/-- **A check fails with the first refusal**, and with nothing else. -/
theorem validate_eq_error_iff :
    c.validate node inputs outputs = .error e ↔
      FirstFault (fun stage e => stage e) (c.refusals node inputs outputs) e := by
  have hstages : c.validate node inputs outputs = .error e ↔
      c.bindTensors inputs = .error e ∨ (∃ fields, c.bindTensors inputs = .ok fields) ∧
        (c.bindAttributes node.attributes = .error e ∨
          (∃ fields, c.bindAttributes node.attributes = .ok fields) ∧
            c.bindOutput outputs = .error e) := by
    rw [validate, bind]
    cases c.bindTensors inputs with
    | error e' => simp [TensorGraph.bind_eq_error_iff]
    | ok fields =>
      cases c.bindAttributes node.attributes with
      | error e' => simp [TensorGraph.bind_eq_error_iff]
      | ok attributes => simp [TensorGraph.bind_eq_error_iff, pure, Except.pure]
  simp only [refusals, firstFault_cons, not_firstFault_nil, and_false, or_false,
    ← bindTensors_eq_error_iff, ← bindAttributes_eq_error_iff, ← bindOutput_eq_error_iff]
  simp only [hstages, exists_ok_iff, ne_eq]

end Contract

/-! ## Lists of any length -/

section Variadic

variable {c : Contract} {name : String} {inputs : SlotTensors}

/-- A list of any length has a slot for each tensor. -/
theorem InputSlots.slots_variadic (name : String) (tensors : SlotTensors) :
    (variadic name).slots tensors.length = tensors.zipIdx.map fun p => (⟨name, false⟩, p.2) := by
  have hrange : tensors.zipIdx.map Prod.snd = List.range tensors.length := by
    rw [List.zipIdx_map_snd, List.range_eq_range']
  rw [slots, ← hrange, List.map_map]
  rfl

theorem SlotTensors.tensor?_of_mem_zipIdx {p : Option Tensor × Nat} (hp : p ∈ inputs.zipIdx) :
    inputs.tensor? p.2 = p.1 := by
  rw [tensor?, List.mem_zipIdx_iff_getElem?.1 hp]
  rfl

theorem SlotTensors.type?_of_mem_zipIdx {p : Option Tensor × Nat} (hp : p ∈ inputs.zipIdx) :
    inputs.type? p.2 = p.1.map fun tensor => tensor.info.elementType := by
  rw [type?, tensor?_of_mem_zipIdx hp]

namespace Contract

theorem bindTensors_of_variadic (hname : c.inputs = .variadic name) (hinputs : inputs ≠ []) :
    c.bindTensors inputs = inputs.zipIdx.mapM fun p =>
      TensorSlot.bind c.opType c.inputTypes inputs ⟨name, false⟩ p.2 := by
  rw [bindTensors_eq_mapM fun _ _ => hinputs, hname, InputSlots.slots_variadic, List.mapM_map]
  rfl

/-- The fields of a list of any length: each tensor in its own slot. -/
def fieldsOf (c : Contract) (name : String) (inputs : SlotTensors) : List (Option TensorField) :=
  inputs.zipIdx.map fun p => p.1.map fun tensor => ⟨p.2, name, c.inputTypes, false, tensor⟩

/-- **What it takes to bind a list of any length**: that there is a tensor, and that every slot has
one, of an allowed type.  No slot is lost then, and none changes its place. -/
theorem bindTensors_eq_ok_iff_of_variadic (hname : c.inputs = .variadic name)
    {fields : List (Option TensorField)} :
    c.bindTensors inputs = .ok fields ↔ inputs ≠ [] ∧
      (∀ t ∈ inputs, ∃ tensor, t = some tensor ∧
        tensor.info.elementType ∈ c.inputTypes.allowed) ∧ fields = c.fieldsOf name inputs := by
  by_cases hinputs : inputs = []
  · have herror : c.bindTensors inputs = .error (.missingInput c.opType 0 name) :=
      bindTensors_eq_error_iff.2 (.inl ⟨name, hname, hinputs, rfl⟩)
    rw [herror]
    simp [hinputs]
  · have hentry : ∀ p ∈ inputs.zipIdx, ∀ field,
        TensorSlot.bind c.opType c.inputTypes inputs ⟨name, false⟩ p.2 = .ok field ↔
          (∃ tensor, p.1 = some tensor ∧ tensor.info.elementType ∈ c.inputTypes.allowed) ∧
            field = p.1.map fun tensor => ⟨p.2, name, c.inputTypes, false, tensor⟩ := by
      intro p hp field
      rw [TensorSlot.bind_eq_ok_iff, SlotTensors.tensor?_of_mem_zipIdx hp]
      cases p.1 <;> simp
    have hall : (∀ p ∈ inputs.zipIdx, ∃ tensor, p.1 = some tensor ∧
        tensor.info.elementType ∈ c.inputTypes.allowed) ↔ ∀ t ∈ inputs, ∃ tensor,
          t = some tensor ∧ tensor.info.elementType ∈ c.inputTypes.allowed := by
      rw [List.forall_mem_zipIdx', List.forall_mem_iff_getElem]
    rw [bindTensors_of_variadic hname hinputs, mapM_eq_ok_iff_map hentry, hall,
      and_iff_right hinputs, fieldsOf]

theorem refusesInputs_iff_of_variadic (hname : c.inputs = .variadic name) {e : ContractError} :
    c.RefusesInputs inputs e ↔
      inputs = [] ∧ e = .missingInput c.opType 0 name ∨
        FirstFault (fun p e => TensorSlot.Refuses ⟨name, false⟩ c.opType c.inputTypes p.2
          (p.1.map fun tensor => tensor.info.elementType) e) inputs.zipIdx e := by
  have hslots : FirstFault (fun p e => p.1.Refuses c.opType c.inputTypes p.2 (inputs.type? p.2) e)
        (c.inputs.slots inputs.length) e ↔
      FirstFault (fun p e => TensorSlot.Refuses ⟨name, false⟩ c.opType c.inputTypes p.2
        (p.1.map fun tensor => tensor.info.elementType) e) inputs.zipIdx e := by
    rw [hname, InputSlots.slots_variadic, firstFault_map]
    refine firstFault_congr_of_mem fun p hp e => ?_
    rw [SlotTensors.type?_of_mem_zipIdx hp]
  rw [RefusesInputs, hslots]
  simp [hname]

end Contract

end Variadic

/-! ## Concatenation -/

namespace Catalog

/-- A version of `Concat`: the types it takes and gives, and whether it demands `axis`. -/
structure Concatenation where
  contract : Contract
  allowed : List ElementType
  demandsAxis : Bool
  deriving DecidableEq

/-- Both versions of `Concat`. -/
def concatenations : List Concatenation :=
  [⟨concatV1, ElementType.floats, false⟩, ⟨concatV4, ElementType.allButComplex, true⟩]

namespace Concatenation

variable {d : Concatenation}

/-- What is wrong with what is in a slot. -/
def SlotFault (d : Concatenation) (name : String) (index : Nat) :
    Option Tensor → ContractError → Prop
  | some tensor, e =>
    tensor.info.elementType ∉ d.allowed ∧
      e = .typeConstraint "Concat" index name tensor.info.elementType d.allowed
  | none, e => e = .missingInput "Concat" index name

/-- What is wrong with the input tensors. -/
def InputsFault (d : Concatenation) (inputs : SlotTensors) (e : ContractError) : Prop :=
  inputs = [] ∧ e = .missingInput "Concat" 0 "inputs" ∨
    FirstFault (fun p e => d.SlotFault "inputs" p.2 p.1 e) inputs.zipIdx e

/-- What is wrong with what stands under `axis`. -/
def AxisFault (d : Concatenation) : Option Attribute → ContractError → Prop
  | some value, e => value.kind ≠ .int ∧ e = .model (.attributeKind "axis" .int value.kind)
  | none, e => d.demandsAxis = true ∧ e = .model (.missingAttribute "Concat" "axis")

/-- The attribute that says along which dimension. -/
def axis (d : Concatenation) : AttributeSlot :=
  ⟨"axis", .int, if d.demandsAxis then .required else .withDefault (.int 1), false⟩

/-- The contract that is described: all slots are alike, and there is one attribute. -/
def described (d : Concatenation) : Contract where
  opType := "Concat"
  since := d.contract.since
  inputs := .variadic "inputs"
  inputTypes := typesT d.allowed
  attributes := [d.axis]
  outputTypes := typesT d.allowed
  retired := []

theorem contract_eq_of_mem : ∀ d ∈ concatenations, d.contract = d.described := by
  decide

theorem refuses_iff {name : String} {index : Nat} {found : Option Tensor} {e : ContractError} :
    TensorSlot.Refuses ⟨name, false⟩ "Concat" (typesT d.allowed) index
        (found.map fun tensor => tensor.info.elementType) e ↔
      d.SlotFault name index found e := by
  cases found with
  | none => exact and_iff_right rfl
  | some tensor => exact Iff.rfl

theorem refusesInputs_described {inputs : SlotTensors} {e : ContractError} :
    d.described.RefusesInputs inputs e ↔ d.InputsFault inputs e := by
  rw [Contract.refusesInputs_iff_of_variadic rfl, InputsFault]
  exact or_congr Iff.rfl (firstFault_congr fun _ _ => refuses_iff)

theorem refusesAttributes_described {attributes : Attributes} {e : ContractError} :
    d.described.RefusesAttributes attributes e ↔ d.AxisFault (attributes.get? "axis") e := by
  have haxis : d.described.RefusesAttributes attributes e ↔
      ∃ cause, e = .model cause ∧ d.axis.Refuses "Concat" (attributes.kind? "axis") cause :=
    exists_congr fun _ => and_congr_right fun _ => firstFault_singleton
  rw [haxis, Attributes.kind?]
  cases attributes.get? "axis" with
  | none => simp [AttributeSlot.Refuses, AxisFault, axis, and_comm]
  | some value =>
    simp [AttributeSlot.Refuses, AxisFault, axis, ValueKind.attributeKind, and_comm]

theorem refusesOutput_described {outputs : SlotTensors} {e : ContractError} :
    d.described.RefusesOutput outputs e ↔ d.SlotFault "output" 0 (outputs.tensor? 0) e :=
  refuses_iff

end Concatenation

/-- **A concatenation reports the first input at fault, and nothing else.**  Its inputs are bound if
there are any and each of them is a tensor of an allowed type, and then each in its own slot.
Otherwise a check fails with what is wrong in the first slot at fault, whatever is wrong with other
slots, with `axis` or with the output; if nothing is wrong with the inputs, it fails with what is
wrong with `axis`, and only then with what is wrong with the output. -/
theorem concat_reports_first_fault :
    concatenations.map Concatenation.contract =
      contracts.filter (fun c => c.opType == "Concat") ∧
    ∀ d ∈ concatenations, ∀ (node : Node) (inputs outputs : SlotTensors),
      (∀ fields, d.contract.bindTensors inputs = .ok fields ↔ inputs ≠ [] ∧
        (∀ t ∈ inputs, ∃ tensor, t = some tensor ∧ tensor.info.elementType ∈ d.allowed) ∧
        fields = inputs.zipIdx.map fun p => p.1.map fun tensor =>
          ⟨p.2, "inputs", ⟨"T", d.allowed⟩, false, tensor⟩) ∧
      ∀ e, d.contract.validate node inputs outputs = .error e ↔
        FirstFault (fun stage e => stage e)
          [d.InputsFault inputs, d.AxisFault (node.attributes.get? "axis"),
            d.SlotFault "output" 0 (outputs.tensor? 0)] e := by
  refine ⟨by decide, fun d hd node inputs outputs => ?_⟩
  rw [Concatenation.contract_eq_of_mem d hd]
  refine ⟨fun fields => Contract.bindTensors_eq_ok_iff_of_variadic rfl, fun e => ?_⟩
  simp only [Contract.validate_eq_error_iff, Contract.refusals, firstFault_cons,
    Concatenation.refusesInputs_described, Concatenation.refusesAttributes_described,
    Concatenation.refusesOutput_described]

/-- Calls with more than one fault: the gap in slot 1 comes before the type of the tensor in slot 2,
that type before a gap behind it, and both before `axis`, which is a text here; the output is
missing throughout. -/
theorem concat_reports_first_fault_of_many :
    let released (elementType : ElementType) : Option Tensor :=
      some ⟨⟨elementType, ⟨[2]⟩⟩, .big, none⟩
    let node : Node := { Node.ofType "Concat" with
      attributes := .insert .empty "axis" (.string "rows") }
    concatV1.validate node [released .double, none, released .int64] [] =
      .error (.missingInput "Concat" 1 "inputs") ∧
    concatV4.validate node [released .int64, released .complex64, none] [] =
      .error (.typeConstraint "Concat" 1 "inputs" .complex64 ElementType.allButComplex) ∧
    concatV4.validate node [released .int64] [] =
      .error (.model (.attributeKind "axis" .int .string)) ∧
    ∃ fields, concatV4.bindTensors [released .int64, released .bool] = .ok fields ∧
      fields.map (fun field => field.map TensorField.slot) = [some 0, some 1] := by
  intro released node
  have hv1 := concat_reports_first_fault.2 ⟨concatV1, ElementType.floats, false⟩ (by decide) node
  have hv4 := concat_reports_first_fault.2 ⟨concatV4, ElementType.allButComplex, true⟩ (by decide)
    node
  refine ⟨((hv1 _ _).2 _).2 ?_, ((hv4 _ _).2 _).2 ?_, ((hv4 _ _).2 _).2 ?_, ?_⟩
  · refine ⟨[], _, _, rfl, by simp, .inr ⟨[(released .double, 0)], _, _, rfl, ?_, rfl⟩⟩
    simp [Concatenation.SlotFault, released, ElementType.floats]
  · refine ⟨[], _, _, rfl, by simp, .inr ⟨[(released .int64, 0)], _, _, rfl, ?_, ?_⟩⟩
    · simp [Concatenation.SlotFault, released, ElementType.allButComplex]
    · exact ⟨by decide, rfl⟩
  · refine ⟨[_], _, _, rfl, ?_, by decide, rfl⟩
    simp [Concatenation.InputsFault, firstFault_singleton, Concatenation.SlotFault, released,
      ElementType.allButComplex]
  · refine ⟨_, ((hv4 _ []).1 _).2 ⟨List.cons_ne_nil _ _, ?_, rfl⟩, rfl⟩
    simp [released, ElementType.allButComplex]

end Catalog

end TensorGraph
