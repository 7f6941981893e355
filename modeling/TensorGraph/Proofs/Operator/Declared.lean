import TensorGraph.Operator.Catalog
import TensorGraph.Proofs.Operator.Binding
import TensorGraph.Proofs.TwoRuns

/-!
# What a version of an operator looks at

A check of a node sees less of it than there is: of an attribute only whether it is there and of
which kind, of a tensor only whether it is there and its element type, and of both only those that
the version declares.  That the rest does not matter is a statement about two checks
(`Contract.validate_congr`): they come out the same if they agree on what is declared
(`Declaration.Agree`).

It is proved along the check.  Reading an attribute, binding a slot, and going through all of them
fail alike in both runs, with the same error, and no further step looks into the fields that come
back.  What is declared is looked at, on the other hand: `Contract.validate_eq_ok_iff` says of it
what a check demands (`Contract.Accepts`).  `Catalog.declarations` writes out what each version
declares, and `Catalog.reads_only_declared` holds every contract to it.
-/

set_option autoImplicit false

namespace TensorGraph

/-! ## Attributes -/

/-- Whether there is an attribute of the name, and of which kind it is. -/
def Attributes.kind? (attributes : Attributes) (name : String) : Option AttributeKind :=
  (attributes.get? name).map Attribute.kind

section Attributes

variable {attributes attributes' : Attributes} {name : String}

theorem Attributes.alike_read (h : attributes.kind? name = attributes'.kind? name)
    (kind : ValueKind) :
    Alike Eq (fun found found' => found.isSome = found'.isSome) (attributes.read name kind)
      (attributes'.read name kind) := by
  rw [kind?, kind?] at h
  rw [read, read]
  cases hget : attributes.get? name with
  | none =>
    rw [hget, Option.map_none, eq_comm, Option.map_eq_none_iff] at h
    rw [h]
    exact .ok rfl
  | some a =>
    rw [hget, Option.map_some, eq_comm, Option.map_eq_some_iff] at h
    obtain ⟨a', hget', hkind⟩ := h
    simp only [hget', hkind]
    split
    · exact .ok rfl
    · exact .error rfl

theorem AttributeSlot.failAlike_fill (opType : String) (slot : AttributeSlot)
    {found found' : Option Attribute} (h : found.isSome = found'.isSome) :
    FailAlike (slot.fill opType found) (slot.fill opType found') := by
  cases found with
  | none =>
    rw [Option.isNone_iff_eq_none.1 (Option.isSome_eq_false_iff.1 h.symm)]
    exact .refl _ fun _ => trivial
  | some a =>
    obtain ⟨a', rfl⟩ := Option.isSome_iff_exists.1 h.symm
    exact .ok trivial

theorem AttributeSlot.failAlike_bind {slot : AttributeSlot} (opType : String)
    (h : attributes.kind? slot.name = attributes'.kind? slot.name) :
    FailAlike (slot.bind opType attributes) (slot.bind opType attributes') := by
  rw [bind_eq, bind_eq]
  exact (Attributes.alike_read h slot.kind).bind fun _ _ => slot.failAlike_fill opType

end Attributes

/-! ## Tensors -/

/-- Whether there is a tensor in the slot, and of which type it is. -/
def SlotTensors.type? (tensors : SlotTensors) (slot : Nat) : Option ElementType :=
  (tensors.tensor? slot).map fun t => t.info.elementType

/-- The types of all tensors at hand, and the gaps between them. -/
def SlotTensors.types (tensors : SlotTensors) : List (Option ElementType) :=
  tensors.map fun t => t.map fun t => t.info.elementType

section Tensors

variable {tensors tensors' : SlotTensors} {index : Nat} {opType : String}
  {constraint : TypeConstraint}

theorem SlotTensors.type?_eq (tensors : SlotTensors) (index : Nat) :
    tensors.type? index = tensors.types[index]?.join := by
  rw [type?, types, tensor?, List.getElem?_map]
  cases tensors[index]? <;> rfl

theorem TensorField.failAlike_bind {tensor tensor' : Tensor}
    (h : tensor.info.elementType = tensor'.info.elementType) (name : String) (isOptional : Bool) :
    FailAlike (bind opType tensor index name constraint isOptional)
      (bind opType tensor' index name constraint isOptional) := by
  rw [bind, bind, h]
  split
  · exact .ok trivial
  · exact .error rfl

/-- A slot is empty in both runs, or there are tensors of one type in it. -/
theorem SlotTensors.tensors_of_type?_eq (h : tensors.type? index = tensors'.type? index) :
    tensors.tensor? index = none ∧ tensors'.tensor? index = none ∨
      ∃ t t', tensors.tensor? index = some t ∧ tensors'.tensor? index = some t' ∧
        t.info.elementType = t'.info.elementType := by
  rw [type?, type?] at h
  cases ht : tensors.tensor? index with
  | none =>
    rw [ht, Option.map_none, eq_comm, Option.map_eq_none_iff] at h
    exact .inl ⟨rfl, h⟩
  | some t =>
    rw [ht, Option.map_some, eq_comm, Option.map_eq_some_iff] at h
    obtain ⟨t', ht', htype⟩ := h
    exact .inr ⟨t, t', rfl, ht', htype.symm⟩

theorem TensorField.failAlike_required (h : tensors.type? index = tensors'.type? index)
    (name : String) :
    FailAlike (required opType tensors index name constraint)
      (required opType tensors' index name constraint) := by
  rw [required, required]
  rcases SlotTensors.tensors_of_type?_eq h with ⟨ht, ht'⟩ | ⟨t, t', ht, ht', htype⟩
  · rw [ht, ht']
    exact .error rfl
  · rw [ht, ht']
    exact failAlike_bind htype name false

theorem TensorField.failAlike_optional (h : tensors.type? index = tensors'.type? index)
    (name : String) :
    FailAlike (optional opType tensors index name constraint)
      (optional opType tensors' index name constraint) := by
  rw [optional, optional]
  rcases SlotTensors.tensors_of_type?_eq h with ⟨ht, ht'⟩ | ⟨t, t', ht, ht', htype⟩
  · rw [ht, ht']
    exact .ok trivial
  · rw [ht, ht']
    exact (failAlike_bind htype name true).map fun _ _ _ => trivial

theorem TensorSlot.failAlike_bind (slot : TensorSlot)
    (h : tensors.type? index = tensors'.type? index) :
    FailAlike (slot.bind opType constraint tensors index)
      (slot.bind opType constraint tensors' index) := by
  rw [bind, bind]
  split
  · exact TensorField.failAlike_optional h slot.name
  · exact (TensorField.failAlike_required h slot.name).map fun _ _ _ => trivial

theorem TensorField.failAlike_variadic (h : tensors.types = tensors'.types) (name : String) :
    FailAlike (variadic opType tensors name constraint)
      (variadic opType tensors' name constraint) := by
  have hlength : tensors.length = tensors'.length := by
    simpa [SlotTensors.types] using congrArg List.length h
  have hnil : tensors = [] ↔ tensors' = [] := by
    rw [← List.length_eq_zero_iff, ← List.length_eq_zero_iff, hlength]
  simp only [variadic, hnil, hlength]
  split
  · exact .error rfl
  · refine .mapM fun index _ => failAlike_required ?_ name
    rw [SlotTensors.type?_eq, SlotTensors.type?_eq, h]

end Tensors

/-! ## Acceptance -/

/-- What may stand under the name of an attribute. -/
def AttributeSlot.Admits (slot : AttributeSlot) : Option AttributeKind → Prop
  | some kind => kind = slot.kind
  | none => slot.presence ≠ .required

/-- What may stand in a slot. -/
def TensorSlot.Admits (slot : TensorSlot) (constraint : TypeConstraint) :
    Option ElementType → Prop
  | some elementType => elementType ∈ constraint.allowed
  | none => slot.isOptional = true

theorem AttributeSlot.exists_bind_iff (slot : AttributeSlot) (opType : String)
    (attributes : Attributes) :
    (∃ field, slot.bind opType attributes = .ok field) ↔
      slot.Admits (attributes.kind? slot.name) := by
  rw [bind_eq, Attributes.read, Attributes.kind?]
  cases attributes.get? slot.name with
  | none =>
    rw [Option.map_none, Admits]
    show (∃ field, slot.fill opType none = .ok field) ↔ _
    rw [fill]
    cases slot.presence <;> simp
  | some a =>
    rw [Option.map_some, Admits]
    by_cases hkind : a.kind = slot.kind
    · simp [hkind, bind_eq_ok_iff, fill]
    · simp [hkind, bind_eq_ok_iff]

theorem TensorSlot.exists_bind_iff (slot : TensorSlot) (opType : String)
    (constraint : TypeConstraint) (tensors : SlotTensors) (index : Nat) :
    (∃ field, slot.bind opType constraint tensors index = .ok field) ↔
      slot.Admits constraint (tensors.type? index) := by
  rw [SlotTensors.type?]
  cases htensor : tensors.tensor? index with
  | none => simp [TensorSlot.bind_eq_ok_iff, htensor, Admits]
  | some tensor => simp [TensorSlot.bind_eq_ok_iff, htensor, Admits]

/-! ## Contracts -/

/-- What an operator declares that it looks at, besides its one output. -/
structure Declaration where
  /-- The names of the attributes. -/
  attributes : List String
  /-- The number of input slots; none if all of them count, however many there are. -/
  slotCount? : Option Nat
  deriving DecidableEq, Repr

/-- Two calls agree on what is declared. -/
structure Declaration.Agree (d : Declaration) (node : Node) (inputs outputs : SlotTensors)
    (node' : Node) (inputs' outputs' : SlotTensors) : Prop where
  attributes : ∀ name ∈ d.attributes, node.attributes.kind? name = node'.attributes.kind? name
  inputs : match d.slotCount? with
    | some count => ∀ slot < count, inputs.type? slot = inputs'.type? slot
    | none => inputs.types = inputs'.types
  output : outputs.type? 0 = outputs'.type? 0

namespace Contract

variable {c : Contract} {node node' : Node} {inputs inputs' outputs outputs' : SlotTensors}

/-- What the data of a contract amount to. -/
def declaration (c : Contract) : Declaration :=
  ⟨c.attributes.map AttributeSlot.name, c.inputs.count?⟩

theorem failAlike_bindTensors (h : c.declaration.Agree node inputs outputs node' inputs' outputs') :
    FailAlike (c.bindTensors inputs) (c.bindTensors inputs') := by
  have htypes := h.inputs
  simp only [declaration] at htypes
  rw [bindTensors, bindTensors]
  cases hslots : c.inputs with
  | fixed slots =>
    simp only [hslots, InputSlots.count?] at htypes
    refine .mapM fun p hp => p.1.failAlike_bind (htypes p.2 ?_)
    rw [InputSlots.fixedFrom, List.drop_zero] at hp
    simpa using List.snd_lt_of_mem_zipIdx hp
  | variadic name =>
    simp only [hslots, InputSlots.count?] at htypes
    exact (TensorField.failAlike_variadic htypes name).map fun _ _ _ => trivial

theorem failAlike_bindAttributes
    (h : c.declaration.Agree node inputs outputs node' inputs' outputs') :
    FailAlike (c.bindAttributes node.attributes) (c.bindAttributes node'.attributes) := by
  rw [bindAttributes, bindAttributes]
  refine Alike.mapError (FailAlike.mapM fun slot hslot => ?_) _
  exact AttributeSlot.failAlike_bind c.opType
    (h.attributes slot.name (List.mem_map_of_mem hslot))

/-- **Two checks that agree on what a contract declares come out the same.** -/
theorem validate_congr
    (h : c.declaration.Agree node inputs outputs node' inputs' outputs') :
    c.validate node inputs outputs = c.validate node' inputs' outputs' := by
  have hbind : FailAlike (c.bind node inputs) (c.bind node' inputs') := by
    rw [bind, bind]
    exact (failAlike_bindTensors h).bind fun _ _ _ =>
      (failAlike_bindAttributes h).map fun _ _ _ => trivial
  have houtput : FailAlike (c.bindOutput outputs) (c.bindOutput outputs') :=
    TensorField.failAlike_required h.output "output"
  rw [validate, validate]
  exact (hbind.bind fun _ _ _ => houtput.bind fun _ _ _ => .ok rfl).eq

/-- A node keeps a contract: all that is declared is there and as it has to be. -/
structure Accepts (c : Contract) (node : Node) (inputs outputs : SlotTensors) : Prop where
  nonempty : ∀ name, c.inputs = .variadic name → inputs ≠ []
  inputs : ∀ p ∈ c.inputs.slots inputs.length, p.1.Admits c.inputTypes (inputs.type? p.2)
  attributes : ∀ slot ∈ c.attributes, slot.Admits (node.attributes.kind? slot.name)
  output : ∃ elementType ∈ c.outputTypes.allowed, outputs.type? 0 = some elementType

theorem exists_bindTensors_iff :
    (∃ fields, c.bindTensors inputs = .ok fields) ↔
      (∀ name, c.inputs = .variadic name → inputs ≠ []) ∧
        ∀ p ∈ c.inputs.slots inputs.length, p.1.Admits c.inputTypes (inputs.type? p.2) := by
  constructor
  · rintro ⟨fields, h⟩
    obtain ⟨hne, -⟩ := boundSlots_of_bindTensors h
    rw [bindTensors_eq_mapM hne] at h
    refine ⟨hne, fun p hp => ?_⟩
    rw [← TensorSlot.exists_bind_iff]
    exact exists_mapM_iff.1 ⟨fields, h⟩ p hp
  · rintro ⟨hne, h⟩
    rw [bindTensors_eq_mapM hne]
    exact exists_mapM_iff.2 fun p hp => (TensorSlot.exists_bind_iff _ _ _ _ _).2 (h p hp)

theorem exists_bindAttributes_iff :
    (∃ fields, c.bindAttributes node.attributes = .ok fields) ↔
      ∀ slot ∈ c.attributes, slot.Admits (node.attributes.kind? slot.name) := by
  simp only [bindAttributes, mapError_eq_ok_iff, exists_mapM_iff]
  exact forall₂_congr fun slot _ => AttributeSlot.exists_bind_iff slot _ _

theorem exists_bindOutput_iff :
    (∃ field, c.bindOutput outputs = .ok field) ↔
      ∃ elementType ∈ c.outputTypes.allowed, outputs.type? 0 = some elementType := by
  rw [bindOutput, TensorField.required, SlotTensors.type?]
  cases outputs.tensor? 0 with
  | none => simp
  | some tensor => simp [TensorField.bind_eq_ok_iff]

/-- **What it takes to pass a check.** -/
theorem validate_eq_ok_iff :
    c.validate node inputs outputs = .ok () ↔ c.Accepts node inputs outputs := by
  have hparts : c.validate node inputs outputs = .ok () ↔
      (∃ fields, c.bindTensors inputs = .ok fields) ∧
        (∃ fields, c.bindAttributes node.attributes = .ok fields) ∧
          ∃ field, c.bindOutput outputs = .ok field := by
    rw [validate, bind]
    cases c.bindTensors inputs with
    | error e => simp [bind_eq_ok_iff]
    | ok fields => simp [bind_eq_ok_iff, pure, Except.pure]
  rw [hparts, exists_bindTensors_iff, exists_bindAttributes_iff, exists_bindOutput_iff]
  constructor
  · rintro ⟨⟨hne, hinputs⟩, hattributes, houtput⟩
    exact ⟨hne, hinputs, hattributes, houtput⟩
  · rintro ⟨hne, hinputs, hattributes, houtput⟩
    exact ⟨⟨hne, hinputs⟩, hattributes, houtput⟩

end Contract

/-! ## The catalogue -/

namespace Catalog

/-- What each version of each operator declares. -/
def declarations : List (Contract × Declaration) :=
  [(addV1, ⟨["broadcast", "axis", "consumed_inputs"], some 2⟩),
    (addV6, ⟨["broadcast", "axis"], some 2⟩),
    (addV7, ⟨[], some 2⟩),
    (addV14, ⟨[], some 2⟩),
    (castV1, ⟨["to"], some 1⟩),
    (castV6, ⟨["to"], some 1⟩),
    (clipV1, ⟨["min", "max", "consumed_inputs"], some 1⟩),
    (clipV6, ⟨["min", "max"], some 1⟩),
    (clipV11, ⟨[], some 3⟩),
    (clipV12, ⟨[], some 3⟩),
    (concatV1, ⟨["axis"], none⟩),
    (concatV4, ⟨["axis"], none⟩),
    (reluV1, ⟨["consumed_inputs"], some 1⟩),
    (reluV6, ⟨[], some 1⟩),
    (reluV14, ⟨[], some 1⟩)]

theorem declaration_of_mem : ∀ p ∈ declarations, p.1.declaration = p.2 := by decide

/-- **Every version of an operator looks at what it declares, and at nothing else.**  A check is
passed exactly if all that is declared is there and as it has to be.  Attributes that are not
declared, or no longer, values of attributes, tensors behind the declared slots, and of a tensor all
but its type may differ between two checks, and so may all names; they come out the same, with the
same error if there is one. -/
theorem reads_only_declared :
    declarations.map Prod.fst = contracts ∧
    ∀ p ∈ declarations,
      (∀ node inputs outputs,
        p.1.validate node inputs outputs = .ok () ↔ p.1.Accepts node inputs outputs) ∧
      ∀ node node' inputs inputs' outputs outputs',
        p.2.Agree node inputs outputs node' inputs' outputs' →
          p.1.validate node inputs outputs = p.1.validate node' inputs' outputs' := by
  refine ⟨rfl, fun p hp => ⟨fun node inputs outputs => Contract.validate_eq_ok_iff, ?_⟩⟩
  intro node node' inputs inputs' outputs outputs' h
  rw [← declaration_of_mem p hp] at h
  exact Contract.validate_congr h

/-- Two checks that have little in common: `clipV11` accepts both, as its bounds are attributes no
longer and its last slot is empty in both, and `addV1` rejects both, as `axis` is a text in both. -/
theorem reads_only_declared_leftovers :
    let released (elementType : ElementType) (dims : List Nat) : Option Tensor :=
      some ⟨⟨elementType, ⟨dims⟩⟩, .big, none⟩
    let node : Node := { Node.ofType "Clip" with
      name := "bounds"
      attributes := .insert (.insert .empty "min" .null) "axis" (.string "first") }
    let node' : Node := { Node.ofType "Relu" with
      attributes := .insert .empty "axis" (.string "last") }
    let tensors := [released .float [2, 3], released .float [1], none, released .string []]
    let tensors' := [released .float [], released .float [4]]
    clipV11.validate node tensors tensors = .ok () ∧
    clipV11.validate node tensors tensors = clipV11.validate node' tensors' tensors' ∧
    addV1.validate node tensors tensors = .error (.model (.attributeKind "axis" .int .string)) ∧
    addV1.validate node tensors tensors = addV1.validate node' tensors' tensors' := by
  intro released node node' tensors tensors'
  obtain ⟨haccepts, hclip⟩ := reads_only_declared.2 (clipV11, ⟨[], some 3⟩) (by decide)
  obtain ⟨-, hadd⟩ := reads_only_declared.2
    (addV1, ⟨["broadcast", "axis", "consumed_inputs"], some 2⟩) (by decide)
  refine ⟨(haccepts _ _ _).2 ⟨nofun, ?_, nofun, .float, by decide, rfl⟩, ?_, rfl, ?_⟩
  · show ∀ p ∈ [(needed "input", 0), (possible "min", 1), (possible "max", 2)], _
    simp [TensorSlot.Admits, SlotTensors.type?, SlotTensors.tensor?, tensors, released, possible,
      clipV11, typesT, ElementType.floats]
  · exact hclip _ _ _ _ _ _ ⟨nofun, by decide, rfl⟩
  · exact hadd _ _ _ _ _ _ ⟨by decide, by decide, rfl⟩

end Catalog

end TensorGraph
