import TensorGraph.Operator.Field
import TensorGraph.Operator.Target

/-!
# Contracts

What an operator takes and gives changes from version to version.  One version of it is described
by a `Contract`, which is nothing but data: the slots for tensors and the types they allow, the
attributes with their kinds, the types of the output, and the attributes that earlier versions had
and this one has not.

`Contract.bind` takes what a node and the tensors at hand offer and makes a `Bundle` of fields, or
says what is wrong; it looks at nothing that the contract does not mention.
-/

set_option autoImplicit false

namespace TensorGraph

/-! ## The data -/

/-- A slot for one tensor. -/
structure TensorSlot where
  name : String
  isOptional : Bool
  deriving DecidableEq, Repr

/-- The slots of an operator: a fixed list, or as many of one name as there are tensors. -/
inductive InputSlots where
  | fixed (slots : List TensorSlot)
  | variadic (name : String)
  deriving DecidableEq, Repr

/-- Whether an attribute has to be given, and what stands in for it if it is not. -/
inductive Presence where
  | required
  | optional
  | withDefault (value : Attribute)
  deriving DecidableEq, Repr

/-- An attribute of an operator. -/
structure AttributeSlot where
  name : String
  kind : ValueKind
  presence : Presence
  /-- Whether the value stands for an element type. -/
  namesType : Bool := false
  deriving DecidableEq, Repr

/-- An attribute that an operator has no longer, and the version that took it away. -/
structure RetiredAttribute where
  name : String
  since : Int64
  deriving DecidableEq, Repr

/-- One version of an operator. -/
structure Contract where
  opType : String
  /-- The first version of the operator set that the contract is part of. -/
  since : Int64
  inputs : InputSlots
  /-- The types that every input slot allows. -/
  inputTypes : TypeConstraint
  attributes : List AttributeSlot
  /-- The types that the output allows. -/
  outputTypes : TypeConstraint
  retired : List RetiredAttribute
  deriving DecidableEq, Repr

/-- The fields of a node under one version of its operator.  A tensor or attribute that is left
out has no field. -/
structure Bundle where
  contract : Contract
  tensors : List (Option TensorField)
  attributes : List (Option AttributeField)
  deriving DecidableEq, Repr

/-! ## Binding -/

/-- Binds the tensor in a slot. -/
def TensorSlot.bind (opType : String) (constraint : TypeConstraint) (tensors : SlotTensors)
    (slot : TensorSlot) (index : Nat) : Except ContractError (Option TensorField) :=
  if slot.isOptional then TensorField.optional opType tensors index slot.name constraint
  else do return some (← TensorField.required opType tensors index slot.name constraint)

/-- The fixed slots from a number on, with their numbers. -/
def InputSlots.fixedFrom (inputs : InputSlots) (start : Nat) : List (TensorSlot × Nat) :=
  match inputs with
  | .fixed slots => slots.zipIdx.drop start
  | .variadic _ => []

/-- Binds the attribute of a node. -/
def AttributeSlot.bind (opType : String) (attributes : Attributes) (slot : AttributeSlot) :
    Except Error (Option AttributeField) :=
  match slot.presence with
  | .required => do
    return some (← AttributeField.required opType attributes slot.name slot.kind)
  | .optional => AttributeField.optional attributes slot.name slot.kind
  | .withDefault default => do
    return some (← AttributeField.withDefault attributes slot.name slot.kind default)

namespace Contract

/-- Binds the input tensors. -/
def bindTensors (c : Contract) (tensors : SlotTensors) :
    Except ContractError (List (Option TensorField)) :=
  match c.inputs with
  | .fixed _ => (c.inputs.fixedFrom 0).mapM fun p => p.1.bind c.opType c.inputTypes tensors p.2
  | .variadic name => do
    return (← TensorField.variadic c.opType tensors name c.inputTypes).map some

/-- Binds the attributes. -/
def bindAttributes (c : Contract) (attributes : Attributes) :
    Except ContractError (List (Option AttributeField)) :=
  (c.attributes.mapM (AttributeSlot.bind c.opType attributes)).mapError .model

/-- Binds the input tensors, then the attributes. -/
def bind (c : Contract) (node : Node) (tensors : SlotTensors) : Except ContractError Bundle := do
  let fields ← c.bindTensors tensors
  let attributes ← c.bindAttributes node.attributes
  return ⟨c, fields, attributes⟩

/-- Binds the one output. -/
def bindOutput (c : Contract) (tensors : SlotTensors) : Except ContractError TensorField :=
  TensorField.required c.opType tensors 0 "output" c.outputTypes

/-- Checks a node with its input and output tensors. -/
def validate (c : Contract) (node : Node) (inputs outputs : SlotTensors) :
    Except ContractError Unit := do
  let _ ← c.bind node inputs
  let _ ← c.bindOutput outputs
  return ()

/-- What asking for an attribute that the operator has no longer comes to. -/
def retiredError (c : Contract) (attr : RetiredAttribute) : ContractError :=
  .deprecated c.opType attr.name attr.since

end Contract

/-! ## Bundles -/

namespace Bundle

/-- The field of an attribute. -/
def attribute? (b : Bundle) (name : String) : Option AttributeField :=
  (b.attributes.filterMap id).find? fun f => f.name == name

/-- The tensors that are bound, by slot. -/
def slotTensors (b : Bundle) : SlotTensors := b.tensors.map fun f => f.map TensorField.tensor

/-- The element type that the operator converts to, if it is one that converts. -/
def target? (b : Bundle) : Option (Except Error ElementType) :=
  (b.contract.attributes.find? AttributeSlot.namesType).bind fun slot =>
    (b.attribute? slot.name).map fun field => field.value.target slot.name

end Bundle

end TensorGraph
