import TensorGraph.Operator.Contract

/-!
# Upgrades

A bundle of one version of an operator is brought to the next without going back to the node.  How
that is done is written down for every pair of versions: an `Upgrade` says under which constraint a
tensor is bound again, which slots are new, and what becomes of the field of an attribute.  It has
names, constraints, defaults and flags of its own and takes none of them from the contract of the
later version, so whether the two agree is a question about each single upgrade.
-/

set_option autoImplicit false

namespace TensorGraph

/-! ## Tensors -/

/-- How one slot of the later version is filled. -/
inductive TensorStep where
  /-- The tensor in a place of the earlier bundle is bound again. -/
  | again (place : Nat) (constraint : TypeConstraint)
  /-- A slot that is new, and may be empty, is bound. -/
  | added (slot : Nat) (name : String) (constraint : TypeConstraint)
  deriving DecidableEq, Repr

/-- How the slots of the later version are filled: each in its own way, or as many as there are by
binding every tensor again. -/
inductive TensorSteps where
  | fixed (steps : List TensorStep)
  | variadic (constraint : TypeConstraint)
  deriving DecidableEq, Repr

/-- Fills a slot.  The slots that are new come behind those of the earlier bundle. -/
def TensorStep.apply (opType : String) (b : Bundle) (added : SlotTensors) :
    TensorStep → Except ContractError (Option TensorField)
  | again place constraint => TensorField.constrain? opType constraint b.tensors[place]?.join
  | .added slot name constraint =>
    TensorField.optional opType (b.slotTensors ++ added) slot name constraint

/-- Fills the slots. -/
def TensorSteps.apply (opType : String) (b : Bundle) (added : SlotTensors) :
    TensorSteps → Except ContractError (List (Option TensorField))
  | fixed steps => steps.mapM (TensorStep.apply opType b added)
  | variadic constraint => b.tensors.mapM (TensorField.constrain? opType constraint)

/-! ## Attributes -/

/-- What becomes of the field of an attribute. -/
inductive FieldChange where
  /-- It stays what it is. -/
  | keep
  /-- It stays, and where there is none, there is a default from now on. -/
  | orElse (default : AttributeField)
  /-- Its value stays, but not whether it has to be given and whether it was. -/
  | relabel (isRequired isExplicit : Bool)
  /-- The name of a type becomes its code; the field is given if it was. -/
  | encode (name : String) (isRequired : Bool)
  deriving DecidableEq, Repr

/-- Makes the field of the later version out of that of the attribute with the given name. -/
def FieldChange.apply (name : String) (field : Option AttributeField) :
    FieldChange → Except Error (Option AttributeField)
  | keep => .ok field
  | orElse default => .ok (some (field.getD default))
  | relabel isRequired isExplicit => .ok (field.map fun f => { f with isRequired, isExplicit })
  | encode newName isRequired =>
    match field with
    | some f => do
      return some ⟨newName, isRequired, .int (← f.value.target name).targetCode, f.isExplicit⟩
    | none => .ok none

/-- An attribute that is taken over, by its name in the earlier version. -/
structure AttributeStep where
  name : String
  change : FieldChange
  deriving DecidableEq, Repr

/-- Takes an attribute over from a bundle. -/
def AttributeStep.apply (b : Bundle) (step : AttributeStep) :
    Except Error (Option AttributeField) :=
  step.change.apply step.name (b.attribute? step.name)

/-! ## Upgrades -/

/-- The way from one version of an operator to the next. -/
structure Upgrade where
  /-- The operator that errors speak of. -/
  opType : String
  earlier : Contract
  later : Contract
  tensors : TensorSteps
  attributes : List AttributeStep
  deriving DecidableEq, Repr

/-- The bundle of the earlier version as one of the later; slots that are new are bound to the
`added` tensors.  A type whose name is unknown is found before a tensor is looked at. -/
def Upgrade.apply (u : Upgrade) (b : Bundle) (added : SlotTensors) :
    Except ContractError Bundle := do
  let attributes ← (u.attributes.mapM (AttributeStep.apply b)).mapError ContractError.model
  let tensors ← u.tensors.apply u.opType b added
  return ⟨u.later, tensors, attributes⟩

end TensorGraph
