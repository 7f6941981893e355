import TensorGraph.Node
import TensorGraph.Operator.ContractError

/-!
# Fields

To use an operator is to bind tensors to its slots and values to its attributes.  A bound tensor is
a `TensorField`, and it has passed the type constraint that the field carries; a bound attribute is
an `AttributeField`, which remembers whether its value was given or is a default.

The tensors at hand are a list with a gap wherever a slot is left empty, and a slot behind the end
of the list is empty as well.
-/

set_option autoImplicit false

namespace TensorGraph

/-! ## Type constraints -/

/-- The element types that a slot allows, under the name that the operator's documentation uses. -/
structure TypeConstraint where
  name : String
  allowed : List ElementType
  deriving DecidableEq, Repr

/-! ## Tensors -/

/-- Tensors by slot; none where a slot is left empty. -/
abbrev SlotTensors := List (Option Tensor)

/-- The tensor in a slot. -/
def SlotTensors.tensor? (tensors : SlotTensors) (slot : Nat) : Option Tensor :=
  tensors[slot]?.join

/-- A tensor bound to a slot. -/
structure TensorField where
  slot : Nat
  name : String
  constraint : TypeConstraint
  isOptional : Bool
  tensor : Tensor
  deriving DecidableEq, Repr

namespace TensorField

/-- Binds a tensor if its type is allowed. -/
def bind (opType : String) (tensor : Tensor) (slot : Nat) (name : String)
    (constraint : TypeConstraint) (isOptional : Bool) : Except ContractError TensorField :=
  if constraint.allowed.contains tensor.info.elementType then
    .ok ⟨slot, name, constraint, isOptional, tensor⟩
  else
    .error (.typeConstraint opType slot name tensor.info.elementType constraint.allowed)

/-- Binds the tensor in a slot that has to be filled. -/
def required (opType : String) (tensors : SlotTensors) (slot : Nat) (name : String)
    (constraint : TypeConstraint) : Except ContractError TensorField :=
  match tensors.tensor? slot with
  | some tensor => bind opType tensor slot name constraint false
  | none => .error (.missingInput opType slot name)

/-- Binds the tensor in a slot that may be empty. -/
def optional (opType : String) (tensors : SlotTensors) (slot : Nat) (name : String)
    (constraint : TypeConstraint) : Except ContractError (Option TensorField) :=
  match tensors.tensor? slot with
  | some tensor => do return some (← bind opType tensor slot name constraint true)
  | none => .ok none

/-- Binds the tensors of all slots, of which there has to be one and none may be empty. -/
def variadic (opType : String) (tensors : SlotTensors) (name : String)
    (constraint : TypeConstraint) : Except ContractError (List TensorField) :=
  if tensors = [] then .error (.missingInput opType 0 name)
  else (List.range tensors.length).mapM fun slot => required opType tensors slot name constraint

/-- Binds the tensor of a field again, under another constraint. -/
def constrain (opType : String) (field : TensorField) (constraint : TypeConstraint) :
    Except ContractError TensorField :=
  bind opType field.tensor field.slot field.name constraint field.isOptional

/-- Binds the tensor of a slot again, if there is one. -/
def constrain? (opType : String) (constraint : TypeConstraint) :
    Option TensorField → Except ContractError (Option TensorField)
  | some field => do return some (← constrain opType field constraint)
  | none => return none

end TensorField

/-! ## Attributes -/

/-- A value bound to an attribute. -/
structure AttributeField where
  name : String
  /-- Whether the attribute has to be given. -/
  isRequired : Bool
  value : Attribute
  /-- Whether the value was given, and is not a default. -/
  isExplicit : Bool
  deriving DecidableEq, Repr

namespace AttributeField

/-- Binds an attribute for which a default stands in. -/
def withDefault (attributes : Attributes) (name : String) (kind : ValueKind)
    (default : Attribute) : Except Error AttributeField := do
  match ← attributes.read name kind with
  | some value => return ⟨name, false, value, true⟩
  | none => return ⟨name, false, default, false⟩

/-- Binds an attribute that may be missing. -/
def optional (attributes : Attributes) (name : String) (kind : ValueKind) :
    Except Error (Option AttributeField) := do
  match ← attributes.read name kind with
  | some value => return some ⟨name, false, value, true⟩
  | none => return none

/-- Binds an attribute that has to be given. -/
def required (opType : String) (attributes : Attributes) (name : String) (kind : ValueKind) :
    Except Error AttributeField := do
  match ← attributes.read name kind with
  | some value => return ⟨name, true, value, true⟩
  | none => throw (.missingAttribute opType name)

end AttributeField

end TensorGraph
