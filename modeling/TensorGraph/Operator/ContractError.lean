import TensorGraph.Error

/-!
# Broken contracts

A node that is used with tensors it cannot be used with breaks its operator's contract.  That is
kept apart from a malformed model: a tensor of a type that the operator does not take is one thing,
an attribute that is missing or of the wrong kind another, and the latter is an error of the model.
-/

set_option autoImplicit false

namespace TensorGraph

/-- How a node breaks the contract of its operator. -/
inductive ContractError where
  /-- A tensor of a type that its slot does not allow. -/
  | typeConstraint (opType : String) (slot : Nat) (name : String) (actual : ElementType)
    (allowed : List ElementType)
  /-- An attribute that the operator no longer has. -/
  | deprecated (opType name : String) (since : Int64)
  /-- A slot that has to be filled and is empty. -/
  | missingInput (opType : String) (slot : Nat) (name : String)
  /-- An error of the model itself. -/
  | model (cause : Error)
  deriving DecidableEq, Repr

/-- The text of a broken contract. -/
def ContractError.message : ContractError → String
  | typeConstraint opType slot name actual allowed =>
    opType ++ ": " ++ name ++ " (slot " ++ toString slot ++ ") is " ++ actual.name
      ++ ", type constraint allows " ++ Text.bracketed (allowed.map ElementType.capitalized)
  | deprecated opType name since =>
    opType ++ ": '" ++ name ++ "' is deprecated as of version " ++ toString since.toInt
  | missingInput opType slot name =>
    opType ++ ": required input " ++ name ++ " (slot " ++ toString slot ++ ") is missing"
  | model cause => cause.message

end TensorGraph
