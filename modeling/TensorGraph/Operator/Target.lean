import TensorGraph.Attribute.Basic

/-!
# Target types

The operator that converts elements is told the target type by an attribute: by its name in the
oldest version, in any case of letters, and by its code later on.
-/

set_option autoImplicit false

namespace TensorGraph

namespace ElementType

/-- The type with a name, whatever its case. -/
def ofName? (name : String) : Option ElementType :=
  all.find? fun t => Text.sameIgnoringCase t.name name

/-- The target type of a name. -/
def ofTargetName (name : String) : Except Error ElementType :=
  match ofName? name with
  | some t => .ok t
  | none => .error (.illegalArgument (.targetName name))

/-- The target type of a number, which has to be a code. -/
def ofTargetCode (code : Int64) : Except Error ElementType :=
  if -0x80000000 ≤ code.toInt ∧ code.toInt < 0x80000000 then ofCode (Int32.ofInt code.toInt)
  else .error (.illegalArgument (.targetCode code))

/-- The type's code as the value of an attribute. -/
def targetCode (t : ElementType) : Int64 := t.code.toInt64

end ElementType

/-- The target type that an attribute of the given name and value stands for. -/
def Attribute.target (name : String) : Attribute → Except Error ElementType
  | string text => ElementType.ofTargetName text
  | int code => ElementType.ofTargetCode code
  | other => .error (.attributeKind name .int other.kind)

end TensorGraph
