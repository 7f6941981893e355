/-!
# Kinds of attributes

An attribute is a number, a text, a tensor, or a list of one of these.  A record says by a code
which it is; codes also exist for kinds that are not modelled, and those all come out as `null`.

Numbers, texts and lists of them can be asked for by their kind, which is a `ValueKind`.  Tensors are
asked for in a way of their own, and nobody asks for `null`.
-/

set_option autoImplicit false

namespace TensorGraph

/-- The kind of an attribute's value. -/
inductive AttributeKind where
  | int | ints
  | float | floats
  | string | strings
  | tensor | tensors
  | null
  deriving DecidableEq, Repr

namespace AttributeKind

/-- The name that the format gives to the kind. -/
def name : AttributeKind → String
  | int => "INT" | ints => "INTS"
  | float => "FLOAT" | floats => "FLOATS"
  | string => "STRING" | strings => "STRINGS"
  | tensor => "TENSOR" | tensors => "TENSORS"
  | null => "NULL"

/-- The kind that a code stands for; zero, which leaves the kind open, counts as unknown too. -/
def ofCode (code : Int32) : AttributeKind :=
  if code = 1 then float
  else if code = 2 then int
  else if code = 3 then string
  else if code = 4 then tensor
  else if code = 6 then floats
  else if code = 7 then ints
  else if code = 8 then strings
  else if code = 9 then tensors
  else null

/-- The order in which the payloads of a record without a kind are looked through. -/
def probeOrder : List AttributeKind :=
  [int, ints, float, floats, string, strings, tensor, tensors]

end AttributeKind

/-- The kind of a value that can be asked for. -/
inductive ValueKind where
  | int | ints
  | float | floats
  | string | strings
  deriving DecidableEq, Repr

/-- The kind of the attributes that hold such a value. -/
def ValueKind.attributeKind : ValueKind → AttributeKind
  | int => .int | ints => .ints
  | float => .float | floats => .floats
  | string => .string | strings => .strings

instance : Coe ValueKind AttributeKind := ⟨ValueKind.attributeKind⟩

end TensorGraph
