import TensorGraph.Tensor.OfRecord

/-!
# Attributes

An attribute is a value with a kind.  Its record has a field for every kind of payload and a code
that says which one counts; a record of the oldest format leaves the code at zero, and then the
first payload that is populated counts, in a fixed order (`AttributeKind.probeOrder`).  Whatever
the other fields hold is never looked at: `AttributeRecord.selected?` picks the kind, and
`AttributeRecord.payload` decodes the field of that kind alone.
-/

set_option autoImplicit false

namespace TensorGraph

/-- The value of an attribute; `null` stands for kinds that are not modelled. -/
inductive Attribute where
  | int (value : Int64)
  | ints (values : List Int64)
  | float (value : Binary32)
  | floats (values : List Binary32)
  | string (value : String)
  | strings (values : List String)
  | tensor (value : Tensor)
  | tensors (values : List Tensor)
  | null
  deriving DecidableEq, Repr

/-! ## Reading records -/

namespace AttributeRecord

/-- Whether the payload of a kind is more than what an empty record holds. -/
def populated (r : AttributeRecord) : AttributeKind → Bool
  | .int => r.int != 0
  | .ints => !r.ints.isEmpty
  | .float => !r.float.isZero
  | .floats => !r.floats.isEmpty
  | .string => !r.string.isEmpty
  | .strings => !r.strings.isEmpty
  | .tensor => r.tensor.isSome
  | .tensors => !r.tensors.isEmpty
  | .null => false

/-- The kind of the payload that counts; none if the record leaves it open and holds nothing. -/
def selected? (r : AttributeRecord) : Option AttributeKind :=
  if r.kind = 0 then AttributeKind.probeOrder.find? r.populated
  else some (AttributeKind.ofCode r.kind)

/-- A text of the record. -/
def text (r : AttributeRecord) (bytes : Bytes) : Except Error String :=
  match Text.ofUtf8? bytes with
  | some text => .ok text
  | none => .error (.invalidUtf8 r.name)

/-- The payload of a kind. -/
def payload (r : AttributeRecord) (options : TensorOptions) :
    AttributeKind → Except Error Attribute
  | .int => .ok (.int r.int)
  | .ints => .ok (.ints r.ints)
  | .float => .ok (.float r.float)
  | .floats => .ok (.floats r.floats)
  | .string => do return .string (← r.text r.string)
  | .strings => do return .strings (← r.strings.mapM r.text)
  | .tensor =>
    match r.tensor with
    | some t => do return .tensor (← Tensor.ofRecord t options)
    | none => .ok .null
  | .tensors => do return .tensors (← r.tensors.mapM (Tensor.ofRecord · options))
  | .null => .ok .null

end AttributeRecord

namespace Attribute

/-- The attribute that a record describes; none if the record holds nothing. -/
def ofRecord (r : AttributeRecord) (options : TensorOptions) :
    Except Error (Option Attribute) :=
  match r.selected? with
  | none => .ok none
  | some kind => do return some (← r.payload options kind)

/-! ## Kinds and tensors -/

/-- The kind of an attribute. -/
def kind : Attribute → AttributeKind
  | int _ => .int
  | ints _ => .ints
  | float _ => .float
  | floats _ => .floats
  | string _ => .string
  | strings _ => .strings
  | tensor _ => .tensor
  | tensors _ => .tensors
  | null => .null

/-- The tensors that an attribute owns. -/
def ownedTensors : Attribute → List Tensor
  | tensor t => [t]
  | tensors ts => ts
  | _ => []

/-- The attribute with all of its tensors released. -/
def released : Attribute → Attribute
  | tensor t => tensor t.released
  | tensors ts => tensors (ts.map Tensor.released)
  | a => a

/-- Gives the buffers of all tensors back: how many there were, and what is left. -/
def release : Attribute → Nat × Attribute
  | tensor t =>
    let (count, t) := t.releaseCounted
    (count, tensor t)
  | tensors ts =>
    let (count, ts) := releaseEach Tensor.releaseCounted ts
    (count, tensors ts)
  | a => (0, a)

/-- Equality of attributes, in which floating-point numbers are compared as numbers and released
tensors equal nothing. -/
def same : Attribute → Attribute → Bool
  | int a, int b => a == b
  | ints as, ints bs => as == bs
  | float a, float b => a.same b
  | floats as, floats bs => as.length == bs.length && (as.zip bs).all fun p => p.1.same p.2
  | string a, string b => a == b
  | strings as, strings bs => as == bs
  | tensor a, tensor b => a.same b
  | tensors as, tensors bs => as.length == bs.length && (as.zip bs).all fun p => p.1.same p.2
  | null, null => true
  | _, _ => false

end Attribute

end TensorGraph
