import TensorGraph.Attribute.Basic
import TensorGraph.NameMap

/-!
# The attributes of a node

A node holds at most one attribute of each name.  Of several records with one name the last that
holds anything counts, but all of them have to be decodable.  An attribute is asked for by its name
and the kind that is expected, and the answer is that there is none, or what it is, or the error
that says of which kind it is instead.
-/

set_option autoImplicit false

namespace TensorGraph

/-- The attributes of a node by their names. -/
abbrev Attributes := NameMap Attribute

namespace Attributes

/-- The attributes with those of one more record. -/
def addRecord (options : TensorOptions) (attributes : Attributes) (r : AttributeRecord) :
    Except Error Attributes := do
  match ← Attribute.ofRecord r options with
  | some a => return attributes.insert r.name a
  | none => return attributes

/-- The attributes that records describe. -/
def ofRecords (records : List AttributeRecord) (options : TensorOptions) :
    Except Error Attributes :=
  records.foldlM (addRecord options) NameMap.empty

/-- The value of a name, if there is one; it has to be of the kind that is expected. -/
def read (attributes : Attributes) (name : String) (expected : ValueKind) :
    Except Error (Option Attribute) :=
  match attributes.get? name with
  | none => .ok none
  | some a =>
    if a.kind = expected then .ok (some a)
    else .error (.attributeKind name expected a.kind)

/-- The value of a name, or a default that stands in for it. -/
def readD (attributes : Attributes) (name : String) (expected : ValueKind) (default : Attribute) :
    Except Error Attribute := do
  return (← attributes.read name expected).getD default

/-- The tensor of a name, if there is one. -/
def tensor? (attributes : Attributes) (name : String) : Except Error (Option Tensor) :=
  match attributes.get? name with
  | none => .ok none
  | some (.tensor t) => .ok (some t)
  | some a => .error (.attributeKind name .tensor a.kind)

/-- The list of tensors of a name, if there is one. -/
def tensors? (attributes : Attributes) (name : String) : Except Error (Option (List Tensor)) :=
  match attributes.get? name with
  | none => .ok none
  | some (.tensors ts) => .ok (some ts)
  | some a => .error (.attributeKind name .tensors a.kind)

/-- The tensors that the attributes own. -/
def ownedTensors (attributes : Attributes) : List Tensor :=
  attributes.values.flatMap Attribute.ownedTensors

/-- The number of attribute tensors that are not released. -/
def liveCount (attributes : Attributes) : Nat :=
  attributes.ownedTensors.countP fun t => !t.isReleased

/-- The attributes with all tensors released. -/
def released (attributes : Attributes) : Attributes := attributes.map Attribute.released

/-- Gives the buffers of all tensors back: how many there were, and what is left. -/
def release (attributes : Attributes) : Nat × Attributes :=
  ((releaseEach Attribute.release attributes.values).1, attributes.map fun a => a.release.2)

end Attributes

end TensorGraph
