import TensorGraph.Attribute.Attributes
import TensorGraph.OperatorSetId

/-!
# Nodes

A node is one use of an operator: which operator of which domain, with which attributes, reading
and writing values of which names.  The empty name stands for an input or output that is left out.
-/

set_option autoImplicit false

namespace TensorGraph

/-- One use of an operator. -/
structure Node where
  name : String
  domain : String
  opType : String
  inputs : List String
  outputs : List String
  attributes : Attributes
  docString : String

namespace Node

/-- A node of the default domain that has nothing but its operator. -/
def ofType (opType : String) : Node where
  name := ""
  domain := canonicalDomain ""
  opType := opType
  inputs := []
  outputs := []
  attributes := NameMap.empty
  docString := ""

/-- The node that a record describes. -/
def ofRecord (r : NodeRecord) (options : TensorOptions) : Except Error Node := do
  let attributes ← Attributes.ofRecords r.attributes options
  return {
    name := r.name
    domain := canonicalDomain r.domain
    opType := r.opType
    inputs := r.inputs
    outputs := r.outputs
    attributes := attributes
    docString := r.docString }

/-- What messages call the node: its name, or its operator if it has none. -/
def label (node : Node) : String := if node.name = "" then node.opType else node.name

/-- The node with all tensors released. -/
def released (node : Node) : Node := { node with attributes := node.attributes.released }

/-- Gives the buffers of all tensors back: how many there were, and what is left. -/
def release (node : Node) : Nat × Node :=
  let (count, attributes) := node.attributes.release
  (count, { node with attributes := attributes })

/-- Equality of all fields, with attributes compared as values. -/
def same (a b : Node) : Bool :=
  a.name == b.name && a.domain == b.domain && a.opType == b.opType && a.inputs == b.inputs
    && a.outputs == b.outputs && NameMap.same Attribute.same a.attributes b.attributes
    && a.docString == b.docString

end Node

end TensorGraph
