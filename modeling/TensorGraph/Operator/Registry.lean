import TensorGraph.Model
import TensorGraph.Operator.Catalog
import TensorGraph.Text.Quoted

/-!
# Operator sets

The operators in effect for a model are those of the sets it imports, looked through in order.  A
set for the default domain holds the standard operators of its version: for each kind of operator
the newest contract that is not newer than the set (`OperatorSet.select`).  Sets of other domains
start out empty, and operators of one's own can be registered in any set.

A node is resolved to an operator in the sets of its own domain first, and in all sets if none of
those knows it.
-/

set_option autoImplicit false

namespace TensorGraph

/-! ## Operators -/

/-- An operator of some version, and what it accepts. -/
structure Operator where
  opType : String
  domain : String
  /-- The first version of the operator set that the operator is part of. -/
  since : Int64
  /-- Checks a node with its input and output tensors. -/
  validate : Node → (inputs outputs : SlotTensors) → Except ContractError Unit

/-- The operator of the default domain that a contract describes. -/
def Contract.operator (c : Contract) : Operator := ⟨c.opType, defaultDomain, c.since, c.validate⟩

/-- The operators of the catalogue. -/
def Catalog.operators : List Operator := Catalog.contracts.map Contract.operator

/-! ## Sets -/

/-- The operators of one domain and version, one for each kind. -/
structure OperatorSet where
  id : OperatorSetId
  operators : NameMap Operator

namespace OperatorSet

/-- A set that holds nothing. -/
def empty (id : OperatorSetId) : OperatorSet := ⟨id, NameMap.empty⟩

/-- The set with an operator, in place of any other of its kind. -/
def register (set : OperatorSet) (op : Operator) : OperatorSet :=
  { set with operators := set.operators.insert op.opType op }

/-- The operator of a kind. -/
def get? (set : OperatorSet) (opType : String) : Option Operator := set.operators.get? opType

/-- The set with an operator, unless that is newer than the version, or no newer than the one of
its kind that is there already. -/
def offer (version : Int64) (set : OperatorSet) (op : Operator) : OperatorSet :=
  if version < op.since then set
  else
    match set.get? op.opType with
    | some current => if current.since < op.since then set.register op else set
    | none => set.register op

/-- The operators out of a list that are in effect at a version of the default domain. -/
def select (version : Int64) (operators : List Operator) : OperatorSet :=
  operators.foldl (offer version) (empty (.of defaultDomain version))

/-- The standard operators at a version of the default domain. -/
def standard (version : Int64) : OperatorSet := select version Catalog.operators

/-- The set that an import brings in. -/
def ofImport (id : OperatorSetId) : OperatorSet :=
  if id.domain = defaultDomain then standard id.version else empty id

/-- The identifier and the kinds of operators, in order. -/
def description (set : OperatorSet) : String :=
  Text.group "OperatorSet"
    [("id", Text.group "OperatorSetId"
        [("domain", Text.quoted set.id.domain), ("version", toString set.id.version.toInt)]),
      ("operators", Text.bracketed (set.operators.sorted.map fun p => Text.quoted p.1))]

end OperatorSet

/-- Operator sets in the order in which they are looked through. -/
abbrev OperatorSets := List OperatorSet

namespace OperatorSets

/-- The sets that a model imports. -/
def ofImports (ids : List OperatorSetId) : OperatorSets := ids.map OperatorSet.ofImport

/-- The first operator of a kind in any set. -/
def resolve? (sets : OperatorSets) (opType : String) : Option Operator :=
  sets.findSome? fun set => set.get? opType

/-- The operator of a node: the first of its kind in the sets of its domain, else in any set. -/
def resolveNode? (sets : OperatorSets) (node : Node) : Option Operator :=
  match resolve? (sets.filter fun set => set.id.domain == node.domain) node.opType with
  | some op => some op
  | none => resolve? sets node.opType

end OperatorSets

end TensorGraph
