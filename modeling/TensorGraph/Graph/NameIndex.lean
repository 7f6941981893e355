import TensorGraph.NameMap

/-!
# Name indexes

Nodes are tied together by names alone: one that reads a name depends on the one that writes it.
All that matters for this are the names that each node reads and writes, its `Ports`, and the
place of the node in the list.

A name index says which node writes a name and which nodes read it.  It is filled in one pass over
the nodes, in ascending order (`NameIndex.ofWiring`).  A node takes the place of whichever node
wrote one of its outputs before, and it is put at the end of the readers of each of its inputs,
unless it is there already.  The empty name stands for nothing and is left out.
-/

set_option autoImplicit false

namespace TensorGraph

/-- The names that a node reads and those that it writes. -/
structure Ports where
  inputs : List String
  outputs : List String
  deriving DecidableEq, Repr

/-- The ports of all nodes, in order. -/
abbrev Wiring := List Ports

/-- The node that writes each name, and the nodes that read it. -/
structure NameIndex where
  writer : NameMap Nat
  readers : NameMap (List Nat)

namespace NameIndex

/-- The index of no nodes. -/
def empty : NameIndex := ⟨.empty, .empty⟩

/-- The node that writes a name. -/
def producer? (index : NameIndex) (tensor : String) : Option Nat := index.writer.get? tensor

/-- The nodes that read a name, in the order in which they were added. -/
def consumers (index : NameIndex) (tensor : String) : List Nat :=
  (index.readers.get? tensor).getD []

/-- The index with a node that writes a name. -/
def addWriter (id : Nat) (index : NameIndex) (tensor : String) : NameIndex :=
  if tensor = "" then index
  else { index with writer := index.writer.insert tensor id }

/-- The index with a node that reads a name. -/
def addReader (id : Nat) (index : NameIndex) (tensor : String) : NameIndex :=
  let ids := index.consumers tensor
  if tensor = "" ∨ id ∈ ids then index
  else { index with readers := index.readers.insert tensor (ids ++ [id]) }

/-- The index with one more node. -/
def addNode (index : NameIndex) (id : Nat) (ports : Ports) : NameIndex :=
  ports.inputs.foldl (addReader id) (ports.outputs.foldl (addWriter id) index)

/-- The index of all nodes. -/
def ofWiring (w : Wiring) : NameIndex :=
  w.zipIdx.foldl (fun index p => index.addNode p.2 p.1) empty

end NameIndex

end TensorGraph
