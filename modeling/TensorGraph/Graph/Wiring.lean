import TensorGraph.Graph.Digraph
import TensorGraph.Graph.NameIndex

/-!
# Wiring by names

A node that reads a name is tied to the one that writes it.  If several nodes write one name, the
last of them counts; the empty name ties nothing together.

The ties are found with the index of the names: `Wiring.links` goes through the outputs of all
nodes, leaves out those that the index gives to another node, and ties the rest to their readers.
The order in which it finds them is that in which the edges of the graph are laid.
-/

set_option autoImplicit false

namespace TensorGraph

/-- A name that one node writes and another one reads. -/
structure Link where
  producer : Nat
  tensor : String
  consumer : Nat
  deriving DecidableEq, Repr

namespace Wiring

/-- The ties from one node: for each of its outputs that stands for it, one to every reader. -/
def linksFrom (index : NameIndex) (id : Nat) (ports : Ports) : List Link :=
  (ports.outputs.filter fun tensor => index.producer? tensor == some id).flatMap fun tensor =>
    (index.consumers tensor).map fun consumer => ⟨id, tensor, consumer⟩

/-- All ties, by their producers, then by outputs, then by readers. -/
def links (w : Wiring) (index : NameIndex) : List Link :=
  w.zipIdx.flatMap fun p => linksFrom index p.2 p.1

/-- The first tie from a node to itself. -/
def selfLoop? (w : Wiring) (index : NameIndex) : Option Link :=
  (links w index).find? fun link => link.producer == link.consumer

/-- The pairs of nodes that are tied, each once, in the order of their first ties. -/
def edges (w : Wiring) (index : NameIndex) : List (Nat × Nat) :=
  ((links w index).map fun link => (link.producer, link.consumer)).eraseDups

/-- The graph of the dependencies. -/
def digraph (w : Wiring) (index : NameIndex) : Digraph := ⟨w.length, edges w index⟩

end Wiring

end TensorGraph
