import TensorGraph.Graph.Wiring
import TensorGraph.Node

/-!
# Graphs

A graph is made from its record in stages, and the first stage that fails decides the error: there
have to be declared inputs and outputs; the nodes' attributes, the constants and the types of the
inputs have to be readable; no node may depend on itself, directly or through others; and every
declared output has to come from somewhere, a node before an input before a constant.

What is kept are the nodes in their original order, the index of the names that they read and write,
the edges between them, an order in which they can be computed, and the values that enter and leave.
A node is referred to by its place in the list.
-/

set_option autoImplicit false

namespace TensorGraph

/-- A tensor that is part of the model. -/
structure Constant where
  name : String
  docString : String
  tensor : Tensor
  deriving DecidableEq, Repr

/-- Gives the buffer of the tensor back: how many there were, and what is left. -/
def Constant.release (c : Constant) : Nat × Constant :=
  let (count, tensor) := c.tensor.releaseCounted
  (count, { c with tensor := tensor })

/-- A value that enters the graph. -/
structure GraphInput where
  name : String
  docString : String
  info : ValueInfo
  deriving DecidableEq, Repr

/-- Where a value that leaves the graph comes from. -/
inductive OutputSource where
  | node (id : Nat)
  | input
  | constant
  deriving DecidableEq, Repr

/-- A value that leaves the graph. -/
structure GraphOutput where
  name : String
  docString : String
  info : ValueInfo
  source : OutputSource
  deriving DecidableEq, Repr

/-- Nodes tied together by names, without a cycle. -/
structure Graph where
  name : String
  docString : String
  nodes : List Node
  index : NameIndex
  edges : List (Nat × Nat)
  order : List Nat
  constants : List Constant
  inputs : List GraphInput
  outputs : List GraphOutput

/-! ## Reading records -/

/-- The names that a node reads and writes. -/
def Node.ports (node : Node) : Ports := ⟨node.inputs, node.outputs⟩

/-- The constant that a tensor record describes. -/
def Constant.ofRecord (r : TensorRecord) (options : TensorOptions) : Except Error Constant := do
  return ⟨r.name, r.docString, ← Tensor.ofRecord r options⟩

/-- The input that a record describes. -/
def GraphInput.ofRecord (r : ValueInfoRecord) : Except Error GraphInput := do
  return ⟨r.name, r.docString, ← ValueInfo.ofRecord r⟩

/-- The node that a value comes from, if it comes from one. -/
def OutputSource.node? : OutputSource → Option Nat
  | node id => some id
  | _ => none

/-- Where the value of a name comes from, out of the nodes, the inputs and the constants. -/
def OutputSource.find? (index : NameIndex) (inputs constants : List String) (name : String) :
    Option OutputSource :=
  match index.producer? name with
  | some id => some (node id)
  | none =>
    if inputs.contains name then some input
    else if constants.contains name then some constant
    else none

/-- The output that a record describes, given where values come from. -/
def GraphOutput.ofRecord (source? : String → Option OutputSource) (r : ValueInfoRecord) :
    Except Error GraphOutput :=
  match source? r.name with
  | none => .error (.graph (.danglingOutput r.name))
  | some source => do return ⟨r.name, r.docString, ← ValueInfo.ofRecord r, source⟩

/-- The label of a node of a list. -/
def labelOf (nodes : List Node) (id : Nat) : String :=
  match nodes[id]? with
  | some node => node.label
  | none => ""

/-- An order in which nodes can be computed, found with the index of their names. -/
def schedule (nodes : List Node) (index : NameIndex) : Except Error (List Nat) :=
  let wiring := nodes.map Node.ports
  match Wiring.selfLoop? wiring index with
  | some link => .error (.graph (.selfLoop (labelOf nodes link.producer) link.tensor))
  | none =>
    match (Wiring.digraph wiring index).topologicalOrder with
    | .error id => .error (.graph (.cycle (labelOf nodes id)))
    | .ok order => .ok order

namespace Graph

/-- The graph that a record describes. -/
def ofRecord (r : GraphRecord) (options : TensorOptions) : Except Error Graph :=
  if r.inputs = [] then .error (.graph (.missingInputs r.name))
  else if r.outputs = [] then .error (.graph (.missingOutputs r.name))
  else do
    let nodes ← r.nodes.mapM (Node.ofRecord · options)
    let constants ← r.initializers.mapM (Constant.ofRecord · options)
    let inputs ← r.inputs.mapM GraphInput.ofRecord
    let wiring := nodes.map Node.ports
    let index := NameIndex.ofWiring wiring
    let order ← schedule nodes index
    let source? :=
      OutputSource.find? index (inputs.map GraphInput.name) (constants.map Constant.name)
    let outputs ← r.outputs.mapM (GraphOutput.ofRecord source?)
    return {
      name := r.name
      docString := r.docString
      nodes := nodes
      index := index
      edges := Wiring.edges wiring index
      order := order
      constants := constants
      inputs := inputs
      outputs := outputs }

/-! ## Questions about a graph -/

/-- The node of an id. -/
def node? (g : Graph) (id : Nat) : Option Node := g.nodes[id]?

/-- The dependencies of the nodes. -/
def digraph (g : Graph) : Digraph := ⟨g.nodes.length, g.edges⟩

/-- The nodes that a node directly depends on, in ascending order. -/
def predecessors (g : Graph) (id : Nat) : List Nat := (g.digraph.predecessors id).mergeSort

/-- The nodes that directly depend on a node, in ascending order. -/
def successors (g : Graph) (id : Nat) : List Nat := (g.digraph.successors id).mergeSort

/-- The node that writes a name. -/
def producer? (g : Graph) (tensor : String) : Option Nat := g.index.producer? tensor

/-- The nodes that read a name, in ascending order. -/
def consumers (g : Graph) (tensor : String) : List Nat := g.index.consumers tensor

/-- The first node with a name, whatever its case. -/
def findNode? (g : Graph) (name : String) : Option Nat :=
  g.nodes.findIdx? fun node => Text.sameIgnoringCase node.name name

/-- The first declared input with a name, whatever its case. -/
def findInput? (g : Graph) (name : String) : Option GraphInput :=
  g.inputs.find? fun input => Text.sameIgnoringCase input.name name

/-- The first declared output with a name, whatever its case. -/
def findOutput? (g : Graph) (name : String) : Option GraphOutput :=
  g.outputs.find? fun output => Text.sameIgnoringCase output.name name

/-- The first constant with a name, whatever its case. -/
def findConstant? (g : Graph) (name : String) : Option Constant :=
  g.constants.find? fun constant => Text.sameIgnoringCase constant.name name

/-- Whether there is a constant with exactly this name. -/
def isConstant (g : Graph) (name : String) : Bool :=
  g.constants.any fun constant => constant.name == name

/-! ## Releasing the tensors -/

/-- The tensors that the graph owns: its constants and those of its nodes' attributes. -/
def ownedTensors (g : Graph) : List Tensor :=
  g.constants.map Constant.tensor ++ g.nodes.flatMap fun node => node.attributes.ownedTensors

/-- The number of tensors of the graph that are not released. -/
def liveCount (g : Graph) : Nat := g.ownedTensors.countP fun t => !t.isReleased

/-- The graph with all tensors released. -/
def released (g : Graph) : Graph :=
  { g with
    constants := g.constants.map fun c => { c with tensor := c.tensor.released }
    nodes := g.nodes.map Node.released }

/-- Gives the buffers of all tensors back, first of the constants and then of the nodes: how many
there were, and what is left. -/
def release (g : Graph) : Nat × Graph :=
  let (inConstants, constants) := releaseEach Constant.release g.constants
  let (inNodes, nodes) := releaseEach Node.release g.nodes
  (inConstants + inNodes, { g with constants := constants, nodes := nodes })

end Graph

end TensorGraph
