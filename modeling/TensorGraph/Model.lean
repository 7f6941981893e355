import TensorGraph.Graph.Basic
import TensorGraph.Record.Schema

/-!
# Models

A model is a graph with the version of the format it is written in and the operator sets it
imports.  It is made from a record, from the bytes of a record, or from a file, of which only the
contents matter, or that there is no such file.
-/

set_option autoImplicit false

namespace TensorGraph

/-- A graph and the versions it is written against. -/
structure Model where
  irVersion : Int64
  modelVersion : Int64
  producerName : String
  producerVersion : String
  domain : String
  docString : String
  metadata : NameMap String
  opsetImports : List OperatorSetId
  options : TensorOptions
  graph : Graph

/-- The record in a file of the given contents. -/
def ModelRecord.load (contents : Option Bytes) : Except LoadError ModelRecord :=
  match contents with
  | none => .error .missingFile
  | some bytes => (ModelRecord.decode bytes).mapError .malformed

namespace Model

/-- Whether models of a version of the format are read. -/
def readsVersion (version : Int64) : Bool :=
  oldestIrVersion.toInt ≤ version.toInt && version.toInt ≤ newestIrVersion.toInt

/-- The model that a record describes. -/
def ofRecord (r : ModelRecord) (options : TensorOptions) : Except Error Model :=
  if readsVersion r.irVersion then
    match r.graph with
    | none => .error (.graph .missingGraph)
    | some graphRecord => do
      let graph ← Graph.ofRecord graphRecord options
      return {
        irVersion := r.irVersion
        modelVersion := r.modelVersion
        producerName := r.producerName
        producerVersion := r.producerVersion
        domain := r.domain
        docString := r.docString
        metadata := r.metadata.foldl (fun m entry => m.insert entry.key entry.value) NameMap.empty
        opsetImports := OperatorSetId.ofImports r.opsetImports
        options := options
        graph := graph }
  else .error (.unsupportedIrVersion r.irVersion)

/-- The model in a file of the given contents. -/
def load (contents : Option Bytes) (options : TensorOptions) : Except Error Model := do
  let record ← (ModelRecord.load contents).mapError .load
  ofRecord record options

/-- The model that bytes stand for. -/
def decode (bytes : Bytes) (options : TensorOptions) : Except Error Model :=
  load (some bytes) options

/-- The version of a domain that is imported first. -/
def opsetVersion? (m : Model) (domain : String) : Option Int64 :=
  (m.opsetImports.find? fun id => id.domain == canonicalDomain domain).map OperatorSetId.version

/-- Gives the buffers of all tensors back: how many there were, and what is left. -/
def release (m : Model) : Nat × Model :=
  let (count, graph) := m.graph.release
  (count, { m with graph := graph })

end Model

end TensorGraph
