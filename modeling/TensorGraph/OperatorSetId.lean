import TensorGraph.Record.Basic

/-!
# Identifiers of operator sets

Operators come in sets, and a set is named by a domain and a version.  The default domain may also
be written as the empty text, so a domain is brought into one form before it is compared with any
other.  The text of an identifier is the domain, a colon and the version; domains may hold colons
themselves, but a version holds none.
-/

set_option autoImplicit false

namespace TensorGraph

/-- The domain of the operators that every model can use. -/
def defaultDomain : String := "ai.onnx"

/-- A domain in the form in which domains are compared. -/
def canonicalDomain (domain : String) : String := if domain = "" then defaultDomain else domain

@[simp] theorem canonicalDomain_canonicalDomain (domain : String) :
    canonicalDomain (canonicalDomain domain) = canonicalDomain domain := by
  unfold canonicalDomain
  split
  · rfl
  · simp

/-- The domain and the version of an operator set. -/
structure OperatorSetId where
  domain : String
  version : Int64
  deriving DecidableEq, Repr

namespace OperatorSetId

/-- The identifier of a version of a domain, however the domain is written. -/
def of (domain : String) (version : Int64) : OperatorSetId := ⟨canonicalDomain domain, version⟩

/-- The identifier that a record describes. -/
def ofRecord (r : OperatorSetRecord) : OperatorSetId := of r.domain r.version

/-- The sets that a model imports; one that imports none gets the first version of the default
domain. -/
def ofImports (records : List OperatorSetRecord) : List OperatorSetId :=
  if records = [] then [of defaultDomain 1] else records.map ofRecord

/-- The domain, a colon and the version. -/
def text (id : OperatorSetId) : String := id.domain ++ ":" ++ toString id.version.toInt

/-- The order by domain, then by version. -/
def le (a b : OperatorSetId) : Bool :=
  if a.domain = b.domain then a.version.toInt ≤ b.version.toInt else a.domain ≤ b.domain

end OperatorSetId

end TensorGraph
