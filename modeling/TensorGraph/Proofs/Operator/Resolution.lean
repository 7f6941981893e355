import TensorGraph.Proofs.Operator.Selection

/-!
# Which contract a node is checked against

A model imports operator sets, in any order, under any domains, with any versions.  All that
matters for the standard operators is the first import of the default domain whose version has
operators at all: `supportedVersion?`.  A node gets what the standard operators of that version hold
(`resolveNode?_eq`), whatever its own domain is.  For the sets of other domains are empty, so where
the sets of the node's domain hold nothing, looking in all of them finds the same.
-/

set_option autoImplicit false

namespace TensorGraph

/-- The version of the first set of the default domain that is not older than version 1. -/
def OperatorSetId.supportedVersion? (ids : List OperatorSetId) : Option Int64 :=
  (ids.find? fun id => id.domain == defaultDomain && decide (1 ≤ id.version)).map version

/-! ## One import -/

namespace OperatorSet

variable {id : OperatorSetId} {opType : String}

theorem domain_ofImport (id : OperatorSetId) : (ofImport id).id.domain = id.domain := by
  rw [ofImport]
  split
  · rename_i h
    rw [standard, id_select, h]
    rfl
  · rfl

theorem get?_ofImport_of_ne (h : id.domain ≠ defaultDomain) (opType : String) :
    (ofImport id).get? opType = none := by
  rw [ofImport, if_neg h]
  rfl

/-- A kind of operator that is not in the catalogue is in no set. -/
theorem get?_ofImport_of_unknown (h : ∀ c ∈ Catalog.contracts, c.opType ≠ opType)
    (id : OperatorSetId) : (ofImport id).get? opType = none := by
  rw [ofImport]
  split
  · exact get?_standard_eq_none_iff.2 fun c hc hkind => absurd hkind (h c hc)
  · rfl

end OperatorSet

/-! ## All imports -/

namespace OperatorSets

open OperatorSet OperatorSetId

variable {sets : OperatorSets} {opType : String}

theorem resolve?_eq_none (h : ∀ set ∈ sets, set.get? opType = none) :
    resolve? sets opType = none :=
  List.findSome?_eq_none_iff.2 h

theorem resolve?_cons (set : OperatorSet) (sets : OperatorSets) (opType : String) :
    resolve? (set :: sets) opType =
      match set.get? opType with
      | some op => some op
      | none => resolve? sets opType := by
  rw [resolve?, List.findSome?_cons]
  cases set.get? opType <;> rfl

/-- Sets that hold nothing may be left out. -/
theorem resolve?_filter {p : OperatorSet → Bool}
    (h : ∀ set ∈ sets, p set = false → set.get? opType = none) :
    resolve? (sets.filter p) opType = resolve? sets opType := by
  induction sets with
  | nil => rfl
  | cons set sets ih =>
    rw [List.forall_mem_cons] at h
    have ih' := ih h.2
    by_cases hp : p set = true
    · rw [List.filter_cons_of_pos hp, resolve?_cons, resolve?_cons, ih']
    · rw [List.filter_cons_of_neg hp, resolve?_cons, h.1 (by simpa using hp), ih']

/-- **All sets together hold** what the standard operators of the supported version hold. -/
theorem resolve?_ofImports (ids : List OperatorSetId) (opType : String) :
    resolve? (ofImports ids) opType =
      (supportedVersion? ids).bind fun v => (standard v).get? opType := by
  induction ids with
  | nil => rfl
  | cons id ids ih =>
    have hcons : ofImports (id :: ids) = ofImport id :: ofImports ids := rfl
    rw [hcons, resolve?_cons]
    by_cases h : id.domain = defaultDomain ∧ 1 ≤ id.version
    · have hfirst : supportedVersion? (id :: ids) = some id.version := by
        rw [supportedVersion?, List.find?_cons_of_pos (by simpa using h)]
        rfl
      rw [hfirst, Option.bind_some, ofImport, if_pos h.1]
      cases hget : (standard id.version).get? opType with
      | some op => rfl
      | none =>
        -- The kind is not in the catalogue at all, so no later set has it either.
        have hunknown : ∀ c ∈ Catalog.contracts, c.opType ≠ opType := by
          rintro c hc rfl
          obtain ⟨d, hd⟩ := exists_inEffect h.2 hc
          rw [get?_standard_eq_some_iff.2 ⟨d, hd, rfl⟩] at hget
          cases hget
        refine resolve?_eq_none fun set hset => ?_
        obtain ⟨id', -, rfl⟩ := List.mem_map.1 hset
        exact get?_ofImport_of_unknown hunknown id'
    · have hlater : supportedVersion? (id :: ids) = supportedVersion? ids := by
        rw [supportedVersion?, List.find?_cons_of_neg (by simpa using h)]
        rfl
      have hnone : (ofImport id).get? opType = none := by
        rw [ofImport]
        split
        · rename_i hdomain
          exact get?_standard_of_lt (fun hle => h ⟨hdomain, hle⟩) opType
        · rfl
      rw [hlater, hnone, ← ih]

/-- A node is resolved in all sets, for its own domain is the default one, which alone has
operators, or has none. -/
theorem resolveNode?_eq_resolve? (ids : List OperatorSetId) (node : Node) :
    resolveNode? (ofImports ids) node = resolve? (ofImports ids) node.opType := by
  rw [resolveNode?]
  by_cases hdomain : node.domain = defaultDomain
  · rw [resolve?_filter]
    · split
      · rename_i op h
        exact h.symm
      · rfl
    · intro set hset hp
      obtain ⟨id, -, rfl⟩ := List.mem_map.1 hset
      refine get?_ofImport_of_ne (fun h => ?_) node.opType
      rw [domain_ofImport, h, hdomain, beq_self_eq_true] at hp
      cases hp
  · have hnone : resolve? ((ofImports ids).filter fun set => set.id.domain == node.domain)
        node.opType = none := by
      refine resolve?_eq_none fun set hset => ?_
      obtain ⟨hset, hp⟩ := List.mem_filter.1 hset
      obtain ⟨id, -, rfl⟩ := List.mem_map.1 hset
      rw [domain_ofImport, beq_iff_eq] at hp
      exact get?_ofImport_of_ne (hp ▸ hdomain) node.opType
    rw [hnone]

theorem resolveNode?_eq (ids : List OperatorSetId) (node : Node) :
    resolveNode? (ofImports ids) node =
      (supportedVersion? ids).bind fun v => (standard v).get? node.opType := by
  rw [resolveNode?_eq_resolve?, resolve?_ofImports]

/-- The node gets the one contract of its kind that is in effect at the version, and nothing if
there is no operator of its kind. -/
structure ResolvesAt (sets : OperatorSets) (node : Node) (version : Int64) : Prop where
  known : (∃ d ∈ Catalog.contracts, d.opType = node.opType) →
    ∃! c : Contract, c.InEffect node.opType version
  contract : ∀ c : Contract, c.InEffect node.opType version →
    sets.resolveNode? node = some c.operator
  unknown : (∀ d ∈ Catalog.contracts, d.opType ≠ node.opType) → sets.resolveNode? node = none

theorem resolvesAt_of_supportedVersion? {ids : List OperatorSetId} {v : Int64}
    (h : supportedVersion? ids = some v) (node : Node) : (ofImports ids).ResolvesAt node v := by
  have hresolve : resolveNode? (ofImports ids) node = (standard v).get? node.opType := by
    rw [resolveNode?_eq, h, Option.bind_some]
  obtain ⟨id, hid, rfl⟩ := Option.map_eq_some_iff.1 h
  have hsupported : id.domain = defaultDomain ∧ 1 ≤ id.version := by
    simpa using List.find?_some hid
  refine ⟨?_, ?_, ?_⟩
  · rintro ⟨d, hd, hkind⟩
    obtain ⟨c, hc⟩ := exists_inEffect hsupported.2 hd
    exact ⟨c, hkind ▸ hc, fun e he => he.eq (hkind ▸ hc)⟩
  · intro c hc
    rw [hresolve]
    exact get?_standard_eq_some_iff.2 ⟨c, hc, rfl⟩
  · intro hunknown
    rw [hresolve]
    exact get?_standard_eq_none_iff.2 fun c hc hkind => absurd hkind (hunknown c hc)

/-- The version that a model says it imports is the supported one, if it has operators. -/
theorem supportedVersion?_of_opsetVersion? {m : Model} {v : Int64}
    (h : m.opsetVersion? "" = some v) (hv : 1 ≤ v) :
    supportedVersion? m.opsetImports = some v := by
  obtain ⟨id, hid, rfl⟩ := Option.map_eq_some_iff.1 h
  obtain ⟨hdomain, before, after, himports, hbefore⟩ := List.find?_eq_some_iff_append.1 hid
  have hfirst : m.opsetImports.find?
      (fun id => id.domain == defaultDomain && decide (1 ≤ id.version)) = some id := by
    refine List.find?_eq_some_iff_append.2 ⟨?_, before, after, himports, ?_⟩
    · rw [Bool.and_eq_true]
      exact ⟨hdomain, decide_eq_true hv⟩
    · intro other hother
      have hne : ¬ other.domain = defaultDomain := by
        have hother' := hbefore other hother
        rw [Bool.not_eq_true', beq_eq_false_iff_ne] at hother'
        exact hother'
      simp [hne]
  rw [supportedVersion?, hfirst]
  rfl

/-- **A node is checked against the version that the model imports.**  With the sets that records
describe, in any number and order, under any domains, it gets the contract in effect at the version
of the first set of the default domain that has operators, and nothing if there is none.  If a
model says that it imports such a version, it is this one. -/
theorem resolves_at_imported_version (node : Node) :
    (∀ records : List OperatorSetRecord,
      (∀ v, supportedVersion? (OperatorSetId.ofImports records) = some v →
        (ofImports (OperatorSetId.ofImports records)).ResolvesAt node v) ∧
      (supportedVersion? (OperatorSetId.ofImports records) = none →
        (ofImports (OperatorSetId.ofImports records)).resolveNode? node = none)) ∧
    ∀ (m : Model) (v : Int64), m.opsetVersion? "" = some v → 1 ≤ v →
      (ofImports m.opsetImports).ResolvesAt node v ∧
        (ofImports m.opsetImports).resolveNode? node =
          (ofImports m.opsetImports).resolve? node.opType := by
  refine ⟨fun records => ⟨?_, ?_⟩, ?_⟩
  · intro v hv
    exact resolvesAt_of_supportedVersion? hv node
  · intro hnone
    rw [resolveNode?_eq, hnone]
    rfl
  · intro m v hv hle
    have hsupported := supportedVersion?_of_opsetVersion? hv hle
    exact ⟨resolvesAt_of_supportedVersion? hsupported node, resolveNode?_eq_resolve? _ node⟩

/-- Imports of several sets, of which the first of the default domain has no operators. -/
def mixedImports : List OperatorSetRecord := [⟨"custom", 3⟩, ⟨"", 0⟩, ⟨"ai.onnx", 7⟩, ⟨"", 14⟩]

/-- A model without nodes that imports a set of its own and two of the default domain. -/
def bareModelOf13 : Model where
  irVersion := 8
  modelVersion := 1
  producerName := ""
  producerVersion := ""
  domain := ""
  docString := ""
  metadata := NameMap.empty
  opsetImports := [⟨"custom", 1⟩, ⟨"ai.onnx", 13⟩, ⟨"ai.onnx", 1⟩]
  options := {}
  graph := ⟨"", "", [], .empty, [], [], [], [], []⟩

/-- A node of a domain of its own, with an operator of the default one. -/
def customAdd : Node := { Node.ofType "Add" with domain := "custom" }

theorem resolves_at_imported_version_mixed :
    supportedVersion? (OperatorSetId.ofImports mixedImports) = some 7 ∧
      Catalog.addV7.InEffect "Add" 7 ∧
      (ofImports (OperatorSetId.ofImports mixedImports)).resolveNode? customAdd =
        some Catalog.addV7.operator ∧
      supportedVersion? (OperatorSetId.ofImports [⟨"custom", 3⟩, ⟨"", -1⟩]) = none ∧
      (ofImports (OperatorSetId.ofImports [⟨"custom", 3⟩, ⟨"", -1⟩])).resolveNode? customAdd =
        none ∧
      bareModelOf13.opsetVersion? "" = some 13 ∧ (1 : Int64) ≤ 13 ∧
      (ofImports bareModelOf13.opsetImports).ResolvesAt customAdd 13 := by
  have hmixed : supportedVersion? (OperatorSetId.ofImports mixedImports) = some 7 := by decide
  have hnone : supportedVersion? (OperatorSetId.ofImports [⟨"custom", 3⟩, ⟨"", -1⟩]) = none := by
    decide
  have hversion : bareModelOf13.opsetVersion? "" = some 13 := by decide
  have hadd : Catalog.addV7.InEffect "Add" 7 :=
    ⟨by decide, rfl, by decide, by decide +kernel⟩
  have hresolves := ((resolves_at_imported_version customAdd).1 mixedImports).1 7 hmixed
  exact ⟨hmixed, hadd, hresolves.contract _ hadd, hnone,
    ((resolves_at_imported_version customAdd).1 _).2 hnone, hversion, by decide,
    ((resolves_at_imported_version customAdd).2 bareModelOf13 13 hversion (by decide)).1⟩

end OperatorSets
end TensorGraph
