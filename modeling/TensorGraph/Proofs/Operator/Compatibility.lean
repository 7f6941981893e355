import TensorGraph.Proofs.Operator.Declared
import TensorGraph.Proofs.Operator.Selection
import TensorGraph.Proofs.Operator.Upgrade

/-!
# Raising the version

A node that is legal under some version of the standard operators should stay legal when the version
is raised.  That is so as far as a later contract asks for nothing that an earlier one does not ask
for, and there are only a few places where one does.

* `Contract.Extends c d` says that `d` has all slots of `c`, at their places, and allows every type
  that `c` allows.  What `d` asks for besides are the slots in `c.newSlots d` and the attributes in
  `c.newAttributes d`; a node that is legal under `c` is legal under `d` exactly if those are in
  order (`Contract.Extends.accepts_iff`).
* Every contract of the catalogue extends all earlier ones of its kind, and
  `Catalog.newSlots_of_later` and `Catalog.newAttributes_of_later` list what is asked for anew.
* Which contract a version stands for is known from `Contract.InEffect`, and a step between two such
  contracts is one between the versions (`Contract.InEffect.step_between`).

`OperatorSet.CarriesOver` puts the exceptions in terms of versions, and
`OperatorSet.accepts_at_later_version` is the result.
-/

set_option autoImplicit false

namespace TensorGraph

/-! ## What a later contract asks for -/

theorem TensorSlot.Admits.mono {slot : TensorSlot} {constraint wider : TypeConstraint}
    {found : Option ElementType} (h : slot.Admits constraint found)
    (hwithin : constraint.Within wider) : slot.Admits wider found := by
  cases found with
  | none => exact h
  | some t => exact hwithin t h

/-- Whatever may stand under the name of the one attribute may stand under that of the other. -/
structure AttributeSlot.Covers (old new : AttributeSlot) : Prop where
  name_eq : new.name = old.name
  kind_eq : new.kind = old.kind
  required : new.presence = .required → old.presence = .required

instance (old new : AttributeSlot) : Decidable (old.Covers new) :=
  decidable_of_iff (new.name = old.name ∧ new.kind = old.kind ∧
      (new.presence = .required → old.presence = .required))
    ⟨fun ⟨h₁, h₂, h₃⟩ => ⟨h₁, h₂, h₃⟩, fun ⟨h₁, h₂, h₃⟩ => ⟨h₁, h₂, h₃⟩⟩

theorem AttributeSlot.Covers.admits {old new : AttributeSlot} (hcovers : old.Covers new)
    {found : Option AttributeKind} (h : old.Admits found) : new.Admits found := by
  cases found with
  | none => exact fun hrequired => h (hcovers.required hrequired)
  | some kind => exact h.trans (congrArg ValueKind.attributeKind hcovers.kind_eq.symm)

namespace Contract

variable {c d e : Contract} {node : Node} {inputs outputs : SlotTensors} {opType : String}

/-- The attributes of which the other contract asks more than this one. -/
def newAttributes (c d : Contract) : List AttributeSlot :=
  d.attributes.filter fun new => !c.attributes.any fun old => decide (old.Covers new)

/-- **A legal node stays legal under a contract that extends the one it was checked by**, exactly if
what the contract asks for anew is in order. -/
theorem Extends.accepts_iff (hextends : c.Extends d) (h : c.Accepts node inputs outputs) :
    d.Accepts node inputs outputs ↔
      (∀ p ∈ c.newSlots d, p.1.Admits d.inputTypes (inputs.type? p.2)) ∧
        ∀ slot ∈ c.newAttributes d, slot.Admits (node.attributes.kind? slot.name) := by
  constructor
  · intro hd
    refine ⟨fun p hp => hd.inputs p ?_, ?_⟩
    · rw [hextends.slots_eq_append]
      exact List.mem_append_right _ hp
    · intro slot hslot
      exact hd.attributes slot (List.mem_filter.1 hslot).1
  · rintro ⟨hslots, hattributes⟩
    refine ⟨fun name hname => ?_, fun p hp => ?_, fun slot hslot => ?_, ?_⟩
    · have hbegins := hextends.inputs
      rw [hname] at hbegins
      cases hc : c.inputs with
      | fixed slots =>
        rw [hc] at hbegins
        exact hbegins.elim
      | variadic name' => exact h.nonempty name' hc
    · rw [hextends.slots_eq_append, List.mem_append] at hp
      rcases hp with hp | hp
      · exact (h.inputs p hp).mono hextends.inputTypes
      · exact hslots p hp
    · by_cases hnew : slot ∈ c.newAttributes d
      · exact hattributes slot hnew
      · obtain ⟨old, hold, hcovers⟩ : ∃ old ∈ c.attributes, old.Covers slot := by
          simpa [newAttributes, hslot] using hnew
        have hadmits := hcovers.admits (h.attributes old hold)
        rwa [← hcovers.name_eq] at hadmits
    · obtain ⟨elementType, hallowed, htype⟩ := h.output
      exact ⟨elementType, hextends.outputTypes _ hallowed, htype⟩

/-- A step of the catalogue between two contracts in effect is a step between the versions. -/
theorem InEffect.step_between {v w : Int64} (hc : c.InEffect opType v) (hd : d.InEffect opType w)
    (he : e ∈ Catalog.contracts) (hkind : c.opType = e.opType) (hlt : c.since < e.since)
    (hle : e.since ≤ d.since) : v < e.since ∧ e.since ≤ w := by
  refine ⟨Int64.not_le.1 fun hv => ?_, Int64.le_trans hle hd.since_le⟩
  exact Int64.not_le.2 hlt (hc.newest e he (hkind.symm.trans hc.kind) hv)

end Contract

/-! ## The catalogue -/

namespace Catalog

variable {c d : Contract}

theorem extends_of_later : ∀ c ∈ contracts, ∀ d ∈ contracts, c.opType = d.opType →
    c.since ≤ d.since → c.Extends d := by
  decide +kernel

/-- The only slots that ever came in are those of the bounds of a clipping. -/
theorem newSlots_of_later : ∀ c ∈ contracts, ∀ d ∈ contracts, c.opType = d.opType →
    c.since ≤ d.since → ∀ p ∈ c.newSlots d,
      c.opType = clipV11.opType ∧ c.since < clipV11.since ∧ clipV11.since ≤ d.since ∧
        clipV11.inputTypes.Within d.inputTypes ∧ p.1.isOptional = true ∧ p.2 ∈ [1, 2] := by
  decide +kernel

/-- The only attributes of which more was ever asked are the dimension along which to concatenate,
which has to be given, and the type to convert to, which is given by its code. -/
theorem newAttributes_of_later : ∀ c ∈ contracts, ∀ d ∈ contracts, c.opType = d.opType →
    c.since ≤ d.since → ∀ slot ∈ c.newAttributes d,
      (c.opType = concatV4.opType ∧ c.since < concatV4.since ∧ concatV4.since ≤ d.since ∧
        slot.name = "axis" ∧ ∃ old ∈ c.attributes, old.name = slot.name ∧ old.kind = slot.kind) ∨
      c.opType = castV6.opType ∧ c.since < castV6.since ∧ castV6.since ≤ d.since := by
  decide +kernel

end Catalog

/-! ## Versions -/

namespace OperatorSet

open Catalog

variable {v w : Int64} {opType : String} {node : Node} {inputs outputs : SlotTensors}
  {op : Operator}

/-- What a later version asks for anew is in order: bounds of a clipping that are inputs are
floating-point tensors, the dimension along which to concatenate is given, and a conversion has its
type given in the same way in both versions. -/
structure CarriesOver (opType : String) (v w : Int64) (node : Node) (inputs : SlotTensors) :
    Prop where
  clip : opType = "Clip" → 11 ≤ v ∨ w < 11 ∨
    ∀ slot ∈ [1, 2], ∀ t, inputs.type? slot = some t → t ∈ [.float16, .float, .double]
  concat : opType = "Concat" → 4 ≤ v ∨ w < 4 ∨ node.attributes.contains "axis" = true
  cast : opType = "Cast" → (v < 6 ∧ w < 6) ∨ (6 ≤ v ∧ 6 ≤ w)

/-- **Raising the version never rejects what was legal**, as far as it carries over.  A node that is
accepted by the operator that a version has for some kind is accepted by the one that a later
version has for it. -/
theorem accepts_at_later_version (hle : v ≤ w) (hop : (standard v).get? opType = some op)
    (haccepts : op.validate node inputs outputs = .ok ())
    (hcarries : CarriesOver opType v w node inputs) :
    ∃ op', (standard w).get? opType = some op' ∧ op'.validate node inputs outputs = .ok () := by
  obtain ⟨c, hc, rfl⟩ := get?_standard_eq_some_iff.1 hop
  have hw : 1 ≤ w := Int64.le_trans (one_le_since c hc.mem) (Int64.le_trans hc.since_le hle)
  obtain ⟨d, hd⟩ := exists_inEffect hw hc.mem
  rw [hc.kind] at hd
  have hkind : c.opType = d.opType := hc.kind.trans hd.kind.symm
  have hlater : c.since ≤ d.since :=
    hd.newest c hc.mem hc.kind (Int64.le_trans hc.since_le hle)
  refine ⟨d.operator, get?_standard_eq_some_iff.2 ⟨d, hd, rfl⟩, ?_⟩
  have hold : c.Accepts node inputs outputs := Contract.validate_eq_ok_iff.1 haccepts
  refine Contract.validate_eq_ok_iff.2 ?_
  rw [(extends_of_later c hc.mem d hd.mem hkind hlater).accepts_iff hold]
  refine ⟨fun p hp => ?_, fun slot hslot => ?_⟩
  · obtain ⟨hclip, hlt, hge, hwithin, hoptional, hplace⟩ :=
      newSlots_of_later c hc.mem d hd.mem hkind hlater p hp
    obtain ⟨hv, hw⟩ := hc.step_between hd (by decide) hclip hlt hge
    cases htype : inputs.type? p.2 with
    | none => exact hoptional
    | some t =>
      rcases hcarries.clip (hc.kind.symm.trans hclip) with h | h | h
      · exact absurd h (Int64.not_le.2 hv)
      · exact absurd h (Int64.not_lt.2 hw)
      · exact hwithin t (h p.2 hplace t htype)
  · rcases newAttributes_of_later c hc.mem d hd.mem hkind hlater slot hslot with
      ⟨hconcat, hlt, hge, hname, old, hmem, hsame, hkinds⟩ | ⟨hcast, hlt, hge⟩
    · obtain ⟨hv, hw⟩ := hc.step_between hd (by decide) hconcat hlt hge
      rcases hcarries.concat (hc.kind.symm.trans hconcat) with h | h | h
      · exact absurd h (Int64.not_le.2 hv)
      · exact absurd h (Int64.not_lt.2 hw)
      · -- What is given was of the right kind before.
        obtain ⟨a, ha⟩ := (NameMap.contains_iff _ _).1 h
        have hadmits := hold.attributes old hmem
        rw [Attributes.kind?, hname, ha]
        rw [hsame, Attributes.kind?, hname, ha] at hadmits
        exact hadmits.trans (congrArg ValueKind.attributeKind hkinds)
    · obtain ⟨hv, hw⟩ := hc.step_between hd (by decide) hcast hlt hge
      rcases hcarries.cast (hc.kind.symm.trans hcast) with h | h
      · exact absurd h.2 (Int64.not_lt.2 hw)
      · exact absurd h.1 (Int64.not_le.2 hv)

/-- A clipping by a floating-point tensor, and a concatenation that says along which dimension. -/
theorem accepts_at_later_version_bounded :
    let tensor := some (Contract.zeros .float)
    let node := Contract.nodeWith "axis" (.int 0)
    (6 : Int64) ≤ 12 ∧ (standard 6).get? "Clip" = some clipV6.operator ∧
      clipV6.operator.validate node [tensor, none, tensor] [tensor] = .ok () ∧
      CarriesOver "Clip" 6 12 node [tensor, none, tensor] ∧
      (∃ op', (standard 12).get? "Clip" = some op' ∧
        op'.validate node [tensor, none, tensor] [tensor] = .ok ()) ∧
      (1 : Int64) ≤ 13 ∧ (standard 1).get? "Concat" = some concatV1.operator ∧
      concatV1.operator.validate node [tensor, tensor] [tensor] = .ok () ∧
      CarriesOver "Concat" 1 13 node [tensor, tensor] ∧
      ∃ op', (standard 13).get? "Concat" = some op' ∧
        op'.validate node [tensor, tensor] [tensor] = .ok () := by
  intro tensor node
  have hclip : CarriesOver "Clip" 6 12 node [tensor, none, tensor] := by
    refine ⟨fun _ => .inr (.inr ?_), by decide, by decide⟩
    simp [SlotTensors.type?, SlotTensors.tensor?, tensor, Contract.zeros]
  have hconcat : CarriesOver "Concat" 1 13 node [tensor, tensor] :=
    ⟨by decide, fun _ => .inr (.inr rfl), by decide⟩
  exact ⟨by decide, rfl, rfl, hclip, accepts_at_later_version (by decide) rfl rfl hclip,
    by decide, rfl, rfl, hconcat, accepts_at_later_version (by decide) rfl rfl hconcat⟩

end OperatorSet

end TensorGraph
