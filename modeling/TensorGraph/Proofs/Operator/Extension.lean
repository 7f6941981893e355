import TensorGraph.Proofs.Operator.Binding

/-!
# What a later contract asks for

A later version of an operator keeps the slots of an earlier one at their places and allows every
type that was allowed.  `Contract.Extends` says that of two contracts, and `Contract.newSlots` are
the slots that come behind.
-/

set_option autoImplicit false

namespace TensorGraph

/-- Everything that one constraint allows is allowed by the other. -/
def TypeConstraint.Within (constraint wider : TypeConstraint) : Prop :=
  ∀ t ∈ constraint.allowed, t ∈ wider.allowed

instance (constraint wider : TypeConstraint) : Decidable (constraint.Within wider) :=
  inferInstanceAs (Decidable (∀ t ∈ constraint.allowed, t ∈ wider.allowed))

/-- The first slots of the one operator are those of the other. -/
def InputSlots.Begins : InputSlots → InputSlots → Prop
  | .fixed slots, .fixed more => slots <+: more
  | .variadic name, .variadic name' => name = name'
  | _, _ => False

instance : (inputs more : InputSlots) → Decidable (inputs.Begins more)
  | .fixed slots, .fixed more => inferInstanceAs (Decidable (slots <+: more))
  | .variadic name, .variadic name' => inferInstanceAs (Decidable (name = name'))
  | .fixed _, .variadic _ => .isFalse id
  | .variadic _, .fixed _ => .isFalse id

/-- The slots behind the first ones. -/
theorem InputSlots.Begins.slots_eq_append {inputs more : InputSlots} (h : inputs.Begins more)
    (count : Nat) :
    more.slots count = inputs.slots count ++ more.fixedFrom (inputs.count?.getD 0) := by
  cases inputs with
  | fixed slots =>
    cases more with
    | fixed more =>
      obtain ⟨new, rfl⟩ := h
      have hnew : (InputSlots.fixed (slots ++ new)).fixedFrom slots.length =
          new.zipIdx slots.length := by
        rw [fixedFrom, List.zipIdx_append, List.drop_left' (by simp), Nat.zero_add]
      rw [count?, Option.getD_some, hnew, InputSlots.slots, List.zipIdx_append, Nat.zero_add,
        InputSlots.slots]
    | variadic name => exact h.elim
  | variadic name =>
    cases more with
    | fixed more => exact h.elim
    | variadic name' =>
      cases h
      exact (List.append_nil _).symm

namespace Contract

/-- The contract has all slots of the other one and allows all types that it allows. -/
structure Extends (c d : Contract) : Prop where
  inputs : c.inputs.Begins d.inputs
  inputTypes : c.inputTypes.Within d.inputTypes
  outputTypes : c.outputTypes.Within d.outputTypes

instance (c d : Contract) : Decidable (c.Extends d) :=
  decidable_of_iff (c.inputs.Begins d.inputs ∧ c.inputTypes.Within d.inputTypes ∧
      c.outputTypes.Within d.outputTypes)
    ⟨fun ⟨h₁, h₂, h₃⟩ => ⟨h₁, h₂, h₃⟩, fun ⟨h₁, h₂, h₃⟩ => ⟨h₁, h₂, h₃⟩⟩

/-- The slots that the other contract has and this one has not. -/
def newSlots (c d : Contract) : List (TensorSlot × Nat) :=
  d.inputs.fixedFrom (c.inputs.count?.getD 0)

theorem Extends.slots_eq_append {c d : Contract} (h : c.Extends d) (count : Nat) :
    d.inputs.slots count = c.inputs.slots count ++ c.newSlots d :=
  h.inputs.slots_eq_append count

end Contract

end TensorGraph
