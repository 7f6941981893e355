import TensorGraph.Attribute.Basic
import TensorGraph.Proofs.Stages
import TensorGraph.ValueInfo

/-!
# Errors about contents

The errors that come out of making a graph are of two sorts: something in a record cannot be read,
or the graph as a whole has a fault.  This module says that whoever reads the parts of a record
finds only faults of the first sort.  So a fault of the graph always comes from one of the stages
that look at the graph, and tells what they found.

`FailsWith P x` says that all errors of `x` have the property `P`; it is proved along the
computation, and each reader gets one lemma.
-/

set_option autoImplicit false

namespace TensorGraph

/-! ## The errors of a computation -/

section FailsWith

variable {α β ε ε' : Type} {P : ε → Prop} {x : Except ε α}

/-- All errors of the computation have the property. -/
def FailsWith (P : ε → Prop) (x : Except ε α) : Prop := ∀ e, x = .error e → P e

namespace FailsWith

theorem ok (a : α) : FailsWith P (.ok a) := by
  intro e h
  cases h

theorem error {e : ε} (h : P e) : FailsWith P (.error e : Except ε α) := by
  intro e' he'
  cases he'
  exact h

theorem bind {f : α → Except ε β} (hx : FailsWith P x) (hf : ∀ a, FailsWith P (f a)) :
    FailsWith P (x >>= f) := by
  intro e h
  rcases bind_eq_error_iff.1 h with h | ⟨a, -, h⟩
  · exact hx e h
  · exact hf a e h

theorem mapM {f : α → Except ε β} (hf : ∀ a, FailsWith P (f a)) (l : List α) :
    FailsWith P (l.mapM f) := by
  intro e h
  obtain ⟨-, a, -, -, -, ha⟩ := mapM_eq_error_iff.1 h
  exact hf a e ha

theorem mapError {P' : ε' → Prop} {g : ε → ε'} (hx : FailsWith P x) (hg : ∀ e, P e → P' (g e)) :
    FailsWith P' (x.mapError g) := by
  cases x with
  | ok a => exact ok a
  | error e => exact error (hg e (hx e rfl))

end FailsWith

/-- An error without the property is not the first fault of a list that is read. -/
theorem not_firstFault_of_failsWith {f : α → Except ε β} (hf : ∀ a, FailsWith P (f a)) {e : ε}
    (he : ¬ P e) (l : List α) : ¬ FirstFault (fun a e => f a = .error e) l e := by
  rintro ⟨-, a, -, -, -, ha⟩
  exact he (hf a e ha)

end FailsWith

/-! ## Wrong arguments -/

section Arguments

variable {P : Error → Prop} (hP : ∀ cause, P (.illegalArgument cause))

include hP

theorem Shape.failsWith_ofDims (dims : List Int64) : FailsWith P (Shape.ofDims dims) := by
  rw [Shape.ofDims]
  split
  · exact .error (hP _)
  · exact .ok _

theorem TensorRecord.failsWith_shape (r : TensorRecord) (unit byteCount : Nat) :
    FailsWith P (r.shape unit byteCount) := by
  rw [TensorRecord.shape]
  split
  · exact .ok _
  · exact Shape.failsWith_ofDims hP _

theorem Allocation.failsWith_checkCapacity (allocation : Allocation) (count : Nat) :
    FailsWith P (allocation.checkCapacity count) := by
  rw [Allocation.checkCapacity]
  split
  · exact .ok _
  · exact .error (hP _)

/-- Once the bytes of a value are counted, only the given ones can be wrong. -/
theorem Tensor.failsWith_ofBytes {info : ValueInfo} (hcount : FailsWith P info.byteCount)
    (bytes : Bytes) (order : ByteOrder) (options : TensorOptions) :
    FailsWith P (Tensor.ofBytes info bytes order options) := by
  refine hcount.bind fun count => ?_
  split
  · exact (Allocation.failsWith_checkCapacity hP _ _).bind fun _ => .ok _
  · exact .error (hP _)

end Arguments

/-! ## The readers of contents -/

namespace Error

/-- The error is about the content of some part, and not about a graph as a whole. -/
def IsContent : Error → Prop
  | .graph _ => False
  | _ => True

theorem IsContent.inTensor {e : Error} (h : e.IsContent) (name : String) :
    (e.inTensor name).IsContent := by
  cases e <;> exact h

theorem not_isContent_of_kind {e : Error} {kind : GraphFaultKind} (h : e.kind = .graph kind) :
    ¬ e.IsContent := by
  cases e with
  | graph fault => exact id
  | load cause => cases cause <;> cases h
  | _ => cases h

end Error

open Error (IsContent)

namespace ElementType

theorem failsWith_ofCode (code : Int32) : FailsWith IsContent (ofCode code) := by
  rw [ofCode]
  split
  · exact .ok _
  · exact .error trivial

end ElementType

namespace Shape

theorem failsWith_ofRecord (value : String) (dims : List DimensionRecord) :
    FailsWith IsContent (ofRecord value dims) := by
  rw [ofRecord]
  split
  · exact .error trivial
  · exact .ok _

end Shape

namespace ValueInfo

theorem failsWith_byteCount (info : ValueInfo) : FailsWith IsContent info.byteCount := by
  rw [byteCount]
  split
  · exact .error trivial
  · split
    · exact .error trivial
    · exact .error trivial
    · exact .ok _

theorem failsWith_ofRecord (r : ValueInfoRecord) : FailsWith IsContent (ofRecord r) := by
  rw [ofRecord]
  split
  · exact .ok _
  · exact (ElementType.failsWith_ofCode _).bind fun _ =>
      (Shape.failsWith_ofRecord _ _).bind fun _ => .ok _

end ValueInfo

namespace Tensor

theorem failsWith_ofRecord (r : TensorRecord) (options : TensorOptions) :
    FailsWith IsContent (ofRecord r options) := by
  rw [ofRecord]
  split
  · exact .error trivial
  · refine (ElementType.failsWith_ofCode _).bind fun elementType => ?_
    split
    · exact .error trivial
    · refine (r.failsWith_shape (fun _ => trivial) _ _).bind fun shape => ?_
      exact (failsWith_ofBytes (fun _ => trivial) (ValueInfo.failsWith_byteCount _) _ _ _).mapError
        fun _ he => he.inTensor r.name

end Tensor

namespace Attribute

theorem failsWith_text (r : AttributeRecord) (bytes : Bytes) :
    FailsWith IsContent (r.text bytes) := by
  rw [AttributeRecord.text]
  split
  · exact .ok _
  · exact .error trivial

theorem failsWith_payload (r : AttributeRecord) (options : TensorOptions)
    (kind : AttributeKind) : FailsWith IsContent (r.payload options kind) := by
  cases kind with
  | int | ints | float | floats | null => exact .ok _
  | string => exact (failsWith_text r _).bind fun _ => .ok _
  | strings => exact (FailsWith.mapM (failsWith_text r) _).bind fun _ => .ok _
  | tensor =>
    rw [AttributeRecord.payload]
    split
    · exact (Tensor.failsWith_ofRecord _ _).bind fun _ => .ok _
    · exact .ok _
  | tensors =>
    exact (FailsWith.mapM (Tensor.failsWith_ofRecord · options) _).bind fun _ => .ok _

/-- **What is wrong with an attribute** is never a fault of a graph. -/
theorem failsWith_ofRecord (r : AttributeRecord) (options : TensorOptions) :
    FailsWith IsContent (ofRecord r options) := by
  rw [ofRecord]
  split
  · exact .ok _
  · exact (failsWith_payload r options _).bind fun _ => .ok _

end Attribute

end TensorGraph
