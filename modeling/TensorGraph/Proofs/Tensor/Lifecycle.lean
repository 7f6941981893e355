import TensorGraph.Proofs.Tensor.Payload
import TensorGraph.Tensor.View

/-!
# The life of a tensor

A tensor is made by one of four constructors, and from then on it is read, written in place,
compared with others and at some time released.  This module says what stays true of it through
all of this.

`Made` says that a tensor comes from a constructor, and `Action` is one thing that can be done with
a tensor later.  `Sound` is the invariant: the value info and the byte order are those the tensor
was made with, and as long as there is a buffer it has as many bytes as the value info says.  The
constructors establish it (`Made.sound`), an action keeps it (`Sound.perform`), and so every run
does (`Sound.run`).  Whether a tensor is released can be told from the run alone
(`isReleased_run`).

`run_sound` puts this together, with the sizes in exact arithmetic: in a run the buffer never
changes its length before it is released, it is released exactly once, and after that nothing but
the value info and the byte order can be had from the tensor.
-/

set_option autoImplicit false

namespace TensorGraph

namespace Tensor

/-! ## Making a tensor -/

/-- A tensor that one of the constructors came back with. -/
inductive Made : Tensor → Prop
  | allocate {info : ValueInfo} {options : TensorOptions} {t : Tensor}
      (h : Tensor.allocate info options = .ok t) : Made t
  | ofBytes {info : ValueInfo} {bytes : Bytes} {order : ByteOrder} {options : TensorOptions}
      {t : Tensor} (h : Tensor.ofBytes info bytes order options = .ok t) : Made t
  | ofList {α : Type} [FixedWidth α] {host : ByteOrder} {info : ValueInfo} {values : List α}
      {options : TensorOptions} {t : Tensor}
      (h : Tensor.ofList host info values options = .ok t) : Made t
  | ofRecord {r : TensorRecord} {options : TensorOptions} {t : Tensor}
      (h : Tensor.ofRecord r options = .ok t) : Made t

/-- The buffer of a tensor that was made of bytes is the bytes, and their number fits. -/
theorem exists_buffer_of_ofBytes {info : ValueInfo} {bytes : Bytes} {order : ByteOrder}
    {options : TensorOptions} {t : Tensor} (h : Tensor.ofBytes info bytes order options = .ok t) :
    ∃ buffer, t.buffer = some buffer ∧ t.info.byteCount = .ok buffer.bytes.length := by
  obtain ⟨hcount, -, rfl⟩ := ofBytes_eq_ok_iff.1 h
  exact ⟨_, rfl, hcount⟩

/-- Whichever constructor it comes from, a new tensor has a buffer of the length that its value
info says. -/
theorem Made.exists_buffer {t : Tensor} (h : t.Made) :
    ∃ buffer, t.buffer = some buffer ∧ t.info.byteCount = .ok buffer.bytes.length := by
  cases h with
  | allocate h =>
    obtain ⟨count, hcount, -, rfl⟩ := allocate_eq_ok_iff.1 h
    refine ⟨_, rfl, ?_⟩
    rw [List.length_replicate]
    exact hcount
  | ofBytes h => exact exists_buffer_of_ofBytes h
  | ofList h => exact exists_buffer_of_ofBytes (ofList_eq_ok_iff.1 h).2
  | @ofRecord r options _ h =>
    obtain ⟨info, hinfo, -, rfl⟩ := ofRecord_eq_ok_iff.1 h
    refine ⟨_, rfl, ?_⟩
    show info.byteCount = .ok (r.tensor info options).byteLength
    rw [TensorRecord.byteLength_tensor hinfo, TensorRecord.byteCount_of_valueInfo hinfo]

/-! ## Runs -/

/-- One thing that can be done with a tensor. -/
inductive Action : Type 1
  | overwrite (offset : Nat) (patch : Bytes)
  | toList (host : ByteOrder) (α : Type) [FixedWidth α]
  | view
  | same (other : Tensor)
  | release

/-- What an action leaves of a tensor.  Only writes and releases change it, and a write that is
refused does not. -/
def perform (t : Tensor) : Action → Tensor
  | .overwrite offset patch =>
    match t.overwrite offset patch with
    | .ok t' => t'
    | .error _ => t
  | @Action.toList _ _ _ | .view | .same _ => t
  | .release => t.release.2

/-- What a run of actions leaves of a tensor. -/
def run (t : Tensor) (actions : List Action) : Tensor := actions.foldl perform t

theorem run_nil (t : Tensor) : t.run [] = t := rfl

theorem run_cons (t : Tensor) (action : Action) (actions : List Action) :
    t.run (action :: actions) = (t.perform action).run actions := rfl

/-- A write changes bytes and nothing else, and only where there are any. -/
theorem perform_overwrite (t : Tensor) (offset : Nat) (patch : Bytes) :
    t.perform (.overwrite offset patch) =
      { t with buffer := t.buffer.map fun buffer =>
          { buffer with bytes := overwriteBytes buffer.bytes offset patch } } := by
  obtain ⟨info, order, _ | buffer⟩ := t
  · rfl
  · rfl

theorem isReleased_perform (t : Tensor) (action : Action) :
    (t.perform action).isReleased = true ↔ t.isReleased = true ∨ action = .release := by
  cases action with
  | overwrite offset patch => simp [perform_overwrite, isReleased]
  | toList | view | same => simp [perform]
  | release => simp [perform, release]

/-- A tensor is released exactly if its run has a release in it. -/
theorem isReleased_run (t : Tensor) (actions : List Action) :
    (t.run actions).isReleased = true ↔ t.isReleased = true ∨ .release ∈ actions := by
  induction actions generalizing t with
  | nil => simp [run_nil]
  | cons action actions ih =>
    rw [run_cons, ih, isReleased_perform, List.mem_cons, or_assoc, @eq_comm Action .release]

/-! ## The invariant -/

/-- **The invariant of tensors**: `t` has the value info and byte order that were chosen when it
was made, and if it has a buffer then one of the right length. -/
structure Sound (info : ValueInfo) (order : ByteOrder) (t : Tensor) : Prop where
  info_eq : t.info = info
  byteOrder_eq : t.byteOrder = order
  byteCount_eq : ∀ buffer, t.buffer = some buffer → info.byteCount = .ok buffer.bytes.length

theorem Made.sound {t : Tensor} (h : t.Made) : t.Sound t.info t.byteOrder := by
  obtain ⟨buffer, hbuffer, hcount⟩ := h.exists_buffer
  refine ⟨rfl, rfl, fun buffer' hbuffer' => ?_⟩
  rw [hbuffer, Option.some.injEq] at hbuffer'
  rw [← hbuffer', hcount]

namespace Sound

variable {info : ValueInfo} {order : ByteOrder} {t : Tensor}

/-- An action keeps the invariant. -/
theorem perform (h : t.Sound info order) (action : Action) :
    (t.perform action).Sound info order := by
  cases action with
  | overwrite offset patch =>
    rw [perform_overwrite]
    refine ⟨h.info_eq, h.byteOrder_eq, fun buffer hbuffer => ?_⟩
    obtain ⟨old, hold, rfl⟩ := Option.map_eq_some_iff.1 hbuffer
    rw [length_overwriteBytes]
    exact h.byteCount_eq old hold
  | toList | view | same => exact h
  | release => exact ⟨h.info_eq, h.byteOrder_eq, fun buffer hbuffer => by cases hbuffer⟩

/-- A run keeps the invariant. -/
theorem run (h : t.Sound info order) (actions : List Action) :
    (t.run actions).Sound info order := by
  induction actions generalizing t with
  | nil => exact h
  | cons action actions ih => exact ih (h.perform action)

end Sound

/-! ## Before and after the release -/

/-- The bytes of a tensor that has not been released are those of its elements. -/
theorem Sound.byteLength_eq {info : ValueInfo} {order : ByteOrder} {t : Tensor} {n : Nat}
    (h : t.Sound info order) (hcount : info.byteCount = .ok n) (hlive : t.isReleased = false) :
    t.byteLength = n := by
  rw [isReleased, Option.isNone_eq_false_iff, Option.isSome_iff_exists] at hlive
  obtain ⟨buffer, hbuffer⟩ := hlive
  have hlength := h.byteCount_eq buffer hbuffer
  rw [hcount, Except.ok.injEq] at hlength
  rw [byteLength, hbuffer, hlength]

section Released

variable {t : Tensor} (h : t.buffer = none)

include h

theorem bytes_of_buffer_eq_none : t.bytes = .error (.tensorReleased t.info) := by
  rw [bytes, h]

theorem view_of_buffer_eq_none : t.view = .error (.tensorReleased t.info) := by
  rw [view, bytes_of_buffer_eq_none h]
  rfl

theorem overwrite_of_buffer_eq_none (offset : Nat) (patch : Bytes) :
    t.overwrite offset patch = .error (.tensorReleased t.info) := by
  rw [overwrite, h]

/-- The width is looked at first, so only numbers of the right one learn of the release. -/
theorem toList_of_buffer_eq_none {α : Type} [FixedWidth α]
    (hwidth : t.info.elementType.unitSize? = some (FixedWidth.width α)) (host : ByteOrder) :
    t.toList host α = .error (.tensorReleased t.info) := by
  rw [toList_eq, ElementType.checkWidth_eq_ok_iff.2 hwidth, bytes_of_buffer_eq_none h]
  rfl

end Released

/-- **The life of a tensor.**  However a tensor was made and whatever was done with it since, its
value info and byte order are as they were, and its elements are counted in exact arithmetic.  The
buffer is given back by the first release and by no other.  Until then it has exactly the bytes of
the elements, at least one; from then on there are none, and no operation on them succeeds. -/
theorem run_sound {start : Tensor} (hmade : start.Made) (actions : List Action) :
    ∃ unit, start.info.elementType.unitSize? = some unit ∧
      (start.run actions).info = start.info ∧
      (start.run actions).byteOrder = start.byteOrder ∧
      (start.run actions).elementCount = start.info.shape.dims.prod ∧
      ((start.run actions).release.1 = true ↔ .release ∉ actions) ∧
      (.release ∉ actions →
        1 ≤ (start.run actions).byteLength ∧
        (start.run actions).byteLength = unit * start.info.shape.dims.prod) ∧
      (.release ∈ actions →
        (start.run actions).byteLength = 0 ∧
        (start.run actions).isDirect = false ∧
        (start.run actions).view = .error (.tensorReleased start.info) ∧
        (∀ offset patch,
          (start.run actions).overwrite offset patch = .error (.tensorReleased start.info)) ∧
        ∀ (host : ByteOrder) (α : Type) [FixedWidth α], FixedWidth.width α = unit →
          (start.run actions).toList host α = .error (.tensorReleased start.info)) := by
  obtain ⟨buffer, hbuffer, hcount⟩ := hmade.exists_buffer
  obtain ⟨unit, hunit, hexact, hpos, -⟩ := ValueInfo.byteCount_eq_ok_iff.1 hcount
  have hsound := hmade.sound.run actions
  have hreleased : (start.run actions).isReleased = true ↔ .release ∈ actions := by
    rw [isReleased_run, isReleased, hbuffer]
    simp
  generalize start.run actions = t at hsound hreleased
  refine ⟨unit, hunit, hsound.info_eq, hsound.byteOrder_eq, ?_, ?_, ?_, ?_⟩
  · rw [elementCount, hsound.info_eq, ValueInfo.elementCount?_of_byteCount hcount, Option.getD_some]
  · rw [← hreleased, release]
    simp
  · intro hlive
    rw [← hreleased, Bool.not_eq_true] at hlive
    rw [hsound.byteLength_eq hcount hlive]
    exact ⟨hpos, hexact⟩
  · intro hgone
    rw [← hreleased, isReleased, Option.isNone_iff_eq_none] at hgone
    rw [← hsound.info_eq] at hunit ⊢
    refine ⟨?_, ?_, view_of_buffer_eq_none hgone, overwrite_of_buffer_eq_none hgone, ?_⟩
    · rw [byteLength, hgone]
    · rw [isDirect, hgone]
    · intro host α _ hwidth
      rw [← hwidth] at hunit
      exact toList_of_buffer_eq_none hgone hunit host

/-- A tensor of two numbers that is written into, read and released twice. -/
theorem run_sound_pair :
    let start : Tensor := ⟨⟨.int16, ⟨[2]⟩⟩, .big, some ⟨[0, 0, 0, 0], .direct⟩⟩
    Tensor.allocate ⟨.int16, ⟨[2]⟩⟩ ⟨.direct, .big⟩ = .ok start ∧
      (start.run [.overwrite 1 [7, 8], .toList .big Int16, .release, .release]).byteLength = 0 ∧
      (start.run [.overwrite 1 [7, 8], .toList .big Int16]).byteLength = 4 := by
  intro start
  have hmade : Tensor.allocate ⟨.int16, ⟨[2]⟩⟩ ⟨.direct, .big⟩ = .ok start := by decide
  refine ⟨hmade, ?_, ?_⟩
  · obtain ⟨_, -, -, -, -, -, -, hgone⟩ :=
      run_sound (.allocate hmade) [.overwrite 1 [7, 8], .toList .big Int16, .release, .release]
    exact (hgone (by simp)).1
  · obtain ⟨unit, hunit, -, -, -, -, hlive, -⟩ :=
      run_sound (.allocate hmade) [.overwrite 1 [7, 8], .toList .big Int16]
    cases hunit
    exact (hlive (by simp)).2

end Tensor

end TensorGraph
