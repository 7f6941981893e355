import TensorGraph.Bytes
import TensorGraph.Wire.DecodeError

/-!
# Readers

A reader takes a value off the front of a byte string and returns what is left, or fails.  Every
reader of the wire format takes at least one byte, and that is part of the type: `Reader.shorter`
is what makes reading many values in a row (`Reader.many`) end, without any count of steps.

`Reader.many` reads values until no more than a given number of bytes is left.  The bytes of an
inner record are not cut out of the data before they are read: its end is such a number, and a
value that reaches behind it is noticed only afterwards.
-/

set_option autoImplicit false

namespace TensorGraph.Wire

/-- Takes a value and at least one byte off the front of the data. -/
structure Reader (α : Type) where
  run : Bytes → Except DecodeError (α × Bytes)
  shorter : ∀ {data : Bytes} {a : α} {rest : Bytes},
    run data = .ok (a, rest) → rest.length < data.length

namespace Reader

variable {α β : Type}

/-- Fails on all data. -/
def fail (fault : DecodeFault) : Reader α where
  run _ := .error ⟨[], fault⟩
  shorter h := by simp at h

/-- Applies a function that may fail to the value read. -/
def mapOrFail (f : α → Except DecodeFault β) (r : Reader α) : Reader β where
  run data :=
    match r.run data with
    | .error e => .error e
    | .ok (a, rest) =>
      match f a with
      | .error fault => .error ⟨[], fault⟩
      | .ok b => .ok (b, rest)
  shorter {data b rest} h := by
    split at h
    · simp at h
    · rename_i a rest' ha
      split at h
      · simp at h
      · simp only [Except.ok.injEq, Prod.mk.injEq] at h
        exact h.2 ▸ r.shorter ha

/-- Applies a function to the value read. -/
def map (f : α → β) (r : Reader α) : Reader β := r.mapOrFail fun a => .ok (f a)

/-- Reads a value, then what the value asks for. -/
def bind (r : Reader α) (f : α → Reader β) : Reader β where
  run data :=
    match r.run data with
    | .error e => .error e
    | .ok (a, rest) => (f a).run rest
  shorter {data b rest} h := by
    split at h
    · simp at h
    · rename_i a rest' ha
      exact Nat.lt_trans ((f a).shorter h) (r.shorter ha)

/-- Puts a field into the path of every error. -/
def within (location : Location) (r : Reader α) : Reader α where
  run data :=
    match r.run data with
    | .error e => .error (e.within location)
    | .ok found => .ok found
  shorter {data a rest} h := by
    split at h
    · simp at h
    · rename_i found hr
      simp only [Except.ok.injEq] at h
      exact r.shorter (h ▸ hr)

/-! ## Reading in a row -/

/-- Reads values while more than `limit` bytes are left; afterwards exactly `limit` must be. -/
def many (r : Reader α) (limit : Nat) (data : Bytes) : Except DecodeError (List α × Bytes) :=
  if limit < data.length then
    match _taken : r.run data with
    | .error e => .error e
    | .ok (a, rest) =>
      match many r limit rest with
      | .error e => .error e
      | .ok (as, rest') => .ok (a :: as, rest')
  else if data.length = limit then .ok ([], data)
  else .error ⟨[], .pastLength⟩
termination_by data.length
decreasing_by exact r.shorter _taken

theorem length_of_many (r : Reader α) {limit : Nat} {data : Bytes} {as : List α} {rest : Bytes}
    (h : r.many limit data = .ok (as, rest)) : rest.length = limit := by
  fun_induction many r limit data generalizing as rest with
  | case1 => simp at h
  | case2 => simp at h
  | case3 data _ a rest₁ _ as₁ rest₂ hrest ih =>
    simp only [Except.ok.injEq, Prod.mk.injEq] at h
    rw [← h.2]
    exact ih hrest
  | case4 =>
    simp only [Except.ok.injEq, Prod.mk.injEq] at h
    rename_i heq
    rw [← h.2]
    exact heq
  | case5 => simp at h

end Reader

end TensorGraph.Wire
