import TensorGraph.Wire.Scalar

/-!
# Skipping a field

A record may hold fields that its reader does not know, and they are skipped: the layout in the
key says how far they reach.  A group reaches up to the key that closes it, and what is inside is
skipped field by field.  Records and groups together may be nested only so deep; the `budget` is
what is left of that depth.
-/

set_option autoImplicit false

namespace TensorGraph.Wire

/-- How deep records and groups may be nested. -/
def depthLimit : Nat := 100

/-- Skips the fields of the open group `number` and the key that closes it. -/
def skipGroup (number : Nat) (skip : WireType → Nat → Reader Unit) (data : Bytes) :
    Except DecodeError (Unit × Bytes) :=
  match _opened : Key.reader.run data with
  | .error e => .error e
  | .ok (key, rest) =>
    if key.wireType = .endGroup then
      if key.number = number then .ok ((), rest) else .error ⟨[], .endGroup⟩
    else
      match _skipped : (skip key.wireType key.number).run rest with
      | .error e => .error e
      | .ok ((), rest') => skipGroup number skip rest'
termination_by data.length
decreasing_by
  exact Nat.lt_trans ((skip key.wireType key.number).shorter _skipped) (Key.reader.shorter _opened)

theorem length_of_skipGroup {number : Nat} {skip : WireType → Nat → Reader Unit} {data : Bytes}
    {u : Unit} {rest : Bytes} (h : skipGroup number skip data = .ok (u, rest)) :
    rest.length < data.length := by
  fun_induction skipGroup number skip data with
  | case1 => simp at h
  | case2 data key rest₁ hkey =>
    simp only [Except.ok.injEq, Prod.mk.injEq, true_and] at h
    exact h ▸ Key.reader.shorter hkey
  | case3 => simp at h
  | case4 => simp at h
  | case5 data key rest₁ hkey _ rest₂ hskip ih =>
    have h₁ := Key.reader.shorter hkey
    have h₂ := (skip key.wireType key.number).shorter hskip
    have h₃ := ih h
    omega

/-- Skips the value of a field with the given layout and number. -/
def skip : (budget : Nat) → WireType → (number : Nat) → Reader Unit
  | 0, _, _ => .fail .tooDeep
  | _ + 1, .varint, _ => Varint.reader.map fun _ => ()
  | _ + 1, .fixed64, _ => (Reader.take 8 (by decide)).map fun _ => ()
  | _ + 1, .fixed32, _ => (Reader.take 4 (by decide)).map fun _ => ()
  | _ + 1, .lengthDelimited, _ => Reader.delimited.map fun _ => ()
  | budget + 1, .startGroup, number => ⟨skipGroup number (skip budget), length_of_skipGroup⟩
  | _ + 1, .endGroup, _ => .fail .endGroup

end TensorGraph.Wire
