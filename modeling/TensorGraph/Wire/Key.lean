import TensorGraph.Wire.Varint

/-!
# Keys

Each field of a record opens with a key, a varint that holds the field's number and, in its lowest
three bits, the layout of the value that follows.
-/

set_option autoImplicit false

namespace TensorGraph.Wire

/-- The three bits that stand for a layout. -/
def WireType.code : WireType → Nat
  | varint => 0
  | fixed64 => 1
  | lengthDelimited => 2
  | startGroup => 3
  | endGroup => 4
  | fixed32 => 5

/-- The layout with the given three bits. -/
def WireType.ofCode? : Nat → Option WireType
  | 0 => some varint
  | 1 => some fixed64
  | 2 => some lengthDelimited
  | 3 => some startGroup
  | 4 => some endGroup
  | 5 => some fixed32
  | _ => none

@[simp] theorem WireType.ofCode?_code (t : WireType) : ofCode? t.code = some t := by
  cases t <;> rfl

/-- The number of a field and the layout of its value. -/
structure Key where
  number : Nat
  wireType : WireType
  deriving DecidableEq, Repr

namespace Key

/-- Keys are below this bound. -/
def bound : Nat := 0x100000000

/-- The key that a number stands for. -/
def ofNat (n : Nat) : Except DecodeFault Key :=
  if bound ≤ n then .error (.key n)
  else
    match WireType.ofCode? (n % 8) with
    | none => .error (.unknownWireType (n % 8))
    | some wireType => if n / 8 = 0 then .error .zeroNumber else .ok ⟨n / 8, wireType⟩

/-- A key off the front of the data. -/
def reader : Reader Key := Varint.reader.mapOrFail ofNat

/-- The bytes of a key. -/
def encode (key : Key) : Bytes := Varint.encode (8 * key.number + key.wireType.code)

theorem ofNat_eq_ok {number : Nat} {wireType : WireType} (h0 : number ≠ 0)
    (h : 8 * number + wireType.code < bound) :
    ofNat (8 * number + wireType.code) = .ok ⟨number, wireType⟩ := by
  have hc : wireType.code < 8 := by cases wireType <;> decide
  have hmod : (8 * number + wireType.code) % 8 = wireType.code := by omega
  have hdiv : (8 * number + wireType.code) / 8 = number := by omega
  rw [ofNat, if_neg (by omega), hmod, WireType.ofCode?_code, hdiv]
  simp [h0]

end Key

end TensorGraph.Wire
