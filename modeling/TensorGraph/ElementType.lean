/-!
# Element types

A tensor's elements are all of one type.  The format numbers the types with codes and has names
for them; both are tables here, and `ofCode?` and `ofName?` search the tables, so that a code or a
name means a type exactly if the table says so.  Strings and complex numbers can be named but have
no fixed width, so no tensor of them is ever held.

The groups at the end are the allow-lists from which the operators' type constraints are made.
-/

set_option autoImplicit false

namespace TensorGraph

/-- The type of a tensor's elements. -/
inductive ElementType where
  | uint8 | uint16 | uint32 | uint64
  | int8 | int16 | int32 | int64
  | float16 | float | double
  | string | bool
  | complex64 | complex128
  deriving DecidableEq, Repr

namespace ElementType

/-- The name that the format gives to the type. -/
def name : ElementType → String
  | uint8 => "UINT8" | uint16 => "UINT16" | uint32 => "UINT32" | uint64 => "UINT64"
  | int8 => "INT8" | int16 => "INT16" | int32 => "INT32" | int64 => "INT64"
  | float16 => "FLOAT16" | float => "FLOAT" | double => "DOUBLE"
  | string => "STRING" | bool => "BOOL"
  | complex64 => "COMPLEX64" | complex128 => "COMPLEX128"

/-- The name with only its first letter large, as lists of allowed types spell it. -/
def capitalized : ElementType → String
  | uint8 => "Uint8" | uint16 => "Uint16" | uint32 => "Uint32" | uint64 => "Uint64"
  | int8 => "Int8" | int16 => "Int16" | int32 => "Int32" | int64 => "Int64"
  | float16 => "Float16" | float => "Float" | double => "Double"
  | string => "String" | bool => "Bool"
  | complex64 => "Complex64" | complex128 => "Complex128"

/-- The code that the format gives to the type. -/
def code : ElementType → Int32
  | float => 1 | uint8 => 2 | int8 => 3 | uint16 => 4 | int16 => 5 | int32 => 6 | int64 => 7
  | string => 8 | bool => 9 | float16 => 10 | double => 11 | uint32 => 12 | uint64 => 13
  | complex64 => 14 | complex128 => 15

/-- The width of one element in bytes, for the types that have one. -/
def unitSize? : ElementType → Option Nat
  | uint8 | int8 | bool => some 1
  | uint16 | int16 | float16 => some 2
  | uint32 | int32 | float => some 4
  | uint64 | int64 | double => some 8
  | string | complex64 | complex128 => none

theorem unitSize?_pos {t : ElementType} {unit : Nat} (h : t.unitSize? = some unit) :
    0 < unit := by
  cases t <;> simp_all [unitSize?] <;> omega

/-! ## Groups -/

/-- The floating-point types. -/
def floats : List ElementType := [float16, float, double]

/-- The integer and floating-point types. -/
def numeric : List ElementType :=
  [uint8, uint16, uint32, uint64, int8, int16, int32, int64, float16, float, double]

/-- The integers of 32 and 64 bits and the floating-point types. -/
def highPrecision : List ElementType := [uint32, uint64, int32, int64, float16, float, double]

/-- The signed integers and the floating-point types. -/
def signed : List ElementType := [int8, int16, int32, int64, float16, float, double]

/-- Every type. -/
def all : List ElementType :=
  [uint8, uint16, uint32, uint64, int8, int16, int32, int64, float16, float, double, string, bool,
    complex64, complex128]

/-- Every type but the complex ones. -/
def allButComplex : List ElementType :=
  [uint8, uint16, uint32, uint64, int8, int16, int32, int64, float16, float, double, string, bool]

/-- Every type that has a fixed width. -/
def allButStringAndComplex : List ElementType :=
  [uint8, uint16, uint32, uint64, int8, int16, int32, int64, float16, float, double, bool]

/-- Whether the type is a floating-point type. -/
def isFloat (t : ElementType) : Bool := floats.contains t

/-- Whether the type is an integer or a floating-point type. -/
def isNumeric (t : ElementType) : Bool := numeric.contains t

@[simp] theorem mem_all (t : ElementType) : t ∈ all := by cases t <;> decide

/-! ## Search by code and by name -/

/-- The type with the given code. -/
def ofCode? (code : Int32) : Option ElementType := all.find? fun t => t.code == code

@[simp] theorem ofCode?_code (t : ElementType) : ofCode? t.code = some t := by
  cases t <;> decide

theorem ofCode?_eq_some_iff {code : Int32} {t : ElementType} :
    ofCode? code = some t ↔ t.code = code := by
  constructor
  · intro h
    simpa using List.find?_some h
  · rintro rfl
    exact ofCode?_code t

end ElementType

end TensorGraph
