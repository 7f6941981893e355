import TensorGraph.Operator.Upgrade

/-!
# The catalogue of contracts

All versions of all operators that are known, each as the data of its contract, and the upgrades
from each version to the next.  The comments say what a version changed.
-/

set_option autoImplicit false

namespace TensorGraph.Catalog

/-! ## Slots and attributes -/

/-- A slot that has to be filled. -/
def needed (name : String) : TensorSlot := ⟨name, false⟩

/-- A slot that may be empty. -/
def possible (name : String) : TensorSlot := ⟨name, true⟩

/-- The constraint that most operators have only one of. -/
def typesT (allowed : List ElementType) : TypeConstraint := ⟨"T", allowed⟩

/-- A hint for computing in place, which was soon given up. -/
def consumedInputs : AttributeSlot := ⟨"consumed_inputs", .ints, .optional, false⟩

/-- That hint is gone since version 6. -/
def noConsumedInputs : RetiredAttribute := ⟨"consumed_inputs", 6⟩

/-! ## Add -/

/-- Whether the second operand is stretched to the first. -/
def broadcast : AttributeSlot := ⟨"broadcast", .int, .withDefault (.int 0), false⟩

/-- The dimension from which on it is stretched. -/
def broadcastAxis : AttributeSlot := ⟨"axis", .int, .optional, false⟩

/-- The sum of two tensors. -/
def addV1 : Contract where
  opType := "Add"
  since := 1
  inputs := .fixed [needed "A", needed "B"]
  inputTypes := typesT ElementType.floats
  attributes := [broadcast, broadcastAxis, consumedInputs]
  outputTypes := typesT ElementType.floats
  retired := []

/-- Allows wide integers; `consumed_inputs` is gone. -/
def addV6 : Contract where
  opType := "Add"
  since := 6
  inputs := .fixed [needed "A", needed "B"]
  inputTypes := typesT ElementType.highPrecision
  attributes := [broadcast, broadcastAxis]
  outputTypes := typesT ElementType.highPrecision
  retired := [noConsumedInputs]

/-- Both operands are stretched as needed; `broadcast` and `axis` are gone. -/
def addV7 : Contract where
  opType := "Add"
  since := 7
  inputs := .fixed [needed "A", needed "B"]
  inputTypes := typesT ElementType.highPrecision
  attributes := []
  outputTypes := typesT ElementType.highPrecision
  retired := [noConsumedInputs, ⟨"broadcast", 7⟩, ⟨"axis", 7⟩]

/-- Allows every numeric type. -/
def addV14 : Contract where
  opType := "Add"
  since := 14
  inputs := .fixed [needed "A", needed "B"]
  inputTypes := typesT ElementType.numeric
  attributes := []
  outputTypes := typesT ElementType.numeric
  retired := [noConsumedInputs, ⟨"broadcast", 7⟩, ⟨"axis", 7⟩]

/-- Drops `consumed_inputs`. -/
def addV1ToV6 : Upgrade where
  opType := "Add"
  earlier := addV1
  later := addV6
  tensors := .fixed [.again 0 (typesT ElementType.highPrecision),
    .again 1 (typesT ElementType.highPrecision)]
  attributes := [⟨"broadcast", .keep⟩, ⟨"axis", .keep⟩]

/-- Drops what was said about stretching. -/
def addV6ToV7 : Upgrade where
  opType := "Add"
  earlier := addV6
  later := addV7
  tensors := .fixed [.again 0 (typesT ElementType.highPrecision),
    .again 1 (typesT ElementType.highPrecision)]
  attributes := []

/-- Takes both operands over. -/
def addV7ToV14 : Upgrade where
  opType := "Add"
  earlier := addV7
  later := addV14
  tensors := .fixed [.again 0 (typesT ElementType.numeric), .again 1 (typesT ElementType.numeric)]
  attributes := []

/-! ## Cast -/

/-- The elements converted to another type, which is given by its name. -/
def castV1 : Contract where
  opType := "Cast"
  since := 1
  inputs := .fixed [needed "input"]
  inputTypes := ⟨"T1", ElementType.allButStringAndComplex⟩
  attributes := [⟨"to", .string, .required, true⟩]
  outputTypes := ⟨"T2", ElementType.allButStringAndComplex⟩
  retired := []

/-- The type is given by its code. -/
def castV6 : Contract where
  opType := "Cast"
  since := 6
  inputs := .fixed [needed "input"]
  inputTypes := ⟨"T1", ElementType.allButStringAndComplex⟩
  attributes := [⟨"to", .int, .required, true⟩]
  outputTypes := ⟨"T2", ElementType.allButStringAndComplex⟩
  retired := []

/-- Looks the code of the type up. -/
def castV1ToV6 : Upgrade where
  opType := "Cast"
  earlier := castV1
  later := castV6
  tensors := .fixed [.again 0 ⟨"T1", ElementType.allButStringAndComplex⟩]
  attributes := [⟨"to", .encode "to" true⟩]

/-! ## Clip -/

/-- The elements brought between two bounds, which are attributes. -/
def clipV1 : Contract where
  opType := "Clip"
  since := 1
  inputs := .fixed [needed "input"]
  inputTypes := typesT ElementType.floats
  attributes := [⟨"min", .float, .optional, false⟩, ⟨"max", .float, .optional, false⟩,
    consumedInputs]
  outputTypes := typesT ElementType.floats
  retired := []

/-- The bounds have defaults; `consumed_inputs` is gone. -/
def clipV6 : Contract where
  opType := "Clip"
  since := 6
  inputs := .fixed [needed "input"]
  inputTypes := typesT ElementType.floats
  attributes := [⟨"min", .float, .withDefault (.float .least), false⟩,
    ⟨"max", .float, .withDefault (.float .greatest), false⟩]
  outputTypes := typesT ElementType.floats
  retired := [noConsumedInputs]

/-- The bounds are inputs, no longer attributes. -/
def clipV11 : Contract where
  opType := "Clip"
  since := 11
  inputs := .fixed [needed "input", possible "min", possible "max"]
  inputTypes := typesT ElementType.floats
  attributes := []
  outputTypes := typesT ElementType.floats
  retired := [noConsumedInputs, ⟨"min", 11⟩, ⟨"max", 11⟩]

/-- Allows every numeric type. -/
def clipV12 : Contract where
  opType := "Clip"
  since := 12
  inputs := .fixed [needed "input", possible "min", possible "max"]
  inputTypes := typesT ElementType.numeric
  attributes := []
  outputTypes := typesT ElementType.numeric
  retired := [noConsumedInputs, ⟨"min", 11⟩, ⟨"max", 11⟩]

/-- Gives a bound that is not set its default. -/
def clipV1ToV6 : Upgrade where
  opType := "Clip"
  earlier := clipV1
  later := clipV6
  tensors := .fixed [.again 0 (typesT ElementType.floats)]
  attributes := [⟨"min", .orElse ⟨"min", false, .float .least, false⟩⟩,
    ⟨"max", .orElse ⟨"max", false, .float .greatest, false⟩⟩]

/-- Forgets the values of the bounds, for which tensors come in. -/
def clipV6ToV11 : Upgrade where
  opType := "Clip"
  earlier := clipV6
  later := clipV11
  tensors := .fixed [.again 0 (typesT ElementType.floats),
    .added 1 "min" (typesT ElementType.floats), .added 2 "max" (typesT ElementType.floats)]
  attributes := []

/-- Takes the input and the bounds over. -/
def clipV11ToV12 : Upgrade where
  opType := "Clip"
  earlier := clipV11
  later := clipV12
  tensors := .fixed [.again 0 (typesT ElementType.numeric), .again 1 (typesT ElementType.numeric),
    .again 2 (typesT ElementType.numeric)]
  attributes := []

/-! ## Concat -/

/-- Any number of tensors, one behind the other along a dimension. -/
def concatV1 : Contract where
  opType := "Concat"
  since := 1
  inputs := .variadic "inputs"
  inputTypes := typesT ElementType.floats
  attributes := [⟨"axis", .int, .withDefault (.int 1), false⟩]
  outputTypes := typesT ElementType.floats
  retired := []

/-- Allows every type but the complex ones; the dimension has to be given. -/
def concatV4 : Contract where
  opType := "Concat"
  since := 4
  inputs := .variadic "inputs"
  inputTypes := typesT ElementType.allButComplex
  attributes := [⟨"axis", .int, .required, false⟩]
  outputTypes := typesT ElementType.allButComplex
  retired := []

/-- Takes the dimension to be given, even where it is the default. -/
def concatV1ToV4 : Upgrade where
  opType := "Concat"
  earlier := concatV1
  later := concatV4
  tensors := .variadic (typesT ElementType.allButComplex)
  attributes := [⟨"axis", .relabel true true⟩]

/-! ## Relu -/

/-- The elements with the negative ones replaced by zero. -/
def reluV1 : Contract where
  opType := "Relu"
  since := 1
  inputs := .fixed [needed "X"]
  inputTypes := typesT ElementType.floats
  attributes := [consumedInputs]
  outputTypes := typesT ElementType.floats
  retired := []

/-- `consumed_inputs` is gone. -/
def reluV6 : Contract where
  opType := "Relu"
  since := 6
  inputs := .fixed [needed "X"]
  inputTypes := typesT ElementType.floats
  attributes := []
  outputTypes := typesT ElementType.floats
  retired := [noConsumedInputs]

/-- Allows signed integers. -/
def reluV14 : Contract where
  opType := "Relu"
  since := 14
  inputs := .fixed [needed "X"]
  inputTypes := typesT ElementType.signed
  attributes := []
  outputTypes := typesT ElementType.signed
  retired := [noConsumedInputs]

/-- Drops `consumed_inputs`. -/
def reluV1ToV6 : Upgrade where
  opType := "Relu"
  earlier := reluV1
  later := reluV6
  tensors := .fixed [.again 0 (typesT ElementType.floats)]
  attributes := []

/-- Takes the input over. -/
def reluV6ToV14 : Upgrade where
  opType := "Relu"
  earlier := reluV6
  later := reluV14
  tensors := .fixed [.again 0 (typesT ElementType.signed)]
  attributes := []

/-! ## All of them -/

/-- Every contract, by operator, then by version. -/
def contracts : List Contract :=
  [addV1, addV6, addV7, addV14, castV1, castV6, clipV1, clipV6, clipV11, clipV12, concatV1,
    concatV4, reluV1, reluV6, reluV14]

/-- Every upgrade, by operator, then by version. -/
def upgrades : List Upgrade :=
  [addV1ToV6, addV6ToV7, addV7ToV14, castV1ToV6, clipV1ToV6, clipV6ToV11, clipV11ToV12,
    concatV1ToV4, reluV1ToV6, reluV6ToV14]

/-- The upgrade of a version, if there is a newer one. -/
def upgrade? (c : Contract) : Option Upgrade := upgrades.find? fun u => u.earlier == c

end TensorGraph.Catalog
