import TensorGraph.Bytes

/-!
# Text

Names and other texts of a model arrive as bytes, in UTF-8, and leave in messages.  This module
holds the few rules that every other one shares: which byte strings are texts at all
(`Text.ofUtf8?`), when two names agree up to ASCII case (`Text.sameIgnoringCase`), and how a list
is put into brackets and named fields into braces.
-/

set_option autoImplicit false

namespace TensorGraph.Text

/-! ## UTF-8 -/

/-- The bytes of a text. -/
def toUtf8 (text : String) : Bytes := text.toUTF8.data.toList

/-- The text that the bytes spell, if they are well-formed UTF-8. -/
def ofUtf8? (bytes : Bytes) : Option String := String.fromUTF8? ⟨bytes.toArray⟩

@[simp] theorem ofUtf8?_toUtf8 (text : String) : ofUtf8? (toUtf8 text) = some text := by
  have h : (⟨(toUtf8 text).toArray⟩ : ByteArray) = text.toUTF8 := by simp [toUtf8]
  have hv : text.toUTF8.IsValidUTF8 := text.isValidUTF8
  rw [ofUtf8?, h, String.fromUTF8?, dif_pos hv]
  rfl

/-! ## Comparison -/

/-- The text with the letters `A` to `Z` made small. -/
def lowered (text : String) : List Char := text.toList.map Char.toLower

/-- Equality up to the case of the letters `A` to `Z`. -/
def sameIgnoringCase (a b : String) : Bool := lowered a == lowered b

/-! ## Printing -/

/-- A list in brackets, its entries separated by a comma and a blank. -/
def bracketed (entries : List String) : String := "[" ++ String.intercalate ", " entries ++ "]"

/-- A named group of fields in braces. -/
def group (name : String) (fields : List (String × String)) : String :=
  name ++ " \x7b " ++ String.intercalate ", " (fields.map fun f => f.1 ++ ": " ++ f.2) ++ " \x7d"

end TensorGraph.Text
