import TensorGraph.Text
import TensorGraph.Text.NonPrinting

/-!
# Texts in quotes

In a description a text stands between double quotes, and then everything has to show: the quote
and the backslash are marked by a backslash, common controls have a letter of their own, and every
other character that leaves no mark on the page is written as its number.
-/

set_option autoImplicit false

namespace TensorGraph.Text

/-- How a character stands between quotes. -/
def quotedChar (c : Char) : String :=
  if c = '"' then "\\\""
  else if c = '\\' then "\\\\"
  else if c = '\n' then "\\n"
  else if c = '\r' then "\\r"
  else if c = '\t' then "\\t"
  else if c = '\x00' then "\\0"
  else if isNonPrinting c then "\\u\x7b" ++ String.ofList (Nat.toDigits 16 c.toNat) ++ "\x7d"
  else c.toString

/-- A text between double quotes. -/
def quoted (text : String) : String := "\"" ++ String.join (text.toList.map quotedChar) ++ "\""

end TensorGraph.Text
