import RegionGraph.Text.Visible

/-!
# Quoted text

Text as it is shown for inspection: in quotation marks, with quotation marks,
backslashes and all that does not show as itself escaped. Quoted text holds no line break and
ends at its first bare quotation mark.
-/

namespace RegionGraph.Quoted

/-- The characters that stand for one character inside quotation marks. -/
def escape (c : Char) : List Char :=
  if c = '"' then ['\\', '"']
  else if c = '\\' then ['\\', '\\']
  else if c = '\n' then ['\\', 'n']
  else if c = '\r' then ['\\', 'r']
  else if c = '\t' then ['\\', 't']
  else if c = '\x00' then ['\\', '0']
  else if isVisible c then [c]
  else ['\\', 'u', '\x7b'] ++ Nat.toDigits 16 c.toNat ++ ['\x7d']

/-- A text in quotation marks. -/
def text (content : String) : String :=
  String.ofList ('"' :: content.toList.flatMap escape ++ ['"'])

/-- Several texts in brackets. -/
def list (contents : List String) : String :=
  "[" ++ String.intercalate ", " (contents.map text) ++ "]"

end RegionGraph.Quoted
