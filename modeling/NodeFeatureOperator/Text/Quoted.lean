import NodeFeatureOperator.Text.Invisible

/-!
# Quoted text

A text between double quotes, as messages quote it: quotes and backslashes are escaped, line feeds,
carriage returns, tabs and the null character have short escapes, and every other character that
leaves no mark of its own is written by its code point.
-/

namespace NodeFeatureOperator.Text

/-- The hexadecimal digits of a code point, in lower case. -/
def hex (n : Nat) : List Char := Nat.toDigits 16 n

/-- One character of a quoted text. -/
def quoteChar (c : Char) : List Char :=
  if c = '"' then ['\\', '"']
  else if c = '\\' then ['\\', '\\']
  else if c = '\n' then ['\\', 'n']
  else if c = '\r' then ['\\', 'r']
  else if c = '\t' then ['\\', 't']
  else if c.toNat = 0 then ['\\', '0']
  else if c.toNat < 127 ∧ 32 ≤ c.toNat then [c]
  else if isInvisible c then ['\\', 'u', '\x7b'] ++ hex c.toNat ++ ['\x7d']
  else [c]

/-- A text with its quotes and escapes. -/
def quote (s : String) : String :=
  String.ofList ('"' :: s.toList.flatMap quoteChar ++ ['"'])

end NodeFeatureOperator.Text
