/-!
# Places in a YAML text

A cursor is a place in a text: what is still to be read, how many characters have been read, and the
line and column. A carriage return with a line feed behind it is one line break, and so are either of
them alone, the next-line character and the two Unicode separators.
-/

namespace NodeFeatureOperator.Yaml

/-- A place in a text. -/
structure Cursor where
  rest : List Char
  index : Nat := 0
  line : Nat := 0
  column : Nat := 0
deriving Repr, Inhabited

/-- Whether a character ends a line. -/
def isBreak (c : Char) : Bool :=
  c = '\n' || c = '\r' || c.toNat = 0x85 || c.toNat = 0x2028 || c.toNat = 0x2029

/-- Whether a character is a blank or a tab. -/
def isGap (c : Char) : Bool := c = ' ' || c = '\t'

/-- Whether a character may stand in the name of an anchor or of a tag handle. -/
def isNameChar (c : Char) : Bool := c.isAlphanum || c = '_' || c = '-'

/-- Whether a character may stand in a YAML text. -/
def isAllowed (c : Char) : Bool :=
  let n := c.toNat
  n = 9 || n = 10 || n = 13 || (0x20 ≤ n && n ≤ 0x7E) || n = 0x85 || (0xA0 ≤ n && n ≤ 0xD7FF)
    || (0xE000 ≤ n && n ≤ 0xFFFD) || 0x10000 ≤ n

namespace Cursor

/-- The start of a text. -/
def start (text : String) : Cursor := { rest := text.toList }

/-- The character `n` places ahead. -/
def ahead (c : Cursor) (n : Nat) : Option Char := c.rest[n]?

/-- Whether the character `n` places ahead is `ch`. -/
def sees (c : Cursor) (ch : Char) (n : Nat := 0) : Bool := c.ahead n = some ch

/-- Whether the text has an end or a line break `n` places ahead. -/
def endsLine (c : Cursor) (n : Nat := 0) : Bool := (c.ahead n).all isBreak

/-- Whether the text has an end, a line break, a blank or a tab `n` places ahead. -/
def endsWord (c : Cursor) (n : Nat := 0) : Bool :=
  (c.ahead n).all fun ch => isBreak ch || isGap ch

/-- Whether a line break comes next. -/
def atBreak (c : Cursor) : Bool := (c.ahead 0).any isBreak

/-- Whether a blank or a tab comes next. -/
def atGap (c : Cursor) : Bool := (c.ahead 0).any isGap

/-- The place `n` characters ahead on the same line. -/
def skip (c : Cursor) (n : Nat := 1) : Cursor :=
  { c with rest := c.rest.drop n, index := c.index + n, column := c.column + n }

/-- The place behind the characters that satisfy `p`, and these characters. -/
def span (c : Cursor) (p : Char → Bool) : List Char × Cursor :=
  let taken := c.rest.takeWhile p
  (taken, c.skip taken.length)

/-- The place behind the characters that satisfy `p`. -/
def skipWhile (c : Cursor) (p : Char → Bool) : Cursor := (c.span p).2

/-- The place behind a line break, if one comes next, and the break as a scalar keeps it: one line
feed, unless it is a Unicode separator. -/
def takeBreak (c : Cursor) : List Char × Cursor :=
  match c.rest with
  | '\r' :: '\n' :: rest =>
    (['\n'], { rest, index := c.index + 2, line := c.line + 1, column := 0 })
  | ch :: rest =>
    if isBreak ch then
      (if ch.toNat = 0x2028 ∨ ch.toNat = 0x2029 then [ch] else ['\n'],
        { rest, index := c.index + 1, line := c.line + 1, column := 0 })
    else ([], c)
  | [] => ([], c)

/-- The place behind a line break, if one comes next. -/
def skipBreak (c : Cursor) : Cursor := c.takeBreak.2

/-- Whether a line starts here with three times the same character and nothing more in the word. -/
def atMarker (c : Cursor) (ch : Char) : Bool :=
  c.column = 0 && c.sees ch && c.sees ch 1 && c.sees ch 2 && c.endsWord 3

/-- Whether a line starts here that divides documents. -/
def atDocumentMarker (c : Cursor) : Bool := c.atMarker '-' || c.atMarker '.'

/-- The place behind blanks, tabs and a comment. -/
def skipComment (c : Cursor) : Cursor :=
  let c := c.skipWhile isGap
  if c.sees '#' then c.skipWhile fun ch => !isBreak ch else c

end Cursor

end NodeFeatureOperator.Yaml
