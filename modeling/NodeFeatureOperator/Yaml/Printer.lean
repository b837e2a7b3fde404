import NodeFeatureOperator.Json.Text
import NodeFeatureOperator.Text.Invisible
import NodeFeatureOperator.Yaml.Value

/-!
# Printing YAML

The YAML text of a JSON document, in block style: a table has a line for every name, a list a line
with a dash for every item, and what belongs to a name or an item is indented by two. Texts are
written plain where they read back as what they are.
-/

namespace NodeFeatureOperator.Yaml

/-- The characters that cannot begin a plain text. -/
def indicators : List Char :=
  ['#', ',', '[', ']', '\x7b', '\x7d', '&', '*', '!', '|', '>', '\'', '"', '%', '@', '\x60']

/-- Whether a character sequence could end a plain text early: a colon or a blank before what makes
it a mark. -/
def hasMark : List Char → Bool
  | [] => false
  | [c] => c = ':' || c = ' '
  | ':' :: ' ' :: _ => true
  | ' ' :: '#' :: _ => true
  | _ :: cs => hasMark cs

/-- Whether a character sequence begins as a plain text does not. -/
def beginsMarked : List Char → Bool
  | [] => true
  | c :: cs =>
    c ∈ indicators || c = ' ' || (c ∈ ['-', '?'] && (cs = [] || cs.head? = some ' '))
      || ['-', '-', '-'].isPrefixOf (c :: cs) || ['.', '.', '.'].isPrefixOf (c :: cs)

/-- Whether a character takes its place on a line and leaves a mark. -/
def isPrintable (c : Char) : Bool := ' ' ≤ c && c ≠ '\x7f' && !Text.isInvisible c || c = ' '

/-- Whether a text, written plain, reads back as itself. -/
def isPlain (s : String) : Bool :=
  !beginsMarked s.toList && !hasMark s.toList
    && match plain? s with
      | some (.str _) => true
      | _ => false

/-- A text on one line. -/
def printText (s : String) : String :=
  if !s.toList.all isPrintable then Json.renderString s
  else if isPlain s then s
  else "'" ++ String.join (s.toList.map fun c => if c = '\'' then "''" else String.singleton c)
    ++ "'"

/-- A document that needs only one line. -/
def printShort? : Json → Option String
  | .str s => some (printText s)
  | .arr [] => some "[]"
  | .obj [] => some "\x7b\x7d"
  | .arr _ => none
  | .obj _ => none
  | j => some j.render

/-- Lines indented by two. -/
def indent (lines : List String) : List String := lines.map ("  " ++ ·)

/-- The lines of an item: the first one behind a dash, the others under it. -/
def dashed : List String → List String
  | [] => ["-"]
  | line :: lines => ("- " ++ line) :: indent lines

mutual

/-- The lines of a document. -/
def lines : Json → List String
  | .arr (x :: xs) => itemLines (x :: xs)
  | .obj (f :: fs) => fieldLines (f :: fs)
  | j => [(printShort? j).getD ""]

/-- The lines of the items of a list. -/
def itemLines : List Json → List String
  | [] => []
  | x :: xs => dashed (lines x) ++ itemLines xs

/-- The lines of the fields of a table. A list stands as far to the left as its name. -/
def fieldLines : List (String × Json) → List String
  | [] => []
  | (name, v) :: fs =>
    let own := match printShort? v, v with
      | some text, _ => [printText name ++ ": " ++ text]
      | none, .arr _ => (printText name ++ ":") :: lines v
      | none, _ => (printText name ++ ":") :: indent (lines v)
    own ++ fieldLines fs

end

/-- The text of a document. -/
def print (j : Json) : String := String.join ((lines j).map (· ++ "\n"))

end NodeFeatureOperator.Yaml
