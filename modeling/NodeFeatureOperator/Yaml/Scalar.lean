import NodeFeatureOperator.Yaml.Cursor

/-!
# Scalars of a YAML text

How the three ways to write a scalar are read: plain, between quotes, and as a block of lines. Inside
the first two a run of blanks and line breaks folds: one break is a blank, and of several all but the
first stay. A reader gives nothing when the text is at fault.
-/

namespace NodeFeatureOperator.Yaml

/-- A run of blanks and line breaks between two words. Once there is a break, blanks do not count. -/
structure Gap where
  blanks : List Char := []
  /-- The first line break. -/
  first : List Char := []
  /-- All other line breaks. -/
  others : List Char := []
  broken : Bool := false

namespace Gap

/-- What stands between the two words in the end. -/
def fold (g : Gap) : List Char :=
  if g.broken then
    if g.first = ['\n'] then (if g.others.isEmpty then [' '] else g.others)
    else g.first ++ g.others
  else g.blanks

/-- Reads a run up to the next word. A tab in front of column `edge` is at fault once there has been
a break. -/
def read? (edge : Int) : Nat → Gap → Cursor → Option (Gap × Cursor)
  | 0, _, _ => none
  | fuel + 1, g, c =>
    if c.atGap then
      if g.broken then
        if (c.column : Int) < edge ∧ c.sees '\t' then none else read? edge fuel g c.skip
      else read? edge fuel { g with blanks := g.blanks ++ c.rest.take 1 } c.skip
    else if c.atBreak then
      let (taken, c) := c.takeBreak
      if g.broken then read? edge fuel { g with others := g.others ++ taken } c
      else read? edge fuel { g with blanks := [], first := taken, broken := true } c
    else some (g, c)

end Gap

/-! ## Plain scalars -/

/-- Whether a character opens, closes or divides a flow collection. -/
def isFlowMark (ch : Char) : Bool :=
  ch = ',' || ch = '[' || ch = ']' || ch = '\x7b' || ch = '\x7d'

/-- Reads the rest of a word of a plain scalar. -/
def plainWord? (flow : Bool) : Nat → List Char → Cursor → Option (List Char × Cursor)
  | 0, _, _ => none
  | fuel + 1, done, c =>
    match c.ahead 0 with
    | none => some (done.reverse, c)
    | some ch =>
      if isBreak ch || isGap ch then some (done.reverse, c)
      else if flow && ch = ':' && (c.ahead 1).any (fun d => isFlowMark d || d = '?') then none
      else if (ch = ':' && c.endsWord 1) || (flow && isFlowMark ch) then some (done.reverse, c)
      else plainWord? flow fuel (ch :: done) c.skip

/-- Reads words of a plain scalar behind `done` and the run `g`. The answer says whether the scalar
was left over a line break. -/
def plainWords? (flow : Bool) (edge : Int) :
    Nat → List Char → Gap → Cursor → Option (List Char × Bool × Cursor)
  | 0, _, _, _ => none
  | fuel + 1, done, g, c =>
    if c.atDocumentMarker || c.sees '#' then some (done, g.broken, c)
    else do
      let (word, c) ← plainWord? flow (c.rest.length + 1) [] c
      let (done, g) := if word.isEmpty then (done, g) else (done ++ g.fold ++ word, {})
      if !(c.atGap || c.atBreak) then return (done, g.broken, c)
      let (g, c) ← Gap.read? edge (c.rest.length + 1) g c
      if !flow && (c.column : Int) < edge then return (done, g.broken, c)
      plainWords? flow edge fuel done g c

/-- Reads a plain scalar whose lines reach to column `edge` at least. -/
def plainScalar? (flow : Bool) (edge : Int) (c : Cursor) : Option (String × Bool × Cursor) := do
  let (text, broken, c) ← plainWords? flow edge (c.rest.length + 1) [] {} c
  return (String.ofList text, broken, c)

/-! ## Quoted scalars -/

/-- The value of a hexadecimal digit. -/
def hexValue? (c : Char) : Option Nat :=
  if c.isDigit then some (c.toNat - '0'.toNat)
  else if 'a' ≤ c ∧ c ≤ 'f' then some (c.toNat - 'a'.toNat + 10)
  else if 'A' ≤ c ∧ c ≤ 'F' then some (c.toNat - 'A'.toNat + 10)
  else none

/-- The value of hexadecimal digits. -/
def hexNumber? (cs : List Char) : Option Nat :=
  cs.foldlM (fun n c => (hexValue? c).map (n * 16 + ·)) 0

/-- The character of a code point, if there is one. -/
def charOf? (n : Nat) : Option Char :=
  if h : n.isValidChar then some (Char.ofNatAux n h) else none

/-- The escapes of a single letter. -/
def shortEscapes : List (Char × Nat) :=
  [('0', 0), ('a', 7), ('b', 8), ('t', 9), ('\t', 9), ('n', 10), ('v', 11), ('f', 12), ('r', 13),
    ('e', 27), (' ', 32), ('"', 34), ('/', 47), ('\\', 92), ('N', 0x85), ('_', 0xA0),
    ('L', 0x2028), ('P', 0x2029)]

/-- The escapes that give a code point, with the number of its digits. -/
def longEscapes : List (Char × Nat) := [('x', 2), ('u', 4), ('U', 8)]

/-- The character of an escape, from behind the backslash on. -/
def escape? (c : Cursor) : Option (Char × Cursor) := do
  let letter ← c.ahead 0
  match shortEscapes.lookup letter, longEscapes.lookup letter with
  | some n, _ => return (← charOf? n, c.skip)
  | none, some width =>
    let digits := c.skip.rest.take width
    if digits.length < width then none
    else return (← (hexNumber? digits).bind charOf?, c.skip (width + 1))
  | none, none => none

/-- Reads the rest of a word between quotes. The answer says whether a backslash joined the line to
the next. -/
def quotedWord? (single : Bool) : Nat → List Char → Cursor → Option (List Char × Bool × Cursor)
  | 0, _, _ => none
  | fuel + 1, done, c =>
    match c.ahead 0 with
    | none => some (done.reverse, false, c)
    | some ch =>
      if isBreak ch || isGap ch then some (done.reverse, false, c)
      else if single && ch = '\'' && c.sees '\'' 1 then
        quotedWord? single fuel ('\'' :: done) (c.skip 2)
      else if ch = (if single then '\'' else '"') then some (done.reverse, false, c)
      else if !single && ch = '\\' then
        if (c.ahead 1).any isBreak then some (done.reverse, true, c.skip.skipBreak)
        else
          match escape? c.skip with
          | some (escaped, c) => quotedWord? single fuel (escaped :: done) c
          | none => none
      else quotedWord? single fuel (ch :: done) c.skip

/-- Reads words between quotes behind `done`, up to the closing quote. -/
def quotedWords? (single : Bool) : Nat → List Char → Cursor → Option (List Char × Cursor)
  | 0, _, _ => none
  | fuel + 1, done, c =>
    if c.atDocumentMarker || c.rest.isEmpty then none
    else do
      let (word, joined, c) ← quotedWord? single (c.rest.length + 1) [] c
      let done := done ++ word
      if c.sees (if single then '\'' else '"') then return (done, c.skip)
      let (g, c) ← Gap.read? (-1) (c.rest.length + 1) { broken := joined } c
      quotedWords? single fuel (done ++ g.fold) c

/-- Reads a scalar from behind its opening quote on. -/
def quotedScalar? (single : Bool) (c : Cursor) : Option (String × Cursor) := do
  let (text, c) ← quotedWords? single (c.rest.length + 2) [] c
  return (String.ofList text, c)

/-! ## Block scalars -/

/-- What happens to the line breaks at the end of a block. -/
inductive Chomping where
  | strip
  | clip
  | keep
deriving DecidableEq

/-- Reads the signs behind the mark of a block scalar: chomping and indentation, in either order. -/
def blockHeader? (c : Cursor) : Option (Chomping × Option Nat × Cursor) :=
  match chomping? c with
  | some (chomping, c) =>
    match indentation? c with
    | some (indent, c) => some (chomping, indent, c)
    | none => none
  | none =>
    match indentation? c with
    | some (indent, c) =>
      match indent, chomping? c with
      | some _, some (chomping, c) => some (chomping, indent, c)
      | _, _ => some (.clip, indent, c)
    | none => none
where
  /-- A sign for the line breaks at the end. -/
  chomping? (c : Cursor) : Option (Chomping × Cursor) :=
    if c.sees '+' then some (.keep, c.skip)
    else if c.sees '-' then some (.strip, c.skip)
    else none
  /-- A digit for the indentation, which is not zero. -/
  indentation? (c : Cursor) : Option (Option Nat × Cursor) :=
    match c.ahead 0 with
    | some ch =>
      if ch = '0' then none
      else if ch.isDigit then some (some (ch.toNat - '0'.toNat), c.skip)
      else some (none, c)
    | none => some (none, c)

/-- Reads blank lines of a block and the indentation of the line behind them. As long as the
indentation is unknown, all blanks belong to it; `deepest` is the deepest column met. -/
def blockBreaks? (indent : Option Nat) :
    Nat → Nat → List Char → Cursor → Option (Nat × List Char × Cursor)
  | 0, _, _, _ => none
  | fuel + 1, deepest, breaks, c =>
    let blanks := c.rest.takeWhile (· = ' ')
    let c := c.skip (match indent with
      | some n => min blanks.length (n - c.column)
      | none => blanks.length)
    let deepest := max deepest c.column
    if c.sees '\t' && indent.all (c.column < ·) then none
    else if c.atBreak then
      let (taken, c) := c.takeBreak
      blockBreaks? indent fuel deepest (breaks ++ taken) c
    else some (deepest, breaks, c)

/-- Reads the lines of a block. `first` is the break behind the line before, `others` are the breaks
of blank lines since, and `spaced` says whether the line before starts with a blank. -/
def blockLines? (literal : Bool) (indent : Nat) :
    Nat → List Char → List Char → List Char → Bool → Cursor →
      Option (List Char × List Char × List Char × Cursor)
  | 0, _, _, _, _, _ => none
  | fuel + 1, done, first, others, spaced, c =>
    if c.column ≠ indent ∨ c.rest.isEmpty then some (done, first, others, c)
    else do
      let blank := c.atGap
      let join :=
        if !literal && first = ['\n'] && !spaced && !blank then
          (if others.isEmpty then [' '] else [])
        else first
      let (line, c) := c.span fun ch => !isBreak ch
      let (first, c) := c.takeBreak
      let done := done ++ join ++ others ++ line
      let (_, others, c) ← blockBreaks? (some indent) (c.rest.length + 1) 0 [] c
      blockLines? literal indent fuel done first others blank c

/-- Reads a block scalar from behind its mark on, inside a block that is indented to `parent`. -/
def blockScalar? (literal : Bool) (parent : Int) (c : Cursor) : Option (String × Cursor) := do
  let (chomping, given, c) ← blockHeader? c
  let c := c.skipComment
  if !c.endsLine then none
  else
    let c := c.skipBreak
    let given := given.map fun n => (max parent 0).toNat + n
    let (deepest, others, c) ← blockBreaks? given (c.rest.length + 1) 0 [] c
    let indent := given.getD (max (max deepest (parent + 1).toNat) 1)
    let (done, first, others, c) ← blockLines? literal indent (c.rest.length + 1) [] [] others false c
    let tail := match chomping with
      | .strip => []
      | .clip => first
      | .keep => first ++ others
    return (String.ofList (done ++ tail), c)

end NodeFeatureOperator.Yaml
