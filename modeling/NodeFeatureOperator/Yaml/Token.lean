import NodeFeatureOperator.Yaml.Scalar

/-!
# Tokens of a YAML text

`Yaml.tokens` divides a text into tokens. Where a block begins and ends is told by indentation; that
something is the key of a mapping is told by the colon behind it, so the place of a possible key is
remembered until its line is over. A text at fault has the tokens in front of the fault, without the
token that ends the stream.
-/

namespace NodeFeatureOperator.Yaml

/-- A token. -/
inductive Token where
  | versionDirective (major minor : Nat)
  | tagDirective (handle lead : String)
  | documentStart
  | documentEnd
  | streamEnd
  | blockSequenceStart
  | blockMappingStart
  | blockEnd
  | flowSequenceStart
  | flowSequenceEnd
  | flowMappingStart
  | flowMappingEnd
  | blockEntry
  | flowEntry
  | key
  | value
  | reference (name : String)
  | anchor (name : String)
  | tag (handle suffix : String)
  | scalar (text : String) (plain : Bool)
deriving DecidableEq, Repr, Inhabited

/-! ## Anchors and tags -/

/-- Reads the name of an anchor from behind its mark on. -/
def anchorName? (c : Cursor) : Option (String × Cursor) :=
  let (name, c) := c.span isNameChar
  if name.isEmpty then none
  else if c.endsWord || (c.ahead 0).any (fun ch => ch ∈ ['?', ':', ',', ']', '\x7d', '%', '@', '\x60'])
  then some (String.ofList name, c)
  else none

/-- Whether a character may stand in a tag; some may only between angle brackets. -/
def isTagChar (bracketed : Bool) (ch : Char) : Bool :=
  isNameChar ch || ch ∈ [';', '/', '?', ':', '@', '&', '=', '+', '$', '.', '!', '~', '*', '\'', '(', ')']
    || (bracketed && ch ∈ [',', '[', ']'])

/-- The number of bytes of a character whose first byte this is. -/
def byteCount? (n : Nat) : Option Nat :=
  if n < 0x80 then some 1
  else if 0xC0 ≤ n ∧ n < 0xE0 then some 2
  else if 0xE0 ≤ n ∧ n < 0xF0 then some 3
  else if 0xF0 ≤ n ∧ n < 0xF8 then some 4
  else none

/-- Reads bytes written with percent signs. -/
def percentBytes? : Nat → Cursor → Option (List Nat × Cursor)
  | 0, c => some ([], c)
  | n + 1, c =>
    match c.rest with
    | '%' :: a :: b :: _ => do
      let byte ← hexNumber? [a, b]
      let (bytes, c) ← percentBytes? n (c.skip 3)
      return (byte :: bytes, c)
    | _ => none

/-- Reads a character written with percent signs, byte by byte. -/
def percentChar? (c : Cursor) : Option (Char × Cursor) := do
  let (lead, _) ← percentBytes? 1 c
  let first := lead.headD 0
  let count ← byteCount? first
  let (bytes, c) ← percentBytes? count c
  let tail := bytes.drop 1
  if tail.any fun b => b / 64 ≠ 2 then none
  else
    let top := if count = 1 then first else first % Nat.pow 2 (7 - count)
    return (← charOf? (tail.foldl (fun n b => n * 64 + b % 64) top), c)

/-- Reads the characters of a tag. -/
def tagChars? (bracketed : Bool) : Nat → List Char → Cursor → Option (List Char × Cursor)
  | 0, _, _ => none
  | fuel + 1, done, c =>
    match c.ahead 0 with
    | some '%' =>
      match percentChar? c with
      | some (ch, c) => tagChars? bracketed fuel (ch :: done) c
      | none => none
    | some ch =>
      if isTagChar bracketed ch then tagChars? bracketed fuel (ch :: done) c.skip
      else some (done.reverse, c)
    | none => some (done.reverse, c)

/-- Reads a tag behind what is known of it already, which may not be nothing. -/
def tagText? (bracketed : Bool) (known : List Char) (c : Cursor) : Option (List Char × Cursor) := do
  let (chars, c) ← tagChars? bracketed (c.rest.length + 1) [] c
  if known.isEmpty && chars.isEmpty then none
  else return (known.drop 1 ++ chars, c)

/-- Reads a tag handle: an exclamation mark, or a name between two of them. -/
def tagHandle? (c : Cursor) : Option (List Char × Cursor) :=
  if c.sees '!' then
    let (name, c) := c.skip.span isNameChar
    if c.sees '!' then some ('!' :: name ++ ['!'], c.skip) else some ('!' :: name, c)
  else none

/-- Reads a tag. -/
def tag? (flow : Bool) (c : Cursor) : Option (Token × Cursor) := do
  let (token, c) ←
    if c.sees '<' 1 then do
      let (text, c) ← tagText? true [] (c.skip 2)
      if c.sees '>' then some (Token.tag "" (String.ofList text), c.skip) else none
    else do
      let (handle, c) ← tagHandle? c
      if handle.length > 1 && handle.getLast? = some '!' then
        let (text, c) ← tagText? false [] c
        some (Token.tag (String.ofList handle) (String.ofList text), c)
      else
        let (text, c) ← tagText? false handle c
        if text.isEmpty then some (Token.tag "" "!", c)
        else some (Token.tag "!" (String.ofList text), c)
  if c.endsWord || (flow && c.sees ',') then return (token, c) else none

/-! ## Directives -/

/-- Reads a number of at most nine digits. -/
def versionNumber? (c : Cursor) : Option (Nat × Cursor) :=
  let (digits, c) := c.span Char.isDigit
  if digits.isEmpty || digits.length > 9 then none
  else some (digits.foldl (fun n d => n * 10 + (d.toNat - '0'.toNat)) 0, c)

/-- Reads a directive, with its line. -/
def directive? (c : Cursor) : Option (Token × Cursor) := do
  let (name, c) := c.skip.span isNameChar
  if !c.endsWord then none
  else
    let (token, c) ← match String.ofList name with
      | "YAML" => do
        let (major, c) ← versionNumber? (c.skipWhile isGap)
        if !c.sees '.' then none
        else
          let (minor, c) ← versionNumber? c.skip
          some (Token.versionDirective major minor, c)
      | "TAG" => do
        let (handle, c) ← tagHandle? (c.skipWhile isGap)
        if handle.length > 1 && handle.getLast? ≠ some '!' then none
        else if !c.atGap then none
        else
          let (lead, c) ← tagText? true [] (c.skipWhile isGap)
          if !c.endsWord then none
          else some (Token.tagDirective (String.ofList handle) (String.ofList lead), c)
      | _ => none
    let c := c.skipComment
    if c.endsLine then return (token, c.skipBreak) else none

/-! ## Layout -/

/-- The place of something that is a key if a colon follows on its line. -/
structure KeySpot where
  /-- Whether it stands where only a key may stand. -/
  required : Bool
  /-- The number of tokens in front of it. -/
  position : Nat
  index : Nat
  line : Nat
  column : Nat

/-- What is known while a text is divided into tokens. -/
structure Layout where
  cursor : Cursor
  tokens : List Token := []
  /-- The indentation of the block, and those of the blocks around it. -/
  indent : Int := -1
  outer : List Int := []
  /-- Whether a key may start here. -/
  keyAllowed : Bool := true
  /-- The possible key of the flow collection, and those of the collections around it. The last is
  that of the block. -/
  spot : Option KeySpot := none
  spots : List (Option KeySpot) := []

namespace Layout

/-- Whether the place is inside a flow collection. -/
def inFlow (l : Layout) : Bool := !l.spots.isEmpty

/-- Appends a token and goes on at another place. -/
def push (l : Layout) (t : Token) (c : Cursor) : Layout :=
  { l with tokens := l.tokens ++ [t], cursor := c }

/-- Gives up the possible key. It is a fault to give up one that is required. -/
def dropSpot? (l : Layout) : Option Layout :=
  if l.spot.any (·.required) then none else some { l with spot := none }

/-- Gives up the possible keys whose line is over or whose colon is too far off. -/
def dropStale? (l : Layout) : Option Layout :=
  let stale (s : KeySpot) : Bool := s.line < l.cursor.line || s.index + 1024 < l.cursor.index
  let live (s : Option KeySpot) : Option KeySpot := s.filter fun s => !stale s
  if (l.spot :: l.spots).any (fun s => s.any fun s => s.required && stale s) then none
  else some { l with spot := live l.spot, spots := l.spots.map live }

/-- Remembers a possible key at this place, if a key may start here. -/
def saveSpot? (l : Layout) : Option Layout :=
  if l.keyAllowed then do
    let l ← l.dropSpot?
    let c := l.cursor
    let spot : KeySpot :=
      ⟨!l.inFlow && l.indent = c.column, l.tokens.length, c.index, c.line, c.column⟩
    return { l with spot := some spot }
  else some l

/-- Opens a block at a column, unless there is one. The token that says so stands at a position. -/
def roll (l : Layout) (column position : Nat) (t : Token) : Layout :=
  if !l.inFlow && l.indent < column then
    { l with outer := l.indent :: l.outer, indent := column
             tokens := l.tokens.insertIdx position t }
  else l

/-- Closes blocks that are indented to more than a column. -/
def unrollTo (indent : Int) (outer : List Int) (column : Int) (tokens : List Token) :
    Int × List Int × List Token :=
  if indent > column then
    match outer with
    | indent :: outer => unrollTo indent outer column (tokens ++ [.blockEnd])
    | [] => (indent, [], tokens)
  else (indent, outer, tokens)

/-- Closes blocks that are indented to more than a column. Inside a flow collection none ends. -/
def unroll (l : Layout) (column : Int) : Layout :=
  if l.inFlow then l
  else
    let (indent, outer, tokens) := unrollTo l.indent l.outer column l.tokens
    { l with indent, outer, tokens }

/-- Goes to the next token, over blanks, comments and line breaks. Tabs count as blanks only where no
key may start. -/
def skipSpace : Nat → Layout → Layout
  | 0, l => l
  | fuel + 1, l =>
    let c := if l.cursor.index = 0 ∧ (l.cursor.ahead 0).any (·.toNat = 0xFEFF) then l.cursor.skip
      else l.cursor
    let c := c.skipWhile fun ch => ch = ' ' || ((l.inFlow || !l.keyAllowed) && ch = '\t')
    let c := if c.sees '#' then c.skipWhile fun ch => !isBreak ch else c
    if c.atBreak then
      skipSpace fuel { l with cursor := c.skipBreak, keyAllowed := l.keyAllowed || !l.inFlow }
    else { l with cursor := c }

/-- Opens a block for a token that starts one, which is a fault where no key may start. -/
def open? (l : Layout) (t : Token) : Option Layout :=
  if l.inFlow then some l
  else if l.keyAllowed then some (l.roll l.cursor.column l.tokens.length t)
  else none

/-- The value of a mapping: the colon. -/
def value? (l : Layout) : Option Layout :=
  let c := l.cursor.skip
  match l.spot with
  | some s =>
    let l := { l with tokens := l.tokens.insertIdx s.position .key }
    let l := l.roll s.column s.position .blockMappingStart
    some ({ l with spot := none, keyAllowed := false }.push .value c)
  | none => do
    let l ← l.open? .blockMappingStart
    return { l with keyAllowed := !l.inFlow }.push .value c

/-- A token that may be a key and behind which none may start, read from this place. -/
def node? (l : Layout) (read : Cursor → Option (Token × Cursor)) : Option Layout := do
  let l ← l.saveSpot?
  let (t, c) ← read l.cursor
  return { l with keyAllowed := false }.push t c

/-- A plain scalar. If it is left over a line break, a key may start behind it. -/
def plain? (l : Layout) : Option Layout := do
  let l ← l.saveSpot?
  let (text, broken, c) ← plainScalar? l.inFlow (l.indent + 1) l.cursor
  return { l with keyAllowed := broken }.push (.scalar text true) c

/-- A block scalar, from its mark on. -/
def block? (l : Layout) (literal : Bool) : Option Layout := do
  let l ← l.dropSpot?
  let (text, c) ← blockScalar? literal l.indent l.cursor.skip
  return { l with keyAllowed := true }.push (.scalar text false) c

/-- The start of a flow collection. -/
def openFlow? (l : Layout) (t : Token) : Option Layout := do
  let l ← l.saveSpot?
  return { l with spot := none, spots := l.spot :: l.spots, keyAllowed := true }.push t l.cursor.skip

/-- The end of a flow collection. -/
def closeFlow? (l : Layout) (t : Token) : Option Layout := do
  let l ← l.dropSpot?
  let l := match l.spots with
    | s :: spots => { l with spot := s, spots }
    | [] => l
  return { l with keyAllowed := false }.push t l.cursor.skip

/-- A mark of one character that divides entries. -/
def mark? (l : Layout) (t : Token) (keyAllowed : Bool) : Option Layout := do
  let l ← l.dropSpot?
  return { l with keyAllowed }.push t l.cursor.skip

/-- A line that closes all blocks. -/
def boundary? (l : Layout) : Option Layout := do
  let l ← (l.unroll (-1)).dropSpot?
  return { l with keyAllowed := false }

/-- Whether a plain scalar may start with a character, behind which the text goes on. -/
def startsPlain (l : Layout) (ch : Char) : Bool :=
  let c := l.cursor
  !(isBreak ch || isGap ch || ch ∈ ['-', '?', ':', ',', '[', ']', '\x7b', '\x7d', '#', '&', '*', '!',
      '|', '>', '\'', '"', '%', '@', '\x60'])
    || (ch = '-' && !(c.ahead 1).any isGap)
    || (!l.inFlow && (ch = '?' || ch = ':') && !c.endsWord 1)

/-- Reads the token that starts with a character. -/
def token? (l : Layout) (ch : Char) : Option Layout :=
  let c := l.cursor
  if c.column = 0 && ch = '%' then do
    let l ← l.boundary?
    let (t, c) ← directive? c
    return l.push t c
  else if c.atMarker '-' then do return (← l.boundary?).push .documentStart (c.skip 3)
  else if c.atMarker '.' then do return (← l.boundary?).push .documentEnd (c.skip 3)
  else if ch = '[' then l.openFlow? .flowSequenceStart
  else if ch = '\x7b' then l.openFlow? .flowMappingStart
  else if ch = ']' then l.closeFlow? .flowSequenceEnd
  else if ch = '\x7d' then l.closeFlow? .flowMappingEnd
  else if ch = ',' then l.mark? .flowEntry true
  else if ch = '-' && c.endsWord 1 then do
    (← l.open? .blockSequenceStart).mark? .blockEntry true
  else if ch = '?' && (l.inFlow || c.endsWord 1) then do
    (← l.open? .blockMappingStart).mark? .key (!l.inFlow)
  else if ch = ':' && (l.inFlow || c.endsWord 1) then l.value?
  else if ch = '*' then
    l.node? fun c => (anchorName? c.skip).map fun (name, c) => (.reference name, c)
  else if ch = '&' then
    l.node? fun c => (anchorName? c.skip).map fun (name, c) => (.anchor name, c)
  else if ch = '!' then l.node? (tag? l.inFlow)
  else if ch = '|' && !l.inFlow then l.block? true
  else if ch = '>' && !l.inFlow then l.block? false
  else if ch = '\'' then
    l.node? fun c => (quotedScalar? true c.skip).map fun (text, c) => (.scalar text false, c)
  else if ch = '"' then
    l.node? fun c => (quotedScalar? false c.skip).map fun (text, c) => (.scalar text false, c)
  else if l.startsPlain ch then l.plain?
  else none

/-- Reads all tokens. -/
def run : Nat → Layout → List Token
  | 0, l => l.tokens
  | fuel + 1, l =>
    let l := skipSpace (l.cursor.rest.length + 1) l
    match l.dropStale? with
    | none => l.tokens
    | some l =>
      let l := l.unroll l.cursor.column
      match l.cursor.ahead 0 with
      | none =>
        match l.boundary? with
        | some l => l.tokens ++ [.streamEnd]
        | none => l.tokens
      | some ch =>
        match l.token? ch with
        | some l => run fuel l
        | none => l.tokens

end Layout

/-- The tokens of a text. A character that may not stand in a text spoils all of it. -/
def tokens (text : String) : List Token :=
  if text.toList.all isAllowed then
    Layout.run (text.toList.length + 2) { cursor := .start text }
  else []

end NodeFeatureOperator.Yaml
