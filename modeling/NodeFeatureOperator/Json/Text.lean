import NodeFeatureOperator.Json.Basic
import NodeFeatureOperator.Decimal.Shortest

/-!
# JSON text

`Json.render` writes a document without blanks; `Json.parse?` reads one. The reader takes exactly
the grammar of JSON: no control character inside a string, no lone surrogate escape, no more than
127 open arrays and objects, nothing after the document. Of two fields with one name the later
wins. An integer that does not fit 64 bits, and a negative zero, is read as a floating-point number.
-/

namespace NodeFeatureOperator.Json

/-! ## Writing -/

/-- A character inside a string: quotes, backslashes and control characters are escaped. -/
def renderChar (c : Char) : List Char :=
  if c = '"' then ['\\', '"']
  else if c = '\\' then ['\\', '\\']
  else if c = '\n' then ['\\', 'n']
  else if c = '\r' then ['\\', 'r']
  else if c = '\t' then ['\\', 't']
  else if c.toNat = 8 then ['\\', 'b']
  else if c.toNat = 12 then ['\\', 'f']
  else if c.toNat < 32 then
    ['\\', 'u', '0', '0', Nat.digitChar (c.toNat / 16), Nat.digitChar (c.toNat % 16)]
  else [c]

/-- A string with its quotes. -/
def renderString (s : String) : String :=
  String.ofList ('"' :: s.toList.flatMap renderChar ++ ['"'])

mutual

/-- The text of a document, without blanks. -/
def render : Json → String
  | .null => "null"
  | .bool true => "true"
  | .bool false => "false"
  | .int i => toString i
  | .float x => if Binary64.finite x then Binary64.toText x else "null"
  | .str s => renderString s
  | .arr xs => "[" ++ ",".intercalate (renderItems xs) ++ "]"
  | .obj fs => "\x7b" ++ ",".intercalate (renderFields fs) ++ "\x7d"

/-- The texts of the items of an array. -/
def renderItems : List Json → List String
  | [] => []
  | x :: xs => render x :: renderItems xs

/-- The texts of the fields of an object. -/
def renderFields : List (String × Json) → List String
  | [] => []
  | (k, v) :: fs => (renderString k ++ ":" ++ render v) :: renderFields fs

end

/-! ## Numbers -/

/-- The value of a decimal digit. -/
def digitValue (c : Char) : Nat := c.toNat - '0'.toNat

/-- Reads digits into a significand of 64 bits, and counts the digits that no longer fit. -/
def accumulate (significand : Nat) : List Char → Nat × Nat
  | [] => (significand, 0)
  | c :: cs =>
    let next := significand * 10 + digitValue c
    if next < Nat.pow 2 64 then accumulate next cs else (significand, cs.length + 1)

/-- The exponent part of a number, and what follows it. No exponent counts as zero. -/
def readExponent? (cs : List Char) : Option (Option Int × List Char) :=
  match cs with
  | e :: rest =>
    if e = 'e' ∨ e = 'E' then
      let signed : Bool × List Char :=
        match rest with
        | '+' :: r => (false, r)
        | '-' :: r => (true, r)
        | r => (false, r)
      let digits := signed.2.takeWhile Char.isDigit
      if digits.isEmpty then none
      else
        let n : Nat := digits.foldl (fun a c => a * 10 + digitValue c) 0
        some (some (if signed.1 then -(n : Int) else n), signed.2.dropWhile Char.isDigit)
    else some (none, cs)
  | [] => some (none, [])

/-- A number, and what follows it. -/
def readNumber? (cs : List Char) : Option (Json × List Char) := do
  let (negative, cs) := match cs with
    | '-' :: r => (true, r)
    | r => (false, r)
  let whole := cs.takeWhile Char.isDigit
  let cs := cs.dropWhile Char.isDigit
  if whole.isEmpty ∨ (whole.length > 1 ∧ whole.head? = some '0') then none
  let (significand, dropped) := accumulate 0 whole
  let (fraction, cs) ← match cs with
    | '.' :: r =>
      let digits := r.takeWhile Char.isDigit
      if digits.isEmpty then none else some (some digits, r.dropWhile Char.isDigit)
    | r => some (none, r)
  let (exponent, cs) ← readExponent? cs
  if fraction.isNone ∧ exponent.isNone ∧ dropped = 0 then
    if !negative then return (.int significand, cs)
    else if significand ≠ 0 ∧ significand ≤ Nat.pow 2 63 then return (.int (-(significand : Int)), cs)
    else
      let x ← Binary64.ofDecimal? true significand.toUInt64 0
      return (.float x, cs)
  else
    let digits := fraction.getD []
    let (significand, shift) :=
      if dropped > 0 then (significand, (dropped : Int))
      else
        let (s, lost) := accumulate significand digits
        (s, -((digits.length - lost : Nat) : Int))
    let x ← Binary64.ofDecimal? negative significand.toUInt64 (shift + exponent.getD 0)
    return (.float x, cs)

/-! ## Strings -/

/-- The value of four hexadecimal digits, and what follows them. -/
def readHex4? : List Char → Option (Nat × List Char)
  | a :: b :: c :: d :: rest => do
    let digit := fun (c : Char) =>
      if c.isDigit then some (c.toNat - '0'.toNat)
      else if 'a' ≤ c ∧ c ≤ 'f' then some (c.toNat - 'a'.toNat + 10)
      else if 'A' ≤ c ∧ c ≤ 'F' then some (c.toNat - 'A'.toNat + 10)
      else none
    let a ← digit a
    let b ← digit b
    let c ← digit c
    let d ← digit d
    return (((a * 16 + b) * 16 + c) * 16 + d, rest)
  | _ => none

/-- The character of an escape, after its backslash, and what follows it. Two escapes of
surrogates stand for one character. -/
def readEscape? : List Char → Option (Char × List Char)
  | '"' :: r => some ('"', r)
  | '\\' :: r => some ('\\', r)
  | '/' :: r => some ('/', r)
  | 'b' :: r => some (Char.ofNat 8, r)
  | 'f' :: r => some (Char.ofNat 12, r)
  | 'n' :: r => some ('\n', r)
  | 'r' :: r => some ('\r', r)
  | 't' :: r => some ('\t', r)
  | 'u' :: r => do
    let (hi, r) ← readHex4? r
    if 0xDC00 ≤ hi ∧ hi < 0xE000 then none
    else if 0xD800 ≤ hi ∧ hi < 0xDC00 then
      match r with
      | '\\' :: 'u' :: r =>
        let (lo, r) ← readHex4? r
        if 0xDC00 ≤ lo ∧ lo < 0xE000 then
          return (Char.ofNat (0x10000 + (hi - 0xD800) * 0x400 + (lo - 0xDC00)), r)
        else none
      | _ => none
    else return (Char.ofNat hi, r)
  | _ => none

/-- The rest of a string, after its opening quote, and what follows the string. -/
def readString? (fuel : Nat) (done : List Char) (cs : List Char) : Option (String × List Char) :=
  match fuel, cs with
  | 0, _ => none
  | _, [] => none
  | fuel + 1, c :: rest =>
    if c = '"' then some (String.ofList done.reverse, rest)
    else if c = '\\' then
      match readEscape? rest with
      | some (c, rest) => readString? fuel (c :: done) rest
      | none => none
    else if c.toNat < 32 then none
    else readString? fuel (c :: done) rest

/-! ## Documents -/

/-- What follows the blanks. -/
def skipBlanks (cs : List Char) : List Char :=
  cs.dropWhile fun c => c = ' ' ∨ c = '\n' ∨ c = '\t' ∨ c = '\r'

mutual

/-- A document, and what follows it. `depth` is the number of arrays and objects that may still be
opened. -/
def readValue? (fuel depth : Nat) (cs : List Char) : Option (Json × List Char) :=
  match fuel with
  | 0 => none
  | fuel + 1 =>
    match skipBlanks cs with
    | 'n' :: 'u' :: 'l' :: 'l' :: r => some (.null, r)
    | 't' :: 'r' :: 'u' :: 'e' :: r => some (.bool true, r)
    | 'f' :: 'a' :: 'l' :: 's' :: 'e' :: r => some (.bool false, r)
    | '"' :: r => (readString? (r.length + 1) [] r).map fun (s, r) => (.str s, r)
    | '[' :: r =>
      if depth = 0 then none
      else
        match skipBlanks r with
        | ']' :: r => some (.arr [], r)
        | r => readItems? fuel (depth - 1) [] r
    | '\x7b' :: r =>
      if depth = 0 then none
      else
        match skipBlanks r with
        | '\x7d' :: r => some (.obj [], r)
        | r => readFields? fuel (depth - 1) [] r
    | r => readNumber? r

/-- The rest of an array, with its items so far. -/
def readItems? (fuel depth : Nat) (done : List Json) (cs : List Char) :
    Option (Json × List Char) :=
  match fuel with
  | 0 => none
  | fuel + 1 =>
    match readValue? fuel depth cs with
    | none => none
    | some (v, r) =>
      match skipBlanks r with
      | ',' :: r => readItems? fuel depth (v :: done) r
      | ']' :: r => some (.arr (v :: done).reverse, r)
      | _ => none

/-- The rest of an object, with its fields so far. -/
def readFields? (fuel depth : Nat) (done : Fields) (cs : List Char) : Option (Json × List Char) :=
  match fuel with
  | 0 => none
  | fuel + 1 =>
    match skipBlanks cs with
    | '"' :: r =>
      match readString? (r.length + 1) [] r with
      | none => none
      | some (k, r) =>
        match skipBlanks r with
        | ':' :: r =>
          match readValue? fuel depth r with
          | none => none
          | some (v, r) =>
            match skipBlanks r with
            | ',' :: r => readFields? fuel depth (Table.insert done k v) r
            | '\x7d' :: r => some (.obj (Table.insert done k v), r)
            | _ => none
        | _ => none
    | _ => none

end

/-- The document that a text holds, if it holds one and nothing else. -/
def parse? (text : String) : Option Json :=
  let cs := text.toList
  match readValue? (2 * cs.length + 2) 127 cs with
  | some (v, r) => if (skipBlanks r).isEmpty then some v else none
  | none => none

end NodeFeatureOperator.Json
