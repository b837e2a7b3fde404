import NodeFeatureOperator.Yaml.Node
import NodeFeatureOperator.Json.Basic
import NodeFeatureOperator.Decimal.Shortest

/-!
# Values of a YAML text

The value of a node: references are followed, plain scalars are read as null, booleans, numbers or
texts, and tags of the user's own are kept. A value becomes a JSON document if its keys can be
written as texts.
-/

namespace NodeFeatureOperator.Yaml

/-- A value. -/
inductive Value where
  | null
  | bool (value : Bool)
  | int (value : Int)
  /-- A number with a fraction, an infinity or no number at all. -/
  | float (bits : UInt64)
  | str (text : String)
  | seq (items : List Value)
  | map (entries : List (Value × Value))
  | tagged (tag : String) (content : Value)
deriving Repr, Inhabited

/-! ## Plain scalars -/

/-- The text without a sign in front. -/
def unsigned : List Char → List Char
  | '-' :: cs => cs
  | '+' :: cs => cs
  | cs => cs

/-- Whether the digits have a zero in front, which makes them a text. -/
def hasLeadingZero (cs : List Char) : Bool :=
  match unsigned cs with
  | '0' :: c :: cs => (c :: cs).all Char.isDigit
  | _ => false

/-- The number that digits of a base give. -/
def digits? (base : Nat) (cs : List Char) : Option Nat :=
  if cs.isEmpty then none
  else cs.foldlM (fun n c => ((hexValue? c).filter (· < base)).map (n * base + ·)) 0

/-- The number that digits give: of base 16, 8 or 2 if they say so, of base 10 else. -/
def magnitude? : List Char → Option Nat
  | '0' :: 'x' :: cs => digits? 16 cs
  | '0' :: 'o' :: cs => digits? 8 cs
  | '0' :: 'b' :: cs => digits? 2 cs
  | cs => digits? 10 cs

/-- The integer that a plain scalar gives. -/
def integer? (cs : List Char) : Option Int :=
  if hasLeadingZero cs then none
  else
    match cs with
    | '-' :: cs => (magnitude? cs).map fun n => -(n : Int)
    | '+' :: cs => (magnitude? cs).map fun n => (n : Int)
    | cs => (magnitude? cs).map fun n => (n : Int)

/-- The bits of positive infinity. -/
def infinity : UInt64 := 0x7FF0000000000000

/-- The bits of negative infinity. -/
def negativeInfinity : UInt64 := 0xFFF0000000000000

/-- The bits of what is no number. -/
def notANumber : UInt64 := 0x7FF8000000000000

/-- The exponent that follows a decimal, zero if nothing does. -/
def exponent? : List Char → Option Int
  | [] => some 0
  | c :: cs =>
    if c = 'e' ∨ c = 'E' then
      match cs with
      | '-' :: cs => (digits? 10 cs).map fun n => -(n : Int)
      | '+' :: cs => (digits? 10 cs).map fun n => (n : Int)
      | cs => (digits? 10 cs).map fun n => (n : Int)
    else none

/-- The finite number that a decimal without a sign gives. -/
def decimal? (negative : Bool) (cs : List Char) : Option UInt64 := do
  let whole := cs.takeWhile Char.isDigit
  let rest := cs.dropWhile Char.isDigit
  let (part, rest) := match rest with
    | '.' :: rest => (rest.takeWhile Char.isDigit, rest.dropWhile Char.isDigit)
    | rest => ([], rest)
  let significand ← digits? 10 (whole ++ part)
  let exponent ← exponent? rest
  Binary64.nearest? negative significand (exponent - part.length)

/-- The number with a fraction or exponent, the infinity or the lack of a number that a plain scalar
gives. -/
def float? (cs : List Char) : Option UInt64 :=
  match String.ofList cs with
  | ".inf" | ".Inf" | ".INF" | "+.inf" | "+.Inf" | "+.INF" => some infinity
  | "-.inf" | "-.Inf" | "-.INF" => some negativeInfinity
  | ".nan" | ".NaN" | ".NAN" => some notANumber
  | _ =>
    match cs with
    | '-' :: cs => decimal? true cs
    | '+' :: cs => decimal? false cs
    | cs => decimal? false cs

/-- Whether a plain scalar is null. -/
def isNull (text : String) : Bool := text ∈ ["null", "Null", "NULL", "~"]

/-- The boolean that a plain scalar gives. -/
def bool? (text : String) : Option Bool :=
  if text ∈ ["true", "True", "TRUE"] then some true
  else if text ∈ ["false", "False", "FALSE"] then some false
  else none

/-- Whether an integer fits 64 bits, with or without a sign. -/
def fits (i : Int) : Bool := -(Nat.pow 2 63 : Int) ≤ i && i < (Nat.pow 2 64 : Int)

/-- Whether an integer fits 128 bits, with or without a sign. -/
def fitsTwice (i : Int) : Bool := -(Nat.pow 2 127 : Int) ≤ i && i < (Nat.pow 2 128 : Int)

/-- The value of a plain scalar. An integer that fits 128 bits but not 64 has none; a larger one is
read as a decimal. -/
def plain? (text : String) : Option Value :=
  if text = "" || isNull text then some .null
  else
    match bool? text with
    | some b => some (.bool b)
    | none =>
      match (integer? text.toList).filter fitsTwice with
      | some i => if fits i then some (.int i) else none
      | none =>
        if hasLeadingZero text.toList then some (.str text)
        else
          match float? text.toList with
          | some x => some (.float x)
          | none => some (.str text)

/-- The tags that say how to read a scalar. -/
def coreTag (name : String) : String := "tag:yaml.org,2002:" ++ name

/-- The value of a scalar with its tag. Without a tag, or behind a tag of the user's own, a plain
scalar is read for what it is; every other scalar is a text unless its tag says more. -/
def scalar? (tag : Option String) (text : String) (plain : Bool) : Option Value :=
  match tag with
  | none => if plain then plain? text else some (.str text)
  | some tag =>
    if tag = coreTag "bool" then (bool? text).map .bool
    else if tag = coreTag "int" then
      ((integer? text.toList).filter fits).map .int
    else if tag = coreTag "float" then (float? text.toList).map .float
    else if tag = coreTag "null" then if isNull text then some .null else none
    else some (.str text)

/-- The name of a tag of the user's own. -/
def userTag? (tag : Option String) : Option String := do
  match (← tag).toList with
  | ['!'] => some "!"
  | '!' :: '!' :: c :: name => some (String.ofList (c :: name))
  | '!' :: name => some (String.ofList name)
  | _ => none

/-! ## References -/

/-- A node whose references are numbers. -/
inductive Linked where
  | reference (number : Nat)
  | scalar (tag : Option String) (text : String) (plain : Bool)
  | sequence (tag : Option String) (items : List Linked)
  | mapping (tag : Option String) (entries : List (Linked × Linked))
deriving Inhabited

/-- A node with an anchor: the number of the anchor, and the number of anchors met before. -/
structure Target where
  number : Nat
  met : Nat
  node : Linked

/-- What is known of the anchors of a document while it is read. The number of an anchor is how many
names are known when it is met, also when its own name is one of them. -/
structure Anchors where
  numbers : List (String × Nat) := []
  met : Nat := 0
  targets : List Target := []

namespace Anchors

/-- Meets an anchor. The answer is its number, and how many were met before. -/
def meet (a : Anchors) : Option String → Option (Nat × Nat) × Anchors
  | none => (none, a)
  | some name =>
    let number := a.numbers.length
    let numbers := (name, number) :: a.numbers.filter (·.1 ≠ name)
    (some (number, a.met), { a with numbers, met := a.met + 1 })

/-- Keeps the node of an anchor that was met. -/
def keep (a : Anchors) (anchor : Option (Nat × Nat)) (node : Linked) : Anchors :=
  match anchor with
  | none => a
  | some (number, met) => { a with targets := ⟨number, met, node⟩ :: a.targets }

/-- The node of a number: of several the one that was met last. -/
def find? (a : Anchors) (number : Nat) : Option Linked :=
  let candidates := a.targets.filter (·.number = number)
  (candidates.foldl (fun best t =>
    match best with
    | none => some t
    | some b => if b.met < t.met then some t else some b) none).map (·.node)

end Anchors

mutual

/-- Replaces the names of references by numbers. It is a fault to refer to an unknown name. -/
def link? (a : Anchors) : Node → Option (Linked × Anchors)
  | .reference name => (a.numbers.lookup name).map fun number => (.reference number, a)
  | .scalar anchor tag text plain =>
    let (number, a) := a.meet anchor
    let node := Linked.scalar tag text plain
    some (node, a.keep number node)
  | .sequence anchor tag items =>
    let (number, a) := a.meet anchor
    match linkItems? a items with
    | some (items, a) => some (.sequence tag items, a.keep number (.sequence tag items))
    | none => none
  | .mapping anchor tag entries =>
    let (number, a) := a.meet anchor
    match linkEntries? a entries with
    | some (entries, a) => some (.mapping tag entries, a.keep number (.mapping tag entries))
    | none => none

/-- Replaces the names of references in items. -/
def linkItems? (a : Anchors) : List Node → Option (List Linked × Anchors)
  | [] => some ([], a)
  | n :: ns =>
    match link? a n with
    | some (n, a) =>
      match linkItems? a ns with
      | some (ns, a) => some (n :: ns, a)
      | none => none
    | none => none

/-- Replaces the names of references in entries. -/
def linkEntries? (a : Anchors) : List (Node × Node) → Option (List (Linked × Linked) × Anchors)
  | [] => some ([], a)
  | (k, v) :: ns =>
    match link? a k with
    | some (k, a) =>
      match link? a v with
      | some (v, a) =>
        match linkEntries? a ns with
        | some (ns, a) => some ((k, v) :: ns, a)
        | none => none
      | none => none
    | none => none

end

/-! ## Values of nodes -/

/-- The bits of a number, the same for both zeros. -/
def unsignedZero (bits : UInt64) : UInt64 := if bits = 0x8000000000000000 then 0 else bits

mutual

/-- Whether two keys are the same. The order of entries does not matter. -/
def Value.same : Value → Value → Bool
  | .null, .null => true
  | .bool a, .bool b => a == b
  | .int a, .int b => a == b
  | .float a, .float b => unsignedZero a == unsignedZero b
  | .str a, .str b => a == b
  | .seq as, .seq bs => Value.sameItems as bs
  | .map as, .map bs => as.length == bs.length && Value.sameEntries as bs
  | .tagged s a, .tagged t b => s == t && Value.same a b
  | _, _ => false

/-- Whether two lists of items are the same. -/
def Value.sameItems : List Value → List Value → Bool
  | [], [] => true
  | a :: as, b :: bs => Value.same a b && Value.sameItems as bs
  | _, _ => false

/-- Whether every entry is one of the others. -/
def Value.sameEntries : List (Value × Value) → List (Value × Value) → Bool
  | [], _ => true
  | (k, v) :: as, bs =>
    (bs.any fun b => Value.same k b.1 && Value.same v b.2) && Value.sameEntries as bs

end

/-- Whether no key is there twice. -/
def distinctKeys : List (Value × Value) → Bool
  | [] => true
  | (k, _) :: entries => (entries.all fun e => !Value.same k e.1) && distinctKeys entries

/-- The node that a reference leads to, counting the references followed. -/
def follow? (a : Anchors) (limit : Nat) : Linked → StateT Nat Option Linked
  | .reference number => fun followed =>
    if followed + 1 > limit then none
    else
      match a.find? number with
      | some (.reference _) => none
      | some node => some (node, followed + 1)
      | none => none
  | node => fun followed => some (node, followed)

/-- A value behind a tag of the user's own. -/
def wrapTag (tag : Option String) (v : Value) : Value :=
  match userTag? tag with
  | some name => .tagged name v
  | none => v

/-- The value of a node in which at most `depth` collections stand inside one another, following at
most `limit` references. -/
def value? (a : Anchors) (limit : Nat) : Nat → Linked → StateT Nat Option Value
  | 0, node => do
    match ← follow? a limit node with
    | .scalar tag text plain => leaf? tag text plain
    | _ => fun _ => none
  | depth + 1, node => do
    match ← follow? a limit node with
    | .scalar tag text plain => leaf? tag text plain
    | .sequence tag items =>
      return wrapTag tag (.seq (← items.mapM (value? a limit depth)))
    | .mapping tag entries =>
      let entries ← entries.mapM fun e => do
        return (← value? a limit depth e.1, ← value? a limit depth e.2)
      if distinctKeys entries then return wrapTag tag (.map entries) else fun _ => none
    | .reference _ => fun _ => none
where
  /-- The value of a scalar. -/
  leaf? (tag : Option String) (text : String) (plain : Bool) : StateT Nat Option Value :=
    fun followed =>
      let own := if (userTag? tag).isSome then none else tag
      (scalar? own text plain).map fun v => (wrapTag tag v, followed)

mutual

/-- The number of starts, ends, scalars and references of a node. -/
def Node.size : Node → Nat
  | .reference _ => 1
  | .scalar .. => 1
  | .sequence _ _ items => 2 + Node.sizeItems items
  | .mapping _ _ entries => 2 + Node.sizeEntries entries

/-- The number of starts, ends, scalars and references of items. -/
def Node.sizeItems : List Node → Nat
  | [] => 0
  | n :: ns => n.size + Node.sizeItems ns

/-- The number of starts, ends, scalars and references of entries. -/
def Node.sizeEntries : List (Node × Node) → Nat
  | [] => 0
  | (k, v) :: ns => k.size + v.size + Node.sizeEntries ns

end

/-- The value of the node of a document. -/
def Node.value? (n : Node) : Option Value := do
  let (linked, a) ← link? {} n
  let (v, _) ← (Yaml.value? a (100 * n.size) 128 linked).run 0
  return v

/-- The values of the documents of a text; `none` stands for the first that cannot be read. -/
def values (text : String) : List (Option Value) :=
  (documents text).map fun n => n.bind Node.value?

/-! ## Documents -/

/-- Whether a value is null, whatever its tags. -/
def Value.isNull : Value → Bool
  | .null => true
  | .tagged _ v => v.isNull
  | _ => false

/-- The name that a key becomes. -/
def Value.name? : Value → Option String
  | .str s => some s
  | .bool b => some (if b then "true" else "false")
  | .int i => some (toString i)
  | .float x => if Binary64.finite x then some (Binary64.toText x) else none
  | _ => none

mutual

/-- The JSON document of a value. What is no finite number becomes null, and a tag becomes the only
name of an object. -/
def Value.toJson? : Value → Option Json
  | .null => some .null
  | .bool b => some (.bool b)
  | .int i => some (.int i)
  | .float x => some (if Binary64.finite x then .float x else .null)
  | .str s => some (.str s)
  | .seq items => (Value.itemsToJson? items).map .arr
  | .map entries => (Value.entriesToJson? entries).map Json.ofFields
  | .tagged tag v => (Value.toJson? v).map fun j => .obj [("!" ++ tag, j)]

/-- The JSON documents of items. -/
def Value.itemsToJson? : List Value → Option (List Json)
  | [] => some []
  | v :: vs =>
    match Value.toJson? v, Value.itemsToJson? vs with
    | some j, some js => some (j :: js)
    | _, _ => none

/-- The fields of entries. -/
def Value.entriesToJson? : List (Value × Value) → Option (List (String × Json))
  | [] => some []
  | (k, v) :: vs =>
    match k.name?, Value.toJson? v, Value.entriesToJson? vs with
    | some name, some j, some js => some ((name, j) :: js)
    | _, _, _ => none

end

end NodeFeatureOperator.Yaml
