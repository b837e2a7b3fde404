import NodeFeatureOperator.Yaml.Token

/-!
# Nodes of a YAML text

`Yaml.documents` makes nodes out of tokens, one for every document. The documents in front of a fault
are there; a fault stands as one document that cannot be read, and nothing follows it.
-/

namespace NodeFeatureOperator.Yaml

/-- A node, with its anchor and its tag. A scalar is plain or it is not. -/
inductive Node where
  | reference (name : String)
  | scalar (anchor tag : Option String) (text : String) (plain : Bool)
  | sequence (anchor tag : Option String) (items : List Node)
  | mapping (anchor tag : Option String) (entries : List (Node × Node))
deriving Repr, Inhabited

/-- The node where there is nothing. -/
def Node.empty : Node := .scalar none none "" true

/-- Tag handles with what they stand for. -/
abbrev TagHandles := List (String × String)

/-- The handles that every document knows. -/
def defaultHandles : TagHandles := [("!", "!"), ("!!", "tag:yaml.org,2002:")]

/-- What stands in front of a node: its anchor and its tag, in either order. -/
structure Properties where
  anchor : Option String := none
  tag : Option (String × String) := none

/-- Takes anchor and tag off the tokens. -/
def takeProperties : List Token → Properties × List Token
  | .anchor name :: .tag handle suffix :: ts => (⟨some name, some (handle, suffix)⟩, ts)
  | .tag handle suffix :: .anchor name :: ts => (⟨some name, some (handle, suffix)⟩, ts)
  | .anchor name :: ts => (⟨some name, none⟩, ts)
  | .tag handle suffix :: ts => (⟨none, some (handle, suffix)⟩, ts)
  | ts => ({}, ts)

/-- The whole tag. It is a fault to use a handle that nobody has introduced. -/
def wholeTag? (handles : TagHandles) : Option (String × String) → Option (Option String)
  | none => some none
  | some ("", suffix) => some (some suffix)
  | some (handle, suffix) => (handles.lookup handle).map fun lead => some (lead ++ suffix)

/-- Whether the next token is one of these. -/
def sees (ts : List Token) (choice : List Token) : Bool := (ts.head?).any (· ∈ choice)

mutual

/-- Reads a node. Inside a block it may be a block, and where `dashes` it may be a sequence that is
not indented. -/
def node? (handles : TagHandles) (block dashes : Bool) :
    Nat → List Token → Option (Node × List Token)
  | 0, _ => none
  | fuel + 1, ts =>
    match ts with
    | .reference name :: ts => some (.reference name, ts)
    | _ => do
      let (p, ts) := takeProperties ts
      let tag ← wholeTag? handles p.tag
      let wrap (r : Option (List Node × List Token)) : Option (Node × List Token) :=
        r.map fun (items, ts) => (.sequence p.anchor tag items, ts)
      let wrapEntries (r : Option (List (Node × Node) × List Token)) : Option (Node × List Token) :=
        r.map fun (entries, ts) => (.mapping p.anchor tag entries, ts)
      match ts with
      | [] => none
      | t :: rest =>
        match t, dashes, block with
        | .blockEntry, true, _ => wrap (dashEntries? handles fuel [] ts)
        | .scalar text plain, _, _ =>
          some (.scalar p.anchor (tag.filter (· ≠ "!")) text plain, rest)
        | .flowSequenceStart, _, _ => wrap (flowItems? handles true fuel [] rest)
        | .flowMappingStart, _, _ => wrapEntries (flowEntries? handles true fuel [] rest)
        | .blockSequenceStart, _, true => wrap (blockItems? handles fuel [] rest)
        | .blockMappingStart, _, true => wrapEntries (blockEntries? handles fuel [] rest)
        | _, _, _ =>
          if p.anchor.isSome || tag.isSome then some (.scalar p.anchor tag "" true, ts) else none

/-- Reads a node, unless one of these tokens comes next and the node is empty. -/
def nodeUnless? (handles : TagHandles) (block dashes : Bool) (enders : List Token) :
    Nat → List Token → Option (Node × List Token)
  | 0, _ => none
  | fuel + 1, ts =>
    if ts.isEmpty then none
    else if sees ts enders then some (.empty, ts)
    else node? handles block dashes fuel ts

/-- Reads the items of a block sequence behind those done. -/
def blockItems? (handles : TagHandles) :
    Nat → List Node → List Token → Option (List Node × List Token)
  | 0, _, _ => none
  | fuel + 1, done, ts =>
    match ts with
    | .blockEntry :: ts => do
      let (n, ts) ← nodeUnless? handles true false [.blockEntry, .blockEnd] fuel ts
      blockItems? handles fuel (n :: done) ts
    | .blockEnd :: ts => some (done.reverse, ts)
    | _ => none

/-- Reads the items of a sequence that is not indented behind those done. -/
def dashEntries? (handles : TagHandles) :
    Nat → List Node → List Token → Option (List Node × List Token)
  | 0, _, _ => none
  | fuel + 1, done, ts =>
    match ts with
    | .blockEntry :: ts => do
      let (n, ts) ← nodeUnless? handles true false [.blockEntry, .key, .value, .blockEnd] fuel ts
      dashEntries? handles fuel (n :: done) ts
    | [] => none
    | ts => some (done.reverse, ts)

/-- Reads the entries of a block mapping behind those done. -/
def blockEntries? (handles : TagHandles) :
    Nat → List (Node × Node) → List Token → Option (List (Node × Node) × List Token)
  | 0, _, _ => none
  | fuel + 1, done, ts =>
    match ts with
    | .key :: ts => do
      let (k, ts) ← nodeUnless? handles true true [.key, .value, .blockEnd] fuel ts
      match ts with
      | [] => none
      | .value :: ts =>
        let (v, ts) ← nodeUnless? handles true true [.key, .value, .blockEnd] fuel ts
        blockEntries? handles fuel ((k, v) :: done) ts
      | ts => blockEntries? handles fuel ((k, .empty) :: done) ts
    | .blockEnd :: ts => some (done.reverse, ts)
    | _ => none

/-- Reads the items of a flow sequence behind those done. An item with a key is a mapping of one
entry; when its key is empty, the token behind the question mark is passed over. -/
def flowItems? (handles : TagHandles) (first : Bool) :
    Nat → List Node → List Token → Option (List Node × List Token)
  | 0, _, _ => none
  | fuel + 1, done, ts =>
    match ts with
    | .flowSequenceEnd :: ts => some (done.reverse, ts)
    | _ => do
      let ts ← if first then some ts else
        match ts with
        | .flowEntry :: ts => some ts
        | _ => none
      match ts with
      | [] => none
      | .flowSequenceEnd :: ts => some (done.reverse, ts)
      | .key :: ts =>
        let enders := [Token.value, .flowEntry, .flowSequenceEnd]
        let (k, ts) ←
          if sees ts enders then some (Node.empty, ts.drop 1)
          else nodeUnless? handles false false enders fuel ts
        match ts with
        | [] => none
        | .value :: ts =>
          let (v, ts) ← nodeUnless? handles false false [.flowEntry, .flowSequenceEnd] fuel ts
          flowItems? handles false fuel (.mapping none none [(k, v)] :: done) ts
        | ts => flowItems? handles false fuel (.mapping none none [(k, .empty)] :: done) ts
      | ts =>
        let (n, ts) ← node? handles false false fuel ts
        flowItems? handles false fuel (n :: done) ts

/-- Reads the entries of a flow mapping behind those done. -/
def flowEntries? (handles : TagHandles) (first : Bool) :
    Nat → List (Node × Node) → List Token → Option (List (Node × Node) × List Token)
  | 0, _, _ => none
  | fuel + 1, done, ts =>
    match ts with
    | .flowMappingEnd :: ts => some (done.reverse, ts)
    | _ => do
      let ts ← if first then some ts else
        match ts with
        | .flowEntry :: ts => some ts
        | _ => none
      match ts with
      | [] => none
      | .flowMappingEnd :: ts => some (done.reverse, ts)
      | .key :: ts =>
        let enders := [Token.value, .flowEntry, .flowMappingEnd]
        let (k, ts) ← nodeUnless? handles false false enders fuel ts
        match ts with
        | [] => none
        | .value :: ts =>
          let (v, ts) ← nodeUnless? handles false false [.flowEntry, .flowMappingEnd] fuel ts
          flowEntries? handles false fuel ((k, v) :: done) ts
        | ts => flowEntries? handles false fuel ((k, .empty) :: done) ts
      | ts =>
        let (k, ts) ← node? handles false false fuel ts
        flowEntries? handles false fuel ((k, .empty) :: done) ts

end

/-- Reads the directives in front of a document: at most one version, which must be 1.1 or 1.2, and
no handle twice. -/
def directives? (version : Bool) (handles : TagHandles) :
    List Token → Option (TagHandles × List Token)
  | .versionDirective major minor :: ts =>
    if version || major ≠ 1 || (minor ≠ 1 && minor ≠ 2) then none
    else directives? true handles ts
  | .tagDirective handle lead :: ts =>
    if (handles.lookup handle).isSome then none
    else directives? version (handles ++ [(handle, lead)]) ts
  | ts => some (handles, ts)

/-- Whether a token stands between documents. -/
def isBoundary : Token → Bool
  | .versionDirective _ _ | .tagDirective _ _ | .documentStart | .documentEnd | .streamEnd => true
  | _ => false

/-- Reads a document, together with a line that ends it. Only the first may go without a line that
starts it. -/
def document? (first : Bool) (ts : List Token) : Option (Node × List Token) := do
  let fuel := 3 * ts.length + 8
  let implicit := first && !ts.head?.any fun t => isBoundary t && t ≠ .documentEnd
  let (n, ts) ←
    if implicit then node? defaultHandles true false fuel ts
    else do
      let (handles, ts) ← directives? false [] ts
      match ts with
      | .documentStart :: t :: ts =>
        if isBoundary t then some (Node.empty, t :: ts)
        else node? (handles ++ defaultHandles) true false fuel (t :: ts)
      | _ => none
  match ts with
  | [] => none
  | .documentEnd :: ts => return (n, ts)
  | ts => return (n, ts)

/-- Reads documents as long as there are any. -/
def documentsFrom (first : Bool) : Nat → List Token → List (Option Node)
  | 0, _ => []
  | fuel + 1, ts =>
    let ts := if first then ts else ts.dropWhile (· = .documentEnd)
    if sees ts [.streamEnd] then []
    else
      match document? first ts with
      | some (n, ts) => some n :: documentsFrom false fuel ts
      | none => [none]

/-- The documents of a text; `none` stands for the first that cannot be read. -/
def documents (text : String) : List (Option Node) :=
  let ts := tokens text
  documentsFrom true (ts.length + 1) ts

end NodeFeatureOperator.Yaml
