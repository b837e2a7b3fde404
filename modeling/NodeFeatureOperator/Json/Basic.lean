import NodeFeatureOperator.Table

/-!
# JSON documents

The type of JSON documents and the operations that the rest of the library uses on them. An object
is a table from names to documents, kept in the order of the names, so that equality of documents
is equality of terms. An integer is a number written without fraction and exponent that fits 64
bits; every other number is a binary floating-point number, kept as its 64 bits.
-/

namespace NodeFeatureOperator

/-- A JSON document. -/
inductive Json where
  | null
  | bool (value : Bool)
  | int (value : Int)
  | float (bits : UInt64)
  | str (value : String)
  | arr (items : List Json)
  | obj (fields : List (String × Json))
deriving Inhabited

namespace Json

mutual

/-- Whether two documents are the same. -/
def same : Json → Json → Bool
  | .null, .null => true
  | .bool a, .bool b => a == b
  | .int a, .int b => a == b
  | .float a, .float b => a == b
  | .str a, .str b => a == b
  | .arr as, .arr bs => sameItems as bs
  | .obj as, .obj bs => sameFields as bs
  | _, _ => false

/-- Whether two lists of items are the same. -/
def sameItems : List Json → List Json → Bool
  | [], [] => true
  | a :: as, b :: bs => same a b && sameItems as bs
  | _, _ => false

/-- Whether two lists of fields are the same. -/
def sameFields : List (String × Json) → List (String × Json) → Bool
  | [], [] => true
  | (k, a) :: as, (l, b) :: bs => k == l && same a b && sameFields as bs
  | _, _ => false

end

mutual

theorem same_iff : (a b : Json) → (same a b = true ↔ a = b)
  | .null, b => by cases b <;> simp [same]
  | .bool _, b => by cases b <;> simp [same]
  | .int _, b => by cases b <;> simp [same]
  | .float _, b => by cases b <;> simp [same]
  | .str _, b => by cases b <;> simp [same]
  | .arr as, b => by
    cases b with
    | arr bs => simp [same, sameItems_iff as bs]
    | _ => simp [same]
  | .obj as, b => by
    cases b with
    | obj bs => simp [same, sameFields_iff as bs]
    | _ => simp [same]

theorem sameItems_iff : (as bs : List Json) → (sameItems as bs = true ↔ as = bs)
  | [], bs => by cases bs <;> simp [sameItems]
  | a :: as, bs => by
    cases bs with
    | nil => simp [sameItems]
    | cons b bs => simp [sameItems, same_iff a b, sameItems_iff as bs]

theorem sameFields_iff : (as bs : List (String × Json)) → (sameFields as bs = true ↔ as = bs)
  | [], bs => by cases bs <;> simp [sameFields]
  | (k, a) :: as, bs => by
    cases bs with
    | nil => simp [sameFields]
    | cons row bs =>
      obtain ⟨l, b⟩ := row
      simp [sameFields, same_iff a b, sameFields_iff as bs]

end

instance : DecidableEq Json := fun a b => decidable_of_iff (same a b = true) (same_iff a b)

/-- The fields of an object. -/
abbrev Fields := Table String Json

/-- The object with these fields, put in order; of two fields with one name the later wins. -/
def ofFields (fields : List (String × Json)) : Json := .obj (Table.ofRows fields)

/-- The text of a string document. -/
def asString? : Json → Option String
  | .str s => some s
  | _ => none

/-- The value of a boolean document. -/
def asBool? : Json → Option Bool
  | .bool b => some b
  | _ => none

/-- The value of an integer document. -/
def asInt? : Json → Option Int
  | .int i => some i
  | _ => none

/-- The items of an array. -/
def asArray? : Json → Option (List Json)
  | .arr xs => some xs
  | _ => none

/-- The fields of an object. -/
def asObject? : Json → Option Fields
  | .obj fs => some fs
  | _ => none

/-- The document under a name of an object. -/
def get? (j : Json) (name : String) : Option Json := j.asObject?.bind (Table.get? · name)

/-- The document at a path of names. -/
def at? (j : Json) : List String → Option Json
  | [] => some j
  | name :: path => (j.get? name).bind (·.at? path)

/-- The object with `v` under a name. A document that is no object stays as it is. -/
def set (j : Json) (name : String) (v : Json) : Json :=
  match j with
  | .obj fs => .obj (Table.insert fs name v)
  | j => j

/-- The object with `f` applied to the document under a name, if there is one. -/
def modify (j : Json) (name : String) (f : Json → Json) : Json :=
  match j with
  | .obj fs => .obj (Table.modify fs name f)
  | j => j

/-- The document with `f` applied to the document at a path of names, if there is one. -/
def modifyAt (j : Json) (path : List String) (f : Json → Json) : Json :=
  match path with
  | [] => f j
  | name :: path => j.modify name (·.modifyAt path f)

/-- The array with `f` applied to each item. A document that is no array stays as it is. -/
def mapItems (j : Json) (f : Json → Json) : Json :=
  match j with
  | .arr xs => .arr (xs.map f)
  | j => j

/-- The array with `f` applied to its first item. -/
def modifyHead (j : Json) (f : Json → Json) : Json :=
  match j with
  | .arr (x :: xs) => .arr (f x :: xs)
  | j => j

/-- The array with `f` applied to the first item that satisfies `p`. -/
def modifyFirst (j : Json) (p : Json → Bool) (f : Json → Json) : Json :=
  match j with
  | .arr xs => .arr (go xs)
  | j => j
where
  /-- The items with `f` applied to the first that satisfies `p`. -/
  go : List Json → List Json
    | [] => []
    | x :: xs => if p x then f x :: xs else x :: go xs

/-- The object with a document under a name, or without the name. -/
def setOrErase (j : Json) (name : String) (v : Option Json) : Json :=
  match j, v with
  | .obj fs, some v => .obj (Table.insert fs name v)
  | .obj fs, none => .obj (Table.erase fs name)
  | j, _ => j

/-- A list of texts as an array. -/
def ofStrings (xs : List String) : Json := .arr (xs.map .str)

/-- The texts of an array of strings. -/
def asStrings? (j : Json) : Option (List String) := j.asArray?.bind (·.mapM asString?)

/-- A table of texts as an object. -/
def ofStringTable (t : Table String String) : Json := .obj (t.map fun row => (row.1, .str row.2))

/-- The fields of a record given as an object, by name, or as an array, by position. Each wanted
field says whether it may be left out at the end of an array. `none` for a field that is absent;
no answer at all for a document of another shape, or for an array that is too long or too short. -/
def record? (wanted : List (String × Bool)) : Json → Option (List (Option Json))
  | .obj fs => some (wanted.map fun w => Table.get? fs w.1)
  | .arr xs =>
    if xs.length ≤ wanted.length ∧ (wanted.drop xs.length).all (·.2) then
      some (xs.map some ++ (wanted.drop xs.length).map fun _ => none)
    else none
  | _ => none

end Json

end NodeFeatureOperator
