import NodeFeatureOperator.Json.Basic
import NodeFeatureOperator.Moment
import NodeFeatureOperator.Text.Base64

/-!
# Schemas

A schema describes the documents of one type. `Schema.normalize?` reads a document of the type and
gives its normal form: names that a record does not know are gone, names of a record are in order,
names that a record requires are there, and times are in UTC. A document that is not of the type
has no normal form.
-/

namespace NodeFeatureOperator

/-- What a record does about a name that is absent or null. -/
inductive Presence where
  /-- The name is left out; null counts as absent. -/
  | optional
  /-- The name gets the default of its type; null counts as absent. -/
  | required
  /-- The name gets the default of its type; null is a value like any other. -/
  | defaulted
deriving DecidableEq, Repr

/-- The type of a document. -/
inductive Schema where
  | text
  | boolean
  /-- An integer of 32 bits. -/
  | int32
  /-- An integer of 64 bits. -/
  | int64
  /-- An integer of 32 bits or a text. -/
  | intOrText
  /-- Bytes in base 64. -/
  | base64
  /-- A time to the second. -/
  | time
  /-- A time to the microsecond. -/
  | microTime
  | anything
  | list (item : Schema)
  | table (value : Schema)
  /-- Names with their types, in order. -/
  | record (fields : List (String × Presence × Schema))
deriving Inhabited

namespace Schema

/-- A name that may be absent. -/
def opt (name : String) (s : Schema) : String × Presence × Schema := (name, .optional, s)

/-- A name that is always there. -/
def req (name : String) (s : Schema) : String × Presence × Schema := (name, .required, s)

/-- A name that is always there and may not be null. -/
def dflt (name : String) (s : Schema) : String × Presence × Schema := (name, .defaulted, s)

/-- A list of texts. -/
def texts : Schema := .list .text

/-- A table of texts. -/
def textTable : Schema := .table .text

/-- Whether an integer fits 32 bits. -/
def fits32 (i : Int) : Bool := -2147483648 ≤ i && i ≤ 2147483647

/-- Whether an integer fits 64 bits. -/
def fits64 (i : Int) : Bool := -9223372036854775808 ≤ i && i ≤ 9223372036854775807

mutual

/-- The document that stands for an absent one. -/
def default : Schema → Json
  | .text => .str ""
  | .boolean => .bool false
  | .int32 => .int 0
  | .int64 => .int 0
  | .intOrText => .int 0
  | .base64 => .str ""
  | .time => .str "1970-01-01T00:00:00Z"
  | .microTime => .str "1970-01-01T00:00:00.000000Z"
  | .anything => .null
  | .list _ => .arr []
  | .table _ => .obj []
  | .record fields => .obj (defaultFields fields)

/-- The fields of a record that are there even when absent. -/
def defaultFields : List (String × Presence × Schema) → Json.Fields
  | [] => []
  | (name, p, s) :: rest =>
    match p with
    | .optional => defaultFields rest
    | _ => (name, default s) :: defaultFields rest

end

mutual

/-- The normal form of a document of this type. -/
def normalize? : Schema → Json → Option Json
  | .text, .str s => some (.str s)
  | .boolean, .bool b => some (.bool b)
  | .int32, .int i => if fits32 i then some (.int i) else none
  | .int64, .int i => if fits64 i then some (.int i) else none
  | .intOrText, .int i => if fits32 i then some (.int i) else none
  | .intOrText, .str s => some (.str s)
  | .base64, .str s => if Text.isBase64 s then some (.str s) else none
  | .time, .str s => (CalendarTime.parse? s).map fun t => .str t.wholeSeconds.toText
  | .microTime, .str s => (CalendarTime.parse? s).map fun t => .str t.toMicroText
  | .anything, j => some j
  | .list s, .arr xs => (xs.mapM fun x => normalize? s x).map .arr
  | .table s, .obj fs =>
    (fs.mapM fun row => (normalize? s row.2).map fun v => (row.1, v)).map .obj
  | .record fields, .obj fs => (normalizeFields? fields fs).map .obj
  | _, _ => none

/-- The fields of a record, out of the fields of a document. -/
def normalizeFields? : List (String × Presence × Schema) → Json.Fields → Option Json.Fields
  | [], _ => some []
  | (name, p, s) :: rest, fs => do
    let tail ← normalizeFields? rest fs
    match Table.get? fs name, p with
    | none, .optional => some tail
    | none, _ => some ((name, default s) :: tail)
    | some .null, .optional => some tail
    | some .null, .required => some ((name, default s) :: tail)
    | some v, _ => (normalize? s v).map fun v => (name, v) :: tail

end

end Schema

end NodeFeatureOperator
