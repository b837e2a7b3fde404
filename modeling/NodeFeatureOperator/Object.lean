import NodeFeatureOperator.Key
import NodeFeatureOperator.Metadata

/-!
# Managed objects

A managed object is a document of one of the managed kinds in normal form: its metadata, and its
body as the schema of the kind gives it. `ManagedObject.toJson` writes the document and
`ManagedObject.decode?` reads it. A free document is one whose kind nobody has checked yet, as a
server sends it: only its metadata are in normal form.
-/

namespace NodeFeatureOperator

/-- The API version and the kind that a document names. -/
structure TypeNames where
  apiVersion : String
  kind : String
deriving DecidableEq, Repr, Inhabited

/-- A document of a managed kind. -/
structure ManagedObject where
  kind : Kind
  names : TypeNames
  metadata : Metadata
  body : Json.Fields
deriving DecidableEq, Inhabited

/-- The names that documents of a kind go by. -/
def Kind.names (k : Kind) : TypeNames := ⟨k.apiVersion, k.toText⟩

namespace ManagedObject

/-- The document of an object. -/
def toJson (o : ManagedObject) : Json :=
  .obj (Table.insert (Table.insert (Table.insert o.body "apiVersion" (.str o.names.apiVersion))
    "kind" (.str o.names.kind)) "metadata" o.metadata.toJson)

/-- The API version and kind of a document of `kind`: where the kind names freely, any texts;
elsewhere its own. What is absent is taken from the kind. -/
def decodeNames? (kind : Kind) (fs : Json.Fields) : Option TypeNames := do
  let apiVersion ← name? "apiVersion" kind.apiVersion
  let kindText ← name? "kind" kind.toText
  if kind.namesFreely ∨ (⟨apiVersion, kindText⟩ : TypeNames) = kind.names then
    return ⟨apiVersion, kindText⟩
  else none
where
  /-- The text under a name, or the default when the name is absent. -/
  name? (name default : String) : Option String :=
    match Table.get? fs name with
    | some j => j.asString?
    | none => some default

/-- The metadata of a document of `kind`. Where the kind names freely, null is no metadata. -/
def decodeMetadata? (kind : Kind) (fs : Json.Fields) : Option Metadata :=
  match Table.get? fs "metadata" with
  | none => some {}
  | some .null => if kind.namesFreely then none else some {}
  | some j => Metadata.decode? j

/-- The object of `kind` that a document gives, if it has the shape of one. -/
def decode? (kind : Kind) (j : Json) : Option ManagedObject := do
  let fs ← j.asObject?
  let names ← decodeNames? kind fs
  let metadata ← decodeMetadata? kind fs
  let body ← (kind.body.normalize? j).bind Json.asObject?
  return ⟨kind, names, metadata, body⟩

/-- The name of an object, empty when it has none. -/
def name (o : ManagedObject) : String := o.metadata.name.getD ""

/-- The identity of an object. Objects of the whole cluster have no namespace, whatever their
metadata say. -/
def key (o : ManagedObject) : Key :=
  ⟨o.kind, if o.kind.clusterScoped then none else o.metadata.ns, o.name⟩

/-- The object with `f` applied to its metadata. -/
def mapMetadata (o : ManagedObject) (f : Metadata → Metadata) : ManagedObject :=
  { o with metadata := f o.metadata }

/-- The document at a path of names in the body. -/
def at? (o : ManagedObject) (path : List String) : Option Json := (Json.obj o.body).at? path

/-- The object with `f` applied to what stands at a path of names in its body. -/
def modifyAt (o : ManagedObject) (path : List String) (f : Json → Json) : ManagedObject :=
  match (Json.obj o.body).modifyAt path f with
  | .obj body => { o with body }
  | _ => o

/-- The object with a document under a name of its body. -/
def setField (o : ManagedObject) (name : String) (v : Json) : ManagedObject :=
  { o with body := Table.insert o.body name v }

@[simp] theorem mapMetadata_kind (o : ManagedObject) (f : Metadata → Metadata) :
    (o.mapMetadata f).kind = o.kind := rfl

@[simp] theorem mapMetadata_body (o : ManagedObject) (f : Metadata → Metadata) :
    (o.mapMetadata f).body = o.body := rfl

@[simp] theorem setField_metadata (o : ManagedObject) (name : String) (v : Json) :
    (o.setField name v).metadata = o.metadata := rfl

@[simp] theorem modifyAt_metadata (o : ManagedObject) (path : List String) (f : Json → Json) :
    (o.modifyAt path f).metadata = o.metadata := by
  unfold modifyAt
  split <;> rfl

@[simp] theorem modifyAt_kind (o : ManagedObject) (path : List String) (f : Json → Json) :
    (o.modifyAt path f).kind = o.kind := by
  unfold modifyAt
  split <;> rfl

end ManagedObject

/-- A document whose kind nobody has checked. The names are there only if both are texts. -/
structure FreeDocument where
  names : Option TypeNames
  metadata : Metadata
  data : Json.Fields
deriving DecidableEq, Inhabited

namespace FreeDocument

/-- The names of a document, and the fields left once they are taken out. The API version is looked
at first; if it is there and no text, the kind stays among the fields. -/
def takeNames (fs : Json.Fields) : Option TypeNames × Json.Fields :=
  let rest := Table.erase fs "apiVersion"
  match Table.get? fs "apiVersion" with
  | some (.str apiVersion) =>
    match Table.get? fs "kind" with
    | some (.str kind) => (some ⟨apiVersion, kind⟩, Table.erase rest "kind")
    | _ => (none, Table.erase rest "kind")
  | some _ => (none, rest)
  | none => (none, Table.erase rest "kind")

/-- The free document that a document gives. -/
def decode? (j : Json) : Option FreeDocument := do
  let fs ← j.asObject?
  let (names, rest) := takeNames (Table.erase fs "metadata")
  let metadata ← match Table.get? fs "metadata" with
    | none => some {}
    | some j => Metadata.decode? j
  return ⟨names, metadata, rest⟩

/-- The document itself. -/
def toJson (d : FreeDocument) : Json :=
  let fs := Table.insert d.data "metadata" d.metadata.toJson
  match d.names with
  | some names =>
    .obj (Table.insert (Table.insert fs "apiVersion" (.str names.apiVersion)) "kind"
      (.str names.kind))
  | none => .obj fs

/-- The managed object of a kind that a free document gives. -/
def toObject? (kind : Kind) (d : FreeDocument) : Option ManagedObject :=
  ManagedObject.decode? kind d.toJson

end FreeDocument

/-- An object as a free document. -/
def ManagedObject.toFree? (o : ManagedObject) : Option FreeDocument := FreeDocument.decode? o.toJson

end NodeFeatureOperator
