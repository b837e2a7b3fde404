import NodeFeatureOperator.Schema.Metadata

/-!
# Metadata of objects

What every document of the cluster says about itself: name and namespace, labels, owners,
finalizers, and the numbers and times that the server keeps. A name that is absent or null in a
document is unset here and not written.
-/

namespace NodeFeatureOperator

/-- A reference to the owner of an object. -/
structure OwnerReference where
  apiVersion : String
  blockOwnerDeletion : Option Bool
  controller : Option Bool
  kind : String
  name : String
  uid : String
deriving DecidableEq, Repr, Inhabited

/-- The metadata of an object. -/
structure Metadata where
  annotations : Option (Table String String) := none
  creationTimestamp : Option Moment := none
  deletionGracePeriodSeconds : Option Int := none
  deletionTimestamp : Option Moment := none
  finalizers : Option (List String) := none
  generateName : Option String := none
  generation : Option Int := none
  labels : Option (Table String String) := none
  managedFields : Option (List Json) := none
  name : Option String := none
  ns : Option String := none
  ownerReferences : Option (List OwnerReference) := none
  resourceVersion : Option String := none
  selfLink : Option String := none
  uid : Option String := none
deriving DecidableEq, Inhabited

namespace Json

/-- The field of this name, unless there is no value to write. -/
def field (name : String) (value : Option Json) : List (String × Json) :=
  match value with
  | some v => [(name, v)]
  | none => []

/-- The value of a name as `f` reads it; `none` when the name is absent or null. -/
def read? (fs : Fields) (name : String) (f : Json → Option α) : Option α :=
  (Table.get? fs name).bind f

/-- The texts of an object of texts. -/
def asStringTable? (j : Json) : Option (Table String String) :=
  j.asObject?.bind (·.mapM fun row => row.2.asString?.map fun s => (row.1, s))

/-- The time that a string document gives. -/
def asMoment? (j : Json) : Option Moment :=
  (j.asString?.bind CalendarTime.parse?).map .calendar

end Json

namespace OwnerReference

/-- The document of a reference. -/
def toJson (r : OwnerReference) : Json :=
  .obj (("apiVersion", .str r.apiVersion)
    :: Json.field "blockOwnerDeletion" (r.blockOwnerDeletion.map .bool)
    ++ Json.field "controller" (r.controller.map .bool)
    ++ [("kind", .str r.kind), ("name", .str r.name), ("uid", .str r.uid)])

/-- The reference that a document in normal form gives. -/
def read? (j : Json) : Option OwnerReference := do
  let fs ← j.asObject?
  return {
    apiVersion := ← Json.read? fs "apiVersion" Json.asString?
    blockOwnerDeletion := Json.read? fs "blockOwnerDeletion" Json.asBool?
    controller := Json.read? fs "controller" Json.asBool?
    kind := ← Json.read? fs "kind" Json.asString?
    name := ← Json.read? fs "name" Json.asString?
    uid := ← Json.read? fs "uid" Json.asString? }

end OwnerReference

namespace Metadata

/-- The fields of the metadata, in order. -/
def toFields (m : Metadata) : Json.Fields :=
  Json.field "annotations" (m.annotations.map Json.ofStringTable)
    ++ Json.field "creationTimestamp" (m.creationTimestamp.map fun t => .str t.toText)
    ++ Json.field "deletionGracePeriodSeconds" (m.deletionGracePeriodSeconds.map .int)
    ++ Json.field "deletionTimestamp" (m.deletionTimestamp.map fun t => .str t.toText)
    ++ Json.field "finalizers" (m.finalizers.map Json.ofStrings)
    ++ Json.field "generateName" (m.generateName.map .str)
    ++ Json.field "generation" (m.generation.map .int)
    ++ Json.field "labels" (m.labels.map Json.ofStringTable)
    ++ Json.field "managedFields" (m.managedFields.map .arr)
    ++ Json.field "name" (m.name.map .str)
    ++ Json.field "namespace" (m.ns.map .str)
    ++ Json.field "ownerReferences" (m.ownerReferences.map fun rs => .arr (rs.map (·.toJson)))
    ++ Json.field "resourceVersion" (m.resourceVersion.map .str)
    ++ Json.field "selfLink" (m.selfLink.map .str)
    ++ Json.field "uid" (m.uid.map .str)

/-- The document of the metadata. -/
def toJson (m : Metadata) : Json := .obj m.toFields

/-- The metadata that fields in normal form give. -/
def ofFields (fs : Json.Fields) : Metadata where
  annotations := Json.read? fs "annotations" Json.asStringTable?
  creationTimestamp := Json.read? fs "creationTimestamp" Json.asMoment?
  deletionGracePeriodSeconds := Json.read? fs "deletionGracePeriodSeconds" Json.asInt?
  deletionTimestamp := Json.read? fs "deletionTimestamp" Json.asMoment?
  finalizers := Json.read? fs "finalizers" Json.asStrings?
  generateName := Json.read? fs "generateName" Json.asString?
  generation := Json.read? fs "generation" Json.asInt?
  labels := Json.read? fs "labels" Json.asStringTable?
  managedFields := Json.read? fs "managedFields" Json.asArray?
  name := Json.read? fs "name" Json.asString?
  ns := Json.read? fs "namespace" Json.asString?
  ownerReferences := Json.read? fs "ownerReferences" fun j =>
    j.asArray?.bind (·.mapM OwnerReference.read?)
  resourceVersion := Json.read? fs "resourceVersion" Json.asString?
  selfLink := Json.read? fs "selfLink" Json.asString?
  uid := Json.read? fs "uid" Json.asString?

/-- The metadata that a document gives, if it has the shape of metadata. -/
def decode? (j : Json) : Option Metadata := do
  let normal ← Schema.objectMeta.normalize? j
  let fs ← normal.asObject?
  return ofFields fs

/-- The name, else the start of the name that the server is to choose, else nothing. -/
def anyName (m : Metadata) : String := (m.name <|> m.generateName).getD ""

/-- Whether some owner reference has this uid. -/
def ownedBy (m : Metadata) (uid : Option String) : Bool :=
  match m.ownerReferences with
  | some refs => refs.any fun r => some r.uid = uid
  | none => false

end Metadata

end NodeFeatureOperator
