import NodeFeatureOperator.Instance
import NodeFeatureOperator.Object
import NodeFeatureOperator.Settings
import NodeFeatureOperator.Store

/-!
# Documents of the API

The documents that go over the wire besides the resources themselves: what a deletion asks for and
how it is answered, lists of instances, status reports that are laid over an instance, and events.
-/

namespace NodeFeatureOperator.Api

/-! ## Deletions -/

/-- What a deletion asks for: what depends on the object is removed in the background. -/
def deletion : Json := .obj [("propagationPolicy", .str "Background")]

/-- Whether a document is one cause in a status report. -/
def isCause (j : Json) : Bool :=
  match Json.record? [("reason", true), ("message", true), ("field", true)] j with
  | some fields => fields.all fun f => f.all fun j => j.asString?.isSome
  | none => false

/-- Whether a document is the details of a status report. -/
def isDetails (j : Json) : Bool :=
  let wanted := [("name", true), ("group", true), ("kind", true), ("uid", true), ("causes", true),
    ("retryAfterSeconds", true)]
  match Json.record? wanted j with
  | some [name, group, kind, uid, causes, retry] =>
    [name, group, kind, uid].all (fun f => f.all fun j => j.asString?.isSome)
      && causes.all (fun j => (j.asArray?.map fun xs => xs.all isCause).getD false)
      && retry.all fun j => (j.asInt?.map fun n => decide (0 ≤ n ∧ n < 4294967296)).getD false
  | _ => false

/-- Whether a document is a status report. -/
def isStatus (j : Json) : Bool :=
  let wanted := [("status", false), ("code", true), ("message", true), ("reason", true),
    ("details", false)]
  match Json.record? wanted j with
  | some [status, code, message, reason, details] =>
    (Condition.optional? (Condition.word? [("Success", ()), ("Failure", ())]) status).isSome
      && code.all (fun j => (j.asInt?.map fun n => decide (0 ≤ n ∧ n < 65536)).getD false)
      && [message, reason].all (fun f => f.all fun j => j.asString?.isSome)
      && details.all fun j => j = .null || isDetails j
  | _ => false

/-- The answer to a deletion: a status report, or the object as it was. -/
def deleted? (j : Json) : Option Unit :=
  if j.get? "kind" = some (.str "Status") then guard (isStatus j)
  else (FreeDocument.decode? j).map fun _ => ()

/-! ## Instances -/

/-- The instances of a list document. A list that is null holds none. -/
def decodeList? (j : Json) : Option (List Instance) := do
  let fs ← j.asObject?
  match Table.get? fs "metadata" with
  | some m => guard (Schema.listMeta.normalize? m).isSome
  | none => pure ()
  match ← Table.get? fs "items" with
  | .null => return []
  | items => (← items.asArray?).mapM Instance.decode?

/-- What is laid over an instance to report its status. The version makes the server refuse a
report on a stale copy. -/
def statusPatch (i : Instance) : Json :=
  .obj [("apiVersion", .str Instance.apiVersion), ("kind", .str Instance.kindText),
    ("metadata", .obj [("resourceVersion", InstanceSpec.nullable .str i.metadata.resourceVersion)]),
    ("status", InstanceSpec.nullable InstanceStatus.toJson i.status)]

/-! ## Events -/

/-- The API version of events. -/
def eventVersion : String := "events.k8s.io/v1"

/-- The document of an event. -/
def eventDocument (reporter : Reporter) (now : Moment) (i : Instance) (e : Event) : Json :=
  .obj [
    ("action", .str e.action),
    ("apiVersion", .str eventVersion),
    ("eventTime", .str now.toMicroText),
    ("kind", .str "Event"),
    ("metadata", .obj ([("generateName", Json.str (reporter.controller ++ "-"))]
      ++ Json.field "namespace" (i.metadata.ns.map .str))),
    ("note", .str e.note),
    ("reason", .str e.reason),
    ("regarding", .obj ([("apiVersion", Json.str Instance.apiVersion),
        ("kind", .str Instance.kindText)]
      ++ Json.field "name" (i.metadata.name.map .str)
      ++ Json.field "namespace" (i.metadata.ns.map .str)
      ++ Json.field "uid" (i.metadata.uid.map .str))),
    ("reportingController", .str reporter.controller),
    ("reportingInstance", .str reporter.place),
    ("type", .str (if e.warning then "Warning" else "Normal"))]

/-- Whether a document is an event. -/
def event? (j : Json) : Option Unit := do
  let fs ← j.asObject?
  guard ((Table.get? fs "apiVersion").all (· = .str eventVersion))
  guard ((Table.get? fs "kind").all (· = .str "Event"))
  guard ((Table.get? fs "metadata").all fun m => m = .null || (Metadata.decode? m).isSome)
  guard (Schema.eventBody.normalize? j).isSome

end NodeFeatureOperator.Api
