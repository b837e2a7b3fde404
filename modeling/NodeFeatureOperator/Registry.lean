import NodeFeatureOperator.Resource
import NodeFeatureOperator.Error
import NodeFeatureOperator.Yaml.Value
import NodeFeatureOperator.Template.Worker
import NodeFeatureOperator.Template.Master
import NodeFeatureOperator.Template.TopologyUpdater
import NodeFeatureOperator.Template.GarbageCollector
import NodeFeatureOperator.Template.Prune

/-!
# The registry of templates

A registry holds one template for each resource. It is filled with the templates of the operator's
own components, or out of YAML texts: the documents in front of the first faulty one are kept.
-/

namespace NodeFeatureOperator

namespace ManagedObject

/-- The managed object that a document gives. Its kind says which type of object it is. -/
def ofDocument (j : Json) : Except Error ManagedObject :=
  match (j.get? "kind").bind Json.asString? with
  | none => .error (.missingObjectKey ".kind")
  | some name =>
    match Kind.ofText? name with
    | none => .error (.unknownKind name)
    | some kind =>
      match decode? kind j with
      | some o => .ok o
      | none => .error .serialization

/-- The resource that an object is the template of. -/
def resource (o : ManagedObject) : Resource := ⟨o.kind, o.name⟩

end ManagedObject

/-- Templates by resource. -/
structure Registry where
  templates : Table Resource ManagedObject := []
deriving DecidableEq, Inhabited

namespace Registry

/-- The registry with a template, in place of the one that it had for the resource. -/
def add (r : Registry) (o : ManagedObject) : Registry := ⟨Table.insert r.templates o.resource o⟩

/-- The template that a document of a YAML text gives; none for a document that is null. -/
def template? : Option Yaml.Value → Except Error (Option ManagedObject)
  | none => .error .yaml
  | some v =>
    if v.isNull then .ok none
    else
      match v.toJson? with
      | none => .error .serialization
      | some j =>
        match ManagedObject.ofDocument j with
        | .error e => .error e
        | .ok o => if o.name = "" then .error (.missingObjectKey ".metadata.name") else .ok (some o)

/-- The registry with the templates of documents up to the first faulty one, and its error. -/
def addDocuments (r : Registry) : List (Option Yaml.Value) → Registry × Option Error
  | [] => (r, none)
  | v :: vs =>
    match template? v with
    | .error e => (r, some e)
    | .ok none => addDocuments r vs
    | .ok (some o) => addDocuments (r.add o) vs

/-- The registry with the templates of a YAML text up to the first fault, and its error. -/
def addYaml (r : Registry) (text : String) : Registry × Option Error :=
  r.addDocuments (Yaml.values text)

/-- The templates of the operator's own components. -/
def own : Registry :=
  (Template.worker ++ Template.master ++ Template.topologyUpdater ++ Template.garbageCollector
    ++ Template.prune).foldl add {}

/-- The template of a resource. -/
def get (r : Registry) (resource : Resource) : Except Error ManagedObject :=
  match Table.get? r.templates resource with
  | some o => .ok o
  | none => .error (.missingManifest resource.toText)

/-- The number of templates. -/
def size (r : Registry) : Nat := r.templates.length

end Registry

end NodeFeatureOperator
