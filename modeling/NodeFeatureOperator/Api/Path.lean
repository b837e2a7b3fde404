import NodeFeatureOperator.Instance
import NodeFeatureOperator.Key

/-!
# Paths of the API

Where resources are found: the path of a collection follows from the API group, the version and the
plural name of its type, and from the namespace.
-/

namespace NodeFeatureOperator.Api

/-- The path of the collection of all resources of a type, in one namespace or in all. -/
def collection (group version plural : String) (ns : Option String) : String :=
  let root := if group = "" then "/api/" else "/apis/" ++ group ++ "/"
  let scope := match ns with
    | some ns => "namespaces/" ++ ns ++ "/"
    | none => ""
  root ++ version ++ "/" ++ scope ++ plural

/-- The path of the collection in which the object of a key is. -/
def objects (key : Key) : String :=
  collection key.kind.group key.kind.version key.kind.plural key.ns

/-- The path of the instances of a namespace, or of all instances. -/
def instances (ns : Option String) : String :=
  collection Instance.group Instance.version Instance.plural ns

/-- The path of the events of a namespace. -/
def events (ns : String) : String := collection "events.k8s.io" "v1" "events" (some ns)

end NodeFeatureOperator.Api
