import NodeFeatureOperator.Condition
import NodeFeatureOperator.Finalizer

/-!
# Instances

An instance is the document by which a user asks for a node-feature-discovery deployment. Its spec
says what to deploy; its status is what the operator reports. Names of the spec that are unset are
written as null.
-/

namespace NodeFeatureOperator

/-- What an instance asks for. -/
structure InstanceSpec where
  /-- The image of the containers, when the operator's default is not wanted. -/
  image : Option String := none
  pullPolicy : Option String := none
  servicePort : Option Int := none
  /-- The content of the configuration file of the workers. -/
  workerConfig : String := ""
  /-- The content of a second configuration file, shipped with the first. -/
  customConfig : Option String := none
  topologyUpdater : Bool := false
  /-- Whether the labels of the nodes are cleaned up when the instance goes. -/
  pruneOnDelete : Bool := false
  /-- A name that tells several deployments on one cluster apart. -/
  instanceName : Option String := none
  extraLabelNs : Option (List String) := none
  labelWhiteList : Option String := none
  resourceLabels : Option (List String) := none
deriving DecidableEq, Repr, Inhabited

/-- What the operator reports about an instance. -/
structure InstanceStatus where
  conditions : List Condition := []
  /-- The generation of the spec that the conditions are about. -/
  observedGeneration : Option Int := none
deriving DecidableEq, Repr, Inhabited

/-- What tells an instance apart from all others: where it lives and what it is called. -/
structure InstanceId where
  ns : String
  name : String
deriving DecidableEq, Repr, Inhabited

namespace InstanceId

instance : Ord InstanceId where
  compare a b := (compare a.ns b.ns).then (compare a.name b.name)

/-- The text of an identity. -/
def toText (id : InstanceId) : String := id.ns ++ "/" ++ id.name

end InstanceId

/-- A node-feature-discovery deployment. -/
structure Instance where
  metadata : Metadata
  spec : InstanceSpec
  status : Option InstanceStatus
deriving DecidableEq, Inhabited

namespace InstanceSpec

/-- An optional value, written as null when unset. -/
def nullable (f : α → Json) (v : Option α) : Json := (v.map f).getD .null

/-- The document of a configuration file. -/
def configJson (content : String) : Json := .obj [("configData", .str content)]

/-- The document of a spec. -/
def toJson (s : InstanceSpec) : Json :=
  .obj [
    ("customConfig", nullable configJson s.customConfig),
    ("extraLabelNs", nullable Json.ofStrings s.extraLabelNs),
    ("instance", nullable .str s.instanceName),
    ("labelWhiteList", nullable .str s.labelWhiteList),
    ("operand", .obj [
      ("image", nullable .str s.image),
      ("imagePullPolicy", nullable .str s.pullPolicy),
      ("servicePort", nullable .int s.servicePort)]),
    ("prunerOnDelete", .bool s.pruneOnDelete),
    ("resourceLabels", nullable Json.ofStrings s.resourceLabels),
    ("topologyUpdater", .bool s.topologyUpdater),
    ("workerConfig", configJson s.workerConfig)]

/-- A value that may be absent, but not null unless `f` reads null. -/
def defaulted? (default : α) (f : Json → Option α) : Option Json → Option α
  | none => some default
  | some j => f j

/-- The image, the pull policy and the port that a document gives. -/
def decodeOperand? (j : Json) : Option (Option String × Option String × Option Int) := do
  match ← Json.record? [("image", false), ("imagePullPolicy", false), ("servicePort", false)] j with
  | [image, pullPolicy, servicePort] =>
    return (← Condition.optional? Json.asString? image,
      ← Condition.optional? Json.asString? pullPolicy,
      ← Condition.optional? (fun j => j.asInt?.filter Schema.fits32) servicePort)
  | _ => none

/-- The content of the configuration file that a document gives. -/
def decodeConfig? (j : Json) : Option String := do
  match ← Json.record? [("configData", true)] j with
  | [content] => defaulted? "" Json.asString? content
  | _ => none

/-- The spec that a document gives. -/
def decode? (j : Json) : Option InstanceSpec := do
  let wanted := [("operand", true), ("workerConfig", true), ("customConfig", false),
    ("topologyUpdater", true), ("prunerOnDelete", true), ("instance", false),
    ("extraLabelNs", false), ("labelWhiteList", false), ("resourceLabels", false)]
  match ← Json.record? wanted j with
  | [operand, worker, custom, topology, prune, label, extra, white, resources] =>
    let (image, pullPolicy, servicePort) ←
      defaulted? (none, none, none) decodeOperand? operand
    return {
      image, pullPolicy, servicePort
      workerConfig := ← defaulted? "" decodeConfig? worker
      customConfig := ← Condition.optional? decodeConfig? custom
      topologyUpdater := ← defaulted? false Json.asBool? topology
      pruneOnDelete := ← defaulted? false Json.asBool? prune
      instanceName := ← Condition.optional? Json.asString? label
      extraLabelNs := ← Condition.optional? Json.asStrings? extra
      labelWhiteList := ← Condition.optional? Json.asString? white
      resourceLabels := ← Condition.optional? Json.asStrings? resources }
  | _ => none

end InstanceSpec

namespace InstanceStatus

/-- The document of a status. -/
def toJson (s : InstanceStatus) : Json :=
  .obj [("conditions", Condition.allToJson s.conditions),
    ("observedGeneration", InstanceSpec.nullable .int s.observedGeneration)]

/-- The status that a document gives. -/
def decode? (j : Json) : Option InstanceStatus := do
  match ← Json.record? [("conditions", true), ("observedGeneration", false)] j with
  | [conditions, generation] =>
    return {
      conditions := ← InstanceSpec.defaulted? [] Condition.decodeAll? conditions
      observedGeneration :=
        ← Condition.optional? (fun j => j.asInt?.filter Schema.fits64) generation }
  | _ => none

end InstanceStatus

namespace Instance

/-- The API group of instances. -/
def group : String := "nfd.k8s-sigs.io"

/-- The version of the API group. -/
def version : String := "v1"

/-- The API version that documents of instances name. -/
def apiVersion : String := group ++ "/" ++ version

/-- The kind that documents of instances name. -/
def kindText : String := "NodeFeatureDiscovery"

/-- The name of instances in request paths. -/
def plural : String := "nodefeaturediscoveries"

/-- The document of an instance. -/
def toJson (i : Instance) : Json :=
  .obj ([("apiVersion", .str apiVersion), ("kind", .str kindText),
      ("metadata", i.metadata.toJson), ("spec", i.spec.toJson)]
    ++ Json.field "status" (i.status.map (·.toJson)))

/-- The instance that a document gives. The API version and the kind are not looked at. -/
def decode? (j : Json) : Option Instance := do
  match ← Json.record? [("metadata", false), ("spec", false), ("status", false)] j with
  | [metadata, spec, status] =>
    return {
      metadata := ← metadata.bind Metadata.decode?
      spec := ← spec.bind InstanceSpec.decode?
      status := ← Condition.optional? InstanceStatus.decode? status }
  | _ => none

/-- The namespace of an instance, empty when it has none. -/
def ns (i : Instance) : String := i.metadata.ns.getD ""

/-- The name of an instance. -/
def name (i : Instance) : String := i.metadata.anyName

/-- What tells an instance apart from all others. -/
def id (i : Instance) : InstanceId := ⟨i.ns, i.name⟩

/-- The finalizers of an instance. -/
def finalizers (i : Instance) : List String := i.metadata.finalizers.getD []

/-- Whether the finalizer of the operator is on the instance. -/
def hasFinalizer (i : Instance) : Bool := Finalizer.own ∈ i.finalizers

/-- The instance with the finalizer of the operator. -/
def addFinalizer (i : Instance) : Instance :=
  { i with metadata :=
    { i.metadata with finalizers := some (Finalizer.add i.finalizers Finalizer.own) } }

/-- The instance without the finalizer of the operator. -/
def removeFinalizer (i : Instance) : Instance :=
  { i with metadata :=
    { i.metadata with
      finalizers := i.metadata.finalizers.map (Finalizer.remove · Finalizer.own) } }

/-- Whether somebody has asked for the instance to go. -/
def isDeleting (i : Instance) : Bool := i.metadata.deletionTimestamp.isSome

/-- A text, unless it is empty. -/
def nonEmpty (s : Option String) : Option String := s.filter (· ≠ "")

/-- The image of the containers. -/
def operandImage (i : Instance) (default : String) : String :=
  (nonEmpty i.spec.image).getD default

/-- When nodes fetch the image. -/
def pullPolicy (i : Instance) : String := (nonEmpty i.spec.pullPolicy).getD "Always"

/-- The port on which the master listens. -/
def servicePort (i : Instance) : Int := (i.spec.servicePort.filter (· > 0)).getD 12000

/-- The conditions that the instance reports. -/
def conditions (i : Instance) : List Condition :=
  match i.status with
  | some s => s.conditions
  | none => []

/-- The generation that the conditions of the instance are about. -/
def observedGeneration (i : Instance) : Option Int := i.status.bind (·.observedGeneration)

/-- The reference by which an object names the instance as the owner that controls it. Only an
instance with a name and a uid can own anything. -/
def controllerReference? (i : Instance) : Option OwnerReference := do
  let name ← i.metadata.name
  let uid ← i.metadata.uid
  return ⟨apiVersion, none, some true, kindText, name, uid⟩

/-- An instance of which only the identity is known. -/
def bare (id : InstanceId) : Instance :=
  ⟨{ ns := some id.ns, name := some id.name }, {}, none⟩

end Instance

end NodeFeatureOperator
