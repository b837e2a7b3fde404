import NodeFeatureOperator.Store

/-!
# The simulated cluster

A cluster that lives in memory and follows the rules of an API server that the operator relies on: an
object cannot be created twice, a write from a stale copy is a conflict, what is missing is not
found, and an instance that is to go disappears together with all it owns once nothing holds it.
Failures can be injected, and objects can be made to survive their deletion. The cluster keeps a
record of the calls it receives.
-/

namespace NodeFeatureOperator

/-- What a call asks for. -/
inductive Verb where
  | get
  | list
  | create
  | update
  | delete
  | status
  | event
deriving DecidableEq, Repr, Inhabited

namespace Verb

/-- Every verb. -/
def all : List Verb := [get, list, create, update, delete, status, event]

/-- The name of a verb. -/
def toText : Verb → String
  | get => "get"
  | list => "list"
  | create => "create"
  | update => "update"
  | delete => "delete"
  | status => "status"
  | event => "event"

/-- The verb of a name. -/
def ofText? (text : String) : Option Verb := all.find? fun v => v.toText = text

end Verb

/-- A call that a cluster received. -/
inductive Call where
  | object (verb : Verb) (key : Key)
  | one (verb : Verb) (id : InstanceId)
  | listing
deriving DecidableEq, Repr, Inhabited

namespace Call

/-- The text of a call. -/
def toText : Call → String
  | object verb key => verb.toText ++ " " ++ key.toText
  | one verb id => verb.toText ++ " instance " ++ id.toText
  | listing => "list instance "

/-- Whether a call changes objects or instances. -/
def isWrite : Call → Bool
  | object verb _ => verb = .create || verb = .update || verb = .delete
  | one verb _ => verb = .update || verb = .status
  | listing => false

end Call

/-- A cluster in memory. -/
structure Cluster where
  objects : Table Key ManagedObject := []
  instances : Table InstanceId Instance := []
  /-- The calls received, the first one first. -/
  calls : List Call := []
  events : List Event := []
  /-- The codes with which calls are made to fail; of several for one call the first counts. -/
  failures : List ((Verb × Key) × Nat) := []
  /-- The keys of objects that survive their deletion. -/
  sticky : List Key := []
  /-- The number of the last version given out. -/
  version : Nat := 0
  elapsed : Duration := .zero
  /-- The number of the step that reads the clock. -/
  step : Nat := 0
deriving DecidableEq, Inhabited

namespace Cluster

/-! ## Versions, failures and collection -/

/-- The cluster with one more version given out. -/
def bump (c : Cluster) : Cluster := { c with version := c.version + 1 }

/-- The text of the last version given out. -/
def versionText (c : Cluster) : String := toString c.version

/-- The uid that comes with the last version given out. -/
def freshUid (c : Cluster) : String := "uid-" ++ c.versionText

/-- The cluster with one more call on record. -/
def record (c : Cluster) (call : Call) : Cluster := { c with calls := c.calls ++ [call] }

/-- A refusal of the cluster. -/
def refusal (code : Nat) (reason : String) : ApiFailure :=
  .refused ⟨"Failure", reason ++ " (" ++ toString code ++ ")", reason, code⟩

/-- The failure injected into a call. -/
def injected? (c : Cluster) (verb : Verb) (key : Key) : Option Error :=
  (c.failures.lookup (verb, key)).map fun code =>
    .object verb.toText key (refusal code "Injected")

/-- Whether a writer that saw `seen` writes from a stale copy of what has `current`. -/
def isStale (seen current : Metadata) : Bool :=
  seen.resourceVersion.isSome && seen.resourceVersion ≠ current.resourceVersion

/-- The cluster without an instance that is to go and that nothing holds, and without all it owns. -/
def collect (c : Cluster) (id : InstanceId) : Cluster :=
  match Table.get? c.instances id with
  | none => c
  | some i =>
    if i.isDeleting && i.finalizers.isEmpty then
      { c with
        instances := Table.erase c.instances id
        objects := c.objects.filter fun row => !row.2.metadata.ownedBy i.metadata.uid }
    else c

/-! ## Changes from outside -/

/-- Somebody puts an object into the cluster. -/
def insert (c : Cluster) (o : ManagedObject) : ManagedObject × Cluster :=
  let c := c.bump
  let o := o.mapMetadata fun m =>
    { m with resourceVersion := some c.versionText, uid := some (m.uid.getD c.freshUid) }
  (o, { c with objects := Table.insert c.objects o.key o })

/-- Somebody puts an instance into the cluster. -/
def insertInstance (c : Cluster) (i : Instance) : Instance × Cluster :=
  let c := c.bump
  let i := { i with metadata :=
    { i.metadata with
      resourceVersion := some c.versionText
      uid := some (i.metadata.uid.getD c.freshUid)
      generation := some (i.metadata.generation.getD 1) } }
  (i, { c with instances := Table.insert c.instances i.id i })

/-- Somebody asks for an instance to go. An instance that is to go already keeps its time. -/
def markDeleting (c : Cluster) (id : InstanceId) : Cluster :=
  let c := c.bump
  let mark (i : Instance) : Instance := { i with metadata :=
    { i.metadata with
      deletionTimestamp := some (i.metadata.deletionTimestamp.getD (.reading c.step))
      resourceVersion := some c.versionText } }
  { c with instances := Table.modify c.instances id mark }.collect id

/-- Somebody edits an instance. It becomes a new generation, with a version of its own. -/
def editWith (c : Cluster) (id : InstanceId) (f : Instance → Instance) : Cluster :=
  let c := c.bump
  let edit (i : Instance) : Instance :=
    let i := f i
    { i with metadata :=
      { i.metadata with
        generation := some (i.metadata.generation.getD 0 + 1)
        resourceVersion := some c.versionText } }
  { c with instances := Table.modify c.instances id edit }

/-- Somebody edits the spec of an instance. -/
def editInstance (c : Cluster) (id : InstanceId) (spec : InstanceSpec) : Cluster :=
  c.editWith id fun i => { i with spec }

/-- Calls with a verb on a key fail from now on. -/
def failOn (c : Cluster) (verb : Verb) (key : Key) (code : Nat) : Cluster :=
  { c with failures := ((verb, key), code) :: c.failures }

/-- No call is made to fail any more. -/
def clearFailures (c : Cluster) : Cluster := { c with failures := [] }

/-- The object under a key survives its deletion from now on. -/
def keepOnDelete (c : Cluster) (key : Key) : Cluster := { c with sticky := key :: c.sticky }

/-- Something changes the object under a key without a new version. -/
def change (c : Cluster) (key : Key) (f : ManagedObject → ManagedObject) : Cluster :=
  { c with objects := Table.modify c.objects key f }

/-- The job under a key reports how many of its pods succeeded and failed. -/
def setJobStatus (c : Cluster) (key : Key) (succeeded failed : Int) : Cluster :=
  c.change key fun o =>
    if o.kind = .job then
      o.setField "status" (.obj [("failed", .int failed), ("succeeded", .int succeeded)])
    else o

/-- The status of a daemon set all of whose pods are ready. -/
def readyDaemonSet : Json :=
  .obj [("currentNumberScheduled", .int 2), ("desiredNumberScheduled", .int 2),
    ("numberAvailable", .int 2), ("numberMisscheduled", .int 0), ("numberReady", .int 2),
    ("numberUnavailable", .int 0), ("updatedNumberScheduled", .int 2)]

/-- The status of a deployment all of whose pods are ready. -/
def readyDeployment : Json :=
  .obj [("conditions", .arr [
    .obj [("status", .str "True"), ("type", .str "Available")],
    .obj [("status", .str "True"), ("type", .str "Progressing")]])]

/-- The object with the status of a workload all of whose pods are ready. -/
def makeReady (o : ManagedObject) : ManagedObject :=
  match o.kind with
  | .daemonSet => o.setField "status" readyDaemonSet
  | .deployment => o.setField "status" readyDeployment
  | _ => o

/-- All workloads of a namespace report that they are ready. -/
def markReady (c : Cluster) (ns : String) : Cluster :=
  { c with objects := c.objects.map fun row =>
    if row.1.ns = some ns then (row.1, makeReady row.2) else row }

/-- The record of calls and events starts anew. -/
def clearCalls (c : Cluster) : Cluster := { c with calls := [], events := [] }

/-! ## What is on record -/

/-- The keys of all objects of a kind. -/
def keysOf (c : Cluster) (kind : Kind) : List Key :=
  (Table.keys c.objects).filter fun k => k.kind = kind

/-- The number of calls that write. -/
def writes (c : Cluster) : Nat := (c.calls.filter Call.isWrite).length

/-- The keys of the calls on objects with a verb, in the order of the calls. -/
def objectCalls (c : Cluster) (verb : Verb) : List Key :=
  c.calls.filterMap fun
    | .object v key => if v = verb then some key else none
    | _ => none

/-- The number of calls on instances with a verb. -/
def instanceCalls (c : Cluster) (verb : Verb) : Nat :=
  (c.calls.filter fun
    | .one v _ => v = verb
    | .listing => verb = .list
    | .object .. => false).length

/-! ## Calls -/

/-- Records a call on an object, which may be made to fail. -/
def enter (verb : Verb) (key : Key) : StoreM Cluster Unit := fun c =>
  let c := c.record (.object verb key)
  match c.injected? verb key with
  | some e => .error e c
  | none => .ok () c

/-- The object under a key. -/
def getObject (key : Key) : StoreM Cluster (Option ManagedObject) := do
  enter .get key
  return Table.get? (← get).objects key

/-- Creates an object with a version and a uid of its own. -/
def createObject (o : ManagedObject) : StoreM Cluster ManagedObject := do
  let key := o.key
  enter .create key
  if Table.contains (← get).objects key then
    throw (.object "create" key (refusal 409 "AlreadyExists"))
  let c := (← get).bump
  let o := o.mapMetadata fun m =>
    { m with resourceVersion := some c.versionText, uid := some c.freshUid }
  set { c with objects := Table.insert c.objects key o }
  return o

/-- Replaces an object. It gets a new version and keeps its uid. -/
def updateObject (o : ManagedObject) : StoreM Cluster ManagedObject := do
  let key := o.key
  enter .update key
  match Table.get? (← get).objects key with
  | none => throw (.object "update" key (refusal 404 "NotFound"))
  | some current =>
    if isStale o.metadata current.metadata then
      throw (.object "update" key (refusal 409 "Conflict"))
    let c := (← get).bump
    let o := o.mapMetadata fun m =>
      { m with resourceVersion := some c.versionText, uid := current.metadata.uid }
    set { c with objects := Table.insert c.objects key o }
    return o

/-- Deletes the object under a key, unless it survives. -/
def deleteObject (key : Key) : StoreM Cluster Unit := do
  enter .delete key
  let c ← get
  if !Table.contains c.objects key then
    throw (.object "delete" key (refusal 404 "NotFound"))
  if key ∉ c.sticky then
    set { c with objects := Table.erase c.objects key }

/-- The instance of an identity. -/
def getInstance (id : InstanceId) : StoreM Cluster (Option Instance) := do
  modify (·.record (.one .get id))
  return Table.get? (← get).instances id

/-- All instances. -/
def listInstances : StoreM Cluster (List Instance) := do
  modify (·.record .listing)
  return Table.values (← get).instances

/-- The instance in the cluster that a writer means, with a new version given out. -/
def current (verb : Verb) (i : Instance) : StoreM Cluster Instance := do
  modify fun c => (c.record (.one verb i.id)).bump
  match Table.get? (← get).instances i.id with
  | none => throw (.api (refusal 404 "NotFound"))
  | some current =>
    if isStale i.metadata current.metadata then throw (.api (refusal 409 "Conflict"))
    return current

/-- Replaces finalizers, labels, annotations and spec of an instance. Another spec is a new
generation. -/
def updateInstance (i : Instance) : StoreM Cluster Instance := do
  let old ← current .update i
  let c ← get
  let m := { old.metadata with
    finalizers := i.metadata.finalizers
    labels := i.metadata.labels
    annotations := i.metadata.annotations
    resourceVersion := some c.versionText }
  let new : Instance :=
    if old.spec = i.spec then { old with metadata := m }
    else { old with
      spec := i.spec
      metadata := { m with generation := some (m.generation.getD 0 + 1) } }
  set ({ c with instances := Table.insert c.instances i.id new }.collect i.id)
  return new

/-- Replaces the status of an instance. -/
def updateStatus (i : Instance) : StoreM Cluster Instance := do
  let old ← current .status i
  let c ← get
  let new : Instance := { old with
    status := i.status
    metadata := { old.metadata with resourceVersion := some c.versionText } }
  set { c with instances := Table.insert c.instances i.id new }
  return new

/-- Records an event. -/
def publish (i : Instance) (e : Event) : StoreM Cluster Unit :=
  modify fun c =>
    let c := c.record (.one .event i.id)
    { c with events := c.events ++ [e] }

instance : Store Cluster where
  get := getObject
  create := createObject
  update := updateObject
  delete := deleteObject
  getInstance := getInstance
  listInstances := listInstances
  updateInstance := updateInstance
  updateStatus := updateStatus
  publish := publish
  pause d := modify fun c => { c with elapsed := ⟨c.elapsed.nanos + d.nanos⟩ }
  elapsed c := c.elapsed
  now c := .reading c.step

end Cluster

end NodeFeatureOperator
