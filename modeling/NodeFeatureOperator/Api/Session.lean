import NodeFeatureOperator.Api.Document
import NodeFeatureOperator.Api.Message
import NodeFeatureOperator.Api.Path

/-!
# Sessions with an API server

A session is the operator's side of a conversation with an API server. Every call on the store
becomes a request whose path follows from the kind, the namespace and the name, and the answer is
read as a document of the type that was asked for. The session holds the answers that are still to
come and the requests that were made.
-/

namespace NodeFeatureOperator.Api

/-- A session with an API server. -/
structure Session where
  /-- The answers still to come, the next one first. -/
  answers : List Response := []
  /-- The requests made, the first one first. -/
  requests : List Request := []
  /-- Who publishes events. -/
  reporter : Reporter
  elapsed : Duration := .zero
  clock : Moment := .reading 0
deriving DecidableEq, Inhabited

namespace Session

/-- A computation on a session that fails only as requests do. -/
abbrev Exchange (α : Type) := EStateM ApiFailure Session α

/-- The computation with the failures of its requests as errors. -/
def wrapped (wrap : ApiFailure → Error) (m : Exchange α) : StoreM Session α := fun s =>
  match m s with
  | .ok a s => .ok a s
  | .error e s => .error (wrap e) s

/-- The path of one resource of a collection. A resource without a name has none. -/
def member (path name : String) : Exchange String :=
  if name = "" then throw (.badRequest "A non-empty name is required")
  else return path ++ "/" ++ name

/-- The path with the name of the writer in its query. -/
def written (path : String) : String := path ++ "?&fieldManager=" ++ clientName

/-! ## Requests -/

/-- The type of documents that replace what is there. -/
def plainType : String := "application/json"

/-- The type of documents that are laid over what is there. -/
def patchType : String := "application/merge-patch+json"

/-- The next answer. -/
def answer : Exchange Response := do
  let s ← get
  match s.answers with
  | [] => return .unavailable
  | r :: rest =>
    set { s with answers := rest }
    return r

/-- Makes a request. What comes back is the text of the answer. -/
def send (method : Method) (path : String) (body : Option (String × Json)) :
    Exchange String := do
  match Target.parse? path with
  | none => throw (.badRequest "invalid uri character")
  | some target =>
    let request : Request := ⟨method, target, body.map (·.1), body.map (·.2)⟩
    modify fun s => { s with requests := s.requests ++ [request] }
    let r ← answer
    match r.refusal? with
    | some refusal => throw (.refused refusal)
    | none => return r.body

/-- Makes a request. What comes back is the document of the answer as `read?` reads it. -/
def ask (read? : Json → Option α) (method : Method) (path : String)
    (body : Option (String × Json)) : Exchange α := do
  let text ← send method path body
  match (Json.parse? text).bind read? with
  | some a => return a
  | none => throw .badAnswer

/-- Nothing, when the server says that it has found nothing. -/
def orNothing (m : Exchange α) : Exchange (Option α) := fun s =>
  match m s with
  | .ok a s => .ok (some a) s
  | .error (.refused r) s =>
    if r.reason = "NotFound" then .ok none s else .error (.refused r) s
  | .error e s => .error e s

/-! ## Objects -/

/-- The object that a free document gives. -/
def decoded (kind : Kind) (d : FreeDocument) : StoreM Session ManagedObject :=
  match d.toObject? kind with
  | some o => pure o
  | none => throw .serialization

/-- The free document of an object. -/
def encoded (o : ManagedObject) : StoreM Session FreeDocument :=
  match o.toFree? with
  | some d => pure d
  | none => throw .serialization

/-- The object under a key. -/
def getObject (key : Key) : StoreM Session (Option ManagedObject) := do
  let found ← wrapped (.object "get" key) <| orNothing do
    ask FreeDocument.decode? .get (← member (objects key) key.name) none
  match found with
  | some d => return some (← decoded key.kind d)
  | none => return none

/-- Creates an object. -/
def createObject (o : ManagedObject) : StoreM Session ManagedObject := do
  let d ← encoded o
  let made ← wrapped (.object "create" o.key) <|
    ask FreeDocument.decode? .post (written (objects o.key)) (some (plainType, d.toJson))
  decoded o.kind made

/-- Replaces an object. -/
def updateObject (o : ManagedObject) : StoreM Session ManagedObject := do
  let d ← encoded o
  let made ← wrapped (.object "update" o.key) do
    ask FreeDocument.decode? .put (written (← member (objects o.key) o.name))
      (some (plainType, d.toJson))
  decoded o.kind made

/-- Deletes the object under a key. -/
def deleteObject (key : Key) : StoreM Session Unit :=
  wrapped (.object "delete" key) do
    ask deleted? .delete ((← member (objects key) key.name) ++ "?") (some (plainType, deletion))

/-! ## Instances -/

/-- The instance of an identity. -/
def getInstance (id : InstanceId) : StoreM Session (Option Instance) :=
  wrapped .api <| orNothing do
    ask Instance.decode? .get (← member (instances (some id.ns)) id.name) none

/-- The instances of a namespace, or of the whole cluster; at most as many as a limit says. -/
def list (ns : Option String) (limit : Option Nat) : Exchange (List Instance) :=
  let page := match limit with
    | some n => "&limit=" ++ toString n
    | none => ""
  ask decodeList? .get (instances ns ++ "?" ++ page) none

/-- The path of an instance that is to be written. Only an instance with a namespace has one. -/
def home (i : Instance) : StoreM Session String :=
  match i.metadata.ns with
  | some ns => pure (instances (some ns))
  | none => throw (.missingObjectKey ".metadata.namespace")

/-- Replaces an instance. -/
def updateInstance (i : Instance) : StoreM Session Instance := do
  let path ← home i
  wrapped .api do
    ask Instance.decode? .put (written (← member path i.name)) (some (plainType, i.toJson))

/-- Replaces the status of an instance. -/
def updateStatus (i : Instance) : StoreM Session Instance := do
  let path ← home i
  wrapped .api do
    ask Instance.decode? .patch ((← member path i.name) ++ "/status?")
      (some (patchType, statusPatch i))

/-! ## Events -/

/-- Publishes an event, in the namespace of its instance or, if it has none, in that of the system.
That the server refuses it does not matter. -/
def publish (i : Instance) (e : Event) : StoreM Session Unit := fun s =>
  let document := eventDocument s.reporter s.clock i e
  let path := events (i.metadata.ns.getD "kube-system") ++ "?"
  match ask event? .post path (some (plainType, document)) s with
  | .ok _ s => .ok () s
  | .error (.refused _) s => .ok () s
  | .error cause s => .error (.api cause) s

instance : Store Session where
  get := getObject
  create := createObject
  update := updateObject
  delete := deleteObject
  getInstance := getInstance
  listInstances := wrapped .api (list none none)
  updateInstance := updateInstance
  updateStatus := updateStatus
  publish := publish
  pause d := modify fun s => { s with elapsed := ⟨s.elapsed.nanos + d.nanos⟩ }
  elapsed s := s.elapsed
  now s := s.clock

end Session

end NodeFeatureOperator.Api
