import NodeFeatureOperator.Desired
import NodeFeatureOperator.Settings
import NodeFeatureOperator.Store

/-!
# Convergence of single objects

How one object is brought to its desired state or out of the cluster. `Pass.apply` creates an object
that is missing, updates one that differs and leaves alone one that does not. `deleteWithRetry`
deletes an object again and again until it is gone or the time is up.
-/

namespace NodeFeatureOperator

/-- What one pass over an instance works on. -/
structure Pass where
  settings : Settings
  templates : Registry
  subject : Instance
  /-- The image of the containers of the instance. -/
  image : String
deriving Inhabited

namespace Pass

/-- The pass over an instance, with the image that it asks for or the operator's default. -/
def ofInstance (settings : Settings) (templates : Registry) (i : Instance) : Pass :=
  ⟨settings, templates, i, i.operandImage settings.defaultImage⟩

/-- The key of the object that stands for a resource in this pass. -/
def keyOf (p : Pass) (r : Resource) : Key := r.key p.subject

end Pass

/-! ## Owners -/

namespace OwnerReference

/-- Whether a reference names a controller other than the owner with this uid. -/
def isForeignController (r : OwnerReference) (uid : String) : Bool :=
  r.controller = some true && r.uid ≠ uid

/-- The references with that of an owner: in place of the first with its uid, else at the end. -/
def put (owner : OwnerReference) : List OwnerReference → List OwnerReference
  | [] => [owner]
  | r :: rs => if r.uid = owner.uid then owner :: rs else r :: put owner rs

end OwnerReference

namespace ManagedObject

/-- The object under the control of an instance. Objects of the whole cluster cannot be owned by an
instance and stay as they are; an object that another controls cannot be taken over. -/
def own (o : ManagedObject) (i : Instance) : Except Error ManagedObject :=
  if o.kind.clusterScoped then .ok o
  else
    match i.controllerReference? with
    | none => .error (.ownerReference o.key "the instance has no uid")
    | some owner =>
      let refs := o.metadata.ownerReferences.getD []
      match refs.find? (·.isForeignController owner.uid) with
      | some other =>
        .error (.ownerReference o.key ("already controlled by " ++ other.kind ++ " " ++ other.name))
      | none => .ok (o.mapMetadata fun m => { m with ownerReferences := some (owner.put refs) })

/-- The object with what the server decides about a live one: its version, and the addresses of a
service. -/
def keepServerFields (o live : ManagedObject) : ManagedObject :=
  let o := o.mapMetadata fun m => { m with resourceVersion := live.metadata.resourceVersion }
  match o.kind, live.kind, live.at? ["spec"] with
  | .service, .service, some spec =>
    o.modifyAt ["spec"] fun mine =>
      (mine.setOrErase "clusterIP" (spec.get? "clusterIP")).setOrErase "clusterIPs"
        (spec.get? "clusterIPs")
  | _, _, _ => o

/-- The object that a live one is to be replaced by, given the desired one. -/
def converged (live desired : ManagedObject) (i : Instance) : Except Error ManagedObject := do
  let o ← live.laidOver desired
  let o ← o.own i
  return o.keepServerFields live

end ManagedObject

/-- What became of an object. -/
inductive Applied where
  | created
  | updated
  | unchanged
deriving DecidableEq, Repr, Inhabited

section

variable {σ : Type} [Store σ]

/-! ## Creating and updating -/

/-- Tells that something is done to an object of an instance. -/
def notify (i : Instance) (action : String) (key : Key) : StoreM σ Unit :=
  StoreM.bestEffort (Store.publish i (.normal
    ("Reconciling \x60" ++ i.name ++ "\x60")
    (action ++ " \x60" ++ key.name ++ "\x60 " ++ key.kind.toText)
    (action ++ " " ++ key.toText)))

/-- Brings the object of a resource to its desired state. -/
def Pass.apply (p : Pass) (r : Resource) : StoreM σ Applied := do
  let key := p.keyOf r
  let desired ← StoreM.ofExcept (p.templates.render p.subject r p.image)
  match ← Store.get key with
  | none =>
    let o ← StoreM.ofExcept (desired.own p.subject)
    let _ ← Store.create o
    notify p.subject "Creating" key
    return .created
  | some live =>
    let o ← StoreM.ofExcept (live.converged desired p.subject)
    if o.toJson = live.toJson then return .unchanged
    else
      let _ ← Store.update o
      notify p.subject "Updating" key
      return .updated

/-- Brings the objects of resources to their desired states, up to the first that fails. -/
def Pass.applyAll (p : Pass) : List Resource → StoreM σ Unit
  | [] => pure ()
  | r :: rs => do
    let _ ← p.apply r
    Pass.applyAll p rs

/-! ## Deleting -/

/-- Whether there is an object under a key. -/
def keyExists (key : Key) : StoreM σ Bool := do
  return (← Store.get key).isSome

/-- The answer to a deletion: that there is nothing to delete is no failure. -/
def benign : Except Error Unit → Except Error Unit
  | .ok _ => .ok ()
  | .error e => if e.isNotFound then .ok () else .error e

/-- Deletes the object under a key, if there is one. -/
def deleteOnce (key : Key) : StoreM σ Unit := do
  if ← keyExists key then
    let answer ← StoreM.attempt (Store.delete key)
    StoreM.ofExcept (benign answer)

/-- How often a deletion is tried: at once, and then after every interval up to the timeout. -/
def RetryPolicy.attempts (policy : RetryPolicy) : Nat :=
  policy.timeout.nanos / policy.interval.nanos + 1

/-- What is left of the timeout when the last try has failed. -/
def RetryPolicy.remainder (policy : RetryPolicy) : Duration :=
  ⟨policy.timeout.nanos % policy.interval.nanos⟩

/-- Tries to delete an object, and a number of times more while it is still there. -/
def deleteTries (policy : RetryPolicy) (key : Key) : Nat → StoreM σ Unit
  | 0 => do
    Store.pause policy.remainder
    throw (.deleteTimeout key policy.timeout)
  | n + 1 => do
    deleteOnce key
    if ← keyExists key then
      if n ≠ 0 then Store.pause policy.interval
      deleteTries policy key n

/-- Deletes an object and waits until it is gone. -/
def deleteWithRetry (policy : RetryPolicy) (key : Key) : StoreM σ Unit :=
  deleteTries policy key policy.attempts

/-- Deletes the objects under keys one after the other, up to the first that fails. -/
def deleteAll (policy : RetryPolicy) : List Key → StoreM σ Unit
  | [] => pure ()
  | key :: keys => do
    deleteWithRetry policy key
    deleteAll policy keys

end

end NodeFeatureOperator
