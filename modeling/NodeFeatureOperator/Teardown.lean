import NodeFeatureOperator.Prune

/-!
# Teardown of an instance

What happens when an instance is to go: its objects are deleted in a fixed order, the prune job runs
if the instance asks for it, and only when nothing is left does the operator take its finalizer off.
Objects of the whole cluster stay as long as an instance in another namespace needs them.
-/

namespace NodeFeatureOperator

/-- What is to happen next with an instance. -/
inductive Action where
  /-- Another pass after a while. -/
  | requeue (after : Duration)
  /-- Nothing, until something changes. -/
  | await
deriving DecidableEq, Repr, Inhabited

/-- Whether an instance of another namespace is to stay. -/
def Instance.needsSharedObjects (i other : Instance) : Bool :=
  other.metadata.ns ≠ i.metadata.ns && !other.isDeleting

/-- The keys of what an instance deployed, in the order of deletion. The topology updater is among
them even when it is off, for it may have been on. -/
def deletionPlan (i : Instance) (shared manageSecurityPolicies : Bool) : List Key :=
  let key (kind : Kind) (name : String) : Key := Key.forInstance kind i.ns name
  let unshared (keys : List Key) : List Key := if shared then [] else keys
  let policy (name : String) : List Key :=
    if manageSecurityPolicies then [key .securityContextConstraints name] else []
  [key .daemonSet "nfd-topology-updater"]
    ++ unshared [
      key .clusterRoleBinding "nfd-topology-updater",
      key .clusterRole "nfd-topology-updater"]
    ++ [key .serviceAccount "nfd-topology-updater"]
    ++ unshared (policy "nfd-topology-updater")
    ++ [key .daemonSet "nfd-worker",
      key .deployment "nfd-master",
      key .service "nfd-master",
      key .deployment "nfd-gc",
      key .role "nfd-worker"]
    ++ unshared ([
      key .clusterRole "nfd-master",
      key .clusterRole "nfd-gc",
      key .clusterRoleBinding "nfd-master",
      key .clusterRoleBinding "nfd-gc"] ++ policy "nfd-worker")
    ++ [key .roleBinding "nfd-worker",
      key .roleBinding "nfd-master",
      key .serviceAccount "nfd-worker",
      key .serviceAccount "nfd-master",
      key .serviceAccount "nfd-gc",
      key .configMap "nfd-worker"]

variable {σ : Type} [Store σ]

/-- The keys under which there still is an object. -/
def remaining : List Key → StoreM σ (List Key)
  | [] => pure []
  | key :: keys => do
    let present ← keyExists key
    let rest ← remaining keys
    return if present then key :: rest else rest

namespace Pass

/-- Whether an instance of another namespace is to stay. -/
def otherActive (p : Pass) : StoreM σ Bool := do
  return (← Store.listInstances).any p.subject.needsSharedObjects

/-- What is to happen after the answer to taking the finalizer off. An instance that is gone needs
nothing more; any other failure is tried again later. -/
def released (p : Pass) : Except Error Instance → Action
  | .ok _ => .await
  | .error e => if e.isNotFound then .await else .requeue p.settings.finalizeRequeue

/-- Takes the finalizer off the instance, if it is there. -/
def release (p : Pass) : StoreM σ Action := do
  if p.subject.hasFinalizer then
    let answer ← StoreM.attempt (Store.updateInstance p.subject.removeFinalizer)
    return p.released answer
  else return .await

/-- Takes the next step in tearing an instance down. -/
def finalize (p : Pass) : StoreM σ Action := do
  let shared ← p.otherActive
  let plan := deletionPlan p.subject shared p.settings.manageSecurityPolicies
  deleteAll p.settings.deleteRetry plan
  let left ← remaining plan
  if !left.isEmpty then return .requeue p.settings.finalizeRequeue
  match ← p.prune with
  | .inProgress => return .requeue p.settings.pruneRequeue
  | .done => p.release

end Pass

end NodeFeatureOperator
