import NodeFeatureOperator.Error
import NodeFeatureOperator.Object
import NodeFeatureOperator.Instance

/-!
# Stores

A store is where the objects and the instances of a cluster are read and written. The operator knows
a store only by what it can be asked to do, so that everything built on it holds for the simulated
cluster and for a session with an API server alike. A store also keeps the clock: the operator can
read it and can wait.
-/

namespace NodeFeatureOperator

/-- Something to be told about an instance. -/
structure Event where
  warning : Bool
  reason : String
  action : String
  note : String
deriving DecidableEq, Repr, Inhabited

/-- A computation on a store. It may fail, and what it did before it failed stays done. -/
abbrev StoreM (σ α : Type) := EStateM Error σ α

/-- What a store can be asked to do. -/
class Store (σ : Type) where
  /-- The object under a key, if there is one. -/
  get : Key → StoreM σ (Option ManagedObject)
  /-- Creates an object. -/
  create : ManagedObject → StoreM σ ManagedObject
  /-- Replaces an object. -/
  update : ManagedObject → StoreM σ ManagedObject
  /-- Deletes the object under a key. -/
  delete : Key → StoreM σ Unit
  /-- The instance of an identity, if there is one. -/
  getInstance : InstanceId → StoreM σ (Option Instance)
  /-- All instances of the cluster. -/
  listInstances : StoreM σ (List Instance)
  /-- Replaces the metadata and the spec of an instance. -/
  updateInstance : Instance → StoreM σ Instance
  /-- Replaces the status of an instance. -/
  updateStatus : Instance → StoreM σ Instance
  /-- Tells something about an instance. -/
  publish : Instance → Event → StoreM σ Unit
  /-- Lets time pass. -/
  pause : Duration → StoreM σ Unit
  /-- The time that has passed. -/
  elapsed : σ → Duration
  /-- The reading of the clock. -/
  now : σ → Moment

namespace StoreM

variable {σ α : Type}

/-- The computation with its failure as an answer. -/
def attempt (m : StoreM σ α) : StoreM σ (Except Error α) := fun s =>
  match m s with
  | .ok a s => .ok (.ok a) s
  | .error e s => .ok (.error e) s

/-- The computation whose failure does not matter. -/
def bestEffort (m : StoreM σ Unit) : StoreM σ Unit := fun s =>
  match m s with
  | .ok _ s => .ok () s
  | .error _ s => .ok () s

/-- The computation that only passes on an answer. -/
def ofExcept (r : Except Error α) : StoreM σ α :=
  match r with
  | .ok a => pure a
  | .error e => throw e

end StoreM

namespace Event

/-- Something ordinary. -/
def normal (reason action note : String) : Event := ⟨false, reason, action, note⟩

/-- Something that should not be. -/
def alarm (reason action note : String) : Event := ⟨true, reason, action, note⟩

end Event

end NodeFeatureOperator
