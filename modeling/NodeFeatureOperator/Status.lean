import NodeFeatureOperator.Component
import NodeFeatureOperator.Health

/-!
# Status of an instance

How the operator reports on an instance. A report that says nothing new about a generation that has
been reported on is not written; in one that is written, conditions that did not change keep their
times.
-/

namespace NodeFeatureOperator

variable {σ : Type} [Store σ]

/-- Whether an instance already reports these conditions for its generation. -/
def Instance.reports (i : Instance) (conditions : List Condition) : Bool :=
  !Condition.changed i.conditions conditions && i.observedGeneration = i.metadata.generation

/-- The instance that reports these conditions for its generation. -/
def Instance.withReport (i : Instance) (conditions : List Condition) : Instance :=
  { i with status := some ⟨Condition.carryTimes i.conditions conditions, i.metadata.generation⟩ }

/-- Writes a report, unless the instance has it already. The answer says whether it was written. -/
def writeConditions (i : Instance) (conditions : List Condition) : StoreM σ Bool := do
  if i.reports conditions then return false
  let _ ← Store.updateStatus (i.withReport conditions)
  return true

/-- The health of resources of a pass, up to the first whose health cannot be told. -/
def Pass.inspect (p : Pass) : List Resource → StoreM σ (List Health)
  | [] => pure []
  | r :: rs => do
    let key := p.keyOf r
    let o ← Store.get key
    let h ← StoreM.ofExcept (Health.classify key o)
    let hs ← Pass.inspect p rs
    return h :: hs

/-- The reading of the clock. -/
def readClock : StoreM σ Moment := do
  return Store.now (← get)

/-- Reports on the health of a deployment. The answer says whether the report was written. -/
def Pass.updateStatus (p : Pass) : StoreM σ Bool := do
  let healths ← p.inspect p.deployed
  let now ← readClock
  writeConditions p.subject (Health.aggregate now healths)

/-- Reports an error under a reason, as far as that succeeds. A conflict is left to the next pass. -/
def Pass.reportError (p : Pass) (reason : String) (e : Error) : StoreM σ Unit := do
  if !e.isConflict then
    let now ← readClock
    let _ ← StoreM.attempt (writeConditions p.subject (Condition.degraded now reason e.message))

/-- Reports the failure of a component. -/
def Pass.reportFailure (p : Pass) (c : Component) (e : Error) : StoreM σ Unit :=
  p.reportError (c.toText ++ "Failed") e

/-- Brings a component to its desired state. -/
def Pass.runComponent (p : Pass) (c : Component) : StoreM σ Unit := do
  match c with
  | .status =>
    let _ ← p.updateStatus
  | c => p.applyAll (p.managed c)

/-- Brings components to their desired states one after the other, up to the first that fails. Its
failure is reported. -/
def Pass.runComponents (p : Pass) : List Component → StoreM σ Unit
  | [] => pure ()
  | c :: cs => do
    match ← StoreM.attempt (p.runComponent c) with
    | .ok _ => Pass.runComponents p cs
    | .error e =>
      p.reportFailure c e
      throw e

end NodeFeatureOperator
