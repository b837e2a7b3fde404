import NodeFeatureOperator.Backoff
import NodeFeatureOperator.Metrics
import NodeFeatureOperator.Status
import NodeFeatureOperator.Teardown

/-!
# The operator

The operator makes passes over instances. A pass reads the instance anew and brings everything it
asks for to its desired state, or tears it down when the instance is to go. Between passes the
operator remembers how often an instance failed in a row, and what it has counted and measured.
-/

namespace NodeFeatureOperator

/-- An operator at work on a store. -/
structure Operator (σ : Type) where
  store : σ
  backoff : Backoff := {}
  metrics : Metrics := {}
  /-- When the last pass began. -/
  lastEvent : Moment := .reading 0

/-- A computation of an operator. -/
abbrev OperatorM (σ α : Type) := EStateM Error (Operator σ) α

/-- What an operator goes by in all its passes. -/
structure Context where
  settings : Settings
  templates : Registry := .own
deriving Inhabited

namespace OperatorM

variable {σ α : Type}

/-- A computation on the store of the operator. -/
def onStore (m : StoreM σ α) : OperatorM σ α := fun op =>
  match m op.store with
  | .ok a s => .ok a { op with store := s }
  | .error e s => .error e { op with store := s }

/-- The computation with its failure as an answer. -/
def attempt (m : OperatorM σ α) : OperatorM σ (Except Error α) := fun op =>
  match m op with
  | .ok a op => .ok (.ok a) op
  | .error e op => .ok (.error e) op

/-- Forgets the failures of an instance. -/
def forget (id : InstanceId) : OperatorM σ Unit :=
  modify fun op => { op with backoff := op.backoff.reset id.toText }

/-- Forgets the failures of an instance for which nothing more is to happen. -/
def settle (id : InstanceId) (a : Action) : OperatorM σ Action := do
  if a = .await then forget id
  return a

end OperatorM

namespace Context

/-- The pass over an instance. -/
def pass (ctx : Context) (i : Instance) : Pass := .ofInstance ctx.settings ctx.templates i

variable {σ : Type} [Store σ]

/-- Tears an instance down and forgets its failures once it is gone. -/
def finalize (ctx : Context) (i : Instance) : OperatorM σ Action := do
  let a ← OperatorM.onStore (ctx.pass i).finalize
  OperatorM.settle i.id a

/-- The pass over an instance that is to go. A failure is reported. -/
def finalPass (ctx : Context) (i : Instance) : OperatorM σ Action := do
  match ← OperatorM.attempt (ctx.finalize i) with
  | .ok a => return a
  | .error e =>
    OperatorM.onStore ((ctx.pass i).reportError e.reason e)
    throw e

/-- The pass over an instance that is to stay. First of all it gets the finalizer of the operator. -/
def livePass (ctx : Context) (i : Instance) : StoreM σ Action := do
  if i.hasFinalizer then
    let p := ctx.pass i
    p.runComponents p.components
    return .requeue ctx.settings.resync
  else
    let _ ← Store.updateInstance i.addFinalizer
    return .requeue .zero

/-- The pass over an instance as it was just read. -/
def passOver (ctx : Context) (i : Instance) : OperatorM σ Action :=
  if i.isDeleting then
    if i.hasFinalizer then ctx.finalPass i else return .await
  else OperatorM.onStore (ctx.livePass i)

/-- A pass over the instance of an identity, which is read anew. -/
def reconcileInstance (ctx : Context) (id : InstanceId) : OperatorM σ Action := do
  match ← OperatorM.onStore (Store.getInstance id) with
  | none =>
    OperatorM.forget id
    return .await
  | some i => ctx.passOver i

/-- A pass that is counted and measured. An instance whose pass succeeds starts anew with its
failures. -/
def reconcile (ctx : Context) (i : Instance) : OperatorM σ Action := do
  let before ← get
  let start := Store.elapsed before.store
  set { before with metrics := before.metrics.countRun, lastEvent := Store.now before.store }
  let answer ← OperatorM.attempt (ctx.reconcileInstance i.id)
  if answer.toBool then OperatorM.forget i.id
  modify fun op =>
    let took : Duration := ⟨(Store.elapsed op.store).nanos - start.nanos⟩
    { op with metrics := op.metrics.observe took }
  match answer with
  | .ok a => return a
  | .error e => throw e

omit [Store σ] in
/-- What is to happen after a failed pass: another one after a wait, which is counted. -/
def afterError (ctx : Context) (i : Instance) (e : Error) : OperatorM σ Action := do
  let op ← get
  let (wait, backoff) := op.backoff.retry ctx.settings i.id.toText e
  set { op with backoff, metrics := op.metrics.countFailure i.id e }
  return .requeue wait

end Context

end NodeFeatureOperator
