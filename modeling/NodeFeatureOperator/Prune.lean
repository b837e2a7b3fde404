import NodeFeatureOperator.Convergence

/-!
# The prune job

When an instance goes that asks for it, a job takes all labels off the nodes. `Pass.prune` never
waits for the job: it looks once and says where things stand.
-/

namespace NodeFeatureOperator

/-- Where the prune job of an instance stands. -/
inductive PruneState where
  /-- Nothing is left to do. -/
  | done
  /-- The job is running. -/
  | inProgress
deriving DecidableEq, Repr, Inhabited

/-- The prune job. -/
def pruneJob : Resource := ⟨.job, "nfd-prune"⟩

/-- What the prune job needs and the job itself, in the order of creation. -/
def pruneResources : List Resource :=
  [⟨.serviceAccount, "nfd-prune"⟩, ⟨.clusterRole, "nfd-prune"⟩, ⟨.clusterRoleBinding, "nfd-prune"⟩,
    pruneJob]

namespace ManagedObject

/-- A number in the status of an object, zero when it is not there. -/
def statusCount (o : ManagedObject) (name : String) : Int :=
  ((o.at? ["status", name]).bind Json.asInt?).getD 0

end ManagedObject

namespace Pass

/-- The keys of what the prune job needs and of the job itself, in the order of deletion. -/
def pruneKeys (p : Pass) : List Key := pruneResources.reverse.map p.keyOf

/-- The failure of the prune job. -/
def pruneFailure (p : Pass) (failed : Int) : Error :=
  .pruneJobFailed ((p.keyOf pruneJob).ns.getD "") (p.keyOf pruneJob).name failed

variable {σ : Type} [Store σ]

/-- Announces the failure of the prune job, unless the instance already reports it. -/
def announcePruneFailure (p : Pass) (failed : Int) : StoreM σ Unit := do
  let e := p.pruneFailure failed
  if Condition.degradedReason? p.subject.conditions ≠ some e.reason then
    StoreM.bestEffort (Store.publish p.subject (.alarm e.reason "Pruning node labels"
      ((p.keyOf pruneJob).toText ++ " has " ++ toString failed ++ " failed pods")))

/-- Takes the next step with the prune job that is stored. -/
def pruneStep (p : Pass) (job : ManagedObject) : StoreM σ PruneState := do
  if job.kind ≠ .job then throw (.unexpectedKind .job job.kind)
  if job.statusCount "succeeded" ≥ 1 then
    deleteAll p.settings.deleteRetry p.pruneKeys
    return .done
  let failed := job.statusCount "failed"
  if failed ≥ 1 then
    p.announcePruneFailure failed
    throw (p.pruneFailure failed)
  return .inProgress

/-- Takes the next step with the prune job of an instance that asks for one. -/
def prune (p : Pass) : StoreM σ PruneState := do
  if !p.subject.spec.pruneOnDelete then return .done
  match ← Store.get (p.keyOf pruneJob) with
  | none =>
    p.applyAll pruneResources
    return .inProgress
  | some job => p.pruneStep job

end Pass

end NodeFeatureOperator
