import NodeFeatureOperator.Proofs.Reporting
import NodeFeatureOperator.Proofs.SteadyState

/-!
# What is done with objects

Most of a pass is calls on objects. A relation that all of these calls keep to, whatever they are
about (`Cluster.Admits`), is kept to by everything that is put together out of them: the walk over
the resources, the look at their health, and all of a teardown but its last step. A run of
components keeps to it too if the statuses that are written do. One such relation is that no report
is written (`Cluster.Silent`). Deletions make fewer sorts of calls, and so they keep to more
relations (`Cluster.Removes`).
-/

namespace NodeFeatureOperator

open Cluster StoreM

variable {R : Cluster → Cluster → Prop} {c c' : Cluster} {p : Pass}

namespace Cluster

/-- Calls that deletions are made of keep to `R`, whatever they are about. -/
structure Removes (R : Cluster → Cluster → Prop) : Prop where
  get : ∀ key, Keeps R (Store.get key : StoreM Cluster (Option ManagedObject))
  delete : ∀ key, Keeps R (Store.delete key : StoreM Cluster Unit)
  pause : ∀ d, Keeps R (Store.pause d : StoreM Cluster Unit)

/-- Calls on objects, whatever they are about, keep to `R`, and so do a list of the instances, an
event and a pause. -/
structure Admits (R : Cluster → Cluster → Prop) : Prop extends Removes R where
  create : ∀ o, Keeps R (Store.create o : StoreM Cluster ManagedObject)
  update : ∀ o, Keeps R (Store.update o : StoreM Cluster ManagedObject)
  publish : ∀ i e, Keeps R (Store.publish i e : StoreM Cluster Unit)
  list : Keeps R (Store.listInstances : StoreM Cluster (List Instance))

/-! ## Deleting -/

namespace Removes

variable [IsPreorder Cluster R]

theorem keyExists (h : Removes R) (key : Key) : Keeps R (keyExists key : StoreM Cluster Bool) :=
  (h.get key).bind fun _ => Keeps.pure _

theorem deleteOnce (h : Removes R) (key : Key) :
    Keeps R (deleteOnce key : StoreM Cluster Unit) := by
  refine (h.keyExists key).bind fun present => Keeps.ite ?_ (Keeps.pure _)
  exact (h.delete key).attempt.bind fun _ => Keeps.ofExcept _

theorem deleteTries (h : Removes R) (policy : RetryPolicy) (key : Key) (n : Nat) :
    Keeps R (deleteTries policy key n : StoreM Cluster Unit) := by
  induction n with
  | zero => exact (h.pause _).bind fun _ => Keeps.throw _
  | succ n ih =>
    refine (h.deleteOnce key).bind fun _ => (h.keyExists key).bind fun present => ?_
    exact Keeps.ite (Keeps.ite ((h.pause _).bind fun _ => ih) ih) (Keeps.pure _)

theorem deleteAll (h : Removes R) (policy : RetryPolicy) (keys : List Key) :
    Keeps R (deleteAll policy keys : StoreM Cluster Unit) := by
  induction keys with
  | nil => exact Keeps.pure _
  | cons key keys ih => exact (h.deleteTries policy key _).bind fun _ => ih

theorem remaining (h : Removes R) (keys : List Key) :
    Keeps R (remaining keys : StoreM Cluster (List Key)) := by
  induction keys with
  | nil => exact Keeps.pure _
  | cons key keys ih => exact (h.keyExists key).bind fun _ => ih.bind fun _ => Keeps.pure _

end Removes

namespace Admits

variable [IsPreorder Cluster R]

/-! ## Bringing up -/

omit [IsPreorder Cluster R] in
theorem notify (h : Admits R) (i : Instance) (action : String) (key : Key) :
    Keeps R (notify i action key : StoreM Cluster Unit) :=
  (h.publish _ _).bestEffort

theorem apply (h : Admits R) (p : Pass) (r : Resource) :
    Keeps R (p.apply r : StoreM Cluster Applied) := by
  unfold Pass.apply
  refine (Keeps.ofExcept _).bind fun wished => (h.get _).bind fun found => ?_
  cases found with
  | none =>
    refine (Keeps.ofExcept _).bind fun o => (h.create o).bind fun _ => ?_
    exact (h.notify _ _ _).bind fun _ => Keeps.pure _
  | some live =>
    refine (Keeps.ofExcept _).bind fun o => Keeps.ite (Keeps.pure _) ?_
    exact (h.update o).bind fun _ => (h.notify _ _ _).bind fun _ => Keeps.pure _

theorem applyAll (h : Admits R) (p : Pass) (rs : List Resource) :
    Keeps R (p.applyAll rs : StoreM Cluster Unit) := by
  induction rs with
  | nil => exact Keeps.pure _
  | cons r rs ih => exact (h.apply p r).bind fun _ => ih

theorem build (h : Admits R) (p : Pass) (ts : List (Component × Resource)) :
    Keeps R (p.build ts : StoreM Cluster (Option (Component × Error))) := by
  induction ts with
  | nil => exact Keeps.pure _
  | cons t ts ih =>
    refine (h.apply p t.2).attempt.bind fun answer => ?_
    cases answer with
    | ok _ => exact ih
    | error _ => exact Keeps.pure _

/-- A pass that checks does nothing else but calls on objects. -/
theorem check (h : Admits R) (p : Pass) : Keeps R (p.check : StoreM Cluster Finding) := by
  refine (h.build p _).bind fun failure => ?_
  cases failure with
  | some failure => exact Keeps.pure _
  | none =>
    refine (Pass.inspect_keeps fun _ _ => h.get _).attempt.bind fun answer => ?_
    cases answer with
    | ok _ => exact Keeps.pure _
    | error _ => exact Keeps.pure _

/-- Besides calls on objects, a run of components only writes statuses of its instance. -/
theorem runComponents (h : Admits R)
    (hstatus : ∀ j, j.id = p.subject.id →
      Keeps R (Store.updateStatus j : StoreM Cluster Instance)) (components : List Component) :
    Keeps R (p.runComponents components : StoreM Cluster Unit) := by
  refine Pass.runComponents_keeps (fun d _ => ?_) fun _ _ => Pass.reportError_keeps hstatus _ _
  cases d with
  | status => exact Pass.runStatus_keeps (fun _ _ => h.get _) hstatus
  | _ => exact h.applyAll p _

/-! ## Tearing down -/

theorem pruneStep (h : Admits R) (p : Pass) (job : ManagedObject) :
    Keeps R (p.pruneStep job : StoreM Cluster PruneState) := by
  have hannounce (failed : Int) :
      Keeps R (p.announcePruneFailure failed : StoreM Cluster Unit) :=
    Keeps.ite (h.publish _ _).bestEffort (Keeps.pure _)
  rw [Pass.pruneStep_eq]
  refine Keeps.ite (Keeps.throw _) (Keeps.ite ?_ (Keeps.ite ?_ (Keeps.pure _)))
  · exact (h.deleteAll _ _).bind fun _ => Keeps.pure _
  · exact (hannounce _).bind fun _ => Keeps.throw _

theorem prune (h : Admits R) (p : Pass) : Keeps R (p.prune : StoreM Cluster PruneState) := by
  refine Keeps.ite (Keeps.pure _) ((h.get _).bind fun found => ?_)
  cases found with
  | none => exact (h.applyAll p _).bind fun _ => Keeps.pure _
  | some job => exact h.pruneStep p job

/-- All of a teardown but its last step. -/
theorem clear (h : Admits R) (p : Pass) : Keeps R p.clear := by
  refine (h.list.bind fun _ => Keeps.pure _).bind fun shared => ?_
  refine (h.deleteAll _ _).bind fun _ => (h.remaining _).bind fun left => ?_
  exact Keeps.ite (Keeps.pure _) ((h.prune p).bind fun _ => Keeps.pure _)

end Admits

theorem Removes.mono {S : Cluster → Cluster → Prop} (hRS : ∀ c c', R c c' → S c c')
    (h : Removes R) : Removes S where
  get key := (h.get key).mono hRS
  delete key := (h.delete key).mono hRS
  pause d := (h.pause d).mono hRS

theorem Admits.mono {S : Cluster → Cluster → Prop} (hRS : ∀ c c', R c c' → S c c')
    (h : Admits R) : Admits S where
  toRemoves := h.toRemoves.mono hRS
  create o := (h.create o).mono hRS
  update o := (h.update o).mono hRS
  publish i e := (h.publish i e).mono hRS
  list := h.list.mono hRS

theorem within_admits : Admits (Within fun _ => True) where
  get key := (get_removed key).mono fun _ _ => Removed.toWithin
  create o := (create_within o).mono fun _ _ => Within.mono fun _ _ => trivial
  update o := (update_within o).mono fun _ _ => Within.mono fun _ _ => trivial
  delete key := (delete_removed key).mono fun _ _ h => h.toWithin.mono fun _ _ => trivial
  publish i e := (publish_removed i e).mono fun _ _ => Removed.toWithin
  pause d := (pause_removed d).mono fun _ _ => Removed.toWithin
  list _ := (removed_record ..).toWithin

theorem logs_admits {V : Verb → Key → Prop} (hV : ∀ verb key, V verb key) : Admits (Logs V) where
  get key := get_logs (hV .get key)
  delete key := delete_logs (hV .delete key)
  pause := pause_logs
  create o := create_logs (hV .create o.key)
  update o := update_logs (hV .update o.key)
  publish := publish_logs
  list _ := logs_record_instance .listing (by simp) rfl

/-! ## Silence -/

/-- No report was written in between. -/
abbrev Silent : Cluster → Cluster → Prop := Writes fun call => ∀ id, call ≠ .one .status id

theorem Silent.calls (h : Silent c c') :
    ∃ calls, c'.calls = c.calls ++ calls ∧ ∀ id, .one .status id ∉ calls := by
  obtain ⟨calls, hcalls, hwrites⟩ := h
  exact ⟨calls, hcalls, fun id hmem => hwrites _ hmem rfl id rfl⟩

theorem silent_admits : Admits Silent where
  get := get_writes
  create o c := by
    rcases create_after o c with hafter | ⟨uid, hafter⟩
    · exact writes_record (.object .create o.key) (by simp) (by rw [hafter])
    · exact writes_record (.object .create o.key) (by simp) (by rw [hafter]; rfl)
  update o := update_writes (by simp)
  delete key c := by
    rcases delete_after key c with hafter | hafter
    · exact writes_record (.object .delete key) (by simp) (by rw [hafter])
    · exact writes_record (.object .delete key) (by simp) (by rw [hafter])
  publish := publish_writes
  pause _ _ := ⟨[], (List.append_nil _).symm, by simp⟩
  list _ := writes_record .listing (by simp) rfl

end Cluster

end NodeFeatureOperator
