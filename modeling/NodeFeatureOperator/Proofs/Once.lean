import NodeFeatureOperator.Proofs.Pruning

/-!
# Prune jobs that run once

A prune job is the only record of its own success, and it is the first thing that a pass takes away
when it cleans up. A pass that takes the job away and then fails leaves nobody to tell that the job
has run (`Slips`), and the next pass finds no job and creates it anew (`prune_repeats`). Nothing
else makes a job run twice: while an instance that is to go holds the finalizer, its job is stored
exactly as long as no pass slips, and until then nothing is created (`prune_once`).
-/

namespace NodeFeatureOperator

open Cluster StoreM

/-- The steps of a run in which the operator returns to one instance again and again. In between,
jobs report, and calls begin to fail and cease to. -/
def Step.ReturnsTo (id : InstanceId) : Step → Prop
  | .pass id' => id' = id
  | .setJobStatus .. => True
  | .failOn .. => True
  | .clearFailures => True
  | _ => False

variable {c c' : Cluster} {id : InstanceId} {s : Step}

namespace Cluster

/-- The instance is to go and asks for pruning, if it is stored at all, and while it holds the
finalizer its prune job is stored. -/
structure Remembers (id : InstanceId) (c : Cluster) : Prop where
  departs : ∀ i, Table.get? c.instances id = some i → i.Departs id
  job : c.Holds id → c.HasJob id

/-- Where instances change in their statuses and versions only, they go on departing. -/
theorem Serves.departs {K : Key → Prop} (h : Serves K c c')
    (hc : ∀ i, Table.get? c.instances id = some i → i.Departs id) (j : Instance)
    (hj : Table.get? c'.instances id = some j) : j.Departs id := by
  obtain ⟨i, hi, hessence⟩ := h.instance_before hj
  exact (hc i hi).of_essence hessence

theorem Remembers.of_job (h : c.Remembers id) (hinstances : c'.instances = c.instances)
    (hjob : c.HasJob id → c'.HasJob id) : c'.Remembers id := by
  refine ⟨fun i hi => h.departs i (hinstances ▸ hi), ?_⟩
  rintro ⟨i, hi, hholds⟩
  exact hjob (h.job ⟨i, hinstances ▸ hi, hholds⟩)

end Cluster

/-- The pass finds that the prune job has succeeded, takes the job away, and fails. -/
def Slips (ctx : Context) (id : InstanceId) (c : Cluster) : Step → Prop
  | .pass id' => id' = id ∧
    (∃ job, Table.get? c.objects (pruneJob.key (.bare id)) = some job ∧
      1 ≤ job.statusCount "succeeded") ∧
    ¬ ((ctx.visit id : StoreM Cluster Action).after c).HasJob id ∧
    ∀ a c', ctx.visit id c ≠ .ok a c'
  | _ => False

namespace Context

/-- What a visit comes to, of an instance that departs and whose job is stored. -/
theorem visit_remembers (ctx : Context) (h : c.Remembers id) :
    let c' := (ctx.visit id : StoreM Cluster Action).after c
    c'.Remembers id ∨ Slips ctx id c (.pass id) := by
  intro c'
  have hread : (c.record (.one .get id)).Remembers id := h.of_job rfl fun hjob => hjob
  cases hi : Table.get? c.instances id with
  | none =>
    rw [show c' = _ from after_ok (ctx.visit_of_missing hi)]
    exact Or.inl hread
  | some i =>
    have hdeparts := h.departs i hi
    obtain rfl := hdeparts.named
    cases hfinalizer : i.hasFinalizer with
    | false =>
      rw [show c' = _ from after_ok (ctx.visit_of_unheld hi hdeparts.deleting hfinalizer)]
      exact Or.inl hread
    | true =>
      have hvisit := ctx.visit_of_deleting hi hdeparts.deleting hfinalizer
      have hjob : c.HasJob i.id := h.job ⟨i, hi, hfinalizer⟩
      have hkey : pruneJob.key i = pruneJob.key (.bare i.id) := pruneJob.key_of_id rfl
      have hname : (pruneJob.key (.bare i.id)).name = "nfd-prune" := pruneJob.key_name _
      rw [show c' = _ from after_congr hvisit]
      cases ctx.finalVisit_prunes hdeparts.prunes (c.record (.one .get i.id)) with
      | leaves haside =>
        refine Or.inl ⟨haside.departs hread.departs, fun _ => ?_⟩
        unfold HasJob
        rwa [haside.get? hname]
      | starts hmissing =>
        unfold HasJob at hjob
        rw [← hkey, show Table.get? c.objects (pruneJob.key i) = none from hmissing] at hjob
        cases hjob
      | fails hpruned hfound hdelete hrest hfailed =>
        have hdeleted := (deleteAll_removed _ _).of_error hdelete
        have hinstances := hdeleted.instances.trans hfound.instances
        have hdeparting := hrest.departs fun j hj => h.departs j (hinstances ▸ hj)
        by_cases hkept : ((ctx.finalVisit i : StoreM Cluster Action).after
            (c.record (.one .get i.id))).HasJob i.id
        · exact Or.inl ⟨hdeparting, fun _ => hkept⟩
        · right
          obtain ⟨job, hstored, -, hsucceeded⟩ := hpruned
          refine ⟨rfl, ⟨job, hkey ▸ hstored, hsucceeded⟩, ?_, fun a c' => hvisit ▸ hfailed a c'⟩
          rwa [after_congr hvisit]
      | ends hpruned hfound hdelete hrest =>
        have hinstances := ((deleteAll_removed _ _).of_ok hdelete).instances.trans hfound.instances
        have hrun := hrest.trans (Pass.release_of_stored (p := ctx.pass i)
          ((congrArg (Table.get? · i.id) hinstances).trans hi) hfinalizer)
        rw [after_ok hrun]
        refine Or.inl ⟨fun j hj => ?_, ?_⟩
        · rw [get?_released hj]
          exact hdeparts.becomes (.adopt ..)
        · rintro ⟨j, hj, hholds⟩
          cases hholds.symm.trans (unheld_of_released hj)

/-- A visit to an instance whose job is stored creates nothing. -/
theorem visit_creates_nothing (ctx : Context) (h : c.Remembers id) :
    Logs (fun verb _ => verb ≠ .create) c ((ctx.visit id : StoreM Cluster Action).after c) := by
  have hread : Logs (fun verb _ => verb ≠ .create) c (c.record (.one .get id)) :=
    logs_record_instance (.one .get id) (by simp) rfl
  cases hi : Table.get? c.instances id with
  | none => rwa [after_ok (ctx.visit_of_missing hi)]
  | some i =>
    have hdeparts := h.departs i hi
    obtain rfl := hdeparts.named
    cases hfinalizer : i.hasFinalizer with
    | false => rwa [after_ok (ctx.visit_of_unheld hi hdeparts.deleting hfinalizer)]
    | true =>
      rw [after_congr (ctx.visit_of_deleting hi hdeparts.deleting hfinalizer)]
      refine trans_of _ hread (finalVisit_creates_nothing hdeparts.prunes ?_)
      rw [show pruneJob.key i = pruneJob.key (.bare i.id) from pruneJob.key_of_id rfl]
      exact h.job ⟨i, hi, hfinalizer⟩

end Context

/-! ## Runs -/

/-- A step that does not slip keeps the job on record, and creates nothing. -/
theorem onCluster_remembers (ctx : Context) (h : c.Remembers id) (hs : s.ReturnsTo id)
    (hslips : ¬ Slips ctx id c s) :
    (s.onCluster ctx c).Remembers id ∧
      Logs (fun verb _ => verb ≠ .create) c (s.onCluster ctx c) := by
  cases s with
  | pass id' =>
    obtain rfl : id' = id := hs
    exact ⟨(ctx.visit_remembers h).resolve_right hslips, ctx.visit_creates_nothing h⟩
  | setJobStatus key succeeded failed =>
    exact ⟨h.of_job rfl fun hjob => hjob.rewritten (c.setJobStatus_rewritten ..), .of_calls_eq rfl⟩
  | failOn verb key code => exact ⟨h.of_job rfl fun hjob => hjob, .of_calls_eq rfl⟩
  | clearFailures => exact ⟨h.of_job rfl fun hjob => hjob, .of_calls_eq rfl⟩
  | insertInstance i => exact hs.elim
  | editSpec id spec => exact hs.elim
  | markDeleting id => exact hs.elim
  | markReady ns => exact hs.elim

/-- A pass that slips leaves an instance that holds the finalizer and has no job. -/
theorem forgotten_of_slips (ctx : Context) (h : c.Remembers id) (hs : s.ReturnsTo id)
    (hslips : Slips ctx id c s) :
    (s.onCluster ctx c).Holds id ∧ ¬ (s.onCluster ctx c).HasJob id := by
  cases s with
  | pass id' =>
    obtain rfl : id' = id := hs
    obtain ⟨-, -, hgone, hfailed⟩ := hslips
    refine ⟨?_, hgone⟩
    cases hi : Table.get? c.instances id' with
    | none => exact absurd (ctx.visit_of_missing hi) (hfailed _ _)
    | some i =>
      have hdeparts := h.departs i hi
      obtain rfl := hdeparts.named
      cases hfinalizer : i.hasFinalizer with
      | false =>
        exact absurd (ctx.visit_of_unheld hi hdeparts.deleting hfinalizer) (hfailed _ _)
      | true =>
        have hvisit := ctx.visit_of_deleting hi hdeparts.deleting hfinalizer
        rcases ctx.finalVisit_retains_or_releases (c := c.record (.one .get i.id)) hi hfinalizer
          with hretains | ⟨c₁, -, hreleased⟩
        · have hessence := hretains.essence
          rw [show Table.get? (c.record (.one .get i.id)).instances i.id = some i from hi,
            Option.map_some, Option.map_eq_some_iff] at hessence
          obtain ⟨j, hj, hessence⟩ := hessence
          refine ⟨j, ?_, ?_⟩
          · rw [show (Step.pass i.id).onCluster ctx c = _ from after_congr hvisit]
            exact hj
          · rw [Instance.eq_of_essence Instance.hasFinalizer (fun _ => rfl) hessence]
            exact hfinalizer
        · exact absurd (hvisit.trans hreleased) (hfailed _ _)
  | _ => exact hslips.elim

/-- A prune job runs once, but for passes that slip. Whatever the cluster holds, whatever fails or
survives its deletion and whatever jobs report in between: from the moment on when the job of an
instance is stored that is to go, it is stored as long as the instance holds the finalizer, exactly
if no pass over the instance takes the job away and then fails. And then no pass creates the job
again, or anything else. -/
theorem prune_once (settings : Settings) (op : Operator Cluster) (id : InstanceId)
    (hdeparts : ∀ i, Table.get? op.store.instances id = some i → i.Departs id)
    (hjob : op.store.HasJob id) (steps : List Step) (hsteps : ∀ s ∈ steps, s.ReturnsTo id) :
    let ctx : Context := { settings }
    (Always ctx (fun c => c.Holds id → c.HasJob id) op steps ↔
      Each ctx (fun c s => ¬ Slips ctx id c s) op steps) ∧
    (Each ctx (fun c s => ¬ Slips ctx id c s) op steps →
      ∃ calls, (run ctx op steps).store.calls = op.store.calls ++ calls ∧
        ∀ key, .object .create key ∉ calls) := by
  intro ctx
  have hremembers : op.store.Remembers id := ⟨hdeparts, fun _ => hjob⟩
  have hreturns : Each ctx (fun _ s => s.ReturnsTo id) op steps := each_of_forall hsteps
  refine ⟨always_iff_each_not (fun c s h hs hslips => (onCluster_remembers ctx h hs hslips).1)
    (fun c h => h.job) (fun c s h hs hslips hgood => ?_) hremembers hreturns, fun hslips => ?_⟩
  · obtain ⟨hholds, hgone⟩ := forgotten_of_slips ctx h hs hslips
    exact hgone (hgood hholds)
  · have hrun := run_each (I := fun c => c.Remembers id ∧
      Logs (fun verb _ => verb ≠ .create) op.store c) (fun c s h hs => ?_)
      ⟨hremembers, refl_of _ _⟩ (hreturns.and hslips)
    · obtain ⟨-, calls, hcalls, hverbs⟩ := hrun
      exact ⟨calls, hcalls, fun key hmem => hverbs .create key hmem rfl⟩
    · obtain ⟨hnext, hlogs⟩ := onCluster_remembers ctx h.1 hs.1 hs.2
      exact ⟨hnext, trans_of _ h.2 hlogs⟩

/-- The job has succeeded, but its role binding cannot be deleted. The pass that fails for that has
taken the job away, so the pass after it creates the job anew. -/
theorem prune_repeats :
    let i : Instance := { Instance.bare ⟨"a", "nfd"⟩ with spec := { pruneOnDelete := true } }
    let job := pruneJob.key i
    let binding := Resource.key ⟨.clusterRoleBinding, "nfd-prune"⟩ i
    let ctx : Context := { settings := {} }
    let found := run ctx { store := {} } [.insertInstance i, .pass i.id, .pass i.id,
      .markDeleting i.id, .pass i.id, .setJobStatus job 1 0]
    let slipped := run ctx found [.failOn .delete binding 500, .pass i.id]
    let repeated := run ctx slipped [.clearFailures, .pass i.id]
    ((Table.get? found.store.instances i.id).all fun j =>
        j.id = i.id && j.isDeleting && j.spec.pruneOnDelete) = true ∧
      (Table.get? found.store.objects job).map (·.statusCount "succeeded") = some 1 ∧
      Table.get? slipped.store.objects job = none ∧
      .object .create job ∈ repeated.store.calls.drop slipped.store.calls.length ∧
      (Table.get? repeated.store.objects job).isSome := by
  decide +kernel

/-- The job itself cannot be deleted, so it is not created again. -/
theorem prune_once_of_kept :
    let i : Instance := { Instance.bare ⟨"a", "nfd"⟩ with spec := { pruneOnDelete := true } }
    let job := pruneJob.key i
    let ctx : Context := { settings := {} }
    let found := run ctx { store := {} } [.insertInstance i, .pass i.id, .pass i.id,
      .markDeleting i.id, .pass i.id, .setJobStatus job 1 0]
    ∃ calls, (run ctx found [.failOn .delete job 500, .pass i.id]).store.calls
      = found.store.calls ++ calls ∧ ∀ key, .object .create key ∉ calls := by
  intro i job ctx found
  have hdeparts : ∀ j, Table.get? found.store.instances i.id = some j → j.Departs i.id :=
    Instance.Departs.of_all (by decide +kernel)
  have hjob : found.store.HasJob i.id := by
    unfold HasJob
    decide +kernel
  have hkept : (((ctx.visit i.id : StoreM Cluster Action).after
      (found.store.failOn .delete job 500)).HasJob i.id) := by
    unfold HasJob
    decide +kernel
  have hsteps : ∀ s ∈ [Step.failOn .delete job 500, .pass i.id], s.ReturnsTo i.id := by
    simp [Step.ReturnsTo]
  clear_value found
  exact (prune_once {} found i.id hdeparts hjob _ hsteps).2
    ⟨id, fun hslips => hslips.2.2.1 hkept, trivial⟩

end NodeFeatureOperator
