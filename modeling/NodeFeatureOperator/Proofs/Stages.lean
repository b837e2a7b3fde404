import NodeFeatureOperator.Proofs.Application
import NodeFeatureOperator.Proofs.Deletion
import NodeFeatureOperator.Proofs.Stopping

/-!
# The stages of a prune job

A step with the prune job is decided by what there is of the job: nothing yet, a job that has
succeeded, one that has failed, or one that is at work. Only the first two stages touch anything. To
launch the job is to apply all that it needs and to create it last (`Pass.Launch`). To clean up is
to delete in the reverse order (`Pass.Cleanup`), so that a failure leaves what is at the end of that
order. `Pass.prune_stages` puts the stages together.
-/

namespace NodeFeatureOperator

open Cluster StoreM

namespace Pass

variable {p : Pass} {c c' c₁ : Cluster} {e : Error} {r : Resource} {job : ManagedObject}

/-! ## Launching the job -/

/-- How launching the prune job comes out on a cluster that does not have it. -/
inductive Launch (p : Pass) (c : Cluster) : EStateM.Result Error Cluster PruneState → Prop
  /-- What the job needs has been applied. Then the job, which still was not there, is created. -/
  | launched {c₁ c' : Cluster}
      (granted : p.applyAll [pruneAccount, pruneRole, pruneBinding] c = .ok () c₁)
      (missing : Table.get? c₁.objects (p.keyOf pruneJob) = none)
      (created : p.apply pruneJob c₁ = .ok .created c')
      (stored : ∀ r ∈ pruneResources, (Table.get? c'.objects (p.keyOf r)).isSome) :
      Launch p c (.ok .inProgress c')
  /-- Something could not be applied, and there is no job. -/
  | refused {before after : List Resource} {r : Resource} {c₁ c' : Cluster} {e : Error}
      (split : pruneResources = before ++ r :: after) (applied : p.applyAll before c = .ok () c₁)
      (raised : p.apply r c₁ = .error e c')
      (missing : Table.get? c'.objects (p.keyOf pruneJob) = none) : Launch p c (.error e c')

theorem apply_created_of_missing (h : Table.get? c.objects (p.keyOf r) = none) {a : Applied}
    (hrun : p.apply r c = .ok a c') : a = .created := by
  cases apply_succeeds hrun with
  | created => rfl
  | updated _ looked => cases (get_ok looked).1.trans h
  | unchanged _ looked => cases (get_ok looked).1.trans h

/-- The job comes last, so what is applied in front of anything is not the job. -/
theorem keyOf_job_not_mem {before after : List Resource}
    (h : pruneResources = before ++ r :: after) : p.keyOf pruneJob ∉ before.map p.keyOf := by
  have hlast : pruneJob ∈ r :: after := by
    have hend : (before ++ r :: after).getLast? = some pruneJob := by
      rw [← h]
      rfl
    rw [List.getLast?_append_cons] at hend
    exact List.mem_of_getLast? hend
  have hnodup := p.pruneResources_keys_nodup
  rw [h, List.map_append] at hnodup
  exact fun hbefore =>
    (List.nodup_append.1 hnodup).2.2 _ hbefore _ (List.mem_map_of_mem hlast) rfl

theorem applyAll_launches (h : p.templates.Sound) (hkeyed : c.Keyed)
    (hmissing : Table.get? c.objects (p.keyOf pruneJob) = none) :
    p.Launch c ((p.applyAll pruneResources >>= fun _ => pure .inProgress :
      StoreM Cluster PruneState) c) := by
  have hkept {before : List Resource} {c₁ : Cluster}
      (hbefore : p.keyOf pruneJob ∉ before.map p.keyOf) (hrun : p.applyAll before c = .ok () c₁) :
      Table.get? c₁.objects (p.keyOf pruneJob) = none :=
    (((p.applyAll_touches h before).of_ok hrun hkeyed).objects _ hbefore).trans hmissing
  cases hrun : (p.applyAll pruneResources : StoreM Cluster Unit) c with
  | error e c' =>
    rw [bind_of_error hrun]
    rw [applyAll_eq] at hrun
    obtain ⟨before, r, after, c₁, hsplit, hbefore, hraised⟩ := each_error hrun
    rw [← applyAll_eq] at hbefore
    have hfailed : Removed (fun _ => False) c₁ c' := apply_failed hraised
    exact .refused hsplit hbefore hraised
      ((hfailed.objects _ id).trans (hkept (keyOf_job_not_mem hsplit) hbefore))
  | ok _ c' =>
    rw [bind_of_ok hrun]
    have hstored : ∀ r ∈ pruneResources, (Table.get? c'.objects (p.keyOf r)).isSome := by
      intro r hr
      obtain ⟨before, after, hsplit⟩ := List.append_of_mem hr
      have hnodup := p.pruneResources_keys_nodup
      rw [hsplit] at hrun hnodup
      obtain ⟨-, -, -, o, -, -, -, ho⟩ := exists_applied h hkeyed hnodup hrun
      rw [ho]
      rfl
    have hsplit : pruneResources = [pruneAccount, pruneRole, pruneBinding] ++ [pruneJob] := rfl
    rw [hsplit, applyAll_append] at hrun
    obtain ⟨_, c₁, hgranted, hjob⟩ := bind_ok.1 hrun
    obtain ⟨a, c₂, hcreated, hdone⟩ := bind_ok.1 hjob
    cases hdone
    have hmissing₁ := hkept (keyOf_job_not_mem hsplit) hgranted
    obtain rfl := apply_created_of_missing hmissing₁ hcreated
    exact .launched hgranted hmissing₁ hcreated hstored

/-! ## Cleaning up behind the job -/

/-- How it comes out to delete the prune job and what it needed. -/
inductive Cleanup (p : Pass) (c : Cluster) : EStateM.Result Error Cluster PruneState → Prop
  /-- Nothing of it is left. -/
  | cleared {c' : Cluster}
      (gone : ∀ r ∈ pruneResources, Table.get? c'.objects (p.keyOf r) = none)
      (kept : ∀ k, k ∉ pruneResources.map p.keyOf →
        Table.get? c'.objects k = Table.get? c.objects k) : Cleanup p c (.ok .done c')
  /-- A deletion has failed. What was to be deleted before it is gone, and all else is there. -/
  | stopped {before after : List Resource} {r : Resource} {c' : Cluster} {e : Error}
      (split : [pruneJob, pruneBinding, pruneRole, pruneAccount] = before ++ r :: after)
      (gone : ∀ r ∈ before, Table.get? c'.objects (p.keyOf r) = none)
      (kept : ∀ k, k ∉ before.map p.keyOf → Table.get? c'.objects k = Table.get? c.objects k) :
      Cleanup p c (.error e c')

theorem deleteAll_cleans (p : Pass) (c : Cluster) :
    p.Cleanup c ((deleteAll p.settings.deleteRetry p.pruneKeys >>= fun _ => pure .done :
      StoreM Cluster PruneState) c) := by
  cases hrun : (deleteAll p.settings.deleteRetry p.pruneKeys : StoreM Cluster Unit) c with
  | ok _ c' =>
    rw [bind_of_ok hrun]
    have hremoved := (deleteAll_removed _ _).of_ok hrun
    refine .cleared (fun r hr => ?_) fun k hk => ?_
    · exact deleteAll_ok hrun _ (mem_pruneKeys.2 (List.mem_map_of_mem hr))
    · exact hremoved.objects k fun hmem => hk (mem_pruneKeys.1 hmem)
  | error e c' =>
    rw [bind_of_error hrun]
    obtain ⟨before, k, after, -, hkeys, -, -, hgone, hkept⟩ := deleteAll_error hrun
    -- The keys are those of resources, and so is every part of them.
    obtain ⟨front, behind, hsplit, rfl, hbehind⟩ := List.map_eq_append_iff.1 hkeys
    obtain ⟨r, rest, rfl, -, -⟩ := List.map_eq_cons_iff.1 hbehind
    refine .stopped hsplit (fun r hr => ?_) hkept
    exact hgone _ (List.mem_map_of_mem hr)

/-! ## A job that has failed -/

/-- What is told about a prune job that has failed. -/
def pruneAlarm (p : Pass) (failed : Int) : Event :=
  .alarm "PruneJobFailed" "Pruning node labels"
    ((p.keyOf pruneJob).toText ++ " has " ++ toString failed ++ " failed pods")

/-- The cluster after a step with a prune job that has failed: it is told about, unless the instance
reports it already. -/
def alarmed (p : Pass) (failed : Int) (c : Cluster) : Cluster :=
  if Condition.degradedReason? p.subject.conditions = some "PruneJobFailed" then c
  else c.announce p.subject (p.pruneAlarm failed)

theorem alarmed_removed {K : Key → Prop} (p : Pass) (failed : Int) (c : Cluster) :
    Removed K c (p.alarmed failed c) := by
  unfold alarmed
  split
  · exact Removed.refl c
  · exact .of_objects_eq rfl rfl rfl rfl rfl

theorem alarmed_objects (p : Pass) (failed : Int) (c : Cluster) :
    (p.alarmed failed c).objects = c.objects := by
  unfold alarmed
  split <;> rfl

theorem announcePruneFailure_run (p : Pass) (failed : Int) (c : Cluster) :
    (p.announcePruneFailure failed : StoreM Cluster Unit) c = .ok () (p.alarmed failed c) := by
  unfold alarmed
  change (if Condition.degradedReason? p.subject.conditions ≠ some "PruneJobFailed" then _ else _ :
    StoreM Cluster Unit) c = _
  by_cases h : Condition.degradedReason? p.subject.conditions = some "PruneJobFailed"
  · rw [if_neg (not_not.2 h), if_pos h]
    rfl
  · rw [if_pos h, if_neg h]
    exact bestEffort_run _ c

theorem pruneStep_alarms (hkind : job.kind = .job) (hsucceeded : job.statusCount "succeeded" < 1)
    (hfailed : 1 ≤ job.statusCount "failed") (c : Cluster) :
    (p.pruneStep job : StoreM Cluster PruneState) c =
      .error (.pruneJobFailed p.subject.ns "nfd-prune" (job.statusCount "failed"))
        (p.alarmed (job.statusCount "failed") c) := by
  rw [pruneStep_eq, if_neg (Decidable.not_not.2 hkind), if_neg (Int.not_le.2 hsucceeded),
    if_pos hfailed]
  exact bind_of_ok (p.announcePruneFailure_run _ c)

/-! ## All stages -/

/-- A step with the prune job of an instance that asks for one, by what there is of the job. A
look-up that fails is the error of the step. Where there is no job, the step launches it. A job that
has succeeded is cleaned up behind, whatever else it reports. One that has failed is reported, and
nothing is touched. Any other is at work, and nothing but the look-up is called. -/
theorem prune_stages (h : p.templates.Sound) (hkeyed : c.Keyed)
    (hon : p.subject.spec.pruneOnDelete = true) :
    let looked := c.record (.object .get (p.keyOf pruneJob))
    match c.injected? .get (p.keyOf pruneJob), Table.get? c.objects (p.keyOf pruneJob) with
    | some e, _ => p.prune c = .error e looked
    | none, none => p.Launch looked (p.prune c)
    | none, some job =>
      if 1 ≤ job.statusCount "succeeded" then p.Cleanup looked (p.prune c)
      else if 1 ≤ job.statusCount "failed" then
        let e : Error := .pruneJobFailed p.subject.ns "nfd-prune" (job.statusCount "failed")
        ∃ c', p.prune c = .error e c' ∧ c'.objects = c.objects ∧ c'.instances = c.instances
      else p.prune c = .ok .inProgress looked := by
  intro looked
  have hget := get_run (p.keyOf pruneJob) c
  cases hlook : c.injected? .get (p.keyOf pruneJob) with
  | some e =>
    rw [hlook] at hget
    exact prune_of_error hon hget
  | none =>
    rw [hlook] at hget
    cases hjob : Table.get? c.objects (p.keyOf pruneJob) with
    | none =>
      rw [hjob] at hget
      dsimp only
      rw [prune_of_missing hon hget]
      exact applyAll_launches h hkeyed hjob
    | some job =>
      rw [hjob] at hget
      have hkind : job.kind = .job := hkeyed.kind_of_get? hjob
      dsimp only
      rw [prune_of_job hon hget]
      split
      · next hsucceeded =>
        rw [pruneStep_eq, if_neg (Decidable.not_not.2 hkind), if_pos hsucceeded]
        exact p.deleteAll_cleans looked
      · next hsucceeded =>
        split
        · next hfailed =>
          refine ⟨_, pruneStep_alarms hkind (Int.not_le.1 hsucceeded) hfailed looked, ?_, ?_⟩
          · exact p.alarmed_objects _ looked
          · exact (p.alarmed_removed (K := fun _ => False) _ looked).instances
        · next hfailed =>
          exact pruneStep_of_running hkind (Int.not_le.1 hsucceeded) (Int.not_le.1 hfailed) looked

/-- A job that has succeeded after a failed pod is cleaned up behind, up to the binding, which
cannot be deleted. -/
theorem prune_stages_of_succeeded :
    let i : Instance := { Instance.bare ⟨"nfd", "nfd"⟩ with spec := { pruneOnDelete := true } }
    let p := Pass.ofInstance {} .own i
    let metadata : Metadata := { name := some "nfd-prune" }
    let job : ManagedObject := ⟨.job, Kind.job.names, { metadata with ns := some "nfd" },
      [("status", .obj [("failed", .int 1), ("succeeded", .int 1)])]⟩
    let binding : ManagedObject :=
      ⟨.clusterRoleBinding, Kind.clusterRoleBinding.names, metadata, []⟩
    let c : Cluster := {
      objects := [(binding.key, binding), (job.key, job)]
      failures := [((.delete, binding.key), 500)] }
    p.templates.Sound ∧ c.Keyed ∧ p.subject.spec.pruneOnDelete = true ∧
      p.Cleanup (c.record (.object .get job.key)) (p.prune c) ∧
      (p.prune : StoreM Cluster PruneState).answer c =
        .error (.object "delete" binding.key (refusal 500 "Injected")) := by
  intro i p metadata job binding c
  have hkeyed : c.Keyed := by
    intro row hrow
    rcases List.mem_cons.1 hrow with rfl | hrow
    · rfl
    · obtain rfl := List.mem_singleton.1 hrow
      rfl
  have hstages := prune_stages (p := p) Registry.own_sound hkeyed rfl
  have hlook : c.injected? .get (p.keyOf pruneJob) = none := by decide +kernel
  have hjob : Table.get? c.objects (p.keyOf pruneJob) = some job := by decide +kernel
  have hsucceeded : 1 ≤ job.statusCount "succeeded" := by decide +kernel
  rw [hlook, hjob] at hstages
  dsimp only at hstages
  rw [if_pos hsucceeded] at hstages
  exact ⟨Registry.own_sound, hkeyed, rfl, hstages, by decide +kernel⟩

end Pass

end NodeFeatureOperator
