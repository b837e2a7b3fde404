import NodeFeatureOperator.Proofs.Once
import NodeFeatureOperator.Proofs.Retrying
import NodeFeatureOperator.Proofs.Stages
import NodeFeatureOperator.Proofs.Timing
import NodeFeatureOperator.Proofs.Transitions

/-!
# How often a failed prune job is announced

The failure of a prune job is announced where a teardown comes upon the job, unless the instance
reports the failure already. So the report is all the memory there is of an announcement
(`Cluster.PruneReported`), and it is lost where a pass fails for another reason and reports that
instead. While the job stays as it is, the failure is announced whenever the instance comes to
report it (`prune_announced`). That is once, if no pass fails for any other reason, and again after
every pass that does (`prune_announced_again`).
-/

namespace NodeFeatureOperator

open Cluster StoreM

/-- The job has failed and not succeeded. -/
def ManagedObject.HasFailed (job : ManagedObject) : Prop :=
  job.kind = .job ∧ job.statusCount "succeeded" < 1 ∧ 1 ≤ job.statusCount "failed"

instance (job : ManagedObject) : Decidable job.HasFailed :=
  inferInstanceAs (Decidable (_ ∧ _ ∧ _))

namespace Cluster

/-- The prune job of the instance is stored, and it has failed. -/
def FailedJob (id : InstanceId) (c : Cluster) : Prop :=
  ∃ job ∈ Table.get? c.objects (pruneJob.key (.bare id)), job.HasFailed

instance (id : InstanceId) : DecidablePred (FailedJob id) :=
  fun c => inferInstanceAs (Decidable (∃ job ∈ Table.get? c.objects _, job.HasFailed))

/-- The instance reports that its prune job has failed. -/
def PruneReported (id : InstanceId) (c : Cluster) : Prop :=
  Condition.degradedReason? (c.reported id) = some "PruneJobFailed"

instance (id : InstanceId) : DecidablePred (PruneReported id) :=
  fun _ => inferInstanceAs (Decidable (_ = _))

/-- All that was announced in between is the failure of a prune job, this many times. -/
def Alarms (n : Nat) (c c' : Cluster) : Prop :=
  ∃ alarms, c'.events = c.events ++ alarms ∧ alarms.length = n ∧
    ∀ a ∈ alarms, a.warning = true ∧ a.reason = "PruneJobFailed"

/-- Nothing was announced in between. -/
abbrev Unannounced (c c' : Cluster) : Prop := c'.events = c.events

instance : IsPreorder Cluster Unannounced where
  refl _ := rfl
  trans _ _ _ h h' := h'.trans h

variable {c c' c'' : Cluster} {id : InstanceId} {m n : Nat}

theorem Alarms.trans (h : Alarms m c c') (h' : Alarms n c' c'') : Alarms (m + n) c c'' := by
  obtain ⟨alarms, hevents, rfl, hall⟩ := h
  obtain ⟨alarms', hevents', rfl, hall'⟩ := h'
  refine ⟨alarms ++ alarms', ?_, List.length_append, fun a ha => ?_⟩
  · rw [hevents', hevents, List.append_assoc]
  · exact (List.mem_append.1 ha).elim (hall a) (hall' a)

theorem Unannounced.alarms (h : Unannounced c c') : Alarms 0 c c' :=
  ⟨[], h.trans (List.append_nil _).symm, rfl, nofun⟩

theorem Unannounced.trans_alarms (h : Unannounced c c') (h' : Alarms n c' c'') :
    Alarms n c c'' := by
  unfold Alarms at *
  rwa [← h]

theorem Alarms.trans_unannounced (h : Alarms n c c') (h' : Unannounced c' c'') :
    Alarms n c c'' := by
  unfold Alarms at *
  rwa [h']

theorem pruneReported_congr (h : c'.instances = c.instances) :
    c'.PruneReported id ↔ c.PruneReported id := by
  unfold PruneReported
  rw [reported_congr (congrArg (Table.get? · id) h)]

theorem pruneReported_of_stored {i : Instance} (h : Table.get? c.instances id = some i) :
    c.PruneReported id ↔ Condition.degradedReason? i.conditions = some "PruneJobFailed" := by
  unfold PruneReported
  rw [reported_of_stored h]

end Cluster

/-! ## Reports -/

/-- An instance is in trouble for the reason of its report, whatever the times and the order of its
conditions. -/
theorem Condition.degradedReason?_of_perm {conditions : List Condition} {now : Moment}
    {reason message : String}
    (h : (conditions.map untimed).Perm ((degraded now reason message).map untimed)) :
    degradedReason? conditions = some reason := by
  have hmem : ⟨none, .degraded, true, some reason, some message⟩ ∈ conditions.map untimed := by
    rw [h.mem_iff]
    simp [degraded, report, ConditionType.all, untimed]
  obtain ⟨y, hy, huntimed⟩ := List.mem_map.1 hmem
  have htype : y.type = .degraded := congrArg Condition.type huntimed
  have hactive : y.active = true := congrArg Condition.active huntimed
  unfold degradedReason?
  cases hfind : conditions.find? fun x => x.type = .degraded && x.active with
  | none =>
    have hnone := List.find?_eq_none.1 hfind y hy
    simp [htype, hactive] at hnone
  | some x =>
    have hx : x.untimed ∈ (degraded now reason message).map untimed :=
      h.mem_iff.1 (List.mem_map_of_mem (List.mem_of_find?_eq_some hfind))
    have hfound := List.find?_some hfind
    rw [Bool.and_eq_true] at hfound
    exact (grounds_of_active hx hfound.2).2.1

namespace Pass

variable {p : Pass} {c : Cluster}

theorem told_events (p : Pass) (c : Cluster) (conditions : Option (List Condition)) :
    Unannounced c (p.told c conditions) := by
  cases conditions with
  | none => rfl
  | some conditions =>
    unfold told
    dsimp only
    split <;> rfl

theorem told_degraded (hi : Table.get? c.instances p.subject.id = some p.subject) (now : Moment)
    (reason message : String) :
    Condition.degradedReason?
      ((p.told c (some (Condition.degraded now reason message))).reported p.subject.id) =
        some reason := by
  obtain ⟨j, hj, -, hperm⟩ := told_reported hi (Condition.report_nodup now .degraded reason message)
  exact (congrArg Condition.degradedReason? (reported_of_stored hj)).trans
    (Condition.degradedReason?_of_perm hperm)

end Pass

/-! ## Teardowns with a failed job -/

theorem Cluster.injected?_reason {c : Cluster} {verb : Verb} {key : Key} {e : Error}
    (h : c.injected? verb key = some e) : e.reason ≠ "PruneJobFailed" := by
  obtain ⟨code, -, rfl⟩ := Option.map_eq_some_iff.1 h
  change (if _ then _ else _ : String) ≠ _
  split <;> decide

/-- No deletion fails for the reason that a prune job does. -/
theorem deleteAll_reason {policy : RetryPolicy} {keys : List Key} {c c' : Cluster} {e : Error}
    (h : (deleteAll policy keys : StoreM Cluster Unit) c = .error e c') :
    e.reason ≠ "PruneJobFailed" := by
  obtain ⟨before, k, after, c₁, -, -, hraised, -⟩ := deleteAll_error h
  rcases deleteWithRetry_error hraised with rfl | hraised
  · exact of_decide_eq_true rfl
  · obtain ⟨verb, hinjected⟩ := deleteOnce_error hraised
    exact injected?_reason hinjected

theorem unannounced_removes : Removes Unannounced where
  get key c := by
    rw [get_after]
    rfl
  delete key c := by
    rcases delete_after key c with hafter | hafter
    · rw [hafter]
      rfl
    · rw [hafter]
      rfl
  pause _ _ := rfl

namespace Pass

variable {p : Pass} {c c' : Cluster} {e : Error} {job : ManagedObject}

/-- How a teardown fails that has to do with a prune job with failed pods. -/
inductive Fails (p : Pass) (failed : Int) (c : Cluster) : Error → Cluster → Prop
  /-- It does not get as far as the job. -/
  | before {e : Error} {c' : Cluster} (reason : e.reason ≠ "PruneJobFailed")
      (quiet : Unannounced c c') : Fails p failed c e c'
  /-- It comes upon the job. -/
  | upon {c' : Cluster} (quiet : Unannounced c c') :
      Fails p failed c (p.pruneFailure failed) (p.alarmed failed c')

theorem Fails.of_unannounced {failed : Int} {c₁ : Cluster} (hc : Unannounced c c₁)
    (h : p.Fails failed c₁ e c') : p.Fails failed c e c' := by
  cases h with
  | before reason quiet => exact .before reason (trans_of _ hc quiet)
  | upon quiet => exact .upon (trans_of _ hc quiet)

/-- The failure is announced unless it is reported already. -/
theorem Fails.alarms {failed : Int} (hi : Table.get? c.instances p.subject.id = some p.subject)
    (h : p.Fails failed c e c') :
    Alarms (if e.reason = "PruneJobFailed" ∧ ¬ c.PruneReported p.subject.id then 1 else 0)
      c c' := by
  have hreported := pruneReported_of_stored hi
  cases h with
  | before reason quiet =>
    rw [if_neg fun h => reason h.1]
    exact quiet.alarms
  | @upon c₁ quiet =>
    refine quiet.trans_alarms ?_
    unfold alarmed
    by_cases hknown : Condition.degradedReason? p.subject.conditions = some "PruneJobFailed"
    · rw [if_pos hknown, if_neg fun h => h.2 (hreported.2 hknown)]
      exact Unannounced.alarms rfl
    · rw [if_neg hknown, if_pos ⟨rfl, fun h => hknown (hreported.1 h)⟩]
      refine ⟨[p.pruneAlarm failed], rfl, rfl, fun a ha => ?_⟩
      rw [List.mem_singleton.1 ha]
      exact ⟨rfl, rfl⟩

theorem prune_fails (hon : p.subject.spec.pruneOnDelete = true)
    (hjob : Table.get? c.objects (p.keyOf pruneJob) = some job) (hfailed : job.HasFailed) :
    ∃ e c', (p.prune : StoreM Cluster PruneState) c = .error e c' ∧
      p.Fails (job.statusCount "failed") c e c' := by
  have hget := get_run (p.keyOf pruneJob) c
  cases hlook : c.injected? .get (p.keyOf pruneJob) with
  | some e =>
    rw [hlook] at hget
    exact ⟨e, _, prune_of_error hon hget, .before (injected?_reason hlook) rfl⟩
  | none =>
    rw [hlook, hjob] at hget
    obtain ⟨hkind, hsucceeded, hfailed⟩ := hfailed
    refine ⟨_, _, (prune_of_job hon hget).trans (pruneStep_alarms hkind hsucceeded hfailed _), ?_⟩
    exact .upon rfl

/-- Whatever else fails on the way, a teardown whose prune job has failed fails. -/
theorem finalize_fails (hon : p.subject.spec.pruneOnDelete = true)
    (hjob : Table.get? c.objects (p.keyOf pruneJob) = some job) (hfailed : job.HasFailed) :
    ∃ e c', p.finalize c = .error e c' ∧ p.Fails (job.statusCount "failed") c e c' := by
  cases hdelete : (deleteAll p.settings.deleteRetry (p.plan c) : StoreM Cluster Unit)
      (c.record .listing) with
  | error e c' =>
    have hquiet := (unannounced_removes.deleteAll _ _).of_error hdelete
    exact ⟨e, c', (finalize_of_refused hdelete).2, .before (deleteAll_reason hdelete) hquiet⟩
  | ok _ c₁ =>
    obtain ⟨c₂, hemptied, hrun⟩ := finalize_of_deleted hdelete
    obtain ⟨c₃, hdeleted, calls, rfl⟩ := hemptied.deleted
    have hdeletions := (unannounced_removes.deleteAll _ _).of_ok hdeleted
    have hquiet : Unannounced c { c₃ with calls } := hdeletions
    -- No plan names the job, so the deletions have left it where it was.
    have hkept : p.keyOf pruneJob ∉ p.plan c := fun hplan =>
      ne_job_of_mem_deletionPlan hplan (pruneJob.key_kind p.subject)
    obtain ⟨e, c', hprune, hfails⟩ := prune_fails hon ((hemptied.kept _ hkept).trans hjob) hfailed
    exact ⟨e, c', hrun.trans (bind_of_error hprune), hfails.of_unannounced hquiet⟩

/-- A teardown that fails leaves the instances as they are. -/
theorem finalize_error_instances (h : p.finalize c = .error e c') :
    c'.instances = c.instances := by
  rcases p.finalize_cases c with ⟨c₁, -, hrun⟩ | ⟨hafter, -⟩
  · obtain ⟨a, c₂, hrelease⟩ := p.release_ok c₁
    cases h.symm.trans (hrun.trans hrelease)
  · rw [after_error h] at hafter
    rw [hafter]
    exact (p.clear_within c).instances

end Pass

/-! ## Visits -/

/-- The pass over the instance fails for a reason of this sort, and not because of a conflict. -/
def Complains (ctx : Context) (id : InstanceId) (sort : String → Prop) (c : Cluster) : Step → Prop
  | .pass id' => id' = id ∧ ∃ e, (ctx.visit id : StoreM Cluster Action).answer c = .error e ∧
    e.isConflict = false ∧ sort e.reason
  | _ => False

namespace Context

variable {ctx : Context} {id : InstanceId} {i : Instance} {c : Cluster}

/-- A visit to an instance whose prune job has failed fails, and the instance comes to report why,
unless it was a conflict. -/
theorem visit_fails_of_failedJob (ctx : Context) (hi : Table.get? c.instances id = some i)
    (hdeparts : i.Departs id) (hheld : i.hasFinalizer = true) (hfailed : c.FailedJob id) :
    ∃ e c', ctx.visit id c = .error e c' ∧
      (c'.PruneReported id ↔
        if e.isConflict then c.PruneReported id else e.reason = "PruneJobFailed") ∧
      Alarms (if e.reason = "PruneJobFailed" ∧ ¬ c.PruneReported id then 1 else 0) c c' := by
  obtain rfl := hdeparts.named
  obtain ⟨job, hjob, hfailed⟩ := hfailed
  have hread : Unannounced c (c.record (.one .get i.id)) := rfl
  have hkey : (ctx.pass i).keyOf pruneJob = pruneJob.key (.bare i.id) := pruneJob.key_of_id rfl
  obtain ⟨e, c₁, hfinalize, hfails⟩ := Pass.finalize_fails (p := ctx.pass i)
    (c := c.record (.one .get i.id)) hdeparts.prunes (hkey ▸ hjob) hfailed
  have hinstances := Pass.finalize_error_instances hfinalize
  have hi₁ : Table.get? c₁.instances i.id = some i :=
    (congrArg (Table.get? · i.id) hinstances).trans hi
  have hreport := Pass.reportError_run (p := ctx.pass i) hi₁ e.reason e
  have hvisit := (ctx.visit_of_deleting hi hdeparts.deleting hheld).trans
    ((finalVisit_of_error hfinalize).trans (bind_of_ok hreport))
  have halarms := (hfails.of_unannounced hread).alarms (p := ctx.pass i) hi
  refine ⟨e, _, hvisit, ?_, halarms.trans_unannounced (Pass.told_events ..)⟩
  cases hconflict : e.isConflict with
  | true =>
    -- A conflict is not reported, so the instance says what it said before.
    simp only [if_true]
    exact pruneReported_congr hinstances
  | false =>
    simp only [Bool.false_eq_true, if_false]
    have htold : Condition.degradedReason? (Cluster.reported _ i.id) = some e.reason :=
      Pass.told_degraded (p := ctx.pass i) hi₁ (.reading c₁.step) e.reason e.message
    unfold PruneReported
    rw [htold, Option.some_inj]

end Context

/-! ## Runs -/

theorem Error.reason_of_conflict {e : Error} (h : e.isConflict = true) : e.reason = "Conflict" := by
  cases e with
  | api | object => exact if_pos h
  | _ => cases h

/-- The step announces the failure of the prune job if it makes the instance report it, and the
report stays until a pass complains of something else. -/
structure Announces (ctx : Context) (id : InstanceId) (c : Cluster) (s : Step) : Prop where
  alarms : Alarms (if Begins ctx (PruneReported id) c s then 1 else 0) c (s.onCluster ctx c)
  reported : (s.onCluster ctx c).PruneReported id ↔
    Complains ctx id (· = "PruneJobFailed") c s ∨
      c.PruneReported id ∧ ¬ Complains ctx id (· ≠ "PruneJobFailed") c s

variable {ctx : Context} {op : Operator Cluster} {id : InstanceId} {s : Step} {steps : List Step}
  {c c' : Cluster} {e : Error}

theorem complains_of_error (h : ctx.visit id c = .error e c') (sort : String → Prop) :
    Complains ctx id sort c (.pass id) ↔ e.isConflict = false ∧ sort e.reason := by
  unfold Complains
  simp only [answer_error h, Except.error.injEq, true_and, exists_eq_left']

theorem not_complains_of_ok {a : Action} (h : ctx.visit id c = .ok a c') (sort : String → Prop) :
    ¬ Complains ctx id sort c (.pass id) := by
  rintro ⟨-, e, he, -⟩
  cases (answer_ok h).symm.trans he

theorem announces_of_unchanged (hevents : Unannounced c (s.onCluster ctx c))
    (hinstances : (s.onCluster ctx c).instances = c.instances)
    (hcalm : ∀ sort, ¬ Complains ctx id sort c s) : Announces ctx id c s := by
  have hsame : (s.onCluster ctx c).PruneReported id ↔ c.PruneReported id :=
    pruneReported_congr hinstances
  refine ⟨?_, ?_⟩
  · rw [if_neg fun hbegins => hbegins.1 (hsame.1 hbegins.2)]
    exact hevents.alarms
  · rw [hsame]
    exact ⟨fun h => Or.inr ⟨h, hcalm _⟩, fun h => h.elim (fun h => absurd h (hcalm _)) And.left⟩

theorem announces_of_error (hvisit : ctx.visit id c = .error e c')
    (hreported : c'.PruneReported id ↔
      if e.isConflict then c.PruneReported id else e.reason = "PruneJobFailed")
    (halarms : Alarms (if e.reason = "PruneJobFailed" ∧ ¬ c.PruneReported id then 1 else 0) c c') :
    Announces ctx id c (.pass id) := by
  have hafter : (Step.pass id).onCluster ctx c = c' := after_error hvisit
  have hplain : e.reason = "PruneJobFailed" → e.isConflict = false := by
    intro hreason
    rw [← Bool.not_eq_true]
    intro hconflict
    exact absurd ((Error.reason_of_conflict hconflict).symm.trans hreason) (by decide)
  have hlaw : c'.PruneReported id ↔ Complains ctx id (· = "PruneJobFailed") c (.pass id) ∨
      c.PruneReported id ∧ ¬ Complains ctx id (· ≠ "PruneJobFailed") c (.pass id) := by
    rw [hreported, complains_of_error hvisit, complains_of_error hvisit]
    cases hconflict : e.isConflict with
    | true => simp
    | false => by_cases hreason : e.reason = "PruneJobFailed" <;> simp [hreason]
  have hbegins : Begins ctx (PruneReported id) c (.pass id) ↔
      e.reason = "PruneJobFailed" ∧ ¬ c.PruneReported id := by
    unfold Begins
    rw [hafter, hreported]
    constructor
    · rintro ⟨hbefore, hnow⟩
      split at hnow
      · exact absurd hnow hbefore
      · exact ⟨hnow, hbefore⟩
    · rintro ⟨hreason, hbefore⟩
      exact ⟨hbefore, by simpa [hplain hreason] using hreason⟩
  refine ⟨?_, by rw [hafter, hlaw]⟩
  rw [if_congr hbegins rfl rfl, hafter]
  exact halarms

/-- One step of a run in which the operator returns to an instance whose prune job has failed. -/
theorem onCluster_announces (ctx : Context)
    (hdeparts : ∀ i, Table.get? c.instances id = some i → i.Departs id) (hfailed : c.FailedJob id)
    (hs : s.ReturnsTo id) : Announces ctx id c s := by
  cases s with
  | pass id' =>
    obtain rfl : id' = id := hs
    cases hi : Table.get? c.instances id' with
    | none =>
      have hvisit := ctx.visit_of_missing hi
      have hafter : (Step.pass id').onCluster ctx c = _ := after_ok hvisit
      exact announces_of_unchanged (by rw [hafter]; rfl) (by rw [hafter]; rfl)
        (not_complains_of_ok hvisit)
    | some i =>
      have hi' := hdeparts i hi
      cases hheld : i.hasFinalizer with
      | false =>
        have hvisit := ctx.visit_of_unheld (hi'.named ▸ hi) hi'.deleting hheld
        rw [hi'.named] at hvisit
        have hafter : (Step.pass id').onCluster ctx c = _ := after_ok hvisit
        exact announces_of_unchanged (by rw [hafter]; rfl) (by rw [hafter]; rfl)
          (not_complains_of_ok hvisit)
      | true =>
        obtain ⟨e, c', hvisit, hreported, halarms⟩ :=
          ctx.visit_fails_of_failedJob hi hi' hheld hfailed
        exact announces_of_error hvisit hreported halarms
  | setJobStatus key succeeded failed => exact announces_of_unchanged rfl rfl fun _ h => h
  | failOn verb key code => exact announces_of_unchanged rfl rfl fun _ h => h
  | clearFailures => exact announces_of_unchanged rfl rfl fun _ h => h
  | insertInstance i => exact hs.elim
  | editSpec id spec => exact hs.elim
  | markDeleting id => exact hs.elim
  | markReady ns => exact hs.elim

/-- The instance goes on to depart, for its prune job has not succeeded. -/
theorem onCluster_departs (ctx : Context)
    (hdeparts : ∀ i, Table.get? c.instances id = some i → i.Departs id) (hfailed : c.FailedJob id)
    (hs : s.ReturnsTo id) :
    ∀ i, Table.get? (s.onCluster ctx c).instances id = some i → i.Departs id := by
  obtain ⟨job, hjob, -, hsucceeded, -⟩ := hfailed
  have hstored : c.HasJob id := Option.isSome_iff_exists.2 ⟨job, hjob⟩
  refine (onCluster_remembers ctx ⟨hdeparts, fun _ => hstored⟩ hs fun hslips => ?_).1.departs
  cases s with
  | pass id' =>
    obtain ⟨-, ⟨job', hjob', hdone⟩, -⟩ := hslips
    cases hjob'.symm.trans hjob
    exact Int.not_le.2 hsucceeded hdone
  | _ => exact hslips

theorem each_announces (ctx : Context)
    (hdeparts : ∀ i, Table.get? op.store.instances id = some i → i.Departs id)
    (hsteps : ∀ s ∈ steps, s.ReturnsTo id) (hfailed : Always ctx (FailedJob id) op steps) :
    Each ctx (Announces ctx id) op steps := by
  induction steps generalizing op with
  | nil => trivial
  | cons s steps ih =>
    obtain ⟨hnow, hrest⟩ := hfailed
    have hs := hsteps s List.mem_cons_self
    refine ⟨onCluster_announces ctx hdeparts hnow hs,
      ih ?_ (fun s' hs' => hsteps s' (List.mem_cons_of_mem _ hs')) hrest⟩
    rw [s.take_store]
    exact onCluster_departs ctx hdeparts hnow hs

/-- What single steps announce adds up over a run. -/
theorem run_alarms {P : Cluster → Step → Prop} [∀ c s, Decidable (P c s)]
    (h : Each ctx (fun c s => Alarms (if P c s then 1 else 0) c (s.onCluster ctx c)) op steps) :
    Alarms (tally ctx P op steps) op.store (run ctx op steps).store := by
  induction steps generalizing op with
  | nil => exact Unannounced.alarms rfl
  | cons s steps ih =>
    obtain ⟨hs, hsteps⟩ := h
    rw [← s.take_store] at hs
    exact hs.trans (ih hsteps)

/-- The failure of a prune job is announced as often as the instance comes to report it, whatever
fails in between and whatever the job reports, as long as it goes on to have failed. The instance
comes to report it where a pass complains of it, and it ceases to where a pass complains of anything
else. So if no pass does, the failure is announced once at most. -/
theorem prune_announced (ctx : Context) (op : Operator Cluster) (id : InstanceId)
    (hdeparts : ∀ i, Table.get? op.store.instances id = some i → i.Departs id)
    (steps : List Step) (hsteps : ∀ s ∈ steps, s.ReturnsTo id)
    (hfailed : Always ctx (FailedJob id) op steps) :
    Alarms (tally ctx (Begins ctx (PruneReported id)) op steps) op.store (run ctx op steps).store ∧
      Each ctx (fun c s => (s.onCluster ctx c).PruneReported id ↔
        Complains ctx id (· = "PruneJobFailed") c s ∨
          c.PruneReported id ∧ ¬ Complains ctx id (· ≠ "PruneJobFailed") c s) op steps ∧
      (Each ctx (fun c s => ¬ Complains ctx id (· ≠ "PruneJobFailed") c s) op steps →
        tally ctx (Begins ctx (PruneReported id)) op steps ≤ 1) := by
  have hannounces := each_announces ctx hdeparts hsteps hfailed
  refine ⟨run_alarms (hannounces.imp fun _ _ h => h.alarms), hannounces.imp fun _ _ h => h.reported,
    fun hcalm => ?_⟩
  have hstays : Each ctx (fun c s => c.PruneReported id → (s.onCluster ctx c).PruneReported id)
      op steps :=
    (hannounces.and hcalm).imp fun c s h hbefore => h.1.reported.2 (Or.inr ⟨hbefore, h.2⟩)
  exact (tally_begins_le hstays).trans (by split <;> omega)

/-- A conflict is nothing to complain of, so the failure that comes after it is no news. -/
theorem prune_announced_of_conflict :
    let i : Instance := { Instance.bare ⟨"a", "nfd"⟩ with spec := { pruneOnDelete := true } }
    let job := pruneJob.key i
    let ctx : Context := { settings := {} }
    let op := run ctx { store := {} } [.insertInstance i, .pass i.id, .pass i.id,
      .markDeleting i.id, .pass i.id, .setJobStatus job 0 1]
    let steps : List Step := [.pass i.id, .failOn .get job 409, .pass i.id, .clearFailures,
      .setJobStatus job 0 2, .pass i.id]
    Always ctx (FailedJob i.id) op steps ∧ Alarms 1 op.store (run ctx op steps).store := by
  intro i job ctx op steps
  have hdeparts : ∀ j, Table.get? op.store.instances i.id = some j → j.Departs i.id :=
    Instance.Departs.of_all (by decide +kernel)
  have hsteps : ∀ s ∈ steps, s.ReturnsTo i.id := by simp [steps, Step.ReturnsTo]
  have hfailed : Always ctx (FailedJob i.id) op steps := by decide +kernel
  have htally : tally ctx (Begins ctx (PruneReported i.id)) op steps = 1 := by decide +kernel
  have halarms := (prune_announced ctx op i.id hdeparts steps hsteps hfailed).1
  rw [htally] at halarms
  exact ⟨hfailed, halarms⟩

/-- The worker cannot be looked up for a while. The pass that fails for that reports it, and so the
pass after it announces the failure of the job once more. -/
theorem prune_announced_again :
    let i : Instance := { Instance.bare ⟨"a", "nfd"⟩ with spec := { pruneOnDelete := true } }
    let job := pruneJob.key i
    let ctx : Context := { settings := {} }
    let op := run ctx { store := {} } [.insertInstance i, .pass i.id, .pass i.id,
      .markDeleting i.id, .pass i.id, .setJobStatus job 0 1]
    let steps : List Step := [.pass i.id,
      .failOn .get (.namespaced .daemonSet "a" "nfd-worker") 500, .pass i.id, .clearFailures,
      .pass i.id]
    (∀ s ∈ steps, s.ReturnsTo i.id) ∧
      ((Table.get? op.store.instances i.id).all fun j =>
        j.id = i.id && j.isDeleting && j.spec.pruneOnDelete) = true ∧
      Always ctx (FailedJob i.id) op steps ∧
      ¬ ((run ctx op steps).store.events.filter (·.reason = "PruneJobFailed")).length ≤ 1 := by
  intro i job ctx op steps
  refine ⟨by simp [steps, Step.ReturnsTo], ?_⟩
  decide +kernel

end NodeFeatureOperator
