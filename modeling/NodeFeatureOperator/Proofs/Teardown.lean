import NodeFeatureOperator.Component
import NodeFeatureOperator.Teardown
import NodeFeatureOperator.Proofs.Cluster.Instances
import NodeFeatureOperator.Proofs.Prune

/-!
# Teardown of an instance on a cluster

Tearing down is clearing the cluster (`Pass.clear`) and then, if nothing is left, taking the
finalizer off. Whatever comes of clearing, it touches the keys of the plan and those of the prune
job only (`Pass.clear_touches`). It ends without a wait only on a cluster where nothing is left
(`Pass.Cleared`), and only then does the operator write to an instance (`Pass.finalize_cases`).
-/

namespace NodeFeatureOperator

open Cluster StoreM

variable {K : Key → Prop} {c c' c₁ : Cluster} {p : Pass}

/-! ## The plan -/

/-- The resources whose objects a plan names. -/
def planned (shared manage : Bool) : List Resource :=
  (deletionPlan default shared manage).map fun k => ⟨k.kind, k.name⟩

/-- What a plan names depends on the instance only in where it is. -/
theorem deletionPlan_eq (i : Instance) (shared manage : Bool) :
    deletionPlan i shared manage = (planned shared manage).map (·.key i) := by
  cases shared <;> cases manage <;> rfl

theorem planned_of_shared : ∀ manage, ∀ r ∈ planned true manage,
    r ∈ planned false manage ∧ r.kind.clusterScoped = false := by
  decide

theorem planned_shared_of_namespaced : ∀ manage, ∀ r ∈ planned false manage,
    r.kind.clusterScoped = false → r ∈ planned true manage := by
  decide

/-- The plan that spares nothing names all that the components are made of. -/
theorem planned_of_component : ∀ manage, ∀ r ∈ Component.chain.flatMap Component.resources,
    (r.kind = .securityContextConstraints → manage = true) → r ∈ planned false manage := by
  decide

/-- Where an instance is says where its objects are. -/
theorem Resource.key_of_id {i j : Instance} (r : Resource) (h : j.id = i.id) :
    r.key j = r.key i := by
  unfold Resource.key
  rw [show j.ns = i.ns from congrArg InstanceId.ns h]

/-- All instances go by one key for what belongs to the whole cluster. -/
theorem Resource.key_of_clusterScoped {r : Resource} (h : r.kind.clusterScoped = true)
    (i j : Instance) : r.key i = r.key j := by
  unfold Resource.key Key.forInstance
  rw [h]
  rfl

theorem mem_deletionPlan {i : Instance} {shared manage : Bool} {k : Key} :
    k ∈ deletionPlan i shared manage ↔ ∃ r ∈ planned shared manage, r.key i = k := by
  rw [deletionPlan_eq, List.mem_map]

theorem mem_deletionPlan_of_shared {i : Instance} {shared manage : Bool} {k : Key}
    (h : k ∈ deletionPlan i shared manage) : k ∈ deletionPlan i false manage := by
  cases shared with
  | false => exact h
  | true =>
    obtain ⟨r, hr, rfl⟩ := mem_deletionPlan.1 h
    exact mem_deletionPlan.2 ⟨r, (planned_of_shared manage r hr).1, rfl⟩

/-- A plan that spares what is shared names nothing of the whole cluster. -/
theorem clusterScoped_of_mem_deletionPlan {i : Instance} {manage : Bool} {k : Key}
    (h : k ∈ deletionPlan i true manage) : k.kind.clusterScoped = false := by
  obtain ⟨r, hr, rfl⟩ := mem_deletionPlan.1 h
  rw [r.key_kind]
  exact (planned_of_shared manage r hr).2

/-- What a plan spares belongs to the whole cluster. -/
theorem mem_deletionPlan_of_namespaced {i : Instance} {shared manage : Bool} {k : Key}
    (h : k ∈ deletionPlan i false manage) (hk : k.kind.clusterScoped = false) :
    k ∈ deletionPlan i shared manage := by
  obtain ⟨r, hr, rfl⟩ := mem_deletionPlan.1 h
  cases shared with
  | false => exact h
  | true =>
    rw [r.key_kind] at hk
    exact mem_deletionPlan.2 ⟨r, planned_shared_of_namespaced manage r hr hk, rfl⟩

/-- All instances name the same objects of the whole cluster. -/
theorem mem_deletionPlan_of_clusterScoped {i : Instance} (j : Instance) {shared manage : Bool}
    {k : Key} (h : k ∈ deletionPlan i shared manage) (hk : k.kind.clusterScoped = true) :
    k ∈ deletionPlan j shared manage := by
  obtain ⟨r, hr, rfl⟩ := mem_deletionPlan.1 h
  rw [r.key_kind] at hk
  exact mem_deletionPlan.2 ⟨r, hr, r.key_of_clusterScoped hk j i⟩

theorem ne_job_of_mem_deletionPlan {i : Instance} {shared manage : Bool} {k : Key}
    (h : k ∈ deletionPlan i shared manage) : k.kind ≠ .job := by
  obtain ⟨r, hr, rfl⟩ := mem_deletionPlan.1 h
  have hkinds : ∀ shared manage, ∀ r ∈ planned shared manage, r.kind ≠ .job := by decide
  rw [r.key_kind]
  exact hkinds shared manage r hr

/-- No plan names anything of the prune job. -/
theorem name_of_mem_deletionPlan {i : Instance} {shared manage : Bool} {k : Key}
    (h : k ∈ deletionPlan i shared manage) : k.name ≠ "nfd-prune" := by
  obtain ⟨r, hr, rfl⟩ := mem_deletionPlan.1 h
  have hnames : ∀ shared manage, ∀ r ∈ planned shared manage, r.name ≠ "nfd-prune" := by decide
  rw [r.key_name]
  exact hnames shared manage r hr

/-! ## What is left -/

theorem remaining_removed (keys : List Key) :
    Keeps (Removed K) (remaining keys : StoreM Cluster (List Key)) := by
  induction keys with
  | nil => exact Keeps.pure _
  | cons key keys ih =>
    exact (keyExists_removed key).bind fun _ => ih.bind fun _ => Keeps.pure _

/-- The scan of a quiet cluster finds the keys under which there is something. -/
theorem remaining_quiet (h : c.Quiet) (keys : List Key) :
    ∃ c', (remaining keys : StoreM Cluster (List Key)) c =
      .ok (keys.filter fun k => (Table.get? c.objects k).isSome) c' := by
  induction keys generalizing c with
  | nil => exact ⟨c, rfl⟩
  | cons key keys ih =>
    have hexists := keyExists_quiet h key
    obtain ⟨c', hrest⟩ := ih (c := c.record (.object .get key)) ⟨h.failures, h.sticky⟩
    refine ⟨c', (bind_of_ok hexists).trans ((bind_of_ok hrest).trans ?_)⟩
    rw [List.filter_cons]
    rfl

/-! ## Clearing -/

namespace Pass

/-- Whether the pass spares the objects of the whole cluster. -/
def spares (p : Pass) (c : Cluster) : Bool :=
  (Table.values c.instances).any p.subject.needsSharedObjects

theorem spares_iff :
    p.spares c = true ↔ ∃ j ∈ Table.values c.instances,
      j.metadata.ns ≠ p.subject.metadata.ns ∧ j.isDeleting = false := by
  unfold spares
  rw [List.any_eq_true]
  simp [Instance.needsSharedObjects]

/-- The keys that the pass deletes first. -/
def plan (p : Pass) (c : Cluster) : List Key :=
  deletionPlan p.subject (p.spares c) p.settings.manageSecurityPolicies

theorem plan_of_not_spares (h : p.spares c = false) :
    p.plan c = deletionPlan p.subject false p.settings.manageSecurityPolicies := by
  unfold plan
  rw [h]

/-- The keys of all that the pass may remove. -/
def Clears (p : Pass) (c : Cluster) (k : Key) : Prop := k ∈ p.plan c ∨ p.Prunes k

/-- How long to wait before the next look at the prune job, if another look is needed. -/
def pruneWait (p : Pass) : PruneState → Option Duration
  | .inProgress => some p.settings.pruneRequeue
  | .done => none

/-- All steps of a teardown in front of the last one, given the keys to delete. A wait is the answer
while something is left. -/
def clearKeys (p : Pass) (keys : List Key) : StoreM Cluster (Option Duration) := do
  deleteAll p.settings.deleteRetry keys
  let left ← remaining keys
  if !left.isEmpty then return some p.settings.finalizeRequeue
  return p.pruneWait (← p.prune)

/-- All steps of a teardown in front of the last one. -/
def clear (p : Pass) : StoreM Cluster (Option Duration) := do
  let shared ← p.otherActive
  p.clearKeys (deletionPlan p.subject shared p.settings.manageSecurityPolicies)

/-- Only what is clear is released. -/
theorem finalize_eq (p : Pass) :
    (p.finalize : StoreM Cluster Action) =
      p.clear >>= fun
        | some wait => pure (.requeue wait)
        | none => p.release := by
  unfold finalize clear clearKeys
  simp only [bind_assoc]
  congr 1
  funext shared
  congr 1
  funext _
  congr 1
  funext left
  split
  · rfl
  · rw [bind_assoc]
    congr 1
    funext state
    cases state <;> rfl

theorem clear_run (p : Pass) (c : Cluster) :
    p.clear c = p.clearKeys (p.plan c) (c.record .listing) := rfl

theorem clearKeys_within (p : Pass) (keys : List Key) :
    Keeps (Within fun _ => True) (p.clearKeys keys) := by
  refine Keeps.bind ((deleteAll_removed _ _).mono fun _ _ h => h.toWithin.mono fun _ _ => trivial)
    fun _ => ((remaining_removed _).mono fun _ _ => Removed.toWithin).bind fun left => ?_
  exact Keeps.ite (Keeps.pure _) (p.prune_within.bind fun _ => Keeps.pure _)

theorem clearKeys_touches (h : p.templates.Sound) (keys : List Key) :
    Keeps (Touches fun k => k ∈ keys ∨ p.Prunes k) (p.clearKeys keys) := by
  refine Keeps.bind ((deleteAll_removed _ _).mono fun _ _ hr =>
      (hr.toWithin.mono fun _ => Or.inl).touches)
    fun _ => ((remaining_removed _).mono fun _ _ hr => hr.toWithin.touches).bind fun left => ?_
  exact Keeps.ite (Keeps.pure _)
    (((prune_touches h).mono fun _ _ => Touches.mono fun _ => Or.inr).bind fun _ => Keeps.pure _)

theorem clear_within (p : Pass) : Keeps (Within fun _ => True) p.clear := by
  intro c
  rw [after_congr (clear_run p c)]
  exact (removed_record ..).toWithin.trans (p.clearKeys_within _ _)

theorem clear_touches (h : p.templates.Sound) (c : Cluster) :
    Touches (p.Clears c) c (p.clear.after c) := by
  rw [after_congr (clear_run p c)]
  exact (removed_record c .listing).toWithin.touches.trans (clearKeys_touches h (p.plan c) _)

/-- The cluster `c'` is `c` without anything that the pass was to remove, and the prune job had
succeeded if there was to be one. -/
structure Cleared (p : Pass) (c c' : Cluster) : Prop where
  removed : Removed (p.Clears c) c c'
  gone : ∀ k ∈ p.plan c, Table.get? c'.objects k = none
  pruned : p.subject.spec.pruneOnDelete = true →
    (∃ job, Table.get? c.objects (p.keyOf pruneJob) = some job ∧ job.kind = .job ∧
      1 ≤ job.statusCount "succeeded") ∧
    ∀ k ∈ p.pruneKeys, Table.get? c'.objects k = none

theorem cleared_of_clear (h : p.clear c = .ok none c') : p.Cleared c c' := by
  rw [clear_run] at h
  obtain ⟨_, c₁, hdelete, h⟩ := bind_ok.1 h
  obtain ⟨left, c₂, hleft, h⟩ := bind_ok.1 h
  have hdeleted : Removed (p.Clears c) c c₁ := (removed_record c .listing).trans
    (((deleteAll_removed _ _).of_ok hdelete).mono fun _ => Or.inl)
  have hscanned : Removed (p.Clears c) c c₂ := hdeleted.trans ((remaining_removed _).of_ok hleft)
  have hscan : ∀ k ∈ p.plan c, Table.get? c₂.objects k = none := fun k hk =>
    ((remaining_removed (K := fun _ => True) _).of_ok hleft).absent (deleteAll_ok hdelete k hk)
  split at h
  · cases h
  · obtain ⟨state, c₃, hprune, h⟩ := bind_ok.1 h
    cases state with
    | inProgress => cases h
    | done =>
      cases h
      cases hon : p.subject.spec.pruneOnDelete with
      | false =>
        rw [prune_off hon] at hprune
        cases hprune
        exact ⟨hscanned, hscan, fun h => by cases hon.symm.trans h⟩
      | true =>
        obtain ⟨hremoved, ⟨job, hjob, hkind, hsucceeded⟩, hgone⟩ := prune_done hon hprune
        refine ⟨hscanned.trans (hremoved.mono fun k hk => Or.inr ⟨hon, hk⟩),
          fun k hk => hremoved.absent (hscan k hk), fun _ => ⟨⟨job, ?_, hkind, hsucceeded⟩, hgone⟩⟩
        exact hscanned.only _ _ hjob

/-- A quiet cluster gets as far as the prune job. -/
theorem clear_quiet (h : c.Quiet) :
    ∃ c', Removed (· ∈ p.plan c) c c' ∧ (∀ k ∈ p.plan c, Table.get? c'.objects k = none) ∧
      p.clear c = (p.prune >>= fun state => pure (p.pruneWait state)) c' := by
  obtain ⟨c₁, hdelete⟩ := deleteAll_quiet (c := c.record .listing) ⟨h.failures, h.sticky⟩
    p.settings.deleteRetry (p.plan c)
  have hdeleted : Removed (· ∈ p.plan c) c c₁ :=
    (removed_record c .listing).trans ((deleteAll_removed _ _).of_ok hdelete)
  obtain ⟨c₂, hleft⟩ := remaining_quiet (hdeleted.quiet h) (p.plan c)
  have hread : Removed (· ∈ p.plan c) c₁ c₂ := (remaining_removed _).of_ok hleft
  have hgone := deleteAll_ok hdelete
  have hnone : ((p.plan c).filter fun k => (Table.get? c₁.objects k).isSome) = [] :=
    List.filter_eq_nil_iff.2 fun k hk => by simp [hgone k hk]
  rw [hnone] at hleft
  refine ⟨c₂, hdeleted.trans hread, fun k hk => hread.absent (hgone k hk), ?_⟩
  rw [clear_run]
  exact (bind_of_ok hdelete).trans (bind_of_ok hleft)

/-- Where no job is asked for, a quiet cluster is cleared at once. -/
theorem clear_of_unpruned (h : c.Quiet) (hoff : p.subject.spec.pruneOnDelete = false) :
    ∃ c', p.clear c = .ok none c' := by
  obtain ⟨c₁, -, -, hrun⟩ := clear_quiet (p := p) h
  exact ⟨c₁, hrun.trans (bind_of_ok (prune_off hoff c₁))⟩

/-- Where a job is stored, all depends on the job. -/
theorem clear_of_job (h : c.Quiet) (hon : p.subject.spec.pruneOnDelete = true)
    {job : ManagedObject} (hjob : Table.get? c.objects (p.keyOf pruneJob) = some job) :
    ∃ c' : Cluster, c'.Quiet ∧ Table.get? c'.objects (p.keyOf pruneJob) = some job ∧
      p.clear c = (p.pruneStep job >>= fun state => pure (p.pruneWait state)) c' := by
  obtain ⟨c₁, hdeleted, -, hrun⟩ := clear_quiet (p := p) h
  have hkept : p.keyOf pruneJob ∉ p.plan c := fun hplan =>
    ne_job_of_mem_deletionPlan hplan (pruneJob.key_kind p.subject)
  have hjob₁ : Table.get? c₁.objects (p.keyOf pruneJob) = some job :=
    (hdeleted.objects _ hkept).trans hjob
  have hget := get_of_clear (hdeleted.quiet h).failures (p.keyOf pruneJob)
  rw [hjob₁] at hget
  have hread : Removed (fun _ => True) c₁ (c₁.record (.object .get (p.keyOf pruneJob))) :=
    removed_record ..
  exact ⟨_, hread.quiet (hdeleted.quiet h), hjob₁,
    hrun.trans (bind_run_congr (prune_of_job hon hget) _)⟩

/-- Where there is nothing of the job yet, all of it is created. -/
theorem clear_of_missing (h : c.Quiet) (hkeyed : c.Keyed) (hsound : p.templates.Sound)
    (howner : p.subject.controllerReference?.isSome)
    (htemplates : ∀ r ∈ pruneResources, Table.contains p.templates.templates r = true)
    (hon : p.subject.spec.pruneOnDelete = true)
    (hmissing : ∀ r ∈ pruneResources, Table.get? c.objects (p.keyOf r) = none) :
    ∃ c', p.clear c = .ok (some p.settings.pruneRequeue) c' ∧
      ∀ r ∈ pruneResources, ∃ o, Table.get? c'.objects (p.keyOf r) = some o ∧
        o.Fresh (p.keyOf r) := by
  obtain ⟨c₁, hdeleted, -, hrun⟩ := clear_quiet (p := p) h
  obtain ⟨c', hprune, hcreated⟩ := prune_first (hdeleted.quiet h) (hdeleted.keyed hkeyed)
    hsound howner htemplates hon fun r hr => hdeleted.absent (hmissing r hr)
  exact ⟨c', hrun.trans (bind_of_ok hprune), hcreated⟩

/-! ## Releasing -/

/-- Either everything is gone and the finalizer is taken off, or the pass ends with clearing and is
not over. -/
theorem finalize_cases (p : Pass) (c : Cluster) :
    (∃ c₁, p.Cleared c c₁ ∧ p.finalize c = p.release c₁) ∨
      (p.finalize : StoreM Cluster Action).after c = p.clear.after c ∧
        ∀ c', p.finalize c ≠ .ok .await c' := by
  rw [finalize_eq]
  cases h : p.clear c with
  | error e c₁ =>
    refine Or.inr ⟨?_, fun c' => ?_⟩
    · rw [after_error (bind_of_error h), after_error h]
    · simp [bind_of_error h]
  | ok wait c₁ =>
    cases wait with
    | none => exact Or.inl ⟨c₁, cleared_of_clear h, bind_of_ok h⟩
    | some d =>
      refine Or.inr ⟨?_, fun c' => ?_⟩
      · rw [after_congr (bind_of_ok h), after_ok h]
        rfl
      · simp [bind_of_ok h, pure_run]

/-- The ways of taking the finalizer off. -/
theorem release_run (p : Pass) (c : Cluster) :
    (p.release : StoreM Cluster Action) c =
      if p.subject.hasFinalizer then
        let c' := (c.record (.one .update p.subject.id)).bump
        match Table.get? c.instances p.subject.id with
        | none => .ok .await c'
        | some old =>
          if isStale p.subject.metadata old.metadata then
            .ok (.requeue p.settings.finalizeRequeue) c'
          else
            .ok .await ((c'.putInstance p.subject.id
              (c'.adopt old p.subject.removeFinalizer)).collect p.subject.id)
      else .ok .await c := by
  unfold release
  by_cases hfinalizer : p.subject.hasFinalizer = true
  · simp only [hfinalizer, if_true]
    have hid : p.subject.removeFinalizer.id = p.subject.id := rfl
    have hupdate := updateInstance_run p.subject.removeFinalizer c
    rw [hid] at hupdate
    cases hold : Table.get? c.instances p.subject.id with
    | none =>
      rw [hold] at hupdate
      exact bind_of_ok (attempt_of_error hupdate)
    | some old =>
      rw [hold] at hupdate
      have hseen : isStale p.subject.removeFinalizer.metadata old.metadata
          = isStale p.subject.metadata old.metadata := rfl
      by_cases hstale : isStale p.subject.metadata old.metadata = true
      · simp only [hseen, hstale, if_true] at hupdate ⊢
        exact bind_of_ok (attempt_of_error hupdate)
      · simp only [hseen, hstale, Bool.false_eq_true, if_false] at hupdate ⊢
        exact bind_of_ok (attempt_of_ok hupdate)
  · simp only [hfinalizer]
    rfl

/-- Where the instance is as it was read, the finalizer is taken off. -/
theorem release_of_stored (hi : Table.get? c.instances p.subject.id = some p.subject)
    (hfinalizer : p.subject.hasFinalizer = true) :
    let called := (c.record (.one .update p.subject.id)).bump
    p.release c = .ok .await ((called.putInstance p.subject.id
      (called.adopt p.subject p.subject.removeFinalizer)).collect p.subject.id) := by
  rw [release_run, if_pos hfinalizer, hi]
  simp only [isStale_self, Bool.false_eq_true, if_false]

/-- A release writes to the instance that is stored, or it changes nothing. -/
theorem release_cases (p : Pass) (c : Cluster) :
    (∃ a c', p.release c = .ok a c' ∧ Removed (fun _ => False) c c') ∨
      ∃ old c₁, Table.get? c.instances p.subject.id = some old ∧ Removed (fun _ => False) c c₁ ∧
        p.release c = .ok .await ((c₁.putInstance p.subject.id
          (c₁.adopt old p.subject.removeFinalizer)).collect p.subject.id) := by
  have hcalled : Removed (fun _ => False) c (c.record (.one .update p.subject.id)).bump :=
    (removed_record ..).trans (removed_bump _)
  rw [release_run]
  by_cases hfinalizer : p.subject.hasFinalizer = true
  · simp only [hfinalizer, if_true]
    cases hold : Table.get? c.instances p.subject.id with
    | none => exact Or.inl ⟨_, _, rfl, hcalled⟩
    | some old =>
      by_cases hstale : isStale p.subject.metadata old.metadata = true
      · simp only [hstale, if_true]
        exact Or.inl ⟨_, _, rfl, hcalled⟩
      · simp only [hstale]
        exact Or.inr ⟨old, _, rfl, hcalled, rfl⟩
  · simp only [hfinalizer]
    exact Or.inl ⟨_, _, rfl, Removed.refl c⟩

/-- What keeps the finalizer on is an answer, not a failure. -/
theorem release_ok (p : Pass) (c : Cluster) : ∃ a c', p.release c = .ok a c' := by
  rcases p.release_cases c with ⟨a, c', hrun, -⟩ | ⟨old, c', -, -, hrun⟩
  · exact ⟨a, c', hrun⟩
  · exact ⟨_, _, hrun⟩

/-- Taking the finalizer off brings no object back. -/
theorem release_absent {k : Key} (h : Table.get? c.objects k = none) :
    Table.get? ((p.release : StoreM Cluster Action).after c).objects k = none := by
  rcases p.release_cases c with ⟨a, c', hrun, hcalled⟩ | ⟨old, c', -, hcalled, hrun⟩
  · rw [after_ok hrun]
    exact hcalled.absent h
  · rw [after_ok hrun]
    exact collect_absent _ (hcalled.absent h)

/-- Taking the finalizer off takes no object along but those that the instance owns. -/
theorem release_unowned {k : Key} {o : ManagedObject} {i : Instance}
    (hi : Table.get? c.instances p.subject.id = some i) (ho : Table.get? c.objects k = some o)
    (hunowned : o.metadata.ownedBy i.metadata.uid = false) :
    Table.get? ((p.release : StoreM Cluster Action).after c).objects k = some o := by
  rcases p.release_cases c with ⟨a, c', hrun, hcalled⟩ | ⟨old, c', hold, hcalled, hrun⟩
  · rw [after_ok hrun, hcalled.objects k id, ho]
  · obtain rfl := Option.some.inj (hi.symm.trans hold)
    have ho' : Table.get? c'.objects k = some o := (hcalled.objects k id).trans ho
    rw [after_ok hrun]
    rcases collect_cases (c'.putInstance p.subject.id (c'.adopt i p.subject.removeFinalizer))
      p.subject.id with heq | ⟨j, hj, -, -, heq⟩
    · rw [heq]
      exact ho'
    · obtain rfl := Option.some.inj ((Table.get?_insert_self ..).symm.trans hj)
      rw [heq, adopt_uid]
      exact Table.get?_filter_of_pos ho' (by simp [hunowned])

/-- A release that did not happen changed no instance. -/
theorem release_instances (h : ∀ c', p.release c ≠ .ok .await c') :
    ((p.release : StoreM Cluster Action).after c).instances = c.instances := by
  rcases p.release_cases c with ⟨a, c', hrun, hcalled⟩ | ⟨old, c', -, -, hrun⟩
  · rw [after_ok hrun]
    exact hcalled.instances
  · exact absurd hrun (h _)

/-- The release of an instance is safe. Whatever the cluster holds, which calls fail and whether the
instance is as it was read: if some instance loses the finalizer of the operator, or goes
altogether, then nothing of the plan is left; and if there was to be a prune job, then it had
succeeded when the call began, and nothing of it is left either. A call that fails or has to come
back changes no instance. -/
theorem finalize_safe (p : Pass) (c : Cluster) :
    let c' := (p.finalize : StoreM Cluster Action).after c
    let shared := (Table.values c.instances).any p.subject.needsSharedObjects
    (∀ id i, Table.get? c.instances id = some i →
      (∀ j, Table.get? c'.instances id = some j → i.hasFinalizer = true ∧ j.hasFinalizer = false) →
      (∀ k ∈ deletionPlan p.subject shared p.settings.manageSecurityPolicies,
        Table.get? c'.objects k = none) ∧
      (p.subject.spec.pruneOnDelete = true →
        (∃ job, Table.get? c.objects (p.keyOf pruneJob) = some job ∧ job.kind = .job ∧
          1 ≤ job.statusCount "succeeded") ∧
        ∀ k ∈ p.pruneKeys, Table.get? c'.objects k = none)) ∧
    ((∀ c'', p.finalize c ≠ .ok .await c'') → c'.instances = c.instances) := by
  rcases p.finalize_cases c with ⟨c₁, hcleared, hrun⟩ | ⟨hafter, hwaits⟩
  · rw [after_congr hrun]
    refine ⟨fun id i _ _ => ⟨fun k hk => release_absent (hcleared.gone k hk), fun hon => ?_⟩,
      fun hwaits => ?_⟩
    · obtain ⟨hjob, hgone⟩ := hcleared.pruned hon
      exact ⟨hjob, fun k hk => release_absent (hgone k hk)⟩
    · rw [hrun] at hwaits
      exact (release_instances hwaits).trans hcleared.removed.instances
  · have hinstances : (p.clear.after c).instances = c.instances := (p.clear_within c).instances
    rw [hafter]
    refine ⟨fun id i hi hlost => ?_, fun _ => hinstances⟩
    -- Nothing was lost, for the instance is there as it was.
    have hkept : Table.get? (p.clear.after c).instances id = some i := by
      rw [hinstances, hi]
    obtain ⟨hhas, hlacks⟩ := hlost i hkept
    rw [hhas] at hlacks
    cases hlacks

/-- The prune job of the instance has succeeded, so the instance goes, and nothing of the job is
left. -/
theorem finalize_safe_of_succeeded :
    let i : Instance := Instance.bare ⟨"nfd", "nfd"⟩
    let i : Instance := { i with
      metadata := { i.metadata with
        finalizers := some [Finalizer.own]
        deletionTimestamp := some (.reading 0) }
      spec := { pruneOnDelete := true } }
    let p := Pass.ofInstance {} .own i
    let job : ManagedObject := ⟨.job, Kind.job.names,
      { ns := some "nfd", name := some "nfd-prune" },
      [("status", .obj [("succeeded", .int 1)])]⟩
    let c : Cluster := { objects := [(job.key, job)], instances := [(i.id, i)] }
    Table.get? ((p.finalize : StoreM Cluster Action).after c).objects job.key = none := by
  intro _ i p job c
  have hgone : Table.get? ((p.finalize : StoreM Cluster Action).after c).instances i.id = none := by
    decide +kernel
  have hlost : ∀ j,
      Table.get? ((p.finalize : StoreM Cluster Action).after c).instances i.id = some j →
      i.hasFinalizer = true ∧ j.hasFinalizer = false := by
    intro j hj
    rw [hgone] at hj
    cases hj
  have hsafe := (finalize_safe p c).1 i.id i (by decide +kernel) hlost
  exact (hsafe.2 rfl).2 job.key (by decide +kernel)

end Pass

end NodeFeatureOperator
