import NodeFeatureOperator.Prune
import NodeFeatureOperator.Proofs.Convergence

/-!
# The prune job on a cluster

A step with the prune job touches what the job needs and the job itself (`Pass.prune_touches`). It
is done only if the instance asks for no job, or if the job was there, had succeeded, and has been
removed together with all that it needed (`Pass.prune_done`). A job that the step creates has not
succeeded yet (`Pass.prune_fresh`).
-/

namespace NodeFeatureOperator

open Cluster StoreM

namespace ManagedObject

theorem statusCount_of_noStatus {o : ManagedObject} (h : Table.get? o.body "status" = none)
    (name : String) : o.statusCount name = 0 := by
  have hpath : o.at? ["status", name] = none := by
    unfold ManagedObject.at?
    rw [Json.at?]
    exact Option.bind_eq_none_iff.2 fun j hj => by
      cases h.symm.trans hj
  unfold statusCount
  rw [hpath]
  rfl

end ManagedObject

/-- The operator has a template for each part of the prune job. -/
theorem Registry.own_prune : ∀ r ∈ pruneResources, Table.contains own.templates r = true := by
  decide +kernel

theorem name_of_mem_pruneResources {r : Resource} (h : r ∈ pruneResources) (i : Instance) :
    (r.key i).name = "nfd-prune" := by
  have hnames : ∀ r ∈ pruneResources, r.name = "nfd-prune" := by decide
  exact (r.key_name i).trans (hnames r h)

namespace Pass

variable {p : Pass} {K : Key → Prop} {c c' : Cluster} {job : ManagedObject}

theorem mem_pruneKeys {k : Key} : k ∈ p.pruneKeys ↔ k ∈ pruneResources.map p.keyOf := by
  unfold pruneKeys
  rw [List.map_reverse, List.mem_reverse]

theorem name_of_mem_pruneKeys {k : Key} (h : k ∈ p.pruneKeys) : k.name = "nfd-prune" := by
  obtain ⟨r, hr, rfl⟩ := List.mem_map.1 (mem_pruneKeys.1 h)
  exact name_of_mem_pruneResources hr p.subject

theorem pruneResources_keys_nodup (p : Pass) : (pruneResources.map p.keyOf).Nodup := by
  have hkinds : (pruneResources.map fun r => r.kind).Nodup := by decide
  refine List.pairwise_map.2 ((List.pairwise_map.1 hkinds).imp fun {r s} hne heq => hne ?_)
  exact (r.key_kind p.subject).symm.trans ((congrArg Key.kind heq).trans (s.key_kind p.subject))

/-! ## A step with the job that is stored -/

theorem announcePruneFailure_removed (p : Pass) (failed : Int) :
    Keeps (Removed K) (p.announcePruneFailure failed : StoreM Cluster Unit) :=
  Keeps.ite (publish_removed _ _).bestEffort (Keeps.pure _)

/-- The four ways of a step with a job. -/
theorem pruneStep_eq {σ : Type} [Store σ] (p : Pass) (job : ManagedObject) :
    (p.pruneStep job : StoreM σ PruneState) =
      if job.kind ≠ .job then throw (.unexpectedKind .job job.kind)
      else if job.statusCount "succeeded" ≥ 1 then do
        deleteAll p.settings.deleteRetry p.pruneKeys
        return .done
      else if job.statusCount "failed" ≥ 1 then do
        p.announcePruneFailure (job.statusCount "failed")
        throw (p.pruneFailure (job.statusCount "failed"))
      else return .inProgress := by
  unfold pruneStep
  split <;> rfl

theorem pruneStep_removed (p : Pass) (job : ManagedObject) :
    Keeps (Removed (· ∈ p.pruneKeys)) (p.pruneStep job : StoreM Cluster PruneState) := by
  rw [pruneStep_eq]
  refine Keeps.ite (Keeps.throw _) (Keeps.ite ?_ (Keeps.ite ?_ (Keeps.pure _)))
  · exact (deleteAll_removed _ _).bind fun _ => Keeps.pure _
  · exact (p.announcePruneFailure_removed _).bind fun _ => Keeps.throw _

theorem pruneStep_done (h : (p.pruneStep job : StoreM Cluster PruneState) c = .ok .done c') :
    job.kind = .job ∧ 1 ≤ job.statusCount "succeeded" ∧
      ∀ k ∈ p.pruneKeys, Table.get? c'.objects k = none := by
  rw [pruneStep_eq] at h
  split at h
  · cases h
  · next hkind =>
    split at h
    · next hsucceeded =>
      obtain ⟨_, c₁, hdelete, h⟩ := bind_ok.1 h
      cases h
      exact ⟨Decidable.not_not.1 hkind, hsucceeded, deleteAll_ok hdelete⟩
    · split at h
      · obtain ⟨_, _, -, h⟩ := bind_ok.1 h
        cases h
      · cases h

theorem pruneStep_of_running (hkind : job.kind = .job)
    (hsucceeded : job.statusCount "succeeded" < 1) (hfailed : job.statusCount "failed" < 1)
    (c : Cluster) :
    (p.pruneStep job : StoreM Cluster PruneState) c = .ok .inProgress c := by
  rw [pruneStep_eq, if_neg (Decidable.not_not.2 hkind), if_neg (Int.not_le.2 hsucceeded),
    if_neg (Int.not_le.2 hfailed)]
  rfl

/-- A job that has failed stays. -/
theorem pruneStep_of_failed (hkind : job.kind = .job) (hsucceeded : job.statusCount "succeeded" < 1)
    (hfailed : 1 ≤ job.statusCount "failed") (c : Cluster) :
    ∃ e c', (p.pruneStep job : StoreM Cluster PruneState) c = .error e c' ∧
      Removed (fun _ => False) c c' := by
  have hannounced : Keeps (Removed fun _ => False)
      (p.announcePruneFailure (job.statusCount "failed") : StoreM Cluster Unit) :=
    p.announcePruneFailure_removed _
  rw [pruneStep_eq, if_neg (Decidable.not_not.2 hkind), if_neg (Int.not_le.2 hsucceeded),
    if_pos hfailed]
  cases hrun : (p.announcePruneFailure (job.statusCount "failed") : StoreM Cluster Unit) c with
  | ok _ c' => exact ⟨_, c', bind_of_ok hrun, hannounced.of_ok hrun⟩
  | error e c' => exact ⟨e, c', bind_of_error hrun, hannounced.of_error hrun⟩

/-- A step with a job that has not succeeded leaves everything as it is. -/
theorem pruneStep_unpruned (h : ¬ (job.kind = .job ∧ 1 ≤ job.statusCount "succeeded"))
    (c : Cluster) :
    ∃ c', Removed (fun _ => False) c c' ∧
      ((∃ e, (p.pruneStep job : StoreM Cluster PruneState) c = .error e c') ∨
        p.pruneStep job c = .ok .inProgress c') := by
  by_cases hkind : job.kind = .job
  · have hsucceeded : job.statusCount "succeeded" < 1 :=
      Int.not_le.1 fun hsucceeded => h ⟨hkind, hsucceeded⟩
    by_cases hfailed : job.statusCount "failed" < 1
    · exact ⟨c, Removed.refl c, Or.inr (pruneStep_of_running hkind hsucceeded hfailed c)⟩
    · obtain ⟨e, c', hrun, hcalled⟩ :=
        pruneStep_of_failed (p := p) hkind hsucceeded (Int.not_lt.1 hfailed) c
      exact ⟨c', hcalled, Or.inl ⟨e, hrun⟩⟩
  · refine ⟨c, Removed.refl c, Or.inl ⟨.unexpectedKind .job job.kind, ?_⟩⟩
    rw [pruneStep_eq, if_pos hkind]
    rfl

theorem pruneStep_called (h : ¬ (job.kind = .job ∧ 1 ≤ job.statusCount "succeeded")) :
    Keeps (Removed fun _ => False) (p.pruneStep job : StoreM Cluster PruneState) := by
  intro c
  obtain ⟨c', hcalled, ⟨e, hrun⟩ | hrun⟩ := pruneStep_unpruned (p := p) h c
  · rwa [after_error hrun]
  · rwa [after_ok hrun]

/-! ## A step of an instance -/

/-- The keys that a step with the prune job may touch. -/
def Prunes (p : Pass) (k : Key) : Prop := p.subject.spec.pruneOnDelete = true ∧ k ∈ p.pruneKeys

theorem prune_within (p : Pass) :
    Keeps (Within fun _ => True) (p.prune : StoreM Cluster PruneState) := by
  refine Keeps.ite (Keeps.pure _) (((get_removed _).mono fun _ _ => Removed.toWithin).bind ?_)
  intro found
  cases found with
  | none => exact (p.applyAll_within _).bind fun _ => Keeps.pure _
  | some job =>
    exact (p.pruneStep_removed job).mono fun _ _ h => h.toWithin.mono fun _ _ => trivial

theorem prune_touches (h : p.templates.Sound) :
    Keeps (Touches p.Prunes) (p.prune : StoreM Cluster PruneState) := by
  unfold prune
  by_cases hprune : p.subject.spec.pruneOnDelete = true
  · have hkeys : ∀ k, k ∈ p.pruneKeys → p.Prunes k := fun k hk => ⟨hprune, hk⟩
    refine Keeps.ite (Keeps.pure _)
      (((get_removed _).mono fun _ _ h => h.toWithin.touches).bind fun found => ?_)
    cases found with
    | none =>
      refine Keeps.bind ((p.applyAll_touches h _).mono fun _ _ => Touches.mono ?_) fun _ =>
        Keeps.pure _
      exact fun k hk => hkeys k (mem_pruneKeys.2 hk)
    | some job =>
      exact (p.pruneStep_removed job).mono fun _ _ h => (h.toWithin.mono hkeys).touches
  · simp only [hprune]
    exact Keeps.pure _

theorem prune_off (h : p.subject.spec.pruneOnDelete = false) (c : Cluster) :
    (p.prune : StoreM Cluster PruneState) c = .ok .done c := by
  unfold prune
  simp only [h]
  rfl

/-- A step that cannot look for the job fails. -/
theorem prune_of_error (hprune : p.subject.spec.pruneOnDelete = true) {e : Error}
    (hget : (Store.get (p.keyOf pruneJob) : StoreM Cluster _) c = .error e c') :
    (p.prune : StoreM Cluster PruneState) c = .error e c' := by
  unfold prune
  simp only [hprune, Bool.not_true, Bool.false_eq_true, if_false]
  exact bind_of_error hget

/-- A step that finds a job goes on with it. -/
theorem prune_of_job (hprune : p.subject.spec.pruneOnDelete = true)
    (hget : (Store.get (p.keyOf pruneJob) : StoreM Cluster _) c = .ok (some job) c') :
    (p.prune : StoreM Cluster PruneState) c = p.pruneStep job c' := by
  unfold prune
  simp only [hprune, Bool.not_true, Bool.false_eq_true, if_false]
  exact bind_of_ok hget

/-- A step that finds no job creates all that there is to create. -/
theorem prune_of_missing (hprune : p.subject.spec.pruneOnDelete = true)
    (hget : (Store.get (p.keyOf pruneJob) : StoreM Cluster _) c = .ok none c') :
    (p.prune : StoreM Cluster PruneState) c =
      (p.applyAll pruneResources >>= fun _ => pure .inProgress : StoreM Cluster PruneState) c' := by
  unfold prune
  simp only [hprune, Bool.not_true, Bool.false_eq_true, if_false]
  exact bind_of_ok hget

/-- The prune job is stored and has succeeded. -/
def Pruned (p : Pass) (c : Cluster) : Prop :=
  ∃ job, Table.get? c.objects (p.keyOf pruneJob) = some job ∧ job.kind = .job ∧
    1 ≤ job.statusCount "succeeded"

/-- What it takes for pruning to be done. -/
theorem prune_done (hprune : p.subject.spec.pruneOnDelete = true)
    (h : (p.prune : StoreM Cluster PruneState) c = .ok .done c') :
    Removed (· ∈ p.pruneKeys) c c' ∧
      (∃ job, Table.get? c.objects (p.keyOf pruneJob) = some job ∧ job.kind = .job ∧
        1 ≤ job.statusCount "succeeded") ∧
      ∀ k ∈ p.pruneKeys, Table.get? c'.objects k = none := by
  cases hget : (Store.get (p.keyOf pruneJob) : StoreM Cluster _) c with
  | error e c₁ =>
    rw [prune_of_error hprune hget] at h
    cases h
  | ok found c₁ =>
    have hread : Removed (· ∈ p.pruneKeys) c c₁ := (get_removed _).of_ok hget
    cases found with
    | none =>
      rw [prune_of_missing hprune hget] at h
      obtain ⟨_, _, -, h⟩ := bind_ok.1 h
      cases h
    | some job =>
      rw [prune_of_job hprune hget] at h
      obtain ⟨hkind, hsucceeded, hgone⟩ := pruneStep_done h
      exact ⟨hread.trans ((p.pruneStep_removed job).of_ok h),
        ⟨job, (get_ok hget).1.symm, hkind, hsucceeded⟩, hgone⟩

/-- The job that is there after a step was there before, or it is new and has not reported yet. -/
theorem prune_fresh (h : p.templates.Sound) (hkeyed : c.Keyed) {o : ManagedObject}
    (ho : Table.get? ((p.prune : StoreM Cluster PruneState).after c).objects (p.keyOf pruneJob)
      = some o) :
    Table.get? c.objects (p.keyOf pruneJob) = some o ∨ o.statusCount "succeeded" = 0 := by
  cases hprune : p.subject.spec.pruneOnDelete with
  | false =>
    rw [after_ok (prune_off hprune c)] at ho
    exact Or.inl ho
  | true =>
    cases hget : (Store.get (p.keyOf pruneJob) : StoreM Cluster _) c with
    | error e c₁ =>
      have hread : Removed (fun _ => True) c c₁ := (get_removed _).of_error hget
      rw [after_error (prune_of_error hprune hget)] at ho
      exact Or.inl (hread.only _ _ ho)
    | ok found c₁ =>
      have hread : Removed (fun _ => True) c c₁ := (get_removed _).of_ok hget
      cases found with
      | none =>
        have habsent : Table.get? c₁.objects (p.keyOf pruneJob) = none :=
          hread.absent (get_ok hget).1.symm
        have hfresh := applyAll_fresh (p := p) h (hread.keyed hkeyed) p.pruneResources_keys_nodup
          (r := pruneJob) (by decide) habsent
        rw [after_congr (prune_of_missing hprune hget), after_bind_pure] at ho
        exact Or.inr (ManagedObject.statusCount_of_noStatus (hfresh o ho).noStatus _)
      | some job =>
        rw [after_congr (prune_of_job hprune hget)] at ho
        exact Or.inl (hread.only _ _ ((p.pruneStep_removed job c₁).only _ _ ho))

/-! ## Quiet clusters -/

/-- A job that has succeeded goes with all that it needed. -/
theorem pruneStep_of_succeeded (h : c.Quiet) (hkind : job.kind = .job)
    (hsucceeded : 1 ≤ job.statusCount "succeeded") :
    ∃ c', (p.pruneStep job : StoreM Cluster PruneState) c = .ok .done c' := by
  obtain ⟨c', hdelete⟩ := deleteAll_quiet h p.settings.deleteRetry p.pruneKeys
  refine ⟨c', ?_⟩
  rw [pruneStep_eq, if_neg (Decidable.not_not.2 hkind), if_pos hsucceeded]
  exact bind_of_ok hdelete

/-- The first step finds nothing and creates the job with all that it needs. -/
theorem prune_first (h : c.Quiet) (hkeyed : c.Keyed) (hsound : p.templates.Sound)
    (howner : p.subject.controllerReference?.isSome)
    (htemplates : ∀ r ∈ pruneResources, Table.contains p.templates.templates r = true)
    (hprune : p.subject.spec.pruneOnDelete = true)
    (hmissing : ∀ r ∈ pruneResources, Table.get? c.objects (p.keyOf r) = none) :
    ∃ c', (p.prune : StoreM Cluster PruneState) c = .ok .inProgress c' ∧
      ∀ r ∈ pruneResources, ∃ o, Table.get? c'.objects (p.keyOf r) = some o ∧
        o.Fresh (p.keyOf r) := by
  have hget := get_of_clear h.failures (p.keyOf pruneJob)
  rw [hmissing pruneJob (by decide)] at hget
  have hread : Removed (fun _ => True) c (c.record (.object .get (p.keyOf pruneJob))) :=
    removed_record ..
  obtain ⟨c', happly, hpresent⟩ := applyAll_quiet (hread.quiet h) (hread.keyed hkeyed) hsound howner
    htemplates p.pruneResources_keys_nodup hmissing
  refine ⟨c', (prune_of_missing hprune hget).trans (bind_of_ok happly), fun r hr => ?_⟩
  have hfresh := applyAll_fresh hsound (hread.keyed hkeyed) p.pruneResources_keys_nodup hr
    (hmissing r hr)
  rw [after_ok happly] at hfresh
  obtain ⟨o, hstored⟩ := Option.isSome_iff_exists.1 (hpresent r hr)
  exact ⟨o, hstored, hfresh o hstored⟩

end Pass

end NodeFeatureOperator
