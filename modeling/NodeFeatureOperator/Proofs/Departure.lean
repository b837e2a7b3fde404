import NodeFeatureOperator.Proofs.Accounting

/-!
# The departure of the only instance

An instance that is the only one answers for everything that is there (`Cluster.Sole`), so the visit
that lets it go leaves nothing (`Context.visit_empties`). If a prune job is asked for, that visit is
put off: the first visit creates the job (`Cluster.Waits`), and while the job reports no success,
every further one leaves it alone (`Context.visit_waits`).
-/

namespace NodeFeatureOperator

open Cluster StoreM

variable {K : Key → Prop} {manage : Bool} {c c' c₁ : Cluster} {i j : Instance}

/-! ## The only instance -/

namespace Cluster

/-- The instance is stored, and there is no other. -/
structure Sole (manage : Bool) (i : Instance) (c : Cluster) : Prop where
  tidy : c.Tidy manage
  stored : Table.get? c.instances i.id = some i
  others : ∀ id, id ≠ i.id → Table.get? c.instances id = none

namespace Sole

theorem regular (h : c.Sole manage i) : i.Regular i.id := h.tidy.regular i.id i h.stored

/-- All objects are the business of the only instance. -/
theorem answersFor (h : c.Sole manage i) {k : Key} {o : ManagedObject}
    (ho : Table.get? c.objects k = some o) : i.AnswersFor manage k := by
  obtain ⟨id, j, hj, hk⟩ := h.tidy.accounted k o ho
  by_cases hid : id = i.id
  · subst hid
    obtain rfl := Option.some.inj (h.stored.symm.trans hj)
    exact hk
  · cases (h.others id hid).symm.trans hj

/-- An instance takes the place of the only one. -/
theorem replace (h : c.Sole manage i) (hc : c'.Tidy manage) (hid : j.id = i.id)
    (hj : Table.get? c'.instances i.id = some j)
    (hothers : ∀ id, id ≠ i.id → Table.get? c'.instances id = Table.get? c.instances id) :
    c'.Sole manage j where
  tidy := hc
  stored := by rw [hid, hj]
  others id hne := by
    rw [hid] at hne
    rw [hothers id hne, h.others id hne]

/-- Serving the only instance changes it in its status and its version only. -/
theorem serves (h : c.Sole manage i) (hc : Serves K c c') (htidy : c'.Tidy manage) :
    ∃ j, c'.Sole manage j ∧ j.essence = i.essence := by
  obtain ⟨j, hj, heq⟩ := hc.instance_after h.stored
  have hid : j.id = i.id := Instance.id_of_essence heq
  refine ⟨j, h.replace htidy hid hj fun id hne => ?_, heq⟩
  rw [h.others id hne]
  cases hk : Table.get? c'.instances id with
  | none => rfl
  | some k =>
    obtain ⟨k', hk', -⟩ := hc.instance_before hk
    cases (h.others id hne).symm.trans hk'

theorem removed (h : c.Sole manage i) (hc : Removed K c c') : c'.Sole manage i :=
  h.replace (h.tidy.removed hc) rfl (by rw [hc.instances, h.stored]) fun id _ => by
    rw [hc.instances]

theorem rewritten {g : Key → ManagedObject → ManagedObject} (h : c.Sole manage i)
    (hc : Rewritten g c c') : c'.Sole manage i :=
  h.replace (hc.tidy h.tidy) rfl (by rw [hc.instances, h.stored]) fun id _ => by
    rw [hc.instances]

/-- An instance that is to stay has no prune job. -/
theorem no_job (h : c.Sole manage i) (hlive : i.isDeleting = false) :
    ∀ r ∈ pruneResources, Table.get? c.objects (r.key i) = none := by
  intro r hr
  cases ho : Table.get? c.objects (r.key i) with
  | none => rfl
  | some o =>
    have hplan : r.key i ∉ deletionPlan i false manage := fun hmem =>
      name_of_mem_deletionPlan hmem (name_of_mem_pruneResources hr i)
    rcases h.answersFor ho with ⟨-, hk | ⟨hdeleting, -⟩⟩ | ⟨-, hk⟩
    · exact absurd hk hplan
    · cases hlive.symm.trans hdeleting
    · exact absurd hk hplan

/-- Nothing is to be spared for the sake of others. -/
theorem not_spares {ctx : Context} (h : c.Sole manage i) (hdeleting : i.isDeleting = true) :
    (ctx.pass i).spares c = false := by
  rw [← Bool.not_eq_true, Pass.spares_iff]
  rintro ⟨j, hj, -, hlive⟩
  obtain ⟨⟨id, j⟩, hrow, rfl⟩ := List.mem_map.1 hj
  have hstored := h.tidy.sorted.get?_of_mem hrow
  by_cases hid : id = i.id
  · subst hid
    obtain rfl := Option.some.inj (h.stored.symm.trans hstored)
    cases hdeleting.symm.trans hlive
  · cases (h.others id hid).symm.trans hstored

end Sole

end Cluster

/-! ## The last visit -/

namespace Context

variable {ctx : Context}

/-- Once the cluster is clear of what the only instance was to remove, it is clear of everything. -/
theorem cleared_empties (h : c.Sole ctx.settings.manageSecurityPolicies i)
    (hdeleting : i.isDeleting = true) (hcleared : (ctx.pass i).Cleared c c₁) : c₁.objects = [] := by
  have hgone := hcleared.gone
  rw [Pass.plan_of_not_spares (h.not_spares hdeleting)] at hgone
  refine Table.eq_nil_of_get?_eq_none fun k => ?_
  cases ho : Table.get? c₁.objects k with
  | none => rfl
  | some o =>
    have hnone : Table.get? c₁.objects k = none := by
      rcases h.answersFor (hcleared.removed.only k o ho) with
        ⟨-, hk | ⟨-, hon, hk⟩⟩ | ⟨-, hk⟩
      · exact hgone k hk
      · exact (hcleared.pruned hon).2 k (Pass.mem_pruneKeys.2 hk)
      · exact hgone k hk
    exact ho.symm.trans hnone

/-- A visit that has nothing more to wait for ends with the release. -/
theorem finalVisit_of_clear (h : (ctx.pass i).clear c = .ok none c') :
    ctx.finalVisit i c = (ctx.pass i).release c' := by
  obtain ⟨a, c₁, hrelease⟩ := (ctx.pass i).release_ok c'
  rw [hrelease]
  refine finalVisit_of_ok ?_
  rw [Pass.finalize_eq]
  exact (bind_of_ok h).trans hrelease

/-- A visit to the only instance that has nothing more to wait for leaves an empty cluster. -/
theorem visit_empties (h : c.Sole ctx.settings.manageSecurityPolicies i)
    (hdeleting : i.isDeleting = true)
    (hclear : (ctx.pass i).clear (c.record (.one .get i.id)) = .ok none c₁) :
    ∃ c', ctx.visit i.id c = .ok .await c' ∧ c'.instances = [] ∧ c'.objects = [] := by
  have hread : (c.record (.one .get i.id)).Sole ctx.settings.manageSecurityPolicies i :=
    h.removed (removed_record (K := fun _ => False) ..)
  have hcleared := Pass.cleared_of_clear hclear
  have hempty := cleared_empties hread hdeleting hcleared
  have hstored : Table.get? c₁.instances i.id = some i := by
    rw [hcleared.removed.instances]
    exact h.stored
  obtain ⟨c₂, hcalled, hrelease⟩ :=
    Pass.release_collects (p := ctx.pass i) h.regular hstored hdeleting
  refine ⟨c₂.without i.id i.metadata.uid, ?_, ?_, ?_⟩
  · rw [ctx.visit_of_deleting h.stored hdeleting (h.regular.held hdeleting)]
    exact (finalVisit_of_clear hclear).trans hrelease
  · refine Table.eq_nil_of_get?_eq_none fun id => ?_
    change Table.get? (Table.erase c₂.instances i.id) id = none
    rw [Table.get?_erase, hcalled.instances, hcleared.removed.instances]
    split
    · rfl
    · next hne => exact h.others id (Ne.symm hne)
  · refine Table.eq_nil_of_get?_eq_none fun k => Table.get?_filter_eq_none (hcalled.absent ?_)
    rw [hempty]
    rfl

theorem visit_empties_of_unpruned (h : c.Sole ctx.settings.manageSecurityPolicies i)
    (hdeleting : i.isDeleting = true) (hoff : i.spec.pruneOnDelete = false) :
    ∃ c', ctx.visit i.id c = .ok .await c' ∧ c'.instances = [] ∧ c'.objects = [] := by
  obtain ⟨c₁, hclear⟩ := Pass.clear_of_unpruned (p := ctx.pass i)
    (c := c.record (.one .get i.id)) ⟨h.tidy.quiet.failures, h.tidy.quiet.sticky⟩ hoff
  exact visit_empties h hdeleting hclear

theorem visit_empties_of_succeeded (h : c.Sole ctx.settings.manageSecurityPolicies i)
    (hdeleting : i.isDeleting = true) (hon : i.spec.pruneOnDelete = true) {job : ManagedObject}
    (hjob : Table.get? c.objects (pruneJob.key i) = some job) (hkind : job.kind = .job)
    (hsucceeded : 1 ≤ job.statusCount "succeeded") :
    ∃ c', ctx.visit i.id c = .ok .await c' ∧ c'.instances = [] ∧ c'.objects = [] := by
  obtain ⟨c₁, hquiet, -, hclear⟩ := Pass.clear_of_job (p := ctx.pass i)
    (c := c.record (.one .get i.id)) ⟨h.tidy.quiet.failures, h.tidy.quiet.sticky⟩ hon hjob
  obtain ⟨c₂, hstep⟩ := Pass.pruneStep_of_succeeded (p := ctx.pass i) hquiet hkind hsucceeded
  exact visit_empties h hdeleting (hclear.trans (bind_of_ok hstep))

end Context

/-! ## Waiting for the prune job -/

/-- The only instance is to go and waits for the prune job. There is nothing of the job yet, or the
job reports no success and has the property `P`. -/
structure Cluster.Waits (manage : Bool) (P : ManagedObject → Prop) (i : Instance) (c : Cluster) :
    Prop where
  sole : c.Sole manage i
  idle : c.Idle
  deleting : i.isDeleting = true
  prunes : i.spec.pruneOnDelete = true
  owner : i.controllerReference?.isSome
  job : (∀ r ∈ pruneResources, Table.get? c.objects (r.key i) = none) ∨
    ∃ job, Table.get? c.objects (pruneJob.key i) = some job ∧ P job

theorem Cluster.Waits.kind_job {P : ManagedObject → Prop} (h : c.Waits manage P i)
    {job : ManagedObject} (hjob : Table.get? c.objects (pruneJob.key i) = some job) :
    job.kind = .job :=
  h.idle.keyed.kind_of_get? hjob

namespace Context

variable {ctx : Context} {P : ManagedObject → Prop}

theorem finalVisit_of_wait {d : Duration} (h : (ctx.pass i).clear c = .ok (some d) c') :
    ctx.finalVisit i c = .ok (.requeue d) c' := by
  refine finalVisit_of_ok ?_
  rw [Pass.finalize_eq]
  exact bind_of_ok h


/-- A visit that fails to clear the cluster reports that, and does nothing more. -/
theorem finalVisit_of_failed {e : Error} (h : (ctx.pass i).clear c = .error e c') :
    Serves K c' ((ctx.finalVisit i : StoreM Cluster Action).after c) := by
  have hfinalize : (ctx.pass i).finalize c = .error e c' := by
    rw [Pass.finalize_eq]
    exact bind_of_error h
  have hreported : Keeps (Serves K)
      ((ctx.pass i).reportError e.reason e >>= fun _ => throw e : StoreM Cluster Action) :=
    ((ctx.pass i).reportError_serves _ _).bind fun _ => Keeps.throw _
  rw [after_congr (finalVisit_of_error hfinalize)]
  exact hreported c'

/-- After a visit of an instance that waits the job is there. The visit asks for another one later,
unless the job may have failed. -/
theorem finalVisit_waits (h : ctx.templates.Sound)
    (htemplates : ∀ r ∈ pruneResources, Table.contains ctx.templates.templates r = true)
    (hP : ∀ job : ManagedObject, Table.get? job.body "status" = none → P job)
    (hc : c.Waits ctx.settings.manageSecurityPolicies P i) :
    (∃ job, Table.get? ((ctx.finalVisit i : StoreM Cluster Action).after c).objects
        (pruneJob.key i) = some job ∧ P job) ∧
      ((∀ job, P job → job.statusCount "failed" < 1) →
        ∃ c', ctx.finalVisit i c = .ok (.requeue ctx.settings.pruneRequeue) c') := by
  have hquiet := hc.sole.tidy.quiet
  rcases hc.job with hmissing | ⟨job, hjob, hPjob⟩
  · -- The first visit creates the job, which has no status yet.
    obtain ⟨c₁, hclear, hcreated⟩ := Pass.clear_of_missing (p := ctx.pass i) hquiet
      hc.idle.keyed h hc.owner htemplates hc.prunes hmissing
    obtain ⟨job, hjob, hfresh⟩ := hcreated pruneJob (by decide)
    have hrun := finalVisit_of_wait hclear
    rw [after_ok hrun]
    exact ⟨⟨job, hjob, hP job hfresh.noStatus⟩, fun _ => ⟨c₁, hrun⟩⟩
  · obtain ⟨c₁, -, hjob₁, hclear⟩ := Pass.clear_of_job (p := ctx.pass i) hquiet hc.prunes hjob
    have hkind := hc.kind_job hjob
    have hsucceeded := hc.idle.jobs _ job hjob hkind
    by_cases hfailed : job.statusCount "failed" < 1
    · have hstep := Pass.pruneStep_of_running (p := ctx.pass i) hkind hsucceeded hfailed c₁
      have hrun := finalVisit_of_wait (hclear.trans (bind_of_ok hstep))
      rw [after_ok hrun]
      exact ⟨⟨job, hjob₁, hPjob⟩, fun _ => ⟨c₁, hrun⟩⟩
    · -- A job that has failed ends the visit with a report, and stays for the next one.
      refine ⟨⟨job, ?_, hPjob⟩, fun hnone => absurd (hnone job hPjob) hfailed⟩
      obtain ⟨e, c₂, hstep, hcalled⟩ :=
        Pass.pruneStep_of_failed (p := ctx.pass i) hkind hsucceeded (Int.not_lt.1 hfailed) c₁
      have hreported : Serves (fun _ => False) c₂
          ((ctx.finalVisit i : StoreM Cluster Action).after c) :=
        finalVisit_of_failed (hclear.trans (bind_of_error hstep))
      rw [hreported.objects _ id, hcalled.objects _ id]
      exact hjob₁

/-- While the job reports no success, a visit does not let the instance go. -/
theorem finalVisit_serves (h : ctx.templates.Sound) (hidle : c.Idle)
    (hon : i.spec.pruneOnDelete = true) :
    Serves ((ctx.pass i).Clears c) c ((ctx.finalVisit i : StoreM Cluster Action).after c) := by
  rcases ctx.finalVisit_cases h i c with ⟨c₁, hcleared, -⟩ | ⟨hserves, -⟩
  · obtain ⟨⟨job, hjob, hkind, hsucceeded⟩, -⟩ := hcleared.pruned hon
    have := hidle.jobs _ job hjob hkind
    omega
  · exact hserves hidle.keyed

end Context

namespace Cluster.Waits

variable {ctx : Context} {P : ManagedObject → Prop}

/-- Nothing that an instance waits for depends on its status or its version. -/
theorem of_essence (h : c.Waits manage P i) (hsole : c'.Sole manage j)
    (hessence : j.essence = i.essence) (hidle : c'.Idle)
    (hjob : ∃ job, Table.get? c'.objects (pruneJob.key i) = some job ∧ P job) :
    c'.Waits manage P j where
  sole := hsole
  idle := hidle
  deleting := (Instance.eq_of_essence Instance.isDeleting (fun _ => rfl) hessence).trans h.deleting
  prunes := (Instance.eq_of_essence (·.spec.pruneOnDelete) (fun _ => rfl) hessence).trans h.prunes
  owner := by
    rw [Instance.eq_of_essence Instance.controllerReference? (fun _ => rfl) hessence]
    exact h.owner
  job := by
    rw [Instance.eq_of_essence pruneJob.key (fun _ => rfl) hessence]
    exact Or.inr hjob

theorem removed (h : c.Waits manage P i) (hc : Removed (fun _ => False) c c') :
    c'.Waits manage P i where
  sole := h.sole.removed hc
  idle := h.idle.removed hc
  deleting := h.deleting
  prunes := h.prunes
  owner := h.owner
  job := by
    refine h.job.imp (fun hmissing r hr => hc.absent (hmissing r hr)) fun ⟨job, hjob, hP⟩ => ?_
    exact ⟨job, (hc.objects _ id).trans hjob, hP⟩

/-- A report leaves the job where it is. -/
theorem setJobStatus_job (h : c.Waits manage P i) (key : Key) {succeeded failed : Int}
    (hP : ∀ job, job.kind = .job → P job → P (withJobStatus succeeded failed job))
    {job : ManagedObject} (hjob : Table.get? c.objects (pruneJob.key i) = some job)
    (hPjob : P job) :
    ∃ job, Table.get? (c.setJobStatus key succeeded failed).objects (pruneJob.key i) = some job ∧
      P job := by
  refine ⟨_, by rw [(c.setJobStatus_rewritten key succeeded failed).get?, hjob]; rfl, ?_⟩
  dsimp only
  split
  · exact hP job (h.kind_job hjob) hPjob
  · exact hPjob

/-- A report that tells of no success changes nothing about the waiting. -/
theorem setJobStatus (h : c.Waits manage P i) (key : Key) {succeeded failed : Int}
    (hsucceeded : succeeded < 1)
    (hP : ∀ job, job.kind = .job → P job → P (withJobStatus succeeded failed job)) :
    (c.setJobStatus key succeeded failed).Waits manage P i where
  sole := h.sole.rewritten (c.setJobStatus_rewritten ..)
  idle := setJobStatus_idle h.idle key hsucceeded failed
  deleting := h.deleting
  prunes := h.prunes
  owner := h.owner
  job := by
    refine h.job.imp (fun hmissing r hr => ?_) fun ⟨job, hjob, hPjob⟩ =>
      h.setJobStatus_job key hP hjob hPjob
    rw [(c.setJobStatus_rewritten key succeeded failed).get?, hmissing r hr]
    rfl

end Cluster.Waits

namespace Context

variable {ctx : Context} {P : ManagedObject → Prop}

/-- A visit to an instance that waits makes sure that the job is there, and the instance goes on
waiting. -/
theorem visit_waits (h : ctx.templates.Sound)
    (htemplates : ∀ r ∈ pruneResources, Table.contains ctx.templates.templates r = true)
    (hP : ∀ job : ManagedObject, Table.get? job.body "status" = none → P job)
    (hc : c.Waits ctx.settings.manageSecurityPolicies P i) :
    let c' := (ctx.visit i.id : StoreM Cluster Action).after c
    (∃ j, c'.Waits ctx.settings.manageSecurityPolicies P j ∧ j.id = i.id) ∧
      (∃ job, Table.get? c'.objects (pruneJob.key i) = some job ∧ P job) ∧
      ((∀ job, P job → job.statusCount "failed" < 1) →
        ctx.visit i.id c = .ok (.requeue ctx.settings.pruneRequeue) c') := by
  intro c'
  have htidy : c'.Tidy ctx.settings.manageSecurityPolicies :=
    visit_tidy h hc.sole.tidy hc.idle i.id
  have hidle : c'.Idle := visit_idle h i.id c hc.idle
  have hread := hc.removed (removed_record c (.one .get i.id))
  have hvisit := ctx.visit_of_deleting hc.sole.stored hc.deleting
    (hc.sole.regular.held hc.deleting)
  obtain ⟨hjob, hrun⟩ := finalVisit_waits h htemplates hP hread
  have hserves := finalVisit_serves h hread.idle hc.prunes
  rw [← after_congr hvisit] at hjob hserves
  obtain ⟨j, hj, hessence⟩ := hread.sole.serves hserves htidy
  refine ⟨⟨j, hread.of_essence hj hessence hidle hjob, ?_⟩, hjob, fun hnone => ?_⟩
  · exact Instance.id_of_essence hessence
  · obtain ⟨c₁, hrun⟩ := hrun hnone
    have hrun := hvisit.trans hrun
    rw [hrun]
    exact congrArg _ (after_ok hrun).symm

end Context

end NodeFeatureOperator
