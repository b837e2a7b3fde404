import NodeFeatureOperator.Proofs.Custody
import NodeFeatureOperator.Proofs.Departure

/-!
# Prune jobs in passes

Everything that is made for a prune job goes by one name, and nothing else that the operator deploys
or plans to delete goes by it. So most of what happens is no business of the prune jobs
(`Cluster.Aside`). A visit to an instance that is to go and asks for pruning deals with its job in
one of four ways (`Context.Prunes`): it leaves everything as it is, it starts the job because it
finds none, or it takes away a job that has succeeded, which may fail half-way or lead to the
release of the instance.
-/

namespace NodeFeatureOperator

open Cluster StoreM

variable {K : Key → Prop} {c c' c₁ : Cluster} {i : Instance}

/-! ## What goes by the name -/

theorem Pass.Deploys.name_ne {p : Pass} {k : Key} (h : p.Deploys k) : k.name ≠ "nfd-prune" :=
  name_of_mem_deletionPlan (mem_deletionPlan_of_deploys h)

namespace Cluster

/-- What happened in between was no business of the prune jobs: all that goes by their name is as it
was, and so is every instance but for its status and its version. -/
abbrev Aside (c c' : Cluster) : Prop := Serves (fun k => k.name ≠ "nfd-prune") c c'

theorem Aside.get? (h : Aside c c') {k : Key} (hk : k.name = "nfd-prune") :
    Table.get? c'.objects k = Table.get? c.objects k :=
  h.objects k fun hne => hne hk

/-- `Aside`, where instances are exactly as they were. -/
abbrev Aloof (c c' : Cluster) : Prop := Within (fun k => k.name ≠ "nfd-prune") c c'

/-- Calls that removed nothing. -/
theorem Removed.aloof (h : Removed (fun _ => False) c c') : Aloof c c' :=
  h.toWithin.mono fun _ hk => hk.elim

theorem aside_record (c : Cluster) (call : Call) : Aside c (c.record call) :=
  (removed_record c call).aloof.serves

end Cluster

/-! ## Instances that prune -/

namespace Cluster

variable {id : InstanceId}

/-- The instance is stored and holds the finalizer of the operator. -/
def Holds (id : InstanceId) (c : Cluster) : Prop :=
  ∃ i, Table.get? c.instances id = some i ∧ i.hasFinalizer = true

/-- The prune job of the instance is stored. -/
def HasJob (id : InstanceId) (c : Cluster) : Prop :=
  (Table.get? c.objects (pruneJob.key (.bare id))).isSome

theorem HasJob.rewritten {g : Key → ManagedObject → ManagedObject} (h : c.HasJob id)
    (hc : Rewritten g c c') : c'.HasJob id := by
  unfold HasJob
  rw [hc.get?, Option.isSome_map]
  exact h

end Cluster

/-- The instance is stored under its own identity, is to go, and asks for pruning. -/
structure Instance.Departs (i : Instance) (id : InstanceId) : Prop where
  named : i.id = id
  deleting : i.isDeleting = true
  prunes : i.spec.pruneOnDelete = true

namespace Instance.Departs

variable {j : Instance} {id : InstanceId}

theorem becomes (h : i.Departs id) (hj : i.Becomes j) : j.Departs id :=
  ⟨hj.id_eq.trans h.named, hj.isDeleting_eq.trans h.deleting,
    (congrArg InstanceSpec.pruneOnDelete hj.spec_eq).trans h.prunes⟩

theorem of_essence (h : i.Departs id) (hj : j.essence = i.essence) : j.Departs id :=
  h.becomes (.of_essence hj)

/-- To evaluate whether a stored instance departs. -/
theorem of_all (h : ((Table.get? c.instances id).all fun j =>
    j.id = id && j.isDeleting && j.spec.pruneOnDelete) = true) :
    ∀ j, Table.get? c.instances id = some j → j.Departs id := by
  intro j hj
  rw [hj] at h
  simp only [Option.all_some, Bool.and_eq_true, decide_eq_true_eq] at h
  exact ⟨h.1.1, h.1.2, h.2⟩

end Instance.Departs

/-! ## Teardown -/

namespace Pass

variable {p : Pass}

/-- A teardown ends before it gets to the prune job, or it gets there. -/
theorem clear_cases (p : Pass) (c : Cluster) :
    ∃ c₁, Aloof c c₁ ∧ ((∃ e, p.clear c = .error e c₁) ∨ (∃ d, p.clear c = .ok (some d) c₁) ∨
      p.clear c = (p.prune >>= fun state => pure (p.pruneWait state)) c₁) := by
  have hplan {c₁ c₂ : Cluster} (h : Removed (· ∈ p.plan c) c₁ c₂) : Aloof c₁ c₂ :=
    h.toWithin.mono fun k hk => name_of_mem_deletionPlan hk
  have hlisted : Aloof c (c.record .listing) := (removed_record ..).aloof
  rw [clear_run]
  unfold clearKeys
  cases hdelete : (deleteAll p.settings.deleteRetry (p.plan c) : StoreM Cluster Unit)
      (c.record .listing) with
  | error e c₁ =>
    have hdeleted := hlisted.trans (hplan ((deleteAll_removed _ _).of_error hdelete))
    exact ⟨c₁, hdeleted, Or.inl ⟨e, bind_of_error hdelete⟩⟩
  | ok _ c₁ =>
    have hdeleted := hlisted.trans (hplan ((deleteAll_removed _ _).of_ok hdelete))
    rw [bind_of_ok hdelete]
    cases hleft : (remaining (p.plan c) : StoreM Cluster (List Key)) c₁ with
    | error e c₂ =>
      have hscanned := hdeleted.trans (((remaining_removed _).of_error hleft).aloof)
      exact ⟨c₂, hscanned, Or.inl ⟨e, bind_of_error hleft⟩⟩
    | ok left c₂ =>
      have hscanned := hdeleted.trans (((remaining_removed _).of_ok hleft).aloof)
      refine ⟨c₂, hscanned, Or.inr ?_⟩
      rw [bind_of_ok hleft]
      cases left with
      | nil => exact Or.inr rfl
      | cons k left => exact Or.inl ⟨_, rfl⟩

/-- A step with the prune job leaves it alone, or creates it, or takes it away. -/
theorem prune_cases (hon : p.subject.spec.pruneOnDelete = true) (c : Cluster) :
    ∃ c₁, Removed (fun _ => False) c c₁ ∧
      ((∃ e, p.prune c = .error e c₁) ∨ p.prune c = .ok .inProgress c₁ ∨
      (Table.get? c.objects (p.keyOf pruneJob) = none ∧
        p.prune c = (p.applyAll pruneResources >>= fun _ => pure .inProgress) c₁) ∨
      (p.Pruned c ∧ p.prune c
        = (deleteAll p.settings.deleteRetry p.pruneKeys >>= fun _ => pure .done) c₁)) := by
  cases hget : (Store.get (p.keyOf pruneJob) : StoreM Cluster _) c with
  | error e c₁ =>
    exact ⟨c₁, (get_removed _).of_error hget, Or.inl ⟨e, prune_of_error hon hget⟩⟩
  | ok found c₁ =>
    have hread : Removed (fun _ => False) c c₁ := (get_removed _).of_ok hget
    have hfound := (get_ok hget).1.symm
    cases found with
    | none => exact ⟨c₁, hread, Or.inr (Or.inr (Or.inl ⟨hfound, prune_of_missing hon hget⟩))⟩
    | some job =>
      have hstep := prune_of_job hon hget
      by_cases hpruned : job.kind = .job ∧ 1 ≤ job.statusCount "succeeded"
      · refine ⟨c₁, hread, Or.inr (Or.inr (Or.inr ⟨⟨job, hfound, hpruned⟩, ?_⟩))⟩
        rw [hstep, pruneStep_eq, if_neg (Decidable.not_not.2 hpruned.1), if_pos hpruned.2]
      · obtain ⟨c₂, hcalled, ⟨e, hrun⟩ | hrun⟩ := pruneStep_unpruned (p := p) hpruned c₁
        · exact ⟨c₂, hread.trans hcalled, Or.inl ⟨e, hstep.trans hrun⟩⟩
        · exact ⟨c₂, hread.trans hcalled, Or.inr (Or.inl (hstep.trans hrun))⟩

/-- Where the job is stored, nothing is created. -/
theorem clear_creates_nothing (hon : p.subject.spec.pruneOnDelete = true)
    (hjob : (Table.get? c.objects (p.keyOf pruneJob)).isSome) :
    Logs (fun verb _ => verb ≠ .create) c (p.clear.after c) := by
  rw [after_congr (clear_run p c)]
  refine trans_of _ (logs_record_instance .listing (by simp) rfl) ?_
  refine rel_after_bind (deleteAll_logs (fun k _ => ⟨by simp, by simp⟩) _ _)
    fun _ c₁ hdelete => ?_
  refine rel_after_bind (remaining_logs (fun k _ => by simp) _) fun left c₂ hleft => ?_
  split
  · exact Keeps.pure _ c₂
  refine rel_after_bind ?_ fun _ c₃ _ => Keeps.pure _ c₃
  cases hget : (Store.get (p.keyOf pruneJob) : StoreM Cluster _) c₂ with
  | error e c₃ =>
    rw [after_error (prune_of_error hon hget)]
    exact (get_logs (by simp)).of_error hget
  | ok found c₃ =>
    have hkept : p.keyOf pruneJob ∉ p.plan c := fun hplan =>
      ne_job_of_mem_deletionPlan hplan (pruneJob.key_kind p.subject)
    have hfound : found = Table.get? c.objects (p.keyOf pruneJob) := by
      rw [(get_ok hget).1, ((remaining_removed (K := fun _ => False) _).of_ok hleft).objects _ id,
        ((deleteAll_removed _ _).of_ok hdelete).objects _ hkept]
      rfl
    obtain ⟨job, hstored⟩ := Option.isSome_iff_exists.1 hjob
    rw [hfound, hstored] at hget
    rw [after_congr (prune_of_job hon hget)]
    exact trans_of _ ((get_logs (by simp)).of_ok hget)
      (pruneStep_logs (fun k _ => ⟨by simp, by simp⟩) job c₃)

end Pass

namespace Context

variable {ctx : Context}

/-- The ways in which a visit to an instance that is to go deals with the prune job. -/
inductive Prunes (ctx : Context) (i : Instance) (c : Cluster) : Prop
  /-- It leaves everything as it is. -/
  | leaves (h : Aside c ((ctx.finalVisit i : StoreM Cluster Action).after c))
  /-- It finds no job and creates it with all that it needs. -/
  | starts {c₁ : Cluster} (hmissing : Table.get? c.objects (pruneJob.key i) = none)
      (hfound : Aloof c c₁)
      (hrest : Aside (((ctx.pass i).applyAll pruneResources : StoreM Cluster Unit).after c₁)
        ((ctx.finalVisit i : StoreM Cluster Action).after c))
  /-- It finds that the job has succeeded, and fails to take everything away. -/
  | fails {c₁ c₂ : Cluster} {e : Error} (hpruned : (ctx.pass i).Pruned c) (hfound : Aloof c c₁)
      (hdelete : deleteAll ctx.settings.deleteRetry (ctx.pass i).pruneKeys c₁ = .error e c₂)
      (hrest : Aside c₂ ((ctx.finalVisit i : StoreM Cluster Action).after c))
      (hfailed : ∀ a c', ctx.finalVisit i c ≠ .ok a c')
  /-- It finds that the job has succeeded, takes everything away, and releases the instance. -/
  | ends {c₁ c₂ : Cluster} (hpruned : (ctx.pass i).Pruned c) (hfound : Aloof c c₁)
      (hdelete : deleteAll ctx.settings.deleteRetry (ctx.pass i).pruneKeys c₁ = .ok () c₂)
      (hrest : ctx.finalVisit i c = (ctx.pass i).release c₂)

theorem finalVisit_fails {e : Error} (h : (ctx.pass i).clear c = .error e c₁) (a : Action)
    (c' : Cluster) : ctx.finalVisit i c ≠ .ok a c' := by
  have hfinalize : (ctx.pass i).finalize c = .error e c₁ := by
    rw [Pass.finalize_eq]
    exact bind_of_error h
  intro hok
  obtain ⟨_, _, -, hthrow⟩ := bind_ok.1 ((finalVisit_of_error hfinalize).symm.trans hok)
  cases hthrow

/-- There are no other ways. -/
theorem finalVisit_prunes (ctx : Context) (hon : i.spec.pruneOnDelete = true) (c : Cluster) :
    ctx.Prunes i c := by
  obtain ⟨c₁, haloof, ⟨e, hclear⟩ | ⟨d, hclear⟩ | hclear⟩ := (ctx.pass i).clear_cases c
  · exact .leaves (haloof.serves.trans (finalVisit_of_failed hclear))
  · refine .leaves ?_
    rw [after_ok (finalVisit_of_wait hclear)]
    exact haloof.serves
  have hjob : Table.get? c₁.objects (pruneJob.key i) = Table.get? c.objects (pruneJob.key i) :=
    haloof.objects _ fun hne => hne (pruneJob.key_name i)
  obtain ⟨c₂, hcalled, hways⟩ := Pass.prune_cases (p := ctx.pass i) hon c₁
  have hfound : Aloof c c₂ := haloof.trans hcalled.aloof
  rcases hways with ⟨e, hprune⟩ | hprune | ⟨hmissing, hprune⟩ | ⟨⟨job, hstored, hsucceeded⟩, hprune⟩
  · exact .leaves (hfound.serves.trans (finalVisit_of_failed (hclear.trans (bind_of_error hprune))))
  · refine .leaves ?_
    rw [after_ok (finalVisit_of_wait (hclear.trans (bind_of_ok hprune)))]
    exact hfound.serves
  · refine .starts (hjob.symm.trans hmissing) hfound ?_
    cases happly : ((ctx.pass i).applyAll pruneResources : StoreM Cluster Unit) c₂ with
    | ok _ c₃ =>
      have hrun := hclear.trans (bind_of_ok (hprune.trans (bind_of_ok happly)))
      rw [after_ok happly, after_ok (finalVisit_of_wait hrun)]
      exact Serves.refl c₃
    | error e c₃ =>
      have hrun := hclear.trans (bind_of_error (hprune.trans (bind_of_error happly)))
      rw [after_error happly]
      exact finalVisit_of_failed hrun
  · have hpruned : (ctx.pass i).Pruned c := ⟨job, hjob.symm.trans hstored, hsucceeded⟩
    cases hdelete : (deleteAll ctx.settings.deleteRetry (ctx.pass i).pruneKeys :
        StoreM Cluster Unit) c₂ with
    | ok _ c₃ =>
      refine .ends hpruned hfound hdelete ?_
      exact finalVisit_of_clear (hclear.trans (bind_of_ok (hprune.trans (bind_of_ok hdelete))))
    | error e c₃ =>
      have hrun := hclear.trans (bind_of_error (hprune.trans (bind_of_error hdelete)))
      exact .fails hpruned hfound hdelete (finalVisit_of_failed hrun) (finalVisit_fails hrun)

theorem finalVisit_creates_nothing (hon : i.spec.pruneOnDelete = true)
    (hjob : (Table.get? c.objects (pruneJob.key i)).isSome) :
    Logs (fun verb _ => verb ≠ .create) c ((ctx.finalVisit i : StoreM Cluster Action).after c) :=
  finalVisit_keeps (Pass.clear_creates_nothing (p := ctx.pass i) hon hjob) (Pass.release_logs _)
    fun j _ => updateStatus_logs j

end Context

end NodeFeatureOperator
