import NodeFeatureOperator.Proofs.Deletion
import NodeFeatureOperator.Proofs.Deploying

/-!
# A teardown stops in time

Calls take no time. Only a deletion waits, and if it waits in vain it ends with an error that
nothing else ends with (`Error.Prompt`). So whatever is put together out of calls and deletions
takes no time at all, or it takes exactly the timeout of one deletion (`Punctual`). A teardown is
put together like this: it deletes what is stored of its plan, in the order of the plan, and stops
for good where a deletion does not succeed (`Pass.finalize_deletes`).
-/

namespace NodeFeatureOperator

open Cluster StoreM

variable {α β : Type} {K L : Key → Prop} {policy : RetryPolicy} {key : Key} {keys : List Key}
  {c c' : Cluster} {e : Error}

/-! ## Errors that no call has raised -/

namespace Error

/-- The error is about what the operator works out itself, and no answer to a call. -/
def Inner : Error → Prop
  | .missingManifest _ | .ownerReference .. | .serialization => True
  | _ => False

theorem Inner.prompt (h : e.Inner) : e.Prompt := by
  cases e with
  | deleteTimeout => exact h.elim
  | _ => trivial

theorem Inner.isNotFound (h : e.Inner) : e.isNotFound = false := by
  cases e with
  | api | object => exact h.elim
  | _ => rfl

end Error

theorem Registry.render_inner {templates : Registry} {i : Instance} {r : Resource} {image : String}
    (h : templates.render i r image = .error e) : e.Inner := by
  unfold render get at h
  cases ht : Table.get? templates.templates r with
  | none =>
    rw [ht] at h
    cases h
    trivial
  | some t =>
    rw [ht] at h
    cases h

namespace ManagedObject

variable {o live desired : ManagedObject} {i : Instance}

theorem own_inner (h : o.own i = .error e) : e.Inner := by
  unfold own at h
  split at h
  · cases h
  · split at h
    · cases h
      trivial
    · dsimp only at h
      split at h
      · cases h
        trivial
      · cases h

theorem converged_inner (h : live.converged desired i = .error e) : e.Inner := by
  unfold converged laidOver at h
  cases hread : decode? live.kind (Json.merge (liveBase live desired) desired.wanted) with
  | none =>
    rw [hread] at h
    cases h
    trivial
  | some laid =>
    rw [hread] at h
    change (laid.own i >>= _) = _ at h
    cases hown : laid.own i with
    | error e' =>
      rw [hown] at h
      cases h
      exact own_inner hown
    | ok o =>
      rw [hown] at h
      cases h

end ManagedObject

theorem Cluster.collect_elapsed (c : Cluster) (id : InstanceId) :
    (c.collect id).elapsed = c.elapsed := by
  rcases collect_cases c id with heq | ⟨i, -, -, -, heq⟩
  · rw [heq]
  · rw [heq]
    rfl

/-! ## Computations that are in time -/

/-- How a computation that began on `c` has ended tells what time it took: the timeout, if an object
under a key of `K` did not go, and none in all other cases. -/
def Cluster.Timely (policy : RetryPolicy) (K : Key → Prop) (c : Cluster) :
    EStateM.Result Error Cluster α → Prop
  | .ok _ c' => c'.elapsed = c.elapsed
  | .error e c' => e.Prompt ∧ c'.elapsed = c.elapsed ∨
      ∃ key, K key ∧ e = .deleteTimeout key policy.timeout ∧
        c'.elapsed.nanos = c.elapsed.nanos + policy.timeout.nanos

/-- Wherever it begins, the computation takes no time or ends when the time is up. -/
def Punctual (policy : RetryPolicy) (K : Key → Prop) (m : StoreM Cluster α) : Prop :=
  ∀ c : Cluster, c.Timely policy K (m c)

namespace Punctual

variable {m : StoreM Cluster α} {f : α → StoreM Cluster β}

theorem mono (hKL : ∀ k, K k → L k) (h : Punctual policy K m) : Punctual policy L m := by
  intro c
  have hc := h c
  cases hrun : m c with
  | ok a c' =>
    rw [hrun] at hc
    exact hc
  | error e c' =>
    rw [hrun] at hc
    exact hc.imp_right fun ⟨key, hkey, hends⟩ => ⟨key, hKL key hkey, hends⟩

theorem pure (a : α) : Punctual policy K (Pure.pure a) := fun _ => rfl

theorem throw (he : e.Prompt) : Punctual policy K (MonadExcept.throw e : StoreM Cluster α) :=
  fun _ => Or.inl ⟨he, rfl⟩

theorem ofExcept {r : Except Error α} (h : ∀ e, r = .error e → e.Prompt) :
    Punctual policy K (StoreM.ofExcept r) := by
  cases r with
  | ok a => exact pure a
  | error e => exact throw (h e rfl)

theorem ite {p : Prop} [Decidable p] {m n : StoreM Cluster α} (hm : Punctual policy K m)
    (hn : Punctual policy K n) : Punctual policy K (if p then m else n) := by
  split
  · exact hm
  · exact hn

/-- Only the last part of a sequence may take its time. -/
theorem bind (hm : Punctual policy K m) (hf : ∀ a, Punctual policy K (f a)) :
    Punctual policy K (m >>= f) := by
  intro c
  have hfirst := hm c
  cases hrun : m c with
  | ok a c₁ =>
    rw [hrun] at hfirst
    rw [bind_of_ok hrun]
    have hsame : c₁.elapsed = c.elapsed := hfirst
    have hrest := hf a c₁
    unfold Timely at *
    rwa [hsame] at hrest
  | error e c₁ =>
    rw [hrun] at hfirst
    rw [bind_of_error hrun]
    exact hfirst

/-! ### Calls take no time -/

theorem get (key : Key) :
    Punctual policy K (Store.get key : StoreM Cluster (Option ManagedObject)) := by
  intro c
  rw [get_run]
  cases hinjected : c.injected? .get key with
  | some e => exact Or.inl ⟨injected?_prompt hinjected, rfl⟩
  | none => rfl

theorem create (o : ManagedObject) :
    Punctual policy K (Store.create o : StoreM Cluster ManagedObject) := by
  intro c
  rw [create_run]
  cases hinjected : c.injected? .create o.key with
  | some e => exact Or.inl ⟨injected?_prompt hinjected, rfl⟩
  | none =>
    dsimp only
    split
    · exact Or.inl ⟨trivial, rfl⟩
    · rfl

theorem update (o : ManagedObject) :
    Punctual policy K (Store.update o : StoreM Cluster ManagedObject) := by
  intro c
  rw [update_run]
  cases hinjected : c.injected? .update o.key with
  | some e => exact Or.inl ⟨injected?_prompt hinjected, rfl⟩
  | none =>
    cases Table.get? c.objects o.key with
    | none => exact Or.inl ⟨trivial, rfl⟩
    | some old =>
      dsimp only
      split
      · exact Or.inl ⟨trivial, rfl⟩
      · rfl

theorem publish (i : Instance) (event : Event) :
    Punctual policy K (Store.publish i event : StoreM Cluster Unit).bestEffort := fun _ => rfl

theorem keyExists (key : Key) : Punctual policy K (keyExists key : StoreM Cluster Bool) :=
  (get key).bind fun _ => pure _

theorem remaining (keys : List Key) :
    Punctual policy K (remaining keys : StoreM Cluster (List Key)) := by
  induction keys with
  | nil => exact pure _
  | cons key keys ih => exact (keyExists key).bind fun _ => ih.bind fun _ => pure _

/-- To apply a resource never waits. -/
theorem apply (p : Pass) (r : Resource) :
    Punctual policy K (p.apply r : StoreM Cluster Applied) := by
  have hnotify (action : String) (a : Applied) : Punctual policy K
      (notify p.subject action (p.keyOf r) >>= fun _ => Pure.pure a : StoreM Cluster Applied) :=
    (publish _ _).bind fun _ => pure _
  unfold Pass.apply
  refine (ofExcept fun _ h => (Registry.render_inner h).prompt).bind fun desired =>
    (get _).bind fun found => ?_
  cases found with
  | none =>
    refine (ofExcept fun _ h => (ManagedObject.own_inner h).prompt).bind fun o => ?_
    exact (create o).bind fun _ => hnotify _ _
  | some live =>
    refine (ofExcept fun _ h => (ManagedObject.converged_inner h).prompt).bind fun o =>
      ite (pure _) ?_
    exact (update o).bind fun _ => hnotify _ _

/-! ### Deletions may -/

theorem deleteWithRetry (policy : RetryPolicy) (key : Key) :
    Punctual policy (· = key) (deleteWithRetry policy key : StoreM Cluster Unit) := by
  intro c
  have hends := deleteWithRetry_ends policy key c
  cases hrun : (NodeFeatureOperator.deleteWithRetry policy key : StoreM Cluster Unit) c with
  | ok _ c' =>
    rw [hrun] at hends
    cases hends with
    | done looked deletes elapsed => exact elapsed
  | error e c' =>
    rw [hrun] at hends
    cases hends with
    | failed prompt objects deletes elapsed => exact Or.inl ⟨prompt, elapsed⟩
    | expired objects deletes elapsed => exact Or.inr ⟨key, rfl, rfl, elapsed⟩

theorem deleteAll (policy : RetryPolicy) (keys : List Key) :
    Punctual policy (· ∈ keys) (deleteAll policy keys : StoreM Cluster Unit) := by
  induction keys with
  | nil => exact pure _
  | cons key keys ih =>
    refine ((deleteWithRetry policy key).mono ?_).bind fun _ =>
      ih.mono fun _ => List.mem_cons_of_mem _
    rintro k rfl
    exact List.mem_cons_self

theorem applyAll (p : Pass) (rs : List Resource) :
    Punctual policy K (p.applyAll rs : StoreM Cluster Unit) := by
  induction rs with
  | nil => exact pure _
  | cons r rs ih => exact (apply p r).bind fun _ => ih

end Punctual

/-! ## Teardowns -/

namespace Pass

variable {p : Pass}

theorem pruneStep_punctual (p : Pass) (job : ManagedObject) :
    Punctual p.settings.deleteRetry (· ∈ p.pruneKeys)
      (p.pruneStep job : StoreM Cluster PruneState) := by
  have hannounce (failed : Int) : Punctual p.settings.deleteRetry (· ∈ p.pruneKeys)
      (p.announcePruneFailure failed : StoreM Cluster Unit) :=
    .ite (.publish _ _) (.pure _)
  rw [pruneStep_eq]
  refine .ite (.throw trivial) (.ite ?_ (.ite ?_ (.pure _)))
  · exact (Punctual.deleteAll _ _).bind fun _ => .pure _
  · exact (hannounce _).bind fun _ => .throw trivial

theorem prune_punctual (p : Pass) :
    Punctual p.settings.deleteRetry (· ∈ p.pruneKeys)
      (p.prune : StoreM Cluster PruneState) := by
  refine .ite (.pure _) ((Punctual.get _).bind fun found => ?_)
  cases found with
  | none => exact (Punctual.applyAll p _).bind fun _ => .pure _
  | some job => exact p.pruneStep_punctual job

theorem release_punctual {policy : RetryPolicy} (p : Pass) :
    Punctual policy K (p.release : StoreM Cluster Action) := by
  intro c
  rw [release_run]
  by_cases hfinalizer : p.subject.hasFinalizer = true
  · simp only [hfinalizer, if_true]
    cases Table.get? c.instances p.subject.id with
    | none => rfl
    | some old =>
      dsimp only
      split
      · rfl
      · exact collect_elapsed ..
  · simp only [hfinalizer]
    rfl

/-- The steps of a teardown behind the deletions. -/
def conclude (p : Pass) : StoreM Cluster Action := do
  match ← p.prune with
  | .inProgress => return .requeue p.settings.pruneRequeue
  | .done => p.release

theorem finalize_run (p : Pass) (c : Cluster) :
    p.finalize c = (do
      deleteAll p.settings.deleteRetry (p.plan c)
      let left ← remaining (p.plan c)
      if !left.isEmpty then return .requeue p.settings.finalizeRequeue
      p.conclude : StoreM Cluster Action) (c.record .listing) := rfl

theorem plan_nodup (p : Pass) (c : Cluster) : (p.plan c).Nodup := by
  have hplanned : ∀ shared manage, (planned shared manage).Nodup := by decide
  unfold plan
  rw [deletionPlan_eq]
  exact (hplanned _ _).map fun _ _ => Resource.eq_of_key_eq

/-- All deletions of a teardown have succeeded. They have called for the deletion of what was stored
of the plan, in its order, and nothing of it is left. -/
structure Emptied (p : Pass) (c c' : Cluster) : Prop where
  deleted : ∃ c₁, deleteAll p.settings.deleteRetry (p.plan c) (c.record .listing) = .ok () c₁ ∧
    c₁.Called c'
  gone : ∀ k ∈ p.plan c, Table.get? c'.objects k = none
  kept : ∀ k, k ∉ p.plan c → Table.get? c'.objects k = Table.get? c.objects k
  deletes : c.Deletes ((p.plan c).filter fun k => (Table.get? c.objects k).isSome) c'
  elapsed : c'.elapsed = c.elapsed

/-- A teardown has stopped at the key `k` of its plan, whose deletion has raised an error. What is
in front of `k` is gone, and everything else is as it was. -/
structure Stuck (p : Pass) (c c' : Cluster) (before : List Key) (k : Key) (after : List Key)
    (e : Error) : Prop where
  plan : p.plan c = before ++ k :: after
  raised : ∃ c₁, deleteAll p.settings.deleteRetry before (c.record .listing) = .ok () c₁ ∧
    deleteWithRetry p.settings.deleteRetry k c₁ = .error e c'
  gone : ∀ key ∈ before, Table.get? c'.objects key = none
  kept : ∀ key, key ∉ before → Table.get? c'.objects key = Table.get? c.objects key
  deletes : ∃ n, c.Deletes
    ((before.filter fun k => (Table.get? c.objects k).isSome) ++ List.replicate n k) c'

theorem finalize_of_deleted {c₁ : Cluster}
    (h : deleteAll p.settings.deleteRetry (p.plan c) (c.record .listing) = .ok () c₁) :
    ∃ c', p.Emptied c c' ∧ p.finalize c = p.conclude c' := by
  obtain ⟨hdeletes, hlook, helapsed⟩ := deleteAll_deletes (p.plan_nodup c) h
  have hremoved := (deleteAll_removed _ _).of_ok h
  have hgone := deleteAll_ok h
  have hlook₁ : ∀ k ∈ p.plan c, c₁.injected? .get k = none := fun k hk =>
    (injected?_congr hremoved.failures ..).trans (hlook k hk)
  obtain ⟨c', hleft, hcalled, hscan⟩ := remaining_of_absent hlook₁ hgone
  refine ⟨c', ⟨⟨c₁, h, hcalled⟩, ?_, ?_, ?_, ?_⟩, ?_⟩
  · obtain ⟨calls, rfl⟩ := hcalled
    exact hgone
  · obtain ⟨calls, rfl⟩ := hcalled
    exact hremoved.objects
  · have hall := (deletes_of_calls (c := c) [.listing] rfl).trans (hdeletes.trans hscan)
    rwa [List.append_nil] at hall
  · obtain ⟨calls, rfl⟩ := hcalled
    exact helapsed
  · rw [finalize_run]
    exact (bind_of_ok h).trans (bind_of_ok hleft)

theorem finalize_of_refused {e : Error} {c' : Cluster}
    (h : deleteAll p.settings.deleteRetry (p.plan c) (c.record .listing) = .error e c') :
    (∃ before k after, p.Stuck c c' before k after e) ∧ p.finalize c = .error e c' := by
  refine ⟨?_, (p.finalize_run c).trans (bind_of_error h)⟩
  obtain ⟨before, k, after, c₁, hplan, hbefore, hraised, hgone, hothers⟩ := deleteAll_error h
  have hnodup := p.plan_nodup c
  rw [hplan] at hnodup
  obtain ⟨hdeletes, -, -⟩ := deleteAll_deletes (List.nodup_append.1 hnodup).1 hbefore
  obtain ⟨-, n, hlast⟩ := deleteWithRetry_failed hraised
  exact ⟨before, k, after, hplan, ⟨c₁, hbefore, hraised⟩, hgone, hothers, n,
    (deletes_of_calls (c := c) [.listing] rfl).trans (hdeletes.trans hlast)⟩

theorem finalize_punctual (p : Pass) (c : Cluster) :
    c.Timely p.settings.deleteRetry (fun k => k ∈ p.plan c ∨ k ∈ p.pruneKeys)
      (p.finalize c : EStateM.Result Error Cluster Action) := by
  have hconclude : Punctual p.settings.deleteRetry (fun k => k ∈ p.plan c ∨ k ∈ p.pruneKeys)
      p.conclude := by
    refine (p.prune_punctual.mono fun _ => Or.inr).bind fun state => ?_
    cases state with
    | inProgress => exact .pure _
    | done => exact p.release_punctual
  have hdelete := (Punctual.deleteAll p.settings.deleteRetry (p.plan c)).mono
    (L := fun k => k ∈ p.plan c ∨ k ∈ p.pruneKeys) fun _ => Or.inl
  exact hdelete.bind (fun _ => (Punctual.remaining _).bind fun _ => .ite (.pure _) hconclude)
    (c.record .listing)

/-- A teardown deletes in the order of its plan, which names nothing twice. Either all deletions
succeed, and it goes on to the prune job and the finalizer; or one of them raises an error, and the
teardown ends there. All in all it takes no time, unless an object of the plan or of the prune job
did not go; then it takes exactly the timeout. -/
theorem finalize_deletes (p : Pass) (c : Cluster) :
    (p.plan c).Nodup ∧
      ((∃ c', p.Emptied c c' ∧ p.finalize c = p.conclude c') ∨
        ∃ c' before k after e, p.Stuck c c' before k after e ∧ p.finalize c = .error e c') ∧
      c.Timely p.settings.deleteRetry (fun k => k ∈ p.plan c ∨ k ∈ p.pruneKeys)
        (p.finalize c : EStateM.Result Error Cluster Action) := by
  refine ⟨p.plan_nodup c, ?_, p.finalize_punctual c⟩
  cases h : (deleteAll p.settings.deleteRetry (p.plan c) : StoreM Cluster Unit)
      (c.record .listing) with
  | ok _ c₁ => exact Or.inl (finalize_of_deleted h)
  | error e c' =>
    obtain ⟨⟨before, k, after, hstuck⟩, hrun⟩ := finalize_of_refused h
    exact Or.inr ⟨c', before, k, after, e, hstuck, hrun⟩

/-- A daemon set that survives its deletion takes the whole timeout, in as many calls as fit. -/
example :
    let p : Pass := .ofInstance {} .own (.bare ⟨"nfd", "nfd"⟩)
    let key := Key.namespaced .daemonSet "nfd" "nfd-worker"
    let c : Cluster := { objects := [(key, default)], sticky := [key] }
    let stuck := (p.finalize : StoreM Cluster Action).after c
    stuck.elapsed = .ofSeconds 30 ∧ stuck.objectCalls .delete = List.replicate 7 key := by
  decide +kernel

end Pass

end NodeFeatureOperator
