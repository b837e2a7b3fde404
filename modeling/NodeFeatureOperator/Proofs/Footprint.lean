import NodeFeatureOperator.Proofs.Operator

/-!
# The footprint of a pass

Which calls a pass makes on objects, and which objects it can change. The calls are read off the
record that the cluster keeps: a computation keeps to `Cluster.Logs V` when every call on an object
that it adds to the record has a verb and a key that `V` allows. What a pass can change follows from
the frames of its parts; the only objects outside the footprint of an instance that a pass can touch
are those that go with the instance itself (`Context.reconcile_footprint`).
-/

namespace NodeFeatureOperator

open Cluster StoreM

namespace Cluster

variable {V : Verb → Key → Prop} {c c' : Cluster}

/-- All calls on objects that were made in between have verbs and keys that `V` allows. -/
def Logs (V : Verb → Key → Prop) (c c' : Cluster) : Prop :=
  ∃ calls, c'.calls = c.calls ++ calls ∧ ∀ verb key, .object verb key ∈ calls → V verb key

/-- No object went. -/
def Grows (c c' : Cluster) : Prop :=
  ∀ k, (Table.get? c.objects k).isSome → (Table.get? c'.objects k).isSome

theorem Logs.of_calls_eq (h : c'.calls = c.calls) : Logs V c c' :=
  ⟨[], by rw [h, List.append_nil], by simp⟩

theorem Logs.mono {W : Verb → Key → Prop} (hVW : ∀ verb key, V verb key → W verb key)
    (h : Logs V c c') : Logs W c c' := by
  obtain ⟨calls, hcalls, hV⟩ := h
  exact ⟨calls, hcalls, fun verb key hmem => hVW verb key (hV verb key hmem)⟩

instance : IsPreorder Cluster (Logs V) where
  refl _ := .of_calls_eq rfl
  trans := by
    rintro c c' c'' ⟨calls, hcalls, hV⟩ ⟨more, hmore, hV'⟩
    refine ⟨calls ++ more, by rw [hmore, hcalls, List.append_assoc], fun verb key hmem => ?_⟩
    rcases List.mem_append.1 hmem with hmem | hmem
    · exact hV verb key hmem
    · exact hV' verb key hmem

instance : IsPreorder Cluster Grows where
  refl _ _ := id
  trans _ _ _ h h' k hk := h' k (h k hk)

theorem Grows.of_objects_eq (h : c'.objects = c.objects) : Grows c c' := by
  intro k hk
  rwa [h]

theorem grows_put (c : Cluster) (o : ManagedObject) : Grows c (c.put o) := by
  intro k hk
  unfold put
  rw [Table.get?_insert]
  split
  · rfl
  · exact hk

/-! ## What the calls leave on record -/

/-- A call on an object puts itself on record and does nothing else to it. -/
theorem logs_record {verb : Verb} {key : Key} (h : V verb key)
    (hcalls : c'.calls = (c.record (.object verb key)).calls) : Logs V c c' := by
  refine ⟨[.object verb key], hcalls, fun verb' key' hmem => ?_⟩
  obtain ⟨rfl, rfl⟩ := Call.object.inj (List.mem_singleton.1 hmem)
  exact h

/-- Calls on instances are no calls on objects. -/
theorem logs_record_instance (call : Call) (h : ∀ verb key, call ≠ .object verb key)
    (hcalls : c'.calls = (c.record call).calls) : Logs V c c' :=
  ⟨[call], hcalls, fun verb key hmem => absurd (List.mem_singleton.1 hmem).symm (h verb key)⟩

theorem get_logs {key : Key} (h : V .get key) :
    Keeps (Logs V) (Store.get key : StoreM Cluster (Option ManagedObject)) := by
  intro c
  exact logs_record h (by rw [get_after])

theorem create_logs {o : ManagedObject} (h : V .create o.key) :
    Keeps (Logs V) (Store.create o : StoreM Cluster ManagedObject) := by
  intro c
  rcases create_after o c with hafter | ⟨uid, hafter⟩
  · exact logs_record h (by rw [hafter])
  · exact logs_record h (by rw [hafter]; rfl)

theorem update_logs {o : ManagedObject} (h : V .update o.key) :
    Keeps (Logs V) (Store.update o : StoreM Cluster ManagedObject) := by
  intro c
  rcases update_after o c with hafter | ⟨uid, hafter⟩
  · exact logs_record h (by rw [hafter])
  · exact logs_record h (by rw [hafter]; rfl)

theorem delete_logs {key : Key} (h : V .delete key) :
    Keeps (Logs V) (Store.delete key : StoreM Cluster Unit) := by
  intro c
  rcases delete_after key c with hafter | hafter
  · exact logs_record h (by rw [hafter])
  · exact logs_record h (by rw [hafter])

theorem publish_logs (i : Instance) (e : Event) :
    Keeps (Logs V) (Store.publish i e : StoreM Cluster Unit) :=
  fun _ => logs_record_instance (.one .event i.id) (by simp) rfl

theorem pause_logs (d : Duration) : Keeps (Logs V) (Store.pause d : StoreM Cluster Unit) :=
  fun _ => .of_calls_eq rfl

theorem collect_calls (c : Cluster) (id : InstanceId) : (c.collect id).calls = c.calls := by
  rcases collect_cases c id with heq | ⟨i, -, -, -, heq⟩
  · rw [heq]
  · rw [heq]
    rfl

theorem updateInstance_logs (i : Instance) :
    Keeps (Logs V) (Store.updateInstance i : StoreM Cluster Instance) := by
  intro c
  refine logs_record_instance (.one .update i.id) (by simp) ?_
  unfold StoreM.after
  rw [updateInstance_run]
  cases Table.get? c.instances i.id with
  | none => rfl
  | some old =>
    by_cases hstale : isStale i.metadata old.metadata = true
    · simp only [hstale, if_true]
      rfl
    · simp only [hstale]
      exact collect_calls ..

theorem updateStatus_logs (i : Instance) :
    Keeps (Logs V) (Store.updateStatus i : StoreM Cluster Instance) := by
  intro c
  refine logs_record_instance (.one .status i.id) (by simp) ?_
  unfold StoreM.after
  rw [updateStatus_run]
  cases Table.get? c.instances i.id with
  | none => rfl
  | some old =>
    by_cases hstale : isStale i.metadata old.metadata = true
    · simp only [hstale, if_true]
      rfl
    · simp only [hstale]
      rfl

/-! ## Calls that let no object go -/

theorem get_grows (key : Key) :
    Keeps Grows (Store.get key : StoreM Cluster (Option ManagedObject)) := by
  intro c
  rw [get_after]
  exact .of_objects_eq rfl

theorem create_grows (o : ManagedObject) :
    Keeps Grows (Store.create o : StoreM Cluster ManagedObject) := by
  intro c
  rcases create_after o c with hafter | ⟨uid, hafter⟩
  · exact .of_objects_eq (by rw [hafter]; rfl)
  · rw [hafter]
    exact grows_put _ _

theorem update_grows (o : ManagedObject) :
    Keeps Grows (Store.update o : StoreM Cluster ManagedObject) := by
  intro c
  rcases update_after o c with hafter | ⟨uid, hafter⟩
  · exact .of_objects_eq (by rw [hafter]; rfl)
  · rw [hafter]
    exact grows_put _ _

theorem publish_grows (i : Instance) (e : Event) :
    Keeps Grows (Store.publish i e : StoreM Cluster Unit) :=
  fun _ => .of_objects_eq rfl

theorem updateStatus_grows (i : Instance) :
    Keeps Grows (Store.updateStatus i : StoreM Cluster Instance) := by
  intro c k hk
  rwa [(updateStatus_serves (K := fun _ => False) i c).objects k id]

end Cluster

variable {V : Verb → Key → Prop} {c c' : Cluster} {i : Instance}

/-! ## Passes over an instance that is to stay -/

section Live

variable {R : Cluster → Cluster → Prop} [IsPreorder Cluster R]

theorem readClock_keeps : Keeps R (readClock : StoreM Cluster Moment) := fun c => refl_of R c

theorem writeConditions_keeps
    (hstatus : ∀ j, j.id = i.id → Keeps R (Store.updateStatus j : StoreM Cluster Instance))
    (conditions : List Condition) :
    Keeps R (writeConditions i conditions : StoreM Cluster Bool) :=
  Keeps.ite (Keeps.pure _) ((hstatus (i.withReport conditions) rfl).bind fun _ => Keeps.pure _)

namespace Pass

variable {p : Pass}

theorem inspect_keeps {rs : List Resource}
    (hget : ∀ r ∈ rs, Keeps R (Store.get (p.keyOf r) : StoreM Cluster (Option ManagedObject))) :
    Keeps R (p.inspect rs : StoreM Cluster (List Health)) := by
  induction rs with
  | nil => exact Keeps.pure _
  | cons r rs ih =>
    obtain ⟨hr, hrs⟩ := List.forall_mem_cons.1 hget
    exact hr.bind fun o => (Keeps.ofExcept _).bind fun h => (ih hrs).bind fun _ => Keeps.pure _

theorem reportError_keeps
    (hstatus : ∀ j, j.id = p.subject.id →
      Keeps R (Store.updateStatus j : StoreM Cluster Instance)) (reason : String)
    (e : Error) : Keeps R (p.reportError reason e : StoreM Cluster Unit) :=
  Keeps.ite (readClock_keeps.bind fun _ =>
    (writeConditions_keeps hstatus _).attempt.bind fun _ => Keeps.pure _) (Keeps.pure _)

/-- The report on a deployment keeps to what its look-ups and writing a status keep to. -/
theorem runStatus_keeps
    (hget : ∀ r ∈ p.deployed,
      Keeps R (Store.get (p.keyOf r) : StoreM Cluster (Option ManagedObject)))
    (hstatus : ∀ j, j.id = p.subject.id →
      Keeps R (Store.updateStatus j : StoreM Cluster Instance)) :
    Keeps R (p.runComponent .status : StoreM Cluster Unit) :=
  ((inspect_keeps hget).bind fun _ => readClock_keeps.bind fun _ =>
    writeConditions_keeps hstatus _).bind fun _ => Keeps.pure _

/-- Where every object is under its own key, a run of components keeps to what its calls keep to. -/
theorem runComponents_keeps_of_keyed (h : p.templates.Sound)
    (happly : ∀ r ∈ p.deployed, ∀ c : Cluster, c.Keyed →
      R c ((p.apply r : StoreM Cluster Applied).after c))
    (hget : ∀ r ∈ p.deployed,
      Keeps R (Store.get (p.keyOf r) : StoreM Cluster (Option ManagedObject)))
    (hstatus : ∀ j, j.id = p.subject.id →
      Keeps R (Store.updateStatus j : StoreM Cluster Instance))
    {components : List Component} (hcomponents : ∀ d ∈ components, d ∈ p.components)
    (hkeyed : c.Keyed) :
    R c ((p.runComponents components : StoreM Cluster Unit).after c) := by
  induction components generalizing c with
  | nil => exact refl_of R c
  | cons d components ih =>
    have hd := hcomponents d List.mem_cons_self
    have hmanaged : R c ((p.applyAll (p.managed d) : StoreM Cluster Unit).after c) :=
      applyAll_keeps (fun r hr => happly r (List.mem_flatMap.2 ⟨d, hd, hr⟩)) hkeyed
    have hcomponent : R c ((p.runComponent d : StoreM Cluster Unit).after c) := by
      cases d with
      | status => exact runStatus_keeps hget hstatus c
      | _ => exact hmanaged
    have hkept := runComponent_attends h hd c hkeyed
    cases hrun : (p.runComponent d : StoreM Cluster Unit) c with
    | ok _ c' =>
      rw [after_ok hrun] at hcomponent hkept
      rw [after_congr (runComponents_of_ok hrun)]
      exact trans_of R hcomponent
        (ih (fun d' hd' => hcomponents d' (List.mem_cons_of_mem _ hd')) (hkept.keyed hkeyed))
    | error e c' =>
      rw [after_error hrun] at hcomponent
      rw [after_congr (runComponents_of_error hrun)]
      exact trans_of R hcomponent
        ((reportError_keeps hstatus _ _).bind (fun _ => Keeps.throw _) c')

end Pass

end Live

/-- To apply a resource is to call about its key, but not to delete anything there. -/
theorem Pass.apply_logs {p : Pass} {r : Resource} (h : p.templates.Sound)
    (hV : ∀ verb ≠ .delete, V verb (p.keyOf r)) (hkeyed : c.Keyed) :
    Logs V c ((p.apply r : StoreM Cluster Applied).after c) := by
  refine Pass.apply_keeps h (get_logs (hV _ (by simp))) (fun o ho => create_logs ?_)
    (fun o ho => update_logs ?_) (publish_logs _) hkeyed
  · rw [ho]
    exact hV _ (by simp)
  · rw [ho]
    exact hV _ (by simp)

theorem Pass.apply_grows {p : Pass} (h : p.templates.Sound) (r : Resource) (hkeyed : c.Keyed) :
    Grows c ((p.apply r : StoreM Cluster Applied).after c) :=
  Pass.apply_keeps h (get_grows _) (fun o _ => create_grows o) (fun o _ => update_grows o)
    (publish_grows _) hkeyed

namespace Context

variable {ctx : Context}

/-- A pass over an instance that is to stay asks for objects of its deployment only, and never for
the deletion of one. -/
theorem livePass_logs (h : ctx.templates.Sound) (hkeyed : c.Keyed) (i : Instance) :
    Logs (fun verb k => verb ≠ .delete ∧ (ctx.pass i).Deploys k) c
      ((ctx.livePass i : StoreM Cluster Action).after c) := by
  unfold livePass
  split
  · refine rel_after_bind (Pass.runComponents_keeps_of_keyed (p := ctx.pass i) h
      (fun r hr c hkeyed => ?_) (fun r hr => ?_) (fun j _ => updateStatus_logs j) (fun _ => id)
      hkeyed) fun _ c' _ => Keeps.pure _ c'
    · exact Pass.apply_logs h (fun verb hverb => ⟨hverb, r, hr, rfl⟩) hkeyed
    · exact get_logs ⟨by simp, r, hr, rfl⟩
  · exact (updateInstance_logs _).bind (fun _ => Keeps.pure _) c

/-- A pass over an instance that is to stay lets no object go. -/
theorem livePass_grows (h : ctx.templates.Sound) (hkeyed : c.Keyed)
    (hi : Table.get? c.instances i.id = some i) (hlive : i.isDeleting = false) :
    Grows c ((ctx.livePass i : StoreM Cluster Action).after c) := by
  cases hfinalizer : i.hasFinalizer with
  | true =>
    rw [livePass_of_held hfinalizer]
    exact rel_after_bind (Pass.runComponents_keeps_of_keyed (p := ctx.pass i) h
      (fun r _ c hkeyed => Pass.apply_grows h r hkeyed) (fun r _ => get_grows _)
      (fun j _ => updateStatus_grows j) (fun _ => id) hkeyed) fun _ c' _ => Keeps.pure _ c'
  | false =>
    obtain ⟨c₁, hcalled, hrun⟩ := ctx.livePass_claims hi hlive hfinalizer
    rw [after_ok hrun]
    intro k hk
    rwa [show Table.get? (c₁.putInstance i.id (c₁.adopt i i.addFinalizer)).objects k = _ from
      hcalled.objects k id]

end Context

/-! ## Passes over an instance that is to go -/

theorem keyExists_logs {key : Key} (h : V .get key) :
    Keeps (Logs V) (keyExists key : StoreM Cluster Bool) :=
  (get_logs h).bind fun _ => Keeps.pure _

theorem deleteOnce_logs {key : Key} (h : V .get key ∧ V .delete key) :
    Keeps (Logs V) (deleteOnce key : StoreM Cluster Unit) := by
  refine (keyExists_logs h.1).bind fun present => Keeps.ite ?_ (Keeps.pure _)
  exact (delete_logs h.2).attempt.bind fun _ => Keeps.ofExcept _

theorem deleteTries_logs {key : Key} (h : V .get key ∧ V .delete key) (policy : RetryPolicy)
    (n : Nat) : Keeps (Logs V) (deleteTries policy key n : StoreM Cluster Unit) := by
  induction n with
  | zero => exact (pause_logs _).bind fun _ => Keeps.throw _
  | succ n ih =>
    refine (deleteOnce_logs h).bind fun _ => (keyExists_logs h.1).bind fun present => ?_
    exact Keeps.ite (Keeps.ite ((pause_logs _).bind fun _ => ih) ih) (Keeps.pure _)

theorem deleteAll_logs {keys : List Key} (h : ∀ k ∈ keys, V .get k ∧ V .delete k)
    (policy : RetryPolicy) : Keeps (Logs V) (deleteAll policy keys : StoreM Cluster Unit) := by
  induction keys with
  | nil => exact Keeps.pure _
  | cons key keys ih =>
    obtain ⟨hkey, hkeys⟩ := List.forall_mem_cons.1 h
    exact (deleteTries_logs hkey policy _).bind fun _ => ih hkeys

theorem remaining_logs {keys : List Key} (h : ∀ k ∈ keys, V .get k) :
    Keeps (Logs V) (remaining keys : StoreM Cluster (List Key)) := by
  induction keys with
  | nil => exact Keeps.pure _
  | cons key keys ih =>
    obtain ⟨hkey, hkeys⟩ := List.forall_mem_cons.1 h
    exact (keyExists_logs hkey).bind fun _ => (ih hkeys).bind fun _ => Keeps.pure _

namespace Pass

variable {p : Pass}

theorem pruneStep_logs (h : ∀ k ∈ p.pruneKeys, V .get k ∧ V .delete k) (job : ManagedObject) :
    Keeps (Logs V) (p.pruneStep job : StoreM Cluster PruneState) := by
  have hannounce (failed : Int) :
      Keeps (Logs V) (p.announcePruneFailure failed : StoreM Cluster Unit) :=
    Keeps.ite (publish_logs _ _).bestEffort (Keeps.pure _)
  rw [pruneStep_eq]
  refine Keeps.ite (Keeps.throw _) (Keeps.ite ?_ (Keeps.ite ?_ (Keeps.pure _)))
  · exact (deleteAll_logs h _).bind fun _ => Keeps.pure _
  · exact (hannounce _).bind fun _ => Keeps.throw _

theorem prune_logs (hsound : p.templates.Sound) (h : ∀ k ∈ p.pruneKeys, ∀ verb, V verb k)
    (hkeyed : c.Keyed) : Logs V c ((p.prune : StoreM Cluster PruneState).after c) := by
  have hresource : ∀ r ∈ pruneResources, ∀ verb, V verb (p.keyOf r) := fun r hr =>
    h _ (mem_pruneKeys.2 (List.mem_map_of_mem hr))
  unfold prune
  split
  · exact Keeps.pure _ c
  · refine rel_after_bind (get_logs (hresource pruneJob (by decide) _) c) fun found c' hget => ?_
    have hread : Removed (fun _ => False) c c' := (get_removed _).of_ok hget
    cases found with
    | none =>
      refine rel_after_bind (applyAll_keeps (fun r hr c hkeyed => ?_) (hread.keyed hkeyed))
        fun _ c'' _ => Keeps.pure _ c''
      refine apply_keeps hsound (get_logs (hresource r hr _)) (fun o ho => create_logs ?_)
        (fun o ho => update_logs ?_) (publish_logs _) hkeyed
      · rw [ho]
        exact hresource r hr _
      · rw [ho]
        exact hresource r hr _
    | some job => exact pruneStep_logs (fun k hk => ⟨h k hk _, h k hk _⟩) job c'

theorem clear_logs (hsound : p.templates.Sound)
    (hplan : ∀ k ∈ deletionPlan p.subject false p.settings.manageSecurityPolicies, ∀ verb, V verb k)
    (hprune : ∀ k ∈ p.pruneKeys, ∀ verb, V verb k) (hkeyed : c.Keyed) :
    Logs V c (p.clear.after c) := by
  have hkeys : ∀ k ∈ p.plan c, ∀ verb, V verb k := fun k hk =>
    hplan k (mem_deletionPlan_of_shared hk)
  rw [after_congr (clear_run p c)]
  refine trans_of _ (logs_record_instance .listing (by simp) rfl) ?_
  refine rel_after_bind (deleteAll_logs (fun k hk => ⟨hkeys k hk _, hkeys k hk _⟩) _ _)
    fun _ c₁ hdelete => ?_
  refine rel_after_bind (remaining_logs (fun k hk => hkeys k hk _) _) fun left c₂ hleft => ?_
  have hkeyed₂ : c₂.Keyed :=
    ((remaining_removed (K := fun _ => False) _).of_ok hleft).keyed
      (((deleteAll_removed _ _).of_ok hdelete).keyed hkeyed)
  split
  · exact Keeps.pure _ c₂
  · exact rel_after_bind (prune_logs hsound hprune hkeyed₂) fun _ c₃ _ => Keeps.pure _ c₃

theorem release_logs (p : Pass) : Keeps (Logs V) (p.release : StoreM Cluster Action) :=
  Keeps.ite ((updateInstance_logs _).attempt.bind fun _ => Keeps.pure _) (Keeps.pure _)

end Pass

namespace Context

variable {ctx : Context}

/-- What clearing the cluster and a report of its failure keep to, and what releasing the instance
keeps to, a visit keeps to. -/
theorem finalVisit_keeps {R : Cluster → Cluster → Prop} [IsPreorder Cluster R]
    (hclear : R c ((ctx.pass i).clear.after c))
    (hrelease : Keeps R ((ctx.pass i).release : StoreM Cluster Action))
    (hstatus : ∀ j, j.id = i.id → Keeps R (Store.updateStatus j : StoreM Cluster Instance)) :
    R c ((ctx.finalVisit i : StoreM Cluster Action).after c) := by
  have hfinalize : R c (((ctx.pass i).finalize : StoreM Cluster Action).after c) := by
    rw [Pass.finalize_eq]
    refine rel_after_bind hclear fun wait c' _ => ?_
    cases wait with
    | none => exact hrelease c'
    | some d => exact Keeps.pure _ c'
  cases hrun : ((ctx.pass i).finalize : StoreM Cluster Action) c with
  | ok a c' =>
    rw [after_ok hrun] at hfinalize
    rwa [after_ok (finalVisit_of_ok hrun)]
  | error e c' =>
    rw [after_error hrun] at hfinalize
    rw [after_congr (finalVisit_of_error hrun)]
    exact trans_of _ hfinalize
      ((Pass.reportError_keeps (p := ctx.pass i) hstatus _ _).bind (fun _ => Keeps.throw _) c')

/-- A pass over an instance that is to go asks for what is planned and what is pruned only. -/
theorem finalVisit_logs (h : ctx.templates.Sound)
    (hplan : ∀ k ∈ deletionPlan i false ctx.settings.manageSecurityPolicies, ∀ verb, V verb k)
    (hprune : ∀ k ∈ (ctx.pass i).pruneKeys, ∀ verb, V verb k) (hkeyed : c.Keyed) :
    Logs V c ((ctx.finalVisit i : StoreM Cluster Action).after c) :=
  finalVisit_keeps (Pass.clear_logs h hplan hprune hkeyed) (Pass.release_logs _)
    fun j _ => updateStatus_logs j

/-! ## What a pass can change -/

/-- What a pass over an instance that is to go does not clear stays, but for what the instance owns
if the instance goes. -/
theorem finalVisit_objects (h : ctx.templates.Sound) (hkeyed : c.Keyed)
    (hsorted : c.objects.Sorted) (hi : Table.get? c.instances i.id = some i) {k : Key}
    (hk : ¬ (ctx.pass i).Clears c k) :
    let c' := (ctx.finalVisit i : StoreM Cluster Action).after c
    Table.get? c'.objects k =
      if Table.contains c'.instances i.id then Table.get? c.objects k
      else (Table.get? c.objects k).filter fun o => !o.metadata.ownedBy i.metadata.uid := by
  intro c'
  have hstays {c₁ : Cluster} {j : Instance} (hj : Table.get? c₁.instances i.id = some j) :
      Table.contains c₁.instances i.id = true := by
    unfold Table.contains
    rw [hj]
    rfl
  rcases ctx.finalVisit_cases h i c with ⟨c₁, hcleared, hrun⟩ | ⟨hserves, -⟩
  · have hobjects := hcleared.removed.objects k hk
    have hi₁ : Table.get? c₁.instances i.id = some i := by rw [hcleared.removed.instances, hi]
    have hafter : c' = ((ctx.pass i).release : StoreM Cluster Action).after c₁ := after_congr hrun
    rw [hafter]
    rcases (ctx.pass i).release_cases c₁ with
      ⟨a, c₂, hrun, hcalled⟩ | ⟨old, c₂, hold, hcalled, hrun⟩
    · rw [after_ok hrun, hcalled.instances, if_pos (hstays hi₁), hcalled.objects k id, hobjects]
    · obtain rfl := Option.some.inj (hi₁.symm.trans hold)
      have hobjects₂ := (hcalled.objects k id).trans hobjects
      rw [after_ok hrun]
      -- The instance that was written is collected or not.
      rcases collect_cases (c₂.putInstance i.id (c₂.adopt i i.removeFinalizer)) i.id with
        heq | ⟨j, hj, -, -, heq⟩
      · rw [show (ctx.pass i).subject = i from rfl, heq,
          if_pos (hstays (Table.get?_insert_self ..))]
        exact hobjects₂
      · obtain rfl := Option.some.inj ((Table.get?_insert_self ..).symm.trans hj)
        have hgone : Table.contains ((c₂.putInstance i.id (c₂.adopt i i.removeFinalizer)).without
            i.id (c₂.adopt i i.removeFinalizer).metadata.uid).instances i.id = false :=
          Table.contains_eq_false_iff.2 ((Table.get?_erase ..).trans (if_pos rfl))
        have hsorted₂ : c₂.objects.Sorted :=
          hcalled.ordered (hcleared.removed.ordered hsorted)
        rw [show (ctx.pass i).subject = i from rfl, heq, hgone, adopt_uid, ← hobjects₂]
        exact hsorted₂.get?_filter_eq
  · obtain ⟨j, hj, -⟩ := (hserves hkeyed).instance_after hi
    rw [show Table.contains c'.instances i.id = true from hstays hj, if_pos rfl]
    exact (hserves hkeyed).objects k hk

end Context

/-- The keys that a pass over an instance can write to. -/
def Instance.Footprint (i : Instance) (k : Key) : Prop :=
  ∃ r ∈ Component.chain.flatMap Component.resources ++ pruneResources, r.key i = k

namespace Pass

variable {p : Pass}

theorem Deploys.footprint {k : Key} (h : p.Deploys k) : p.subject.Footprint k := by
  obtain ⟨r, hr, rfl⟩ := h
  obtain ⟨d, hd, hr⟩ := List.mem_flatMap.1 hr
  have hchain : d ∈ Component.chain := (List.mem_filter.1 hd).1
  have hresource : r ∈ d.resources := (List.mem_filter.1 hr).1
  exact ⟨r, List.mem_append_left _ (List.mem_flatMap.2 ⟨d, hchain, hresource⟩), rfl⟩

theorem Clears.footprint {k : Key} (h : p.Clears c k) : p.subject.Footprint k := by
  have hplanned : ∀ shared manage, ∀ r ∈ planned shared manage,
      r ∈ Component.chain.flatMap Component.resources := by decide
  rcases h with hplan | ⟨-, hprune⟩
  · obtain ⟨r, hr, rfl⟩ := mem_deletionPlan.1 hplan
    exact ⟨r, List.mem_append_left _ (hplanned _ _ r hr), rfl⟩
  · obtain ⟨r, hr, rfl⟩ := List.mem_map.1 (mem_pruneKeys.1 hprune)
    exact ⟨r, List.mem_append_right _ hr, rfl⟩

end Pass

/-- The footprint of an instance is in its own namespace or in none. -/
theorem Instance.Footprint.ns {k : Key} (h : i.Footprint k) : k.ns = none ∨ k.ns = some i.ns := by
  obtain ⟨r, -, rfl⟩ := h
  unfold Resource.key Key.forInstance
  split
  · exact Or.inl rfl
  · exact Or.inr rfl

namespace Context

variable {ctx : Context}

/-- What a pass may ask for: an instance that is to stay gets objects of its deployment, none of
them deleted, and a cluster that manages no security policies gets no call for one. -/
def Asks (ctx : Context) (i : Instance) (verb : Verb) (k : Key) : Prop :=
  (i.isDeleting = false → verb ≠ .delete ∧ (ctx.pass i).Deploys k) ∧
    (ctx.settings.manageSecurityPolicies = false → k.kind ≠ .securityContextConstraints)

theorem visit_logs (h : ctx.templates.Sound) (hkeyed : c.Keyed)
    (hi : Table.get? c.instances i.id = some i) :
    Logs (ctx.Asks i) c ((ctx.visit i.id : StoreM Cluster Action).after c) := by
  have hread : Logs (ctx.Asks i) c (c.record (.one .get i.id)) :=
    logs_record_instance (.one .get i.id) (by simp) rfl
  have hkinds : ∀ r ∈ planned false false ++ pruneResources,
      r.kind ≠ .securityContextConstraints := by decide
  cases hlive : i.isDeleting with
  | false =>
    rw [after_congr (ctx.visit_of_live hi hlive)]
    have hlogs := livePass_logs (c := c.record (.one .get i.id)) h hkeyed i
    refine trans_of _ hread (hlogs.mono fun verb k hasked => ?_)
    refine ⟨fun _ => hasked, fun hoff hkind => ?_⟩
    obtain ⟨-, r, hr, rfl⟩ := hasked
    obtain ⟨d, -, hr⟩ := List.mem_flatMap.1 hr
    have hmanaged : (ctx.pass i).manages r.kind = true := (List.mem_filter.1 hr).2
    rw [show r.kind = .securityContextConstraints from (r.key_kind i).symm.trans hkind] at hmanaged
    exact Bool.false_ne_true (hoff.symm.trans hmanaged)
  | true =>
    cases hfinalizer : i.hasFinalizer with
    | false => rwa [after_ok (ctx.visit_of_unheld hi hlive hfinalizer)]
    | true =>
      have hasks {verb : Verb} {k : Key} (hk : ctx.settings.manageSecurityPolicies = false →
          k.kind ≠ .securityContextConstraints) : ctx.Asks i verb k :=
        ⟨fun hstays => absurd (hlive.symm.trans hstays) (by simp), hk⟩
      rw [after_congr (ctx.visit_of_deleting hi hlive hfinalizer)]
      refine trans_of _ hread (finalVisit_logs h (fun k hk verb => hasks fun hoff => ?_)
        (fun k hk verb => hasks fun _ => ?_) hkeyed)
      · rw [hoff] at hk
        obtain ⟨r, hr, rfl⟩ := mem_deletionPlan.1 hk
        rw [r.key_kind]
        exact hkinds r (List.mem_append_left _ hr)
      · obtain ⟨r, hr, rfl⟩ := List.mem_map.1 (Pass.mem_pruneKeys.1 hk)
        rw [show ((ctx.pass i).keyOf r).kind = r.kind from r.key_kind i]
        exact hkinds r (List.mem_append_right _ hr)

/-- What a visit changes outside the footprint of the instance is what goes with the instance. -/
theorem visit_objects (h : ctx.templates.Sound) (hkeyed : c.Keyed) (hsorted : c.objects.Sorted)
    (hi : Table.get? c.instances i.id = some i) {k : Key} (hk : ¬ i.Footprint k) :
    let c' := (ctx.visit i.id : StoreM Cluster Action).after c
    Table.get? c'.objects k =
      if Table.contains c'.instances i.id then Table.get? c.objects k
      else (Table.get? c.objects k).filter fun o => !o.metadata.ownedBy i.metadata.uid := by
  intro c'
  have hcontains {c₁ : Cluster} {j : Instance} (hj : Table.get? c₁.instances i.id = some j) :
      Table.contains c₁.instances i.id = true := by
    unfold Table.contains
    rw [hj]
    rfl
  cases hlive : i.isDeleting with
  | false =>
    have hafter : c' = (ctx.livePass i : StoreM Cluster Action).after (c.record (.one .get i.id)) :=
      after_congr (ctx.visit_of_live hi hlive)
    rw [hafter]
    cases hfinalizer : i.hasFinalizer with
    | false =>
      obtain ⟨c₁, hcalled, hrun⟩ :=
        ctx.livePass_claims (c := c.record (.one .get i.id)) hi hlive hfinalizer
      rw [after_ok hrun, if_pos (hcontains (Table.get?_insert_self ..))]
      exact hcalled.objects k id
    | true =>
      have hserves := livePass_attends h hfinalizer (c.record (.one .get i.id)) hkeyed
      obtain ⟨j, hj, -⟩ := hserves.instance_after hi
      rw [if_pos (hcontains hj)]
      exact hserves.objects k fun hdeploys => hk hdeploys.footprint
  | true =>
    cases hfinalizer : i.hasFinalizer with
    | false =>
      have hafter : c' = c.record (.one .get i.id) :=
        after_ok (ctx.visit_of_unheld hi hlive hfinalizer)
      rw [hafter]
      exact (if_pos (hcontains hi)).symm
    | true =>
      have hafter : c' = (ctx.finalVisit i : StoreM Cluster Action).after _ :=
        after_congr (ctx.visit_of_deleting hi hlive hfinalizer)
      rw [hafter]
      exact finalVisit_objects (c := c.record (.one .get i.id)) h hkeyed hsorted hi fun hclears =>
        hk hclears.footprint

/-- The footprint of a pass over an instance, whatever the state of the instance and the outcome of
the pass. Outside the keys of what the instance deploys and prunes, and so in every other namespace,
all objects stay as they are and none appears; only if the instance goes in this pass, what it owns
goes too. A pass over an instance that is to stay lets no object go and asks only for objects of the
components that are switched on. Where security policies are not managed, no pass asks for any. -/
theorem reconcile_footprint (settings : Settings) (op : Operator Cluster) (i : Instance)
    (hkeyed : op.store.Keyed) (hsorted : op.store.objects.Sorted)
    (hi : ∀ j, Table.get? op.store.instances i.id = some j → j = i) :
    let ctx : Context := { settings }
    let p := ctx.pass i
    let op' := StoreM.after (σ := Operator Cluster) (ctx.reconcileInstance i.id) op
    let leaves := Table.contains op.store.instances i.id &&
      !Table.contains op'.store.instances i.id
    (∀ k, (¬ i.Footprint k ∨ ∃ ns, k.ns = some ns ∧ ns ≠ i.ns) →
      Table.get? op'.store.objects k =
        if leaves then
          (Table.get? op.store.objects k).filter fun o => !o.metadata.ownedBy i.metadata.uid
        else Table.get? op.store.objects k) ∧
    ∃ calls, op'.store.calls = op.store.calls ++ calls ∧
      (i.isDeleting = false →
        (∀ k, (Table.get? op.store.objects k).isSome → (Table.get? op'.store.objects k).isSome) ∧
        ∀ verb k, .object verb k ∈ calls →
          verb ≠ .delete ∧ ∃ d ∈ p.components, ∃ r ∈ p.managed d, r.key i = k) ∧
      (settings.manageSecurityPolicies = false →
        ∀ verb k, .object verb k ∈ calls → k.kind ≠ .securityContextConstraints) := by
  intro ctx p op' leaves
  have hsound : ctx.templates.Sound := Registry.own_sound
  have hstore : op'.store = (ctx.visit i.id : StoreM Cluster Action).after op.store :=
    (ctx.reconcileInstance_tracks (σ := Cluster) i.id).store_after op
  cases hfound : Table.get? op.store.instances i.id with
  | none =>
    have hread : op'.store = op.store.record (.one .get i.id) := by
      rw [hstore, after_ok (ctx.visit_of_missing hfound)]
    have hleaves : leaves = false := by
      have habsent : Table.contains op.store.instances i.id = false :=
        Table.contains_eq_false_iff.2 hfound
      simp only [leaves, habsent, Bool.false_and]
    refine ⟨fun k _ => ?_, [.one .get i.id], by rw [hread]; rfl, fun _ => ⟨fun k hk => ?_, ?_⟩, ?_⟩
    · rw [hleaves, hread]
      rfl
    · rwa [hread]
    · simp
    · simp
  | some j =>
    obtain rfl := hi j hfound
    have hpresent : Table.contains op.store.instances j.id = true := by
      unfold Table.contains
      rw [hfound]
      rfl
    obtain ⟨calls, hcalls, hasked⟩ := visit_logs hsound hkeyed hfound
    rw [← hstore] at hcalls
    refine ⟨fun k hk => ?_, calls, hcalls, fun hlive => ⟨?_, fun verb k hmem => ?_⟩,
      fun hoff verb k hmem => (hasked verb k hmem).2 hoff⟩
    · have houtside : ¬ j.Footprint k := by
        rcases hk with hk | ⟨ns, hns, hne⟩
        · exact hk
        · intro hk
          rcases hk.ns with hnone | hsome
          · rw [hns] at hnone
            cases hnone
          · exact hne (Option.some.inj (hns.symm.trans hsome))
      have hobjects := visit_objects hsound hkeyed hsorted hfound houtside
      rw [← hstore] at hobjects
      simp only [leaves, hpresent, Bool.true_and, Bool.not_eq_true']
      rw [hobjects]
      cases Table.contains op'.store.instances j.id <;> rfl
    · rw [hstore, after_congr (ctx.visit_of_live hfound hlive)]
      exact livePass_grows (c := op.store.record (.one .get j.id)) hsound hkeyed hfound hlive
    · obtain ⟨hverb, r, hr, hkey⟩ := (hasked verb k hmem).1 hlive
      obtain ⟨d, hd, hr⟩ := List.mem_flatMap.1 hr
      exact ⟨hverb, d, hd, r, hr, hkey⟩

/-- What somebody keeps in a namespace of their own is there after an instance has been set up. -/
theorem reconcile_footprint_of_stranger :
    let i := (Instance.bare ⟨"nfd", "nfd"⟩).addFinalizer
    let o : ManagedObject :=
      ⟨.configMap, Kind.configMap.names, { ns := some "other", name := some "settings" }, []⟩
    let ctx : Context := { settings := {} }
    let op : Operator Cluster :=
      { store := { objects := [(o.key, o)], instances := [(i.id, i)] } }
    let op' := StoreM.after (σ := Operator Cluster) (ctx.reconcileInstance i.id) op
    Table.get? op'.store.objects o.key = some o := by
  intro i o ctx op op'
  have hkeyed : op.store.Keyed := by
    unfold Keyed
    decide +kernel
  have hi : ∀ j, Table.get? op.store.instances i.id = some j → j = i := by
    intro j hj
    have hstored : Table.get? op.store.instances i.id = some i := by decide +kernel
    exact Option.some.inj (hj.symm.trans hstored)
  have hstays : Table.contains op'.store.instances i.id = true := by decide +kernel
  have hkept := (reconcile_footprint {} op i hkeyed (by decide +kernel) hi).1 o.key
    (Or.inr ⟨"other", rfl, by decide⟩)
  rw [show Table.contains (StoreM.after (σ := Operator Cluster)
    (Context.reconcileInstance { settings := {} } i.id) op).store.instances i.id = true from hstays,
    Bool.not_true, Bool.and_false] at hkept
  exact hkept.trans (by decide +kernel)

end Context

end NodeFeatureOperator
