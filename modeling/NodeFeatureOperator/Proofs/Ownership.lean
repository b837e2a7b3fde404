import NodeFeatureOperator.Proofs.Departure
import NodeFeatureOperator.Proofs.Footprint
import NodeFeatureOperator.Proofs.Overlay
import NodeFeatureOperator.Proofs.Sharing

/-!
# Objects under foreign control

An object of a namespace belongs to the instance that controls it. To bring it to its desired state
is refused to all others (`Pass.apply_refused`), so no pass over an instance that is to stay touches
what somebody else controls (`Context.livePass_spares`). A teardown goes by keys and does not look
at owners: what an instance has deployed under the same keys in the same namespace goes with the
instance that is torn down. `Context.reconcile_ownership` says what may become of an object under
foreign control in a pass, and `Context.reconcile_takes_foreign` shows one that is taken away.
-/

namespace NodeFeatureOperator

open Cluster StoreM

/-! ## Owners of what is laid over -/

/-- Metadata that were laid over others are read with the owners of those, if they name none. -/
theorem Metadata.owners_mergeFields {live wanted m : Metadata}
    (hm : decode? (.obj (Json.mergeFields live.toFields wanted.toFields)) = some m)
    (hwanted : wanted.ownerReferences = none) : m.ownerReferences = live.ownerReferences := by
  obtain ⟨-, -, -, hschema, -⟩ := get?_schema_revised
  obtain ⟨-, -, -, hlive, -⟩ := get?_toFields_revised live
  obtain ⟨-, -, -, hnone, -⟩ := get?_toFields_revised wanted
  rw [decode?_eq] at hm
  obtain ⟨normal, hnormal, hm⟩ := Option.bind_eq_some_iff.1 hm
  rw [Schema.objectMeta, Schema.normalize?] at hnormal
  obtain ⟨out, hout, rfl⟩ := Option.map_eq_some_iff.1 hnormal
  obtain ⟨_, hfields, rfl⟩ := Option.map_eq_some_iff.1 hm
  obtain rfl := Option.some.inj hfields
  have hmerged : Table.get? (Json.mergeFields live.toFields wanted.toFields) "ownerReferences"
      = live.ownerReferences.map fun refs => .arr (refs.map (·.toJson)) := by
    rw [Json.get?_mergeFields _ _ (toFields_names_nodup wanted), hnone, hwanted, hlive]
    rfl
  have hsorted : Table.Sorted Schema.objectMeta.fields :=
    Table.sorted_iff_ascending.2 (by decide +kernel)
  have hfield := Schema.get?_of_normalizeFields? hsorted hout "ownerReferences"
  rw [hschema, hmerged] at hfield
  -- References are written in normal form, so they are read as they were.
  have hself : Schema.field? .optional (.list Schema.ownerReference)
      (live.ownerReferences.map fun refs => .arr (refs.map (·.toJson)))
      = some (live.ownerReferences.map fun refs => .arr (refs.map (·.toJson))) := by
    rw [Schema.field?_eq_self_iff]
    cases live.ownerReferences with
    | none => rfl
    | some refs =>
      refine ⟨(Schema.normal_list.2 ⟨_, rfl, fun j hj => ?_⟩ : Schema.Normal _ _).fixed,
        fun hnull => by cases hnull⟩
      obtain ⟨r, -, rfl⟩ := List.mem_map.1 hj
      exact r.normal_toJson
  have hread : Table.get? out "ownerReferences"
      = live.ownerReferences.map fun refs => .arr (refs.map (·.toJson)) :=
    Option.some.inj (hfield.symm.trans hself)
  change Json.read? out "ownerReferences" _ = _
  rw [Json.read?, hread]
  exact Json.bind_map_of_reads OwnerReference.mapM_read?_toJson _

namespace ManagedObject

variable {o live wished laid : ManagedObject} {i : Instance}

theorem laidOver_owners (hsorted : wished.body.Sorted)
    (hwished : wished.metadata.ownerReferences = none) (h : live.laidOver wished = .ok laid) :
    laid.metadata.ownerReferences = live.metadata.ownerReferences := by
  obtain ⟨-, hm⟩ := laidOver_metadata hsorted h
  exact Metadata.owners_mergeFields hm hwished

/-- Somebody other than the instance controls the object. -/
def ForeignTo (o : ManagedObject) (i : Instance) : Prop :=
  ∃ ref ∈ o.owners, ref.controller = some true ∧ some ref.uid ≠ i.metadata.uid

instance (o : ManagedObject) (i : Instance) : Decidable (o.ForeignTo i) :=
  inferInstanceAs (Decidable (∃ ref ∈ o.owners, _ ∧ _))

/-- What somebody else controls cannot be taken over. -/
theorem ForeignTo.own_refused (h : o.ForeignTo i) (hscope : o.kind.clusterScoped = false) :
    ∃ e, o.own i = .error e := by
  cases hown : o.own i with
  | error e => exact ⟨e, rfl⟩
  | ok o' =>
    obtain ⟨ref, href, hcontroller, huid⟩ := h
    rcases own_cases hown with ⟨hscope', -⟩ | ⟨-, owner, howner, hnone, -⟩
    · cases hscope.symm.trans hscope'
    · have howneruid := (uid_of_controllerReference? howner).symm
      have hforeign := hnone ref href
      unfold OwnerReference.isForeignController at hforeign
      have hsame : ref.uid = owner.uid := by simpa [hcontroller] using hforeign
      exact absurd (hsame ▸ howneruid) huid

theorem ForeignTo.converged_refused (h : live.ForeignTo i)
    (hscope : live.kind.clusterScoped = false) (hsorted : wished.body.Sorted)
    (hwished : wished.metadata.ownerReferences = none) :
    ∃ e, live.converged wished i = .error e := by
  unfold converged
  cases hlaid : live.laidOver wished with
  | error e => exact ⟨e, rfl⟩
  | ok laid =>
    have howners := laidOver_owners hsorted hwished hlaid
    have hforeign : laid.ForeignTo i := by
      unfold ForeignTo owners at h ⊢
      rwa [howners]
    obtain ⟨e, he⟩ := hforeign.own_refused ((laidOver_ok hsorted hlaid).1 ▸ hscope)
    refine ⟨e, ?_⟩
    change (do let o ← laid.own i; return o.keepServerFields live : Except Error ManagedObject) = _
    rw [he]
    rfl

end ManagedObject

/-! ## What passes spare -/

namespace Cluster

variable {T : Key → Prop} {c c' c'' : Cluster} {i : Instance}

/-- Of the objects of namespaces that somebody other than the instance controls, the second cluster
lacks at most those under keys of `T`, and it has the others as they were. What is missing under a
key of `T` stays so. -/
def Spared (T : Key → Prop) (i : Instance) (c c' : Cluster) : Prop :=
  c.Keyed → c'.Keyed ∧ ∀ k, k.kind.clusterScoped = false →
    (∀ o, Table.get? c.objects k = some o → o.ForeignTo i →
      Table.get? c'.objects k = some o ∨ T k ∧ Table.get? c'.objects k = none) ∧
    (T k → Table.get? c.objects k = none → Table.get? c'.objects k = none)

instance : IsPreorder Cluster (Spared T i) where
  refl _ hkeyed := ⟨hkeyed, fun _ _ => ⟨fun _ ho _ => Or.inl ho, fun _ => id⟩⟩
  trans _ _ _ h h' hkeyed := by
    obtain ⟨hkeyed', hspared⟩ := h hkeyed
    obtain ⟨hkeyed'', hspared'⟩ := h' hkeyed'
    refine ⟨hkeyed'', fun k hscope => ⟨fun o ho hforeign => ?_, fun hT hnone => ?_⟩⟩
    · rcases (hspared k hscope).1 o ho hforeign with hkept | ⟨hT, hnone⟩
      · exact (hspared' k hscope).1 o hkept hforeign
      · exact Or.inr ⟨hT, (hspared' k hscope).2 hT hnone⟩
    · exact (hspared' k hscope).2 hT ((hspared k hscope).2 hT hnone)

theorem Removed.spared (h : Removed T c c') : Spared T i c c' := by
  refine fun hkeyed => ⟨h.keyed hkeyed, fun k _ => ⟨fun o ho _ => ?_, fun _ => h.absent⟩⟩
  cases hk : Table.get? c'.objects k with
  | some o' => exact Or.inl ((h.only k o' hk).symm.trans ho)
  | none =>
    by_cases hT : T k
    · exact Or.inr ⟨hT, rfl⟩
    · cases hk.symm.trans ((h.objects k hT).trans ho)

/-- Where only keys outside `T` are touched, it is enough that what is foreign stays. -/
theorem Spared.of_touches {K : Key → Prop} (h : Touches K c c') (hK : ∀ k, K k → ¬ T k)
    (hspared : Spared (fun _ => False) i c c') : Spared T i c c' := by
  intro hkeyed
  refine ⟨(hspared hkeyed).1, fun k hscope => ⟨fun o ho hforeign => ?_, fun hT hnone => ?_⟩⟩
  · rcases ((hspared hkeyed).2 k hscope).1 o ho hforeign with hkept | ⟨⟨⟩, -⟩
    exact Or.inl hkept
  · rw [(h hkeyed).objects k fun hk => hK k hk hT, hnone]

theorem Serves.spared (h : Serves (fun _ => False) c c') : Spared T i c c' := fun hkeyed =>
  ⟨h.keyed hkeyed, fun k _ => ⟨fun _ ho _ => Or.inl ((h.objects k id).trans ho),
    fun _ hnone => (h.objects k id).trans hnone⟩⟩

end Cluster

/-! ## Passes over instances that are to stay -/

namespace Pass

variable {p : Pass} {c c' : Cluster} {k : Key} {o : ManagedObject}

/-- What somebody else controls is looked at when its resource is applied, and that is all. -/
theorem apply_refused (h : p.templates.Sound) (hkeyed : c.Keyed) {r : Resource}
    (hscope : (p.keyOf r).kind.clusterScoped = false)
    (ho : Table.get? c.objects (p.keyOf r) = some o) (hforeign : o.ForeignTo p.subject) :
    Removed (fun _ => False) c ((p.apply r : StoreM Cluster Applied).after c) := by
  unfold apply
  refine rel_after_bind (Keeps.ofExcept _ c) fun d c₁ hd => ?_
  obtain ⟨hrender, rfl⟩ := ofExcept_ok_iff.1 hd
  obtain ⟨t, ht, rfl⟩ := Registry.render_ok hrender
  refine rel_after_bind (get_removed _ c₁) fun found c₂ hget => ?_
  obtain rfl : found = some o := (get_ok hget).1.trans ho
  refine rel_after_bind (Keeps.ofExcept _ c₂) fun o' c₃ hconverged => ?_
  -- It does not get any further, for the object cannot be taken over.
  rw [← hkeyed.key_of_get? ho] at hscope
  obtain ⟨e, he⟩ := hforeign.converged_refused hscope ((h r t ht).desired_sorted ..)
    ((h r t ht).desired_unowned p.subject p.image)
  cases (ofExcept_ok_iff.1 hconverged).1.symm.trans he

theorem apply_spares (h : p.templates.Sound) (r : Resource) :
    Keeps (Spared (fun _ => False) p.subject) (p.apply r : StoreM Cluster Applied) := by
  intro c hkeyed
  have htouches := p.apply_touches h r c hkeyed
  refine ⟨htouches.keyed hkeyed, fun k hscope =>
    ⟨fun o ho hforeign => Or.inl ?_, fun hfalse => hfalse.elim⟩⟩
  by_cases hk : k = p.keyOf r
  · subst hk
    rw [(apply_refused h hkeyed hscope ho hforeign).objects _ id, ho]
  · rw [htouches.objects k hk, ho]

end Pass

namespace Context

variable (ctx : Context) {c : Cluster} {i : Instance}

/-- A pass over an instance that is to stay leaves alone what somebody else controls. -/
theorem livePass_spares (h : ctx.templates.Sound)
    (hi : Table.get? c.instances i.id = some i) (hlive : i.isDeleting = false) :
    Spared (fun _ => False) i c ((ctx.livePass i : StoreM Cluster Action).after c) := by
  cases hfinalizer : i.hasFinalizer with
  | false =>
    obtain ⟨c₁, hcalled, hrun⟩ := ctx.livePass_claims hi hlive hfinalizer
    rw [after_ok hrun]
    exact hcalled.spared
  | true =>
    rw [livePass_of_held hfinalizer, after_bind_pure]
    exact fun hkeyed => Pass.runComponents_keeps_of_keyed (p := ctx.pass i) h
      (fun r _ c _ => Pass.apply_spares (p := ctx.pass i) h r c)
      (fun r _ => (get_removed _).mono fun _ _ => Removed.spared)
      (fun j _ => (updateStatus_serves j).mono fun _ _ => Serves.spared)
      (fun _ => id) hkeyed hkeyed

end Context

/-! ## Passes over instances that are to go -/

namespace Pass

variable {p : Pass} {c c' c₁ : Cluster} {k : Key} {o job : ManagedObject}

/-- The keys that a teardown clears, whoever controls what is there: those of the plan, and those of
a prune job that has succeeded. -/
def Takes (p : Pass) (c : Cluster) (k : Key) : Prop := k ∈ p.plan c ∨ p.Prunes k ∧ p.Pruned c

theorem prune_spares (h : p.templates.Sound)
    (hjob : Table.get? c₁.objects (p.keyOf pruneJob) = Table.get? c.objects (p.keyOf pruneJob)) :
    Spared (p.Takes c) p.subject c₁ ((p.prune : StoreM Cluster PruneState).after c₁) := by
  cases hprune : p.subject.spec.pruneOnDelete with
  | false =>
    rw [after_ok (prune_off hprune c₁)]
    exact refl_of (Spared (p.Takes c) p.subject) c₁
  | true =>
    cases hget : (Store.get (p.keyOf pruneJob) : StoreM Cluster _) c₁ with
    | error e c₂ =>
      rw [after_error (prune_of_error hprune hget)]
      exact ((get_removed (K := p.Takes c) _).of_error hget).spared
    | ok found c₂ =>
      have hread : Spared (p.Takes c) p.subject c₁ c₂ := ((get_removed _).of_ok hget).spared
      have hfound := (get_ok hget).1
      rw [hjob] at hfound
      cases found with
      | none =>
        -- What is created is not taken, for there is no job that could have succeeded.
        have hleft : ∀ k, k ∈ pruneResources.map p.keyOf → ¬ p.Takes c k := by
          rintro k hk (hplan | ⟨-, job, hstored, -⟩)
          · obtain ⟨r, hr, rfl⟩ := List.mem_map.1 hk
            exact name_of_mem_deletionPlan hplan (prunes_name ⟨hprune, mem_pruneKeys.2 hk⟩)
          · cases hfound.trans hstored
        have hall : Spared (fun _ => False) p.subject c₂
            ((p.applyAll pruneResources : StoreM Cluster Unit).after c₂) := fun hkeyed =>
          applyAll_keeps (fun r _ c _ => apply_spares h r c) hkeyed hkeyed
        rw [after_congr (prune_of_missing hprune hget), after_bind_pure]
        exact trans_of _ hread (.of_touches (p.applyAll_touches h _ c₂) hleft hall)
      | some job =>
        rw [after_congr (prune_of_job hprune hget)]
        refine trans_of _ hread ?_
        by_cases hsucceeded : job.kind = .job ∧ 1 ≤ job.statusCount "succeeded"
        · have hpruned : p.Pruned c := ⟨job, hfound.symm, hsucceeded⟩
          refine ((p.pruneStep_removed job c₂).mono fun k hk => ?_).spared
          exact Or.inr ⟨⟨hprune, hk⟩, hpruned⟩
        · exact ((pruneStep_called hsucceeded c₂).mono fun _ => False.elim).spared

/-- To clear the cluster takes nothing that somebody else controls but what is to be cleared. -/
theorem clear_spares (h : p.templates.Sound) (c : Cluster) :
    Spared (p.Takes c) p.subject c (p.clear.after c) := by
  rw [after_congr (clear_run p c)]
  refine trans_of _ (removed_record c .listing).spared ?_
  refine rel_after_bind (((deleteAll_removed _ _).mono fun _ _ hr =>
    (hr.mono fun _ => Or.inl).spared) _) fun _ c₁ hdelete => ?_
  refine rel_after_bind ((remaining_removed _ c₁).spared) fun left c₂ hleft => ?_
  split
  · exact refl_of (Spared (p.Takes c) p.subject) c₂
  · rw [after_bind_pure]
    refine prune_spares h ?_
    have hkept : p.keyOf pruneJob ∉ p.plan c := fun hplan =>
      ne_job_of_mem_deletionPlan hplan (pruneJob.key_kind p.subject)
    have hscanned : Removed (fun _ => False) c₁ c₂ := (remaining_removed _).of_ok hleft
    rw [hscanned.objects _ id, ((deleteAll_removed _ _).of_ok hdelete).objects _ hkept]
    rfl

/-- To take the finalizer off takes nothing but what the instance owns, and that only with the
instance itself. -/
theorem release_fate {i : Instance} (hi : Table.get? c.instances p.subject.id = some i)
    (hsorted : c.objects.Sorted) (ho : Table.get? c.objects k = some o) :
    let c' := (p.release : StoreM Cluster Action).after c
    Table.get? c'.objects k = some o ∨ Table.get? c'.objects k = none ∧
      Table.get? c'.instances p.subject.id = none ∧ o.metadata.ownedBy i.metadata.uid = true := by
  dsimp only
  cases howned : o.metadata.ownedBy i.metadata.uid with
  | false => exact Or.inl (release_unowned hi ho howned)
  | true =>
    rcases p.release_cases c with ⟨a, c₁, hrun, hcalled⟩ | ⟨old, c₁, hold, hcalled, hrun⟩
    · rw [after_ok hrun, hcalled.objects k id]
      exact Or.inl ho
    · obtain rfl := Option.some.inj (hi.symm.trans hold)
      have ho₁ : Table.get? c₁.objects k = some o := (hcalled.objects k id).trans ho
      rw [after_ok hrun]
      rcases collect_cases (c₁.putInstance p.subject.id (c₁.adopt i p.subject.removeFinalizer))
        p.subject.id with heq | ⟨j, hj, -, -, heq⟩
      · rw [heq]
        exact Or.inl ho₁
      · obtain rfl := Option.some.inj ((Table.get?_insert_self ..).symm.trans hj)
        rw [heq, adopt_uid]
        refine Or.inr ⟨?_, (Table.get?_erase ..).trans (if_pos rfl), rfl⟩
        refine ((hcalled.ordered hsorted).get?_filter_eq).trans ?_
        rw [ho₁]
        simp [howned]

end Pass

namespace Context

variable (ctx : Context) {c : Cluster} {i : Instance} {k : Key} {o : ManagedObject}

/-- What may become of an object under foreign control when an instance goes. -/
theorem finalVisit_fate (h : ctx.templates.Sound) (hkeyed : c.Keyed) (hsorted : c.objects.Sorted)
    (hi : Table.get? c.instances i.id = some i) (hscope : k.kind.clusterScoped = false)
    (ho : Table.get? c.objects k = some o) (hforeign : o.ForeignTo i) :
    let c' := (ctx.finalVisit i : StoreM Cluster Action).after c
    Table.get? c'.objects k = some o ∨ Table.get? c'.objects k = none ∧
      ((ctx.pass i).Takes c k ∨
        Table.get? c'.instances i.id = none ∧ o.metadata.ownedBy i.metadata.uid = true) := by
  dsimp only
  have hspared := (((ctx.pass i).clear_spares h c hkeyed).2 k hscope).1 o ho hforeign
  cases hclear : (ctx.pass i).clear c with
  | error e c₁ =>
    have hserves : Serves (fun _ => False) c₁
        ((ctx.finalVisit i : StoreM Cluster Action).after c) := finalVisit_of_failed hclear
    rw [after_error hclear] at hspared
    rw [hserves.objects k id]
    exact hspared.imp_right fun ⟨htakes, hnone⟩ => ⟨hnone, Or.inl htakes⟩
  | ok wait c₁ =>
    rw [after_ok hclear] at hspared
    cases wait with
    | some d =>
      rw [after_ok (finalVisit_of_wait hclear)]
      exact hspared.imp_right fun ⟨htakes, hnone⟩ => ⟨hnone, Or.inl htakes⟩
    | none =>
      have hremoved := (Pass.cleared_of_clear hclear).removed
      obtain ⟨a, c₂, hrelease⟩ := (ctx.pass i).release_ok c₁
      have hfinalize : (ctx.pass i).finalize c = .ok a c₂ := by
        rw [Pass.finalize_eq]
        exact (bind_of_ok hclear).trans hrelease
      rw [after_ok (finalVisit_of_ok hfinalize), ← after_ok hrelease]
      rcases hspared with hkept | ⟨htakes, hnone⟩
      · have hi₁ : Table.get? c₁.instances i.id = some i := by
          rw [hremoved.instances, hi]
        have hfate := Pass.release_fate (p := ctx.pass i) hi₁ (hremoved.ordered hsorted) hkept
        exact hfate.imp_right fun ⟨hnone, hgone⟩ => ⟨hnone, Or.inr hgone⟩
      · exact Or.inr ⟨Pass.release_absent hnone, Or.inl htakes⟩

/-- Objects of namespaces that somebody other than the instance controls are never changed by a
pass over it, whatever the pass finds and whatever comes of it, and a pass over an instance that is
to stay leaves them all where they are. Only a teardown may take such an object: because its key is
one of those under which the instance would have deployed its own, because it goes by the name of a
part of the prune job, which has succeeded, or because it names the instance among its owners and
the instance goes. -/
theorem reconcile_ownership (settings : Settings) (op : Operator Cluster) (i : Instance) (k : Key)
    (o : ManagedObject) (hkeyed : op.store.Keyed) (hsorted : op.store.objects.Sorted)
    (hi : Table.get? op.store.instances i.id = some i) (hscope : k.kind.clusterScoped = false)
    (ho : Table.get? op.store.objects k = some o) (hforeign : o.ForeignTo i) :
    let ctx : Context := { settings }
    let op' := StoreM.after (σ := Operator Cluster) (ctx.reconcileInstance i.id) op
    let shared := (Table.values op.store.instances).any i.needsSharedObjects
    Table.get? op'.store.objects k = some o ∨ Table.get? op'.store.objects k = none ∧
      i.isDeleting = true ∧ i.hasFinalizer = true ∧
      (k ∈ deletionPlan i shared settings.manageSecurityPolicies ∨
        (ctx.pass i).Prunes k ∧ (ctx.pass i).Pruned op.store ∨
        Table.get? op'.store.instances i.id = none ∧
          o.metadata.ownedBy i.metadata.uid = true) := by
  intro ctx op' shared
  have hstore : op'.store = (ctx.visit i.id : StoreM Cluster Action).after op.store :=
    (ctx.reconcileInstance_tracks (σ := Cluster) i.id).store_after op
  rw [hstore]
  cases hdeleting : i.isDeleting with
  | false =>
    rw [after_congr (ctx.visit_of_live hi hdeleting)]
    have hspared := ctx.livePass_spares (c := op.store.record (.one .get i.id))
      Registry.own_sound hi hdeleting hkeyed
    exact ((hspared.2 k hscope).1 o ho hforeign).imp_right fun hlost => hlost.1.elim
  | true =>
    cases hfinalizer : i.hasFinalizer with
    | false =>
      rw [after_ok (ctx.visit_of_unheld hi hdeleting hfinalizer)]
      exact Or.inl ho
    | true =>
      rw [after_congr (ctx.visit_of_deleting hi hdeleting hfinalizer)]
      refine (ctx.finalVisit_fate (c := op.store.record (.one .get i.id)) Registry.own_sound
        hkeyed hsorted hi hscope ho hforeign).imp_right ?_
      rintro ⟨hnone, htakes⟩
      exact ⟨hnone, rfl, rfl, or_assoc.1 htakes⟩

/-- Of two instances in one namespace, the second finds what it is made of under the control of the
first. Its pass leaves that alone. -/
theorem reconcile_ownership_of_two :
    let blue := Instance.bare ⟨"a", "blue"⟩
    let green := Instance.bare ⟨"a", "green"⟩
    let ctx : Context := { settings := {} }
    let op := run ctx { store := {} } [.insertInstance blue, .pass blue.id, .pass blue.id,
      .insertInstance green, .pass green.id]
    let worker : Key := .namespaced .daemonSet "a" "nfd-worker"
    let op' := StoreM.after (σ := Operator Cluster) (ctx.reconcileInstance green.id) op
    ∃ o, Table.get? op.store.objects worker = some o ∧
      Table.get? op'.store.objects worker = some o := by
  intro blue green ctx op worker op'
  have hkeyed : op.store.Keyed := by
    unfold Keyed
    decide +kernel
  have hsorted : op.store.objects.Sorted := Table.sorted_iff_ascending.2 (by decide +kernel)
  have hknown : (Table.get? op.store.instances green.id).any (fun i =>
      i.id = green.id ∧ i.isDeleting = false ∧
        (Table.get? op.store.objects worker).any (fun o => o.ForeignTo i) = true) = true := by
    decide +kernel
  clear_value op
  obtain ⟨i, hi, hknown⟩ := (Option.any_eq_true _ _).1 hknown
  obtain ⟨hid, hlive, hfound⟩ := of_decide_eq_true hknown
  obtain ⟨o, ho, hforeign⟩ := (Option.any_eq_true _ _).1 hfound
  replace hforeign := of_decide_eq_true hforeign
  have hop' : op' = StoreM.after (σ := Operator Cluster) (ctx.reconcileInstance i.id) op := by
    rw [hid]
  rw [← hid] at hi
  rcases reconcile_ownership {} op i worker o hkeyed hsorted hi rfl ho hforeign with
    hkept | ⟨-, hdeleting, -⟩
  · rw [hop']
    exact ⟨o, ho, hkept⟩
  · cases hlive.symm.trans hdeleting

/-- The second of two instances in one namespace goes, and takes along what the first controls. -/
theorem reconcile_takes_foreign :
    let blue := Instance.bare ⟨"a", "blue"⟩
    let green := Instance.bare ⟨"a", "green"⟩
    let ctx : Context := { settings := {} }
    let op := run ctx { store := {} } [.insertInstance blue, .pass blue.id, .pass blue.id,
      .insertInstance green, .pass green.id, .markDeleting green.id]
    let worker : Key := .namespaced .daemonSet "a" "nfd-worker"
    let op' := StoreM.after (σ := Operator Cluster) (ctx.reconcileInstance green.id) op
    (∃ i o, Table.get? op.store.instances green.id = some i ∧
      Table.get? op.store.objects worker = some o ∧ o.ForeignTo i) ∧
    Table.get? op'.store.objects worker = none := by
  intro blue green ctx op worker op'
  have hknown : (Table.get? op.store.instances green.id).any (fun i =>
      (Table.get? op.store.objects worker).any fun o => o.ForeignTo i) = true := by
    decide +kernel
  have hgone : Table.get? op'.store.objects worker = none := by
    decide +kernel
  obtain ⟨i, hi, hfound⟩ := (Option.any_eq_true _ _).1 hknown
  obtain ⟨o, ho, hforeign⟩ := (Option.any_eq_true _ _).1 hfound
  exact ⟨⟨i, o, hi, ho, of_decide_eq_true hforeign⟩, hgone⟩

end Context

end NodeFeatureOperator
