import NodeFeatureOperator.Proofs.Pruning

/-!
# What is left of prune jobs

What is made for a prune job goes with the finalizer, but not always. A pass looks at the prune job
only if the instance asks for pruning when the pass begins. If pruning was asked for, so that the
job was created, and then no more, the next pass lets the instance go and leaves behind what the job
needs in the whole cluster (`Abandons`). A run of a single instance leaves anything of a prune job
exactly if it has such a pass (`no_remains`), and there are runs that have one
(`remains_of_second_thoughts`).
-/

namespace NodeFeatureOperator

open Cluster StoreM

variable {K : Key → Prop} {ctx : Context} {c c' : Cluster} {i : Instance} {id : InstanceId}
  {s : Step}

/-- The steps in which no instance is new and calls go on doing what they are made for. -/
def Step.Undisturbed : Step → Prop
  | .insertInstance _ => False
  | .failOn .. => False
  | .clearFailures => False
  | _ => True

/-- The step is a pass over an instance that is to go and asks for no pruning, while there are
objects that were made for a prune job. -/
def Abandons (c : Cluster) : Step → Prop
  | .pass id =>
    (∃ i, Table.get? c.instances id = some i ∧ i.isDeleting = true ∧ i.hasFinalizer = true ∧
      i.spec.pruneOnDelete = false) ∧
    ∃ k, k.name = "nfd-prune" ∧ (Table.get? c.objects k).isSome
  | _ => False

/-! ## The only instance and its prune job -/

namespace Cluster

/-- There is no instance but one under this identity, if there is that, and calls do what they are
made for. -/
structure Alone (id : InstanceId) (c : Cluster) : Prop where
  quiet : c.Quiet
  keyed : c.Keyed
  named : ∀ id' i, Table.get? c.instances id' = some i → id' = id ∧ i.id = id

/-- There is nothing of a prune job. -/
def Unpruned (c : Cluster) : Prop :=
  ∀ k, k.name = "nfd-prune" → Table.get? c.objects k = none

/-- The instance is to go and holds the finalizer, and all is there that was made for its prune job,
but nothing for others. -/
structure Pruning (id : InstanceId) (c : Cluster) : Prop where
  holder : ∃ i, Table.get? c.instances id = some i ∧ i.isDeleting = true ∧ i.hasFinalizer = true
  whole : ∀ r ∈ pruneResources, ∃ o, Table.get? c.objects (r.key (.bare id)) = some o ∧
    (r.kind.clusterScoped = true → o.metadata.ownerReferences = none)
  only : ∀ k, k.name = "nfd-prune" → (Table.get? c.objects k).isSome →
    ∃ r ∈ pruneResources, r.key (.bare id) = k

/-- What is there of a prune job is there for an instance that will see to it. -/
structure Kept (id : InstanceId) (c : Cluster) : Prop where
  alone : c.Alone id
  pruned : c.Unpruned ∨ c.Pruning id

namespace Alone

theorem serves (h : c.Alone id) (hc : Serves K c c') : c'.Alone id where
  quiet := hc.quiet h.quiet
  keyed := hc.keyed h.keyed
  named id' j hj := by
    obtain ⟨i, hi, hessence⟩ := hc.instance_before hj
    obtain ⟨hid, hnamed⟩ := h.named id' i hi
    exact ⟨hid, (Instance.id_of_essence hessence).trans hnamed⟩

theorem removed (h : c.Alone id) (hc : Removed K c c') : c'.Alone id :=
  h.serves hc.toWithin.serves

theorem putInstance (h : c.Alone id) (hi : i.id = id) : (c.putInstance id i).Alone id where
  quiet := ⟨h.quiet.failures, h.quiet.sticky⟩
  keyed := h.keyed
  named id' j hj := by
    unfold Cluster.putInstance at hj
    rw [Table.get?_insert] at hj
    split at hj
    · next heq =>
      obtain rfl := Option.some.inj hj
      exact ⟨heq.symm, hi⟩
    · exact h.named id' j hj

theorem without (h : c.Alone id) (uid : Option String) : (c.without id uid).Alone id where
  quiet := ⟨h.quiet.failures, h.quiet.sticky⟩
  keyed row hrow := h.keyed row (List.mem_filter.1 hrow).1
  named id' j hj := by
    change Table.get? (Table.erase c.instances id) id' = some j at hj
    rw [Table.get?_erase] at hj
    split at hj
    · cases hj
    · exact h.named id' j hj

theorem collect (h : c.Alone id) : (c.collect id).Alone id := by
  rcases collect_cases c id with heq | ⟨i, -, -, -, heq⟩
  · rwa [heq]
  · rw [heq]
    exact h.without _

end Alone

theorem Unpruned.removed (h : c.Unpruned) (hc : Removed K c c') : c'.Unpruned :=
  fun k hk => hc.absent (h k hk)

/-- An instance that prunes holds its prune job. -/
theorem Pruning.job (h : c.Pruning id) :
    (Table.get? c.objects (pruneJob.key (.bare id))).isSome := by
  obtain ⟨o, ho, -⟩ := h.whole pruneJob (by decide)
  rw [ho]
  rfl

namespace Kept

theorem inserted (i : Instance) : (insertInstance {} i).2.Kept i.id where
  alone := by
    refine ⟨⟨rfl, rfl⟩, fun row hrow => ?_, fun id' j hj => ?_⟩
    · cases hrow
    · change Table.get? (Table.insert [] i.id _) id' = some j at hj
      rw [Table.get?_insert] at hj
      split at hj
      · next heq =>
        obtain rfl := Option.some.inj hj
        exact ⟨heq.symm, rfl⟩
      · cases hj
  pruned := Or.inl fun _ _ => rfl

/-- Where the instance holds no finalizer, there is nothing of a prune job. -/
theorem unpruned (h : c.Kept id)
    (hfree : ∀ i, Table.get? c.instances id = some i → i.hasFinalizer = false) : c.Unpruned := by
  rcases h.pruned with hnone | hpruning
  · exact hnone
  · obtain ⟨i, hi, -, hheld⟩ := hpruning.holder
    cases hheld.symm.trans (hfree i hi)

theorem aside (h : c.Kept id) (hc : Aside c c') : c'.Kept id where
  alone := h.alone.serves hc
  pruned := by
    refine h.pruned.imp (fun hnone k hk => (hc.get? hk).trans (hnone k hk)) fun hpruning => ?_
    obtain ⟨i, hi, hdeleting, hheld⟩ := hpruning.holder
    obtain ⟨j, hj, hessence⟩ := hc.instance_after hi
    refine ⟨⟨j, hj, ?_, ?_⟩, fun r hr => ?_, fun k hk hstored => ?_⟩
    · exact (Instance.eq_of_essence Instance.isDeleting (fun _ => rfl) hessence).trans hdeleting
    · exact (Instance.eq_of_essence Instance.hasFinalizer (fun _ => rfl) hessence).trans hheld
    · rw [hc.get? (name_of_mem_pruneResources hr _)]
      exact hpruning.whole r hr
    · rw [hc.get? hk] at hstored
      exact hpruning.only k hk hstored

theorem record (h : c.Kept id) (call : Call) : (c.record call).Kept id :=
  h.aside (aside_record c call)

/-- The instance changes in place, but neither who it is nor what it waits for. -/
theorem modifyInstance {id' : InstanceId} (h : c.Kept id) (f : Instance → Instance)
    (hc : c'.instances = Table.modify c.instances id' f) (hobjects : c'.objects = c.objects)
    (hfailures : c'.failures = c.failures) (hsticky : c'.sticky = c.sticky)
    (hid : ∀ i, (f i).id = i.id) (hdeleting : ∀ i, i.isDeleting = true → (f i).isDeleting = true)
    (hheld : ∀ i, (f i).hasFinalizer = i.hasFinalizer) : c'.Kept id where
  alone := by
    refine ⟨⟨hfailures.trans h.alone.quiet.failures, hsticky.trans h.alone.quiet.sticky⟩, ?_,
      fun id'' j hj => ?_⟩
    · unfold Keyed
      rw [hobjects]
      exact h.alone.keyed
    · rw [hc, Table.get?_modify] at hj
      split at hj
      · obtain ⟨i, hi, rfl⟩ := Option.map_eq_some_iff.1 hj
        rw [hid]
        exact h.alone.named id'' i hi
      · exact h.alone.named id'' j hj
  pruned := by
    unfold Unpruned
    rw [hobjects]
    refine h.pruned.imp_right fun hpruning => ?_
    obtain ⟨i, hi, hgoes, hholds⟩ := hpruning.holder
    refine ⟨?_, by rw [hobjects]; exact hpruning.whole, by rw [hobjects]; exact hpruning.only⟩
    rw [hc, Table.get?_modify, hi]
    split
    · exact ⟨f i, rfl, hdeleting i hgoes, (hheld i).trans hholds⟩
    · exact ⟨i, rfl, hgoes, hholds⟩

/-- Objects report, but none changes its owners. -/
theorem rewritten {g : Key → ManagedObject → ManagedObject} (h : c.Kept id)
    (hc : Rewritten g c c') (hg : ∀ k o, (g k o).metadata = o.metadata) : c'.Kept id where
  alone := by
    refine ⟨⟨hc.failures.trans h.alone.quiet.failures, hc.sticky.trans h.alone.quiet.sticky⟩,
      hc.keyed h.alone.keyed, ?_⟩
    rw [hc.instances]
    exact h.alone.named
  pruned := by
    refine h.pruned.imp (fun hnone k hk => ?_) fun hpruning => ⟨?_, fun r hr => ?_, ?_⟩
    · rw [hc.get?, hnone k hk]
      rfl
    · rw [hc.instances]
      exact hpruning.holder
    · obtain ⟨o, ho, hunowned⟩ := hpruning.whole r hr
      refine ⟨g _ o, by rw [hc.get?, ho]; rfl, ?_⟩
      rwa [hg]
    · intro k hk hstored
      rw [hc.get?, Option.isSome_map] at hstored
      exact hpruning.only k hk hstored

end Kept

theorem markDeleting_kept (h : c.Kept id) (id' : InstanceId) : (c.markDeleting id').Kept id := by
  have hmarked : ({ c.bump with
      instances := Table.modify c.instances id' c.bump.mark } : Cluster).Kept id :=
    h.modifyInstance c.bump.mark rfl rfl rfl rfl (fun _ => rfl) (fun _ _ => rfl) fun _ => rfl
  cases hi : Table.get? c.instances id' with
  | none => rwa [markDeleting_of_missing hi]
  | some i =>
    obtain ⟨rfl, -⟩ := h.alone.named id' i hi
    by_cases hfree : i.finalizers = []
    · rw [markDeleting_of_free hi hfree]
      have hnone : c.Unpruned := h.unpruned fun j hj => by
        obtain rfl := Option.some.inj (hi.symm.trans hj)
        unfold Instance.hasFinalizer
        rw [hfree]
        rfl
      exact ⟨(h.alone.removed (removed_bump (K := fun _ => False) c)).without _,
        Or.inl fun k hk => Table.get?_filter_eq_none (hnone k hk)⟩
    · rwa [markDeleting_of_held hi hfree]

end Cluster

/-! ## Visits -/

namespace Context

theorem release_alone (h : c.Alone i.id) (hi : Table.get? c.instances i.id = some i)
    (hheld : i.hasFinalizer = true) :
    (((ctx.pass i).release : StoreM Cluster Action).after c).Alone i.id := by
  rw [after_ok (Pass.release_of_stored (p := ctx.pass i) hi hheld)]
  have hcalled := h.removed
    ((removed_record (K := fun _ => False) c (.one .update i.id)).trans (removed_bump _))
  exact (hcalled.putInstance (Instance.Becomes.adopt ..).id_eq).collect

/-- Once there is nothing of a prune job, the instance may be released. -/
theorem release_kept (h : c.Alone i.id) (hnone : c.Unpruned)
    (hi : Table.get? c.instances i.id = some i) (hheld : i.hasFinalizer = true) :
    (((ctx.pass i).release : StoreM Cluster Action).after c).Kept i.id :=
  ⟨release_alone h hi hheld, Or.inl fun k hk => Pass.release_absent (hnone k hk)⟩

/-- What is created for a prune job is created as a whole, or not at all. -/
theorem applyAll_kept (h : ctx.templates.Sound)
    (htemplates : ∀ r ∈ pruneResources, Table.contains ctx.templates.templates r = true)
    (hc : c.Alone i.id) (hnone : c.Unpruned) (hi : Table.get? c.instances i.id = some i)
    (hdeleting : i.isDeleting = true) (hheld : i.hasFinalizer = true) :
    (((ctx.pass i).applyAll pruneResources : StoreM Cluster Unit).after c).Kept i.id := by
  have hmissing : ∀ r ∈ pruneResources, Table.get? c.objects (r.key i) = none := fun r hr =>
    hnone _ (name_of_mem_pruneResources hr i)
  have htouches := Pass.applyAll_touches (p := ctx.pass i) h pruneResources c hc.keyed
  cases howner : i.controllerReference? with
  | none =>
    -- The first thing to create belongs to the namespace, and has to be owned.
    obtain ⟨e, c₁, hrun⟩ := Pass.apply_of_no_owner (p := ctx.pass i) (c := c)
      (r := ⟨.serviceAccount, "nfd-prune"⟩) h howner rfl (hmissing _ (by decide))
    have hfailed : (ctx.pass i).applyAll pruneResources c = .error e c₁ := bind_of_error hrun
    have hcalled : Removed (fun _ => False) c c₁ := Pass.apply_failed hrun
    rw [after_error hfailed]
    exact ⟨hc.removed hcalled, Or.inl (hnone.removed hcalled)⟩
  | some owner =>
    obtain ⟨c₁, hrun, hstored⟩ := Pass.applyAll_quiet (p := ctx.pass i) hc.quiet hc.keyed h
      (Option.isSome_iff_exists.2 ⟨owner, howner⟩) htemplates
      (ctx.pass i).pruneResources_keys_nodup hmissing
    have hbare (r : Resource) : r.key (.bare i.id) = r.key i := r.key_of_id rfl
    refine ⟨hc.serves htouches.serves, Or.inr ⟨⟨i, ?_, hdeleting, hheld⟩, fun r hr => ?_,
      fun k hk hsome => ?_⟩⟩
    · rw [htouches.instances, hi]
    · have hfresh := Pass.applyAll_fresh (p := ctx.pass i) h hc.keyed
        (ctx.pass i).pruneResources_keys_nodup hr (hmissing r hr)
      have hpresent := hstored r hr
      rw [← after_ok hrun] at hpresent
      obtain ⟨o, ho⟩ := Option.isSome_iff_exists.1 hpresent
      rw [hbare]
      refine ⟨o, ho, fun hscope => (hfresh o ho).unowned ?_⟩
      rwa [show ((ctx.pass i).keyOf r).kind = r.kind from r.key_kind i]
    · by_cases hmem : k ∈ pruneResources.map (ctx.pass i).keyOf
      · obtain ⟨r, hr, rfl⟩ := List.mem_map.1 hmem
        exact ⟨r, hr, hbare r⟩
      · rw [htouches.objects k hmem, hnone k hk] at hsome
        cases hsome

/-- A visit to an instance that is to go and asks for pruning. -/
theorem finalVisit_kept_of_on (h : ctx.templates.Sound)
    (htemplates : ∀ r ∈ pruneResources, Table.contains ctx.templates.templates r = true)
    (hc : c.Kept i.id) (hi : Table.get? c.instances i.id = some i) (hdeleting : i.isDeleting = true)
    (hheld : i.hasFinalizer = true) (hon : i.spec.pruneOnDelete = true) :
    ((ctx.finalVisit i : StoreM Cluster Action).after c).Kept i.id := by
  have hbare : pruneJob.key (.bare i.id) = pruneJob.key i := pruneJob.key_of_id rfl
  cases ctx.finalVisit_prunes hon c with
  | leaves haside => exact hc.aside haside
  | starts hmissing hfound hrest =>
    rcases hc.pruned with hnone | hpruning
    · refine (applyAll_kept h htemplates (hc.alone.serves hfound.serves) (fun k hk => ?_) ?_
        hdeleting hheld).aside hrest
      · rw [Aside.get? hfound.serves hk, hnone k hk]
      · rw [hfound.instances, hi]
    · have hjob := hpruning.job
      rw [hbare, hmissing] at hjob
      cases hjob
  | fails hpruned hfound hdelete hrest hfailed =>
    obtain ⟨c₃, hdeleted⟩ := deleteAll_quiet (hfound.quiet hc.alone.quiet)
      ctx.settings.deleteRetry (ctx.pass i).pruneKeys
    cases hdelete.symm.trans hdeleted
  | ends hpruned hfound hdelete hrest =>
    have hdeleted := (deleteAll_removed _ _).of_ok hdelete
    rw [after_congr hrest]
    refine release_kept ((hc.alone.serves hfound.serves).removed hdeleted) (fun k hk => ?_) ?_ hheld
    · by_cases hmem : k ∈ (ctx.pass i).pruneKeys
      · exact deleteAll_ok hdelete k hmem
      · rw [hdeleted.objects k hmem, Aside.get? hfound.serves hk]
        rcases hc.pruned with hnone | hpruning
        · exact hnone k hk
        · rw [← Option.not_isSome_iff_eq_none]
          intro hsome
          obtain ⟨r, hr, rfl⟩ := hpruning.only k hk hsome
          exact hmem (Pass.mem_pruneKeys.2 (List.mem_map.2 ⟨r, hr, r.key_of_id rfl⟩))
    · rw [hdeleted.instances, hfound.instances, hi]

/-- A visit to an instance that is to go and asks for no pruning ends with the release. -/
theorem finalVisit_of_off (ctx : Context) (hc : c.Alone i.id)
    (hi : Table.get? c.instances i.id = some i) (hoff : i.spec.pruneOnDelete = false) :
    ∃ c₁, Aside c c₁ ∧ c₁.Alone i.id ∧ Table.get? c₁.instances i.id = some i ∧
      ctx.finalVisit i c = (ctx.pass i).release c₁ := by
  obtain ⟨c₁, hclear⟩ := Pass.clear_of_unpruned (p := ctx.pass i) hc.quiet hoff
  have hremoved := (Pass.cleared_of_clear hclear).removed
  refine ⟨c₁, hremoved.toWithin.serves.mono fun k hk => ?_, hc.removed hremoved, ?_,
    finalVisit_of_clear hclear⟩
  · rcases hk with hplan | ⟨hon, -⟩
    · exact name_of_mem_deletionPlan hplan
    · cases hoff.symm.trans hon
  · rw [hremoved.instances, hi]

/-- A visit that abandons nothing sees to what is there of a prune job. -/
theorem visit_kept (h : ctx.templates.Sound)
    (htemplates : ∀ r ∈ pruneResources, Table.contains ctx.templates.templates r = true)
    (hc : c.Kept id) (id' : InstanceId) (hkept : ¬ Abandons c (.pass id')) :
    ((ctx.visit id' : StoreM Cluster Action).after c).Kept id := by
  have hread := hc.record (.one .get id')
  cases hi : Table.get? c.instances id' with
  | none => rwa [after_ok (ctx.visit_of_missing hi)]
  | some i =>
    obtain ⟨rfl, hid⟩ := hc.alone.named id' i hi
    subst hid
    cases hdeleting : i.isDeleting with
    | false =>
      have hvisit := ctx.visit_of_live hi hdeleting
      cases hheld : i.hasFinalizer with
      | true =>
        rw [after_congr hvisit]
        refine hread.aside ((livePass_attends h hheld _ hread.alone.keyed).mono ?_)
        exact fun k hk => hk.name_ne
      | false =>
        have hnone : c.Unpruned := hc.unpruned fun j hj => by
          obtain rfl := Option.some.inj (hi.symm.trans hj)
          exact hheld
        rw [after_ok (hvisit.trans (ctx.livePass_of_unheld hi hdeleting hheld))]
        have hcalled := hread.alone.removed
          ((removed_record (K := fun _ => False) _ (.one .update i.id)).trans (removed_bump _))
        exact ⟨hcalled.putInstance (Instance.Becomes.adopt ..).id_eq, Or.inl hnone⟩
    | true =>
      cases hheld : i.hasFinalizer with
      | false => rwa [after_ok (ctx.visit_of_unheld hi hdeleting hheld)]
      | true =>
        rw [after_congr (ctx.visit_of_deleting hi hdeleting hheld)]
        cases hon : i.spec.pruneOnDelete with
        | true => exact finalVisit_kept_of_on h htemplates hread hi hdeleting hheld hon
        | false =>
          have hnone : c.Unpruned := fun k hk => by
            rw [← Option.not_isSome_iff_eq_none]
            exact fun hsome => hkept ⟨⟨i, hi, hdeleting, hheld, hon⟩, k, hk, hsome⟩
          obtain ⟨c₁, haside, halone, hi₁, hrun⟩ := ctx.finalVisit_of_off hread.alone hi hon
          rw [after_congr hrun]
          exact release_kept halone (fun k hk => (haside.get? hk).trans (hnone k hk)) hi₁ hheld

end Context

/-! ## Runs -/

/-- A step that abandons nothing sees to what is there of a prune job. -/
theorem onCluster_kept (ctx : Context) (h : ctx.templates.Sound)
    (htemplates : ∀ r ∈ pruneResources, Table.contains ctx.templates.templates r = true)
    (hc : c.Kept id) (hs : s.Undisturbed) (hkept : ¬ Abandons c s) :
    (s.onCluster ctx c).Kept id := by
  cases s with
  | insertInstance i => exact hs.elim
  | editSpec id' spec =>
    exact hc.modifyInstance (c.bump.respec spec) rfl rfl rfl rfl (fun _ => rfl) (fun _ h => h)
      fun _ => rfl
  | markDeleting id' => exact markDeleting_kept hc id'
  | pass id' => exact ctx.visit_kept h htemplates hc id' hkept
  | markReady ns =>
    refine hc.rewritten (c.markReady_rewritten ns) fun k o => ?_
    unfold makeReady
    split
    · split <;> rfl
    · rfl
  | setJobStatus key succeeded failed =>
    refine hc.rewritten (c.setJobStatus_rewritten key succeeded failed) fun k o => ?_
    unfold withJobStatus
    split
    · split <;> rfl
    · rfl
  | failOn verb key code => exact hs.elim
  | clearFailures => exact hs.elim

/-- A step that abandons what was made for a prune job lets the instance go, and leaves some of it.
-/
theorem remains_of_abandons (ctx : Context) (hc : c.Kept id) (hs : Abandons c s) :
    (∀ id' j, Table.get? (s.onCluster ctx c).instances id' = some j → j.hasFinalizer = false) ∧
      ¬ (s.onCluster ctx c).Unpruned := by
  cases s with
  | pass id' =>
    obtain ⟨⟨i, hi, hdeleting, hheld, hoff⟩, k, hk, hsome⟩ := hs
    obtain ⟨rfl, hid⟩ := hc.alone.named id' i hi
    subst hid
    have hpruning : c.Pruning i.id := by
      refine hc.pruned.resolve_left fun hnone => ?_
      rw [hnone k hk] at hsome
      cases hsome
    obtain ⟨c₁, haside, halone, hi₁, hrun⟩ :=
      ctx.finalVisit_of_off (hc.record (.one .get i.id)).alone hi hoff
    have hvisit : (Step.pass i.id).onCluster ctx c
        = ((ctx.pass i).release : StoreM Cluster Action).after c₁ :=
      after_congr ((ctx.visit_of_deleting hi hdeleting hheld).trans hrun)
    rw [hvisit]
    refine ⟨fun id' j hj => ?_, fun hnone => ?_⟩
    · obtain ⟨rfl, -⟩ := (Context.release_alone halone hi₁ hheld).named id' j hj
      rw [after_ok (Pass.release_of_stored (p := ctx.pass i) hi₁ hheld)] at hj
      exact unheld_of_released hj
    · -- What belongs to the whole cluster has no owner to go with.
      let role : Resource := ⟨.clusterRole, "nfd-prune"⟩
      obtain ⟨o, ho, hunowned⟩ := hpruning.whole role (by decide)
      have hname : (role.key (.bare i.id)).name = "nfd-prune" :=
        name_of_mem_pruneResources (by decide) _
      have hleft := Pass.release_unowned (p := ctx.pass i) hi₁ ((haside.get? hname).trans ho)
        (by unfold Metadata.ownedBy; rw [hunowned rfl])
      cases (hnone _ hname).symm.trans hleft
  | _ => exact hs.elim

/-- Nothing is left of prune jobs in a run of a single instance, however its spec is edited and
whatever its jobs report, exactly if no step of the run abandons anything: if no pass finds objects
that were made for a prune job while the instance is to go and does not ask for pruning any more. -/
theorem no_remains (settings : Settings) (op : Operator Cluster) (hop : op.store = {})
    (i : Instance) (steps : List Step) (hsteps : ∀ s ∈ steps, s.Undisturbed) :
    Always { settings } (fun c =>
        (∀ id j, Table.get? c.instances id = some j → j.hasFinalizer = false) → c.Unpruned)
      op (.insertInstance i :: steps) ↔
    Each { settings } (fun c s => ¬ Abandons c s) op (.insertInstance i :: steps) := by
  let ctx : Context := { settings }
  have hinserted : ((Step.insertInstance i).take ctx op).store.Kept i.id := by
    rw [Step.take_store, hop]
    exact Kept.inserted i
  have hrest := always_iff_each_not (P := fun _ s => s.Undisturbed) (I := Kept i.id)
    (Q := fun c =>
      (∀ id j, Table.get? c.instances id = some j → j.hasFinalizer = false) → c.Unpruned)
    (fun c s hc hs hkept =>
      onCluster_kept ctx Registry.own_sound Registry.own_prune hc hs hkept)
    (fun c hc hfree => hc.unpruned (hfree i.id))
    (fun c s hc _ hs hgood =>
      (remains_of_abandons ctx hc hs).2 (hgood (remains_of_abandons ctx hc hs).1))
    hinserted (each_of_forall hsteps)
  constructor
  · rintro ⟨-, h⟩
    exact ⟨id, hrest.1 h⟩
  · rintro ⟨-, h⟩
    refine ⟨fun _ k _ => ?_, hrest.2 h⟩
    rw [hop]
    rfl

/-- The prune job is running when somebody has second thoughts about pruning. -/
theorem remains_of_second_thoughts :
    let i : Instance := { Instance.bare ⟨"a", "nfd"⟩ with spec := { pruneOnDelete := true } }
    let ctx : Context := { settings := {} }
    let claimed := run ctx { store := {} } [.insertInstance i, .pass i.id]
    let steps : List Step := [.pass i.id, .markDeleting i.id, .pass i.id,
      .editSpec i.id { i.spec with pruneOnDelete := false }, .pass i.id]
    let left := run ctx claimed steps
    (Table.get? claimed.store.instances i.id).map (·.hasFinalizer) = some true ∧
      left.store.instances = [] ∧
      Table.contains left.store.objects (Resource.key ⟨.clusterRole, "nfd-prune"⟩ i) = true ∧
      Table.contains left.store.objects (Resource.key ⟨.clusterRoleBinding, "nfd-prune"⟩ i)
        = true := by
  decide +kernel

theorem not_abandons_of_asked
    (h : ((Table.get? c.instances id).all (·.spec.pruneOnDelete)) = true) :
    ¬ Abandons c (.pass id) := by
  rintro ⟨⟨i, hi, -, -, hoff⟩, -⟩
  rw [hi, Option.all_some, hoff] at h
  cases h

/-- The prune job succeeds, and nothing of it is left when the instance has gone. -/
theorem no_remains_of_asked :
    let i : Instance := { Instance.bare ⟨"a", "nfd"⟩ with spec := { pruneOnDelete := true } }
    let steps : List Step := [.pass i.id, .pass i.id, .markDeleting i.id, .pass i.id,
      .setJobStatus (pruneJob.key i) 1 0, .pass i.id]
    Always { settings := {} } (fun c =>
        (∀ id j, Table.get? c.instances id = some j → j.hasFinalizer = false) → c.Unpruned)
      { store := {} } (.insertInstance i :: steps) := by
  intro i steps
  have hsteps : ∀ s ∈ steps, s.Undisturbed := by
    simp [steps, Step.Undisturbed]
  refine (no_remains {} { store := {} } rfl i steps hsteps).2
    ⟨id, not_abandons_of_asked ?_, not_abandons_of_asked ?_, id, not_abandons_of_asked ?_, id,
      not_abandons_of_asked ?_, trivial⟩
  all_goals decide +kernel

end NodeFeatureOperator
