import NodeFeatureOperator.Proofs.Run

/-!
# Who answers for an object

Every object that passes ever create is answered for by some instance: by one that has the finalizer
of the operator, whose teardown will remove the object; or, if the object belongs to the whole
cluster, by any instance at all, since a teardown that spares such an object does so for the sake of
an instance that is to stay. `Cluster.Tidy` is this invariant together with what it rests on. Visits
keep it (`Context.visit_tidy`) as long as no prune job reports a success (`Cluster.Idle`), which no
visit does on its own (`Context.visit_idle`).
-/

namespace NodeFeatureOperator

open Cluster StoreM

/-- The instance will see to it that an object goes. -/
def Instance.AnswersFor (i : Instance) (manage : Bool) (k : Key) : Prop :=
  (i.hasFinalizer = true ∧
    (k ∈ deletionPlan i false manage ∨
      (i.isDeleting = true ∧ i.spec.pruneOnDelete = true ∧ k ∈ pruneResources.map (·.key i)))) ∨
  (k.kind.clusterScoped = true ∧ k ∈ deletionPlan i false manage)

/-- The instance is stored under its own identity, has no finalizers but that of the operator, and
has that one if it is to go. -/
structure Instance.Regular (i : Instance) (id : InstanceId) : Prop where
  named : i.id = id
  finalizers : ∀ f ∈ i.finalizers, f = Finalizer.own
  held : i.isDeleting = true → i.hasFinalizer = true

namespace Cluster

/-- Everything that is there is answered for by an instance. -/
structure Tidy (manage : Bool) (c : Cluster) : Prop where
  quiet : c.Quiet
  keyed : c.Keyed
  ordered : c.objects.Sorted
  sorted : c.instances.Sorted
  regular : ∀ id i, Table.get? c.instances id = some i → i.Regular id
  accounted : ∀ k o, Table.get? c.objects k = some o →
    ∃ id i, Table.get? c.instances id = some i ∧ i.AnswersFor manage k

/-- No job reports a success. -/
structure Idle (c : Cluster) : Prop where
  keyed : c.Keyed
  ordered : c.objects.Sorted
  jobs : ∀ k o, Table.get? c.objects k = some o → o.kind = .job → o.statusCount "succeeded" < 1

variable {K : Key → Prop} {manage : Bool} {c c' : Cluster} {i j : Instance} {id : InstanceId}

theorem tidy_empty (manage : Bool) : Tidy manage {} where
  quiet := ⟨rfl, rfl⟩
  keyed _ h := by cases h
  ordered := List.Pairwise.nil
  sorted := List.Pairwise.nil
  regular _ _ h := by cases h
  accounted _ _ h := by cases h

theorem idle_empty : Idle {} where
  keyed _ h := by cases h
  ordered := List.Pairwise.nil
  jobs _ _ h := by cases h

/-- Where there is no instance, nobody answers for anything. -/
theorem Tidy.objects_eq_nil (h : c.Tidy manage) (hc : c.instances = []) : c.objects = [] := by
  refine Table.eq_nil_of_get?_eq_none fun k => ?_
  cases ho : Table.get? c.objects k with
  | none => rfl
  | some o =>
    obtain ⟨id, i, hi, -⟩ := h.accounted k o ho
    rw [hc] at hi
    cases hi

/-! ## Instances that answer for the same -/

theorem answersFor_of_essence (h : j.essence = i.essence) {k : Key}
    (hk : i.AnswersFor manage k) : j.AnswersFor manage k :=
  (Instance.eq_of_essence (fun i => i.AnswersFor manage k) (fun _ => rfl) h).mpr hk

theorem regular_of_essence (h : j.essence = i.essence) (hi : i.Regular id) : j.Regular id where
  named := (Instance.id_of_essence h).trans hi.named
  finalizers := by
    rw [Instance.eq_of_essence Instance.finalizers (fun _ => rfl) h]
    exact hi.finalizers
  held hdeleting := by
    rw [Instance.eq_of_essence Instance.isDeleting (fun _ => rfl) h] at hdeleting
    rw [Instance.eq_of_essence Instance.hasFinalizer (fun _ => rfl) h]
    exact hi.held hdeleting

/-! ## Changes that keep the cluster tidy -/

namespace Tidy

/-- Only objects that are answered for are new. -/
theorem serves (h : c.Tidy manage) (hc : Serves K c c')
    (hK : ∀ k, K k → ∃ id i, Table.get? c.instances id = some i ∧ i.AnswersFor manage k) :
    c'.Tidy manage where
  quiet := hc.quiet h.quiet
  keyed := hc.keyed h.keyed
  ordered := hc.ordered h.ordered
  sorted := hc.sorted h.sorted
  regular id j hj := by
    obtain ⟨i, hi, heq⟩ := hc.instance_before hj
    exact regular_of_essence heq (h.regular id i hi)
  accounted k o ho := by
    have hanswers : ∃ id i, Table.get? c.instances id = some i ∧ i.AnswersFor manage k := by
      by_cases hk : K k
      · exact hK k hk
      · rw [hc.objects k hk] at ho
        exact h.accounted k o ho
    obtain ⟨id, i, hi, hk⟩ := hanswers
    obtain ⟨j, hj, heq⟩ := hc.instance_after hi
    exact ⟨id, j, hj, answersFor_of_essence heq hk⟩

/-- Objects change, but none is new. -/
theorem of_objects (h : c.Tidy manage) (hinstances : c'.instances = c.instances)
    (hfailures : c'.failures = c.failures) (hsticky : c'.sticky = c.sticky) (hkeyed : c'.Keyed)
    (hordered : c'.objects.Sorted)
    (hobjects : ∀ k o, Table.get? c'.objects k = some o → ∃ o', Table.get? c.objects k = some o') :
    c'.Tidy manage where
  quiet := ⟨hfailures.trans h.quiet.failures, hsticky.trans h.quiet.sticky⟩
  keyed := hkeyed
  ordered := hordered
  sorted := by rw [hinstances]; exact h.sorted
  regular := by rw [hinstances]; exact h.regular
  accounted k o ho := by
    obtain ⟨o', ho'⟩ := hobjects k o ho
    rw [hinstances]
    exact h.accounted k o' ho'

theorem removed (h : c.Tidy manage) (hc : Removed K c c') : c'.Tidy manage :=
  h.of_objects hc.instances hc.failures hc.sticky (hc.keyed h.keyed) (hc.ordered h.ordered)
    fun k o ho => ⟨o, hc.only k o ho⟩

/-- Instances change, but each is still there and answers for what it answered for. -/
theorem of_instances (h : c.Tidy manage) (hobjects : c'.objects = c.objects)
    (hfailures : c'.failures = c.failures) (hsticky : c'.sticky = c.sticky)
    (hsorted : c'.instances.Sorted)
    (hregular : ∀ id j, Table.get? c'.instances id = some j → j.Regular id)
    (hkept : ∀ id i, Table.get? c.instances id = some i → ∃ j, Table.get? c'.instances id = some j ∧
      ∀ k, i.AnswersFor manage k → j.AnswersFor manage k) :
    c'.Tidy manage where
  quiet := ⟨hfailures.trans h.quiet.failures, hsticky.trans h.quiet.sticky⟩
  keyed := by unfold Keyed; rw [hobjects]; exact h.keyed
  ordered := by rw [hobjects]; exact h.ordered
  sorted := hsorted
  regular := hregular
  accounted k o ho := by
    rw [hobjects] at ho
    obtain ⟨id, i, hi, hk⟩ := h.accounted k o ho
    obtain ⟨j, hj, hij⟩ := hkept id i hi
    exact ⟨id, j, hj, hij k hk⟩

/-- An instance is replaced by one that answers for the same. -/
theorem putInstance (h : c.Tidy manage) (hi : Table.get? c.instances id = some i)
    (hj : j.Regular id) (hij : ∀ k, i.AnswersFor manage k → j.AnswersFor manage k) :
    (c.putInstance id j).Tidy manage := by
  refine h.of_instances rfl rfl rfl (h.sorted.insert id j) (fun id' j' hj' => ?_)
    fun id' i' hi' => ?_
  · unfold Cluster.putInstance at hj'
    rw [Table.get?_insert] at hj'
    split at hj'
    · next heq =>
      subst heq
      obtain rfl := Option.some.inj hj'
      exact hj
    · exact h.regular id' j' hj'
  · unfold Cluster.putInstance
    rw [Table.get?_insert]
    split
    · next heq =>
      subst heq
      obtain rfl := Option.some.inj (hi.symm.trans hi')
      exact ⟨j, rfl, hij⟩
    · exact ⟨i', hi', fun _ hk => hk⟩

/-- An instance goes, and with it what it owns, if others answer for the rest. -/
theorem without (h : c.Tidy manage) (id : InstanceId) (uid : Option String)
    (hothers : ∀ k o, Table.get? c.objects k = some o → o.metadata.ownedBy uid = false →
      ∃ id' i, id' ≠ id ∧ Table.get? c.instances id' = some i ∧ i.AnswersFor manage k) :
    (c.without id uid).Tidy manage where
  quiet := ⟨h.quiet.failures, h.quiet.sticky⟩
  keyed row hrow := h.keyed row (List.mem_filter.1 hrow).1
  ordered := h.ordered.filter _
  sorted := h.sorted.erase id
  regular id' i hi := by
    change Table.get? (Table.erase c.instances id) id' = some i at hi
    rw [Table.get?_erase] at hi
    split at hi
    · cases hi
    · exact h.regular id' i hi
  accounted k o ho := by
    obtain ⟨ho, hunowned⟩ := h.ordered.get?_filter.1 ho
    obtain ⟨id', i, hne, hi, hk⟩ := hothers k o ho (by simpa using hunowned)
    refine ⟨id', i, ?_, hk⟩
    change Table.get? (Table.erase c.instances id) id' = some i
    rw [Table.get?_erase, if_neg (Ne.symm hne), hi]

end Tidy

/-! ## Idle clusters -/

theorem Idle.removed (h : c.Idle) (hc : Removed K c c') : c'.Idle where
  keyed := hc.keyed h.keyed
  ordered := hc.ordered h.ordered
  jobs k o ho := h.jobs k o (hc.only k o ho)

theorem Idle.serves (h : c.Idle) (hc : Attends K c c') (hK : ∀ k, K k → k.kind ≠ .job) :
    c'.Idle where
  keyed := (hc h.keyed).keyed h.keyed
  ordered := (hc h.keyed).ordered h.ordered
  jobs k o ho hkind := by
    have hkey : k.kind = .job := by
      rw [← ((hc h.keyed).keyed h.keyed).key_of_get? ho]
      exact hkind
    rw [(hc h.keyed).objects k fun hk => hK k hk hkey] at ho
    exact h.jobs k o ho hkind

theorem Idle.collect (h : c.Idle) (id : InstanceId) : (c.collect id).Idle := by
  rcases collect_cases c id with heq | ⟨i, -, -, -, heq⟩
  · rwa [heq]
  · rw [heq]
    exact ⟨fun row hrow => h.keyed row (List.mem_filter.1 hrow).1, h.ordered.filter _,
      fun k o ho => h.jobs k o (h.ordered.get?_filter.1 ho).1⟩

theorem updateInstance_idle (i : Instance) :
    Keeps (Preserves Idle) (Store.updateInstance i : StoreM Cluster Instance) := by
  intro c h
  have hcalled : (c.record (.one .update i.id)).bump.Idle :=
    h.removed ((removed_record (K := fun _ => True) ..).trans (removed_bump _))
  unfold StoreM.after
  rw [updateInstance_run]
  cases Table.get? c.instances i.id with
  | none => exact hcalled
  | some old =>
    by_cases hstale : isStale i.metadata old.metadata = true
    · simp only [hstale, if_true]
      exact hcalled
    · simp only [hstale, Bool.false_eq_true, if_false]
      refine Idle.collect ?_ i.id
      exact ⟨hcalled.keyed, hcalled.ordered, hcalled.jobs⟩

end Cluster

namespace Pass

variable {p : Pass}

/-- A job that a step with the prune job creates has not reported anything. -/
theorem prune_idle (h : p.templates.Sound) :
    Keeps (Preserves Idle) (p.prune : StoreM Cluster PruneState) := by
  intro c hc
  have htouches := prune_touches (p := p) h c hc.keyed
  refine ⟨htouches.keyed hc.keyed, htouches.ordered hc.ordered, fun k o ho hkind => ?_⟩
  have hkey : k.kind = .job := by
    rw [← (htouches.keyed hc.keyed).key_of_get? ho]
    exact hkind
  by_cases hk : k = p.keyOf pruneJob
  · subst hk
    rcases prune_fresh h hc.keyed ho with hold | hnew
    · exact hc.jobs _ o hold hkind
    · omega
  · have hother : ¬ p.Prunes k := by
      rintro ⟨-, hmem⟩
      obtain ⟨r, hr, rfl⟩ := List.mem_map.1 (mem_pruneKeys.1 hmem)
      have hjob : ∀ r ∈ pruneResources, r.kind = .job → r = pruneJob := by decide
      rw [keyOf, r.key_kind] at hkey
      exact hk (by rw [hjob r hr hkey])
    rw [htouches.objects k hother] at ho
    exact hc.jobs k o ho hkind

theorem clear_idle (h : p.templates.Sound) : Keeps (Preserves Idle) p.clear := by
  have hkeys (keys : List Key) : Keeps (Preserves Idle) (p.clearKeys keys) := by
    refine Keeps.bind ((deleteAll_removed _ _).mono fun _ _ hr hc => hc.removed hr) fun _ => ?_
    refine ((remaining_removed (K := fun _ => True) _).mono fun _ _ hr hc => hc.removed hr).bind
      fun left => ?_
    exact Keeps.ite (Keeps.pure _) ((prune_idle h).bind fun _ => Keeps.pure _)
  intro c hc
  rw [after_congr (clear_run p c)]
  exact hkeys (p.plan c) _ (hc.removed (removed_record (K := fun _ => True) c .listing))

theorem release_idle (p : Pass) :
    Keeps (Preserves Idle) (p.release : StoreM Cluster Action) :=
  Keeps.ite ((updateInstance_idle _).attempt.bind fun _ => Keeps.pure _) (Keeps.pure _)

theorem finalize_idle (h : p.templates.Sound) :
    Keeps (Preserves Idle) (p.finalize : StoreM Cluster Action) := by
  rw [finalize_eq]
  refine (clear_idle h).bind fun wait => ?_
  cases wait with
  | none => exact p.release_idle
  | some d => exact Keeps.pure _

end Pass

namespace Context

variable {ctx : Context} {c c' : Cluster} {i : Instance}

theorem finalVisit_idle (h : ctx.templates.Sound) (i : Instance) :
    Keeps (Preserves Idle) (ctx.finalVisit i : StoreM Cluster Action) := by
  refine (Pass.finalize_idle (p := ctx.pass i) h).attempt.bind fun answer => ?_
  cases answer with
  | ok a => exact Keeps.pure _
  | error e =>
    refine Keeps.bind ((ctx.pass i).reportError_serves (K := fun _ => False) _ _ |>.mono ?_)
      fun _ => Keeps.throw _
    exact fun c c' hs hc => hc.serves hs.attends fun k hk => hk.elim

theorem livePass_idle (h : ctx.templates.Sound) (i : Instance) :
    Keeps (Preserves Idle) (ctx.livePass i : StoreM Cluster Action) := by
  cases hfinalizer : i.hasFinalizer with
  | true =>
    refine (livePass_attends h hfinalizer).mono fun c c' hs hc => hc.serves hs fun k hk => ?_
    exact ne_job_of_mem_deletionPlan (Pass.mem_deletionPlan_of_deploys hk)
  | false =>
    unfold livePass
    simp only [hfinalizer]
    exact (updateInstance_idle _).bind fun _ => Keeps.pure _

/-- No visit makes a job report a success. -/
theorem visit_idle (h : ctx.templates.Sound) (id : InstanceId) :
    Keeps (Preserves Idle) (ctx.visit id : StoreM Cluster Action) := by
  have hread : Keeps (Preserves Idle) (Store.getInstance id : StoreM Cluster (Option Instance)) :=
    fun c hc => hc.removed (removed_record (K := fun _ => True) ..)
  refine hread.bind fun found => ?_
  cases found with
  | none => exact Keeps.pure _
  | some i =>
    exact Keeps.ite (Keeps.ite (ctx.finalVisit_idle h i) (Keeps.pure _)) (ctx.livePass_idle h i)

end Context

/-! ## Visits -/

theorem Instance.Regular.removeFinalizer_finalizers {id : InstanceId} {i : Instance}
    (h : i.Regular id) : i.removeFinalizer.finalizers = [] := by
  rw [i.finalizers_removeFinalizer, Finalizer.remove, List.filter_eq_nil_iff]
  intro f hf
  simp [h.finalizers f hf]

theorem Instance.Regular.addFinalizer {id : InstanceId} {i : Instance} (h : i.Regular id) :
    i.addFinalizer.Regular id where
  named := h.named
  finalizers f hf := by
    change f ∈ Finalizer.add i.finalizers Finalizer.own at hf
    unfold Finalizer.add at hf
    split at hf
    · exact h.finalizers f hf
    · rcases List.mem_append.1 hf with hf | hf
      · exact h.finalizers f hf
      · exact List.mem_singleton.1 hf
  held _ := decide_eq_true (Finalizer.mem_add i.finalizers Finalizer.own)

/-- Where the instance is as it was read and nothing else holds it, the release lets it go. -/
theorem Pass.release_collects {p : Pass} {c : Cluster} (hregular : p.subject.Regular p.subject.id)
    (hi : Table.get? c.instances p.subject.id = some p.subject)
    (hdeleting : p.subject.isDeleting = true) :
    ∃ c₁ : Cluster, Removed (fun _ => False) c c₁ ∧
      p.release c = .ok .await (c₁.without p.subject.id p.subject.metadata.uid) := by
  let called := (c.record (.one .update p.subject.id)).bump
  have hadopt : (called.adopt p.subject p.subject.removeFinalizer).essence
      = p.subject.removeFinalizer.essence := adopt_essence ..
  have hgoes := Instance.eq_of_essence Instance.isDeleting (fun _ => rfl) hadopt
  have hfree := Instance.eq_of_essence Instance.finalizers (fun _ => rfl) hadopt
  have hcollected := collect_of_free
    (c := called.putInstance p.subject.id (called.adopt p.subject p.subject.removeFinalizer))
    (Table.get?_insert_self ..) (hgoes.trans hdeleting)
    (hfree.trans hregular.removeFinalizer_finalizers)
  rw [putInstance_without, adopt_uid] at hcollected
  have hupdate := (updateInstance_fresh (j := p.subject.removeFinalizer) hi rfl rfl).trans
    (congrArg (EStateM.Result.ok _) hcollected)
  refine ⟨called, (removed_record ..).trans (removed_bump _), ?_⟩
  unfold release
  simp only [hregular.held hdeleting, if_true]
  exact bind_of_ok (attempt_of_ok hupdate)

namespace Context

variable {ctx : Context} {c c' c₁ : Cluster} {i : Instance} {id : InstanceId}

/-- What a visit to an instance that is to go may touch is what the instance answers for. -/
theorem answersFor_of_clears {k : Key} (hdeleting : i.isDeleting = true)
    (hfinalizer : i.hasFinalizer = true) (hk : (ctx.pass i).Clears c k) :
    i.AnswersFor ctx.settings.manageSecurityPolicies k := by
  refine Or.inl ⟨hfinalizer, ?_⟩
  rcases hk with hplan | ⟨hon, hprune⟩
  · exact Or.inl (mem_deletionPlan_of_shared hplan)
  · exact Or.inr ⟨hdeleting, hon, Pass.mem_pruneKeys.1 hprune⟩

/-- When an instance goes, others answer for what is left. -/
theorem answersFor_of_cleared (hc : c.Tidy ctx.settings.manageSecurityPolicies) (hidle : c.Idle)
    (hi : Table.get? c.instances i.id = some i) (hdeleting : i.isDeleting = true)
    (hcleared : (ctx.pass i).Cleared c c₁) {k : Key} {o : ManagedObject}
    (ho : Table.get? c₁.objects k = some o) :
    ∃ id' j, id' ≠ i.id ∧ Table.get? c.instances id' = some j ∧
      j.AnswersFor ctx.settings.manageSecurityPolicies k := by
  obtain ⟨id', j, hj, hk⟩ := hc.accounted k o (hcleared.removed.only k o ho)
  by_cases hid : id' = i.id
  · subst hid
    obtain rfl := Option.some.inj (hi.symm.trans hj)
    have hleft : k ∉ (ctx.pass i).plan c := by
      intro hplan
      rw [hcleared.gone k hplan] at ho
      cases ho
    have hplan : k ∈ deletionPlan i false ctx.settings.manageSecurityPolicies := by
      rcases hk with ⟨-, hplan | ⟨-, hon, -⟩⟩ | ⟨-, hplan⟩
      · exact hplan
      · -- The job cannot have succeeded, so the instance would not have been released.
        obtain ⟨⟨job, hjob, hkind, hsucceeded⟩, -⟩ := hcleared.pruned hon
        have := hidle.jobs _ job hjob hkind
        omega
      · exact hplan
    -- Nothing but what is shared can be left, and only for the sake of an instance that stays.
    cases hspares : (ctx.pass i).spares c with
    | false =>
      rw [Pass.plan_of_not_spares hspares] at hleft
      exact absurd hplan hleft
    | true =>
      cases hscope : k.kind.clusterScoped with
      | false =>
        unfold Pass.plan at hleft
        exact absurd (mem_deletionPlan_of_namespaced hplan hscope) hleft
      | true =>
        obtain ⟨j, hj, -, hlive⟩ := Pass.spares_iff.1 hspares
        obtain ⟨⟨id', _⟩, hrow, rfl⟩ := List.mem_map.1 hj
        have hstored := hc.sorted.get?_of_mem hrow
        refine ⟨id', _, ?_, hstored,
          Or.inr ⟨hscope, mem_deletionPlan_of_clusterScoped _ hplan hscope⟩⟩
        rintro rfl
        rw [← Option.some.inj (hi.symm.trans hstored), hdeleting] at hlive
        cases hlive
  · exact ⟨id', j, hid, hj, hk⟩

theorem finalVisit_tidy (h : ctx.templates.Sound)
    (hc : c.Tidy ctx.settings.manageSecurityPolicies) (hidle : c.Idle)
    (hi : Table.get? c.instances i.id = some i) (hdeleting : i.isDeleting = true) :
    ((ctx.finalVisit i : StoreM Cluster Action).after c).Tidy
      ctx.settings.manageSecurityPolicies := by
  have hregular := hc.regular _ _ hi
  rcases ctx.finalVisit_cases h i c with ⟨c₁, hcleared, hrun⟩ | ⟨hserves, -⟩
  · have hi₁ : Table.get? c₁.instances i.id = some i := by
      rw [hcleared.removed.instances, hi]
    obtain ⟨c₂, hcalled, hrelease⟩ := Pass.release_collects (p := ctx.pass i) hregular hi₁ hdeleting
    rw [after_congr hrun, after_ok hrelease]
    refine ((hc.removed hcleared.removed).removed hcalled).without _ _ fun k o ho _ => ?_
    obtain ⟨id', j, hne, hj, hk⟩ :=
      answersFor_of_cleared hc hidle hi hdeleting hcleared (hcalled.only k o ho)
    refine ⟨id', j, hne, ?_, hk⟩
    rw [hcalled.instances, hcleared.removed.instances, hj]
  · exact hc.serves (hserves hc.keyed) fun k hk =>
      ⟨i.id, i, hi, answersFor_of_clears hdeleting (hregular.held hdeleting) hk⟩

theorem livePass_tidy (h : ctx.templates.Sound)
    (hc : c.Tidy ctx.settings.manageSecurityPolicies)
    (hi : Table.get? c.instances i.id = some i) (hlive : i.isDeleting = false) :
    ((ctx.livePass i : StoreM Cluster Action).after c).Tidy
      ctx.settings.manageSecurityPolicies := by
  cases hfinalizer : i.hasFinalizer with
  | true =>
    refine hc.serves (livePass_attends h hfinalizer c hc.keyed) fun k hk => ?_
    have hplan := Pass.mem_deletionPlan_of_deploys (p := ctx.pass i) hk
    exact ⟨i.id, i, hi, Or.inl ⟨hfinalizer, Or.inl hplan⟩⟩
  | false =>
    obtain ⟨c₁, hcalled, hrun⟩ := ctx.livePass_claims hi hlive hfinalizer
    have hadopt : (c₁.adopt i i.addFinalizer).essence = i.addFinalizer.essence :=
      adopt_essence ..
    rw [after_ok hrun]
    refine (hc.removed hcalled).putInstance (i := i) ?_
      (regular_of_essence hadopt (hc.regular _ _ hi).addFinalizer) fun k hk => ?_
    · rw [hcalled.instances, hi]
    · refine answersFor_of_essence hadopt ?_
      rcases hk with ⟨hhas, -⟩ | hk
      · rw [hfinalizer] at hhas
        cases hhas
      · exact Or.inr hk

/-- Visits keep the cluster tidy while no prune job reports a success. -/
theorem visit_tidy (h : ctx.templates.Sound) (hc : c.Tidy ctx.settings.manageSecurityPolicies)
    (hidle : c.Idle) (id : InstanceId) :
    ((ctx.visit id : StoreM Cluster Action).after c).Tidy ctx.settings.manageSecurityPolicies := by
  have hread : Removed (fun _ => False) c (c.record (.one .get id)) := removed_record ..
  have hc₁ := hc.removed hread
  cases hi : Table.get? c.instances id with
  | none =>
    rw [after_ok (ctx.visit_of_missing hi)]
    exact hc₁
  | some i =>
    have hregular := hc.regular id i hi
    obtain rfl := hregular.named
    cases hdeleting : i.isDeleting with
    | true =>
      rw [after_congr (ctx.visit_of_deleting hi hdeleting (hregular.held hdeleting))]
      exact finalVisit_tidy h hc₁ (hidle.removed hread) hi hdeleting
    | false =>
      rw [after_congr (ctx.visit_of_live hi hdeleting)]
      exact livePass_tidy h hc₁ hi hdeleting

end Context

/-! ## Changes from outside -/

namespace Cluster

variable {manage : Bool} {c : Cluster} {i : Instance} {id : InstanceId}

/-- A new instance answers for nothing and takes nobody's place. -/
theorem insertInstance_tidy (h : c.Tidy manage) (hlive : i.isDeleting = false)
    (hfinalizers : i.finalizers = []) (hfree : Table.get? c.instances i.id = none) :
    (c.insertInstance i).2.Tidy manage := by
  refine h.of_instances rfl rfl rfl (h.sorted.insert _ _) (fun id j hj => ?_) fun id j hj => ?_
  · change Table.get? (Table.insert c.instances i.id _) id = some j at hj
    rw [Table.get?_insert] at hj
    split at hj
    · next heq =>
      obtain rfl := Option.some.inj hj
      refine ⟨heq, fun f hf => ?_, fun hdeleting => ?_⟩
      · change f ∈ i.finalizers at hf
        rw [hfinalizers] at hf
        cases hf
      · change i.isDeleting = true at hdeleting
        rw [hlive] at hdeleting
        cases hdeleting
    · exact h.regular id j hj
  · refine ⟨j, ?_, fun _ hk => hk⟩
    change Table.get? (Table.insert c.instances i.id _) id = some j
    rw [Table.get?_insert, if_neg fun heq => ?_, hj]
    rw [heq, hj] at hfree
    cases hfree

/-- An instance is changed in place. -/
theorem Tidy.modifyInstance {c' : Cluster} (h : c.Tidy manage) (f : Instance → Instance)
    (hinstances : c'.instances = Table.modify c.instances id f) (hobjects : c'.objects = c.objects)
    (hfailures : c'.failures = c.failures) (hsticky : c'.sticky = c.sticky)
    (hf : ∀ i, Table.get? c.instances id = some i → (f i).Regular id ∧
      ∀ k, i.AnswersFor manage k → (f i).AnswersFor manage k) :
    c'.Tidy manage := by
  refine h.of_instances hobjects hfailures hsticky (hinstances ▸ h.sorted.modify id f)
    (fun id' j hj => ?_) fun id' i hi => ?_
  · rw [hinstances, Table.get?_modify] at hj
    split at hj
    · next heq =>
      subst heq
      obtain ⟨i, hi, rfl⟩ := Option.map_eq_some_iff.1 hj
      exact (hf i hi).1
    · exact h.regular id' j hj
  · rw [hinstances, Table.get?_modify]
    split
    · next heq =>
      subst heq
      exact ⟨f i, by rw [hi, Option.map_some], (hf i hi).2⟩
    · exact ⟨i, hi, fun _ hk => hk⟩

/-- The instance with another spec. -/
def respec (c : Cluster) (spec : InstanceSpec) (i : Instance) : Instance :=
  { i with
    spec
    metadata := { i.metadata with
      generation := some (i.metadata.generation.getD 0 + 1)
      resourceVersion := some c.versionText } }

/-- Another spec makes no difference while the instance is to stay, or if it asked for no pruning.
-/
theorem editInstance_tidy (h : c.Tidy manage) (spec : InstanceSpec)
    (hedit : ∀ i, Table.get? c.instances id = some i →
      i.isDeleting = false ∨ i.spec.pruneOnDelete = false) :
    (c.editInstance id spec).Tidy manage := by
  refine h.modifyInstance (c.bump.respec spec) rfl rfl rfl rfl fun i hi => ?_
  have hregular := h.regular id i hi
  refine ⟨⟨hregular.named, hregular.finalizers, hregular.held⟩, fun k hk => ?_⟩
  rcases hk with ⟨hfinalizer, hplan | ⟨hdeleting, hon, -⟩⟩ | hshared
  · exact Or.inl ⟨hfinalizer, Or.inl hplan⟩
  · rcases hedit i hi with hlive | hoff
    · rw [hdeleting] at hlive
      cases hlive
    · rw [hon] at hoff
      cases hoff
  · exact Or.inr hshared

/-- The instance with a deletion asked for. -/
def mark (c : Cluster) (i : Instance) : Instance :=
  { i with metadata :=
    { i.metadata with
      deletionTimestamp := some (i.metadata.deletionTimestamp.getD (.reading c.step))
      resourceVersion := some c.versionText } }

theorem markDeleting_eq (c : Cluster) (id : InstanceId) :
    c.markDeleting id =
      { c.bump with instances := Table.modify c.instances id c.bump.mark }.collect id := rfl

/-- An instance that nothing holds goes at once. -/
theorem markDeleting_of_free (hi : Table.get? c.instances id = some i) (hfree : i.finalizers = []) :
    c.markDeleting id = c.bump.without id i.metadata.uid := by
  have hmarked :
      Table.get? (Table.modify c.instances id c.bump.mark) id = some (c.bump.mark i) := by
    rw [Table.get?_modify, if_pos rfl, hi, Option.map_some]
  have hgoes : (c.bump.mark i).isDeleting = true := rfl
  rw [markDeleting_eq, collect_of_free hmarked hgoes hfree]
  unfold without
  rw [Table.erase_modify]
  rfl

/-- An instance that something holds stays. -/
theorem markDeleting_of_held (hi : Table.get? c.instances id = some i)
    (hheld : i.finalizers ≠ []) :
    c.markDeleting id = { c.bump with instances := Table.modify c.instances id c.bump.mark } := by
  have hmarked :
      Table.get? (Table.modify c.instances id c.bump.mark) id = some (c.bump.mark i) := by
    rw [Table.get?_modify, if_pos rfl, hi, Option.map_some]
  have hfinalizers : (c.bump.mark i).finalizers.isEmpty = false := by
    rw [Bool.eq_false_iff, Ne, List.isEmpty_iff]
    exact hheld
  rw [markDeleting_eq]
  exact collect_of_held hmarked (by rw [hfinalizers, Bool.and_false])

theorem markDeleting_of_missing (hi : Table.get? c.instances id = none) :
    c.markDeleting id = { c.bump with instances := Table.modify c.instances id c.bump.mark } := by
  rw [markDeleting_eq]
  unfold collect
  rw [show Table.get? (Table.modify c.instances id c.bump.mark) id = none by
    rw [Table.get?_modify, if_pos rfl, hi, Option.map_none]]

/-- An instance that is held goes on answering for everything. -/
theorem markDeleting_tidy_of_held (h : c.Tidy manage) (hi : Table.get? c.instances id = some i)
    (hheld : i.finalizers ≠ []) : (c.markDeleting id).Tidy manage := by
  have hbump : c.bump.Tidy manage := h.removed (removed_bump (K := fun _ => False) c)
  have hregular := h.regular id i hi
  have hhas : i.hasFinalizer = true := by
    obtain ⟨f, hf⟩ := List.exists_mem_of_ne_nil _ hheld
    obtain rfl := hregular.finalizers f hf
    exact decide_eq_true hf
  rw [markDeleting_of_held hi hheld]
  refine hbump.modifyInstance c.bump.mark rfl rfl rfl rfl fun j hj => ?_
  obtain rfl := Option.some.inj (hi.symm.trans hj)
  refine ⟨⟨hregular.named, hregular.finalizers, fun _ => hhas⟩, fun k hk => ?_⟩
  rcases hk with ⟨-, hplan | ⟨-, hon, hprune⟩⟩ | hshared
  · exact Or.inl ⟨hhas, Or.inl hplan⟩
  · exact Or.inl ⟨hhas, Or.inr ⟨rfl, hon, hprune⟩⟩
  · exact Or.inr hshared

theorem markDeleting_idle (h : c.Idle) (id : InstanceId) : (c.markDeleting id).Idle := by
  rw [markDeleting_eq]
  refine Idle.collect ?_ id
  exact ⟨h.keyed, h.ordered, h.jobs⟩

/-! ### Objects that report -/

/-- The second cluster is the first with every object rewritten under its key. -/
structure Rewritten (g : Key → ManagedObject → ManagedObject) (c c' : Cluster) : Prop where
  objects : c'.objects = c.objects.map fun row => (row.1, g row.1 row.2)
  key : ∀ k o, (g k o).key = o.key
  instances : c'.instances = c.instances
  failures : c'.failures = c.failures
  sticky : c'.sticky = c.sticky

namespace Rewritten

variable {g : Key → ManagedObject → ManagedObject} {c' : Cluster}

theorem get? (h : Rewritten g c c') (k : Key) :
    Table.get? c'.objects k = (Table.get? c.objects k).map (g k) := by
  rw [h.objects, Table.get?_map]

theorem keyed (h : Rewritten g c c') (hc : c.Keyed) : c'.Keyed := by
  intro row hrow
  rw [h.objects] at hrow
  obtain ⟨row', hrow', rfl⟩ := List.mem_map.1 hrow
  exact (h.key ..).trans (hc row' hrow')

theorem ordered (h : Rewritten g c c') (hc : c.objects.Sorted) : c'.objects.Sorted := by
  rw [h.objects]
  exact hc.map g

theorem tidy (h : Rewritten g c c') (hc : c.Tidy manage) : c'.Tidy manage := by
  refine hc.of_objects h.instances h.failures h.sticky (h.keyed hc.keyed) (h.ordered hc.ordered)
    fun k o ho => ?_
  rw [h.get?] at ho
  obtain ⟨o', ho', -⟩ := Option.map_eq_some_iff.1 ho
  exact ⟨o', ho'⟩

/-- The cluster stays idle if what is rewritten reports no success. -/
theorem idle (h : Rewritten g c c') (hc : c.Idle)
    (hg : ∀ k o, Table.get? c.objects k = some o → o.kind = .job →
      (g k o).statusCount "succeeded" < 1) : c'.Idle where
  keyed := h.keyed hc.keyed
  ordered := h.ordered hc.ordered
  jobs k o ho hkind := by
    rw [h.get?] at ho
    obtain ⟨o', ho', rfl⟩ := Option.map_eq_some_iff.1 ho
    exact hg k o' ho' ((congrArg Key.kind (h.key k o')).symm.trans hkind)

end Rewritten

/-- A job with a status that counts its pods. -/
def withJobStatus (succeeded failed : Int) (o : ManagedObject) : ManagedObject :=
  if o.kind = .job then
    o.setField "status" (.obj [("failed", .int failed), ("succeeded", .int succeeded)])
  else o

theorem withJobStatus_kind (succeeded failed : Int) (o : ManagedObject) :
    (withJobStatus succeeded failed o).kind = o.kind := by
  unfold withJobStatus
  split <;> rfl

theorem statusCount_withJobStatus {o : ManagedObject} (h : o.kind = .job) (succeeded failed : Int) :
    (withJobStatus succeeded failed o).statusCount "succeeded" = succeeded ∧
      (withJobStatus succeeded failed o).statusCount "failed" = failed := by
  have hpath (name : String) : (withJobStatus succeeded failed o).at? ["status", name] =
      Table.get? [("failed", .int failed), ("succeeded", .int succeeded)] name := by
    unfold withJobStatus ManagedObject.at? ManagedObject.setField
    rw [if_pos h]
    simp [Json.at?, Json.get?, Json.asObject?, Table.get?_insert_self]
  unfold ManagedObject.statusCount
  rw [hpath, hpath]
  exact ⟨rfl, rfl⟩

theorem setJobStatus_rewritten (c : Cluster) (key : Key) (succeeded failed : Int) :
    Rewritten (fun k o => if k = key then withJobStatus succeeded failed o else o) c
      (c.setJobStatus key succeeded failed) where
  objects := Table.modify_eq_map c.objects key (withJobStatus succeeded failed)
  key k o := by
    unfold withJobStatus
    split
    · split <;> rfl
    · rfl
  instances := rfl
  failures := rfl
  sticky := rfl

theorem markReady_rewritten (c : Cluster) (ns : String) :
    Rewritten (fun k o => if k.ns = some ns then makeReady o else o) c (c.markReady ns) where
  objects := List.map_congr_left fun row _ => by split <;> rfl
  key k o := by
    unfold makeReady
    split
    · split <;> rfl
    · rfl
  instances := rfl
  failures := rfl
  sticky := rfl

theorem markReady_idle (h : c.Idle) (ns : String) : (c.markReady ns).Idle := by
  refine (c.markReady_rewritten ns).idle h fun k o ho hkind => ?_
  have hsame : makeReady o = o := by
    unfold makeReady
    rw [hkind]
  rw [hsame, ite_self]
  exact h.jobs k o ho hkind

theorem setJobStatus_idle (h : c.Idle) (key : Key) {succeeded : Int} (hsucceeded : succeeded < 1)
    (failed : Int) : (c.setJobStatus key succeeded failed).Idle := by
  refine (c.setJobStatus_rewritten key succeeded failed).idle h fun k o ho hkind => ?_
  split
  · rw [(statusCount_withJobStatus hkind succeeded failed).1]
    exact hsucceeded
  · exact h.jobs k o ho hkind

end Cluster

end NodeFeatureOperator
