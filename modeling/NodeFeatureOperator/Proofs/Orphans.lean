import NodeFeatureOperator.Proofs.Accounting

/-!
# Orphans

An object is an orphan when the cluster holds no instance any more. Nothing that can happen makes
orphans but one step: a deletion is asked for of the only instance there is, before the operator has
put its finalizer on it, while objects are left that the instance does not own (`Strands`). Such
objects are there when the last teardown spared them for the sake of that instance. A run has no
orphans exactly if it has no such step (`no_orphans`), and there are runs that have one
(`orphans_of_unclaimed`).
-/

namespace NodeFeatureOperator

open Cluster StoreM

/-- The steps of a run in which instances come live and without finalizers, each under an identity
of its own, and in which specs are edited that do not ask for pruning before or after. -/
def Admissible (c : Cluster) : Step → Prop
  | .insertInstance i =>
    i.isDeleting = false ∧ i.finalizers = [] ∧ Table.get? c.instances i.id = none
  | .editSpec id spec => spec.pruneOnDelete = false ∧
    ∀ i, Table.get? c.instances id = some i → i.spec.pruneOnDelete = false
  | .markDeleting _ => True
  | .pass _ => True
  | _ => False

/-- The step lets the only instance go at once, and objects are left that it does not own. -/
def Strands (c : Cluster) : Step → Prop
  | .markDeleting id => ∃ i, Table.get? c.instances id = some i ∧ i.finalizers = [] ∧
    (∀ id', id' ≠ id → Table.get? c.instances id' = none) ∧
    ∃ k o, Table.get? c.objects k = some o ∧ o.metadata.ownedBy i.metadata.uid = false
  | _ => False

variable {ctx : Context} {manage : Bool} {c : Cluster} {i : Instance} {id : InstanceId} {s : Step}

theorem not_strands_of_claimed
    (h : ((Table.get? c.instances id).all fun i => i.finalizers ≠ []) = true) :
    ¬ Strands c (.markDeleting id) := by
  rintro ⟨i, hi, hfree, -⟩
  rw [hi, Option.all_some, hfree] at h
  cases h

theorem markDeleting_tidy (h : c.Tidy manage) (hs : ¬ Strands c (.markDeleting id)) :
    (c.markDeleting id).Tidy manage := by
  have hbump : c.bump.Tidy manage := h.removed (removed_bump (K := fun _ => False) c)
  cases hi : Table.get? c.instances id with
  | none =>
    rw [markDeleting_of_missing hi]
    refine hbump.modifyInstance c.bump.mark rfl rfl rfl rfl fun i hi' => ?_
    cases hi.symm.trans hi'
  | some i =>
    have hregular := h.regular id i hi
    by_cases hfree : i.finalizers = []
    · have hlacks : i.hasFinalizer = false := by
        unfold Instance.hasFinalizer
        rw [hfree]
        rfl
      rw [markDeleting_of_free hi hfree]
      refine hbump.without id _ fun k o ho hunowned => ?_
      obtain ⟨id', j, hj, hk⟩ := h.accounted k o ho
      by_cases hid : id' = id
      · subst hid
        obtain rfl := Option.some.inj (hi.symm.trans hj)
        rcases hk with ⟨hhas, -⟩ | ⟨hscope, hplan⟩
        · rw [hlacks] at hhas
          cases hhas
        · -- Somebody else is there, and answers for what is shared as well.
          refine Classical.byContradiction fun hnobody => hs ?_
          refine ⟨i, hi, hfree, fun id'' hne => ?_, k, o, ho, hunowned⟩
          cases hj : Table.get? c.instances id'' with
          | none => rfl
          | some j =>
            exact absurd ⟨id'', j, hne, hj, Or.inr ⟨hscope,
              mem_deletionPlan_of_clusterScoped j hplan hscope⟩⟩ hnobody
      · exact ⟨id', j, hid, hj, hk⟩
    · exact markDeleting_tidy_of_held h hi hfree

/-- A step of an admissible run keeps the cluster tidy, unless it strands objects. -/
theorem onCluster_tidy (ctx : Context) (h : ctx.templates.Sound)
    (hc : c.Tidy ctx.settings.manageSecurityPolicies ∧ c.Idle) (hs : Admissible c s)
    (hkept : ¬ Strands c s) :
    (s.onCluster ctx c).Tidy ctx.settings.manageSecurityPolicies ∧ (s.onCluster ctx c).Idle := by
  obtain ⟨htidy, hidle⟩ := hc
  cases s with
  | insertInstance i =>
    obtain ⟨hlive, hfinalizers, hfree⟩ := hs
    exact ⟨insertInstance_tidy htidy hlive hfinalizers hfree, hidle.keyed, hidle.ordered,
      hidle.jobs⟩
  | editSpec id spec =>
    exact ⟨editInstance_tidy htidy spec fun i hi => Or.inr (hs.2 i hi), hidle.keyed,
      hidle.ordered, hidle.jobs⟩
  | markDeleting id => exact ⟨markDeleting_tidy htidy hkept, markDeleting_idle hidle id⟩
  | pass id => exact ⟨ctx.visit_tidy h htidy hidle id, ctx.visit_idle h id c hidle⟩
  | markReady ns => exact hs.elim
  | setJobStatus key succeeded failed => exact hs.elim
  | failOn verb key code => exact hs.elim
  | clearFailures => exact hs.elim

/-- A step that strands objects leaves no instance, and leaves the objects. -/
theorem orphans_of_strands (ctx : Context) (hs : Strands c s) :
    (s.onCluster ctx c).instances = [] ∧ (s.onCluster ctx c).objects ≠ [] := by
  cases s with
  | markDeleting id =>
    obtain ⟨i, hi, hfree, halone, k, o, ho, hunowned⟩ := hs
    change (c.markDeleting id).instances = [] ∧ (c.markDeleting id).objects ≠ []
    rw [markDeleting_of_free hi hfree]
    refine ⟨Table.eq_nil_of_get?_eq_none fun id' => ?_, fun hnil => ?_⟩
    · change Table.get? (Table.erase c.instances id) id' = none
      rw [Table.get?_erase]
      split
      · rfl
      · next hne => exact halone id' (Ne.symm hne)
    · have hleft : Table.get? (c.bump.without id i.metadata.uid).objects k = some o :=
        Table.get?_filter_of_pos ho (by simp [hunowned])
      rw [hnil] at hleft
      cases hleft
  | _ => exact hs.elim

/-- There are no orphans in a run of live instances, whose specs do not turn to pruning, exactly if
no step of the run strands objects: if no deletion is asked for of an instance that is alone and not
yet claimed by the operator while there are objects that it does not own. -/
theorem no_orphans (settings : Settings) (op : Operator Cluster) (hop : op.store = {})
    (steps : List Step) (hsteps : Each { settings } Admissible op steps) :
    Always { settings } (fun c => c.instances = [] → c.objects = []) op steps ↔
      Each { settings } (fun c s => ¬ Strands c s) op steps := by
  refine always_iff_each_not (P := Admissible)
    (I := fun c => c.Tidy settings.manageSecurityPolicies ∧ c.Idle)
    (fun c s hc hs hkept => onCluster_tidy { settings } Registry.own_sound hc hs hkept)
    (fun c hc => hc.1.objects_eq_nil) (fun c s _ _ hs hgood => ?_) ?_ hsteps
  · obtain ⟨hinstances, hobjects⟩ := orphans_of_strands { settings } hs
    exact hobjects (hgood hinstances)
  · rw [hop]
    exact ⟨tidy_empty _, idle_empty⟩

/-- The operator has not got to the second instance when its deletion is asked for, and the teardown
of the first one has spared what they were to share. -/
theorem orphans_of_unclaimed :
    let a := Instance.bare ⟨"a", "nfd"⟩
    let b := Instance.bare ⟨"b", "nfd"⟩
    let steps : List Step := [.insertInstance a, .pass a.id, .pass a.id, .insertInstance b,
      .markDeleting a.id, .pass a.id, .markDeleting b.id]
    Each { settings := {} } Admissible { store := {} } steps ∧
      (run { settings := {} } { store := {} } steps).store.instances = [] ∧
      (run { settings := {} } { store := {} } steps).store.objects ≠ [] := by
  refine ⟨⟨⟨?_, ?_, ?_⟩, trivial, trivial, ⟨?_, ?_, ?_⟩, trivial, trivial, trivial, trivial⟩,
    ?_, ?_⟩
  all_goals decide +kernel

/-- The first instance alone comes and goes without orphans. -/
theorem no_orphans_alone :
    let a := Instance.bare ⟨"a", "nfd"⟩
    let steps : List Step := [.insertInstance a, .pass a.id, .pass a.id, .markDeleting a.id,
      .pass a.id]
    Always { settings := {} } (fun c => c.instances = [] → c.objects = []) { store := {} }
      steps := by
  intro a steps
  have hsteps : Each { settings := {} } Admissible { store := {} } steps := by
    refine ⟨⟨?_, ?_, ?_⟩, trivial, trivial, trivial, trivial, trivial⟩
    all_goals decide +kernel
  refine (no_orphans {} { store := {} } rfl steps hsteps).2
    ⟨id, id, id, not_strands_of_claimed ?_, id, trivial⟩
  decide +kernel

end NodeFeatureOperator
