import NodeFeatureOperator.Proofs.Classification
import NodeFeatureOperator.Proofs.Resumption

/-!
# Passes over instances of different namespaces

Two passes over instances of different namespaces write over one another where objects belong to the
whole cluster, and nowhere else (`Context.Visit.apart`). What a pass does to the objects of its own
namespace, what it finds and what it reports does not depend on the contents of the shared objects
(`Pass.Walk.beside`), so a pass comes to the same whether the other one was before it or not
(`Context.Visit.beside`), and two passes may change places (`Context.reconcile_commutes`).
-/

namespace NodeFeatureOperator

open Cluster StoreM

/-! ## Objects of the whole cluster -/

/-- An object of the whole cluster is available once it is there. -/
theorem Health.classify_shared (key : Key) {o : ManagedObject}
    (h : o.kind.clusterScoped = true) : classify key (some o) = .ok .available := by
  refine classify_of_other key fun hkind => ?_
  rcases hkind with hkind | hkind <;> simp [hkind, Kind.clusterScoped] at h

namespace Pass

variable {p : Pass} {r : Resource} {c c' : Cluster} {t : Component × Resource}
  {done rest : List (Component × Resource)} {failure : Option (Component × Error)}

/-- An object of the whole cluster can always become what it is to be. -/
theorem goal_shared (h : p.Fit) (hr : r ∈ p.deployed) {found : Option ManagedObject}
    (hfound : r.Fits found) (hscope : r.kind.clusterScoped = true) :
    ∃ o, p.goal r found = .ok o := by
  obtain ⟨d, hd⟩ := h.desires hr
  cases found with
  | none =>
    rw [hd.goal_none]
    exact ⟨d, ManagedObject.own_of_clusterScoped (by rw [hd.stands.kind, hscope])⟩
  | some live =>
    obtain ⟨hlive, hkind⟩ := hfound live rfl
    rw [hd.goal_some hlive hkind]
    exact ⟨_, ManagedObject.own_of_clusterScoped (hkind ▸ hscope)⟩

theorem healthOn_shared (hc : c.Orderly) (hquiet : c.failures = [])
    (hscope : r.kind.clusterScoped = true)
    (hthere : Table.contains c.objects (p.keyOf r) = true) : p.healthOn c r = .ok .available := by
  obtain ⟨o, ho⟩ := Option.isSome_iff_exists.1 hthere
  have hkind : o.kind = r.kind := (hc.found r p.subject o ho).2
  unfold healthOn
  rw [injected?_of_clear hquiet, ho]
  exact Health.classify_shared _ (hkind ▸ hscope)

/-- A pass finds the same where shared objects are there in both clusters and all others are the
same but for their marks. -/
theorem finding_alike (hc : c.Orderly) (hc' : c'.Orderly) (hquiet : c.failures = [])
    (hquiet' : c'.failures = [])
    (h : ∀ r ∈ p.deployed, (r.kind.clusterScoped = true ∧
        Table.contains c.objects (p.keyOf r) = true ∧
        Table.contains c'.objects (p.keyOf r) = true) ∨
      (Table.get? c.objects (p.keyOf r)).map (·.marked none none)
        = (Table.get? c'.objects (p.keyOf r)).map (·.marked none none)) :
    p.finding c' = p.finding c := by
  refine finding_congr fun r hr => ?_
  rcases h r hr with ⟨hscope, hthere, hthere'⟩ | hsame
  · rw [healthOn_shared hc hquiet hscope hthere, healthOn_shared hc' hquiet' hscope hthere']
  · exact healthOn_marked hquiet hquiet' hsame

theorem keyOf_ns (p : Pass) (hscope : r.kind.clusterScoped = false) :
    (p.keyOf r).ns = some p.subject.ns := by
  unfold keyOf Resource.key Key.forInstance
  rw [if_neg (by simp [hscope])]
  rfl

/-- Beside the objects that it gets past a walk creates none. -/
theorem Walk.contains_iff (h : p.Walk c c' done rest failure) (k : Key) :
    Table.contains c'.objects k = true ↔
      Table.contains c.objects k = true ∨ ∃ t ∈ done, p.keyOf t.2 = k := by
  by_cases hk : ∃ t ∈ done, p.keyOf t.2 = k
  · refine iff_of_true ?_ (Or.inr hk)
    obtain ⟨t, ht, rfl⟩ := hk
    obtain ⟨-, o, version, uid, -, hput, -⟩ := h.reached t ht
    unfold Table.contains
    rw [hput]
    rfl
  · unfold Table.contains
    rw [h.within.objects k hk]
    exact (or_iff_left hk).symm

end Pass

/-! ## Clusters apart -/

namespace Cluster

/-- The second cluster comes of the first by a pass over an instance of another namespace: the
objects of this namespace are the same, and none of the objects of the whole cluster is gone. -/
structure Apart (ns : String) (c c' : Cluster) : Prop where
  objects : ∀ k : Key, k.kind.clusterScoped = false → k.ns = some ns →
    Table.get? c'.objects k = Table.get? c.objects k
  shared : ∀ k, Table.contains c.objects k = true → Table.contains c'.objects k = true
  failures : c'.failures = c.failures

end Cluster

namespace Pass

variable {p : Pass} {c c' a b : Cluster}
  {doneA restA doneB restB : List (Component × Resource)}
  {failureA failureB : Option (Component × Error)}

/-- Whether an object can become anything does not depend on other namespaces. -/
theorem goalOn_apart (h : p.Fit) (hc : c.Orderly) (hc' : c'.Orderly)
    (hapart : Apart p.subject.ns c c') {r : Resource} (hr : r ∈ p.deployed) :
    (p.goalOn c' r).map (fun _ => ()) = (p.goalOn c r).map fun _ => () := by
  unfold goalOn
  cases hscope : r.kind.clusterScoped with
  | true =>
    obtain ⟨o, ho⟩ := goal_shared h hr (hc.found r p.subject) hscope
    obtain ⟨o', ho'⟩ := goal_shared h hr (hc'.found r p.subject) hscope
    unfold keyOf
    rw [ho, ho']
    rfl
  | false =>
    have hkind : (p.keyOf r).kind.clusterScoped = false := (r.key_kind p.subject).symm ▸ hscope
    rw [hapart.objects _ hkind (p.keyOf_ns hscope)]

/-- A walk comes to the same in its own namespace and finds out the same, whether there was a pass
over an instance of another namespace before it or not. -/
theorem Walk.beside (h : p.Fit) (hc : c.Orderly) (hc' : c'.Orderly) (hquiet : c.failures = [])
    (hapart : Apart p.subject.ns c c') (ha : a.Orderly) (hb : b.Orderly)
    (hwalk : p.Walk c a doneA restA failureA) (hA : p.worklist = doneA ++ restA)
    (hwalk' : p.Walk c' b doneB restB failureB) (hB : p.worklist = doneB ++ restB) :
    doneB = doneA ∧ p.finding b failureB = p.finding a failureA ∧
      ∀ k : Key, k.kind.clusterScoped = false → k.ns = some p.subject.ns →
        Kin (Table.get? c.objects k) (Table.get? a.objects k) (Table.get? b.objects k) := by
  obtain ⟨hreach, hobstacle⟩ := reach_congr (p := p) fun t (ht : t ∈ p.worklist) =>
    goalOn_apart h hc hc' hapart (mem_deployed ht)
  obtain ⟨hreachA, hobstacleA⟩ := hwalk.of_quiet hquiet
  obtain ⟨hreachB, hobstacleB⟩ := hwalk'.of_quiet (hapart.failures.trans hquiet)
  rw [← hA] at hreachA hobstacleA
  rw [← hB] at hreachB hobstacleB
  obtain rfl : doneB = doneA := hreachB.symm.trans (hreach.trans hreachA)
  obtain rfl : failureB = failureA := hobstacleB.symm.trans (hobstacle.trans hobstacleA)
  have hkin (k : Key) (hscope : k.kind.clusterScoped = false) (hns : k.ns = some p.subject.ns) :
      Kin (Table.get? c.objects k) (Table.get? a.objects k) (Table.get? b.objects k) := by
    have hbefore := hapart.objects k hscope hns
    by_cases hk : ∃ t ∈ doneB, p.keyOf t.2 = k
    · obtain ⟨t, ht, rfl⟩ := hk
      obtain ⟨-, o, version, uid, hgoal, hput, huid⟩ := hwalk.reached t ht
      obtain ⟨-, o', version', uid', hgoal', hput', huid'⟩ := hwalk'.reached t ht
      rw [hbefore] at hgoal' huid'
      obtain rfl := Except.ok.inj (hgoal.symm.trans hgoal')
      rw [hput, hput']
      refine ⟨rfl, fun hthere => ?_⟩
      obtain ⟨live, hlive⟩ := Option.isSome_iff_exists.1 hthere
      rw [huid live hlive, huid' live hlive]
      rfl
    · refine .of_eq ?_
      rw [hwalk.within.objects k hk, hwalk'.within.objects k hk, hbefore]
  refine ⟨rfl, ?_, hkin⟩
  cases failureB with
  | some failure => rfl
  | none =>
    -- The walks have got to their ends, so the shared objects are there in both.
    obtain rfl := hwalk.halts.rest_eq_nil
    have hquietA := hwalk.within.failures.trans hquiet
    have hquietB := hwalk'.within.failures.trans (hapart.failures.trans hquiet)
    refine congrFun (finding_alike ha hb hquietA hquietB fun r hr => ?_) none
    cases hscope : r.kind.clusterScoped with
    | true =>
      obtain ⟨t, ht, rfl⟩ := exists_task hr
      rw [hA, List.append_nil] at ht
      have hdone : ∃ t' ∈ doneB, p.keyOf t'.2 = p.keyOf t.2 := ⟨t, ht, rfl⟩
      exact Or.inl ⟨rfl, (hwalk.contains_iff _).2 (Or.inr hdone),
        (hwalk'.contains_iff _).2 (Or.inr hdone)⟩
    | false =>
      have hkind : (p.keyOf r).kind.clusterScoped = false := (r.key_kind p.subject).symm ▸ hscope
      exact Or.inr (hkin (p.keyOf r) hkind (p.keyOf_ns hscope)).same

/-- Two reports on one finding leave an instance the same, but for its version and the times of its
conditions. -/
theorem told_alike (hi : Table.get? c.instances p.subject.id = some p.subject)
    (hi' : Table.get? c'.instances p.subject.id = some p.subject) (f : Finding)
    (now now' : Moment) :
    ∃ j j', Table.get? (p.told c (f.conditions? now)).instances p.subject.id = some j ∧
      Table.get? (p.told c' (f.conditions? now')).instances p.subject.id = some j' ∧
      j'.essence = j.essence ∧ j'.observedGeneration = j.observedGeneration ∧
      j'.conditions.map Condition.untimed = j.conditions.map Condition.untimed := by
  rcases f.conditions?_eq with hnone | ⟨active, reason, message, heq⟩
  · rw [hnone, hnone]
    exact ⟨_, _, hi, hi', rfl, rfl, rfl⟩
  · have huntimed := Condition.untimed_report now' now active reason message
    have hreports := Instance.reports_congr (i := p.subject) huntimed
    rw [heq, heq]
    unfold told
    dsimp only
    rw [hreports]
    split
    · exact ⟨_, _, hi, hi', rfl, rfl, rfl⟩
    · refine ⟨_, _, Table.get?_insert_self .., Table.get?_insert_self .., rfl, rfl, ?_⟩
      change (Condition.carryTimes _ _).map _ = (Condition.carryTimes _ _).map _
      rw [Condition.untimed_carryTimes, Condition.untimed_carryTimes, huntimed]

end Pass

namespace Context

variable {ctx : Context} {i j : Instance} {c c' c₁ : Cluster}
  {done rest : List (Component × Resource)} {failure : Option (Component × Error)}

/-- A visit leaves the objects of other namespaces alone. -/
theorem Visit.elsewhere (h : ctx.Visit i c c₁ done rest failure) {k : Key}
    (hscope : k.kind.clusterScoped = false) (hns : k.ns ≠ some i.ns) :
    Table.get? ((ctx.visit i.id).after c).objects k = Table.get? c.objects k := by
  rw [h.objects.1]
  refine h.walk.within.objects k ?_
  rintro ⟨t, -, rfl⟩
  refine hns ((ctx.pass i).keyOf_ns ?_)
  rwa [← t.2.key_kind i]

theorem Visit.contains_iff (h : ctx.Visit i c c₁ done rest failure) (k : Key) :
    Table.contains ((ctx.visit i.id).after c).objects k = true ↔
      Table.contains c.objects k = true ∨ ∃ t ∈ done, (ctx.pass i).keyOf t.2 = k := by
  rw [h.objects.1]
  exact h.walk.contains_iff k

theorem Visit.apart (h : ctx.Visit i c c₁ done rest failure) {ns : String} (hns : ns ≠ i.ns) :
    Apart ns c ((ctx.visit i.id).after c) where
  objects k hscope hk := h.elsewhere hscope (by rw [hk]; exact mt Option.some.inj hns)
  shared k hk := (h.contains_iff k).2 (Or.inl hk)
  failures := h.objects.2

/-- After a visit to one instance another one is stored as before. -/
theorem Visit.hosts (h : ctx.Visit j c c₁ done rest failure) (hi : c.Hosts i) (hne : i.id ≠ j.id)
    (now : Nat) : ({ (ctx.visit j.id).after c with step := now } : Cluster).Hosts i where
  orderly := h.orderly.of_objects h.objects.1
  stored := (h.others hne).trans hi.stored
  live := hi.live
  held := hi.held

/-- A visit comes to the same whether an instance of another namespace was visited before or not: it
gives the same answer, leaves the same objects in its namespace and the same report, and adds the
same keys to those that are there. -/
theorem Visit.beside (hfit : (ctx.pass i).Fit) (hfit' : (ctx.pass j).Fit) (hi : c.Hosts i)
    (hj : c.Hosts j) (hns : i.ns ≠ j.ns) (hquiet : c.failures = []) (now : Nat) :
    let alone := (ctx.visit i.id).after c
    let other := (ctx.visit j.id).after c
    let later := (ctx.visit i.id).after { other with step := now }
    (ctx.visit i.id).answer { other with step := now } = (ctx.visit i.id).answer c ∧
      (∀ k : Key, k.kind.clusterScoped = false → k.ns = some i.ns →
        Kin (Table.get? c.objects k) (Table.get? alone.objects k) (Table.get? later.objects k)) ∧
      (∀ k, Table.contains later.objects k = true ↔
        Table.contains alone.objects k = true ∨ Table.contains other.objects k = true) ∧
      ∃ a b, Table.get? alone.instances i.id = some a ∧ Table.get? later.instances i.id = some b ∧
        b.essence = a.essence ∧ b.observedGeneration = a.observedGeneration ∧
        b.conditions.map Condition.untimed = a.conditions.map Condition.untimed := by
  intro alone other later
  have hne : i.id ≠ j.id := fun h => hns (congrArg InstanceId.ns h)
  obtain ⟨a₁, doneA, restA, failureA, halone⟩ := exists_visit hfit hi
  obtain ⟨o₁, doneO, restO, failureO, hother⟩ := exists_visit hfit' hj
  have hhosts : ({ other with step := now } : Cluster).Hosts i := hother.hosts hi hne now
  obtain ⟨b₁, doneB, restB, failureB, hlater⟩ := exists_visit hfit hhosts
  have hapart : Apart i.ns c { other with step := now } := by
    obtain ⟨hobjects, hshared, hfailures⟩ := hother.apart hns
    exact ⟨hobjects, hshared, hfailures⟩
  obtain ⟨rfl, hfinding, hkin⟩ := Pass.Walk.beside hfit hi.orderly hhosts.orderly hquiet hapart
    halone.orderly hlater.orderly halone.walk halone.work hlater.walk hlater.work
  refine ⟨?_, fun k hscope hk => ?_, fun k => ?_, ?_⟩
  · rw [hlater.answer, halone.answer, hfinding]
  · rw [halone.objects.1, hlater.objects.1]
    exact hkin k hscope hk
  · rw [hlater.contains_iff, halone.contains_iff]
    have hmore := (hother.apart hns).shared k
    constructor
    · rintro (hthere | hdone)
      · exact Or.inr hthere
      · exact Or.inl (Or.inr hdone)
    · rintro ((hthere | hdone) | hthere)
      · exact Or.inl (hmore hthere)
      · exact Or.inr hdone
      · exact Or.inl hthere
  · obtain ⟨c₂, ⟨calls, rfl⟩, hafter⟩ := halone.after
    obtain ⟨c₃, ⟨calls', rfl⟩, hafter'⟩ := hlater.after
    have hstored : Table.get? { a₁ with calls }.instances i.id = some i :=
      (congrArg (Table.get? · i.id) halone.walk.within.instances).trans hi.stored
    have hstored' : Table.get? { b₁ with calls := calls' }.instances i.id = some i :=
      (congrArg (Table.get? · i.id) hlater.walk.within.instances).trans hhosts.stored
    rw [show alone = _ from hafter, show later = _ from hafter', hfinding]
    exact Pass.told_alike (p := ctx.pass i) hstored hstored' _ _ _

/-- A visit leaves the objects of other namespaces and the other instances as they are. -/
theorem visit_spares (hfit : (ctx.pass j).Fit) (hj : c.Hosts j) :
    (∀ k : Key, k.kind.clusterScoped = false → k.ns ≠ some j.ns →
        Table.get? ((ctx.visit j.id).after c).objects k = Table.get? c.objects k) ∧
      ∀ id, id ≠ j.id →
        Table.get? ((ctx.visit j.id).after c).instances id = Table.get? c.instances id := by
  obtain ⟨c₁, done, rest, failure, hvisit⟩ := exists_visit hfit hj
  exact ⟨fun k => hvisit.elsewhere, fun id => hvisit.others⟩

/-- Two visits to instances of different namespaces may change places. -/
theorem visit_commutes (hfit : (ctx.pass i).Fit) (hfit' : (ctx.pass j).Fit) (hi : c.Hosts i)
    (hj : c.Hosts j) (hns : i.ns ≠ j.ns) (hquiet : c.failures = []) (now now' : Nat) :
    let first := { (ctx.visit i.id).after c with step := now }
    let first' := { (ctx.visit j.id).after c with step := now' }
    let both := (ctx.visit j.id).after first
    let both' := (ctx.visit i.id).after first'
    (ctx.visit j.id).answer first = (ctx.visit j.id).answer c ∧
      (ctx.visit i.id).answer first' = (ctx.visit i.id).answer c ∧
      (∀ k : Key, k.kind.clusterScoped = false →
        Kin (Table.get? c.objects k) (Table.get? both.objects k) (Table.get? both'.objects k)) ∧
      (∀ k, Table.contains both.objects k = Table.contains both'.objects k) ∧
      (∀ x ∈ [i, j], ∃ a b, Table.get? both.instances x.id = some a ∧
        Table.get? both'.instances x.id = some b ∧ b.essence = a.essence ∧
        b.observedGeneration = a.observedGeneration ∧
        b.conditions.map Condition.untimed = a.conditions.map Condition.untimed) ∧
      ∀ id, id ≠ i.id → id ≠ j.id →
        Table.get? both.instances id = Table.get? both'.instances id := by
  intro first first' both both'
  have hne : i.id ≠ j.id := fun h => hns (congrArg InstanceId.ns h)
  obtain ⟨hanswer, hkin, hkeys, a, b, ha, hb, hsame⟩ :=
    Visit.beside hfit hfit' hi hj hns hquiet now'
  obtain ⟨hanswer', hkin', hkeys', a', b', ha', hb', hsame'⟩ :=
    Visit.beside hfit' hfit hj hi hns.symm hquiet now
  obtain ⟨_, _, _, _, hvisit⟩ := exists_visit hfit hi
  obtain ⟨_, _, _, _, hvisit'⟩ := exists_visit hfit' hj
  obtain ⟨hspared, hothers⟩ := visit_spares hfit' (hvisit.hosts hj hne.symm now)
  obtain ⟨hspared', hothers'⟩ := visit_spares hfit (hvisit'.hosts hi hne now')
  refine ⟨hanswer', hanswer, fun k hscope => ?_, fun k => ?_, ?_, fun id hid hid' => ?_⟩
  · by_cases hk : k.ns = some i.ns
    · rw [hspared k hscope (by rw [hk]; exact mt Option.some.inj hns)]
      exact hkin k hscope hk
    · by_cases hk' : k.ns = some j.ns
      · rw [hspared' k hscope hk]
        exact (hkin' k hscope hk').symm
      · refine .of_eq ?_
        rw [hspared k hscope hk', hspared' k hscope hk]
        exact (hvisit.elsewhere hscope hk).trans (hvisit'.elsewhere hscope hk').symm
  · rw [Bool.eq_iff_iff, hkeys k, hkeys' k]
    exact or_comm
  · obtain ⟨hessence, hgeneration, hconditions⟩ := hsame
    obtain ⟨hessence', hgeneration', hconditions'⟩ := hsame'
    simp only [List.forall_mem_cons, List.not_mem_nil, false_implies, implies_true, and_true]
    exact ⟨⟨a, b, (hothers _ hne).trans ha, hb, hessence, hgeneration, hconditions⟩,
      b', a', hb', (hothers' _ hne.symm).trans ha', hessence'.symm, hgeneration'.symm,
      hconditions'.symm⟩
  · rw [hothers id hid', hothers' id hid]
    exact (hvisit.others hid).trans (hvisit'.others hid').symm

/-- Passes over two instances of different namespaces may change places: they give the same answers,
leave the same objects in the namespaces but for their marks, the same keys, and the same instances
but for their versions and the times of their conditions. -/
theorem reconcile_commutes (settings : Settings) (op : Operator Cluster) (i j : Instance)
    (now now' : Nat) (hquiet : op.store.failures = []) (hkeyed : op.store.Keyed)
    (hformed : ∀ row ∈ op.store.objects, row.2.WellFormed) (hns : i.ns ≠ j.ns)
    (hstored : ∀ x ∈ [i, j], Table.get? op.store.instances x.id = some x ∧ x.spec.WellFormed ∧
      x.isDeleting = false ∧ x.hasFinalizer = true) :
    let pass (x : Instance) : StoreM (Operator Cluster) Action :=
      ({ settings } : Context).reconcileInstance x.id
    let first := ((pass i).after op).atStep now
    let first' := ((pass j).after op).atStep now'
    let both := (pass j).after first
    let both' := (pass i).after first'
    (pass j).answer first = (pass j).answer op ∧ (pass i).answer first' = (pass i).answer op ∧
      (∀ k : Key, k.kind.clusterScoped = false →
        Kin (Table.get? op.store.objects k) (Table.get? both.store.objects k)
          (Table.get? both'.store.objects k)) ∧
      (∀ k, Table.contains both.store.objects k = Table.contains both'.store.objects k) ∧
      (∀ x ∈ [i, j], ∃ a b, Table.get? both.store.instances x.id = some a ∧
        Table.get? both'.store.instances x.id = some b ∧ b.essence = a.essence ∧
        b.observedGeneration = a.observedGeneration ∧
        b.conditions.map Condition.untimed = a.conditions.map Condition.untimed) ∧
      ∀ id, id ≠ i.id → id ≠ j.id →
        Table.get? both.store.instances id = Table.get? both'.store.instances id := by
  intro pass first first' both both'
  have horderly : op.store.Orderly := .of_rows hkeyed hformed
  have hhosts : ∀ x ∈ [i, j], (({ settings } : Context).pass x).Fit ∧ op.store.Hosts x := by
    intro x hx
    obtain ⟨hx, hspec, hlive, hheld⟩ := hstored x hx
    exact ⟨own_fit settings hspec, horderly, hx, hlive, hheld⟩
  obtain ⟨hfit, hi⟩ := hhosts i (by simp)
  obtain ⟨hfit', hj⟩ := hhosts j (by simp)
  have htracks (x : Instance) :=
    Context.reconcileInstance_tracks (σ := Cluster) { settings } x.id
  obtain ⟨hanswer, hanswer', hcommutes⟩ := visit_commutes hfit hfit' hi hj hns hquiet now now'
  rw [← Operator.atStep_store ((htracks i).store_after op)] at hanswer hcommutes
  rw [← Operator.atStep_store ((htracks j).store_after op)] at hanswer' hcommutes
  refine ⟨((htracks j).answer_eq _).trans (hanswer.trans ((htracks j).answer_eq op).symm),
    ((htracks i).answer_eq _).trans (hanswer'.trans ((htracks i).answer_eq op).symm), ?_⟩
  have hboth : both.store = (({ settings } : Context).visit j.id).after first.store :=
    (htracks j).store_after first
  have hboth' : both'.store = (({ settings } : Context).visit i.id).after first'.store :=
    (htracks i).store_after first'
  rw [hboth, hboth']
  exact hcommutes

/-- The daemon set of the workers of the first instance does not depend on which pass was first. -/
theorem reconcile_commutes_of_two :
    let named (ns : String) : Instance := { Instance.bare ⟨ns, "nfd"⟩ with
      metadata :=
        { name := some "nfd", ns := some ns, uid := some ("uid-" ++ ns),
          finalizers := some [Finalizer.own] } }
    let i := named "a"
    let j := named "b"
    let op : Operator Cluster := { store := { instances := [(i.id, i), (j.id, j)] } }
    let pass (x : Instance) : StoreM (Operator Cluster) Action :=
      ({ settings := {} } : Context).reconcileInstance x.id
    let k : Key := ⟨.daemonSet, some "a", "nfd-worker"⟩
    Kin none (Table.get? ((pass j).after (((pass i).after op).atStep 1)).store.objects k)
      (Table.get? ((pass i).after (((pass j).after op).atStep 2)).store.objects k) := by
  intro named i j op
  have hkeyed : op.store.Keyed := by
    unfold Keyed
    decide +kernel
  have hstored : ∀ x ∈ [i, j], Table.get? op.store.instances x.id = some x ∧ x.spec.WellFormed ∧
      x.isDeleting = false ∧ x.hasFinalizer = true := by
    simp only [List.forall_mem_cons, List.not_mem_nil, false_implies, implies_true, and_true]
    have hspec := InstanceSpec.WellFormed.of_unset (s := i.spec) rfl
    exact ⟨⟨by decide +kernel, hspec, rfl, by decide⟩, by decide +kernel, hspec, rfl, by decide⟩
  exact (reconcile_commutes {} op i j 1 2 rfl hkeyed (by decide +kernel) (by decide) hstored).2.2.1
    ⟨.daemonSet, some "a", "nfd-worker"⟩ rfl

end Context

end NodeFeatureOperator
