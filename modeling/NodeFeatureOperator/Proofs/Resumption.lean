import NodeFeatureOperator.Proofs.Reconciliation

/-!
# Passes that are broken off and resumed

Without failures from outside, a walk over resources gets to the first whose object can become
nothing (`Pass.Walk.of_quiet`). What an object is to become does not depend on how far it has come
(`Pass.Advances.goal`), so a walk that is broken off and resumed comes to what it comes to when it
is not (`Pass.Walk.resumed`), and so does a whole pass (`Context.reconcile_resumes`).
-/

namespace NodeFeatureOperator

open Cluster StoreM

/-! ## What fails on its own -/

theorem ManagedObject.own_error {o : ManagedObject} {i : Instance} {e : Error}
    (h : o.own i = .error e) : ∃ cause, e = .ownerReference o.key cause := by
  unfold own at h
  split at h
  · cases h
  · cases howner : i.controllerReference? with
    | none =>
      rw [howner] at h
      exact ⟨_, (Except.error.inj h).symm⟩
    | some owner =>
      rw [howner] at h
      dsimp only at h
      split at h
      · exact ⟨_, (Except.error.inj h).symm⟩
      · cases h

namespace Health

variable {key : Key} {found : Option ManagedObject} {e : Error}

theorem exactlyOne_error {candidates : List (Bool × Health)}
    (h : exactlyOne key candidates = .error e) : ∃ n, e = .ambiguousCondition key n := by
  unfold exactlyOne at h
  split at h
  · cases h
  · exact ⟨_, (Except.error.inj h).symm⟩

theorem classify_error (h : classify key found = .error e) :
    ∃ n, e = .ambiguousCondition key n := by
  unfold classify at h
  split at h
  · cases h
  · split at h
    · unfold ofDaemonSet at h
      split at h
      · cases h
      · exact exactlyOne_error h
    · unfold ofDeployment at h
      split at h
      · exact exactlyOne_error h
      · cases h
    · cases h

/-- Health does not depend on the marks of an object. -/
theorem classify_marked (key : Key) (found : Option ManagedObject) (version uid : Option String) :
    classify key (found.map (·.marked version uid)) = classify key found := by
  cases found <;> rfl

end Health

namespace Pass

variable {p : Pass} {c c' : Cluster} {k : Component} {r : Resource} {e : Error}
  {ts : List (Component × Resource)} {failure : Option (Component × Error)}

/-- What keeps an object from becoming anything is no conflict. -/
theorem goal_error (h : p.Fit) (hr : r ∈ p.deployed) {found : Option ManagedObject}
    (hfound : r.Fits found) (hgoal : p.goal r found = .error e) : e.isConflict = false := by
  obtain ⟨d, hd⟩ := h.desires hr
  cases found with
  | none =>
    rw [hd.goal_none] at hgoal
    obtain ⟨cause, rfl⟩ := ManagedObject.own_error hgoal
    rfl
  | some live =>
    obtain ⟨hlive, hkind⟩ := hfound live rfl
    rw [hd.goal_some hlive hkind] at hgoal
    obtain ⟨cause, rfl⟩ := ManagedObject.own_error hgoal
    rfl

/-! ## Walks without failures from outside -/

/-- What the object of a resource is to become on a cluster. -/
def goalOn (p : Pass) (c : Cluster) (r : Resource) : Except Error ManagedObject :=
  p.goal r (Table.get? c.objects (p.keyOf r))

/-- The resources up to the first whose object can become nothing. -/
def reach (p : Pass) (c : Cluster) (ts : List (Component × Resource)) :
    List (Component × Resource) :=
  ts.takeWhile fun t => (p.goalOn c t.2).isOk

/-- The first resource whose object can become nothing, and why. -/
def obstacle (p : Pass) (c : Cluster) (ts : List (Component × Resource)) :
    Option (Component × Error) :=
  ts.findSome? fun t =>
    match p.goalOn c t.2 with
    | .error e => some (t.1, e)
    | .ok _ => none

theorem goalOn_of_verdict (h : c.failures = []) (hverdict : p.verdict r c = .error e) :
    p.goalOn c r = .error e := by
  unfold verdict at hverdict
  rw [injected?_of_clear h] at hverdict
  unfold goalOn
  cases hgoal : p.goal r (Table.get? c.objects (p.keyOf r)) with
  | error e' =>
    rw [hgoal] at hverdict
    cases hverdict
    rfl
  | ok o =>
    rw [hgoal] at hverdict
    dsimp only at hverdict
    split at hverdict
    · cases hverdict
    · rw [injected?_of_clear h] at hverdict
      cases hverdict

section

variable {done rest : List (Component × Resource)}

theorem Walk.goalOn_isOk (h : p.Walk c c' done rest failure) :
    ∀ t ∈ done, (p.goalOn c t.2).isOk = true := by
  intro t ht
  obtain ⟨-, o, -, -, hgoal, -⟩ := h.reached t ht
  unfold goalOn
  rw [hgoal]
  rfl

/-- No walk gets past a resource whose object can become nothing. -/
theorem Walk.mem_reach (h : p.Walk c c' done rest failure) {t : Component × Resource}
    (ht : t ∈ done) : t ∈ p.reach c (done ++ rest) := by
  unfold reach
  rw [List.takeWhile_append_of_pos h.goalOn_isOk]
  exact List.mem_append_left _ ht

/-- Without failures from outside, a walk gets as far as it can. -/
theorem Walk.of_quiet (h : p.Walk c c' done rest failure) (hquiet : c.failures = []) :
    p.reach c (done ++ rest) = done ∧ p.obstacle c (done ++ rest) = failure := by
  have hpast : done.findSome? (fun t => match p.goalOn c t.2 with
      | .error e => some (t.1, e)
      | .ok _ => none) = none := by
    rw [List.findSome?_eq_none_iff]
    intro t ht
    have hok := h.goalOn_isOk t ht
    cases hgoal : p.goalOn c t.2 with
    | error e =>
      rw [hgoal] at hok
      cases hok
    | ok o => rfl
  unfold reach obstacle
  rw [List.takeWhile_append_of_pos h.goalOn_isOk, List.findSome?_append, hpast, Option.none_or]
  have hhalts := h.halts
  cases rest with
  | nil =>
    obtain rfl : failure = none := hhalts
    exact ⟨List.append_nil _, rfl⟩
  | cons t rest =>
    obtain ⟨k, r⟩ := t
    obtain ⟨e, hverdict, rfl⟩ := hhalts
    have hgoal := goalOn_of_verdict hquiet hverdict
    rw [List.takeWhile_cons_of_neg (by rw [hgoal]; exact Bool.false_ne_true), List.append_nil,
      List.findSome?_cons, hgoal]
    exact ⟨rfl, rfl⟩

theorem Walk.advances (h : p.Walk c c' done rest failure)
    (hnodup : ((done ++ rest).map fun t => p.keyOf t.2).Nodup) :
    ∀ t ∈ done ++ rest, p.Advances t.2 (Table.get? c.objects (p.keyOf t.2))
      (Table.get? c'.objects (p.keyOf t.2)) := by
  intro t ht
  rcases List.mem_append.1 ht with ht | ht
  · exact (h.reached t ht).advances
  · exact Or.inl (h.alike hnodup ht).object

/-! ## Walks that are resumed -/

/-- How far a walk can get goes by what objects can become anything, and not by what they become. -/
theorem reach_congr {α : Type} {f : ManagedObject → α} {c₁ c₂ : Cluster}
    (h : ∀ t ∈ ts, (p.goalOn c₂ t.2).map f = (p.goalOn c₁ t.2).map f) :
    p.reach c₂ ts = p.reach c₁ ts ∧ p.obstacle c₂ ts = p.obstacle c₁ ts := by
  induction ts with
  | nil => exact ⟨rfl, rfl⟩
  | cons t ts ih =>
    obtain ⟨ht, hts⟩ := List.forall_mem_cons.1 h
    obtain ⟨hreach, hobstacle⟩ := ih hts
    unfold reach obstacle at *
    rw [List.takeWhile_cons, List.takeWhile_cons, List.findSome?_cons, List.findSome?_cons, hreach,
      hobstacle]
    cases h₁ : p.goalOn c₁ t.2 with
    | error e =>
      cases h₂ : p.goalOn c₂ t.2 with
      | error e' =>
        rw [h₁, h₂] at ht
        obtain rfl := Except.error.inj ht
        exact ⟨rfl, rfl⟩
      | ok o =>
        rw [h₁, h₂] at ht
        cases ht
    | ok o =>
      cases h₂ : p.goalOn c₂ t.2 with
      | error e' =>
        rw [h₁, h₂] at ht
        cases ht
      | ok o' => exact ⟨rfl, rfl⟩

end

end Pass

/-- What has become of an object in two runs: the same but for the marks, where an object that was
there before has its uid in both. -/
structure Kin (before a b : Option ManagedObject) : Prop where
  same : a.map (·.marked none none) = b.map (·.marked none none)
  uid : before.isSome → a.map (·.metadata.uid) = b.map (·.metadata.uid)

theorem Kin.of_eq {before a b : Option ManagedObject} (h : a = b) : Kin before a b := by
  rw [h]
  exact ⟨rfl, fun _ => rfl⟩

theorem Kin.symm {before a b : Option ManagedObject} (h : Kin before a b) : Kin before b a :=
  ⟨h.same.symm, fun hbefore => (h.uid hbefore).symm⟩

namespace Pass

variable {p : Pass} {c c₀ c₁ c₂ a b : Cluster} {ts : List (Component × Resource)}
  {doneA restA done₀ rest₀ doneB restB : List (Component × Resource)}
  {failureA failure₀ failureB : Option (Component × Error)}

/-- A walk that is broken off and resumed comes to what it comes to when it is not broken off. -/
theorem Walk.resumed (h : p.Fit) (hc : c.Orderly) (hts : ∀ t ∈ ts, t.2 ∈ p.deployed)
    (hnodup : (ts.map fun t => p.keyOf t.2).Nodup) (hquiet : c.failures = [])
    (hwhole : p.Walk c a doneA restA failureA) (hA : ts = doneA ++ restA)
    (hstart : c₀.objects = c.objects) (hfirst : p.Walk c₀ c₁ done₀ rest₀ failure₀)
    (h₀ : ts = done₀ ++ rest₀) (hbetween : c₂.objects = c₁.objects) (hquiet' : c₂.failures = [])
    (hsecond : p.Walk c₂ b doneB restB failureB) (hB : ts = doneB ++ restB) :
    failureB = failureA ∧
      ∀ k, Kin (Table.get? c.objects k) (Table.get? a.objects k) (Table.get? b.objects k) := by
  have hadvances : ∀ t ∈ ts, p.Advances t.2 (Table.get? c.objects (p.keyOf t.2))
      (Table.get? c₂.objects (p.keyOf t.2)) := by
    rw [h₀] at hnodup ⊢
    rw [hbetween, ← hstart]
    exact hfirst.advances hnodup
  have hgoals : ∀ t ∈ ts, (p.goalOn c₂ t.2).map (·.marked none none)
      = (p.goalOn c t.2).map (·.marked none none) := fun t ht =>
    (hadvances t ht).goal h (hts t ht) (hc.found t.2 p.subject)
  obtain ⟨hreach, hobstacle⟩ := reach_congr hgoals
  have hwholes := hwhole.of_quiet hquiet
  have hseconds := hsecond.of_quiet hquiet'
  rw [← hA] at hwholes
  rw [← hB] at hseconds
  -- Both get to the same place, and the walk that was broken off did not get any further.
  have hsame : doneB = doneA := hseconds.1.symm.trans (hreach.trans hwholes.1)
  refine ⟨hseconds.2.symm.trans (hobstacle.trans hwholes.2), fun k => ?_⟩
  by_cases hk : ∃ t ∈ doneA, p.keyOf t.2 = k
  · obtain ⟨t, ht, rfl⟩ := hk
    have ht' : t ∈ ts := by
      rw [hA]
      exact List.mem_append_left _ ht
    obtain ⟨-, o, version, uid, hgoal, hput, huid⟩ := hwhole.reached t ht
    obtain ⟨-, o', version', uid', hgoal', hput', huid'⟩ := hsecond.reached t (hsame ▸ ht)
    have hmarked := hgoals t ht'
    unfold goalOn at hmarked
    rw [hgoal, hgoal'] at hmarked
    rw [hput, hput']
    refine ⟨congrArg some (Except.ok.inj hmarked).symm, fun hbefore => ?_⟩
    obtain ⟨live, hlive⟩ := Option.isSome_iff_exists.1 hbefore
    rw [huid live hlive]
    rcases hadvances t ht' with hstill | ⟨o₀, version₀, uid₀, -, hmoved, huid₀⟩
    · rw [huid' live (hstill.trans hlive)]
      rfl
    · rw [huid' _ hmoved, ← huid₀ live hlive]
      rfl
  · have hfirst' : ¬ ∃ t ∈ done₀, p.keyOf t.2 = k := by
      rintro ⟨t, ht, heq⟩
      have hin := hfirst.mem_reach ht
      unfold reach goalOn at hin
      rw [← h₀, hstart] at hin
      exact hk ⟨t, hwholes.1 ▸ hin, heq⟩
    refine .of_eq ?_
    rw [hwhole.within.objects k hk, hsecond.within.objects k (by rwa [hsame]), hbetween,
      hfirst.within.objects k hfirst', hstart]

end Pass

namespace Operator

/-- The operator when these calls are made to fail, and no others. -/
def failing (op : Operator Cluster) (failures : List ((Verb × Key) × Nat)) : Operator Cluster :=
  { op with store := { op.store with failures } }

end Operator

namespace Pass

variable {p : Pass} {a b c : Cluster} {r : Resource}

/-- Objects that are the same but for their marks are of the same health. -/
theorem healthOn_marked (ha : a.failures = []) (hb : b.failures = [])
    (hsame : (Table.get? a.objects (p.keyOf r)).map (·.marked none none)
      = (Table.get? b.objects (p.keyOf r)).map (·.marked none none)) :
    p.healthOn b r = p.healthOn a r := by
  unfold healthOn
  rw [injected?_of_clear ha, injected?_of_clear hb, ← Health.classify_marked _ _ none none, ← hsame,
    Health.classify_marked]

end Pass

namespace Context

variable {ctx : Context} {i : Instance} {c c₁ : Cluster}
  {done rest : List (Component × Resource)} {failure : Option (Component × Error)}

/-- Without failures from outside, everything that is found is reported. -/
theorem Visit.reported (hvisit : ctx.Visit i c c₁ done rest failure) (hfit : (ctx.pass i).Fit)
    (h : c.Hosts i) (hquiet : c.failures = []) (now : Moment) :
    ∃ conditions, ((ctx.pass i).finding c₁ failure).conditions? now = some conditions := by
  have hreported {k : Component} {e : Error} (he : e.isConflict = false) :
      ∃ conditions, (Finding.failed k e).conditions? now = some conditions :=
    ⟨_, if_neg (by simp [he])⟩
  have hhalts := hvisit.walk.halts
  cases failure with
  | some failure =>
    cases rest with
    | nil => cases hhalts
    | cons t rest =>
      obtain ⟨e, hverdict, heq⟩ := hhalts
      obtain rfl := Option.some.inj heq
      have ht : t.2 ∈ (ctx.pass i).deployed := Pass.mem_deployed (by
        rw [hvisit.work]
        exact List.mem_append_right _ List.mem_cons_self)
      exact hreported (Pass.goal_error hfit ht (h.orderly.found t.2 i)
        (Pass.goalOn_of_verdict hquiet hverdict))
  | none =>
    unfold Pass.finding
    cases hhealths : (ctx.pass i).deployed.mapM ((ctx.pass i).healthOn c₁) with
    | ok healths => exact ⟨_, rfl⟩
    | error e =>
      obtain ⟨r, -, hhealth⟩ := Pass.mapM_error hhealths
      unfold Pass.healthOn at hhealth
      rw [injected?_of_clear (hvisit.walk.within.failures.trans hquiet)] at hhealth
      obtain ⟨n, rfl⟩ := Health.classify_error hhealth
      exact hreported rfl

/-- What a visit comes to does not depend on whether another one was broken off before it. -/
theorem Visit.resumed (hfit : (ctx.pass i).Fit) (h : c.Hosts i) (hquiet : c.failures = [])
    (failures : List ((Verb × Key) × Nat)) (now : Nat) :
    let whole := (ctx.visit i.id).after c
    let broken := (ctx.visit i.id).after { c with failures }
    let between := { broken with failures := [], step := now }
    let final := (ctx.visit i.id).after between
    (ctx.visit i.id).answer between = (ctx.visit i.id).answer c ∧
      (∀ k, Kin (Table.get? c.objects k) (Table.get? whole.objects k)
        (Table.get? final.objects k)) ∧
      (∀ id, id ≠ i.id → Table.get? final.instances id = Table.get? whole.instances id) ∧
      ∃ a b, Table.get? whole.instances i.id = some a ∧ Table.get? final.instances i.id = some b ∧
        b.essence = a.essence ∧ b.observedGeneration = a.observedGeneration ∧
        (b.conditions.map Condition.untimed).Perm (a.conditions.map Condition.untimed) := by
  intro whole broken between final
  have hbroken : ({ c with failures } : Cluster).Hosts i :=
    ⟨h.orderly.of_objects rfl, h.stored, h.live, h.held⟩
  obtain ⟨c₁, done₀, rest₀, failure₀, hfirst⟩ := exists_visit hfit hbroken
  obtain ⟨hobjects₁, -⟩ := hfirst.objects
  obtain ⟨j, hj, hessence, -⟩ := hfirst.subject h.stored
  have hbetween : between.Hosts j := hosts_twin h hessence (hfirst.orderly.of_objects hobjects₁) hj
  have hid : j.id = i.id := Instance.id_of_essence hessence
  have htwin : (ctx.pass i).Twin (ctx.pass j) := pass_twin hessence
  obtain ⟨a₁, doneA, restA, failureA, hwhole⟩ := exists_visit hfit h
  obtain ⟨b₁, doneB, restB, failureB, hsecond⟩ :=
    exists_visit (fit_twin hfit hessence) hbetween
  -- The walks come to the same.
  have hstart : ({ c with failures } : Cluster).objects = c.objects := rfl
  have hresumed : between.objects = c₁.objects := hobjects₁
  obtain ⟨rfl, hkin⟩ := Pass.Walk.resumed hfit h.orderly (fun _ => Pass.mem_deployed)
    (ctx.pass i).worklist_keys_nodup hquiet hwhole.walk hwhole.work hstart hfirst.walk hfirst.work
    hresumed rfl ((pass_twin hessence.symm).walk hsecond.walk)
    (htwin.worklist.symm.trans hsecond.work)
  -- So what is found is the same, and both instances have the report on it.
  have hfinding : (ctx.pass j).finding b₁ failureB = (ctx.pass i).finding a₁ failureB := by
    rw [htwin.finding]
    exact congrFun (Pass.finding_congr fun r _ => Pass.healthOn_marked
      (hwhole.walk.within.failures.trans hquiet) hsecond.walk.within.failures
      (hkin _).same) failureB
  obtain ⟨a, ha, haessence, hareports⟩ := hwhole.subject h.stored
  obtain ⟨b, hb, hbessence, hbreports⟩ := hsecond.subject hbetween.stored
  obtain ⟨conditions, hsome⟩ := hwhole.reported hfit h hquiet (.reading c.step)
  obtain ⟨conditions', hsome', huntimed⟩ :=
    Finding.conditions?_untimed hsome (.reading between.step)
  have hareport := Instance.perm_of_reports (Finding.conditions?_nodup hsome)
    (hareports conditions hsome)
  have hbreport := Instance.perm_of_reports (Finding.conditions?_nodup hsome')
    (hbreports conditions' (by rw [hfinding]; exact hsome'))
  have hsame : b.essence = a.essence := hbessence.trans (hessence.trans haessence.symm)
  have hanswer := hsecond.answer
  have hothers (id : InstanceId) (hne : id ≠ j.id) := hsecond.others hne
  have hobjects := hsecond.objects.1
  rw [hid] at hanswer hobjects hb
  simp only [hid] at hothers
  refine ⟨?_, fun k => ?_, fun id hne => ?_, a, b, ha, hb, hsame, ?_, ?_⟩
  · rw [hanswer, hfinding, hwhole.answer]
  · rw [hwhole.objects.1, hobjects]
    exact hkin k
  · rw [hothers id hne, hwhole.others hne]
    exact hfirst.others hne
  · rw [hbreport.1, hareport.1]
    exact Instance.eq_of_essence (fun i => i.metadata.generation) (fun _ => rfl) hsame
  · rw [huntimed] at hbreport
    exact hbreport.2.trans hareport.2.symm

/-- A pass that calls were made to fail in, and another one without failures after it, come to what
one pass without failures comes to: the same answer, the same objects but for their marks, and the
same instance but for its version and for the times and the order of its conditions. -/
theorem reconcile_resumes (settings : Settings) (op : Operator Cluster) (i : Instance)
    (failures : List ((Verb × Key) × Nat)) (now : Nat) (hquiet : op.store.failures = [])
    (hkeyed : op.store.Keyed) (hformed : ∀ row ∈ op.store.objects, row.2.WellFormed)
    (hi : Table.get? op.store.instances i.id = some i) (hspec : i.spec.WellFormed)
    (hlive : i.isDeleting = false) (hfinalizer : i.hasFinalizer = true) :
    let pass : StoreM (Operator Cluster) Action := ({ settings } : Context).reconcileInstance i.id
    let whole := pass.after op
    let broken := pass.after (op.failing failures)
    let between := (broken.failing []).atStep now
    let final := pass.after between
    pass.answer between = pass.answer op ∧
      (∀ k, Kin (Table.get? op.store.objects k) (Table.get? whole.store.objects k)
        (Table.get? final.store.objects k)) ∧
      (∀ id, id ≠ i.id →
        Table.get? final.store.instances id = Table.get? whole.store.instances id) ∧
      ∃ a b, Table.get? whole.store.instances i.id = some a ∧
        Table.get? final.store.instances i.id = some b ∧
        b.essence = a.essence ∧ b.observedGeneration = a.observedGeneration ∧
        (b.conditions.map Condition.untimed).Perm (a.conditions.map Condition.untimed) := by
  intro pass whole broken between final
  have hfit : (({ settings } : Context).pass i).Fit := own_fit settings hspec
  have hhosts : op.store.Hosts i := ⟨.of_rows hkeyed hformed, hi, hlive, hfinalizer⟩
  have htracks := Context.reconcileInstance_tracks (σ := Cluster) { settings } i.id
  obtain ⟨hanswer, hresumed⟩ := Visit.resumed hfit hhosts hquiet failures now
  have hbroken : broken.store =
      (({ settings } : Context).visit i.id).after { op.store with failures } :=
    htracks.store_after _
  rw [← hbroken] at hanswer hresumed
  refine ⟨(htracks.answer_eq _).trans (hanswer.trans (htracks.answer_eq op).symm), ?_⟩
  have hwhole : whole.store = (({ settings } : Context).visit i.id).after op.store :=
    htracks.store_after op
  have hfinal : final.store = (({ settings } : Context).visit i.id).after between.store :=
    htracks.store_after between
  rw [hwhole, hfinal]
  exact hresumed

/-- The pass was broken off where the daemon set of the workers was to be created. -/
theorem reconcile_resumes_of_refused :
    let i : Instance := { Instance.bare ⟨"nfd", "nfd"⟩ with
      metadata :=
        { name := some "nfd", ns := some "nfd", uid := some "uid-1",
          finalizers := some [Finalizer.own] } }
    let k : Key := ⟨.daemonSet, some "nfd", "nfd-worker"⟩
    let op : Operator Cluster := { store := { instances := [(i.id, i)] } }
    let ctx : Context := { settings := {} }
    let pass : StoreM (Operator Cluster) Action := ctx.reconcileInstance i.id
    let broken := pass.after (op.failing [((.create, k), 500)])
    Table.get? broken.store.objects k = none ∧
      Kin (Table.get? op.store.objects k) (Table.get? (pass.after op).store.objects k)
        (Table.get? (pass.after ((broken.failing []).atStep 1)).store.objects k) := by
  intro i k op
  have hkeyed : op.store.Keyed := by
    unfold Keyed
    decide +kernel
  have hresumed := (reconcile_resumes {} op i [((.create, k), 500)] 1 rfl hkeyed
    (by decide +kernel) (by decide +kernel) nofun rfl (by decide)).2.1 k
  exact ⟨by decide +kernel, hresumed⟩

end Context

end NodeFeatureOperator
