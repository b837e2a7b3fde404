import NodeFeatureOperator.Proofs.Reporting

/-!
# What reconciling comes to

A visit to an instance that is to stay is a walk over its resources and a report on what was found
where the walk has ended (`Context.Visit`). A visit that succeeds leaves every resource of the
deployment as it is to be and a report on just that (`Context.reconcile_converges`). Whatever comes
of a visit, the next one comes to the same and changes nothing (`Context.reconcile_idempotent`).
-/

namespace NodeFeatureOperator

open Cluster StoreM

/-! ## Passes that do the same -/

namespace Pass

variable {p p' : Pass} {r : Resource} {o : ManagedObject} {c c' : Cluster}
  {done rest : List (Component × Resource)}
  {failure : Option (Component × Error)}

/-- Two passes that look for the same and bring it to the same. -/
structure Twin (p p' : Pass) : Prop where
  keyOf : p'.keyOf = p.keyOf
  goal : p'.goal = p.goal
  verdict : p'.verdict = p.verdict
  worklist : p'.worklist = p.worklist
  deployed : p'.deployed = p.deployed
  finding : p'.finding = p.finding

theorem Twin.walk (h : p.Twin p') (hwalk : p.Walk c c' done rest failure) :
    p'.Walk c c' done rest failure := by
  refine ⟨fun t ht => ?_, ?_, ?_⟩
  · have hreached := hwalk.reached t ht
    unfold Reached at *
    rwa [h.keyOf, h.goal]
  · rw [h.keyOf]
    exact hwalk.within
  · have hhalts := hwalk.halts
    cases rest with
    | nil => exact hhalts
    | cons t rest =>
      obtain ⟨e, hverdict, heq⟩ := hhalts
      exact ⟨e, (congrFun (congrFun h.verdict t.2) c).trans hverdict, heq⟩

/-- The walk starts where the instance is read. -/
theorem Walk.of_record {call : Call} (h : p.Walk (c.record call) c' done rest failure) :
    p.Walk c c' done rest failure :=
  ⟨h.reached, (Removed.toWithin (removed_record c call)).trans h.within, h.halts⟩

/-- A walk without a failure has got to its end. -/
theorem Halts.rest_eq_nil (h : p.Halts c rest none) : rest = [] := by
  cases rest with
  | nil => rfl
  | cons t rest =>
    obtain ⟨e, -, heq⟩ := h
    cases heq

/-- An object holds what is desired of it, and the instance controls it. -/
structure Delivers (p : Pass) (r : Resource) (desired o : ManagedObject) : Prop where
  rendered : p.templates.render p.subject r p.image = .ok desired
  covered : Json.Covered o.toJson desired.toJson = true
  controlled : r.kind.clusterScoped = false → ∃ owner,
    p.subject.controllerReference? = some owner ∧ owner ∈ o.owners ∧
      ∀ ref ∈ o.owners, ref.controller = some true → ref.uid = owner.uid
  files : r.kind = .configMap → ∃ data, Table.get? desired.body "data" = some data ∧
    Table.get? o.body "data" = some data

/-- What is settled is delivered. -/
theorem Settles.delivers (h : p.Settles r o) (hfit : p.Fit) (hr : r ∈ p.deployed) :
    ∃ desired, p.Delivers r desired o := by
  obtain ⟨d, hd⟩ := hfit.desires hr
  have hsettled := h.settled d hd
  have hkind : d.kind = o.kind := hd.stands.kind.trans h.kind.symm
  refine ⟨d, hd.rendered, hsettled.covered h.wellFormed hd.wish hkind, fun hscope => ?_,
    fun hconfig => ?_⟩
  · rw [← h.kind] at hscope
    exact hsettled.controlled hscope
  · have hdata := hd.get?_data hconfig
    exact ⟨_, hdata, hsettled.get?_data hd.wish.wellFormed (hd.stands.kind.trans hconfig) hdata⟩

/-- What is found goes by the health of the deployment. -/
theorem finding_congr (h : ∀ r ∈ p.deployed, p.healthOn c' r = p.healthOn c r) :
    p.finding c' = p.finding c := by
  funext failure
  unfold finding
  rw [mapM_congr h]

/-- A pass that ends well has failed nowhere and has seen the health of everything. -/
theorem finding_ok {u : Unit} (h : (p.finding c failure).answer = .ok u) :
    failure = none ∧ ∃ healths, p.deployed.mapM (p.healthOn c) = .ok healths ∧
      p.finding c failure = .surveyed healths := by
  unfold finding at h ⊢
  cases failure with
  | some failure => cases h
  | none =>
    cases hhealths : p.deployed.mapM (p.healthOn c) with
    | error e =>
      rw [hhealths] at h
      cases h
    | ok healths => exact ⟨rfl, healths, rfl, rfl⟩

end Pass

namespace Cluster

/-- An instance that is to stay, with the finalizer of the operator on it, is stored in an orderly
cluster. -/
structure Hosts (c : Cluster) (i : Instance) : Prop where
  orderly : c.Orderly
  stored : Table.get? c.instances i.id = some i
  live : i.isDeleting = false
  held : i.hasFinalizer = true

theorem Hosts.atStep {c : Cluster} {i : Instance} (h : c.Hosts i) (step : Nat) :
    ({ c with step } : Cluster).Hosts i :=
  ⟨h.orderly.of_objects rfl, h.stored, h.live, h.held⟩

end Cluster

namespace Operator

/-- The operator when the clock has come to another step. -/
def atStep (op : Operator Cluster) (step : Nat) : Operator Cluster :=
  { op with store := { op.store with step } }

theorem atStep_store {op : Operator Cluster} {c : Cluster} (h : op.store = c) (step : Nat) :
    (op.atStep step).store = { c with step } :=
  congrArg (fun c : Cluster => { c with step }) h

end Operator

namespace Context

variable {ctx : Context} {i j : Instance} {c c' c₁ : Cluster}
  {done rest : List (Component × Resource)} {failure : Option (Component × Error)}

/-- Status and version of an instance make no difference to the pass over it. -/
theorem pass_twin (h : j.essence = i.essence) : (ctx.pass i).Twin (ctx.pass j) where
  keyOf := Instance.eq_of_essence (fun i => (ctx.pass i).keyOf) (fun _ => rfl) h
  goal := Instance.eq_of_essence (fun i => (ctx.pass i).goal) (fun _ => rfl) h
  verdict := Instance.eq_of_essence (fun i => (ctx.pass i).verdict) (fun _ => rfl) h
  worklist := Instance.eq_of_essence (fun i => (ctx.pass i).worklist) (fun _ => rfl) h
  deployed := Instance.eq_of_essence (fun i => (ctx.pass i).deployed) (fun _ => rfl) h
  finding := Instance.eq_of_essence (fun i => (ctx.pass i).finding) (fun _ => rfl) h

theorem hosts_twin (h : c.Hosts i) (hessence : j.essence = i.essence) (hc' : c'.Orderly)
    (hj : Table.get? c'.instances i.id = some j) : c'.Hosts j where
  orderly := hc'
  stored := by
    rw [← hj]
    exact congrArg (Table.get? c'.instances) (Instance.id_of_essence hessence)
  live := (Instance.eq_of_essence Instance.isDeleting (fun _ => rfl) hessence).trans h.live
  held := (Instance.eq_of_essence Instance.hasFinalizer (fun _ => rfl) hessence).trans h.held

theorem fit_twin (h : (ctx.pass i).Fit) (hessence : j.essence = i.essence) :
    (ctx.pass j).Fit where
  sound := h.sound
  wellFormed := h.wellFormed
  complete := by
    rw [(pass_twin hessence).deployed]
    exact h.complete
  spec := by
    change j.spec.WellFormed
    rw [Instance.eq_of_essence Instance.spec (fun _ => rfl) hessence]
    exact h.spec

/-- The templates of the operator fit every instance. -/
theorem own_fit (settings : Settings) (hspec : i.spec.WellFormed) :
    (({ settings } : Context).pass i).Fit where
  sound := Registry.own_sound
  wellFormed := Registry.own_wellFormed
  complete := fun r hr => Registry.own_complete r ((Pass.deployed_sublist _).subset hr)
  spec := hspec

/-! ## Visits -/

/-- A visit to an instance that is to stay: a walk that ends on `c₁`, and a report on what was found
there. -/
structure Visit (ctx : Context) (i : Instance) (c c₁ : Cluster)
    (done rest : List (Component × Resource)) (failure : Option (Component × Error)) : Prop where
  work : (ctx.pass i).worklist = done ++ rest
  walk : (ctx.pass i).Walk c c₁ done rest failure
  orderly : c₁.Orderly
  answer : (ctx.visit i.id).answer c =
    ((ctx.pass i).finding c₁ failure).answer.map fun _ => .requeue ctx.settings.resync
  after : ∃ c₂, c₁.Called c₂ ∧ (ctx.visit i.id).after c =
    (ctx.pass i).told c₂ (((ctx.pass i).finding c₁ failure).conditions? (.reading c.step))

/-- Where the walk of a visit ends, the visit looks around, reports, and ends as it has to. -/
theorem visit_of_build (h : c.Hosts i)
    (hbuild : (ctx.pass i).build (ctx.pass i).worklist (c.record (.one .get i.id))
      = .ok failure c₁) :
    (ctx.visit i.id).answer c =
        ((ctx.pass i).finding c₁ failure).answer.map (fun _ => .requeue ctx.settings.resync) ∧
      ∃ c₂, c₁.Called c₂ ∧ (ctx.visit i.id).after c =
        (ctx.pass i).told c₂ (((ctx.pass i).finding c₁ failure).conditions? (.reading c.step)) := by
  have hwithin := (Pass.build_within _ _).of_ok hbuild
  obtain ⟨c₂, hcalled, hcheck⟩ := Pass.check_run hbuild
  have hi₂ : Table.get? c₂.instances i.id = some i ∧ c₂.step = c.step := by
    obtain ⟨calls, rfl⟩ := hcalled
    exact ⟨(congrArg (Table.get? · i.id) hwithin.instances).trans h.stored, hwithin.step⟩
  have hrun : (ctx.pass i).runComponents (ctx.pass i).components (c.record (.one .get i.id))
      = (ctx.pass i).tell ((ctx.pass i).finding c₁ failure) c₂ :=
    (Pass.runComponents_check (p := ctx.pass i) (c := c.record (.one .get i.id)) h.stored).trans
      (bind_of_ok hcheck)
  rw [Pass.tell_run (p := ctx.pass i) hi₂.1, hi₂.2] at hrun
  have hvisit : ctx.visit i.id c = (do
      (ctx.pass i).runComponents (ctx.pass i).components
      return .requeue ctx.settings.resync : StoreM Cluster Action) (c.record (.one .get i.id)) := by
    rw [ctx.visit_of_live h.stored h.live, livePass_of_held h.held]
  cases hanswer : ((ctx.pass i).finding c₁ failure).answer with
  | ok u =>
    rw [hanswer] at hrun
    have hrun := hvisit.trans (bind_of_ok hrun)
    exact ⟨answer_ok hrun, c₂, hcalled, after_ok hrun⟩
  | error e =>
    rw [hanswer] at hrun
    have hrun := hvisit.trans (bind_of_error hrun)
    exact ⟨answer_error hrun, c₂, hcalled, after_error hrun⟩

theorem exists_build (hfit : (ctx.pass i).Fit) (h : c.Hosts i) :
    ∃ c₁ done rest failure,
      (ctx.pass i).build (ctx.pass i).worklist (c.record (.one .get i.id)) = .ok failure c₁ ∧
        ctx.Visit i c c₁ done rest failure := by
  obtain ⟨done, rest, failure, c₁, hwork, hbuild, horderly, hwalk⟩ :=
    Pass.build_ok hfit (c := c.record (.one .get i.id)) (h.orderly.of_objects rfl)
      (fun _ => Pass.mem_deployed) (ctx.pass i).worklist_keys_nodup
  obtain ⟨hanswer, hafter⟩ := visit_of_build h hbuild
  exact ⟨c₁, done, rest, failure, hbuild, hwork, hwalk.of_record, horderly, hanswer, hafter⟩

theorem exists_visit (hfit : (ctx.pass i).Fit) (h : c.Hosts i) :
    ∃ c₁ done rest failure, ctx.Visit i c c₁ done rest failure := by
  obtain ⟨c₁, done, rest, failure, -, hvisit⟩ := exists_build hfit h
  exact ⟨c₁, done, rest, failure, hvisit⟩

namespace Visit

/-- After a visit the objects are those that the walk has left. -/
theorem objects (h : ctx.Visit i c c₁ done rest failure) :
    ((ctx.visit i.id).after c).objects = c₁.objects ∧
      ((ctx.visit i.id).after c).failures = c.failures := by
  obtain ⟨c₂, ⟨calls, rfl⟩, hafter⟩ := h.after
  rw [hafter]
  obtain ⟨hobjects, hfailures⟩ := (ctx.pass i).told_objects { c₁ with calls }
    (((ctx.pass i).finding c₁ failure).conditions? (.reading c.step))
  exact ⟨hobjects, hfailures.trans h.walk.within.failures⟩

/-- Of the instances only the one that was visited has a report it did not have. -/
theorem others (h : ctx.Visit i c c₁ done rest failure) {id : InstanceId} (hid : id ≠ i.id) :
    Table.get? ((ctx.visit i.id).after c).instances id = Table.get? c.instances id := by
  obtain ⟨c₂, ⟨calls, rfl⟩, hafter⟩ := h.after
  rw [hafter, Pass.told_others _ _ _ hid]
  exact congrArg (Table.get? · id) h.walk.within.instances

/-- The instance that was visited has the report on what was found. -/
theorem subject (h : ctx.Visit i c c₁ done rest failure)
    (hi : Table.get? c.instances i.id = some i) :
    ∃ j, Table.get? ((ctx.visit i.id).after c).instances i.id = some j ∧ j.essence = i.essence ∧
      ∀ conditions, ((ctx.pass i).finding c₁ failure).conditions? (.reading c.step)
        = some conditions → j.reports conditions = true := by
  obtain ⟨c₂, ⟨calls, rfl⟩, hafter⟩ := h.after
  rw [hafter]
  exact Pass.told_subject (p := ctx.pass i) (c := { c₁ with calls })
    ((congrArg (Table.get? · i.id) h.walk.within.instances).trans hi) _

end Visit

/-! ## Passes that succeed -/

/-- After a pass that succeeds, every resource of the deployment is as it is to be, and the instance
reports on just that. -/
theorem reconcile_converges (settings : Settings) (op op' : Operator Cluster) (i : Instance)
    (hkeyed : op.store.Keyed) (hformed : ∀ row ∈ op.store.objects, row.2.WellFormed)
    (hi : Table.get? op.store.instances i.id = some i) (hspec : i.spec.WellFormed)
    (hlive : i.isDeleting = false) (hfinalizer : i.hasFinalizer = true)
    (hrun : ({ settings } : Context).reconcileInstance i.id op
      = .ok (.requeue settings.resync) op') :
    let p := ({ settings } : Context).pass i
    (∀ k ∈ p.components, ∀ r ∈ p.managed k, ∃ desired o,
      Table.get? op'.store.objects (r.key i) = some o ∧ p.Delivers r desired o) ∧
    ∃ healths j,
      p.deployed.mapM (fun r => Health.classify (r.key i)
        (Table.get? op'.store.objects (r.key i))) = .ok healths ∧
      Table.get? op'.store.instances i.id = some j ∧
      j.observedGeneration = i.metadata.generation ∧
      ∀ now, (j.conditions.map Condition.untimed).Perm
        ((Health.aggregate now healths).map Condition.untimed) := by
  intro p
  have hfit : p.Fit := own_fit settings hspec
  have hhosts : op.store.Hosts i := ⟨.of_rows hkeyed hformed, hi, hlive, hfinalizer⟩
  obtain ⟨c₁, done, rest, failure, hvisit⟩ := exists_visit hfit hhosts
  have hstore := (Context.reconcileInstance_tracks (σ := Cluster) { settings } i.id).ok hrun
  obtain ⟨hobjects, -⟩ := hvisit.objects
  obtain ⟨j, hj, hessence, hreports⟩ := hvisit.subject hi
  rw [after_ok hstore] at hobjects hj
  -- The pass has succeeded, so the walk has got to its end and everything was looked at.
  have hanswer := hvisit.answer
  rw [answer_ok hstore] at hanswer
  have hok : ∃ u, (p.finding c₁ failure).answer = .ok u := by
    cases hfound : (p.finding c₁ failure).answer with
    | ok u => exact ⟨u, rfl⟩
    | error e =>
      rw [hfound] at hanswer
      cases hanswer
  obtain ⟨u, hok⟩ := hok
  obtain ⟨rfl, healths, hhealths, hfinding⟩ := Pass.finding_ok hok
  obtain rfl := hvisit.walk.halts.rest_eq_nil
  have hreached : ∀ r ∈ p.deployed, p.Reached r op.store c₁ := by
    intro r hr
    rw [← p.worklist_resources] at hr
    obtain ⟨t, ht, rfl⟩ := List.mem_map.1 hr
    rw [hvisit.work, List.append_nil] at ht
    exact hvisit.walk.reached t ht
  refine ⟨fun k hk r hr => ?_, healths, j, ?_, hj, ?_⟩
  · have hdeployed : r ∈ p.deployed := List.mem_flatMap.2 ⟨k, hk, hr⟩
    obtain ⟨o, ho, hsettles⟩ := (hreached r hdeployed).settles hfit hhosts.orderly hdeployed
    obtain ⟨desired, hdelivers⟩ := hsettles.delivers hfit hdeployed
    exact ⟨desired, o, by rw [hobjects]; exact ho, hdelivers⟩
  · rw [← hhealths, hobjects]
    refine Pass.mapM_congr fun r hr => ?_
    have hclear : c₁.injected? .get (p.keyOf r) = none := by
      unfold injected?
      rw [hvisit.walk.within.failures]
      exact (hreached r hr).1
    unfold Pass.healthOn
    rw [hclear]
    rfl
  · have hreport := hreports (Health.aggregate (.reading op.store.step) healths) (by
      rw [hfinding]
      rfl)
    obtain ⟨hgeneration, hperm⟩ := Instance.perm_of_reports
      (Finding.conditions?_nodup (f := .surveyed healths) rfl) hreport
    refine ⟨hgeneration.trans ?_, fun now => ?_⟩
    · exact Instance.eq_of_essence (fun i => i.metadata.generation) (fun _ => rfl) hessence
    · obtain ⟨active, reason, message, heq⟩ := Health.aggregate_eq healths
      rw [heq] at hperm ⊢
      rw [Condition.untimed_report now (.reading op.store.step)]
      exact hperm

/-- The configuration of the workers was there before, with other files. -/
theorem reconcile_converges_of_other_files :
    let i : Instance := { Instance.bare ⟨"nfd", "nfd"⟩ with
      metadata :=
        { name := some "nfd", ns := some "nfd", uid := some "uid-1", generation := some 1,
          finalizers := some [Finalizer.own] } }
    let o : ManagedObject := ⟨.configMap, Kind.configMap.names,
      { ns := some "nfd", name := some "nfd-worker" }, [("data", .ofStringTable [("old", "")])]⟩
    let op : Operator Cluster :=
      { store := { objects := [(o.key, o)], instances := [(i.id, i)] } }
    let ctx : Context := { settings := {} }
    let pass : StoreM (Operator Cluster) Action := ctx.reconcileInstance i.id
    ∃ desired o', Table.get? (pass.after op).store.objects o.key = some o' ∧
      (ctx.pass i).Delivers ⟨.configMap, "nfd-worker"⟩ desired o' := by
  intro i o op ctx pass
  have hkeyed : op.store.Keyed := by
    unfold Keyed
    decide +kernel
  have hanswer : pass.answer op = .ok (.requeue ({} : Settings).resync) := by decide +kernel
  have hrun : pass op = .ok (.requeue ({} : Settings).resync) (pass.after op) :=
    run_of_answer hanswer
  have hconverged := (reconcile_converges {} op _ i hkeyed (by decide +kernel) (by decide +kernel)
    nofun rfl (by decide) hrun).1
  exact hconverged .worker (by decide) ⟨.configMap, "nfd-worker"⟩ (by decide)

/-! ## Passes that follow another -/

/-- Where a visit has just been, another one comes to the same, changes nothing and tells nothing
anybody. -/
theorem Visit.again (hfit : (ctx.pass i).Fit) (h : c.Hosts i)
    (hvisit : ctx.Visit i c c₁ done rest failure) (now : Nat) :
    let later := { (ctx.visit i.id).after c with step := now }
    (ctx.visit i.id).answer later = (ctx.visit i.id).answer c ∧
      later.Called ((ctx.visit i.id).after later) := by
  intro later
  obtain ⟨hobjects, hfailures⟩ := hvisit.objects
  obtain ⟨j, hj, hessence, hreports⟩ := hvisit.subject h.stored
  have htwin : (ctx.pass i).Twin (ctx.pass j) := pass_twin hessence
  have hlater : later.Hosts j := hosts_twin h hessence (hvisit.orderly.of_objects hobjects) hj
  have hid : j.id = i.id := Instance.id_of_essence hessence
  have hwork : (ctx.pass j).worklist = done ++ rest := htwin.worklist.trans hvisit.work
  have hnodup := (ctx.pass j).worklist_keys_nodup
  rw [hwork] at hnodup
  -- The second walk gets as far as the first and writes nothing.
  obtain ⟨y, hbuild, hcalled⟩ := (htwin.walk hvisit.walk).idle (fit_twin hfit hessence) h.orderly
    (x := later.record (.one .get j.id)) (hlater.orderly.of_objects rfl) hobjects
    (hfailures.trans hvisit.walk.within.failures.symm)
    (fun t ht => Pass.mem_deployed (by rwa [hwork])) hnodup
  rw [← hwork] at hbuild
  obtain ⟨hanswer, z, hcalled', hafter⟩ := visit_of_build hlater hbuild
  -- It finds what the first has found, which the instance reports already.
  have hfinding : (ctx.pass j).finding y = (ctx.pass i).finding c₁ := by
    rw [htwin.finding]
    obtain ⟨calls, rfl⟩ := hcalled
    exact Pass.finding_congr fun r _ => congrFun (Pass.healthOn_congr
      (hfailures.trans hvisit.walk.within.failures.symm) hobjects) r
  rw [hfinding, hid] at hanswer hafter
  rw [Pass.told_of_reports fun conditions hsome => ?_] at hafter
  · refine ⟨hanswer.trans hvisit.answer.symm, ?_⟩
    rw [hafter]
    exact trans_of _ (called_record ..) (trans_of _ hcalled hcalled')
  · obtain ⟨conditions', hsome', huntimed⟩ :=
      Finding.conditions?_untimed hsome (.reading c.step)
    exact (Instance.reports_congr huntimed).symm.trans (hreports conditions' hsome')

/-- A pass right after another one comes to the same, whatever that is. It changes no object and no
instance and publishes nothing. -/
theorem reconcile_idempotent (settings : Settings) (op : Operator Cluster) (i : Instance)
    (now : Nat) (hkeyed : op.store.Keyed) (hformed : ∀ row ∈ op.store.objects, row.2.WellFormed)
    (hi : Table.get? op.store.instances i.id = some i) (hspec : i.spec.WellFormed)
    (hlive : i.isDeleting = false) (hfinalizer : i.hasFinalizer = true) :
    let pass : StoreM (Operator Cluster) Action := ({ settings } : Context).reconcileInstance i.id
    let once := pass.after op
    let twice := pass.after (once.atStep now)
    pass.answer (once.atStep now) = pass.answer op ∧
      twice.store.objects = once.store.objects ∧
      twice.store.instances = once.store.instances ∧
      twice.store.events = once.store.events := by
  intro pass once twice
  have hfit : (({ settings } : Context).pass i).Fit := own_fit settings hspec
  have hhosts : op.store.Hosts i := ⟨.of_rows hkeyed hformed, hi, hlive, hfinalizer⟩
  obtain ⟨c₁, done, rest, failure, hvisit⟩ := exists_visit hfit hhosts
  have htracks := Context.reconcileInstance_tracks (σ := Cluster) { settings } i.id
  have honce : once.store = (({ settings } : Context).visit i.id).after op.store :=
    htracks.store_after op
  obtain ⟨hanswer, calls, hcalled⟩ := hvisit.again hfit hhosts now
  rw [← honce] at hanswer hcalled
  refine ⟨?_, ?_⟩
  · exact (htracks.answer_eq _).trans (hanswer.trans (htracks.answer_eq op).symm)
  · have htwice : twice.store = { once.store with step := now, calls } :=
      (htracks.store_after _).trans hcalled
    rw [htwice]
    exact ⟨rfl, rfl, rfl⟩

/-- Somebody else controls the configuration of the workers, so every pass fails. -/
theorem reconcile_idempotent_of_foreign :
    let i : Instance := { Instance.bare ⟨"nfd", "nfd"⟩ with
      metadata :=
        { name := some "nfd", ns := some "nfd", uid := some "uid-1",
          finalizers := some [Finalizer.own] } }
    let o : ManagedObject := ⟨.configMap, Kind.configMap.names,
      { ns := some "nfd", name := some "nfd-worker",
        ownerReferences := some [⟨"v1", none, some true, "Owner", "other", "uid-0"⟩] }, []⟩
    let op : Operator Cluster :=
      { store := { objects := [(o.key, o)], instances := [(i.id, i)] } }
    let ctx : Context := { settings := {} }
    let pass : StoreM (Operator Cluster) Action := ctx.reconcileInstance i.id
    pass.answer op = .error (.ownerReference o.key "already controlled by Owner other") ∧
      pass.answer ((pass.after op).atStep 7) = pass.answer op ∧
      (pass.after ((pass.after op).atStep 7)).store.objects = (pass.after op).store.objects := by
  intro i o op
  have hkeyed : op.store.Keyed := by
    unfold Keyed
    decide +kernel
  have hagain := reconcile_idempotent {} op i 7 hkeyed (by decide +kernel) (by decide +kernel)
    nofun rfl (by decide)
  exact ⟨by decide +kernel, hagain.1, hagain.2.1⟩

end Context

end NodeFeatureOperator
