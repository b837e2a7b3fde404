import NodeFeatureOperator.Proofs.Departure

/-!
# The life of a single instance

A cluster that was empty is empty again when the only instance that ever was there has gone,
whatever happened to the instance in between (`teardown_undoes_setup`). As long as the instance is
to stay, it answers for all objects there are (`Cluster.Tended`); from the moment its deletion is
asked for, it is on its way out and nothing but its prune job can hold it up.
-/

namespace NodeFeatureOperator

open Cluster StoreM

variable {ctx : Context} {manage : Bool} {c c' : Cluster} {i j : Instance} {id : InstanceId}
  {spec : InstanceSpec} {claimed : Prop}

/-! ## While the instance is to stay -/

/-- The instance is to stay under an identity and with a spec. It can own objects, and it has the
finalizer of the operator if it is `claimed`. -/
structure Instance.Stays (i : Instance) (id : InstanceId) (spec : InstanceSpec) (claimed : Prop) :
    Prop where
  live : i.isDeleting = false
  named : i.id = id
  asks : i.spec = spec
  owner : i.controllerReference?.isSome
  held : claimed → i.hasFinalizer = true

theorem Instance.Stays.of_essence (h : i.Stays id spec claimed) (hessence : j.essence = i.essence) :
    j.Stays id spec claimed where
  live := (eq_of_essence isDeleting (fun _ => rfl) hessence).trans h.live
  named := (id_of_essence hessence).trans h.named
  asks := (eq_of_essence Instance.spec (fun _ => rfl) hessence).trans h.asks
  owner := by
    rw [eq_of_essence controllerReference? (fun _ => rfl) hessence]
    exact h.owner
  held hclaimed := (eq_of_essence hasFinalizer (fun _ => rfl) hessence).trans (h.held hclaimed)

theorem Instance.Stays.addFinalizer (h : i.Stays id spec claimed) :
    i.addFinalizer.Stays id spec True where
  live := h.live
  named := h.named
  asks := h.asks
  owner := h.owner
  held _ := decide_eq_true (Finalizer.mem_add i.finalizers Finalizer.own)

namespace Cluster

/-- The only instance is to stay. -/
structure Tended (manage : Bool) (id : InstanceId) (claimed : Prop) (spec : InstanceSpec)
    (c : Cluster) : Prop where
  idle : c.Idle
  instance_stays : ∃ i, c.Sole manage i ∧ i.Stays id spec claimed

/-- The first instance of an empty cluster. -/
theorem insertInstance_tended (hname : i.metadata.name.isSome) (hlive : i.isDeleting = false)
    (hfinalizers : i.finalizers = []) :
    (insertInstance {} i).2.Tended manage i.id False i.spec where
  idle := ⟨idle_empty.keyed, idle_empty.ordered, idle_empty.jobs⟩
  instance_stays := by
    refine ⟨(insertInstance {} i).1, ⟨?_, Table.get?_insert_self .., fun id hne => ?_⟩,
      hlive, rfl, rfl, ?_, False.elim⟩
    · exact insertInstance_tidy (tidy_empty manage) hlive hfinalizers rfl
    · exact (Table.get?_insert ..).trans (if_neg (Ne.symm hne))
    · obtain ⟨name, hname⟩ := Option.isSome_iff_exists.1 hname
      have hname' : (insertInstance {} i).1.metadata.name = some name := hname
      unfold Instance.controllerReference?
      rw [hname']
      rfl

namespace Tended

theorem editInstance (h : c.Tended manage id claimed spec) (spec' : InstanceSpec) :
    (c.editInstance id spec').Tended manage id claimed spec' where
  idle := ⟨h.idle.keyed, h.idle.ordered, h.idle.jobs⟩
  instance_stays := by
    obtain ⟨i, hi, hstays⟩ := h.instance_stays
    obtain rfl := hstays.named
    have htidy : (c.editInstance i.id spec').Tidy manage := by
      refine editInstance_tidy hi.tidy spec' fun j hj => ?_
      obtain rfl := Option.some.inj (hi.stored.symm.trans hj)
      exact Or.inl hstays.live
    have hinstances : (c.editInstance i.id spec').instances
        = Table.modify c.instances i.id (c.bump.respec spec') := rfl
    refine ⟨c.bump.respec spec' i, hi.replace htidy rfl ?_ fun id hne => ?_,
      hstays.live, rfl, rfl, hstays.owner, hstays.held⟩
    · rw [hinstances, Table.get?_modify, if_pos rfl, hi.stored, Option.map_some]
    · rw [hinstances, Table.get?_modify, if_neg (Ne.symm hne)]

theorem markReady (h : c.Tended manage id claimed spec) (ns : String) :
    (c.markReady ns).Tended manage id claimed spec where
  idle := markReady_idle h.idle ns
  instance_stays := by
    obtain ⟨i, hi, hstays⟩ := h.instance_stays
    exact ⟨i, hi.rewritten (c.markReady_rewritten ns), hstays⟩

/-- A visit to the only instance, which puts the finalizer on if it is not there. -/
theorem visit_self (h : c.Tended ctx.settings.manageSecurityPolicies id claimed spec)
    (hsound : ctx.templates.Sound) :
    ((ctx.visit id : StoreM Cluster Action).after c).Tended ctx.settings.manageSecurityPolicies id
      True spec := by
  obtain ⟨i, hi, hstays⟩ := h.instance_stays
  obtain rfl := hstays.named
  have htidy := Context.visit_tidy hsound hi.tidy h.idle i.id
  refine ⟨Context.visit_idle hsound i.id c h.idle, ?_⟩
  have hread : (c.record (.one .get i.id)).Sole ctx.settings.manageSecurityPolicies i :=
    hi.removed (removed_record (K := fun _ => False) ..)
  have hvisit := ctx.visit_of_live hi.stored hstays.live
  cases hfinalizer : i.hasFinalizer with
  | true =>
    have hserves := Context.livePass_attends hsound hfinalizer _ hread.tidy.keyed
    rw [← after_congr hvisit] at hserves
    obtain ⟨j, hj, hessence⟩ := hread.serves hserves htidy
    have hclaimed : i.Stays i.id spec True := ⟨hstays.live, rfl, hstays.asks, hstays.owner,
      fun _ => hfinalizer⟩
    exact ⟨j, hj, hclaimed.of_essence hessence⟩
  | false =>
    obtain ⟨c₁, hcalled, hrun⟩ := ctx.livePass_claims hread.stored hstays.live
      hfinalizer
    have hessence : (c₁.adopt i i.addFinalizer).essence = i.addFinalizer.essence :=
      adopt_essence ..
    have hclaimed := hstays.addFinalizer.of_essence hessence
    rw [after_ok (hvisit.trans hrun)] at htidy ⊢
    refine ⟨_, hread.replace htidy hclaimed.named (Table.get?_insert_self ..) fun id hne => ?_,
      hclaimed⟩
    exact (Table.get?_insert ..).trans ((if_neg (Ne.symm hne)).trans (by rw [hcalled.instances]))

theorem visit (h : c.Tended ctx.settings.manageSecurityPolicies id claimed spec)
    (hsound : ctx.templates.Sound) (id' : InstanceId) :
    ((ctx.visit id' : StoreM Cluster Action).after c).Tended ctx.settings.manageSecurityPolicies id
      claimed spec := by
  by_cases hid : id' = id
  · subst hid
    obtain ⟨hidle, i, hi, hstays⟩ := h.visit_self hsound
    exact ⟨hidle, i, hi, hstays.live, hstays.named, hstays.asks, hstays.owner,
      fun _ => hstays.held trivial⟩
  · obtain ⟨i, hi, hstays⟩ := h.instance_stays
    obtain rfl := hstays.named
    have hread : Removed (fun _ => False) c (c.record (.one .get id')) := removed_record ..
    rw [after_ok (ctx.visit_of_missing (hi.others id' hid))]
    exact ⟨h.idle.removed hread, i, hi.removed hread, hstays⟩

end Tended

/-! ## Once the deletion is asked for -/

/-- The only instance is to go, and nothing of a prune job is there yet. -/
structure Leaving (manage : Bool) (id : InstanceId) (spec : InstanceSpec) (i : Instance)
    (c : Cluster) : Prop where
  sole : c.Sole manage i
  idle : c.Idle
  named : i.id = id
  asks : i.spec = spec
  deleting : i.isDeleting = true
  owner : i.controllerReference?.isSome
  missing : ∀ r ∈ pruneResources, Table.get? c.objects (r.key i) = none

/-- A deletion is asked for of an instance that the operator has claimed. -/
theorem Tended.markDeleting (h : c.Tended manage id True spec) :
    ∃ i, (c.markDeleting id).Leaving manage id spec i := by
  obtain ⟨i, hi, hstays⟩ := h.instance_stays
  obtain rfl := hstays.named
  have hheld : i.finalizers ≠ [] := by
    intro hnone
    have hmem := of_decide_eq_true (hstays.held trivial)
    rw [hnone] at hmem
    cases hmem
  have htidy := markDeleting_tidy_of_held hi.tidy hi.stored hheld
  have hidle := markDeleting_idle h.idle i.id
  have hmissing := hi.no_job hstays.live
  rw [markDeleting_of_held hi.stored hheld] at htidy hidle ⊢
  refine ⟨c.bump.mark i, hi.replace htidy rfl ?_ fun id hne => ?_, hidle, rfl, hstays.asks, rfl,
    hstays.owner, hmissing⟩
  · rw [Table.get?_modify, if_pos rfl, hi.stored, Option.map_some]
  · rw [Table.get?_modify, if_neg (Ne.symm hne)]

/-- An instance that leaves and asks for a prune job waits for it. -/
theorem Leaving.waits {P : ManagedObject → Prop} (h : c.Leaving manage id spec i)
    (hon : spec.pruneOnDelete = true) : c.Waits manage P i where
  sole := h.sole
  idle := h.idle
  deleting := h.deleting
  prunes := by rw [h.asks, hon]
  owner := h.owner
  job := Or.inl h.missing

end Cluster

/-! ## Runs -/

namespace Step

/-- What may happen while the instance is to stay: passes, edits of its spec and reports of its
workloads. -/
def Tends (id : InstanceId) : Step → Prop
  | pass _ => True
  | editSpec id' _ => id' = id
  | markReady _ => True
  | _ => False

/-- The spec of the instance after such a step. -/
def specAfter (spec : InstanceSpec) : Step → InstanceSpec
  | editSpec _ spec => spec
  | _ => spec

/-- A pass, or a report of a job that has not succeeded. -/
def Unfinished : Step → Prop
  | pass _ => True
  | setJobStatus _ succeeded _ => succeeded < 1
  | _ => False

/-- A pass, or a report of a job that has neither succeeded nor failed. -/
def Uneventful : Step → Prop
  | pass _ => True
  | setJobStatus _ succeeded failed => succeeded < 1 ∧ failed < 1
  | _ => False

/-- A pass, or a report of a job that has not succeeded and goes on having a property. -/
def Delays (P : ManagedObject → Prop) : Step → Prop
  | pass _ => True
  | setJobStatus _ succeeded failed =>
    succeeded < 1 ∧ ∀ job, job.kind = .job → P job → P (withJobStatus succeeded failed job)
  | _ => False

theorem Unfinished.delays {s : Step} (h : s.Unfinished) : s.Delays fun _ => True := by
  cases s with
  | pass id => trivial
  | setJobStatus key succeeded failed => exact ⟨h, fun _ _ _ => trivial⟩
  | _ => exact h.elim

theorem Uneventful.delays {s : Step} (h : s.Uneventful) :
    s.Delays fun job => job.statusCount "failed" < 1 := by
  cases s with
  | pass id => trivial
  | setJobStatus key succeeded failed =>
    refine ⟨h.1, fun job hkind _ => ?_⟩
    change (withJobStatus succeeded failed job).statusCount "failed" < 1
    rw [(statusCount_withJobStatus hkind succeeded failed).2]
    exact h.2
  | _ => exact h.elim

end Step

/-- The spec of an instance after steps, the last edit of all. -/
def finalSpec (spec : InstanceSpec) (steps : List Step) : InstanceSpec :=
  steps.foldl Step.specAfter spec

variable {P : ManagedObject → Prop} {s : Step} {steps : List Step} {op : Operator Cluster}

theorem onCluster_tended (h : ctx.templates.Sound) (hs : s.Tends id)
    (hc : c.Tended ctx.settings.manageSecurityPolicies id claimed spec) :
    (s.onCluster ctx c).Tended ctx.settings.manageSecurityPolicies id claimed
      (s.specAfter spec) := by
  cases s with
  | pass id' => exact hc.visit h id'
  | editSpec id' spec' =>
    obtain rfl := hs
    exact hc.editInstance spec'
  | markReady ns => exact hc.markReady ns
  | _ => exact hs.elim

/-- A run in which the operator gets to the instance ends with the finalizer on. -/
theorem run_tended (h : ctx.templates.Sound) (hsteps : ∀ s ∈ steps, s.Tends id)
    (hpass : .pass id ∈ steps)
    (hop : op.store.Tended ctx.settings.manageSecurityPolicies id claimed spec) :
    (run ctx op steps).store.Tended ctx.settings.manageSecurityPolicies id True
      (finalSpec spec steps) :=
  run_learns (Q := Tended ctx.settings.manageSecurityPolicies id claimed)
    (fun _ _ _ hs => onCluster_tended h hs) (fun _ _ _ hs => onCluster_tended h hs)
    (fun _ _ hc => hc.visit_self h) hsteps hpass hop

/-- A run with a single instance, to which the operator gets before its deletion is asked for. -/
theorem run_leaving {start : Operator Cluster} (h : ctx.templates.Sound) (hstart : start.store = {})
    (hname : i.metadata.name.isSome) (hlive : i.isDeleting = false)
    (hfinalizers : i.finalizers = []) (hsteps : ∀ s ∈ steps, s.Tends i.id)
    (hpass : .pass i.id ∈ steps) :
    ∃ x, (run ctx start (.insertInstance i :: steps ++ [.markDeleting i.id])).store.Leaving
      ctx.settings.manageSecurityPolicies i.id (finalSpec i.spec steps) x := by
  have hinserted : (Step.take ctx start (.insertInstance i)).store.Tended
      ctx.settings.manageSecurityPolicies i.id False i.spec := by
    rw [Step.take_store, hstart]
    exact insertInstance_tended hname hlive hfinalizers
  rw [List.cons_append, run_cons, run_append, run_cons, run_nil, Step.take_store]
  exact (run_tended h hsteps hpass hinserted).markDeleting

/-- The only instance waits for its prune job, which is there once it is `born`. -/
def Cluster.Awaits (manage : Bool) (P : ManagedObject → Prop) (id : InstanceId) (born : Prop)
    (c : Cluster) : Prop :=
  ∃ i, c.Waits manage P i ∧ i.id = id ∧
    (born → ∃ job, Table.get? c.objects (pruneJob.key i) = some job ∧ P job)

/-- A visit of an instance that waits. -/
theorem Cluster.Awaits.visit {born : Prop} (h : ctx.templates.Sound)
    (htemplates : ∀ r ∈ pruneResources, Table.contains ctx.templates.templates r = true)
    (hP : ∀ job : ManagedObject, Table.get? job.body "status" = none → P job)
    (hc : c.Awaits ctx.settings.manageSecurityPolicies P id born) :
    ((ctx.visit id : StoreM Cluster Action).after c).Awaits ctx.settings.manageSecurityPolicies P id
      True := by
  obtain ⟨i, hi, rfl, -⟩ := hc
  obtain ⟨⟨j, hj, hid⟩, hjob, -⟩ := Context.visit_waits h htemplates hP hi
  refine ⟨j, hj, hid, fun _ => ?_⟩
  rwa [pruneJob.key_of_id hid]

theorem onCluster_awaits {born : Prop} (h : ctx.templates.Sound)
    (htemplates : ∀ r ∈ pruneResources, Table.contains ctx.templates.templates r = true)
    (hP : ∀ job : ManagedObject, Table.get? job.body "status" = none → P job) (hs : s.Delays P)
    (hc : c.Awaits ctx.settings.manageSecurityPolicies P id born) :
    (s.onCluster ctx c).Awaits ctx.settings.manageSecurityPolicies P id born := by
  cases s with
  | pass id' =>
    by_cases hid : id' = id
    · subst hid
      obtain ⟨i, hi, hid, hjob⟩ := hc.visit h htemplates hP
      exact ⟨i, hi, hid, fun _ => hjob trivial⟩
    · obtain ⟨i, hi, rfl, hjob⟩ := hc
      change Awaits _ _ _ _ ((ctx.visit id' : StoreM Cluster Action).after c)
      rw [after_ok (ctx.visit_of_missing (hi.sole.others id' hid))]
      exact ⟨i, hi.removed (removed_record ..), rfl, hjob⟩
  | setJobStatus key succeeded failed =>
    obtain ⟨i, hi, rfl, hjob⟩ := hc
    refine ⟨i, hi.setJobStatus key hs.1 hs.2, rfl, fun hborn => ?_⟩
    obtain ⟨job, hjob, hPjob⟩ := hjob hborn
    exact hi.setJobStatus_job key hs.2 hjob hPjob
  | _ => exact hs.elim

theorem run_awaits {born : Prop} (h : ctx.templates.Sound)
    (htemplates : ∀ r ∈ pruneResources, Table.contains ctx.templates.templates r = true)
    (hP : ∀ job : ManagedObject, Table.get? job.body "status" = none → P job)
    (hsteps : ∀ s ∈ steps, s.Delays P)
    (hop : op.store.Awaits ctx.settings.manageSecurityPolicies P id born) :
    (run ctx op steps).store.Awaits ctx.settings.manageSecurityPolicies P id born :=
  @run_follows ctx op steps Unit (fun _ => Awaits _ P id born) (fun _ _ => ()) (·.Delays P)
    (fun _ _ _ hs => onCluster_awaits h htemplates hP hs) hsteps () hop

/-- A run with a pass over the instance ends with the job there. -/
theorem run_awaits_born {born : Prop} (h : ctx.templates.Sound)
    (htemplates : ∀ r ∈ pruneResources, Table.contains ctx.templates.templates r = true)
    (hP : ∀ job : ManagedObject, Table.get? job.body "status" = none → P job)
    (hsteps : ∀ s ∈ steps, s.Delays P) (hpass : .pass id ∈ steps)
    (hop : op.store.Awaits ctx.settings.manageSecurityPolicies P id born) :
    (run ctx op steps).store.Awaits ctx.settings.manageSecurityPolicies P id True :=
  @run_learns ctx op (.pass id) steps Unit (fun _ => Awaits _ P id born)
    (fun _ => Awaits _ P id True) (fun _ _ => ()) (·.Delays P)
    (fun _ _ _ hs => onCluster_awaits h htemplates hP hs)
    (fun _ _ _ hs => onCluster_awaits h htemplates hP hs) (fun _ _ hc => hc.visit h htemplates hP)
    hsteps hpass () hop

/-- The next pass over the instance is the last one, and leaves nothing in the cluster. -/
def Context.Empties (ctx : Context) (id : InstanceId) (op : Operator Cluster) : Prop :=
  ∃ op' : Operator Cluster, ctx.reconcileInstance id op = .ok .await op' ∧
    op'.store.instances = [] ∧ op'.store.objects = []

theorem Context.empties_of_visit (h : ∃ c' : Cluster, ctx.visit id op.store = .ok .await c' ∧
    c'.instances = [] ∧ c'.objects = []) : ctx.Empties id op := by
  obtain ⟨c', hvisit, hinstances, hobjects⟩ := h
  obtain ⟨op', hrun, rfl⟩ := (ctx.reconcileInstance_tracks (σ := Cluster) id).of_ok hvisit
  exact ⟨op', hrun, hinstances, hobjects⟩

/-- While the prune job of the only instance has not failed, a pass asks for another one and leaves
the job in the cluster. -/
theorem Cluster.Awaits.requeues {born : Prop} (h : ctx.templates.Sound)
    (htemplates : ∀ r ∈ pruneResources, Table.contains ctx.templates.templates r = true)
    (hP : ∀ job : ManagedObject, Table.get? job.body "status" = none →
      job.statusCount "failed" < 1)
    (hop : op.store.Awaits ctx.settings.manageSecurityPolicies
      (fun job => job.statusCount "failed" < 1) id born) (hi : i.id = id) :
    ∃ op' : Operator Cluster,
      ctx.reconcileInstance id op = .ok (.requeue ctx.settings.pruneRequeue) op' ∧
        ∃ job, Table.get? op'.store.objects (pruneJob.key i) = some job ∧ job.kind = .job := by
  obtain ⟨x, hx, rfl, -⟩ := hop
  obtain ⟨⟨y, hy, hid⟩, ⟨job, hjob, -⟩, hrun⟩ := Context.visit_waits h htemplates hP hx
  obtain ⟨op', hrun', hstore⟩ := (ctx.reconcileInstance_tracks (σ := Cluster) x.id).of_ok
    (hrun fun _ hfailed => hfailed)
  refine ⟨op', hrun', job, ?_, hy.kind_job ?_⟩
  · rw [hstore, pruneJob.key_of_id hi]
    exact hjob
  · rw [pruneJob.key_of_id hid]
    exact hjob

/-- Where the prune job of the only instance reports a success, the next pass is the last one. -/
theorem Cluster.Awaits.empties (hop : op.store.Awaits ctx.settings.manageSecurityPolicies P id True)
    {succeeded : Int} (hsucceeded : 1 ≤ succeeded) (failed : Int) (hi : i.id = id) :
    ctx.Empties id (Step.take ctx op (.setJobStatus (pruneJob.key i) succeeded failed)) := by
  obtain ⟨x, hx, rfl, hjob⟩ := hop
  obtain ⟨job, hjob, -⟩ := hjob trivial
  have hreported := op.store.setJobStatus_rewritten (pruneJob.key i) succeeded failed
  have hstored := (hreported.get? (pruneJob.key x)).trans (congrArg _ hjob)
  rw [Option.map_some, if_pos (pruneJob.key_of_id hi.symm)] at hstored
  have hkind := hx.kind_job hjob
  refine Context.empties_of_visit ?_
  rw [Step.take_store]
  refine Context.visit_empties_of_succeeded (hx.sole.rewritten hreported) hx.deleting hx.prunes
    hstored ((withJobStatus_kind ..).trans hkind) ?_
  rw [(statusCount_withJobStatus hkind succeeded failed).1]
  exact hsucceeded

/-- A teardown undoes what a setup did. Let a single named instance come into an empty cluster, and
let the operator get to it at least once before its deletion is asked for; whatever else happens to
it in the meantime, a pass then leaves no instance and no object in the cluster. Without pruning it
is the first pass. With pruning, passes wait for the prune job, which is there from the first pass
on, as long as it reports neither success nor failure, and the first pass after it reports a success
is the last one. -/
theorem teardown_undoes_setup (settings : Settings) (start : Operator Cluster)
    (hstart : start.store = {}) (i : Instance) (hname : i.metadata.name.isSome)
    (hlive : i.isDeleting = false) (hfinalizers : i.finalizers = []) (steps : List Step)
    (hsteps : ∀ s ∈ steps, s.Tends i.id) (hpass : .pass i.id ∈ steps) :
    let ctx : Context := { settings }
    let op := run ctx start (.insertInstance i :: steps ++ [.markDeleting i.id])
    let spec := finalSpec i.spec steps
    let job := pruneJob.key i
    (spec.pruneOnDelete = false → ctx.Empties i.id op) ∧
    (spec.pruneOnDelete = true →
      (∀ waits : List Step, (∀ s ∈ waits, s.Uneventful) → ∃ op' : Operator Cluster,
        ctx.reconcileInstance i.id (run ctx op waits) = .ok (.requeue settings.pruneRequeue) op' ∧
          ∃ o, Table.get? op'.store.objects job = some o ∧ o.kind = .job) ∧
      ∀ waits : List Step, (∀ s ∈ waits, s.Unfinished) → .pass i.id ∈ waits →
        ∀ succeeded failed, 1 ≤ succeeded →
          ctx.Empties i.id (run ctx op (waits ++ [.setJobStatus job succeeded failed]))) := by
  intro ctx op spec job
  have hsound : ctx.templates.Sound := Registry.own_sound
  have htemplates : ∀ r ∈ pruneResources, Table.contains ctx.templates.templates r = true :=
    Registry.own_prune
  obtain ⟨x, hx⟩ := run_leaving hsound hstart hname hlive hfinalizers hsteps hpass
  refine ⟨fun hoff => ?_, fun hon => ⟨fun waits hwaits => ?_, ?_⟩⟩
  · refine Context.empties_of_visit ?_
    rw [← hx.named]
    exact Context.visit_empties_of_unpruned hx.sole hx.deleting (by rw [hx.asks, hoff])
  · have hP (job : ManagedObject) (hfresh : Table.get? job.body "status" = none) :
        job.statusCount "failed" < 1 := by
      rw [ManagedObject.statusCount_of_noStatus hfresh]
      decide
    have hop : op.store.Awaits settings.manageSecurityPolicies
        (fun job => job.statusCount "failed" < 1) i.id False :=
      ⟨x, hx.waits hon, hx.named, False.elim⟩
    have hwaiting := run_awaits hsound htemplates hP
      (fun s hs => (hwaits s hs).delays) hop
    exact hwaiting.requeues hsound htemplates hP rfl
  · intro waits hwaits hpass succeeded failed hsucceeded
    have hop : op.store.Awaits settings.manageSecurityPolicies (fun _ => True) i.id False :=
      ⟨x, hx.waits hon, hx.named, False.elim⟩
    have hborn := run_awaits_born hsound htemplates (fun _ _ => trivial)
      (fun s hs => (hwaits s hs).delays) hpass hop
    rw [run_append]
    exact hborn.empties hsucceeded failed rfl

/-- An updater is switched on and the prune job asked for before the instance goes. -/
theorem teardown_undoes_setup_of_edited :
    let i := Instance.bare ⟨"nfd", "nfd"⟩
    let ctx : Context := { settings := {} }
    let steps : List Step := [.pass i.id, .pass i.id,
      .editSpec i.id { topologyUpdater := true, pruneOnDelete := true }, .pass i.id,
      .markReady "nfd"]
    let op := run ctx { store := {} } (.insertInstance i :: steps ++ [.markDeleting i.id])
    ctx.Empties i.id (run ctx op [.pass i.id, .setJobStatus (pruneJob.key i) 1 0]) := by
  intro i ctx steps op
  have hsteps : ∀ s ∈ steps, s.Tends i.id := by
    intro s hs
    simp only [steps, List.mem_cons, List.not_mem_nil, or_false] at hs
    rcases hs with rfl | rfl | rfl | rfl | rfl
    all_goals simp [Step.Tends]
  have hundone := teardown_undoes_setup {} { store := {} } rfl i rfl rfl rfl steps hsteps
    List.mem_cons_self
  refine (hundone.2 rfl).2 [.pass i.id] (fun s hs => ?_) List.mem_cons_self 1 0 (by decide)
  obtain rfl := List.mem_singleton.1 hs
  trivial

end NodeFeatureOperator
