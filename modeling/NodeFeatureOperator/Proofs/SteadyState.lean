import Mathlib.Data.List.Induction
import NodeFeatureOperator.Proofs.Commutation
import NodeFeatureOperator.Proofs.Footprint

/-!
# The common steady state of several instances

After a pass that has succeeded an instance is at rest: its objects are as they are to be, and it
reports on just that (`Context.Rests`). Where the content of a shared object goes by the instance,
as it does for cluster role bindings and security policies, a pass over an instance of another
namespace stirs it up, and it stirs nothing else (`Context.Rests.beside`). A pass over an instance
at rest succeeds and writes to nothing but what was stirred up (`Context.Rests.again`). So however
many instances take turns, their passes settle to updates of these objects
(`Context.reconcile_rests`), but not to nothing (`Context.reconcile_stirs`).
-/

namespace NodeFeatureOperator

open Cluster StoreM

/-! ## Writes on record -/

namespace Cluster

variable {W : Call → Prop} {c c' : Cluster}

/-- All calls that were made in between and that change anything are allowed by `W`. -/
def Writes (W : Call → Prop) (c c' : Cluster) : Prop :=
  ∃ calls, c'.calls = c.calls ++ calls ∧ ∀ call ∈ calls, call.isWrite = true → W call

instance : IsPreorder Cluster (Writes W) where
  refl _ := ⟨[], (List.append_nil _).symm, by simp⟩
  trans := by
    rintro c c' c'' ⟨calls, hcalls, hW⟩ ⟨more, hmore, hW'⟩
    refine ⟨calls ++ more, by rw [hmore, hcalls, List.append_assoc], fun call hmem => ?_⟩
    rcases List.mem_append.1 hmem with hmem | hmem
    · exact hW call hmem
    · exact hW' call hmem

theorem Writes.mono {V : Call → Prop} (hWV : ∀ call, W call → V call) (h : Writes W c c') :
    Writes V c c' := by
  obtain ⟨calls, hcalls, hW⟩ := h
  exact ⟨calls, hcalls, fun call hmem hwrite => hWV call (hW call hmem hwrite)⟩

theorem writes_record (call : Call) (h : call.isWrite = true → W call)
    (hcalls : c'.calls = (c.record call).calls) : Writes W c c' :=
  ⟨[call], hcalls, fun _ hmem hwrite => by
    obtain rfl := List.mem_singleton.1 hmem
    exact h hwrite⟩

theorem get_writes (key : Key) :
    Keeps (Writes W) (Store.get key : StoreM Cluster (Option ManagedObject)) := by
  intro c
  exact writes_record (.object .get key) (fun h => by cases h) (by rw [get_after])

theorem update_writes {o : ManagedObject} (h : W (.object .update o.key)) :
    Keeps (Writes W) (Store.update o : StoreM Cluster ManagedObject) := by
  intro c
  rcases update_after o c with hafter | ⟨uid, hafter⟩
  · exact writes_record _ (fun _ => h) (by rw [hafter])
  · exact writes_record _ (fun _ => h) (by rw [hafter]; rfl)

theorem publish_writes (i : Instance) (e : Event) :
    Keeps (Writes W) (Store.publish i e : StoreM Cluster Unit) :=
  fun _ => writes_record (.one .event i.id) (fun h => by cases h) rfl

end Cluster

namespace Pass

variable {p : Pass} {r : Resource} {c : Cluster} {live : ManagedObject} {S : Key → Prop}
  {ts : List (Component × Resource)}

/-- To apply a resource whose object is there updates the object, if it is not what it is to be,
and writes nothing else. -/
theorem apply_writes (h : p.templates.Sound) (hc : c.Orderly)
    (hfound : Table.get? c.objects (p.keyOf r) = some live) :
    Writes (fun call => call = .object .update (p.keyOf r) ∧ p.goal r (some live) ≠ .ok live) c
      ((p.apply r : StoreM Cluster Applied).after c) := by
  obtain ⟨hlive, hkind⟩ := hc.found r p.subject live hfound
  unfold apply
  refine rel_after_bind (Keeps.ofExcept _ c) fun d c₁ hd => ?_
  obtain ⟨hrender, rfl⟩ := ofExcept_ok_iff.1 hd
  refine rel_after_bind (get_writes _ c₁) fun found c₂ hget => ?_
  obtain rfl : found = some live := (get_ok hget).1.trans hfound
  refine rel_after_bind (Keeps.ofExcept _ c₂) fun o c₃ ho => ?_
  obtain ⟨hconverged, rfl⟩ := ofExcept_ok_iff.1 ho
  have hgoal : p.goal r (some live) = .ok o := by
    unfold goal
    rw [hrender]
    exact hconverged
  split
  · exact refl_of _ c₃
  · next hne =>
    obtain ⟨t, ht, rfl⟩ := Registry.render_ok hrender
    have htemplate := h r t ht
    have hkey : o.key = p.keyOf r := ((htemplate.desired ..).converged
      (htemplate.desired_sorted ..) hkind hconverged).key_eq
    have hchanged : p.goal r (some live) ≠ .ok live := by
      rw [hgoal]
      rintro heq
      exact hne (congrArg ManagedObject.toJson (Except.ok.inj heq))
    refine rel_after_bind (update_writes ⟨by rw [hkey], hchanged⟩ c₃) fun _ c₄ _ => ?_
    exact (publish_writes _ _).bestEffort.bind (fun _ => Keeps.pure _) c₄

/-- A walk over resources whose objects are there updates those that are not what they are to be,
and writes nothing else. -/
theorem build_writes (h : p.Fit) (hc : c.Orderly) (hts : ∀ t ∈ ts, t.2 ∈ p.deployed)
    (hnodup : (ts.map fun t => p.keyOf t.2).Nodup)
    (hfound : ∀ t ∈ ts, ∃ live, Table.get? c.objects (p.keyOf t.2) = some live ∧
      (p.goal t.2 (some live) = .ok live ∨ S (p.keyOf t.2))) :
    Writes (fun call => ∃ k, call = .object .update k ∧ S k) c ((p.build ts).after c) := by
  induction ts generalizing c with
  | nil => exact refl_of _ c
  | cons t ts ih =>
    obtain ⟨k, r⟩ := t
    obtain ⟨hr, hts⟩ := List.forall_mem_cons.1 hts
    obtain ⟨hfirst, hnodup⟩ := List.nodup_cons.1 hnodup
    obtain ⟨⟨live, hlive, hstirred⟩, hfound⟩ := List.forall_mem_cons.1 hfound
    have happly : Writes (fun call => ∃ k, call = .object .update k ∧ S k) c
        ((p.apply r : StoreM Cluster Applied).after c) := by
      refine (apply_writes h.sound hc hlive).mono ?_
      rintro call ⟨rfl, hchanged⟩
      exact ⟨_, rfl, hstirred.resolve_left hchanged⟩
    cases hrun : (p.apply r : StoreM Cluster Applied) c with
    | error e c₁ =>
      rw [after_error hrun] at happly
      rwa [after_ok (build_of_error hrun)]
    | ok a c₁ =>
      have htouches := (p.apply_touches h.sound r).of_ok hrun hc.keyed
      rw [after_ok hrun] at happly
      rw [after_congr (build_of_ok hrun)]
      refine trans_of _ happly (ih (apply_orderly h hc hr hrun) hts hnodup fun t ht => ?_)
      rw [htouches.objects _ fun heq => hfirst (List.mem_map.2 ⟨t, ht, heq⟩)]
      exact hfound t ht

end Pass

/-! ## Objects that instances contend for -/

/-- Objects of the whole cluster are contended for where their content goes by the instance. -/
def Kind.contended : Kind → Bool
  | .clusterRoleBinding | .securityContextConstraints => true
  | _ => false

theorem Kind.eq_of_contended {k : Kind} (h : k.contended = true) :
    k = .clusterRoleBinding ∨ k = .securityContextConstraints := by
  cases k with
  | clusterRoleBinding => exact Or.inl rfl
  | securityContextConstraints => exact Or.inr rfl
  | _ => cases h

theorem ManagedObject.setDesired_shared {t : ManagedObject} (hscope : t.kind.clusterScoped = true)
    (hkind : t.kind.contended = false) (i j : Instance) (image image' : String) :
    t.setDesired i image = t.setDesired j image' := by
  obtain ⟨kind, names, metadata, body⟩ := t
  cases kind with
  | clusterRole => rfl
  | clusterRoleBinding => cases hkind
  | securityContextConstraints => cases hkind
  | _ => cases hscope

namespace Context

variable {ctx : Context} {i j : Instance} {c c' c₁ : Cluster} {S : Key → Prop}
  {done rest : List (Component × Resource)} {failure : Option (Component × Error)}

/-- What is shared and not contended for is for all instances as it is for one. -/
theorem settles_shared {r : Resource} {o : ManagedObject} (hfit : (ctx.pass j).Fit)
    (h : (ctx.pass j).Settles r o) (hscope : r.kind.clusterScoped = true)
    (hkind : r.kind.contended = false) : (ctx.pass i).Settles r o := by
  refine ⟨h.wellFormed, h.kind, fun d hd => ?_⟩
  obtain ⟨t, ht, rfl⟩ := Registry.render_ok hd.rendered
  have htemplate := hfit.sound r t ht
  have hsame : t.setDesired i (ctx.pass i).image = t.setDesired j (ctx.pass j).image :=
    ManagedObject.setDesired_shared (by rwa [htemplate.kind]) (by rwa [htemplate.kind]) ..
  have hrender : (ctx.pass j).templates.render j r (ctx.pass j).image
      = .ok (t.setDesired j (ctx.pass j).image) := Registry.render_of_get? ht
  have hsettled := h.settled _ ⟨hrender, hfit.wellFormed.render hfit.spec hrender,
    htemplate.desired ..⟩
  change o.Settled (t.setDesired i (ctx.pass i).image) i
  rw [hsame]
  exact ⟨hsettled.holds, ManagedObject.own_of_clusterScoped (by rwa [h.kind])⟩

/-! ## Instances at rest -/

/-- The instance reports that all is well, and everything that it deploys is there, as it is to be
but for shared objects under keys of `S`. -/
structure Rests (ctx : Context) (S : Key → Prop) (i : Instance) (c : Cluster) : Prop where
  hosts : c.Hosts i
  quiet : c.failures = []
  objects : ∀ r ∈ (ctx.pass i).deployed, ∃ o, Table.get? c.objects (r.key i) = some o ∧
    ((ctx.pass i).Settles r o ∨ r.kind.clusterScoped = true ∧ S (r.key i))
  sound : ((ctx.pass i).finding c none).answer = .ok ()
  reported : ∀ now conditions,
    ((ctx.pass i).finding c none).conditions? now = some conditions → i.reports conditions = true

namespace Rests

theorem contains (h : ctx.Rests S i c) {r : Resource} (hr : r ∈ (ctx.pass i).deployed) :
    Table.contains c.objects (r.key i) = true := by
  obtain ⟨o, ho, -⟩ := h.objects r hr
  unfold Table.contains
  rw [ho]
  rfl

/-- Nothing that an instance at rest deploys keeps a pass from getting on. -/
theorem goalOn (h : ctx.Rests S i c) (hfit : (ctx.pass i).Fit) {r : Resource}
    (hr : r ∈ (ctx.pass i).deployed) : ∃ o, (ctx.pass i).goalOn c r = .ok o := by
  obtain ⟨o, ho, hsettles | ⟨hscope, -⟩⟩ := h.objects r hr
  · have hgoal := hsettles.goal hfit hr
    rw [← ho] at hgoal
    exact ⟨o, hgoal⟩
  · exact Pass.goal_shared hfit hr (h.hosts.orderly.found r i) hscope

/-- The rest does not depend on the clock. -/
theorem atStep (h : ctx.Rests S i c) (step : Nat) : ctx.Rests S i { c with step } where
  hosts := h.hosts.atStep step
  quiet := h.quiet
  objects := h.objects
  sound := h.sound
  reported := h.reported

theorem mono {T : Key → Prop} (hST : ∀ k, S k → T k) (h : ctx.Rests S i c) : ctx.Rests T i c :=
  { h with
    objects := fun r hr => by
      obtain ⟨o, ho, hrests⟩ := h.objects r hr
      exact ⟨o, ho, hrests.imp_right (And.imp_right (hST _))⟩ }

end Rests

/-- After a visit that succeeds the instance is at rest. -/
theorem Visit.rests (h : ctx.Visit i c c₁ done rest failure) (hfit : (ctx.pass i).Fit)
    (hi : c.Hosts i) (hquiet : c.failures = [])
    (hok : ((ctx.pass i).finding c₁ failure).answer = .ok ()) :
    ∃ j, j.essence = i.essence ∧ ctx.Rests (fun _ => False) j ((ctx.visit i.id).after c) := by
  obtain ⟨rfl, -⟩ := Pass.finding_ok hok
  obtain rfl := h.walk.halts.rest_eq_nil
  obtain ⟨hobjects, hfailures⟩ := h.objects
  obtain ⟨j, hj, hessence, hreports⟩ := h.subject hi.stored
  have htwin : (ctx.pass i).Twin (ctx.pass j) := pass_twin hessence
  have hfinding : (ctx.pass j).finding ((ctx.visit i.id).after c) = (ctx.pass i).finding c₁ := by
    rw [htwin.finding]
    exact Pass.finding_congr fun r _ => congrFun (Pass.healthOn_congr
      (hfailures.trans h.walk.within.failures.symm) hobjects) r
  refine ⟨j, hessence, hosts_twin hi hessence (h.orderly.of_objects hobjects) hj,
    hfailures.trans hquiet, fun r hr => ?_, ?_, fun now conditions hsome => ?_⟩
  · obtain ⟨t, ht, rfl⟩ := Pass.exists_task hr
    rw [htwin.worklist, h.work, List.append_nil] at ht
    obtain ⟨o, ho, hsettles⟩ := ((htwin.walk h.walk).reached t ht).settles
      (fit_twin hfit hessence) hi.orderly hr
    rw [hobjects]
    exact ⟨o, ho, Or.inl hsettles⟩
  · rw [hfinding, hok]
  · rw [hfinding] at hsome
    obtain ⟨conditions', hsome', huntimed⟩ :=
      Finding.conditions?_untimed hsome (.reading c.step)
    exact (Instance.reports_congr huntimed).symm.trans (hreports conditions' hsome')

theorem rests_of_ok {a : Action} (hfit : (ctx.pass i).Fit) (h : c.Hosts i)
    (hquiet : c.failures = []) (hok : (ctx.visit i.id).answer c = .ok a) :
    ∃ j, j.essence = i.essence ∧ ctx.Rests (fun _ => False) j ((ctx.visit i.id).after c) := by
  obtain ⟨c₁, done, rest, failure, hvisit⟩ := exists_visit hfit h
  refine hvisit.rests hfit h hquiet ?_
  rw [hvisit.answer] at hok
  cases hanswer : ((ctx.pass i).finding c₁ failure).answer with
  | ok u => rfl
  | error e =>
    rw [hanswer] at hok
    cases hok

/-- A visit to an instance of another namespace stirs up what both deploy and contend for. -/
theorem Rests.beside (h : ctx.Rests S i c) (hfit : (ctx.pass j).Fit) (hj : c.Hosts j)
    (hns : i.ns ≠ j.ns) :
    ctx.Rests (fun k => S k ∨ k.kind.contended = true ∧ (ctx.pass j).Deploys k) i
      ((ctx.visit j.id).after c) := by
  have hne : i.id ≠ j.id := fun h => hns (congrArg InstanceId.ns h)
  obtain ⟨c₁, done, rest, failure, hvisit⟩ := exists_visit hfit hj
  have hosts : ((ctx.visit j.id).after c).Hosts i := hvisit.hosts h.hosts hne _
  have hquiet : ((ctx.visit j.id).after c).failures = [] := hvisit.objects.2.trans h.quiet
  have helsewhere {r : Resource} (hscope : r.kind.clusterScoped = false) :
      Table.get? ((ctx.visit j.id).after c).objects (r.key i) = Table.get? c.objects (r.key i) := by
    refine hvisit.elsewhere (by rwa [r.key_kind]) ?_
    rw [show (r.key i).ns = some i.ns from (ctx.pass i).keyOf_ns hscope]
    exact mt Option.some.inj hns
  have hfinding : (ctx.pass i).finding ((ctx.visit j.id).after c) = (ctx.pass i).finding c := by
    refine Pass.finding_alike h.hosts.orderly hosts.orderly h.quiet hquiet fun r hr => ?_
    cases hscope : r.kind.clusterScoped with
    | true =>
      exact Or.inl ⟨rfl, h.contains hr, (hvisit.contains_iff _).2 (Or.inl (h.contains hr))⟩
    | false => exact Or.inr (congrArg _ (helsewhere hscope).symm)
  refine ⟨hosts, hquiet, fun r hr => ?_, by rw [hfinding, h.sound], ?_⟩
  · obtain ⟨o, ho, hrests⟩ := h.objects r hr
    by_cases hk : ∃ t ∈ done, (ctx.pass j).keyOf t.2 = r.key i
    · obtain ⟨t, ht, heq⟩ := hk
      obtain rfl := Resource.eq_of_key_eq heq
      have htask : t ∈ (ctx.pass j).worklist := by
        rw [hvisit.work]
        exact List.mem_append_left _ ht
      cases hscope : t.2.kind.clusterScoped with
      | false =>
        have hplace := ((ctx.pass i).keyOf_ns hscope).symm.trans
          ((congrArg Key.ns heq).symm.trans ((ctx.pass j).keyOf_ns hscope))
        exact absurd (Option.some.inj hplace) hns
      | true =>
        obtain ⟨o', ho', hsettles⟩ := (hvisit.walk.reached t ht).settles hfit hj.orderly
          (Pass.mem_deployed htask)
        rw [heq] at ho'
        rw [hvisit.objects.1]
        refine ⟨o', ho', ?_⟩
        cases hkind : t.2.kind.contended with
        | true =>
          exact Or.inr ⟨rfl, Or.inr ⟨by rwa [t.2.key_kind], t.2, Pass.mem_deployed htask, heq⟩⟩
        | false => exact Or.inl (settles_shared hfit hsettles hscope hkind)
    · rw [hvisit.objects.1, hvisit.walk.within.objects _ hk]
      exact ⟨o, ho, hrests.imp_right (And.imp_right Or.inl)⟩
  · rw [hfinding]
    exact h.reported

/-- A visit that has nothing new to report writes what its walk writes. -/
theorem visit_writes {W : Call → Prop} (h : c.Hosts i)
    (hbuild : (ctx.pass i).build (ctx.pass i).worklist (c.record (.one .get i.id))
      = .ok failure c₁) (hwrites : Writes W (c.record (.one .get i.id)) c₁)
    (hreports : ∀ now conditions,
      ((ctx.pass i).finding c₁ failure).conditions? now = some conditions →
        i.reports conditions = true) : Writes W c ((ctx.visit i.id).after c) := by
  have hread : Writes W c (c.record (.one .get i.id)) :=
    writes_record (.one .get i.id) (fun h => by cases h) rfl
  have hvisit : (ctx.visit i.id).after c =
      ((ctx.pass i).check >>= (ctx.pass i).tell : StoreM Cluster Unit).after
        (c.record (.one .get i.id)) := by
    rw [after_congr (ctx.visit_of_live h.stored h.live), livePass_of_held h.held, after_bind_pure]
    exact after_congr (Pass.runComponents_check (p := ctx.pass i) h.stored)
  have hcheck : Writes W (c.record (.one .get i.id))
      (((ctx.pass i).check : StoreM Cluster Finding).after (c.record (.one .get i.id))) := by
    refine rel_after_bind (by rwa [after_ok hbuild]) fun failure c₂ _ => ?_
    cases failure with
    | some failure => exact Keeps.pure _ c₂
    | none =>
      refine (Pass.inspect_keeps fun r _ => get_writes _).attempt.bind (fun answer => ?_) c₂
      cases answer <;> exact Keeps.pure _
  rw [hvisit]
  refine trans_of _ hread (rel_after_bind hcheck fun f c₂ hrun => ?_)
  obtain ⟨c₃, ⟨calls, rfl⟩, hfound⟩ := Pass.check_run hbuild
  cases hfound.symm.trans hrun
  have hstored : Table.get? c₁.instances i.id = some i :=
    (congrArg (Table.get? · i.id) ((Pass.build_within _ _).of_ok hbuild).instances).trans h.stored
  have htell := Pass.tell_run (p := ctx.pass i) (c := { c₁ with calls }) hstored
    ((ctx.pass i).finding c₁ failure)
  rw [Pass.told_of_reports (p := ctx.pass i) (hreports _)] at htell
  cases hanswer : ((ctx.pass i).finding c₁ failure).answer with
  | ok u =>
    rw [hanswer] at htell
    rw [after_ok htell]
    exact refl_of _ _
  | error e =>
    rw [hanswer] at htell
    rw [after_error htell]
    exact refl_of _ _

/-- A visit to an instance at rest succeeds, writes to nothing but what was stirred up, and leaves
the instance at rest. -/
theorem Rests.again (h : ctx.Rests S i c) (hfit : (ctx.pass i).Fit) :
    (ctx.visit i.id).answer c = .ok (.requeue ctx.settings.resync) ∧
      Writes (fun call => ∃ k, call = .object .update k ∧ S k) c ((ctx.visit i.id).after c) ∧
      ∃ j, j.essence = i.essence ∧ ctx.Rests (fun _ => False) j ((ctx.visit i.id).after c) := by
  obtain ⟨c₁, done, rest, failure, hbuild, hvisit⟩ := exists_build hfit h.hosts
  -- Nothing stops the walk, so it gets to its end.
  obtain ⟨rfl, rfl⟩ : rest = [] ∧ failure = none := by
    have hhalts := hvisit.walk.halts
    cases rest with
    | nil => exact ⟨rfl, hhalts⟩
    | cons t rest =>
      obtain ⟨e, hverdict, -⟩ := hhalts
      obtain ⟨o, ho⟩ := h.goalOn hfit (Pass.mem_deployed (t := t) (by rw [hvisit.work]; simp))
      cases (Pass.goalOn_of_verdict h.quiet hverdict).symm.trans ho
  have hquiet₁ : c₁.failures = [] := hvisit.walk.within.failures.trans h.quiet
  have hfinding : (ctx.pass i).finding c₁ = (ctx.pass i).finding c := by
    refine Pass.finding_alike h.hosts.orderly hvisit.orderly h.quiet hquiet₁ fun r hr => ?_
    obtain ⟨t, ht, rfl⟩ := Pass.exists_task hr
    rw [hvisit.work, List.append_nil] at ht
    obtain ⟨-, o, version, uid, hgoal, hput, -⟩ := hvisit.walk.reached t ht
    obtain ⟨live, hlive, hsettles | ⟨hscope, -⟩⟩ := h.objects t.2 hr
    · right
      rw [show Table.get? c.objects ((ctx.pass i).keyOf t.2) = _ from hlive,
        hsettles.goal hfit hr] at hgoal
      rw [show Table.get? c.objects ((ctx.pass i).keyOf t.2) = _ from hlive, hput,
        Except.ok.inj hgoal]
      rfl
    · exact Or.inl ⟨hscope, h.contains hr,
        (hvisit.walk.contains_iff _).2 (Or.inr ⟨t, ht, rfl⟩)⟩
  have hok : ((ctx.pass i).finding c₁ none).answer = .ok () := by rw [hfinding, h.sound]
  refine ⟨?_, ?_, hvisit.rests hfit h.hosts h.quiet hok⟩
  · rw [hvisit.answer, hok]
    rfl
  · refine visit_writes h.hosts hbuild ?_ ?_
    · have hwrites := Pass.build_writes (S := S) (c := c.record (.one .get i.id)) hfit
        (h.hosts.orderly.of_objects rfl) (fun _ => Pass.mem_deployed)
        (ctx.pass i).worklist_keys_nodup fun t ht => ?_
      · rwa [after_ok hbuild] at hwrites
      · obtain ⟨live, hlive, hrests⟩ := h.objects t.2 (Pass.mem_deployed ht)
        exact ⟨live, hlive, hrests.imp (fun hsettles => hsettles.goal hfit (Pass.mem_deployed ht))
          And.right⟩
    · rw [hfinding]
      exact h.reported

/-! ## Instances that take turns -/

/-- Passes over instances, one after the other, each at a step of the clock. -/
def inTurn (ctx : Context) (op : Operator Cluster) (turns : List (InstanceId × Nat)) :
    Operator Cluster :=
  turns.foldl (fun op turn =>
    StoreM.after (σ := Operator Cluster) (ctx.reconcileInstance turn.1) (op.atStep turn.2)) op

/-- Visits to instances, one after the other, each at a step of the clock. -/
def visitInTurn (ctx : Context) (c : Cluster) (turns : List (InstanceId × Nat)) : Cluster :=
  turns.foldl (fun c turn => (ctx.visit turn.1).after { c with step := turn.2 }) c

theorem inTurn_store (turns : List (InstanceId × Nat)) (op : Operator Cluster) :
    (ctx.inTurn op turns).store = ctx.visitInTurn op.store turns := by
  induction turns generalizing op with
  | nil => rfl
  | cons turn turns ih =>
    exact (ih _).trans (congrArg (ctx.visitInTurn · turns)
      ((ctx.reconcileInstance_tracks (σ := Cluster) turn.1).store_after (op.atStep turn.2)))

/-- The turns since the last one of an instance. -/
def since (id : InstanceId) (turns : List (InstanceId × Nat)) : List (InstanceId × Nat) :=
  turns.reverse.takeWhile fun turn => turn.1 ≠ id

theorem since_concat (id : InstanceId) (turns : List (InstanceId × Nat))
    (turn : InstanceId × Nat) :
    since id (turns ++ [turn]) = if turn.1 = id then [] else turn :: since id turns := by
  unfold since
  rw [List.reverse_append, List.reverse_singleton, List.singleton_append, List.takeWhile_cons]
  by_cases h : turn.1 = id
  · simp [h]
  · simp [h]

/-- What instances contend for is stirred up by the turns of those that deploy it. -/
def Stirs (ctx : Context) (xs : List Instance) (turns : List (InstanceId × Nat)) (k : Key) : Prop :=
  k.kind.contended = true ∧
    ∃ x ∈ xs, (ctx.pass x).Deploys k ∧ ∃ turn ∈ turns, turn.1 = x.id

/-- No calls are made to fail, and all of the instances are there to stay, whatever their statuses
and versions. -/
structure HostsAll (xs : List Instance) (c : Cluster) : Prop where
  quiet : c.failures = []
  hosts : ∀ x ∈ xs, ∃ j, j.essence = x.essence ∧ c.Hosts j

/-- A turn that succeeds puts the instance to rest. -/
theorem HostsAll.rests {xs : List Instance} {now : Nat} {a : Action} (h : HostsAll xs c)
    (hfit : (ctx.pass i).Fit) (hi : i ∈ xs)
    (hok : (ctx.visit i.id).answer { c with step := now } = .ok a) :
    ∃ j, j.essence = i.essence ∧
      ctx.Rests (fun _ => False) j ((ctx.visit i.id).after { c with step := now }) := by
  obtain ⟨j, hessence, hj⟩ := h.hosts i hi
  have hid : j.id = i.id := Instance.id_of_essence hessence
  rw [← hid] at hok
  obtain ⟨j', hessence', hj'⟩ :=
    rests_of_ok (fit_twin hfit hessence) (hj.atStep now) h.quiet hok
  rw [hid] at hj'
  exact ⟨j', hessence'.trans hessence, hj'⟩

section

variable {xs : List Instance} {x : Instance} {turns : List (InstanceId × Nat)}
  (hfit : ∀ x ∈ xs, (ctx.pass x).Fit) (hns : ∀ x ∈ xs, ∀ y ∈ xs, x.ns = y.ns → x = y)

include hfit hns

theorem HostsAll.turn (h : HostsAll xs c) (hx : x ∈ xs) (now : Nat) :
    HostsAll xs ((ctx.visit x.id).after { c with step := now }) := by
  obtain ⟨j, hessence, hj⟩ := h.hosts x hx
  have hid : j.id = x.id := Instance.id_of_essence hessence
  have hj := hj.atStep now
  obtain ⟨c₁, done, rest, failure, hvisit⟩ := exists_visit (fit_twin (hfit x hx) hessence) hj
  rw [← hid]
  refine ⟨hvisit.objects.2.trans h.quiet, fun y hy => ?_⟩
  by_cases hyx : y = x
  · subst hyx
    obtain ⟨j', hj', hessence', -⟩ := hvisit.subject hj.stored
    exact ⟨j', hessence'.trans hessence, hosts_twin hj hessence'
      (hvisit.orderly.of_objects hvisit.objects.1) hj'⟩
  · obtain ⟨k, hk, hhosts⟩ := h.hosts y hy
    refine ⟨k, hk, hvisit.hosts (hhosts.atStep now) ?_ _⟩
    have hkid : k.id = y.id := Instance.id_of_essence hk
    rw [hkid, hid]
    exact fun heq => hyx (hns y hy x hx (congrArg InstanceId.ns heq))

/-- One turn of an instance stirs up what others contend for with it, and puts the instance itself
to rest. -/
theorem Rests.turn (h : HostsAll xs c) (hi : i ∈ xs)
    (hrests : ∃ j, j.essence = i.essence ∧ ctx.Rests (ctx.Stirs xs (since i.id turns)) j c)
    (hx : x ∈ xs) (now : Nat) :
    ∃ j, j.essence = i.essence ∧ ctx.Rests (ctx.Stirs xs (since i.id (turns ++ [(x.id, now)]))) j
      ((ctx.visit x.id).after { c with step := now }) := by
  obtain ⟨j, hessence, hj⟩ := hrests
  have hid : j.id = i.id := Instance.id_of_essence hessence
  by_cases hxi : x = i
  · subst hxi
    obtain ⟨-, -, j', hessence', hj'⟩ := (hj.atStep now).again (fit_twin (hfit x hx) hessence)
    rw [hid] at hj'
    exact ⟨j', hessence'.trans hessence, hj'.mono fun _ => False.elim⟩
  · obtain ⟨y, hy, hhosts⟩ := h.hosts x hx
    have hyid : y.id = x.id := Instance.id_of_essence hy
    have hne : x.ns ≠ i.ns := fun heq => hxi (hns x hx i hi heq)
    have hbeside := (hj.atStep now).beside (fit_twin (hfit x hx) hy) (hhosts.atStep now) (by
      rw [show j.ns = i.ns from congrArg InstanceId.ns hid,
        show y.ns = x.ns from congrArg InstanceId.ns hyid]
      exact hne.symm)
    rw [hyid] at hbeside
    refine ⟨j, hessence, hbeside.mono ?_⟩
    rw [since_concat, if_neg fun heq => hne (congrArg InstanceId.ns heq)]
    rintro k (⟨hkind, x', hx', hdeploys, turn, hturn, heq⟩ | ⟨hkind, r, hr, hkey⟩)
    · exact ⟨hkind, x', hx', hdeploys, turn, List.mem_cons_of_mem _ hturn, heq⟩
    · have htwin : (ctx.pass x).Twin (ctx.pass y) := pass_twin hy
      rw [htwin.deployed] at hr
      rw [htwin.keyOf] at hkey
      exact ⟨hkind, x, hx, ⟨r, hr, hkey⟩, (x.id, now), List.mem_cons_self, rfl⟩

theorem HostsAll.inTurn (h : HostsAll xs c) (hturns : ∀ turn ∈ turns, ∃ x ∈ xs, x.id = turn.1) :
    HostsAll xs (ctx.visitInTurn c turns) := by
  induction turns generalizing c with
  | nil => exact h
  | cons turn turns ih =>
    obtain ⟨⟨x, hx, heq⟩, hlater⟩ := List.forall_mem_cons.1 hturns
    obtain ⟨id, now⟩ := turn
    obtain rfl : x.id = id := heq
    exact ih (h.turn hfit hns hx now) hlater

/-- However many turns the instances take, one that was at rest is at rest but for what was stirred
up since its last turn. -/
theorem Rests.inTurn (h : HostsAll xs c) (hi : i ∈ xs)
    (hrests : ∃ j, j.essence = i.essence ∧ ctx.Rests (fun _ => False) j c)
    (hturns : ∀ turn ∈ turns, ∃ x ∈ xs, x.id = turn.1) :
    ∃ j, j.essence = i.essence ∧
      ctx.Rests (ctx.Stirs xs (since i.id turns)) j (ctx.visitInTurn c turns) := by
  induction turns using List.reverseRecOn with
  | nil =>
    obtain ⟨j, hessence, hj⟩ := hrests
    exact ⟨j, hessence, hj.mono fun _ => False.elim⟩
  | append_singleton turns turn ih =>
    obtain ⟨hearlier, hturn⟩ := List.forall_mem_append.1 hturns
    obtain ⟨x, hx, heq⟩ := hturn turn List.mem_cons_self
    obtain ⟨id, now⟩ := turn
    obtain rfl : x.id = id := heq
    unfold visitInTurn
    rw [List.foldl_append]
    exact Rests.turn hfit hns (h.inTurn hfit hns hearlier) hi (ih hearlier) hx now

end

/-- Instances in namespaces of their own take turns, in any order. Once a pass over one of them has
succeeded, every further pass over it succeeds as well. It creates and deletes no object, writes to
no instance, and updates no objects but cluster role bindings and security policies that another
instance, which has had a turn since the last one of this instance, deploys too. -/
theorem reconcile_rests (settings : Settings) (op : Operator Cluster) (xs : List Instance)
    (i : Instance) (before between : List (InstanceId × Nat)) (now now' : Nat)
    (hquiet : op.store.failures = []) (hkeyed : op.store.Keyed)
    (hformed : ∀ row ∈ op.store.objects, row.2.WellFormed)
    (hstored : ∀ x ∈ xs, Table.get? op.store.instances x.id = some x ∧ x.spec.WellFormed ∧
      x.isDeleting = false ∧ x.hasFinalizer = true)
    (hns : ∀ x ∈ xs, ∀ y ∈ xs, x.ns = y.ns → x = y) (hi : i ∈ xs)
    (hturns : ∀ turn ∈ before ++ between, ∃ x ∈ xs, x.id = turn.1)
    (hdone : StoreM.answer (σ := Operator Cluster)
      (({ settings } : Context).reconcileInstance i.id)
      ((({ settings } : Context).inTurn op before).atStep now) = .ok (.requeue settings.resync)) :
    let ctx : Context := { settings }
    let pass : StoreM (Operator Cluster) Action := ctx.reconcileInstance i.id
    let op' := (ctx.inTurn op (before ++ (i.id, now) :: between)).atStep now'
    pass.answer op' = .ok (.requeue settings.resync) ∧
      ∃ calls, (pass.after op').store.calls = op'.store.calls ++ calls ∧
        ∀ call ∈ calls, call.isWrite = true → ∃ k, call = .object .update k ∧
          (k.kind = .clusterRoleBinding ∨ k.kind = .securityContextConstraints) ∧
          ∃ x ∈ xs, (ctx.pass x).Deploys k ∧ ∃ turn ∈ since i.id between, turn.1 = x.id := by
  intro ctx pass op'
  have hfit : ∀ x ∈ xs, (ctx.pass x).Fit := fun x hx => own_fit settings (hstored x hx).2.1
  have hstart : HostsAll xs op.store := by
    refine ⟨hquiet, fun x hx => ?_⟩
    obtain ⟨hx, -, hlive, hheld⟩ := hstored x hx
    exact ⟨x, rfl, .of_rows hkeyed hformed, hx, hlive, hheld⟩
  have htracks := ctx.reconcileInstance_tracks (σ := Cluster) i.id
  obtain ⟨hbefore, hbetween⟩ := List.forall_mem_append.1 hturns
  have hserved := hstart.inTurn hfit hns hbefore
  have hafter := hserved.turn hfit hns hi now
  rw [htracks.answer_eq, Operator.atStep_store (inTurn_store before op)] at hdone
  have hrests := hserved.rests (hfit i hi) hi hdone
  obtain ⟨j, hessence, hj⟩ := Rests.inTurn hfit hns hafter hi hrests hbetween
  have hstore : op'.store = { ctx.visitInTurn ((ctx.visit i.id).after
      { ctx.visitInTurn op.store before with step := now }) between with step := now' } := by
    refine Operator.atStep_store ((inTurn_store ..).trans ?_) now'
    unfold visitInTurn
    rw [List.foldl_append, List.foldl_cons]
  have hid : j.id = i.id := Instance.id_of_essence hessence
  obtain ⟨hanswer, ⟨calls, hcalls, hwrites⟩, -⟩ :=
    (hj.atStep now').again (fit_twin (hfit i hi) hessence)
  rw [hid, ← hstore] at hanswer hcalls
  refine ⟨(htracks.answer_eq _).trans hanswer, calls, ?_, fun call hmem hwrite => ?_⟩
  · rw [htracks.store_after op']
    exact hcalls
  · obtain ⟨k, rfl, hkind, hstirred⟩ := hwrites call hmem hwrite
    exact ⟨k, rfl, Kind.eq_of_contended hkind, hstirred⟩

/-- Of two instances each has had a pass, and now it is the turn of the first again. -/
theorem reconcile_rests_of_two :
    let named (ns : String) : Instance := { Instance.bare ⟨ns, "nfd"⟩ with
      metadata :=
        { name := some "nfd", ns := some ns, uid := some ("uid-" ++ ns),
          finalizers := some [Finalizer.own] } }
    let a := named "a"
    let b := named "b"
    let op : Operator Cluster := { store := { instances := [(a.id, a), (b.id, b)] } }
    let ctx : Context := { settings := {} }
    let pass : StoreM (Operator Cluster) Action := ctx.reconcileInstance a.id
    let op' := (ctx.inTurn op [(a.id, 1), (b.id, 2)]).atStep 3
    pass.answer op' = .ok (.requeue ({} : Settings).resync) ∧
      ∃ calls, (pass.after op').store.calls = op'.store.calls ++ calls ∧
        ∀ call ∈ calls, call.isWrite = true → ∃ k, call = .object .update k ∧
          (k.kind = .clusterRoleBinding ∨ k.kind = .securityContextConstraints) := by
  intro named a b op ctx pass op'
  have hkeyed : op.store.Keyed := by
    unfold Keyed
    decide +kernel
  have hstored : ∀ x ∈ [a, b], Table.get? op.store.instances x.id = some x ∧ x.spec.WellFormed ∧
      x.isDeleting = false ∧ x.hasFinalizer = true := by
    simp only [List.forall_mem_cons, List.not_mem_nil, false_implies, implies_true, and_true]
    have hspec := InstanceSpec.WellFormed.of_unset (s := a.spec) rfl
    exact ⟨⟨by decide +kernel, hspec, rfl, by decide⟩, by decide +kernel, hspec, rfl, by decide⟩
  have hns : ∀ x ∈ [a, b], ∀ y ∈ [a, b], x.ns = y.ns → x = y := by decide +kernel
  have hturns : ∀ turn ∈ [] ++ [(b.id, 2)], ∃ x ∈ [a, b], x.id = turn.1 := by decide +kernel
  have hdone : pass.answer ((ctx.inTurn op []).atStep 1)
      = .ok (.requeue ({} : Settings).resync) := by
    decide +kernel
  have hrests := reconcile_rests {} op [a, b] a [] [(b.id, 2)] 1 3 rfl hkeyed (by decide +kernel)
    hstored hns List.mem_cons_self hturns hdone
  clear_value op
  obtain ⟨hanswer, calls, hcalls, hwrites⟩ := hrests
  refine ⟨hanswer, calls, hcalls, fun call hmem hwrite => ?_⟩
  obtain ⟨k, heq, hkind, -⟩ := hwrites call hmem hwrite
  exact ⟨k, heq, hkind⟩

/-- Each of two instances has had a pass that has succeeded, and nothing else has happened. Still a
further pass over the first of them writes: it takes the bindings back. -/
theorem reconcile_stirs :
    let named (ns : String) : Instance := { Instance.bare ⟨ns, "nfd"⟩ with
      metadata :=
        { name := some "nfd", ns := some ns, uid := some ("uid-" ++ ns),
          finalizers := some [Finalizer.own] } }
    let a := named "a"
    let b := named "b"
    let op : Operator Cluster := { store := { instances := [(a.id, a), (b.id, b)] } }
    let ctx : Context := { settings := {} }
    let pass (i : Instance) : StoreM (Operator Cluster) Action := ctx.reconcileInstance i.id
    let once := (pass a).after op
    let both := (pass b).after once
    (pass a).answer op = .ok (.requeue ({} : Settings).resync) ∧
      (pass b).answer once = .ok (.requeue ({} : Settings).resync) ∧
      .object .update (.cluster .clusterRoleBinding "nfd-master")
        ∈ ((pass a).after both).store.calls.drop both.store.calls.length := by
  decide +kernel

end Context

end NodeFeatureOperator
