import NodeFeatureOperator.Operator
import NodeFeatureOperator.Proofs.Teardown

/-!
# Passes of the operator on a cluster

What the operator remembers between passes decides nothing in a pass: a pass does to the cluster
what a visit does, which is the pass without the book-keeping (`Context.reconcileInstance_tracks`).
A visit to an instance that is to stay serves it: objects of its deployment and statuses change,
nothing else (`Context.livePass_attends`). A visit to one that is to go removes things and lets it
go at last.
-/

namespace NodeFeatureOperator

open Cluster StoreM

/-! ## Without the book-keeping -/

namespace OperatorM

variable {σ α β : Type}

/-- A computation of an operator comes to what a computation on its store comes to. -/
def Tracks (m : OperatorM σ α) (n : StoreM σ α) : Prop := ∀ op : Operator σ,
  (∃ a op', m op = .ok a op' ∧ n op.store = .ok a op'.store) ∨
    ∃ e op', m op = .error e op' ∧ n op.store = .error e op'.store

namespace Tracks

variable {m : OperatorM σ α} {n : StoreM σ α}

theorem onStore (n : StoreM σ α) : Tracks (OperatorM.onStore n) n := by
  intro op
  unfold OperatorM.onStore
  cases h : n op.store with
  | ok a s => exact Or.inl ⟨a, _, rfl, rfl⟩
  | error e s => exact Or.inr ⟨e, _, rfl, rfl⟩

theorem pure (a : α) : Tracks (Pure.pure a : OperatorM σ α) (Pure.pure a) :=
  fun op => Or.inl ⟨a, op, rfl, rfl⟩

theorem throw (e : Error) : Tracks (MonadExcept.throw e : OperatorM σ α) (MonadExcept.throw e) :=
  fun op => Or.inr ⟨e, op, rfl, rfl⟩

theorem bind {f : α → OperatorM σ β} {g : α → StoreM σ β} (hmn : Tracks m n)
    (hfg : ∀ a, Tracks (f a) (g a)) : Tracks (m >>= f) (n >>= g) := by
  intro op
  rcases hmn op with ⟨a, op', hm, hn⟩ | ⟨e, op', hm, hn⟩
  · rw [bind_of_ok (σ := Operator σ) hm, bind_of_ok hn]
    exact hfg a op'
  · exact Or.inr ⟨e, op', bind_of_error (σ := Operator σ) hm, bind_of_error hn⟩

theorem attempt (h : Tracks m n) : Tracks (OperatorM.attempt m) (StoreM.attempt n) := by
  intro op
  unfold OperatorM.attempt StoreM.attempt
  rcases h op with ⟨a, op', hm, hn⟩ | ⟨e, op', hm, hn⟩
  · rw [hm, hn]
    exact Or.inl ⟨_, op', rfl, rfl⟩
  · rw [hm, hn]
    exact Or.inl ⟨_, op', rfl, rfl⟩

theorem forget (id : InstanceId) : Tracks (OperatorM.forget id : OperatorM σ Unit) (Pure.pure ()) :=
  fun op => Or.inl ⟨(), { op with backoff := op.backoff.reset id.toText }, rfl, rfl⟩

theorem settle (id : InstanceId) (a : Action) :
    Tracks (OperatorM.settle id a : OperatorM σ Action) (Pure.pure a) := by
  unfold OperatorM.settle
  split
  · exact (forget id).bind fun _ => pure a
  · exact pure a

theorem store_after (h : Tracks m n) (op : Operator σ) :
    (StoreM.after (σ := Operator σ) m op).store = n.after op.store := by
  rcases h op with ⟨a, op', hm, hn⟩ | ⟨e, op', hm, hn⟩
  · rw [after_ok (σ := Operator σ) hm, after_ok hn]
  · rw [after_error (σ := Operator σ) hm, after_error hn]

theorem answer_eq (h : Tracks m n) (op : Operator σ) :
    StoreM.answer (σ := Operator σ) m op = n.answer op.store := by
  unfold StoreM.answer
  rcases h op with ⟨a, op', hm, hn⟩ | ⟨e, op', hm, hn⟩
  · rw [hm, hn]
  · rw [hm, hn]

theorem ok (h : Tracks m n) {op op' : Operator σ} {a : α} (hm : m op = .ok a op') :
    n op.store = .ok a op'.store := by
  rcases h op with ⟨a', op'', hm', hn⟩ | ⟨e, op'', hm', hn⟩
  · cases hm.symm.trans hm'
    exact hn
  · cases hm.symm.trans hm'

theorem of_ok (h : Tracks m n) {op : Operator σ} {s : σ} {a : α} (hn : n op.store = .ok a s) :
    ∃ op', m op = .ok a op' ∧ op'.store = s := by
  rcases h op with ⟨a', op', hm, hn'⟩ | ⟨e, op', hm, hn'⟩
  · cases hn.symm.trans hn'
    exact ⟨op', hm, rfl⟩
  · cases hn.symm.trans hn'

end Tracks

end OperatorM

namespace Context

variable {σ : Type} [Store σ]

/-- The pass over an instance that is to go, without the book-keeping. -/
def finalVisit (ctx : Context) (i : Instance) : StoreM σ Action := do
  match ← StoreM.attempt (ctx.pass i).finalize with
  | .ok a => return a
  | .error e =>
    (ctx.pass i).reportError e.reason e
    throw e

/-- The pass over the instance of an identity, without the book-keeping. -/
def visit (ctx : Context) (id : InstanceId) : StoreM σ Action := do
  match ← Store.getInstance id with
  | none => return .await
  | some i =>
    if i.isDeleting then
      if i.hasFinalizer then ctx.finalVisit i else return .await
    else ctx.livePass i

theorem finalPass_tracks (ctx : Context) (i : Instance) :
    OperatorM.Tracks (σ := σ) (ctx.finalPass i) (ctx.finalVisit i) := by
  have hfinalize : OperatorM.Tracks (σ := σ) (ctx.finalize i) (ctx.pass i).finalize := by
    have h := (OperatorM.Tracks.onStore ((ctx.pass i).finalize : StoreM σ Action)).bind
      fun a => OperatorM.Tracks.settle i.id a
    rwa [bind_pure] at h
  refine hfinalize.attempt.bind fun answer => ?_
  cases answer with
  | ok a => exact .pure a
  | error e => exact (OperatorM.Tracks.onStore _).bind fun _ => .throw e

/-- The store goes through the same whether the operator keeps its books or not. -/
theorem reconcileInstance_tracks (ctx : Context) (id : InstanceId) :
    OperatorM.Tracks (σ := σ) (ctx.reconcileInstance id) (ctx.visit id) := by
  refine (OperatorM.Tracks.onStore (Store.getInstance id)).bind fun found => ?_
  cases found with
  | none => exact (OperatorM.Tracks.forget id).bind fun _ => .pure _
  | some i =>
    change OperatorM.Tracks (ctx.passOver i) _
    unfold passOver
    dsimp only
    split
    · split
      · exact ctx.finalPass_tracks i
      · exact .pure _
    · exact .onStore _

end Context

/-! ## Reports -/

section Reports

variable {K : Key → Prop}

theorem readClock_removed : Keeps (Removed K) (readClock : StoreM Cluster Moment) :=
  fun c => Removed.refl c

theorem writeConditions_serves (i : Instance) (conditions : List Condition) :
    Keeps (Serves K) (writeConditions i conditions : StoreM Cluster Bool) :=
  Keeps.ite (Keeps.pure _) ((updateStatus_serves _).bind fun _ => Keeps.pure _)

namespace Pass

theorem inspect_removed (p : Pass) (rs : List Resource) :
    Keeps (Removed K) (p.inspect rs : StoreM Cluster (List Health)) := by
  induction rs with
  | nil => exact Keeps.pure _
  | cons r rs ih =>
    exact (get_removed _).bind fun o => (Keeps.ofExcept _).bind fun h => ih.bind fun _ =>
      Keeps.pure _

theorem updateStatus_serves (p : Pass) :
    Keeps (Serves K) (p.updateStatus : StoreM Cluster Bool) := by
  refine ((p.inspect_removed _).mono fun _ _ h => h.toWithin.serves).bind fun healths => ?_
  exact (readClock_removed.mono fun _ _ h => h.toWithin.serves).bind fun now =>
    writeConditions_serves _ _

theorem reportError_serves (p : Pass) (reason : String) (e : Error) :
    Keeps (Serves K) (p.reportError reason e : StoreM Cluster Unit) := by
  refine Keeps.ite ?_ (Keeps.pure _)
  exact (readClock_removed.mono fun _ _ h => h.toWithin.serves).bind fun now =>
    (writeConditions_serves _ _).attempt.bind fun _ => Keeps.pure _

end Pass

end Reports

/-! ## Visits to an instance that is to stay -/

namespace Pass

variable {p : Pass}

/-- The keys of the objects of the deployment. -/
def Deploys (p : Pass) (k : Key) : Prop := ∃ r ∈ p.deployed, p.keyOf r = k

theorem runComponents_of_ok {component : Component} {components : List Component} {c c' : Cluster}
    {u : Unit} (h : p.runComponent component c = .ok u c') :
    p.runComponents (component :: components) c = p.runComponents components c' :=
  bind_of_ok (attempt_of_ok h)

theorem runComponents_of_error {component : Component} {components : List Component}
    {c c' : Cluster} {e : Error} (h : p.runComponent component c = .error e c') :
    p.runComponents (component :: components) c =
      (p.reportFailure component e >>= fun _ => throw e : StoreM Cluster Unit) c' :=
  bind_of_ok (attempt_of_error h)

theorem runComponent_attends (h : p.templates.Sound) {component : Component}
    (hcomponent : component ∈ p.components) :
    Keeps (Attends p.Deploys) (p.runComponent component : StoreM Cluster Unit) := by
  have happly : Keeps (Attends p.Deploys)
      (p.applyAll (p.managed component) : StoreM Cluster Unit) := by
    refine (p.applyAll_touches h _).mono fun _ _ ht => ht.attends.mono fun k hk => ?_
    obtain ⟨r, hr, rfl⟩ := List.mem_map.1 hk
    exact ⟨r, List.mem_flatMap.2 ⟨component, hcomponent, hr⟩, rfl⟩
  cases component with
  | status =>
    exact (p.updateStatus_serves.mono fun _ _ => Serves.attends).bind fun _ => Keeps.pure _
  | _ => exact happly

/-- A run of components keeps to what each component and the report of a failure keep to. -/
theorem runComponents_keeps {R : Cluster → Cluster → Prop} [IsPreorder Cluster R]
    {components : List Component}
    (hcomponent : ∀ component ∈ components,
      Keeps R (p.runComponent component : StoreM Cluster Unit))
    (hreport : ∀ reason e, Keeps R (p.reportError reason e : StoreM Cluster Unit)) :
    Keeps R (p.runComponents components : StoreM Cluster Unit) := by
  induction components with
  | nil => exact Keeps.pure _
  | cons component components ih =>
    refine (hcomponent component List.mem_cons_self).attempt.bind fun answer => ?_
    cases answer with
    | ok _ => exact ih fun d hd => hcomponent d (List.mem_cons_of_mem _ hd)
    | error e => exact (hreport _ _).bind fun _ => Keeps.throw _

theorem runComponents_attends (h : p.templates.Sound) {components : List Component}
    (hcomponents : ∀ component ∈ components, component ∈ p.components) :
    Keeps (Attends p.Deploys) (p.runComponents components : StoreM Cluster Unit) :=
  runComponents_keeps (fun d hd => runComponent_attends h (hcomponents d hd)) fun _ _ =>
    (p.reportError_serves _ _).mono fun _ _ => Serves.attends

/-- All that a deployment is made of is among what the plan of a teardown can name. -/
theorem mem_deletionPlan_of_deploys {k : Key} (h : p.Deploys k) :
    k ∈ deletionPlan p.subject false p.settings.manageSecurityPolicies := by
  obtain ⟨r, hr, rfl⟩ := h
  obtain ⟨component, hcomponent, hr⟩ := List.mem_flatMap.1 hr
  obtain ⟨hr, hmanaged⟩ := List.mem_filter.1 hr
  have hchain : component ∈ Component.chain := (List.mem_filter.1 hcomponent).1
  refine mem_deletionPlan.2 ⟨r, planned_of_component _ r
    (List.mem_flatMap.2 ⟨component, hchain, hr⟩) fun hkind => ?_, rfl⟩
  unfold manages at hmanaged
  rw [hkind] at hmanaged
  simpa using hmanaged

end Pass

namespace Context

variable {ctx : Context} {c c' : Cluster} {i : Instance}

theorem livePass_of_held {σ : Type} [Store σ] (h : i.hasFinalizer = true) :
    (ctx.livePass i : StoreM σ Action) = do
      (ctx.pass i).runComponents (ctx.pass i).components
      return .requeue ctx.settings.resync :=
  if_pos h

theorem livePass_attends (h : ctx.templates.Sound) (hfinalizer : i.hasFinalizer = true) :
    Keeps (Attends (ctx.pass i).Deploys) (ctx.livePass i : StoreM Cluster Action) := by
  rw [livePass_of_held hfinalizer]
  exact (Pass.runComponents_attends (p := ctx.pass i) h fun _ => id).bind fun _ => Keeps.pure _

/-- An instance without the finalizer gets it, and nothing else happens. -/
theorem livePass_of_unheld (ctx : Context) (hi : Table.get? c.instances i.id = some i)
    (hlive : i.isDeleting = false) (hfinalizer : i.hasFinalizer = false) :
    let called := (c.record (.one .update i.id)).bump
    ctx.livePass i c =
      .ok (.requeue .zero) (called.putInstance i.id (called.adopt i i.addFinalizer)) := by
  intro called
  have hadopt : (called.adopt i i.addFinalizer).essence = i.addFinalizer.essence :=
    adopt_essence ..
  have hstays : (called.adopt i i.addFinalizer).isDeleting = false :=
    (Instance.eq_of_essence Instance.isDeleting (fun _ => rfl) hadopt).trans hlive
  have hkept := collect_of_held (c := called.putInstance i.id (called.adopt i i.addFinalizer))
    (Table.get?_insert_self ..) (by rw [hstays]; rfl)
  have hupdate := (updateInstance_fresh (j := i.addFinalizer) hi rfl rfl).trans
    (congrArg (EStateM.Result.ok _) hkept)
  unfold livePass
  simp only [hfinalizer, Bool.false_eq_true, if_false]
  exact bind_of_ok hupdate

theorem livePass_claims (ctx : Context) (hi : Table.get? c.instances i.id = some i)
    (hlive : i.isDeleting = false) (hfinalizer : i.hasFinalizer = false) :
    ∃ c₁ : Cluster, Removed (fun _ => False) c c₁ ∧
      ctx.livePass i c =
        .ok (.requeue .zero) (c₁.putInstance i.id (c₁.adopt i i.addFinalizer)) :=
  ⟨_, (removed_record ..).trans (removed_bump _), ctx.livePass_of_unheld hi hlive hfinalizer⟩

/-! ## Visits to an instance that is to go -/

theorem finalVisit_of_ok {a : Action} (h : (ctx.pass i).finalize c = .ok a c') :
    ctx.finalVisit i c = .ok a c' :=
  bind_of_ok (attempt_of_ok h)

theorem finalVisit_of_error {e : Error} (h : (ctx.pass i).finalize c = .error e c') :
    ctx.finalVisit i c =
      ((ctx.pass i).reportError e.reason e >>= fun _ => throw e : StoreM Cluster Action) c' :=
  bind_of_ok (attempt_of_error h)

/-- Either everything is gone and the finalizer is taken off, or the visit is not the last one and
does no more than remove what there is to remove and report. -/
theorem finalVisit_cases (h : ctx.templates.Sound) (i : Instance) (c : Cluster) :
    (∃ c₁, (ctx.pass i).Cleared c c₁ ∧ ctx.finalVisit i c = (ctx.pass i).release c₁) ∨
      Attends ((ctx.pass i).Clears c) c ((ctx.finalVisit i : StoreM Cluster Action).after c) ∧
        ∀ c', ctx.finalVisit i c ≠ .ok .await c' := by
  rcases (ctx.pass i).finalize_cases c with ⟨c₁, hcleared, hrun⟩ | ⟨hafter, hwaits⟩
  · obtain ⟨a, c₂, hrelease⟩ := (ctx.pass i).release_ok c₁
    exact Or.inl ⟨c₁, hcleared, (finalVisit_of_ok (hrun.trans hrelease)).trans hrelease.symm⟩
  · right
    have hclear := (Pass.clear_touches (p := ctx.pass i) h c).attends
    rw [← hafter] at hclear
    cases hrun : ((ctx.pass i).finalize : StoreM Cluster Action) c with
    | ok a c₁ =>
      rw [after_ok hrun] at hclear
      have hvisit : ctx.finalVisit i c = .ok a c₁ := finalVisit_of_ok hrun
      rw [after_ok hvisit, hvisit]
      refine ⟨hclear, fun c' heq => hwaits c' ?_⟩
      rw [hrun, heq]
    | error e c₁ =>
      rw [after_error hrun] at hclear
      have hreport : Keeps (Attends ((ctx.pass i).Clears c))
          ((ctx.pass i).reportError e.reason e >>= fun _ => throw e : StoreM Cluster Action) :=
        (((ctx.pass i).reportError_serves _ _).mono fun _ _ => Serves.attends).bind fun _ =>
          Keeps.throw _
      rw [after_congr (finalVisit_of_error hrun), finalVisit_of_error hrun]
      refine ⟨trans_of _ hclear (hreport c₁), fun c' heq => ?_⟩
      obtain ⟨_, _, -, hthrow⟩ := bind_ok.1 heq
      cases hthrow

/-! ## Visits -/

theorem visit_run (ctx : Context) (id : InstanceId) (c : Cluster) :
    ctx.visit id c =
      match Table.get? c.instances id with
      | none => .ok .await (c.record (.one .get id))
      | some i =>
        if i.isDeleting then
          if i.hasFinalizer then ctx.finalVisit i (c.record (.one .get id))
          else .ok .await (c.record (.one .get id))
        else ctx.livePass i (c.record (.one .get id)) := by
  refine (bind_of_ok (getInstance_run id c)).trans ?_
  cases Table.get? c.instances id with
  | none => rfl
  | some i =>
    dsimp only
    split
    · split <;> rfl
    · rfl

theorem visit_of_deleting (ctx : Context) (hi : Table.get? c.instances i.id = some i)
    (hdeleting : i.isDeleting = true) (hfinalizer : i.hasFinalizer = true) :
    ctx.visit i.id c = ctx.finalVisit i (c.record (.one .get i.id)) := by
  rw [visit_run, hi]
  simp only [hdeleting, hfinalizer, if_true]

theorem visit_of_unheld (ctx : Context) (hi : Table.get? c.instances i.id = some i)
    (hdeleting : i.isDeleting = true) (hfinalizer : i.hasFinalizer = false) :
    ctx.visit i.id c = .ok .await (c.record (.one .get i.id)) := by
  rw [visit_run, hi]
  simp only [hdeleting, hfinalizer, if_true, Bool.false_eq_true, if_false]

theorem visit_of_live (ctx : Context) (hi : Table.get? c.instances i.id = some i)
    (hlive : i.isDeleting = false) :
    ctx.visit i.id c = ctx.livePass i (c.record (.one .get i.id)) := by
  rw [visit_run, hi]
  simp only [hlive, Bool.false_eq_true, if_false]

theorem visit_of_missing (ctx : Context) {id : InstanceId}
    (hid : Table.get? c.instances id = none) :
    ctx.visit id c = .ok .await (c.record (.one .get id)) := by
  rw [visit_run, hid]

end Context

end NodeFeatureOperator
