import NodeFeatureOperator.Proofs.Calls

/-!
# What the operator may write to an instance

An instance belongs to whoever made it. The operator writes two things to it: its status, and its
own finalizer, which it puts on before anything else and takes off after everything else. All else
about the instance, and all about every other instance, is the same after a pass as before
(`Context.reconcile_custody`). As long as the finalizer is not on, a pass creates and updates no
object, so there is nothing that the departure of the instance could leave behind. Nothing of this
depends on which objects there are or how they are stored.
-/

namespace NodeFeatureOperator

open Cluster StoreM

variable {K : Key → Prop} {c c' : Cluster} {id : InstanceId} {i j : Instance}

namespace Cluster

/-- The second cluster holds the instances of the first one, each of them as it was but for the
status and the version of the one under `id`. -/
structure Retains (id : InstanceId) (c c' : Cluster) : Prop where
  others : ∀ id', id' ≠ id → Table.get? c'.instances id' = Table.get? c.instances id'
  essence :
    (Table.get? c'.instances id).map Instance.essence
      = (Table.get? c.instances id).map Instance.essence

instance : IsPreorder Cluster (Retains id) where
  refl _ := ⟨fun _ _ => rfl, rfl⟩
  trans _ _ _ h h' :=
    ⟨fun id' hne => (h'.others id' hne).trans (h.others id' hne), h'.essence.trans h.essence⟩

theorem Retains.of_instances_eq (h : c'.instances = c.instances) : Retains id c c' :=
  ⟨fun _ _ => by rw [h], by rw [h]⟩

theorem Within.retains (h : Within K c c') : Retains id c c' := .of_instances_eq h.instances

theorem retains_admits : Admits (Retains id) := within_admits.mono fun _ _ => Within.retains

/-- A status is written to the instance that it is for. -/
theorem updateStatus_retains (i : Instance) (hid : i.id = id) :
    Keeps (Retains id) (Store.updateStatus i : StoreM Cluster Instance) := by
  subst hid
  intro c
  refine ⟨fun id' hne => ?_, (updateStatus_serves (K := fun _ => True) i c).instances i.id⟩
  unfold StoreM.after
  rw [updateStatus_run]
  cases Table.get? c.instances i.id with
  | none => rfl
  | some old =>
    by_cases hstale : isStale i.metadata old.metadata = true
    · simp only [hstale, if_true]
      rfl
    · simp only [hstale, Bool.false_eq_true, if_false]
      exact (Table.get?_insert ..).trans (if_neg (Ne.symm hne))

end Cluster

namespace Instance

/-- The instance `j` is what became of `i`: nothing is different but the status, the finalizers and
the version. -/
def Becomes (i j : Instance) : Prop :=
  j = { i with
    status := j.status
    metadata := { i.metadata with
      finalizers := j.metadata.finalizers
      resourceVersion := j.metadata.resourceVersion } }

/-- What the passes of the operator do to the finalizers of an instance, given the calls of a pass
and its answer. They leave them alone; or they put the finalizer of the operator at the end and
write nothing else; or they take the finalizer of the operator off. -/
def Handled (i j : Instance) (calls : List Call) (answer : Except Error Action) : Prop :=
  j.metadata.finalizers = i.metadata.finalizers ∨
    (i.isDeleting = false ∧ i.hasFinalizer = false ∧
      j.finalizers = i.finalizers ++ [Finalizer.own] ∧
      calls.filter Call.isWrite = [.one .update i.id] ∧ answer = .ok (.requeue .zero)) ∨
    (i.isDeleting = true ∧ j.finalizers = i.finalizers.filter (· ≠ Finalizer.own) ∧
      answer = .ok .await)

theorem finalizers_of_essence (h : j.essence = i.essence) :
    j.metadata.finalizers = i.metadata.finalizers :=
  eq_of_essence (fun i => i.metadata.finalizers) (fun _ => rfl) h

namespace Becomes

theorem of_essence (h : j.essence = i.essence) : i.Becomes j := by
  unfold Becomes
  rw [finalizers_of_essence h]
  exact eq_of_same_essence h

theorem adopt (c : Cluster) (i : Instance) (finalizers : Option (List String)) :
    i.Becomes (c.adopt i { i with metadata := { i.metadata with finalizers } }) := by
  unfold Becomes
  rw [adopt_of_finalizers]

theorem spec_eq (h : i.Becomes j) : j.spec = i.spec := by rw [show j = _ from h]

theorem uid_eq (h : i.Becomes j) : j.metadata.uid = i.metadata.uid := by rw [show j = _ from h]

theorem isDeleting_eq (h : i.Becomes j) : j.isDeleting = i.isDeleting := by
  rw [show j = _ from h]
  rfl

theorem id_eq (h : i.Becomes j) : j.id = i.id := by
  rw [show j = _ from h]
  rfl

end Becomes

theorem finalizers_adopt (c : Cluster) (i : Instance) (finalizers : Option (List String)) :
    (c.adopt i { i with metadata := { i.metadata with finalizers } }).finalizers
      = finalizers.getD [] := by
  rw [adopt_of_finalizers]
  rfl

end Instance

namespace Cluster

/-- Calls with this answer led from the first cluster to the second one. They left the instances
but `i` alone, and did no more to `i` than the operator may do. -/
structure Guards (i : Instance) (answer : Except Error Action) (c c' : Cluster) : Prop where
  others : ∀ id', id' ≠ i.id → Table.get? c'.instances id' = Table.get? c.instances id'
  becomes : ∀ j, Table.get? c'.instances i.id = some j → i.Becomes j
  handled : ∀ j calls, Table.get? c'.instances i.id = some j → c'.calls = c.calls ++ calls →
    i.Handled j calls answer

variable {answer : Except Error Action}

theorem Retains.guards (hi : Table.get? c.instances i.id = some i) (h : Retains i.id c c') :
    Guards i answer c c' := by
  have hessence (j : Instance) (hj : Table.get? c'.instances i.id = some j) :
      j.essence = i.essence := by
    have heq := h.essence
    rw [hi, hj] at heq
    exact Option.some.inj heq
  exact ⟨h.others, fun j hj => .of_essence (hessence j hj),
    fun j calls hj _ => Or.inl (Instance.finalizers_of_essence (hessence j hj))⟩

/-- Where an instance was found under its own identity, all instances stay under theirs. -/
theorem Guards.named (h : Guards i answer c c') (hc : c.Named) : c'.Named := by
  intro id' j hj
  by_cases hid : id' = i.id
  · subst hid
    exact (h.becomes j hj).id_eq
  · exact hc id' j ((h.others id' hid).symm.trans hj)

theorem guards_of_claim (hlive : i.isDeleting = false) (hfinalizer : i.hasFinalizer = false) :
    let called := ((c.record (.one .get i.id)).record (.one .update i.id)).bump
    Guards i (.ok (.requeue .zero)) c
      (called.putInstance i.id (called.adopt i i.addFinalizer)) := by
  intro called
  have hput {j : Instance} (hj : Table.get? (called.putInstance i.id
      (called.adopt i i.addFinalizer)).instances i.id = some j) :
      called.adopt i i.addFinalizer = j :=
    Option.some.inj ((Table.get?_insert_self ..).symm.trans hj)
  refine ⟨fun id' hne => (Table.get?_insert ..).trans (if_neg (Ne.symm hne)), fun j hj => ?_,
    fun j calls hj hcalls => Or.inr (Or.inl ⟨hlive, hfinalizer, ?_, ?_, rfl⟩)⟩
  · rw [← hput hj]
    exact .adopt ..
  · rw [← hput hj]
    exact (Instance.finalizers_adopt ..).trans (Instance.finalizers_addFinalizer hfinalizer)
  · have hmade : calls = [.one .get i.id, .one .update i.id] :=
      List.append_cancel_left (hcalls.symm.trans (List.append_assoc ..))
    rw [hmade]
    rfl

/-- What is left of an instance once the finalizer is taken off. -/
theorem get?_released {c₁ : Cluster}
    (hj : Table.get? ((c₁.putInstance i.id (c₁.adopt i i.removeFinalizer)).collect i.id).instances
      i.id = some j) : j = c₁.adopt i i.removeFinalizer :=
  Option.some.inj ((get?_of_collect hj).symm.trans (Table.get?_insert_self ..))

theorem unheld_of_released {c₁ : Cluster}
    (hj : Table.get? ((c₁.putInstance i.id (c₁.adopt i i.removeFinalizer)).collect i.id).instances
      i.id = some j) : j.hasFinalizer = false := by
  refine decide_eq_false ?_
  rw [get?_released hj,
    show (c₁.adopt i i.removeFinalizer).finalizers = i.removeFinalizer.finalizers from
      Instance.finalizers_adopt .., i.finalizers_removeFinalizer]
  exact Finalizer.not_mem_remove _ _

theorem guards_of_release {c₁ : Cluster} (hc₁ : c₁.instances = c.instances)
    (hdeleting : i.isDeleting = true) :
    Guards i (.ok .await) c
      ((c₁.putInstance i.id (c₁.adopt i i.removeFinalizer)).collect i.id) := by
  refine ⟨fun id' hne => ?_, fun j hj => ?_, fun j calls hj _ =>
    Or.inr (Or.inr ⟨hdeleting, ?_, rfl⟩)⟩
  · rw [get?_collect_of_ne hne, ← hc₁]
    exact (Table.get?_insert ..).trans (if_neg (Ne.symm hne))
  · rw [get?_released hj]
    exact .adopt ..
  · rw [get?_released hj]
    exact (Instance.finalizers_adopt ..).trans i.finalizers_removeFinalizer

end Cluster

/-! ## Passes -/

namespace Context

variable {ctx : Context}

theorem livePass_retains (hfinalizer : i.hasFinalizer = true) :
    Keeps (Retains i.id) (ctx.livePass i : StoreM Cluster Action) := by
  rw [livePass_of_held hfinalizer]
  exact (retains_admits.runComponents (p := ctx.pass i) updateStatus_retains _).bind fun _ =>
    Keeps.pure _

/-- A visit to an instance that is to go only reports on it, or it takes the finalizer off. -/
theorem finalVisit_retains_or_releases (hi : Table.get? c.instances i.id = some i)
    (hfinalizer : i.hasFinalizer = true) :
    Retains i.id c ((ctx.finalVisit i : StoreM Cluster Action).after c) ∨
      ∃ c₁ : Cluster, c₁.instances = c.instances ∧ ctx.finalVisit i c =
        .ok .await ((c₁.putInstance i.id (c₁.adopt i i.removeFinalizer)).collect i.id) := by
  have hreported (e : Error) : Keeps (Retains i.id)
      ((ctx.pass i).reportError e.reason e >>= fun _ => throw e : StoreM Cluster Action) :=
    (Pass.reportError_keeps (p := ctx.pass i) updateStatus_retains _ _).bind fun _ => Keeps.throw _
  have hclear := (ctx.pass i).clear_within c
  have hfinalize := congrFun (Pass.finalize_eq (ctx.pass i)) c
  cases hrun : (ctx.pass i).clear c with
  | error e c₁ =>
    rw [after_error hrun] at hclear
    rw [bind_of_error hrun] at hfinalize
    left
    rw [after_congr (finalVisit_of_error hfinalize)]
    exact trans_of _ hclear.retains (hreported e c₁)
  | ok wait c₁ =>
    rw [after_ok hrun] at hclear
    rw [bind_of_ok hrun] at hfinalize
    cases wait with
    | some d =>
      left
      rw [after_ok (finalVisit_of_ok hfinalize)]
      exact hclear.retains
    | none =>
      right
      have hi₁ : Table.get? c₁.instances i.id = some i := by rw [hclear.instances, hi]
      refine ⟨(c₁.record (.one .update i.id)).bump, hclear.instances, ?_⟩
      exact finalVisit_of_ok
        (hfinalize.trans (Pass.release_of_stored (p := ctx.pass i) hi₁ hfinalizer))

/-- A visit writes to its instance only, and only what is the operator's to write. -/
theorem visit_guards (ctx : Context) (hi : Table.get? c.instances i.id = some i) :
    Guards i ((ctx.visit i.id : StoreM Cluster Action).answer c) c
      ((ctx.visit i.id : StoreM Cluster Action).after c) := by
  have hread : Retains i.id c (c.record (.one .get i.id)) := .of_instances_eq rfl
  cases hdeleting : i.isDeleting with
  | false =>
    have hvisit := ctx.visit_of_live hi hdeleting
    cases hfinalizer : i.hasFinalizer with
    | true =>
      rw [after_congr hvisit]
      exact (trans_of _ hread (livePass_retains hfinalizer _)).guards hi
    | false =>
      have hrun := hvisit.trans (ctx.livePass_of_unheld hi hdeleting hfinalizer)
      rw [after_ok hrun, answer_ok hrun]
      exact guards_of_claim hdeleting hfinalizer
  | true =>
    cases hfinalizer : i.hasFinalizer with
    | false =>
      rw [after_ok (ctx.visit_of_unheld hi hdeleting hfinalizer)]
      exact hread.guards hi
    | true =>
      have hvisit := ctx.visit_of_deleting hi hdeleting hfinalizer
      rcases ctx.finalVisit_retains_or_releases (c := c.record (.one .get i.id)) hi hfinalizer with
        hreported | ⟨c₁, hc₁, hreleased⟩
      · rw [after_congr hvisit]
        exact (trans_of _ hread hreported).guards hi
      · have hrun := hvisit.trans hreleased
        rw [after_ok hrun, answer_ok hrun]
        exact guards_of_release hc₁ hdeleting

/-- A visit files no instance under another identity. -/
theorem visit_named (ctx : Context) (h : c.Named) (id : InstanceId) :
    ((ctx.visit id : StoreM Cluster Action).after c).Named := by
  cases hi : Table.get? c.instances id with
  | none =>
    rw [after_ok (ctx.visit_of_missing hi)]
    exact h
  | some i =>
    obtain rfl := h id i hi
    exact (ctx.visit_guards hi).named h

theorem visit_logs_of_held {V : Verb → Key → Prop} (hV : ∀ verb key, V verb key)
    (hi : Table.get? c.instances i.id = some i) (hfinalizer : i.hasFinalizer = true) :
    Logs V c ((ctx.visit i.id : StoreM Cluster Action).after c) := by
  have hadmits : Admits (Logs V) := logs_admits hV
  have hread : Logs V c (c.record (.one .get i.id)) :=
    logs_record_instance (.one .get i.id) (by simp) rfl
  cases hdeleting : i.isDeleting with
  | false =>
    rw [after_congr (ctx.visit_of_live hi hdeleting), livePass_of_held hfinalizer, after_bind_pure]
    exact trans_of _ hread
      (hadmits.runComponents (p := ctx.pass i) (fun j _ => updateStatus_logs j) _ _)
  | true =>
    rw [after_congr (ctx.visit_of_deleting hi hdeleting hfinalizer)]
    exact trans_of _ hread (finalVisit_keeps (hadmits.clear _ _) (Pass.release_logs _)
      fun j _ => updateStatus_logs j)

/-- A visit asks for an object only if its instance holds the finalizer. -/
theorem visit_asks (ctx : Context) (h : c.Named) (id : InstanceId) :
    Logs (fun _ _ => ∃ i, Table.get? c.instances id = some i ∧ i.hasFinalizer = true) c
      ((ctx.visit id : StoreM Cluster Action).after c) := by
  cases hi : Table.get? c.instances id with
  | none =>
    rw [after_ok (ctx.visit_of_missing hi)]
    exact logs_record_instance (.one .get id) (by simp) rfl
  | some i =>
    obtain rfl := h id i hi
    cases hfinalizer : i.hasFinalizer with
    | true => exact visit_logs_of_held (fun _ _ => ⟨i, rfl, hfinalizer⟩) hi hfinalizer
    | false =>
      cases hdeleting : i.isDeleting with
      | true =>
        rw [after_ok (ctx.visit_of_unheld hi hdeleting hfinalizer)]
        exact logs_record_instance (.one .get i.id) (by simp) rfl
      | false =>
        rw [after_ok ((ctx.visit_of_live hi hdeleting).trans
          (ctx.livePass_of_unheld hi hdeleting hfinalizer))]
        refine trans_of _ (logs_record_instance (.one .get i.id) (by simp) rfl)
          (logs_record_instance (.one .update i.id) (by simp) rfl)

/-- What a pass may write to instances, whatever it meets with and however it ends. Every other
instance is the same after the pass as before. The instance of the pass itself, if it is still
there, has another status, other finalizers and another version at most. Its finalizers change in
two ways only: if it was to stay and was without the finalizer of the operator, that may be put at
the end, and then the pass writes nothing else and asks to be made again at once; if it was to go,
that may be taken off, and then the pass is the last one. No pass asks for any object unless the
instance held the finalizer when the pass began. -/
theorem reconcile_custody (settings : Settings) (op : Operator Cluster) (id : InstanceId)
    (hnamed : op.store.Named) :
    let ctx : Context := { settings }
    let op' := StoreM.after (σ := Operator Cluster) (ctx.reconcileInstance id) op
    let answer := StoreM.answer (σ := Operator Cluster) (ctx.reconcileInstance id) op
    (∀ id', id' ≠ id →
      Table.get? op'.store.instances id' = Table.get? op.store.instances id') ∧
    (Table.get? op.store.instances id = none → Table.get? op'.store.instances id = none) ∧
    ∃ calls, op'.store.calls = op.store.calls ++ calls ∧
      (∀ i j, Table.get? op.store.instances id = some i →
        Table.get? op'.store.instances id = some j → i.Becomes j ∧ i.Handled j calls answer) ∧
      ∀ verb key, .object verb key ∈ calls →
        ∃ i, Table.get? op.store.instances id = some i ∧ i.hasFinalizer = true := by
  intro ctx op' answer
  have htracks := ctx.reconcileInstance_tracks (σ := Cluster) id
  have hstore : op'.store = (ctx.visit id : StoreM Cluster Action).after op.store :=
    htracks.store_after op
  have hanswer : answer = (ctx.visit id : StoreM Cluster Action).answer op.store :=
    htracks.answer_eq op
  obtain ⟨calls, hcalls, hasked⟩ := ctx.visit_asks hnamed id
  rw [hstore, hanswer]
  refine ⟨fun id' hne => ?_, fun hnone => ?_, calls, hcalls, fun i j hi hj => ?_, hasked⟩
  · cases hi : Table.get? op.store.instances id with
    | none =>
      rw [after_ok (ctx.visit_of_missing hi)]
      rfl
    | some i =>
      obtain rfl := hnamed id i hi
      exact (ctx.visit_guards hi).others id' hne
  · rw [after_ok (ctx.visit_of_missing hnone)]
    exact hnone
  · obtain rfl := hnamed id i hi
    have hguarded := ctx.visit_guards hi
    exact ⟨hguarded.becomes j hj, hguarded.handled j calls hj hcalls⟩

/-- The finalizer of somebody else holds the instance on, and nothing but that is left of the
instance's finalizers when the operator is done with it. -/
theorem reconcile_custody_of_shared :
    let i : Instance := Instance.bare ⟨"nfd", "nfd"⟩
    let i : Instance := { i with
      metadata := { i.metadata with
        finalizers := some [Finalizer.own, "backup", Finalizer.own]
        deletionTimestamp := some (.reading 0) } }
    let ctx : Context := { settings := {} }
    let op : Operator Cluster := { store := { instances := [(i.id, i)] } }
    let op' := StoreM.after (σ := Operator Cluster) (ctx.reconcileInstance i.id) op
    ∃ j, Table.get? op'.store.instances i.id = some j ∧ j.finalizers = ["backup"] ∧
      j.spec = i.spec := by
  intro _ i ctx op op'
  have hstored : Table.get? op.store.instances i.id = some i := by decide +kernel
  have hnamed : op.store.Named := by
    intro id j hj
    obtain ⟨rfl, rfl⟩ := Prod.mk.inj (List.mem_singleton.1 (Table.mem_of_get? hj))
    rfl
  obtain ⟨-, -, calls, -, hhandled, -⟩ := reconcile_custody {} op i.id hnamed
  have hstays :
      (Table.get? op'.store.instances i.id).map Instance.finalizers = some ["backup"] := by
    decide +kernel
  obtain ⟨j, hj, hfinalizers⟩ := Option.map_eq_some_iff.1 hstays
  refine ⟨j, hj, hfinalizers, ?_⟩
  exact (hhandled i j hstored hj).1.spec_eq

end Context

end NodeFeatureOperator
