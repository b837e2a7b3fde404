import NodeFeatureOperator.Proofs.Accounting
import NodeFeatureOperator.Proofs.History
import NodeFeatureOperator.Proofs.Outcome
import NodeFeatureOperator.Proofs.Run

/-!
# What the times of conditions mean

Reports come and go, and one that is written for the sake of one condition, or of a new generation,
writes all four anew. Each condition keeps its time through this, so the time always is that of the
pass that last changed what the instance says about the type of the condition
(`transition_times`).
-/

namespace NodeFeatureOperator

open Cluster StoreM

namespace Condition

variable {old conditions : List Condition} {x : Condition} {now : Moment}

/-- What a report has to say about a type. -/
def about (conditions : List Condition) (t : ConditionType) : Option Condition :=
  (conditions.find? (·.type = t)).map untimed

theorem about_of_mem (hdistinct : (conditions.map (·.type)).Nodup) (h : x ∈ conditions) :
    about conditions x.type = some x.untimed := by
  unfold about
  cases hfind : conditions.find? (·.type = x.type) with
  | none => exact absurd (decide_eq_true rfl) (List.find?_eq_none.1 hfind x h)
  | some y =>
    have htype : y.type = x.type := by simpa using List.find?_some hfind
    rw [List.inj_on_of_nodup_map hdistinct (List.mem_of_find?_eq_some hfind) h htype]
    rfl

theorem about_ne (h : ∀ o ∈ old, o.untimed ≠ x.untimed) (t : ConditionType) :
    about old t ≠ some x.untimed := by
  intro habout
  obtain ⟨o, ho, heq⟩ := Option.map_eq_some_iff.1 habout
  exact h o (List.mem_of_find?_eq_some ho) heq

theorem types_carryTimes (old conditions : List Condition) :
    (carryTimes old conditions).map (·.type) = conditions.map (·.type) := by
  have htypes (l : List Condition) : (l.map untimed).map (·.type) = l.map (·.type) := List.map_map
  rw [← htypes, untimed_carryTimes, htypes]

/-- A condition of a report that was written was there before, or it is new and has the time of the
report. -/
theorem mem_carryTimes (hnow : ∀ y ∈ conditions, y.lastTransition = some now)
    (h : x ∈ carryTimes old conditions) :
    x ∈ old ∨ x.lastTransition = some now ∧ ∀ o ∈ old, o.untimed ≠ x.untimed := by
  obtain ⟨y, hy, rfl⟩ := List.mem_map.1 h
  unfold carryTime
  cases hfind : old.find? fun o => o.sameAs y with
  | none =>
    refine Or.inr ⟨hnow y hy, fun o ho heq => ?_⟩
    exact List.find?_eq_none.1 hfind o ho (sameAs_iff.2 heq)
  | some o =>
    have hsame : o.sameAs y = true := by simpa using List.find?_some hfind
    have hkept : ({ y with lastTransition := o.lastTransition } : Condition) = o :=
      (congrArg (fun z : Condition => { z with lastTransition := o.lastTransition })
        (sameAs_iff.1 hsame)).symm
    dsimp only
    rw [hkept]
    exact Or.inl (List.mem_of_find?_eq_some hfind)

namespace Reportable

theorem times (h : Reportable now conditions) : ∀ y ∈ conditions, y.lastTransition = some now := by
  obtain ⟨active, reason, message, -, rfl⟩ := h
  intro y hy
  obtain ⟨t, -, rfl⟩ := List.mem_map.1 hy
  split <;> rfl

theorem types (h : Reportable now conditions) : conditions.map (·.type) = ConditionType.all := by
  obtain ⟨active, reason, message, -, rfl⟩ := h
  cases active <;> rfl

end Reportable

end Condition

/-- What can happen next. -/
inductive Happening where
  /-- A step of a run. -/
  | step (s : Step)
  /-- Whoever may do so changes objects, in whatever way. -/
  | objects (t : Table Key ManagedObject)

namespace Happening

/-- What a happening does to a cluster. -/
def onCluster (ctx : Context) : Happening → Cluster → Cluster
  | step s, c => s.onCluster ctx c
  | objects t, c => { c with objects := t }

/-- What a happening does to an operator and its cluster. -/
def take (ctx : Context) (op : Operator Cluster) : Happening → Operator Cluster
  | step s => s.take ctx op
  | objects t => { op with store := { op.store with objects := t } }

theorem take_store (ctx : Context) (op : Operator Cluster) (h : Happening) :
    (h.take ctx op).store = h.onCluster ctx op.store := by
  cases h with
  | step s => exact s.take_store op
  | objects t => rfl

end Happening

/-- An operator and its cluster after what has happened, each thing at a reading of the clock. -/
def Context.timed (ctx : Context) (op : Operator Cluster) (events : List (Nat × Happening)) :
    Operator Cluster :=
  events.foldl (fun op event => event.2.take ctx (op.atStep event.1)) op

theorem Instance.conditions_of_unreported {i : Instance} (h : i.status = none) :
    i.conditions = [] := by
  unfold conditions
  rw [h]

namespace Cluster

variable {c c' : Cluster} {id : InstanceId} {i : Instance}

/-- The conditions that the instance of an identity reports. -/
def reported (c : Cluster) (id : InstanceId) : List Condition :=
  ((Table.get? c.instances id).map Instance.conditions).getD []

theorem reported_congr (h : Table.get? c'.instances id = Table.get? c.instances id) :
    c'.reported id = c.reported id := by
  unfold reported
  rw [h]

theorem reported_of_stored (h : Table.get? c.instances id = some i) :
    c.reported id = i.conditions := by
  unfold reported
  rw [h]
  rfl

end Cluster

namespace Happening

variable {ctx : Context} {c c' : Cluster} {id : InstanceId} {i j : Instance} {event : Happening}

/-- What the instance of an identity may report after a happening. -/
inductive Leaves (c : Cluster) (id : InstanceId) : Happening → List Condition → Prop
  | gone (event : Happening) : Leaves c id event []
  | kept (event : Happening) : Leaves c id event (c.reported id)
  | inserted {i : Instance} : i.id = id → Leaves c id (step (.insertInstance i)) i.conditions
  | told {conditions : List Condition} : Condition.Reportable (.reading c.step) conditions →
      Leaves c id (step (.pass id)) (Condition.carryTimes (c.reported id) conditions)

/-- A happening does something to the instance of one identity at most. -/
structure Touches (event : Happening) (id : InstanceId) (c c' : Cluster) : Prop where
  others : ∀ id', id' ≠ id → Table.get? c'.instances id' = Table.get? c.instances id'
  leaves : ∀ j, Table.get? c'.instances id = some j → event.Leaves c id j.conditions

theorem leaves_of_stored (h : Table.get? c.instances id = some i)
    (hconditions : j.conditions = i.conditions) : event.Leaves c id j.conditions := by
  rw [hconditions, ← reported_of_stored h]
  exact .kept event

/-- Instances that are left alone are not touched, whatever the identity. -/
theorem touches_of_eq (id : InstanceId) (hinstances : c'.instances = c.instances) :
    event.Touches id c c' := by
  refine ⟨fun id' _ => by rw [hinstances], fun j hj => ?_⟩
  rw [hinstances] at hj
  exact leaves_of_stored hj rfl

/-- An instance that is edited keeps its status. -/
theorem touches_modify (id : InstanceId) (f : Instance → Instance)
    (hinstances : c'.instances = Table.modify c.instances id f)
    (hconditions : ∀ i, (f i).conditions = i.conditions) : event.Touches id c c' := by
  refine ⟨fun id' hne => ?_, fun j hj => ?_⟩
  · rw [hinstances, Table.get?_modify, if_neg (Ne.symm hne)]
  · rw [hinstances, Table.get?_modify, if_pos rfl] at hj
    obtain ⟨i, hi, rfl⟩ := Option.map_eq_some_iff.1 hj
    exact leaves_of_stored hi (hconditions i)

theorem Touches.collect (h : event.Touches id c c') : event.Touches id c (c'.collect id) :=
  ⟨fun id' hne => (get?_collect_of_ne hne).trans (h.others id' hne),
    fun j hj => h.leaves j (get?_of_collect hj)⟩

theorem visit_touches (ctx : Context) (h : c.Named) (id : InstanceId) :
    (step (.pass id)).Touches id c ((ctx.visit id : StoreM Cluster Action).after c) := by
  cases hi : Table.get? c.instances id with
  | none =>
    rw [after_ok (ctx.visit_of_missing hi)]
    exact touches_of_eq id rfl
  | some i =>
    obtain rfl := h id i hi
    obtain ⟨told, htells, hreportable⟩ := ctx.visit_tells hi
    refine ⟨htells.others, fun j hj => ?_⟩
    have hstatus := htells.status j hj
    -- Either the instance reports all of this already, or it is written and unchanged times stay.
    cases hlearns : i.learns told with
    | false =>
      rw [Instance.statusAfter_of_known hlearns] at hstatus
      refine leaves_of_stored hi ?_
      unfold Instance.conditions
      rw [hstatus]
    | true =>
      cases told with
      | none => cases hlearns
      | some conditions =>
        have hunknown : ¬ i.reports conditions = true := by
          simpa [Instance.learns] using hlearns
        have hafter : i.statusAfter (some conditions) = (i.withReport conditions).status :=
          if_neg hunknown
        have hconditions : j.conditions = Condition.carryTimes (c.reported i.id) conditions := by
          unfold Instance.conditions
          rw [hstatus, hafter, reported_of_stored hi]
          rfl
        rw [hconditions]
        exact .told (hreportable _ rfl)

theorem onCluster_touches (ctx : Context) (h : c.Named) (event : Happening) :
    ∃ id, event.Touches id c (event.onCluster ctx c) := by
  cases event with
  | objects t => exact ⟨default, touches_of_eq _ rfl⟩
  | step s =>
    cases s with
    | insertInstance i =>
      have hput {j : Instance} (hj : Table.get? (c.insertInstance i).2.instances i.id = some j) :
          (c.insertInstance i).1 = j :=
        Option.some.inj ((Table.get?_insert_self ..).symm.trans hj)
      refine ⟨i.id, fun id' hne => ?_, fun j hj => ?_⟩
      · exact (Table.get?_insert ..).trans (if_neg (Ne.symm hne))
      · rw [← hput hj]
        exact .inserted rfl
    | editSpec id spec =>
      exact ⟨id, touches_modify id (c.bump.respec spec) rfl fun _ => rfl⟩
    | markDeleting id =>
      exact ⟨id, Touches.collect (touches_modify id c.bump.mark rfl fun _ => rfl)⟩
    | pass id => exact ⟨id, visit_touches ctx h id⟩
    | _ => exact ⟨default, touches_of_eq _ rfl⟩

theorem onCluster_named (ctx : Context) (h : c.Named) (event : Happening) :
    (event.onCluster ctx c).Named := by
  cases event with
  | objects t => exact h
  | step s =>
    cases s with
    | insertInstance i => exact h.putInstance (j := (c.insertInstance i).1) rfl
    | editSpec id spec => exact h.modify (f := c.bump.respec spec) rfl fun _ => rfl
    | markDeleting id => exact Named.collect (h.modify (f := c.bump.mark) rfl fun _ => rfl) id
    | pass id => exact ctx.visit_named h id
    | _ => exact h

/-- What happens to the report of an instance. -/
theorem onCluster_leaves (ctx : Context) (h : c.Named) (event : Happening) (id : InstanceId) :
    event.Leaves c id ((event.onCluster ctx c).reported id) := by
  obtain ⟨id', htouches⟩ := onCluster_touches ctx h event
  by_cases hid : id = id'
  · subst hid
    cases hj : Table.get? (event.onCluster ctx c).instances id with
    | none =>
      have hgone : (event.onCluster ctx c).reported id = [] := by
        unfold reported
        rw [hj]
        rfl
      rw [hgone]
      exact .gone event
    | some j =>
      rw [reported_of_stored hj]
      exact htouches.leaves j hj
  · rw [reported_congr (htouches.others id hid)]
    exact .kept event

section Leaves

variable {conditions : List Condition} {x : Condition}

theorem Leaves.distinct (h : event.Leaves c id conditions)
    (hinserts : ∀ i, event = step (.insertInstance i) → i.id = id → i.status = none)
    (hdistinct : ((c.reported id).map (·.type)).Nodup) : (conditions.map (·.type)).Nodup := by
  cases h with
  | gone => exact List.nodup_nil
  | kept => exact hdistinct
  | @inserted i hid =>
    rw [Instance.conditions_of_unreported (hinserts i rfl hid)]
    exact List.nodup_nil
  | told hreportable =>
    rw [Condition.types_carryTimes, hreportable.types]
    decide

/-- A condition that was not reported before is told by a pass, at the time of the pass, and what it
says of its type is new. -/
theorem Leaves.arrives (h : event.Leaves c id conditions)
    (hinserts : ∀ i, event = step (.insertInstance i) → i.id = id → i.status = none)
    (hx : x ∈ conditions) (hnew : x ∉ c.reported id) :
    event = step (.pass id) ∧ x.lastTransition = some (.reading c.step) ∧
      Condition.about (c.reported id) x.type ≠ some x.untimed := by
  cases h with
  | gone => cases hx
  | kept => exact absurd hx hnew
  | @inserted i hid =>
    rw [Instance.conditions_of_unreported (hinserts i rfl hid)] at hx
    cases hx
  | told hreportable =>
    rcases Condition.mem_carryTimes hreportable.times hx with hold | ⟨htime, hothers⟩
    · exact absurd hold hnew
    · exact ⟨rfl, htime, Condition.about_ne hothers x.type⟩

end Leaves

end Happening

/-! ## What has happened since -/

namespace Context

variable {ctx : Context} {op : Operator Cluster} {id : InstanceId}
  {events : List (Nat × Happening)}

theorem timed_concat_store (event : Nat × Happening) :
    (ctx.timed op (events ++ [event])).store =
      event.2.onCluster ctx { (ctx.timed op events).store with step := event.1 } := by
  unfold timed
  rw [List.foldl_append]
  exact event.2.take_store ctx _

/-- Whatever happens, instances are stored under their identities, and an instance that was put in
without a status reports no type twice. -/
theorem timed_distinct (ctx : Context) (hnamed : op.store.Named)
    (hnew : op.store.reported id = [])
    (hinserts : ∀ now i, (now, .step (.insertInstance i)) ∈ events → i.id = id → i.status = none) :
    (ctx.timed op events).store.Named ∧
      (((ctx.timed op events).store.reported id).map (·.type)).Nodup := by
  induction events using List.reverseRecOn with
  | nil =>
    refine ⟨hnamed, ?_⟩
    change ((op.store.reported id).map (·.type)).Nodup
    rw [hnew]
    exact List.nodup_nil
  | append_singleton events event ih =>
    obtain ⟨hnamed, hdistinct⟩ := ih fun now i hmem => hinserts now i (List.mem_append_left _ hmem)
    have hnamed' : Named { (ctx.timed op events).store with step := event.1 } := hnamed
    rw [timed_concat_store]
    refine ⟨event.2.onCluster_named ctx hnamed', ?_⟩
    refine (event.2.onCluster_leaves ctx hnamed' id).distinct (fun i hevent => ?_) hdistinct
    refine hinserts event.1 i (List.mem_append_right _ (List.mem_singleton.2 ?_))
    exact (congrArg (Prod.mk event.1) hevent).symm

/-- The time of a condition is that of the pass that came to say what the condition says of its
type, and this has been said ever since. -/
theorem transition_times (settings : Settings) (op : Operator Cluster) (id : InstanceId)
    (events : List (Nat × Happening)) (hnamed : op.store.Named)
    (hnew : op.store.reported id = [])
    (hinserts : ∀ now i, (now, .step (.insertInstance i)) ∈ events → i.id = id → i.status = none) :
    let ctx : Context := { settings }
    let reported (past : List (Nat × Happening)) := (ctx.timed op past).store.reported id
    ∀ x ∈ reported events, ∃ before now after,
      events = before ++ (now, .step (.pass id)) :: after ∧
        x.lastTransition = some (.reading now) ∧
        Since (fun past => Condition.about (reported past) x.type = some x.untimed)
          before (now, .step (.pass id)) after := by
  intro ctx reported x hx
  have hnil : ¬ x ∈ reported [] := by
    change x ∉ op.store.reported id
    rw [hnew]
    exact List.not_mem_nil
  obtain ⟨before, ⟨now, event⟩, after, rfl, hsince⟩ :=
    exists_since (P := fun past => x ∈ reported past) hnil hx
  have hbefore := ctx.timed_distinct hnamed hnew fun now' i hmem =>
    hinserts now' i (List.mem_append_left _ hmem)
  have hfirst := hsince.first
  simp only [reported] at hfirst
  rw [timed_concat_store] at hfirst
  have hnamed' : Named { (ctx.timed op before).store with step := now } := hbefore.1
  obtain ⟨rfl, htime, hchanged⟩ := (event.onCluster_leaves ctx hnamed' id).arrives
    (fun i hevent => hinserts now i (by simp [hevent])) hfirst hsince.unmet
  refine ⟨before, now, after, rfl, htime, hchanged, fun mid hmid => ?_⟩
  -- The condition itself has been there ever since, and no other one is of its type.
  have hpast : before ++ (now, .step (.pass id)) :: mid
      <+: before ++ (now, .step (.pass id)) :: after :=
    (List.prefix_append_right_inj _).2 (List.cons_prefix_cons.2 ⟨rfl, hmid⟩)
  have hdistinct := (ctx.timed_distinct hnamed hnew fun now' i hmem =>
    hinserts now' i (hpast.subset hmem)).2
  exact Condition.about_of_mem hdistinct (hsince.holds mid hmid)

/-- A service account cannot be created, first for one reason and then for another. Both are
reported, but that the instance is not available has been known from the first report on. -/
theorem transition_times_of_refused :
    let i := (Instance.bare ⟨"nfd", "nfd"⟩).addFinalizer
    let pass := Happening.step (.pass i.id)
    let refuse (code : Nat) :=
      Happening.step (.failOn .create (.namespaced .serviceAccount "nfd" "nfd-master") code)
    let events : List (Nat × Happening) :=
      [(0, .step (.insertInstance i)), (1, refuse 500), (2, pass), (3, refuse 403), (4, pass)]
    let x : Condition := ⟨some (.reading 2), .available, false, none, none⟩
    let reported (past : List (Nat × Happening)) : List Condition :=
      (({ settings := {} } : Context).timed { store := {} } past).store.reported i.id
    x ∈ reported events ∧ ∃ before after, events = before ++ (2, pass) :: after ∧
      Since (fun past => Condition.about (reported past) .available = some x.untimed)
        before (2, pass) after := by
  intro i pass refuse events x reported
  have hx : x ∈ reported events := by decide +kernel
  have hinserts : ∀ now j, (now, .step (.insertInstance j)) ∈ events → j.id = i.id →
      j.status = none := by
    intro now j hmem _
    have hj : now = 0 ∧ j = i := by simpa [events, pass, refuse] using hmem
    rw [hj.2]
    rfl
  have hnamed : Named {} := fun _ _ h => nomatch h
  obtain ⟨before, now, after, hevents, htime, hsince⟩ :=
    transition_times {} { store := {} } i.id events hnamed rfl hinserts x hx
  obtain rfl : 2 = now := Moment.reading.inj (Option.some.inj htime)
  exact ⟨hx, before, after, hevents, hsince⟩

end Context

end NodeFeatureOperator
