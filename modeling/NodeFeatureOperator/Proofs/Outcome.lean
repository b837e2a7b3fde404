import NodeFeatureOperator.Proofs.Calls
import NodeFeatureOperator.Proofs.Custody

/-!
# The outcome of a pass and the status it leaves

A pass tells of its outcome in one report at most, and nothing else that it does has anything to do
with the status of the instance (`Context.visit_tells`). So the status that a pass leaves agrees
with how the pass ended, whether the report had to be written or was there already
(`Context.reconcile_reports`).
-/

namespace NodeFeatureOperator

open Cluster StoreM

/-- Whether a call writes the status of an instance. -/
def Call.isReport : Call → Bool
  | one .status _ => true
  | _ => false

/-- A status as the operator writes it: all conditions in order, one of them active, and only that
with a reason and a message. -/
structure InstanceStatus.Proper (s : InstanceStatus) (generation : Option Int) : Prop where
  types : s.conditions.map (·.type) = ConditionType.all
  one : ∃ t ∈ [ConditionType.available, .progressing, .degraded],
    (s.conditions.filter (·.active)).map (·.type) = [t]
  grounds : ∀ x ∈ s.conditions, x.reason.isSome = x.active ∧ x.message.isSome = x.active
  generation : s.observedGeneration = generation

namespace Instance

variable {i j : Instance}

/-- Whether a report tells anything that the instance does not report already. -/
def learns (i : Instance) : Option (List Condition) → Bool
  | none => false
  | some conditions => !i.reports conditions

/-- The status of the instance once it is reported on. -/
def statusAfter (i : Instance) : Option (List Condition) → Option InstanceStatus
  | none => i.status
  | some conditions => if i.reports conditions then i.status else (i.withReport conditions).status

theorem statusAfter_of_known {told : Option (List Condition)} (h : i.learns told = false) :
    i.statusAfter told = i.status := by
  cases told with
  | none => rfl
  | some conditions => exact if_pos (by simpa [learns] using h)

end Instance

namespace Condition

variable {active : ConditionType} {reason message : String} {now : Moment}
  {conditions : List Condition}

/-- The times of conditions make no difference to whether a status is proper. -/
theorem proper_of_untimed {s : InstanceStatus} {generation : Option Int}
    (h : s.conditions.map untimed = (report now active reason message).map untimed)
    (hactive : active ≠ .upgradeable) (hgeneration : s.observedGeneration = generation) :
    s.Proper generation where
  types := by
    have htypes : (s.conditions.map untimed).map (·.type) = s.conditions.map (·.type) :=
      List.map_map
    rw [← htypes, h]
    cases active <;> rfl
  one := by
    have hfilter : ((s.conditions.map untimed).filter (·.active)).map (·.type)
        = (s.conditions.filter (·.active)).map (·.type) := by
      rw [List.filter_map, List.map_map]
      rfl
    rw [← hfilter, h]
    refine ⟨active, ?_, ?_⟩
    · cases active with
      | upgradeable => exact absurd rfl hactive
      | _ => decide
    · cases active <;> rfl
  grounds x hx := by
    have hmem : x.untimed ∈ (report now active reason message).map untimed :=
      h ▸ List.mem_map_of_mem hx
    have hgrounds : ∀ y ∈ (report now active reason message).map untimed,
        y.reason.isSome = y.active ∧ y.message.isSome = y.active := by
      cases active <;> simp [report, ConditionType.all, untimed]
    exact hgrounds x.untimed hmem
  generation := hgeneration

end Condition

namespace Cluster

variable {i : Instance} {told : Option (List Condition)} {c c₁ c' : Cluster}

/-- What happened in between told of the instance at most once, and it learned what was new. -/
structure Tells (i : Instance) (told : Option (List Condition)) (c c' : Cluster) : Prop where
  calls : ∃ calls, c'.calls = c.calls ++ calls ∧
    calls.filter Call.isReport = if i.learns told then [.one .status i.id] else []
  status : ∀ j, Table.get? c'.instances i.id = some j → j.status = i.statusAfter told
  stays : i.learns told = true → ∃ j, Table.get? c'.instances i.id = some j
  others : ∀ id, id ≠ i.id → Table.get? c'.instances id = Table.get? c.instances id

theorem Silent.no_reports (h : Silent c c') :
    ∃ calls, c'.calls = c.calls ++ calls ∧ calls.filter Call.isReport = [] := by
  obtain ⟨calls, hcalls, hsilent⟩ := h.calls
  refine ⟨calls, hcalls, List.filter_eq_nil_iff.2 fun call hmem hreport => ?_⟩
  cases call with
  | one verb id =>
    cases verb with
    | status => exact hsilent id hmem
    | _ => cases hreport
  | _ => cases hreport

/-- What keeps silent and leaves the instances alone tells nothing. -/
theorem Silent.tells (h : Silent c c') (hi : Table.get? c.instances i.id = some i)
    (hinstances : c'.instances = c.instances) : Tells i none c c' where
  calls := h.no_reports
  status j hj := by
    rw [hinstances] at hj
    obtain rfl := Option.some.inj (hi.symm.trans hj)
    rfl
  stays := nofun
  others id _ := by rw [hinstances]

theorem adopt_status (c : Cluster) (old i : Instance) : (c.adopt old i).status = old.status := by
  unfold adopt
  dsimp only
  split <;> rfl

/-- To write anything but the status of the instance tells nothing either. -/
theorem Silent.adopt_tells (h : Silent c c₁) (hinstances : c₁.instances = c.instances)
    (j : Instance) :
    let called := (c₁.record (.one .update i.id)).bump
    Tells i none c (called.putInstance i.id (called.adopt i j)) := by
  intro called
  have hwritten : Silent c (called.putInstance i.id (called.adopt i j)) :=
    trans_of _ h (writes_record (.one .update i.id) (by simp) rfl)
  refine ⟨hwritten.no_reports, fun j' hj' => ?_, nofun, fun id hid => ?_⟩
  · obtain rfl := Option.some.inj ((Table.get?_insert_self ..).symm.trans hj')
    exact adopt_status ..
  · rw [← hinstances]
    exact (Table.get?_insert ..).trans (if_neg (Ne.symm hid))

/-- Collection tells nothing. -/
theorem Tells.collect (h : Tells i none c c') : Tells i none c (c'.collect i.id) where
  calls := by
    rw [collect_calls]
    exact h.calls
  status j hj := h.status j (get?_of_collect hj)
  stays := nofun
  others id hid := (get?_collect_of_ne hid).trans (h.others id hid)

/-- After silence a report is all that is told. -/
theorem Silent.told_tells {p : Pass} (h : Silent c c₁) (hinstances : c₁.instances = c.instances)
    (hi : Table.get? c.instances p.subject.id = some p.subject) (told : Option (List Condition)) :
    Tells p.subject told c (p.told c₁ told) := by
  have hold := h.tells hi hinstances
  cases told with
  | none => exact hold
  | some conditions =>
    unfold Pass.told
    by_cases hknown : p.subject.reports conditions = true
    · have hlearns : p.subject.learns (some conditions) = false := by
        simp [Instance.learns, hknown]
      simp only [hknown, if_true]
      refine ⟨?_, fun j hj => ?_, fun h => absurd (hlearns.symm.trans h) nofun, hold.others⟩
      · rw [hlearns]
        exact hold.calls
      · rw [Instance.statusAfter_of_known hlearns]
        exact hold.status j hj
    · have hlearns : p.subject.learns (some conditions) = true := by
        simpa [Instance.learns] using hknown
      simp only [hknown, Bool.false_eq_true, if_false]
      obtain ⟨calls, hcalls, hsilent⟩ := h.no_reports
      refine ⟨⟨calls ++ [.one .status p.subject.id], ?_, ?_⟩, fun j hj => ?_,
        fun _ => ⟨_, Table.get?_insert_self ..⟩, fun id hid => ?_⟩
      · exact (congrArg (· ++ [_]) hcalls).trans (List.append_assoc ..)
      · rw [List.filter_append, hsilent, hlearns]
        rfl
      · obtain rfl := Option.some.inj ((Table.get?_insert_self ..).symm.trans hj)
        exact (if_neg hknown).symm
      · refine (Table.get?_insert ..).trans ((if_neg (Ne.symm hid)).trans ?_)
        exact hold.others id hid

end Cluster

/-- A report that the operator may write when its clock shows `now`. -/
def Condition.Reportable (now : Moment) (conditions : List Condition) : Prop :=
  ∃ active reason message, active ≠ .upgradeable ∧ conditions = report now active reason message

theorem Health.aggregate_reportable (now : Moment) (healths : List Health) :
    Condition.Reportable now (aggregate now healths) := by
  unfold aggregate
  split
  · exact ⟨.degraded, _, _, by decide, rfl⟩
  · exact ⟨.progressing, _, _, by decide, rfl⟩
  · exact ⟨.available, _, _, by decide, rfl⟩

theorem Finding.reportable {f : Finding} {now : Moment} {conditions : List Condition}
    (h : f.conditions? now = some conditions) : Condition.Reportable now conditions := by
  cases f with
  | failed k e =>
    unfold conditions? at h
    dsimp only at h
    split at h
    · cases h
    · obtain rfl := Option.some.inj h
      exact ⟨.degraded, _, _, by decide, rfl⟩
  | surveyed healths =>
    obtain rfl := Option.some.inj h
    exact Health.aggregate_reportable now healths

/-- What an instance has learned from the operator is a proper status. -/
theorem Instance.statusAfter_proper {i : Instance} {told : Option (List Condition)} {now : Moment}
    (hlearns : i.learns told = true)
    (htold : ∀ conditions, told = some conditions → Condition.Reportable now conditions) :
    ∃ s, i.statusAfter told = some s ∧ s.Proper i.metadata.generation := by
  cases told with
  | none => cases hlearns
  | some conditions =>
    obtain ⟨active, reason, message, hactive, rfl⟩ := htold conditions rfl
    have hunknown : ¬ i.reports (Condition.report now active reason message) = true := by
      simpa [learns] using hlearns
    exact ⟨_, if_neg hunknown,
      Condition.proper_of_untimed (Condition.untimed_carryTimes ..) hactive rfl⟩

/-- The active condition of a report has the reason and the message of the report. -/
theorem Condition.grounds_of_active {now : Moment} {active : ConditionType}
    {reason message : String} {x : Condition}
    (h : x ∈ (report now active reason message).map untimed) (hx : x.active = true) :
    x.type = active ∧ x.reason = some reason ∧ x.message = some message := by
  obtain ⟨y, hy, rfl⟩ := List.mem_map.1 h
  obtain ⟨t, -, rfl⟩ := List.mem_map.1 hy
  by_cases ht : t = active
  · simp [untimed, ht]
  · simp [untimed, ht] at hx

/-- If everything together is in trouble, something is. -/
theorem Health.degraded_of_aggregate {now : Moment} {healths : List Health} {x : Condition}
    (h : x.untimed ∈ (aggregate now healths).map Condition.untimed) (htype : x.type = .degraded)
    (hactive : x.active = true) : ∃ reason message, .degraded reason message ∈ healths ∧
      x.reason = some reason ∧ x.message = some message := by
  unfold aggregate at h
  split at h
  · next reason message hfirst =>
    obtain ⟨health, hmem, hhealth⟩ := List.exists_of_findSome?_eq_some hfirst
    cases health with
    | degraded reason' message' =>
      obtain ⟨rfl, rfl⟩ := Prod.mk.inj (Option.some.inj hhealth)
      obtain ⟨-, hgrounds⟩ := Condition.grounds_of_active h hactive
      exact ⟨reason', message', hmem, hgrounds⟩
    | _ => cases hhealth
  · cases htype.symm.trans (Condition.grounds_of_active h hactive).1
  · cases htype.symm.trans (Condition.grounds_of_active h hactive).1

namespace Pass

variable {p : Pass} {c c' : Cluster} {k : Component} {ks : List Component} {e : Error}

/-! ## Passes over an instance that is to stay -/

/-- A walk always ends, if only with a failure. -/
theorem build_total (p : Pass) (ts : List (Component × Resource)) (c : Cluster) :
    ∃ failure c', p.build ts c = .ok failure c' := by
  induction ts generalizing c with
  | nil => exact ⟨none, c, rfl⟩
  | cons t ts ih =>
    obtain ⟨k, r⟩ := t
    cases hrun : (p.apply r : StoreM Cluster Applied) c with
    | ok a c₁ =>
      obtain ⟨failure, c', hrest⟩ := ih c₁
      exact ⟨failure, c', (build_of_ok hrun).trans hrest⟩
    | error e c₁ => exact ⟨_, c₁, build_of_error hrun⟩

/-- A pass over its components finds something out in silence, tells it and ends as it says. -/
theorem runComponents_run (hi : Table.get? c.instances p.subject.id = some p.subject) :
    ∃ failure c₀ c₁, p.build p.worklist c = .ok failure c₀ ∧ c₀.Called c₁ ∧ Silent c c₁ ∧
      Within (fun _ => True) c c₁ ∧
      let f := p.finding c₀ failure
      (p.runComponents p.components : StoreM Cluster Unit).answer c = f.answer ∧
        (p.runComponents p.components : StoreM Cluster Unit).after c =
          p.told c₁ (f.conditions? (.reading c.step)) := by
  obtain ⟨failure, c₀, hbuild⟩ := p.build_total p.worklist c
  obtain ⟨c₁, hcalled, hcheck⟩ := check_run hbuild
  have hwithin := (within_admits.check p).of_ok hcheck
  have hi₁ : Table.get? c₁.instances p.subject.id = some p.subject := by
    rw [hwithin.instances]
    exact hi
  refine ⟨failure, c₀, c₁, hbuild, hcalled, (silent_admits.check p).of_ok hcheck, hwithin, ?_⟩
  intro f
  have hrun : p.runComponents p.components c = p.tell f c₁ :=
    (runComponents_check hi).trans (bind_of_ok hcheck)
  have htell := tell_run hi₁ f
  rw [hwithin.step] at htell
  cases hanswer : f.answer with
  | ok u =>
    rw [hanswer] at htell
    exact ⟨answer_ok (hrun.trans htell), after_ok (hrun.trans htell)⟩
  | error e =>
    rw [hanswer] at htell
    exact ⟨answer_error (hrun.trans htell), after_error (hrun.trans htell)⟩

/-- The component `k` of the pass fails, after all before it have succeeded. -/
def FailsAt (p : Pass) (c : Cluster) (k : Component) (e : Error) : Prop :=
  ∃ before after c₁ c₂, p.components = before ++ k :: after ∧
    p.runComponents before c = .ok () c₁ ∧ p.runComponent k c₁ = .error e c₂

/-- A report of an error is made as far as that succeeds. -/
theorem reportError_ok (p : Pass) (reason : String) (e : Error) (c : Cluster) :
    ∃ c', p.reportError reason e c = .ok () c' := by
  unfold reportError
  by_cases h : e.isConflict = true
  · simp only [h, Bool.not_true, Bool.false_eq_true, if_false]
    exact ⟨c, rfl⟩
  · simp only [h, Bool.not_false, if_true]
    have hclock : (readClock : StoreM Cluster Moment) c = .ok (.reading c.step) c := rfl
    rw [bind_of_ok hclock]
    cases hwrite : (writeConditions p.subject
        (Condition.degraded (.reading c.step) reason e.message) : StoreM Cluster Bool) c with
    | ok written c' => exact ⟨c', bind_of_ok (attempt_of_ok hwrite)⟩
    | error e' c' => exact ⟨c', bind_of_ok (attempt_of_error hwrite)⟩

/-- Where components fail, one of them was the first to do so, and it was reported. -/
theorem runComponents_error (h : p.runComponents ks c = .error e c') :
    ∃ before k after c₁ c₂, ks = before ++ k :: after ∧ p.runComponents before c = .ok () c₁ ∧
      p.runComponent k c₁ = .error e c₂ ∧ p.reportFailure k e c₂ = .ok () c' := by
  induction ks generalizing c with
  | nil => cases h
  | cons k ks ih =>
    cases hrun : (p.runComponent k : StoreM Cluster Unit) c with
    | ok _ c₁ =>
      rw [runComponents_of_ok hrun] at h
      obtain ⟨before, k', after, c₂, c₃, rfl, hbefore, hfailed, hreported⟩ := ih h
      exact ⟨k :: before, k', after, c₂, c₃, rfl, (runComponents_of_ok hrun).trans hbefore, hfailed,
        hreported⟩
    | error e₁ c₂ =>
      -- The report cannot fail, so the components end with the error that was reported.
      obtain ⟨c₃, hreported⟩ := p.reportError_ok (k.toText ++ "Failed") e₁ c₂
      rw [runComponents_of_error hrun] at h
      cases (bind_of_ok hreported).symm.trans h
      exact ⟨[], k, ks, c, c₂, rfl, rfl, hrun, hreported⟩

/-- Components in front of another one are made of resources. -/
theorem ne_status_of_mem_before {before after : List Component}
    (h : p.components = before ++ k :: after) : ∀ d ∈ before, d ≠ .status := by
  have hchain : ∀ d ∈ Component.chain.dropLast, d ≠ .status := by decide
  have hbuilders : ∀ d ∈ p.builders, d ≠ .status := fun d hd => hchain d (List.mem_filter.1 hd).1
  -- The status is the last of all components, so whatever is in front of one is a builder.
  rw [components_eq] at h
  rcases List.append_eq_append_iff.1 h with ⟨mid, hbefore, hrest⟩ | ⟨mid, hbefore, -⟩
  · cases mid with
    | nil =>
      rw [hbefore, List.append_nil]
      exact hbuilders
    | cons d mid => simp at hrest
  · rw [hbefore] at hbuilders
    exact fun d hd => hbuilders d (List.mem_append_left _ hd)

theorem runComponent_of_ne (hk : k ≠ .status) :
    (p.runComponent k : StoreM Cluster Unit) = p.applyAll (p.managed k) := by
  cases k with
  | status => exact absurd rfl hk
  | _ => rfl

/-- Components that consist of resources succeed by applying these. -/
theorem applyAll_of_runComponents (hks : ∀ k ∈ ks, k ≠ .status)
    (h : p.runComponents ks c = .ok () c') :
    (p.applyAll (ks.flatMap p.managed) : StoreM Cluster Unit) c = .ok () c' := by
  induction ks generalizing c with
  | nil => exact h
  | cons k ks ih =>
    obtain ⟨hk, hks⟩ := List.forall_mem_cons.1 hks
    cases hrun : (p.runComponent k : StoreM Cluster Unit) c with
    | ok _ c₁ =>
      rw [runComponents_of_ok hrun] at h
      rw [runComponent_of_ne hk] at hrun
      rw [List.flatMap_cons, applyAll_append]
      exact (bind_of_ok hrun).trans (ih hks h)
    | error e c₁ =>
      rw [runComponents_of_error hrun] at h
      obtain ⟨_, _, -, hthrow⟩ := bind_ok.1 h
      cases hthrow

theorem runComponents_within (hks : ∀ k ∈ ks, k ≠ .status) {u : Unit}
    (h : p.runComponents ks c = .ok u c') : Within (fun _ => True) c c' :=
  (p.applyAll_within _).of_ok (applyAll_of_runComponents hks h)

/-- A component that fails has not changed the instance. -/
theorem runComponent_within (hi : Table.get? c.instances p.subject.id = some p.subject)
    (h : p.runComponent k c = .error e c') : Within (fun _ => True) c c' := by
  by_cases hk : k = .status
  · subst hk
    rcases bind_error.1 h with hupdate | ⟨_, _, -, ⟨⟩⟩
    rcases bind_error.1 hupdate with hinspect | ⟨healths, c₁, hinspect, hwrite⟩
    · exact ((p.inspect_removed _).of_error hinspect).toWithin
    · have hread : Within (fun _ => True) c c₁ := ((p.inspect_removed _).of_ok hinspect).toWithin
      have hi₁ : Table.get? c₁.instances p.subject.id = some p.subject := by
        rw [hread.instances]
        exact hi
      obtain ⟨written, hrun⟩ :=
        writeConditions_run hi₁ (Health.aggregate (.reading c₁.step) healths)
      cases hrun.symm.trans hwrite
  · rw [runComponent_of_ne hk] at h
    exact (p.applyAll_within _).of_error h

/-- A pass that fails tells of the component that has failed. -/
theorem runComponents_fails (hi : Table.get? c.instances p.subject.id = some p.subject)
    (h : p.runComponents p.components c = .error e c') :
    ∃ k c₁, p.FailsAt c k e ∧ Within (fun _ => True) c c₁ ∧ c' = p.told c₁
      (if e.isConflict then none
        else some (Condition.degraded (.reading c.step) (k.toText ++ "Failed") e.message)) := by
  obtain ⟨before, k, after, c₁, c₂, hsplit, hbefore, hfailed, hreported⟩ := runComponents_error h
  have hwithin := runComponents_within (ne_status_of_mem_before hsplit) hbefore
  have hi₁ : Table.get? c₁.instances p.subject.id = some p.subject := by
    rw [hwithin.instances]
    exact hi
  have hwithin₂ := hwithin.trans (runComponent_within hi₁ hfailed)
  have hi₂ : Table.get? c₂.instances p.subject.id = some p.subject := by
    rw [hwithin₂.instances]
    exact hi
  refine ⟨k, c₂, ⟨before, after, c₁, c₂, hsplit, hbefore, hfailed⟩, hwithin₂, ?_⟩
  have hrun := reportError_run hi₂ (k.toText ++ "Failed") e
  rw [hwithin₂.step] at hrun
  cases hrun.symm.trans hreported
  rfl

/-- An instance that is told of conditions reports them, for the generation that was seen. -/
theorem told_reported (hi : Table.get? c.instances p.subject.id = some p.subject)
    {conditions : List Condition} (hnodup : (conditions.map Condition.untimed).Nodup) :
    ∃ j, Table.get? (p.told c (some conditions)).instances p.subject.id = some j ∧
      j.observedGeneration = p.subject.metadata.generation ∧
      (j.conditions.map Condition.untimed).Perm (conditions.map Condition.untimed) := by
  obtain ⟨j, hj, hessence, hreported⟩ := told_subject hi (some conditions)
  obtain ⟨hgeneration, hperm⟩ := Instance.perm_of_reports hnodup (hreported conditions rfl)
  have hseen := Instance.eq_of_essence (fun i => i.metadata.generation) (fun _ => rfl) hessence
  exact ⟨j, hj, hgeneration.trans hseen, hperm⟩

/-- The health of resources is that of single ones. -/
theorem mapM_ok {rs : List Resource} {f : Resource → Except Error Health} {healths : List Health}
    (h : rs.mapM f = .ok healths) {health : Health} (hmem : health ∈ healths) :
    ∃ r ∈ rs, f r = .ok health := by
  have hok : .ok health ∈ rs.map f := by
    rw [mapM_eq_ok_iff.1 h]
    exact List.mem_map_of_mem hmem
  exact List.mem_map.1 hok

/-- The health that a pass finds is that of an object that is there. -/
theorem classified_of_surveyed {failure : Option (Component × Error)} {healths : List Health}
    (h : p.finding c failure = .surveyed healths) {health : Health} (hmem : health ∈ healths) :
    ∃ r ∈ p.deployed,
      Health.classify (p.keyOf r) (Table.get? c.objects (p.keyOf r)) = .ok health := by
  cases failure with
  | some failure => cases h
  | none =>
    unfold finding at h
    dsimp only at h
    cases hhealths : p.deployed.mapM (p.healthOn c) with
    | error e =>
      rw [hhealths] at h
      cases h
    | ok found =>
      rw [hhealths] at h
      cases h
      obtain ⟨r, hr, heq⟩ := mapM_ok hhealths hmem
      unfold healthOn at heq
      cases hinjected : c.injected? .get (p.keyOf r) with
      | some e =>
        rw [hinjected] at heq
        cases heq
      | none =>
        rw [hinjected] at heq
        exact ⟨r, hr, heq⟩

end Pass

namespace Context

variable {ctx : Context} {i : Instance} {c c' : Cluster} {e : Error}

/-! ## Passes over an instance that is to go -/

/-- The ways of a pass over an instance that is to go: its clearing fails, or has to be waited for,
or is done, and the finalizer is taken off. -/
theorem finalVisit_ways (ctx : Context) (hi : Table.get? c.instances i.id = some i)
    (hheld : i.hasFinalizer = true) :
    ∃ c₁, Silent c c₁ ∧ Within (fun _ => True) c c₁ ∧
      ((∃ e, ctx.finalVisit i c = .error e ((ctx.pass i).told c₁
          (if e.isConflict then none
            else some (Condition.degraded (.reading c.step) e.reason e.message)))) ∨
        (∃ d, ctx.finalVisit i c = .ok (.requeue d) c₁) ∨
        let called := (c₁.record (.one .update i.id)).bump
        ctx.finalVisit i c =
          .ok .await
            ((called.putInstance i.id (called.adopt i i.removeFinalizer)).collect i.id)) := by
  have hfinalize := congrFun (Pass.finalize_eq (ctx.pass i)) c
  cases hrun : (ctx.pass i).clear c with
  | error e c₁ =>
    have hwithin := (within_admits.clear (ctx.pass i)).of_error hrun
    have hi₁ : Table.get? c₁.instances i.id = some i := by rw [hwithin.instances, hi]
    have hreport := Pass.reportError_run (p := ctx.pass i) hi₁ e.reason e
    rw [hwithin.step] at hreport
    refine ⟨c₁, (silent_admits.clear _).of_error hrun, hwithin, Or.inl ⟨e, ?_⟩⟩
    rw [bind_of_error hrun] at hfinalize
    rw [finalVisit_of_error hfinalize]
    exact bind_of_ok hreport
  | ok wait c₁ =>
    have hwithin := (within_admits.clear (ctx.pass i)).of_ok hrun
    have hi₁ : Table.get? c₁.instances i.id = some i := by rw [hwithin.instances, hi]
    refine ⟨c₁, (silent_admits.clear _).of_ok hrun, hwithin, Or.inr ?_⟩
    rw [bind_of_ok hrun] at hfinalize
    cases wait with
    | some d => exact Or.inl ⟨d, finalVisit_of_ok hfinalize⟩
    | none =>
      exact Or.inr (finalVisit_of_ok
        (hfinalize.trans (Pass.release_of_stored (p := ctx.pass i) hi₁ hheld)))

/-! ## Visits -/

/-- What a visit tells, whatever else it does. -/
theorem visit_tells (ctx : Context) (hi : Table.get? c.instances i.id = some i) :
    ∃ told, Tells i told c ((ctx.visit i.id : StoreM Cluster Action).after c) ∧
      ∀ conditions, told = some conditions → Condition.Reportable (.reading c.step) conditions := by
  have hread : Silent c (c.record (.one .get i.id)) := writes_record (.one .get i.id) (by simp) rfl
  cases hdeleting : i.isDeleting with
  | false =>
    have hvisit := ctx.visit_of_live hi hdeleting
    cases hheld : i.hasFinalizer with
    | false =>
      rw [after_ok (hvisit.trans (ctx.livePass_of_unheld hi hdeleting hheld))]
      exact ⟨none, hread.adopt_tells rfl _, nofun⟩
    | true =>
      obtain ⟨failure, c₀, c₁, -, -, hsilent, hwithin, -, hafter⟩ :=
        Pass.runComponents_run (p := ctx.pass i) (c := c.record (.one .get i.id)) hi
      rw [after_congr hvisit, livePass_of_held hheld, after_bind_pure, hafter]
      exact ⟨_, (trans_of _ hread hsilent).told_tells (p := ctx.pass i) hwithin.instances hi _,
        fun _ => Finding.reportable⟩
  | true =>
    cases hheld : i.hasFinalizer with
    | false =>
      rw [after_ok (ctx.visit_of_unheld hi hdeleting hheld)]
      exact ⟨none, hread.tells hi rfl, nofun⟩
    | true =>
      have hvisit := ctx.visit_of_deleting hi hdeleting hheld
      obtain ⟨c₁, hsilent, hwithin, ⟨e, hrun⟩ | ⟨d, hrun⟩ | hrun⟩ :=
        ctx.finalVisit_ways (c := c.record (.one .get i.id)) hi hheld
      · rw [after_error (hvisit.trans hrun)]
        refine ⟨_, (trans_of _ hread hsilent).told_tells (p := ctx.pass i) hwithin.instances hi _,
          fun conditions hconditions => ?_⟩
        split at hconditions
        · cases hconditions
        · obtain rfl := Option.some.inj hconditions
          exact ⟨.degraded, _, _, by decide, rfl⟩
      · rw [after_ok (hvisit.trans hrun)]
        exact ⟨none, (trans_of _ hread hsilent).tells hi hwithin.instances, nofun⟩
      -- The release writes the instance, but not its status.
      · rw [after_ok (hvisit.trans hrun)]
        exact ⟨none, ((trans_of _ hread hsilent).adopt_tells hwithin.instances _).collect, nofun⟩

/-- A visit makes one report at most. If it makes one, it leaves a proper status, and otherwise it
leaves the status as it is. -/
theorem visit_reports (ctx : Context) (hi : Table.get? c.instances i.id = some i) :
    let c' := (ctx.visit i.id : StoreM Cluster Action).after c
    ∃ calls, c'.calls = c.calls ++ calls ∧
      (calls.filter Call.isReport = [] ∧
          (∀ j, Table.get? c'.instances i.id = some j → j.status = i.status) ∨
        calls.filter Call.isReport = [.one .status i.id] ∧
          ∃ j s, Table.get? c'.instances i.id = some j ∧ j.status = some s ∧
            s.Proper i.metadata.generation) := by
  intro c'
  obtain ⟨told, htells, hreportable⟩ := ctx.visit_tells hi
  obtain ⟨calls, hcalls, hreports⟩ := htells.calls
  refine ⟨calls, hcalls, ?_⟩
  cases hlearns : i.learns told with
  | false =>
    rw [hlearns] at hreports
    have hstatus := htells.status
    rw [Instance.statusAfter_of_known hlearns] at hstatus
    exact Or.inl ⟨hreports, hstatus⟩
  | true =>
    rw [hlearns] at hreports
    obtain ⟨j, hj⟩ := htells.stays hlearns
    obtain ⟨s, hs, hproper⟩ := Instance.statusAfter_proper hlearns hreportable
    exact Or.inr ⟨hreports, j, s, hj, (htells.status j hj).trans hs, hproper⟩

/-- A visit that fails tells why, unless it is for a conflict. -/
theorem visit_tells_failure (hi : Table.get? c.instances i.id = some i)
    (hheld : i.hasFinalizer = true) (h : ctx.visit i.id c = .error e c') :
    ∃ reason c₁, c₁.instances = c.instances ∧
      c' = (ctx.pass i).told c₁ (if e.isConflict then none
        else some (Condition.degraded (.reading c.step) reason e.message)) ∧
      (i.isDeleting = true → reason = e.reason) ∧
      (i.isDeleting = false → ∃ k, (ctx.pass i).FailsAt (c.record (.one .get i.id)) k e ∧
        reason = k.toText ++ "Failed") := by
  cases hdeleting : i.isDeleting with
  | false =>
    rw [ctx.visit_of_live hi hdeleting, livePass_of_held hheld] at h
    rcases bind_error.1 h with hfailed | ⟨_, _, -, ⟨⟩⟩
    obtain ⟨k, c₁, hk, hwithin, rfl⟩ :=
      Pass.runComponents_fails (p := ctx.pass i) (c := c.record (.one .get i.id)) hi hfailed
    exact ⟨_, c₁, hwithin.instances, rfl, nofun, fun _ => ⟨k, hk, rfl⟩⟩
  | true =>
    rw [ctx.visit_of_deleting hi hdeleting hheld] at h
    obtain ⟨c₁, -, hwithin, ⟨e', hrun⟩ | ⟨d, hrun⟩ | hrun⟩ :=
      ctx.finalVisit_ways (c := c.record (.one .get i.id)) hi hheld
    · cases hrun.symm.trans h
      exact ⟨e.reason, c₁, hwithin.instances, rfl, fun _ => rfl, nofun⟩
    · cases hrun.symm.trans h
    · cases hrun.symm.trans h

/-- What an instance reports after a visit that has failed. -/
theorem visit_fails (hi : Table.get? c.instances i.id = some i) (hheld : i.hasFinalizer = true)
    (h : ctx.visit i.id c = .error e c') :
    ∃ j, Table.get? c'.instances i.id = some j ∧
      (e.isConflict = true → j.status = i.status) ∧
      (e.isConflict = false → j.observedGeneration = i.metadata.generation ∧
        ∃ reason, (j.conditions.map Condition.untimed).Perm
            ((Condition.degraded (.reading c.step) reason e.message).map Condition.untimed) ∧
          (i.isDeleting = true → reason = e.reason) ∧
          (i.isDeleting = false → ∃ k, (ctx.pass i).FailsAt (c.record (.one .get i.id)) k e ∧
            reason = k.toText ++ "Failed")) := by
  obtain ⟨reason, c₁, hinstances, rfl, hdeleting, hlive⟩ := visit_tells_failure hi hheld h
  have hi₁ : Table.get? c₁.instances i.id = some i := by rw [hinstances, hi]
  cases hconflict : e.isConflict with
  | true => exact ⟨i, hi₁, fun _ => rfl, nofun⟩
  | false =>
    obtain ⟨j, hj, hgeneration, hperm⟩ := Pass.told_reported (p := ctx.pass i) hi₁
      (Condition.report_nodup (.reading c.step) .degraded reason e.message)
    exact ⟨j, hj, nofun, fun _ => ⟨hgeneration, reason, hperm, hdeleting, hlive⟩⟩

/-- A visit to an instance that is to stay tells of the health of everything if it succeeds. -/
theorem visit_surveys {a : Action} (hi : Table.get? c.instances i.id = some i)
    (hlive : i.isDeleting = false) (hheld : i.hasFinalizer = true)
    (h : ctx.visit i.id c = .ok a c') :
    ∃ healths c₁, c₁.instances = c.instances ∧
      c' = (ctx.pass i).told c₁ (some (Health.aggregate (.reading c.step) healths)) ∧
      ∀ health ∈ healths, ∃ r ∈ (ctx.pass i).deployed,
        Health.classify ((ctx.pass i).keyOf r)
          (Table.get? c'.objects ((ctx.pass i).keyOf r)) = .ok health := by
  rw [ctx.visit_of_live hi hlive, livePass_of_held hheld] at h
  obtain ⟨_, c₂, hrun, hpure⟩ := bind_ok.1 h
  cases hpure
  obtain ⟨failure, c₀, c₁, -, ⟨calls, rfl⟩, -, hwithin, hanswer, hafter⟩ :=
    Pass.runComponents_run (p := ctx.pass i) (c := c.record (.one .get i.id)) hi
  rw [answer_ok hrun] at hanswer
  rw [after_ok hrun] at hafter
  cases hfinding : (ctx.pass i).finding c₀ failure with
  | failed k e =>
    rw [hfinding] at hanswer
    cases hanswer
  | surveyed healths =>
    rw [hfinding] at hafter
    refine ⟨healths, _, hwithin.instances, hafter, fun health hmem => ?_⟩
    obtain ⟨r, hr, hclassified⟩ := Pass.classified_of_surveyed hfinding hmem
    refine ⟨r, hr, ?_⟩
    rw [hafter, (Pass.told_objects ..).1]
    exact hclassified

/-- After a visit that has succeeded, an instance that is to stay reports that it is degraded only
if one of its resources is. -/
theorem visit_succeeds {a : Action} (hi : Table.get? c.instances i.id = some i)
    (hlive : i.isDeleting = false) (hheld : i.hasFinalizer = true)
    (h : ctx.visit i.id c = .ok a c') :
    let p := ctx.pass i
    ∃ j, Table.get? c'.instances i.id = some j ∧
      ∀ x ∈ j.conditions, x.type = .degraded → x.active = true →
        ∃ r ∈ p.deployed, ∃ reason message, x.reason = some reason ∧ x.message = some message ∧
          Health.classify (p.keyOf r) (Table.get? c'.objects (p.keyOf r)) =
            .ok (.degraded reason message) := by
  intro p
  obtain ⟨healths, c₁, hinstances, htold, hclassified⟩ := visit_surveys hi hlive hheld h
  have hi₁ : Table.get? c₁.instances i.id = some i := by rw [hinstances, hi]
  obtain ⟨j, hj, -, hperm⟩ := Pass.told_reported (p := p) hi₁
    (Finding.conditions?_nodup (f := .surveyed healths) rfl)
  refine ⟨j, by rw [htold]; exact hj, fun x hx htype hactive => ?_⟩
  obtain ⟨reason, message, hmem, hreason, hmessage⟩ := Health.degraded_of_aggregate
    (hperm.subset (List.mem_map_of_mem hx)) htype hactive
  obtain ⟨r, hr, hclass⟩ := hclassified _ hmem
  exact ⟨r, hr, reason, message, hreason, hmessage, hclass⟩

/-- How the status of an instance agrees with the outcome of a pass over it. The instance holds the
finalizer, and the pass may meet with whatever objects and failures there are.

* The pass writes at most one report, which is a proper status for the generation that it has seen.
  Without a report the status stays.
* If the pass fails for a conflict, the status stays. If it fails for anything else, the instance
  reports that it is degraded, with the text of the error; the reason is that of the error if the
  instance is to go, and names the component that has failed if it is to stay.
* If the instance is to stay and the pass succeeds, the instance reports that it is degraded only if
  one of its resources is. -/
theorem reconcile_reports (settings : Settings) (op : Operator Cluster) (i : Instance)
    (hi : Table.get? op.store.instances i.id = some i) (hheld : i.hasFinalizer = true) :
    let ctx : Context := { settings }
    let p := ctx.pass i
    let op' := StoreM.after (σ := Operator Cluster) (ctx.reconcileInstance i.id) op
    let answer := StoreM.answer (σ := Operator Cluster) (ctx.reconcileInstance i.id) op
    let stored (j : Instance) := Table.get? op'.store.instances i.id = some j
    (∃ calls, op'.store.calls = op.store.calls ++ calls ∧
      (calls.filter Call.isReport = [] ∧ (∀ j, stored j → j.status = i.status) ∨
        calls.filter Call.isReport = [.one .status i.id] ∧
          ∃ j s, stored j ∧ j.status = some s ∧ s.Proper i.metadata.generation)) ∧
    (∀ e, answer = .error e → ∃ j, stored j ∧
      (e.isConflict = true → j.status = i.status) ∧
      (e.isConflict = false → j.observedGeneration = i.metadata.generation ∧
        ∃ reason, (j.conditions.map Condition.untimed).Perm
            ((Condition.degraded (.reading op.store.step) reason e.message).map
              Condition.untimed) ∧
          (i.isDeleting = true → reason = e.reason) ∧
          (i.isDeleting = false → ∃ k, p.FailsAt (op.store.record (.one .get i.id)) k e ∧
            reason = k.toText ++ "Failed"))) ∧
    (∀ a, answer = .ok a → i.isDeleting = false → ∃ j, stored j ∧
      ∀ x ∈ j.conditions, x.type = .degraded → x.active = true →
        ∃ r ∈ p.deployed, ∃ reason message, x.reason = some reason ∧ x.message = some message ∧
          Health.classify (p.keyOf r) (Table.get? op'.store.objects (p.keyOf r)) =
            .ok (.degraded reason message)) := by
  intro ctx p op' answer stored
  have htracks := ctx.reconcileInstance_tracks (σ := Cluster) i.id
  have hstore : op'.store = (ctx.visit i.id : StoreM Cluster Action).after op.store :=
    htracks.store_after op
  have hanswer : answer = (ctx.visit i.id : StoreM Cluster Action).answer op.store :=
    htracks.answer_eq op
  simp only [stored, hstore]
  refine ⟨ctx.visit_reports hi, fun e he => ?_, fun a ha hlive => ?_⟩
  · have hrun := run_of_failure (hanswer.symm.trans he)
    exact visit_fails hi hheld hrun
  · have hrun := run_of_answer (hanswer.symm.trans ha)
    exact visit_succeeds hi hlive hheld hrun

/-- The first service account cannot be created, and the instance says so. -/
theorem reconcile_reports_of_refused :
    let bare := Instance.bare ⟨"nfd", "nfd"⟩
    let i : Instance := { bare with
      metadata := { bare.metadata with uid := some "u", generation := some 3 } }.addFinalizer
    let key := Key.namespaced .serviceAccount "nfd" "nfd-master"
    let ctx : Context := { settings := {} }
    let op : Operator Cluster :=
      { store := { instances := [(i.id, i)], failures := [((.create, key), 500)] } }
    let op' := StoreM.after (σ := Operator Cluster) (ctx.reconcileInstance i.id) op
    let e : Error := .object "create" key (refusal 500 "Injected")
    ∃ j, Table.get? op'.store.instances i.id = some j ∧ j.observedGeneration = some 3 ∧
      ∃ reason, (j.conditions.map Condition.untimed).Perm
        ((Condition.degraded (.reading 0) reason e.message).map Condition.untimed) := by
  intro bare i key ctx op op' e
  have hi : Table.get? op.store.instances i.id = some i := by decide +kernel
  have hanswer :
      StoreM.answer (σ := Operator Cluster) (ctx.reconcileInstance i.id) op = .error e := by
    decide +kernel
  obtain ⟨j, hj, -, hreported⟩ := (reconcile_reports {} op i hi (by decide)).2.1 e hanswer
  obtain ⟨hgeneration, reason, hperm, -⟩ := hreported (by decide)
  exact ⟨j, hj, hgeneration, reason, hperm⟩

end Context

end NodeFeatureOperator
