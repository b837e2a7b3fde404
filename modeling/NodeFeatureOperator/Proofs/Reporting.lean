import Mathlib.Data.List.Perm.Subperm
import NodeFeatureOperator.Proofs.Deploying

/-!
# What a pass reports

After the walk over its resources a pass looks at the health of all of them (`Pass.check`) and
reports what it has found out (`Pass.tell`). A report is the same whenever it is made, up to the
times of its conditions and their order, and an instance that has it does not get it again
(`Instance.reports`).
-/

namespace NodeFeatureOperator

open Cluster StoreM

/-! ## Conditions up to their times -/

namespace Condition

variable {old new new' : List Condition}

/-- A condition without its time. -/
def untimed (c : Condition) : Condition := { c with lastTransition := none }

theorem sameAs_iff {a b : Condition} : a.sameAs b = true ↔ a.untimed = b.untimed := by
  obtain ⟨t, type, active, reason, message⟩ := a
  obtain ⟨t', type', active', reason', message'⟩ := b
  simp [sameAs, untimed, and_assoc]

/-- To carry times over changes nothing but times. -/
theorem untimed_carryTimes (old new : List Condition) :
    (carryTimes old new).map untimed = new.map untimed := by
  unfold carryTimes
  rw [List.map_map]
  refine List.map_congr_left fun c _ => ?_
  unfold Function.comp carryTime
  split <;> rfl

theorem changed_eq_false_iff : changed old new = false ↔
    old.length = new.length ∧ ∀ n ∈ new.map untimed, n ∈ old.map untimed := by
  unfold changed
  simp only [ne_eq, Bool.or_eq_false_iff, decide_eq_false_iff_not, Decidable.not_not,
    List.any_eq_false, Bool.not_eq_true', sameAs_iff, not_forall, exists_prop, List.mem_map,
    forall_exists_index, and_imp, forall_apply_eq_imp_iff₂]

/-- Whether a report says anything new does not depend on its times. -/
theorem changed_congr (h : new.map untimed = new'.map untimed) :
    changed old new = changed old new' := by
  have hlength : new.length = new'.length := by
    rw [← List.length_map (f := untimed), h, List.length_map]
  rw [Bool.eq_iff_iff, ← Bool.not_eq_false, ← Bool.not_eq_false, changed_eq_false_iff,
    changed_eq_false_iff, h, hlength]

/-- For conditions that differ, the test from one side finds out whether the others are the same in
some order. -/
theorem changed_eq_false_iff_perm (hnodup : (new.map untimed).Nodup) :
    changed old new = false ↔ (old.map untimed).Perm (new.map untimed) := by
  rw [changed_eq_false_iff]
  constructor
  · rintro ⟨hlength, hsub⟩
    refine ((List.subperm_of_subset hnodup hsub).perm_of_length_le ?_).symm
    rw [List.length_map, List.length_map]
    exact Nat.le_of_eq hlength
  · intro hperm
    refine ⟨?_, hperm.symm.subset⟩
    rw [← List.length_map (f := untimed), hperm.length_eq, List.length_map]

theorem untimed_report (now now' : Moment) (active : ConditionType) (reason message : String) :
    (report now active reason message).map untimed
      = (report now' active reason message).map untimed := by
  unfold report
  rw [List.map_map, List.map_map]
  refine List.map_congr_left fun t _ => ?_
  dsimp only [Function.comp]
  split <;> rfl

theorem report_nodup (now : Moment) (active : ConditionType) (reason message : String) :
    ((report now active reason message).map untimed).Nodup := by
  refine List.Nodup.of_map (fun c => c.type) ?_
  have htypes : ((report now active reason message).map untimed).map (fun c => c.type)
      = ConditionType.all := by
    unfold report
    rw [List.map_map, List.map_map]
    refine (List.map_congr_left fun t _ => ?_).trans (List.map_id _)
    dsimp only [Function.comp]
    split <;> rfl
  rw [htypes]
  decide

end Condition

/-- Whatever the health of a deployment is, it adds up to a report of one active condition. -/
theorem Health.aggregate_eq (healths : List Health) :
    ∃ active reason message, ∀ now,
      Health.aggregate now healths = Condition.report now active reason message := by
  unfold Health.aggregate
  split
  · exact ⟨_, _, _, fun _ => rfl⟩
  · exact ⟨_, _, _, fun _ => rfl⟩
  · exact ⟨_, _, _, fun _ => rfl⟩

/-! ## Instances with a report -/

namespace Instance

variable {i j : Instance} {conditions conditions' : List Condition}

theorem reports_congr (h : conditions.map Condition.untimed = conditions'.map Condition.untimed) :
    i.reports conditions = i.reports conditions' := by
  unfold reports
  rw [Condition.changed_congr h]

/-- An instance has a report if it has the same conditions in some order and is about its
generation. -/
theorem reports_iff (hnodup : (conditions.map Condition.untimed).Nodup) :
    i.reports conditions = true ↔
      (i.conditions.map Condition.untimed).Perm (conditions.map Condition.untimed) ∧
        i.observedGeneration = i.metadata.generation := by
  unfold reports
  rw [Bool.and_eq_true, Bool.not_eq_true', Condition.changed_eq_false_iff_perm hnodup,
    decide_eq_true_eq]

theorem perm_of_reports (hnodup : (conditions.map Condition.untimed).Nodup)
    (h : i.reports conditions = true) : i.observedGeneration = i.metadata.generation ∧
      (i.conditions.map Condition.untimed).Perm (conditions.map Condition.untimed) :=
  ((reports_iff hnodup).1 h).symm

/-- A report that was written is there. -/
theorem reports_report (c : Cluster) (i : Instance) (conditions : List Condition) :
    (c.report i (i.withReport conditions)).reports conditions = true := by
  unfold reports
  rw [Bool.and_eq_true, Bool.not_eq_true']
  refine ⟨?_, decide_eq_true rfl⟩
  change Condition.changed (Condition.carryTimes i.conditions conditions) conditions = false
  rw [Condition.changed_eq_false_iff, Condition.untimed_carryTimes]
  exact ⟨List.length_map .., fun n hn => hn⟩

end Instance

/-! ## Writing a report -/

/-- A report that an instance has already is not written. -/
theorem writeConditions_of_reports {i : Instance} {conditions : List Condition}
    (h : i.reports conditions = true) (c : Cluster) :
    (writeConditions i conditions : StoreM Cluster Bool) c = .ok false c := by
  unfold writeConditions
  rw [if_pos h]
  rfl

/-- Any other report is written to an instance that has just been read. -/
theorem writeConditions_of_news {i : Instance} {conditions : List Condition} {c : Cluster}
    (hi : Table.get? c.instances i.id = some i) (h : ¬ i.reports conditions = true) :
    (writeConditions i conditions : StoreM Cluster Bool) c =
      let called := (c.record (.one .status i.id)).bump
      .ok true (called.putInstance i.id (called.report i (i.withReport conditions))) := by
  have hfresh : isStale (i.withReport conditions).metadata i.metadata = false := isStale_self _
  have hupdate := updateStatus_run (i.withReport conditions) c
  rw [show (i.withReport conditions).id = i.id from rfl, hi] at hupdate
  simp only [hfresh, Bool.false_eq_true, if_false] at hupdate
  unfold writeConditions
  rw [if_neg h]
  exact bind_of_ok hupdate

/-! ## Findings -/

/-- What a pass finds out: what failed and why, or the health of everything. -/
inductive Finding where
  | failed (component : Component) (e : Error)
  | surveyed (healths : List Health)

namespace Finding

/-- The report on a finding. Conflicts are not reported. -/
def conditions? (now : Moment) : Finding → Option (List Condition)
  | failed k e =>
    if e.isConflict then none else some (Condition.degraded now (k.toText ++ "Failed") e.message)
  | surveyed healths => some (Health.aggregate now healths)

/-- How a pass with this finding ends. -/
def answer : Finding → Except Error Unit
  | failed _ e => .error e
  | surveyed _ => .ok ()

/-- A finding is either never reported or always as the same report, up to its times. -/
theorem conditions?_eq (f : Finding) : (∀ now, f.conditions? now = none) ∨
    ∃ active reason message, ∀ now,
      f.conditions? now = some (Condition.report now active reason message) := by
  cases f with
  | failed k e =>
    by_cases h : e.isConflict = true
    · exact Or.inl fun now => if_pos h
    · exact Or.inr ⟨_, _, _, fun now => if_neg h⟩
  | surveyed healths =>
    obtain ⟨active, reason, message, heq⟩ := Health.aggregate_eq healths
    exact Or.inr ⟨active, reason, message, fun now => congrArg some (heq now)⟩

theorem conditions?_nodup {f : Finding} {now : Moment} {conditions : List Condition}
    (h : f.conditions? now = some conditions) : (conditions.map Condition.untimed).Nodup := by
  rcases f.conditions?_eq with hnone | ⟨active, reason, message, heq⟩
  · cases (hnone now).symm.trans h
  · obtain rfl := Option.some.inj ((heq now).symm.trans h)
    exact Condition.report_nodup ..

/-- The same finding is reported in the same way at another time. -/
theorem conditions?_untimed {f : Finding} {now : Moment} {conditions : List Condition}
    (h : f.conditions? now = some conditions) (now' : Moment) : ∃ conditions',
      f.conditions? now' = some conditions' ∧
        conditions'.map Condition.untimed = conditions.map Condition.untimed := by
  rcases f.conditions?_eq with hnone | ⟨active, reason, message, heq⟩
  · cases (hnone now).symm.trans h
  · obtain rfl := Option.some.inj ((heq now).symm.trans h)
    exact ⟨_, heq now', Condition.untimed_report ..⟩

end Finding

namespace Pass

section

variable {σ : Type} [Store σ]

/-- Brings everything up and looks at the health of all of it. -/
def check (p : Pass) : StoreM σ Finding := do
  match ← p.build p.worklist with
  | some (k, e) => return .failed k e
  | none =>
    match ← StoreM.attempt (p.inspect p.deployed) with
    | .ok healths => return .surveyed healths
    | .error e => return .failed .status e

/-- Reports on a finding and ends as it says. -/
def tell (p : Pass) : Finding → StoreM σ Unit
  | .failed k e => do
    p.reportFailure k e
    throw e
  | .surveyed healths => do
    let now ← readClock
    let _ ← writeConditions p.subject (Health.aggregate now healths)

end

variable {p : Pass} {c c' : Cluster}

/-! ## Reporting -/

/-- The cluster after a report on the instance of the pass, which it has just read. -/
def told (p : Pass) (c : Cluster) : Option (List Condition) → Cluster
  | none => c
  | some conditions =>
    if p.subject.reports conditions then c
    else
      let c' := (c.record (.one .status p.subject.id)).bump
      c'.putInstance p.subject.id (c'.report p.subject (p.subject.withReport conditions))

theorem told_objects (p : Pass) (c : Cluster) (conditions : Option (List Condition)) :
    (p.told c conditions).objects = c.objects ∧ (p.told c conditions).failures = c.failures := by
  cases conditions with
  | none => exact ⟨rfl, rfl⟩
  | some conditions =>
    unfold told
    dsimp only
    split
    · exact ⟨rfl, rfl⟩
    · exact ⟨rfl, rfl⟩

/-- Only the instance of the pass is reported on. -/
theorem told_others (p : Pass) (c : Cluster) (conditions : Option (List Condition))
    {id : InstanceId} (hid : id ≠ p.subject.id) :
    Table.get? (p.told c conditions).instances id = Table.get? c.instances id := by
  cases conditions with
  | none => rfl
  | some conditions =>
    unfold told
    dsimp only
    split
    · rfl
    · exact (Table.get?_insert ..).trans (if_neg (Ne.symm hid))

/-- The instance of the pass has the report and is otherwise the same. -/
theorem told_subject (hi : Table.get? c.instances p.subject.id = some p.subject)
    (conditions : Option (List Condition)) :
    ∃ j, Table.get? (p.told c conditions).instances p.subject.id = some j ∧
      j.essence = p.subject.essence ∧ ∀ cs, conditions = some cs → j.reports cs = true := by
  cases conditions with
  | none => exact ⟨p.subject, hi, rfl, nofun⟩
  | some conditions =>
    unfold told
    dsimp only
    split
    · next h =>
      refine ⟨p.subject, hi, rfl, fun cs hcs => ?_⟩
      rwa [← Option.some.inj hcs]
    · refine ⟨_, Table.get?_insert_self .., rfl, fun cs hcs => ?_⟩
      rw [← Option.some.inj hcs]
      exact Instance.reports_report ..

/-- Nothing is to be told of what the instance reports already. -/
theorem told_of_reports {conditions : Option (List Condition)}
    (h : ∀ cs, conditions = some cs → p.subject.reports cs = true) :
    p.told c conditions = c := by
  cases conditions with
  | none => rfl
  | some conditions => exact if_pos (h conditions rfl)

theorem writeConditions_run (hi : Table.get? c.instances p.subject.id = some p.subject)
    (conditions : List Condition) :
    ∃ written, (writeConditions p.subject conditions : StoreM Cluster Bool) c =
      .ok written (p.told c (some conditions)) := by
  unfold told
  by_cases h : p.subject.reports conditions = true
  · simp only [h, if_true]
    exact ⟨false, writeConditions_of_reports h c⟩
  · simp only [h]
    exact ⟨true, writeConditions_of_news hi h⟩

/-- An error is reported to the instance, which the pass has just read, unless it is a conflict. -/
theorem reportError_run (hi : Table.get? c.instances p.subject.id = some p.subject)
    (reason : String) (e : Error) :
    p.reportError reason e c = .ok () (p.told c
      (if e.isConflict then none
        else some (Condition.degraded (.reading c.step) reason e.message))) := by
  have hclock : (readClock : StoreM Cluster Moment) c = .ok (.reading c.step) c := rfl
  unfold reportError
  by_cases h : e.isConflict = true
  · simp only [h, Bool.not_true, Bool.false_eq_true, if_false, if_true]
    rfl
  · simp only [h, Bool.not_false, if_true]
    obtain ⟨written, hrun⟩ :=
      writeConditions_run hi (Condition.degraded (.reading c.step) reason e.message)
    exact (bind_of_ok hclock).trans (bind_of_ok (attempt_of_ok hrun))

/-- To tell of a finding ends as the finding says, with the report on it. -/
theorem tell_run (hi : Table.get? c.instances p.subject.id = some p.subject) (f : Finding) :
    p.tell f c =
      match f.answer with
      | .ok _ => .ok () (p.told c (f.conditions? (.reading c.step)))
      | .error e => .error e (p.told c (f.conditions? (.reading c.step))) := by
  have hclock : (readClock : StoreM Cluster Moment) c = .ok (.reading c.step) c := rfl
  cases f with
  | surveyed healths =>
    obtain ⟨written, hrun⟩ := writeConditions_run hi (Health.aggregate (.reading c.step) healths)
    exact (bind_of_ok hclock).trans (bind_of_ok hrun)
  | failed k e => exact bind_of_ok (reportError_run hi (k.toText ++ "Failed") e)

/-! ## Looking around -/

section

variable {rs : List Resource} {f g : Resource → Except Error Health} {e : Error}

/-- The health of resources goes by that of each of them. -/
theorem mapM_congr (h : ∀ r ∈ rs, f r = g r) : rs.mapM f = rs.mapM g := by
  induction rs with
  | nil => rfl
  | cons r rs ih =>
    obtain ⟨hr, hrs⟩ := List.forall_mem_cons.1 h
    rw [List.mapM_cons, List.mapM_cons, hr, ih hrs]

/-- The health of resources can be told if that of every one of them can be told. -/
theorem mapM_eq_ok_iff {healths : List Health} :
    rs.mapM f = .ok healths ↔ rs.map f = healths.map .ok := by
  induction rs generalizing healths with
  | nil => cases healths <;> simp [pure, Except.pure]
  | cons r rs ih =>
    rw [List.mapM_cons, List.map_cons]
    cases f r with
    | error e => cases healths <;> simp [bind, Except.bind]
    | ok health =>
      cases healths with
      | nil => cases hrs : rs.mapM f <;> simp [bind, Except.bind, pure, Except.pure]
      | cons first healths =>
        rw [List.map_cons, List.cons.injEq, ← ih]
        cases rs.mapM f <;> simp [bind, Except.bind, pure, Except.pure]

/-- The health of resources cannot be told if that of one of them cannot be told. -/
theorem mapM_error (h : rs.mapM f = .error e) : ∃ r ∈ rs, f r = .error e := by
  induction rs with
  | nil => cases h
  | cons r rs ih =>
    rw [List.mapM_cons] at h
    cases hr : f r with
    | error e' =>
      rw [hr] at h
      cases h
      exact ⟨r, List.mem_cons_self, hr⟩
    | ok health =>
      rw [hr] at h
      cases hrs : rs.mapM f with
      | error e' =>
        rw [hrs] at h
        cases h
        obtain ⟨r', hr', heq⟩ := ih hrs
        exact ⟨r', List.mem_cons_of_mem _ hr', heq⟩
      | ok healths =>
        rw [hrs] at h
        cases h

end

/-- The health of a resource as a look at it tells, if the look does not fail. -/
def healthOn (p : Pass) (c : Cluster) (r : Resource) : Except Error Health :=
  match c.injected? .get (p.keyOf r) with
  | some e => .error e
  | none => Health.classify (p.keyOf r) (Table.get? c.objects (p.keyOf r))

theorem healthOn_congr (hfailures : c'.failures = c.failures) (hobjects : c'.objects = c.objects) :
    p.healthOn c' = p.healthOn c := by
  funext r
  unfold healthOn
  rw [injected?_congr hfailures, hobjects]

/-- A look at one resource leaves nothing behind but a call on record. -/
theorem look_run (p : Pass) (r : Resource) (c : Cluster) :
    (do
      let o ← Store.get (p.keyOf r)
      StoreM.ofExcept (Health.classify (p.keyOf r) o) : StoreM Cluster Health) c =
      match p.healthOn c r with
      | .ok health => .ok health (c.record (.object .get (p.keyOf r)))
      | .error e => .error e (c.record (.object .get (p.keyOf r))) := by
  have hget := get_run (p.keyOf r) c
  unfold healthOn
  cases hinjected : c.injected? .get (p.keyOf r) with
  | some e =>
    rw [hinjected] at hget
    exact bind_of_error hget
  | none =>
    rw [hinjected] at hget
    rw [bind_of_ok hget]
    cases Health.classify (p.keyOf r) (Table.get? c.objects (p.keyOf r)) <;> rfl

/-- To look around is to look at one resource after the other. -/
theorem inspect_cons (p : Pass) (r : Resource) (rs : List Resource) :
    (p.inspect (r :: rs) : StoreM Cluster (List Health)) = (do
      let health ← (do
        let o ← Store.get (p.keyOf r)
        StoreM.ofExcept (Health.classify (p.keyOf r) o))
      let healths ← p.inspect rs
      return health :: healths) := by
  rw [bind_assoc]
  rfl

theorem inspect_run (p : Pass) (rs : List Resource) (c : Cluster) :
    ∃ c', c.Called c' ∧ (p.inspect rs : StoreM Cluster (List Health)) c =
      match rs.mapM (p.healthOn c) with
      | .ok healths => .ok healths c'
      | .error e => .error e c' := by
  induction rs generalizing c with
  | nil => exact ⟨c, refl_of _ c, rfl⟩
  | cons r rs ih =>
    have hcalled := called_record c (.object .get (p.keyOf r))
    have hlook := p.look_run r c
    rw [inspect_cons, List.mapM_cons]
    cases hhealth : p.healthOn c r with
    | error e =>
      rw [hhealth] at hlook
      exact ⟨_, hcalled, bind_of_error hlook⟩
    | ok health =>
      obtain ⟨c₂, hcalled', hrest⟩ := ih (c.record (.object .get (p.keyOf r)))
      have hsame : p.healthOn (c.record (.object .get (p.keyOf r))) = p.healthOn c :=
        healthOn_congr rfl rfl
      rw [hhealth] at hlook
      rw [hsame] at hrest
      refine ⟨c₂, trans_of _ hcalled hcalled', (bind_of_ok hlook).trans ?_⟩
      cases hhealths : rs.mapM (p.healthOn c) with
      | error e =>
        rw [hhealths] at hrest
        exact bind_of_error hrest
      | ok healths =>
        rw [hhealths] at hrest
        exact bind_of_ok hrest

/-- What a pass finds out on a cluster where its walk ends with a failure or none. -/
def finding (p : Pass) (c : Cluster) : Option (Component × Error) → Finding
  | some (k, e) => .failed k e
  | none =>
    match p.deployed.mapM (p.healthOn c) with
    | .ok healths => .surveyed healths
    | .error e => .failed .status e

/-- To check is to walk over the resources and to look around where the walk has ended. -/
theorem check_run {failure : Option (Component × Error)}
    (h : p.build p.worklist c = .ok failure c') :
    ∃ c'', c'.Called c'' ∧ p.check c = .ok (p.finding c' failure) c'' := by
  cases failure with
  | some failure =>
    obtain ⟨k, e⟩ := failure
    exact ⟨c', refl_of _ c', bind_of_ok h⟩
  | none =>
    obtain ⟨c'', hcalled, hinspect⟩ := p.inspect_run p.deployed c'
    refine ⟨c'', hcalled, (bind_of_ok h).trans ?_⟩
    unfold finding
    cases hhealths : p.deployed.mapM (p.healthOn c') with
    | ok healths =>
      rw [hhealths] at hinspect
      exact bind_of_ok (attempt_of_ok hinspect)
    | error e =>
      rw [hhealths] at hinspect
      exact bind_of_ok (attempt_of_error hinspect)

/-- Where the health of everything can be told, the update of the status tells it. -/
theorem updateStatus_tells {healths : List Health}
    (hi : Table.get? c.instances p.subject.id = some p.subject)
    (h : p.deployed.mapM (p.healthOn c) = .ok healths) :
    ∃ written c₁, c.Called c₁ ∧ p.inspect p.deployed c = .ok healths c₁ ∧
      (p.updateStatus : StoreM Cluster Bool) c =
        .ok written (p.told c₁ (some (Health.aggregate (.reading c.step) healths))) := by
  obtain ⟨c₁, ⟨calls, rfl⟩, hinspect⟩ := p.inspect_run p.deployed c
  rw [h] at hinspect
  obtain ⟨written, hwrite⟩ := writeConditions_run (c := { c with calls }) hi
    (Health.aggregate (.reading c.step) healths)
  have hclock : (readClock : StoreM Cluster Moment) { c with calls }
      = .ok (.reading c.step) { c with calls } := rfl
  exact ⟨written, _, ⟨calls, rfl⟩, hinspect,
    (bind_of_ok hinspect).trans ((bind_of_ok hclock).trans hwrite)⟩

/-! ## The components of a pass -/

/-- The components that consist of resources. -/
def builders (p : Pass) : List Component := Component.chain.dropLast.filter p.enables

theorem components_eq (p : Pass) : p.components = p.builders ++ [.status] := by
  have hchain : Component.chain = Component.chain.dropLast ++ [.status] := rfl
  unfold components builders
  rw [hchain, List.filter_append]
  rfl

theorem worklist_eq (p : Pass) : p.worklist = p.tasks p.builders := by
  unfold worklist tasks
  rw [components_eq, List.flatMap_append]
  exact List.append_nil _

/-- A pass over its components checks and then tells. -/
theorem runComponents_check (hi : Table.get? c.instances p.subject.id = some p.subject) :
    p.runComponents p.components c = (p.check >>= p.tell) c := by
  have hchain : ∀ k ∈ Component.chain.dropLast, k ≠ .status := by decide
  have hbuilders : ∀ k ∈ p.builders, k ≠ .status := fun k hk => hchain k (List.mem_filter.1 hk).1
  rw [components_eq, runComponents_build hbuilders, ← worklist_eq]
  cases hbuild : (p.build p.worklist : StoreM Cluster (Option (Component × Error))) c with
  | error e c₁ =>
    have hcheck : p.check c = .error e c₁ := bind_of_error hbuild
    rw [bind_of_error hbuild, bind_of_error hcheck]
  | ok failure c₁ =>
    have hi₁ : Table.get? c₁.instances p.subject.id = some p.subject := by
      rw [((p.build_within p.worklist).of_ok hbuild).instances]
      exact hi
    rw [bind_of_ok hbuild]
    cases failure with
    | some failure =>
      obtain ⟨k, e⟩ := failure
      have hcheck : p.check c = .ok (.failed k e) c₁ := bind_of_ok hbuild
      rw [bind_of_ok hcheck]
      rfl
    | none =>
      cases hhealths : p.deployed.mapM (p.healthOn c₁) with
      | error e =>
        obtain ⟨c₂, hcalled, hinspect⟩ := p.inspect_run p.deployed c₁
        rw [hhealths] at hinspect
        have hcheck : p.check c = .ok (.failed .status e) c₂ :=
          (bind_of_ok hbuild).trans (bind_of_ok (attempt_of_error hinspect))
        have hstatus : p.runComponent .status c₁ = .error e c₂ :=
          bind_of_error (bind_of_error hinspect)
        rw [bind_of_ok hcheck]
        exact runComponents_of_error hstatus
      | ok healths =>
        obtain ⟨written, _, ⟨calls, rfl⟩, hinspect, hupdate⟩ := updateStatus_tells hi₁ hhealths
        have hcheck : p.check c = .ok (.surveyed healths) { c₁ with calls } :=
          (bind_of_ok hbuild).trans (bind_of_ok (attempt_of_ok hinspect))
        have hstatus : p.runComponent .status c₁ = .ok () (p.told { c₁ with calls }
            (some (Health.aggregate (.reading c₁.step) healths))) := bind_of_ok hupdate
        rw [bind_of_ok hcheck, tell_run (c := { c₁ with calls }) hi₁]
        exact runComponents_of_ok hstatus

end Pass

end NodeFeatureOperator
