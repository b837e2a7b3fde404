import NodeFeatureOperator.Proofs.Classification
import NodeFeatureOperator.Proofs.Outcome

/-!
# The health that an instance reports

The status of an instance is made out of the diagnoses of all resources of its deployment. One in
trouble outweighs all that are on their way, and of several the first one is named. What comes first
among the diagnoses comes first among the resources (`Health.findSome?_of_mapM`), so the main result
(`Pass.updateStatus_publishes`) can speak of the resources alone: what the instance reports, that it
is their health, and when nothing can be reported.
-/

namespace NodeFeatureOperator

open Cluster StoreM

/-! ## One active condition -/

namespace Condition

variable {now : Moment} {active : ConditionType} {reason message : String}
  {conditions : List Condition}

theorem filter_report (now : Moment) (active : ConditionType) (reason message : String) :
    (report now active reason message).filter (·.active)
      = [⟨some now, active, true, some reason, some message⟩] := by
  cases active <;> rfl

/-- Whoever has the conditions of a report in some order has the same active one. -/
theorem active_of_perm (h : (conditions.map untimed).Perm
      ((report now active reason message).map untimed)) :
    ∃ x, conditions.filter (·.active) = [x] ∧ x.type = active ∧ x.reason = some reason ∧
      x.message = some message := by
  have hfilter (l : List Condition) :
      (l.map untimed).filter (·.active) = (l.filter (·.active)).map untimed := List.filter_map ..
  have hactive := h.filter (·.active)
  rw [hfilter, hfilter, filter_report] at hactive
  obtain ⟨x, hx, hsame⟩ := List.map_eq_singleton_iff.1 (List.perm_singleton.1 hactive)
  refine ⟨x, hx, ?_⟩
  exact ⟨congrArg Condition.type hsame, congrArg Condition.reason hsame,
    congrArg Condition.message hsame⟩

end Condition

/-! ## Health of several resources -/

namespace Health

variable {healths healths' : List Health} {now : Moment}

/-- Reason and message of a resource in trouble. -/
def trouble? : Health → Option (String × String)
  | degraded reason message => some (reason, message)
  | _ => none

/-- Reason and message of a resource on its way. -/
def delay? : Health → Option (String × String)
  | progressing reason message => some (reason, message)
  | _ => none

theorem trouble?_eq_some {h : Health} {reason message : String} :
    h.trouble? = some (reason, message) ↔ h = degraded reason message := by
  cases h <;> simp [trouble?]

theorem delay?_eq_some {h : Health} {reason message : String} :
    h.delay? = some (reason, message) ↔ h = progressing reason message := by
  cases h <;> simp [delay?]

section

variable {rs : List Resource} {f : Resource → Except Error Health} {P : Resource → Prop}
  {grounds? : Health → Option (String × String)} {mk : String → String → Health}
  {reason message : String}

/-- What is found first among diagnoses is found at the first of the resources. -/
theorem findSome?_of_mapM {β : Type} (h : rs.mapM f = .ok healths) (g : Health → Option β) :
    healths.findSome? g = rs.findSome? fun r => (f r).toOption.bind g := by
  have hmap := congrArg (List.findSome? fun v => v.toOption.bind g) (Pass.mapM_eq_ok_iff.1 h)
  rw [List.findSome?_map, List.findSome?_map] at hmap
  exact hmap.symm

-- The two kinds of health that have grounds, trouble and delay, only differ in `grounds?` and `mk`.
variable (h : rs.mapM f = .ok healths)
  (hgrounds : ∀ {health reason message},
    grounds? health = some (reason, message) ↔ health = mk reason message)
  (hP : ∀ r, P r ↔ ∃ reason message, f r = .ok (mk reason message))

include hgrounds in
theorem toOption_bind_eq_some {v : Except Error Health} :
    v.toOption.bind grounds? = some (reason, message) ↔ v = .ok (mk reason message) := by
  cases v <;> simp [Except.toOption, hgrounds]

include h hgrounds hP

/-- Grounds that are found are those of the first resource of the kind. -/
theorem exists_isFirst_of_found (hfound : healths.findSome? grounds? = some (reason, message)) :
    ∃ r, IsFirst P rs r ∧ f r = .ok (mk reason message) := by
  rw [findSome?_of_mapM h] at hfound
  obtain ⟨r, hfirst, hr⟩ := isFirst_of_findSome? hfound
  refine ⟨r, hfirst.congr fun r => ?_, (toOption_bind_eq_some hgrounds).1 hr⟩
  simp only [Prod.exists, toOption_bind_eq_some hgrounds, hP]

/-- Where no grounds are found, there is no resource of the kind. -/
theorem not_of_not_found (hnone : healths.findSome? grounds? = none) : ∀ r ∈ rs, ¬ P r := by
  intro r hr hPr
  obtain ⟨reason, message, hdiagnosis⟩ := (hP r).1 hPr
  rw [findSome?_of_mapM h, List.findSome?_eq_none_iff] at hnone
  cases (hnone r hr).symm.trans ((toOption_bind_eq_some hgrounds).2 hdiagnosis)

end

/-- Whether anything is found does not depend on the order. -/
theorem isSome_findSome?_of_perm {β : Type} (h : healths.Perm healths') (g : Health → Option β) :
    (healths.findSome? g).isSome = (healths'.findSome? g).isSome := by
  rw [Bool.eq_iff_iff, List.findSome?_isSome_iff, List.findSome?_isSome_iff]
  simp only [h.mem_iff]

/-- What becomes active is a matter of what is found at all. -/
theorem active_aggregate (now : Moment) (healths : List Health) :
    ((aggregate now healths).filter (·.active)).map (·.type) =
      [if (firstDegraded? healths).isSome then .degraded
        else if (firstProgressing? healths).isSome then .progressing else .available] := by
  unfold aggregate Condition.degraded Condition.progressing Condition.available
  cases firstDegraded? healths with
  | some grounds => simp [Condition.filter_report]
  | none => cases firstProgressing? healths <;> simp [Condition.filter_report]

theorem active_aggregate_of_perm (h : healths.Perm healths') (now : Moment) :
    ((aggregate now healths).filter (·.active)).map (·.type)
      = ((aggregate now healths').filter (·.active)).map (·.type) := by
  have hdegraded : (firstDegraded? healths).isSome = (firstDegraded? healths').isSome :=
    isSome_findSome?_of_perm h _
  have hprogressing : (firstProgressing? healths).isSome = (firstProgressing? healths').isSome :=
    isSome_findSome?_of_perm h _
  rw [active_aggregate, active_aggregate, hdegraded, hprogressing]

end Health

namespace Pass

variable {p : Pass} {c : Cluster} {r : Resource} {rs : List Resource} {healths : List Health}
  {e : Error}

/-! ## Resources -/

/-- The diagnosis of a resource as it is stored. -/
def diagnosis (p : Pass) (c : Cluster) (r : Resource) : Except Error Health :=
  Health.classify (p.keyOf r) (Table.get? c.objects (p.keyOf r))

/-- A resource is there and, if it is a workload, available. -/
def Ready (p : Pass) (c : Cluster) (r : Resource) : Prop :=
  ∃ o, Table.get? c.objects (p.keyOf r) = some o ∧
    (o.kind = .daemonSet ∨ o.kind = .deployment → p.diagnosis c r = .ok .available)

/-- A resource is in trouble. -/
def Troubled (p : Pass) (c : Cluster) (r : Resource) : Prop :=
  ∃ reason message, p.diagnosis c r = .ok (.degraded reason message)

/-- A resource is missing or on its way. -/
def Delayed (p : Pass) (c : Cluster) (r : Resource) : Prop :=
  Table.get? c.objects (p.keyOf r) = none ∨
    ∃ reason message, p.diagnosis c r = .ok (.progressing reason message)

/-- A resource cannot be looked up, or there is no diagnosis of it. -/
def Obscure (p : Pass) (c : Cluster) (r : Resource) (e : Error) : Prop :=
  c.injected? .get (p.keyOf r) = some e ∨
    c.injected? .get (p.keyOf r) = none ∧ p.diagnosis c r = .error e

theorem ready_iff : p.Ready c r ↔ p.diagnosis c r = .ok .available := by
  unfold Ready diagnosis
  cases Table.get? c.objects (p.keyOf r) with
  | none => simp [Health.classify]
  | some o =>
    refine ⟨?_, fun h => ⟨o, rfl, fun _ => h⟩⟩
    rintro ⟨o', ho, hworkload⟩
    obtain rfl := Option.some.inj ho
    by_cases hkind : o.kind = .daemonSet ∨ o.kind = .deployment
    · exact hworkload hkind
    · exact Health.classify_of_other _ hkind

theorem delayed_iff : p.Delayed c r ↔
    ∃ reason message, p.diagnosis c r = .ok (.progressing reason message) := by
  unfold Delayed diagnosis
  cases Table.get? c.objects (p.keyOf r) with
  | none => simp [Health.classify]
  | some o => simp

theorem Ready.not_troubled (h : p.Ready c r) : ¬ p.Troubled c r := by
  rintro ⟨reason, message, htroubled⟩
  cases (ready_iff.1 h).symm.trans htroubled

theorem Ready.not_delayed (h : p.Ready c r) : ¬ p.Delayed c r := by
  intro hdelayed
  obtain ⟨reason, message, hdelayed⟩ := delayed_iff.1 hdelayed
  cases (ready_iff.1 h).symm.trans hdelayed

/-- A resource with a diagnosis is ready, in trouble or on its way. -/
theorem ready_of_diagnosis {health : Health} (h : p.diagnosis c r = .ok health)
    (htroubled : ¬ p.Troubled c r) (hdelayed : ¬ p.Delayed c r) : p.Ready c r := by
  cases health with
  | available => exact ready_iff.2 h
  | progressing reason message => exact absurd (delayed_iff.2 ⟨reason, message, h⟩) hdelayed
  | degraded reason message => exact absurd ⟨reason, message, h⟩ htroubled

theorem healthOn_eq_error : p.healthOn c r = .error e ↔ p.Obscure c r e := by
  unfold healthOn Obscure diagnosis
  cases c.injected? .get (p.keyOf r) <;> simp

theorem diagnosis_of_healthOn {health : Health} (h : p.healthOn c r = .ok health) :
    p.diagnosis c r = .ok health := by
  unfold healthOn at h
  cases hinjected : c.injected? .get (p.keyOf r) with
  | some e =>
    rw [hinjected] at h
    cases h
  | none =>
    rw [hinjected] at h
    exact h

theorem exists_ok_of_mapM {f : Resource → Except Error Health} (h : rs.mapM f = .ok healths)
    (hr : r ∈ rs) : ∃ health, f r = .ok health := by
  have hmem : f r ∈ healths.map .ok := by
    rw [← mapM_eq_ok_iff.1 h]
    exact List.mem_map_of_mem hr
  obtain ⟨health, -, hhealth⟩ := List.mem_map.1 hmem
  exact ⟨health, hhealth.symm⟩

theorem diagnoses_of_mapM (h : p.deployed.mapM (p.healthOn c) = .ok healths) :
    p.deployed.mapM (p.diagnosis c) = .ok healths := by
  refine (mapM_congr fun r hr => ?_).trans h
  obtain ⟨health, hhealth⟩ := exists_ok_of_mapM h hr
  rw [hhealth, diagnosis_of_healthOn hhealth]

theorem mapM_of_updateStatus {written : Bool} {c' : Cluster}
    (h : (p.updateStatus : StoreM Cluster Bool) c = .ok written c') :
    ∃ healths, p.deployed.mapM (p.healthOn c) = .ok healths := by
  obtain ⟨c₁, -, hinspect⟩ := p.inspect_run p.deployed c
  cases hhealths : p.deployed.mapM (p.healthOn c) with
  | ok healths => exact ⟨healths, rfl⟩
  | error e =>
    rw [hhealths] at hinspect
    cases (bind_of_error hinspect).symm.trans h

/-- A look around ends at the first resource of which nothing can be said. -/
theorem inspect_error {before after : List Resource}
    (hbefore : ∀ b ∈ before, ∃ health, p.healthOn c b = .ok health)
    (hr : p.healthOn c r = .error e) :
    (p.inspect (before ++ r :: after) : StoreM Cluster (List Health)) c = .error e
      { c with calls := c.calls ++ (before ++ [r]).map fun r => .object .get (p.keyOf r) } := by
  induction before generalizing c with
  | nil =>
    have hlook := p.look_run r c
    rw [hr] at hlook
    rw [List.nil_append, inspect_cons]
    exact bind_of_error hlook
  | cons b before ih =>
    obtain ⟨⟨health, hb⟩, hbefore⟩ := List.forall_mem_cons.1 hbefore
    have hlook := p.look_run b c
    have hsame : p.healthOn (c.record (.object .get (p.keyOf b))) = p.healthOn c :=
      healthOn_congr rfl rfl
    rw [hb] at hlook
    rw [← hsame] at hbefore hr
    rw [List.cons_append, inspect_cons, bind_of_ok hlook, bind_of_error (ih hbefore hr)]
    simp [Cluster.record]

/-! ## What is reported -/

/-- The condition says of the resources of a deployment how they are. -/
structure Published (p : Pass) (c : Cluster) (x : Condition) : Prop where
  available : x.type = .available ↔ ∀ r ∈ p.deployed, p.Ready c r
  degraded : x.type = .degraded ↔ ∃ r ∈ p.deployed, p.Troubled c r
  otherwise : x.type = .available ∨ x.type = .degraded ∨ x.type = .progressing
  trouble : x.type = .degraded → ∃ r reason message, IsFirst (p.Troubled c) p.deployed r ∧
    p.diagnosis c r = .ok (.degraded reason message) ∧
    x.reason = some reason ∧ x.message = some message
  delay : x.type = .progressing → ∃ r reason message, IsFirst (p.Delayed c) p.deployed r ∧
    p.diagnosis c r = .ok (.progressing reason message) ∧
    x.reason = some reason ∧ x.message = some message

namespace Published

variable {x : Condition} {reason message : String}

theorem of_troubled (hfirst : IsFirst (p.Troubled c) p.deployed r)
    (hr : p.diagnosis c r = .ok (.degraded reason message)) (htype : x.type = .degraded)
    (hgrounds : x.reason = some reason ∧ x.message = some message) : p.Published c x where
  available := by
    rw [htype]
    exact ⟨nofun, fun hready => absurd hfirst.holds (hready r hfirst.mem).not_troubled⟩
  degraded := ⟨fun _ => ⟨r, hfirst.mem, hfirst.holds⟩, fun _ => htype⟩
  otherwise := Or.inr (Or.inl htype)
  trouble _ := ⟨r, reason, message, hfirst, hr, hgrounds⟩
  delay h := by cases htype.symm.trans h

theorem of_delayed (hfree : ∀ r ∈ p.deployed, ¬ p.Troubled c r)
    (hfirst : IsFirst (p.Delayed c) p.deployed r)
    (hr : p.diagnosis c r = .ok (.progressing reason message)) (htype : x.type = .progressing)
    (hgrounds : x.reason = some reason ∧ x.message = some message) : p.Published c x where
  available := by
    rw [htype]
    exact ⟨nofun, fun hready => absurd hfirst.holds (hready r hfirst.mem).not_delayed⟩
  degraded := by
    rw [htype]
    exact ⟨nofun, fun ⟨r, hr, htroubled⟩ => absurd htroubled (hfree r hr)⟩
  otherwise := Or.inr (Or.inr htype)
  trouble h := by cases htype.symm.trans h
  delay _ := ⟨r, reason, message, hfirst, hr, hgrounds⟩

theorem of_ready (hready : ∀ r ∈ p.deployed, p.Ready c r) (htype : x.type = .available) :
    p.Published c x where
  available := ⟨fun _ => hready, fun _ => htype⟩
  degraded := by
    rw [htype]
    exact ⟨nofun, fun ⟨r, hr, htroubled⟩ => absurd htroubled (hready r hr).not_troubled⟩
  otherwise := Or.inl htype
  trouble h := by cases htype.symm.trans h
  delay h := by cases htype.symm.trans h

end Published

/-- What everything adds up to says of the resources how they are. -/
theorem published_of_aggregate {now : Moment} {conditions : List Condition}
    (h : p.deployed.mapM (p.diagnosis c) = .ok healths)
    (hperm : (conditions.map Condition.untimed).Perm
      ((Health.aggregate now healths).map Condition.untimed)) :
    ∃ x, conditions.filter (·.active) = [x] ∧ p.Published c x := by
  have htroubled : ∀ r, p.Troubled c r ↔ _ := fun r => Iff.rfl
  have hdelayed : ∀ r, p.Delayed c r ↔ _ := fun r => delayed_iff
  unfold Health.aggregate at hperm
  cases hdegraded : Health.firstDegraded? healths with
  | some grounds =>
    rw [hdegraded] at hperm
    obtain ⟨x, hx, htype, hgrounds⟩ := Condition.active_of_perm hperm
    obtain ⟨r, hfirst, hr⟩ :=
      Health.exists_isFirst_of_found h Health.trouble?_eq_some htroubled hdegraded
    exact ⟨x, hx, .of_troubled hfirst hr htype hgrounds⟩
  | none =>
    have hfree := Health.not_of_not_found h Health.trouble?_eq_some htroubled hdegraded
    cases hprogressing : Health.firstProgressing? healths with
    | some grounds =>
      rw [hdegraded, hprogressing] at hperm
      obtain ⟨x, hx, htype, hgrounds⟩ := Condition.active_of_perm hperm
      obtain ⟨r, hfirst, hr⟩ :=
        Health.exists_isFirst_of_found h Health.delay?_eq_some hdelayed hprogressing
      exact ⟨x, hx, .of_delayed hfree hfirst hr htype hgrounds⟩
    | none =>
      have hprompt := Health.not_of_not_found h Health.delay?_eq_some hdelayed hprogressing
      rw [hdegraded, hprogressing] at hperm
      obtain ⟨x, hx, htype, -⟩ := Condition.active_of_perm hperm
      refine ⟨x, hx, .of_ready (fun r hr => ?_) htype⟩
      obtain ⟨health, hhealth⟩ := exists_ok_of_mapM h hr
      exact ready_of_diagnosis hhealth (hfree r hr) (hprompt r hr)

/-- An update of the status succeeds unless something about the resources is obscure. -/
theorem updateStatus_ok_iff (hi : Table.get? c.instances p.subject.id = some p.subject) :
    (∃ written c', (p.updateStatus : StoreM Cluster Bool) c = .ok written c') ↔
      ∀ r ∈ p.deployed, ¬ ∃ e, p.Obscure c r e := by
  constructor
  · rintro ⟨written, c', hupdate⟩ r hr ⟨e, he⟩
    obtain ⟨healths, hhealths⟩ := mapM_of_updateStatus hupdate
    obtain ⟨health, hhealth⟩ := exists_ok_of_mapM hhealths hr
    cases hhealth.symm.trans (healthOn_eq_error.2 he)
  · intro hclear
    cases hhealths : p.deployed.mapM (p.healthOn c) with
    | ok healths =>
      obtain ⟨written, c₁, -, -, hupdate⟩ := updateStatus_tells hi hhealths
      exact ⟨written, _, hupdate⟩
    | error e =>
      obtain ⟨r, hr, he⟩ := mapM_error hhealths
      exact absurd ⟨e, healthOn_eq_error.1 he⟩ (hclear r hr)

/-- Otherwise it ends with what is the matter with the first resource that is obscure, after it has
done nothing but look. -/
theorem updateStatus_of_obscure (h : ∃ r ∈ p.deployed, ∃ e, p.Obscure c r e) :
    ∃ r e, ∃ looked : List Resource,
      IsFirst (fun r => ∃ e, p.Obscure c r e) p.deployed r ∧ p.Obscure c r e ∧
      (p.updateStatus : StoreM Cluster Bool) c = .error e { c with
        calls := c.calls ++ looked.map fun r => .object .get (p.keyOf r) } := by
  obtain ⟨r, hfirst⟩ := exists_isFirst h
  obtain ⟨e, he⟩ := hfirst.holds
  obtain ⟨before, after, hsplit, hbefore⟩ := hfirst.split
  have hclear : ∀ b ∈ before, ∃ health, p.healthOn c b = .ok health := by
    intro b hb
    cases hhealth : p.healthOn c b with
    | ok health => exact ⟨health, rfl⟩
    | error e => exact absurd ⟨e, healthOn_eq_error.1 hhealth⟩ (hbefore b hb)
  have hinspect : (p.inspect p.deployed : StoreM Cluster (List Health)) c = _ :=
    hsplit ▸ inspect_error hclear (healthOn_eq_error.2 he)
  exact ⟨r, e, before ++ [r], hfirst, he, bind_of_error hinspect⟩

/-- What an update of the status publishes.

* It succeeds unless there is a resource that cannot be looked up or diagnosed. Then it ends with
  the error for the first of these, after it has done nothing but look.
* If it succeeds, one condition of the instance is active. It says that the deployment is available
  if every resource is there and every workload available, that it is degraded if some resource is
  in trouble, on the grounds of the first of these, and otherwise that it is progressing, on the
  grounds of the first resource that is missing or on its way.
* Which condition that is does not depend on the order of the resources. -/
theorem updateStatus_publishes (hi : Table.get? c.instances p.subject.id = some p.subject) :
    let update := (p.updateStatus : StoreM Cluster Bool) c
    let obscure (r : Resource) := ∃ e, p.Obscure c r e
    ((∃ written c', update = .ok written c') ↔ ∀ r ∈ p.deployed, ¬ obscure r) ∧
    ((∃ r ∈ p.deployed, obscure r) → ∃ r e, ∃ looked : List Resource,
      IsFirst obscure p.deployed r ∧ p.Obscure c r e ∧
      update = .error e { c with
        calls := c.calls ++ looked.map fun r => .object .get (p.keyOf r) }) ∧
    (∀ written c', update = .ok written c' → ∃ j x,
      Table.get? c'.instances p.subject.id = some j ∧ j.conditions.filter (·.active) = [x] ∧
      p.Published c x) ∧
    (∀ healths healths' now, List.Perm healths healths' →
      ((Health.aggregate now healths).filter (·.active)).map (·.type)
        = ((Health.aggregate now healths').filter (·.active)).map (·.type)) := by
  intro update obscure
  refine ⟨updateStatus_ok_iff hi, updateStatus_of_obscure, ?_, ?_⟩
  · intro written c' hupdate
    obtain ⟨healths, hhealths⟩ := mapM_of_updateStatus hupdate
    obtain ⟨written', _, ⟨calls, rfl⟩, -, htold⟩ := updateStatus_tells hi hhealths
    cases htold.symm.trans hupdate
    obtain ⟨j, hj, -, hperm⟩ := told_reported (c := { c with calls }) hi
      (Finding.conditions?_nodup (f := .surveyed healths) rfl)
    obtain ⟨x, hx, hpublished⟩ := published_of_aggregate (diagnoses_of_mapM hhealths) hperm
    exact ⟨j, x, hj, hx, hpublished⟩
  · exact fun _ _ now hperm => Health.active_aggregate_of_perm hperm now

/-- Where nothing is there yet, the instance waits for the first resource. Where that cannot be
looked up, nothing is reported. -/
theorem updateStatus_publishes_of_empty :
    let i := Instance.bare ⟨"nfd", "nfd"⟩
    let p := ({ settings := {} } : Context).pass i
    let policy : Resource := ⟨.securityContextConstraints, "nfd-worker"⟩
    let c : Cluster := { instances := [(i.id, i)] }
    let refusing := { c with failures := [((.get, p.keyOf policy), 500)] }
    Table.get? c.instances p.subject.id = some p.subject ∧
      (∃ e looked, (p.updateStatus : StoreM Cluster Bool) refusing = .error e
        { refusing with calls := refusing.calls ++ looked }) ∧
      ∃ c' j x, (p.updateStatus : StoreM Cluster Bool) c = .ok true c' ∧
        Table.get? c'.instances p.subject.id = some j ∧ j.conditions.filter (·.active) = [x] ∧
        x.type = .progressing ∧ x.reason = some "ResourceMissing" := by
  intro i p policy c refusing
  have hi : Table.get? c.instances p.subject.id = some p.subject := by decide +kernel
  have hmem : policy ∈ p.deployed := by decide +kernel
  have hrefused : p.Obscure refusing policy (.object "get" (p.keyOf policy)
      (refusal 500 "Injected")) := Or.inl rfl
  obtain ⟨_, _, looked, -, -, herror⟩ :=
    (updateStatus_publishes (c := refusing) hi).2.1 ⟨policy, hmem, _, hrefused⟩
  have hanswer : (p.updateStatus : StoreM Cluster Bool).answer c = .ok true := by decide +kernel
  have hrun := run_of_answer hanswer
  obtain ⟨j, x, hj, hx, hpublished⟩ := (updateStatus_publishes hi).2.2.1 _ _ hrun
  have hmissing (r : Resource) : p.diagnosis c r = .ok (.progressing "ResourceMissing"
      ((p.keyOf r).toText ++ " does not exist yet")) := rfl
  have htype : x.type = .progressing := by
    rcases hpublished.otherwise with htype | htype | htype
    · obtain ⟨o, ho, -⟩ := hpublished.available.1 htype policy hmem
      cases ho
    · obtain ⟨r, -, reason, message, hr⟩ := hpublished.degraded.1 htype
      cases (hmissing r).symm.trans hr
    · exact htype
  obtain ⟨r, reason, message, -, hr, hreason, -⟩ := hpublished.delay htype
  cases (hmissing r).symm.trans hr
  exact ⟨hi, ⟨_, _, herror⟩, _, j, x, hrun, hj, hx, htype, hreason⟩

end Pass

end NodeFeatureOperator
