import NodeFeatureOperator.Health
import NodeFeatureOperator.Template.Basic

/-!
# What the health of a resource is read off

A daemon set is classified by the numbers of its pods, a deployment by the first condition of each
type that it reports. The candidates for a daemon set exclude each other, so one of them always
holds; those for a deployment can all fail to hold, and two of them can hold at once. The main
result (`Health.classify_exact`) says of every verdict when exactly it is given.
-/

namespace NodeFeatureOperator

/-! ## The first of several -/

section

variable {α : Type} {P Q : α → Prop} {l : List α} {a : α}

/-- The first item of a list that satisfies `P`. -/
structure IsFirst (P : α → Prop) (l : List α) (a : α) : Prop where
  holds : P a
  split : ∃ before after, l = before ++ a :: after ∧ ∀ b ∈ before, ¬ P b

theorem isFirst_iff {p : α → Bool} (hp : ∀ a, p a = true ↔ P a) :
    IsFirst P l a ↔ l.find? p = some a := by
  rw [List.find?_eq_some_iff_append, hp]
  simp only [Bool.not_eq_true', ← Bool.not_eq_true, hp]
  exact ⟨fun h => ⟨h.holds, h.split⟩, fun h => ⟨h.1, h.2⟩⟩

theorem exists_isFirst (h : ∃ a ∈ l, P a) : ∃ a, IsFirst P l a := by
  classical
  obtain ⟨a, ha, hholds⟩ := h
  cases hfind : l.find? fun a => decide (P a) with
  | none => exact absurd (decide_eq_true hholds) (List.find?_eq_none.1 hfind a ha)
  | some first => exact ⟨first, (isFirst_iff fun _ => decide_eq_true_iff).2 hfind⟩

theorem IsFirst.mem (h : IsFirst P l a) : a ∈ l := by
  obtain ⟨before, after, rfl, -⟩ := h.split
  simp

theorem IsFirst.congr (h : IsFirst P l a) (hiff : ∀ a, P a ↔ Q a) : IsFirst Q l a := by
  obtain ⟨hholds, before, after, hsplit, hbefore⟩ := h
  exact ⟨(hiff a).1 hholds, before, after, hsplit, fun b hb => mt (hiff b).2 (hbefore b hb)⟩

/-- What comes of the first item that anything comes of. -/
theorem exists_of_isFirst {β : Type} {R : α → β → Prop} :
    (∃ b a, IsFirst (fun a => ∃ b, R a b) l a ∧ R a b) ↔ ∃ a ∈ l, ∃ b, R a b := by
  constructor
  · rintro ⟨b, a, hfirst, hb⟩
    exact ⟨a, hfirst.mem, b, hb⟩
  · intro h
    obtain ⟨a, hfirst⟩ := exists_isFirst h
    obtain ⟨b, hb⟩ := hfirst.holds
    exact ⟨b, a, hfirst, hb⟩

theorem isFirst_cons {b : α} : IsFirst P (b :: l) a ↔ P b ∧ a = b ∨ ¬ P b ∧ IsFirst P l a := by
  constructor
  · rintro ⟨hholds, before, after, hsplit, hbefore⟩
    cases before with
    | nil =>
      obtain ⟨rfl, -⟩ := List.cons.inj hsplit
      exact Or.inl ⟨hholds, rfl⟩
    | cons b' before =>
      obtain ⟨rfl, hl⟩ := List.cons.inj hsplit
      obtain ⟨hb, hbefore⟩ := List.forall_mem_cons.1 hbefore
      exact Or.inr ⟨hb, hholds, before, after, hl, hbefore⟩
  · rintro (⟨hb, rfl⟩ | ⟨hb, hholds, before, after, hl, hbefore⟩)
    · exact ⟨hb, [], l, rfl, nofun⟩
    · exact ⟨hholds, b :: before, after, congrArg (b :: ·) hl,
        List.forall_mem_cons.2 ⟨hb, hbefore⟩⟩

/-- The first value that is found is found at the first item that has one. -/
theorem isFirst_of_findSome? {β : Type} {g : α → Option β} {b : β} (h : l.findSome? g = some b) :
    ∃ a, IsFirst (fun a => ∃ b, g a = some b) l a ∧ g a = some b := by
  obtain ⟨before, a, after, hsplit, ha, hbefore⟩ := List.findSome?_eq_some_iff.1 h
  refine ⟨a, ⟨⟨b, ha⟩, before, after, hsplit, fun a' ha' hsome => ?_⟩, ha⟩
  obtain ⟨b', hb'⟩ := hsome
  cases (hbefore a' ha').symm.trans hb'

end

namespace Health

variable {key : Key} {o : ManagedObject} {conditions : List Json} {type : String}

/-! ## Daemon sets -/

/-- The number that a status gives under a name, or else the one that is taken for it. -/
def Counted (status : Json) (name : String) (default n : Int) : Prop :=
  status.get? name = some (.int n) ∨ (∀ m, status.get? name ≠ some (.int m)) ∧ n = default

/-- The counts of pods are those that a status reports. -/
structure PodCounts.ReportedBy (c : PodCounts) (status : Json) : Prop where
  desired : Counted status "desiredNumberScheduled" 0 c.desired
  ready : Counted status "numberReady" 0 c.ready
  unavailable : Counted status "numberUnavailable" 0 c.unavailable
  updated : Counted status "updatedNumberScheduled" c.desired c.updated

/-- All pods that are wanted run as they should. -/
def PodCounts.Complete (c : PodCounts) : Prop :=
  0 < c.desired ∧ c.desired ≤ c.ready ∧ c.unavailable = 0 ∧ c.desired ≤ c.updated

/-- The verdict on a daemon set with this status, if it has one. -/
structure DaemonSetVerdict (key : Key) (status : Option Json) (verdict : Except Error Health) :
    Prop where
  definite : ∀ e, verdict ≠ .error e
  pending : status = none → verdict = .ok (.progressing "DaemonSetPending"
    (key.toText ++ " has not reported any status yet"))
  reported : ∀ s, status = some s → ∃ c : PodCounts, c.ReportedBy s ∧
    (verdict = .ok .available ↔ c.Complete) ∧
    ((∃ reason message, verdict = .ok (.degraded reason message)) ↔ c.desired ≤ 0) ∧
    ((∃ reason message, verdict = .ok (.progressing reason message)) ↔
      0 < c.desired ∧ ¬ c.Complete)

theorem counted_getD (status : Json) (name : String) (default : Int) :
    Counted status name default (((status.get? name).bind Json.asInt?).getD default) := by
  unfold Counted
  cases hfield : status.get? name with
  | none => exact Or.inr ⟨nofun, rfl⟩
  | some v =>
    cases v with
    | int n => exact Or.inl rfl
    | _ => exact Or.inr ⟨nofun, rfl⟩

theorem PodCounts.reportedBy_ofStatus (status : Json) : (ofStatus status).ReportedBy status :=
  ⟨counted_getD .., counted_getD .., counted_getD .., counted_getD ..⟩

theorem PodCounts.complete_iff {c : PodCounts} : c.complete = true ↔ c.Complete := by
  simp [complete, Complete, and_assoc]

/-- Of the candidates for a daemon set always exactly one holds. -/
theorem ofDaemonSet_eq {status : Json} (key : Key) (h : o.at? ["status"] = some status) :
    let c := PodCounts.ofStatus status
    ofDaemonSet key o = .ok (
      if c.complete then .available
      else if c.desired ≤ 0 then
        .degraded "NoSchedulableNodes" (key.toText ++ " has no pod scheduled on any node")
      else .progressing "DaemonSetRollout" (key.toText ++ ": " ++ toString c.ready ++ "/"
        ++ toString c.desired ++ " pods ready, " ++ toString c.unavailable ++ " unavailable")) := by
  intro c
  unfold ofDaemonSet
  rw [h]
  by_cases hcomplete : c.complete = true
  · have hdesired : 0 < c.desired := (PodCounts.complete_iff.1 hcomplete).1
    simp [c, exactlyOne, hcomplete, hdesired, Int.not_le.2 hdesired]
  · by_cases hdesired : c.desired ≤ 0
    · simp [c, exactlyOne, hcomplete, hdesired, Int.not_lt.2 hdesired]
    · simp [c, exactlyOne, hcomplete, hdesired, Int.not_le.1 hdesired]

theorem ofDaemonSet_verdict (key : Key) (o : ManagedObject) :
    DaemonSetVerdict key (o.at? ["status"]) (ofDaemonSet key o) := by
  cases hstatus : o.at? ["status"] with
  | none =>
    have hpending : ofDaemonSet key o = .ok (.progressing "DaemonSetPending"
        (key.toText ++ " has not reported any status yet")) := by
      rw [ofDaemonSet, hstatus]
    refine ⟨fun e he => ?_, fun _ => hpending, nofun⟩
    cases hpending.symm.trans he
  | some status =>
    rw [ofDaemonSet_eq key hstatus]
    refine ⟨nofun, nofun, fun s hs => ?_⟩
    obtain rfl := Option.some.inj hs
    refine ⟨_, PodCounts.reportedBy_ofStatus status, ?_⟩
    rw [← PodCounts.complete_iff]
    by_cases hcomplete : (PodCounts.ofStatus status).complete = true
    · have hdesired := (PodCounts.complete_iff.1 hcomplete).1
      simp [hcomplete, Int.not_le.2 hdesired]
    · by_cases hdesired : (PodCounts.ofStatus status).desired ≤ 0
      · simp [hcomplete, hdesired]
      · simp [hcomplete, hdesired, Int.not_le.1 hdesired]

/-! ## Deployments -/

/-- A condition of a deployment is of a type. -/
def OfType (type : String) (c : Json) : Prop := c.get? "type" = some (.str type)

/-- The first condition of a type is true. -/
def Holds (conditions : List Json) (type : String) : Prop :=
  ∃ c, IsFirst (OfType type) conditions c ∧ c.get? "status" = some (.str "True")

/-- There is a condition of a type, but the first one is not true. -/
def Fails (conditions : List Json) (type : String) : Prop :=
  ∃ c, IsFirst (OfType type) conditions c ∧ c.get? "status" ≠ some (.str "True")

/-- There is no condition of a type. -/
def Lacks (conditions : List Json) (type : String) : Prop := ∀ c ∈ conditions, ¬ OfType type c

/-- A cause of trouble is known. -/
def Troubled (conditions : List Json) : Prop :=
  Holds conditions "ReplicaFailure" ∨ Fails conditions "Progressing"

/-- The verdict on a deployment with these conditions. -/
structure DeploymentVerdict (key : Key) (conditions : List Json)
    (verdict : Except Error Health) : Prop where
  pending : verdict = .ok (.progressing "DeploymentPending"
    (key.toText ++ " has not reported any condition yet")) ↔ conditions = []
  contradictory : verdict = .error (.ambiguousCondition key 2) ↔
    Holds conditions "Available" ∧ Troubled conditions
  undecided : verdict = .error (.ambiguousCondition key 0) ↔
    conditions ≠ [] ∧ ¬ Holds conditions "Available" ∧ ¬ Holds conditions "ReplicaFailure" ∧
      Lacks conditions "Progressing"
  available : verdict = .ok .available ↔ Holds conditions "Available" ∧ ¬ Troubled conditions
  degraded : (∃ reason message, verdict = .ok (.degraded reason message)) ↔
    ¬ Holds conditions "Available" ∧ Troubled conditions
  reason : ∀ reason message, verdict = .ok (.degraded reason message) →
    (Holds conditions "ReplicaFailure" → reason = "ReplicaFailure") ∧
    (¬ Holds conditions "ReplicaFailure" → reason = "ProgressDeadlineExceeded")
  progressing : (∃ reason message, verdict = .ok (.progressing reason message)) ↔
    conditions = [] ∨ ¬ Holds conditions "Available" ∧ ¬ Holds conditions "ReplicaFailure" ∧
      Holds conditions "Progressing"

theorem asString?_bind_eq_some {v : Option Json} {s : String} :
    v.bind Json.asString? = some s ↔ v = some (.str s) := by
  cases v with
  | none => simp
  | some v => cases v <;> simp [Json.asString?]

/-- The condition that counts is the first of its type. -/
theorem conditionHolds?_eq_some {b : Bool} : conditionHolds? conditions type = some b ↔
    ∃ c, IsFirst (OfType type) conditions c ∧
      decide (c.get? "status" = some (.str "True")) = b := by
  have htype (c : Json) : decide ((c.get? "type").bind Json.asString? = some type) = true ↔
      OfType type c := by
    rw [decide_eq_true_eq, asString?_bind_eq_some, OfType]
  unfold conditionHolds?
  simp only [Option.map_eq_some_iff, isFirst_iff htype, asString?_bind_eq_some]

theorem holds_iff : Holds conditions type ↔ conditionHolds? conditions type = some true := by
  simp only [Holds, conditionHolds?_eq_some, decide_eq_true_eq]

theorem fails_iff : Fails conditions type ↔ conditionHolds? conditions type = some false := by
  simp only [Fails, conditionHolds?_eq_some, decide_eq_false_iff_not]

theorem lacks_iff : Lacks conditions type ↔ conditionHolds? conditions type = none := by
  unfold conditionHolds?
  simp only [Lacks, OfType, Option.map_eq_none_iff, List.find?_eq_none, asString?_bind_eq_some,
    decide_eq_true_eq]

/-- What becomes of conditions is settled by three of their types. -/
theorem ofConditions_eq (key : Key) (conditions : List Json) : ofConditions key conditions =
    let failing := conditionHolds? conditions "ReplicaFailure" = some true
    let trouble : Health :=
      .degraded (if failing then "ReplicaFailure" else "ProgressDeadlineExceeded")
        (key.toText ++ " cannot reach its desired replicas")
    if conditionHolds? conditions "Available" = some true then
      if failing ∨ conditionHolds? conditions "Progressing" = some false then
        .error (.ambiguousCondition key 2)
      else .ok .available
    else if failing then .ok trouble
    else match conditionHolds? conditions "Progressing" with
      | some true => .ok (.progressing "DeploymentRollout" (key.toText ++ " is rolling out"))
      | some false => .ok trouble
      | none => .error (.ambiguousCondition key 0) := by
  unfold ofConditions exactlyOne
  generalize conditionHolds? conditions "Progressing" = progressing
  by_cases havailable : conditionHolds? conditions "Available" = some true <;>
    by_cases hfailing : conditionHolds? conditions "ReplicaFailure" = some true <;>
    obtain _ | _ | _ := progressing <;>
    simp [havailable, hfailing]

/-- A deployment with conditions is classified by them. -/
theorem ofDeployment_eq (key : Key) (o : ManagedObject) :
    let conditions := ((o.at? ["status", "conditions"]).bind Json.asArray?).getD []
    ofDeployment key o = if conditions = [] then
        .ok (.progressing "DeploymentPending"
          (key.toText ++ " has not reported any condition yet"))
      else ofConditions key conditions := by
  unfold ofDeployment
  cases (o.at? ["status", "conditions"]).bind Json.asArray? with
  | none => rfl
  | some conditions => cases conditions <;> rfl

theorem ofConditions_verdict (key : Key) {conditions : List Json} (h : conditions ≠ []) :
    DeploymentVerdict key conditions (ofConditions key conditions) := by
  constructor
  all_goals
    simp only [ofConditions_eq, Troubled, holds_iff, fails_iff, lacks_iff, h, ne_eq,
      not_false_eq_true, true_and, false_or, iff_false]
    generalize conditionHolds? conditions "Progressing" = progressing
    by_cases havailable : conditionHolds? conditions "Available" = some true <;>
      by_cases hfailing : conditionHolds? conditions "ReplicaFailure" = some true <;>
      obtain _ | _ | _ := progressing <;>
      simp [havailable, hfailing]

theorem pending_verdict (key : Key) : DeploymentVerdict key []
    (.ok (.progressing "DeploymentPending"
      (key.toText ++ " has not reported any condition yet"))) := by
  have hnone (type : String) : conditionHolds? [] type = none := rfl
  constructor <;> simp [Troubled, holds_iff, fails_iff, hnone]

/-- What is no workload is available once it is there. -/
theorem classify_of_other (key : Key) (h : ¬ (o.kind = .daemonSet ∨ o.kind = .deployment)) :
    classify key (some o) = .ok .available := by
  unfold classify
  dsimp only
  split
  · next hkind => exact absurd (Or.inl hkind) h
  · next hkind => exact absurd (Or.inr hkind) h
  · rfl

/-- When exactly each verdict on a daemon set and on a deployment is given.

* A daemon set always gets one. Without a status it is on its way. With a status it is available if
  some pods are wanted and all of them are there, up to date and available, in trouble if none are
  wanted, and on its way otherwise.
* A deployment without conditions is on its way. Otherwise the first conditions of three types
  decide, each of which is true, not true or missing. There is no verdict if the deployment is
  available in spite of a cause of trouble, or if nothing is known about it at all. -/
theorem classify_exact (key : Key) (o : ManagedObject) :
    let verdict := classify key (some o)
    let conditions := ((o.at? ["status", "conditions"]).bind Json.asArray?).getD []
    (o.kind = .daemonSet → DaemonSetVerdict key (o.at? ["status"]) verdict) ∧
    (o.kind = .deployment → DeploymentVerdict key conditions verdict) := by
  intro verdict conditions
  refine ⟨fun hkind => ?_, fun hkind => ?_⟩
  · have hverdict : verdict = ofDaemonSet key o := by simp [verdict, classify, hkind]
    rw [hverdict]
    exact ofDaemonSet_verdict key o
  · have hverdict : verdict = ofDeployment key o := by simp [verdict, classify, hkind]
    rw [hverdict, ofDeployment_eq]
    by_cases hempty : conditions = []
    · rw [if_pos hempty, hempty]
      exact pending_verdict key
    · rw [if_neg hempty]
      exact ofConditions_verdict key hempty

/-- More pods than wanted are ready, and of two conditions of a type only the first counts. -/
theorem classify_exact_of_reported :
    let key := Key.namespaced .daemonSet "a" "b"
    let workers := Template.object .daemonSet "b" none
      [("status", .obj [("desiredNumberScheduled", .int 2), ("numberReady", .int 3)])]
    let condition (type status : String) : Json :=
      .obj [("status", .str status), ("type", .str type)]
    let master := Template.object .deployment "b" none
      [("status", .obj [("conditions", .arr [condition "Available" "True",
        condition "Available" "False", condition "Progressing" "true"])])]
    workers.kind = .daemonSet ∧ master.kind = .deployment ∧
      DaemonSetVerdict key (workers.at? ["status"]) (classify key (some workers)) ∧
      classify key (some workers) = .ok .available ∧
      (∃ conditions, conditions ≠ [] ∧
        DeploymentVerdict key conditions (classify key (some master))) ∧
      classify key (some master) = .error (.ambiguousCondition key 2) := by
  intro key workers condition master
  refine ⟨rfl, rfl, (classify_exact key workers).1 rfl, rfl,
    ⟨_, ?_, (classify_exact key master).2 rfl⟩, rfl⟩
  decide

end Health

end NodeFeatureOperator
