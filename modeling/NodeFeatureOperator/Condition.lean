import NodeFeatureOperator.Metadata

/-!
# Conditions

An instance reports four conditions, exactly one of them active. A condition knows when it last
changed; two conditions that differ in nothing else are the same condition, so a report that says
nothing new keeps the times of the report before.
-/

namespace NodeFeatureOperator

/-- What a condition is about. -/
inductive ConditionType where
  | available
  | upgradeable
  | progressing
  | degraded
deriving DecidableEq, Repr, Inhabited

namespace ConditionType

/-- Every condition, in the order of a report. -/
def all : List ConditionType := [available, upgradeable, progressing, degraded]

/-- The name of a condition. -/
def toText : ConditionType → String
  | available => "Available"
  | upgradeable => "Upgradeable"
  | progressing => "Progressing"
  | degraded => "Degraded"

end ConditionType

/-- One aspect of the health of an instance. -/
structure Condition where
  lastTransition : Option Moment
  type : ConditionType
  active : Bool
  reason : Option String
  message : Option String
deriving DecidableEq, Repr, Inhabited

namespace Condition

/-- Whether two conditions differ in nothing but their times. -/
def sameAs (a b : Condition) : Bool :=
  a.type = b.type && a.active = b.active && a.reason = b.reason && a.message = b.message

/-- The report in which one condition is active, with a reason and a message. -/
def report (now : Moment) (active : ConditionType) (reason message : String) : List Condition :=
  ConditionType.all.map fun t =>
    if t = active then ⟨some now, t, true, some reason, some message⟩
    else ⟨some now, t, false, none, none⟩

/-- The report of an instance all of whose components are ready. -/
def available (now : Moment) : List Condition :=
  report now .available "AllComponentsReady" "All node-feature-discovery components are available"

/-- The report of an instance that is on its way. -/
def progressing (now : Moment) (reason message : String) : List Condition :=
  report now .progressing reason message

/-- The report of an instance that is in trouble. -/
def degraded (now : Moment) (reason message : String) : List Condition :=
  report now .degraded reason message

/-- Whether a report says that the instance is available. -/
def isAvailable (cs : List Condition) : Bool := cs.any fun c => c.type = .available && c.active

/-- Why a report says that the instance is degraded. -/
def degradedReason? (cs : List Condition) : Option String :=
  (cs.find? fun c => c.type = .degraded && c.active).bind (·.reason)

/-- Whether a report says anything that the one before does not. -/
def changed (old new : List Condition) : Bool :=
  old.length ≠ new.length || new.any fun n => !old.any fun o => o.sameAs n

/-- A condition with the time of the first condition of the report before that is the same. -/
def carryTime (old : List Condition) (c : Condition) : Condition :=
  match old.find? fun o => o.sameAs c with
  | some o => { c with lastTransition := o.lastTransition }
  | none => c

/-- A report that keeps the times of all that did not change. -/
def carryTimes (old new : List Condition) : List Condition := new.map (carryTime old)

/-! ## Documents -/

/-- The document of a condition. -/
def toJson (c : Condition) : Json :=
  .obj ([("lastTransitionTime", (c.lastTransition.map fun t => Json.str t.toText).getD .null)]
    ++ Json.field "message" (c.message.map .str)
    ++ Json.field "reason" (c.reason.map .str)
    ++ [("status", .str (if c.active then "True" else "False")), ("type", .str c.type.toText)])

/-- One of some words: as a string, or as the only name of an object, with null under it. -/
def word? (words : List (String × α)) (j : Json) : Option α :=
  match j with
  | .str s => words.lookup s
  | .obj [(s, .null)] => words.lookup s
  | _ => none

/-- A value that may be absent or null. -/
def optional? (f : Json → Option α) : Option Json → Option (Option α)
  | none => some none
  | some .null => some none
  | some j => (f j).map some

/-- The condition that a document gives. -/
def decode? (j : Json) : Option Condition := do
  let wanted := [("lastTransitionTime", false), ("type", false), ("status", false),
    ("reason", true), ("message", true)]
  match ← Json.record? wanted j with
  | [time, type, status, reason, message] =>
    return {
      lastTransition := ← optional? Json.asMoment? time
      type := ← type.bind (word? (ConditionType.all.map fun t => (t.toText, t)))
      active := ← status.bind (word? [("True", true), ("False", false)])
      reason := ← optional? Json.asString? reason
      message := ← optional? Json.asString? message }
  | _ => none

/-- The report that a document gives. -/
def decodeAll? (j : Json) : Option (List Condition) := j.asArray?.bind (·.mapM decode?)

/-- The document of a report. -/
def allToJson (cs : List Condition) : Json := .arr (cs.map toJson)

end Condition

end NodeFeatureOperator
