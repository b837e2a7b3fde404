import NodeFeatureOperator.Condition
import NodeFeatureOperator.Error
import NodeFeatureOperator.Object

/-!
# Health of resources

Every resource of an instance is classified on its own: it is available, on its way or in trouble.
`Health.aggregate` makes one report out of all of them, in which the first resource in trouble wins
over the first that is on its way.
-/

namespace NodeFeatureOperator

/-- The health of a resource. -/
inductive Health where
  | available
  | progressing (reason message : String)
  | degraded (reason message : String)
deriving DecidableEq, Repr, Inhabited

namespace Health

/-- The one candidate that holds. -/
def exactlyOne (key : Key) (candidates : List (Bool × Health)) : Except Error Health :=
  match candidates.filter (·.1) with
  | [(_, health)] => .ok health
  | active => .error (.ambiguousCondition key active.length)

/-- The counts of pods that a daemon set reports. -/
structure PodCounts where
  desired : Int
  ready : Int
  unavailable : Int
  updated : Int
deriving DecidableEq, Repr, Inhabited

/-- The counts in the status of a daemon set. Without a number of unavailable pods there are none;
without a number of updated pods all are. -/
def PodCounts.ofStatus (status : Json) : PodCounts :=
  let count (name : String) : Option Int := (status.get? name).bind Json.asInt?
  let desired := (count "desiredNumberScheduled").getD 0
  ⟨desired, (count "numberReady").getD 0, (count "numberUnavailable").getD 0,
    (count "updatedNumberScheduled").getD desired⟩

/-- Whether all pods that are wanted run as they should. -/
def PodCounts.complete (c : PodCounts) : Bool :=
  c.desired > 0 && c.ready ≥ c.desired && c.unavailable = 0 && c.updated ≥ c.desired

/-- The health of a daemon set. -/
def ofDaemonSet (key : Key) (o : ManagedObject) : Except Error Health :=
  match o.at? ["status"] with
  | none =>
    .ok (.progressing "DaemonSetPending" (key.toText ++ " has not reported any status yet"))
  | some status =>
    let c := PodCounts.ofStatus status
    exactlyOne key [
      (c.complete, .available),
      (c.desired > 0 && !c.complete,
        .progressing "DaemonSetRollout"
          (key.toText ++ ": " ++ toString c.ready ++ "/" ++ toString c.desired
            ++ " pods ready, " ++ toString c.unavailable ++ " unavailable")),
      (c.desired ≤ 0,
        .degraded "NoSchedulableNodes" (key.toText ++ " has no pod scheduled on any node"))]

/-- Whether the first of these conditions with a type holds; none when there is no such
condition. -/
def conditionHolds? (conditions : List Json) (type : String) : Option Bool :=
  (conditions.find? fun c => (c.get? "type").bind Json.asString? = some type).map fun c =>
    decide ((c.get? "status").bind Json.asString? = some "True")

/-- The health of a deployment that reports these conditions. -/
def ofConditions (key : Key) (conditions : List Json) : Except Error Health :=
  let available := conditionHolds? conditions "Available" = some true
  let failing := conditionHolds? conditions "ReplicaFailure" = some true
  let progressing := conditionHolds? conditions "Progressing"
  exactlyOne key [
    (available, .available),
    (!available && progressing = some true && !failing,
      .progressing "DeploymentRollout" (key.toText ++ " is rolling out")),
    (failing || progressing = some false,
      .degraded (if failing then "ReplicaFailure" else "ProgressDeadlineExceeded")
        (key.toText ++ " cannot reach its desired replicas"))]

/-- The health of a deployment. -/
def ofDeployment (key : Key) (o : ManagedObject) : Except Error Health :=
  match (o.at? ["status", "conditions"]).bind Json.asArray? with
  | some (c :: cs) => ofConditions key (c :: cs)
  | _ =>
    .ok (.progressing "DeploymentPending" (key.toText ++ " has not reported any condition yet"))

/-- The health of the resource under a key. One that is not there is still being created. -/
def classify (key : Key) : Option ManagedObject → Except Error Health
  | none => .ok (.progressing "ResourceMissing" (key.toText ++ " does not exist yet"))
  | some o =>
    match o.kind with
    | .daemonSet => ofDaemonSet key o
    | .deployment => ofDeployment key o
    | _ => .ok .available

/-- Reason and message of the first resource in trouble. -/
def firstDegraded? (hs : List Health) : Option (String × String) :=
  hs.findSome? fun
    | .degraded reason message => some (reason, message)
    | _ => none

/-- Reason and message of the first resource on its way. -/
def firstProgressing? (hs : List Health) : Option (String × String) :=
  hs.findSome? fun
    | .progressing reason message => some (reason, message)
    | _ => none

/-- The report that resources of this health add up to. -/
def aggregate (now : Moment) (hs : List Health) : List Condition :=
  match firstDegraded? hs, firstProgressing? hs with
  | some (reason, message), _ => Condition.degraded now reason message
  | none, some (reason, message) => Condition.progressing now reason message
  | none, none => Condition.available now

end Health

end NodeFeatureOperator
