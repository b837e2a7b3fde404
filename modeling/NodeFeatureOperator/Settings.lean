import NodeFeatureOperator.Error

/-!
# Settings

The settings of the operator and how they are read from the environment. The first variable that
cannot be read, in the order in which `Settings.ofEnvironment` looks at them, is the one that the
error names; that the retry interval exceeds the timeout is found out last.
-/

namespace NodeFeatureOperator

/-- How deletions are retried: how often, and for how long. -/
structure RetryPolicy where
  interval : Duration
  timeout : Duration
deriving DecidableEq, Repr, Inhabited

/-- The settings of the operator. -/
structure Settings where
  /-- The image for instances that name none. -/
  defaultImage : String := "registry.k8s.io/nfd/node-feature-discovery:v0.16.4"
  /-- The one namespace to watch, if it is not all of them. -/
  watchNamespace : Option String := none
  /-- Whether the cluster has security context constraints. -/
  manageSecurityPolicies : Bool := true
  deleteRetry : RetryPolicy := ⟨.ofSeconds 5, .ofSeconds 30⟩
  /-- When to look again whether what was deleted is gone. -/
  finalizeRequeue : Duration := .ofSeconds 10
  /-- When to look at the prune job again. -/
  pruneRequeue : Duration := .ofSeconds 10
  /-- When to look at a settled instance again. -/
  resync : Duration := .ofSeconds 300
  /-- How long to wait after a first failure. -/
  errorRequeue : Duration := .ofSeconds 5
  /-- How long to wait at most. -/
  maxErrorRequeue : Duration := .ofSeconds 300
  bindAddress : String := "0.0.0.0:8080"
  jsonLogs : Bool := false
deriving DecidableEq, Repr, Inhabited

namespace Settings

/-- Why a text is no number of 64 bits. -/
inductive NumberFault where
  | empty
  | badDigit
  | tooLarge
deriving DecidableEq, Repr

/-- What is said about a text that is no number. -/
def NumberFault.toText : NumberFault → String
  | empty => "cannot parse integer from empty string"
  | badDigit => "invalid digit found in string"
  | tooLarge => "number too large to fit in target type"

/-- Reads digits behind a number. The first fault from the left counts. -/
def readDigits (n : Nat) : List Char → Except NumberFault Nat
  | [] => .ok n
  | c :: cs =>
    if c.isDigit then
      let n := n * 10 + (c.toNat - '0'.toNat)
      if n < Nat.pow 2 64 then readDigits n cs else .error .tooLarge
    else .error .badDigit

/-- Reads a number of 64 bits: an optional plus and digits. -/
def readNumber (text : String) : Except NumberFault Nat :=
  match text.toList with
  | [] => .error .empty
  | ['+'] => .error .badDigit
  | '+' :: cs => readDigits 0 cs
  | cs => readDigits 0 cs

/-- The seconds that a variable gives. -/
def seconds (env : String → Option String) (name : String) (default : Duration) :
    Except Error Duration :=
  match env name with
  | none => .ok default
  | some text =>
    match readNumber text with
    | .ok n => .ok (.ofSeconds n)
    | .error fault => .error (.configuration (name ++ "=" ++ text ++ ": " ++ fault.toText))

/-- The answer that a variable gives. -/
def answer (env : String → Option String) (name : String) (default : Bool) : Except Error Bool :=
  match env name with
  | none => .ok default
  | some text =>
    let word := text.toLower
    if word ∈ ["1", "true", "yes"] then .ok true
    else if word ∈ ["0", "false", "no"] then .ok false
    else .error (.configuration (name ++ "=" ++ text ++ " is not a boolean"))

/-- The variables that the settings are read from. -/
def variableNames : List String :=
  ["MANAGE_SCC", "DELETE_RETRY_INTERVAL_SECS", "DELETE_TIMEOUT_SECS", "FINALIZE_REQUEUE_SECS",
    "PRUNE_REQUEUE_SECS", "RESYNC_SECS", "ERROR_REQUEUE_SECS", "MAX_ERROR_REQUEUE_SECS",
    "NODE_FEATURE_DISCOVERY_IMAGE", "WATCH_NAMESPACE", "BIND_ADDRESS", "LOG_FORMAT"]

/-- The settings that an environment gives. -/
def ofEnvironment (env : String → Option String) : Except Error Settings := do
  let default : Settings := {}
  let manage ← answer env "MANAGE_SCC" default.manageSecurityPolicies
  let interval ← seconds env "DELETE_RETRY_INTERVAL_SECS" default.deleteRetry.interval
  let timeout ← seconds env "DELETE_TIMEOUT_SECS" default.deleteRetry.timeout
  let finalizeRequeue ← seconds env "FINALIZE_REQUEUE_SECS" default.finalizeRequeue
  let pruneRequeue ← seconds env "PRUNE_REQUEUE_SECS" default.pruneRequeue
  let resync ← seconds env "RESYNC_SECS" default.resync
  let errorRequeue ← seconds env "ERROR_REQUEUE_SECS" default.errorRequeue
  let maxErrorRequeue ← seconds env "MAX_ERROR_REQUEUE_SECS" default.maxErrorRequeue
  if interval > timeout then
    throw (.configuration "DELETE_RETRY_INTERVAL_SECS is larger than DELETE_TIMEOUT_SECS")
  return {
    defaultImage := (env "NODE_FEATURE_DISCOVERY_IMAGE").getD default.defaultImage
    watchNamespace := (env "WATCH_NAMESPACE").filter (· ≠ "")
    manageSecurityPolicies := manage
    deleteRetry := ⟨interval, timeout⟩
    finalizeRequeue, pruneRequeue, resync, errorRequeue, maxErrorRequeue
    bindAddress := (env "BIND_ADDRESS").getD default.bindAddress
    jsonLogs := (env "LOG_FORMAT").any fun text => decide (text.toLower = "json") }

end Settings

/-- The name by which the operator presents itself to the API server. -/
def clientName : String := "nfd-operator.nfd.k8s-sigs.io"

/-- Who publishes events: the controller and the place where it runs. -/
structure Reporter where
  controller : String
  place : String
deriving DecidableEq, Repr, Inhabited

/-- The operator as a reporter of events; the environment tells the place. -/
def Reporter.ofEnvironment (env : String → Option String) : Reporter :=
  ⟨"nfd-operator", (env "POD_NAME").getD "unknown"⟩

end NodeFeatureOperator
