import NodeFeatureOperator.Key
import NodeFeatureOperator.Duration
import NodeFeatureOperator.Text.Quoted

/-!
# Errors

What can go wrong, by cause, and what the operator says about it: `Error.message` is the whole
text, `Error.reason` the short word that conditions and metrics carry.
-/

namespace NodeFeatureOperator

/-- The answer of an API server that refuses a request. -/
structure Refusal where
  status : String
  message : String
  reason : String
  code : Nat
deriving DecidableEq, Repr, Inhabited

/-- Why a request to the API server failed. -/
inductive ApiFailure where
  /-- The server refused the request. -/
  | refused (answer : Refusal)
  /-- The request could not be built. -/
  | badRequest (detail : String)
  /-- The answer does not have the shape that the request asks for. -/
  | badAnswer
  /-- A line of the answer has no end. -/
  | endlessLine
deriving DecidableEq, Repr, Inhabited

/-- A cause of failure. -/
inductive Error where
  /-- A document does not have the shape of its type. -/
  | serialization
  /-- A text is no YAML. -/
  | yaml
  /-- A request to the API server failed. -/
  | api (cause : ApiFailure)
  /-- A request about one object failed. -/
  | object (action : String) (key : Key) (cause : ApiFailure)
  /-- An object cannot be given to an instance. -/
  | ownerReference (key : Key) (cause : String)
  /-- A resource is in no state of health, or in several at once. -/
  | ambiguousCondition (key : Key) (active : Nat)
  /-- An object did not go away in time. -/
  | deleteTimeout (key : Key) (timeout : Duration)
  /-- The prune job of an instance failed. -/
  | pruneJobFailed (ns name : String) (failed : Int)
  /-- A document lacks something that it needs. -/
  | missingObjectKey (path : String)
  /-- No managed kind has this name. -/
  | unknownKind (name : String)
  /-- There is no template of this kind and name. -/
  | missingManifest (name : String)
  /-- An object of one kind stands where another was expected. -/
  | unexpectedKind (expected found : Kind)
  /-- The settings make no sense. -/
  | configuration (detail : String)
deriving DecidableEq, Repr, Inhabited

namespace Refusal

/-- The text of a refusal, with its parts. -/
def toText (r : Refusal) : String :=
  "ApiError: " ++ r.message ++ ": " ++ r.reason ++ " (ErrorResponse \x7b status: "
    ++ Text.quote r.status ++ ", message: " ++ Text.quote r.message ++ ", reason: "
    ++ Text.quote r.reason ++ ", code: " ++ toString r.code ++ " \x7d)"

end Refusal

namespace ApiFailure

/-- The text of a failed request. -/
def toText : ApiFailure → String
  | refused answer => answer.toText
  | badRequest detail => "Failed to build request: " ++ detail
  | badAnswer => "Error deserializing response: the answer has another shape"
  | endlessLine => "Error finding newline character"

/-- The code of a refusal. -/
def code? : ApiFailure → Option Nat
  | refused answer => some answer.code
  | _ => none

end ApiFailure

namespace Error

/-- The text of an error. -/
def message : Error → String
  | serialization => "SerializationError: the document does not have the shape of its type"
  | yaml => "YamlError: the text is no YAML"
  | api cause => "K8s error: " ++ cause.toText
  | object action key cause =>
    action ++ " " ++ key.toText ++ " failed: " ++ cause.toText
  | ownerReference key cause =>
    "Cannot set owner reference on " ++ key.toText ++ ": " ++ cause
  | ambiguousCondition key active =>
    "Ambiguous resource condition for " ++ key.toText ++ ": " ++ toString active
      ++ " active classifications"
  | deleteTimeout key timeout =>
    "Deleting " ++ key.toText ++ " did not complete within " ++ timeout.toText
  | pruneJobFailed ns name failed =>
    "Prune job " ++ ns ++ "/" ++ name ++ " failed (" ++ toString failed ++ " failed pods)"
  | missingObjectKey path => "Missing object key " ++ path
  | unknownKind name => "Unsupported manifest kind " ++ name
  | missingManifest name => "No manifest for " ++ name
  | unexpectedKind expected found =>
    "Expected a " ++ expected.toText ++ " but got a " ++ found.toText
  | configuration detail => "Invalid configuration: " ++ detail

/-- The code with which the API server refused the request, if that is the cause. -/
def code? : Error → Option Nat
  | api cause => cause.code?
  | object _ _ cause => cause.code?
  | _ => none

/-- Whether the server says that there is nothing under the name. -/
def isNotFound (e : Error) : Bool := e.code? = some 404

/-- Whether the server says that somebody else wrote in the meantime. -/
def isConflict (e : Error) : Bool := e.code? = some 409

/-- The short word for an error. -/
def reason (e : Error) : String :=
  match e with
  | serialization | yaml => "SerializationFailed"
  | api _ | object .. => if e.isConflict then "Conflict" else "ApiError"
  | ownerReference .. => "OwnerReferenceFailed"
  | ambiguousCondition .. => "AmbiguousResourceCondition"
  | deleteTimeout .. => "DeleteTimeout"
  | pruneJobFailed .. => "PruneJobFailed"
  | missingObjectKey _ => "MissingObjectKey"
  | unknownKind _ | missingManifest _ | unexpectedKind .. => "InvalidManifest"
  | configuration _ => "InvalidConfiguration"

/-- The short word in lower case, as metrics carry it. -/
def label (e : Error) : String := e.reason.toLower

end Error

end NodeFeatureOperator
