import NodeFeatureOperator.Error
import NodeFeatureOperator.Json.Text

/-!
# Requests and answers

What goes over the wire between the operator and an API server: a request with a target and
perhaps a document, and an answer with a status and a text. A target is read from the text of a
path and a query. An answer with the status of an error is a refusal, which the server describes
in a document of its own, or which is made up from the status and the text.
-/

namespace NodeFeatureOperator.Api

/-- What a request wants done. -/
inductive Method where
  | get
  | post
  | put
  | patch
  | delete
deriving DecidableEq, Repr, Inhabited

/-- The name of a method. -/
def Method.toText : Method → String
  | get => "GET"
  | post => "POST"
  | put => "PUT"
  | patch => "PATCH"
  | delete => "DELETE"

/-- Where a request goes. -/
structure Target where
  path : String
  query : String
deriving DecidableEq, Repr, Inhabited

namespace Target

/-- Whether a character may stand in a path. -/
def isPathChar (c : Char) : Bool := ' ' < c && c ∉ ['<', '>', '\x60']

/-- Whether a character may stand in a query. -/
def isQueryChar (c : Char) : Bool := ' ' < c && c ∉ ['"', '<', '>']

/-- The length that the text of a target may have, in bytes. -/
def maxLength : Nat := 65534

/-- The target that a text gives: a path up to the first question mark, then a query. What stands
behind a number sign does not count. -/
def parse? (text : String) : Option Target :=
  let cs := text.toList.takeWhile (· ≠ '#')
  let path := cs.takeWhile (· ≠ '?')
  let query := (cs.dropWhile (· ≠ '?')).drop 1
  if text.utf8ByteSize ≤ maxLength ∧ path.all isPathChar ∧ query.all isQueryChar then
    some ⟨String.ofList path, String.ofList query⟩
  else none

/-- The parts of the query between ampersands that are not empty. -/
def parts (t : Target) : List String := (t.query.splitOn "&").filter (· ≠ "")

end Target

/-- A request. -/
structure Request where
  method : Method
  target : Target
  /-- The type of the document that the request carries. -/
  contentType : Option String
  body : Option Json
deriving DecidableEq, Inhabited

/-- An answer. -/
structure Response where
  status : Nat
  body : String
deriving DecidableEq, Repr, Inhabited

/-- What the standard says about a status of an error. -/
def phrase? (status : Nat) : Option String :=
  [(400, "Bad Request"), (401, "Unauthorized"), (402, "Payment Required"), (403, "Forbidden"),
    (404, "Not Found"), (405, "Method Not Allowed"), (406, "Not Acceptable"),
    (407, "Proxy Authentication Required"), (408, "Request Timeout"), (409, "Conflict"),
    (410, "Gone"), (411, "Length Required"), (412, "Precondition Failed"),
    (413, "Payload Too Large"), (414, "URI Too Long"), (415, "Unsupported Media Type"),
    (416, "Range Not Satisfiable"), (417, "Expectation Failed"), (418, "I'm a teapot"),
    (421, "Misdirected Request"), (422, "Unprocessable Entity"), (423, "Locked"),
    (424, "Failed Dependency"), (425, "Too Early"), (426, "Upgrade Required"),
    (428, "Precondition Required"), (429, "Too Many Requests"),
    (431, "Request Header Fields Too Large"), (451, "Unavailable For Legal Reasons"),
    (500, "Internal Server Error"), (501, "Not Implemented"), (502, "Bad Gateway"),
    (503, "Service Unavailable"), (504, "Gateway Timeout"), (505, "HTTP Version Not Supported"),
    (506, "Variant Also Negotiates"), (507, "Insufficient Storage"), (508, "Loop Detected"),
    (510, "Not Extended"), (511, "Network Authentication Required")].lookup status

/-- The text of a status of an error. -/
def statusText (status : Nat) : String :=
  toString status ++ " " ++ (phrase? status).getD "<unknown status code>"

namespace Response

/-- The answer when there is none. -/
def unavailable : Response := ⟨503, ""⟩

/-- Whether the status is one of an error. -/
def isError (r : Response) : Bool := 400 ≤ r.status && r.status < 600

/-- The refusal that a document describes. -/
def described? (j : Json) : Option Refusal := do
  let wanted := [("status", false), ("message", true), ("reason", true), ("code", false)]
  match ← Json.record? wanted j with
  | [status, message, reason, code] =>
    let code ← (← code).asInt?
    if 0 ≤ code ∧ code < 65536 then
      return ⟨← (← status).asString?, ← text? message, ← text? reason, code.toNat⟩
    else none
  | _ => none
where
  /-- A text, empty when absent. -/
  text? : Option Json → Option String
    | none => some ""
    | some j => j.asString?

/-- The refusal that is made up for a text that describes none. -/
def undescribed (r : Response) : Refusal :=
  ⟨statusText r.status, Text.quote r.body, "Failed to parse error data", r.status⟩

/-- The refusal that an answer is, if it is one. -/
def refusal? (r : Response) : Option Refusal :=
  if r.isError then
    some (((Json.parse? r.body).bind described?).getD r.undescribed)
  else none

/-- An answer is a refusal exactly if its status is one of an error. -/
@[simp] theorem refusal?_isSome (r : Response) : r.refusal?.isSome = r.isError := by
  unfold refusal?
  cases r.isError <;> rfl

end Response

end NodeFeatureOperator.Api
