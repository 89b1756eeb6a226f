import ErDiagram.Fault
import ErDiagram.Json.Finite
import ErDiagram.Validation.Coercion

/-!
# Bodies of requests

A body is JSON and has to be an object that passes a check. Each issue is told with its path from the
body on, its wording and what stands there. So a number without a finite value or half of a surrogate pair
that stands at an issue ends the request with a fault and without an answer. Clients see the kinds and
the paths of issues alone.
-/

namespace ErDiagram

structure ClientRequest where
  method : String
  target : String
  body : Option String
  deriving DecidableEq, Repr

structure ClientAnswer where
  status : Nat
  body : Json
  deriving Repr, Inhabited

namespace PathStep

def follow? : PathStep → Json → Option Json
  | .field name, .obj fields => Json.field? fields name
  | .item index, .arr items => items[index]?
  | _, _ => none

def toJson : PathStep → Json
  | .field name => .str name
  | .item index => .int index

end PathStep

/-- The wording of an issue. -/
def IssueKind.message : IssueKind → String
  | missing => "Field required"
  | notText => "Input should be a valid string"
  | halvedText => "Input should be a valid string, unable to parse raw data as a unicode string"
  | notInteger => "Input should be a valid integer"
  | unreadableInteger => "Input should be a valid integer, unable to parse string as an integer"
  | fractionalInteger => "Input should be a valid integer, got a number with a fractional part"
  | oversizedInteger => "Unable to parse input string as an integer, exceeded maximum size"
  | notFiniteNumber => "Input should be a finite number"
  | notNumber => "Input should be a valid number"
  | unreadableNumber => "Input should be a valid number, unable to parse string as a number"
  | notTruth => "Input should be a valid boolean"
  | unreadableTruth => "Input should be a valid boolean, unable to interpret input"
  | notChoice => "Input should be 'grid', 'circular' or 'hierarchical'"
  | notList => "Input should be a valid list"
  | notObject => "Input should be a valid dictionary"
  | notBody => "Input should be a valid dictionary or object to extract fields from"
  | unreadableBody => "JSON decode error"

namespace Issue

/-- What an issue of a body is about: the value at its path, or what a missing value is missing in. -/
def about (body : Json) (issue : Issue) : Option Json :=
  let path := if issue.kind = .missing then issue.path.dropLast else issue.path
  path.foldlM (fun value step => step.follow? value) body

def inBody (issue : Issue) : Issue := { issue with path := .field "body" :: issue.path }

def toJson (issue : Issue) : Json :=
  .obj [("type", .str issue.kind.name), ("loc", .arr (issue.path.map PathStep.toJson))]

/-- An issue as it is sent, with what it is about. -/
def sent (body : Json) (issue : Issue) : Json :=
  .obj [("type", .str issue.kind.name), ("loc", .arr (issue.inBody.path.map PathStep.toJson)),
    ("msg", .str issue.kind.message), ("input", (issue.about body).getD .null)]

end Issue

/-- What keeps a value from being sent: a number without a finite value, or half of a surrogate pair. -/
def Json.unsendable? (value : Json) : Option Fault :=
  if !value.isFinite then some .nonFinite
  else match CodeString.ofCodes value.textCodes with
    | .whole _ => none
    | text => some (.notSendable text)

namespace ClientAnswer

def okay (body : Json) : ClientAnswer := ⟨200, body⟩

/-- An answer as it is sent, unless its body cannot be. -/
def sent (answer : ClientAnswer) : Except Fault ClientAnswer :=
  match answer.body.unsendable? with
  | none => .ok answer
  | some fault => .error fault

/-- An answer that only tells why it gives nothing else. -/
def refusal (status : Nat) (detail : String) : ClientAnswer := ⟨status, .obj [("detail", .str detail)]⟩

/-- What comes of an answer without a body, as a redirection is. Nothing is no JSON. -/
def bodiless : Except Fault ClientAnswer := .error (.unreadable .malformed)

/-- What comes of an answer to a method; one to `HEAD` has no body. -/
def toMethod (answer : ClientAnswer) (method : String) : Except Fault ClientAnswer :=
  if method = "HEAD" then bodiless else .ok answer

def unprocessable (issues : List Issue) : ClientAnswer :=
  ⟨422, .obj [("detail", .arr (issues.map Issue.toJson))]⟩

end ClientAnswer

namespace ClientRequest

/-- What a value stands for as a body. -/
def checkBody {α : Type} (check : Json.Fields → Checked α) : Json → Checked α
  | .obj fields => check fields
  | _ => .fail .notBody

/-- What a request with issues in its body ends with. -/
def refused (body : Json) (issues : List Issue) : Except Fault ClientAnswer :=
  match (Json.obj [("detail", .arr (issues.map (Issue.sent body)))]).unsendable? with
  | none => .ok (.unprocessable (issues.map Issue.inBody))
  | some fault => .error fault

/-- Reads the body of a request: a value, or what the request ends with instead. -/
def readBody {α : Type} (request : ClientRequest) (check : Json.Fields → Checked α) :
    Except (Except Fault ClientAnswer) α :=
  match request.body.filter (· ≠ "") with
  | none => .error (refused .null [⟨[], .missing⟩])
  | some text =>
    match Json.readSent text with
    | .ok value =>
      match checkBody check value with
      | .valid a => .ok a
      | .invalid issues => .error (refused value issues)
    | .error .malformed => .error (refused .null [⟨[], .unreadableBody⟩])
    | .error _ => .error (.ok (.refusal 400 "There was an error parsing the body"))

end ClientRequest

end ErDiagram
