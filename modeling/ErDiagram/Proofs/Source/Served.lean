import ErDiagram.Proofs.Source.Entries
import ErDiagram.Proofs.Source.Requests

/-!
# Services that tell of a schema

A service serves the rows of a schema when it tells the list of them and, for each name, the structure of
the first row of that name. There is such a service for all rows, because different questions have
different paths. A source that sends a question as it is asked gets what the service tells.
-/

namespace ErDiagram

open Uri

/-- Whether a service answers requests for a path with a value. -/
def HttpAnswer.Tells (service : HttpRequest → HttpAnswer) (path : String) (value : Json) : Prop :=
  ∀ request, request.path = path →
    ∃ body cookies, service request = .answered 200 body cookies ∧ body.value? = .ok (some value)

namespace HttpAnswer

/-- Whether a path asks for the structure of an entry's table. -/
def asksFor (place schema path : String) (entry : Json) : Bool :=
  match SchemaDocument.entryName entry with
  | .ok (.str (.whole name)) => path = place ++ (Inquiry.table schema name).path
  | _ => false

/-- A service at a place that tells of a schema with some rows. -/
def serving (place schema : String) (rows : List Json) (request : HttpRequest) : HttpAnswer :=
  if request.path = place ++ (Inquiry.tables schema).path then .answered 200 (.json (.arr rows))
  else
    match rows.find? (asksFor place schema request.path) with
    | some entry => .answered 200 (.json (SchemaDocument.entryStructure entry))
    | none => .answered 404 (.text "")

end HttpAnswer

namespace Remote

variable {remote : Remote} {context : Context} {place : String} {inquiry : Inquiry}

/-- Whether a source sends a question to its service as it is asked, to a place in front of its path. -/
def Sends (remote : Remote) (context : Context) (place : String) (inquiry : Inquiry) : Prop :=
  ∃ address, remote.base.reach context.requestHeaders.authorization inquiry.path = .ok address ∧
    address.saysKind ∧ (remote.requestAt context address).path = place ++ inquiry.path

theorem closed_ready (remote : Remote) : remote.ready.client.closed = false := by
  unfold ready
  split
  · rfl
  · next h => simpa using h

theorem ready_of_open (h : remote.client.closed = false) : remote.ready = remote := by
  rw [ready, h, if_neg Bool.false_ne_true]

theorem receive_eq (client : HttpClient) (address : Address) (answer : HttpAnswer) :
    client.receive address answer =
      { client with receipts := (client.receive address answer).receipts } := by
  unfold HttpClient.receive
  split
  · split <;> rfl
  · rfl
  · rfl

variable (remote context) (path : String)

theorem address_get : (remote.get context path).2.address = remote.address := by
  rw [get_eq, ready_eq]
  split <;> rfl

theorem policy_get : (remote.get context path).2.policy = remote.policy := by
  rw [get_eq, ready_eq]
  split <;> rfl

theorem service_get : (remote.get context path).2.service = remote.service := by
  rw [get_eq, ready_eq]
  split <;> rfl

theorem client_get :
    (remote.get context path).2.client =
      match remote.base.reach context.requestHeaders.authorization path with
      | .error _ => remote.ready.client
      | .ok address =>
        remote.ready.client.receive address (remote.service (remote.requestAt context address)) := by
  rw [get_eq]
  cases remote.base.reach context.requestHeaders.authorization path <;> rfl

theorem closed_get : (remote.get context path).2.client.closed = false := by
  rw [client_get]
  split
  · exact closed_ready remote
  · rw [receive_eq]
    exact closed_ready remote

theorem base_get : (remote.get context path).2.base = remote.base := by
  rw [base, ready_of_open (closed_get remote context path), client_get]
  split
  · rfl
  · rw [receive_eq, base]

theorem content_get :
    (remote.get context path).1 =
      match remote.base.reach context.requestHeaders.authorization path with
      | .error fault => .error fault
      | .ok address =>
        contentOf path address (remote.service (remote.requestAt context address)) := by
  rw [get_eq]
  cases remote.base.reach context.requestHeaders.authorization path <;> rfl

variable {remote context}

theorem service_after (remote : Remote) (context : Context) (inquiry : Inquiry) :
    (remote.after context inquiry).service = remote.service := by
  rw [after_eq, service_get]

theorem Sends.after (h : remote.Sends context place inquiry) (other : Inquiry) :
    (remote.after context other).Sends context place inquiry := by
  rwa [Sends, after_eq, base_get]

end Remote

end ErDiagram
