import ErDiagram.Source.Document
import ErDiagram.Uri.Reach
import ErDiagram.Uri.Segment

/-!
# Services as sources

A remote source asks a service over HTTP. Each request carries the headers of the context as it stands at
that moment. The source keeps a client open between requests; a client that was closed is opened again
when the next request needs one. A client keeps the cookies that it was given and sends them back, by a
policy of its own; one that is opened again has none.

A broken transport, an answer with an error status, a body that is no JSON and a value that does not fit
are all faults of the service. A list of tables that is no list counts as an empty one. An answer from an
address that does not say what kind of address it is cannot be taken.
-/

namespace ErDiagram

structure HttpRequest where
  method : String
  path : String
  authorization : Option CodeString
  database : Option String
  contentType : Option String
  cookie : Option String
  deriving DecidableEq, Repr

/-- The body of an answer: the JSON of a value, or any text. -/
inductive HttpBody where
  | json (value : Json)
  | text (content : String)
  deriving Repr, Inhabited

/-- What comes of a request: an answer with a status, a body and the cookies that the client is to keep, a
broken transport, or a misuse of the client, which is no fault of the service. -/
inductive HttpAnswer where
  | answered (status : Int) (body : HttpBody) (cookies : List String := [])
  | broken (kind : String) (message : CodeString)
  | misused (kind : String) (message : CodeString)
  deriving Repr, Inhabited

/-- The cookies that an answer from an address brought. -/
structure Receipt where
  address : Uri.Address
  cookies : List String
  deriving DecidableEq, Repr

/-- How a client makes the cookies that it sends to an address from those that it was given since it was
opened, in order. One that was given none sends none. -/
structure CookiePolicy where
  header : List Receipt → Uri.Address → Option String
  header_nil : ∀ address, header [] address = none

/-- A connection to a service, with the cookies that it brought so far. -/
structure HttpClient where
  base : Uri.Address
  closed : Bool
  receipts : List Receipt
  deriving DecidableEq, Repr

/-- A source that asks a service at an address, and the requests it has sent. -/
structure Remote where
  address : Uri.Address
  client : HttpClient
  policy : CookiePolicy
  service : HttpRequest → HttpAnswer
  sent : List HttpRequest

namespace CookiePolicy

/-- The policy to send no cookies. -/
def silent : CookiePolicy := ⟨fun _ _ => none, fun _ => rfl⟩

end CookiePolicy

namespace HttpClient

def opened (address : Uri.Address) : HttpClient := ⟨address, false, []⟩

/-- The client once it has what came from an address. An address that does not say what kind of address it is
gives no cookies. -/
def receive (client : HttpClient) (address : Uri.Address) : HttpAnswer → HttpClient
  | .answered _ _ cookies =>
    if address.saysKind && !cookies.isEmpty then
      { client with receipts := client.receipts ++ [⟨address, cookies⟩] }
    else client
  | .broken _ _ | .misused _ _ => client

end HttpClient

namespace HttpBody

/-- The value of a body, if it is JSON. JSON that is nested too deep is a fault, and not one of the
service. -/
def value? : HttpBody → Except Fault (Option Json)
  | json value => .ok (some value)
  | text content =>
    match Json.readSent content with
    | .ok value => .ok (some value)
    | .error (.tooDeep container) => .error (.unreadable (.tooDeep container))
    | .error _ => .ok none

end HttpBody

namespace HttpAnswer

/-- The answer to a path: its own, or the one for every other path, or none found. -/
def scripted (answers : List (String × HttpAnswer)) (request : HttpRequest) : HttpAnswer :=
  let own := answers.find? (·.1 = request.path)
  let other := answers.find? (·.1 = "*")
  ((own <|> other).map (·.2)).getD (.answered 404 (.text ""))

def isError (status : Int) : Bool :=
  400 ≤ status && status ≤ 599

/-- The error that the value of a body tells of, if it is an object that has one. -/
def errorIn? : Option Json → Option CodeString
  | some (.obj fields) =>
    ((Json.field? fields "error").filter Json.saysSomething).map Json.display
  | _ => none

end HttpAnswer

namespace Remote

def connect (address : String) (policy : CookiePolicy) (service : HttpRequest → HttpAnswer) :
    Except Fault Remote :=
  match Uri.Address.baseOfText address with
  | .ok base => .ok ⟨base, .opened base, policy, service, []⟩
  | .error cause => .error (.address cause)

def ready (remote : Remote) : Remote :=
  if remote.client.closed then { remote with client := .opened remote.address } else remote

def close (remote : Remote) : Remote :=
  { remote with client := { remote.client with closed := true } }

/-- The request to an address. What the address tells about the user goes before the headers. -/
def requestTo (address : Uri.Address) (headers : RequestHeaders) (cookie : Option String) :
    HttpRequest where
  method := "GET"
  path := String.ofList address.target
  authorization := address.credentials?.map .whole <|> headers.authorization
  database := headers.database
  contentType := some "application/json"
  cookie := cookie

/-- What an answer to a request for a path at an address means. -/
def contentOf (path : String) (address : Uri.Address) : HttpAnswer → Except Fault Json
  | .broken kind message => .error (.service (if message = "" then kind else message) none)
  | .misused kind message => .error (.raised kind (some message))
  | .answered status body _ => do
    if !address.saysKind then throw (.unknownAddressKind address.shown)
    let value ← body.value?
    if HttpAnswer.isError status then
      let statusLine := "HTTP " ++ toString status ++ " from " ++ address.text
      throw (.service ((HttpAnswer.errorIn? value).getD statusLine) (some status))
    match value with
    | some value => return value
    | none => throw (.service ("Invalid JSON from " ++ path) none)

def get (remote : Remote) (context : Context) (path : String) : Except Fault Json × Remote :=
  let remote := remote.ready
  let headers := context.requestHeaders
  match remote.client.base.reach headers.authorization path with
  | .error fault => (.error fault, remote)
  | .ok address =>
    let request := requestTo address headers (remote.policy.header remote.client.receipts address)
    let answer := remote.service request
    (contentOf path address answer,
      { remote with
        client := remote.client.receive address answer
        sent := remote.sent ++ [request] })

def listingOf (schema : CodeString) : Json → Except Fault Listing
  | .arr rows =>
    match rows.mapM ListedTable.ofJson with
    | .ok tables => .ok (.tables tables)
    | .error fault =>
      .error (.service ("Malformed table list for schema '" ++ schema ++ "': " ++ fault.message) none)
  | _ => .ok (.tables [])

def structureOf (schema table : CodeString) (value : Json) : Except Fault RawStructure :=
  match RawStructure.ofJson value with
  | .ok s => .ok s
  | .error fault => .error (SchemaDocument.malformedStructure schema table fault)

/-- The text of a name that goes into a path. -/
def sendable (name : CodeString) : Except Fault String :=
  match name.text? with
  | some text => .ok text
  | none => .error (.notSendable name)

/-- Asks for what is at a path and reads it. A path that cannot be told is not asked for. -/
def ask {α : Type} (remote : Remote) (context : Context) (path : Except Fault String)
    (reader : Json → Except Fault α) : Except Fault α × Remote :=
  match path with
  | .error fault => (.error fault, remote)
  | .ok path =>
    let (content, remote) := remote.get context path
    (content.bind reader, remote)

def listTables (remote : Remote) (context : Context) (schema : CodeString) :
    Except Fault Listing × Remote :=
  remote.ask context (Uri.tablesPath <$> sendable schema) (listingOf schema)

def tableStructure (remote : Remote) (context : Context) (schema table : CodeString) :
    Except Fault RawStructure × Remote :=
  remote.ask context (Uri.structurePath <$> sendable schema <*> sendable table)
    (structureOf schema table)

end Remote

end ErDiagram
