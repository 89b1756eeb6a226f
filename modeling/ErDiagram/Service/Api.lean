import ErDiagram.Sample.Catalog
import ErDiagram.Service.Body
import ErDiagram.Service.Message
import ErDiagram.Service.Route
import ErDiagram.Session.Schedule

/-!
# The service

The service answers requests about one session. Most answers come at once. A refresh is answered when its
own rebuild has ended, with the view at that moment, and a selection when no rebuild that a signal asked
for is left. Several requests can be under way together: `serveAll` lets each begin and settle before the
next one, and then lets time pass until all are answered.
-/

namespace ErDiagram

/-- A session with the number of times the service was started and not stopped. -/
structure Service (σ : Type) where
  session : Session σ
  starts : Nat

/-- A request that has begun: it has ended with an answer or a fault, or waits for a rebuild or for quiet. -/
inductive Awaited where
  | ended (outcome : Except Fault ClientAnswer)
  | rebuild (ticket : Nat)
  | quiet

def Awaited.answered (answer : ClientAnswer) : Awaited := .ended (.ok answer)

namespace Service

variable {σ : Type}

def viewAnswer (v : View) : Except Fault ClientAnswer :=
  ClientAnswer.sent (.okay v.snapshot.toJson)

def signalJson (signal : Signal) : Json :=
  .obj [("topic", .str signal.topic.name), ("delivered", .int signal.delivered)]

def sampleJson (entry : SampleEntry) : Json :=
  .obj [("name", .str entry.name), ("description", entry.description)]

/-- Does what a body asks for, or ends the request as the body makes it end. -/
def withBody {α : Type} (s : Session σ) (body : Except (Except Fault ClientAnswer) α)
    (act : α → Session σ × Awaited) : Session σ × Awaited :=
  match body with
  | .ok value => act value
  | .error outcome => (s, .ended outcome)

def select (s : Session σ) (what : ContextChange) : Session σ × Awaited :=
  (s.change true what, .quiet)

def refresh (source : MetadataSource σ) (s : Session σ) : Session σ × Awaited :=
  match s.context.wantedSchema with
  | none =>
    (s, .answered (.refusal 400 "No schema selected. Call /context/schema first."))
  | some _ =>
    let (begun, ticket) := s.request source .rebuild
    (begun, .rebuild ticket)

def relationshipsAnswer (v : View) (table : String) : Except Fault ClientAnswer :=
  match v.relationships table with
  | .ok relationships => ClientAnswer.sent (.okay relationships.toJson)
  | .error _ => .ok (.refusal 404 ("Table '" ++ table ++ "' not found in graph."))

/-- The samples of a catalog as an answer. A description that is no text fits no answer, and every such
description is counted in the fault. -/
def samplesAnswer (catalog : SampleCatalog) : Except Fault ClientAnswer := do
  let entries ← catalog.entries
  match entries.countP fun entry => !entry.description.isText with
  | 0 => ClientAnswer.sent (.okay (.arr (entries.map sampleJson)))
  | count => throw (.raised "ResponseValidationError" (some (toString count ++ " validation errors:")))

def visit (source : MetadataSource σ) (catalog : SampleCatalog) (request : ClientRequest)
    (s : Session σ) : Endpoint → Session σ × Awaited
  | .health => (s, .answered (.okay (.obj [("status", .str "ok")])))
  | .graph => (s, .ended (viewAnswer s.view))
  | .refresh => refresh source s
  | .layout =>
    withBody s (request.readBody LayoutRequest.ofFields) fun wish =>
      let (next, placed) := s.selectLayout wish.layout.toJson
      (next, .ended (placed.bind fun _ => viewAnswer next.view))
  | .relationships table => (s, .ended (relationshipsAnswer s.view table))
  | .context => (s, .ended (ClientAnswer.sent (.okay s.context.selection.toJson)))
  | .schema =>
    withBody s (request.readBody SchemaRequest.ofFields) fun wish =>
      select s (.schema (some wish.schema))
  | .database =>
    withBody s (request.readBody DatabaseRequest.ofFields) fun wish =>
      select s (.database wish.database)
  | .signals => (s, .answered (.okay (.arr (s.bus.history.map signalJson))))
  | .samples => (s, .ended (samplesAnswer catalog))

def accept (source : MetadataSource σ) (catalog : SampleCatalog) (s : Session σ)
    (request : ClientRequest) : Session σ × Awaited :=
  let method := plainMethod request.method
  match Route.ofTarget method request.target with
  | .error fault => (s, .ended (.error fault))
  | .ok (.endpoint place) => visit source catalog request s place
  | .ok .methodNotAllowed =>
    (s, .ended ((ClientAnswer.refusal 405 "Method Not Allowed").toMethod method))
  | .ok .redirect => (s, .ended ClientAnswer.bodiless)
  | .ok .notFound => (s, .ended ((ClientAnswer.refusal 404 "Not Found").toMethod method))

/-- A request with what it has ended with by now, if it has. -/
def resolve (s : Session σ) : Awaited → Awaited
  | .ended outcome => .ended outcome
  | .rebuild ticket =>
    match s.finish? ticket with
    | some finish => .ended (finish.outcome.bind fun _ => viewAnswer finish.view)
    | none => .rebuild ticket
  | .quiet => if s.isQuiet then .ended (viewAnswer s.view) else .quiet

def outcome? : Awaited → Option (Except Fault ClientAnswer)
  | .ended outcome => some outcome
  | _ => none

/-- Lets each request begin and settle before the next one. -/
def beginAll (source : MetadataSource σ) (catalog : SampleCatalog) :
    List ClientRequest → List Awaited → Session σ → Session σ × List Awaited
  | [], begun, s => (s, begun)
  | request :: rest, begun, s =>
    let (next, awaited) := accept source catalog s request
    let settled := next.settle source
    beginAll source catalog rest ((begun ++ [awaited]).map (resolve settled)) settled

/-- Lets time pass until all requests are answered. -/
def awaitAnswers (source : MetadataSource σ) :
    Nat → List Awaited → Session σ → Session σ × List Awaited
  | 0, begun, s => (s, begun)
  | fuel + 1, begun, s =>
    if begun.all fun awaited => (outcome? awaited).isSome then (s, begun)
    else match s.nextDue? with
      | some due =>
        let next := s.arrive source due
        awaitAnswers source fuel (begun.map (resolve next)) next
      | none => (s, begun)

/-- Answers several requests that are under way together. One that is never answered times out. -/
def serveAll (source : MetadataSource σ) (catalog : SampleCatalog) (service : Service σ)
    (requests : List ClientRequest) : Service σ × List (Except Fault ClientAnswer) :=
  let (begun, waiting) := beginAll source catalog requests [] service.session
  let (last, awaited) := awaitAnswers source (begun.eventsLeft + 1) waiting begun
  ({ service with session := last },
    awaited.map fun a => (outcome? a).getD (.error .timedOut))

def serve (source : MetadataSource σ) (catalog : SampleCatalog) (service : Service σ)
    (request : ClientRequest) : Service σ × Except Fault ClientAnswer :=
  let (next, outcomes) := serveAll source catalog service [request]
  (next, outcomes.headD (.error .timedOut))

/-- Starts the service: the view is activated. -/
def start (source : MetadataSource σ) (service : Service σ) : Service σ :=
  let (begun, ticket) := service.session.request source .activate
  ⟨begun.awaitUntil source (Session.hasFinished ticket), service.starts + 1⟩

/-- Tells the names of the samples and starts the service. A catalog that cannot be listed keeps the service
from starting. -/
def launch (source : MetadataSource σ) (catalog : SampleCatalog) (service : Service σ) :
    Except Fault (List String × Service σ) := do
  let entries ← catalog.entries
  return (entries.map (·.name), service.start source)

/-- Stops a service that was started: the view is detached and the source closed. -/
def stop (source : MetadataSource σ) (service : Service σ) : Service σ :=
  match service.starts with
  | 0 => service
  | starts + 1 =>
    let detached := service.session.detach
    ⟨{ detached with source := source.close detached.source }, starts⟩

def elapse (source : MetadataSource σ) (service : Service σ) (duration : Nat) : Service σ :=
  { service with session := service.session.elapse source duration }

end Service

end ErDiagram
