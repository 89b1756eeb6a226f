import ErDiagram.Aggregation.Work
import ErDiagram.Signal.Bus
import ErDiagram.View.Listeners
import ErDiagram.View.State

/-!
# Sessions

A session joins the context, the bus, the view and a source of metadata. While the view is attached to the
bus, a changed schema or database asks for a rebuild. A rebuild is a task that begins later, reads the
context when it begins, and then runs as a cycle until its work has ended.

This module has what happens at once; `Session.Schedule` has what takes time.
-/

namespace ErDiagram

/-- What the view does when a signal reaches it. -/
inductive Reaction where
  | rebuild
  deriving DecidableEq, Repr, Inhabited

/-- A task that activates the view attaches it to the bus before it rebuilds. -/
inductive TaskKind where
  | activate
  | rebuild
  deriving DecidableEq, Repr, Inhabited

/-- A rebuild that has not begun. A ticket is its own for ever. -/
structure Task where
  ticket : Nat
  kind : TaskKind
  signalled : Bool
  deriving DecidableEq, Repr

/-- A rebuild that has begun and waits for its work, with the requests made for it. -/
structure Cycle where
  ticket : Nat
  signalled : Bool
  generation : Nat
  schema : CodeString
  work : Work
  calls : List SourceCall

/-- The end of a rebuild: whether it was committed or how it failed, the view at that moment, and the
requests made for it. -/
structure Finish where
  ticket : Nat
  outcome : Except Fault Bool
  view : View
  calls : List SourceCall

structure Session (σ : Type) where
  limits : FetchLimits
  clock : Nat
  context : Context
  bus : Bus Reaction
  subscriptions : List Subscription
  view : View
  listeners : Listeners
  source : σ
  /-- A fault that every new aggregation ends with at once. -/
  brokenAggregation : Option Fault
  /-- A fault that every assembly ends with. -/
  brokenAssembly : Option Fault
  nextTicket : Nat
  pending : List Task
  cycles : List Cycle
  finished : List Finish
  calls : List SourceCall
  notices : List Notice

namespace Session

variable {σ : Type}

def rebuildTopics : List Topic := [.schemaChanged, .databaseChanged]

def subscribe (s : Session σ) (topic : Topic) : Session σ :=
  let (handle, bus) := s.bus.subscribe topic .rebuild
  { s with bus := bus, subscriptions := s.subscriptions ++ [handle] }

/-- Attaches the view to the bus, unless it is attached. -/
def attach (s : Session σ) : Session σ :=
  if s.subscriptions.isEmpty then rebuildTopics.foldl subscribe s else s

def detach (s : Session σ) : Session σ :=
  { s with
    bus := s.subscriptions.foldl (fun bus handle => (handle.release bus).2) s.bus
    subscriptions := [] }

/-- A session in which nothing has happened but that the view is attached. -/
def opened (limits : FetchLimits) (context : Context) (layout : LayoutKind) (box : NodeBox)
    (source : σ) : Session σ :=
  attach
    { limits := limits
      clock := 0
      context := context
      bus := .empty
      subscriptions := []
      view := .fresh layout box
      listeners := .empty
      source := source
      brokenAggregation := none
      brokenAssembly := none
      nextTicket := 0
      pending := []
      cycles := []
      finished := []
      calls := []
      notices := [] }

/-- Adds a task, to begin after those that are there. -/
def schedule (s : Session σ) (kind : TaskKind) (signalled : Bool) : Session σ :=
  { s with
    nextTicket := s.nextTicket + 1
    pending := s.pending ++ [⟨s.nextTicket, kind, signalled⟩] }

/-- What the view does when a signal reaches it: inside a running program it schedules a rebuild. -/
def react (inside : Bool) (_ : Reaction) (s : Session σ) : Option (Session σ × Option Fault) :=
  some (if inside then s.schedule .rebuild true else s, none)

/-- Publishes a signal, and tells to how many handlers it was delivered. -/
def publish (inside : Bool) (topic : Topic) (s : Session σ) : Session σ × Nat :=
  let delivered := Bus.deliver (·.bus) (react inside) topic (s.bus.registered topic) s
  let (last, count) := delivered.getD (s, 0)
  ({ last with bus := last.bus.record ⟨topic, count⟩ }, count)

/-- Changes the context and publishes the signal that is due for it. -/
def change (inside : Bool) (what : ContextChange) (s : Session σ) : Session σ :=
  (publish inside what.topic { s with context := s.context.apply what }).1

def assignSchema (s : Session σ) (schema : Option CodeString) : Session σ :=
  { s with context := { s.context with schema := schema } }

/-- Shows a view and tells the listeners of its diagram; one of them may fail. -/
def present (s : Session σ) (v : View) : Session σ × Option Fault :=
  let (listeners, notices, failure) := s.listeners.notify v.diagram
  ({ s with view := v, listeners := listeners, notices := s.notices ++ notices }, failure)

/-- Selects a layout and places the nodes anew. The selection stands when the nodes cannot be placed. -/
def selectLayout (s : Session σ) (kind : Json) : Session σ × Except Fault Diagram :=
  match s.view.selectLayout kind with
  | .error fault => (s, .error fault)
  | .ok selected =>
    match selected.replace with
    | .error fault => ({ s with view := selected }, .error fault)
    | .ok placed =>
      match s.present placed with
      | (shown, none) => (shown, .ok shown.view.diagram)
      | (shown, some fault) => (shown, .error fault)

def finish (s : Session σ) (ticket : Nat) (calls : List SourceCall) (outcome : Except Fault Bool) :
    Session σ :=
  { s with finished := s.finished ++ [⟨ticket, outcome, s.view, calls⟩] }

def finish? (s : Session σ) (ticket : Nat) : Option Finish :=
  s.finished.find? (·.ticket = ticket)

def listen (s : Session σ) (name : String) (failure : Option Fault) (removes : Option String) :
    Session σ :=
  { s with listeners := s.listeners.add (s.listeners.create name failure removes) }

def subscribers (s : Session σ) : List (Topic × Nat) :=
  Topic.all.map fun topic => (topic, s.bus.count topic)

end Session

end ErDiagram
