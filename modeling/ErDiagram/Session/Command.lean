import ErDiagram.Session.Schedule

/-!
# Commands to a session

A command is carried out at once or takes as long as what it waits for. After each command the session
settles; the commands of a batch are carried out without settling in between.
-/

namespace ErDiagram

inductive SessionCommand (σ : Type) where
  /-- Begins a task and waits for its end. -/
  | await (kind : TaskKind)
  /-- Schedules a task under a name. -/
  | spawn (name : String) (kind : TaskKind)
  /-- Waits for the end of a named task. -/
  | join (name : String)
  /-- Waits until no signalled rebuild is left. -/
  | awaitQuiet
  | elapse (duration : Nat)
  | batch (commands : List (SessionCommand σ))
  /-- Carries out a command outside of a running program, where signals schedule nothing. -/
  | outside (command : SessionCommand σ)
  | change (what : ContextChange)
  | assignSchema (schema : Option CodeString)
  | publish (topic : Json)
  | selectLayout (kind : Json)
  | attach
  | detach
  | snapshot
  | relationships (table : CodeString)
  | subscribers
  | history
  | selection
  | alterSource (alter : σ → σ)
  | breakAggregation (fault : Option Fault)
  | breakAssembly (fault : Option Fault)
  | listen (name : String) (failure : Option Fault) (removes : Option String)
  | unlisten (name : String)
  deriving Inhabited

inductive SessionReply where
  | done
  | committed (value : Bool)
  | each (replies : List (Except Fault SessionReply))
  | delivered (count : Nat)
  | placed (diagram : Diagram)
  | snapshot (snapshot : Snapshot)
  | relationships (relationships : Relationships)
  | subscribers (counts : List (Topic × Nat))
  | history (signals : List Signal)
  | selection (selection : Selection)
  deriving Inhabited

/-- A session with the tickets of its named tasks. -/
structure Console (σ : Type) where
  session : Session σ
  names : List (String × Nat)

namespace Console

variable {σ : Type}

/-- The ticket of a named task, the last one of that name. -/
def ticket? (c : Console σ) (name : String) : Option Nat :=
  (c.names.reverse.find? (·.1 = name)).map (·.2)

def alter (c : Console σ) (f : Session σ → Session σ) : Console σ :=
  { c with session := f c.session }

/-- Waits for the end of the rebuild of a ticket. -/
def awaitTicket (source : MetadataSource σ) (c : Console σ) (ticket : Nat) :
    Console σ × Except Fault SessionReply :=
  let session := c.session.awaitUntil source (Session.hasFinished ticket)
  let reply :=
    match session.finish? ticket with
    | some finish => finish.outcome.map SessionReply.committed
    | none => .error .timedOut
  ({ c with session := session }, reply)

mutual

/-- Carries out a command, inside a running program or outside of one. -/
def execute (source : MetadataSource σ) (inside : Bool) :
    SessionCommand σ → Console σ → Console σ × Except Fault SessionReply
  | .await kind, c =>
    let (session, ticket) := c.session.request source kind
    awaitTicket source { c with session := session } ticket
  | .spawn name kind, c =>
    ({ c with
        session := c.session.schedule kind false
        names := c.names ++ [(name, c.session.nextTicket)] }, .ok .done)
  | .join name, c =>
    match c.ticket? name with
    | some ticket => awaitTicket source c ticket
    | none => (c, .error (.missingKey name))
  | .awaitQuiet, c => (c.alter (Session.awaitUntil source Session.isQuiet), .ok .done)
  | .elapse duration, c => (c.alter (Session.elapse source · duration), .ok .done)
  | .batch commands, c =>
    let (last, replies) := executeAll source inside commands c
    (last, .ok (.each replies))
  | .outside command, c => execute source false command c
  | .change what, c => (c.alter (Session.change inside what), .ok .done)
  | .assignSchema schema, c => (c.alter (Session.assignSchema · schema), .ok .done)
  | .publish topic, c =>
    match Topic.choose topic with
    | .ok topic =>
      let (session, count) := c.session.publish inside topic
      ({ c with session := session }, .ok (.delivered count))
    | .error fault => (c, .error fault)
  | .selectLayout kind, c =>
    let (session, outcome) := c.session.selectLayout kind
    ({ c with session := session }, outcome.map SessionReply.placed)
  | .attach, c => (c.alter Session.attach, .ok .done)
  | .detach, c => (c.alter Session.detach, .ok .done)
  | .snapshot, c => (c, .ok (.snapshot c.session.view.snapshot))
  | .relationships table, c =>
    (c, (c.session.view.relationships table).map SessionReply.relationships)
  | .subscribers, c => (c, .ok (.subscribers c.session.subscribers))
  | .history, c => (c, .ok (.history c.session.bus.history))
  | .selection, c => (c, .ok (.selection c.session.context.selection))
  | .alterSource alter, c =>
    (c.alter fun session => { session with source := alter session.source }, .ok .done)
  | .breakAggregation fault, c =>
    (c.alter fun session => { session with brokenAggregation := fault }, .ok .done)
  | .breakAssembly fault, c =>
    (c.alter fun session => { session with brokenAssembly := fault }, .ok .done)
  | .listen name failure removes, c =>
    (c.alter (Session.listen · name failure removes), .ok .done)
  | .unlisten name, c =>
    match c.session.listeners.removeNamed name with
    | .ok listeners => (c.alter fun session => { session with listeners := listeners }, .ok .done)
    | .error fault => (c, .error fault)

def executeAll (source : MetadataSource σ) (inside : Bool) :
    List (SessionCommand σ) → Console σ → Console σ × List (Except Fault SessionReply)
  | [], c => (c, [])
  | command :: rest, c =>
    let (next, reply) := execute source inside command c
    let (last, replies) := executeAll source inside rest next
    (last, reply :: replies)

end

/-- Carries out a command and lets the session settle. -/
def perform (source : MetadataSource σ) (command : SessionCommand σ) (c : Console σ) :
    Console σ × Except Fault SessionReply :=
  let (next, reply) := execute source true command c
  (next.alter (Session.settle source), reply)

end Console

end ErDiagram
