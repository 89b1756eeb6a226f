import ErDiagram.Session.State

/-!
# The schedule of a session

Time stands still while anything can be done. `settle` begins all tasks that wait, in order, and then goes
on with every cycle whose work is due. `elapse` lets time pass, stopping at each event on the way, and
`awaitUntil` lets just as much pass as something takes.
-/

namespace ErDiagram.Session

variable {σ : Type}

/-- Shows a view and notes the end of the rebuild that led to it. -/
def conclusion (s : Session σ) (ticket : Nat) (calls : List SourceCall) (v : View) : Session σ :=
  match s.present v with
  | (shown, none) => shown.finish ticket calls (.ok true)
  | (shown, some fault) => shown.finish ticket calls (.error fault)

/-- Ends a cycle with what it has come to. -/
def conclude (s : Session σ) (cycle : Cycle) (result : CycleResult) : Session σ :=
  match s.view.conclude cycle.generation cycle.schema result with
  | .error fault => s.finish cycle.ticket cycle.calls (.error fault)
  | .ok (_, false) => s.finish cycle.ticket cycle.calls (.ok false)
  | .ok (next, true) => s.conclusion cycle.ticket cycle.calls next

def concludeWork (s : Session σ) (cycle : Cycle) (result : Except Fault Collected) : Session σ :=
  s.conclude cycle (.ofCollection s.brokenAssembly result)

def beginEmpty (s : Session σ) (task : Task) : Session σ :=
  s.conclusion task.ticket [] s.view.clear

/-- Begins the work of a schema, unless something makes every aggregation fail at once. -/
def startWork (source : MetadataSource σ) (s : Session σ) (schema : CodeString) : WorkRound σ :=
  match s.brokenAggregation with
  | some fault => ⟨.ended (.error fault), s.source, []⟩
  | none => Work.start source s.context schema s.clock s.source

def beginCycle (source : MetadataSource σ) (s : Session σ) (task : Task) (schema : CodeString) :
    Session σ :=
  let v := s.view.await
  let round := s.startWork source schema
  let cycle : Cycle :=
    ⟨task.ticket, task.signalled, v.generation, schema, round.work, round.calls⟩
  let asked := { s with view := v, source := round.source, calls := s.calls ++ round.calls }
  match round.work.result? with
  | some result => asked.concludeWork cycle result
  | none => { asked with cycles := s.cycles ++ [cycle] }

/-- Begins a task: it reads the context as it is now. -/
def begin (source : MetadataSource σ) (s : Session σ) (task : Task) : Session σ :=
  let ready := match task.kind with
    | .activate => s.attach
    | .rebuild => s
  match ready.context.wantedSchema with
  | none => ready.beginEmpty task
  | some schema => ready.beginCycle source task schema

def beginPending (source : MetadataSource σ) (s : Session σ) : Session σ :=
  s.pending.foldl (begin source) { s with pending := [] }

/-- Goes on with the cycle of a ticket, as far as its work can go now. -/
def progress (source : MetadataSource σ) (s : Session σ) (ticket : Nat) : Session σ :=
  match s.cycles.find? (·.ticket = ticket) with
  | none => s
  | some cycle =>
    let round := Work.advance source s.limits s.context s.clock cycle.work s.source
    let asked := { s with source := round.source, calls := s.calls ++ round.calls }
    let cycle := { cycle with work := round.work, calls := cycle.calls ++ round.calls }
    match round.work.result? with
    | some result =>
      concludeWork { asked with cycles := s.cycles.filter (·.ticket ≠ ticket) } cycle result
    | none =>
      { asked with cycles := s.cycles.map fun c => if c.ticket = ticket then cycle else c }

/-- Goes on with every cycle, in the order in which they began. -/
def progressAll (source : MetadataSource σ) (s : Session σ) : Session σ :=
  (s.cycles.map (·.ticket)).foldl (progress source) s

/-- Does all that can be done without letting time pass. -/
def settle (source : MetadataSource σ) (s : Session σ) : Session σ :=
  progressAll source (beginPending source s)

def nextDue? (s : Session σ) : Option Nat :=
  (s.cycles.filterMap fun cycle => cycle.work.nextDue?).min?

/-- How many events the cycles can still take. -/
def eventsLeft (s : Session σ) : Nat :=
  (s.cycles.map fun cycle => cycle.work.eventsLeft).foldl (· + ·) 0

/-- The session at a later time, gone on with every cycle. -/
def arrive (source : MetadataSource σ) (s : Session σ) (time : Nat) : Session σ :=
  progressAll source { s with clock := time }

/-- Goes from event to event up to a time. -/
def elapseTo (source : MetadataSource σ) (target : Nat) : Nat → Session σ → Session σ
  | 0, s => { s with clock := target }
  | fuel + 1, s =>
    match s.nextDue? with
    | some due =>
      if due ≤ target then elapseTo source target fuel (s.arrive source due)
      else { s with clock := target }
    | none => { s with clock := target }

def elapse (source : MetadataSource σ) (s : Session σ) (duration : Nat) : Session σ :=
  let settled := s.settle source
  elapseTo source (settled.clock + duration) settled.eventsLeft settled

/-- Goes from event to event until something holds, or until nothing more happens. -/
def untilHolds (source : MetadataSource σ) (stop : Session σ → Bool) : Nat → Session σ → Session σ
  | 0, s => s
  | fuel + 1, s =>
    if stop s then s
    else match s.nextDue? with
      | some due => untilHolds source stop fuel (s.arrive source due)
      | none => s

/-- Lets as much time pass as it takes until something holds. What holds already takes nothing, and then
no task that waits begins either. -/
def awaitUntil (source : MetadataSource σ) (stop : Session σ → Bool) (s : Session σ) : Session σ :=
  if stop s then s
  else
    let settled := s.settle source
    untilHolds source stop (settled.eventsLeft + 1) settled

def hasFinished (ticket : Nat) (s : Session σ) : Bool :=
  (s.finish? ticket).isSome

/-- Whether no rebuild that a signal asked for is pending or under way. -/
def isQuiet (s : Session σ) : Bool :=
  !(s.pending.any (·.signalled)) && !(s.cycles.any (·.signalled))

/-- Begins a task of a kind without a signal, ahead of the tasks that wait. The second part is its
ticket. -/
def request (source : MetadataSource σ) (s : Session σ) (kind : TaskKind) : Session σ × Nat :=
  let ticket := s.nextTicket
  (begin source { s with nextTicket := ticket + 1 } ⟨ticket, kind, false⟩, ticket)

end ErDiagram.Session
