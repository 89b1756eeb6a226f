import ErDiagram.Proofs.Session.Signals
import ErDiagram.Proofs.View.Offer
import ErDiagram.Session.Schedule

/-!
# Runs of a session

A run takes a session through events in any order. Tasks begin in any order, whatever the order in which
they were scheduled; cycles go on in any order and at any time, and their work may also end with anything
at any moment. What a console does with a session is one run among many.

A rebuild ends where it began, when nothing has to be waited for, or as a cycle that was under way. Either
way its end is known from the session at that moment, the generation that the rebuild took and what it
offers to show.
-/

namespace ErDiagram

inductive SessionEvent (σ : Type) where
  /-- A rebuild is asked for and begins at once. -/
  | request (kind : TaskKind)
  | schedule (kind : TaskKind) (signalled : Bool)
  /-- A task that waits begins. -/
  | start (task : Task)
  /-- A cycle goes on as far as its work can go now. -/
  | progress (ticket : Nat)
  /-- The work of a cycle ends with any result. -/
  | halt (ticket : Nat) (result : Except Fault Collected)
  | reach (time : Nat)
  | change (inside : Bool) (what : ContextChange)
  | publish (inside : Bool) (topic : Topic)
  | assignSchema (schema : Option CodeString)
  | selectLayout (kind : Json)
  | attach
  | detach
  | alterSource (alter : σ → σ)
  | breakAggregation (fault : Option Fault)
  | breakAssembly (fault : Option Fault)
  | listen (name : String) (failure : Option Fault) (removes : Option String)
  | unlisten (name : String)

/-- The end of a rebuild: the session at that moment, the generation that the rebuild took when it began,
and what it offers to show. -/
structure Closing (σ : Type) where
  session : Session σ
  ticket : Nat
  calls : List SourceCall
  generation : Nat
  offer : Offer

/-- A session with what happens to it next. -/
structure Moment (σ : Type) where
  session : Session σ
  event : SessionEvent σ

namespace Closing

variable {σ : Type}

/-- The session after the end of a rebuild. Only the rebuild of the latest generation shows its offer. -/
def after (c : Closing σ) : Session σ :=
  if c.session.view.isLatest c.generation then
    match c.offer.commit c.session.view with
    | .ok shown => c.session.conclusion c.ticket c.calls shown
    | .error fault => c.session.finish c.ticket c.calls (.error fault)
  else c.session.finish c.ticket c.calls (.ok false)

/-- Whether a rebuild commits: its offer is put in place and the listeners are told. -/
def Commits (c : Closing σ) : Prop :=
  ∃ shown, c.offer.commit c.session.view = .ok shown ∧
    c.after = c.session.conclusion c.ticket c.calls shown

/-- Whether the latest rebuild ends with a diagram for which the layout has no points. -/
def Unplaced (c : Closing σ) : Prop :=
  c.generation = c.session.view.generation ∧
    ∃ fault, Layout.positions c.offer.diagram.nodes.length c.session.view.layout
      c.session.view.box = .error fault

/-- The ticket of a rebuild and the generation that it took. -/
def label (c : Closing σ) : Nat × Nat :=
  (c.ticket, c.generation)

end Closing

def Cycle.goneOn {σ : Type} (cycle : Cycle) (round : WorkRound σ) : Cycle :=
  { cycle with work := round.work, calls := cycle.calls ++ round.calls }

namespace Session

variable {σ : Type}

/-- The tickets and the generations of the cycles that are under way. -/
def flights (s : Session σ) : List (Nat × Nat) :=
  s.cycles.map fun cycle => (cycle.ticket, cycle.generation)

def waiting (s : Session σ) : List Nat :=
  s.pending.map (·.ticket)

def cycle? (s : Session σ) (ticket : Nat) : Option Cycle :=
  s.cycles.find? (·.ticket = ticket)

def issued (s : Session σ) : Session σ :=
  { s with nextTicket := s.nextTicket + 1 }

def without (s : Session σ) (task : Task) : Session σ :=
  { s with pending := s.pending.erase task }

def landed (s : Session σ) (ticket : Nat) : Session σ :=
  { s with cycles := s.cycles.filter (·.ticket ≠ ticket) }

/-- A session in which a task of a kind has begun but has not read the context yet. -/
def readied (s : Session σ) : TaskKind → Session σ
  | .activate => s.attach
  | .rebuild => s

/-- A session that has taken the next generation and is to show nothing. -/
def emptied (s : Session σ) : Session σ :=
  { s with view := { s.view with generation := s.view.generation + 1 } }

/-- A session that has taken the next generation and begun to work on a schema. -/
def asked (source : MetadataSource σ) (s : Session σ) (schema : CodeString) : Session σ :=
  let round := s.startWork source schema
  { s with view := s.view.await, source := round.source, calls := s.calls ++ round.calls }

/-- The cycle of a task that has begun to work on a schema. -/
def cycleOf (source : MetadataSource σ) (s : Session σ) (task : Task) (schema : CodeString) : Cycle :=
  let round := s.startWork source schema
  ⟨task.ticket, task.signalled, s.view.generation + 1, schema, round.work, round.calls⟩

/-- The round of work by which a cycle goes on now. -/
def roundOf (source : MetadataSource σ) (s : Session σ) (cycle : Cycle) : WorkRound σ :=
  Work.advance source s.limits s.context s.clock cycle.work s.source

def drawn (s : Session σ) (round : WorkRound σ) : Session σ :=
  { s with source := round.source, calls := s.calls ++ round.calls }

/-- The end of a cycle whose work has come to a result. -/
def closingOf (s : Session σ) (cycle : Cycle) (result : Except Fault Collected) : Closing σ where
  session := s
  ticket := cycle.ticket
  calls := cycle.calls
  generation := cycle.generation
  offer := .result cycle.schema (.ofCollection s.brokenAssembly result)

/-- The end of a rebuild that has nothing to wait for. -/
def beginning? (source : MetadataSource σ) (s : Session σ) (task : Task) : Option (Closing σ) :=
  let ready := s.readied task.kind
  match ready.context.wantedSchema with
  | none => some ⟨ready.emptied, task.ticket, [], ready.view.generation + 1, .nothing⟩
  | some schema =>
    let cycle := ready.cycleOf source task schema
    cycle.work.result?.map ((ready.asked source schema).closingOf cycle)

def ending? (source : MetadataSource σ) (s : Session σ) (ticket : Nat) : Option (Closing σ) :=
  (s.cycle? ticket).bind fun cycle =>
    let round := s.roundOf source cycle
    round.work.result?.map (((s.landed ticket).drawn round).closingOf (cycle.goneOn round))

/-- The end of a cycle whose work comes to a result. -/
def halting? (s : Session σ) (ticket : Nat) (result : Except Fault Collected) :
    Option (Closing σ) :=
  (s.cycle? ticket).map fun cycle => (s.landed ticket).closingOf cycle result

/-- A session in which the work of a cycle has come to a result. -/
def halt (s : Session σ) (ticket : Nat) (result : Except Fault Collected) : Session σ :=
  match s.cycle? ticket with
  | none => s
  | some cycle => (s.landed ticket).concludeWork cycle result

/-- A session without the listener that was last added under a name, if there is one. -/
def unlisten (s : Session σ) (name : String) : Session σ :=
  match s.listeners.removeNamed name with
  | .ok listeners => { s with listeners := listeners }
  | .error _ => s

def occur (source : MetadataSource σ) (s : Session σ) : SessionEvent σ → Session σ
  | .request kind => (s.request source kind).1
  | .schedule kind signalled => s.schedule kind signalled
  | .start task => if task ∈ s.pending then (s.without task).begin source task else s
  | .progress ticket => s.progress source ticket
  | .halt ticket result => s.halt ticket result
  | .reach time => { s with clock := time }
  | .change inside what => s.change inside what
  | .publish inside topic => (s.publish inside topic).1
  | .assignSchema schema => s.assignSchema schema
  | .selectLayout kind => (s.selectLayout kind).1
  | .attach => s.attach
  | .detach => s.detach
  | .alterSource alter => { s with source := alter s.source }
  | .breakAggregation fault => { s with brokenAggregation := fault }
  | .breakAssembly fault => { s with brokenAssembly := fault }
  | .listen name failure removes => s.listen name failure removes
  | .unlisten name => s.unlisten name

def through (source : MetadataSource σ) (s : Session σ) (events : List (SessionEvent σ)) :
    Session σ :=
  events.foldl (occur source) s

def momentsOf (source : MetadataSource σ) : Session σ → List (SessionEvent σ) → List (Moment σ)
  | _, [] => []
  | s, e :: rest => ⟨s, e⟩ :: momentsOf source (s.occur source e) rest

end Session

namespace Moment

variable {σ : Type}

/-- The ticket of the rebuild that begins at a moment. -/
def begun? (m : Moment σ) : Option Nat :=
  match m.event with
  | .request _ => some m.session.nextTicket
  | .start task => if task ∈ m.session.pending then some task.ticket else none
  | _ => none

def selected? (m : Moment σ) : Option LayoutKind :=
  match m.event with
  | .selectLayout kind => (LayoutKind.choose kind).toOption
  | _ => none

/-- The end of the rebuild that ends at a moment. -/
def closing? (source : MetadataSource σ) (m : Moment σ) : Option (Closing σ) :=
  match m.event with
  | .request kind => m.session.issued.beginning? source ⟨m.session.nextTicket, kind, false⟩
  | .start task =>
    if task ∈ m.session.pending then (m.session.without task).beginning? source task else none
  | .progress ticket => m.session.ending? source ticket
  | .halt ticket result => m.session.halting? ticket result
  | _ => none

/-- Whether the layout has points for all nodes that are to be placed at a moment. -/
def places (source : MetadataSource σ) (m : Moment σ) : Bool :=
  ((m.closing? source).all fun c =>
    !c.session.view.isLatest c.generation || (c.offer.commit c.session.view).isOk) &&
  m.selected?.all fun kind => (Layout.apply m.session.view.diagram kind m.session.view.box).isOk

end Moment

/-- The runs of a session from a first state on, in which every event is of an allowed kind. -/
inductive Run {σ : Type} (source : MetadataSource σ) (allowed : Moment σ → Prop)
    (first : Session σ) : List (Moment σ) → Session σ → Prop where
  | nil : Run source allowed first [] first
  | snoc {moments : List (Moment σ)} {s : Session σ} (run : Run source allowed first moments s)
      (e : SessionEvent σ) (h : allowed ⟨s, e⟩) :
      Run source allowed first (moments ++ [⟨s, e⟩]) (s.occur source e)

theorem Run.through {σ : Type} {source : MetadataSource σ} {allowed : Moment σ → Prop}
    {first s : Session σ} {moments : List (Moment σ)} (run : Run source allowed first moments s)
    (events : List (SessionEvent σ)) (h : ∀ m ∈ s.momentsOf source events, allowed m) :
    Run source allowed first (moments ++ s.momentsOf source events) (s.through source events) := by
  induction events generalizing moments s with
  | nil =>
      rw [Session.momentsOf, List.append_nil]
      exact run
  | cons e rest ih =>
      have hfirst := h ⟨s, e⟩ List.mem_cons_self
      have hrest := ih (run.snoc e hfirst) fun m hm => h m (List.mem_cons_of_mem _ hm)
      rwa [List.append_assoc] at hrest

/-- The tickets of the rebuilds that have begun, in the order in which they did. -/
def begun {σ : Type} (moments : List (Moment σ)) : List Nat :=
  moments.filterMap Moment.begun?

/-- The layouts that were selected, in their order. -/
def selected {σ : Type} (moments : List (Moment σ)) : List LayoutKind :=
  moments.filterMap Moment.selected?

/-- The ends of rebuilds, in the order in which they came. -/
def closings {σ : Type} (source : MetadataSource σ) (moments : List (Moment σ)) :
    List (Closing σ) :=
  moments.filterMap (Moment.closing? source)

end ErDiagram
