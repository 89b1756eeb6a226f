import ErDiagram.Aggregation.Fetch

/-!
# Collecting the tables of a schema

The work of collecting a schema asks for its list of tables, then fetches the structures of the tables
listed, and ends with all that was collected. Only a list that cannot be had ends it with a fault; a
structure that cannot be had leaves a degraded table. `Work.run` follows one work to its end on a clock
that jumps from one event to the next.
-/

namespace ErDiagram

inductive Work where
  /-- Waits for the list of tables, with the time at which it arrives. -/
  | listing (schema : CodeString) (due : Option Nat) (answer : Except Fault Listing)
  | fetching (schema : CodeString) (fetches : List Fetch)
  | ended (result : Except Fault Collected)

/-- Work with the state of the source and the requests made on the way to it. -/
structure WorkRound (σ : Type) where
  work : Work
  source : σ
  calls : List SourceCall

/-- A work that was followed to its end. -/
structure WorkReport (σ : Type) where
  result : Except Fault Collected
  elapsed : Nat
  source : σ
  calls : List SourceCall

namespace Work

variable {σ : Type}

def listed (schema : CodeString) : Except Fault Listing → Work
  | .error fault => .ended (.error (.listing schema fault))
  | .ok list =>
    match list.rows with
    | .error fault => .ended (.error fault)
    | .ok [] => .ended (.ok (.ofOutcomes schema []))
    | .ok rows => .fetching schema (rows.map Fetch.waiting)

/-- Asks for the list of tables. -/
def start (source : MetadataSource σ) (context : Context) (schema : CodeString) (now : Nat) (s : σ) :
    WorkRound σ :=
  let (reply, next) := source.listTables context schema s
  let work :=
    match reply.delay with
    | some 0 => listed schema reply.outcome
    | some delay => .listing schema (some (now + delay)) reply.outcome
    | none => .listing schema none reply.outcome
  ⟨work, next, [⟨now, schema, none, context.requestHeaders, 0⟩]⟩

def ofFetches (schema : CodeString) (fetches : List Fetch) : Work :=
  match Fetch.outcomes? fetches with
  | some outcomes => .ended (.ok (.ofOutcomes schema outcomes))
  | none => .fetching schema fetches

def fetch (source : MetadataSource σ) (limits : FetchLimits) (context : Context) (now : Nat)
    (schema : CodeString) (fetches : List Fetch) (s : σ) : WorkRound σ :=
  let round := Fetch.advance source limits context schema now fetches s
  ⟨ofFetches schema round.fetches, round.source, round.calls⟩

/-- Does all that can be done at a time. -/
def advance (source : MetadataSource σ) (limits : FetchLimits) (context : Context) (now : Nat)
    (work : Work) (s : σ) : WorkRound σ :=
  match work with
  | .listing schema (some due) answer =>
    if due ≤ now then
      match listed schema answer with
      | .fetching schema fetches => fetch source limits context now schema fetches s
      | next => ⟨next, s, []⟩
    else ⟨work, s, []⟩
  | .fetching schema fetches => fetch source limits context now schema fetches s
  | _ => ⟨work, s, []⟩

/-- What the work has come to, once it has ended. -/
def result? : Work → Option (Except Fault Collected)
  | .ended result => some result
  | _ => none

def nextDue? : Work → Option Nat
  | .listing _ due _ => due
  | .fetching _ fetches => Fetch.nextDue? fetches
  | .ended _ => none

/-- How many events the work can still take. -/
def eventsLeft : Work → Nat
  | .listing _ _ (.ok (.tables rows)) => rows.length + 2
  | .listing _ _ _ => 2
  | .fetching _ fetches => fetches.countP (!·.isSettled) + 1
  | .ended _ => 0

/-- Follows the work from event to event. There is no report when it never ends. -/
def follow (source : MetadataSource σ) (limits : FetchLimits) (context : Context) :
    Nat → Nat → WorkRound σ → Option (WorkReport σ)
  | fuel, now, round =>
    match round.work.result? with
    | some result => some ⟨result, now, round.source, round.calls⟩
    | none =>
      match fuel, round.work.nextDue? with
      | fuel + 1, some due =>
        let next := advance source limits context due round.work round.source
        follow source limits context fuel due ⟨next.work, next.source, round.calls ++ next.calls⟩
      | _, _ => none

def run (source : MetadataSource σ) (limits : FetchLimits) (context : Context) (schema : CodeString)
    (s : σ) : Option (WorkReport σ) :=
  let started := start source context schema 0 s
  let first := advance source limits context 0 started.work started.source
  follow source limits context first.work.eventsLeft 0
    ⟨first.work, first.source, started.calls ++ first.calls⟩

end Work

namespace WorkReport

variable {σ : Type}

/-- The most structure requests that were under way at once. -/
def mostUnderWay (report : WorkReport σ) : Nat :=
  (report.calls.map (·.underWay)).foldl max 0

end WorkReport

end ErDiagram
