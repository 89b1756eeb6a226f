import ErDiagram.Aggregation.Collected
import ErDiagram.Source.Reply

/-!
# Fetching structures

The structures of the listed tables are asked for at the same time, but never more than a limit allows.
A fetch waits for a free slot, runs until its answer arrives or the patience for it ends, and is then
settled. Slots go to the fetches in the order of the list. The time a fetch waits for its slot does not
count against the patience.
-/

namespace ErDiagram

/-- How many requests may run at once, and how long each may take; none stands for as long as it takes. -/
structure FetchLimits where
  slots : Nat
  patience : Option Int
  slots_pos : 0 < slots := by decide
  deriving Repr

inductive FetchStage where
  | waiting
  /-- Under way, with the time at which it ends and what it will have come to. -/
  | running (due : Option Nat) (outcome : Except Fault RawStructure)
  | settled (outcome : Except Fault RawStructure)

structure Fetch where
  row : ListedTable
  stage : FetchStage

/-- A request to a source: for the structure of a table, or for the list when there is none, with the
headers of the context at that time and the number of structure requests then under way, itself included. -/
structure SourceCall where
  time : Nat
  schema : CodeString
  table : Option CodeString
  headers : RequestHeaders
  underWay : Nat
  deriving DecidableEq, Repr

namespace FetchLimits

/-- The limits that let a number of requests run at once, which has to let one run. -/
def ofNumbers (slots : Int) (patience : Option Int) : Except Fault FetchLimits :=
  if h : 1 ≤ slots then .ok ⟨slots.toNat, patience, by omega⟩ else .error .noConcurrency

/-- Whether there is any time at all for an answer. -/
def hasTime (limits : FetchLimits) : Bool :=
  match limits.patience with
  | none => true
  | some time => 0 < time

/-- An answer as it looks to one whose patience ends. -/
def bounded {α : Type} (limits : FetchLimits) (reply : Reply α) : Reply α :=
  match limits.patience with
  | none => reply
  | some time =>
    match reply.delay with
    | some delay => if (delay : Int) < time then reply else ⟨some time.toNat, .error .timedOut⟩
    | none => ⟨some time.toNat, .error .timedOut⟩

end FetchLimits

namespace Fetch

def waiting (row : ListedTable) : Fetch := ⟨row, .waiting⟩

def isRunning (f : Fetch) : Bool :=
  match f.stage with
  | .running _ _ => true
  | _ => false

def isSettled (f : Fetch) : Bool :=
  match f.stage with
  | .settled _ => true
  | _ => false

/-- What a fetch has come to, once it is settled. -/
def outcome? (f : Fetch) : Option (ListedTable × Except Fault RawStructure) :=
  match f.stage with
  | .settled outcome => some (f.row, outcome)
  | _ => none

def due? (f : Fetch) : Option Nat :=
  match f.stage with
  | .running due _ => due
  | _ => none

/-- The fetch with an answer on its way; an answer without delay is there. -/
def answered (f : Fetch) (now : Nat) (reply : Reply RawStructure) : Fetch :=
  match reply.delay with
  | some 0 => { f with stage := .settled reply.outcome }
  | some delay => { f with stage := .running (some (now + delay)) reply.outcome }
  | none => { f with stage := .running none reply.outcome }

def settle (now : Nat) (f : Fetch) : Fetch :=
  match f.stage with
  | .running (some due) outcome =>
    if due ≤ now then { f with stage := .settled outcome } else f
  | _ => f

end Fetch

/-- The fetches of a schema, the state of the source, and the requests made. -/
structure FetchRound (σ : Type) where
  fetches : List Fetch
  source : σ
  calls : List SourceCall

namespace Fetch

variable {σ : Type}

/-- Starts waiting fetches in order while slots are free. `busy` counts every request under way, those of
fetches still to be looked at included. Without time for an answer no request is made. -/
def dispatch (source : MetadataSource σ) (limits : FetchLimits) (context : Context)
    (schema : CodeString) (now : Nat) : (busy : Nat) → List Fetch → σ → FetchRound σ
  | _, [], s => ⟨[], s, []⟩
  | busy, f :: rest, s =>
    match f.stage with
    | .waiting =>
      if busy < limits.slots then
        if limits.hasTime then
          let (reply, next) := source.tableStructure context schema f.row.name s
          let started := f.answered now (limits.bounded reply)
          let stillBusy := if started.isRunning then busy + 1 else busy
          let round := dispatch source limits context schema now stillBusy rest next
          ⟨started :: round.fetches, round.source,
            ⟨now, schema, some f.row.name, context.requestHeaders, busy + 1⟩ :: round.calls⟩
        else
          let refused : Fetch := { f with stage := .settled (.error .timedOut) }
          let round := dispatch source limits context schema now busy rest s
          ⟨refused :: round.fetches, round.source, round.calls⟩
      else ⟨f :: rest, s, []⟩
    | _ =>
      let round := dispatch source limits context schema now busy rest s
      ⟨f :: round.fetches, round.source, round.calls⟩

def underWay (fetches : List Fetch) : Nat :=
  fetches.countP isRunning

/-- Settles what is due and starts what can start. -/
def advance (source : MetadataSource σ) (limits : FetchLimits) (context : Context)
    (schema : CodeString) (now : Nat) (fetches : List Fetch) (s : σ) : FetchRound σ :=
  let settled := fetches.map (settle now)
  dispatch source limits context schema now (underWay settled) settled s

/-- What all fetches have come to, once all are settled. -/
def outcomes? (fetches : List Fetch) :
    Option (List (ListedTable × Except Fault RawStructure)) :=
  fetches.mapM outcome?

/-- The time at which the first running fetch ends. -/
def nextDue? (fetches : List Fetch) : Option Nat :=
  (fetches.filterMap due?).min?

@[simp] theorem answered_row (f : Fetch) (now : Nat) (reply : Reply RawStructure) :
    (f.answered now reply).row = f.row := by
  unfold answered; split <;> rfl

@[simp] theorem settle_row (now : Nat) (f : Fetch) : (f.settle now).row = f.row := by
  unfold settle; split
  · split <;> rfl
  · rfl

theorem dispatch_rows (source : MetadataSource σ) (limits : FetchLimits) (context : Context)
    (schema : CodeString) (now busy : Nat) (fetches : List Fetch) (s : σ) :
    (dispatch source limits context schema now busy fetches s).fetches.map (·.row) =
      fetches.map (·.row) := by
  induction fetches generalizing busy s with
  | nil => rfl
  | cons f rest ih =>
    simp only [dispatch]
    split
    · split
      · split <;> simp [ih]
      · rfl
    · simp [ih]

end Fetch

end ErDiagram
