import ErDiagram.Context
import ErDiagram.Signal.Bus

/-!
# The switchboard

The switchboard joins a context and a bus to the handlers of named subscriptions. A handler is a list of
commands, the same ones that are given from outside, and so a handler may subscribe, release, publish and
change the context while it runs. It stops at its first failing command. `perform` carries out one command
with all that follows from it.

Handlers can call for one another for ever. The functions take the depth to which handlers may nest and
have no result when it is exceeded.
-/

namespace ErDiagram

/-- What can be asked of the switchboard. Topics are given by any value and refused when they name none. -/
inductive Command where
  /-- Names a new subscription whose handler carries out commands and then fails, if a fault is given. -/
  | subscribe (name : String) (topic : Json) (actions : List Command) (failure : Option Fault)
  | release (name : String)
  | publish (topic : Json)
  | count (topic : Json)
  | active
  | history
  | clearHistory
  | change (change : ContextChange)
  | headers
  | selection
  deriving Inhabited

/-- A handler that carries out commands. -/
structure Handler where
  name : String
  actions : List Command
  failure : Option Fault
  deriving Inhabited

/-- The start of a handler, with the context as it found it. -/
structure Visit where
  handler : String
  context : Context
  deriving DecidableEq, Repr

inductive CommandReply where
  | done
  | subscribed (topic : Topic)
  | delivered (count : Nat)
  | counted (count : Nat)
  | activity (handles : List (String × Bool))
  | history (signals : List Signal)
  | headers (headers : RequestHeaders)
  | selection (selection : Selection)
  deriving Inhabited

/-- The bus and the context, every handle ever issued with the names that stand for some of them, and the
starts of handlers. -/
structure Switchboard where
  bus : Bus Handler
  context : Context
  issued : List Subscription
  names : List (String × Nat)
  visits : List Visit
  deriving Inhabited

namespace Switchboard

/-- A switchboard in a context, without handlers. -/
def ofContext (context : Context) : Switchboard :=
  ⟨.empty, context, [], [], []⟩

/-- What running a handler leads to, if it comes to an end: the state after it, and how it failed. -/
abbrev Runner := Handler → Switchboard → Option (Switchboard × Option Fault)

def rename (names : List (String × Nat)) (name : String) (key : Nat) : List (String × Nat) :=
  if names.any (·.1 = name) then names.map fun n => if n.1 = name then (name, key) else n
  else names ++ [(name, key)]

def handle? (s : Switchboard) (name : String) : Option Subscription :=
  (s.names.find? (·.1 = name)).bind fun n => s.issued.find? (·.key = n.2)

/-- Puts a handler on the bus and names its handle. -/
def subscribe (s : Switchboard) (topic : Topic) (handler : Handler) : Switchboard :=
  let (handle, bus) := s.bus.subscribe topic handler
  { s with
    bus := bus
    issued := s.issued ++ [handle]
    names := rename s.names handler.name handle.key }

def release (s : Switchboard) (handle : Subscription) : Switchboard :=
  let (released, bus) := handle.release s.bus
  { s with
    bus := bus
    issued := s.issued.map fun h => if h.key = handle.key then released else h }

/-- Publishes a signal: delivers it to the handlers that are registered now, then records it. -/
def publish (run : Runner) (topic : Topic) (s : Switchboard) : Option (Switchboard × Nat) := do
  let (last, count) ← Bus.deliver (·.bus) run topic (s.bus.registered topic) s
  return ({ last with bus := last.bus.record ⟨topic, count⟩ }, count)

def activity (s : Switchboard) : List (String × Bool) :=
  s.names.map fun n => (n.1, ((s.issued.find? (·.key = n.2)).map (·.active)).getD false)

/-- Carries out one command, running handlers by `run`. -/
def execute (run : Runner) (command : Command) (s : Switchboard) :
    Option (Switchboard × Except Fault CommandReply) :=
  match command with
  | .subscribe name topic actions failure =>
    match Topic.choose topic with
    | .ok topic => some (s.subscribe topic ⟨name, actions, failure⟩, .ok (.subscribed topic))
    | .error fault => some (s, .error fault)
  | .release name =>
    match s.handle? name with
    | some handle => some (s.release handle, .ok .done)
    | none => some (s, .error (.missingKey name))
  | .publish topic =>
    match Topic.choose topic with
    | .ok topic => do
      let (last, count) ← s.publish run topic
      return (last, .ok (.delivered count))
    | .error fault => some (s, .error fault)
  | .count topic =>
    match Topic.choose topic with
    | .ok topic => some (s, .ok (.counted (s.bus.count topic)))
    | .error fault => some (s, .error fault)
  | .active => some (s, .ok (.activity s.activity))
  | .history => some (s, .ok (.history s.bus.history))
  | .clearHistory => some ({ s with bus := s.bus.clearHistory }, .ok .done)
  | .change change => do
    let (last, _) ← publish run change.topic { s with context := s.context.apply change }
    return (last, .ok .done)
  | .headers => some (s, .ok (.headers s.context.requestHeaders))
  | .selection => some (s, .ok (.selection s.context.selection))

/-- Carries out commands up to the first that fails. -/
def executeAll (run : Runner) : List Command → Switchboard → Option (Switchboard × Option Fault)
  | [], s => some (s, none)
  | command :: rest, s => do
    match ← execute run command s with
    | (next, .ok _) => executeAll run rest next
    | (next, .error fault) => return (next, some fault)

/-- Runs a handler: notes its start, carries out its commands and fails at the end if it is meant to. -/
def runHandler : Nat → Runner
  | 0, _, _ => none
  | depth + 1, handler, s => do
    let visit : Visit := ⟨handler.name, s.context⟩
    match ← executeAll (runHandler depth) handler.actions { s with visits := s.visits ++ [visit] } with
    | (last, none) => return (last, handler.failure)
    | (last, some fault) => return (last, some fault)

/-- Carries out one command while handlers nest no deeper than `depth`. -/
def perform (depth : Nat) (command : Command) (s : Switchboard) :
    Option (Switchboard × Except Fault CommandReply) :=
  execute (runHandler depth) command s

end Switchboard

end ErDiagram
