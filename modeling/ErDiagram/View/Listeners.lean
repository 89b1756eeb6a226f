import ErDiagram.Diagram.Model

/-!
# Listeners of the view

Listeners are told every diagram that the view comes to show. The registry keeps them in the order in
which they were added; one that was added twice is told twice. `removeFirst` takes out the first of those
equal to the given one.
-/

namespace ErDiagram

/-- Someone who wants to be told, with what they do when they are: fail, or else remove another one. -/
structure Listener where
  identity : Nat
  name : String
  failure : Option Fault
  removes : Option String
  deriving Repr

/-- What a listener was told. -/
structure Notice where
  listener : Listener
  diagram : Diagram
  deriving Repr

structure Listeners where
  registered : List Listener
  /-- Every listener that was ever added. -/
  known : List Listener
  deriving Repr, Inhabited

namespace Listeners

def empty : Listeners := ⟨[], []⟩

def create (l : Listeners) (name : String) (failure : Option Fault) (removes : Option String) :
    Listener :=
  ⟨l.known.length, name, failure, removes⟩

def add (l : Listeners) (listener : Listener) : Listeners :=
  ⟨l.registered ++ [listener], l.known ++ [listener]⟩

/-- The list without the first listener of an identity. -/
def removeFirst (identity : Nat) : List Listener → List Listener
  | [] => []
  | listener :: rest =>
    if listener.identity = identity then rest else listener :: removeFirst identity rest

/-- Takes a listener out of the registry, if it is there. -/
def remove (l : Listeners) (identity : Nat) : Listeners :=
  { l with registered := removeFirst identity l.registered }

/-- The listener that was last added under a name. -/
def named? (l : Listeners) (name : String) : Option Listener :=
  l.known.reverse.find? (·.name = name)

/-- Takes the listener that was last added under a name out of the registry. -/
def removeNamed (l : Listeners) (name : String) : Except Fault Listeners :=
  match l.named? name with
  | some listener => .ok (l.remove listener.identity)
  | none => .error (.missingKey name)

/-- What a listener does when it is told: it fails, or it removes another, or nothing. -/
def react (l : Listeners) (listener : Listener) : Except Fault Listeners :=
  match listener.failure, listener.removes with
  | some fault, _ => .error fault
  | none, some name => l.removeNamed name
  | none, none => .ok l

/-- Tells some listeners of a diagram, one after the other, up to the first that fails. The result is the
registry afterwards, what was told, and the failure. -/
def tell (diagram : Diagram) : List Listener → Listeners → Listeners × List Notice × Option Fault
  | [], l => (l, [], none)
  | listener :: rest, l =>
    let notice : Notice := ⟨listener, diagram⟩
    match l.react listener with
    | .error fault => (l, [notice], some fault)
    | .ok next =>
      let (last, notices, failure) := tell diagram rest next
      (last, notice :: notices, failure)

/-- Tells everyone who is registered now of a diagram. -/
def notify (l : Listeners) (diagram : Diagram) : Listeners × List Notice × Option Fault :=
  tell diagram l.registered l

theorem mem_removeFirst {identity : Nat} {listener : Listener} {listeners : List Listener}
    (h : listener ∈ removeFirst identity listeners) : listener ∈ listeners := by
  induction listeners with
  | nil => simp [removeFirst] at h
  | cons first rest ih =>
    simp only [removeFirst] at h
    split at h
    · exact List.mem_cons_of_mem _ h
    · rcases List.mem_cons.1 h with rfl | h
      · exact List.mem_cons_self
      · exact List.mem_cons_of_mem _ (ih h)

end Listeners

end ErDiagram
