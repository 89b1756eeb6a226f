import ErDiagram.Aggregation.Collected
import ErDiagram.Diagram.Assembly
import ErDiagram.Diagram.Layout
import ErDiagram.Diagram.Relationships
import ErDiagram.View.Snapshot

/-!
# The view of a schema

The view shows the diagram of one schema. A cycle begins by taking the next generation, and what it leads
to is committed only while that generation is still the latest; so a slow cycle never overwrites the
result of a later one. Whatever is committed replaces the diagram, its network, the schema, the error and
the diagnostics together.
-/

namespace ErDiagram

/-- Whether the view shows nothing, waits for a cycle, shows a diagram or tells of an error. -/
inductive Phase where
  | idle
  | loading
  | ready
  | error
  deriving DecidableEq, Repr, Inhabited

structure View where
  phase : Phase
  diagram : Diagram
  network : Network
  schema : Option CodeString
  error : Option CodeString
  diagnostics : List Diagnostic
  generation : Nat
  layout : LayoutKind
  box : NodeBox
  deriving DecidableEq, Repr

/-- What a cycle has come to. -/
inductive CycleResult where
  | collected (diagram : Diagram) (diagnostics : List Diagnostic)
  | failed (message : CodeString)
  deriving DecidableEq, Repr

def Phase.name : Phase → String
  | idle => "idle"
  | loading => "loading"
  | ready => "ready"
  | error => "error"

namespace CycleResult

/-- The error that a fault of the collection is told as. A listing that failed tells the wording of its
cause as it is, and any other fault its kind where it has no wording. -/
def errorText : Fault → CodeString
  | .listing schema cause => (Fault.listing schema cause).message
  | fault => fault.text

theorem errorText_eq_text {fault : Fault} (h : ∀ schema cause, fault ≠ .listing schema cause) :
    errorText fault = fault.text := by
  cases fault with
  | listing schema cause => exact absurd rfl (h schema cause)
  | _ => rfl

/-- What comes of a collection of tables, unless assembling it fails. -/
def ofCollection (assembling : Option Fault) : Except Fault Collected → CycleResult
  | .error fault => failed (errorText fault)
  | .ok c =>
    match assembling with
    | some fault => failed fault.text
    | none => .collected (.assemble c.tables) c.diagnostics

end CycleResult

namespace View

def fresh (layout : LayoutKind) (box : NodeBox) : View where
  phase := .idle
  diagram := .empty
  network := .empty
  schema := none
  error := none
  diagnostics := []
  generation := 0
  layout := layout
  box := box

/-- Shows a diagram, placed in the selected layout, with all that belongs to it. -/
def commit (v : View) (phase : Phase) (schema error : Option CodeString) (diagram : Diagram)
    (diagnostics : List Diagnostic) : Except Fault View := do
  let placed ← Layout.apply diagram v.layout v.box
  return { v with
    phase := phase
    diagram := placed
    network := .ofDiagram placed
    schema := schema
    error := error
    diagnostics := diagnostics }

/-- Takes the next generation and waits for its cycle. -/
def await (v : View) : View :=
  { v with phase := .loading, generation := v.generation + 1 }

def clear (v : View) : View :=
  { v with
    phase := .idle
    diagram := .empty
    network := .empty
    schema := none
    error := none
    diagnostics := []
    generation := v.generation + 1 }

/-- Whether no cycle has begun since that of a generation. -/
def isLatest (v : View) (generation : Nat) : Bool :=
  v.generation = generation

/-- Ends the cycle of a generation: commits its result if it is the latest, and changes nothing
otherwise. The second part says whether it was committed. -/
def conclude (v : View) (generation : Nat) (schema : CodeString) (result : CycleResult) :
    Except Fault (View × Bool) :=
  if v.isLatest generation then do
    let next ← match result with
      | .collected diagram diagnostics => v.commit .ready (some schema) none diagram diagnostics
      | .failed message => v.commit .error (some schema) (some message) .empty []
    return (next, true)
  else return (v, false)

/-- Selects a layout. A value that names none changes nothing. -/
def selectLayout (v : View) (kind : Json) : Except Fault View := do
  return { v with layout := ← LayoutKind.choose kind }

/-- Places the nodes anew in the selected layout. -/
def replace (v : View) : Except Fault View := do
  return { v with diagram := ← Layout.apply v.diagram v.layout v.box }

def snapshot (v : View) : Snapshot where
  state := v.phase.name
  schema := v.schema
  layout := v.layout
  generation := v.generation
  error := v.error
  diagram := v.diagram
  diagnostics := v.diagnostics
  tableCount := v.diagram.tableCount
  relationshipCount := v.diagram.relationshipCount

def relationships (v : View) (table : CodeString) : Except Fault Relationships :=
  Relationships.query v.diagram v.network table

theorem clear_eq_commit (v : View) :
    View.commit { v with generation := v.generation + 1 } .idle none none .empty [] =
      .ok v.clear := rfl

@[simp] theorem await_phase (v : View) : v.await.phase = .loading := rfl

@[simp] theorem await_generation (v : View) : v.await.generation = v.generation + 1 := rfl

theorem conclude_of_not_latest {v : View} {generation : Nat} (h : v.generation ≠ generation)
    (schema : CodeString) (result : CycleResult) :
    v.conclude generation schema result = .ok (v, false) := by
  simp [conclude, isLatest, h, pure, Except.pure]

end View

end ErDiagram
