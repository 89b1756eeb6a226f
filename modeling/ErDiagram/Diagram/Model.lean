import ErDiagram.Fault
import ErDiagram.Metadata.Table

/-!
# The entity-relationship diagram

A diagram has a node for each table and an edge for each foreign key. An edge whose target is no node of
the diagram is unresolved. Nodes carry the table they stand for and a position in the plane.
-/

namespace ErDiagram

open Json

/-- A point of the plane. -/
structure Position where
  x : Binary64
  y : Binary64
  deriving DecidableEq, Repr, Inhabited

/-- The ways to place nodes in the plane. -/
inductive LayoutKind where
  | grid
  | circular
  | hierarchical
  deriving DecidableEq, Repr, Inhabited

structure Node where
  id : CodeString
  position : Position
  table : Table
  deriving DecidableEq, Repr

structure Edge where
  id : CodeString
  source : CodeString
  target : CodeString
  label : CodeString
  targetColumn : CodeString
  constraint : CodeString
  resolved : Bool
  deriving DecidableEq, Repr

structure Diagram where
  nodes : List Node
  edges : List Edge
  deriving DecidableEq, Repr, Inhabited

namespace Position

def modelName : String := "Position"

def origin : Position := ⟨.zero, .zero⟩

def ofFields (fields : Json.Fields) : Checked Position :=
  mk <$> withDefault fields "x" .zero number <*> withDefault fields "y" .zero number

def toJson (p : Position) : Json :=
  .obj [("x", .real p.x), ("y", .real p.y)]

end Position

namespace LayoutKind

def name : LayoutKind → String
  | grid => "grid"
  | circular => "circular"
  | hierarchical => "hierarchical"

def ofName? : String → Option LayoutKind
  | "grid" => some grid
  | "circular" => some circular
  | "hierarchical" => some hierarchical
  | _ => none

/-- The kind that a value names, and none for a value of any other sort. -/
def ofJson? : Json → Option LayoutKind
  | .str s => s.text?.bind ofName?
  | _ => none

def check (value : Json) : Checked LayoutKind :=
  match ofJson? value, value with
  | some kind, _ => .valid kind
  | none, .str (.halved _ _) => .fail .halvedText
  | none, _ => .fail .notChoice

/-- The kind that a value names, or the fault that it names none. -/
def choose (value : Json) : Except Fault LayoutKind :=
  match ofJson? value with
  | some kind => .ok kind
  | none => .error (.unknownChoice value "LayoutKind")

def toJson (kind : LayoutKind) : Json :=
  .str kind.name

@[simp] theorem ofName?_name (kind : LayoutKind) : ofName? kind.name = some kind := by
  cases kind <;> rfl

@[simp] theorem check_toJson (kind : LayoutKind) : check kind.toJson = .valid kind := by
  simp [check, toJson, ofJson?]

end LayoutKind

namespace Node

/-- How many columns the box of a node shows. -/
def shownLimit : Nat := 10

/-- The columns within a limit. A negative limit leaves out that many columns at the end. -/
def shownColumns (node : Node) (limit : Int) : List Column :=
  let columns := node.table.columns
  if 0 ≤ limit then columns.take limit.toNat
  else columns.take (columns.length - (-limit).toNat)

/-- How many columns exceed a limit. -/
def hiddenColumns (node : Node) (limit : Int) : Int :=
  max 0 (node.table.columns.length - limit)

def hiddenColumnCount (node : Node) : Int :=
  node.hiddenColumns shownLimit

def ofFields (fields : Json.Fields) : Checked Node :=
  mk <$> required fields "id" text
    <*> withDefault fields "position" .origin (object Position.ofFields)
    <*> required fields "payload" (object Table.ofFields)

def toJson (node : Node) : Json :=
  .obj [("id", .str node.id), ("position", node.position.toJson), ("payload", node.table.toJson),
    ("hidden_column_count", .int node.hiddenColumnCount)]

theorem hiddenColumnCount_eq (node : Node) :
    node.hiddenColumnCount = (node.table.columns.length - 10 : Nat) := by
  simp only [hiddenColumnCount, hiddenColumns, shownLimit]; omega

end Node

namespace Edge

def ofFields (fields : Json.Fields) : Checked Edge :=
  mk <$> required fields "id" text
    <*> required fields "source" text
    <*> required fields "target" text
    <*> required fields "label" text
    <*> withDefault fields "target_column" "" text
    <*> withDefault fields "constraint_name" "" text
    <*> withDefault fields "resolved" true truth

def toJson (edge : Edge) : Json :=
  .obj [("id", .str edge.id), ("source", .str edge.source), ("target", .str edge.target),
    ("label", .str edge.label), ("target_column", .str edge.targetColumn),
    ("constraint_name", .str edge.constraint), ("resolved", .bool edge.resolved)]

end Edge

namespace Diagram

def empty : Diagram := ⟨[], []⟩

def tableCount (diagram : Diagram) : Nat :=
  diagram.nodes.length

def relationshipCount (diagram : Diagram) : Nat :=
  diagram.edges.length

def nodeIds (diagram : Diagram) : List CodeString :=
  diagram.nodes.map (·.id)

def ofFields (fields : Json.Fields) : Checked Diagram :=
  mk <$> withDefault fields "nodes" [] (listOf (object Node.ofFields))
    <*> withDefault fields "edges" [] (listOf (object Edge.ofFields))

def toJson (diagram : Diagram) : Json :=
  .obj [("nodes", .arr (diagram.nodes.map Node.toJson)),
    ("edges", .arr (diagram.edges.map Edge.toJson))]

end Diagram

end ErDiagram
