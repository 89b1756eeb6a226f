import ErDiagram.Diagram.Model
import ErDiagram.Number.Angle

/-!
# Placing nodes in the plane

`Layout.position` gives the point of one node by its index among a total. Grid and hierarchy fill rows of
boxes, a grid with as many columns as the root of the total needs and a hierarchy with three. A circle
spreads the nodes evenly. `Layout.apply` places all nodes of a diagram and changes nothing else.

Boxes may be measured in integers or in binary numbers. With integers every product is exact and only the
finished coordinate is rounded.
-/

namespace ErDiagram

/-- A length, exact while it is an integer. -/
inductive Length where
  | whole (n : Int)
  | real (x : Binary64)
  deriving DecidableEq, Repr

namespace Length

/-- An integer as a binary number. -/
def toReal (n : Int) : Except Fault Binary64 :=
  match Binary64.ofInt? n with
  | some x => .ok x
  | none => .error .beyondNumbers

def add : Length → Length → Except Fault Length
  | whole m, whole n => .ok (whole (m + n))
  | whole m, real y => do return real ((← toReal m).add y)
  | real x, whole n => do return real (x.add (← toReal n))
  | real x, real y => .ok (real (x.add y))

def times (count : Int) : Length → Except Fault Length
  | whole n => .ok (whole (count * n))
  | real x => do return real ((← toReal count).mul x)

def toJson : Length → Json
  | whole n => .int n
  | real x => .real x

end Length

structure NodeBox where
  width : Length
  height : Length
  padding : Length
  deriving DecidableEq, Repr

namespace NodeBox

def standard : NodeBox := ⟨.whole 280, .whole 300, .whole 50⟩

def stepX (box : NodeBox) : Except Fault Length :=
  box.width.add box.padding

def stepY (box : NodeBox) : Except Fault Length :=
  box.height.add box.padding

end NodeBox

namespace Layout

def hierarchyFanOut : Nat := 3

def leastRadius : Int := 300

/-- What each node adds to the radius of a circle. -/
def radiusPerNode : Int := 50

/-- The columns of a grid: the rounded root of the total, rounded up. -/
def gridColumns (total : Nat) : Except Fault Nat := do
  let root := (← Length.toReal total).sqrt
  return (root.ceil?.getD 0).toNat

def pointAt (x y : Length) : Except Fault Position :=
  Fault.ofChecked Position.modelName (Position.ofFields [("x", x.toJson), ("y", y.toJson)])

def cell (box : NodeBox) (column row : Nat) : Except Fault Position := do
  let x ← (← box.stepX).times column
  let y ← (← box.stepY).times row
  pointAt x y

/-- The point that an index's share of a full turn has on a circle that touches both axes. -/
def onCircle (index total : Nat) : Except Fault Position := do
  let radius := max leastRadius (total * radiusPerNode)
  let turns := Binary64.ofQuotient index total
  let angle := (turns.mul (.ofRatio false 2 1)).mul .pi
  let reach ← Length.toReal radius
  pointAt (.real (reach.add (reach.mul angle.cos))) (.real (reach.add (reach.mul angle.sin)))

/-- The point of a node by its index among a total. -/
def place (kind : LayoutKind) (index total : Nat) (box : NodeBox) : Except Fault Position :=
  match kind with
  | .grid => do
    let columns ← gridColumns total
    cell box (index % columns) (index / columns)
  | .circular => onCircle index total
  | .hierarchical => cell box (index % hierarchyFanOut) (index / hierarchyFanOut)

def checkIndex (index total : Int) : Except Fault Unit :=
  if total ≤ 0 then .error (.emptyLayout total)
  else if 0 ≤ index ∧ index < total then .ok ()
  else .error (.indexOutside index total)

def position (index total : Int) (kind : LayoutKind) (box : NodeBox) : Except Fault Position := do
  checkIndex index total
  place kind index.toNat total.toNat box

/-- The point of one node under the kind that a value names. The index is looked at first. -/
def positionNamed (index total : Int) (kind : Json) (box : NodeBox) : Except Fault Position := do
  checkIndex index total
  place (← LayoutKind.choose kind) index.toNat total.toNat box

def positions (total : Int) (kind : LayoutKind) (box : NodeBox) : Except Fault (List Position) :=
  (List.range total.toNat).mapM fun (index : Nat) => position index total kind box

/-- The points of all nodes under the kind that a value names. Without nodes the kind does not matter. -/
def positionsNamed (total : Int) (kind : Json) (box : NodeBox) :
    Except Fault (List Position) := do
  if total ≤ 0 then return []
  positions total (← LayoutKind.choose kind) box

/-- The diagram with its nodes at the given points, in order. -/
def moveNodes (diagram : Diagram) (points : List Position) : Diagram where
  nodes := diagram.nodes.zipWith (fun node point => { node with position := point }) points
  edges := diagram.edges

def apply (diagram : Diagram) (kind : LayoutKind) (box : NodeBox) : Except Fault Diagram := do
  return moveNodes diagram (← positions diagram.nodes.length kind box)

/-- The diagram with all its nodes placed under the kind that a value names. -/
def applyNamed (diagram : Diagram) (kind : Json) (box : NodeBox) : Except Fault Diagram := do
  return moveNodes diagram (← positionsNamed diagram.nodes.length kind box)

@[simp] theorem moveNodes_edges (diagram : Diagram) (points : List Position) :
    (moveNodes diagram points).edges = diagram.edges := rfl

theorem moveNodes_nodes_length {diagram : Diagram} {points : List Position}
    (h : points.length = diagram.nodes.length) :
    (moveNodes diagram points).nodes.length = diagram.nodes.length := by
  simp [moveNodes, h]

end Layout

end ErDiagram
