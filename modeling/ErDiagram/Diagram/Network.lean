import ErDiagram.Diagram.Model

/-!
# The network of a diagram

A network is the directed multigraph view of a diagram: nodes with what a query wants to know of them,
and links told apart by source, target and key. Only resolved edges become links, so every link of an
assembled diagram joins two nodes. A link that is added again under the same source, target and key
takes the place of the first.
-/

namespace ErDiagram

/-- What a network keeps of a node. -/
structure NodeFacts where
  columnCount : Nat
  degraded : Bool
  deriving DecidableEq, Repr

structure Link where
  source : CodeString
  target : CodeString
  key : CodeString
  column : CodeString
  foreignColumn : CodeString
  constraint : CodeString
  deriving DecidableEq, Repr

/-- Nodes in the order in which they came in, and links likewise. A node that only a link brought in has
no facts. -/
structure Network where
  nodes : List (CodeString × Option NodeFacts)
  links : List Link
  deriving DecidableEq, Repr, Inhabited

namespace Network

def empty : Network := ⟨[], []⟩

def hasNode (network : Network) (name : CodeString) : Bool :=
  network.nodes.any (·.1 = name)

/-- Adds a node, or replaces the facts of one that is there. -/
def addNode (network : Network) (name : CodeString) (facts : NodeFacts) : Network :=
  { network with
    nodes :=
      if network.hasNode name then
        network.nodes.map fun node => if node.1 = name then (name, some facts) else node
      else network.nodes ++ [(name, some facts)] }

def ensureNode (network : Network) (name : CodeString) : Network :=
  if network.hasNode name then network
  else { network with nodes := network.nodes ++ [(name, none)] }

/-- Whether two links share source, target and key. -/
def sameLink (a b : Link) : Bool :=
  a.source = b.source && a.target = b.target && a.key = b.key

/-- Adds a link between two nodes, which it brings in when they are not there. -/
def addLink (network : Network) (link : Link) : Network :=
  let joined := (network.ensureNode link.source).ensureNode link.target
  { joined with
    links :=
      if joined.links.any (sameLink link) then
        joined.links.map fun old => if sameLink link old then link else old
      else joined.links ++ [link] }

def linkOf (edge : Edge) : Link where
  source := edge.source
  target := edge.target
  key := edge.id
  column := edge.label
  foreignColumn := edge.targetColumn
  constraint := edge.constraint

def factsOf (node : Node) : NodeFacts where
  columnCount := node.table.columns.length
  degraded := node.table.degraded

def ofDiagram (diagram : Diagram) : Network :=
  let withNodes := diagram.nodes.foldl (fun n node => n.addNode node.id (factsOf node)) empty
  (diagram.edges.filter (·.resolved)).foldl (fun n edge => n.addLink (linkOf edge)) withNodes

/-- The first occurrences of the members of a list. -/
def distinct : List CodeString → List CodeString
  | [] => []
  | name :: rest => name :: (distinct rest).filter (· ≠ name)

/-- The links that end in a node: by source, in the order of the first link from each, and in the order
of their keys within a source. -/
def incoming (network : Network) (target : CodeString) : List Link :=
  let links := network.links.filter (·.target = target)
  (distinct (links.map (·.source))).flatMap fun source => links.filter (·.source = source)

theorem mem_distinct {names : List CodeString} {name : CodeString} :
    name ∈ distinct names ↔ name ∈ names := by
  induction names with
  | nil => simp [distinct]
  | cons first rest ih =>
    by_cases h : name = first <;> simp [distinct, ih, h]

end Network

end ErDiagram
