import ErDiagram.Diagram.Layout
import ErDiagram.Diagram.Network
import ErDiagram.Proofs.Computation

/-!
# Placing nodes again

A layout gives as many points as there are nodes, and placing the nodes changes their positions alone. So
nodes that are placed twice are where the second placing puts them, and the network of a diagram, which
knows nothing of positions, is the same before and after.
-/

namespace ErDiagram

namespace Layout

theorem positions_eq_ok {total : Nat} {kind : LayoutKind} {box : NodeBox} {points : List Position} :
    positions total kind box = .ok points ↔
      List.Forall₂ (fun (index : Nat) point => position index total kind box = .ok point)
        (List.range total) points := by
  rw [positions, Int.toNat_natCast]
  exact mapM_eq_ok_iff_forall₂

theorem length_positions {total : Nat} {kind : LayoutKind} {box : NodeBox} {points : List Position}
    (h : positions total kind box = .ok points) : points.length = total := by
  rw [← (positions_eq_ok.1 h).length_eq]
  exact List.length_range

theorem apply_eq_ok {diagram placed : Diagram} {kind : LayoutKind} {box : NodeBox} :
    apply diagram kind box = .ok placed ↔
      ∃ points, positions diagram.nodes.length kind box = .ok points ∧
        moveNodes diagram points = placed := by
  rw [apply]
  rw [bind_eq_ok_iff]
  constructor
  · rintro ⟨points, hpoints, h⟩
    cases h
    exact ⟨points, hpoints, rfl⟩
  · rintro ⟨points, hpoints, rfl⟩
    exact ⟨points, hpoints, rfl⟩

@[simp] theorem apply_empty (kind : LayoutKind) (box : NodeBox) :
    apply .empty kind box = .ok .empty := rfl

/-- The second of two placings counts. -/
theorem moveNodes_moveNodes {diagram : Diagram} {points : List Position}
    (h : points.length = diagram.nodes.length) (points' : List Position) :
    moveNodes (moveNodes diagram points) points' = moveNodes diagram points' := by
  obtain ⟨nodes, edges⟩ := diagram
  simp only [moveNodes, Diagram.mk.injEq, and_true]
  simp only at h
  induction nodes generalizing points points' with
  | nil => simp
  | cons node rest ih =>
      cases points with
      | nil => cases h
      | cons point points =>
          cases points' with
          | nil => rfl
          | cons point' points' =>
              simp only [List.zipWith_cons_cons, List.cons.injEq, true_and]
              exact ih points' (by simpa using h)

theorem apply_of_apply {diagram placed : Diagram} {kind kind' : LayoutKind} {box : NodeBox}
    (h : apply diagram kind box = .ok placed) :
    apply placed kind' box = apply diagram kind' box := by
  obtain ⟨points, hpoints, rfl⟩ := apply_eq_ok.1 h
  have hlength := length_positions hpoints
  have hmove := moveNodes_moveNodes hlength
  unfold apply
  rw [moveNodes_nodes_length hlength]
  cases positions diagram.nodes.length kind' box with
  | error fault => rfl
  | ok points' => exact congrArg Except.ok (hmove points')

theorem map_moveNodes {α : Type} (f : Node → α)
    (hf : ∀ node point, f { node with position := point } = f node)
    {diagram : Diagram} {points : List Position} (h : points.length = diagram.nodes.length) :
    (moveNodes diagram points).nodes.map f = diagram.nodes.map f := by
  simp only [moveNodes]
  generalize diagram.nodes = nodes at h ⊢
  induction nodes generalizing points with
  | nil => simp
  | cons node rest ih =>
      cases points with
      | nil => cases h
      | cons point points =>
          simp only [List.zipWith_cons_cons, List.map_cons, hf]
          exact congrArg _ (ih (by simpa using h))

end Layout

/-- The tables of a diagram under the identifiers of their nodes, wherever these are. -/
def Diagram.payloads (diagram : Diagram) : List (CodeString × Table) :=
  diagram.nodes.map fun node => (node.id, node.table)

theorem Diagram.nodeIds_eq (diagram : Diagram) :
    diagram.nodeIds = diagram.payloads.map Prod.fst := by
  simp [nodeIds, payloads, Function.comp_def]

theorem Diagram.payloads_of_apply {diagram placed : Diagram} {kind : LayoutKind} {box : NodeBox}
    (h : Layout.apply diagram kind box = .ok placed) :
    placed.payloads = diagram.payloads ∧ placed.edges = diagram.edges := by
  obtain ⟨points, hpoints, rfl⟩ := Layout.apply_eq_ok.1 h
  exact ⟨Layout.map_moveNodes _ (fun _ _ => rfl) (Layout.length_positions hpoints), rfl⟩

theorem Network.ofDiagram_of_apply {diagram placed : Diagram} {kind : LayoutKind} {box : NodeBox}
    (h : Layout.apply diagram kind box = .ok placed) : ofDiagram placed = ofDiagram diagram := by
  obtain ⟨points, hpoints, rfl⟩ := Layout.apply_eq_ok.1 h
  have hfacts : (Layout.moveNodes diagram points).nodes.map (fun node => (node.id, factsOf node)) =
      diagram.nodes.map fun node => (node.id, factsOf node) :=
    Layout.map_moveNodes _ (fun _ _ => rfl) (Layout.length_positions hpoints)
  have hfold : ∀ nodes : List Node,
      nodes.foldl (fun n node => n.addNode node.id (factsOf node)) empty =
        (nodes.map fun node => (node.id, factsOf node)).foldl
          (fun n facts => n.addNode facts.1 facts.2) empty := by
    intro nodes
    rw [List.foldl_map]
  simp only [ofDiagram, hfold, hfacts, Layout.moveNodes_edges]

end ErDiagram
