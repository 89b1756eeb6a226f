import ErDiagram.Proofs.Diagram.Linked
import ErDiagram.Proofs.Session.Consistency

/-!
# Queries of a view

A query takes the references of a table from the diagram and the references to it from the network. The two
are written at different times: a layout that is selected replaces the diagram and leaves the network. They
agree nevertheless at every moment of a run, so that a query tells what the diagram alone tells. Over all
tables, every reference to a table is told by the one it comes from, and none is told twice.
-/

namespace ErDiagram

variable {σ : Type}

/-- The network of a coherent diagram does not depend on where the nodes are. -/
theorem Network.ofDiagram_of_same {diagram diagram' : Diagram} (h : diagram.IsCoherent)
    (hpayloads : diagram'.payloads = diagram.payloads) (hedges : diagram'.edges = diagram.edges) :
    ofDiagram diagram' = ofDiagram diagram := by
  have hids : diagram'.nodeIds = diagram.nodeIds := by
    rw [Diagram.nodeIds_eq, hpayloads, ← Diagram.nodeIds_eq]
  have hfacts : ∀ d : Diagram, (d.nodes.map fun node => (node.id, some (factsOf node))) =
      d.payloads.map fun p => (p.1, some ⟨p.2.columns.length, p.2.degraded⟩) := by
    intro d
    rw [Diagram.payloads, List.map_map]
    rfl
  rw [ofDiagram_eq h, ofDiagram_eq (h.of_same hids hedges), hfacts, hfacts, hpayloads, hedges]

/-- At every moment of a run the diagram is coherent and the network is that of the diagram. -/
theorem Run.isCoherent {source : MetadataSource σ} {allowed : Moment σ → Prop}
    {limits : FetchLimits} {context : Context} {layout : LayoutKind} {box : NodeBox} {state : σ}
    {moments : List (Moment σ)} {s : Session σ}
    (run : Run source allowed (Session.opened limits context layout box state) moments s) :
    s.view.diagram.IsCoherent ∧ s.view.network = .ofDiagram s.view.diagram := by
  obtain ⟨offer, hshown, horigin⟩ := exists_shownBy_lastShown source moments layout box
  have hoffer : offer.diagram.IsCoherent := by
    have hempty : (Offer.nothing.diagram).IsCoherent := Diagram.isCoherent_assemble []
    rcases horigin with rfl | ⟨c, hc, -, rfl⟩
    · exact hempty
    · have hended := run.forall_closings (P := fun _ => True) (fun _ _ => trivial)
        (fun _ _ _ _ => trivial) (fun _ _ _ => trivial) hc
      rcases hended with hnothing | ⟨m, -, -, cycle, -, result, assembling, -, hresult⟩
      · rw [hnothing]
        exact hempty
      · rw [hresult]
        exact Offer.isCoherent_result cycle.schema assembling result
  have hretains := run.retains
  have hnetwork := hshown.network
  obtain ⟨hpayloads, hedges⟩ := Offer.contents_of_shownBy hshown
  rw [← hretains.network] at hnetwork
  rw [← hretains.payloads] at hpayloads
  rw [← hretains.edges] at hedges
  have hids : s.view.diagram.nodeIds = offer.diagram.nodeIds := by
    rw [Diagram.nodeIds_eq, hpayloads, ← Diagram.nodeIds_eq]
  refine ⟨hoffer.of_same hids hedges, ?_⟩
  rw [hnetwork, Network.ofDiagram_of_same hoffer hpayloads hedges]

/-- A computation that succeeds for every member of a list succeeds for the list. -/
theorem mapM_eq_ok {ε α β : Type} {f : α → Except ε β} {g : α → β} {xs : List α}
    (h : ∀ x ∈ xs, f x = .ok (g x)) : xs.mapM f = .ok (xs.map g) := by
  induction xs with
  | nil => rfl
  | cons x rest ih =>
      have hrest := ih fun y hy => h y (List.mem_cons_of_mem x hy)
      rw [List.mapM_cons, h x List.mem_cons_self, hrest]
      rfl

/-- In every run a query fails exactly for what is no node of the diagram, and otherwise tells of the edges
from a table and of the resolved edges to it, in the order of the diagram. Asked for all nodes, it tells of
every edge once as leaving its source, and of every resolved edge once as reaching its target; the network
has no other nodes and no other links. -/
theorem relationships_agree (source : MetadataSource σ) {allowed : Moment σ → Prop}
    {limits : FetchLimits} {context : Context} {layout : LayoutKind} {box : NodeBox} {state : σ}
    {moments : List (Moment σ)} {s : Session σ}
    (run : Run source allowed (Session.opened limits context layout box state) moments s) :
    (∀ table fault, s.view.relationships table = .error fault ↔
      table ∉ s.view.diagram.nodeIds ∧ fault = .missingKey table) ∧
    (∀ table ∈ s.view.diagram.nodeIds, s.view.relationships table = .ok
      { table := table
        foreignKeys :=
          (s.view.diagram.edges.filter (·.source = table)).map fun edge =>
            ⟨edge.constraint, edge.target, edge.label, edge.targetColumn, edge.resolved⟩
        referencedBy :=
          (s.view.diagram.edges.filter fun edge => edge.resolved && edge.target = table).map
            fun edge => ⟨edge.constraint, edge.source, edge.label, edge.targetColumn, true⟩ }) ∧
    (∃ answers, s.view.diagram.nodeIds.mapM s.view.relationships = .ok answers ∧
      (answers.flatMap Relationships.sent).Perm (answers.flatMap Relationships.received) ∧
      (answers.flatMap Relationships.received).Perm
        ((s.view.diagram.edges.filter (·.resolved)).map Edge.reference) ∧
      (answers.flatMap (·.foreignKeys)).Perm (s.view.diagram.edges.map Relation.outgoing)) ∧
    s.view.network.nodes =
      (s.view.diagram.nodes.map fun node => (node.id, some (Network.factsOf node))) ∧
    s.view.network.links = (s.view.diagram.edges.filter (·.resolved)).map Network.linkOf := by
  obtain ⟨hcoherent, hnetwork⟩ := run.isCoherent
  have hquery : ∀ table, s.view.relationships table = Relationships.plain s.view.diagram table := by
    intro table
    rw [View.relationships, hnetwork]
    exact Relationships.query_eq_plain hcoherent table
  have hfound : ∀ table ∈ s.view.diagram.nodeIds,
      s.view.relationships table = .ok (Relationships.ofTable s.view.diagram table) := by
    intro table hmem
    rw [hquery, Relationships.plain, if_pos hmem]
    rfl
  have hsent := Relationships.perm_sent hcoherent
  have hreceived := Relationships.perm_received hcoherent
  have hkeys := Relationships.perm_foreignKeys hcoherent
  refine ⟨?_, hfound, ⟨_, mapM_eq_ok hfound, ?_, ?_, ?_⟩, ?_, ?_⟩
  · intro table fault
    by_cases hmem : table ∈ s.view.diagram.nodeIds
    · simp [hfound table hmem, hmem]
    · rw [hquery, Relationships.plain, if_neg hmem]
      simp [hmem, eq_comm]
  · rw [List.flatMap_map, List.flatMap_map]
    exact hsent.trans hreceived.symm
  · rw [List.flatMap_map]
    exact hreceived
  · rw [List.flatMap_map]
    exact hkeys
  · rw [hnetwork, Network.ofDiagram_eq hcoherent]
  · rw [hnetwork, Network.ofDiagram_eq hcoherent]

/-- A view that waits after a layout was selected still tells who refers to a table, and knows nothing of a
table that is not there. -/
theorem relationships_agree_of_ambiguous :
    let source := MetadataSource.holding 0 [⟨"orders", none⟩, ⟨"users", some 7⟩, ⟨"orders", none⟩]
    let s := Session.ofAmbiguous.through source Session.refreshingTwice
    s.view.phase = .loading ∧
      s.view.relationships "users" =
        .ok ⟨"users", [], [⟨"fk_user", "orders", "user_id", "id", true⟩]⟩ ∧
      s.view.relationships "ghosts" = .error (.missingKey "ghosts") := by
  intro source s
  have run : Run source (fun _ => True) Session.ofAmbiguous _ s :=
    Run.nil.through Session.refreshingTwice fun _ _ => trivial
  obtain ⟨hmissing, hfound, -⟩ := relationships_agree source run
  have hids : s.view.diagram.nodeIds = ["orders", "users"] := by decide +kernel
  have hedges : s.view.diagram.edges =
      [⟨"orders-users-0", "orders", "users", "user_id", "id", "fk_user", true⟩] := by
    decide +kernel
  refine ⟨by decide +kernel, ?_, ?_⟩
  · rw [hfound "users" (by rw [hids]; decide), hedges]
    rfl
  · rw [hmissing, hids]
    exact ⟨by decide, rfl⟩

end ErDiagram
