import ErDiagram.Diagram.Relationships
import ErDiagram.Proofs.Diagram.Assembled
import Mathlib.Data.List.Perm.Basic

/-!
# The network of a coherent diagram

When a diagram is coherent, no node and no link is added to its network twice, so that the network has the
nodes of the diagram and the resolved edges, all in their order. Links that stand in the order of their
sources are already grouped by source. A query of the network therefore tells what the diagram alone tells,
and over all tables the references that are told from their sources are those told from their targets.
-/

namespace ErDiagram

namespace Network

private theorem filter_distinct_cons (name : CodeString) (names : List CodeString) :
    (distinct (name :: names)).filter (· ≠ name) = (distinct names).filter (· ≠ name) := by
  simp [distinct]

private theorem filter_distinct_of_not_mem {name : CodeString} {names : List CodeString} (h : name ∉ names) :
    (distinct names).filter (· ≠ name) = distinct names := by
  rw [List.filter_eq_self]
  intro n hn
  have hne : n ≠ name := fun heq => h (heq ▸ mem_distinct.1 hn)
  simpa using hne

/-- Members that are sorted by their names in some order of names are grouped by them. -/
theorem flatMap_distinct {α : Type} {name : α → CodeString} (rank : CodeString → Nat) {xs : List α}
    (hrank : ∀ x ∈ xs, ∀ y ∈ xs, rank (name x) = rank (name y) → name x = name y)
    (hsorted : xs.Pairwise fun x y => rank (name x) ≤ rank (name y)) :
    (distinct (xs.map name)).flatMap (fun n => xs.filter (name · = n)) = xs := by
  induction xs with
  | nil => rfl
  | cons x rest ih =>
      rw [List.pairwise_cons] at hsorted
      obtain ⟨hfirst, hrest⟩ := hsorted
      have hgrouped := ih (fun y hy z hz => hrank y (List.mem_cons_of_mem _ hy) z
        (List.mem_cons_of_mem _ hz)) hrest
      have hothers : ((distinct (rest.map name)).filter (· ≠ name x)).flatMap
            (fun n => (x :: rest).filter (name · = n)) =
          ((distinct (rest.map name)).filter (· ≠ name x)).flatMap
            (fun n => rest.filter (name · = n)) := by
        apply List.flatMap_congr
        intro n hn
        have hne : name x ≠ n := fun h => by simp [h] at hn
        rw [List.filter_cons_of_neg (by simpa using hne)]
      rw [List.map_cons, distinct, List.flatMap_cons, hothers,
        List.filter_cons_of_pos (by simp), List.cons_append]
      congr 1
      by_cases hlater : name x ∈ rest.map name
      · -- what has the same name as the first follows it at once
        obtain ⟨z, hz, hname⟩ := List.mem_map.1 hlater
        cases rest with
        | nil => cases hz
        | cons y rest =>
            have hle : rank (name y) ≤ rank (name z) := by
              rcases List.mem_cons.1 hz with rfl | hz
              · exact Nat.le_refl _
              · exact (List.pairwise_cons.1 hrest).1 z hz
            rw [hname] at hle
            have hsame : name y = name x :=
              hrank y (List.mem_cons_of_mem _ List.mem_cons_self) x List.mem_cons_self
                (Nat.le_antisymm hle (hfirst y List.mem_cons_self))
            rw [List.map_cons, distinct, hsame, List.flatMap_cons] at hgrouped
            rw [List.map_cons, hsame, filter_distinct_cons]
            exact hgrouped
      · have hnone : rest.filter (name · = name x) = [] := by
          rw [List.filter_eq_nil_iff]
          intro z hz
          have hne : name z ≠ name x := fun heq => hlater (List.mem_map.2 ⟨z, hz, heq⟩)
          simpa using hne
        rw [hnone, filter_distinct_of_not_mem hlater, List.nil_append]
        exact hgrouped

end Network

/-- Members whose names are all listed once are found under their names. -/
theorem perm_flatMap_filter {α : Type} (name : α → CodeString) {names : List CodeString} {xs : List α}
    (hnodup : names.Nodup) (h : ∀ x ∈ xs, name x ∈ names) :
    (names.flatMap fun n => xs.filter (name · = n)).Perm xs := by
  induction names generalizing xs with
  | nil =>
      cases xs with
      | nil => exact .refl _
      | cons x rest => exact absurd (h x List.mem_cons_self) List.not_mem_nil
  | cons n rest ih =>
      rw [List.nodup_cons] at hnodup
      have hothers := @ih (xs.filter fun x => !decide (name x = n)) hnodup.2 <| by
        intro x hx
        obtain ⟨hmem, hne⟩ := List.mem_filter.1 hx
        rcases List.mem_cons.1 (h x hmem) with heq | hlater
        · simp [heq] at hne
        · exact hlater
      have hsame : (rest.flatMap fun m => (xs.filter fun x => !decide (name x = n)).filter
          (name · = m)) = rest.flatMap fun m => xs.filter (name · = m) := by
        apply List.flatMap_congr
        intro m hm
        rw [List.filter_filter]
        apply List.filter_congr
        intro x _
        have hne : name x = m → name x ≠ n := by
          rintro rfl rfl
          exact hnodup.1 hm
        simpa using hne
      rw [List.flatMap_cons, ← hsame]
      exact (hothers.append_left _).trans (List.filter_append_perm (fun x => decide (name x = n)) xs)

namespace Network

theorem hasNode_iff {network : Network} {name : CodeString} :
    network.hasNode name = true ↔ name ∈ network.nodes.map Prod.fst := by
  simp [hasNode]

private theorem addNode_of_new {network : Network} {name : CodeString} (h : name ∉ network.nodes.map Prod.fst)
    (facts : NodeFacts) :
    network.addNode name facts = ⟨network.nodes ++ [(name, some facts)], network.links⟩ := by
  have hnew : network.hasNode name = false := by
    rwa [← Bool.not_eq_true, hasNode_iff]
  simp [addNode, hnew]

theorem ensureNode_of_mem {network : Network} {name : CodeString}
    (h : name ∈ network.nodes.map Prod.fst) : network.ensureNode name = network := by
  rw [ensureNode, if_pos (hasNode_iff.2 h)]

private theorem addLink_of_new {network : Network} {link : Link}
    (hsource : link.source ∈ network.nodes.map Prod.fst)
    (htarget : link.target ∈ network.nodes.map Prod.fst)
    (hnew : ∀ old ∈ network.links, link.key ≠ old.key) :
    network.addLink link = { network with links := network.links ++ [link] } := by
  have hnone : network.links.any (sameLink link) = false := by
    rw [List.any_eq_false]
    intro old hold
    simp [sameLink, hnew old hold]
  rw [addLink]
  rw [ensureNode_of_mem hsource, ensureNode_of_mem htarget]
  simp [hnone]

private theorem foldl_addNode {nodes : List Node} (hnodup : (nodes.map (·.id)).Nodup) {network : Network}
    (hnew : ∀ node ∈ nodes, node.id ∉ network.nodes.map Prod.fst) :
    nodes.foldl (fun n node => n.addNode node.id (factsOf node)) network =
      ⟨network.nodes ++ nodes.map fun node => (node.id, some (factsOf node)), network.links⟩ := by
  induction nodes generalizing network with
  | nil => simp
  | cons node rest ih =>
      rw [List.map_cons, List.nodup_cons] at hnodup
      rw [List.foldl_cons, addNode_of_new (hnew node List.mem_cons_self), ih hnodup.2]
      · simp
      · intro other hother
        have hold := hnew other (List.mem_cons_of_mem _ hother)
        have hne : other.id ≠ node.id := by
          intro heq
          exact hnodup.1 (List.mem_map.2 ⟨other, hother, heq⟩)
        simp only [List.map_append, List.mem_append, not_or]
        exact ⟨hold, by simpa using hne⟩

private theorem foldl_addLink {edges : List Edge} (hnodup : (edges.map (·.id)).Nodup) {network : Network}
    (hends : ∀ edge ∈ edges, edge.source ∈ network.nodes.map Prod.fst ∧
      edge.target ∈ network.nodes.map Prod.fst)
    (hnew : ∀ edge ∈ edges, ∀ old ∈ network.links, edge.id ≠ old.key) :
    edges.foldl (fun n edge => n.addLink (linkOf edge)) network =
      { network with links := network.links ++ edges.map linkOf } := by
  induction edges generalizing network with
  | nil => simp
  | cons edge rest ih =>
      rw [List.map_cons, List.nodup_cons] at hnodup
      obtain ⟨hsource, htarget⟩ := hends edge List.mem_cons_self
      have hadd : network.addLink (linkOf edge) =
          { network with links := network.links ++ [linkOf edge] } :=
        addLink_of_new hsource htarget (hnew edge List.mem_cons_self)
      rw [List.foldl_cons, hadd, ih hnodup.2]
      · simp
      · exact fun other hother => hends other (List.mem_cons_of_mem _ hother)
      · intro other hother old hold
        rcases List.mem_append.1 hold with hold | hold
        · exact hnew other (List.mem_cons_of_mem _ hother) old hold
        · rw [List.mem_singleton.1 hold]
          intro heq
          exact hnodup.1 (List.mem_map.2 ⟨other, hother, heq⟩)

/-- The network of a coherent diagram has its nodes and its resolved edges. -/
theorem ofDiagram_eq {diagram : Diagram} (h : diagram.IsCoherent) :
    ofDiagram diagram =
      ⟨diagram.nodes.map fun node => (node.id, some (factsOf node)),
        (diagram.edges.filter (·.resolved)).map linkOf⟩ := by
  have hnodes := @foldl_addNode diagram.nodes h.nodes empty fun node _ => List.not_mem_nil
  have hids : (diagram.nodes.map fun node => (node.id, some (factsOf node))).map Prod.fst =
      diagram.nodeIds := by
    simp [Diagram.nodeIds, Function.comp_def]
  simp only [ofDiagram]
  rw [hnodes, foldl_addLink]
  · rfl
  · exact h.edges.sublist (List.filter_sublist.map _)
  · intro edge hedge
    obtain ⟨hmem, hresolved⟩ := List.mem_filter.1 hedge
    show edge.source ∈ List.map Prod.fst (_ ++ _) ∧ edge.target ∈ List.map Prod.fst (_ ++ _)
    rw [empty, List.nil_append, hids]
    exact ⟨h.sources edge hmem, (h.resolved edge hmem).1 hresolved⟩
  · intro edge _ old hold
    cases hold

/-- Whatever the names of tables contain, no two edges have the same identifier, so that none takes the place
of another in the network: it has a link for each resolved edge, and no other nodes than the diagram. -/
theorem distinct_edge_ids (tables : List Table) :
    ((Diagram.assemble tables).edges.map (·.id)).Nodup ∧
      (ofDiagram (.assemble tables)).links.length =
        ((Diagram.assemble tables).edges.filter (·.resolved)).length ∧
      (ofDiagram (.assemble tables)).nodes.length = (Diagram.assemble tables).nodes.length := by
  have hcoherent := Diagram.isCoherent_assemble tables
  refine ⟨hcoherent.edges, ?_, ?_⟩
  · rw [ofDiagram_eq hcoherent, List.length_map]
  · rw [ofDiagram_eq hcoherent, List.length_map]

/-- Names with dashes are told apart by the ordinal alone. -/
example : (Diagram.assemble [⟨"a-b", [], [⟨"", "", "c", ""⟩], none, false⟩,
    ⟨"a", [], [⟨"", "", "b-c", ""⟩], none, false⟩]).edges.map (·.id) = ["a-b-c-0", "a-b-c-1"] := by
  decide

/-- The links that end in a node are the resolved edges that do, in the order of the diagram. -/
theorem incoming_ofDiagram {diagram : Diagram} (h : diagram.IsCoherent) (target : CodeString) :
    (ofDiagram diagram).incoming target =
      (diagram.edges.filter fun edge => edge.resolved && edge.target = target).map linkOf := by
  have hlinks : (ofDiagram diagram).links.filter (·.target = target) =
      (diagram.edges.filter fun edge => edge.resolved && edge.target = target).map linkOf := by
    rw [ofDiagram_eq h, List.filter_map, List.filter_filter]
    congr 2
    funext edge
    exact Bool.and_comm _ _
  simp only [incoming, hlinks]
  apply flatMap_distinct diagram.nodeIds.idxOf
  · intro link hlink link' _ hrank
    obtain ⟨edge, hedge, rfl⟩ := List.mem_map.1 hlink
    exact (List.idxOf_inj (h.sources edge (List.mem_filter.1 hedge).1)).1 hrank
  · rw [List.pairwise_map]
    exact h.ordered.filter _

end Network

/-- A reference, told from both of its sides. -/
structure Reference where
  constraint : CodeString
  source : CodeString
  column : CodeString
  target : CodeString
  foreignColumn : CodeString
  deriving DecidableEq, Repr

def Edge.reference (edge : Edge) : Reference where
  constraint := edge.constraint
  source := edge.source
  column := edge.label
  target := edge.target
  foreignColumn := edge.targetColumn

namespace Relationships

theorem query_eq_plain {diagram : Diagram} (h : diagram.IsCoherent) (table : CodeString) :
    query diagram (.ofDiagram diagram) table = plain diagram table := by
  have hnode : (Network.ofDiagram diagram).hasNode table = true ↔ table ∈ diagram.nodeIds := by
    rw [Network.hasNode_iff, Network.ofDiagram_eq h]
    simp [Diagram.nodeIds]
  rw [query, plain, Network.incoming_ofDiagram h, List.map_map]
  by_cases hmem : table ∈ diagram.nodeIds
  · rw [if_pos (hnode.2 hmem), if_pos hmem]
    rfl
  · rw [if_neg (mt hnode.1 hmem), if_neg hmem]

/-- What a coherent diagram tells of one of its tables. -/
def ofTable (diagram : Diagram) (table : CodeString) : Relationships where
  table := table
  foreignKeys := outgoing diagram table
  referencedBy :=
    (diagram.edges.filter fun edge => edge.resolved && edge.target = table).map
      fun edge => Relation.ofLink (Network.linkOf edge)

/-- The resolved references that a table tells of as its own. -/
def sent (r : Relationships) : List Reference :=
  (r.foreignKeys.filter (·.resolved)).map fun k =>
    ⟨k.constraint, r.table, k.column, k.table, k.foreignColumn⟩

/-- The references that a table tells of as made to it. -/
def received (r : Relationships) : List Reference :=
  r.referencedBy.map fun k => ⟨k.constraint, k.table, k.column, r.table, k.foreignColumn⟩

private theorem sent_ofTable (diagram : Diagram) (table : CodeString) :
    (ofTable diagram table).sent =
      ((diagram.edges.filter (·.resolved)).filter (·.source = table)).map Edge.reference := by
  simp only [sent, ofTable, outgoing, List.filter_map, List.map_map, List.filter_filter]
  have hcomm : (fun edge : Edge => (Relation.resolved ∘ Relation.outgoing) edge &&
      decide (edge.source = table)) = fun edge => decide (edge.source = table) && edge.resolved := by
    funext edge
    exact Bool.and_comm _ _
  rw [hcomm]
  apply List.map_congr_left
  intro edge hedge
  obtain ⟨hsource, -⟩ := Bool.and_eq_true_iff.1 (List.mem_filter.1 hedge).2
  obtain rfl := of_decide_eq_true hsource
  rfl

private theorem received_ofTable (diagram : Diagram) (table : CodeString) :
    (ofTable diagram table).received =
      ((diagram.edges.filter (·.resolved)).filter (·.target = table)).map Edge.reference := by
  simp only [received, ofTable, List.map_map, List.filter_filter]
  have hcomm : (fun edge : Edge => edge.resolved && decide (edge.target = table)) =
      fun edge => decide (edge.target = table) && edge.resolved := by
    funext edge
    exact Bool.and_comm _ _
  rw [hcomm]
  apply List.map_congr_left
  intro edge hedge
  obtain ⟨htarget, -⟩ := Bool.and_eq_true_iff.1 (List.mem_filter.1 hedge).2
  obtain rfl := of_decide_eq_true htarget
  rfl

variable {diagram : Diagram}

theorem perm_foreignKeys (h : diagram.IsCoherent) :
    (diagram.nodeIds.flatMap fun table => (ofTable diagram table).foreignKeys).Perm
      (diagram.edges.map Relation.outgoing) := by
  have hperm := perm_flatMap_filter Edge.source h.nodes h.sources
  have hmap := hperm.map Relation.outgoing
  rwa [List.map_flatMap] at hmap

theorem perm_sent (h : diagram.IsCoherent) :
    (diagram.nodeIds.flatMap fun table => (ofTable diagram table).sent).Perm
      ((diagram.edges.filter (·.resolved)).map Edge.reference) := by
  have hends : ∀ edge ∈ diagram.edges.filter (·.resolved), edge.source ∈ diagram.nodeIds :=
    fun edge hedge => h.sources edge (List.mem_filter.1 hedge).1
  have hperm := perm_flatMap_filter Edge.source h.nodes hends
  have hmap := hperm.map Edge.reference
  rw [List.map_flatMap] at hmap
  simp only [sent_ofTable]
  exact hmap

theorem perm_received (h : diagram.IsCoherent) :
    (diagram.nodeIds.flatMap fun table => (ofTable diagram table).received).Perm
      ((diagram.edges.filter (·.resolved)).map Edge.reference) := by
  have hends : ∀ edge ∈ diagram.edges.filter (·.resolved), edge.target ∈ diagram.nodeIds := by
    intro edge hedge
    obtain ⟨hmem, hresolved⟩ := List.mem_filter.1 hedge
    exact (h.resolved edge hmem).1 hresolved
  have hperm := perm_flatMap_filter Edge.target h.nodes hends
  have hmap := hperm.map Edge.reference
  rw [List.map_flatMap] at hmap
  simp only [received_ofTable]
  exact hmap

end Relationships

end ErDiagram
