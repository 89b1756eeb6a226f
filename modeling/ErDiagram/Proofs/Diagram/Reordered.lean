import ErDiagram.Proofs.Diagram.Degraded
import ErDiagram.Proofs.Diagram.Linked

/-!
# Diagrams of tables in another order

A service may list its tables in any order. Listed in another order, tables of different names have the same
nodes and the same edges: these go with the tables that hold them, so they are numbered anew, but each ends
in what it ended in and is resolved as before. What a query tells of a table is therefore the same, but for
the order in which it is told.
-/

namespace ErDiagram

namespace Diagram

section Numbering

variable {names names' : List CodeString}

/-- An edge of a reference, whatever its ordinal is. -/
def IsEdgeOf (names : List CodeString) (reference : CodeString × ForeignKey) (edge : Edge) : Prop :=
  ∃ ordinal, edge = edgeOf names reference.1 reference.2 ordinal

private theorem forall₂_edgesOf (references : List (CodeString × ForeignKey)) :
    List.Forall₂ (IsEdgeOf names) references (edgesOf names references) := by
  rw [edgesOf, List.forall₂_map_right_iff]
  generalize 0 = first
  induction references generalizing first with
  | nil => exact .nil
  | cons reference rest ih => exact .cons ⟨first, rfl⟩ (ih (first + 1))

/-- Numbering anew the edges of references gives the edges of these references, when a target is found among
the one names as among the others. -/
theorem numbered_eq (hnames : ∀ name, name ∈ names' ↔ name ∈ names)
    {references : List (CodeString × ForeignKey)} {edges : List Edge}
    (h : List.Forall₂ (IsEdgeOf names) references edges) (first : Nat) :
    numbered first edges = (references.zipIdx first).map fun ((source, key), ordinal) =>
      edgeOf names' source key ordinal := by
  induction h generalizing first with
  | nil => rfl
  | @cons reference edge rest edges hedge _ ih =>
      obtain ⟨ordinal, rfl⟩ := hedge
      have hresolved : names.contains reference.2.targetTable =
          names'.contains reference.2.targetTable := by
        rw [Bool.eq_iff_iff, List.contains_iff_mem, List.contains_iff_mem, hnames]
      have hrest := ih (first + 1)
      simp only [numbered, List.zipIdx_cons, List.map_cons] at hrest ⊢
      rw [hrest]
      simp only [edgeOf, hresolved]

/-- What does not depend on identifiers does not depend on how edges are numbered. -/
theorem map_filter_numbered {α : Type} (p : Edge → Bool) (f : Edge → α)
    (hp : ∀ edge id, p { edge with id := id } = p edge)
    (hf : ∀ edge id, f { edge with id := id } = f edge) (edges : List Edge) (first : Nat) :
    ((numbered first edges).filter p).map f = (edges.filter p).map f := by
  induction edges generalizing first with
  | nil => rfl
  | cons edge rest ih =>
      have hrest := ih (first + 1)
      simp only [numbered, List.zipIdx_cons, List.map_cons, List.filter_cons, hp] at hrest ⊢
      split
      · rw [List.map_cons, List.map_cons, hrest, hf]
      · exact hrest

end Numbering

end Diagram

namespace Relationships

/-- Whether two answers tell the same of a table, each in an order of its own. -/
def TellAlike : Except Fault Relationships → Except Fault Relationships → Prop
  | .ok r, .ok r' =>
    r.table = r'.table ∧ r.foreignKeys.Perm r'.foreignKeys ∧ r.referencedBy.Perm r'.referencedBy
  | .error fault, .error fault' => fault = fault'
  | _, _ => False

/-- Diagrams with the same nodes and the same edges, but for their order and numbers, tell the same. -/
theorem tellAlike_plain {diagram diagram' : Diagram} {edges : List Edge}
    (hnodes : diagram'.nodes.Perm diagram.nodes) (hedges : edges.Perm diagram.edges)
    (hnumbered : diagram'.edges = Diagram.numbered 0 edges) (table : CodeString) :
    TellAlike (plain diagram' table) (plain diagram table) := by
  have hids : table ∈ diagram'.nodeIds ↔ table ∈ diagram.nodeIds := (hnodes.map (·.id)).mem_iff
  by_cases hmem : table ∈ diagram.nodeIds
  · rw [plain, plain, if_pos hmem, if_pos (hids.2 hmem)]
    refine ⟨rfl, ?_, ?_⟩
    · rw [outgoing, hnumbered, Diagram.map_filter_numbered _ _ (fun _ _ => rfl) fun _ _ => rfl]
      exact (hedges.filter _).map _
    · rw [hnumbered, Diagram.map_filter_numbered _ _ (fun _ _ => rfl) fun _ _ => rfl]
      exact (hedges.filter _).map _
  · rw [plain, plain, if_neg hmem, if_neg (mt hids.1 hmem)]
    rfl

end Relationships

namespace Diagram

/-- Tables of different names make the same diagram in every order. It has the same nodes and, but for the
ordinals that end their identifiers, the same edges, and gives the same answers to every query, each of them
up to its order. -/
theorem assemble_reordered {tables tables' : List Table} (hnodup : (tables.map (·.name)).Nodup)
    (hperm : tables'.Perm tables) :
    (assemble tables').nodes.Perm (assemble tables).nodes ∧
      (∃ edges, edges.Perm (assemble tables).edges ∧
        (assemble tables').edges = numbered 0 edges) ∧
      ∀ table, Relationships.TellAlike
        (Relationships.query (assemble tables') (.ofDiagram (assemble tables')) table)
        (Relationships.query (assemble tables) (.ofDiagram (assemble tables)) table) := by
  have hnodup' : (tables'.map (·.name)).Nodup := (hperm.map _).nodup_iff.2 hnodup
  have hkept := firstOfName_of_nodup hnodup fun _ _ => List.not_mem_nil
  have hkept' := firstOfName_of_nodup hnodup' fun _ _ => List.not_mem_nil
  have hnodes : (assemble tables').nodes.Perm (assemble tables).nodes := by
    simp only [assemble, hkept, hkept']
    exact hperm.map nodeOf
  have hnames : ∀ name, name ∈ tables'.map (·.name) ↔ name ∈ tables.map (·.name) :=
    fun _ => (hperm.map _).mem_iff
  -- the edges go with their references, and these with the tables that hold them
  have hreferences : (references tables').Perm (references tables) := hperm.flatMap_right _
  obtain ⟨edges, hedgesOf, hedges⟩ :=
    List.perm_comp_forall₂ hreferences (forall₂_edgesOf (references tables))
  have hnumbered : (assemble tables').edges = numbered 0 edges := by
    rw [numbered_eq hnames hedgesOf, edges_assemble, hkept']
    rfl
  have hsame : edges.Perm (assemble tables).edges := by
    rw [edges_assemble, hkept]
    exact hedges
  refine ⟨hnodes, ⟨edges, hsame, hnumbered⟩, ?_⟩
  intro table
  rw [Relationships.query_eq_plain (isCoherent_assemble tables),
    Relationships.query_eq_plain (isCoherent_assemble tables')]
  exact Relationships.tellAlike_plain hnodes hsame hnumbered table

/-- Two tables that refer to each other, the second one to a table that is not there, too. -/
def reciprocal : List Table :=
  [⟨"orders", [], [⟨"fk_user", "user_id", "users", "id"⟩], none, false⟩,
    ⟨"users", [], [⟨"fk_last", "last", "orders", "id"⟩, ⟨"fk_ghost", "ghost", "ghosts", "id"⟩], some 7,
      false⟩]

/-- Listed the other way round, it is the other reference between them that points forwards. -/
theorem assemble_reordered_of_reciprocal :
    (reciprocal.map (·.name)).Nodup ∧ reciprocal.reverse.Perm reciprocal ∧
      (assemble reciprocal).edges.map (·.id) =
        (["orders-users-0", "users-orders-1", "users-ghosts-2"] : List CodeString) ∧
      (assemble reciprocal.reverse).edges.map (·.id) =
        (["users-orders-0", "users-ghosts-1", "orders-users-2"] : List CodeString) ∧
      (assemble reciprocal.reverse).nodes.Perm (assemble reciprocal).nodes ∧
      (∃ edges, edges.Perm (assemble reciprocal).edges ∧
        (assemble reciprocal.reverse).edges = numbered 0 edges) ∧
      Relationships.TellAlike
        (Relationships.query (assemble reciprocal.reverse)
          (.ofDiagram (assemble reciprocal.reverse)) "orders")
        (Relationships.query (assemble reciprocal) (.ofDiagram (assemble reciprocal)) "orders") := by
  have hnodup : (reciprocal.map (·.name)).Nodup := by decide
  have hperm := List.reverse_perm reciprocal
  obtain ⟨hnodes, hedges, htell⟩ := assemble_reordered hnodup hperm
  exact ⟨hnodup, hperm, by decide, by decide, hnodes, hedges, htell "orders"⟩

end Diagram

end ErDiagram
