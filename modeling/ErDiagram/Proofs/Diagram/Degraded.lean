import ErDiagram.Proofs.Diagram.Assembled
import ErDiagram.Proofs.Diagram.Placing

/-!
# Diagrams in which one table is degraded

When the structure of one table is not known, its node has no columns, the edges from it are missing, and
the edges that are left are numbered anew. Nothing else of the diagram changes: every other node is the
same and in the same place, and an edge to the table still ends in its node.
-/

namespace ErDiagram

/-- A table of which no more is known than its name and its row count. -/
def Table.degrade (table : Table) : Table :=
  { table with columns := [], foreignKeys := [], degraded := true }

/-- The node of a table whose structure is not known. -/
def Node.degrade (node : Node) : Node :=
  { node with table := node.table.degrade }

namespace Diagram

/-- Edges with identifiers that count them from an ordinal on. -/
def numbered (first : Nat) (edges : List Edge) : List Edge :=
  (edges.zipIdx first).map fun (edge, ordinal) =>
    { edge with id := edgeId edge.source edge.target ordinal }

/-- A diagram in which the structure of a table is not known. -/
def degrade (name : CodeString) (diagram : Diagram) : Diagram where
  nodes := diagram.nodes.map fun node => if node.id = name then node.degrade else node
  edges := numbered 0 (diagram.edges.filter (·.source ≠ name))

/-- Leaving out the edges of a source and numbering the others anew is leaving out its references. -/
theorem numbered_filter_edges (names : List CodeString) (name : CodeString)
    (references : List (CodeString × ForeignKey)) (first first' : Nat) :
    numbered first' (((references.zipIdx first).map fun ((source, key), ordinal) =>
        edgeOf names source key ordinal).filter (·.source ≠ name)) =
      ((references.filter (·.1 ≠ name)).zipIdx first').map fun ((source, key), ordinal) =>
        edgeOf names source key ordinal := by
  induction references generalizing first first' with
  | nil => rfl
  | cons reference rest ih =>
      obtain ⟨source, key⟩ := reference
      by_cases hsource : source = name
      · have hleft : (edgeOf names source key first).source = name := hsource
        rw [List.zipIdx_cons, List.map_cons, List.filter_cons_of_neg (by simpa using hleft),
          List.filter_cons_of_neg (by simpa using hsource)]
        exact ih (first + 1) first'
      · have hkept : (edgeOf names source key first).source ≠ name := hsource
        rw [List.zipIdx_cons, List.map_cons, List.filter_cons_of_pos (by simpa using hkept),
          List.filter_cons_of_pos (by simpa using hsource), List.zipIdx_cons, List.map_cons,
          ← ih (first + 1) (first' + 1)]
        rfl

/-- Degrading a table leaves out its references. -/
theorem references_degrade (name : CodeString) (tables : List Table) :
    references (tables.map fun table => if table.name = name then table.degrade else table) =
      (references tables).filter (·.1 ≠ name) := by
  rw [references, references, List.flatMap_map, List.filter_flatMap]
  apply List.flatMap_congr
  intro table _
  by_cases hname : table.name = name
  · have hnone : (table.foreignKeys.map (table.name, ·)).filter (·.1 ≠ name) = [] := by
      rw [List.filter_eq_nil_iff]
      intro reference hmem
      obtain ⟨key, -, rfl⟩ := List.mem_map.1 hmem
      simpa using hname
    rw [hnone, if_pos hname]
    rfl
  · have hall : (table.foreignKeys.map (table.name, ·)).filter (·.1 ≠ name) =
        table.foreignKeys.map (table.name, ·) := by
      rw [List.filter_eq_self]
      intro reference hmem
      obtain ⟨key, -, rfl⟩ := List.mem_map.1 hmem
      simpa using hname
    rw [hall, if_neg hname]

/-- The diagram of tables of which one is degraded. -/
theorem assemble_degrade (name : CodeString) {tables : List Table}
    (hnodup : (tables.map (·.name)).Nodup) :
    assemble (tables.map fun table => if table.name = name then table.degrade else table) =
      (assemble tables).degrade name := by
  have hnames : (tables.map fun table => if table.name = name then table.degrade else table).map
      (·.name) = tables.map (·.name) := by
    rw [List.map_map]
    apply List.map_congr_left
    intro table _
    simp only [Function.comp_apply]
    split <;> rfl
  have hnew : ∀ (others : List Table), ∀ table ∈ others, table.name ∉ ([] : List CodeString) :=
    fun _ _ _ => List.not_mem_nil
  have hkept := firstOfName_of_nodup hnodup (hnew tables)
  have hkept' := firstOfName_of_nodup (hnames ▸ hnodup) (hnew _)
  simp only [assemble, degrade, hkept, hkept', hnames, references_degrade]
  rw [numbered_filter_edges, List.map_map, List.map_map]
  congr 1
  apply List.map_congr_left
  intro table _
  have hid : (nodeOf table).id = table.name := rfl
  by_cases hname : table.name = name
  · simp only [Function.comp_apply, hid, if_pos hname]
    rfl
  · simp only [Function.comp_apply, hid, if_neg hname]

theorem moveNodes_degrade (name : CodeString) (diagram : Diagram) (points : List Position) :
    Layout.moveNodes (diagram.degrade name) points =
      (Layout.moveNodes diagram points).degrade name := by
  simp only [Layout.moveNodes, degrade, List.zipWith_map_left, List.map_zipWith]
  congr 2
  funext node point
  split <;> rfl

end Diagram

end ErDiagram
