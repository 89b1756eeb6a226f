import ErDiagram.Proofs.Aggregation.Sequential
import ErDiagram.Proofs.Diagram.Assembled
import ErDiagram.Proofs.Diagram.Placing

/-!
# Diagnostics that explain a diagram

A table whose structure could not be had has a diagnostic, and a degraded node has the diagnostic of its
table. Since such a table has no references of its own, every edge of the diagram comes from a node whose
structure is known. `isExplained_ofOutcomes` says so of every collection of tables.
-/

namespace ErDiagram

/-- Whether diagnostics account for the degraded tables of a diagram. -/
structure Diagram.IsExplained (diagram : Diagram) (diagnostics : List Diagnostic) : Prop where
  sources : ∀ edge ∈ diagram.edges,
    ∃ node ∈ diagram.nodes, node.id = edge.source ∧ node.table.degraded = false
  degraded : ∀ node ∈ diagram.nodes, node.table.degraded = true →
    ∃ d ∈ diagnostics, d.table = node.id
  diagnostics : ∀ d ∈ diagnostics, d.table ∈ diagram.nodeIds

namespace Diagram

theorem isExplained_empty : empty.IsExplained [] := by
  constructor <;> intro _ h <;> cases h

/-- Diagnostics for the degraded tables explain the diagram, when these tables refer to nothing. -/
theorem isExplained_assemble {tables : List Table} {diagnostics : List Diagnostic}
    (htables : ∀ table ∈ tables, table.degraded = true → table.foreignKeys = [])
    (hdiagnostics : diagnostics.map (·.table) = (tables.filter (·.degraded)).map (·.name)) :
    (assemble tables).IsExplained diagnostics where
  sources := by
    intro edge hedge
    obtain ⟨table, htable, key, hkey, ordinal, rfl⟩ := mem_edges_assemble hedge
    refine ⟨nodeOf table, List.mem_map.2 ⟨table, htable, rfl⟩, rfl, ?_⟩
    rw [← Bool.not_eq_true]
    intro hdegraded
    rw [htables table (mem_firstOfName htable).1 hdegraded] at hkey
    cases hkey
  degraded := by
    intro node hnode hdegraded
    obtain ⟨table, htable, rfl⟩ := List.mem_map.1 hnode
    have hmem : table.name ∈ diagnostics.map (·.table) := by
      rw [hdiagnostics]
      exact List.mem_map.2 ⟨table, List.mem_filter.2 ⟨(mem_firstOfName htable).1, hdegraded⟩, rfl⟩
    exact List.mem_map.1 hmem
  diagnostics := by
    intro d hd
    have hmem : d.table ∈ (tables.filter (·.degraded)).map (·.name) := by
      rw [← hdiagnostics]
      exact List.mem_map.2 ⟨d, hd, rfl⟩
    obtain ⟨table, htable, hname⟩ := List.mem_map.1 hmem
    rw [nodeIds_assemble, mem_names_firstOfName]
    refine ⟨List.mem_map.2 ⟨table, (List.mem_filter.1 htable).1, hname⟩, ?_⟩
    exact List.not_mem_nil

/-- What explains a diagram explains it wherever its nodes are. -/
theorem IsExplained.of_same {diagram diagram' : Diagram} {diagnostics : List Diagnostic}
    (h : diagram.IsExplained diagnostics) (hpayloads : diagram'.payloads = diagram.payloads)
    (hedges : diagram'.edges = diagram.edges) : diagram'.IsExplained diagnostics where
  sources := by
    intro edge hedge
    rw [hedges] at hedge
    obtain ⟨node, hnode, hid, hdegraded⟩ := h.sources edge hedge
    have hmem : (node.id, node.table) ∈ diagram'.payloads := by
      rw [hpayloads]
      exact List.mem_map.2 ⟨node, hnode, rfl⟩
    obtain ⟨node', hnode', hsame⟩ := List.mem_map.1 hmem
    obtain ⟨hid', htable'⟩ := Prod.mk.inj hsame
    refine ⟨node', hnode', hid'.trans hid, ?_⟩
    rw [htable']
    exact hdegraded
  degraded := by
    intro node hnode hdegraded
    have hmem : (node.id, node.table) ∈ diagram.payloads := by
      rw [← hpayloads]
      exact List.mem_map.2 ⟨node, hnode, rfl⟩
    obtain ⟨node', hnode', hsame⟩ := List.mem_map.1 hmem
    obtain ⟨hid', htable'⟩ := Prod.mk.inj hsame
    rw [← htable'] at hdegraded
    rw [← hid']
    exact h.degraded node' hnode' hdegraded
  diagnostics := by
    rw [nodeIds_eq, hpayloads, ← nodeIds_eq]
    exact h.diagnostics

end Diagram

theorem Table.foreignKeys_of_degraded {row : ListedTable} {outcome : Except Fault RawStructure}
    (h : (Table.ofOutcome row outcome).degraded = true) :
    (Table.ofOutcome row outcome).foreignKeys = [] := by
  cases outcome with
  | ok raw => cases h
  | error fault => rfl

theorem Collected.isExplained_ofOutcomes (schema : CodeString)
    (outcomes : List (ListedTable × Except Fault RawStructure)) :
    (Diagram.assemble (ofOutcomes schema outcomes).tables).IsExplained
      (ofOutcomes schema outcomes).diagnostics := by
  apply Diagram.isExplained_assemble
  · intro table htable
    obtain ⟨o, -, rfl⟩ := List.mem_map.1 htable
    exact Table.foreignKeys_of_degraded
  · exact degradedTables_ofOutcomes schema outcomes

end ErDiagram
