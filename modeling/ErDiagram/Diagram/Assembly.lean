import ErDiagram.Diagram.Model

/-!
# Assembling a diagram from tables

Each table name becomes one node, for its first table. Then the foreign keys of the kept tables become
edges, in the order of the nodes; the identifier of an edge ends in its ordinal, so no two are alike.
`assemble` never fails and depends on the tables alone.
-/

namespace ErDiagram

namespace Diagram

/-- The first table of each name, in order, leaving out the names already seen. -/
def firstOfName : List CodeString → List Table → List Table
  | _, [] => []
  | seen, table :: rest =>
    if seen.contains table.name then firstOfName seen rest
    else table :: firstOfName (table.name :: seen) rest

/-- The foreign keys of tables with the name of the table that holds each. -/
def references (tables : List Table) : List (CodeString × ForeignKey) :=
  tables.flatMap fun table => table.foreignKeys.map (table.name, ·)

def edgeId (source target : CodeString) (ordinal : Nat) : CodeString :=
  source ++ "-" ++ target ++ "-" ++ toString ordinal

/-- The edge of a foreign key; `names` are the tables that a target may resolve to. -/
def edgeOf (names : List CodeString) (source : CodeString) (key : ForeignKey) (ordinal : Nat) : Edge where
  id := edgeId source key.targetTable ordinal
  source := source
  target := key.targetTable
  label := key.sourceColumn
  targetColumn := key.targetColumn
  constraint := key.constraint
  resolved := names.contains key.targetTable

def nodeOf (table : Table) : Node where
  id := table.name
  position := .origin
  table := table

def assemble (tables : List Table) : Diagram :=
  let kept := firstOfName [] tables
  let names := kept.map (·.name)
  { nodes := kept.map nodeOf
    edges := (references kept).zipIdx.map fun ((source, key), ordinal) =>
      edgeOf names source key ordinal }

theorem mem_firstOfName {seen : List CodeString} {tables : List Table} {table : Table}
    (h : table ∈ firstOfName seen tables) : table ∈ tables ∧ table.name ∉ seen := by
  induction tables generalizing seen with
  | nil => simp [firstOfName] at h
  | cons first rest ih =>
    simp only [firstOfName] at h
    split at h
    · exact ⟨List.mem_cons_of_mem _ (ih h).1, (ih h).2⟩
    · next hs =>
      rcases List.mem_cons.1 h with rfl | h
      · exact ⟨List.mem_cons_self, by simpa using hs⟩
      · have := ih h
        exact ⟨List.mem_cons_of_mem _ this.1, fun hm => this.2 (List.mem_cons_of_mem _ hm)⟩

@[simp] theorem nodeIds_assemble (tables : List Table) :
    (assemble tables).nodeIds = (firstOfName [] tables).map (·.name) := by
  simp [assemble, nodeIds, nodeOf]

end Diagram

end ErDiagram
