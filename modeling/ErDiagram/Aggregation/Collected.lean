import ErDiagram.Fault
import ErDiagram.Metadata.Table

/-!
# Collected tables

The tables of a schema with a diagnostic for each one whose structure could not be had. Each listed row
gives one table, whether its structure arrived or not.
-/

namespace ErDiagram

structure Collected where
  schema : CodeString
  tables : List Table
  diagnostics : List Diagnostic
  deriving DecidableEq, Repr

/-- The table that the outcome of asking for a structure gives. -/
def Table.ofOutcome (row : ListedTable) : Except Fault RawStructure → Table
  | .ok s => .ofRaw row s
  | .error _ => .degradedOf row

/-- Why a table is degraded: its name, and the fault in words. -/
def Diagnostic.ofFault (row : ListedTable) (fault : Fault) : Diagnostic :=
  ⟨row.name, row.name ++ ": " ++ fault.text⟩

/-- The diagnostic that the outcome of asking for a structure gives, if it failed. -/
def Diagnostic.ofOutcome? (row : ListedTable) : Except Fault RawStructure → Option Diagnostic
  | .ok _ => none
  | .error fault => some (.ofFault row fault)

@[simp] theorem Table.ofOutcome_name (row : ListedTable) (outcome : Except Fault RawStructure) :
    (Table.ofOutcome row outcome).name = row.name := by
  cases outcome <;> rfl

namespace Collected

/-- What is collected from rows with the outcomes of asking for their structures. -/
def ofOutcomes (schema : CodeString) (outcomes : List (ListedTable × Except Fault RawStructure)) :
    Collected where
  schema := schema
  tables := outcomes.map fun o => Table.ofOutcome o.1 o.2
  diagnostics := outcomes.filterMap fun o => Diagnostic.ofOutcome? o.1 o.2

/-- The names of the tables whose structure could not be had. -/
def degradedTables (c : Collected) : List CodeString :=
  c.diagnostics.map (·.table)

theorem ofOutcomes_names (schema : CodeString)
    (outcomes : List (ListedTable × Except Fault RawStructure)) :
    (ofOutcomes schema outcomes).tables.map (·.name) = outcomes.map (·.1.name) := by
  simp [ofOutcomes]

end Collected

end ErDiagram
