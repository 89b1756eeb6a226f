import ErDiagram.Metadata.Raw

/-!
# Tables

A table with its columns and foreign keys, independent of the service it came from. A degraded table
stands for one whose structure could not be loaded. `Table.ofRaw` derives a table from a listed row and
the structure reported for it.
-/

namespace ErDiagram

open Json

structure Column where
  name : CodeString
  dataType : CodeString
  nullable : Bool
  default : Option CodeString
  isPrimaryKey : Bool
  deriving DecidableEq, Repr

/-- A reference from a column of the table that holds it to a column of another table. -/
structure ForeignKey where
  constraint : CodeString
  sourceColumn : CodeString
  targetTable : CodeString
  targetColumn : CodeString
  deriving DecidableEq, Repr

structure Table where
  name : CodeString
  columns : List Column
  foreignKeys : List ForeignKey
  rowCount : Option Int
  degraded : Bool
  deriving DecidableEq, Repr, Inhabited

structure Diagnostic where
  table : CodeString
  message : CodeString
  deriving DecidableEq, Repr

namespace Column

def ofFields (fields : Json.Fields) : Checked Column :=
  mk <$> required fields "name" text
    <*> required fields "data_type" text
    <*> withDefault fields "nullable" true truth
    <*> withDefault fields "default_expression" none (optional text)
    <*> withDefault fields "is_primary_key" false truth

def toJson (column : Column) : Json :=
  .obj [("name", .str column.name), ("data_type", .str column.dataType),
    ("nullable", .bool column.nullable), ("default_expression", Json.ofText? column.default),
    ("is_primary_key", .bool column.isPrimaryKey)]

end Column

namespace ForeignKey

def ofFields (fields : Json.Fields) : Checked ForeignKey :=
  mk <$> required fields "constraint_name" text
    <*> required fields "source_column" text
    <*> required fields "target_table" text
    <*> required fields "target_column" text

def toJson (key : ForeignKey) : Json :=
  .obj [("constraint_name", .str key.constraint), ("source_column", .str key.sourceColumn),
    ("target_table", .str key.targetTable), ("target_column", .str key.targetColumn)]

end ForeignKey

namespace Diagnostic

def ofFields (fields : Json.Fields) : Checked Diagnostic :=
  mk <$> required fields "table" text <*> required fields "message" text

def toJson (d : Diagnostic) : Json :=
  .obj [("table", .str d.table), ("message", .str d.message)]

end Diagnostic

namespace Table

def modelName : String := "TableMetadata"

def ofFields (fields : Json.Fields) : Checked Table :=
  mk <$> required fields "name" text
    <*> withDefault fields "columns" [] (listOf (object Column.ofFields))
    <*> withDefault fields "foreign_keys" [] (listOf (object ForeignKey.ofFields))
    <*> withDefault fields "row_count_estimate" none (optional integer)
    <*> withDefault fields "degraded" false truth

def toJson (t : Table) : Json :=
  .obj [("name", .str t.name), ("columns", .arr (t.columns.map Column.toJson)),
    ("foreign_keys", .arr (t.foreignKeys.map ForeignKey.toJson)),
    ("row_count_estimate", Json.ofInt? t.rowCount), ("degraded", .bool t.degraded)]

/-- The table that stands in for a listed one whose structure is unknown. -/
def degradedOf (row : ListedTable) : Table where
  name := row.name
  columns := []
  foreignKeys := []
  rowCount := row.rowCount
  degraded := true

/-- The kind of the constraints that make up a primary key. -/
def primaryKeyKind : CodeString := "PRIMARY KEY"

/-- The columns that the primary key names. An empty name is no column. -/
def primaryKeyColumns (constraints : List RawConstraint) : List CodeString :=
  constraints.filterMap fun c =>
    if c.kind = primaryKeyKind then c.column.filter (· ≠ "") else none

/-- Whether a text is the word YES in letters of either case. The long s has S as its capital. -/
def spellsYes (text : CodeString) : Bool :=
  match text.text?.map String.toList with
  | some [y, e, s] => (y == 'Y' || y == 'y') && (e == 'E' || e == 'e') &&
      (s == 'S' || s == 's' || s == 'ſ')
  | _ => false

/-- The table that a structure describes, under the name and row count of its listed row. A column is
part of the primary key when a primary key constraint names it. -/
def ofRaw (row : ListedTable) (s : RawStructure) : Table where
  name := row.name
  columns :=
    let primary := primaryKeyColumns s.constraints
    s.columns.map fun c =>
      { name := c.name
        dataType := c.dataType
        nullable := spellsYes c.isNullable
        default := c.default
        isPrimaryKey := primary.contains c.name }
  foreignKeys := s.foreignKeys.map fun k =>
    { constraint := k.constraint
      sourceColumn := k.column
      targetTable := k.targetTable
      targetColumn := k.targetColumn }
  rowCount := row.rowCount
  degraded := false

theorem mem_primaryKeyColumns {constraints : List RawConstraint} {name : CodeString} :
    name ∈ primaryKeyColumns constraints ↔
      name ≠ "" ∧ ∃ c ∈ constraints, c.kind = primaryKeyKind ∧ c.column = some name := by
  simp only [primaryKeyColumns, List.mem_filterMap]
  constructor
  · rintro ⟨c, hc, h⟩
    split at h
    · next hk =>
      obtain ⟨h₁, h₂⟩ := Option.filter_eq_some_iff.1 h
      exact ⟨by simpa using h₂, c, hc, hk, h₁⟩
    · simp at h
  · rintro ⟨hn, c, hc, hk, hcol⟩
    exact ⟨c, hc, by simp [hk, hcol, hn]⟩

end Table

end ErDiagram
