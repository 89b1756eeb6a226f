import ErDiagram.Validation.Coercion

/-!
# Metadata as a service reports it

A listed table, and the structure of a table with its columns, constraints and foreign keys. Each type
has a check from JSON fields and a JSON form that the check reads back.
-/

namespace ErDiagram

open Json

/-- One row of the list of a schema's tables. -/
structure ListedTable where
  name : CodeString
  rowCount : Option Int
  deriving DecidableEq, Repr, Inhabited

structure RawColumn where
  name : CodeString
  dataType : CodeString
  isNullable : CodeString
  default : Option CodeString
  deriving DecidableEq, Repr

structure RawConstraint where
  name : CodeString
  kind : CodeString
  column : Option CodeString
  deriving DecidableEq, Repr

structure RawForeignKey where
  constraint : CodeString
  column : CodeString
  targetTable : CodeString
  targetColumn : CodeString
  deriving DecidableEq, Repr

structure RawStructure where
  columns : List RawColumn
  constraints : List RawConstraint
  foreignKeys : List RawForeignKey
  deriving DecidableEq, Repr, Inhabited

namespace ListedTable

def modelName : String := "TableSummary"

def ofFields (fields : Json.Fields) : Checked ListedTable :=
  mk <$> required fields "table_name" text
    <*> withDefault fields "row_count" none (optional integer)

def toJson (row : ListedTable) : Json :=
  .obj [("table_name", .str row.name), ("row_count", Json.ofInt? row.rowCount)]

end ListedTable

namespace RawColumn

def ofFields (fields : Json.Fields) : Checked RawColumn :=
  mk <$> required fields "column_name" text
    <*> required fields "data_type" text
    <*> withDefault fields "is_nullable" "YES" text
    <*> withDefault fields "column_default" none (optional text)

def toJson (column : RawColumn) : Json :=
  .obj [("column_name", .str column.name), ("data_type", .str column.dataType),
    ("is_nullable", .str column.isNullable), ("column_default", Json.ofText? column.default)]

end RawColumn

namespace RawConstraint

def ofFields (fields : Json.Fields) : Checked RawConstraint :=
  mk <$> withDefault fields "constraint_name" "" text
    <*> required fields "constraint_type" text
    <*> withDefault fields "column_name" none (optional text)

def toJson (c : RawConstraint) : Json :=
  .obj [("constraint_name", .str c.name), ("constraint_type", .str c.kind),
    ("column_name", Json.ofText? c.column)]

end RawConstraint

namespace RawForeignKey

def ofFields (fields : Json.Fields) : Checked RawForeignKey :=
  mk <$> required fields "constraint_name" text
    <*> required fields "column_name" text
    <*> required fields "referenced_table" text
    <*> required fields "referenced_column" text

def toJson (key : RawForeignKey) : Json :=
  .obj [("constraint_name", .str key.constraint), ("column_name", .str key.column),
    ("referenced_table", .str key.targetTable), ("referenced_column", .str key.targetColumn)]

end RawForeignKey

namespace RawStructure

def modelName : String := "TableStructure"

def ofFields (fields : Json.Fields) : Checked RawStructure :=
  mk <$> withDefault fields "columns" [] (listOf (object RawColumn.ofFields))
    <*> withDefault fields "constraints" [] (listOf (object RawConstraint.ofFields))
    <*> withDefault fields "foreign_keys" [] (listOf (object RawForeignKey.ofFields))

def toJson (s : RawStructure) : Json :=
  .obj [("columns", .arr (s.columns.map RawColumn.toJson)),
    ("constraints", .arr (s.constraints.map RawConstraint.toJson)),
    ("foreign_keys", .arr (s.foreignKeys.map RawForeignKey.toJson))]

end RawStructure

end ErDiagram
