import ErDiagram.Diagram.Model

/-!
# Snapshots of the view

A snapshot is the view of a schema's diagram at one moment, as it is told to a client. The state is told
by its name, so that a snapshot can also be read from any text that names one.
-/

namespace ErDiagram

open Json

structure Snapshot where
  state : CodeString
  schema : Option CodeString
  layout : LayoutKind
  generation : Int
  error : Option CodeString
  diagram : Diagram
  diagnostics : List Diagnostic
  tableCount : Int
  relationshipCount : Int
  deriving DecidableEq, Repr

namespace Snapshot

def ofFields (fields : Json.Fields) : Checked Snapshot :=
  mk <$> required fields "state" text
    <*> withDefault fields "schema_name" none (optional text)
    <*> required fields "layout" LayoutKind.check
    <*> withDefault fields "generation" 0 integer
    <*> withDefault fields "error" none (optional text)
    <*> withDefault fields "graph" .empty (object Diagram.ofFields)
    <*> withDefault fields "diagnostics" [] (listOf (object Diagnostic.ofFields))
    <*> withDefault fields "table_count" 0 integer
    <*> withDefault fields "relationship_count" 0 integer

def toJson (s : Snapshot) : Json :=
  .obj [("state", .str s.state), ("schema_name", Json.ofText? s.schema),
    ("layout", s.layout.toJson), ("generation", .int s.generation),
    ("error", Json.ofText? s.error), ("graph", s.diagram.toJson),
    ("diagnostics", .arr (s.diagnostics.map Diagnostic.toJson)),
    ("table_count", .int s.tableCount), ("relationship_count", .int s.relationshipCount)]

end Snapshot

end ErDiagram
