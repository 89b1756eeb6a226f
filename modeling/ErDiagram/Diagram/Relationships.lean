import ErDiagram.Diagram.Network

/-!
# Relationships of a table

The relationships of a table are its own references, resolved or not, and the resolved references of other
tables to it. Outgoing ones are read off the diagram, incoming ones off its network.
`Relationships.plain` reads both off the diagram.
-/

namespace ErDiagram

open Json

/-- One side of a reference, told from the other side. -/
structure Relation where
  constraint : CodeString
  table : CodeString
  column : CodeString
  foreignColumn : CodeString
  resolved : Bool
  deriving DecidableEq, Repr

structure Relationships where
  table : CodeString
  foreignKeys : List Relation
  referencedBy : List Relation
  deriving DecidableEq, Repr

namespace Relation

def ofFields (fields : Json.Fields) : Checked Relation :=
  mk <$> required fields "constraint_name" text
    <*> required fields "table" text
    <*> required fields "column" text
    <*> required fields "foreign_column" text
    <*> withDefault fields "resolved" true truth

def toJson (r : Relation) : Json :=
  .obj [("constraint_name", .str r.constraint), ("table", .str r.table),
    ("column", .str r.column), ("foreign_column", .str r.foreignColumn),
    ("resolved", .bool r.resolved)]

def outgoing (edge : Edge) : Relation where
  constraint := edge.constraint
  table := edge.target
  column := edge.label
  foreignColumn := edge.targetColumn
  resolved := edge.resolved

def ofLink (link : Link) : Relation where
  constraint := link.constraint
  table := link.source
  column := link.column
  foreignColumn := link.foreignColumn
  resolved := true

end Relation

namespace Relationships

def ofFields (fields : Json.Fields) : Checked Relationships :=
  mk <$> required fields "table" text
    <*> withDefault fields "foreign_keys" [] (listOf (object Relation.ofFields))
    <*> withDefault fields "referenced_by" [] (listOf (object Relation.ofFields))

def toJson (r : Relationships) : Json :=
  .obj [("table", .str r.table), ("foreign_keys", .arr (r.foreignKeys.map Relation.toJson)),
    ("referenced_by", .arr (r.referencedBy.map Relation.toJson))]

/-- The edges that leave a table, in the order of the diagram. -/
def outgoing (diagram : Diagram) (table : CodeString) : List Relation :=
  (diagram.edges.filter (·.source = table)).map Relation.outgoing

/-- The relationships of a table; a name that is no node of the network is a missing key. -/
def query (diagram : Diagram) (network : Network) (table : CodeString) :
    Except Fault Relationships :=
  if network.hasNode table then
    .ok { table := table
          foreignKeys := outgoing diagram table
          referencedBy := (network.incoming table).map Relation.ofLink }
  else .error (.missingKey table)

/-- The relationships of a table as the diagram alone tells them. -/
def plain (diagram : Diagram) (table : CodeString) : Except Fault Relationships :=
  if table ∈ diagram.nodeIds then
    .ok { table := table
          foreignKeys := outgoing diagram table
          referencedBy :=
            (diagram.edges.filter fun edge => edge.resolved && edge.target = table).map
              fun edge => Relation.ofLink (Network.linkOf edge) }
  else .error (.missingKey table)

end Relationships

end ErDiagram
