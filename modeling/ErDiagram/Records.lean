import ErDiagram.Context
import ErDiagram.Diagram.Relationships
import ErDiagram.Service.Message
import ErDiagram.View.Snapshot

/-!
# The records of the service

Every record that the service takes in or gives out, under the name it has in messages. `RecordKind.check`
reads a record of a kind from the fields of an object and `RecordKind.toJson` tells it with all its fields.
-/

namespace ErDiagram

open Json

inductive RecordKind where
  | listedTable
  | rawColumn
  | rawConstraint
  | rawForeignKey
  | rawStructure
  | column
  | foreignKey
  | table
  | diagnostic
  | position
  | node
  | edge
  | diagram
  | layoutRequest
  | schemaRequest
  | databaseRequest
  | selection
  | snapshot
  | relation
  | relationships
  | signalReport
  deriving DecidableEq, Repr

namespace RecordKind

/-- The records of a kind. -/
abbrev Value : RecordKind → Type
  | listedTable => ListedTable
  | rawColumn => RawColumn
  | rawConstraint => RawConstraint
  | rawForeignKey => RawForeignKey
  | rawStructure => RawStructure
  | column => Column
  | foreignKey => ForeignKey
  | table => Table
  | diagnostic => Diagnostic
  | position => Position
  | node => Node
  | edge => Edge
  | diagram => Diagram
  | layoutRequest => LayoutRequest
  | schemaRequest => SchemaRequest
  | databaseRequest => DatabaseRequest
  | selection => Selection
  | snapshot => Snapshot
  | relation => Relation
  | relationships => Relationships
  | signalReport => SignalReport

def modelName : RecordKind → String
  | listedTable => ListedTable.modelName
  | rawColumn => "ColumnInfo"
  | rawConstraint => "ConstraintInfo"
  | rawForeignKey => "ForeignKeyInfo"
  | rawStructure => RawStructure.modelName
  | column => "ColumnMetadata"
  | foreignKey => "ForeignKeyDescriptor"
  | table => Table.modelName
  | diagnostic => "Diagnostic"
  | position => Position.modelName
  | node => "GraphNode"
  | edge => "GraphEdge"
  | diagram => "GraphModel"
  | layoutRequest => "LayoutRequest"
  | schemaRequest => "SchemaSelectRequest"
  | databaseRequest => "DatabaseSelectRequest"
  | selection => "ContextResponse"
  | snapshot => "GraphSnapshot"
  | relation => "RelationshipItem"
  | relationships => "RelationshipsResponse"
  | signalReport => "SignalRecord"

def all : List RecordKind :=
  [listedTable, rawColumn, rawConstraint, rawForeignKey, rawStructure, column, foreignKey, table,
    diagnostic, position, node, edge, diagram, layoutRequest, schemaRequest, databaseRequest,
    selection, snapshot, relation, relationships, signalReport]

def ofModelName? (name : String) : Option RecordKind :=
  all.find? (·.modelName = name)

def check : (kind : RecordKind) → Json.Fields → Checked kind.Value
  | listedTable => ListedTable.ofFields
  | rawColumn => RawColumn.ofFields
  | rawConstraint => RawConstraint.ofFields
  | rawForeignKey => RawForeignKey.ofFields
  | rawStructure => RawStructure.ofFields
  | column => Column.ofFields
  | foreignKey => ForeignKey.ofFields
  | table => Table.ofFields
  | diagnostic => Diagnostic.ofFields
  | position => Position.ofFields
  | node => Node.ofFields
  | edge => Edge.ofFields
  | diagram => Diagram.ofFields
  | layoutRequest => LayoutRequest.ofFields
  | schemaRequest => SchemaRequest.ofFields
  | databaseRequest => DatabaseRequest.ofFields
  | selection => Selection.ofFields
  | snapshot => Snapshot.ofFields
  | relation => Relation.ofFields
  | relationships => Relationships.ofFields
  | signalReport => SignalReport.ofFields

def toJson : (kind : RecordKind) → kind.Value → Json
  | listedTable => ListedTable.toJson
  | rawColumn => RawColumn.toJson
  | rawConstraint => RawConstraint.toJson
  | rawForeignKey => RawForeignKey.toJson
  | rawStructure => RawStructure.toJson
  | column => Column.toJson
  | foreignKey => ForeignKey.toJson
  | table => Table.toJson
  | diagnostic => Diagnostic.toJson
  | position => Position.toJson
  | node => Node.toJson
  | edge => Edge.toJson
  | diagram => Diagram.toJson
  | layoutRequest => LayoutRequest.toJson
  | schemaRequest => SchemaRequest.toJson
  | databaseRequest => DatabaseRequest.toJson
  | selection => Selection.toJson
  | snapshot => Snapshot.toJson
  | relation => Relation.toJson
  | relationships => Relationships.toJson
  | signalReport => SignalReport.toJson

/-- The group that a kind belongs to in messages. -/
def group : RecordKind → String
  | position | node | edge | diagram => "graph"
  | layoutRequest | schemaRequest | databaseRequest | selection | snapshot | relation
  | relationships | signalReport => "api"
  | _ => "metadata"

/-- The record of a kind that a value describes, or the fault that it describes none. -/
def read (kind : RecordKind) : Json → Except Fault kind.Value
  | .obj fields => Fault.ofChecked kind.modelName (kind.check fields)
  | value => .error (.notFields (kind.group ++ "." ++ kind.modelName) value)

@[simp] theorem ofModelName?_modelName (kind : RecordKind) :
    ofModelName? kind.modelName = some kind := by
  cases kind <;> decide +kernel

end RecordKind

end ErDiagram
