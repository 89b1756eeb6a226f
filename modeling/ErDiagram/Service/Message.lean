import ErDiagram.Diagram.Model

/-!
# Messages of the service

What clients send to change the layout or the selection, and what the service tells of the signals that
were published.
-/

namespace ErDiagram

open Json

structure LayoutRequest where
  layout : LayoutKind
  deriving DecidableEq, Repr

structure SchemaRequest where
  schema : CodeString
  deriving DecidableEq, Repr

structure DatabaseRequest where
  database : Option Int
  deriving DecidableEq, Repr

/-- A published signal with the time of its publication and the number of handlers it reached. -/
structure SignalReport where
  timestamp : CodeString
  topic : CodeString
  delivered : Int
  deriving DecidableEq, Repr

namespace LayoutRequest

def ofFields (fields : Json.Fields) : Checked LayoutRequest :=
  mk <$> required fields "layout" LayoutKind.check

def toJson (request : LayoutRequest) : Json :=
  .obj [("layout", request.layout.toJson)]

end LayoutRequest

namespace SchemaRequest

def ofFields (fields : Json.Fields) : Checked SchemaRequest :=
  mk <$> required fields "schema_name" text

def toJson (request : SchemaRequest) : Json :=
  .obj [("schema_name", .str request.schema)]

end SchemaRequest

namespace DatabaseRequest

def ofFields (fields : Json.Fields) : Checked DatabaseRequest :=
  mk <$> withDefault fields "database_id" none (optional integer)

def toJson (request : DatabaseRequest) : Json :=
  .obj [("database_id", Json.ofInt? request.database)]

end DatabaseRequest

namespace SignalReport

def ofFields (fields : Json.Fields) : Checked SignalReport :=
  mk <$> required fields "timestamp" text
    <*> required fields "topic" text
    <*> required fields "delivered" integer

def toJson (r : SignalReport) : Json :=
  .obj [("timestamp", .str r.timestamp), ("topic", .str r.topic), ("delivered", .int r.delivered)]

end SignalReport

end ErDiagram
