import ErDiagram.Signal.Topic
import ErDiagram.Validation.Coercion

/-!
# The context

The context is the selected connection, database and schema, with the token that identifies the caller to
the metadata service. A change of the context has the topic of the signal that is due for it. The request
headers tell the service who asks and which database is meant, as the context stands at that moment.
-/

namespace ErDiagram

open Json

structure Context where
  schema : Option CodeString
  database : Option Int
  connection : Option Int
  token : Option CodeString
  deriving DecidableEq, Repr, Inhabited

/-- What can be selected anew. A new connection comes with a database of its own or none. -/
inductive ContextChange where
  | schema (value : Option CodeString)
  | database (value : Option Int)
  | connection (value : Option Int) (database : Option Int)
  deriving DecidableEq, Repr

/-- What a request tells about the caller and the database. -/
structure RequestHeaders where
  authorization : Option CodeString
  database : Option String
  deriving DecidableEq, Repr, Inhabited

/-- The selected connection, database and schema, as told to a client. -/
structure Selection where
  connection : Option Int
  database : Option Int
  schema : Option CodeString
  deriving DecidableEq, Repr

/-- The topic of the signal that is due for a change. -/
def ContextChange.topic : ContextChange → Topic
  | schema _ => .schemaChanged
  | database _ => .databaseChanged
  | connection _ _ => .connectionChanged

namespace RequestHeaders

def none : RequestHeaders := ⟨Option.none, Option.none⟩

end RequestHeaders

namespace Context

def empty : Context := ⟨none, none, none, none⟩

def apply (context : Context) : ContextChange → Context
  | .schema value => { context with schema := value }
  | .database value => { context with database := value }
  | .connection value database => { context with connection := value, database := database }

/-- The headers of a request made now. An empty token identifies nobody. -/
def requestHeaders (context : Context) : RequestHeaders where
  authorization := (context.token.filter (· ≠ .whole "")).map (.whole "Bearer " ++ ·)
  database := context.database.map toString

/-- The schema whose diagram is wanted: the selected one, unless its name is empty. -/
def wantedSchema (context : Context) : Option CodeString :=
  context.schema.filter (· ≠ .whole "")

def selection (context : Context) : Selection where
  connection := context.connection
  database := context.database
  schema := context.schema

theorem wantedSchema_ne_empty {context : Context} {schema : CodeString}
    (h : context.wantedSchema = some schema) : schema ≠ "" := by
  simpa using (Option.filter_eq_some_iff.1 h).2

end Context

namespace Selection

def ofFields (fields : Json.Fields) : Checked Selection :=
  mk <$> withDefault fields "connection_id" none (optional integer)
    <*> withDefault fields "database_id" none (optional integer)
    <*> withDefault fields "schema_name" none (optional text)

def toJson (s : Selection) : Json :=
  .obj [("connection_id", Json.ofInt? s.connection), ("database_id", Json.ofInt? s.database),
    ("schema_name", Json.ofText? s.schema)]

end Selection

end ErDiagram
