import ErDiagram.Source.Reply

/-!
# Documents as sources

A document holds the tables of several schemas in one JSON value. Its answers come at once. The tables of
a schema may be any value: what is wrong with them shows when they are asked for, entry by entry.
-/

namespace ErDiagram

/-- The tables of each schema of a document. -/
structure SchemaDocument where
  schemas : Json.Fields
  deriving Repr, Inhabited

namespace SchemaDocument

/-- A named field of a value, which has to have fields; another value stands in where it is absent. -/
def member (value : Json) (name : String) (absent : Json) : Except Fault Json :=
  match value with
  | .obj fields => .ok ((Json.field? fields name).getD absent)
  | _ => .error .noMembers

/-- The fields of a value, which has to have some. -/
def members : Json → Except Fault (Json.Fields)
  | .obj fields => .ok fields
  | _ => .error .noMembers

def ofJson (data : Json) : Except Fault SchemaDocument := do
  let schemas ← members (← member data "schemas" (.obj []))
  return ⟨← schemas.mapM fun (name, body) => do return (name, ← member body "tables" (.arr []))⟩

/-- The names of the schemas, in order of their characters. -/
def names (document : SchemaDocument) : List CodeString :=
  (document.schemas.map (·.1)).mergeSort CodeString.ble

def entryName : Json → Except Fault Json
  | .obj fields =>
    match Json.field? fields "table_name" with
    | some name => .ok name
    | none => .error (.missingKey "table_name")
  | value => .error (.noEntries value)

/-- The row count of an entry, null where there is none. -/
def entryRowCount : Json → Json
  | .obj fields => (Json.field? fields "row_count").getD .null
  | _ => .null

/-- The structure of an entry, an empty one where there is none. -/
def entryStructure : Json → Json
  | .obj fields => (Json.field? fields "structure").getD (.obj [])
  | _ => .obj []

def entryRow (entry : Json) : Except Fault ListedTable := do
  let name ← entryName entry
  ListedTable.ofJson (.obj [("table_name", name), ("row_count", entryRowCount entry)])

/-- The first entry of a table. An entry before it must have a name too. -/
def findEntry (table : CodeString) : List Json → Except Fault (Option Json)
  | [] => .ok none
  | entry :: rest => do
    match ← entryName entry with
    | .str name => if name = table then return some entry else findEntry table rest
    | _ => findEntry table rest

def entriesOf (document : SchemaDocument) (schema : CodeString) : Except Fault (List Json) :=
  match Json.field? document.schemas schema with
  | some tables => tables.entries
  | none => .error (.service ("Schema '" ++ schema ++ "' does not exist") (some 404))

def listTables (document : SchemaDocument) (schema : CodeString) : Except Fault Listing := do
  return .tables (← (← document.entriesOf schema).mapM entryRow)

/-- The wording for a structure that does not describe a table. -/
def malformedStructure (schema table : CodeString) (fault : Fault) : Fault :=
  .service ("Malformed structure for '" ++ schema ++ "." ++ table ++ "': " ++ fault.message) none

def tableStructure (document : SchemaDocument) (schema table : CodeString) :
    Except Fault RawStructure := do
  match ← findEntry table (← document.entriesOf schema) with
  | none => throw (.service ("Table '" ++ schema ++ "." ++ table ++ "' does not exist") (some 404))
  | some entry =>
    match RawStructure.ofJson (entryStructure entry) with
    | .error (.invalid model issues) =>
      throw (malformedStructure schema table (.invalid model issues))
    | outcome => outcome

end SchemaDocument

end ErDiagram
