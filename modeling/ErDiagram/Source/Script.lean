import ErDiagram.Source.Document

/-!
# Scripts as sources

A script says for each schema what its tables are, and for each of them how long its structure takes and
whether it fails. It stands in for a service whose timing is known.
-/

namespace ErDiagram

/-- One row of a schema, with what comes of asking for its structure. -/
structure ScriptedTable where
  entry : Json
  delay : Option Nat
  failure : Option Fault
  deriving Repr, Inhabited

/-- A schema without rows of its own returns no list. -/
structure Script where
  schemas : List (CodeString × Option (List ScriptedTable))
  listFailures : List (CodeString × Fault)
  listDelays : List (CodeString × Nat)
  deriving Repr, Inhabited

namespace Script

def lookup {α : Type} (entries : List (CodeString × α)) (name : CodeString) : Option α :=
  (entries.find? (·.1 = name)).map (·.2)

/-- The rows of a schema; none for an unknown one. -/
def rowsOf (script : Script) (schema : CodeString) : List ScriptedTable :=
  ((lookup script.schemas schema).getD (some [])).getD []

/-- The outcome of listing a schema that does not fail. -/
def listing (script : Script) (schema : CodeString) : Except Fault Listing :=
  match lookup script.schemas schema with
  | some none => .ok (.unlisted .null)
  | some (some rows) => do return .tables (← rows.mapM fun row => SchemaDocument.entryRow row.entry)
  | none => .ok (.tables [])

def listTables (script : Script) (schema : CodeString) : Reply Listing where
  delay := some ((lookup script.listDelays schema).getD 0)
  outcome :=
    match lookup script.listFailures schema with
    | some fault => .error fault
    | none => script.listing schema

def isRowOf (table : CodeString) (row : ScriptedTable) : Bool :=
  match SchemaDocument.entryName row.entry with
  | .ok (.str name) => name = table
  | _ => false

def tableStructure (script : Script) (schema table : CodeString) : Reply RawStructure :=
  match (script.rowsOf schema).find? (isRowOf table) with
  | none => .immediate (.error (.service ("no table " ++ table) none))
  | some row =>
    { delay := row.delay
      outcome :=
        match row.failure with
        | some fault => .error fault
        | none => RawStructure.ofJson (SchemaDocument.entryStructure row.entry) }

end Script

end ErDiagram
