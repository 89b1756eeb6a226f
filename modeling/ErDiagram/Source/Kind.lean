import ErDiagram.Source.Remote
import ErDiagram.Source.Script

/-!
# The kinds of sources

A source is a script, a document or a remote service. `Source.asked` is how any of them answers.
-/

namespace ErDiagram

inductive Source where
  | script (answers : Script)
  | document (content : SchemaDocument)
  | remote (service : Remote)

namespace Source

def listTables (context : Context) (schema : CodeString) : Source → Reply Listing × Source
  | .script s => (s.listTables schema, .script s)
  | .document d => (.immediate (d.listTables schema), .document d)
  | .remote r =>
    let (outcome, r) := r.listTables context schema
    (.immediate outcome, .remote r)

def tableStructure (context : Context) (schema table : CodeString) :
    Source → Reply RawStructure × Source
  | .script s => (s.tableStructure schema table, .script s)
  | .document d => (.immediate (d.tableStructure schema table), .document d)
  | .remote r =>
    let (outcome, r) := r.tableStructure context schema table
    (.immediate outcome, .remote r)

def close : Source → Source
  | .remote r => .remote r.close
  | source => source

def asked : MetadataSource Source := ⟨listTables, tableStructure, close⟩

/-- The names of the schemas, which only a document tells. -/
def schemas : Source → Except Fault (List CodeString)
  | .document d => .ok d.names
  | _ => .error .noMembers

def sent : Source → List HttpRequest
  | .remote r => r.sent
  | _ => []

end Source

end ErDiagram
