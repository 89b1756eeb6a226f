import ErDiagram.Diagram.Model
import ErDiagram.Sample.Catalog
import ErDiagram.Source.Kind
import ErDiagram.Text.Lowercase

/-!
# Settings

The settings of the service are read from entries or from environment variables whose names start with
`Settings.variableStart`. Names are in letters of either case. The settings say where metadata comes from:
a sample of the catalog when one is named, a service otherwise.
-/

namespace ErDiagram

open Json

structure Settings where
  metadataBaseUrl : CodeString
  apiToken : Option CodeString
  databaseId : Option Int
  defaultSchema : Option CodeString
  sample : Option CodeString
  maxConcurrency : Int
  requestTimeout : Binary64
  httpTimeout : Binary64
  defaultLayout : LayoutKind
  corsOrigins : List CodeString
  deriving DecidableEq, Repr

/-- Where metadata comes from: a document, or a service at an address with what is needed to ask it. -/
inductive MetadataOrigin where
  | sample (document : SchemaDocument)
  | service (base : Uri.Address) (timeout : Binary64) (headers : RequestHeaders)
  deriving Repr

namespace Settings

def modelName : String := "Settings"

def seconds (n : Nat) : Binary64 := .ofQuotient n 1

def ofFields (fields : Fields) : Checked Settings :=
  mk <$> withDefault fields "metadata_base_url" "http://localhost:3000" text
    <*> withDefault fields "api_token" none (optional text)
    <*> withDefault fields "database_id" none (optional integer)
    <*> withDefault fields "default_schema" (some "public") (optional text)
    <*> withDefault fields "sample" none (optional text)
    <*> withDefault fields "max_concurrency" 8 integer
    <*> withDefault fields "request_timeout" (seconds 10) number
    <*> withDefault fields "http_timeout" (seconds 30) number
    <*> withDefault fields "default_layout" .grid LayoutKind.check
    <*> withDefault fields "cors_origins" ["http://localhost:5173"] (listOf text)

def toJson (s : Settings) : Json :=
  .obj [("metadata_base_url", .str s.metadataBaseUrl), ("api_token", Json.ofText? s.apiToken),
    ("database_id", Json.ofInt? s.databaseId), ("default_schema", Json.ofText? s.defaultSchema),
    ("sample", Json.ofText? s.sample), ("max_concurrency", .int s.maxConcurrency),
    ("request_timeout", .real s.requestTimeout), ("http_timeout", .real s.httpTimeout),
    ("default_layout", s.defaultLayout.toJson), ("cors_origins", .arr (s.corsOrigins.map .str))]

def read (fields : Fields) : Except Fault Settings :=
  Fault.ofChecked modelName (ofFields fields)

def plainName (name : String) : String :=
  String.ofList (Text.lowercase name.toList)

/-- Settings from entries. Of several entries for a field the first one counts. -/
def ofEntries (entries : List (String × Json)) : Except Fault Settings :=
  read (entries.map fun entry => (.whole (plainName entry.1), entry.2))

/-- What names of variables start with, in lower case. -/
def variableStart : String := "schemaviz_"

/-- The field whose variable holds JSON. The others hold their text. -/
def structuredField : String := "cors_origins"

def fieldOf? (key : String) : Option String :=
  let name := Text.lowercase key.toList
  if variableStart.toList.isPrefixOf name then
    some (String.ofList (name.drop variableStart.length))
  else none

/-- The value that a variable gives to a field; a JSON null gives none. -/
def fieldValue (name value : String) : Except Fault (Option Json) :=
  if name = structuredField then
    match Json.read value with
    | .ok .null => .ok none
    | .ok content => .ok (some content)
    | .error (.tooDeep container) => .error (.unreadable (.tooDeep container))
    | .error _ => .error (.unreadableSetting name)
  else .ok (some (.str value))

/-- The fields that environment variables set. Of several variables for a field the last one counts. -/
def environmentFields (environment : List (String × String)) : Except Fault Fields := do
  let named := environment.filterMap fun v => (fieldOf? v.1).map fun name => (name, v.2)
  let last := named.foldl (fun seen v => seen.filter (·.1 ≠ v.1) ++ [v]) []
  let fields ← last.mapM fun (name, value) => do
    return (← fieldValue name value).map fun content => (CodeString.whole name, content)
  return fields.filterMap id

def ofEnvironment (environment : List (String × String)) : Except Fault Settings := do
  read (← environmentFields environment)

/-- Where metadata comes from. An empty name is no sample. -/
def origin (s : Settings) (catalog : SampleCatalog) (context : Context) :
    Except Fault MetadataOrigin :=
  match s.sample.filter (· ≠ .whole "") with
  | some name => do return .sample (← catalog.load name)
  | none =>
    match Uri.Address.baseOfText s.metadataBaseUrl.shown with
    | .ok base => .ok (.service base s.httpTimeout context.requestHeaders)
    | .error cause => .error (.address cause)

end Settings

end ErDiagram
