import ErDiagram.Sample.Shop
import ErDiagram.Source.Document
import ErDiagram.Text.Split

/-!
# The catalog of samples

A catalog holds sample documents as files of a folder. The list of samples leaves out files that are not
JSON, and tells the name and the description of the others in order of the file names. A sample is loaded
by the way from that folder to its file, which can lead through other folders.
-/

namespace ErDiagram

/-- A file with what comes of reading its text. -/
structure SampleFile where
  fileName : String
  content : Except Json.ReadFault Json
  deriving Inhabited

/-- A sample as the list tells it. -/
structure SampleEntry where
  name : String
  description : Json
  deriving Repr, Inhabited

/-- The files of a folder, and the folders that are there. A folder is given by the names on the way to it
from the outermost one that is known. -/
structure SampleCatalog where
  files : List SampleFile
  place : List String
  folders : List (List String)

namespace SampleFile

def ending : String := ".json"

def ofText (fileName text : String) : SampleFile := ⟨fileName, Json.read text⟩

def shop : SampleFile := ⟨"ecommerce.json", .ok Shop.document⟩

def isSample (file : SampleFile) : Bool :=
  ending.toList.isSuffixOf file.fileName.toList

/-- The name of a file without its ending. A name that is nothing but the ending keeps it. -/
def sampleName (file : SampleFile) : String :=
  if file.fileName = ending then ending
  else String.ofList (file.fileName.toList.take (file.fileName.length - ending.length))

/-- The description in a document, empty where it has none. -/
def description (content : Json) : Except Fault Json := do
  SchemaDocument.member (← SchemaDocument.member content "metadata" (.obj [])) "description" (.str "")

end SampleFile

namespace SampleCatalog

/-- A catalog of files in a folder about whose surroundings nothing is known. -/
def ofFiles (files : List SampleFile) : SampleCatalog := ⟨files, [], [[]]⟩

def absent : SampleCatalog := ⟨[], [], []⟩

/-- The catalog that comes with the library, in the folder where the service keeps it. -/
def standard : SampleCatalog where
  files := [.shop]
  place := ["backend", "samples"]
  folders :=
    [[], ["backend"], ["backend", "samples"], ["backend", "tests"], ["backend", "schemaviz"],
      ["backend", "schemaviz", "api"], ["backend", "schemaviz", "engine"],
      ["backend", "schemaviz", "models"], ["backend", "schemaviz", "providers"]]

/-- The sample files in order of the characters of their names. -/
def samples (catalog : SampleCatalog) : List SampleFile :=
  (catalog.files.filter SampleFile.isSample).mergeSort fun a b =>
    decide (a.fileName ≤ b.fileName)

/-- The entry of a file; none for a file that is not JSON. -/
def entryOf (file : SampleFile) : Except Fault (Option SampleEntry) :=
  match file.content with
  | .ok content => do return some ⟨file.sampleName, ← SampleFile.description content⟩
  | .error .malformed => .ok none
  | .error cause => .error (.unreadable cause)

def entries (catalog : SampleCatalog) : Except Fault (List SampleEntry) := do
  return (← catalog.samples.mapM entryOf).filterMap id

/-- The names on a way; doubled slashes and single points say nothing. -/
def wayNames (way : String) : List String :=
  ((Text.splitMark '/' way.toList).map String.ofList).filter fun name => name ≠ "" ∧ name ≠ "."

/-- The folder that one step leads to: with two points the one around, otherwise one inside. -/
def step? (catalog : SampleCatalog) (folder : List String) (name : String) : Option (List String) :=
  if name = ".." then (if folder = [] then none else some folder.dropLast)
  else
    let inside := folder ++ [name]
    if inside ∈ catalog.folders then some inside else none

/-- The file at the end of a way that starts in the folder of the catalog. -/
def fileAt? (catalog : SampleCatalog) (way : String) : Option SampleFile := do
  if way.toList.head? = some '/' then none
  let names := wayNames way
  let folder ← names.dropLast.foldlM catalog.step? catalog.place
  if folder = catalog.place then catalog.files.find? fun file => some file.fileName = names.getLast?
  else none

def load (catalog : SampleCatalog) (name : CodeString) : Except Fault SchemaDocument :=
  match name.text?.bind fun text => catalog.fileAt? (text ++ SampleFile.ending) with
  | none => .error (.sampleMissing name (catalog.samples.map (·.sampleName)))
  | some file =>
    match file.content with
    | .ok content => SchemaDocument.ofJson content
    | .error cause => .error (.unreadable cause)

end SampleCatalog

end ErDiagram
