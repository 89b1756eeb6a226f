import ErDiagram.Uri.Escape

/-!
# Path segments

A name becomes one segment of a path when every byte outside the unreserved characters is written as a
percent sign and two digits. So a name can hold a slash without ending its segment.
-/

namespace ErDiagram.Uri

def escapeByte (b : Nat) : List Char :=
  if isUnreserved b then [Char.ofNat b] else percentTriple b

def segment (name : String) : String :=
  String.ofList ((Text.utf8Bytes name.toList).flatMap escapeByte)

/-- The name that a segment stands for, if its bytes are text. -/
def decode? (text : String) : Option String :=
  (Text.utf8Strict? (unescape text.toList)).map String.ofList

def tablesPath (schema : String) : String :=
  "/api/schema/" ++ segment schema ++ "/tables"

def structurePath (schema table : String) : String :=
  "/api/schema/" ++ segment schema ++ "/table/" ++ segment table ++ "/structure"

end ErDiagram.Uri
