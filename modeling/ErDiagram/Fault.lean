import ErDiagram.Json.Reader
import ErDiagram.Json.Writer
import ErDiagram.Uri.Domain.NameFault
import ErDiagram.Uri.Fault
import ErDiagram.Validation.Checked

/-!
# What can go wrong

A fault is a cause. Its wording is in `Fault.message` alone, and its kind in `Fault.kindName`. Where a
fault has to be told in one text, `Fault.text` falls back on the kind when there is no wording.
-/

namespace ErDiagram

inductive Fault where
  /-- The metadata service refused or could not be reached; its status, if it gave one. -/
  | service (message : CodeString) (status : Option Int)
  /-- The tables of a schema could not be listed. -/
  | listing (schema : CodeString) (cause : Fault)
  /-- A value does not describe a record of the model. -/
  | invalid (model : String) (issues : List Issue)
  /-- The fields of a record were wanted and the value has none. -/
  | notFields (model : String) (given : Json)
  /-- The items of a list were wanted and the value has none. -/
  | notList (given : Json)
  /-- A named entry was wanted of a value that has no named entries. -/
  | noEntries (given : Json)
  /-- An attribute that a value does not have. -/
  | noAttribute (given : Json) (name : String)
  /-- A key that is not there. -/
  | missingKey (key : CodeString)
  /-- The members of an object were wanted of another value. -/
  | noMembers
  /-- A layout of no nodes was asked for a position. -/
  | emptyLayout (total : Int)
  /-- A node index without a position. -/
  | indexOutside (index total : Int)
  /-- An integer too large for a coordinate. -/
  | beyondNumbers
  /-- A value that is none of the choices. -/
  | unknownChoice (given : Json) (choices : String)
  /-- A limit on concurrent requests that lets none through. -/
  | noConcurrency
  /-- No answer within the time allowed. -/
  | timedOut
  /-- No sample of that name; the names there are. -/
  | sampleMissing (name : CodeString) (available : List String)
  /-- A text that cannot be read as JSON. -/
  | unreadable (cause : Json.ReadFault)
  /-- A number without a finite value that was to be told in JSON. -/
  | nonFinite
  /-- A setting whose text cannot be read. -/
  | unreadableSetting (name : String)
  /-- A text that has to be ASCII and is not. -/
  | notAscii (text : CodeString)
  /-- A text that was to be sent and has halves of surrogate pairs. -/
  | notSendable (text : CodeString)
  /-- A text that is no address. -/
  | address (cause : Uri.AddressFault)
  /-- A host whose name breaks the rules of names. -/
  | hostName (cause : Uri.Domain.NameFault)
  /-- An address that does not say what kind of address it is. -/
  | unknownAddressKind (address : String)
  /-- A failure known by its kind only, perhaps with a message. -/
  | raised (kind : String) (message : Option CodeString)
  deriving Repr, Inhabited

namespace Fault

def valueKind : Json → String
  | .null => "NoneType"
  | .bool _ => "bool"
  | .int _ => "int"
  | .real _ => "float"
  | .str _ => "str"
  | .arr _ => "list"
  | .obj _ => "dict"

def readingKind : Json.ReadFault → String
  | .malformed => "JSONDecodeError"
  | .longInteger _ => "ValueError"
  | .tooDeep _ => "RecursionError"
  | .undecodable => "UnicodeDecodeError"

def kindName : Fault → String
  | service _ _ => "MetadataProviderError"
  | listing _ _ => "ListTablesFailed"
  | invalid _ _ => "ValidationError"
  | notFields _ _ => "TypeError"
  | notList _ => "TypeError"
  | noEntries _ => "TypeError"
  | noAttribute _ _ => "AttributeError"
  | missingKey _ => "KeyError"
  | noMembers => "AttributeError"
  | emptyLayout _ => "LayoutInvariantViolation"
  | indexOutside _ _ => "LayoutInvariantViolation"
  | beyondNumbers => "OverflowError"
  | unknownChoice _ _ => "ValueError"
  | noConcurrency => "ValueError"
  | timedOut => "TimeoutError"
  | sampleMissing _ _ => "FileNotFoundError"
  | unreadable cause => readingKind cause
  | nonFinite => "ValueError"
  | unreadableSetting _ => "SettingsError"
  | notAscii _ => "UnicodeEncodeError"
  | notSendable _ => "UnicodeEncodeError"
  | address _ => "InvalidURL"
  | hostName cause => cause.kindName
  | unknownAddressKind _ => "ValueError"
  | raised kind _ => kind

def issuesHeadline (model : String) (count : Nat) : String :=
  toString count ++ (if count = 1 then " validation error for " else " validation errors for ") ++
    model

/-- The wording for the first run of code points that do not fit an encoding, and the reason. -/
def encodingHeadline (encoding : String) (fits : Nat → Bool) (reason : String) (codes : List Nat) :
    String :=
  let first := (codes.takeWhile fits).length
  let run := (codes.drop first).takeWhile (!fits ·)
  "'" ++ encoding ++ "' codec can't encode character" ++
    (match run with
      | [code] => " '" ++ String.ofList (Text.escapeCode code) ++ "' in position " ++ toString first
      | _ => "s in position " ++ toString first ++ "-" ++ toString (first + run.length - 1)) ++
    ": " ++ reason

def containerWord : Json.Container → String
  | .array => "array"
  | .object => "object"

/-- The wording of a reader's fault; it can be empty. -/
def readingMessage : Json.ReadFault → String
  | .malformed => ""
  | .longInteger digits =>
    "Exceeds the limit (" ++ toString Json.longestNumeral ++
      " digits) for integer string conversion: value has " ++ toString digits ++
      " digits; use sys.set_int_max_str_digits() to increase the limit"
  | .tooDeep container =>
    "maximum recursion depth exceeded while decoding a JSON " ++ containerWord container ++
      " from a unicode string"
  | .undecodable => ""

/-- The wording of a fault; it can be empty. -/
def message : Fault → CodeString
  | service message _ => message
  | listing _ cause => cause.message
  | invalid model issues => issuesHeadline model issues.length
  | notFields model given =>
    "schemaviz.models." ++ model ++ "() argument after ** must be a mapping, not " ++
      valueKind given
  | notList given => "'" ++ valueKind given ++ "' object is not iterable"
  | noEntries (.arr _) => "list indices must be integers or slices, not str"
  | noEntries (.str _) => "string indices must be integers, not 'str'"
  | noEntries given => "'" ++ valueKind given ++ "' object is not subscriptable"
  | noAttribute given name =>
    "'" ++ valueKind given ++ "' object has no attribute '" ++ name ++ "'"
  | missingKey key => key.quoted
  | noMembers => ""
  | emptyLayout total => "Cannot lay out " ++ toString total ++ " node(s)"
  | indexOutside index total =>
    "Node index " ++ toString index ++ " out of range for " ++ toString total ++ " node(s)"
  | beyondNumbers => "int too large to convert to float"
  | unknownChoice given choices =>
    Json.displayNested given ++ " is not a valid " ++ choices
  | noConcurrency => "max_concurrency must be at least 1"
  | timedOut => ""
  | sampleMissing name available =>
    "Sample '" ++ name ++ "' not found. Available samples: " ++
      Json.display (.arr (available.map fun name => .str (.whole name)))
  | unreadable cause => readingMessage cause
  | nonFinite => "Out of range float values are not JSON compliant"
  | unreadableSetting name =>
    "error parsing value for field \"" ++ name ++ "\" from source \"EnvSettingsSource\""
  | notAscii text =>
    encodingHeadline "ascii" (· < 0x80) "ordinal not in range(128)" text.codes
  | notSendable text =>
    encodingHeadline "utf-8" Text.isCharacter "surrogates not allowed" text.codes
  | address cause => cause.message
  | hostName cause => cause.message
  | unknownAddressKind text => "unknown url type: " ++ Text.quoted text
  | raised _ message => message.getD ""

/-- The wording, or the kind where there is none. -/
def text (fault : Fault) : CodeString :=
  if fault.message = "" then fault.kindName else fault.message

/-- A checked value, or the fault that it does not describe the model. -/
def ofChecked {α : Type} (model : String) : Checked α → Except Fault α
  | .valid a => .ok a
  | .invalid issues => .error (.invalid model issues)

theorem text_eq_message {fault : Fault} (h : fault.message ≠ "") : fault.text = fault.message := by
  simp [text, h]

theorem text_eq_kindName {fault : Fault} (h : fault.message = "") :
    fault.text = fault.kindName := by
  simp [text, h]

end Fault

end ErDiagram
