import ErDiagram.Json.Value
import ErDiagram.Number.Decimal
import ErDiagram.Text.Quoted

/-!
# Writing JSON values

`Json.write` is the compact text of a value, and `Json.textCodes` the code points of that text before
halves of surrogate pairs are escaped. `Json.display` is the text a value has inside a message:
words for null and the truth values, quoted strings inside containers, and a string alone as it is.
-/

namespace ErDiagram.Json

def stringCode (code : Nat) : List Nat :=
  if code = Text.doubleQuote.toNat ∨ code = Text.backslash.toNat then [Text.backslash.toNat, code]
  else if code = 0x08 then Text.codesOf "\\b"
  else if code = 0x0C then Text.codesOf "\\f"
  else if code = '\n'.toNat then Text.codesOf "\\n"
  else if code = '\r'.toNat then Text.codesOf "\\r"
  else if code = '\t'.toNat then Text.codesOf "\\t"
  else if code < 0x20 then Text.codesOf "\\u" ++ (Text.hexDigits 4 code).map Char.toNat
  else [code]

def stringCodes (s : CodeString) : List Nat :=
  Text.doubleQuote.toNat :: s.codes.flatMap stringCode ++ [Text.doubleQuote.toNat]

def listed (parts : List (List Nat)) : List Nat :=
  List.intercalate [','.toNat] parts

mutual

/-- The compact text of a value. A number with a point is written by its fewest digits, and half of a
surrogate pair stands as it is. -/
def textCodes : Json → List Nat
  | .null => Text.codesOf "null"
  | .bool value => Text.codesOf (if value then "true" else "false")
  | .int value => Text.codesOf (toString value)
  | .real .nan => Text.codesOf "NaN"
  | .real (.infinite negative) => Text.codesOf (if negative then "-Infinity" else "Infinity")
  | .real value => Text.codesOf value.shortestText
  | .str value => stringCodes value
  | .arr items => '['.toNat :: listed (itemCodes items) ++ [']'.toNat]
  | .obj fields => '\x7b'.toNat :: listed (fieldCodes fields) ++ ['\x7d'.toNat]

def itemCodes : List Json → List (List Nat)
  | [] => []
  | item :: rest => textCodes item :: itemCodes rest

def fieldCodes : Fields → List (List Nat)
  | [] => []
  | (name, value) :: rest => (stringCodes name ++ ':'.toNat :: textCodes value) :: fieldCodes rest

end

/-- One code point of a text. Half of a surrogate pair is escaped, so that it is read back. -/
def writeCode (code : Nat) : List Char :=
  if Text.isCharacter code then [Char.ofNat code]
  else Text.backslash :: 'u' :: Text.hexDigits 4 code

def write (value : Json) : String :=
  String.ofList (value.textCodes.flatMap writeCode)

mutual

/-- The text of a value inside a container of a message, where a string is quoted. -/
def displayNested : Json → String
  | .null => "None"
  | .bool value => if value then "True" else "False"
  | .int value => toString value
  | .real value => value.shortestText
  | .str value => value.quoted
  | .arr items => "[" ++ String.intercalate ", " (displayItems items) ++ "]"
  | .obj fields => "\x7b" ++ String.intercalate ", " (displayFields fields) ++ "\x7d"

def displayItems : List Json → List String
  | [] => []
  | item :: rest => displayNested item :: displayItems rest

def displayFields : Fields → List String
  | [] => []
  | (name, value) :: rest =>
    (name.quoted ++ ": " ++ displayNested value) :: displayFields rest

end

def display : Json → CodeString
  | .str value => value
  | value => displayNested value

end ErDiagram.Json
