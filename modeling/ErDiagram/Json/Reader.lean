import ErDiagram.Json.Value
import ErDiagram.Number.Decimal
import ErDiagram.Text.Encoding
import ErDiagram.Text.Hexadecimal

/-!
# Reading JSON text

`Json.read` accepts one value with blanks around it. Beyond the standard it accepts the words `NaN`,
`Infinity` and `-Infinity`; it refuses integers of enormous length and containers that are nested too
deep. `Json.readBytes` reads a document that travelled as bytes. The first fault that is met, from the
front of the text, is the one that is told.

A document is a list of code points, for one that travelled as bytes can hold halves of surrogate pairs.
Every function takes the code points still to be read and returns those it leaves. The nesting functions
take a fuel that `read` sets to more than any text of that length can use, and the number of levels that
may still be opened.
-/

namespace ErDiagram.Json

/-- The values that hold others. -/
inductive Container where
  | array
  | object
  deriving DecidableEq, Repr

/-- Why a text cannot be read. -/
inductive ReadFault where
  /-- The text is not JSON. -/
  | malformed
  /-- An integer has more digits than are read. -/
  | longInteger (digits : Nat)
  /-- A container lies deeper than is read. -/
  | tooDeep (container : Container)
  /-- The bytes are no text. -/
  | undecodable
  deriving DecidableEq, Repr, Inhabited

/-- The code point of a character, also where a pattern wants it. -/
@[match_pattern] abbrev codeOf (c : Char) : Nat := c.toNat

def isSpace (c : Nat) : Bool :=
  c == codeOf ' ' || c == codeOf '\t' || c == codeOf '\n' || c == codeOf '\r'

def skipSpace (cs : List Nat) : List Nat :=
  cs.dropWhile isSpace

def hexValue? (c : Nat) : Option Nat := Text.hexValue? (Text.shownCode c)

/-- The code unit written by four hexadecimal digits. -/
def unit? (a b c d : Nat) : Option Nat := do
  let high := (← hexValue? a) * 16 + (← hexValue? b)
  let low := (← hexValue? c) * 16 + (← hexValue? d)
  return high * 256 + low

/-- The code point that a one-letter escape stands for. -/
def shortEscape? : Nat → Option Nat
  | codeOf '\x22' => some 0x22
  | codeOf '\x5c' => some 0x5C
  | codeOf '/' => some 0x2F
  | codeOf 'b' => some 0x08
  | codeOf 'f' => some 0x0C
  | codeOf 'n' => some 0x0A
  | codeOf 'r' => some 0x0D
  | codeOf 't' => some 0x09
  | _ => none

/-- One code point in a string: as it stands, or as a code unit that is written by an escape. -/
inductive Written where
  | plain (code : Nat)
  | escaped (unit : Nat)

/-- The code points of a string. Only halves that are escaped make a pair. -/
def Written.codes : List Written → List Nat
  | .escaped high :: .escaped low :: rest =>
    if Text.isHighHalf high && Text.isLowHalf low then Text.pairCode high low :: codes rest
    else high :: codes (.escaped low :: rest)
  | .escaped unit :: rest => unit :: codes rest
  | .plain code :: rest => code :: codes rest
  | [] => []

/-- What is written in a string after its opening quote, up to and without the closing one. -/
def readWritten : List Nat → List Written → Except ReadFault (List Written × List Nat)
  | [], _ => .error .malformed
  | codeOf '\x22' :: rest, seen => .ok (seen.reverse, rest)
  | codeOf '\x5c' :: codeOf 'u' :: a :: b :: c :: d :: rest, seen =>
    match unit? a b c d with
    | some unit => readWritten rest (.escaped unit :: seen)
    | none => .error .malformed
  | codeOf '\x5c' :: e :: rest, seen =>
    match shortEscape? e with
    | some c => readWritten rest (.plain c :: seen)
    | none => .error .malformed
  | c :: rest, seen =>
    if c < codeOf ' ' then .error .malformed else readWritten rest (.plain c :: seen)

def readString (cs : List Nat) : Except ReadFault (CodeString × List Nat) := do
  let (written, rest) ← readWritten cs []
  return (.ofCodes (Written.codes written), rest)

def digitsValue (digits : List Char) : Nat :=
  digits.foldl (fun n c => n * 10 + (c.toNat - 48)) 0

/-- Whether a code point is a decimal digit of ASCII. -/
def isDigit (c : Nat) : Bool := (Text.shownCode c).isDigit

def splitDigits (cs : List Nat) : List Char × List Nat :=
  ((cs.takeWhile isDigit).map Text.shownCode, cs.dropWhile isDigit)

/-- The digits of a whole part: a zero alone, or digits that do not start with one. -/
def splitWhole (cs : List Nat) : List Char × List Nat :=
  match cs with
  | codeOf '0' :: rest => (['0'], rest)
  | _ => splitDigits cs

/-- The digits after a decimal point, if a point with a digit follows. -/
def splitFraction (cs : List Nat) : List Char × List Nat :=
  match cs with
  | codeOf '.' :: rest =>
    let (digits, more) := splitDigits rest
    if digits.isEmpty then ([], cs) else (digits, more)
  | _ => ([], cs)

/-- The value of an exponent part, if a complete one follows. -/
def splitExponent (cs : List Nat) : Option Int × List Nat :=
  match cs with
  | e :: rest =>
    if e = codeOf 'e' ∨ e = codeOf 'E' then
      let (negative, unsigned) : Bool × List Nat :=
        match rest with
        | codeOf '-' :: more => (true, more)
        | codeOf '+' :: more => (false, more)
        | _ => (false, rest)
      let (digits, more) := splitDigits unsigned
      if digits.isEmpty then (none, cs)
      else (some (if negative then -(digitsValue digits : Int) else digitsValue digits), more)
    else (none, cs)
  | [] => (none, cs)

/-- The longest digit string that is read as an integer. -/
def longestNumeral : Nat := 4300

def readNumber (negative : Bool) (cs : List Nat) : Except ReadFault (Json × List Nat) :=
  let (whole, afterWhole) := splitWhole cs
  if whole.isEmpty then .error .malformed
  else
    let (fraction, afterFraction) := splitFraction afterWhole
    let (exponent, rest) := splitExponent afterFraction
    if fraction.isEmpty && exponent.isNone then
      let n : Int := digitsValue whole
      if whole.length ≤ longestNumeral then .ok (.int (if negative then -n else n), rest)
      else .error (.longInteger whole.length)
    else
      let power := exponent.getD 0 - (fraction.length : Int)
      .ok (.real (.ofDecimal negative (digitsValue (whole ++ fraction)) power), rest)

def readWord (word : String) (value : Json) (cs : List Nat) : Except ReadFault (Json × List Nat) :=
  if (Text.codesOf word).isPrefixOf cs then .ok (value, cs.drop word.length) else .error .malformed

/-- A value that is neither a string nor a container. -/
def readScalar (cs : List Nat) : Except ReadFault (Json × List Nat) :=
  match cs with
  | codeOf 'n' :: _ => readWord "null" .null cs
  | codeOf 't' :: _ => readWord "true" (.bool true) cs
  | codeOf 'f' :: _ => readWord "false" (.bool false) cs
  | codeOf 'N' :: _ => readWord "NaN" (.real .nan) cs
  | codeOf 'I' :: _ => readWord "Infinity" (.real (.infinite false)) cs
  | codeOf '-' :: codeOf 'I' :: _ => readWord "-Infinity" (.real (.infinite true)) cs
  | codeOf '-' :: rest => readNumber true rest
  | _ => readNumber false cs

mutual

def readValue : Nat → Nat → List Nat → Except ReadFault (Json × List Nat)
  | 0, _, _ => .error .malformed
  | fuel + 1, levels, cs =>
    match cs with
    | codeOf '\x22' :: rest => do
      let (text, more) ← readString rest
      return (.str text, more)
    | codeOf '[' :: rest =>
      match levels with
      | 0 => .error (.tooDeep .array)
      | inside + 1 =>
        match skipSpace rest with
        | codeOf ']' :: more => .ok (.arr [], more)
        | first => do
          let (items, more) ← readItems fuel inside first
          return (.arr items, more)
    | codeOf '\x7b' :: rest =>
      match levels with
      | 0 => .error (.tooDeep .object)
      | inside + 1 =>
        match skipSpace rest with
        | codeOf '\x7d' :: more => .ok (.obj [], more)
        | first => do
          let (fields, more) ← readFields fuel inside first
          return (ofFields fields, more)
    | _ => readScalar cs

/-- The items of an array up to and with its closing bracket. -/
def readItems : Nat → Nat → List Nat → Except ReadFault (List Json × List Nat)
  | 0, _, _ => .error .malformed
  | fuel + 1, levels, cs => do
    let (item, rest) ← readValue fuel levels cs
    match skipSpace rest with
    | codeOf ']' :: more => return ([item], more)
    | codeOf ',' :: more =>
      let (items, last) ← readItems fuel levels (skipSpace more)
      return (item :: items, last)
    | _ => .error .malformed

/-- The fields of an object, as written, up to and with its closing brace. -/
def readFields : Nat → Nat → List Nat → Except ReadFault (Fields × List Nat)
  | 0, _, _ => .error .malformed
  | fuel + 1, levels, cs =>
    match cs with
    | codeOf '\x22' :: rest => do
      let (name, afterName) ← readString rest
      match skipSpace afterName with
      | codeOf ':' :: more => do
        let (value, afterValue) ← readValue fuel levels (skipSpace more)
        match skipSpace afterValue with
        | codeOf '\x7d' :: last => return ([(name, value)], last)
        | codeOf ',' :: next =>
          let (fields, last) ← readFields fuel levels (skipSpace next)
          return ((name, value) :: fields, last)
        | _ => .error .malformed
      | _ => .error .malformed
    | _ => .error .malformed

end

/-- The value of a text that holds exactly one, with no more than a number of containers around any
other. -/
def readWithin (levels : Nat) (cs : List Nat) : Except ReadFault Json := do
  let (value, rest) ← readValue (2 * cs.length + 2) levels (skipSpace cs)
  if (skipSpace rest).isEmpty then return value else throw .malformed

def deepestNesting : Nat := 980

def read (text : String) : Except ReadFault Json :=
  readWithin deepestNesting (Text.codesOf text)

def readBytes (bytes : List Nat) : Except ReadFault Json :=
  match Text.decodeDocument? bytes with
  | some cs => readWithin deepestNesting cs
  | none => .error .undecodable

/-- The value of a text that travelled as bytes in UTF-8. They can show another encoding, and are then read
in that. -/
def readSent (text : String) : Except ReadFault Json :=
  readBytes (Text.utf8Bytes text.toList)

end ErDiagram.Json
