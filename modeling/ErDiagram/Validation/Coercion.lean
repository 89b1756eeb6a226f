import ErDiagram.Validation.Numeral

/-!
# Lenient checks of single values

A service may send a number as text or a truth value as a number. The checks accept such spellings where
the value is unmistakable: `integer` takes whole numbers, truth values and numerals, `number` decimal
text, `truth` the usual words. `text` takes text alone. `optional`, `listOf` and `object` build on them.
A string with half of a surrogate pair spells nothing, but it is text.
-/

namespace ErDiagram.Json

open Checked

/-- The sign in front of a numeral, true for minus, and what follows it. -/
def splitSign : List Char → Bool × List Char
  | '-' :: rest => (true, rest)
  | '+' :: rest => (false, rest)
  | cs => (false, cs)

/-- The integers that a number with a point may stand for lie below this in size. -/
def wordLimit : Int := Int.pow 2 63

def spelled {α : Type} (s : CodeString) (check : List Char → Checked α) : Checked α :=
  match s.text? with
  | some text => check text.toList
  | none => fail .halvedText

def integer : Json → Checked Int
  | .int n => valid n
  | .bool b => valid (if b then 1 else 0)
  | .real x =>
    if !x.isFinite then fail .notFiniteNumber
    else match x.toInt? with
      | none => fail .fractionalInteger
      | some n => if -wordLimit < n ∧ n < wordLimit then valid n else fail .oversizedInteger
  | .str s => spelled s Numeral.wholeNumber
  | _ => fail .notInteger

/-- The characters in lower case, for comparison with words of ASCII letters. -/
def lowered (cs : List Char) : String :=
  String.ofList (cs.map Char.toLower)

/-- A decimal numeral without sign: digits around an optional point, at least one, and an exponent. -/
def decimal? (negative : Bool) (cs : List Nat) : Option Binary64 :=
  let (whole, afterWhole) := splitDigits cs
  let (fraction, afterFraction) : List Char × List Nat :=
    match afterWhole with
    | codeOf '.' :: rest => splitDigits rest
    | _ => ([], afterWhole)
  let (exponent, rest) := splitExponent afterFraction
  if (whole ++ fraction).isEmpty || !rest.isEmpty then none
  else some (.ofDecimal negative (digitsValue (whole ++ fraction))
    (exponent.getD 0 - (fraction.length : Int)))

/-- A signed decimal numeral or a word for an infinity or for no number. -/
def numeral? (cs : List Char) : Option Binary64 :=
  let (negative, unsigned) := splitSign cs
  match lowered unsigned with
  | "inf" => some (.infinite negative)
  | "infinity" => some (.infinite negative)
  | "nan" => some .nan
  | _ => decimal? negative (unsigned.map Char.toNat)

def numberOfText? (cs : List Char) : Option Binary64 :=
  numeral? (Text.trimBlanks cs) <|> (Numeral.ungrouped? cs).bind numeral?

/-- The number that a text writes, or the issue that it writes none. -/
def readNumeral (cs : List Char) : Checked Binary64 :=
  match numberOfText? cs with
  | some x => valid x
  | none => fail .unreadableNumber

def number : Json → Checked Binary64
  | .real x => valid x
  | .int n =>
    match Binary64.ofInt? n with
    | some x => valid x
    | none => fail .notNumber
  | .bool b => valid (if b then .ofRatio false 1 1 else .zero)
  | .str s => spelled s readNumeral
  | _ => fail .notNumber

def trueWords : List String := ["1", "on", "t", "true", "y", "yes"]

def falseWords : List String := ["0", "off", "f", "false", "n", "no"]

def truthOfInt (n : Int) : Checked Bool :=
  if n = 1 then valid true else if n = 0 then valid false else fail .unreadableTruth

def readTruth (cs : List Char) : Checked Bool :=
  if trueWords.contains (lowered cs) then valid true
  else if falseWords.contains (lowered cs) then valid false
  else fail .unreadableTruth

def truth : Json → Checked Bool
  | .bool b => valid b
  | .int n =>
    if -wordLimit ≤ n ∧ n < wordLimit then truthOfInt n
    else match (Binary64.ofInt? n).bind (·.toInt?) with
      | some m => if -wordLimit < m ∧ m < wordLimit then truthOfInt m else fail .notTruth
      | none => fail .notTruth
  | .real x =>
    match x.toInt? with
    | some m => if -wordLimit < m ∧ m < wordLimit then truthOfInt m else fail .notTruth
    | none => fail .notTruth
  | .str s => spelled s readTruth
  | _ => fail .notTruth

def text : Json → Checked CodeString
  | .str s => valid s
  | _ => fail .notText

variable {α : Type}

def optional (check : Json → Checked α) : Json → Checked (Option α)
  | .null => valid none
  | value => some <$> check value

def itemsFrom (check : Json → Checked α) : Nat → List Json → Checked (List α)
  | _, [] => valid []
  | n, item :: rest =>
    List.cons <$> (check item).under (.item n) <*> itemsFrom check (n + 1) rest

def listOf (check : Json → Checked α) : Json → Checked (List α)
  | .arr items => itemsFrom check 0 items
  | _ => fail .notList

def object (check : Json.Fields → Checked α) : Json → Checked α
  | .obj fields => check fields
  | _ => fail .notObject

def required (fields : Json.Fields) (name : String) (check : Json → Checked α) :
    Checked α :=
  (match field? fields name with
    | some value => check value
    | none => fail .missing).under (.field name)

/-- A field with a value of its own when it is absent. -/
def withDefault (fields : Json.Fields) (name : String) (absent : α)
    (check : Json → Checked α) : Checked α :=
  match field? fields name with
  | some value => (check value).under (.field name)
  | none => valid absent

@[simp] theorem text_str (s : CodeString) : text (.str s) = valid s := rfl
@[simp] theorem integer_int (n : Int) : integer (.int n) = valid n := rfl
@[simp] theorem number_real (x : Binary64) : number (.real x) = valid x := rfl
@[simp] theorem truth_bool (b : Bool) : truth (.bool b) = valid b := rfl

end ErDiagram.Json
