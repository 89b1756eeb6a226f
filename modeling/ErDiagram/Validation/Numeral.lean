import ErDiagram.Json.Reader
import ErDiagram.Text.Blank
import ErDiagram.Validation.Checked

/-!
# Whole numbers in text

A service may send a count as text. `wholeNumber` forgives what does not change the number: blanks around
the text, a plus sign, zeros in front, a point with zeros at the end, and single underscores between
digits. Each of these has its own function, and `plainInteger?` reads what is left, which has to be a plain
integer.
-/

namespace ErDiagram.Numeral

def splitMinus : List Char → Bool × List Char
  | '-' :: rest => (true, rest)
  | cs => (false, cs)

/-- A text behind its plus sign. A minus sign must not follow one. -/
def withoutPlus? : List Char → Option (List Char)
  | '+' :: '-' :: _ => none
  | '+' :: rest => some rest
  | cs => some cs

/-- Whether a number that needs no zeros in front begins with a character. -/
def beginsNumber (c : Char) : Bool :=
  c == '-' || ('1' ≤ c && c ≤ '9')

/-- What is left behind a zero when further zeros and underscores are skipped. The character `last` in
front of the rest is kept when it stands before a point or at the end. -/
def behindZeros? (last : Char) : List Char → Option (List Char)
  | [] => some [last]
  | c :: rest =>
    if c = '0' ∨ c = '_' then behindZeros? c rest
    else if beginsNumber c then some (c :: rest)
    else if c = '.' then some (last :: c :: rest)
    else none

/-- A text without the zeros in front of its number. -/
def withoutZeros? : List Char → Option (List Char)
  | [] => none
  | c :: rest =>
    if c = '0' then behindZeros? c rest
    else if beginsNumber c then some (c :: rest)
    else none

/-- A text without a point that only zeros follow, at least one of them. -/
def withoutPoint (cs : List Char) : List Char :=
  match cs.dropWhile (· != '.') with
  | _ :: zeros =>
    if !zeros.isEmpty && zeros.all (· == '0') then cs.takeWhile (· != '.') else cs
  | [] => cs

def doubledUnderscore : List Char → Bool
  | '_' :: '_' :: _ => true
  | _ :: rest => doubledUnderscore rest
  | [] => false

/-- The text without its underscores, where they are single and inside. -/
def ungrouped? (cs : List Char) : Option (List Char) :=
  if cs.head? == some '_' || cs.getLast? == some '_' || doubledUnderscore cs then none
  else some (cs.filter (· != '_'))

/-- A text without anything that does not change its number, if it can be one. -/
def tidied? (cs : List Char) : Option (List Char) := do
  let (negative, unsigned) := splitMinus (← withoutPlus? (Text.trimBlanks cs))
  let number ← withoutZeros? unsigned
  let whole := withoutPoint (if negative then '-' :: number else number)
  return (ungrouped? whole).getD whole

/-- The digits of an integer in front, and the code points that follow them. -/
def splitInteger (cs : List Char) : List Char × List Nat :=
  Json.splitWhole (cs.map Char.toNat)

/-- Whether a text begins with more digits than are read, after a minus sign or none. -/
def isOversized (cs : List Char) : Bool :=
  Json.longestNumeral < (splitInteger (splitMinus cs).2).1.length

/-- The integer of digits without a zero in front, after a minus sign or none. -/
def plainInteger? (cs : List Char) : Option Int :=
  let (negative, unsigned) := splitMinus cs
  let (digits, rest) := splitInteger unsigned
  let n : Int := Json.digitsValue digits
  if digits.isEmpty || !rest.isEmpty || isOversized cs then none
  else some (if negative then -n else n)

/-- The integer that a text writes. Too many digits at the front of the text as it stands are an issue of
their own, whatever follows them. -/
def wholeNumber (cs : List Char) : Checked Int :=
  if isOversized cs then .fail .oversizedInteger
  else match (tidied? cs).bind plainInteger? with
    | some n => .valid n
    | none => .fail .unreadableInteger

example : tidied? "+007.00".toList = some "7".toList := by decide +kernel
example : tidied? " 1_000 ".toList = some "1000".toList := by decide +kernel

end ErDiagram.Numeral
