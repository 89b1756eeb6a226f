import ErDiagram.Json.Reader
import ErDiagram.Text.Blank
import ErDiagram.Text.DecimalDigit

/-!
# Ports

A port is written with decimal digits of any script. Blanks around it, a sign and single underscores
between its digits are forgiven. A port that its scheme implies need not be written.
-/

namespace ErDiagram.Uri.Port

/-- The values of digits between which single underscores may stand. -/
def digitValues? : List Char → Option (List Nat)
  | [] => none
  | [c] => (Text.decimalValue? c).map ([·])
  | c :: '_' :: rest => do return (← Text.decimalValue? c) :: (← digitValues? rest)
  | c :: rest => do return (← Text.decimalValue? c) :: (← digitValues? rest)

def splitSign : List Char → Bool × List Char
  | '-' :: rest => (true, rest)
  | '+' :: rest => (false, rest)
  | cs => (false, cs)

def read? (cs : List Char) : Option Int := do
  let (negative, unsigned) := splitSign (Text.trimBlanks cs)
  let values ← digitValues? unsigned
  if Json.longestNumeral < values.length then none
  let n : Nat := values.foldl (fun n value => n * 10 + value) 0
  return if negative then -(n : Int) else (n : Int)

def implied? (scheme : List Char) : Option Int :=
  match String.ofList scheme with
  | "ftp" => some 21
  | "http" => some 80
  | "https" => some 443
  | "ws" => some 80
  | "wss" => some 443
  | _ => none

example : read? "8_1".toList = some 81 ∧ read? "+80".toList = some 80 := by decide +kernel
example : read? "".toList = none ∧ read? "8__1".toList = none := by decide +kernel

end ErDiagram.Uri.Port
