import ErDiagram.Number.Binary64

/-!
# Decimal text of a binary number

Three ways between a number of the binary64 format and decimal digits: reading a decimal numeral, writing
a fixed count of places, and writing the fewest digits that read back. All three work on exact ratios;
only the reading rounds, once, to the nearest number of the format.
-/

namespace ErDiagram

def decimalDigits (n : Nat) : List Char :=
  Nat.toDigits 10 n

/-- The digits of `n`, filled up in front with zeros to at least `width`. -/
def paddedDigits (width n : Nat) : List Char :=
  let digits := decimalDigits n
  List.replicate (width - digits.length) '0' ++ digits

namespace Binary64

/-- The number nearest to `mantissa * 10 ^ exponent`. Exponents far outside the range of the format are
answered without computing the power. -/
def ofDecimal (negative : Bool) (mantissa : Nat) (exponent : Int) : Binary64 :=
  let order := exponent + (decimalDigits mantissa).length
  if mantissa = 0 then .finite negative 0
  else if order > 400 then .infinite negative
  else if order < -400 then .finite negative 0
  else if 0 ≤ exponent then ofRatio negative (mantissa * Nat.pow 10 exponent.toNat) 1
  else ofRatio negative mantissa (Nat.pow 10 (-exponent).toNat)

/-- `1000000000000000`, from where a number is written without decimal places. -/
def wholeFrom : Nat := Nat.pow 10 15 * unitsPerOne

/-- The text of a coordinate or a duration: six decimal places, or none from `10 ^ 15` on. Zero, and
what rounds to it, has no sign. -/
def fixedText : Binary64 → String
  | .nan => "nan"
  | .infinite negative => if negative then "-inf" else "inf"
  | .finite negative units =>
    let places := if units < wholeFrom then 6 else 0
    let scaled := roundDiv (units * Nat.pow 10 places) unitsPerOne
    let whole := decimalDigits (scaled / Nat.pow 10 places)
    let tail := if places = 0 then [] else '.' :: paddedDigits places (scaled % Nat.pow 10 places)
    let sign := if negative && scaled != 0 then ['-'] else []
    String.ofList (sign ++ whole ++ tail)

/-- The position of the decimal point of a positive number: the least `p` with `value < 10 ^ p`. -/
def decimalPoint (units : Nat) : Int :=
  ((decimalDigits (units * Nat.pow 10 400 / unitsPerOne)).length : Int) - 400

/-- The count of units as a ratio of whole multiples of `10 ^ place`. -/
def onGrid (units : Nat) (place : Int) : Nat × Nat :=
  if 0 ≤ place then (units, unitsPerOne * Nat.pow 10 place.toNat)
  else (units * Nat.pow 10 (-place).toNat, unitsPerOne)

/-- Whether the decimal `digits * 10 ^ place` reads as `units`. -/
def readsAs (units digits : Nat) (place : Int) : Bool :=
  ofDecimal false digits place == .finite false units

/-- The point of the grid of multiples of `10 ^ place` that reads as `units`, the nearer of two. -/
def gridPoint? (units : Nat) (place : Int) : Option Nat :=
  let (num, den) := onGrid units place
  let below := num / den
  let rest := num % den
  let low := readsAs units below place
  let high := readsAs units (below + 1) place
  if low && high then
    some (if 2 * rest < den ∨ (2 * rest = den ∧ below % 2 = 0) then below else below + 1)
  else if low then some below
  else if high then some (below + 1)
  else none

/-- The first of the grids with `count`, `count + 1`, … digits that has a point reading as `units`. -/
def shortestFrom (units : Nat) (point : Int) : Nat → Nat → Nat × Int
  | 0, count => (0, point - count)
  | fuel + 1, count =>
    match gridPoint? units (point - count) with
    | some digits => (digits, point - count)
    | none => shortestFrom units point fuel (count + 1)

/-- The fewest digits that read back as a positive number, with the power of ten of the last one.
Seventeen digits are always enough. -/
def shortest (units : Nat) : Nat × Int :=
  shortestFrom units (decimalPoint units) 17 1

def trimZeros (digits : List Char) : List Char :=
  (digits.reverse.dropWhile (· == '0')).reverse

/-- The shortest text that reads back: positional while the leading digit stands for `10 ^ -4` to
`10 ^ 15`, with a mark of at least one decimal place, and in powers of ten beyond. -/
def shortestText : Binary64 → String
  | .nan => "nan"
  | .infinite negative => if negative then "-inf" else "inf"
  | .finite negative units =>
    let sign := if negative then ['-'] else []
    if units = 0 then String.ofList (sign ++ ['0', '.', '0'])
    else
      let (number, place) := shortest units
      let written := decimalDigits number
      let digits := trimZeros written
      let point := place + written.length
      let body : List Char :=
        if -4 < point ∧ point ≤ 16 then
          if point ≤ 0 then '0' :: '.' :: (List.replicate (-point).toNat '0' ++ digits)
          else
            let before := point.toNat
            let whole := digits.take before ++ List.replicate (before - digits.length) '0'
            let tail := digits.drop before
            whole ++ '.' :: (if tail.isEmpty then ['0'] else tail)
        else
          let power := point - 1
          let tail := digits.drop 1
          digits.take 1 ++ (if tail.isEmpty then [] else '.' :: tail) ++
            'e' :: (if power < 0 then '-' else '+') :: paddedDigits 2 power.natAbs
      String.ofList (sign ++ body)

end Binary64

end ErDiagram
