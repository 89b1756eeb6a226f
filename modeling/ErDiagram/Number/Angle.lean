import ErDiagram.Number.Binary64

/-!
# Cosine and sine of an angle within a turn

Both are summed from their power series in fixed point with 128 places more than the format has, and
rounded once at the end. The angles of a circular layout lie in one turn, where 200 terms of the series
end in zeros at that precision.
-/

namespace ErDiagram.Binary64

/-- The number nearest to the ratio of a circle's circumference to its diameter. -/
def pi : Binary64 := .finite false (0x1921FB54442D18 * Nat.pow 2 (1074 - 51))

/-- Fixed-point places kept beyond those of the format. -/
def guard : Nat := Nat.pow 2 128

/-- The sum of an alternating series whose term `n` is followed by
`term * square / ((n + 1) * (n + 2))`. It stops at a term that has become zero. -/
def alternate (square scale : Nat) : Nat → Nat → Nat → Int
  | 0, _, _ => 0
  | fuel + 1, n, term =>
    if term = 0 then 0
    else (term : Int) -
      alternate square scale fuel (n + 2) (term * square / (scale * ((n + 1) * (n + 2))))

/-- The terms taken of each series. -/
def seriesTerms : Nat := 200

/-- A fixed-point value with `guard` places below the unit, rounded to the format. -/
def ofGuarded (value : Int) : Binary64 :=
  ofUnits (value < 0) value.natAbs guard

def cos : Binary64 → Binary64
  | .finite _ units =>
    let scale := unitsPerOne * guard
    let square := (units * guard) * (units * guard) / scale
    ofGuarded (alternate square scale seriesTerms 0 scale)
  | _ => .nan

def sin : Binary64 → Binary64
  | .finite negative units =>
    let scale := unitsPerOne * guard
    let square := (units * guard) * (units * guard) / scale
    let sum := alternate square scale seriesTerms 1 (units * guard)
    if sum = 0 then .finite negative 0
    else ofGuarded (if negative then -sum else sum)
  | _ => .nan

end ErDiagram.Binary64
