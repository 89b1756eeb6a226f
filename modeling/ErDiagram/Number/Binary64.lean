import ErDiagram.Number.Rounding

/-!
# Binary floating point with 53 significant bits

A finite number is held as a count of the least positive one, `2 ^ -1074`. Sums, products, quotients and
roots are then exact arithmetic on natural numbers followed by one rounding, `nearestUnits`, which keeps
the 53 leading bits and sends a tie to the even neighbour. Nothing here depends on the machine.
-/

namespace ErDiagram

/-- A number of the binary64 format. A finite one is `units * 2 ^ -1074`, and zero keeps its sign. -/
inductive Binary64 where
  | finite (negative : Bool) (units : Nat)
  | infinite (negative : Bool)
  | nan
  deriving DecidableEq, Repr, Inhabited

namespace Binary64

/-- The number of units that make up one. -/
def unitsPerOne : Nat := Nat.pow 2 1074

/-- The least count of units that the format cannot hold. -/
def overflowUnits : Nat := Nat.pow 2 (1024 + 1074)

/-- The distance between neighbouring numbers of the format at `units`. -/
def spacing (units : Nat) : Nat :=
  Nat.pow 2 (units.log2 - 52)

/-- The count of units in the format nearest to `num / den`, a tie going to the even neighbour. -/
def nearestUnits (num den : Nat) : Nat :=
  let gap := spacing (num / den)
  roundDiv num (den * gap) * gap

def zero : Binary64 := .finite false 0

/-- The number nearest to `num / den` units, an infinity when that is too large. -/
def ofUnits (negative : Bool) (num den : Nat) : Binary64 :=
  let units := nearestUnits num den
  if units < overflowUnits then .finite negative units else .infinite negative

def ofRatio (negative : Bool) (num den : Nat) : Binary64 :=
  ofUnits negative (num * unitsPerOne) den

/-- The number nearest to an integer; none when the integer lies beyond the format. -/
def ofInt? (n : Int) : Option Binary64 :=
  match ofRatio (n < 0) n.natAbs 1 with
  | .infinite _ => none
  | x => some x

/-- The quotient of two natural numbers, rounded once. -/
def ofQuotient (num den : Nat) : Binary64 :=
  ofRatio false num den

/-- The signed count of units of a finite number. -/
def signed (negative : Bool) (units : Nat) : Int :=
  if negative then -(units : Int) else units

/-- The rounded sum. An exact zero is `-0` only as the sum of two of them. -/
def add : Binary64 → Binary64 → Binary64
  | .nan, _ => .nan
  | _, .nan => .nan
  | .infinite p, .infinite q => if p = q then .infinite p else .nan
  | .infinite p, .finite _ _ => .infinite p
  | .finite _ _, .infinite q => .infinite q
  | .finite p m, .finite q n =>
    let sum := signed p m + signed q n
    if sum = 0 then .finite (p && q) 0 else ofUnits (sum < 0) sum.natAbs 1

def mul : Binary64 → Binary64 → Binary64
  | .nan, _ => .nan
  | _, .nan => .nan
  | .infinite p, .infinite q => .infinite (p != q)
  | .infinite p, .finite q n => if n = 0 then .nan else .infinite (p != q)
  | .finite p m, .infinite q => if m = 0 then .nan else .infinite (p != q)
  | .finite p m, .finite q n => ofUnits (p != q) (m * n) unitsPerOne

/-- The count of units in the format nearest to the square root of the natural number `square`. -/
def nearestRoot (square : Nat) : Nat :=
  let root := Nat.sqrt square
  let gap := spacing root
  let below := root / gap
  let half := (2 * below + 1) * gap
  let above := half * half < 4 * square ∨ (half * half = 4 * square ∧ below % 2 = 1)
  (if above then below + 1 else below) * gap

/-- The rounded square root; a negative number has none. -/
def sqrt : Binary64 → Binary64
  | .finite negative units =>
    if units = 0 then .finite negative 0
    else if negative then .nan
    else .finite false (nearestRoot (units * unitsPerOne))
  | .infinite false => .infinite false
  | .infinite true => .nan
  | .nan => .nan

/-- The least integer that is not below a finite number. -/
def ceil? : Binary64 → Option Int
  | .finite false units => some ((units + (unitsPerOne - 1)) / unitsPerOne : Nat)
  | .finite true units => some (-(units / unitsPerOne : Nat))
  | _ => none

/-- The integer that a number equals, if it equals one. -/
def toInt? : Binary64 → Option Int
  | .finite negative units =>
    if units % unitsPerOne = 0 then some (signed negative (units / unitsPerOne)) else none
  | _ => none

def isFinite : Binary64 → Bool
  | .finite _ _ => true
  | _ => false

def isZero : Binary64 → Bool
  | .finite _ units => units == 0
  | _ => false

theorem spacing_pos (units : Nat) : 0 < spacing units :=
  Nat.two_pow_pos _

theorem nearestUnits_of_dvd {units : Nat} (h : spacing units ∣ units) :
    nearestUnits units 1 = units := by
  obtain ⟨k, hk⟩ := h
  have hpos := spacing_pos units
  simp only [nearestUnits, Nat.div_one, Nat.one_mul]
  rw [roundDiv_of_mod_eq_zero (Nat.mod_eq_zero_of_dvd ⟨k, hk⟩)]
  exact Nat.div_mul_cancel ⟨k, hk⟩

end Binary64

end ErDiagram
