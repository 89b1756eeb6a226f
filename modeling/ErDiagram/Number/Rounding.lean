/-!
# Rounding a quotient to the nearest whole number

`roundDiv num den` is the whole number nearest to `num / den`; a quotient half way between two whole
numbers goes to the even one. Every rounding of this library, to a binary fraction or to decimal places,
is this one function on exact numbers.
-/

namespace ErDiagram

/-- The whole number nearest to `num / den`, the even one of two equally near. -/
def roundDiv (num den : Nat) : Nat :=
  let quotient := num / den
  let twice := 2 * (num % den)
  if den < twice ∨ (twice = den ∧ quotient % 2 = 1) then quotient + 1 else quotient

theorem roundDiv_of_mod_eq_zero {num den : Nat} (h : num % den = 0) :
    roundDiv num den = num / den := by
  simp only [roundDiv, h, Nat.mul_zero, Nat.not_lt_zero, false_or]
  split
  · next hc => simp [← hc.1] at hc
  · rfl

theorem div_le_roundDiv (num den : Nat) : num / den ≤ roundDiv num den := by
  simp only [roundDiv]; split <;> omega

theorem roundDiv_le_div_add_one (num den : Nat) : roundDiv num den ≤ num / den + 1 := by
  simp only [roundDiv]; split <;> omega

end ErDiagram
