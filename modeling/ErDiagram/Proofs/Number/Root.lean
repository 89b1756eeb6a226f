import ErDiagram.Proofs.Number.Whole
import Mathlib.Tactic.Linarith
import Mathlib.Tactic.Ring

/-!
# Rounding a root up

The root of a whole number is rounded to the format before it is rounded up to a whole number. Up to `2 ^ 52`
the first rounding does no harm. A whole number is in the format, so that rounding takes no root past it from
below. And a root that lies above a whole number lies above the middle between it and its next neighbour in
the format, so that rounding does not take it back.
-/

namespace ErDiagram.Binary64

/-- A root does not round past a bound that is in the format. -/
theorem nearestRoot_le {square bound : Nat} (h : square ≤ bound * bound)
    (hdvd : spacing (Nat.sqrt square) ∣ bound) : nearestRoot square ≤ bound := by
  obtain ⟨count, hcount⟩ := hdvd
  have hpos := spacing_pos (Nat.sqrt square)
  have hroot : Nat.sqrt square ≤ bound := by
    rw [← Nat.sqrt_eq bound]
    exact Nat.sqrt_le_sqrt h
  have hsquare : Nat.sqrt square * Nat.sqrt square ≤ square := Nat.sqrt_le square
  simp only [nearestRoot]
  generalize spacing (Nat.sqrt square) = gap at hpos hcount ⊢
  generalize Nat.sqrt square = root at hroot hsquare ⊢
  rcases Nat.lt_or_eq_of_le hroot with hlt | heq
  · -- the neighbour above is not beyond the bound
    have hbelow : root / gap + 1 ≤ count := by
      rw [Nat.succ_le_iff, Nat.div_lt_iff_lt_mul hpos, Nat.mul_comm, ← hcount]
      exact hlt
    have hmost : (root / gap + 1) * gap ≤ bound := by
      rw [hcount, Nat.mul_comm gap]
      exact Nat.mul_le_mul_right gap hbelow
    split
    · exact hmost
    · exact Nat.le_trans (Nat.mul_le_mul_right gap (Nat.le_succ _)) hmost
  · -- the root is the bound itself, and the middle above it is too far
    have hbelow : root / gap * gap = bound := by
      rw [heq, hcount, Nat.mul_div_cancel_left count hpos, Nat.mul_comm]
    have hhalf : (2 * (root / gap) + 1) * gap = 2 * bound + gap := by
      rw [Nat.add_mul, Nat.mul_assoc, hbelow, Nat.one_mul]
    have hfar : 4 * square < (2 * bound + gap) * (2 * bound + gap) := by
      nlinarith
    rw [hhalf, if_neg (by omega), hbelow]

/-- A root whose square lies beyond the middle above a bound rounds past the bound. -/
theorem lt_nearestRoot {square bound : Nat} (hdvd : spacing (Nat.sqrt square) ∣ bound)
    (h : (2 * bound + spacing (Nat.sqrt square)) * (2 * bound + spacing (Nat.sqrt square)) <
      4 * square) : bound < nearestRoot square := by
  obtain ⟨count, hcount⟩ := hdvd
  have hpos := spacing_pos (Nat.sqrt square)
  have hroot : bound ≤ Nat.sqrt square := by
    rw [Nat.le_sqrt]
    nlinarith
  simp only [nearestRoot]
  generalize spacing (Nat.sqrt square) = gap at hpos hcount h ⊢
  generalize Nat.sqrt square = root at hroot ⊢
  have hbelow : count ≤ root / gap := by
    rw [Nat.le_div_iff_mul_le hpos, Nat.mul_comm, ← hcount]
    exact hroot
  rw [Nat.mul_comm] at hcount
  rcases Nat.lt_or_eq_of_le hbelow with hlt | heq
  · have hnext : bound < root / gap * gap := by
      rw [hcount]
      exact Nat.mul_lt_mul_of_pos_right hlt hpos
    split
    · exact Nat.lt_of_lt_of_le hnext (Nat.mul_le_mul_right gap (Nat.le_succ _))
    · exact hnext
  · have hhalf : (2 * (root / gap) + 1) * gap = 2 * bound + gap := by
      rw [← heq, Nat.add_mul, Nat.mul_assoc, ← hcount, Nat.one_mul]
    rw [hhalf, if_pos (.inl h), ← heq, hcount]
    exact Nat.mul_lt_mul_of_pos_right (Nat.lt_succ_self count) hpos

theorem nearestRoot_pos {square : Nat} (h : 0 < square) : 0 < nearestRoot square := by
  have hroot : 0 < Nat.sqrt square := Nat.sqrt_pos.2 h
  have hcount : 0 < Nat.sqrt square / spacing (Nat.sqrt square) :=
    Nat.div_pos (spacing_le hroot) (spacing_pos _)
  simp only [nearestRoot]
  refine Nat.mul_pos ?_ (spacing_pos _)
  split
  · exact Nat.succ_pos _
  · exact hcount

/-- Where steps are small, the middle above a whole number is below the root of anything past its square. -/
theorem middle_lt {below total unit gap : Nat} (hunit : 0 < unit) (hgap : gap ≤ unit)
    (hsmall : gap * 2 ^ 52 ≤ (below + 1) * unit) (hbelow : below + 1 ≤ 2 ^ 26)
    (htotal : below * below < total) :
    (2 * (below * unit) + gap) * (2 * (below * unit) + gap) < 4 * (total * unit * unit) := by
  have hsquare : (below + 1) * (4 * below + 1) < 4 * 2 ^ 52 := by
    have hmost := Nat.mul_le_mul hbelow hbelow
    nlinarith
  have hwide : 4 * (below * unit) + gap ≤ (4 * below + 1) * unit := by
    linarith
  have hscaled : 2 ^ 52 * (gap * (4 * (below * unit) + gap)) < 2 ^ 52 * (4 * (unit * unit)) :=
    calc 2 ^ 52 * (gap * (4 * (below * unit) + gap))
        = gap * 2 ^ 52 * (4 * (below * unit) + gap) := by ring
      _ ≤ (below + 1) * unit * ((4 * below + 1) * unit) := Nat.mul_le_mul hsmall hwide
      _ = (below + 1) * (4 * below + 1) * (unit * unit) := by ring
      _ < 4 * 2 ^ 52 * (unit * unit) :=
          Nat.mul_lt_mul_of_pos_right hsquare (Nat.mul_pos hunit hunit)
      _ = 2 ^ 52 * (4 * (unit * unit)) := by ring
  have hstep : gap * (4 * (below * unit) + gap) < 4 * (unit * unit) :=
    Nat.lt_of_mul_lt_mul_left hscaled
  calc (2 * (below * unit) + gap) * (2 * (below * unit) + gap)
      = 4 * (below * below * (unit * unit)) + gap * (4 * (below * unit) + gap) := by ring
    _ < 4 * (below * below * (unit * unit)) + 4 * (unit * unit) := Nat.add_lt_add_left hstep _
    _ = 4 * ((below * below + 1) * (unit * unit)) := by ring
    _ ≤ 4 * (total * (unit * unit)) :=
        Nat.mul_le_mul_left 4 (Nat.mul_le_mul_right _ htotal)
    _ = 4 * (total * unit * unit) := by rw [Nat.mul_assoc]

/-- A total up to `2 ^ 52` between two neighbouring squares has its rounded root between their roots. -/
theorem nearestRoot_bounds {below total : Nat} (hbelow : below + 1 ≤ 2 ^ 26)
    (hlow : below * below < total) (hhigh : total ≤ (below + 1) * (below + 1)) :
    below * unitsPerOne < nearestRoot (total * unitsPerOne * unitsPerOne) ∧
      nearestRoot (total * unitsPerOne * unitsPerOne) ≤ (below + 1) * unitsPerOne := by
  obtain ⟨place, hplace, hunit⟩ := exists_unitsPerOne
  have hpos := unitsPerOne_pos
  generalize unitsPerOne = unit at hunit hpos ⊢
  have hsquare : total * unit * unit ≤ (below + 1) * unit * ((below + 1) * unit) :=
    calc total * unit * unit
        ≤ (below + 1) * (below + 1) * unit * unit := by gcongr
      _ = (below + 1) * unit * ((below + 1) * unit) := by ring
  have hroot : Nat.sqrt (total * unit * unit) ≤ (below + 1) * unit := by
    rw [← Nat.sqrt_eq ((below + 1) * unit)]
    exact Nat.sqrt_le_sqrt hsquare
  have hlarge : 2 ^ 52 ≤ Nat.sqrt (total * unit * unit) := by
    have hone : unit * unit ≤ total * unit * unit := by
      rw [Nat.mul_assoc]
      exact Nat.le_mul_of_pos_left _ (Nat.zero_lt_of_lt hlow)
    calc 2 ^ 52
        ≤ 2 ^ place := Nat.pow_le_pow_right Nat.two_pos hplace
      _ = unit := hunit.symm
      _ ≤ Nat.sqrt (total * unit * unit) := Nat.le_sqrt.2 hone
  have hdvd : spacing (Nat.sqrt (total * unit * unit)) ∣ unit := by
    rw [hunit] at hroot ⊢
    refine spacing_dvd (Nat.lt_of_le_of_lt hroot ?_)
    have hfew : below + 1 < 2 ^ 53 := Nat.lt_of_le_of_lt hbelow (by decide)
    rw [Nat.pow_add, Nat.mul_comm (2 ^ place)]
    exact Nat.mul_lt_mul_of_pos_right hfew (Nat.two_pow_pos place)
  constructor
  · refine lt_nearestRoot (Nat.dvd_trans hdvd (Nat.dvd_mul_left _ _)) ?_
    exact middle_lt hpos (Nat.le_of_dvd hpos hdvd) (Nat.le_trans (spacing_mul_le hlarge) hroot)
      hbelow hlow
  · exact nearestRoot_le hsquare (Nat.dvd_trans hdvd (Nat.dvd_mul_left _ _))

theorem sqrt_finite {units : Nat} (h : 0 < units) :
    sqrt (.finite false units) = .finite false (nearestRoot (units * unitsPerOne)) := by
  simp [sqrt, Nat.ne_of_gt h]

/-- A number past a whole one and not past the next one rounds up to the next one. -/
theorem ceil?_eq {below units : Nat} (hlow : below * unitsPerOne < units)
    (hhigh : units ≤ (below + 1) * unitsPerOne) :
    ceil? (.finite false units) = some ((below + 1 : Nat) : Int) := by
  have hpos := unitsPerOne_pos
  simp only [ceil?, Option.some.injEq, Int.natCast_inj]
  generalize unitsPerOne = unit at hpos hlow hhigh ⊢
  rw [Nat.div_eq_iff hpos]
  constructor
  · rw [Nat.add_mul, Nat.one_mul]
    omega
  · omega

theorem exists_ceil?_eq {units : Nat} (h : 0 < units) :
    ∃ n : Nat, 0 < n ∧ ceil? (.finite false units) = some (n : Int) := by
  have hpos := unitsPerOne_pos
  refine ⟨_, Nat.div_pos ?_ hpos, rfl⟩
  omega

/-- The root of a whole number up to `2 ^ 52` rounds up to the least whole number whose square is no less. -/
theorem ceil?_sqrt_whole {total : Nat} (hpos : 0 < total) (hmost : total ≤ 2 ^ 52) :
    ceil? (sqrt (.finite false (total * unitsPerOne))) =
      some ((Nat.sqrt (total - 1) + 1 : Nat) : Int) := by
  have hlow : Nat.sqrt (total - 1) * Nat.sqrt (total - 1) < total := by
    have hsquare := Nat.sqrt_le (total - 1)
    omega
  have hhigh : total ≤ (Nat.sqrt (total - 1) + 1) * (Nat.sqrt (total - 1) + 1) := by
    have hnext := Nat.lt_succ_sqrt (total - 1)
    rw [Nat.succ_eq_add_one] at hnext
    omega
  have hbelow : Nat.sqrt (total - 1) + 1 ≤ 2 ^ 26 := by
    rw [Nat.succ_le_iff, Nat.sqrt_lt]
    omega
  obtain ⟨hpast, hnot⟩ := nearestRoot_bounds hbelow hlow hhigh
  rw [sqrt_finite (Nat.mul_pos hpos unitsPerOne_pos)]
  exact ceil?_eq hpast hnot

end ErDiagram.Binary64
