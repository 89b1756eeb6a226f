import ErDiagram.Proofs.Diagram.Standard
import Mathlib.Algebra.Ring.Nat

/-!
# Whole numbers in the binary format

Every whole number below `2 ^ 53` is a number of the format, and rounding takes no other one below `2 ^ 53`.
So a number of the format that came from a whole one and lies below `2 ^ 53` still is that whole number.

Lemmas here speak of the units that make up one by a power of two that is left open: written out, it would
be computed.
-/

namespace ErDiagram.Binary64

/-- Whether a number is finite and less than a whole one in size. -/
def IsBelow (x : Binary64) (bound : Nat) : Prop :=
  ∃ negative units, x = .finite negative units ∧ units < bound * unitsPerOne

theorem exists_unitsPerOne : ∃ place, 52 ≤ place ∧ unitsPerOne = 2 ^ place :=
  ⟨1074, by decide, by decide +kernel⟩

theorem unitsPerOne_pos : 0 < unitsPerOne := by
  obtain ⟨place, -, hunit⟩ := exists_unitsPerOne
  rw [hunit]
  exact Nat.two_pow_pos place

theorem spacing_eq (units : Nat) : spacing units = 2 ^ (units.log2 - 52) := rfl

theorem spacing_le {units : Nat} (h : 0 < units) : spacing units ≤ units :=
  Nat.le_trans (Nat.pow_le_pow_right Nat.two_pos (Nat.sub_le _ _))
    (Nat.log2_self_le (Nat.ne_of_gt h))

/-- From a power of two on there are `2 ^ 52` steps to the next one, unless both are among the least. -/
theorem spacing_mul_eq {units : Nat} (h : 2 ^ 52 ≤ units) :
    spacing units * 2 ^ 52 = 2 ^ units.log2 := by
  have hpos : units ≠ 0 := by omega
  have hlog : 52 ≤ units.log2 := (Nat.le_log2 hpos).2 h
  rw [spacing_eq, ← Nat.pow_add, Nat.sub_add_cancel hlog]

theorem spacing_mul_le {units : Nat} (h : 2 ^ 52 ≤ units) : spacing units * 2 ^ 52 ≤ units := by
  rw [spacing_mul_eq h]
  exact Nat.log2_self_le (by omega)

theorem spacing_dvd {units place : Nat} (h : units < 2 ^ (place + 53)) :
    spacing units ∣ 2 ^ place := by
  rw [spacing_eq]
  refine Nat.pow_dvd_pow 2 ?_
  rcases Nat.eq_zero_or_pos units with rfl | hpos
  · rw [Nat.log2_zero]
    exact Nat.zero_le _
  · have hlog : units.log2 < place + 53 := (Nat.log2_lt (Nat.ne_of_gt hpos)).2 h
    omega

theorem nearestUnits_pos {num : Nat} (h : 0 < num) : 0 < nearestUnits num 1 := by
  have hcount : 0 < num / spacing num := Nat.div_pos (spacing_le h) (spacing_pos num)
  simp only [nearestUnits, Nat.div_one, Nat.one_mul]
  exact Nat.mul_pos (Nat.lt_of_lt_of_le hcount (div_le_roundDiv _ _)) (spacing_pos num)

/-- Rounding takes a number that is not below a power of two not below it either. -/
theorem le_nearestUnits {place num : Nat} (h : 2 ^ (place + 52) ≤ num) :
    2 ^ (place + 52) ≤ nearestUnits num 1 := by
  have hlarge : 2 ^ 52 ≤ num :=
    Nat.le_trans (Nat.pow_le_pow_right Nat.two_pos (Nat.le_add_left 52 place)) h
  have hlog : place + 52 ≤ num.log2 := (Nat.le_log2 (by omega)).2 h
  have hcount : 2 ^ 52 ≤ num / spacing num := by
    rw [Nat.le_div_iff_mul_le (spacing_pos num), Nat.mul_comm]
    exact spacing_mul_le hlarge
  simp only [nearestUnits, Nat.div_one, Nat.one_mul]
  calc 2 ^ (place + 52)
      ≤ 2 ^ num.log2 := Nat.pow_le_pow_right Nat.two_pos hlog
    _ = 2 ^ 52 * spacing num := by rw [Nat.mul_comm, spacing_mul_eq hlarge]
    _ ≤ num / spacing num * spacing num := Nat.mul_le_mul_right _ hcount
    _ ≤ roundDiv num (spacing num) * spacing num :=
        Nat.mul_le_mul_right _ (div_le_roundDiv num (spacing num))

private theorem nearestUnits_whole {n : Nat} (h : n < 2 ^ 53) :
    nearestUnits (n * unitsPerOne) 1 = n * unitsPerOne := by
  obtain ⟨place, -, hunit⟩ := exists_unitsPerOne
  have hfits : n * unitsPerOne < 2 ^ (place + 53) := by
    rw [hunit, Nat.pow_add, Nat.mul_comm (2 ^ place)]
    exact Nat.mul_lt_mul_of_pos_right h (Nat.two_pow_pos place)
  refine nearestUnits_of_dvd (Nat.dvd_trans (spacing_dvd hfits) ?_)
  rw [hunit]
  exact Nat.dvd_mul_left _ n

private theorem ofRatio_of_ofInt? {n : Int} {x : Binary64} (h : ofInt? n = some x) :
    ofRatio (n < 0) n.natAbs 1 = x ∧ ∀ sign, x ≠ .infinite sign := by
  have hdef : ofInt? = ofInt? := rfl
  conv at hdef => rhs; delta ofInt?
  generalize ofInt? = convert at h hdef
  generalize ofRatio = round at hdef ⊢
  rw [hdef] at h
  beta_reduce at h
  generalize round (n < 0) n.natAbs 1 = y at h ⊢
  cases y with
  | finite negative units => exact ⟨Option.some.inj h, fun sign => by cases h; nofun⟩
  | infinite negative => cases h
  | nan => exact ⟨Option.some.inj h, fun sign => by cases h; nofun⟩

private theorem eq_of_ofUnits {negative : Bool} {num den : Nat} {x : Binary64}
    (h : ofUnits negative num den = x) (hx : ∀ sign, x ≠ .infinite sign) :
    x = .finite negative (nearestUnits num den) := by
  by_cases hlt : nearestUnits num den < overflowUnits
  · rw [← h, ofUnits_of_lt negative hlt]
  · have hdef : ofUnits = ofUnits := rfl
    conv at hdef => rhs; delta ofUnits
    generalize ofUnits = round at h hdef
    generalize overflowUnits = limit at hlt hdef
    rw [hdef] at h
    simp only [hlt, if_false] at h
    exact absurd h.symm (hx negative)

/-- The number near a natural number, if there is one, is the nearest count of units. -/
theorem eq_of_ofInt? {n : Nat} {x : Binary64} (h : ofInt? n = some x) :
    x = .finite false (nearestUnits (n * unitsPerOne) 1) := by
  obtain ⟨hround, hfinite⟩ := ofRatio_of_ofInt? h
  have hsign : decide ((n : Int) < 0) = false := by simp
  rw [hsign, Int.natAbs_natCast] at hround
  exact eq_of_ofUnits hround hfinite

theorem ofInt?_of_lt {n : Nat} (h : n < 2 ^ 53) :
    ofInt? n = some (.finite false (n * unitsPerOne)) := by
  have hmost : InRange (2 ^ 53) := ⟨by decide +kernel⟩
  obtain ⟨x, hx⟩ := (hmost.mono (Nat.le_of_lt h)).exists_ofInt? (n := n)
  rw [hx, eq_of_ofInt? hx, nearestUnits_whole h]

private theorem toInt?_whole (n : Nat) : toInt? (.finite false (n * unitsPerOne)) = some n := by
  have hpos := unitsPerOne_pos
  unfold toInt?
  generalize unitsPerOne = unit at hpos
  simp [signed, Nat.mul_div_cancel n hpos]

/-- What lies below `2 ^ 53` after rounding is a whole number that did before. -/
theorem exists_ofInt?_isBelow_iff {n : Nat} :
    (∃ x, ofInt? n = some x ∧ x.IsBelow (2 ^ 53)) ↔ n < 2 ^ 53 := by
  constructor
  · rintro ⟨x, hx, negative, units, rfl, hbelow⟩
    obtain ⟨place, -, hunit⟩ := exists_unitsPerOne
    have hunits := eq_of_ofInt? hx
    rw [finite.injEq] at hunits
    have hpower : 2 ^ (place + 1 + 52) = 2 ^ 53 * unitsPerOne := by
      rw [hunit, ← Nat.pow_add, Nat.add_assoc, Nat.add_comm]
    by_contra hnot
    have hlarge : 2 ^ (place + 1 + 52) ≤ n * unitsPerOne := by
      rw [hpower]
      exact Nat.mul_le_mul_right _ (Nat.le_of_not_lt hnot)
    have hround := le_nearestUnits hlarge
    rw [← hunits.2, hpower] at hround
    exact Nat.not_le_of_lt hbelow hround
  · intro h
    exact ⟨_, ofInt?_of_lt h, false, _, rfl, Nat.mul_lt_mul_of_pos_right h unitsPerOne_pos⟩

theorem toInt?_of_isBelow {n : Nat} {x : Binary64} (h : ofInt? n = some x)
    (hbelow : x.IsBelow (2 ^ 53)) : x.toInt? = some n := by
  have hexact := ofInt?_of_lt (exists_ofInt?_isBelow_iff.1 ⟨x, h, hbelow⟩)
  rw [← Option.some.inj (hexact.symm.trans h)]
  exact toInt?_whole n

end ErDiagram.Binary64
