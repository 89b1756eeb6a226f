import ErDiagram.Proofs.Diagram.Placing

/-!
# The standard box

Boxes of the standard size have room for every diagram that could ever be drawn. Their coordinates are small
multiples of indexes, so that only an index near the largest floating-point number could keep a node from
having a point, and `2 ^ 1000` nodes are far from that.
-/

namespace ErDiagram

namespace Binary64

/-- Natural numbers so small that rounding cannot take them to the end of the format. -/
structure InRange (n : Nat) : Prop where
  below : 2 * (n * unitsPerOne) < overflowUnits

theorem InRange.mono {m n : Nat} (h : InRange n) (hle : m ≤ n) : InRange m where
  below := by
    have hbelow := h.below
    generalize overflowUnits = limit at hbelow ⊢
    generalize unitsPerOne = unit at hbelow ⊢
    exact Nat.lt_of_le_of_lt (Nat.mul_le_mul_left 2 (Nat.mul_le_mul_right unit hle)) hbelow

private theorem inRange_most : InRange (Nat.pow 2 1000 * 350) where
  below := by decide +kernel

private theorem nearestUnits_le (num : Nat) : nearestUnits num 1 ≤ 2 * num := by
  simp only [nearestUnits, Nat.div_one, Nat.one_mul]
  rcases Nat.eq_zero_or_pos num with rfl | hpos
  · decide
  · have hgap : spacing num ≤ num :=
      Nat.le_trans (Nat.pow_le_pow_right Nat.two_pos (Nat.sub_le _ _))
        (Nat.log2_self_le (Nat.ne_of_gt hpos))
    calc roundDiv num (spacing num) * spacing num
        ≤ (num / spacing num + 1) * spacing num :=
          Nat.mul_le_mul_right _ (roundDiv_le_div_add_one num _)
      _ = num / spacing num * spacing num + spacing num := Nat.succ_mul _ _
      _ ≤ num + spacing num := Nat.add_le_add_right (Nat.div_mul_le_self _ _) _
      _ ≤ 2 * num := by omega

theorem ofUnits_of_lt (negative : Bool) {num den : Nat} (h : nearestUnits num den < overflowUnits) :
    ofUnits negative num den = .finite negative (nearestUnits num den) := by
  unfold ofUnits
  generalize overflowUnits = limit at h ⊢
  exact if_pos h

private theorem ofRatio_of_lt (negative : Bool) {num den : Nat}
    (h : nearestUnits (num * unitsPerOne) den < overflowUnits) :
    ofRatio negative num den = .finite negative (nearestUnits (num * unitsPerOne) den) :=
  ofUnits_of_lt negative h

private theorem ofInt?_of_finite {n : Int} {negative : Bool} {units : Nat}
    (h : ofRatio (n < 0) n.natAbs 1 = .finite negative units) :
    ofInt? n = some (.finite negative units) := by
  -- the equation of the whole function: under an argument its match would be evaluated
  have hdef : ofInt? = ofInt? := rfl
  conv at hdef => rhs; delta ofInt?
  refine (congrFun hdef n).trans ?_
  rw [h]

theorem InRange.exists_ofInt? {n : Int} (h : InRange n.natAbs) : ∃ x, ofInt? n = some x := by
  have hunits : nearestUnits (n.natAbs * unitsPerOne) 1 < overflowUnits := by
    have hbelow := h.below
    generalize overflowUnits = limit at hbelow ⊢
    generalize n.natAbs * unitsPerOne = units at hbelow ⊢
    exact Nat.lt_of_le_of_lt (nearestUnits_le units) hbelow
  exact ⟨_, ofInt?_of_finite (ofRatio_of_lt _ hunits)⟩

end Binary64

open Binary64

theorem Length.toReal_of_some {n : Int} {x : Binary64} (h : ofInt? n = some x) :
    toReal n = .ok x := by
  have hdef : toReal = toReal := rfl
  conv at hdef => rhs; delta toReal
  refine (congrFun hdef n).trans ?_
  rw [h]

theorem Length.exists_toReal {n : Int} (h : InRange n.natAbs) : ∃ x, toReal n = .ok x := by
  obtain ⟨x, hx⟩ := h.exists_ofInt?
  exact ⟨x, toReal_of_some hx⟩

theorem Json.number_int_of_some {n : Int} {x : Binary64} (h : Binary64.ofInt? n = some x) :
    Json.number (.int n) = .valid x := by
  have hdef : Json.number = Json.number := rfl
  conv at hdef => rhs; delta Json.number
  obtain ⟨convert, hconvert⟩ : ∃ convert, Binary64.ofInt? = convert := ⟨_, rfl⟩
  rw [hconvert] at h hdef
  rw [hdef]
  simp only [h]

namespace Layout

theorem exists_pointAt {x y : Length} {a b : Binary64} (hx : Json.number x.toJson = .valid a)
    (hy : Json.number y.toJson = .valid b) : ∃ point, pointAt x y = .ok point := by
  have hfields : Position.ofFields [("x", x.toJson), ("y", y.toJson)] = .valid ⟨a, b⟩ := by
    simp [Position.ofFields, Json.withDefault, Json.field?_cons, hx, hy]
  exact ⟨⟨a, b⟩, by rw [pointAt, hfields]; rfl⟩

/-- A cell of standard boxes has a corner when its column and its row are small enough. -/
theorem exists_cell_standard {column row : Nat} (hcolumn : InRange (column * 350))
    (hrow : InRange (row * 350)) : ∃ point, cell .standard column row = .ok point := by
  have hx : InRange ((column : Int) * 330).natAbs := by
    rw [Int.natAbs_mul]
    exact hcolumn.mono (Nat.mul_le_mul_left column (by decide))
  have hy : InRange ((row : Int) * 350).natAbs := by
    rw [Int.natAbs_mul]
    exact hrow
  obtain ⟨a, ha⟩ := hx.exists_ofInt?
  obtain ⟨b, hb⟩ := hy.exists_ofInt?
  obtain ⟨point, hpoint⟩ := exists_pointAt (x := .whole (column * 330)) (y := .whole (row * 350))
    (Json.number_int_of_some ha) (Json.number_int_of_some hb)
  refine ⟨point, ?_⟩
  rw [cell]
  refine bind_eq_ok_iff.2 ⟨.whole 330, rfl, ?_⟩
  refine bind_eq_ok_iff.2 ⟨.whole (column * 330), rfl, ?_⟩
  refine bind_eq_ok_iff.2 ⟨.whole 350, rfl, ?_⟩
  exact bind_eq_ok_iff.2 ⟨.whole (row * 350), rfl, hpoint⟩

private theorem exists_gridColumns {total : Nat} (h : InRange total) :
    ∃ columns, gridColumns total = .ok columns := by
  obtain ⟨x, hx⟩ := Length.exists_toReal (n := total) h
  exact ⟨_, bind_eq_ok_iff.2 ⟨x, hx, rfl⟩⟩

private theorem exists_onCircle {total : Nat} (h : InRange (total * 350)) (htotal : 0 < total)
    (index : Nat) : ∃ point, onCircle index total = .ok point := by
  have hradius : InRange (max leastRadius (total * radiusPerNode)).natAbs := by
    refine h.mono ?_
    simp only [leastRadius, radiusPerNode]
    omega
  obtain ⟨reach, hreach⟩ := Length.exists_toReal hradius
  rw [onCircle]
  exact (exists_pointAt rfl rfl).imp fun point hpoint => bind_eq_ok_iff.2 ⟨reach, hreach, hpoint⟩

private theorem exists_place_standard {index total : Nat} (hindex : index < total)
    (htotal : InRange (total * 350)) (kind : LayoutKind) :
    ∃ point, place kind index total .standard = .ok point := by
  have hcell : ∀ n ≤ index, InRange (n * 350) := fun n hn =>
    htotal.mono (Nat.mul_le_mul_right 350 (Nat.le_trans hn (Nat.le_of_lt hindex)))
  cases kind with
  | grid =>
      obtain ⟨columns, hcolumns⟩ :=
        exists_gridColumns (htotal.mono (Nat.le_mul_of_pos_right total (by decide)))
      obtain ⟨point, hpoint⟩ := exists_cell_standard (hcell _ (Nat.mod_le index columns))
        (hcell _ (Nat.div_le_self index columns))
      exact ⟨point, bind_eq_ok_iff.2 ⟨columns, hcolumns, hpoint⟩⟩
  | hierarchical =>
      exact exists_cell_standard (hcell _ (Nat.mod_le _ _)) (hcell _ (Nat.div_le_self _ _))
  | circular => exact exists_onCircle htotal (Nat.zero_lt_of_lt hindex) index

/-- In every layout the standard box has points for `2 ^ 1000` nodes and fewer. -/
theorem exists_positions_standard {total : Nat} (htotal : total ≤ Nat.pow 2 1000) (kind : LayoutKind) :
    ∃ points, positions total kind .standard = .ok points := by
  have hrange : InRange (total * 350) := by
    have hmost := inRange_most
    generalize Nat.pow 2 1000 = most at htotal hmost
    exact hmost.mono (Nat.mul_le_mul_right 350 htotal)
  rw [positions, Int.toNat_natCast]
  refine exists_mapM_eq_ok fun index hindex => ?_
  have hlt := List.mem_range.1 hindex
  obtain ⟨point, hpoint⟩ := exists_place_standard hlt hrange kind
  have hcheck : checkIndex index total = .ok () := by
    rw [checkIndex, if_neg (by omega), if_pos (by omega)]
  exact ⟨point, bind_eq_ok_iff.2 ⟨(), hcheck, hpoint⟩⟩

end Layout

end ErDiagram
