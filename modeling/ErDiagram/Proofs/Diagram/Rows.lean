import ErDiagram.Proofs.Number.Root
import Mathlib.Algebra.Order.Ring.Rat
import Mathlib.Order.Bounds.Basic

/-!
# Layouts in rows

A grid and a hierarchy put their nodes in rows of one length, from left to right and from top to bottom. A
grid is as square as it can be: it has the least number of columns whose square is not less than the total,
although the root that tells that number is rounded twice. Nodes in different cells keep apart by the padding
of their boxes, whatever the length of the rows.
-/

namespace ErDiagram

open Binary64

namespace Length

theorem toReal_eq_ok_iff {n : Int} {x : Binary64} : toReal n = .ok x ↔ ofInt? n = some x := by
  have hdef : toReal = toReal := rfl
  conv at hdef => rhs; delta toReal
  generalize toReal = convert at hdef ⊢
  generalize ofInt? = round at hdef ⊢
  rw [hdef]
  beta_reduce
  cases round n <;> simp

end Length

namespace Json

theorem number_int_iff {n : Int} {x : Binary64} :
    number (.int n) = .valid x ↔ Binary64.ofInt? n = some x := by
  have hdef : number = number := rfl
  conv at hdef => rhs; delta number
  obtain ⟨convert, hconvert⟩ : ∃ convert, Binary64.ofInt? = convert := ⟨_, rfl⟩
  rw [hconvert] at hdef
  rw [hconvert, hdef]
  simp only
  cases hn : convert n with
  | none => simp [Checked.fail]
  | some y => simp

end Json

def NodeBox.ofWhole (width height padding : Nat) : NodeBox :=
  ⟨.whole width, .whole height, .whole padding⟩

/-- Whether both coordinates are less than a whole number in size. -/
def Position.IsBelow (p : Position) (bound : Nat) : Prop :=
  p.x.IsBelow bound ∧ p.y.IsBelow bound

namespace Layout

/-- Whether a layout puts a number of nodes in each row. -/
inductive FillsRows : LayoutKind → Nat → Nat → Prop where
  | grid {total columns : Nat} (h : gridColumns total = .ok columns) : FillsRows .grid total columns
  | hierarchical {total : Nat} : FillsRows .hierarchical total hierarchyFanOut

/-- The points that a node with its corner at a point takes up, without the far edges. -/
def footprint (width height : Nat) (x y : Int) : Set (ℚ × ℚ) :=
  {c | x ≤ c.1 ∧ c.1 < x + width ∧ y ≤ c.2 ∧ c.2 < y + height}

/-- Two whole coordinates make a point exactly when each has a number near it. -/
theorem pointAt_whole_iff {x y : Int} {point : Position} :
    pointAt (.whole x) (.whole y) = .ok point ↔
      ofInt? x = some point.x ∧ ofInt? y = some point.y := by
  rw [← Json.number_int_iff, ← Json.number_int_iff]
  have hfields : Position.ofFields [("x", .int x), ("y", .int y)] =
      Position.mk <$> (Json.number (.int x)).under (.field "x") <*>
        (Json.number (.int y)).under (.field "y") := by
    simp [Position.ofFields, Json.withDefault, Json.field?_cons]
  have hpoint : pointAt (.whole x) (.whole y) = .ok point ↔
      Position.ofFields [("x", .int x), ("y", .int y)] = .valid point := by
    rw [pointAt, Length.toJson, Length.toJson]
    cases Position.ofFields [("x", .int x), ("y", .int y)] <;> simp [Fault.ofChecked]
  rw [hpoint, hfields]
  constructor
  · intro h
    obtain ⟨g, b, hg, hb, rfl⟩ := Checked.seq_eq_valid h
    obtain ⟨a, ha, rfl⟩ := Checked.map_eq_valid hg
    exact ⟨Checked.under_eq_valid ha, Checked.under_eq_valid hb⟩
  · rintro ⟨ha, hb⟩
    rw [ha, hb]
    rfl

private theorem cell_whole (width height padding column row : Nat) :
    cell (.ofWhole width height padding) column row =
      pointAt (.whole ((column * (width + padding) : Nat) : Int))
        (.whole ((row * (height + padding) : Nat) : Int)) := by
  have hx : (NodeBox.ofWhole width height padding).stepX =
      .ok (.whole (width + padding)) := rfl
  have hy : (NodeBox.ofWhole width height padding).stepY =
      .ok (.whole (height + padding)) := rfl
  have htimes : ∀ count n : Int, Length.times count (.whole n) = .ok (.whole (count * n)) :=
    fun _ _ => rfl
  have hbind : ∀ {α β : Type} (a : α) (f : α → Except Fault β), (Except.ok a >>= f) = f a :=
    fun _ _ => rfl
  rw [cell, hx, hy, hbind, htimes, hbind, hbind, htimes, hbind]
  rw [Int.natCast_mul, Int.natCast_mul, Int.natCast_add, Int.natCast_add]

theorem position_of_lt {index total : Nat} (h : index < total) (kind : LayoutKind) (box : NodeBox) :
    position index total kind box = place kind index total box := by
  have hcheck : checkIndex index total = .ok () := by
    rw [checkIndex, if_neg (by omega), if_pos (by omega)]
  rw [position, hcheck]
  rfl

/-- The grid of up to `2 ^ 52` nodes has the columns that the exact root asks for. -/
theorem gridColumns_eq {total : Nat} (hpos : 0 < total) (hmost : total ≤ 2 ^ 52) :
    gridColumns total = .ok (Nat.sqrt (total - 1) + 1) := by
  have hreal : Length.toReal total = .ok (.finite false (total * unitsPerOne)) :=
    Length.toReal_eq_ok_iff.2 (ofInt?_of_lt (by omega))
  rw [gridColumns]
  refine bind_eq_ok_iff.2 ⟨_, hreal, ?_⟩
  simp only [ceil?_sqrt_whole hpos hmost]
  rfl

private theorem gridColumns_pos {total columns : Nat} (hpos : 0 < total) (h : gridColumns total = .ok columns) :
    0 < columns := by
  rw [gridColumns] at h
  obtain ⟨real, hreal, hcolumns⟩ := bind_eq_ok_iff.1 h
  have hunits : 0 < nearestUnits (total * unitsPerOne) 1 :=
    nearestUnits_pos (Nat.mul_pos hpos unitsPerOne_pos)
  obtain ⟨n, hn, hceil⟩ := exists_ceil?_eq (nearestRoot_pos (Nat.mul_pos hunits unitsPerOne_pos))
  rw [eq_of_ofInt? (Length.toReal_eq_ok_iff.1 hreal), sqrt_finite hunits] at hcolumns
  simp only [hceil] at hcolumns
  cases hcolumns
  exact hn

namespace FillsRows

variable {kind : LayoutKind} {total columns : Nat}

private theorem pos (h : FillsRows kind total columns) (htotal : 0 < total) : 0 < columns := by
  cases h with
  | grid h => exact gridColumns_pos htotal h
  | hierarchical => exact Nat.succ_pos 2

theorem place_eq (h : FillsRows kind total columns) (index : Nat) (box : NodeBox) :
    place kind index total box = cell box (index % columns) (index / columns) := by
  cases h with
  | grid h =>
      rw [place, h]
      rfl
  | hierarchical => rfl

/-- The layouts in rows have rows of some length, as long as a grid can tell the root of its total. -/
theorem exists_iff (hkind : kind ≠ .circular) :
    (∃ columns, FillsRows kind total columns) ↔ (kind = .grid → ∃ real, ofInt? total = some real) := by
  constructor
  · rintro ⟨columns, hfills⟩ rfl
    obtain ⟨h⟩ := hfills
    obtain ⟨real, hreal, -⟩ := bind_eq_ok_iff.1 h
    exact ⟨real, Length.toReal_eq_ok_iff.1 hreal⟩
  · intro h
    cases kind with
    | grid =>
        obtain ⟨real, hreal⟩ := h rfl
        exact ⟨_, .grid (bind_eq_ok_iff.2 ⟨real, Length.toReal_eq_ok_iff.2 hreal, rfl⟩)⟩
    | circular => exact absurd rfl hkind
    | hierarchical => exact ⟨_, .hierarchical⟩

private theorem of_position {index : Nat} {box : NodeBox} {point : Position} (hkind : kind ≠ .circular)
    (hindex : index < total) (h : position index total kind box = .ok point) :
    ∃ columns, FillsRows kind total columns := by
  rw [position_of_lt hindex] at h
  cases kind with
  | grid =>
      obtain ⟨columns, hcolumns, -⟩ := bind_eq_ok_iff.1 h
      exact ⟨columns, .grid hcolumns⟩
  | circular => exact absurd rfl hkind
  | hierarchical => exact ⟨_, .hierarchical⟩

/-- A node of whole boxes has a point when the multiples of the steps have numbers near them. -/
theorem position_eq_ok_iff (h : FillsRows kind total columns) {index : Nat} (hindex : index < total)
    {width height padding : Nat} {point : Position} :
    position index total kind (.ofWhole width height padding) = .ok point ↔
      ofInt? ((index % columns * (width + padding) : Nat) : Int) = some point.x ∧
        ofInt? ((index / columns * (height + padding) : Nat) : Int) = some point.y := by
  rw [position_of_lt hindex, h.place_eq, cell_whole, pointAt_whole_iff]

/-- The point of a node lies below `2 ^ 53` when the multiples of the steps do. -/
theorem exists_position_isBelow_iff (h : FillsRows kind total columns) {index : Nat}
    (hindex : index < total) {width height padding : Nat} :
    (∃ point, position index total kind (.ofWhole width height padding) = .ok point ∧
        point.IsBelow (2 ^ 53)) ↔
      index % columns * (width + padding) < 2 ^ 53 ∧
        index / columns * (height + padding) < 2 ^ 53 := by
  simp only [h.position_eq_ok_iff hindex, ← exists_ofInt?_isBelow_iff]
  constructor
  · rintro ⟨point, ⟨hx, hy⟩, hbelow, hbelow'⟩
    exact ⟨⟨point.x, hx, hbelow⟩, point.y, hy, hbelow'⟩
  · rintro ⟨⟨x, hx, hbelow⟩, y, hy, hbelow'⟩
    exact ⟨⟨x, y⟩, ⟨hx, hy⟩, hbelow, hbelow'⟩

/-- A point below `2 ^ 53` has the exact multiples of the steps for its coordinates. -/
theorem toInt?_of_position (h : FillsRows kind total columns) {index : Nat} (hindex : index < total)
    {width height padding : Nat} {point : Position}
    (hpoint : position index total kind (.ofWhole width height padding) = .ok point)
    (hbelow : point.IsBelow (2 ^ 53)) :
    point.x.toInt? = some ((index % columns * (width + padding) : Nat) : Int) ∧
      point.y.toInt? = some ((index / columns * (height + padding) : Nat) : Int) := by
  obtain ⟨hx, hy⟩ := (h.position_eq_ok_iff hindex).1 hpoint
  exact ⟨toInt?_of_isBelow hx hbelow.1, toInt?_of_isBelow hy hbelow.2⟩

end FillsRows

/-- Of two nodes the later one is in a later row, or further right in the same one. -/
theorem row_lt_or_column_lt {i j : Nat} (h : i < j) (columns : Nat) :
    i / columns < j / columns ∨ i / columns = j / columns ∧ i % columns < j % columns := by
  have hrows : i / columns ≤ j / columns := Nat.div_le_div_right (Nat.le_of_lt h)
  rcases Nat.lt_or_eq_of_le hrows with hlt | heq
  · exact .inl hlt
  · refine .inr ⟨heq, ?_⟩
    have hi := Nat.div_add_mod i columns
    have hj := Nat.div_add_mod j columns
    rw [heq] at hi
    omega

/-- Of two nodes the later one is a step further down, or level and a step further right. -/
theorem cells_apart {i j : Nat} (h : i < j) (columns stepX stepY : Nat) :
    i / columns * stepY + stepY ≤ j / columns * stepY ∨
      i / columns * stepY = j / columns * stepY ∧
        i % columns * stepX + stepX ≤ j % columns * stepX := by
  rcases row_lt_or_column_lt h columns with hrow | ⟨hrow, hcolumn⟩
  · left
    rw [← Nat.succ_mul]
    exact Nat.mul_le_mul_right stepY hrow
  · right
    rw [hrow, ← Nat.succ_mul]
    exact ⟨rfl, Nat.mul_le_mul_right stepX hcolumn⟩

/-- Two spans of one size whose ends differ by the size and a padding have that padding between them. -/
theorem lt_abs_sub_of_spans {x x' : Int} {size padding : Nat} (h : size + padding ≤ |x' - x|)
    {a b : ℚ} (ha : x ≤ a ∧ a < x + size) (hb : x' ≤ b ∧ b < x' + size) : padding < |b - a| := by
  rw [lt_abs]
  rcases le_abs.1 h with h | h
  · left
    have hcast : (size : ℚ) + padding ≤ x' - x := by exact_mod_cast h
    linarith
  · right
    have hcast : (size : ℚ) + padding ≤ -(x' - x) := by exact_mod_cast h
    linarith

/-- Any points of two nodes are more than the padding apart in one direction or the other. -/
theorem footprints_apart {width height padding : Nat} {x y x' y' : Int}
    (h : width + padding ≤ |x' - x| ∨ height + padding ≤ |y' - y|) {a b : ℚ × ℚ}
    (ha : a ∈ footprint width height x y) (hb : b ∈ footprint width height x' y') :
    padding < |b.1 - a.1| ∨ padding < |b.2 - a.2| := by
  obtain ⟨hax, hax', hay, hay'⟩ := ha
  obtain ⟨hbx, hbx', hby, hby'⟩ := hb
  rcases h with h | h
  · exact .inl (lt_abs_sub_of_spans h ⟨hax, hax'⟩ ⟨hbx, hbx'⟩)
  · exact .inr (lt_abs_sub_of_spans h ⟨hay, hay'⟩ ⟨hby, hby'⟩)

/-- The grid of up to `2 ^ 52` nodes has the least number of columns whose square is not less than the total,
and each node is in the row and the column that the index tells, of which there are no more than columns. -/
theorem gridColumns_least {total : Nat} (hpos : 1 ≤ total) (hmost : total ≤ 2 ^ 52) :
    ∃ columns, gridColumns total = .ok columns ∧ IsLeast {c : Nat | total ≤ c * c} columns ∧
      ∀ index < total, index / columns < columns ∧ index % columns < columns ∧
        ∀ box, position index total .grid box = cell box (index % columns) (index / columns) := by
  have hcolumns := gridColumns_eq hpos hmost
  have henough : total ≤ (Nat.sqrt (total - 1) + 1) * (Nat.sqrt (total - 1) + 1) := by
    have hnext := Nat.lt_succ_sqrt (total - 1)
    rw [Nat.succ_eq_add_one] at hnext
    omega
  refine ⟨_, hcolumns, ⟨henough, ?_⟩, ?_⟩
  · intro c hc
    rw [Nat.succ_le_iff, Nat.sqrt_lt]
    have hc' : total ≤ c * c := hc
    omega
  · intro index hindex
    refine ⟨?_, Nat.mod_lt index (Nat.succ_pos _), fun box => ?_⟩
    · rw [Nat.div_lt_iff_lt_mul (Nat.succ_pos _)]
      exact Nat.lt_of_lt_of_le hindex henough
    · rw [position_of_lt hindex, (FillsRows.grid hcolumns).place_eq]

/-- One node more than a square of the greatest size asks for one more column, all the same. -/
theorem gridColumns_least_past_square :
    let total := (2 ^ 26 - 1) * (2 ^ 26 - 1) + 1
    1 ≤ total ∧ total ≤ 2 ^ 52 ∧ gridColumns total = .ok (2 ^ 26) := by
  intro total
  have hpos : 1 ≤ total := by decide
  have hmost : total ≤ 2 ^ 52 := by decide
  obtain ⟨columns, hcolumns, ⟨henough, hleast⟩, -⟩ := gridColumns_least hpos hmost
  refine ⟨hpos, hmost, ?_⟩
  have hmany : columns ≤ 2 ^ 26 := hleast (by decide : total ≤ 2 ^ 26 * 2 ^ 26)
  have hfew : ¬ columns ≤ 2 ^ 26 - 1 := by
    intro hle
    have hsquare := Nat.le_trans henough (Nat.mul_le_mul hle hle)
    exact absurd hsquare (by decide)
  rw [hcolumns, Nat.le_antisymm hmany (by omega)]

/-- In a grid and in a hierarchy of boxes measured in whole numbers, of any two nodes with coordinates below
`2 ^ 53` the corners differ by a width and a padding or by a height and a padding. So there is more than the
padding between any points of the two, and the later node is in a later row or further right in the same one.
A node has such coordinates when the multiples of the steps are below `2 ^ 53`. -/
theorem rows_keep_apart {kind : LayoutKind} (hkind : kind ≠ .circular) {total i j : Nat} (hij : i < j)
    (hj : j < total) {width height padding : Nat} (hx : 0 < width + padding)
    (hy : 0 < height + padding) :
    (∀ p q, position i total kind (.ofWhole width height padding) = .ok p →
      position j total kind (.ofWhole width height padding) = .ok q →
      p.IsBelow (2 ^ 53) → q.IsBelow (2 ^ 53) →
      ∃ x y x' y' : Int,
        (p.x.toInt? = some x ∧ p.y.toInt? = some y ∧ q.x.toInt? = some x' ∧
          q.y.toInt? = some y') ∧
        (width + padding ≤ |x' - x| ∨ height + padding ≤ |y' - y|) ∧
        (∀ a ∈ footprint width height x y, ∀ b ∈ footprint width height x' y',
          padding < |b.1 - a.1| ∨ padding < |b.2 - a.2|) ∧
        (y < y' ∨ y = y' ∧ x < x')) ∧
      ((∃ columns, FillsRows kind total columns) ↔
        (kind = .grid → ∃ real, ofInt? total = some real)) ∧
      ∀ columns, FillsRows kind total columns → 0 < columns ∧
        ∀ index < total,
          (∃ p, position index total kind (.ofWhole width height padding) = .ok p ∧
              p.IsBelow (2 ^ 53)) ↔
            index % columns * (width + padding) < 2 ^ 53 ∧
              index / columns * (height + padding) < 2 ^ 53 := by
  refine ⟨?_, FillsRows.exists_iff hkind, fun columns hfills => ?_⟩
  · intro p q hp hq hbelow hbelow'
    have hi : i < total := Nat.lt_trans hij hj
    obtain ⟨columns, hfills⟩ := FillsRows.of_position hkind hi hp
    obtain ⟨hpx, hpy⟩ := hfills.toInt?_of_position hi hp hbelow
    obtain ⟨hqx, hqy⟩ := hfills.toInt?_of_position hj hq hbelow'
    have hcells := cells_apart hij columns (width + padding) (height + padding)
    generalize i % columns * (width + padding) = x at hpx hcells
    generalize i / columns * (height + padding) = y at hpy hcells
    generalize j % columns * (width + padding) = x' at hqx hcells
    generalize j / columns * (height + padding) = y' at hqy hcells
    have hcorners : (width + padding : Int) ≤ |(x' : Int) - x| ∨
        (height + padding : Int) ≤ |(y' : Int) - y| := by
      rcases hcells with hrow | ⟨-, hcolumn⟩
      · exact .inr (le_abs.2 (.inl (by omega)))
      · exact .inl (le_abs.2 (.inl (by omega)))
    refine ⟨x, y, x', y', ⟨hpx, hpy, hqx, hqy⟩, hcorners, ?_, by omega⟩
    exact fun a ha b hb => footprints_apart hcorners ha hb
  · refine ⟨hfills.pos (Nat.zero_lt_of_lt hj), fun index hindex => ?_⟩
    exact hfills.exists_position_isBelow_iff hindex

/-- Of five nodes in a grid the fourth begins the second row, to the left of the third and below it. -/
theorem rows_keep_apart_of_five :
    (2 < 3 ∧ 3 < 5 ∧ 0 < 280 + 50 ∧ 0 < 300 + 50) ∧
      ∃ p q, position 2 5 .grid (.ofWhole 280 300 50) = .ok p ∧
        position 3 5 .grid (.ofWhole 280 300 50) = .ok q ∧
        ∃ x y x' y' : Int,
          (p.x.toInt? = some x ∧ p.y.toInt? = some y ∧ q.x.toInt? = some x' ∧
            q.y.toInt? = some y') ∧
          (y < y' ∨ y = y' ∧ x < x') ∧
          ∀ a ∈ footprint 280 300 x y, ∀ b ∈ footprint 280 300 x' y',
            (50 : Nat) < |b.1 - a.1| ∨ (50 : Nat) < |b.2 - a.2| := by
  obtain ⟨hapart, -, hexists⟩ := @rows_keep_apart .grid (by decide) 5 2 3 (by decide) (by decide)
    280 300 50 (by decide) (by decide)
  have hroot : Nat.sqrt (5 - 1) = 2 := Nat.sqrt_eq 2
  have hcolumns := @gridColumns_eq 5 (by decide) (by decide)
  rw [hroot] at hcolumns
  obtain ⟨-, hpoints⟩ := hexists 3 (.grid hcolumns)
  obtain ⟨p, hp, hbelow⟩ := (hpoints 2 (by decide)).2 (by decide)
  obtain ⟨q, hq, hbelow'⟩ := (hpoints 3 (by decide)).2 (by decide)
  obtain ⟨x, y, x', y', hcorners, -, hgap, horder⟩ := hapart p q hp hq hbelow hbelow'
  exact ⟨by decide, p, q, hp, hq, x, y, x', y', hcorners, horder, hgap⟩

end Layout

end ErDiagram
