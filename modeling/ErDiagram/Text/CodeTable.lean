/-!
# Tables of code points

The properties of characters are kept as rows, each for the code points between two ends. Rows are in
increasing order and apart from each other, so that a row is found by halving.
-/

namespace ErDiagram.Text

/-- The row around a code point, among those from index `low` on and below `high`. The middle row decides
which half is searched next. -/
def searchRows {α : Type} (ends : α → Nat × Nat) (rows : Array α) (code : Nat) :
    Nat → Nat → Nat → Option α
  | 0, _, _ => none
  | fuel + 1, low, high =>
    if low < high then
      let middle := (low + high) / 2
      match rows[middle]? with
      | none => none
      | some row =>
        if code < (ends row).1 then searchRows ends rows code fuel low middle
        else if (ends row).2 < code then searchRows ends rows code fuel (middle + 1) high
        else some row
    else none

/-- The row between whose ends a code point lies. A table has fewer rows than can be halved 32 times. -/
def findRow? {α : Type} (ends : α → Nat × Nat) (rows : Array α) (code : Nat) : Option α :=
  searchRows ends rows code 32 0 rows.size

end ErDiagram.Text
