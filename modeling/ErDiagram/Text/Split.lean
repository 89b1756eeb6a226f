/-!
# Texts between marks

A text with `n` marks has `n + 1` parts between them. `splitWhere` gives the parts, which can be empty.
-/

namespace ErDiagram.Text

/-- The parts of a text between the characters that are marks. -/
def splitWhere (isMark : Char → Bool) : List Char → List (List Char)
  | [] => [[]]
  | c :: rest =>
    if isMark c then [] :: splitWhere isMark rest
    else match splitWhere isMark rest with
      | first :: more => (c :: first) :: more
      | [] => [[c]]

/-- The parts of a text between the occurrences of a character. -/
def splitMark (mark : Char) (cs : List Char) : List (List Char) :=
  splitWhere (· == mark) cs

/-- What stands before the first occurrence of a character, and what stands behind it if there is one. -/
def splitFirst (mark : Char) (cs : List Char) : List Char × Option (List Char) :=
  match cs.dropWhile (· != mark) with
  | _ :: rest => (cs.takeWhile (· != mark), some rest)
  | [] => (cs, none)

theorem splitWhere_eq_singleton {isMark : Char → Bool} {cs : List Char}
    (h : ∀ c ∈ cs, isMark c = false) : splitWhere isMark cs = [cs] := by
  induction cs with
  | nil => rfl
  | cons c rest ih =>
    simp [splitWhere, h c (by simp), ih fun x hx => h x (by simp [hx])]

theorem splitWhere_append_cons {isMark : Char → Bool} {part rest : List Char} {mark : Char}
    (hp : ∀ c ∈ part, isMark c = false) (hm : isMark mark) :
    splitWhere isMark (part ++ mark :: rest) = part :: splitWhere isMark rest := by
  induction part with
  | nil => simp [splitWhere, hm]
  | cons c more ih =>
    simp [splitWhere, hp c (by simp), ih fun x hx => hp x (by simp [hx])]

theorem splitMark_intercalate {mark : Char} {parts : List (List Char)} (hne : parts ≠ [])
    (h : ∀ part ∈ parts, mark ∉ part) : splitMark mark (List.intercalate [mark] parts) = parts := by
  have free : ∀ part ∈ parts, ∀ c ∈ part, (c == mark) = false := by
    intro part hpart c hc
    have : c ≠ mark := fun heq => h part hpart (heq ▸ hc)
    simpa using this
  clear h
  induction parts with
  | nil => exact absurd rfl hne
  | cons part more ih =>
    cases more with
    | nil =>
      simpa [splitMark, List.intercalate] using splitWhere_eq_singleton (free part (by simp))
    | cons next others =>
      have tail := ih (by simp) fun q hq => free q (by simp [hq])
      simp only [splitMark] at tail ⊢
      rw [show List.intercalate [mark] (part :: next :: others) =
        part ++ mark :: List.intercalate [mark] (next :: others) by simp [List.intercalate]]
      rw [splitWhere_append_cons (free part (by simp)) (by simp), tail]

end ErDiagram.Text
