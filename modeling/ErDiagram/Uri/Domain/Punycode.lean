/-!
# Punycode

A label with characters beyond ASCII is written in ASCII: first its ASCII characters and a hyphen, then
where each other character stands, in order of the characters. Each place is told as the number of steps
from the one before, in digits of base 36 whose weights adapt to the numbers met so far.
-/

namespace ErDiagram.Uri.Domain.Punycode

/-- The first code point that is written as a number. -/
def firstCode : Nat := 0x80

/-- The bias before any number is met. -/
def firstBias : Nat := 72

def digit (n : Nat) : Char :=
  if n < 26 then Char.ofNat (97 + n) else Char.ofNat (22 + n)

def digitValue? (c : Char) : Option Nat :=
  if 'a' ≤ c ∧ c ≤ 'z' then some (c.toNat - 97)
  else if 'A' ≤ c ∧ c ≤ 'Z' then some (c.toNat - 65)
  else if '0' ≤ c ∧ c ≤ '9' then some (c.toNat - 22)
  else none

/-- The least value of a digit that another digit follows, at a place that counts in steps of 36. -/
def threshold (place bias : Nat) : Nat :=
  if place ≤ bias then 1 else if bias + 26 ≤ place then 26 else place - bias

theorem threshold_bounds (place bias : Nat) :
    1 ≤ threshold place bias ∧ threshold place bias ≤ 26 := by
  simp only [threshold]
  split
  · omega
  · split <;> omega

/-- Divides a number until it is small, counting the places that fall away. -/
def settle (n places : Nat) : Nat × Nat :=
  if 455 < n then settle (n / 35) (places + 36) else (n, places)
  termination_by n
  decreasing_by exact Nat.div_lt_self (by omega) (by omega)

/-- The bias after a number, when so many characters are in place. The first number is damped more than
the others. -/
def adapted (number count : Nat) (isFirst : Bool) : Nat :=
  let damped := if isFirst then number / 700 else number / 2
  let (rest, places) := settle (damped + damped / count) 0
  places + 36 * rest / (rest + 38)

def digits (bias place n : Nat) : List Char :=
  let t := threshold place bias
  if n < t then [digit n]
  else digit (t + (n - t) % (36 - t)) :: digits bias (place + 36) ((n - t) / (36 - t))
  termination_by n
  decreasing_by
    have bounds := threshold_bounds place bias
    exact Nat.lt_of_le_of_lt (Nat.div_le_self _ _) (by omega)

/-- A text that is being written: its digits, the steps since the last number, the bias and the number of
characters in place. -/
structure Writing where
  written : List Char
  steps : Nat
  bias : Nat
  placed : Nat

/-- Passes one code point of the label while the code point `code` is being placed. -/
def pass (basic code : Nat) (w : Writing) (c : Nat) : Writing :=
  if c < code then { w with steps := w.steps + 1 }
  else if c = code then
    { written := w.written ++ digits w.bias 36 w.steps
      steps := 0
      bias := adapted w.steps (w.placed + 1) (w.placed == basic)
      placed := w.placed + 1 }
  else w

/-- Places code points one after the other. `next` is the lowest one that was not yet considered. -/
def placeAll (codes : List Nat) (basic : Nat) :
    (toPlace : List Nat) → (next : Nat) → Writing → List Char
  | [], _, w => w.written
  | code :: rest, next, w =>
    let reached := { w with steps := w.steps + (code - next) * (w.placed + 1) }
    let placed := codes.foldl (pass basic code) reached
    placeAll codes basic rest (code + 1) { placed with steps := placed.steps + 1 }

/-- The different code points from a first one on, in increasing order. -/
def distinctFrom (first : Nat) (codes : List Nat) : List Nat :=
  ((codes.filter (first ≤ ·)).mergeSort fun a b => decide (a ≤ b)).eraseDups

def encode (codes : List Nat) : List Char :=
  let basic := (codes.filter (· < firstCode)).map Char.ofNat
  basic ++ (if basic = [] then [] else ['-']) ++
    placeAll codes basic.length (distinctFrom firstCode codes) firstCode
      ⟨[], 0, firstBias, basic.length⟩

/-- The number that digits write from a place on, of a weight, added to `sum`; and what follows it. -/
def number? (bias : Nat) : (place weight sum : Nat) → List Char → Option (Nat × List Char)
  | _, _, _, [] => none
  | place, weight, sum, c :: rest => do
    let n ← digitValue? c
    let t := threshold place bias
    let sum := sum + n * weight
    if n < t then return (sum, rest) else number? bias (place + 36) (weight * (36 - t)) sum rest

theorem length_lt_of_number? {bias place weight sum n : Nat} {cs rest : List Char}
    (h : number? bias place weight sum cs = some (n, rest)) : rest.length < cs.length := by
  induction cs generalizing place weight sum with
  | nil => simp [number?] at h
  | cons c more ih =>
    simp only [number?, Option.bind_eq_bind, Option.bind_eq_some_iff] at h
    obtain ⟨m, _, h⟩ := h
    split at h
    · simp only [Option.pure_def, Option.some.injEq, Prod.mk.injEq] at h
      simp [h.2]
    · exact Nat.lt_succ_of_lt (ih h)

/-- Puts characters in place as digits tell. `code` is the last one placed and `position` the place behind
it; the label so far is `codes`. -/
def insertAll (codes : List Nat) (code position bias : Nat) (isFirst : Bool) (cs : List Char) :
    Option (List Nat) :=
  if cs = [] then some codes
  else
    match h : number? bias 36 1 0 cs with
    | none => none
    | some (n, rest) =>
      let places := codes.length + 1
      let reached := position + n
      let next := code + reached / places
      let place := reached % places
      if 0x10FFFF < next then none
      else
        insertAll (codes.take place ++ next :: codes.drop place) next (place + 1)
          (adapted n places isFirst) false rest
  termination_by cs.length
  decreasing_by exact length_lt_of_number? h

def decode? (cs : List Char) : Option (List Nat) :=
  let fromEnd := cs.reverse.takeWhile (· != '-')
  let basic := (cs.take (cs.length - fromEnd.length)).dropLast
  insertAll (basic.map Char.toNat) firstCode 0 firstBias true fromEnd.reverse

end ErDiagram.Uri.Domain.Punycode
