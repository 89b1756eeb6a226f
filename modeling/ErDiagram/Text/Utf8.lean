/-!
# UTF-8

`Text.utf8Bytes` writes characters as bytes and `Text.utf8Chars` reads bytes as characters. Where bytes
are no character the reader gives nothing for the longest run that could begin one, and goes on behind it.
So malformed text is either refused as a whole, by `utf8Strict?`, or shown with a replacement mark for
each such run, by `utf8Shown`.
-/

namespace ErDiagram.Text

def utf8Bytes (cs : List Char) : List Nat :=
  (cs.flatMap String.utf8EncodeChar).map UInt8.toNat

/-- What a lead byte asks for: its own bits of the code point, the number of bytes that follow, and the
bounds of the first of them. -/
def leadByte? (b : Nat) : Option (Nat × Nat × Nat × Nat) :=
  if 0xC2 ≤ b ∧ b ≤ 0xDF then some (b - 0xC0, 1, 0x80, 0xBF)
  else if b = 0xE0 then some (0, 2, 0xA0, 0xBF)
  else if b = 0xED then some (0xD, 2, 0x80, 0x9F)
  else if 0xE1 ≤ b ∧ b ≤ 0xEF then some (b - 0xE0, 2, 0x80, 0xBF)
  else if b = 0xF0 then some (0, 3, 0x90, 0xBF)
  else if 0xF1 ≤ b ∧ b ≤ 0xF3 then some (b - 0xF0, 3, 0x80, 0xBF)
  else if b = 0xF4 then some (4, 3, 0x80, 0x8F)
  else none

/-- Completes a code point with the bytes that follow, the first of them within bounds. -/
def completeChar (low high : Nat) : Nat → Nat → List Nat → Option Char × List Nat
  | code, 0, rest => (some (Char.ofNat code), rest)
  | _, _ + 1, [] => (none, [])
  | code, n + 1, b :: rest =>
    if low ≤ b ∧ b ≤ high then completeChar 0x80 0xBF (code * 64 + (b - 0x80)) n rest
    else (none, b :: rest)

/-- The character at the front of some bytes, and the bytes behind it. -/
def nextChar (b : Nat) (rest : List Nat) : Option Char × List Nat :=
  if b < 0x80 then (some (Char.ofNat b), rest)
  else match leadByte? b with
    | some (code, count, low, high) => completeChar low high code count rest
    | none => (none, rest)

theorem length_completeChar_le (low high code count : Nat) (rest : List Nat) :
    (completeChar low high code count rest).2.length ≤ rest.length := by
  induction count generalizing low high code rest with
  | zero => simp [completeChar]
  | succ n ih =>
    cases rest with
    | nil => simp [completeChar]
    | cons b more =>
      simp only [completeChar]
      split
      · exact Nat.le_succ_of_le (ih ..)
      · simp

theorem length_nextChar_le (b : Nat) (rest : List Nat) :
    (nextChar b rest).2.length ≤ rest.length := by
  simp only [nextChar]
  split
  · simp
  · split
    · exact length_completeChar_le ..
    · simp

/-- The characters of bytes, with nothing for each run that is none. -/
def utf8Chars : List Nat → List (Option Char)
  | [] => []
  | b :: rest => (nextChar b rest).1 :: utf8Chars (nextChar b rest).2
  termination_by bytes => bytes.length
  decreasing_by simpa using Nat.lt_succ_of_le (length_nextChar_le b rest)

def utf8Strict? (bytes : List Nat) : Option (List Char) :=
  (utf8Chars bytes).mapM id

/-- The text of any bytes, with a replacement mark for each malformed run. -/
def utf8Shown (bytes : List Nat) : List Char :=
  (utf8Chars bytes).map (·.getD '\ufffd')

end ErDiagram.Text
