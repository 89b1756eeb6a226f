/-!
# Code points

A code point is the number of a character, or half of a surrogate pair. Two halves side by side stand for
one character beyond 0xFFFF; a half that stands alone stands for none.
-/

namespace ErDiagram.Text

def codesOf (text : String) : List Nat := text.toList.map Char.toNat

def lastCode : Nat := 0x10FFFF

def isCharacter (code : Nat) : Bool := decide code.isValidChar

/-- A code point as a character; the replacement mark stands for a half. -/
def shownCode (code : Nat) : Char :=
  if isCharacter code then Char.ofNat code else '\ufffd'

def isHighHalf (unit : Nat) : Bool := 0xD800 ≤ unit && unit < 0xDC00

def isLowHalf (unit : Nat) : Bool := 0xDC00 ≤ unit && unit < 0xE000

def pairCode (high low : Nat) : Nat := 0x10000 + (high - 0xD800) * 0x400 + (low - 0xDC00)

/-- Joins the halves that make a pair. The others stay as they are. -/
def joinPairs : List Nat → List Nat
  | high :: low :: rest =>
    if isHighHalf high && isLowHalf low then pairCode high low :: joinPairs rest
    else high :: joinPairs (low :: rest)
  | rest => rest

theorem isCharacter_of_mem_codesOf {text : String} {code : Nat} (h : code ∈ codesOf text) :
    isCharacter code = true := by
  obtain ⟨c, _, rfl⟩ := List.mem_map.1 h
  exact decide_eq_true c.valid

theorem toNat_of_isCharacter {code : Nat} (h : isCharacter code = true) :
    (Char.ofNat code).toNat = code := by
  rw [Char.ofNat, dif_pos (of_decide_eq_true h)]
  rfl

theorem ofList_codesOf (text : String) : String.ofList ((codesOf text).map Char.ofNat) = text := by
  have back : (codesOf text).map Char.ofNat = text.toList := by simp [codesOf, Function.comp_def]
  rw [back, String.ofList_toList]

example : joinPairs [0x61, 0xD83D, 0xDE42] = [0x61, 0x1F642] := by decide +kernel
example : joinPairs [0xDE42, 0xD83D] = [0xDE42, 0xD83D] := by decide +kernel

end ErDiagram.Text
