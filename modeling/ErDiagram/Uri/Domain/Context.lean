import ErDiagram.Text.Marks

/-!
# Characters that need their neighbours

Some characters are permitted in a label only where their neighbours call for them: a joiner between
letters that join or behind a mark that silences a vowel, a middle dot between two letters `l`, the marks
of Greek and Hebrew numerals beside letters of those scripts, the middle dot of Katakana in Japanese text,
and the two kinds of Arabic digits apart from each other.
-/

namespace ErDiagram.Uri.Domain

/-- The sides on which a letter joins its neighbours. -/
inductive Joining where
  | left
  | right
  | dual
  /-- A format character, across which its neighbours join. -/
  | transparent
  deriving DecidableEq, Repr

/-- Rows of characters that join: the first and the last one, and how they do. Marks have no row. -/
def joiningRows : Array (Nat × Nat × Joining) :=
  #[(0xAD, 0xAD, .transparent), (0x5C8, 0x5C8, .transparent), (0x61C, 0x61C, .transparent),
  (0x620, 0x620, .dual), (0x622, 0x625, .right), (0x626, 0x626, .dual), (0x627, 0x627, .right),
  (0x628, 0x628, .dual), (0x629, 0x629, .right), (0x62A, 0x62E, .dual), (0x62F, 0x632, .right),
  (0x633, 0x63F, .dual), (0x641, 0x647, .dual), (0x648, 0x648, .right), (0x649, 0x64A, .dual),
  (0x66E, 0x66F, .dual), (0x671, 0x673, .right), (0x675, 0x677, .right), (0x678, 0x687, .dual),
  (0x688, 0x699, .right), (0x69A, 0x6BF, .dual), (0x6C0, 0x6C0, .right), (0x6C1, 0x6C2, .dual),
  (0x6C3, 0x6CB, .right), (0x6CC, 0x6CC, .dual), (0x6CD, 0x6CD, .right), (0x6CE, 0x6CE, .dual),
  (0x6CF, 0x6CF, .right), (0x6D0, 0x6D1, .dual), (0x6D2, 0x6D3, .right), (0x6D5, 0x6D5, .right),
  (0x6EE, 0x6EF, .right), (0x6FA, 0x6FC, .dual), (0x6FF, 0x6FF, .dual),
  (0x70F, 0x70F, .transparent), (0x710, 0x710, .right), (0x712, 0x714, .dual),
  (0x715, 0x719, .right), (0x71A, 0x71D, .dual), (0x71E, 0x71E, .right), (0x71F, 0x727, .dual),
  (0x728, 0x728, .right), (0x729, 0x729, .dual), (0x72A, 0x72A, .right), (0x72B, 0x72B, .dual),
  (0x72C, 0x72C, .right), (0x72D, 0x72E, .dual), (0x72F, 0x72F, .right), (0x74D, 0x74D, .right),
  (0x74E, 0x758, .dual), (0x759, 0x75B, .right), (0x75C, 0x76A, .dual), (0x76B, 0x76C, .right),
  (0x76D, 0x770, .dual), (0x771, 0x771, .right), (0x772, 0x772, .dual), (0x773, 0x774, .right),
  (0x775, 0x777, .dual), (0x778, 0x779, .right), (0x77A, 0x77F, .dual), (0x7CA, 0x7EA, .dual),
  (0x840, 0x840, .right), (0x841, 0x845, .dual), (0x846, 0x847, .right), (0x848, 0x848, .dual),
  (0x849, 0x849, .right), (0x84A, 0x853, .dual), (0x854, 0x854, .right), (0x855, 0x855, .dual),
  (0x856, 0x858, .right), (0x860, 0x860, .dual), (0x862, 0x865, .dual), (0x867, 0x867, .right),
  (0x868, 0x868, .dual), (0x869, 0x86A, .right), (0x870, 0x882, .right), (0x886, 0x886, .dual),
  (0x889, 0x88D, .dual), (0x88E, 0x88E, .right), (0x88F, 0x88F, .dual),
  (0x897, 0x897, .transparent), (0x8A0, 0x8A9, .dual), (0x8AA, 0x8AC, .right),
  (0x8AE, 0x8AE, .right), (0x8AF, 0x8B0, .dual), (0x8B1, 0x8B2, .right), (0x8B3, 0x8B8, .dual),
  (0x8B9, 0x8B9, .right), (0x8BA, 0x8C8, .dual), (0xB53, 0xB54, .transparent),
  (0xECE, 0xECE, .transparent), (0x1807, 0x1807, .dual), (0x1820, 0x1878, .dual),
  (0x1887, 0x18A8, .dual), (0x18AA, 0x18AA, .dual), (0x1ACF, 0x1ADD, .transparent),
  (0x1AE0, 0x1AEB, .transparent), (0x200B, 0x200B, .transparent), (0x200E, 0x200F, .transparent),
  (0x202A, 0x202E, .transparent), (0x2060, 0x2064, .transparent), (0x206A, 0x206F, .transparent),
  (0xA840, 0xA871, .dual), (0xA872, 0xA872, .left), (0xFEFF, 0xFEFF, .transparent),
  (0xFFF9, 0xFFFB, .transparent), (0x10AC0, 0x10AC4, .dual), (0x10AC5, 0x10AC5, .right),
  (0x10AC7, 0x10AC7, .right), (0x10AC9, 0x10ACA, .right), (0x10ACD, 0x10ACD, .left),
  (0x10ACE, 0x10AD2, .right), (0x10AD3, 0x10AD6, .dual), (0x10AD7, 0x10AD7, .left),
  (0x10AD8, 0x10ADC, .dual), (0x10ADD, 0x10ADD, .right), (0x10ADE, 0x10AE0, .dual),
  (0x10AE1, 0x10AE1, .right), (0x10AE4, 0x10AE4, .right), (0x10AEB, 0x10AEE, .dual),
  (0x10AEF, 0x10AEF, .right), (0x10B80, 0x10B80, .dual), (0x10B81, 0x10B81, .right),
  (0x10B82, 0x10B82, .dual), (0x10B83, 0x10B85, .right), (0x10B86, 0x10B88, .dual),
  (0x10B89, 0x10B89, .right), (0x10B8A, 0x10B8B, .dual), (0x10B8C, 0x10B8C, .right),
  (0x10B8D, 0x10B8D, .dual), (0x10B8E, 0x10B8F, .right), (0x10B90, 0x10B90, .dual),
  (0x10B91, 0x10B91, .right), (0x10BA9, 0x10BAC, .right), (0x10BAD, 0x10BAE, .dual),
  (0x10D00, 0x10D00, .left), (0x10D01, 0x10D21, .dual), (0x10D22, 0x10D22, .right),
  (0x10D23, 0x10D23, .dual), (0x10D69, 0x10D6D, .transparent), (0x10EC2, 0x10EC2, .right),
  (0x10EC3, 0x10EC4, .dual), (0x10EC6, 0x10EC7, .dual), (0x10EFA, 0x10EFF, .transparent),
  (0x10F30, 0x10F32, .dual), (0x10F33, 0x10F33, .right), (0x10F34, 0x10F44, .dual),
  (0x10F51, 0x10F53, .dual), (0x10F54, 0x10F54, .right), (0x10F70, 0x10F73, .dual),
  (0x10F74, 0x10F75, .right), (0x10F76, 0x10F81, .dual), (0x10FB0, 0x10FB0, .dual),
  (0x10FB2, 0x10FB3, .dual), (0x10FB4, 0x10FB6, .right), (0x10FB8, 0x10FB8, .dual),
  (0x10FB9, 0x10FBA, .right), (0x10FBB, 0x10FBC, .dual), (0x10FBD, 0x10FBD, .right),
  (0x10FBE, 0x10FBF, .dual), (0x10FC1, 0x10FC1, .dual), (0x10FC2, 0x10FC3, .right),
  (0x10FC4, 0x10FC4, .dual), (0x10FC9, 0x10FC9, .right), (0x10FCA, 0x10FCA, .dual),
  (0x10FCB, 0x10FCB, .left), (0x11241, 0x11241, .transparent), (0x113BB, 0x113C0, .transparent),
  (0x113CE, 0x113CE, .transparent), (0x113D0, 0x113D0, .transparent),
  (0x113D2, 0x113D2, .transparent), (0x113E1, 0x113E2, .transparent),
  (0x11B60, 0x11B60, .transparent), (0x11B62, 0x11B64, .transparent),
  (0x11B66, 0x11B66, .transparent), (0x11F00, 0x11F01, .transparent),
  (0x11F36, 0x11F3A, .transparent), (0x11F40, 0x11F40, .transparent),
  (0x11F42, 0x11F42, .transparent), (0x11F5A, 0x11F5A, .transparent),
  (0x13430, 0x13440, .transparent), (0x13447, 0x13455, .transparent),
  (0x1611E, 0x16129, .transparent), (0x1612D, 0x1612F, .transparent),
  (0x1BCA0, 0x1BCA3, .transparent), (0x1D173, 0x1D17A, .transparent),
  (0x1E08F, 0x1E08F, .transparent), (0x1E4EC, 0x1E4EF, .transparent),
  (0x1E5EE, 0x1E5EF, .transparent), (0x1E6E3, 0x1E6E3, .transparent),
  (0x1E6E6, 0x1E6E6, .transparent), (0x1E6EE, 0x1E6EF, .transparent),
  (0x1E6F5, 0x1E6F5, .transparent), (0x1E900, 0x1E943, .dual), (0x1E94B, 0x1E94B, .transparent),
  (0xE0001, 0xE0001, .transparent), (0xE0020, 0xE007F, .transparent)]

/-- How a character joins. -/
def joining? (code : Nat) : Option Joining :=
  match Text.findRow? (fun row => (row.1, row.2.1)) joiningRows code with
  | some (_, _, joining) => some joining
  | none => if Text.isNonspacing code then some .transparent else none

/-- Whether the first of some code points that is not transparent joins in one of some ways. -/
def meets (ways : List Joining) (codes : List Nat) : Bool :=
  ((codes.dropWhile fun code => joining? code == some .transparent).head?.bind joining?).any
    ways.contains

/-- The class of the marks that silence a vowel. -/
def silencing : Nat := 9

/-- Whether the code point in front is a mark that silences a vowel. The code points in front come in
reverse. -/
def isSilenced (before : List Nat) : Bool :=
  before.head?.any fun code => Text.markClass code == silencing

/-- Whether a code point lies in one of some ranges. -/
def liesIn (ranges : List (Nat × Nat)) (code : Nat) : Bool :=
  ranges.any fun (first, last) => first ≤ code && code ≤ last

def greek : List (Nat × Nat) :=
  [(0x370, 0x373), (0x375, 0x377), (0x37A, 0x37D), (0x37F, 0x37F), (0x384, 0x384), (0x386, 0x386),
    (0x388, 0x38A), (0x38C, 0x38C), (0x38E, 0x3A1), (0x3A3, 0x3E1), (0x3F0, 0x3FF),
    (0x1D26, 0x1D2A), (0x1D5D, 0x1D61), (0x1D66, 0x1D6A), (0x1DBF, 0x1DBF), (0x1F00, 0x1F15),
    (0x1F18, 0x1F1D), (0x1F20, 0x1F45), (0x1F48, 0x1F4D), (0x1F50, 0x1F57), (0x1F59, 0x1F59),
    (0x1F5B, 0x1F5B), (0x1F5D, 0x1F5D), (0x1F5F, 0x1F7D), (0x1F80, 0x1FB4), (0x1FB6, 0x1FC4),
    (0x1FC6, 0x1FD3), (0x1FD6, 0x1FDB), (0x1FDD, 0x1FEF), (0x1FF2, 0x1FF4), (0x1FF6, 0x1FFE),
    (0x2126, 0x2126), (0xAB65, 0xAB65), (0x10140, 0x1018E), (0x101A0, 0x101A0), (0x1D200, 0x1D245)]

def hebrew : List (Nat × Nat) :=
  [(0x591, 0x5C8), (0x5D0, 0x5EA), (0x5EF, 0x5F4), (0xFB1D, 0xFB36), (0xFB38, 0xFB3C),
    (0xFB3E, 0xFB3E), (0xFB40, 0xFB41), (0xFB43, 0xFB44), (0xFB46, 0xFB4F)]

def japanese : List (Nat × Nat) :=
  [(0x2E80, 0x2E99), (0x2E9B, 0x2EF3), (0x2F00, 0x2FD5), (0x3005, 0x3005), (0x3007, 0x3007),
    (0x3021, 0x3029), (0x3038, 0x303B), (0x3041, 0x3096), (0x309D, 0x309F), (0x30A1, 0x30FA),
    (0x30FD, 0x30FF), (0x31F0, 0x31FF), (0x32D0, 0x32FE), (0x3300, 0x3357), (0x3400, 0x4DBF),
    (0x4E00, 0x9FFF), (0xF900, 0xFA6D), (0xFA70, 0xFAD9), (0xFF66, 0xFF6F), (0xFF71, 0xFF9D),
    (0x16FE2, 0x16FE3), (0x16FF0, 0x16FF6), (0x1AFF0, 0x1AFF3), (0x1AFF5, 0x1AFFB),
    (0x1AFFD, 0x1AFFE), (0x1B000, 0x1B12F), (0x1B132, 0x1B132), (0x1B150, 0x1B152),
    (0x1B155, 0x1B155), (0x1B164, 0x1B167), (0x1F200, 0x1F200), (0x20000, 0x2A6DF),
    (0x2A700, 0x2B81E), (0x2B820, 0x2CEAD), (0x2CEB0, 0x2EBE0), (0x2EBF0, 0x2EE5D),
    (0x2F800, 0x2FA1D), (0x30000, 0x3134A), (0x31350, 0x33479)]

def arabicDigits : List (Nat × Nat) := [(0x660, 0x669)]

/-- The digits of the languages east of Arabic in that script. -/
def easternDigits : List (Nat × Nat) := [(0x6F0, 0x6F9)]

def isJoiner (code : Nat) : Bool := code == 0x200C || code == 0x200D

/-- Whether a code point that is no joiner needs its neighbours. -/
def needsNeighbours (code : Nat) : Bool :=
  [0xB7, 0x375, 0x5F3, 0x5F4, 0x30FB].contains code || liesIn (arabicDigits ++ easternDigits) code

/-- Whether the neighbours of a code point call for it. Those in front come in reverse. -/
def isCalledFor (before : List Nat) (code : Nat) (after : List Nat) : Bool :=
  let label := before ++ after
  if code = 0x200C then
    isSilenced before || (meets [.left, .dual] before && meets [.right, .dual] after)
  else if code = 0x200D then isSilenced before
  else if code = 0xB7 then before.head? == some 0x6C && after.head? == some 0x6C
  else if code = 0x375 then after.head?.any (liesIn greek)
  else if code = 0x5F3 ∨ code = 0x5F4 then before.head?.any (liesIn hebrew)
  else if code = 0x30FB then label.any (liesIn japanese)
  else if liesIn arabicDigits code then !label.any (liesIn easternDigits)
  else if liesIn easternDigits code then !label.any (liesIn arabicDigits)
  else false

example : isCalledFor [0x6C] 0xB7 [0x6C] ∧ ¬ isCalledFor [0x61] 0xB7 [0x6C] := by decide +kernel
example : isCalledFor [0x628] 0x200C [0x628] ∧ ¬ isCalledFor [0x72F] 0x200C [0x628] := by decide +kernel

end ErDiagram.Uri.Domain
