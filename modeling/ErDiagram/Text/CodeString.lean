import ErDiagram.Text.Quoted

/-!
# Strings of code points

An escape can write half of a surrogate pair that stands alone. Such a half is a code point and no
character, so a text that has one is no `String`. A `CodeString` is either a text or holds such a half, and
it is determined by its code points.
-/

namespace ErDiagram

/-- Code points, of which some may be halves of surrogate pairs. -/
inductive CodeString where
  | whole (text : String)
  | halved (codes : List Nat) (lone : codes.all Text.isCharacter = false)
  deriving DecidableEq, Repr

namespace CodeString

instance : Inhabited CodeString := ⟨whole ""⟩

instance : Coe String CodeString := ⟨whole⟩

def codes : CodeString → List Nat
  | whole text => Text.codesOf text
  | halved codes _ => codes

def ofCodes (codes : List Nat) : CodeString :=
  if h : codes.all Text.isCharacter = true then whole (String.ofList (codes.map Char.ofNat))
  else halved codes (Bool.eq_false_iff.2 h)

def text? : CodeString → Option String
  | whole text => some text
  | halved _ _ => none

def isText : CodeString → Bool
  | whole _ => true
  | halved _ _ => false

def append : CodeString → CodeString → CodeString
  | whole front, whole back => whole (front ++ back)
  | front, back => ofCodes (front.codes ++ back.codes)

instance : Append CodeString := ⟨append⟩

/-- Whether a string comes before another one in the order of their code points, or is that one. -/
def ble (s other : CodeString) : Bool := !other.codes.lex s.codes (· < ·)

/-- The string as a text, where each half is shown by the replacement mark. -/
def shown : CodeString → String
  | whole text => text
  | halved codes _ => String.ofList (codes.map Text.shownCode)

def quoted (s : CodeString) : String := Text.quotedCodes s.codes

@[simp] theorem codes_whole (text : String) : (whole text).codes = Text.codesOf text := rfl

@[simp] theorem whole_append_whole (front back : String) :
    whole front ++ whole back = whole (front ++ back) := rfl

@[simp] theorem text?_whole (text : String) : (whole text).text? = some text := rfl

theorem map_toList_text? {s : CodeString} {cs : List Char} :
    s.text?.map String.toList = some cs ↔ s = whole (String.ofList cs) := by
  cases s with
  | whole text =>
    rw [text?_whole, Option.map_some, Option.some.injEq, whole.injEq]
    exact ⟨fun h => by rw [← h, String.ofList_toList], fun h => by rw [h, String.toList_ofList]⟩
  | halved codes lone => exact iff_of_false nofun nofun

theorem all_isCharacter_codesOf (text : String) :
    (Text.codesOf text).all Text.isCharacter = true :=
  List.all_eq_true.2 fun _ h => Text.isCharacter_of_mem_codesOf h

theorem ofCodes_codes (s : CodeString) : ofCodes s.codes = s := by
  cases s with
  | whole text =>
    rw [ofCodes, codes_whole, dif_pos (all_isCharacter_codesOf text), Text.ofList_codesOf]
  | halved codes lone =>
    exact dif_neg (by simp only [CodeString.codes, lone]; exact Bool.false_ne_true)

private theorem codes_ofCodes (codes : List Nat) : (ofCodes codes).codes = codes := by
  unfold ofCodes
  split
  · next h =>
    rw [codes_whole, Text.codesOf, String.toList_ofList, List.map_map]
    refine (List.map_congr_left fun code hcode => ?_).trans (List.map_id codes)
    exact Text.toNat_of_isCharacter (List.all_eq_true.1 h code hcode)
  · rfl

@[simp] theorem codes_append (front back : CodeString) :
    (front ++ back).codes = front.codes ++ back.codes := by
  cases front with
  | whole front =>
    cases back with
    | whole back => simp [Text.codesOf]
    | halved codes lone => exact codes_ofCodes _
  | halved codes lone => exact codes_ofCodes _

end CodeString

end ErDiagram
