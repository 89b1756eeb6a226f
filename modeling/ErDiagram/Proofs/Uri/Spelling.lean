import ErDiagram.Proofs.Uri.Segment

/-!
# How segments are spelt

A segment spells the bytes of its name one after another. An unreserved character spells its own byte, and
a percent sign with two upper-case digits spells the byte whose digits they are. `Spells` says this without
the functions that write and read segments. Reading any spelling gives the bytes back, so a spelling has
one meaning, and two names are never spelt alike.
-/

namespace ErDiagram.Uri

open Text

/-- The digits of a spelling in the order of their values. -/
def spellingDigits : List Char :=
  ['0', '1', '2', '3', '4', '5', '6', '7', '8', '9', 'A', 'B', 'C', 'D', 'E', 'F']

/-- Whether a character spells its own byte: a letter or a digit of ASCII, or one of four marks. -/
def spellsItself (c : Char) : Bool :=
  ('a' ≤ c && c ≤ 'z') || ('A' ≤ c && c ≤ 'Z') || ('0' ≤ c && c ≤ '9') ||
    ['_', '.', '-', '~'].contains c

/-- Which bytes a segment spells. -/
inductive Spells : List Char → List Nat → Prop
  | nil : Spells [] []
  | character {c : Char} {cs : List Char} {bytes : List Nat} (itself : spellsItself c)
      (rest : Spells cs bytes) : Spells (c :: cs) (c.toNat :: bytes)
  | digits {first second : Char} {high low : Nat} {cs : List Char} {bytes : List Nat}
      (first_eq : spellingDigits[high]? = some first) (second_eq : spellingDigits[low]? = some second)
      (rest : Spells cs bytes) : Spells ('%' :: first :: second :: cs) ((high * 16 + low) :: bytes)

/-- The unreserved bytes are those of the characters that spell themselves. -/
theorem spellsItself_ofNat {b : Nat} (h : isUnreserved b) : spellsItself (Char.ofNat b) := by
  have all : ∀ n < 0x80, isUnreserved n → spellsItself (Char.ofNat n) := by decide +kernel
  exact all b (lt_of_isUnreserved h) h

private theorem toNat_lt_of_spellsItself {c : Char} (h : spellsItself c) : c.toNat < 0x80 := by
  have upTo {last : Char} (hc : c ≤ last) (hlast : last.toNat < 0x80) : c.toNat < 0x80 :=
    Nat.lt_of_le_of_lt (UInt32.le_iff_toNat_le.1 hc) hlast
  simp only [spellsItself, Bool.or_eq_true, Bool.and_eq_true, decide_eq_true_eq,
    List.contains_iff_mem] at h
  obtain ((⟨-, small⟩ | ⟨-, capital⟩) | ⟨-, digit⟩) | mark := h
  · exact upTo small (by decide)
  · exact upTo capital (by decide)
  · exact upTo digit (by decide)
  · have all : ∀ mark ∈ ['_', '.', '-', '~'], mark.toNat < 0x80 := by simp
    exact all c mark

theorem spellingDigits_hexDigit {n : Nat} (h : n < 16) : spellingDigits[n]? = some (hexDigit n) := by
  have all : ∀ m < 16, spellingDigits[m]? = some (hexDigit m) := by decide +kernel
  exact all n h

theorem hexValue?_of_spellingDigits {n : Nat} {digit : Char} (h : spellingDigits[n]? = some digit) :
    hexValue? digit = some n := by
  have bound : n < 16 := (List.getElem?_eq_some_iff.1 h).1
  rw [spellingDigits_hexDigit bound] at h
  obtain rfl := Option.some.inj h
  exact hexValue?_hexDigit bound

namespace Spells

variable {cs : List Char} {bytes : List Nat}

private theorem escapeByte_append {b : Nat} (hb : b < 256) (rest : Spells cs bytes) :
    Spells (escapeByte b ++ cs) (b :: bytes) := by
  unfold escapeByte
  split
  · next unreserved =>
    have spelt := Spells.character (spellsItself_ofNat unreserved) rest
    rwa [toNat_ofNat (lt_of_isUnreserved unreserved)] at spelt
  · have spelt := Spells.digits (spellingDigits_hexDigit (n := b / 16) (by omega))
      (spellingDigits_hexDigit (n := b % 16) (by omega)) rest
    rwa [Nat.div_add_mod'] at spelt

private theorem flatMap_escapeByte (h : ∀ b ∈ bytes, b < 256) : Spells (bytes.flatMap escapeByte) bytes := by
  induction bytes with
  | nil => exact .nil
  | cons b rest ih =>
    rw [List.flatMap_cons]
    exact escapeByte_append (h b List.mem_cons_self) (ih fun b hb => h b (List.mem_cons_of_mem _ hb))

theorem ofName (name : String) : Spells (segment name).toList (utf8Bytes name.toList) := by
  rw [segment, String.toList_ofList]
  exact flatMap_escapeByte fun _ => lt_of_mem_utf8Bytes

theorem unescape_eq (h : Spells cs bytes) : unescape cs = bytes := by
  induction h with
  | nil => simp [unescape]
  | @character c cs bytes itself _ ih =>
    have notPercent : c ≠ '%' := by
      rintro rfl
      exact absurd itself (by decide)
    have low : c.toNat ≤ 0x7F := Nat.le_of_lt_succ (toNat_lt_of_spellsItself itself)
    rw [unescape_of_ne_percent notPercent, utf8Bytes_singleton, if_pos low, ih, List.singleton_append]
  | digits first_eq second_eq _ ih =>
    rw [unescape, hexValue?_of_spellingDigits first_eq, hexValue?_of_spellingDigits second_eq]
    simp only [ih]

end Spells

private theorem spells_segment_iff {name : String} {bytes : List Nat} :
    Spells (segment name).toList bytes ↔ bytes = utf8Bytes name.toList := by
  constructor
  · intro spelt
    exact spelt.unescape_eq.symm.trans (Spells.ofName name).unescape_eq
  · rintro rfl
    exact Spells.ofName name

/-- Segments lose nothing. Each is made of unreserved characters and of escapes with upper-case digits, and
spells the bytes of its name and no others; it reads back as the name; and no other name has it. -/
theorem segment_lossless :
    (∀ name : String,
      (∀ bytes, Spells (segment name).toList bytes ↔ bytes = utf8Bytes name.toList) ∧
        decode? (segment name) = some name) ∧
    Function.Injective segment :=
  ⟨fun name => ⟨fun _ => spells_segment_iff, decode?_segment name⟩, fun _ _ => segment_inj⟩

end ErDiagram.Uri
