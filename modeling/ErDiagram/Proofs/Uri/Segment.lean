import ErDiagram.Proofs.Text.Utf8
import ErDiagram.Uri.Path
import ErDiagram.Uri.Segment

/-!
# Names in segments

A segment made of a name has only unreserved characters and escapes in it, so it keeps away from every mark
that has a meaning in an address, and it reads back as the name. The names `.` and `..` alone look like
steps of a path, because a dot is unreserved.
-/

namespace ErDiagram.Uri

open Text

/-- Whether a character can stand in a segment that was made of a name. -/
def isSegmentChar (c : Char) : Bool :=
  isUnreserved c.toNat || c == '%'

theorem lt_of_isUnreserved {b : Nat} (h : isUnreserved b) : b < 0x80 := by
  simp only [isUnreserved, Bool.and_eq_true, decide_eq_true_eq] at h
  exact h.1

private theorem toNat_lt_of_isSegmentChar {c : Char} (h : isSegmentChar c) : c.toNat < 0x80 := by
  rcases Bool.or_eq_true_iff.1 h with h | h
  · exact lt_of_isUnreserved h
  · obtain rfl := beq_iff_eq.1 h
    decide

/-- A property of the characters of segments can be checked character by character. -/
theorem of_isSegmentChar {p : Char → Bool} (hall : ∀ n < 0x80, isSegmentChar (Char.ofNat n) →
    p (Char.ofNat n)) {c : Char} (h : isSegmentChar c) : p c := by
  have hc := hall c.toNat (toNat_lt_of_isSegmentChar h)
  rw [Char.ofNat_toNat] at hc
  exact hc h

theorem ne_slash_of_isSegmentChar {c : Char} (h : isSegmentChar c) : c ≠ '/' := by
  have hc := of_isSegmentChar (p := (· != '/')) (by decide +kernel) h
  simpa using hc

theorem toNat_ofNat {n : Nat} (h : n < 0x80) : (Char.ofNat n).toNat = n := by
  have all : ∀ m < 0x80, (Char.ofNat m).toNat = m := by decide +kernel
  exact all n h

theorem isSegmentChar_hexDigit {n : Nat} (h : n < 16) : isSegmentChar (hexDigit n) := by
  have all : ∀ m < 16, isSegmentChar (hexDigit m) := by decide +kernel
  exact all n h

private theorem isSegmentChar_of_mem_escapeByte {b : Nat} (hb : b < 256) {c : Char}
    (h : c ∈ escapeByte b) : isSegmentChar c := by
  unfold escapeByte at h
  split at h
  · next hstays =>
    rw [List.mem_singleton.1 h, isSegmentChar, toNat_ofNat (lt_of_isUnreserved hstays), hstays,
      Bool.true_or]
  · simp only [percentTriple, List.mem_cons, List.not_mem_nil, or_false] at h
    rcases h with rfl | rfl | rfl
    · rfl
    · exact isSegmentChar_hexDigit (by omega)
    · exact isSegmentChar_hexDigit (by omega)

theorem lt_of_mem_utf8Bytes {cs : List Char} {b : Nat} (h : b ∈ utf8Bytes cs) : b < 256 := by
  obtain ⟨byte, -, rfl⟩ := List.mem_map.1 h
  exact byte.toNat_lt

theorem isSegmentChar_of_mem_segment {name : String} {c : Char} (h : c ∈ (segment name).toList) :
    isSegmentChar c := by
  rw [segment, String.toList_ofList] at h
  obtain ⟨b, hb, hc⟩ := List.mem_flatMap.1 h
  exact isSegmentChar_of_mem_escapeByte (lt_of_mem_utf8Bytes hb) hc

theorem unescape_of_ne_percent {c : Char} (h : c ≠ '%') (rest : List Char) :
    unescape (c :: rest) = utf8Bytes [c] ++ unescape rest := by
  rw [unescape]
  intro a b more heq
  exact fun _ => h heq

/-- The form of a byte reads back as the byte. -/
theorem unescape_escapeByte {b : Nat} (hb : b < 256) (rest : List Char) :
    unescape (escapeByte b ++ rest) = b :: unescape rest := by
  unfold escapeByte
  split
  · next hstays =>
    have hne : Char.ofNat b ≠ '%' := by
      intro h
      simp only [isUnreserved, h] at hstays
      revert hstays
      simp
    have hlow : b < 0x80 := lt_of_isUnreserved hstays
    rw [List.singleton_append, unescape_of_ne_percent hne, utf8Bytes_singleton, toNat_ofNat hlow,
      if_pos (by omega), List.singleton_append]
  · simp only [percentTriple, List.cons_append, List.nil_append]
    rw [unescape, hexValue?_hexDigit (by omega), hexValue?_hexDigit (by omega)]
    simp only
    rw [Nat.div_add_mod']

private theorem unescape_flatMap_escapeByte {bytes : List Nat} (h : ∀ b ∈ bytes, b < 256) :
    unescape (bytes.flatMap escapeByte) = bytes := by
  induction bytes with
  | nil => simp [unescape]
  | cons b rest ih =>
      rw [List.flatMap_cons, unescape_escapeByte (h b List.mem_cons_self),
        ih fun b hb => h b (List.mem_cons_of_mem _ hb)]

theorem decode?_segment (name : String) : decode? (segment name) = some name := by
  rw [decode?, segment, String.toList_ofList,
    unescape_flatMap_escapeByte fun _ => lt_of_mem_utf8Bytes, utf8Strict?_utf8Bytes]
  simp

theorem segment_inj {name other : String} (h : segment name = segment other) : name = other := by
  have hread := congrArg decode? h
  rw [decode?_segment, decode?_segment] at hread
  exact Option.some.inj hread

/-- Whether a name is one of the two that look like a step of a path. -/
def isStep (name : String) : Bool :=
  name = "." || name = ".."

private theorem segment_dot : segment "." = "." := by decide +kernel

private theorem segment_dots : segment ".." = ".." := by decide +kernel

/-- The segments that are steps are those of the names that look like steps. -/
theorem segment_isStep {name : String} :
    ((segment name).toList = ['.'] ∨ (segment name).toList = ['.', '.']) ↔ isStep name := by
  have hdot : (segment name).toList = ['.'] ↔ name = "." := by
    rw [← show (segment ".").toList = ['.'] by rw [segment_dot]; rfl, String.toList_inj]
    exact ⟨segment_inj, congrArg segment⟩
  have hdots : (segment name).toList = ['.', '.'] ↔ name = ".." := by
    rw [← show (segment "..").toList = ['.', '.'] by rw [segment_dots]; rfl, String.toList_inj]
    exact ⟨segment_inj, congrArg segment⟩
  rw [hdot, hdots, isStep, Bool.or_eq_true, decide_eq_true_eq, decide_eq_true_eq]

end ErDiagram.Uri
