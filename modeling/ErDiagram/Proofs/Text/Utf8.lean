import ErDiagram.Text.Utf8

/-!
# Reading the bytes of characters back

The bytes of a character begin with a lead byte that asks for exactly the bytes behind it, whatever comes
after them. So the bytes of a text read back as the text.
-/

namespace ErDiagram.Text

theorem completeChar_cons {low high code n b : Nat} {rest : List Nat} (h : low ≤ b ∧ b ≤ high) :
    completeChar low high code (n + 1) (b :: rest) =
      completeChar 0x80 0xBF (code * 64 + (b - 0x80)) n rest := by
  rw [completeChar, if_pos h]

theorem completeChar_tail {code n bits : Nat} {rest : List Nat} (h : bits < 64) :
    completeChar 0x80 0xBF code (n + 1) ((bits + 128) :: rest) =
      completeChar 0x80 0xBF (code * 64 + bits) n rest := by
  rw [completeChar_cons (by omega), Nat.add_sub_cancel]

theorem nextChar_eq {b : Nat} {rest : List Nat} {code count low high : Nat} (hb : 0x80 ≤ b)
    (h : leadByte? b = some (code, count, low, high)) :
    nextChar b rest = completeChar low high code count rest := by
  rw [nextChar, if_neg (by omega), h]

private theorem leadByte?_two {lead : Nat} (h : 2 ≤ lead ∧ lead < 32) :
    leadByte? (lead + 192) = some (lead, 1, 0x80, 0xBF) := by
  rw [leadByte?, if_pos (by omega), Nat.add_sub_cancel]

/-- The lead byte of three. The bounds of the byte behind it leave out what fits in two bytes and the
halves of surrogate pairs. -/
theorem leadByte?_three (lead bits : Nat) (hlead : lead < 16) (hbits : bits < 64)
    (hlong : lead = 0 → 32 ≤ bits) (hwhole : lead = 13 → bits < 32) :
    ∃ low high, leadByte? (lead + 224) = some (lead, 2, low, high) ∧
      low ≤ bits + 128 ∧ bits + 128 ≤ high := by
  by_cases hzero : lead = 0
  · subst hzero
    exact ⟨0xA0, 0xBF, rfl, by omega⟩
  · by_cases hhalf : lead = 13
    · subst hhalf
      exact ⟨0x80, 0x9F, rfl, by omega⟩
    · refine ⟨0x80, 0xBF, ?_, by omega⟩
      rw [leadByte?, if_neg (by omega), if_neg (by omega), if_neg (by omega), if_pos (by omega),
        Nat.add_sub_cancel]

/-- The lead byte of four. The bounds of the byte behind it leave out what fits in three bytes and what is
beyond the last code point. -/
theorem leadByte?_four (lead bits : Nat) (hlead : lead < 5) (hbits : bits < 64)
    (hlong : lead = 0 → 16 ≤ bits) (hlast : lead = 4 → bits < 16) :
    ∃ low high, leadByte? (lead + 240) = some (lead, 3, low, high) ∧
      low ≤ bits + 128 ∧ bits + 128 ≤ high := by
  by_cases hzero : lead = 0
  · subst hzero
    exact ⟨0x90, 0xBF, rfl, by omega⟩
  · by_cases hfour : lead = 4
    · subst hfour
      exact ⟨0x80, 0x8F, rfl, by omega⟩
    · refine ⟨0x80, 0xBF, ?_, by omega⟩
      rw [leadByte?, if_neg (by omega), if_neg (by omega), if_neg (by omega), if_neg (by omega),
        if_neg (by omega), if_pos (by omega), Nat.add_sub_cancel]

private theorem utf8Bytes_cons (c : Char) (cs : List Char) :
    utf8Bytes (c :: cs) = utf8Bytes [c] ++ utf8Bytes cs := by
  simp [utf8Bytes]

/-- The bytes of a character, by the size of its code point. -/
theorem utf8Bytes_singleton (c : Char) :
    utf8Bytes [c] =
      if c.toNat ≤ 0x7F then [c.toNat]
      else if c.toNat ≤ 0x7FF then [c.toNat / 64 + 192, c.toNat % 64 + 128]
      else if c.toNat ≤ 0xFFFF then
        [c.toNat / 4096 + 224, c.toNat / 64 % 64 + 128, c.toNat % 64 + 128]
      else
        [c.toNat / 262144 + 240, c.toNat / 4096 % 64 + 128, c.toNat / 64 % 64 + 128,
          c.toNat % 64 + 128] := by
  have hlast : c.val.toNat < 0x110000 := c.valid.elim (fun h => by omega) (fun h => h.2)
  simp only [utf8Bytes, List.flatMap_cons, List.flatMap_nil, List.append_nil,
    String.utf8EncodeChar, Char.toNat]
  split
  · simp only [List.map_cons, List.map_nil, UInt8.toNat_ofNat', List.cons.injEq, and_true]
    omega
  · split
    · simp only [List.map_cons, List.map_nil, UInt8.toNat_ofNat', List.cons.injEq, and_true]
      omega
    · split
      · simp only [List.map_cons, List.map_nil, UInt8.toNat_ofNat', List.cons.injEq, and_true]
        omega
      · simp only [List.map_cons, List.map_nil, UInt8.toNat_ofNat', List.cons.injEq, and_true]
        omega

/-- The bytes of a character are a lead byte and the bytes that complete the character, whatever comes
behind them. -/
theorem nextChar_utf8Bytes (c : Char) (rest : List Nat) :
    ∃ lead more, utf8Bytes [c] = lead :: more ∧ nextChar lead (more ++ rest) = (some c, rest) := by
  have hvalid : c.toNat < 0xD800 ∨ 0xDFFF < c.toNat ∧ c.toNat < 0x110000 := c.valid
  have hchar : Char.ofNat c.toNat = c := Char.ofNat_toNat c
  rw [utf8Bytes_singleton]
  generalize c.toNat = n at hvalid hchar
  by_cases h1 : n ≤ 0x7F
  · refine ⟨n, [], if_pos h1, ?_⟩
    rw [nextChar, if_pos (by omega), hchar, List.nil_append]
  by_cases h2 : n ≤ 0x7FF
  · refine ⟨_, _, by rw [if_neg h1, if_pos h2], ?_⟩
    rw [nextChar_eq (by omega) (leadByte?_two (by omega)), List.cons_append, completeChar_tail (by omega),
      completeChar, Nat.div_add_mod', hchar, List.nil_append]
  by_cases h3 : n ≤ 0xFFFF
  · obtain ⟨low, high, hlead, hbounds⟩ := leadByte?_three (n / 4096) (n / 64 % 64)
      (by omega) (by omega) (by omega) (by omega)
    have hcode : (n / 4096 * 64 + n / 64 % 64) * 64 + n % 64 = n := by omega
    refine ⟨_, _, by rw [if_neg h1, if_neg h2, if_pos h3], ?_⟩
    rw [nextChar_eq (by omega) hlead, List.cons_append, completeChar_cons hbounds,
      Nat.add_sub_cancel, List.cons_append, completeChar_tail (by omega), completeChar, hcode, hchar,
      List.nil_append]
  · obtain ⟨low, high, hlead, hbounds⟩ := leadByte?_four (n / 262144)
      (n / 4096 % 64) (by omega) (by omega) (by omega) (by omega)
    have hcode : ((n / 262144 * 64 + n / 4096 % 64) * 64 + n / 64 % 64) * 64 + n % 64 = n := by omega
    refine ⟨_, _, by rw [if_neg h1, if_neg h2, if_neg h3], ?_⟩
    rw [nextChar_eq (by omega) hlead, List.cons_append, completeChar_cons hbounds,
      Nat.add_sub_cancel, List.cons_append, completeChar_tail (by omega), List.cons_append,
      completeChar_tail (by omega), completeChar, hcode, hchar, List.nil_append]

private theorem utf8Chars_utf8Bytes (cs : List Char) : utf8Chars (utf8Bytes cs) = cs.map some := by
  induction cs with
  | nil => simp [utf8Bytes, utf8Chars]
  | cons c rest ih =>
      obtain ⟨lead, more, hbytes, hnext⟩ := nextChar_utf8Bytes c (utf8Bytes rest)
      rw [utf8Bytes_cons, hbytes, List.cons_append, utf8Chars, hnext, ih, List.map_cons]

theorem utf8Strict?_utf8Bytes (cs : List Char) : utf8Strict? (utf8Bytes cs) = some cs := by
  rw [utf8Strict?, utf8Chars_utf8Bytes, List.mapM_map]
  exact (List.mapM_pure (f := fun c : Char => c)).trans (congrArg some (List.map_id cs))

end ErDiagram.Text
