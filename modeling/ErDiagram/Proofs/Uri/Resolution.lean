import ErDiagram.Proofs.Uri.Segment
import ErDiagram.Uri.Reach
import Mathlib.Data.List.TakeWhile

/-!
# Where paths lead from a base address

A base address without a path of its own leads to the path that is asked for, once the steps of the path
are taken. Whether it can be asked at all does not depend on the path, unless the path is too long for an
address.
-/

namespace ErDiagram.Uri

open Text

/-- Whether a character can stand in a path whose segments are made of names. -/
def isPathChar (c : Char) : Bool :=
  isSegmentChar c || c == '/'

theorem of_isPathChar {p : Char → Bool} (hall : ∀ n < 0x80, isSegmentChar (Char.ofNat n) →
    p (Char.ofNat n)) (hslash : p '/') {c : Char} (h : isPathChar c) : p c := by
  rcases Bool.or_eq_true_iff.1 h with h | h
  · exact of_isSegmentChar hall h
  · rw [beq_iff_eq.1 h]
    exact hslash

theorem joined_cons_cons (part next : List Char) (more : List (List Char)) :
    joined (part :: next :: more) = part ++ '/' :: joined (next :: more) := by
  simp [joined, List.intercalate]

theorem isPathChar_of_mem_joined {parts : List (List Char)}
    (h : ∀ part ∈ parts, ∀ c ∈ part, isSegmentChar c) : ∀ c ∈ joined parts, isPathChar c := by
  induction parts with
  | nil =>
      intro c hc
      cases hc
  | cons part rest ih =>
      have hpart : ∀ c ∈ part, isPathChar c := fun c hc => by
        rw [isPathChar, h part List.mem_cons_self c hc, Bool.true_or]
      cases rest with
      | nil => simpa [joined, List.intercalate] using hpart
      | cons next more =>
          intro c hc
          rw [joined_cons_cons] at hc
          rcases List.mem_append.1 hc with hc | hc
          · exact hpart c hc
          · rcases List.mem_cons.1 hc with rfl | hc
            · rfl
            · exact ih (fun p hp => h p (List.mem_cons_of_mem _ hp)) c hc

/-- Taking steps leaves only segments that were there. -/
theorem mem_takeSteps {taken path : List (List Char)} {part : List Char}
    (h : part ∈ takeSteps taken path) : part ∈ taken ∨ part ∈ path := by
  induction path generalizing taken with
  | nil => exact .inl (by simpa [takeSteps] using h)
  | cons first rest ih =>
      rw [takeSteps] at h
      split at h
      · exact (ih h).imp id (List.mem_cons_of_mem _)
      · split at h
        · rcases ih h with hmem | hmem
          · left
            split at hmem
            · exact hmem
            · exact List.mem_of_mem_drop hmem
          · exact .inr (List.mem_cons_of_mem _ hmem)
        · rcases ih h with hmem | hmem
          · rcases List.mem_cons.1 hmem with rfl | hmem
            · exact .inr List.mem_cons_self
            · exact .inl hmem
          · exact .inr (List.mem_cons_of_mem _ hmem)

theorem length_takeSteps_le (taken path : List (List Char)) :
    (takeSteps taken path).length ≤ taken.length + path.length := by
  induction path generalizing taken with
  | nil => simp [takeSteps]
  | cons first rest ih =>
      rw [takeSteps, List.length_cons]
      split
      · exact Nat.le_succ_of_le (ih taken)
      · split
        · refine Nat.le_trans (ih _) ?_
          split
          · omega
          · simp only [List.length_drop]
            omega
        · refine Nat.le_trans (ih _) ?_
          simp only [List.length_cons]
          omega

/-- A path with a step in it has fewer segments once its steps are taken. -/
theorem length_takeSteps_lt (taken : List (List Char)) {path : List (List Char)}
    (h : ∃ part ∈ path, part = ['.'] ∨ part = ['.', '.']) :
    (takeSteps taken path).length < taken.length + path.length := by
  induction path generalizing taken with
  | nil =>
      obtain ⟨part, hpart, -⟩ := h
      cases hpart
  | cons first rest ih =>
      obtain ⟨part, hpart, hstep⟩ := h
      rw [takeSteps, List.length_cons]
      split
      · exact Nat.lt_succ_of_le (length_takeSteps_le taken rest)
      · next hdot =>
        split
        · refine Nat.lt_of_le_of_lt (length_takeSteps_le _ rest) ?_
          split
          · omega
          · simp only [List.length_drop]
            omega
        · next hdots =>
          have hrest : part ∈ rest := by
            rcases List.mem_cons.1 hpart with rfl | hpart
            · exact absurd hstep (by simp [hdot, hdots])
            · exact hpart
          have hless := ih (first :: taken) ⟨part, hrest, hstep⟩
          simp only [List.length_cons] at hless
          omega

/-- Whether a path begins at the root. Two slashes in front would announce an authority. -/
structure IsRooted (path : List Char) : Prop where
  root : ∃ rest, path = '/' :: rest ∧ rest.head? ≠ some '/'
  chars : ∀ c ∈ path, isPathChar c

namespace IsRooted

variable {path : List Char}

theorem slash : IsRooted ['/'] := by
  refine ⟨⟨[], rfl, by simp⟩, fun c hc => ?_⟩
  rw [List.mem_singleton.1 hc]
  decide

private theorem not_control (h : IsRooted path) : path.find? Address.isControl = none := by
  apply List.find?_eq_none.2
  intro c hc
  have := of_isPathChar (p := fun c => !Address.isControl c) (by decide +kernel) rfl (h.chars c hc)
  simpa using this

theorem not_mark (h : IsRooted path) {c : Char} (hc : c ∈ path) : c ≠ '?' ∧ c ≠ '#' := by
  have := of_isPathChar (p := fun c => c != '?' && c != '#') (by decide +kernel) rfl (h.chars c hc)
  simpa using this

theorem escaped_eq (h : IsRooted path) : escaped staysInPath path = path :=
  escaped_eq_self fun c hc => of_isPathChar (by decide +kernel) rfl (h.chars c hc)

theorem splitFirst_eq (h : IsRooted path) : splitFirst '?' path = (path, none) := by
  have hnone : path.dropWhile (· != '?') = [] := by
    apply List.dropWhile_eq_nil_iff.2
    intro c hc
    simpa using (h.not_mark hc).1
  rw [splitFirst, hnone]

/-- Read as an address, a path is nothing but a path. -/
theorem ofText_eq (h : IsRooted path) : RawAddress.ofText path = ⟨[], [], path, none, none⟩ := by
  obtain ⟨rest, hpath, hnext⟩ := h.root
  have hscheme : RawAddress.splitScheme path = ([], path) := by
    rw [hpath]
    rfl
  have hauthority : RawAddress.splitAuthority path = ([], path) := by
    rw [hpath]
    cases rest with
    | nil => rfl
    | cons c more =>
        have hc : c ≠ '/' := fun heq => hnext (by rw [heq]; rfl)
        rw [RawAddress.splitAuthority]
        intro other heq
        exact hc (List.cons.inj (List.cons.inj heq).2).1
  have hmarks : ∀ c ∈ path, (! (['?', '#'].contains c)) = true := by
    intro c hc
    simpa using h.not_mark hc
  have hbefore : RawAddress.splitBefore (['?', '#'].contains ·) path = (path, []) := by
    rw [RawAddress.splitBefore, List.takeWhile_eq_self_iff.2 hmarks,
      List.dropWhile_eq_nil_iff.2 hmarks]
  simp only [RawAddress.ofText, hscheme, hauthority, hbefore, RawAddress.splitMarked]

theorem checkedPath_eq (h : IsRooted path) (hasScheme hasAuthority : Bool) :
    RawAddress.checkedPath hasScheme hasAuthority path =
      .ok (if hasScheme || hasAuthority then plainPath path else path) := by
  obtain ⟨rest, hpath, hnext⟩ := h.root
  have hhead : path.head? = some '/' := by rw [hpath]; rfl
  have hdouble : ['/', '/'].isPrefixOf path = false := by
    rw [hpath]
    cases rest with
    | nil => rfl
    | cons c more =>
        have hc : c ≠ '/' := fun heq => hnext (by rw [heq]; rfl)
        simp [List.isPrefixOf, Ne.symm hc]
  cases hasAuthority <;> cases hasScheme <;> simp [RawAddress.checkedPath, hhead, hdouble]

private theorem read_eq (h : IsRooted path) (hlength : path.length ≤ longestAddress) :
    Address.ofText (String.ofList path) = .ok ⟨[], [], [], none, path, none, none⟩ := by
  have hshort : ¬ longestAddress < path.length := Nat.not_lt.2 hlength
  have hchecked : (⟨[], [], path, none, none⟩ : RawAddress).checked =
      .ok ⟨[], [], [], none, escaped staysInPath path, none, none⟩ := by
    simp only [RawAddress.checked, h.checkedPath_eq]
    rfl
  rw [Address.ofText, String.toList_ofList]
  simp only [hshort, if_false, h.not_control, h.ofText_eq]
  rw [hchecked, h.escaped_eq]

end IsRooted

/-- Parts of a path that begins at the root and whose segments are made of names. -/
structure AreParts (parts : List (List Char)) : Prop where
  root : ∃ first more, first ≠ [] ∧ parts = [] :: first :: more
  chars : ∀ part ∈ parts, ∀ c ∈ part, isSegmentChar c

namespace AreParts

variable {parts : List (List Char)}

theorem isRooted (h : AreParts parts) : IsRooted (joined parts) := by
  refine ⟨?_, isPathChar_of_mem_joined h.chars⟩
  obtain ⟨first, more, hfirst, rfl⟩ := h.root
  refine ⟨joined (first :: more), joined_cons_cons [] first more, ?_⟩
  cases first with
  | nil => exact absurd rfl hfirst
  | cons c rest =>
      have hc : c ≠ '/' :=
        ne_slash_of_isSegmentChar (h.chars (c :: rest) (by simp) c List.mem_cons_self)
      cases more with
      | nil => simpa [joined, List.intercalate] using hc
      | cons next others => simpa [joined_cons_cons] using hc

theorem not_slash (h : AreParts parts) : ∀ part ∈ parts, '/' ∉ part :=
  fun part hpart hslash => ne_slash_of_isSegmentChar (h.chars part hpart _ hslash) rfl

private theorem ne_nil (h : AreParts parts) : parts ≠ [] := by
  obtain ⟨first, more, -, rfl⟩ := h.root
  simp

theorem segments_eq (h : AreParts parts) : segments (joined parts) = parts :=
  segments_joined h.ne_nil h.not_slash

private theorem escaped_plainPath (h : AreParts parts) :
    escaped staysInPath (plainPath (joined parts)) = joined (takeSteps [] parts) := by
  rw [plainPath, h.segments_eq]
  apply escaped_eq_self
  intro c hc
  refine of_isPathChar (by decide +kernel) rfl (isPathChar_of_mem_joined ?_ c hc)
  intro part hpart
  exact h.chars part ((mem_takeSteps hpart).resolve_left (by simp))

end AreParts

namespace RawAddress

def withPath (raw : RawAddress) (path : List Char) : RawAddress :=
  { raw with path := path }

/-- Parts of an address that differ in the path make the same address but for the path, in which the steps
are taken where it begins at a place that is known. -/
theorem checked_of_isRooted (raw : RawAddress) :
    ∃ placed : Bool, (raw.scheme ≠ [] → placed = true) ∧ ∀ path, IsRooted path →
      (raw.withPath path).checked = (raw.withPath ['/']).checked.map fun root =>
        { root with path := escaped staysInPath (if placed then plainPath path else path) } := by
  cases hhost : plainHost (splitHost (splitUser raw.authority).2).1 with
  | error fault =>
      refine ⟨true, fun _ => rfl, fun path _ => ?_⟩
      simp only [withPath, checked, hhost]
      rfl
  | ok host =>
      cases hport : plainPort raw.scheme (splitHost (splitUser raw.authority).2).2 with
      | error fault =>
          refine ⟨true, fun _ => rfl, fun path _ => ?_⟩
          simp only [withPath, checked, hhost, hport]
          rfl
      | ok port =>
          refine ⟨!raw.scheme.isEmpty ||
            (!(splitUser raw.authority).1.isEmpty || !host.isEmpty || port.isSome), ?_, ?_⟩
          · intro hscheme
            simp [hscheme]
          · intro path hpath
            simp only [withPath, checked, hhost, hport]
            simp only [bind, Except.bind, hpath.checkedPath_eq, IsRooted.slash.checkedPath_eq]
            rfl

private theorem query_of_checked {raw : RawAddress} (hquery : raw.query = none) {address : Address}
    (h : raw.checked = .ok address) : address.query = none := by
  rw [checked] at h
  simp only [hquery, Option.map_none, bind, Except.bind] at h
  split at h
  · cases h
  · split at h
    · cases h
    · split at h
      · cases h
      · cases h
        rfl

end RawAddress

namespace Address

/-- The part of an address that is too long depends on a path only when the path is. -/
theorem find?_parts_withPath (raw : RawAddress) {path : List Char}
    (hlength : path.length ≤ longestAddress) :
    (raw.withPath path).parts.find? (fun part => longestAddress < part.2.length) =
      (raw.withPath ['/']).parts.find? (fun part => longestAddress < part.2.length) := by
  have hpath : ¬ longestAddress < path.length := Nat.not_lt.2 hlength
  have hslash : ¬ longestAddress < ['/'].length := by decide
  simp only [RawAddress.parts, RawAddress.withPath, List.find?_cons, decide_eq_false hpath,
    decide_eq_false hslash]

/-- Other targets of an address make the same address but for the path. -/
theorem withTarget_of_isRooted (base : Address) :
    ∃ placed : Bool, (base.scheme ≠ [] → placed = true) ∧ ∀ path, IsRooted path →
      path.length ≤ longestAddress →
      base.withTarget path = (base.withTarget ['/']).map fun root =>
        { root with path := escaped staysInPath (if placed then plainPath path else path) } := by
  obtain ⟨placed, hplaced, hchecked⟩ :=
    RawAddress.checked_of_isRooted ⟨base.scheme, base.authority, [], none, base.fragment⟩
  refine ⟨placed, hplaced, fun path hpath hlength => ?_⟩
  have hparts := find?_parts_withPath
    ⟨base.scheme, base.authority, [], none, base.fragment⟩ hlength
  have hsame := hchecked path hpath
  simp only [RawAddress.withPath] at hparts hsame
  simp only [withTarget, hpath.splitFirst_eq, IsRooted.slash.splitFirst_eq, hparts]
  split
  · rfl
  · exact hsame

/-- A path alone is the rest of a base address without a path. -/
theorem resolve_of_isRooted {base : Address} (hbase : base.target = ['/']) {path : List Char}
    (hpath : IsRooted path) (hlength : path.length ≤ longestAddress) :
    base.resolve (String.ofList path) = base.withTarget path := by
  obtain ⟨rest, hrest, hnext⟩ := hpath.root
  have htarget : target ⟨[], [], [], none, path, none, none⟩ = path := by
    rw [target, hrest]
    simp [marked]
  have hdrop : path.dropWhile (· == '/') = rest := by
    rw [hrest, List.dropWhile_cons_of_pos (by rfl)]
    cases rest with
    | nil => rfl
    | cons c more =>
        have hc : c ≠ '/' := fun heq => hnext (by rw [heq]; rfl)
        exact List.dropWhile_cons_of_neg (by simpa using hc)
  rw [resolve, hpath.read_eq hlength]
  simp only [bind, Except.bind, List.isEmpty_nil, Bool.not_true, Bool.false_and,
    Bool.false_eq_true, if_false]
  rw [htarget, hdrop, hbase, List.singleton_append, ← hrest]

theorem resolve_of_too_long (base : Address) {path : List Char}
    (hlength : longestAddress < path.length) :
    base.resolve (String.ofList path) = .error .tooLong := by
  simp only [resolve, ofText, String.toList_ofList, hlength, if_true]
  rfl

/-- Whether a request reaches an address depends on a path only when the path is too long. -/
theorem reach_of_isRooted {base : Address} (hbase : base.target = ['/']) :
    ∃ placed : Bool, (base.scheme ≠ [] → placed = true) ∧ ∀ path, IsRooted path →
      path.length ≤ longestAddress → ∀ authorization,
      base.reach authorization (String.ofList path) = (base.reach authorization "/").map fun root =>
        { root with path := escaped staysInPath (if placed then plainPath path else path) } := by
  obtain ⟨placed, hplaced, htarget⟩ := withTarget_of_isRooted base
  refine ⟨placed, hplaced, fun path hpath hlength authorization => ?_⟩
  have hslash : base.resolve "/" = base.withTarget ['/'] :=
    resolve_of_isRooted hbase IsRooted.slash (by decide)
  rw [reach, reach, resolve_of_isRooted hbase hpath hlength, hslash, htarget path hpath hlength]
  cases base.withTarget ['/'] with
  | error fault => rfl
  | ok root =>
      have hlocation : ∀ path, ({ root with path := path } : Address).location = root.location :=
        fun _ => rfl
      have hreadable : ∀ path,
          ({ root with path := path } : Address).checkReadable = root.checkReadable := fun _ => rfl
      simp only [Except.map, Except.mapError, bind, Except.bind, hlocation, hreadable]
      generalize (authorization.toList ++ [CodeString.whole (String.ofList root.location)]) = texts
      cases texts.find? (!isAscii ·) with
      | some text => rfl
      | none => cases root.checkReadable <;> rfl

/-- A path that is reached has no query. -/
theorem query_of_reach {base : Address} (hbase : base.target = ['/']) {authorization : Option CodeString}
    {root : Address} (h : base.reach authorization "/" = .ok root) : root.query = none := by
  have hslash : base.resolve "/" = base.withTarget ['/'] :=
    resolve_of_isRooted hbase IsRooted.slash (by decide)
  rw [reach, hslash] at h
  cases htarget : base.withTarget ['/'] with
  | error fault =>
      rw [htarget] at h
      cases h
  | ok address =>
      have hquery : address.query = none := by
        simp only [withTarget, IsRooted.slash.splitFirst_eq] at htarget
        split at htarget
        · cases htarget
        · exact RawAddress.query_of_checked rfl htarget
      simp only [htarget, Except.mapError, bind, Except.bind] at h
      split at h
      · cases h
      · split at h
        · cases h
        · cases h
          exact hquery

/-- A base address without a path leads to the path of the parts, or to that with its steps taken. -/
theorem reach_joined {base : Address} (hbase : base.target = ['/']) :
    ∃ placed : Bool, (base.scheme ≠ [] → placed = true) ∧ ∀ parts, AreParts parts →
      (joined parts).length ≤ longestAddress → ∀ authorization,
      base.reach authorization (String.ofList (joined parts)) =
        (base.reach authorization "/").map fun root =>
          { root with path := joined (if placed then takeSteps [] parts else parts) } := by
  obtain ⟨placed, hplaced, hreach⟩ := reach_of_isRooted hbase
  refine ⟨placed, hplaced, fun parts hparts hlength authorization => ?_⟩
  rw [hreach _ hparts.isRooted hlength authorization]
  cases placed with
  | true => simp only [if_true, hparts.escaped_plainPath]
  | false => simp only [Bool.false_eq_true, if_false, hparts.isRooted.escaped_eq]

end Address

end ErDiagram.Uri
