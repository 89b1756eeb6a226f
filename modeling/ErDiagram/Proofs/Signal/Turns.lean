import ErDiagram.Proofs.Signal.Evolution
import ErDiagram.Signal.Switchboard

/-!
# The turns of handlers

A signal is delivered to the handlers that were registered for its topic when it was published, one after
the other. Before its turn comes, a handler can be released by the ones before it, and then it is passed
over. `Delivery` follows the turns and gathers the handlers that were called directly; what those publish
in their turn is part of what calling them does to the state.
-/

namespace ErDiagram

namespace Bus

variable {H S : Type}

/-- How the turns of handlers go: from a state to a last one, with the handlers that were called. -/
inductive Delivery (bus : S → Bus H) (run : H → S → Option (S × Option Fault)) (topic : Topic) :
    List (Registration H) → S → List (Registration H) → S → Prop
  | done (s : S) : Delivery bus run topic [] s [] s
  | called {r : Registration H} {rest calls : List (Registration H)} {s mid last : S}
      {failure : Option Fault} (on : (bus s).isRegistered topic r.key)
      (ran : run r.handler s = some (mid, failure))
      (later : Delivery bus run topic rest mid calls last) :
      Delivery bus run topic (r :: rest) s (r :: calls) last
  | passed {r : Registration H} {rest calls : List (Registration H)} {s last : S}
      (off : (bus s).isRegistered topic r.key = false)
      (later : Delivery bus run topic rest s calls last) :
      Delivery bus run topic (r :: rest) s calls last

variable {bus : S → Bus H} {run run' : H → S → Option (S × Option Fault)} {topic : Topic}
  {handlers calls : List (Registration H)} {s last : S}

/-- A delivery that comes to an end counts the handlers that were called. -/
theorem deliver_eq_some_iff {count : Nat} :
    deliver bus run topic handlers s = some (last, count) ↔
      ∃ calls, Delivery bus run topic handlers s calls last ∧ count = calls.length := by
  induction handlers generalizing s count with
  | nil =>
      constructor
      · intro h
        obtain ⟨rfl, rfl⟩ : s = last ∧ 0 = count := by simpa [deliver] using h
        exact ⟨[], .done s, rfl⟩
      · rintro ⟨calls, hdelivery, rfl⟩
        cases hdelivery
        rfl
  | cons r rest ih =>
      rw [deliver]
      cases hon : (bus s).isRegistered topic r.key with
      | true =>
          rw [if_pos rfl]
          constructor
          · intro h
            obtain ⟨⟨mid, failure⟩, hran, ⟨end', later⟩, hlater, heq⟩ : ∃ ran,
                run r.handler s = some ran ∧ ∃ out, deliver bus run topic rest ran.1 = some out ∧
                  (out.1, out.2 + 1) = (last, count) := by
              simpa [Option.bind_eq_some_iff] using h
            obtain ⟨rfl, rfl⟩ := Prod.mk.inj heq
            obtain ⟨calls, hdelivery, rfl⟩ := ih.1 hlater
            exact ⟨r :: calls, .called hon hran hdelivery, rfl⟩
          · rintro ⟨calls, hdelivery, rfl⟩
            cases hdelivery with
            | called on ran later =>
                have hlater := ih.2 ⟨_, later, rfl⟩
                simp [ran, hlater]
            | passed off => simp [hon] at off
      | false =>
          rw [if_neg Bool.false_ne_true, ih]
          refine exists_congr fun calls => and_congr_left fun _ => ?_
          constructor
          · exact .passed hon
          · intro hdelivery
            cases hdelivery with
            | called on => simp [hon] at on
            | passed off later => exact later

namespace Delivery

theorem sublist (h : Delivery bus run topic handlers s calls last) : calls.Sublist handlers := by
  induction h with
  | done => exact List.Sublist.slnil
  | called _ _ _ ih => exact ih.cons_cons _
  | passed _ _ ih => exact ih.cons _

theorem append {front back early late : List (Registration H)} {mid : S}
    (h : Delivery bus run topic front s early mid) (h' : Delivery bus run topic back mid late last) :
    Delivery bus run topic (front ++ back) s (early ++ late) last := by
  induction h with
  | done => exact h'
  | called on ran _ ih => exact .called on ran (ih h')
  | passed off _ ih => exact .passed off (ih h')

/-- What is delivered to some handlers and then to others happens in two parts. -/
theorem of_append {front back : List (Registration H)}
    (h : Delivery bus run topic (front ++ back) s calls last) :
    ∃ early mid late, calls = early ++ late ∧ Delivery bus run topic front s early mid ∧
      Delivery bus run topic back mid late last := by
  induction front generalizing s calls with
  | nil => exact ⟨[], s, calls, rfl, .done s, h⟩
  | cons r rest ih =>
      cases h with
      | called on ran later =>
          obtain ⟨early, mid, late, rfl, hfront, hback⟩ := ih later
          exact ⟨r :: early, mid, late, rfl, .called on ran hfront, hback⟩
      | passed off later =>
          obtain ⟨early, mid, late, rfl, hfront, hback⟩ := ih later
          exact ⟨early, mid, late, rfl, .passed off hfront, hback⟩

/-- The first handler is called if it is registered now, when the others have other keys. -/
theorem mem_head_iff {r : Registration H} {rest : List (Registration H)} (hr : r ∉ rest)
    (h : Delivery bus run topic (r :: rest) s calls last) :
    r ∈ calls ↔ (bus s).isRegistered topic r.key := by
  cases h with
  | called on => exact iff_of_true List.mem_cons_self on
  | passed off later =>
      exact iff_of_false (fun hmem => hr (later.sublist.subset hmem)) (Bool.eq_false_iff.1 off)

/-- Only what handlers do to the state matters to a delivery, not how they fail. -/
theorem congr (hrun : ∀ handler s, (run' handler s).map Prod.fst = (run handler s).map Prod.fst)
    (h : Delivery bus run topic handlers s calls last) :
    Delivery bus run' topic handlers s calls last := by
  induction h with
  | done s => exact .done s
  | @called r rest calls s mid last failure on ran _ ih =>
      have hsame := hrun r.handler s
      rw [ran] at hsame
      obtain ⟨⟨mid', failure'⟩, hran, hmid⟩ := Option.map_eq_some_iff.1 hsame
      obtain rfl : mid' = mid := hmid
      exact .called on hran ih
  | passed off _ ih => exact .passed off ih

end Delivery

/-- The turn of a handler: those before it have had theirs, and some of them were called. -/
def Turn (bus : S → Bus H) (run : H → S → Option (S × Option Fault)) (topic : Topic)
    (handlers : List (Registration H)) (s : S) (r : Registration H) (early : List (Registration H))
    (now : S) : Prop :=
  ∃ front rest, handlers = front ++ r :: rest ∧ Delivery bus run topic front s early now

/-- A delivery comes to an end when the handlers do that it calls. -/
theorem deliver_isSome (h : ∀ r early now, Turn bus run topic handlers s r early now →
    (bus now).isRegistered topic r.key → (run r.handler now).isSome) :
    (deliver bus run topic handlers s).isSome := by
  induction handlers generalizing s with
  | nil => rfl
  | cons r rest ih =>
      rw [deliver]
      cases hon : (bus s).isRegistered topic r.key with
      | true =>
          obtain ⟨⟨mid, failure⟩, hran⟩ :=
            Option.isSome_iff_exists.1 (h r [] s ⟨[], rest, rfl, .done s⟩ hon)
          have hlater := ih (s := mid) fun r' early now ⟨front, rest', hrest, hfront⟩ =>
            h r' (r :: early) now ⟨r :: front, rest', by rw [hrest, List.cons_append],
              .called hon hran hfront⟩
          obtain ⟨out, hout⟩ := Option.isSome_iff_exists.1 hlater
          simp [hran, hout]
      | false =>
          rw [if_neg Bool.false_ne_true]
          exact ih fun r' early now ⟨front, rest', hrest, hfront⟩ =>
            h r' early now ⟨r :: front, rest', by rw [hrest, List.cons_append], .passed hon hfront⟩

/-- When handlers do nothing but operations on the bus, a delivery does nothing else either. -/
theorem Delivery.evolves (hrun : ∀ handler s last failure, run handler s = some (last, failure) →
    (bus s).Evolves (bus last)) (h : Delivery bus run topic handlers s calls last) :
    (bus s).Evolves (bus last) := by
  induction h with
  | done s => exact .refl (bus s)
  | called _ ran _ ih => exact (hrun _ _ _ _ ran).trans ih
  | passed _ _ ih => exact ih

end Bus

namespace Switchboard

open Bus

variable {run : Runner} {s last : Switchboard}

/-- A published signal has been delivered to the handlers that were registered, and is recorded. -/
theorem publish_eq_some_iff {topic : Topic} {count : Nat} :
    publish run topic s = some (last, count) ↔
      ∃ calls ended, Delivery (·.bus) run topic (s.bus.registered topic) s calls ended ∧
        count = calls.length ∧ last = { ended with bus := ended.bus.record ⟨topic, count⟩ } := by
  constructor
  · intro h
    obtain ⟨⟨ended, n⟩, hdeliver, heq⟩ := Option.bind_eq_some_iff.1 h
    obtain ⟨rfl, rfl⟩ := Prod.mk.inj (Option.some.inj heq)
    obtain ⟨calls, hdelivery, hcount⟩ := deliver_eq_some_iff.1 hdeliver
    exact ⟨calls, ended, hdelivery, hcount, rfl⟩
  · rintro ⟨calls, ended, hdelivery, hcount, rfl⟩
    have hdeliver := deliver_eq_some_iff.2 ⟨calls, hdelivery, hcount⟩
    simp [publish, hdeliver]

end Switchboard

end ErDiagram
