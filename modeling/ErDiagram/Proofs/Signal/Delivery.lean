import ErDiagram.Proofs.Signal.Course

/-!
# The delivery of a signal

Handlers do with the bus what its operations allow. Since keys are never used again, being on the bus at
its turn is the same for a handler as having been there all along. So a signal is delivered to the handlers
that are registered when it is published and stay until their turn, to each of them once and in the order
of their subscription.
-/

namespace ErDiagram

namespace Switchboard

open Bus

/-- What runs handlers changes the bus by its operations alone. -/
def Runner.ActsOnBus (run : Runner) : Prop :=
  ∀ handler s last failure, run handler s = some (last, failure) → s.bus.Evolves last.bus

variable {run : Runner} {s last : Switchboard}

/-- Handlers that carry out commands do nothing but operations on the bus, however deep they nest. -/
theorem actsOnBus_runHandler (depth : Nat) : (runHandler depth).ActsOnBus := by
  intro handler s last failure h
  obtain ⟨happenings, -, rfl⟩ := acts_runHandler depth handler s last failure h
  exact after_evolves (s.visited handler) happenings

/-- The turn of a handler in a signal that is published now. -/
abbrev TurnOf (run : Runner) (topic : Topic) (s : Switchboard) (r : Registration Handler)
    (early : List (Registration Handler)) (now : Switchboard) : Prop :=
  Turn (·.bus) run topic (s.bus.registered topic) s r early now

/-- What is known of a handler of a delivery that has come to an end: its turn came, and it was called if
it was still on the bus. -/
theorem turn_of_delivery (hrun : run.ActsOnBus) (hordered : s.bus.IsOrdered) {topic : Topic}
    {calls : List (Registration Handler)}
    (h : Delivery (·.bus) run topic (s.bus.registered topic) s calls last)
    {r : Registration Handler} (hr : r ∈ s.bus.registered topic) :
    ∃ early now, TurnOf run topic s r early now ∧ early <+: calls ∧
      s.bus.Evolves now.bus ∧ now.bus.Evolves last.bus ∧
      (r ∈ calls ↔ now.bus.isRegistered topic r.key) := by
  obtain ⟨front, rest, hsplit⟩ := List.append_of_mem hr
  have hkeys := hordered.pairwise_registered topic
  rw [hsplit] at h hkeys
  obtain ⟨early, now, late, rfl, hfront, hback⟩ := h.of_append
  obtain ⟨-, hrest, hbefore⟩ := List.pairwise_append.1 hkeys
  -- keys are distinct, so the handler is called at its own turn or not at all
  have hlate : r ∉ rest := fun hmem => Nat.lt_irrefl _ ((List.pairwise_cons.1 hrest).1 r hmem)
  have hearly : r ∉ early := fun hmem =>
    Nat.lt_irrefl _ (hbefore r (hfront.sublist.subset hmem) r List.mem_cons_self)
  refine ⟨early, now, ⟨front, rest, hsplit, hfront⟩, List.prefix_append _ _, hfront.evolves hrun,
    hback.evolves hrun, ?_⟩
  rw [List.mem_append, or_iff_right hearly]
  exact hback.mem_head_iff hlate

/-- Delivery of a signal. It comes to an end when the handlers do that it calls. It calls the handlers that
were registered for its topic and still are when their turn comes, in the order of their subscription and
each of them once: those that stay to the end, none that has left the bus before its turn, none that comes
later, whatever else handlers do with the bus. The number tells how many were called. How handlers fail
changes nothing. -/
theorem publish_delivers {run : Runner} (hrun : run.ActsOnBus) {s : Switchboard}
    (hbus : Evolves .empty s.bus) (topic : Topic) :
    ((∀ r early now, TurnOf run topic s r early now → now.bus.isRegistered topic r.key →
        (run r.handler now).isSome) → (publish run topic s).isSome) ∧
      ∀ last count, publish run topic s = some (last, count) →
        ∃ calls ended, Delivery (·.bus) run topic (s.bus.registered topic) s calls ended ∧
          last = { ended with bus := ended.bus.record ⟨topic, count⟩ } ∧
          count = calls.length ∧
          calls.Sublist (s.bus.registered topic) ∧ (calls.map (·.key)).Pairwise (· < ·) ∧
          (∀ r ∈ s.bus.registered topic, ∃ early now, TurnOf run topic s r early now ∧
            early <+: calls ∧ s.bus.Evolves now.bus ∧ now.bus.Evolves last.bus ∧
            (r ∈ calls ↔ now.bus.isRegistered topic r.key) ∧
            ∀ between, s.bus.Evolves between → between.Evolves now.bus →
              between.isRegistered topic r.key = false → r ∉ calls) ∧
          (∀ r ∈ s.bus.registered topic, last.bus.isRegistered topic r.key → r ∈ calls) ∧
          (∀ later topic' handler, s.bus.Evolves later →
            (later.subscribe topic' handler).1.key ∉ calls.map (·.key)) ∧
          ∀ run' : Runner,
            (∀ handler now, (run' handler now).map Prod.fst = (run handler now).map Prod.fst) →
            publish run' topic s = some (last, count) ∧
              Delivery (·.bus) run' topic (s.bus.registered topic) s calls ended := by
  have hordered := IsOrdered.empty.evolves hbus
  constructor
  · intro hends
    obtain ⟨out, hout⟩ := Option.isSome_iff_exists.1 (deliver_isSome hends)
    simp [publish, hout]
  intro last count h
  obtain ⟨calls, ended, hdelivery, hcount, hlast⟩ := publish_eq_some_iff.1 h
  have hrecorded : ended.bus.Evolves last.bus := by
    rw [hlast]
    exact .of_step (.record ended.bus _)
  have hkey : ∀ {r}, r ∈ calls → r.key < s.bus.nextKey := fun hr =>
    hordered.lt_of_mem_registered (hdelivery.sublist.subset hr)
  refine ⟨calls, ended, hdelivery, hlast, hcount, hdelivery.sublist, ?_, ?_, ?_, ?_, ?_⟩
  · exact List.pairwise_map.2 ((hordered.pairwise_registered topic).sublist hdelivery.sublist)
  · intro r hr
    obtain ⟨early, now, hturn, hearly, hnow, hended, hiff⟩ :=
      turn_of_delivery hrun hordered hdelivery hr
    refine ⟨early, now, hturn, hearly, hnow, hended.trans hrecorded, hiff, ?_⟩
    -- a key that has left the bus does not come back
    intro between hbetween hrest hoff hmem
    have hon := hrest.isRegistered (Nat.lt_of_lt_of_le (hkey hmem) hbetween.nextKey_le) (hiff.1 hmem)
    simp [hon] at hoff
  · intro r hr hstays
    obtain ⟨early, now, -, -, hnow, hended, hiff⟩ := turn_of_delivery hrun hordered hdelivery hr
    have hlate := hordered.lt_of_mem_registered hr
    exact hiff.2 ((hended.trans hrecorded).isRegistered
      (Nat.lt_of_lt_of_le hlate hnow.nextKey_le) hstays)
  · intro later topic' handler hlater hmem
    obtain ⟨r, hr, hsame⟩ := List.mem_map.1 hmem
    have hnew : later.nextKey = r.key := hsame.symm
    have hold := hkey hr
    have hgrown := hlater.nextKey_le
    omega
  · intro run' hsame
    have hdelivery' := hdelivery.congr hsame
    exact ⟨publish_eq_some_iff.2 ⟨calls, ended, hdelivery', hcount, hlast⟩, hdelivery'⟩

/-- Three handlers of one topic: the first releases the second and itself, subscribes another and publishes
the topic again, and the third fails. -/
def crossed : Switchboard :=
  let again : Json := .str Topic.schemaChanged.name
  let first : List Command :=
    [.release "second", .release "first", .subscribe "fourth" again [] none, .publish again,
      .clearHistory]
  (((ofContext .empty).subscribe .schemaChanged ⟨"first", first, none⟩).subscribe .schemaChanged
    ⟨"second", [], none⟩).subscribe .schemaChanged ⟨"third", [], some (.missingKey "third")⟩

/-- The first and the third are called, and in between by the inner signal the third and the fourth. -/
theorem publish_delivers_of_crossed :
    (runHandler 2).ActsOnBus ∧ Evolves .empty crossed.bus ∧
      ∃ (last : Switchboard) (calls : List (Registration Handler)),
        publish (runHandler 2) .schemaChanged crossed = some (last, calls.length) ∧
        calls.Sublist (crossed.bus.registered .schemaChanged) ∧ calls.length = 2 ∧
        last.visits.map (·.handler) = ["first", "third", "fourth", "third"] := by
  have hbus : Evolves .empty crossed.bus :=
    ((Evolves.of_step (.subscribe _ _ _)).trans (.of_step (.subscribe _ _ _))).trans
      (.of_step (.subscribe _ _ _))
  have hrun := actsOnBus_runHandler 2
  have hnumber : (publish (runHandler 2) .schemaChanged crossed).map
      (fun out => (out.2, out.1.visits.map (·.handler))) =
        some (2, ["first", "third", "fourth", "third"]) := by
    decide +kernel
  obtain ⟨⟨last, count⟩, hpublish, hout⟩ := Option.map_eq_some_iff.1 hnumber
  obtain ⟨hcount, hvisits⟩ := Prod.mk.inj hout
  obtain ⟨calls, ended, -, -, hlength, hsublist, -⟩ :=
    (publish_delivers hrun hbus .schemaChanged).2 last count hpublish
  refine ⟨hrun, hbus, last, calls, by rw [hpublish, hlength], hsublist, ?_, hvisits⟩
  rw [← hlength, ← hcount]

end Switchboard

end ErDiagram
