import ErDiagram.Signal.Bus
import Mathlib.Data.List.Nodup
import Mathlib.Logic.Relation

/-!
# What becomes of a bus

A bus changes by subscribing, removing, recording and forgetting. Whatever is done to it, the handlers that
stay keep their order, new ones come behind them, and their keys were never used before. So the keys tell
the order of the subscriptions, and a handler that has left the bus is gone for ever: the same function can
come back, but only as another registration.
-/

namespace ErDiagram

namespace Bus

variable {H : Type} {bus last : Bus H}

/-- One operation on a bus. -/
inductive Step : Bus H → Bus H → Prop
  | subscribe (bus : Bus H) (topic : Topic) (handler : H) : Step bus (bus.subscribe topic handler).2
  | remove (bus : Bus H) (topic : Topic) (key : Nat) : Step bus (bus.remove topic key)
  | record (bus : Bus H) (signal : Signal) : Step bus (bus.record signal)
  | clearHistory (bus : Bus H) : Step bus bus.clearHistory

def Evolves : Bus H → Bus H → Prop := Relation.ReflTransGen Step

namespace Evolves

@[refl] theorem refl (bus : Bus H) : bus.Evolves bus := Relation.ReflTransGen.refl

theorem of_step (h : Step bus last) : bus.Evolves last := Relation.ReflTransGen.single h

theorem trans {mid : Bus H} (h : bus.Evolves mid) (h' : mid.Evolves last) : bus.Evolves last :=
  Relation.ReflTransGen.trans h h'

/-- The handlers that stay keep their order, and those that come have new keys. -/
theorem registrations_eq (h : bus.Evolves last) :
    bus.nextKey ≤ last.nextKey ∧ ∃ kept added, last.registrations = kept ++ added ∧
      kept.Sublist bus.registrations ∧ ∀ r ∈ added, bus.nextKey ≤ r.key := by
  induction h with
  | refl => exact ⟨Nat.le_refl _, bus.registrations, [], by simp, List.Sublist.refl _, by simp⟩
  | @tail mid _ _ step ih =>
      obtain ⟨hnext, kept, added, hregistrations, hkept, hadded⟩ := ih
      cases step with
      | subscribe topic handler =>
          refine ⟨Nat.le_succ_of_le hnext, kept, added ++ [⟨mid.nextKey, topic, handler⟩], ?_, hkept, ?_⟩
          · simp [subscribe, hregistrations]
          · intro r hr
            rcases List.mem_append.1 hr with hold | hnew
            · exact hadded r hold
            · rwa [List.mem_singleton.1 hnew]
      | remove topic key =>
          let stays : Registration H → Bool := fun r => !(r.topic = topic && r.key = key)
          refine ⟨hnext, kept.filter stays, added.filter stays, ?_,
            List.filter_sublist.trans hkept, ?_⟩
          · rw [remove, hregistrations, List.filter_append]
          · exact fun r hr => hadded r (List.mem_filter.1 hr).1
      | record signal => exact ⟨hnext, kept, added, hregistrations, hkept, hadded⟩
      | clearHistory => exact ⟨hnext, kept, added, hregistrations, hkept, hadded⟩

theorem nextKey_le (h : bus.Evolves last) : bus.nextKey ≤ last.nextKey := h.registrations_eq.1

/-- A key that was given out and is still on the bus has been there all along. -/
theorem isRegistered (h : bus.Evolves last) {topic : Topic} {key : Nat} (hkey : key < bus.nextKey)
    (hlast : last.isRegistered topic key) : bus.isRegistered topic key := by
  obtain ⟨-, kept, added, hregistrations, hkept, hadded⟩ := h.registrations_eq
  obtain ⟨r, hr, htopic, rfl⟩ := isRegistered_iff.1 hlast
  rw [hregistrations] at hr
  rcases List.mem_append.1 hr with hold | hnew
  · exact isRegistered_iff.2 ⟨r, hkept.subset hold, htopic, rfl⟩
  · exact absurd (hadded r hnew) (Nat.not_le.2 hkey)

end Evolves

/-- The keys tell the order of the subscriptions, and the next key is a new one. -/
structure IsOrdered (bus : Bus H) : Prop where
  pairwise : bus.registrations.Pairwise (·.key < ·.key)
  lt_nextKey : ∀ r ∈ bus.registrations, r.key < bus.nextKey

namespace IsOrdered

theorem empty : (empty : Bus H).IsOrdered := ⟨List.Pairwise.nil, by simp [Bus.empty]⟩

private theorem eq_of_key (h : bus.IsOrdered) {r r' : Registration H} (hr : r ∈ bus.registrations)
    (hr' : r' ∈ bus.registrations) (hkey : r.key = r'.key) : r = r' := by
  have hnodup : (bus.registrations.map (·.key)).Nodup :=
    List.pairwise_map.2 (h.pairwise.imp Nat.ne_of_lt)
  exact List.inj_on_of_nodup_map hnodup hr hr' hkey

theorem step (h : bus.IsOrdered) (hstep : Step bus last) : last.IsOrdered := by
  cases hstep with
  | subscribe topic handler =>
      constructor
      · refine List.pairwise_append.2 ⟨h.pairwise, List.pairwise_singleton _ _, ?_⟩
        intro r hr new hnew
        rw [List.mem_singleton.1 hnew]
        exact h.lt_nextKey r hr
      · intro r hr
        rcases List.mem_append.1 hr with hold | hnew
        · exact Nat.lt_succ_of_lt (h.lt_nextKey r hold)
        · rw [List.mem_singleton.1 hnew]
          exact Nat.lt_succ_self bus.nextKey
  | remove topic key =>
      exact ⟨h.pairwise.filter _, fun r hr => h.lt_nextKey r (List.mem_filter.1 hr).1⟩
  | record signal => exact ⟨h.pairwise, h.lt_nextKey⟩
  | clearHistory => exact ⟨h.pairwise, h.lt_nextKey⟩

theorem evolves (h : bus.IsOrdered) (hlast : bus.Evolves last) : last.IsOrdered := by
  induction hlast with
  | refl => exact h
  | tail _ hstep ih => exact ih.step hstep

theorem mem_of_isRegistered (h : bus.IsOrdered) (hlast : bus.Evolves last) {r : Registration H}
    (hr : r ∈ bus.registrations) {topic : Topic} (hstays : last.isRegistered topic r.key) :
    r ∈ last.registrations := by
  obtain ⟨-, kept, added, hregistrations, hkept, hadded⟩ := hlast.registrations_eq
  obtain ⟨r', hr', -, hkey⟩ := isRegistered_iff.1 hstays
  rw [hregistrations] at hr' ⊢
  rcases List.mem_append.1 hr' with hold | hnew
  · have hsame : r' = r := h.eq_of_key (hkept.subset hold) hr hkey
    exact List.mem_append_left _ (hsame ▸ hold)
  · exact absurd (hadded r' hnew) (Nat.not_le.2 (hkey ▸ h.lt_nextKey r hr))

theorem pairwise_registered (h : bus.IsOrdered) (topic : Topic) :
    (bus.registered topic).Pairwise (·.key < ·.key) :=
  h.pairwise.filter _

theorem lt_of_mem_registered (h : bus.IsOrdered) {topic : Topic} {r : Registration H}
    (hr : r ∈ bus.registered topic) : r.key < bus.nextKey :=
  h.lt_nextKey r (List.mem_filter.1 hr).1

end IsOrdered

end Bus

end ErDiagram
