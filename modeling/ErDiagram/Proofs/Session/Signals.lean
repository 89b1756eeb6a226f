import ErDiagram.Session.State

/-!
# What a signal does to a session

The only handler that a session puts on its bus asks for a rebuild. Delivering a signal therefore leaves
the bus as it is and schedules one rebuild for each handler of its topic, or none outside of a running
program. Nothing else in the session knows of the signal.
-/

namespace ErDiagram

namespace Bus

variable {H : Type}

private theorem isRegistered_of_mem_registered {bus : Bus H} {topic : Topic} {r : Registration H}
    (h : r ∈ bus.registered topic) : bus.isRegistered topic r.key = true := by
  obtain ⟨hmem, htopic⟩ := List.mem_filter.1 h
  exact isRegistered_iff.2 ⟨r, hmem, by simpa using htopic, rfl⟩

end Bus

namespace Session

variable {σ : Type}

/-- A session to which signals have brought a number of rebuilds. -/
def signalled (s : Session σ) (count : Nat) : Session σ :=
  { s with
    nextTicket := s.nextTicket + count
    pending := s.pending ++ (List.range' s.nextTicket count).map fun ticket =>
      ⟨ticket, .rebuild, true⟩ }

@[simp] theorem signalled_zero (s : Session σ) : s.signalled 0 = s := by
  simp [signalled]

private theorem signalled_schedule (s : Session σ) (count : Nat) :
    (s.schedule .rebuild true).signalled count = s.signalled (count + 1) := by
  simp only [signalled, schedule, List.append_assoc, List.range'_succ, List.map_cons,
    List.singleton_append]
  rw [Nat.add_right_comm, Nat.add_assoc]

/-- Delivering a signal to handlers of the bus schedules a rebuild for each of them. -/
theorem deliver_eq (inside : Bool) (topic : Topic) (handlers : List (Registration Reaction))
    (s : Session σ) (h : ∀ r ∈ handlers, s.bus.isRegistered topic r.key = true) :
    Bus.deliver (·.bus) (react inside) topic handlers s =
      some (s.signalled (if inside then handlers.length else 0), handlers.length) := by
  induction handlers generalizing s with
  | nil => simp [Bus.deliver]
  | cons r rest ih =>
      have hfirst := h r List.mem_cons_self
      have hrest : ∀ r' ∈ rest, s.bus.isRegistered topic r'.key = true :=
        fun r' hr => h r' (List.mem_cons_of_mem r hr)
      cases inside with
      | false =>
          have hlater := ih s hrest
          simp only [Bool.false_eq_true, if_false] at hlater ⊢
          simp [Bus.deliver, hfirst, react, hlater]
      | true =>
          have hlater := ih (s.schedule .rebuild true) hrest
          simp only [if_true] at hlater ⊢
          simp [Bus.deliver, hfirst, react, hlater, signalled_schedule]

/-- The number of rebuilds that a signal schedules. -/
def audience (s : Session σ) (inside : Bool) (topic : Topic) : Nat :=
  if inside then s.bus.count topic else 0

theorem publish_eq (s : Session σ) (inside : Bool) (topic : Topic) :
    s.publish inside topic =
      ({ s.signalled (s.audience inside topic) with
          bus := s.bus.record ⟨topic, s.bus.count topic⟩ }, s.bus.count topic) := by
  have hdelivered := deliver_eq inside topic (s.bus.registered topic) s
    fun r hr => Bus.isRegistered_of_mem_registered hr
  rw [publish]
  rw [hdelivered]
  rfl

theorem change_eq (s : Session σ) (inside : Bool) (what : ContextChange) :
    s.change inside what =
      { s.signalled (s.audience inside what.topic) with
        context := s.context.apply what
        bus := s.bus.record ⟨what.topic, s.bus.count what.topic⟩ } := by
  rw [change]
  rw [publish_eq]
  rfl

end Session

end ErDiagram
