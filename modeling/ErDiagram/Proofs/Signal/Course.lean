import ErDiagram.Proofs.Signal.Turns

/-!
# The course of what happens

A handler may do whatever can be done from outside, and what it publishes is delivered to other handlers
before it goes on. So deliveries stand inside one another, to any depth. `Course` says which happenings can
follow one another then, whatever handlers choose to do: it is not asked which commands a handler carries
out, what it remembers or how it fails, but only that it comes to an end. The happenings are told in their
order and determine the switchboard at each point.

What runs handlers acts by the operations of the switchboard when every handler takes such a course, and
then every command does. The handlers that carry out commands are among them.
-/

namespace ErDiagram

theorem append_eq_append_cons {α : Type} {xs ys before later : List α} {a : α}
    (h : xs ++ ys = before ++ a :: later) :
    (∃ between, xs = before ++ a :: between ∧ later = between ++ ys) ∨
      ∃ between, before = xs ++ between ∧ ys = between ++ a :: later := by
  rcases List.append_eq_append_iff.1 h with hsecond | ⟨between, rfl, hlater⟩
  · exact .inr hsecond
  · cases between with
    | nil => exact .inr ⟨[], by simp, hlater.symm⟩
    | cons first others =>
        obtain ⟨rfl, rfl⟩ := List.cons.inj hlater
        exact .inl ⟨others, rfl, rfl⟩

namespace Switchboard

open Bus

inductive Happening where
  | subscribed (topic : Topic) (handler : Handler)
  | released (handle : Subscription)
  | cleared
  | changed (change : ContextChange)
  /-- A handler is called. -/
  | started (r : Registration Handler)
  /-- A signal has been delivered. -/
  | published (signal : Signal)

def visited (s : Switchboard) (handler : Handler) : Switchboard :=
  { s with visits := s.visits ++ [⟨handler.name, s.context⟩] }

/-- A switchboard to which something has happened. -/
def occur (s : Switchboard) : Happening → Switchboard
  | .subscribed topic handler => s.subscribe topic handler
  | .released handle => s.release handle
  | .cleared => { s with bus := s.bus.clearHistory }
  | .changed change => { s with context := s.context.apply change }
  | .started r => s.visited r.handler
  | .published signal => { s with bus := s.bus.record signal }

/-- A switchboard to which several things have happened. -/
def after (s : Switchboard) (happenings : List Happening) : Switchboard :=
  happenings.foldl occur s

@[simp] theorem after_nil (s : Switchboard) : s.after [] = s := rfl

@[simp] theorem after_cons (s : Switchboard) (h : Happening) (happenings : List Happening) :
    s.after (h :: happenings) = (s.occur h).after happenings := rfl

@[simp] theorem after_append (s : Switchboard) (happenings later : List Happening) :
    s.after (happenings ++ later) = (s.after happenings).after later :=
  List.foldl_append

/-- What can be done without calling a handler. A handle can be released once it was issued. -/
inductive Deed (s : Switchboard) : Happening → Prop
  | subscribe (topic : Topic) (handler : Handler) : Deed s (.subscribed topic handler)
  | release {handle : Subscription} (issued : handle ∈ s.issued) : Deed s (.released handle)
  | clearHistory : Deed s .cleared

/-- What is going on: a handler or somebody outside acts, or a signal is delivered to the handlers that are
still due after a number of them were called. -/
inductive Stage where
  | acting
  | delivering (topic : Topic) (due : List (Registration Handler)) (count : Nat)

/-- Which happenings make up a stage from its beginning to its end. -/
inductive Course : Stage → Switchboard → List Happening → Prop
  | rest (s : Switchboard) : Course .acting s []
  | act {s : Switchboard} {h : Happening} {later : List Happening} (deed : s.Deed h)
      (goesOn : Course .acting (s.occur h) later) : Course .acting s (h :: later)
  | publish {s : Switchboard} {now later : List Happening} (topic : Topic)
      (delivery : Course (.delivering topic (s.bus.registered topic) 0) s now)
      (goesOn : Course .acting (s.after now) later) : Course .acting s (now ++ later)
  | change {s : Switchboard} {now later : List Happening} (change : ContextChange)
      (delivery : Course (.delivering change.topic (s.bus.registered change.topic) 0)
        (s.occur (.changed change)) now)
      (goesOn : Course .acting ((s.occur (.changed change)).after now) later) :
      Course .acting s (.changed change :: (now ++ later))
  | record (s : Switchboard) (topic : Topic) (count : Nat) :
      Course (.delivering topic [] count) s [.published ⟨topic, count⟩]
  | call {s : Switchboard} {topic : Topic} {r : Registration Handler}
      {due : List (Registration Handler)} {count : Nat} {now later : List Happening}
      (on : s.bus.isRegistered topic r.key) (run : Course .acting (s.occur (.started r)) now)
      (goesOn : Course (.delivering topic due (count + 1)) ((s.occur (.started r)).after now) later) :
      Course (.delivering topic (r :: due) count) s (.started r :: (now ++ later))
  | pass {s : Switchboard} {topic : Topic} {r : Registration Handler}
      {due : List (Registration Handler)} {count : Nat} {later : List Happening}
      (off : s.bus.isRegistered topic r.key = false)
      (goesOn : Course (.delivering topic due count) s later) :
      Course (.delivering topic (r :: due) count) s later

section Bus

private theorem occur_evolves (s : Switchboard) (h : Happening) : s.bus.Evolves (s.occur h).bus := by
  cases h with
  | subscribed topic handler => exact .of_step (.subscribe s.bus topic handler)
  | released handle =>
      simp only [occur, release, Subscription.release]
      split
      · exact .of_step (.remove s.bus handle.topic handle.key)
      · exact .refl s.bus
  | cleared => exact .of_step (.clearHistory s.bus)
  | changed change => exact .refl s.bus
  | started r => exact .refl s.bus
  | published signal => exact .of_step (.record s.bus signal)

theorem after_evolves (s : Switchboard) (happenings : List Happening) :
    s.bus.Evolves (s.after happenings).bus := by
  induction happenings generalizing s with
  | nil => exact .refl s.bus
  | cons h later ih => exact (s.occur_evolves h).trans (ih (s.occur h))

end Bus

section Executing

/-- Whether acting can lead from one switchboard to another. -/
def Reaches (s last : Switchboard) : Prop :=
  ∃ happenings, Course .acting s happenings ∧ s.after happenings = last

/-- What runs handlers acts by the operations of the switchboard when all that a handler does, from its
call to its end, is a course of happenings. -/
def Runner.Acts (run : Runner) : Prop :=
  ∀ handler s last failure, run handler s = some (last, failure) → (s.visited handler).Reaches last

variable {run : Runner} {s last : Switchboard}

theorem Course.append {happenings later : List Happening} (h : Course .acting s happenings)
    (h' : Course .acting (s.after happenings) later) : Course .acting s (happenings ++ later) := by
  generalize hstage : Stage.acting = stage at h
  induction h with
  | rest => exact h'
  | act deed _ ih => exact .act deed (ih h' hstage)
  | publish topic delivery _ _ ih =>
      rw [List.append_assoc]
      exact .publish topic delivery (ih (by simpa using h') hstage)
  | change change delivery _ _ ih =>
      rw [List.cons_append, List.append_assoc]
      exact .change change delivery (ih (by simpa using h') hstage)
  | record | call | pass => cases hstage

namespace Reaches

theorem refl (s : Switchboard) : s.Reaches s := ⟨[], .rest s, rfl⟩

theorem trans {mid : Switchboard} (h : s.Reaches mid) (h' : mid.Reaches last) : s.Reaches last := by
  obtain ⟨happenings, hcourse, rfl⟩ := h
  obtain ⟨later, hlater, rfl⟩ := h'
  exact ⟨happenings ++ later, hcourse.append hlater, after_append s happenings later⟩

theorem of_deed {h : Happening} (deed : s.Deed h) : s.Reaches (s.occur h) :=
  ⟨[h], .act deed (.rest _), rfl⟩

theorem of_eq {mid : Switchboard} (h : s.Reaches mid) {α : Type} {a b : α}
    (heq : some (mid, a) = some (last, b)) : s.Reaches last := by
  obtain ⟨rfl, -⟩ := Prod.mk.inj (Option.some.inj heq)
  exact h

end Reaches

/-- The turns of handlers that act are a course, which ends with the record of the signal. -/
theorem exists_course_of_delivery (hrun : run.Acts) {topic : Topic}
    {due calls : List (Registration Handler)} (h : Delivery (·.bus) run topic due s calls last)
    (count : Nat) :
    ∃ inner, Course (.delivering topic due count) s
        (inner ++ [.published ⟨topic, count + calls.length⟩]) ∧ s.after inner = last := by
  induction h generalizing count with
  | done s => exact ⟨[], .record s topic count, rfl⟩
  | @called r rest calls s mid last failure on ran _ ih =>
      obtain ⟨now, hnow, rfl⟩ := hrun r.handler s mid failure ran
      obtain ⟨later, hlater, hlast⟩ := ih (count + 1)
      refine ⟨.started r :: (now ++ later), ?_, ?_⟩
      · rw [List.cons_append, List.append_assoc, List.length_cons, Nat.add_comm calls.length,
          ← Nat.add_assoc]
        exact .call on hnow hlater
      · rw [after_cons, after_append]
        exact hlast
  | passed off _ ih =>
      obtain ⟨later, hlater, hlast⟩ := ih count
      exact ⟨later, .pass off hlater, hlast⟩

theorem exists_course_of_publish (hrun : run.Acts) {topic : Topic} {count : Nat}
    (h : publish run topic s = some (last, count)) :
    ∃ inner, Course (.delivering topic (s.bus.registered topic) 0) s
        (inner ++ [.published ⟨topic, count⟩]) ∧
      s.after (inner ++ [.published ⟨topic, count⟩]) = last := by
  obtain ⟨calls, ended, hdelivery, rfl, rfl⟩ := publish_eq_some_iff.1 h
  obtain ⟨inner, hcourse, rfl⟩ := exists_course_of_delivery hrun hdelivery 0
  rw [Nat.zero_add] at hcourse
  exact ⟨inner, hcourse, after_append s inner _⟩

private theorem mem_issued_of_handle? {name : String} {handle : Subscription}
    (h : s.handle? name = some handle) : handle ∈ s.issued := by
  obtain ⟨n, -, hfound⟩ := Option.bind_eq_some_iff.1 h
  exact List.mem_of_find?_eq_some hfound

/-- A command that comes to an end is carried out by acting. -/
theorem reaches_execute (hrun : run.Acts) {command : Command} {reply : Except Fault CommandReply}
    (h : execute run command s = some (last, reply)) : s.Reaches last := by
  have hstays := Reaches.refl s
  cases command with
  | subscribe name topic actions failure =>
      rw [execute] at h
      split at h
      · exact Reaches.of_eq (.of_deed (.subscribe _ _)) h
      · exact hstays.of_eq h
  | release name =>
      rw [execute] at h
      split at h
      · next hfound => exact Reaches.of_eq (.of_deed (.release (mem_issued_of_handle? hfound))) h
      · exact hstays.of_eq h
  | publish topic =>
      rw [execute] at h
      split at h
      · obtain ⟨⟨mid, count⟩, hpublish, heq⟩ := Option.bind_eq_some_iff.1 h
        obtain ⟨inner, hnow, hmid⟩ := exists_course_of_publish hrun hpublish
        have hreaches : s.Reaches mid := ⟨_, .publish _ hnow (.rest _), by simpa using hmid⟩
        exact hreaches.of_eq heq
      · exact hstays.of_eq h
  | change change =>
      obtain ⟨⟨mid, count⟩, hpublish, heq⟩ := Option.bind_eq_some_iff.1 h
      obtain ⟨inner, hnow, hmid⟩ :=
        exists_course_of_publish (s := s.occur (.changed change)) hrun hpublish
      have hreaches : s.Reaches mid := ⟨_, .change change hnow (.rest _), by simpa using hmid⟩
      exact hreaches.of_eq heq
  | clearHistory => exact Reaches.of_eq (.of_deed .clearHistory) h
  | count topic =>
      rw [execute] at h
      split at h
      · exact hstays.of_eq h
      · exact hstays.of_eq h
  | active | history | headers | selection => exact hstays.of_eq h

theorem reaches_executeAll (hrun : run.Acts) {commands : List Command} {failure : Option Fault}
    (h : executeAll run commands s = some (last, failure)) : s.Reaches last := by
  induction commands generalizing s with
  | nil => exact (Reaches.refl s).of_eq h
  | cons command rest ih =>
      rw [executeAll] at h
      obtain ⟨⟨mid, reply⟩, hfirst, hrest⟩ := Option.bind_eq_some_iff.1 h
      have hmid := reaches_execute hrun hfirst
      cases reply with
      | ok value => exact hmid.trans (ih hrest)
      | error fault => exact hmid.of_eq hrest

/-- Handlers that carry out commands act by the operations of the switchboard, however deep they nest. -/
theorem acts_runHandler (depth : Nat) : (runHandler depth).Acts := by
  induction depth with
  | zero =>
      intro handler s last failure h
      cases h
  | succ depth ih =>
      intro handler s last failure h
      rw [runHandler] at h
      obtain ⟨⟨mid, fault⟩, hall, hend⟩ := Option.bind_eq_some_iff.1 h
      have hmid : (s.visited handler).Reaches mid := reaches_executeAll ih hall
      cases fault with
      | none => exact hmid.of_eq hend
      | some fault => exact hmid.of_eq hend

end Executing

end Switchboard

end ErDiagram
