import ErDiagram.Signal.Topic

/-!
# The signal bus

The bus holds the registered handlers of every topic, in the order of their subscription, and the history
of the signals published on it. What a handler does is not the bus's business: `deliver` runs the handlers
of a topic through a given function on a state that holds the bus, so that they may subscribe, release
and publish themselves. A handler that is no longer registered when its turn comes is left out, and
whether a handler fails makes no difference to the others.
-/

namespace ErDiagram

/-- A handler on the bus. Its key is its own for ever. -/
structure Registration (H : Type) where
  key : Nat
  topic : Topic
  handler : H
  deriving Repr

/-- A signal that was published and the number of handlers it was delivered to. -/
structure Signal where
  topic : Topic
  delivered : Nat
  deriving DecidableEq, Repr

structure Bus (H : Type) where
  registrations : List (Registration H)
  nextKey : Nat
  history : List Signal
  deriving Repr, Inhabited

/-- The handle of a registration, active until it is released. -/
structure Subscription where
  topic : Topic
  key : Nat
  active : Bool
  deriving DecidableEq, Repr

namespace Bus

variable {H S : Type}

def empty : Bus H := ⟨[], 1, []⟩

/-- The handlers of a topic, in the order of their subscription. -/
def registered (bus : Bus H) (topic : Topic) : List (Registration H) :=
  bus.registrations.filter (·.topic = topic)

def isRegistered (bus : Bus H) (topic : Topic) (key : Nat) : Bool :=
  bus.registrations.any fun r => r.topic = topic && r.key = key

def count (bus : Bus H) (topic : Topic) : Nat :=
  (bus.registered topic).length

def subscribe (bus : Bus H) (topic : Topic) (handler : H) : Subscription × Bus H :=
  (⟨topic, bus.nextKey, true⟩,
    { bus with
      registrations := bus.registrations ++ [⟨bus.nextKey, topic, handler⟩]
      nextKey := bus.nextKey + 1 })

def remove (bus : Bus H) (topic : Topic) (key : Nat) : Bus H :=
  { bus with registrations := bus.registrations.filter fun r => !(r.topic = topic && r.key = key) }

def record (bus : Bus H) (signal : Signal) : Bus H :=
  { bus with history := bus.history ++ [signal] }

def clearHistory (bus : Bus H) : Bus H :=
  { bus with history := [] }

/-- Runs the handlers of a topic that are still registered when their turn comes, and counts them. There
is no result when a handler does not come to an end. -/
def deliver (bus : S → Bus H) (run : H → S → Option (S × Option Fault)) (topic : Topic) :
    List (Registration H) → S → Option (S × Nat)
  | [], s => some (s, 0)
  | r :: rest, s =>
    if (bus s).isRegistered topic r.key then do
      let (ran, _) ← run r.handler s
      let (last, count) ← deliver bus run topic rest ran
      return (last, count + 1)
    else deliver bus run topic rest s

theorem isRegistered_iff {bus : Bus H} {topic : Topic} {key : Nat} :
    bus.isRegistered topic key ↔ ∃ r ∈ bus.registrations, r.topic = topic ∧ r.key = key := by
  simp [isRegistered]

theorem isRegistered_remove (bus : Bus H) (topic : Topic) (key : Nat) :
    (bus.remove topic key).isRegistered topic key = false := by
  cases h : (bus.remove topic key).isRegistered topic key with
  | false => rfl
  | true =>
    obtain ⟨r, hr, ht, hk⟩ := isRegistered_iff.1 h
    simp [remove, ht, hk] at hr

theorem count_subscribe (bus : Bus H) (topic : Topic) (handler : H) (t : Topic) :
    (bus.subscribe topic handler).2.count t = bus.count t + if topic = t then 1 else 0 := by
  by_cases h : topic = t <;> simp [count, registered, subscribe, h]

end Bus

namespace Subscription

variable {H : Type}

/-- Takes the handler from the bus, if the handle is still active, and ends the handle. -/
def release (s : Subscription) (bus : Bus H) : Subscription × Bus H :=
  if s.active then ({ s with active := false }, bus.remove s.topic s.key) else (s, bus)

theorem release_fst (s : Subscription) (bus : Bus H) :
    (s.release bus).1 = { s with active := false } := by
  obtain ⟨topic, key, active⟩ := s
  cases active <;> rfl

theorem release_release (s : Subscription) (bus : Bus H) :
    (s.release bus).1.release (s.release bus).2 = s.release bus := by
  cases h : s.active <;> simp [release, h]

end Subscription

end ErDiagram
