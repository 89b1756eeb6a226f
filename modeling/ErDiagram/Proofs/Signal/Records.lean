import ErDiagram.Proofs.Signal.Course
import Mathlib.Algebra.GroupWithZero.Nat

/-!
# What the history records

A signal is recorded when it has been delivered, with the number of handlers that it was delivered to. While
it is delivered, handlers publish other signals and may clear the history. So a record stands behind those of
the signals that were published within its delivery, and one that is completed after a clearing is in the
history although it was begun before.

Each call of a handler is counted in one record, that of the signal which called it: `uncounted` reads the
happenings in order, and each record finds its own calls as the last ones that are not counted yet.
-/

namespace ErDiagram

namespace Switchboard

open Bus

/-- The record of a signal that has been delivered. -/
def Happening.completion? : Happening → Option Signal
  | .published signal => some signal
  | _ => none

def Happening.isCall : Happening → Bool
  | .started _ => true
  | _ => false

/-- The signals that have been delivered, in the order in which their deliveries came to an end. -/
def completions (happenings : List Happening) : List Signal :=
  happenings.filterMap Happening.completion?

/-- The calls that no record has counted, the last one first, after some happenings. A handler that is called
joins them, and a record takes as many of the last ones as it counts, which have to be handlers of its
topic. -/
def uncounted : List Happening → List (Registration Handler) → Option (List (Registration Handler))
  | [], calls => some calls
  | .started r :: later, calls => uncounted later (r :: calls)
  | .published signal :: later, calls =>
    let own := calls.take signal.delivered
    if own.length = signal.delivered ∧ ∀ r ∈ own, r.topic = signal.topic then
      uncounted later (calls.drop signal.delivered)
    else none
  | .subscribed _ _ :: later, calls => uncounted later calls
  | .released _ :: later, calls => uncounted later calls
  | .cleared :: later, calls => uncounted later calls
  | .changed _ :: later, calls => uncounted later calls

@[simp] theorem completions_published (signal : Signal) (later : List Happening) :
    completions (.published signal :: later) = signal :: completions later := rfl

variable {s : Switchboard} {happenings : List Happening}

section History

/-- Without a clearing, the history grows by what has been delivered. -/
theorem history_after (h : .cleared ∉ happenings) (s : Switchboard) :
    (s.after happenings).bus.history = s.bus.history ++ completions happenings := by
  induction happenings generalizing s with
  | nil => simp [completions]
  | cons first later ih =>
      have hlater : .cleared ∉ later := fun hmem => h (List.mem_cons_of_mem _ hmem)
      rw [after_cons, ih hlater]
      cases first with
      | cleared => exact absurd List.mem_cons_self h
      | published signal => simp [occur, Bus.record]
      | released handle =>
          have hsame : (s.release handle).bus.history = s.bus.history := by
            simp only [release, Subscription.release]
            split <;> rfl
          exact congrArg (· ++ completions later) hsame
      | subscribed | changed | started => rfl

private theorem history_after_cleared {later : List Happening} (h : .cleared ∉ later) (s : Switchboard)
    (before : List Happening) :
    (s.after (before ++ .cleared :: later)).bus.history = completions later := by
  rw [after_append, after_cons, history_after h]
  rfl

end History

section Counting

theorem uncounted_append (happenings later : List Happening) (calls : List (Registration Handler)) :
    uncounted (happenings ++ later) calls = (uncounted happenings calls).bind (uncounted later) := by
  induction happenings generalizing calls with
  | nil => rfl
  | cons first rest ih =>
      cases first with
      | published signal =>
          simp only [List.cons_append, uncounted, ih]
          split <;> rfl
      | _ => exact ih _

/-- How a stage counts calls: acting leaves those that are not counted as they were, and a delivery counts
its own, which are the last ones when it goes on. -/
def Stage.Counts (happenings : List Happening) : Stage → Prop
  | .acting => ∀ calls, uncounted happenings calls = some calls
  | .delivering topic due count => (∀ r ∈ due, r.topic = topic) →
    ∀ own calls : List (Registration Handler), own.length = count → (∀ r ∈ own, r.topic = topic) →
      uncounted happenings (own ++ calls) = some calls

private theorem topic_of_mem_registered {bus : Bus Handler} {topic : Topic} :
    ∀ r ∈ bus.registered topic, r.topic = topic :=
  fun _ hr => of_decide_eq_true (List.mem_filter.1 hr).2

theorem Stage.Counts.uncounted_publish {topic : Topic} {bus : Bus Handler}
    (h : (Stage.delivering topic (bus.registered topic) 0).Counts happenings)
    (calls : List (Registration Handler)) : uncounted happenings calls = some calls :=
  h topic_of_mem_registered [] calls rfl nofun

/-- In every course each call is counted by the record of the signal that called the handler. -/
theorem Course.counts {stage : Stage} (course : Course stage s happenings) :
    stage.Counts happenings := by
  induction course with
  | rest s => exact fun calls => rfl
  | act deed _ ih =>
      intro calls
      cases deed <;> exact ih calls
  | publish topic _ _ ihnow ihlater =>
      intro calls
      rw [uncounted_append, ihnow.uncounted_publish]
      exact ihlater calls
  | change change _ _ ihnow ihlater =>
      intro calls
      rw [uncounted, uncounted_append, ihnow.uncounted_publish]
      exact ihlater calls
  | record s topic count =>
      rintro - own calls rfl htopic
      simpa [uncounted] using htopic
  | @call s topic r due count now later on _ _ ihrun ihlater =>
      intro hdue own calls hcount htopic
      rw [uncounted, uncounted_append, ihrun, Option.bind_some]
      obtain ⟨hr, hdue⟩ := List.forall_mem_cons.1 hdue
      exact ihlater hdue (r :: own) calls (by rw [List.length_cons, hcount])
        (List.forall_mem_cons.2 ⟨hr, htopic⟩)
  | pass off _ ih => exact fun hdue => ih fun r hr => hdue r (List.mem_cons_of_mem _ hr)

/-- When every call is counted in one record, there are as many calls as the records tell together. -/
theorem countP_isCall {calls rest : List (Registration Handler)}
    (h : uncounted happenings calls = some rest) :
    calls.length + happenings.countP Happening.isCall =
      rest.length + ((completions happenings).map (·.delivered)).sum := by
  induction happenings generalizing calls with
  | nil =>
      obtain rfl := Option.some.inj h
      rfl
  | cons first later ih =>
      cases first with
      | started r =>
          have hlater := ih h
          have hcall : (Happening.started r :: later).countP Happening.isCall =
              later.countP Happening.isCall + 1 := List.countP_cons_of_pos rfl
          rw [List.length_cons] at hlater
          rw [hcall, ← Nat.add_assoc, Nat.add_right_comm]
          exact hlater
      | published signal =>
          rw [uncounted] at h
          split at h
          · next hown =>
            have hlater := ih h
            have htaken := hown.1
            have hcall : (Happening.published signal :: later).countP Happening.isCall =
                later.countP Happening.isCall := List.countP_cons_of_neg nofun
            rw [List.length_take] at htaken
            rw [List.length_drop] at hlater
            rw [hcall, completions_published, List.map_cons, List.sum_cons]
            omega
          · cases h
      | subscribed | released | cleared | changed => exact ih h

end Counting

section Closing

/-- Whether a signal whose record comes after some happenings was published at one of them, so that its
delivery takes up all that has happened from there on. -/
def EndsDelivery (s : Switchboard) (before : List Happening) (signal : Signal) : Prop :=
  ∃ begun inner, before = begun ++ inner ∧
    Course (.delivering signal.topic ((s.after begun).bus.registered signal.topic) 0)
      (s.after begun) (inner ++ [.published signal])

theorem EndsDelivery.append {first before : List Happening} {signal : Signal}
    (h : (s.after first).EndsDelivery before signal) : s.EndsDelivery (first ++ before) signal := by
  obtain ⟨begun, inner, rfl, hcourse⟩ := h
  rw [← after_append] at hcourse
  exact ⟨first ++ begun, inner, (List.append_assoc _ _ _).symm, hcourse⟩

theorem EndsDelivery.cons {first : Happening} {before : List Happening} {signal : Signal}
    (h : (s.occur first).EndsDelivery before signal) : s.EndsDelivery (first :: before) signal :=
  @EndsDelivery.append s [first] before signal h

theorem EndsDelivery.of_split {topic : Topic} {now : List Happening} {signal : Signal}
    {before later : List Happening} (hnow : now = before ++ .published signal :: later)
    (course : Course (.delivering topic (s.bus.registered topic) 0) s now)
    (h : s.EndsDelivery before signal ∨ topic = signal.topic ∧ later = []) :
    s.EndsDelivery before signal := by
  rcases h with h | ⟨rfl, rfl⟩
  · exact h
  · exact ⟨[], before, rfl, hnow ▸ course⟩

/-- Whether a stage is the delivery of a signal of a topic. -/
def Stage.IsOf (topic : Topic) : Stage → Prop
  | .acting => False
  | .delivering topic' _ _ => topic' = topic

/-- Every record in a course is that of a signal which was published in it, or else it ends the course. -/
theorem Course.endsDelivery {stage : Stage} (course : Course stage s happenings)
    {before later : List Happening} {signal : Signal}
    (h : happenings = before ++ .published signal :: later) :
    s.EndsDelivery before signal ∨ stage.IsOf signal.topic ∧ later = [] := by
  induction course generalizing before later with
  | rest s => simp at h
  | act deed _ ih =>
      cases before with
      | nil =>
          obtain ⟨rfl, -⟩ := List.cons.inj h
          cases deed
      | cons first before =>
          obtain ⟨rfl, hrest⟩ := List.cons.inj h
          rcases ih hrest with hends | ⟨hof, -⟩
          · exact .inl hends.cons
          · cases hof
  | publish topic delivery _ ihnow ihlater =>
      rcases append_eq_append_cons h with ⟨between, hnow, -⟩ | ⟨between, rfl, hlater⟩
      · exact .inl (.of_split hnow delivery (ihnow hnow))
      · rcases ihlater hlater with hends | ⟨hof, -⟩
        · exact .inl hends.append
        · cases hof
  | change change delivery _ ihnow ihlater =>
      cases before with
      | nil => cases (List.cons.inj h).1
      | cons first before =>
          obtain ⟨rfl, hrest⟩ := List.cons.inj h
          rcases append_eq_append_cons hrest with ⟨between, hnow, -⟩ | ⟨between, rfl, hlater⟩
          · have hends := EndsDelivery.of_split hnow delivery (ihnow hnow)
            exact .inl hends.cons
          · rcases ihlater hlater with hends | ⟨hof, -⟩
            · exact .inl hends.append.cons
            · cases hof
  | record s topic count =>
      cases before with
      | nil =>
          obtain ⟨hsignal, rfl⟩ := List.cons.inj h
          cases hsignal
          exact .inr ⟨rfl, rfl⟩
      | cons first before => simp at h
  | call on _ _ ihrun ihlater =>
      cases before with
      | nil => cases (List.cons.inj h).1
      | cons first before =>
          obtain ⟨rfl, hrest⟩ := List.cons.inj h
          rcases append_eq_append_cons hrest with ⟨between, hnow, -⟩ | ⟨between, rfl, hlater⟩
          · rcases ihrun hnow with hends | ⟨hof, -⟩
            · exact .inl hends.cons
            · cases hof
          · -- the record may be that of the delivery itself, which goes on behind the call
            exact (ihlater hlater).imp_left fun hends => hends.append.cons
  | pass off _ ih => exact ih h

end Closing

private theorem length_visits_after (s : Switchboard) (happenings : List Happening) :
    (s.after happenings).visits.length =
      s.visits.length + happenings.countP Happening.isCall := by
  induction happenings generalizing s with
  | nil => rfl
  | cons first later ih =>
      rw [after_cons, ih]
      cases first with
      | started r =>
          have hcall : (Happening.started r :: later).countP Happening.isCall =
              later.countP Happening.isCall + 1 := List.countP_cons_of_pos rfl
          simp only [occur, visited, List.length_append, List.length_singleton, hcall]
          omega
      | subscribed | released | cleared | changed | published => rfl

/-- Conservation of the history. Whatever handlers do, a signal that is published and comes to an end is
recorded under the number that is returned for it, behind all that happens in its delivery. In every course,
from a beginning to an end, the history has at each point the records of the deliveries that have ended since
it was cleared for the last time, in the order of their ends, and each of them is the record of a delivery
of its own. Each call of a handler is counted in the record of the signal that called it and in no other; so
a history that starts empty and is not cleared tells together how often handlers were called. -/
theorem history_lists_completions {run : Runner} (hrun : run.Acts) :
    (∀ s last command reply, execute run command s = some (last, reply) → s.Reaches last) ∧
    (∀ s last topic count, publish run topic s = some (last, count) →
      ∃ inner, Course (.delivering topic (s.bus.registered topic) 0) s
          (inner ++ [.published ⟨topic, count⟩]) ∧
        s.after (inner ++ [.published ⟨topic, count⟩]) = last) ∧
    ∀ s happenings, Course .acting s happenings →
      (∀ before later, happenings = before ++ later →
        (.cleared ∉ before → (s.after before).bus.history = s.bus.history ++ completions before) ∧
        ∀ old since, before = old ++ .cleared :: since → .cleared ∉ since →
          (s.after before).bus.history = completions since) ∧
      (∀ before later signal, happenings = before ++ .published signal :: later →
        s.EndsDelivery before signal) ∧
      uncounted happenings [] = some [] ∧
      (s.after happenings).visits.length = s.visits.length + happenings.countP Happening.isCall ∧
      (.cleared ∉ happenings → s.bus.history = [] →
        ((s.after happenings).bus.history.map (·.delivered)).sum =
          happenings.countP Happening.isCall) := by
  refine ⟨fun s last command reply => reaches_execute hrun,
    fun s last topic count => exists_course_of_publish hrun, ?_⟩
  intro s happenings course
  have hcounted : uncounted happenings [] = some [] := course.counts []
  refine ⟨?_, ?_, hcounted, length_visits_after s happenings, ?_⟩
  · intro before later _
    refine ⟨fun hkept => history_after hkept s, ?_⟩
    rintro old since rfl hsince
    exact history_after_cleared hsince s old
  · intro before later signal h
    exact (course.endsDelivery h).resolve_right fun hof => hof.1
  · intro hkept hempty
    have hcalls := countP_isCall hcounted
    rw [history_after hkept, hempty, List.nil_append]
    simpa using hcalls.symm

section Telling

/-- A handler that publishes another signal. -/
def forwarder : Registration Handler :=
  ⟨1, .schemaChanged, ⟨"forwarder", [.publish (.str "database-changed")], none⟩⟩

/-- A handler that fails. -/
def loader : Registration Handler :=
  ⟨2, .databaseChanged, ⟨"loader", [], some (.missingKey "loader")⟩⟩

def forwarding : Switchboard :=
  (ofContext .empty).after
    [.subscribed .schemaChanged forwarder.handler, .subscribed .databaseChanged loader.handler]

/-- One signal is published within the delivery of another, and something is done within both. -/
def telling (deeds : List Happening) : List Happening :=
  [.started forwarder, .started loader] ++ deeds ++
    [.published ⟨.databaseChanged, 1⟩, .published ⟨.schemaChanged, 1⟩]

theorem course_telling {deeds : List Happening}
    (course : Course .acting (forwarding.after [.started forwarder, .started loader]) deeds) :
    Course .acting forwarding (telling deeds) := by
  let called := forwarding.occur (.started forwarder)
  have hinner : Course (.delivering .databaseChanged [loader] 0) called _ :=
    .call (by decide) course (.record _ _ _)
  have hrun : Course .acting called _ := .publish .databaseChanged hinner (.rest _)
  have houter : Course (.delivering .schemaChanged [forwarder] 0) forwarding _ :=
    .call (by decide) hrun (.record _ _ _)
  have hcourse : Course .acting forwarding _ := .publish .schemaChanged houter (.rest _)
  simpa [telling] using hcourse

/-- Two calls are counted in two records. When the history is cleared within both deliveries, both records
come after that. -/
theorem history_lists_completions_of_telling :
    (runHandler 2).Acts ∧
      publish (runHandler 2) .schemaChanged forwarding = some (forwarding.after (telling []), 1) ∧
      execute (runHandler 2) (.publish (.str "schema-changed")) forwarding =
        some (forwarding.after (telling []), .ok (.delivered 1)) ∧
      Course .acting forwarding (telling []) ∧ Course .acting forwarding (telling [.cleared]) ∧
      ((forwarding.after (telling [])).bus.history.map (·.delivered)).sum = 2 ∧
      (forwarding.after (telling [])).visits.length = 2 ∧
      (forwarding.after (telling [.cleared])).bus.history =
        [⟨.databaseChanged, 1⟩, ⟨.schemaChanged, 1⟩] := by
  have hrun := acts_runHandler 2
  have hkept : Course .acting forwarding (telling []) := course_telling (.rest _)
  have hcleared : Course .acting forwarding (telling [.cleared]) :=
    course_telling (.act .clearHistory (.rest _))
  obtain ⟨-, -, hcourses⟩ := history_lists_completions hrun
  obtain ⟨-, -, -, hvisits, hsum⟩ := hcourses forwarding _ hkept
  obtain ⟨hpoints, -⟩ := hcourses forwarding _ hcleared
  refine ⟨hrun, rfl, rfl, hkept, hcleared, hsum (by simp [telling]) rfl, hvisits, ?_⟩
  exact (hpoints _ [] (List.append_nil _).symm).2 [.started forwarder, .started loader] _ rfl
    (by simp)

end Telling

end Switchboard

end ErDiagram
