import ErDiagram.Proofs.Aggregation.Answers
import ErDiagram.Proofs.Session.Console
import ErDiagram.Proofs.Session.Ledger
import ErDiagram.Proofs.Session.Subscribed

/-!
# Every trigger leads to one rebuild

A rebuild is triggered by a call that asks for it, and by a signal that the view hears. Each trigger issues
one ticket, whatever attached and detached the view before, and every ticket leads to one generation once
nothing waits. So the generation counts the triggers.
-/

namespace ErDiagram

variable {σ : Type} {source : MetadataSource σ}

/-- Whether a moment triggers a rebuild: it is asked for, or a signal that the view hears is published inside
a running program. -/
def Moment.isTrigger (m : Moment σ) : Bool :=
  match m.event with
  | .request _ | .schedule _ _ => true
  | .change true what => m.session.hears what.topic
  | .publish true topic => m.session.hears topic
  | _ => false

theorem Session.IsBound.audience {s : Session σ} (h : s.IsBound) (inside : Bool) (topic : Topic) :
    s.audience inside topic = if inside && s.hears topic then 1 else 0 := by
  rw [Session.audience, h.count]
  cases inside with
  | true => rw [if_pos rfl, Bool.true_and]
  | false => rfl

/-- A trigger issues a ticket, and nothing else does. -/
theorem Session.IsBound.nextTicket_occur {s : Session σ} (h : s.IsBound) (source : MetadataSource σ)
    (e : SessionEvent σ) :
    (s.occur source e).nextTicket =
      s.nextTicket + if Moment.isTrigger ⟨s, e⟩ then 1 else 0 := by
  cases e with
  | request kind => exact (s.issued.keeps_begin source ⟨s.nextTicket, kind, false⟩).nextTicket
  | start task =>
      simp only [occur]
      split
      · exact ((s.without task).keeps_begin source task).nextTicket
      · rfl
  | progress ticket => exact (s.keeps_progress source ticket).nextTicket
  | halt ticket result => exact (s.keeps_halt ticket result).nextTicket
  | change inside what =>
      simp only [occur, change_eq, signalled, h.audience]
      cases inside <;> rfl
  | publish inside topic =>
      simp only [occur, publish_eq, signalled, h.audience]
      cases inside <;> rfl
  | selectLayout kind => exact (s.keeps_selectLayout kind).nextTicket
  | attach => exact s.keeps_attach.nextTicket
  | unlisten name => exact (s.keeps_unlisten name).nextTicket
  | _ => rfl

private theorem nextTicket_eq_countP {allowed : Moment σ → Prop} {limits : FetchLimits} {context : Context}
    {layout : LayoutKind} {box : NodeBox} {state : σ} {moments : List (Moment σ)} {s : Session σ}
    (run : Run source allowed (Session.opened limits context layout box state) moments s) :
    s.nextTicket = moments.countP Moment.isTrigger := by
  induction run with
  | nil => rfl
  | snoc run e allowed ih =>
      rw [(Subscribed.of_run run).bound.nextTicket_occur, ih, List.countP_append,
        List.countP_singleton]

namespace Session

private theorem keeps_settle (source : MetadataSource σ) (s : Session σ) :
    Keeps { s with pending := [] } (s.settle source) := by
  have hbegin : ∀ (tasks : List Task) (t : Session σ), Keeps t (tasks.foldl (begin source) t) := by
    intro tasks
    induction tasks with
    | nil => exact .refl
    | cons task rest ih => exact fun t => (t.keeps_begin source task).trans (ih _)
  have hprogress : ∀ (tickets : List Nat) (t : Session σ),
      Keeps t (tickets.foldl (progress source) t) := by
    intro tickets
    induction tickets with
    | nil => exact .refl
    | cons ticket rest ih => exact fun t => (t.keeps_progress source ticket).trans (ih _)
  exact (hbegin s.pending _).trans (hprogress _ _)

/-- A change whose signal the view does not hear concerns the context and the history alone. -/
theorem IsBound.change_unheard {s : Session σ} (h : s.IsBound) (inside : Bool) {what : ContextChange}
    (hunheard : s.hears what.topic = false) :
    s.change inside what =
      { s with
        context := s.context.apply what
        bus := s.bus.record ⟨what.topic, 0⟩ } := by
  simp [change_eq, h.audience, h.count, hunheard]

theorem IsBound.publish_unheard {s : Session σ} (h : s.IsBound) (inside : Bool) {topic : Topic}
    (hunheard : s.hears topic = false) :
    s.publish inside topic = ({ s with bus := s.bus.record ⟨topic, 0⟩ }, 0) := by
  simp [publish_eq, h.audience, h.count, hunheard]

end Session

/-- A view that nothing has detached since it was attached last hears the topics that ask for a rebuild. -/
theorem Subscribed.hears {moments : List (Moment σ)} {s : Session σ} (h : Subscribed moments s)
    (topic : Topic) :
    s.hears topic = (listening moments && Session.rebuildTopics.contains topic) := by
  have hheld : (!s.subscriptions.isEmpty) = listening moments := by
    rw [Bool.eq_iff_iff, ← h.held]
    simp
  rw [Session.hears, hheld]

/-- After any run the generation and the tasks that wait count the triggers, and settling leaves none
waiting. The view holds one handle for each topic that asks for a rebuild, or none, and no other handler is
on the bus; a signal that it does not hear brings nothing about. -/
theorem generation_counts_triggers (source : MetadataSource σ) {allowed : Moment σ → Prop}
    {limits : FetchLimits} {context : Context} {layout : LayoutKind} {box : NodeBox} {state : σ}
    {moments : List (Moment σ)} {s : Session σ}
    (run : Run source allowed (Session.opened limits context layout box state) moments s) :
    s.view.generation + s.pending.length = moments.countP Moment.isTrigger ∧
      ((s.settle source).pending = [] ∧
        (s.settle source).view.generation = moments.countP Moment.isTrigger) ∧
      Attachment s.subscriptions s.bus.registrations ∧
      (∀ topic, s.bus.count topic =
        if listening moments ∧ topic ∈ [Topic.schemaChanged, .databaseChanged] then 1 else 0) ∧
      (∀ inside what, listening moments = false ∨ what.topic = .connectionChanged →
        s.change inside what =
          { s with
            context := s.context.apply what
            bus := s.bus.record ⟨what.topic, 0⟩ }) ∧
      ∀ inside topic, listening moments = false ∨ topic = .connectionChanged →
        s.publish inside topic = ({ s with bus := s.bus.record ⟨topic, 0⟩ }, 0) := by
  have hledger := Ledger.of_run run
  have hsubscribed := Subscribed.of_run run
  have htickets := nextTicket_eq_countP run
  have hunheard : ∀ topic, listening moments = false ∨ topic = .connectionChanged →
      s.hears topic = false := by
    intro topic h
    rw [hsubscribed.hears]
    rcases h with h | rfl
    · rw [h, Bool.false_and]
    · exact Bool.and_false _
  refine ⟨?_, ?_, hsubscribed.bound, ?_, ?_, ?_⟩
  · rw [← hledger.nextTicket_eq, htickets]
  · have hkeeps := s.keeps_settle source
    obtain ⟨events, hsettle⟩ : s.Reaches source (s.settle source) := s.reaches_settle
    refine ⟨hkeeps.pending, ?_⟩
    have hsettled := (hledger.through events).nextTicket_eq
    rw [← hsettle, hkeeps.pending] at hsettled
    exact hsettled.symm.trans (hkeeps.nextTicket.trans htickets)
  · intro topic
    rw [hsubscribed.bound.count, hsubscribed.hears]
    simp [Session.rebuildTopics]
  · exact fun inside what h => hsubscribed.bound.change_unheard inside (hunheard _ h)
  · exact fun inside topic h => hsubscribed.bound.publish_unheard inside (hunheard _ h)

/-- A view is detached, misses a switch, and is attached twice; it hears two switches but no connection, and
is then detached and activated anew. -/
def Session.onAndOff : List (SessionEvent Unit) :=
  [.detach, .change true (.schema (some "crm")), .attach, .attach,
    .change true (.schema (some "public")), .change true (.connection (some 3) none),
    .change true (.database (some 7)), .detach, .publish true .schemaChanged, .request .rebuild,
    .schedule .activate false]

/-- Four of these calls and signals are triggers. -/
theorem generation_counts_triggers_of_onAndOff :
    let first : Session Unit :=
      .opened ⟨8, none, by decide⟩ ⟨some "public", none, none, none⟩ .grid .standard ()
    let source := MetadataSource.prompt [⟨"orders", none⟩, ⟨"users", none⟩]
    let s := first.through source Session.onAndOff
    s.bus.count .schemaChanged = 0 ∧ (s.settle source).view.generation = 4 ∧
      (s.settle source).bus.count .schemaChanged = 1 := by
  intro first source s
  have run : Run source (fun _ => True) first _ s :=
    Run.nil.through Session.onAndOff fun _ _ => trivial
  obtain ⟨-, ⟨-, hgeneration⟩, -, hcount, -⟩ := generation_counts_triggers source run
  refine ⟨?_, ?_, by decide +kernel⟩
  · rw [hcount]
    decide +kernel
  · rw [hgeneration]
    decide +kernel

end ErDiagram
