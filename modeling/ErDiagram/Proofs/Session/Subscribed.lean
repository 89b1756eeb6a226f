import ErDiagram.Proofs.Session.Frame

/-!
# How a view is subscribed

A view holds a handle for each topic whose signals ask for a rebuild, or it holds none. The handlers of the
bus are those of its handles. Attaching a view that is attached changes nothing, an activation attaches it
when it begins, and detaching it releases both handles; so whether a view is attached is known from what
attached or detached it last.
-/

namespace ErDiagram

variable {σ : Type} {source : MetadataSource σ}

/-- How the handles of a view and the handlers of the bus belong together: there are none, or there is one
for each topic whose signals ask for a rebuild. -/
inductive Attachment : List Subscription → List (Registration Reaction) → Prop where
  | none : Attachment [] []
  | both (key : Nat) : Attachment
      [⟨.schemaChanged, key, true⟩, ⟨.databaseChanged, key + 1, true⟩]
      [⟨key, .schemaChanged, .rebuild⟩, ⟨key + 1, .databaseChanged, .rebuild⟩]

/-- Whether a moment attaches the view or detaches it. -/
def Moment.attaches? (m : Moment σ) : Option Bool :=
  match m.event with
  | .attach | .request .activate => some true
  | .detach => some false
  | .start task =>
    if task ∈ m.session.pending ∧ task.kind = .activate then some true else none
  | _ => none

/-- Whether what attached or detached the view last attached it. A view is attached at first. -/
def listening (moments : List (Moment σ)) : Bool :=
  (moments.filterMap Moment.attaches?).getLast?.getD true

private theorem listening_append (moments : List (Moment σ)) (m : Moment σ) :
    listening (moments ++ [m]) = m.attaches?.getD (listening moments) := by
  unfold listening
  rw [List.filterMap_append]
  cases h : m.attaches? <;> simp [List.filterMap, h]

namespace Session

/-- The attachment of a view to the bus of its session. -/
def IsBound (s : Session σ) : Prop :=
  Attachment s.subscriptions s.bus.registrations

def hears (s : Session σ) (topic : Topic) : Bool :=
  !s.subscriptions.isEmpty && rebuildTopics.contains topic

/-- Every topic that a view hears has one handler, and no other topic has any. -/
theorem IsBound.count {s : Session σ} (h : s.IsBound) (topic : Topic) :
    s.bus.count topic = if s.hears topic then 1 else 0 := by
  unfold IsBound at h
  unfold Bus.count Bus.registered hears
  generalize s.bus.registrations = registrations at h ⊢
  generalize s.subscriptions = subscriptions at h ⊢
  cases h with
  | none => rfl
  | both key => cases topic <;> rfl

theorem IsBound.attach {s : Session σ} (h : s.IsBound) :
    s.attach.IsBound ∧ s.attach.subscriptions ≠ [] := by
  obtain ⟨limits, clock, context, ⟨registrations, nextKey, history⟩, subscriptions⟩ := s
  unfold IsBound at h
  simp only at h
  cases h with
  | none => exact ⟨.both nextKey, List.cons_ne_nil _ _⟩
  | both key => exact ⟨.both key, List.cons_ne_nil _ _⟩

theorem IsBound.detach {s : Session σ} (h : s.IsBound) :
    s.detach.IsBound ∧ s.detach.subscriptions = [] := by
  obtain ⟨limits, clock, context, ⟨registrations, nextKey, history⟩, subscriptions⟩ := s
  unfold IsBound at h
  simp only at h
  cases h with
  | none => exact ⟨.none, rfl⟩
  | both key =>
      refine ⟨?_, rfl⟩
      simp [IsBound, Session.detach, Subscription.release, Bus.remove, Attachment.none]

/-- Whether two sessions have the same handles and the same handlers. -/
structure SameHandlers (s t : Session σ) : Prop where
  registrations : t.bus.registrations = s.bus.registrations
  subscriptions : t.subscriptions = s.subscriptions

theorem SameHandlers.refl (s : Session σ) : SameHandlers s s :=
  ⟨rfl, rfl⟩

theorem SameHandlers.trans {s t u : Session σ} (h : SameHandlers s t) (h' : SameHandlers t u) :
    SameHandlers s u :=
  ⟨h'.registrations.trans h.registrations, h'.subscriptions.trans h.subscriptions⟩

theorem SameHandlers.isBound {s t : Session σ} (h : SameHandlers s t) (hs : s.IsBound) :
    t.IsBound := by
  unfold IsBound
  rw [h.registrations, h.subscriptions]
  exact hs

theorem SameHandlers.after {s : Session σ} {c : Closing σ} (h : SameHandlers s c.session) :
    SameHandlers s c.after := by
  obtain ⟨view, listeners, notices, finished, hafter⟩ := c.after_eq
  rw [hafter]
  exact ⟨h.registrations, h.subscriptions⟩

theorem sameHandlers_begin (source : MetadataSource σ) (s : Session σ) (task : Task) :
    SameHandlers (s.readied task.kind) (s.begin source task) := by
  have hbeginning := s.beginning source task
  generalize s.begin source task = t at hbeginning ⊢
  generalize s.beginning? source task = closing at hbeginning
  cases hbeginning with
  | empty wanted => exact .after ⟨rfl, rfl⟩
  | ended schema result wanted reached => exact .after ⟨rfl, rfl⟩
  | underWay schema wanted unreached => exact ⟨rfl, rfl⟩

private theorem sameHandlers_progress (source : MetadataSource σ) (s : Session σ) (ticket : Nat) :
    SameHandlers s (s.progress source ticket) := by
  have hadvance := s.advance source ticket
  generalize s.progress source ticket = t at hadvance ⊢
  generalize s.ending? source ticket = closing at hadvance
  cases hadvance with
  | missing unknown => exact .refl s
  | ended cycle result found reached => exact .after ⟨rfl, rfl⟩
  | underWay cycle found unreached => exact ⟨rfl, rfl⟩

private theorem sameHandlers_halt (s : Session σ) (ticket : Nat) (result : Except Fault Collected) :
    SameHandlers s (s.halt ticket result) := by
  have hhalt := s.halting ticket result
  generalize s.halt ticket result = t at hhalt ⊢
  generalize s.halting? ticket result = closing at hhalt
  cases hhalt with
  | missing unknown => exact .refl s
  | ended cycle found => exact .after ⟨rfl, rfl⟩

theorem attach_of_same (s : Session σ) {t : Session σ} (hbus : t.bus = s.bus)
    (hsubscriptions : t.subscriptions = s.subscriptions) : SameHandlers s.attach t.attach := by
  simp only [attach, hsubscriptions]
  split
  · simp only [rebuildTopics, List.foldl_cons, List.foldl_nil, subscribe, Bus.subscribe, hbus,
      hsubscriptions]
    exact ⟨rfl, rfl⟩
  · exact ⟨congrArg Bus.registrations hbus, hsubscriptions⟩

/-- Handlers come and go by what attaches or detaches the view. -/
theorem sameHandlers_occur (source : MetadataSource σ) (s : Session σ) (e : SessionEvent σ) :
    SameHandlers
      (match Moment.attaches? ⟨s, e⟩ with
        | some true => s.attach
        | some false => s.detach
        | none => s)
      (s.occur source e) := by
  cases e with
  | request kind =>
      have hbegin := s.issued.sameHandlers_begin source ⟨s.nextTicket, kind, false⟩
      cases kind with
      | activate => exact (s.attach_of_same (t := s.issued) rfl rfl).trans hbegin
      | rebuild => exact .trans (t := s.issued) ⟨rfl, rfl⟩ hbegin
  | start task =>
      simp only [Moment.attaches?, occur]
      by_cases hmem : task ∈ s.pending
      · have hbegin := (s.without task).sameHandlers_begin source task
        simp only [hmem, true_and, if_true]
        cases hkind : task.kind with
        | activate =>
            rw [hkind] at hbegin
            exact (s.attach_of_same (t := s.without task) rfl rfl).trans hbegin
        | rebuild =>
            rw [hkind] at hbegin
            exact .trans (t := s.without task) ⟨rfl, rfl⟩ hbegin
      · simp only [hmem, false_and, if_false]
        exact .refl s
  | progress ticket => exact s.sameHandlers_progress source ticket
  | halt ticket result => exact s.sameHandlers_halt ticket result
  | change inside what =>
      simp only [Moment.attaches?, occur, change_eq]
      exact ⟨rfl, rfl⟩
  | publish inside topic =>
      simp only [Moment.attaches?, occur, publish_eq]
      exact ⟨rfl, rfl⟩
  | selectLayout kind =>
      obtain ⟨view, listeners, notices, h⟩ := s.selectLayout_eq kind
      simp only [Moment.attaches?, occur, h]
      exact ⟨rfl, rfl⟩
  | unlisten name =>
      obtain ⟨listeners, h⟩ := s.unlisten_eq name
      simp only [Moment.attaches?, occur, h]
      exact ⟨rfl, rfl⟩
  | _ => exact ⟨rfl, rfl⟩

end Session

/-- What the handles and the handlers of a session are after some moments. -/
structure Subscribed (moments : List (Moment σ)) (s : Session σ) : Prop where
  bound : s.IsBound
  held : s.subscriptions ≠ [] ↔ listening moments = true

namespace Subscribed

theorem occur {moments : List (Moment σ)} {s : Session σ} (h : Subscribed moments s)
    (e : SessionEvent σ) : Subscribed (moments ++ [⟨s, e⟩]) (s.occur source e) := by
  have hsame := s.sameHandlers_occur source e
  have hlistening := listening_append moments ⟨s, e⟩
  cases hattaches : Moment.attaches? ⟨s, e⟩ with
  | none =>
      rw [hattaches] at hsame hlistening
      refine ⟨hsame.isBound h.bound, ?_⟩
      rw [hsame.subscriptions, hlistening]
      exact h.held
  | some attaches =>
      rw [hattaches] at hsame hlistening
      cases attaches with
      | true =>
          obtain ⟨hbound, hheld⟩ := h.bound.attach
          refine ⟨hsame.isBound hbound, ?_⟩
          rw [hsame.subscriptions, hlistening]
          exact iff_of_true hheld rfl
      | false =>
          obtain ⟨hbound, hreleased⟩ := h.bound.detach
          refine ⟨hsame.isBound hbound, ?_⟩
          rw [hsame.subscriptions, hlistening, hreleased]
          exact iff_of_false (fun hne => hne rfl) Bool.false_ne_true

theorem of_run {allowed : Moment σ → Prop} {limits : FetchLimits} {context : Context}
    {layout : LayoutKind} {box : NodeBox} {state : σ} {moments : List (Moment σ)} {s : Session σ}
    (run : Run source allowed (Session.opened limits context layout box state) moments s) :
    Subscribed moments s := by
  induction run with
  | nil => exact ⟨.both 1, iff_of_true (List.cons_ne_nil _ _) rfl⟩
  | snoc run e allowed ih => exact ih.occur e

end Subscribed

end ErDiagram
