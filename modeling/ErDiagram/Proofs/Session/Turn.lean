import ErDiagram.Proofs.Session.Closing
import Mathlib.Data.List.Nodup

/-!
# What one event can do

As far as rebuilds go, an event does one of five things: nothing, placing the nodes anew, beginning a
rebuild that becomes a cycle, beginning one that ends at once, or ending a cycle. `turn_occur` tells which
and says what becomes of the view, the cycles and the rebuilds that have finished.
-/

namespace ErDiagram

variable {σ : Type}

/-- What an event does to the rebuilds of a session. The first index is the ticket of the rebuild that
begins, the second the layout that is selected, the third the end of the rebuild that ends, the last the
session afterwards. -/
inductive Turn (s : Session σ) :
    Option Nat → Option LayoutKind → Option (Closing σ) → Session σ → Prop where
  | still {t : Session σ} (view : t.view = s.view) (flights : t.flights = s.flights)
      (finished : t.finished = s.finished) : Turn s none none none t
  /-- A layout is selected. The nodes stay where they are when it cannot place them. -/
  | selected {t : Session σ} (kind : LayoutKind) (diagram : Diagram)
      (view : t.view = { s.view with layout := kind, diagram := diagram })
      (placed : Layout.apply s.view.diagram kind s.view.box = .ok diagram ∨
        diagram = s.view.diagram ∧
          ∃ fault, Layout.apply s.view.diagram kind s.view.box = .error fault)
      (flights : t.flights = s.flights) (finished : t.finished = s.finished) :
      Turn s none (some kind) none t
  | began {t : Session σ} (ticket : Nat) (view : t.view = s.view.await)
      (flights : t.flights = s.flights ++ [(ticket, s.view.generation + 1)])
      (finished : t.finished = s.finished) : Turn s (some ticket) none none t
  | returned (c : Closing σ)
      (view : c.session.view = s.view.await ∨
        c.offer = .nothing ∧ c.session.view = { s.view with generation := s.view.generation + 1 })
      (generation : c.generation = s.view.generation + 1)
      (flights : c.session.flights = s.flights) (finished : c.session.finished = s.finished) :
      Turn s (some c.ticket) none (some c) c.after
  | ended (c : Closing σ) (view : c.session.view = s.view)
      (listeners : c.session.listeners = s.listeners) (notices : c.session.notices = s.notices)
      (flight : c.label ∈ s.flights)
      (flights : c.session.flights = s.flights.filter (·.1 ≠ c.ticket))
      (finished : c.session.finished = s.finished) : Turn s none none (some c) c.after

/-- A turn depends on the session only in what rebuilds have to do with. -/
theorem Turn.of_same {s s' t : Session σ} {ticket : Option Nat} {layout : Option LayoutKind}
    {closing : Option (Closing σ)} (h : Turn s' ticket layout closing t)
    (hview : s'.view = s.view) (hflights : s'.flights = s.flights)
    (hfinished : s'.finished = s.finished) (hlisteners : s'.listeners = s.listeners)
    (hnotices : s'.notices = s.notices) : Turn s ticket layout closing t := by
  cases h with
  | still view flights finished =>
      exact .still (view.trans hview) (flights.trans hflights) (finished.trans hfinished)
  | selected kind diagram view placed flights finished =>
      rw [hview] at view placed
      exact .selected kind diagram view placed (flights.trans hflights)
        (finished.trans hfinished)
  | began ticket view flights finished =>
      rw [hview] at view flights
      rw [hflights] at flights
      exact .began ticket view flights (finished.trans hfinished)
  | returned c view generation flights finished =>
      rw [hview] at view generation
      exact .returned c view generation (flights.trans hflights) (finished.trans hfinished)
  | ended c view listeners notices flight flights finished =>
      rw [hflights] at flight flights
      exact .ended c (view.trans hview) (listeners.trans hlisteners) (notices.trans hnotices)
        flight flights (finished.trans hfinished)

namespace Session

/-- A task that begins either becomes a cycle or ends at once. -/
theorem turn_begin (source : MetadataSource σ) (s : Session σ) (task : Task) :
    Turn s (some task.ticket) none (s.beginning? source task) (s.begin source task) := by
  obtain ⟨bus, subscriptions, hready⟩ := s.readied_eq task.kind
  have hview : (s.readied task.kind).view = s.view := by rw [hready]
  have hflights : (s.readied task.kind).flights = s.flights := by rw [hready]; rfl
  have hfinished : (s.readied task.kind).finished = s.finished := by rw [hready]
  have hbeginning := s.beginning source task
  generalize s.begin source task = t at hbeginning ⊢
  generalize s.beginning? source task = closing at hbeginning ⊢
  cases hbeginning with
  | empty wanted =>
      refine .returned ⟨(s.readied task.kind).emptied, task.ticket, [],
        (s.readied task.kind).view.generation + 1, .nothing⟩ (.inr ⟨rfl, ?_⟩) ?_ hflights hfinished
      · simp only [emptied, hview]
      · simp only [hview]
  | ended schema result wanted reached =>
      refine .returned (((s.readied task.kind).asked source schema).closingOf
        ((s.readied task.kind).cycleOf source task schema) result) (.inl ?_) ?_ hflights hfinished
      · exact congrArg View.await hview
      · exact congrArg (fun v => v.generation + 1) hview
  | underWay schema wanted unreached =>
      refine .began _ ?_ ?_ hfinished
      · exact congrArg View.await hview
      · simp only [flights, List.map_append, List.map_cons, List.map_nil, cycleOf, hview]
        exact congrArg (· ++ [(task.ticket, s.view.generation + 1)]) hflights

theorem cycle?_eq_some {s : Session σ} {ticket : Nat} {cycle : Cycle}
    (h : s.cycle? ticket = some cycle) : cycle ∈ s.cycles ∧ cycle.ticket = ticket := by
  refine ⟨List.mem_of_find?_eq_some h, ?_⟩
  simpa using List.find?_some h

private theorem flights_landed (s : Session σ) (ticket : Nat) :
    (s.landed ticket).flights = s.flights.filter (·.1 ≠ ticket) := by
  simp only [flights, landed, List.filter_map]
  rfl

theorem turn_ended {s : Session σ} {cycle : Cycle} (h : cycle ∈ s.cycles) (cycle' : Cycle)
    (hticket : cycle'.ticket = cycle.ticket) (hgeneration : cycle'.generation = cycle.generation)
    (source : σ) (calls : List SourceCall) (result : Except Fault Collected) :
    let landed := { s.landed cycle.ticket with source := source, calls := calls }
    Turn s none none (some (landed.closingOf cycle' result))
      (landed.closingOf cycle' result).after := by
  refine .ended _ rfl rfl rfl ?_ ?_ rfl
  · refine List.mem_map.2 ⟨cycle, h, ?_⟩
    simp only [Closing.label, closingOf, hticket, hgeneration]
  · simp only [closingOf, hticket]
    exact s.flights_landed cycle.ticket

/-- A cycle that goes on stays under way or ends. -/
theorem turn_progress (source : MetadataSource σ) {s : Session σ}
    (hunique : (s.cycles.map (·.ticket)).Nodup) (ticket : Nat) :
    Turn s none none (s.ending? source ticket) (s.progress source ticket) := by
  have hadvance := s.advance source ticket
  generalize s.progress source ticket = t at hadvance ⊢
  generalize s.ending? source ticket = closing at hadvance ⊢
  cases hadvance with
  | missing unknown => exact .still rfl rfl rfl
  | ended cycle result found reached =>
      obtain ⟨hmem, rfl⟩ := cycle?_eq_some found
      exact turn_ended hmem (cycle.goneOn (s.roundOf source cycle)) rfl rfl
        (s.roundOf source cycle).source (s.calls ++ (s.roundOf source cycle).calls) result
  | underWay cycle found unreached =>
      obtain ⟨hmem, rfl⟩ := cycle?_eq_some found
      refine .still rfl ?_ rfl
      simp only [flights, List.map_map]
      apply List.map_congr_left
      intro c hc
      by_cases hticket : c.ticket = cycle.ticket
      · obtain rfl := List.inj_on_of_nodup_map hunique hc hmem hticket
        simp only [Function.comp_apply, if_true, Cycle.goneOn]
      · simp only [Function.comp_apply, hticket, if_false]

private theorem turn_halt (s : Session σ) (ticket : Nat) (result : Except Fault Collected) :
    Turn s none none (s.halting? ticket result) (s.halt ticket result) := by
  have hhalt := s.halting ticket result
  generalize s.halt ticket result = t at hhalt ⊢
  generalize s.halting? ticket result = closing at hhalt ⊢
  cases hhalt with
  | missing unknown => exact .still rfl rfl rfl
  | ended cycle found =>
      obtain ⟨hmem, rfl⟩ := cycle?_eq_some found
      exact turn_ended hmem cycle rfl rfl s.source s.calls result

private theorem turn_selectLayout (s : Session σ) (kind : Json) :
    Turn s none (LayoutKind.choose kind).toOption none (s.selectLayout kind).1 := by
  unfold selectLayout View.selectLayout View.replace
  cases LayoutKind.choose kind with
  | error fault => exact .still rfl rfl rfl
  | ok selected =>
      simp only [bind, Except.bind, pure, Except.pure]
      cases hplaced : Layout.apply s.view.diagram selected s.view.box with
      | error fault =>
          exact .selected selected s.view.diagram rfl (.inr ⟨rfl, fault, hplaced⟩) rfl rfl
      | ok diagram =>
          simp only [present]
          cases (s.listeners.notify diagram).2.2 with
          | none => exact .selected selected diagram rfl (.inl hplaced) rfl rfl
          | some fault => exact .selected selected diagram rfl (.inl hplaced) rfl rfl

end Session

/-- What an event does to the rebuilds of a session in which no two cycles share a ticket. -/
theorem turn_occur (source : MetadataSource σ) {s : Session σ}
    (hunique : (s.cycles.map (·.ticket)).Nodup) (e : SessionEvent σ) :
    Turn s (Moment.begun? ⟨s, e⟩) (Moment.selected? ⟨s, e⟩) (Moment.closing? source ⟨s, e⟩)
      (s.occur source e) := by
  cases e with
  | request kind =>
      have hturn := s.issued.turn_begin source ⟨s.nextTicket, kind, false⟩
      exact hturn.of_same rfl rfl rfl rfl rfl
  | start task =>
      by_cases h : task ∈ s.pending
      · have hturn := (s.without task).turn_begin source task
        simp only [Moment.begun?, Moment.selected?, Moment.closing?, Session.occur, h, if_true]
        exact hturn.of_same rfl rfl rfl rfl rfl
      · simp only [Moment.begun?, Moment.selected?, Moment.closing?, Session.occur, h, if_false]
        exact .still rfl rfl rfl
  | progress ticket => exact Session.turn_progress source hunique ticket
  | halt ticket result => exact s.turn_halt ticket result
  | change inside what =>
      simp only [Moment.begun?, Moment.selected?, Moment.closing?, Session.occur, Session.change_eq]
      exact .still rfl rfl rfl
  | publish inside topic =>
      simp only [Moment.begun?, Moment.selected?, Moment.closing?, Session.occur, Session.publish_eq]
      exact .still rfl rfl rfl
  | selectLayout kind => exact Session.turn_selectLayout s kind
  | attach =>
      obtain ⟨bus, subscriptions, hattach⟩ := s.attach_eq
      simp only [Moment.begun?, Moment.selected?, Moment.closing?, Session.occur, hattach]
      exact .still rfl rfl rfl
  | unlisten name =>
      obtain ⟨listeners, hunlisten⟩ := s.unlisten_eq name
      simp only [Moment.begun?, Moment.selected?, Moment.closing?, Session.occur, hunlisten]
      exact .still rfl rfl rfl
  -- no other event has to do with rebuilds or the view
  | _ => exact .still rfl rfl rfl

end ErDiagram
