import ErDiagram.Proofs.Aggregation.Answers
import ErDiagram.Proofs.Session.Attached
import ErDiagram.Proofs.Session.Overlap

/-!
# Agreement with the context

A signal schedules a rebuild, and the rebuild reads the context only when it begins, so that many of them
may read what was selected after their signals. Nevertheless the last one to begin is never behind: the
change that comes last leaves a rebuild waiting, and what begins then reads what that change selected. So
whenever nothing waits, the rebuild that began last works on the schema that is selected now, in the context
as it is now, and in the end the view shows what the source answers for it.
-/

namespace ErDiagram

variable {σ : Type}

/-- Whether an offer is what the source answers for the schema that is wanted in a context. -/
def Offer.IsCurrent (source : MetadataSource σ) (limits : FetchLimits) (context : Context) :
    Offer → Prop
  | .nothing => context.wantedSchema = none
  | .result schema shown => context.wantedSchema = some schema ∧
      ∃ result, source.Answers limits context schema result ∧ shown = .ofCollection none result

/-- Whether a cycle works on the schema that is wanted in a context, true to the answers of the source. -/
def Cycle.IsCurrent (source : MetadataSource σ) (limits : FetchLimits) (context : Context)
    (cycle : Cycle) : Prop :=
  context.wantedSchema = some cycle.schema ∧
    cycle.work.IsTrue source limits context cycle.schema

variable {source : MetadataSource σ} {limits : FetchLimits}

namespace Session

theorem isCurrent_closingOf {s : Session σ} (h : s.brokenAssembly = none) {context : Context}
    {cycle : Cycle} (hcycle : cycle.IsCurrent source limits context)
    {result : Except Fault Collected} (hresult : cycle.work.result? = some result) :
    (s.closingOf cycle result).offer.IsCurrent source limits context := by
  obtain ⟨hwanted, htrue⟩ := hcycle
  refine ⟨hwanted, result, Work.answers_of_isTrue htrue hresult, ?_⟩
  rw [h]

variable (source) in
theorem isCurrent_cycleOf {s : Session σ} (h : s.IsAttached limits) {schema : CodeString}
    (hwanted : s.context.wantedSchema = some schema) (task : Task) :
    (s.cycleOf source task schema).IsCurrent source limits s.context := by
  refine ⟨hwanted, ?_⟩
  simp only [cycleOf, startWork, h.aggregation]
  exact Work.isTrue_start s.clock s.source

theorem isCurrent_goneOn {s : Session σ} (h : s.IsAttached limits) {cycle : Cycle}
    (hcycle : cycle.IsCurrent source limits s.context) :
    (cycle.goneOn (s.roundOf source cycle)).IsCurrent source limits s.context := by
  obtain ⟨hwanted, htrue⟩ := hcycle
  refine ⟨hwanted, ?_⟩
  have hround := Work.isTrue_advance htrue s.clock s.source
  simp only [Cycle.goneOn, roundOf, h.limits]
  exact hround

variable (source) in
/-- A task that begins leads to a cycle or an offer for the context as it is now. -/
theorem isCurrent_begin {s : Session σ} (h : s.IsAttached limits) (task : Task) :
    (∀ cycle ∈ (s.begin source task).cycles,
        cycle ∈ s.cycles ∨ cycle.IsCurrent source limits s.context) ∧
      ∀ c, s.beginning? source task = some c → c.offer.IsCurrent source limits s.context := by
  have hready := h.of_keeps (s.keeps_readied task.kind)
  have hcontext := (s.keeps_readied task.kind).context
  have hcycles : (s.readied task.kind).cycles = s.cycles := by
    obtain ⟨bus, subscriptions, heq⟩ := s.readied_eq task.kind
    rw [heq]
  rw [← hcontext, ← hcycles]
  have hbeginning := s.beginning source task
  generalize s.begin source task = t at hbeginning ⊢
  generalize s.beginning? source task = closing at hbeginning ⊢
  generalize s.readied task.kind = ready at hready hbeginning
  cases hbeginning with
  | empty wanted =>
      rw [Closing.after_cycles]
      refine ⟨fun cycle hcycle => .inl hcycle, ?_⟩
      intro c hc
      obtain rfl := Option.some.inj hc
      exact wanted
  | ended schema result wanted reached =>
      rw [Closing.after_cycles]
      refine ⟨fun cycle hcycle => .inl hcycle, ?_⟩
      intro c hc
      obtain rfl := Option.some.inj hc
      exact isCurrent_closingOf hready.assembly (isCurrent_cycleOf source hready wanted task) reached
  | underWay schema wanted unreached =>
      constructor
      · intro cycle hcycle
        rcases List.mem_append.1 hcycle with hcycle | hcycle
        · exact .inl hcycle
        · rw [List.mem_singleton.1 hcycle]
          exact .inr (isCurrent_cycleOf source hready wanted task)
      · intro c hc
        cases hc

variable (source) in
/-- A cycle that goes on leads to cycles and an offer that are as current as it was. -/
theorem isCurrent_progress {s : Session σ} (h : s.IsAttached limits) (ticket : Nat) :
    (∀ cycle ∈ (s.progress source ticket).cycles, ∃ before ∈ s.cycles,
        before.generation = cycle.generation ∧
          (before.IsCurrent source limits s.context → cycle.IsCurrent source limits s.context)) ∧
      ∀ c, s.ending? source ticket = some c → ∃ before ∈ s.cycles,
        before.generation = c.generation ∧
          (before.IsCurrent source limits s.context →
            c.offer.IsCurrent source limits s.context) := by
  have hsame : ∀ cycle ∈ s.cycles, ∃ before ∈ s.cycles, before.generation = cycle.generation ∧
      (before.IsCurrent source limits s.context → cycle.IsCurrent source limits s.context) :=
    fun cycle hcycle => ⟨cycle, hcycle, rfl, id⟩
  have hadvance := s.advance source ticket
  generalize s.progress source ticket = t at hadvance ⊢
  generalize s.ending? source ticket = closing at hadvance ⊢
  cases hadvance with
  | missing unknown =>
      refine ⟨hsame, ?_⟩
      intro c hc
      cases hc
  | ended cycle result found reached =>
      obtain ⟨hmem, -⟩ := cycle?_eq_some found
      rw [Closing.after_cycles]
      constructor
      · intro other hother
        exact hsame other (List.mem_filter.1 hother).1
      · rintro c hc
        obtain rfl := Option.some.inj hc
        refine ⟨cycle, hmem, rfl, fun hcurrent => ?_⟩
        exact isCurrent_closingOf h.assembly (isCurrent_goneOn h hcurrent) reached
  | underWay cycle found unreached =>
      obtain ⟨hmem, -⟩ := cycle?_eq_some found
      constructor
      · intro next hnext
        obtain ⟨before, hbefore, rfl⟩ := List.mem_map.1 hnext
        split
        · exact ⟨cycle, hmem, rfl, isCurrent_goneOn h⟩
        · exact hsame before hbefore
      · intro c hc
        cases hc

end Session

/-- Whether the rebuild that began last is current whenever nothing waits. -/
structure Agrees (source : MetadataSource σ) (limits : FetchLimits) (moments : List (Moment σ))
    (s : Session σ) : Prop where
  attached : s.IsAttached limits
  cycles : s.pending = [] → ∀ cycle ∈ s.cycles, cycle.generation = s.view.generation →
    cycle.IsCurrent source limits s.context
  offers : s.pending = [] → ∀ c ∈ closings source moments, c.generation = s.view.generation →
    c.offer.IsCurrent source limits s.context

namespace Agrees

variable {moments : List (Moment σ)} {s t : Session σ} {m : Moment σ}

/-- What begins now is current, and nothing that began before it is the latest any more. -/
theorem of_begin (hledger : Ledger source moments s) {before : Session σ}
    (hbefore : before.IsAttached limits) (hcycles : before.cycles = s.cycles) (task : Task)
    (hclosing : m.closing? source = before.beginning? source task)
    (hgeneration : (before.begin source task).view.generation = s.view.generation + 1) :
    Agrees source limits (moments ++ [m]) (before.begin source task) := by
  have hkeeps := before.keeps_begin source task
  obtain ⟨hbegun, hended⟩ := Session.isCurrent_begin source hbefore task
  refine ⟨hbefore.of_keeps hkeeps, ?_, ?_⟩
  · intro _ cycle hcycle hlatest
    rw [hkeeps.context]
    rcases hbegun cycle hcycle with hold | hcurrent
    · rw [hcycles] at hold
      have hle := hledger.generation_le (List.mem_append_right _ (List.mem_map.2 ⟨cycle, hold, rfl⟩))
      simp only at hle
      omega
    · exact hcurrent
  · intro _ c hc hlatest
    rw [hkeeps.context]
    rw [closings_append, hclosing] at hc
    rcases List.mem_append.1 hc with hold | hnew
    · have hle := hledger.generation_le (Closing.label_mem hold s)
      simp only at hle
      omega
    · exact hended c (Option.mem_toList.1 hnew)

/-- A cycle that goes on leaves the latest rebuild as current as it was. -/
theorem of_progress (h : Agrees source limits moments s) (ticket : Nat)
    (hclosing : m.closing? source = s.ending? source ticket)
    (hgeneration : (s.progress source ticket).view.generation = s.view.generation) :
    Agrees source limits (moments ++ [m]) (s.progress source ticket) := by
  have hkeeps := s.keeps_progress source ticket
  obtain ⟨hgone, hended⟩ := Session.isCurrent_progress source h.attached ticket
  refine ⟨h.attached.of_keeps hkeeps, ?_, ?_⟩
  · intro hpending cycle hcycle hlatest
    rw [hkeeps.context]
    rw [hkeeps.pending] at hpending
    obtain ⟨before, hbefore, hsame, hcurrent⟩ := hgone cycle hcycle
    exact hcurrent (h.cycles hpending before hbefore
      (hsame.trans (hlatest.trans hgeneration)))
  · intro hpending c hc hlatest
    rw [hkeeps.context]
    rw [hkeeps.pending] at hpending
    rw [closings_append, hclosing] at hc
    rcases List.mem_append.1 hc with hold | hnew
    · exact h.offers hpending c hold (hlatest.trans hgeneration)
    · obtain ⟨before, hbefore, hsame, hcurrent⟩ := hended c (Option.mem_toList.1 hnew)
      exact hcurrent (h.cycles hpending before hbefore
        (hsame.trans (hlatest.trans hgeneration)))

/-- What neither begins nor ends a rebuild leaves it current, unless the context changes; and then a rebuild
waits. -/
theorem of_kept (h : Agrees source limits moments s) (hattached : t.IsAttached limits)
    (hclosing : m.closing? source = none) (hcycles : t.cycles = s.cycles)
    (hgeneration : t.view.generation = s.view.generation)
    (hcontext : t.pending = [] → s.pending = [] ∧ t.context = s.context) :
    Agrees source limits (moments ++ [m]) t := by
  refine ⟨hattached, ?_, ?_⟩
  · intro hpending cycle hcycle hlatest
    obtain ⟨hnone, hsame⟩ := hcontext hpending
    rw [hsame]
    rw [hcycles] at hcycle
    exact h.cycles hnone cycle hcycle (hlatest.trans hgeneration)
  · intro hpending c hc hlatest
    obtain ⟨hnone, hsame⟩ := hcontext hpending
    rw [hsame]
    rw [closings_append, hclosing, Option.toList_none, List.append_nil] at hc
    exact h.offers hnone c hc (hlatest.trans hgeneration)

/-- Every orderly event leaves the latest rebuild current whenever nothing waits. -/
theorem occur (h : Agrees source limits moments s) (hledger : Ledger source moments s)
    {e : SessionEvent σ} (he : e.isOrderly) :
    Agrees source limits (moments ++ [⟨s, e⟩]) (s.occur source e) := by
  have hattached : (s.occur source e).IsAttached limits := h.attached.occur he
  have hgeneration := hledger.generation_occur e
  have hsame : ∀ {t : Session σ}, t.context = s.context → t.pending = s.pending →
      t.pending = [] → s.pending = [] ∧ t.context = s.context :=
    fun hcontext hpending hnone => ⟨hpending.symm.trans hnone, hcontext⟩
  have hchange : ∀ what : ContextChange, what.topic ∈ Session.rebuildTopics →
      Agrees source limits (moments ++ [⟨s, .change true what⟩])
        (s.change true what) := by
    intro what htopic
    have hpending := h.attached.pending_change htopic
    have hchanged := h.attached.change what
    rw [Session.change_eq] at hpending hchanged ⊢
    exact h.of_kept hchanged rfl rfl rfl fun hnone => absurd hnone hpending
  cases e with
  | request kind =>
      exact of_begin hledger h.attached.issued rfl ⟨s.nextTicket, kind, false⟩ rfl hgeneration
  | start task =>
      by_cases hmem : task ∈ s.pending
      · simp only [Session.occur, Moment.begun?, hmem, if_true] at hgeneration ⊢
        refine of_begin hledger (h.attached.without task) rfl task ?_ hgeneration
        simp only [Moment.closing?, hmem, if_true]
      · simp only [Session.occur, hmem, if_false] at hattached ⊢
        refine h.of_kept hattached ?_ rfl rfl (hsame rfl rfl)
        simp only [Moment.closing?, hmem, if_false]
  | progress ticket => exact h.of_progress ticket rfl hgeneration
  | selectLayout kind =>
      obtain ⟨view, listeners, notices, heq⟩ := s.selectLayout_eq kind
      have hcycles : (s.selectLayout kind).1.cycles = s.cycles := by rw [heq]
      have hkeeps := s.keeps_selectLayout kind
      exact h.of_kept hattached rfl hcycles hgeneration (hsame hkeeps.context hkeeps.pending)
  | attach =>
      obtain ⟨bus, subscriptions, heq⟩ := s.attach_eq
      have hcycles : s.attach.cycles = s.cycles := by rw [heq]
      have hkeeps := s.keeps_attach
      exact h.of_kept hattached rfl hcycles hgeneration (hsame hkeeps.context hkeeps.pending)
  | change inside what =>
      cases inside with
      | false => cases what <;> cases he
      | true =>
          cases what with
          | schema value => exact hchange (.schema value) List.mem_cons_self
          | database value =>
              exact hchange (.database value) (List.mem_cons_of_mem _ List.mem_cons_self)
          | connection value database => cases he
  | schedule kind signalled =>
      refine h.of_kept hattached rfl rfl hgeneration fun hnone => ?_
      exact absurd hnone (List.append_ne_nil_of_right_ne_nil _ (List.cons_ne_nil _ _))
  | unlisten name =>
      obtain ⟨listeners, heq⟩ := s.unlisten_eq name
      have hcycles : (s.unlisten name).cycles = s.cycles := by rw [heq]
      have hkeeps := s.keeps_unlisten name
      exact h.of_kept hattached rfl hcycles hgeneration (hsame hkeeps.context hkeeps.pending)
  | reach time => exact h.of_kept hattached rfl rfl hgeneration (hsame rfl rfl)
  | listen name failure removes => exact h.of_kept hattached rfl rfl hgeneration (hsame rfl rfl)
  | _ => cases he

variable {context : Context} {layout : LayoutKind} {box : NodeBox} {state : σ}

/-- The latest rebuild is current after every orderly run, whenever nothing waits. -/
theorem of_run {allowed : Moment σ → Prop} (hallowed : ∀ m, allowed m → m.event.isOrderly)
    (run : Run source allowed (Session.opened limits context layout box state) moments s) :
    Agrees source limits moments s := by
  induction run with
  | nil =>
      refine ⟨Session.isAttached_opened limits context layout box state, ?_, ?_⟩
      · intro _ cycle hcycle
        cases hcycle
      · intro _ c hc
        cases hc
  | snoc run e h ih => exact ih.occur (Ledger.of_run run) (hallowed _ h)

end Agrees

/-- Whether a view tells what came of collecting the tables of a schema. -/
inductive View.Tells (v : View) : Except Fault Collected → Prop
  /-- The list of tables was refused; the wording of the cause is told as it is. -/
  | refused {schema : CodeString} {cause : Fault} (phase : v.phase = .error)
      (error : v.error = some cause.message) (diagnostics : v.diagnostics = [])
      (diagram : v.diagram = .empty) (network : v.network = .empty) :
      Tells v (.error (.listing schema cause))
  /-- Anything else went wrong; it is told by its kind where it has no wording. -/
  | failed {fault : Fault} (other : ∀ schema cause, fault ≠ .listing schema cause)
      (phase : v.phase = .error)
      (error : v.error = some (if fault.message = "" then .whole fault.kindName else fault.message))
      (diagnostics : v.diagnostics = []) (diagram : v.diagram = .empty)
      (network : v.network = .empty) : Tells v (.error fault)
  | collected {collected : Collected} (phase : v.phase = .ready) (error : v.error = none)
      (diagnostics : v.diagnostics = collected.diagnostics)
      (network : v.network = .ofDiagram (.assemble collected.tables))
      (placed : Layout.apply (.assemble collected.tables) v.layout v.box = .ok v.diagram) :
      Tells v (.ok collected)

theorem Offer.ShownBy.diagram_eq_empty {offer : Offer} {v : View} (h : offer.ShownBy v)
    (hempty : offer.diagram = .empty) : v.diagram = .empty ∧ v.network = .empty := by
  have hplaced := h.placed
  have hnetwork := h.network
  rw [hempty] at hplaced hnetwork
  exact ⟨(Except.ok.inj hplaced).symm, hnetwork⟩

theorem Offer.ShownBy.tells {schema : CodeString} {result : Except Fault Collected} {v : View}
    (h : (Offer.result schema (.ofCollection none result)).ShownBy v) : v.Tells result := by
  cases result with
  | ok collected => exact .collected h.phase h.error h.diagnostics h.network h.placed
  | error fault =>
      obtain ⟨hdiagram, hnetwork⟩ := h.diagram_eq_empty rfl
      by_cases hlisting : ∃ schema cause, fault = .listing schema cause
      · obtain ⟨schema, cause, rfl⟩ := hlisting
        exact .refused h.phase h.error h.diagnostics hdiagram hnetwork
      · rw [not_exists] at hlisting
        have hother : ∀ schema cause, fault ≠ .listing schema cause :=
          fun schema cause hfault => hlisting schema ⟨cause, hfault⟩
        have herror : v.error = some (CycleResult.errorText fault) := h.error
        rw [CycleResult.errorText_eq_text hother] at herror
        exact .failed hother h.phase herror h.diagnostics hdiagram hnetwork

namespace Session

end Session

end ErDiagram
