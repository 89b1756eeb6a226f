import ErDiagram.Proofs.Aggregation.Sequential
import ErDiagram.Proofs.Session.Closing
import ErDiagram.Session.Command

/-!
# Rebuilds on their own

When nothing waits or is under way, a rebuild that is asked for and awaited is the only one. The session then
goes from event to event as its work does when it is followed on a clock of its own, so that the rebuild
ends with what the work comes to. `perform_await` says so of a console.
-/

namespace ErDiagram

variable {σ : Type} {source : MetadataSource σ}

namespace Session

/-- Whether nothing waits, is under way or is broken in a session. -/
structure AtRest (s : Session σ) : Prop where
  pending : s.pending = []
  cycles : s.cycles = []
  aggregation : s.brokenAggregation = none
  assembly : s.brokenAssembly = none
  /-- The tickets of the rebuilds that have finished are not issued again. -/
  issued : ∀ finish ∈ s.finished, finish.ticket < s.nextTicket

theorem AtRest.attach {s : Session σ} (h : s.AtRest) : s.attach.AtRest := by
  obtain ⟨bus, subscriptions, heq⟩ := s.attach_eq
  rw [heq]
  exact ⟨h.pending, h.cycles, h.aggregation, h.assembly, h.issued⟩

theorem AtRest.opened (limits : FetchLimits) (context : Context) (layout : LayoutKind)
    (box : NodeBox) (state : σ) : (opened limits context layout box state).AtRest :=
  AtRest.attach ⟨rfl, rfl, rfl, rfl, fun _ hmem => nomatch hmem⟩

/-- Whether a session is another one after the end of its only rebuild. -/
def EndsAs (s : Session σ) (cycle : Cycle) (result : Except Fault Collected) (t : Session σ) :
    Prop :=
  ∃ c : Closing σ, t = c.after ∧ c.session.view = s.view ∧ c.session.pending = [] ∧
    c.session.cycles = [] ∧ c.ticket = cycle.ticket ∧ c.generation = cycle.generation ∧
    c.offer = .result cycle.schema (.ofCollection s.brokenAssembly result)

theorem beginPending_of_none {s : Session σ} (h : s.pending = []) : s.beginPending source = s := by
  rw [beginPending, h, List.foldl_nil, ← h]

private theorem hasFinished_after (c : Closing σ) : hasFinished c.ticket c.after = true := by
  rw [hasFinished, finish?, c.after_finished, List.find?_append, List.find?_singleton]
  cases c.session.finished.find? (·.ticket = c.ticket) <;> simp

theorem EndsAs.hasFinished {s t : Session σ} {cycle : Cycle} {result : Except Fault Collected}
    (h : s.EndsAs cycle result t) : hasFinished cycle.ticket t = true := by
  obtain ⟨c, rfl, -, -, -, hticket, -, -⟩ := h
  rw [← hticket]
  exact hasFinished_after c

theorem EndsAs.settle {s t : Session σ} {cycle : Cycle} {result : Except Fault Collected}
    (h : s.EndsAs cycle result t) : t.settle source = t := by
  obtain ⟨c, rfl, -, hpending, hcycles, -⟩ := h
  have hnone : c.after.pending = [] := by
    obtain ⟨view, listeners, notices, finished, heq⟩ := c.after_eq
    rw [heq]
    exact hpending
  have hcycles : c.after.cycles = [] := by rwa [c.after_cycles]
  rw [Session.settle, beginPending_of_none hnone, progressAll, hcycles]
  rfl

theorem progressAll_solitary {s : Session σ} {cycle : Cycle} (hcycles : s.cycles = [cycle]) :
    s.progressAll source = s.progress source cycle.ticket := by
  rw [progressAll, hcycles]
  rfl

private theorem settle_solitary {s : Session σ} {cycle : Cycle} (hpending : s.pending = [])
    (hcycles : s.cycles = [cycle]) : s.settle source = s.progress source cycle.ticket := by
  rw [Session.settle, beginPending_of_none hpending, progressAll_solitary hcycles]

section Progress

variable {s : Session σ} {cycle : Cycle}

theorem progress_open (hcycles : s.cycles = [cycle])
    (hopen : (s.roundOf source cycle).work.result? = none) :
    s.progress source cycle.ticket =
      { s.drawn (s.roundOf source cycle) with
        cycles := [cycle.goneOn (s.roundOf source cycle)] } := by
  have hfound : s.cycle? cycle.ticket = some cycle := by simp [cycle?, hcycles]
  simp only [progress_eq, hfound, hopen, hcycles, List.map_cons, List.map_nil, if_true]

theorem progress_ended (hpending : s.pending = []) (hcycles : s.cycles = [cycle])
    {result : Except Fault Collected}
    (hended : (s.roundOf source cycle).work.result? = some result) :
    s.EndsAs cycle result (s.progress source cycle.ticket) := by
  have hfound : s.cycle? cycle.ticket = some cycle := by simp [cycle?, hcycles]
  have hlanded : (s.landed cycle.ticket).cycles = [] := by simp [landed, hcycles]
  simp only [progress_eq, hfound, hended, concludeWork_eq]
  exact ⟨_, rfl, rfl, hpending, hlanded, rfl, rfl, rfl⟩

end Progress

/-- Going from event to event until the only rebuild has ended is following its work. The induction is on
the fuel of the followed work, of which each event takes one. -/
theorem untilHolds_solitary {fuel : Nat} {s : Session σ} {cycle : Cycle} {report : WorkReport σ}
    (hpending : s.pending = []) (hcycles : s.cycles = [cycle]) (hopen : cycle.work.result? = none)
    (hunfinished : hasFinished cycle.ticket s = false)
    (hreport : Work.follow source s.limits s.context fuel s.clock
      ⟨cycle.work, s.source, cycle.calls⟩ = some report) :
    s.EndsAs cycle report.result
      (untilHolds source (hasFinished cycle.ticket) (fuel + 1) s) := by
  induction fuel generalizing s cycle with
  | zero =>
      obtain ⟨left, due, hfuel, -⟩ := Work.follow_eq_some hopen hreport
      cases hfuel
  | succ fuel ih =>
      obtain ⟨left, due, hfuel, hdue, hnext⟩ := Work.follow_eq_some hopen hreport
      obtain rfl := Nat.succ.inj hfuel
      let later : Session σ := { s with clock := due }
      have hsession : s.nextDue? = some due := by simp [nextDue?, hcycles, hdue]
      have harrive : s.arrive source due = later.progress source cycle.ticket :=
        progressAll_solitary (s := later) hcycles
      rw [untilHolds, hunfinished, if_neg Bool.false_ne_true, hsession]
      simp only [harrive]
      cases hround : (later.roundOf source cycle).work.result? with
      | some result =>
          have hended : s.EndsAs cycle result (later.progress source cycle.ticket) :=
            progress_ended (s := later) hpending hcycles hround
          have hresult : report.result = result := Work.result_of_follow hround hnext
          rw [untilHolds, hended.hasFinished, if_pos rfl, hresult]
          exact hended
      | none =>
          have hlast := @ih
            { later.drawn (later.roundOf source cycle) with
              cycles := [cycle.goneOn (later.roundOf source cycle)] }
            (cycle.goneOn (later.roundOf source cycle)) hpending rfl hround hunfinished hnext
          rw [progress_open (s := later) hcycles hround]
          exact hlast

/-- Waiting for the end of the only rebuild is following its work from now on. -/
theorem awaitUntil_solitary {s : Session σ} {cycle : Cycle} {report : WorkReport σ}
    (hpending : s.pending = []) (hcycles : s.cycles = [cycle])
    (hunfinished : hasFinished cycle.ticket s = false)
    (hreport :
      let round := s.roundOf source cycle
      Work.follow source s.limits s.context round.work.eventsLeft s.clock
        ⟨round.work, round.source, cycle.calls ++ round.calls⟩ = some report) :
    s.EndsAs cycle report.result (s.awaitUntil source (hasFinished cycle.ticket)) := by
  rw [awaitUntil, hunfinished, if_neg Bool.false_ne_true, settle_solitary hpending hcycles]
  cases hround : (s.roundOf source cycle).work.result? with
  | some result =>
      have hended : s.EndsAs cycle result (s.progress source cycle.ticket) :=
        progress_ended hpending hcycles hround
      rw [untilHolds, hended.hasFinished, if_pos rfl, Work.result_of_follow hround hreport]
      exact hended
  | none =>
      have hlast := @untilHolds_solitary σ source (s.roundOf source cycle).work.eventsLeft
        { s.drawn (s.roundOf source cycle) with cycles := [cycle.goneOn (s.roundOf source cycle)] }
        (cycle.goneOn (s.roundOf source cycle)) report hpending rfl hround hunfinished hreport
      have hleft : ({ s.drawn (s.roundOf source cycle) with
          cycles := [cycle.goneOn (s.roundOf source cycle)] } : Session σ).eventsLeft =
          (s.roundOf source cycle).work.eventsLeft :=
        Nat.zero_add _
      simp only [progress_open hcycles hround, hleft]
      exact hlast

theorem AtRest.hasFinished {s : Session σ} (h : s.AtRest) :
    hasFinished s.nextTicket s = false := by
  rw [Session.hasFinished, finish?, Option.isSome_eq_false_iff, Option.isNone_iff_eq_none,
    List.find?_eq_none]
  intro finish hmem
  have hlt := h.issued finish hmem
  simp only [decide_eq_true_eq]
  omega

/-- A rebuild that is awaited in a session at rest ends with what its work comes to. -/
theorem request_solitary {s : Session σ} (hrest : s.AtRest) (kind : TaskKind) {schema : CodeString}
    (hwanted : s.context.wantedSchema = some schema) {report : WorkReport σ}
    (hreport : Work.runFrom source s.limits s.context schema s.clock s.source = some report) :
    ∃ t : Session σ, t.view = s.view.await ∧ t.brokenAssembly = none ∧
      t.EndsAs (s.cycleOf source ⟨s.nextTicket, kind, false⟩ schema) report.result
        ((s.request source kind).1.awaitUntil source (Session.hasFinished s.nextTicket)) := by
  obtain ⟨bus, subscriptions, hready⟩ := s.issued.readied_eq kind
  let ready : Session σ := { s.issued with bus := bus, subscriptions := subscriptions }
  let cycle := s.cycleOf source ⟨s.nextTicket, kind, false⟩ schema
  have hstart : s.startWork source schema =
      Work.start source s.context schema s.clock s.source := by
    simp only [startWork, hrest.aggregation]
  have hbegin : (s.request source kind).1 =
      ready.beginCycle source ⟨s.nextTicket, kind, false⟩ schema := by
    have hschema : ready.context.wantedSchema = some schema := hwanted
    show s.issued.begin source ⟨s.nextTicket, kind, false⟩ = _
    rw [begin_eq]
    simp only [hready]
    rw [hschema]
  refine ⟨ready.asked source schema, rfl, hrest.assembly, ?_⟩
  rw [hbegin, beginCycle_eq]
  have hcycle : ready.cycleOf source ⟨s.nextTicket, kind, false⟩ schema = cycle := rfl
  rw [hcycle]
  cases hresult : cycle.work.result? with
  | some result =>
      have hended : (ready.asked source schema).EndsAs cycle result
          ((ready.asked source schema).concludeWork cycle result) := by
        rw [concludeWork_eq]
        exact ⟨_, rfl, rfl, hrest.pending, hrest.cycles, rfl, rfl, rfl⟩
      have hwork : (Work.start source s.context schema s.clock s.source).work.result? =
          some result := by
        rw [← hstart]
        exact hresult
      have hkept : ∀ state, (Work.advance source s.limits s.context s.clock
          (Work.start source s.context schema s.clock s.source).work state).work.result? =
          some result := by
        intro state
        rw [Work.advance_of_result hwork]
        exact hwork
      have hsame : report.result = result := Work.result_of_follow (hkept _) hreport
      have hstop : Session.hasFinished s.nextTicket
          ((ready.asked source schema).concludeWork cycle result) = true := hended.hasFinished
      simp only
      rw [awaitUntil, hstop, if_pos rfl, hsame]
      exact hended
  | none =>
      have hunfinished : Session.hasFinished s.nextTicket s = false := hrest.hasFinished
      have hnone : ready.cycles = [] := hrest.cycles
      simp only [hnone, List.nil_append]
      rw [Work.runFrom, ← hstart] at hreport
      exact @awaitUntil_solitary σ source
        { ready.asked source schema with cycles := [cycle] } cycle report hrest.pending rfl
        hunfinished hreport

end Session

/-- A console that waits for a rebuild in a session at rest comes to the end of that rebuild, which offers
what its work comes to. -/
theorem Console.perform_await {s : Session σ} (hrest : s.AtRest) (kind : TaskKind)
    {schema : CodeString} (hwanted : s.context.wantedSchema = some schema) {report : WorkReport σ}
    (hreport : Work.runFrom source s.limits s.context schema s.clock s.source = some report)
    (names : List (String × Nat)) :
    ∃ c : Closing σ, (perform source (.await kind) ⟨s, names⟩).1.session = c.after ∧
      c.session.view = s.view.await ∧ c.generation = s.view.await.generation ∧
      c.offer = .result schema (.ofCollection none report.result) := by
  obtain ⟨t, hview, hassembly, hends⟩ := Session.request_solitary hrest kind hwanted hreport
  have hperform : (perform source (.await kind) ⟨s, names⟩).1.session =
      ((s.request source kind).1.awaitUntil source (Session.hasFinished s.nextTicket)).settle
        source := by
    rw [perform, execute]
    rfl
  rw [hperform, hends.settle]
  obtain ⟨c, hafter, hsame, -, -, -, hgeneration, hoffer⟩ := hends
  rw [hassembly] at hoffer
  exact ⟨c, hafter, hsame.trans hview, hgeneration, hoffer⟩

end ErDiagram
