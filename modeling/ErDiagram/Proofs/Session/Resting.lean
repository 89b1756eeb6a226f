import ErDiagram.Proofs.Session.Solitary
import ErDiagram.Proofs.Session.Subscribed
import ErDiagram.Proofs.Source.Prompt

/-!
# Sessions that come to rest

When the source answers at once and nothing is under way, a rebuild ends before anything else happens. What it
shows is then known from the context, the limits and what the source knows, and so is the session afterwards,
which is at rest again. A rebuild that a signal asks for does the same as one that is asked for directly.
-/

namespace ErDiagram

variable {σ : Type} {source : MetadataSource σ}

/-- What a rebuild offers to show in a context, and the state that it leaves the source in. -/
def MetadataSource.offer (source : MetadataSource σ) (limits : FetchLimits) (context : Context) (s : σ) :
    Offer × σ :=
  match context.wantedSchema with
  | none => (.nothing, s)
  | some schema =>
    let (result, next) := source.collect limits context schema s
    (.result schema (.ofCollection none result), next)

theorem MetadataSource.offer_alike {alike : σ → σ → Prop} {s t : σ} (h : source.IsPrompt alike)
    (hs : alike s t) (limits : FetchLimits) (context : Context) :
    (source.offer limits context s).1 = (source.offer limits context t).1 ∧
      alike (source.offer limits context s).2 (source.offer limits context t).2 := by
  rw [offer, offer]
  cases context.wantedSchema with
  | none => exact ⟨rfl, hs⟩
  | some schema =>
      obtain ⟨hresult, hlast⟩ := collect_alike h hs limits context schema
      simp only [hresult]
      exact ⟨trivial, hlast⟩

theorem Listeners.notify_of_none {l : Listeners} (h : l.registered = []) (diagram : Diagram) :
    l.notify diagram = (l, [], none) := by
  rw [notify, h]
  rfl

/-- What of a session stays as it was set up: the limits, the box, and which states of its source are alike. -/
structure Setup (σ : Type) where
  limits : FetchLimits
  box : NodeBox
  alike : σ → σ → Prop

variable {setup : Setup σ}

namespace Session

/-- A session in which a rebuild has been made and noted. -/
def rebuilt (s : Session σ) (ticket : Nat) (offer : Offer) (state : σ) (calls own : List SourceCall) :
    Session σ :=
  { s with
    source := state
    calls := calls
    view := (s.view.renew offer).1
    finished := s.finished ++ [⟨ticket, (s.view.renew offer).2, (s.view.renew offer).1, own⟩] }

/-- Whether a session is another one after a rebuild that nothing overtook, with an offer and a state that the
source was left in. -/
def RebuiltAs (s : Session σ) (ticket : Nat) (offered : Offer × σ) (t : Session σ) : Prop :=
  ∃ calls own, t = s.rebuilt ticket offered.1 offered.2 calls own

theorem conclusion_of_none {s : Session σ} (h : s.listeners.registered = []) (ticket : Nat)
    (calls : List SourceCall) (v : View) :
    s.conclusion ticket calls v =
      { s with view := v, finished := s.finished ++ [⟨ticket, .ok true, v, calls⟩] } := by
  simp only [conclusion_eq, told, Listeners.notify_of_none h, List.append_nil]

end Session

/-- The end of a rebuild that nothing overtakes and nobody is told of. -/
theorem Closing.rebuiltAs {c : Closing σ} {s : Session σ} {state : σ} {calls : List SourceCall}
    (hsession : c.session = { s with view := s.view.await, source := state, calls := calls })
    (hlatest : c.generation = s.view.generation + 1) (hnone : s.listeners.registered = [])
    {ticket : Nat} {offer : Offer} (hticket : c.ticket = ticket) (hoffer : c.offer = offer) :
    s.RebuiltAs ticket (offer, state) c.after := by
  refine ⟨calls, c.calls, ?_⟩
  have hgeneration : c.generation = c.session.view.generation := by
    rw [hsession, hlatest]
    rfl
  have hview : c.session.view = s.view.await := by rw [hsession]
  rw [Session.rebuilt, View.renew, ← hview, ← hoffer, ← hticket]
  cases hcommit : c.offer.commit c.session.view with
  | ok shown =>
      have hunheard : c.session.listeners.registered = [] := by
        rw [hsession]
        exact hnone
      rw [after_of_latest hgeneration hcommit, Session.conclusion_of_none hunheard, hsession]
  | error fault =>
      rw [after_of_unplaced hgeneration hcommit, hsession]
      rfl

namespace Session

/-- Whether a session that was set up in some way is at rest, nobody listens to its view, and the handlers on
its bus are those of its view. -/
structure Resting (setup : Setup σ) (s : Session σ) : Prop where
  rest : s.AtRest
  unheard : s.listeners.registered = []
  bound : s.IsBound
  limits : s.limits = setup.limits
  box : s.view.box = setup.box
  source : setup.alike s.source s.source

variable {s : Session σ}

theorem AtRest.settle (h : s.AtRest) : s.settle source = s := by
  rw [Session.settle, beginPending_of_none h.pending, progressAll, h.cycles]
  rfl

/-- What may change in a session at rest: the context, the view but for its box, the handlers with the handles,
and the state of the source; and tickets may be issued. -/
theorem Resting.update (h : s.Resting setup) {context : Context} {view : View} {bus : Bus Reaction}
    {subscriptions : List Subscription} {state : σ} {nextTicket : Nat}
    (hview : view.box = s.view.box) (hbound : Attachment subscriptions bus.registrations)
    (hsource : setup.alike state state) (hticket : s.nextTicket ≤ nextTicket) :
    Session.Resting setup
      { s with
        context := context
        view := view
        bus := bus
        subscriptions := subscriptions
        source := state
        nextTicket := nextTicket } where
  rest := ⟨h.rest.pending, h.rest.cycles, h.rest.aggregation, h.rest.assembly,
    fun finish hmem => Nat.lt_of_lt_of_le (h.rest.issued finish hmem) hticket⟩
  unheard := h.unheard
  bound := hbound
  limits := h.limits
  box := hview.trans h.box
  source := hsource

theorem Resting.attach (h : s.Resting setup) : s.attach.Resting setup := by
  obtain ⟨hbound, -⟩ := h.bound.attach
  obtain ⟨bus, subscriptions, heq⟩ := s.attach_eq
  rw [heq] at hbound ⊢
  exact h.update rfl hbound h.source le_rfl

theorem Resting.readied (h : s.Resting setup) : ∀ task, (s.readied task).Resting setup
  | .activate => h.attach
  | .rebuild => h

theorem Resting.opened (setup : Setup σ) (context : Context) (layout : LayoutKind) {state : σ}
    (h : setup.alike state state) :
    (Session.opened setup.limits context layout setup.box state).Resting setup :=
  ⟨.opened setup.limits context layout setup.box state, rfl, .both 1, rfl, rfl, h⟩

theorem Resting.issued (h : s.Resting setup) : s.issued.Resting setup :=
  h.update rfl h.bound h.source (Nat.le_succ _)

theorem Resting.detach (h : s.Resting setup) : s.detach.Resting setup :=
  h.update rfl h.bound.detach.1 h.source le_rfl

theorem Resting.offer_source (h : s.Resting setup) (hprompt : source.IsPrompt setup.alike) :
    setup.alike (source.offer setup.limits s.context s.source).2
      (source.offer setup.limits s.context s.source).2 :=
  (MetadataSource.offer_alike hprompt h.source setup.limits s.context).2

theorem RebuiltAs.resting {ticket : Nat} {offered : Offer × σ} {t : Session σ}
    (hrebuilt : s.RebuiltAs ticket offered t) (h : s.Resting setup)
    (hticket : ticket < s.nextTicket) (hlast : setup.alike offered.2 offered.2) : t.Resting setup := by
  obtain ⟨calls, own, rfl⟩ := hrebuilt
  refine ⟨⟨h.rest.pending, h.rest.cycles, h.rest.aggregation, h.rest.assembly, ?_⟩, h.unheard,
    h.bound, h.limits, (s.view.renew_box offered.1).trans h.box, hlast⟩
  intro finish hfinish
  rcases List.mem_append.1 hfinish with hfinish | hfinish
  · exact h.rest.issued finish hfinish
  · rw [List.mem_singleton.1 hfinish]
    exact hticket

theorem RebuiltAs.finish? {ticket : Nat} {offered : Offer × σ} {t : Session σ}
    (hrebuilt : s.RebuiltAs ticket offered t) (hnew : s.finish? ticket = none) :
    ∃ own, t.finish? ticket =
      some ⟨ticket, (s.view.renew offered.1).2, (s.view.renew offered.1).1, own⟩ := by
  obtain ⟨calls, own, rfl⟩ := hrebuilt
  rw [Session.finish?] at hnew
  refine ⟨own, ?_⟩
  rw [Session.finish?, rebuilt, List.find?_append, hnew]
  simp

theorem Resting.rebuiltAs_beginEmpty (h : s.Resting setup) (task : Task) :
    s.RebuiltAs task.ticket (.nothing, s.source) (s.beginEmpty task) := by
  refine ⟨s.calls, [], ?_⟩
  rw [beginEmpty, conclusion_of_none h.unheard]
  rfl

/-- A rebuild of a schema ends where it begins, or when its cycle goes on for the first time. -/
theorem Resting.rebuiltAs_beginCycle (h : s.Resting setup) (hprompt : source.IsPrompt setup.alike)
    (task : Task) (schema : CodeString) :
    let begun := s.beginCycle source task schema
    let pass := source.collect s.limits s.context schema s.source
    (begun.cycles = [] ∨ begun.finished = s.finished) ∧
      s.RebuiltAs task.ticket (.result schema (.ofCollection none pass.1), pass.2)
        (begun.progressAll source) := by
  have hround : s.startWork source schema =
      Work.start source s.context schema s.clock s.source := by
    simp only [startWork, h.rest.aggregation]
  obtain ⟨hended, hlast⟩ :=
    Work.ended_at_once hprompt h.source s.limits s.context schema s.clock
  rw [← hround] at hended hlast
  simp only [beginCycle_eq]
  rw [← h.rest.assembly]
  cases hresult : (s.cycleOf source task schema).work.result? with
  | some result =>
      -- ended work goes on to the same end, so the listing has already led to what there is to show
      have hround' : (s.startWork source schema).work.result? = some result := hresult
      rw [Work.advance_of_result hround'] at hended hlast
      rw [hended] at hround'
      obtain rfl := Option.some.inj hround'
      simp only [concludeWork_eq]
      generalize hc : (s.asked source schema).closingOf (s.cycleOf source task schema)
        (source.collect s.limits s.context schema s.source).1 = c
      have hnone : c.after.cycles = [] := by
        rw [Closing.after_cycles, ← hc]
        exact h.rest.cycles
      refine ⟨.inl hnone, ?_⟩
      rw [progressAll, hnone, List.map_nil, List.foldl_nil]
      subst hc
      rw [← hlast]
      exact Closing.rebuiltAs rfl rfl h.unheard rfl rfl
  | none =>
      -- the cycle is the only one under way, and its first round ends it
      let cycle := s.cycleOf source task schema
      let begun : Session σ := { s.asked source schema with cycles := [cycle] }
      have hbegun : { s.asked source schema with cycles := s.cycles ++ [cycle] } = begun := by
        rw [h.rest.cycles]
        rfl
      have hfound : begun.cycle? cycle.ticket = some cycle := by simp [begun, cycle?]
      have hwork : (begun.roundOf source cycle).work.result? =
          some (source.collect s.limits s.context schema s.source).1 := congrArg Work.result? hended
      have hnone : [cycle].filter (·.ticket ≠ cycle.ticket) = s.cycles := by simp [h.rest.cycles]
      have hlanded : begun.landed cycle.ticket = s.asked source schema :=
        congrArg (fun cycles => { s.asked source schema with cycles := cycles }) hnone
      refine ⟨.inr rfl, ?_⟩
      simp only
      rw [hbegun, progressAll_solitary (s := begun) rfl]
      simp only [progress_eq, hfound, hwork, concludeWork_eq, hlanded]
      rw [← hlast]
      exact Closing.rebuiltAs rfl rfl h.unheard rfl rfl

/-- A rebuild ends where it begins, or when the session goes on for the first time. -/
theorem Resting.rebuiltAs_begin (h : s.Resting setup) (hprompt : source.IsPrompt setup.alike)
    (task : Task) :
    let begun := s.begin source task
    (begun.cycles = [] ∨ begun.finished = s.finished) ∧
      (s.readied task.kind).RebuiltAs task.ticket (source.offer setup.limits s.context s.source)
        (begun.progressAll source) := by
  have hready := h.readied task.kind
  obtain ⟨bus, subscriptions, heq⟩ := s.readied_eq task.kind
  have hcontext : (s.readied task.kind).context = s.context := by rw [heq]
  have hfinished : (s.readied task.kind).finished = s.finished := by rw [heq]
  have hsource : (s.readied task.kind).source = s.source := by rw [heq]
  rw [begin_eq, ← hready.limits, ← hcontext, ← hfinished, ← hsource]
  generalize s.readied task.kind = ready at hready
  rw [MetadataSource.offer]
  cases ready.context.wantedSchema with
  | none =>
      have hrebuilt := hready.rebuiltAs_beginEmpty task
      have hnone : (ready.beginEmpty task).cycles = [] := by
        rw [beginEmpty_eq, Closing.after_cycles]
        exact hready.rest.cycles
      refine ⟨.inl hnone, ?_⟩
      rw [progressAll, hnone]
      exact hrebuilt
  | some schema => exact hready.rebuiltAs_beginCycle hprompt task schema

theorem Resting.settle_begin (h : s.Resting setup) (task : Task) :
    (s.begin source task).settle source = (s.begin source task).progressAll source := by
  have hnone : (s.begin source task).pending = [] :=
    (s.keeps_begin source task).pending.trans h.rest.pending
  rw [settle, beginPending_of_none hnone]

/-- Waiting for a rebuild takes no time. -/
theorem Resting.awaitUntil_begin (h : s.Resting setup) (hprompt : source.IsPrompt setup.alike)
    {task : Task} (hnew : s.finish? task.ticket = none) :
    (s.begin source task).awaitUntil source (hasFinished task.ticket) =
      (s.begin source task).progressAll source := by
  obtain ⟨hwhere, hrebuilt⟩ := h.rebuiltAs_begin hprompt task
  have hready : (s.readied task.kind).finish? task.ticket = none := by
    obtain ⟨bus, subscriptions, heq⟩ := s.readied_eq task.kind
    rw [heq]
    exact hnew
  obtain ⟨own, hfinish⟩ := hrebuilt.finish? hready
  have hlast : hasFinished task.ticket ((s.begin source task).progressAll source) = true := by
    rw [hasFinished, hfinish]
    rfl
  rw [awaitUntil]
  cases hstop : hasFinished task.ticket (s.begin source task) with
  | true =>
      have hnone : (s.begin source task).cycles = [] := by
        refine hwhere.resolve_right fun hsame => ?_
        rw [hasFinished, Session.finish?, hsame, ← Session.finish?, hnew] at hstop
        cases hstop
      rw [if_pos rfl, progressAll, hnone]
      rfl
  | false => simp only [Bool.false_eq_true, if_false, h.settle_begin, untilHolds, hlast, if_true]

theorem AtRest.finish? (h : s.AtRest) : s.finish? s.nextTicket = none := by
  have hunfinished := h.hasFinished
  rwa [Session.hasFinished, Option.isSome_eq_false_iff, Option.isNone_iff_eq_none] at hunfinished

/-- A rebuild that is asked for has ended as soon as the session has settled. -/
theorem Resting.rebuiltAs_request (h : s.Resting setup) (hprompt : source.IsPrompt setup.alike)
    (task : TaskKind) :
    let t := (s.request source task).1.progressAll source
    (s.request source task).1.settle source = t ∧
      (s.request source task).1.awaitUntil source (Session.hasFinished s.nextTicket) = t ∧
      (s.issued.readied task).RebuiltAs s.nextTicket
        (source.offer setup.limits s.context s.source) t ∧
      t.Resting setup := by
  obtain ⟨-, hrebuilt⟩ := h.issued.rebuiltAs_begin hprompt ⟨s.nextTicket, task, false⟩
  have hnew : s.issued.finish? s.nextTicket = none := h.rest.finish?
  refine ⟨h.issued.settle_begin _, h.issued.awaitUntil_begin hprompt hnew, hrebuilt, ?_⟩
  refine hrebuilt.resting (h.issued.readied task) ?_ (h.offer_source hprompt)
  obtain ⟨bus, subscriptions, heq⟩ := s.issued.readied_eq task
  rw [heq]
  exact Nat.lt_succ_self _

theorem Resting.selectLayout_eq (h : s.Resting setup) (wish : Json) :
    s.selectLayout wish =
      ({ s with view := (s.view.rearrange wish).1 }, (s.view.rearrange wish).2) := by
  rw [selectLayout, View.rearrange]
  cases s.view.selectLayout wish with
  | error fault => rfl
  | ok selected =>
      simp only
      cases selected.replace with
      | error fault => rfl
      | ok placed =>
          simp only [present, Listeners.notify_of_none h.unheard, List.append_nil]

theorem Resting.rearrange (h : s.Resting setup) (wish : Json) :
    ({ s with view := (s.view.rearrange wish).1 } : Session σ).Resting setup :=
  h.update (s.view.rearrange_box wish) h.bound h.source le_rfl

end Session

end ErDiagram
