import ErDiagram.Proofs.Session.Resting
import ErDiagram.Proofs.Session.Triggers
import ErDiagram.Service.Api

/-!
# Serving at rest

A service whose source answers at once is at rest before and after every request. Then an answer depends on
the context, the view, the signals so far and the state of the source, and on nothing else that the session
holds. Two sessions that agree in these but for what went before one of them, and whose sources are in states
that are alike, are told apart by generations and by old signals only, and they go on agreeing.
-/

namespace ErDiagram

variable {σ : Type} {source : MetadataSource σ} {setup : Setup σ} {before : Nat}
  {earlier : List Signal}

namespace Session

/-- Whether a session is at rest with its view attached. -/
structure Serving (setup : Setup σ) (s : Session σ) : Prop where
  resting : s.Resting setup
  attached : s.subscriptions ≠ []

/-- Whether a session is another one, as far as answers go, but for a number of rebuilds and some signals that
went before it. -/
structure SameAfter (setup : Setup σ) (before : Nat) (earlier : List Signal) (s t : Session σ) :
    Prop where
  context : s.context = t.context
  source : setup.alike s.source t.source
  view : s.view = t.view.preceded before
  history : s.bus.history = earlier ++ t.bus.history

variable {s t : Session σ}

theorem SameAfter.rebuilt {s' t' : Session σ} {ticket ticket' : Nat} {offered offered' : Offer × σ}
    (h : s.SameAfter setup before earlier t) (hs : s.RebuiltAs ticket offered s')
    (ht : t.RebuiltAs ticket' offered' t') (hoffer : offered.1 = offered'.1)
    (hsource : setup.alike offered.2 offered'.2) : s'.SameAfter setup before earlier t' := by
  obtain ⟨calls, own, rfl⟩ := hs
  obtain ⟨calls', own', rfl⟩ := ht
  refine ⟨h.context, hsource, ?_, h.history⟩
  simp only [Session.rebuilt, h.view, View.renew_preceded, hoffer]

theorem RebuiltAs.serving {ticket : Nat} {offered : Offer × σ} (hrebuilt : s.RebuiltAs ticket offered t)
    (h : s.Serving setup) (hticket : ticket < s.nextTicket) (hlast : setup.alike offered.2 offered.2) :
    t.Serving setup := by
  refine ⟨hrebuilt.resting h.resting hticket hlast, ?_⟩
  obtain ⟨calls, own, rfl⟩ := hrebuilt
  exact h.attached

/-- A session whose context has changed, with the signal recorded and the ticket of its rebuild issued. -/
def turned (s : Session σ) (what : ContextChange) : Session σ :=
  { s.issued with
    context := s.context.apply what
    bus := s.bus.record ⟨what.topic, 1⟩ }

theorem Serving.turned (h : s.Serving setup) (what : ContextChange) : (s.turned what).Serving setup :=
  ⟨h.resting.update rfl h.resting.bound h.resting.source (Nat.le_succ _), h.attached⟩

theorem SameAfter.turned (h : s.SameAfter setup before earlier t) (what : ContextChange) :
    (s.turned what).SameAfter setup before earlier (t.turned what) := by
  refine ⟨?_, h.source, h.view, ?_⟩
  · simp only [Session.turned, h.context]
  · simp only [Session.turned, Bus.record, h.history, List.append_assoc]

/-- The rebuild that a change asks for begins when the session settles, and ends. -/
theorem Serving.settle_change (h : s.Serving setup) {what : ContextChange}
    (hheard : what.topic ∈ rebuildTopics) :
    (s.change true what).settle source =
      ((s.turned what).begin source ⟨s.nextTicket, .rebuild, true⟩).progressAll source := by
  have hhears : s.hears what.topic = true := by simp [hears, h.attached, hheard]
  have hchange : s.change true what =
      { s.turned what with pending := [⟨s.nextTicket, .rebuild, true⟩] } := by
    simp only [change_eq, h.resting.bound.audience, h.resting.bound.count, hhears, signalled,
      h.resting.rest.pending]
    rfl
  have hnone : ({ s.turned what with pending := [] } : Session σ) = s.turned what :=
    congrArg (fun pending => { s.turned what with pending := pending }) h.resting.rest.pending.symm
  rw [hchange, settle, beginPending, List.foldl_cons, List.foldl_nil, hnone]

theorem AtRest.isQuiet (h : s.AtRest) : s.isQuiet = true := by
  rw [Session.isQuiet, h.pending, h.cycles]
  rfl

end Session

namespace Service

open Session

/-- Whether two outcomes of a request are the same but for the rebuilds and the signals that went before the
first. -/
inductive SameAnswer (before : Nat) (earlier : List Signal) :
    Except Fault ClientAnswer → Except Fault ClientAnswer → Prop where
  | same (outcome : Except Fault ClientAnswer) : SameAnswer before earlier outcome outcome
  | view (v : View) :
      SameAnswer before earlier (viewAnswer (v.preceded before)) (viewAnswer v)
  | signals (history : List Signal) :
      SameAnswer before earlier (.ok (.okay (.arr ((earlier ++ history).map signalJson))))
        (.ok (.okay (.arr (history.map signalJson))))

/-- Whether a request that has begun has ended with an outcome as soon as the session has settled. -/
structure SettlesAs (source : MetadataSource σ) (begun : Session σ × Awaited) (s : Session σ)
    (outcome : Except Fault ClientAnswer) : Prop where
  session : begun.1.settle source = s
  answer : resolve s begun.2 = .ended outcome

/-- Whether two requests that have begun end with the same answer, but for what went before, and leave sessions
that are the same in this sense. -/
def EndAlike (source : MetadataSource σ) (setup : Setup σ) (before : Nat) (earlier : List Signal)
    (begun begun' : Session σ × Awaited) : Prop :=
  ∃ s t outcome outcome', SettlesAs source begun s outcome ∧ SettlesAs source begun' t outcome' ∧
    s.Serving setup ∧ t.Serving setup ∧ s.SameAfter setup before earlier t ∧
    SameAnswer before earlier outcome outcome'

section Requests

variable {s t : Session σ}

theorem endAlike_ended (hs : s.Serving setup) (ht : t.Serving setup)
    (h : s.SameAfter setup before earlier t) {outcome outcome' : Except Fault ClientAnswer}
    (hsame : SameAnswer before earlier outcome outcome') :
    EndAlike source setup before earlier (s, .ended outcome) (t, .ended outcome') :=
  ⟨s, t, outcome, outcome', ⟨hs.resting.rest.settle, rfl⟩, ⟨ht.resting.rest.settle, rfl⟩, hs, ht, h,
    hsame⟩

theorem resolve_rebuild_of_finish {ticket : Nat} {outcome : Except Fault Bool} {v : View}
    {own : List SourceCall} (h : s.finish? ticket = some ⟨ticket, outcome, v, own⟩) :
    resolve s (.rebuild ticket) = .ended (outcome.bind fun _ => viewAnswer v) := by
  simp only [resolve, h]

private theorem endAlike_refresh (hprompt : source.IsPrompt setup.alike) (hs : s.Serving setup)
    (ht : t.Serving setup) (h : s.SameAfter setup before earlier t) :
    EndAlike source setup before earlier (refresh source s) (refresh source t) := by
  rw [refresh, refresh, ← h.context]
  cases s.context.wantedSchema with
  | none => exact endAlike_ended hs ht h (.same _)
  | some schema =>
      obtain ⟨hsettle, -, hrebuilt, -⟩ := hs.resting.rebuiltAs_request hprompt .rebuild
      obtain ⟨hsettle', -, hrebuilt', -⟩ := ht.resting.rebuiltAs_request hprompt .rebuild
      have hlast := hs.resting.offer_source hprompt
      have hlast' := ht.resting.offer_source hprompt
      obtain ⟨hoffer, hsource⟩ :=
        MetadataSource.offer_alike hprompt h.source setup.limits s.context
      rw [← h.context] at hrebuilt' hlast'
      obtain ⟨own, hfinish⟩ := hrebuilt.finish? hs.resting.rest.finish?
      obtain ⟨own', hfinish'⟩ := hrebuilt'.finish? ht.resting.rest.finish?
      have hissued : s.issued.SameAfter setup before earlier t.issued :=
        ⟨h.context, h.source, h.view, h.history⟩
      refine ⟨_, _, _, _, ⟨hsettle, resolve_rebuild_of_finish hfinish⟩,
        ⟨hsettle', resolve_rebuild_of_finish hfinish'⟩,
        hrebuilt.serving ⟨hs.resting.issued, hs.attached⟩ (Nat.lt_succ_self _) hlast,
        hrebuilt'.serving ⟨ht.resting.issued, ht.attached⟩ (Nat.lt_succ_self _) hlast',
        hissued.rebuilt hrebuilt hrebuilt' hoffer hsource, ?_⟩
      -- the same offer renews both views, so that both rebuilds end in the same way
      have hview : s.issued.view = t.issued.view.preceded before := h.view
      simp only [readied, hview, View.renew_preceded, ← hoffer]
      generalize t.issued.view.renew _ = renewed
      obtain ⟨v, outcome⟩ := renewed
      cases outcome with
      | error fault => exact .same (.error fault)
      | ok committed =>
          simp only [Except.bind]
          exact .view v

theorem endAlike_select (hprompt : source.IsPrompt setup.alike) (hs : s.Serving setup)
    (ht : t.Serving setup) (h : s.SameAfter setup before earlier t) {what : ContextChange}
    (hheard : what.topic ∈ rebuildTopics) :
    EndAlike source setup before earlier (select s what) (select t what) := by
  have hturned := h.turned what
  have hresting := (hs.turned what).resting
  have hresting' := (ht.turned what).resting
  obtain ⟨-, hrebuilt⟩ := hresting.rebuiltAs_begin hprompt ⟨s.nextTicket, .rebuild, true⟩
  obtain ⟨-, hrebuilt'⟩ := hresting'.rebuiltAs_begin hprompt ⟨t.nextTicket, .rebuild, true⟩
  obtain ⟨hoffer, hsource⟩ :=
    MetadataSource.offer_alike hprompt hturned.source setup.limits (s.turned what).context
  have hend := hresting'.offer_source hprompt
  rw [← hturned.context] at hrebuilt' hend
  have hserving := hrebuilt.serving (hs.turned what) (Nat.lt_succ_self _)
    (hresting.offer_source hprompt)
  have hserving' := hrebuilt'.serving (ht.turned what) (Nat.lt_succ_self _) hend
  have hlast := hturned.rebuilt hrebuilt hrebuilt' hoffer hsource
  have hquiet : ∀ {r : Session σ}, r.Serving setup →
      resolve r .quiet = .ended (viewAnswer r.view) := by
    intro r hr
    rw [resolve, hr.resting.rest.isQuiet]
    rfl
  refine ⟨_, _, _, _, ⟨hs.settle_change hheard, hquiet hserving⟩,
    ⟨ht.settle_change hheard, hquiet hserving'⟩, hserving, hserving', hlast, ?_⟩
  rw [hlast.view]
  exact .view _

theorem endAlike_withBody {α : Type} (hs : s.Serving setup) (ht : t.Serving setup)
    (h : s.SameAfter setup before earlier t) (body : Except (Except Fault ClientAnswer) α)
    {act act' : α → Session σ × Awaited}
    (hact : ∀ value, EndAlike source setup before earlier (act value) (act' value)) :
    EndAlike source setup before earlier (withBody s body act) (withBody t body act') := by
  cases body with
  | ok value => exact hact value
  | error outcome => exact endAlike_ended hs ht h (.same outcome)

/-- Requests to an endpoint end alike in sessions that are the same. -/
theorem endAlike_visit (hprompt : source.IsPrompt setup.alike) (catalog : SampleCatalog)
    (request : ClientRequest) (hs : s.Serving setup) (ht : t.Serving setup)
    (h : s.SameAfter setup before earlier t) (place : Endpoint) :
    EndAlike source setup before earlier (visit source catalog request s place)
      (visit source catalog request t place) := by
  cases place with
  | health => exact endAlike_ended hs ht h (.same _)
  | graph =>
      refine endAlike_ended hs ht h ?_
      rw [h.view]
      exact .view t.view
  | refresh => exact endAlike_refresh hprompt hs ht h
  | layout =>
      refine endAlike_withBody hs ht h _ fun wish => ?_
      simp only [hs.resting.selectLayout_eq, ht.resting.selectLayout_eq]
      have hview : s.view.rearrange wish.layout.toJson =
          ((t.view.rearrange wish.layout.toJson).1.preceded before,
            (t.view.rearrange wish.layout.toJson).2) := by
        rw [h.view, View.rearrange_preceded]
      refine endAlike_ended ⟨hs.resting.rearrange _, hs.attached⟩
        ⟨ht.resting.rearrange _, ht.attached⟩ ⟨h.context, h.source, congrArg Prod.fst hview, h.history⟩ ?_
      rw [hview]
      -- the nodes are placed in both sessions or in neither
      cases (t.view.rearrange wish.layout.toJson).2 with
      | error fault => exact .same (.error fault)
      | ok placed =>
          simp only [Except.bind]
          exact .view _
  | relationships table =>
      refine endAlike_ended hs ht h ?_
      rw [h.view]
      exact .same _
  | context =>
      refine endAlike_ended hs ht h ?_
      rw [h.context]
      exact .same _
  | schema =>
      exact endAlike_withBody hs ht h _ fun wish =>
        endAlike_select hprompt hs ht h List.mem_cons_self
  | database =>
      exact endAlike_withBody hs ht h _ fun wish =>
        endAlike_select hprompt hs ht h (List.mem_cons_of_mem _ List.mem_cons_self)
  | signals =>
      refine endAlike_ended hs ht h ?_
      rw [h.history]
      exact .signals t.bus.history
  | samples => exact endAlike_ended hs ht h (.same _)

theorem endAlike_accept (hprompt : source.IsPrompt setup.alike) (catalog : SampleCatalog)
    (request : ClientRequest) (hs : s.Serving setup) (ht : t.Serving setup)
    (h : s.SameAfter setup before earlier t) :
    EndAlike source setup before earlier (accept source catalog s request)
      (accept source catalog t request) := by
  rw [accept, accept]
  cases Route.ofTarget (plainMethod request.method) request.target with
  | error fault => exact endAlike_ended hs ht h (.same _)
  | ok route =>
      cases route with
      | endpoint place => exact endAlike_visit hprompt catalog request hs ht h place
      | methodNotAllowed => exact endAlike_ended hs ht h (.same _)
      | redirect => exact endAlike_ended hs ht h (.same _)
      | notFound => exact endAlike_ended hs ht h (.same _)

end Requests

theorem serve_of_settlesAs {catalog : SampleCatalog} {service : Service σ} {request : ClientRequest}
    {s : Session σ} {outcome : Except Fault ClientAnswer}
    (h : SettlesAs source (accept source catalog service.session request) s outcome) :
    serve source catalog service request = ({ service with session := s }, outcome) := by
  have hbegun : beginAll source catalog [request] [] service.session = (s, [.ended outcome]) := by
    simp only [beginAll, h.session, List.nil_append, List.map_cons, List.map_nil, h.answer]
  simp only [serve, serveAll, hbegun, awaitAnswers]
  rfl

end Service

end ErDiagram
