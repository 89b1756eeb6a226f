import ErDiagram.Proofs.Service.Serving

/-!
# Lives of a service

A service may be started, serve requests and be stopped many times over. What a life leaves behind is taken
over by the next start: it attaches the view again, the source goes on as if it had never been closed, and the
first rebuild replaces all that the view showed. So a later life answers as the first life of a new service
would, but for the number of the generations and the signals of the lives before.
-/

namespace ErDiagram

variable {σ : Type} {source : MetadataSource σ} {setup : Setup σ}

namespace Session

variable {s : Session σ}

theorem history_attach (s : Session σ) : s.attach.bus.history = s.bus.history := by
  rw [attach]
  split <;> rfl

/-- The handlers of an attached view: one for each topic that asks for a rebuild. -/
theorem Serving.subscribers (h : s.Serving setup) :
    s.subscribers = [(.schemaChanged, 1), (.databaseChanged, 1), (.connectionChanged, 0)] := by
  have hheld : s.subscriptions.isEmpty = false := List.isEmpty_eq_false_iff.2 h.attached
  simp only [Session.subscribers, h.resting.bound.count, hears, hheld]
  rfl

theorem IsBound.subscribers_detach (h : s.IsBound) :
    s.detach.subscribers = [(.schemaChanged, 0), (.databaseChanged, 0), (.connectionChanged, 0)] := by
  obtain ⟨hbound, hnone⟩ := h.detach
  simp only [Session.subscribers, hbound.count, hears, hnone]
  rfl

theorem Resting.sameAfter (h : s.Resting setup) : s.SameAfter setup 0 [] s :=
  ⟨rfl, h.source, by rw [View.preceded, Nat.zero_add], rfl⟩

end Session

namespace Service

def answerEach (source : MetadataSource σ) (catalog : SampleCatalog) :
    List ClientRequest → Service σ → Service σ × List (Except Fault ClientAnswer)
  | [], service => (service, [])
  | request :: rest, service =>
    let (next, outcome) := serve source catalog service request
    let (last, outcomes) := answerEach source catalog rest next
    (last, outcome :: outcomes)

/-- A service that is started, answers requests and is stopped. -/
def live (source : MetadataSource σ) (catalog : SampleCatalog) (service : Service σ)
    (requests : List ClientRequest) : Service σ :=
  stop source (answerEach source catalog requests (start source service)).1

variable {service other : Service σ} {before : Nat} {earlier : List Signal}

theorem start_rebuiltAs (hprompt : source.IsPrompt setup.alike)
    (h : service.session.Resting setup) :
    service.session.issued.attach.RebuiltAs service.session.nextTicket
        (source.offer setup.limits service.session.context service.session.source)
        (start source service).session ∧
      (start source service).session.Serving setup := by
  obtain ⟨-, hstart, hrebuilt, hresting⟩ := h.rebuiltAs_request hprompt .activate
  have hsession : (start source service).session =
      (service.session.request source .activate).1.progressAll source := hstart
  rw [← hsession] at hrebuilt hresting
  refine ⟨hrebuilt, hresting, ?_⟩
  obtain ⟨calls, own, hlast⟩ := hrebuilt
  rw [hlast]
  exact h.issued.bound.attach.2

private theorem generation_start (hprompt : source.IsPrompt setup.alike)
    (h : service.session.Resting setup) :
    (start source service).session.view.generation = service.session.view.generation + 1 := by
  obtain ⟨⟨calls, own, hlast⟩, -⟩ := start_rebuiltAs hprompt h
  obtain ⟨bus, subscriptions, hattach⟩ := service.session.issued.attach_eq
  rw [hlast, hattach]
  exact View.renew_generation _ _

/-- The start of a service that was started before and that of a new one fail alike, or they lead to sessions
that are the same but for what went before. -/
theorem start_sameAfter (hprompt : source.IsPrompt setup.alike)
    (hs : service.session.Resting setup) (ht : other.session.Resting setup)
    (hcontext : service.session.context = other.session.context)
    (hsource : setup.alike service.session.source other.session.source)
    (hlayout : service.session.view.layout = other.session.view.layout)
    (hfirst : other.session.view.generation = 0) (hsilent : other.session.bus.history = []) :
    let s := (start source service).session
    let t := (start source other).session
    (s.view.phase = .loading ∧ t.view.phase = .loading) ∨
      (s.view.phase ≠ .loading ∧ t.view.phase ≠ .loading ∧
        s.SameAfter setup service.session.view.generation service.session.bus.history t) := by
  obtain ⟨⟨calls, own, hlast⟩, -⟩ := start_rebuiltAs hprompt hs
  obtain ⟨⟨calls', own', hlast'⟩, -⟩ := start_rebuiltAs hprompt ht
  have hhistory := service.session.issued.history_attach
  have hhistory' := other.session.issued.history_attach
  obtain ⟨bus, subscriptions, hattach⟩ := service.session.issued.attach_eq
  obtain ⟨bus', subscriptions', hattach'⟩ := other.session.issued.attach_eq
  rw [hattach] at hlast hhistory
  rw [hattach'] at hlast' hhistory'
  obtain ⟨hoffer, hstates⟩ :=
    MetadataSource.offer_alike hprompt hsource setup.limits service.session.context
  rw [hlast, hlast', ← hcontext]
  have hbox : service.session.view.box = other.session.view.box := hs.box.trans ht.box.symm
  simp only [Session.rebuilt, Session.issued, ← hoffer]
  generalize (source.offer setup.limits service.session.context service.session.source).1 = offer
  rcases View.renew_cases hlayout hbox offer with
    ⟨fault, hv, hw⟩ | ⟨shown, hphase, hv, hw⟩
  · rw [hv, hw]
    exact .inl ⟨rfl, rfl⟩
  · have hready : shown.phase ≠ .loading := by
      rw [hphase]
      exact Offer.phase_ne_loading _
    rw [hv, hw]
    refine .inr ⟨hready, hready, hcontext, hstates, ?_, ?_⟩
    · simp only [View.preceded, hfirst]
    · have hnone : bus'.history = [] := hhistory'.trans hsilent
      simp only [hnone, List.append_nil]
      exact hhistory

/-- Services that are the same but for what went before answer alike. The induction is on the requests; each
leaves sessions that are the same again. -/
theorem answerEach_sameAfter (hprompt : source.IsPrompt setup.alike) (catalog : SampleCatalog)
    (requests : List ClientRequest) (hs : service.session.Serving setup)
    (ht : other.session.Serving setup)
    (h : service.session.SameAfter setup before earlier other.session) :
    List.Forall₂ (SameAnswer before earlier) (answerEach source catalog requests service).2
        (answerEach source catalog requests other).2 ∧
      (answerEach source catalog requests service).1.session.Serving setup ∧
      (answerEach source catalog requests service).1.starts = service.starts := by
  induction requests generalizing service other with
  | nil => exact ⟨.nil, hs, rfl⟩
  | cons request rest ih =>
      obtain ⟨s, t, outcome, outcome', hsettles, hsettles', hserving, hserving', hsame, hanswer⟩ :=
        endAlike_accept hprompt catalog request hs ht h
      let next : Service σ := { service with session := s }
      let next' : Service σ := { other with session := t }
      have hnext : next.session.Serving setup := hserving
      have hnext' : next'.session.Serving setup := hserving'
      have hlike : next.session.SameAfter setup before earlier next'.session := hsame
      obtain ⟨hrest, hlast, hstarts⟩ := ih hnext hnext' hlike
      simp only [answerEach, serve_of_settlesAs hsettles, serve_of_settlesAs hsettles']
      exact ⟨.cons hanswer hrest, hlast, hstarts⟩

theorem answerEach_serving (hprompt : source.IsPrompt setup.alike) (catalog : SampleCatalog)
    (requests : List ClientRequest) (h : service.session.Serving setup) :
    (answerEach source catalog requests service).1.session.Serving setup ∧
      (answerEach source catalog requests service).1.starts = service.starts :=
  (answerEach_sameAfter hprompt catalog requests h h h.resting.sameAfter).2

/-- At the end of a life the service is at rest, nobody is subscribed, and the source is like a new one. -/
theorem live_resting (hprompt : source.IsPrompt setup.alike) {first : σ}
    (hclose : ∀ state, setup.alike state state → setup.alike (source.close state) first)
    (catalog : SampleCatalog) (requests : List ClientRequest) (h : service.session.Resting setup) :
    let last := live source catalog service requests
    last.session.Resting setup ∧ setup.alike last.session.source first ∧
      last.session.subscribers =
        [(.schemaChanged, 0), (.databaseChanged, 0), (.connectionChanged, 0)] := by
  obtain ⟨-, hstarted⟩ := start_rebuiltAs hprompt h
  obtain ⟨hserving, hstarts⟩ := answerEach_serving hprompt catalog requests hstarted
  rw [live]
  generalize (answerEach source catalog requests (start source service)).1 = last
    at hserving hstarts
  obtain ⟨session, starts⟩ := last
  have hdetached := hserving.resting.detach
  cases hstarts
  have hclosed := hclose _ hdetached.source
  exact ⟨hdetached.update rfl hdetached.bound (hprompt.left hclosed) le_rfl, hclosed,
    hserving.resting.bound.subscribers_detach⟩

/-- After any number of lives the service is at rest, and its source is like a new one. -/
theorem lives_resting (hprompt : source.IsPrompt setup.alike) {first : σ}
    (hclose : ∀ state, setup.alike state state → setup.alike (source.close state) first)
    (catalog : SampleCatalog) (lives : List (List ClientRequest)) (h : service.session.Resting setup)
    (hsource : setup.alike service.session.source first) :
    let last := lives.foldl (live source catalog) service
    last.session.Resting setup ∧ setup.alike last.session.source first := by
  induction lives generalizing service with
  | nil => exact ⟨h, hsource⟩
  | cons requests rest ih =>
      obtain ⟨hlast, halike, -⟩ := live_resting hprompt hclose catalog requests h
      exact ih hlast halike

end Service

/-- A service with a document or with the client of another service goes through any number of lives. A new
service is set up with the same limits, box and source, and with the context and the layout that the lives
have led to. When both are started, both starts fail, which leaves the views waiting, or both come to an end;
and then all requests are answered alike but for what went before. A start raises the generation by one. While
the service serves, each topic that asks for a rebuild has one handler, and after it was stopped none. -/
theorem restart_is_transparent {first : Source} (hfirst : first.IsProvider) (catalog : SampleCatalog)
    (limits : FetchLimits) (context : Context) (layout : LayoutKind) (box : NodeBox)
    (lives : List (List ClientRequest)) :
    let later : Service Source := lives.foldl (Service.live Source.asked catalog)
      ⟨.opened limits context layout box first, 0⟩
    let new : Service Source :=
      ⟨.opened limits later.session.context later.session.view.layout box first, 0⟩
    let restarted := Service.start Source.asked later
    let started := Service.start Source.asked new
    (restarted.session.view.phase = .loading ↔ started.session.view.phase = .loading) ∧
      (restarted.session.view.phase ≠ .loading → ∀ requests,
        List.Forall₂
          (Service.SameAnswer later.session.view.generation later.session.bus.history)
          (Service.answerEach Source.asked catalog requests restarted).2
          (Service.answerEach Source.asked catalog requests started).2) ∧
      restarted.session.view.generation = later.session.view.generation + 1 ∧
      (∀ requests,
        (Service.answerEach Source.asked catalog requests restarted).1.session.subscribers =
          [(.schemaChanged, 1), (.databaseChanged, 1), (.connectionChanged, 0)]) ∧
      ∀ requests, (Service.live Source.asked catalog later requests).session.subscribers =
        [(.schemaChanged, 0), (.databaseChanged, 0), (.connectionChanged, 0)] := by
  intro later new restarted started
  obtain ⟨alike, hprompt, hself, hclose⟩ := hfirst.isPrompt
  let setup : Setup Source := ⟨limits, box, alike⟩
  obtain ⟨hlater, halike⟩ : later.session.Resting setup ∧ setup.alike later.session.source first :=
    Service.lives_resting hprompt hclose catalog lives (.opened setup context layout hself) hself
  have hnew : new.session.Resting setup := .opened setup _ _ hself
  obtain ⟨-, hrestarted⟩ := Service.start_rebuiltAs hprompt hlater
  obtain ⟨-, hstarted⟩ := Service.start_rebuiltAs hprompt hnew
  have hsame := Service.start_sameAfter hprompt hlater hnew rfl halike rfl rfl rfl
  refine ⟨?_, ?_, Service.generation_start hprompt hlater, ?_, ?_⟩
  · rcases hsame with ⟨h, h'⟩ | ⟨h, h', -⟩
    · exact iff_of_true h h'
    · exact iff_of_false h h'
  · intro hended requests
    rcases hsame with ⟨h, -⟩ | ⟨-, -, hsame⟩
    · exact absurd h hended
    · exact (Service.answerEach_sameAfter hprompt catalog requests hrestarted hstarted hsame).1
  · exact fun requests =>
      (Service.answerEach_serving hprompt catalog requests hrestarted).1.subscribers
  · exact fun requests =>
      (Service.live_resting hprompt hclose catalog requests hlater).2.2

/-- A client of a service that has one table without columns. -/
def Remote.ofOrders : Remote :=
  let address : Uri.Address := ⟨"http".toList, [], "metadata.test".toList, none, [], none, none⟩
  let answers : List (String × HttpAnswer) :=
    [("/api/schema/crm/tables", .answered 200 (.json (.arr [.obj [("table_name", .str "orders")]]))),
      ("/api/schema/crm/table/orders/structure", .answered 200 (.json (.obj [])))]
  ⟨address, .opened address, .silent, HttpAnswer.scripted answers, []⟩

namespace Service

/-- A new service with this client. -/
def ofOrders (context : Context) (layout : LayoutKind) : Service Source :=
  ⟨.opened ⟨1, none, Nat.one_pos⟩ context layout .standard (.remote .ofOrders), 0⟩

/-- A life in which another schema is selected, and one in which another layout is. -/
def twoLives : List (List ClientRequest) :=
  [[⟨"PUT", "/api/v1/context/schema", some "\x7b\"schema_name\":\"crm\"\x7d"⟩],
    [⟨"PUT", "/api/v1/graph/layout", some "\x7b\"layout\":\"hierarchical\"\x7d"⟩]]

/-- The service after these lives. -/
def ofTwoLives : Service Source :=
  twoLives.foldl (live Source.asked ⟨[], [], []⟩) (.ofOrders ⟨some "public", none, none, none⟩ .grid)

end Service

/-- The third life of a client begins with its fourth generation, and its answers tell of three generations
and one signal more than those of a new client. -/
theorem restart_is_transparent_of_twoLives :
    (Service.start Source.asked .ofTwoLives).session.view.phase = .ready ∧
      (Service.start Source.asked .ofTwoLives).session.view.diagram.nodes.length = 1 ∧
      (Service.start Source.asked .ofTwoLives).session.view.generation = 4 ∧
      ∀ requests,
        List.Forall₂ (Service.SameAnswer 3 [⟨.schemaChanged, 1⟩])
          (Service.answerEach Source.asked ⟨[], [], []⟩ requests
            (Service.start Source.asked .ofTwoLives)).2
          (Service.answerEach Source.asked ⟨[], [], []⟩ requests
            (Service.start Source.asked
              (.ofOrders Service.ofTwoLives.session.context .hierarchical))).2 := by
  have hprovider : Source.IsProvider (.remote .ofOrders) := rfl
  have hfacts :
      let s := Service.ofTwoLives.session
      let t := (Service.start Source.asked .ofTwoLives).session
      (s.view.layout, s.view.generation, s.bus.history, t.view.phase, t.view.diagram.nodes.length) =
        (.hierarchical, 3, [⟨.schemaChanged, 1⟩], .ready, 1) := by
    decide +kernel
  simp only [Prod.mk.injEq] at hfacts
  obtain ⟨hlayout, hlater, hhistory, hphase, hnodes⟩ := hfacts
  obtain ⟨-, halike, hgeneration, -, -⟩ := restart_is_transparent hprovider ⟨[], [], []⟩
    ⟨1, none, Nat.one_pos⟩ ⟨some "public", none, none, none⟩ .grid .standard Service.twoLives
  simp only [← Service.ofOrders.eq_1, ← Service.ofTwoLives.eq_1] at halike hgeneration
  rw [hlayout, hlater, hhistory, hphase] at halike
  rw [hlater] at hgeneration
  exact ⟨hphase, hnodes, hgeneration, halike (by decide)⟩

end ErDiagram
