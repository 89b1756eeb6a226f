import ErDiagram.Proofs.Session.Loading
import ErDiagram.Proofs.Session.Overlap
import ErDiagram.Service.Api
import ErDiagram.Source.Kind

/-!
# Requests that overlap

A refresh is answered at the end of its own rebuild, and a selection when no rebuild that a signal asked for is
left. Neither waits for rebuilds that others have begun meanwhile. So an answer can tell of a view that is
waiting, and it does exactly when the rebuild that began last is under way at that moment: for a refresh a
later rebuild of any kind, for a selection one that was asked for directly.
-/

namespace ErDiagram

variable {σ : Type} {source : MetadataSource σ}

/-- What a body is refused with tells of no view. -/
theorem ClientRequest.status_of_readBody {α : Type} {request : ClientRequest}
    {check : Json.Fields → Checked α} {answer : ClientAnswer}
    (h : request.readBody check = .error (.ok answer)) : answer.status ≠ 200 := by
  have hrefused : ∀ body issues, refused body issues = .ok answer → answer.status ≠ 200 := by
    intro body issues hrefused
    rw [refused] at hrefused
    split at hrefused <;> cases hrefused
    exact (by decide : 422 ≠ 200)
  rw [readBody] at h
  split at h
  · exact hrefused _ _ (Except.error.inj h)
  · split at h
    · split at h
      · cases h
      · exact hrefused _ _ (Except.error.inj h)
    · exact hrefused _ _ (Except.error.inj h)
    · cases h
      exact (by decide : 400 ≠ 200)

namespace Service

/-- A selection changes the context as its body asks. One whose body does not pass is turned away, and tells of
no view. -/
theorem accept_select {α : Type} (source : MetadataSource σ) (catalog : SampleCatalog) (s : Session σ)
    {request : ClientRequest} {place : Endpoint} {check : Json.Fields → Checked α}
    (what : α → ContextChange)
    (hroute : Route.ofTarget (plainMethod request.method) request.target = .ok (.endpoint place))
    (hvisit : visit source catalog request s place =
      withBody s (request.readBody check) fun wish => select s (what wish)) :
    (∀ wish, request.readBody check = .ok wish →
        accept source catalog s request = (s.occur source (.change true (what wish)), .quiet)) ∧
      (∀ outcome, request.readBody check = .error outcome →
        accept source catalog s request = (s, .ended outcome) ∧
          ∀ answer, outcome = .ok answer → answer.status ≠ 200) := by
  simp only [accept, hroute, hvisit]
  constructor
  · intro wish hbody
    rw [hbody]
    rfl
  · intro outcome hbody
    rw [hbody]
    refine ⟨rfl, ?_⟩
    rintro answer rfl
    exact ClientRequest.status_of_readBody hbody

end Service

variable {moments : List (Moment σ)} {s : Session σ}

/-- A request that waits for a rebuild is answered with how that rebuild ended. -/
theorem Ledger.resolve_rebuild (h : Ledger source moments s) {c : Closing σ}
    (hc : c ∈ closings source moments) :
    Service.resolve s (.rebuild c.ticket) =
      .ended (c.outcome.bind fun _ => Service.viewAnswer c.after.view) := by
  have hfinish : s.finish? c.ticket = some ⟨c.ticket, c.outcome, c.after.view, c.calls⟩ := by
    rw [Session.finish?, h.finished, List.find?_map]
    cases hfind : (closings source moments).find?
        ((fun finish : Finish => decide (finish.ticket = c.ticket)) ∘ fun d =>
          ⟨d.ticket, d.outcome, d.after.view, d.calls⟩) with
    | none =>
        have hnever := List.find?_eq_none.1 hfind c hc
        exact absurd (decide_eq_true rfl) hnever
    | some d =>
        have hticket : d.ticket = c.ticket := by simpa using List.find?_some hfind
        obtain rfl := List.inj_on_of_nodup_map (List.nodup_append.1 h.nodup_tickets).1
          (List.mem_of_find?_eq_some hfind) hc hticket
        rfl
  simp only [Service.resolve, hfinish]

theorem Ledger.resolve_rebuild_open (h : Ledger source moments s) {ticket : Nat}
    (hopen : ∀ c ∈ closings source moments, c.ticket ≠ ticket) :
    Service.resolve s (.rebuild ticket) = .rebuild ticket := by
  have hfinish : s.finish? ticket = none := by
    rw [Session.finish?, h.finished, List.find?_map, Option.map_eq_none_iff, List.find?_eq_none]
    intro c hc
    simpa using hopen c hc
  simp only [Service.resolve, hfinish]

section Placed

variable {allowed : Moment σ → Prop} {limits : FetchLimits} {context : Context}
  {layout : LayoutKind} {box : NodeBox} {state : σ}

/-- Where the layouts have points for all nodes, a view waits exactly while the latest rebuild is under
way. -/
theorem Run.phase_eq_loading_iff
    (run : Run source allowed (Session.opened limits context layout box state) moments s)
    (hallowed : ∀ m, allowed m → m.places source) :
    s.view.phase = .loading ↔ s.LatestInFlight := by
  rw [(Standing.of_run run).phase_eq_loading_iff (Ledger.of_run run)]
  refine or_iff_left ?_
  rintro ⟨c, hc, -, hunplaced⟩
  exact run.not_unplaced hallowed hc hunplaced

theorem Run.exists_closing
    (run : Run source allowed (Session.opened limits context layout box state) moments s)
    {c : Closing σ} (hc : c ∈ closings source moments) :
    ∃ earlier, Run source allowed (Session.opened limits context layout box state) earlier c.after ∧
      c ∈ closings source earlier := by
  obtain ⟨m, hm, hclosing⟩ := List.mem_filterMap.1 hc
  obtain ⟨earlier, later, hsplit⟩ := List.append_of_mem hm
  obtain ⟨hbefore, hallowed⟩ := run.of_append hsplit
  have hturn := turn_occur source (Ledger.of_run hbefore).nodup_cycles m.event
  rw [show Moment.closing? source ⟨m.session, m.event⟩ = some c from hclosing] at hturn
  have hnext := hbefore.snoc m.event hallowed
  rw [hturn.eq_after] at hnext
  refine ⟨_, hnext, ?_⟩
  rw [closings_append]
  exact List.mem_append_right _ (Option.mem_toList.2 hclosing)

/-- The view at the end of a rebuild waits exactly when a later one is the latest and under way. -/
theorem Run.closing_phase_eq_loading_iff
    (run : Run source allowed (Session.opened limits context layout box state) moments s)
    (hallowed : ∀ m, allowed m → m.places source) {c : Closing σ}
    (hc : c ∈ closings source moments) :
    c.after.view.phase = .loading ↔
      ∃ cycle ∈ c.after.cycles, c.generation < cycle.generation ∧
        cycle.generation = c.after.view.generation := by
  obtain ⟨earlier, hrun, hmem⟩ := run.exists_closing hc
  have hledger := Ledger.of_run hrun
  rw [hrun.phase_eq_loading_iff hallowed]
  constructor
  · rintro ⟨cycle, hcycle, hgeneration⟩
    have hflight : (cycle.ticket, cycle.generation) ∈ c.after.flights :=
      List.mem_map.2 ⟨cycle, hcycle, rfl⟩
    have hne := hledger.not_flight hmem hflight
    have hle : c.generation ≤ c.after.view.generation :=
      hledger.generation_le (Closing.label_mem hmem c.after)
    exact ⟨cycle, hcycle, by omega, hgeneration⟩
  · rintro ⟨cycle, hcycle, -, hgeneration⟩
    exact ⟨cycle, hcycle, hgeneration⟩

/-- A request that waits for quiet is answered when no signalled rebuild is left. Then the view waits exactly
when the latest rebuild is under way, which was asked for directly. -/
theorem Run.resolve_quiet
    (run : Run source allowed (Session.opened limits context layout box state) moments s)
    (hallowed : ∀ m, allowed m → m.places source) :
    (Service.resolve s .quiet = .quiet ∧
        ((∃ task ∈ s.pending, task.signalled) ∨ ∃ cycle ∈ s.cycles, cycle.signalled)) ∨
      (Service.resolve s .quiet = .ended (Service.viewAnswer s.view) ∧
        (∀ task ∈ s.pending, task.signalled = false) ∧
        (∀ cycle ∈ s.cycles, cycle.signalled = false) ∧
        (s.view.phase = .loading ↔
          ∃ cycle ∈ s.cycles, cycle.signalled = false ∧
            cycle.generation = s.view.generation)) := by
  cases hquiet : s.isQuiet with
  | false =>
      refine .inl ⟨by simp [Service.resolve, hquiet], ?_⟩
      simpa [Session.isQuiet, ← Bool.not_eq_true, -not_and, Classical.not_and_iff_not_or_not]
        using hquiet
  | true =>
      have hnone : (∀ task ∈ s.pending, task.signalled = false) ∧
          ∀ cycle ∈ s.cycles, cycle.signalled = false := by
        simpa [Session.isQuiet] using hquiet
      refine .inr ⟨by simp [Service.resolve, hquiet], hnone.1, hnone.2, ?_⟩
      rw [run.phase_eq_loading_iff hallowed]
      constructor
      · rintro ⟨cycle, hcycle, hgeneration⟩
        exact ⟨cycle, hcycle, hnone.2 cycle hcycle, hgeneration⟩
      · rintro ⟨cycle, hcycle, -, hgeneration⟩
        exact ⟨cycle, hcycle, hgeneration⟩

end Placed

/-- Requests that overlap in any way are answered as follows. A refresh begins a rebuild of its own, unless no
schema is selected, and is answered when that rebuild has ended, with the view at that moment, which waits
exactly when a later rebuild is under way. A selection that its body makes clear changes the context, and is
answered when no rebuild that a signal asked for is left; then the view waits exactly when the rebuild that
began last was asked for directly and is under way. -/
theorem answers_of_overlapping_requests (source : MetadataSource σ) (catalog : SampleCatalog)
    {limits : FetchLimits} {context : Context} {layout : LayoutKind} {box : NodeBox} {state : σ}
    (run : Run source (fun m => m.places source)
      (Session.opened limits context layout box state) moments s) :
    (∀ request : ClientRequest,
        Route.ofTarget (plainMethod request.method) request.target = .ok (.endpoint .refresh) →
        Service.accept source catalog s request =
          match s.context.wantedSchema with
          | some _ => (s.occur source (.request .rebuild), .rebuild s.nextTicket)
          | none =>
            (s, .answered (.refusal 400 "No schema selected. Call /context/schema first."))) ∧
      (∀ c ∈ closings source moments, c.ticket ≠ s.nextTicket) ∧
      (∀ cycle ∈ s.cycles, cycle.ticket ≠ s.nextTicket) ∧
      (∀ request : ClientRequest,
        Route.ofTarget (plainMethod request.method) request.target = .ok (.endpoint .schema) →
        (∀ wish, request.readBody SchemaRequest.ofFields = .ok wish →
            Service.accept source catalog s request =
              (s.occur source (.change true (.schema (some wish.schema))), .quiet)) ∧
          (∀ outcome, request.readBody SchemaRequest.ofFields = .error outcome →
            Service.accept source catalog s request = (s, .ended outcome) ∧
              ∀ answer, outcome = .ok answer → answer.status ≠ 200)) ∧
      (∀ request : ClientRequest,
        Route.ofTarget (plainMethod request.method) request.target = .ok (.endpoint .database) →
        (∀ wish, request.readBody DatabaseRequest.ofFields = .ok wish →
            Service.accept source catalog s request =
              (s.occur source (.change true (.database wish.database)), .quiet)) ∧
          (∀ outcome, request.readBody DatabaseRequest.ofFields = .error outcome →
            Service.accept source catalog s request = (s, .ended outcome) ∧
              ∀ answer, outcome = .ok answer → answer.status ≠ 200)) ∧
      (∀ ticket, (∀ c ∈ closings source moments, c.ticket ≠ ticket) →
        Service.resolve s (.rebuild ticket) = .rebuild ticket) ∧
      (∀ c ∈ closings source moments,
        Service.resolve s (.rebuild c.ticket) =
            .ended (c.outcome.bind fun _ => Service.viewAnswer c.after.view) ∧
          (c.after.view.phase = .loading ↔
            ∃ cycle ∈ c.after.cycles, c.generation < cycle.generation ∧
              cycle.generation = c.after.view.generation)) ∧
      ((Service.resolve s .quiet = .quiet ∧
          ((∃ task ∈ s.pending, task.signalled) ∨ ∃ cycle ∈ s.cycles, cycle.signalled)) ∨
        (Service.resolve s .quiet = .ended (Service.viewAnswer s.view) ∧
          (∀ task ∈ s.pending, task.signalled = false) ∧
          (∀ cycle ∈ s.cycles, cycle.signalled = false) ∧
          (s.view.phase = .loading ↔
            ∃ cycle ∈ s.cycles, cycle.signalled = false ∧
              cycle.generation = s.view.generation))) := by
  have hledger := Ledger.of_run run
  refine ⟨?_, ?_, ?_, ?_, ?_, fun ticket => hledger.resolve_rebuild_open, ?_,
    run.resolve_quiet fun _ h => h⟩
  · intro request hroute
    simp only [Service.accept, hroute, Service.visit, Service.refresh]
    cases s.context.wantedSchema with
    | none => rfl
    | some schema => rfl
  · exact fun c hc => Nat.ne_of_lt (hledger.ticket_lt (Closing.label_mem hc s))
  · exact fun cycle hcycle =>
      Nat.ne_of_lt
        (hledger.ticket_lt (List.mem_append_right _ (List.mem_map.2 ⟨cycle, hcycle, rfl⟩)))
  · exact fun request hroute =>
      Service.accept_select source catalog s (fun wish : SchemaRequest => .schema (some wish.schema))
        hroute rfl
  · exact fun request hroute =>
      Service.accept_select source catalog s (fun wish : DatabaseRequest => .database wish.database)
        hroute rfl
  · exact fun c hc =>
      ⟨hledger.resolve_rebuild hc, run.closing_phase_eq_loading_iff (fun _ h => h) hc⟩

namespace Session

/-- A refresh begins, another schema is selected and its rebuild begins; then the two end in this order. -/
def overtaking : List (SessionEvent Unit) :=
  [.request .rebuild, .change true (.schema (some "crm")), .start ⟨1, .rebuild, true⟩, .progress 0,
    .progress 1]

/-- Another schema is selected and its rebuild begins; then a refresh begins, and the rebuild of the selection
ends. -/
def undertaking : List (SessionEvent Unit) :=
  [.change true (.schema (some "crm")), .start ⟨0, .rebuild, true⟩, .request .rebuild, .progress 0]

end Session

/-- A refresh that is overtaken is answered with a view that waits, and the selection with what that view
comes to. -/
theorem answers_of_overlapping_requests_of_overtaking :
    let first : Session Unit :=
      .opened ⟨8, none, by decide⟩ ⟨some "public", none, none, none⟩ .grid .standard ()
    let source := MetadataSource.prompt [⟨"orders", none⟩, ⟨"users", none⟩]
    let s := first.through source Session.overtaking
    (∃ v : View, Service.resolve s (.rebuild 0) = .ended (Service.viewAnswer v) ∧
        v.phase = .loading) ∧
      Service.resolve s .quiet = .ended (Service.viewAnswer s.view) ∧ s.view.phase = .ready := by
  intro first source s
  have run : Run source (fun m => m.places source) first
      (first.momentsOf source Session.overtaking) s :=
    Run.nil.through Session.overtaking (by decide +kernel)
  obtain ⟨-, -, -, -, -, -, hended, hquiet⟩ := answers_of_overlapping_requests source ⟨[], [], []⟩ run
  have hnone : s.isQuiet = true := by decide +kernel
  have hready : s.view.phase = .ready := by decide +kernel
  clear_value s
  constructor
  · have hfirst : (closings source (first.momentsOf source Session.overtaking)).head?.map
        (fun c => (c.ticket, c.outcome.isOk, c.after.view.phase)) = some (0, true, .loading) := by
      decide +kernel
    obtain ⟨c, hc, hfacts⟩ := Option.map_eq_some_iff.1 hfirst
    obtain ⟨hresolve, -⟩ := hended c (List.mem_of_head? hc)
    simp only [Prod.mk.injEq] at hfacts
    obtain ⟨hticket, hok, hphase⟩ := hfacts
    rw [hticket] at hresolve
    refine ⟨c.after.view, ?_, hphase⟩
    cases houtcome : c.outcome with
    | ok committed => rwa [houtcome, Except.bind] at hresolve
    | error fault =>
        rw [houtcome] at hok
        cases hok
  · rcases hquiet with ⟨-, hleft⟩ | ⟨hquiet, -, -, -⟩
    · simp only [Session.isQuiet, Bool.and_eq_true, Bool.not_eq_true', List.any_eq_false] at hnone
      rcases hleft with ⟨task, hmem, hsignalled⟩ | ⟨cycle, hmem, hsignalled⟩
      · exact absurd hsignalled (hnone.1 task hmem)
      · exact absurd hsignalled (hnone.2 cycle hmem)
    · exact ⟨hquiet, hready⟩

def ClientAnswer.state? (answer : ClientAnswer) : Option String :=
  match answer.body with
  | .obj fields =>
    match Json.field? fields "state" with
    | some (.str state) => state.text?
    | _ => none
  | _ => none

/-- A refresh and a selection that are served together: the refresh is answered with a view that waits. And
when a refresh was asked for after a selection, the selection can be answered with such a view. -/
theorem answered_while_loading :
    let script : Script := ⟨[("public", some []), ("crm", some [])], [], [("public", 1), ("crm", 5)]⟩
    let session : Session Source :=
      .opened ⟨8, some 10, by decide⟩ ⟨some "public", none, none, none⟩ .grid .standard
        (.script script)
    let requests : List ClientRequest :=
      [⟨"POST", "/api/v1/graph/refresh", none⟩,
        ⟨"PUT", "/api/v1/context/schema", some "\x7b\"schema_name\":\"crm\"\x7d"⟩]
    let first : Session Unit :=
      .opened ⟨8, none, by decide⟩ ⟨some "public", none, none, none⟩ .grid .standard ()
    let source := MetadataSource.prompt [⟨"orders", none⟩, ⟨"users", none⟩]
    (Service.serveAll Source.asked ⟨[], [], []⟩ ⟨session, 0⟩ requests).2.map
          (fun outcome => outcome.toOption.bind ClientAnswer.state?) =
        [some "loading", some "ready"] ∧
      ∃ moments s, Run source (fun m => m.places source) first moments s ∧
        s.isQuiet ∧ s.view.phase = .loading := by
  intro script session requests first source
  have run : Run source (fun m => m.places source) first _ _ :=
    Run.nil.through Session.undertaking (by decide +kernel)
  exact ⟨by decide +kernel, _, _, run, by decide +kernel, by decide +kernel⟩

end ErDiagram
