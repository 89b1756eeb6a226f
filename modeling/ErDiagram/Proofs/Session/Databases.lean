import ErDiagram.Proofs.Session.Agreement
import ErDiagram.Proofs.Session.Origin

/-!
# Databases that requests ask

Every request carries the headers of the context as it stands when the request is made, and a rebuild makes
its requests one by one. A change of the database that is signalled leaves a rebuild waiting, so that what
was gathered before it does not stay. A new connection brings a database of its own, but its signal asks for
no rebuild: once nothing waits, the requests of the latest rebuild are known to have asked the database that
is selected now unless a connection has diverted the session to another database since the rebuild began.
-/

namespace ErDiagram

variable {σ : Type}

/-- What happens to a session in the course of its use, new connections included. -/
def SessionEvent.isSelective : SessionEvent σ → Bool
  | .change true (.connection _ _) => true
  | e => e.isOrderly

/-- Whether a new connection brings another database at a moment. -/
def Moment.diverts (m : Moment σ) : Bool :=
  match m.event with
  | .change true (.connection _ database) => database ≠ m.session.context.database
  | _ => false

/-- The moments from the one on at which the last rebuild began. -/
def sinceBegun (moments : List (Moment σ)) : List (Moment σ) :=
  moments.foldl (fun since m => if m.begun?.isSome then [m] else since ++ [m]) []

theorem sinceBegun_of_begun {m : Moment σ} {ticket : Nat} (h : m.begun? = some ticket)
    (moments : List (Moment σ)) : sinceBegun (moments ++ [m]) = [m] := by
  simp [sinceBegun, List.foldl_append, h]

theorem sinceBegun_of_not_begun {m : Moment σ} (h : m.begun? = none)
    (moments : List (Moment σ)) : sinceBegun (moments ++ [m]) = sinceBegun moments ++ [m] := by
  simp [sinceBegun, List.foldl_append, h]

theorem mem_sinceBegun_append (moments : List (Moment σ)) (m : Moment σ) :
    m ∈ sinceBegun (moments ++ [m]) := by
  cases hbegun : m.begun? with
  | some ticket => simp [sinceBegun_of_begun hbegun]
  | none => simp [sinceBegun_of_not_begun hbegun]

/-- Whether requests are those of one rebuild: the first is for the list, and all carry the headers of the
context at one of some moments. -/
structure AreRequests (moments : List (Moment σ)) (calls : List SourceCall) : Prop where
  listed : ∃ list structures, calls = list :: structures ∧ list.table = none
  made : ∀ call ∈ calls, ∃ m ∈ moments, call.headers = m.session.context.requestHeaders

theorem AreRequests.mono {moments moments' : List (Moment σ)} {calls : List SourceCall}
    (h : AreRequests moments calls) (hsub : ∀ m ∈ moments, m ∈ moments') :
    AreRequests moments' calls where
  listed := h.listed
  made := by
    intro call hcall
    obtain ⟨m, hm, hheaders⟩ := h.made call hcall
    exact ⟨m, hsub m hm, hheaders⟩

/-- Requests that are made later carry the headers of the context at that moment. -/
theorem AreRequests.append {moments : List (Moment σ)} {calls more : List SourceCall}
    (h : AreRequests moments calls) {m : Moment σ} (hm : m ∈ moments)
    (hmore : ∀ call ∈ more, call.headers = m.session.context.requestHeaders) :
    AreRequests moments (calls ++ more) where
  listed := by
    obtain ⟨list, structures, rfl, hlist⟩ := h.listed
    exact ⟨list, structures ++ more, rfl, hlist⟩
  made := by
    intro call hcall
    rcases List.mem_append.1 hcall with hcall | hcall
    · exact h.made call hcall
    · exact ⟨m, hm, hmore call hcall⟩

section Headers

variable {source : MetadataSource σ} {limits : FetchLimits} {context : Context} {schema : CodeString}

theorem Fetch.headers_dispatch {now busy : Nat} {fetches : List Fetch} {s : σ} :
    ∀ call ∈ (dispatch source limits context schema now busy fetches s).calls,
      call.headers = context.requestHeaders := by
  induction fetches generalizing busy s with
  | nil =>
      intro call hcall
      cases hcall
  | cons f rest ih =>
      rw [dispatch]
      split
      · split
        · split
          · intro call hcall
            rcases List.mem_cons.1 hcall with rfl | hcall
            · rfl
            · exact ih call hcall
          · exact ih
        · intro call hcall
          cases hcall
      · exact ih

theorem Work.headers_advance {now : Nat} {work : Work} {s : σ} :
    ∀ call ∈ (advance source limits context now work s).calls,
      call.headers = context.requestHeaders := by
  unfold advance
  split
  · split
    · split
      · exact Fetch.headers_dispatch
      · intro call hcall
        cases hcall
    · intro call hcall
      cases hcall
  · exact Fetch.headers_dispatch
  · intro call hcall
    cases hcall

end Headers

/-- Only a change concerns the database. -/
theorem database_occur (source : MetadataSource σ) (s : Session σ) {e : SessionEvent σ}
    (h : ∀ inside what, e ≠ .change inside what) :
    (s.occur source e).context.database = s.context.database := by
  cases e with
  | request kind =>
      have hkeeps := s.issued.keeps_begin source ⟨s.nextTicket, kind, false⟩
      exact congrArg Context.database hkeeps.context
  | start task =>
      simp only [Session.occur]
      split
      · exact congrArg Context.database ((s.without task).keeps_begin source task).context
      · rfl
  | progress ticket => exact congrArg Context.database (s.keeps_progress source ticket).context
  | halt ticket result => exact congrArg Context.database (s.keeps_halt ticket result).context
  | publish inside topic =>
      simp only [Session.occur, Session.publish_eq]
      rfl
  | selectLayout kind => exact congrArg Context.database (s.keeps_selectLayout kind).context
  | attach => exact congrArg Context.database s.keeps_attach.context
  | unlisten name => exact congrArg Context.database (s.keeps_unlisten name).context
  | change inside what => exact absurd rfl (h inside what)
  | _ => rfl

/-- When nothing waits after an event that begins no rebuild, then nothing waited before. -/
theorem pending_of_occur {source : MetadataSource σ} {s : Session σ} {e : SessionEvent σ}
    (hbegun : Moment.begun? ⟨s, e⟩ = none) (h : (s.occur source e).pending = []) :
    s.pending = [] := by
  obtain ⟨count, -, hperm⟩ := tickets_occur source s e
  rw [hbegun, Session.waiting, h] at hperm
  have hnone := hperm.symm.eq_nil
  exact List.map_eq_nil_iff.1 (List.append_eq_nil_iff.1 hnone).1

variable {source : MetadataSource σ} {limits : FetchLimits}

/-- A rebuild that has begun before is the latest after an event only if none begins at it. -/
theorem Ledger.not_begun_of_latest {moments : List (Moment σ)} {s : Session σ}
    (h : Ledger source moments s) {e : SessionEvent σ} {label : Nat × Nat}
    (hlabel : label ∈ (closings source moments).map Closing.label ++ s.flights)
    (hlatest : label.2 = (s.occur source e).view.generation) :
    Moment.begun? ⟨s, e⟩ = none ∧ label.2 = s.view.generation := by
  have hle := h.generation_le hlabel
  have hgeneration := h.generation_occur e
  cases hbegun : Moment.begun? (⟨s, e⟩ : Moment σ) with
  | some ticket =>
      rw [hbegun, Option.toList_some, List.length_singleton] at hgeneration
      omega
  | none =>
      rw [hbegun, Option.toList_none, List.length_nil] at hgeneration
      exact ⟨rfl, by omega⟩

theorem Session.IsAttached.select {s : Session σ} (h : s.IsAttached limits) {e : SessionEvent σ}
    (he : e.isSelective) : (s.occur source e).IsAttached limits := by
  unfold SessionEvent.isSelective at he
  split at he
  · exact h.change _
  · exact h.occur he

/-- When nothing waits after an event of ordinary use, the database is the one before, or a new connection
has brought another. -/
theorem Session.IsAttached.database_select {s : Session σ} (h : s.IsAttached limits)
    {e : SessionEvent σ} (he : e.isSelective) (hpending : (s.occur source e).pending = []) :
    (s.occur source e).context.database = s.context.database ∨ Moment.diverts ⟨s, e⟩ = true := by
  by_cases hchange : ∃ inside what, e = .change inside what
  · obtain ⟨inside, what, rfl⟩ := hchange
    cases inside with
    | false => cases what <;> cases he
    | true =>
        cases what with
        | schema value =>
            have hwaits : (s.change true (.schema value)).pending ≠ [] :=
              h.pending_change List.mem_cons_self
            exact absurd hpending hwaits
        | database value =>
            have hwaits : (s.change true (.database value)).pending ≠ [] :=
              h.pending_change (List.mem_cons_of_mem _ List.mem_cons_self)
            exact absurd hpending hwaits
        | connection value database =>
            by_cases hsame : database = s.context.database
            · left
              show (s.change true (.connection value database)).context.database = _
              rw [change_eq]
              exact hsame
            · right
              simpa [Moment.diverts] using hsame
  · left
    exact database_occur source s fun inside what heq => hchange ⟨inside, what, heq⟩

/-- How the requests of the rebuild that began last relate to the moments since. -/
structure Follows (source : MetadataSource σ) (limits : FetchLimits) (moments : List (Moment σ))
    (s : Session σ) : Prop where
  attached : s.IsAttached limits
  cycles : ∀ cycle ∈ s.cycles, cycle.generation = s.view.generation →
    AreRequests (sinceBegun moments) cycle.calls
  closings : ∀ c ∈ closings source moments, c.generation = s.view.generation →
    c.offer = .nothing ∨ AreRequests (sinceBegun moments) c.calls
  /-- When nothing waits, only a connection can have brought another database. -/
  steady : s.pending = [] → (∀ m ∈ sinceBegun moments, m.diverts = false) →
    ∀ m ∈ sinceBegun moments, m.session.context.database = s.context.database

namespace Follows

variable {moments : List (Moment σ)} {s : Session σ}

/-- A cycle of the latest generation has made its requests since the last rebuild began. -/
theorem of_origin (h : Follows source limits moments s) (hledger : Ledger source moments s)
    (e : SessionEvent σ) {cycle : Cycle}
    (horigin : cycle.Origin source s (Moment.begun? ⟨s, e⟩))
    (hlatest : cycle.generation = (s.occur source e).view.generation) :
    AreRequests (sinceBegun (moments ++ [⟨s, e⟩])) cycle.calls := by
  have hnow := mem_sinceBegun_append moments (⟨s, e⟩ : Moment σ)
  have hbefore : ∀ before ∈ s.cycles, before.generation = cycle.generation →
      AreRequests (sinceBegun (moments ++ [⟨s, e⟩])) before.calls := by
    intro before hmem hsame
    obtain ⟨hbegun, hgeneration⟩ := hledger.not_begun_of_latest
      (List.mem_append_right _ (List.mem_map.2 ⟨before, hmem, rfl⟩)) (hsame.trans hlatest)
    rw [sinceBegun_of_not_begun hbegun]
    exact (h.cycles before hmem hgeneration).mono fun m hm => List.mem_append_left _ hm
  cases horigin with
  | kept cycle mem => exact hbefore cycle mem rfl
  | gone cycle mem => exact (hbefore cycle mem rfl).append hnow Work.headers_advance
  | begun task schema wanted =>
      simp only [Session.cycleOf, Session.startWork, h.attached.aggregation]
      refine ⟨⟨_, [], rfl, rfl⟩, ?_⟩
      intro call hcall
      rw [List.mem_singleton.1 hcall]
      exact ⟨_, hnow, rfl⟩

private theorem steady_occur (h : Follows source limits moments s) {e : SessionEvent σ}
    (he : e.isSelective) (hpending : (s.occur source e).pending = [])
    (hnever : ∀ m ∈ sinceBegun (moments ++ [⟨s, e⟩]), m.diverts = false) :
    ∀ m ∈ sinceBegun (moments ++ [⟨s, e⟩]),
      m.session.context.database = (s.occur source e).context.database := by
  have hnow : (s.occur source e).context.database = s.context.database :=
    (h.attached.database_select he hpending).resolve_right
      (Bool.eq_false_iff.1 (hnever _ (mem_sinceBegun_append moments _)))
  rw [hnow]
  intro m hm
  cases hbegun : Moment.begun? (⟨s, e⟩ : Moment σ) with
  | some ticket =>
      rw [sinceBegun_of_begun hbegun] at hm
      rw [List.mem_singleton.1 hm]
  | none =>
      rw [sinceBegun_of_not_begun hbegun] at hnever hm
      rcases List.mem_append.1 hm with hm | hm
      · exact h.steady (pending_of_occur hbegun hpending)
          (fun m hm => hnever m (List.mem_append_left _ hm)) m hm
      · rw [List.mem_singleton.1 hm]

/-- Every event of ordinary use keeps these relations. -/
theorem occur (h : Follows source limits moments s) (hledger : Ledger source moments s)
    {e : SessionEvent σ} (he : e.isSelective) :
    Follows source limits (moments ++ [⟨s, e⟩]) (s.occur source e) := by
  obtain ⟨hcycles, hclosing⟩ := origin_occur source s e
  refine ⟨h.attached.select he, ?_, ?_, h.steady_occur he⟩
  · intro cycle hmem hlatest
    exact h.of_origin hledger e (hcycles cycle hmem) hlatest
  · intro c hc hlatest
    rw [closings_append] at hc
    rcases List.mem_append.1 hc with hold | hnew
    · obtain ⟨hbegun, hgeneration⟩ := hledger.not_begun_of_latest (Closing.label_mem hold s) hlatest
      rw [sinceBegun_of_not_begun hbegun]
      exact (h.closings c hold hgeneration).imp id fun hrequests =>
        hrequests.mono fun m hm => List.mem_append_left _ hm
    · cases hclosing c (Option.mem_toList.1 hnew) with
      | nothing offer calls => exact .inl offer
      | result cycle origin result assembling reached offer calls generation =>
          right
          rw [calls]
          exact h.of_origin hledger e origin (generation.symm.trans hlatest)

variable {context : Context} {layout : LayoutKind} {box : NodeBox} {state : σ}

theorem of_run {allowed : Moment σ → Prop} (hallowed : ∀ m, allowed m → m.event.isSelective)
    (run : Run source allowed (Session.opened limits context layout box state) moments s) :
    Follows source limits moments s := by
  induction run with
  | nil =>
      refine ⟨Session.isAttached_opened limits context layout box state, ?_, ?_, ?_⟩
      · intro cycle hcycle
        cases hcycle
      · intro c hc
        cases hc
      · intro _ _ m hm
        cases hm
  | snoc run e h ih => exact ih.occur (Ledger.of_run run) (hallowed _ h)

end Follows

/-- When nothing waits and the view is ready, the view shows what a rebuild has committed
whose requests were made since it began, each for the database that was selected at that moment. They all
asked the database that is selected now, unless a new connection has brought another one since. -/
theorem database_of_ready (source : MetadataSource σ) {limits : FetchLimits} {context : Context}
    {layout : LayoutKind} {box : NodeBox} {state : σ} {moments : List (Moment σ)} {s : Session σ}
    (run : Run source (fun m => m.event.isSelective)
      (Session.opened limits context layout box state) moments s)
    (hpending : s.pending = []) (hready : s.view.phase = .ready) :
    ∃ c ∈ closings source moments, c.Commits ∧ c.generation = s.view.generation ∧
      (∃ kind, c.offer.ShownBy { s.view with layout := kind }) ∧
      AreRequests (sinceBegun moments) c.calls ∧
      ((∀ m ∈ sinceBegun moments, m.diverts = false) →
        ∀ call ∈ c.calls, call.headers.database = s.context.database.map toString) := by
  have hfollows := Follows.of_run (fun _ h => h) run
  cases Standing.of_run run with
  | fresh generation phase =>
      rw [phase] at hready
      cases hready
  | awaiting ticket flight phase =>
      rw [phase] at hready
      cases hready
  | stuck c mem generation unplaced phase =>
      rw [phase] at hready
      cases hready
  | showing c mem generation commits kind shown =>
      have hoffer : c.offer ≠ .nothing := by
        intro hnothing
        have hphase : s.view.phase = c.offer.phase := shown.phase
        rw [hready, hnothing] at hphase
        cases hphase
      have hrequests := (hfollows.closings c mem generation).resolve_left hoffer
      refine ⟨c, mem, commits, generation, ⟨kind, shown⟩, hrequests, ?_⟩
      intro hnever call hcall
      obtain ⟨m, hm, hheaders⟩ := hrequests.made call hcall
      rw [hheaders, ← hfollows.steady hpending hnever m hm]
      rfl

namespace Session

/-- A session over a source with two tables, in the first of several databases. -/
def ofDatabase : Session Unit :=
  .opened ⟨4, some 10, by decide⟩ ⟨some "public", some 1, none, none⟩ .grid .standard ()

/-- Another database is selected after a rebuild has asked for the list of tables. -/
def switchingDatabase : List (SessionEvent Unit) :=
  [.request .rebuild, .change true (.database (some 7)), .progress 0, .start ⟨1, .rebuild, true⟩,
    .progress 1]

/-- Another connection is selected after a rebuild has ended. -/
def switchingConnection : List (SessionEvent Unit) :=
  [.request .rebuild, .progress 0, .change true (.connection (some 5) (some 2))]

end Session

/-- When another database is selected in the middle of a rebuild, the view comes to show what the new one
has, although the rebuild in the middle of which it was selected asked both. -/
theorem database_of_ready_of_switching :
    let source := MetadataSource.prompt [⟨"orders", none⟩, ⟨"users", none⟩]
    let s := Session.ofDatabase.through source Session.switchingDatabase
    let moments := Session.ofDatabase.momentsOf source Session.switchingDatabase
    s.view.phase = .ready ∧ ∃ c ∈ closings source moments, c.Commits ∧ c.generation = 2 ∧
      ∀ call ∈ c.calls, call.headers.database = some "7" := by
  intro source s moments
  have run : Run source (fun m => m.event.isSelective) Session.ofDatabase moments s :=
    Run.nil.through Session.switchingDatabase (by decide +kernel)
  have hready : s.view.phase = .ready := by decide +kernel
  obtain ⟨c, hc, hcommits, hgeneration, -, -, hcalls⟩ :=
    database_of_ready source run (List.isEmpty_iff.1 (by decide +kernel)) hready
  have hlatest : s.view.generation = 2 := by decide +kernel
  have hdatabase : s.context.database.map toString = some "7" := by decide +kernel
  rw [hdatabase] at hcalls
  exact ⟨hready, c, hc, hcommits, hgeneration.trans hlatest, hcalls (by decide +kernel)⟩

/-- A new connection leaves a ready view with what was asked of the database before it. -/
theorem database_left_behind :
    let source := MetadataSource.prompt [⟨"orders", none⟩, ⟨"users", none⟩]
    ∃ moments s, Run source (fun m => m.event.isSelective) Session.ofDatabase moments s ∧
      s.pending = [] ∧ s.cycles = [] ∧ s.view.phase = .ready ∧
      (closings source moments).length = 1 ∧
      ∀ c ∈ closings source moments, c.calls ≠ [] ∧
        ∀ call ∈ c.calls, call.headers.database ≠ s.context.database.map toString := by
  intro source
  have run : Run source (fun m => m.event.isSelective) Session.ofDatabase _ _ :=
    Run.nil.through Session.switchingConnection (by decide +kernel)
  exact ⟨_, _, run, List.isEmpty_iff.1 (by decide +kernel), List.isEmpty_iff.1 (by decide +kernel),
    by decide +kernel, by decide +kernel, by decide +kernel⟩

end ErDiagram
