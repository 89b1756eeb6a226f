import ErDiagram.Proofs.Aggregation.Accounting
import ErDiagram.Proofs.Source.Served
import ErDiagram.Source.Kind

/-!
# Sources that answer at once

A document and a remote source answer at once, so the work of a schema ends as soon as it goes on for the
first time. What it comes to is had by asking for the list and for its rows one after the other. The answers
of a remote source can depend on the cookies that its client was given since it was opened, and on nothing
else that it was asked before: states of the source in which the next request is sent by the same client are
alike, they lead to the same answers, and closing a source makes it like a new one.
-/

namespace ErDiagram

variable {σ : Type} {source : MetadataSource σ} {alike : σ → σ → Prop}

/-- Whether a source gives the same answers in two states, at once, and states that are alike are left. -/
def SameReply {α : Type} (alike : σ → σ → Prop) (asked asked' : Reply α × σ) : Prop :=
  asked.1.delay = some 0 ∧ asked.1 = asked'.1 ∧ alike asked.2 asked'.2

/-- Whether a source answers at once, and the same in states that are alike. -/
structure MetadataSource.IsPrompt (source : MetadataSource σ) (alike : σ → σ → Prop) : Prop where
  left : ∀ {s t}, alike s t → alike s s
  listTables : ∀ {s t}, alike s t → ∀ context schema,
    SameReply alike (source.listTables context schema s) (source.listTables context schema t)
  tableStructure : ∀ {s t}, alike s t → ∀ context schema name,
    SameReply alike (source.tableStructure context schema name s)
      (source.tableStructure context schema name t)

theorem Reply.eq_immediate {α : Type} {reply : Reply α} (h : reply.delay = some 0) :
    reply = .immediate reply.outcome := by
  obtain ⟨delay, outcome⟩ := reply
  cases h
  rfl

namespace MetadataSource

variable (source) (limits : FetchLimits) (context : Context) (schema : CodeString)

/-- What rows come to that are asked for one after the other, and the state that this leaves. -/
def outcomes : List ListedTable → σ → List (ListedTable × Except Fault RawStructure) × σ
  | [], s => ([], s)
  | row :: rest, s =>
    let (reply, next) := Fetch.ask source limits context schema row s
    let (others, last) := outcomes rest next
    ((row, reply.outcome) :: others, last)

/-- What the work of a schema comes to when every answer is there at once, and the state that this leaves. -/
def collect (s : σ) : Except Fault Collected × σ :=
  let (reply, next) := source.listTables context schema s
  match reply.outcome with
  | .error fault => (.error (.listing schema fault), next)
  | .ok list =>
    match list.rows with
    | .error fault => (.error fault, next)
    | .ok rows =>
      let (outcomes, last) := source.outcomes limits context schema rows next
      (.ok (.ofOutcomes schema outcomes), last)

end MetadataSource

variable {limits : FetchLimits} {context : Context} {schema : CodeString} {s t : σ}

theorem FetchLimits.bounded_immediate {α : Type} (h : limits.hasTime) (outcome : Except Fault α) :
    limits.bounded (.immediate outcome) = .immediate outcome := by
  rw [hasTime] at h
  rw [bounded]
  split
  · rfl
  · next time htime =>
      rw [htime] at h
      exact if_pos (of_decide_eq_true h)

namespace Fetch

variable (limits context schema)

theorem sameReply_ask (h : source.IsPrompt alike) (hs : alike s t) (row : ListedTable) :
    SameReply alike (ask source limits context schema row s) (ask source limits context schema row t) := by
  obtain ⟨hdelay, hreply, hnext⟩ := h.tableStructure hs context schema row.name
  simp only [ask]
  split
  · next htime =>
      rw [← hreply, Reply.eq_immediate hdelay, limits.bounded_immediate htime]
      exact ⟨rfl, rfl, hnext⟩
  · exact ⟨rfl, rfl, hs⟩

/-- All rows are fetched as soon as they are dispatched, since each leaves its slot to the next one. -/
theorem dispatch_at_once (h : source.IsPrompt alike) (hs : alike s s) (rows : List ListedTable)
    (now : Nat) :
    let round := dispatch source limits context schema now 0 (rows.map waiting) s
    let pass := source.outcomes limits context schema rows s
    round.fetches = pass.1.map (fun outcome => ⟨outcome.1, .settled outcome.2⟩) ∧
      round.source = pass.2 := by
  induction rows generalizing s with
  | nil => exact ⟨rfl, rfl⟩
  | cons row rest ih =>
      obtain ⟨hdelay, -, hnext⟩ := sameReply_ask limits context schema h hs row
      obtain ⟨hfetches, hsource⟩ := dispatch_waiting source limits context schema
        (f := waiting row) rfl limits.slots_pos now (rest.map waiting) s
      obtain ⟨hrest, hlast⟩ := ih hnext
      rw [waiting, Reply.eq_immediate hdelay] at hfetches hsource
      simp only [answered, Reply.immediate, isRunning] at hfetches hsource
      simp only [List.map_cons, waiting, MetadataSource.outcomes] at hfetches hsource hrest hlast ⊢
      rw [hfetches, hsource]
      exact ⟨congrArg _ hrest, hlast⟩

private theorem outcomes?_map_settled (outcomes : List (ListedTable × Except Fault RawStructure)) :
    outcomes? (outcomes.map fun outcome => ⟨outcome.1, .settled outcome.2⟩) = some outcomes := by
  rw [outcomes?]
  induction outcomes with
  | nil => rfl
  | cons outcome rest ih =>
      rw [List.map_cons, List.mapM_cons, ih]
      rfl

end Fetch

namespace MetadataSource

private theorem outcomes_alike (h : source.IsPrompt alike) (hs : alike s t) (limits : FetchLimits)
    (context : Context) (schema : CodeString) (rows : List ListedTable) :
    (source.outcomes limits context schema rows s).1 =
        (source.outcomes limits context schema rows t).1 ∧
      alike (source.outcomes limits context schema rows s).2
        (source.outcomes limits context schema rows t).2 := by
  induction rows generalizing s t with
  | nil => exact ⟨rfl, hs⟩
  | cons row rest ih =>
      obtain ⟨-, hreply, hnext⟩ := Fetch.sameReply_ask limits context schema h hs row
      obtain ⟨hrest, hlast⟩ := ih hnext
      simp only [outcomes, hreply, hrest]
      exact ⟨trivial, hlast⟩

theorem collect_alike (h : source.IsPrompt alike) (hs : alike s t) (limits : FetchLimits)
    (context : Context) (schema : CodeString) :
    (source.collect limits context schema s).1 = (source.collect limits context schema t).1 ∧
      alike (source.collect limits context schema s).2
        (source.collect limits context schema t).2 := by
  obtain ⟨-, hreply, hnext⟩ := h.listTables hs context schema
  rcases hasked : source.listTables context schema s with ⟨reply, next⟩
  rcases hasked' : source.listTables context schema t with ⟨reply', next'⟩
  rw [hasked, hasked'] at hreply hnext
  obtain rfl : reply = reply' := hreply
  simp only [collect, hasked, hasked']
  cases reply.outcome with
  | error fault => exact ⟨rfl, hnext⟩
  | ok list =>
      cases hrows : list.rows with
      | error fault =>
          simp only [hrows]
          exact ⟨trivial, hnext⟩
      | ok rows =>
          obtain ⟨houtcomes, hlast⟩ := outcomes_alike h hnext limits context schema rows
          simp only [hrows, houtcomes]
          exact ⟨trivial, hlast⟩

end MetadataSource

namespace Work

private theorem fetch_at_once (h : source.IsPrompt alike) (hs : alike s s) (limits : FetchLimits)
    (context : Context) (schema : CodeString) (rows : List ListedTable) (now : Nat) :
    let round := fetch source limits context now schema (rows.map Fetch.waiting) s
    let pass := source.outcomes limits context schema rows s
    round.work = .ended (.ok (.ofOutcomes schema pass.1)) ∧ round.source = pass.2 := by
  obtain ⟨hfetches, hlast⟩ := Fetch.dispatch_at_once limits context schema h hs rows now
  have hwaiting : (rows.map Fetch.waiting).map (Fetch.settle now) = rows.map Fetch.waiting := by
    rw [List.map_map]
    rfl
  simp only [fetch, Fetch.advance, hwaiting, Fetch.underWay_map_waiting, hfetches, ofFetches,
    Fetch.outcomes?_map_settled]
  exact ⟨trivial, hlast⟩

/-- The work of a schema has ended when it goes on for the first time. -/
theorem ended_at_once (h : source.IsPrompt alike) (hs : alike s s) (limits : FetchLimits)
    (context : Context) (schema : CodeString) (now : Nat) :
    let started := start source context schema now s
    let first := advance source limits context now started.work started.source
    let end' := source.collect limits context schema s
    first.work = .ended end'.1 ∧ first.source = end'.2 := by
  obtain ⟨hdelay, -, hnext⟩ := h.listTables hs context schema
  rcases hasked : source.listTables context schema s with ⟨reply, next⟩
  rw [hasked] at hdelay hnext
  have hlist : reply.delay = some 0 := hdelay
  simp only [start, MetadataSource.collect, hasked, hlist]
  cases reply.outcome with
  | error fault => exact ⟨rfl, rfl⟩
  | ok list =>
      cases hrows : list.rows with
      | error fault =>
          simp only [listed, hrows]
          exact ⟨rfl, rfl⟩
      | ok rows =>
          obtain ⟨hwork, hlast⟩ := fetch_at_once h hnext limits context schema rows now
          rw [advance_listed hrows]
          simp only [hrows]
          exact ⟨hwork, hlast⟩

end Work

namespace Source

/-- A source that is a document or the client of a service, as they are set up. -/
def IsProvider : Source → Prop
  | .script _ => False
  | .document _ => True
  | .remote r => r.ready.client = .opened r.address

private theorem isPrompt_document (document : SchemaDocument) :
    asked.IsPrompt fun s t => s = .document document ∧ t = .document document where
  left h := ⟨h.1, h.1⟩
  listTables := by
    rintro _ _ ⟨rfl, rfl⟩ context schema
    exact ⟨rfl, rfl, rfl, rfl⟩
  tableStructure := by
    rintro _ _ ⟨rfl, rfl⟩ context schema name
    exact ⟨rfl, rfl, rfl, rfl⟩

end Source

namespace Remote

/-- Whether two sources ask the same service at the same address with clients that are in the same state by the
time of the next request. -/
structure SameClient (remote other : Remote) : Prop where
  address : other.address = remote.address
  policy : other.policy = remote.policy
  service : other.service = remote.service
  client : other.ready.client = remote.ready.client

variable {remote other : Remote}

theorem SameClient.refl (remote : Remote) : remote.SameClient remote := ⟨rfl, rfl, rfl, rfl⟩

theorem SameClient.base (h : remote.SameClient other) : other.base = remote.base := by
  rw [Remote.base, h.client, Remote.base]

theorem SameClient.requestAt (h : remote.SameClient other) (context : Context)
    (address : Uri.Address) : other.requestAt context address = remote.requestAt context address := by
  rw [Remote.requestAt, h.policy, h.client, Remote.requestAt]

/-- What is had from a service is settled by the state of the client, and so is the state afterwards. -/
theorem SameClient.get (h : remote.SameClient other) (context : Context) (path : String) :
    (other.get context path).1 = (remote.get context path).1 ∧
      (remote.get context path).2.SameClient (other.get context path).2 := by
  have hclient : (other.get context path).2.client = (remote.get context path).2.client := by
    simp only [client_get, h.base, h.client, h.service, h.requestAt]
  have hopen := closed_get remote context path
  have hopen' := closed_get other context path
  refine ⟨?_, ?_, ?_, ?_, ?_⟩
  · simp only [content_get, h.base, h.service, h.requestAt]
  · simp only [address_get, h.address]
  · simp only [policy_get, h.policy]
  · simp only [service_get, h.service]
  · rw [ready_of_open hopen, ready_of_open hopen', hclient]

/-- The source that has not asked for anything yet. -/
def untouched (remote : Remote) : Remote :=
  ⟨remote.address, .opened remote.address, remote.policy, remote.service, []⟩

theorem untouched_inj : remote.untouched = other.untouched ↔
    remote.address = other.address ∧ remote.policy = other.policy ∧ remote.service = other.service := by
  simp only [untouched, mk.injEq, and_true]
  exact ⟨fun ⟨haddress, _, hpolicy, hservice⟩ => ⟨haddress, hpolicy, hservice⟩,
    fun ⟨haddress, hpolicy, hservice⟩ => ⟨haddress, congrArg _ haddress, hpolicy, hservice⟩⟩

private theorem untouched_get (remote : Remote) (context : Context) (path : String) :
    (remote.get context path).2.untouched = remote.untouched :=
  untouched_inj.2 ⟨address_get remote context path, policy_get remote context path,
    service_get remote context path⟩

section Ask

variable {α : Type} (context : Context) (path : Except Fault String) (reader : Json → Except Fault α)

theorem SameClient.ask (h : remote.SameClient other) :
    (other.ask context path reader).1 = (remote.ask context path reader).1 ∧
      (remote.ask context path reader).2.SameClient (other.ask context path reader).2 := by
  cases path with
  | error fault => exact ⟨rfl, h⟩
  | ok path =>
      obtain ⟨hcontent, hclient⟩ := h.get context path
      rw [ask_ok, ask_ok, hcontent]
      exact ⟨rfl, hclient⟩

theorem untouched_ask (remote : Remote) :
    (remote.ask context path reader).2.untouched = remote.untouched := by
  cases path with
  | error fault => rfl
  | ok path =>
      rw [ask_ok]
      exact untouched_get remote context path

end Ask

/-- A client answers alike as long as it is in the same state. -/
theorem isPrompt (first : Remote) :
    Source.asked.IsPrompt fun s t => ∃ remote other, s = .remote remote ∧ t = .remote other ∧
      remote.untouched = first.untouched ∧ remote.SameClient other where
  left := by
    rintro _ _ ⟨remote, other, rfl, rfl, hfirst, -⟩
    exact ⟨remote, remote, rfl, rfl, hfirst, .refl remote⟩
  listTables := by
    rintro _ _ ⟨remote, other, rfl, rfl, hfirst, h⟩ context schema
    obtain ⟨hlisting, hclient⟩ := h.ask context (Uri.tablesPath <$> sendable schema) (listingOf schema)
    simp only [Source.asked, Source.listTables, Remote.listTables, hlisting]
    exact ⟨rfl, rfl, _, _, rfl, rfl, (untouched_ask context _ _ remote).trans hfirst, hclient⟩
  tableStructure := by
    rintro _ _ ⟨remote, other, rfl, rfl, hfirst, h⟩ context schema name
    obtain ⟨hstructure, hclient⟩ := h.ask context
      (Uri.structurePath <$> sendable schema <*> sendable name) (structureOf schema name)
    simp only [Source.asked, Source.tableStructure, Remote.tableStructure, hstructure]
    exact ⟨rfl, rfl, _, _, rfl, rfl, (untouched_ask context _ _ remote).trans hfirst, hclient⟩

end Remote

/-- A provider answers at once, and closing it makes it like it was at first. -/
theorem Source.IsProvider.isPrompt {first : Source} (h : first.IsProvider) :
    ∃ alike, asked.IsPrompt alike ∧ alike first first ∧
      ∀ s, alike s s → alike (asked.close s) first := by
  cases first with
  | script answers => cases h
  | document content =>
      refine ⟨_, isPrompt_document content, ⟨rfl, rfl⟩, ?_⟩
      rintro _ ⟨rfl, -⟩
      exact ⟨rfl, rfl⟩
  | remote r =>
      refine ⟨_, r.isPrompt, ⟨r, r, rfl, rfl, rfl, .refl r⟩, ?_⟩
      rintro _ ⟨remote, -, rfl, -, hfirst, -⟩
      obtain ⟨haddress, hpolicy, hservice⟩ := Remote.untouched_inj.1 hfirst
      refine ⟨_, r, rfl, rfl, hfirst, haddress.symm, hpolicy.symm, hservice.symm, ?_⟩
      exact Eq.trans h (congrArg HttpClient.opened haddress.symm)

end ErDiagram
