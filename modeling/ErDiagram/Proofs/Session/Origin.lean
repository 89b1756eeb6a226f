import ErDiagram.Proofs.Session.Overlap

/-!
# Where cycles and offers come from

A cycle that is under way was under way before, has gone on by a round of work, or has just begun on the
schema that is wanted. A rebuild that ends offers nothing, or what such a cycle has come to. So what holds
of every cycle that begins and is kept by a round of work holds of every cycle of a run, and of every cycle
that ends.
-/

namespace ErDiagram

variable {σ : Type}

/-- Where a cycle after an event comes from, told by the session before and the ticket of the rebuild that
begins at the event. -/
inductive Cycle.Origin (source : MetadataSource σ) (s : Session σ) (begins : Option Nat) :
    Cycle → Prop where
  | kept (cycle : Cycle) (mem : cycle ∈ s.cycles) : Origin source s begins cycle
  | gone (cycle : Cycle) (mem : cycle ∈ s.cycles) :
      Origin source s begins (cycle.goneOn (s.roundOf source cycle))
  | begun (task : Task) (schema : CodeString) (wanted : s.context.wantedSchema = some schema)
      (started : begins = some task.ticket) : Origin source s begins (s.cycleOf source task schema)

/-- What the rebuild that ends at an event offers, and the requests that were made for it. -/
inductive Closing.Origin (source : MetadataSource σ) (s : Session σ) (begins : Option Nat)
    (e : SessionEvent σ) (c : Closing σ) : Prop where
  | nothing (offer : c.offer = .nothing) (calls : c.calls = [])
  | result (cycle : Cycle) (origin : cycle.Origin source s begins)
      (result : Except Fault Collected) (assembling : Option Fault)
      (reached : cycle.work.result? = some result ∨ ∃ ticket, e = .halt ticket result)
      (offer : c.offer = .result cycle.schema (.ofCollection assembling result))
      (calls : c.calls = cycle.calls) (generation : c.generation = cycle.generation)
      (assembled : assembling = s.brokenAssembly) (ticket : c.ticket = cycle.ticket)

variable {source : MetadataSource σ}

namespace Session

/-- A cycle begins alike in sessions that differ only in their tasks, tickets and subscriptions. -/
theorem cycleOf_of_same {s t : Session σ} (hview : t.view = s.view) (hclock : t.clock = s.clock)
    (hcontext : t.context = s.context) (hsource : t.source = s.source)
    (hbroken : t.brokenAggregation = s.brokenAggregation) (task : Task) (schema : CodeString) :
    t.cycleOf source task schema = s.cycleOf source task schema := by
  simp only [cycleOf, startWork, hview, hclock, hcontext, hsource, hbroken]

variable (source) in
/-- A task that begins adds its cycle to those that are there, or offers what that cycle has come to. -/
theorem origin_begin (s : Session σ) (task : Task) :
    (∀ cycle ∈ (s.begin source task).cycles, cycle.Origin source s (some task.ticket)) ∧
      ∀ c e, s.beginning? source task = some c → c.Origin source s (some task.ticket) e := by
  obtain ⟨bus, subscriptions, hready⟩ := s.readied_eq task.kind
  have hcycles : (s.readied task.kind).cycles = s.cycles := by rw [hready]
  have hcontext : (s.readied task.kind).context = s.context := by rw [hready]
  have hassembly : (s.readied task.kind).brokenAssembly = s.brokenAssembly := by rw [hready]
  have hcycle : ∀ schema, (s.readied task.kind).cycleOf source task schema =
      s.cycleOf source task schema := by
    rw [hready]
    exact cycleOf_of_same rfl rfl rfl rfl rfl task
  have hbeginning := s.beginning source task
  generalize s.begin source task = t at hbeginning ⊢
  generalize s.beginning? source task = closing at hbeginning ⊢
  generalize s.readied task.kind = ready at hbeginning hcycles hcontext hassembly hcycle
  cases hbeginning with
  | empty wanted =>
      rw [Closing.after_cycles]
      refine ⟨fun cycle hmem => .kept cycle (hcycles ▸ hmem), ?_⟩
      intro c e hc
      obtain rfl := Option.some.inj hc
      exact .nothing rfl rfl
  | ended schema result wanted reached =>
      rw [hcontext] at wanted
      rw [hcycle] at reached ⊢
      rw [Closing.after_cycles]
      refine ⟨fun cycle hmem => .kept cycle (hcycles ▸ hmem), ?_⟩
      intro c e hc
      obtain rfl := Option.some.inj hc
      exact .result _ (.begun task schema wanted rfl) result ready.brokenAssembly (.inl reached) rfl rfl
        rfl hassembly rfl
  | underWay schema wanted unreached =>
      rw [hcontext] at wanted
      rw [hcycles, hcycle]
      constructor
      · intro cycle hmem
        rcases List.mem_append.1 hmem with hmem | hmem
        · exact .kept cycle hmem
        · rw [List.mem_singleton.1 hmem]
          exact .begun task schema wanted rfl
      · intro c e hc
        cases hc

variable (source) in
/-- A cycle that goes on stays among the others, or it ends and offers what it has come to. -/
theorem origin_progress (s : Session σ) (ticket : Nat) :
    (∀ cycle ∈ (s.progress source ticket).cycles, cycle.Origin source s none) ∧
      ∀ c e, s.ending? source ticket = some c → c.Origin source s none e := by
  have hadvance := s.advance source ticket
  generalize s.progress source ticket = t at hadvance ⊢
  generalize s.ending? source ticket = closing at hadvance ⊢
  cases hadvance with
  | missing unknown =>
      refine ⟨fun cycle hmem => .kept cycle hmem, ?_⟩
      intro c e hc
      cases hc
  | ended cycle result found reached =>
      obtain ⟨hcycle, -⟩ := cycle?_eq_some found
      rw [Closing.after_cycles]
      constructor
      · intro other hother
        exact .kept other (List.mem_filter.1 hother).1
      · intro c e hc
        obtain rfl := Option.some.inj hc
        exact .result _ (.gone cycle hcycle) result s.brokenAssembly (.inl reached) rfl rfl rfl rfl
          rfl
  | underWay cycle found unreached =>
      obtain ⟨hcycle, -⟩ := cycle?_eq_some found
      constructor
      · intro next hnext
        obtain ⟨before, hbefore, rfl⟩ := List.mem_map.1 hnext
        split
        · exact .gone cycle hcycle
        · exact .kept before hbefore
      · intro c e hc
        cases hc

variable (source) in
private theorem origin_halt (s : Session σ) (ticket : Nat) (result : Except Fault Collected) :
    (∀ cycle ∈ (s.halt ticket result).cycles, cycle.Origin source s none) ∧
      ∀ c, s.halting? ticket result = some c → c.Origin source s none (.halt ticket result) := by
  have hhalt := s.halting ticket result
  generalize s.halt ticket result = t at hhalt ⊢
  generalize s.halting? ticket result = closing at hhalt ⊢
  cases hhalt with
  | missing unknown =>
      refine ⟨fun cycle hmem => .kept cycle hmem, ?_⟩
      intro c hc
      cases hc
  | ended cycle found =>
      obtain ⟨hcycle, -⟩ := cycle?_eq_some found
      rw [Closing.after_cycles]
      constructor
      · intro other hother
        exact .kept other (List.mem_filter.1 hother).1
      · intro c hc
        obtain rfl := Option.some.inj hc
        exact .result _ (.kept cycle hcycle) result s.brokenAssembly (.inr ⟨ticket, rfl⟩) rfl rfl rfl rfl
          rfl

end Session

/-- Where a cycle comes from does not depend on tasks and tickets. -/
theorem Cycle.Origin.of_same {s t : Session σ} {begins : Option Nat} {cycle : Cycle}
    (h : cycle.Origin source t begins) (hcycles : t.cycles = s.cycles) (hview : t.view = s.view)
    (hclock : t.clock = s.clock) (hlimits : t.limits = s.limits) (hcontext : t.context = s.context)
    (hsource : t.source = s.source) (hbroken : t.brokenAggregation = s.brokenAggregation) :
    cycle.Origin source s begins := by
  cases h with
  | kept cycle mem =>
      rw [hcycles] at mem
      exact .kept cycle mem
  | gone cycle mem =>
      rw [hcycles] at mem
      have hround : t.roundOf source cycle = s.roundOf source cycle := by
        simp only [Session.roundOf, hclock, hlimits, hcontext, hsource]
      rw [hround]
      exact .gone cycle mem
  | begun task schema wanted started =>
      rw [hcontext] at wanted
      rw [Session.cycleOf_of_same hview hclock hcontext hsource hbroken]
      exact .begun task schema wanted started

theorem Closing.Origin.of_same {s t : Session σ} {begins : Option Nat} {e : SessionEvent σ}
    {c : Closing σ} (h : c.Origin source t begins e)
    (horigin : ∀ cycle : Cycle, cycle.Origin source t begins → cycle.Origin source s begins)
    (hassembly : t.brokenAssembly = s.brokenAssembly) : c.Origin source s begins e := by
  cases h with
  | nothing offer calls => exact .nothing offer calls
  | result cycle origin result assembling reached offer calls generation assembled ticket =>
      exact .result cycle (horigin cycle origin) result assembling reached offer calls generation
        (assembled.trans hassembly) ticket

/-- Where the cycles after an event and the rebuild that ends at it come from. -/
theorem origin_occur (source : MetadataSource σ) (s : Session σ) (e : SessionEvent σ) :
    (∀ cycle ∈ (s.occur source e).cycles, cycle.Origin source s (Moment.begun? ⟨s, e⟩)) ∧
      ∀ c, Moment.closing? source ⟨s, e⟩ = some c →
        c.Origin source s (Moment.begun? ⟨s, e⟩) e := by
  have hkept : ∀ {t : Session σ} {begins : Option Nat}, t.cycles = s.cycles →
      ∀ cycle ∈ t.cycles, cycle.Origin source s begins := by
    intro t begins hcycles cycle hmem
    rw [hcycles] at hmem
    exact .kept cycle hmem
  cases e with
  | request kind =>
      obtain ⟨hcycles, hclosing⟩ := s.issued.origin_begin source
        ⟨s.nextTicket, kind, false⟩
      have hsame : ∀ {begins} (cycle : Cycle), cycle.Origin source s.issued begins →
          cycle.Origin source s begins :=
        fun cycle h => h.of_same rfl rfl rfl rfl rfl rfl rfl
      exact ⟨fun cycle h => hsame cycle (hcycles cycle h),
        fun c hc => (hclosing c _ hc).of_same hsame rfl⟩
  | start task =>
      by_cases h : task ∈ s.pending
      · obtain ⟨hcycles, hclosing⟩ := (s.without task).origin_begin source task
        have hsame : ∀ {begins} (cycle : Cycle), cycle.Origin source (s.without task) begins →
            cycle.Origin source s begins :=
          fun cycle h => h.of_same rfl rfl rfl rfl rfl rfl rfl
        simp only [Session.occur, Moment.closing?, Moment.begun?, h, if_true]
        exact ⟨fun cycle h => hsame cycle (hcycles cycle h),
          fun c hc => (hclosing c _ hc).of_same hsame rfl⟩
      · simp only [Session.occur, Moment.closing?, Moment.begun?, h, if_false]
        exact ⟨hkept rfl, fun c hc => by cases hc⟩
  | progress ticket =>
      obtain ⟨hcycles, hclosing⟩ := s.origin_progress source ticket
      exact ⟨hcycles, fun c hc => hclosing c _ hc⟩
  | halt ticket result => exact s.origin_halt source ticket result
  | change inside what =>
      simp only [Session.occur, Session.change_eq]
      exact ⟨hkept rfl, fun c hc => by cases hc⟩
  | publish inside topic =>
      simp only [Session.occur, Session.publish_eq]
      exact ⟨hkept rfl, fun c hc => by cases hc⟩
  | selectLayout kind =>
      obtain ⟨view, listeners, notices, heq⟩ := s.selectLayout_eq kind
      simp only [Session.occur, heq]
      exact ⟨hkept rfl, fun c hc => by cases hc⟩
  | attach =>
      obtain ⟨bus, subscriptions, heq⟩ := s.attach_eq
      simp only [Session.occur, heq]
      exact ⟨hkept rfl, fun c hc => by cases hc⟩
  | unlisten name =>
      obtain ⟨listeners, heq⟩ := s.unlisten_eq name
      simp only [Session.occur, heq]
      exact ⟨hkept rfl, fun c hc => by cases hc⟩
  -- no other event has to do with cycles
  | _ => exact ⟨hkept rfl, fun c hc => by cases hc⟩

section Runs

variable {allowed : Moment σ → Prop} {first s : Session σ} {moments : List (Moment σ)}
variable {P : Cycle → Prop}

/-- What every cycle has that begins at a moment of a run, and keeps by a round of work, every cycle of the
run has. -/
theorem Run.forall_cycles_of_begun (run : Run source allowed first moments s)
    (hfirst : ∀ cycle ∈ first.cycles, P cycle)
    (hbegun : ∀ m ∈ moments, ∀ task schema, m.begun? = some task.ticket →
      m.session.context.wantedSchema = some schema → P (m.session.cycleOf source task schema))
    (hgone : ∀ (s : Session σ) cycle, P cycle → P (cycle.goneOn (s.roundOf source cycle))) :
    ∀ cycle ∈ s.cycles, P cycle := by
  induction run with
  | nil => exact hfirst
  | @snoc moments s run e h ih =>
      have hbefore := ih fun m hm => hbegun m (List.mem_append_left _ hm)
      intro cycle hmem
      cases (origin_occur source s e).1 cycle hmem with
      | kept cycle mem => exact hbefore cycle mem
      | gone cycle mem => exact hgone s cycle (hbefore cycle mem)
      | begun task schema wanted started =>
          exact hbegun ⟨s, e⟩ (List.mem_append_right _ List.mem_cons_self) task schema started wanted

/-- A rebuild that has ended at a moment offered nothing, or what a cycle has come to that has this too, as it
was assembled at that moment. -/
theorem Run.forall_closings_of_begun (run : Run source allowed first moments s)
    (hfirst : ∀ cycle ∈ first.cycles, P cycle)
    (hbegun : ∀ m ∈ moments, ∀ task schema, m.begun? = some task.ticket →
      m.session.context.wantedSchema = some schema → P (m.session.cycleOf source task schema))
    (hgone : ∀ (s : Session σ) cycle, P cycle → P (cycle.goneOn (s.roundOf source cycle)))
    {c : Closing σ} (hc : c ∈ closings source moments) :
    c.offer = .nothing ∨ ∃ m ∈ moments, allowed m ∧ m.closing? source = some c ∧ ∃ cycle, P cycle ∧
      c.ticket = cycle.ticket ∧ ∃ result,
        (cycle.work.result? = some result ∨ ∃ ticket, m.event = .halt ticket result) ∧
        c.offer = .result cycle.schema (.ofCollection m.session.brokenAssembly result) := by
  obtain ⟨m, hm, hclosing⟩ := List.mem_filterMap.1 hc
  obtain ⟨earlier, later, hsplit⟩ := List.append_of_mem hm
  obtain ⟨hrun, hallowed⟩ := run.of_append hsplit
  have hearlier : ∀ m ∈ earlier, m ∈ moments := by
    intro m hm
    rw [hsplit]
    exact List.mem_append_left _ hm
  have hcycles := hrun.forall_cycles_of_begun hfirst (fun m hm => hbegun m (hearlier m hm)) hgone
  cases (origin_occur source m.session m.event).2 c hclosing with
  | nothing offer calls => exact .inl offer
  | result cycle origin result assembling reached offer calls generation assembled ticket =>
      rw [assembled] at offer
      refine .inr ⟨m, hm, hallowed, hclosing, cycle, ?_, ticket, result, reached, offer⟩
      cases origin with
      | kept cycle mem => exact hcycles cycle mem
      | gone cycle mem => exact hgone m.session cycle (hcycles cycle mem)
      | begun task schema wanted started => exact hbegun m hm task schema started wanted

/-- The same of what every cycle has when it begins, whatever the session is. -/
theorem Run.forall_closings (run : Run source allowed first moments s)
    (hfirst : ∀ cycle ∈ first.cycles, P cycle)
    (hbegun : ∀ (s : Session σ) task schema, s.context.wantedSchema = some schema →
      P (s.cycleOf source task schema))
    (hgone : ∀ (s : Session σ) cycle, P cycle → P (cycle.goneOn (s.roundOf source cycle)))
    {c : Closing σ} (hc : c ∈ closings source moments) :
    c.offer = .nothing ∨ ∃ m ∈ moments, allowed m ∧ ∃ cycle, P cycle ∧
      ∃ result assembling,
        (cycle.work.result? = some result ∨ ∃ ticket, m.event = .halt ticket result) ∧
        c.offer = .result cycle.schema (.ofCollection assembling result) := by
  refine (run.forall_closings_of_begun hfirst (fun m _ task schema _ => hbegun m.session task schema)
    hgone hc).imp id ?_
  rintro ⟨m, hm, hallowed, -, cycle, hcycle, -, result, reached, offer⟩
  exact ⟨m, hm, hallowed, cycle, hcycle, result, m.session.brokenAssembly, reached, offer⟩

end Runs

end ErDiagram
