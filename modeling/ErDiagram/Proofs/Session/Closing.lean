import ErDiagram.Proofs.Session.Run

/-!
# The ends of rebuilds

Whatever ends a rebuild does what `Closing.after` says. A rebuild of the latest generation shows its offer
and tells the listeners, unless the layout cannot place it; any other rebuild leaves the view, the
listeners and the notices as they are. Both are noted among the rebuilds that have finished.
-/

namespace ErDiagram

namespace Session

variable {σ : Type}

/-- What the rebuild that shows a view is noted to have come to: a listener that fails makes it fail. -/
def told (s : Session σ) (v : View) : Except Fault Bool :=
  match (s.listeners.notify v.diagram).2.2 with
  | none => .ok true
  | some fault => .error fault

theorem conclusion_eq (s : Session σ) (ticket : Nat) (calls : List SourceCall) (v : View) :
    s.conclusion ticket calls v =
      { s with
        view := v
        listeners := (s.listeners.notify v.diagram).1
        notices := s.notices ++ (s.listeners.notify v.diagram).2.1
        finished := s.finished ++ [⟨ticket, s.told v, v, calls⟩] } := by
  unfold conclusion present told
  cases hfailure : (s.listeners.notify v.diagram).2.2 with
  | none =>
      simp only [hfailure]
      rfl
  | some fault =>
      simp only [hfailure]
      rfl

theorem attach_eq (s : Session σ) :
    ∃ bus subscriptions, s.attach = { s with bus := bus, subscriptions := subscriptions } := by
  rw [attach]
  split
  · exact ⟨_, _, rfl⟩
  · exact ⟨s.bus, s.subscriptions, rfl⟩

/-- A task finds in the session what it is about to read, however it begins. -/
theorem readied_eq (s : Session σ) (kind : TaskKind) :
    ∃ bus subscriptions, s.readied kind = { s with bus := bus, subscriptions := subscriptions } := by
  cases kind with
  | rebuild => exact ⟨s.bus, s.subscriptions, rfl⟩
  | activate => exact s.attach_eq

theorem unlisten_eq (s : Session σ) (name : String) :
    ∃ listeners, s.unlisten name = { s with listeners := listeners } := by
  rw [unlisten]
  cases s.listeners.removeNamed name with
  | ok listeners => exact ⟨listeners, rfl⟩
  | error fault => exact ⟨s.listeners, rfl⟩

theorem selectLayout_eq (s : Session σ) (kind : Json) :
    ∃ view listeners notices, (s.selectLayout kind).1 =
      { s with view := view, listeners := listeners, notices := notices } := by
  rw [selectLayout]
  cases s.view.selectLayout kind with
  | error fault => exact ⟨s.view, s.listeners, s.notices, rfl⟩
  | ok selected =>
      simp only
      cases selected.replace with
      | error fault => exact ⟨selected, s.listeners, s.notices, rfl⟩
      | ok placed =>
          simp only [present]
          cases (s.listeners.notify placed.diagram).2.2 with
          | none => exact ⟨_, _, _, rfl⟩
          | some fault => exact ⟨_, _, _, rfl⟩

theorem begin_eq (source : MetadataSource σ) (s : Session σ) (task : Task) :
    s.begin source task =
      match (s.readied task.kind).context.wantedSchema with
      | none => (s.readied task.kind).beginEmpty task
      | some schema => (s.readied task.kind).beginCycle source task schema := by
  unfold begin readied
  cases task.kind <;> rfl

theorem beginCycle_eq (source : MetadataSource σ) (s : Session σ) (task : Task) (schema : CodeString) :
    s.beginCycle source task schema =
      match (s.cycleOf source task schema).work.result? with
      | some result => (s.asked source schema).concludeWork (s.cycleOf source task schema) result
      | none => { s.asked source schema with
          cycles := s.cycles ++ [s.cycleOf source task schema] } := rfl

theorem progress_eq (source : MetadataSource σ) (s : Session σ) (ticket : Nat) :
    s.progress source ticket =
      match s.cycle? ticket with
      | none => s
      | some cycle =>
        match (s.roundOf source cycle).work.result? with
        | some result =>
          ((s.landed ticket).drawn (s.roundOf source cycle)).concludeWork
            (cycle.goneOn (s.roundOf source cycle)) result
        | none =>
          { s.drawn (s.roundOf source cycle) with
            cycles := s.cycles.map fun c =>
              if c.ticket = ticket then cycle.goneOn (s.roundOf source cycle) else c } := rfl

end Session

namespace Closing

variable {σ : Type}

def outcome (c : Closing σ) : Except Fault Bool :=
  if c.session.view.isLatest c.generation then
    match c.offer.commit c.session.view with
    | .ok shown => c.session.told shown
    | .error fault => .error fault
  else .ok false

theorem after_of_latest {c : Closing σ} (h : c.generation = c.session.view.generation)
    {shown : View} (hshown : c.offer.commit c.session.view = .ok shown) :
    c.after = c.session.conclusion c.ticket c.calls shown := by
  simp [after, View.isLatest, h, hshown]

theorem after_of_not_latest {c : Closing σ} (h : c.generation ≠ c.session.view.generation) :
    c.after = c.session.finish c.ticket c.calls (.ok false) := by
  simp [after, View.isLatest, Ne.symm h]

theorem after_of_unplaced {c : Closing σ} (h : c.generation = c.session.view.generation)
    {fault : Fault} (hfault : c.offer.commit c.session.view = .error fault) :
    c.after = c.session.finish c.ticket c.calls (.error fault) := by
  simp [after, View.isLatest, h, hfault]

/-- A rebuild is superseded, or it shows its offer, or the offer cannot be placed. -/
theorem after_cases (c : Closing σ) :
    (c.generation ≠ c.session.view.generation ∧
        c.after = c.session.finish c.ticket c.calls (.ok false)) ∨
      (∃ shown, c.generation = c.session.view.generation ∧
        c.offer.commit c.session.view = .ok shown ∧
        c.after = c.session.conclusion c.ticket c.calls shown) ∨
      ∃ fault, c.generation = c.session.view.generation ∧
        c.offer.commit c.session.view = .error fault ∧
        c.after = c.session.finish c.ticket c.calls (.error fault) := by
  by_cases h : c.generation = c.session.view.generation
  · right
    cases hcommit : c.offer.commit c.session.view with
    | ok shown => exact .inl ⟨shown, h, rfl, after_of_latest h hcommit⟩
    | error fault => exact .inr ⟨fault, h, rfl, after_of_unplaced h hcommit⟩
  · exact .inl ⟨h, after_of_not_latest h⟩

/-- The end of a rebuild concerns the view, the listeners and what is noted. -/
theorem after_eq (c : Closing σ) :
    ∃ view listeners notices finished, c.after =
      { c.session with
        view := view
        listeners := listeners
        notices := notices
        finished := finished } := by
  rcases c.after_cases with ⟨-, h⟩ | ⟨shown, -, -, h⟩ | ⟨fault, -, -, h⟩
  · exact ⟨_, _, _, _, h⟩
  · rw [Session.conclusion_eq] at h
    exact ⟨_, _, _, _, h⟩
  · exact ⟨_, _, _, _, h⟩

@[simp] theorem after_flights (c : Closing σ) : c.after.flights = c.session.flights := by
  obtain ⟨view, listeners, notices, finished, h⟩ := c.after_eq
  rw [h]
  rfl

@[simp] theorem after_cycles (c : Closing σ) : c.after.cycles = c.session.cycles := by
  obtain ⟨view, listeners, notices, finished, h⟩ := c.after_eq
  rw [h]

theorem after_finished (c : Closing σ) :
    c.after.finished = c.session.finished ++ [⟨c.ticket, c.outcome, c.after.view, c.calls⟩] := by
  rcases c.after_cases with ⟨hold, h⟩ | ⟨shown, hlatest, hshown, h⟩ | ⟨fault, hlatest, hfault, h⟩
  · have houtcome : c.outcome = .ok false := by simp [outcome, View.isLatest, Ne.symm hold]
    rw [houtcome, h]
    rfl
  · have houtcome : c.outcome = c.session.told shown := by
      simp [outcome, View.isLatest, hlatest, hshown]
    rw [houtcome, h, Session.conclusion_eq]
  · have houtcome : c.outcome = .error fault := by simp [outcome, View.isLatest, hlatest, hfault]
    rw [houtcome, h]
    rfl

/-- The view after a rebuild is the one before its end or one that shows its offer. -/
theorem after_view_cases (c : Closing σ) :
    c.after.view = c.session.view ∨
      ∃ placed, Layout.apply c.offer.diagram c.session.view.layout c.session.view.box = .ok placed ∧
        c.after.view = { c.session.view with
          phase := c.offer.phase
          diagram := placed
          network := .ofDiagram placed
          schema := c.offer.schema
          error := c.offer.error
          diagnostics := c.offer.diagnostics } := by
  rcases c.after_cases with ⟨-, h⟩ | ⟨shown, -, hshown, h⟩ | ⟨fault, -, -, h⟩
  · rw [h]
    exact .inl rfl
  · obtain ⟨placed, hplaced, rfl⟩ := Offer.commit_eq_ok.1 hshown
    rw [h, Session.conclusion_eq]
    exact .inr ⟨placed, hplaced, rfl⟩
  · rw [h]
    exact .inl rfl

@[simp] theorem after_generation (c : Closing σ) :
    c.after.view.generation = c.session.view.generation := by
  rcases c.after_view_cases with h | ⟨placed, -, h⟩ <;> rw [h]

@[simp] theorem after_layout (c : Closing σ) : c.after.view.layout = c.session.view.layout := by
  rcases c.after_view_cases with h | ⟨placed, -, h⟩ <;> rw [h]

@[simp] theorem after_box (c : Closing σ) : c.after.view.box = c.session.view.box := by
  rcases c.after_view_cases with h | ⟨placed, -, h⟩ <;> rw [h]

/-- A rebuild commits when its generation is the latest and the layout can place its offer. -/
theorem commits_iff {c : Closing σ} :
    c.Commits ↔ c.generation = c.session.view.generation ∧
      ∃ shown, c.offer.commit c.session.view = .ok shown := by
  constructor
  · rintro ⟨shown, hshown, h⟩
    refine ⟨?_, shown, hshown⟩
    rcases c.after_cases with ⟨-, h'⟩ | ⟨-, hlatest, -⟩ | ⟨-, hlatest, -⟩
    · -- the two sessions note different ends
      rw [h', Session.conclusion_eq] at h
      have hlast := congrArg (fun s => s.finished.getLast?.map Finish.outcome) h
      simp only [Session.finish, List.getLast?_append, List.getLast?_singleton,
        Option.some_or, Option.map_some, Option.some.injEq] at hlast
      rw [Session.told] at hlast
      split at hlast <;> cases hlast
    · exact hlatest
    · exact hlatest
  · rintro ⟨hlatest, shown, hshown⟩
    exact ⟨shown, hshown, after_of_latest hlatest hshown⟩

end Closing

namespace Session

variable {σ : Type}

/-- A cycle ends as its closing says. -/
theorem concludeWork_eq (s : Session σ) (cycle : Cycle) (result : Except Fault Collected) :
    s.concludeWork cycle result = (s.closingOf cycle result).after := by
  by_cases h : s.view.generation = cycle.generation
  · have hlatest : (s.closingOf cycle result).generation =
        (s.closingOf cycle result).session.view.generation := h.symm
    rw [concludeWork, conclude]
    rw [Offer.conclude_of_latest h]
    cases hcommit : (Offer.result cycle.schema (.ofCollection s.brokenAssembly result)).commit
        s.view with
    | error fault =>
        rw [Closing.after_of_unplaced hlatest hcommit]
        rfl
    | ok shown =>
        rw [Closing.after_of_latest hlatest hcommit]
        rfl
  · have hold : (s.closingOf cycle result).generation ≠
        (s.closingOf cycle result).session.view.generation := Ne.symm h
    rw [Closing.after_of_not_latest hold]
    rw [concludeWork, conclude]
    rw [View.conclude_of_not_latest h]
    rfl

theorem beginEmpty_eq (s : Session σ) (task : Task) :
    s.beginEmpty task =
      (⟨s.emptied, task.ticket, [], s.view.generation + 1, .nothing⟩ : Closing σ).after := by
  generalize hc : (⟨s.emptied, task.ticket, [], s.view.generation + 1, .nothing⟩ : Closing σ) = c
  have hlatest : c.generation = c.session.view.generation := by
    rw [← hc]
    rfl
  have hcommit : c.offer.commit c.session.view = .ok s.view.clear := by
    rw [← hc]
    exact View.clear_eq_commit s.view
  rw [Closing.after_of_latest hlatest hcommit, ← hc]
  simp only [beginEmpty, conclusion_eq]
  rfl

/-- What can come of a task that begins, told by the session that it finds. -/
inductive Beginning (source : MetadataSource σ) (ready : Session σ) (task : Task) :
    Option (Closing σ) → Session σ → Prop where
  /-- Without a schema it ends at once. -/
  | empty (wanted : ready.context.wantedSchema = none) :
      Beginning source ready task
        (some ⟨ready.emptied, task.ticket, [], ready.view.generation + 1, .nothing⟩)
        (Closing.after ⟨ready.emptied, task.ticket, [], ready.view.generation + 1, .nothing⟩)
  /-- Its work comes to a result at once. -/
  | ended (schema : CodeString) (result : Except Fault Collected)
    (wanted : ready.context.wantedSchema = some schema)
    (reached : (ready.cycleOf source task schema).work.result? = some result) :
      Beginning source ready task
        (some ((ready.asked source schema).closingOf (ready.cycleOf source task schema) result))
        ((ready.asked source schema).closingOf (ready.cycleOf source task schema) result).after
  /-- It becomes a cycle. -/
  | underWay (schema : CodeString) (wanted : ready.context.wantedSchema = some schema)
    (unreached : (ready.cycleOf source task schema).work.result? = none) :
      Beginning source ready task none
        { ready.asked source schema with cycles := ready.cycles ++ [ready.cycleOf source task schema] }

theorem beginning (source : MetadataSource σ) (s : Session σ) (task : Task) :
    Beginning source (s.readied task.kind) task (s.beginning? source task) (s.begin source task) := by
  rw [begin_eq]
  rw [beginning?]
  generalize s.readied task.kind = ready
  simp only
  cases hwanted : ready.context.wantedSchema with
  | none =>
      simp only [beginEmpty_eq]
      exact .empty hwanted
  | some schema =>
      simp only [beginCycle_eq]
      cases hresult : (ready.cycleOf source task schema).work.result? with
      | none => exact .underWay schema hwanted hresult
      | some result =>
          simp only [concludeWork_eq, Option.map_some]
          exact .ended schema result hwanted hresult

/-- What can come of going on with the cycle of a ticket. -/
inductive Advance (source : MetadataSource σ) (s : Session σ) (ticket : Nat) :
    Option (Closing σ) → Session σ → Prop where
  | missing (unknown : s.cycle? ticket = none) : Advance source s ticket none s
  | ended (cycle : Cycle) (result : Except Fault Collected) (found : s.cycle? ticket = some cycle)
    (reached : (s.roundOf source cycle).work.result? = some result) :
      Advance source s ticket
        (some (((s.landed ticket).drawn (s.roundOf source cycle)).closingOf
          (cycle.goneOn (s.roundOf source cycle)) result))
        (((s.landed ticket).drawn (s.roundOf source cycle)).closingOf
          (cycle.goneOn (s.roundOf source cycle)) result).after
  | underWay (cycle : Cycle) (found : s.cycle? ticket = some cycle)
    (unreached : (s.roundOf source cycle).work.result? = none) :
      Advance source s ticket none
        { s.drawn (s.roundOf source cycle) with
          cycles := s.cycles.map fun c =>
            if c.ticket = ticket then cycle.goneOn (s.roundOf source cycle) else c }

theorem advance (source : MetadataSource σ) (s : Session σ) (ticket : Nat) :
    Advance source s ticket (s.ending? source ticket) (s.progress source ticket) := by
  rw [progress_eq]
  rw [ending?]
  cases hfound : s.cycle? ticket with
  | none => exact .missing hfound
  | some cycle =>
      simp only [Option.bind_some]
      cases hresult : (s.roundOf source cycle).work.result? with
      | none => exact .underWay cycle hfound hresult
      | some result =>
          simp only [concludeWork_eq, Option.map_some]
          exact .ended cycle result hfound hresult

/-- What can come of making the work of a cycle end. -/
inductive Halt (s : Session σ) (ticket : Nat) (result : Except Fault Collected) :
    Option (Closing σ) → Session σ → Prop where
  | missing (unknown : s.cycle? ticket = none) : Halt s ticket result none s
  | ended (cycle : Cycle) (found : s.cycle? ticket = some cycle) :
      Halt s ticket result (some ((s.landed ticket).closingOf cycle result))
        ((s.landed ticket).closingOf cycle result).after

theorem halting (s : Session σ) (ticket : Nat) (result : Except Fault Collected) :
    Halt s ticket result (s.halting? ticket result) (s.halt ticket result) := by
  rw [halting?, halt]
  cases hfound : s.cycle? ticket with
  | none => exact .missing hfound
  | some cycle =>
      simp only [concludeWork_eq, Option.map_some]
      exact .ended cycle hfound

end Session

end ErDiagram
