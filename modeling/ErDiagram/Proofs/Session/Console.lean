import ErDiagram.Proofs.Session.Frame
import ErDiagram.Session.Command

/-!
# Consoles and runs

Whatever a console does with a session takes it through events: settling begins the tasks that wait, in
their order, and goes on with every cycle; letting time pass reaches one time after the other. So what holds
after every run holds of every session behind a console.
-/

namespace ErDiagram

variable {σ : Type} {source : MetadataSource σ}

namespace Session

/-- Whether events lead from one session to another. -/
def Reaches (source : MetadataSource σ) (s t : Session σ) : Prop :=
  ∃ events, t = s.through source events

theorem Reaches.refl (s : Session σ) : Reaches source s s :=
  ⟨[], rfl⟩

theorem Reaches.trans {s t u : Session σ} (h : Reaches source s t) (h' : Reaches source t u) :
    Reaches source s u := by
  obtain ⟨events, rfl⟩ := h
  obtain ⟨others, rfl⟩ := h'
  exact ⟨events ++ others, List.foldl_append.symm⟩

theorem reaches_occur (s : Session σ) (e : SessionEvent σ) : Reaches source s (s.occur source e) :=
  ⟨[e], rfl⟩

theorem conclusion_pending (s : Session σ) (tasks : List Task) (ticket : Nat)
    (calls : List SourceCall) (v : View) :
    ({ s with pending := tasks } : Session σ).conclusion ticket calls v =
      { s.conclusion ticket calls v with pending := tasks } := by
  rw [conclusion_eq, conclusion_eq]
  rfl

private theorem conclude_pending (s : Session σ) (tasks : List Task) (cycle : Cycle)
    (result : CycleResult) :
    ({ s with pending := tasks } : Session σ).conclude cycle result =
      { s.conclude cycle result with pending := tasks } := by
  unfold conclude
  simp only
  split
  · rfl
  · rfl
  · exact s.conclusion_pending tasks _ _ _

/-- What a task that begins leads to does not depend on the tasks that wait. -/
theorem begin_pending (s : Session σ) (tasks : List Task) (task : Task) :
    ({ s with pending := tasks } : Session σ).begin source task =
      { s.begin source task with pending := tasks } := by
  have hready : ({ s with pending := tasks } : Session σ).readied task.kind =
      { s.readied task.kind with pending := tasks } := by
    cases task.kind with
    | rebuild => rfl
    | activate =>
        simp only [readied, attach]
        split <;> rfl
  rw [begin_eq, begin_eq, hready]
  generalize s.readied task.kind = ready
  cases hwanted : ready.context.wantedSchema with
  | none =>
      simp only
      exact ready.conclusion_pending tasks _ _ _
  | some schema =>
      simp only
      have hcycle : ({ ready with pending := tasks } : Session σ).cycleOf source task schema =
          ready.cycleOf source task schema := rfl
      rw [beginCycle_eq, beginCycle_eq, hcycle]
      cases (ready.cycleOf source task schema).work.result? with
      | none => rfl
      | some result =>
          exact (ready.asked source schema).conclude_pending tasks
            (ready.cycleOf source task schema) _

/-- The tasks that wait begin one after the other. -/
theorem beginPending_eq (s : Session σ) :
    s.beginPending source = s.through source (s.pending.map .start) := by
  rw [beginPending, through]
  generalize htasks : s.pending = tasks
  induction tasks generalizing s with
  | nil =>
      have hnone : ({ s with pending := [] } : Session σ) = s := by
        rw [← htasks]
      rw [hnone]
      rfl
  | cons task rest ih =>
      have hwithout : s.without task = { s with pending := rest } := by
        simp [without, htasks]
      have hmem : task ∈ s.pending := by
        rw [htasks]
        exact List.mem_cons_self
      have hnext : s.occur source (.start task) = { s.begin source task with pending := rest } := by
        simp only [occur, hmem, if_true, hwithout]
        exact s.begin_pending rest task
      rw [List.map_cons, List.foldl_cons, List.foldl_cons, hnext, ← ih _ rfl, begin_pending]

theorem reaches_progressAll (s : Session σ) : Reaches source s (s.progressAll source) := by
  refine ⟨s.cycles.map fun cycle => .progress cycle.ticket, ?_⟩
  rw [progressAll, through]
  rw [List.foldl_map, List.foldl_map]
  rfl

theorem reaches_settle (s : Session σ) : Reaches source s (s.settle source) := by
  rw [settle]
  rw [beginPending_eq]
  exact .trans ⟨_, rfl⟩ (reaches_progressAll _)

theorem reaches_arrive (s : Session σ) (time : Nat) : Reaches source s (s.arrive source time) :=
  (s.reaches_occur (.reach time)).trans (reaches_progressAll _)

private theorem reaches_elapseTo (target fuel : Nat) (s : Session σ) :
    Reaches source s (elapseTo source target fuel s) := by
  induction fuel generalizing s with
  | zero => exact s.reaches_occur (.reach target)
  | succ fuel ih =>
      rw [elapseTo]
      split
      · split
        · exact (s.reaches_arrive _).trans (ih _)
        · exact s.reaches_occur (.reach target)
      · exact s.reaches_occur (.reach target)

private theorem reaches_elapse (s : Session σ) (duration : Nat) :
    Reaches source s (s.elapse source duration) :=
  s.reaches_settle.trans (reaches_elapseTo _ _ _)

private theorem reaches_untilHolds (stop : Session σ → Bool) (fuel : Nat) (s : Session σ) :
    Reaches source s (untilHolds source stop fuel s) := by
  induction fuel generalizing s with
  | zero => exact .refl s
  | succ fuel ih =>
      rw [untilHolds]
      split
      · exact .refl s
      · split
        · exact (s.reaches_arrive _).trans (ih _)
        · exact .refl s

theorem reaches_awaitUntil (stop : Session σ → Bool) (s : Session σ) :
    Reaches source s (s.awaitUntil source stop) := by
  rw [awaitUntil]
  split
  · exact .refl s
  · exact s.reaches_settle.trans (reaches_untilHolds _ _ _)

end Session

namespace Console

open Session

/-- The event that a command is, where it is just one. -/
def eventOf? (inside : Bool) : SessionCommand σ → Option (SessionEvent σ)
  | .spawn _ kind => some (.schedule kind false)
  | .change what => some (.change inside what)
  | .assignSchema schema => some (.assignSchema schema)
  | .selectLayout kind => some (.selectLayout kind)
  | .attach => some .attach
  | .detach => some .detach
  | .alterSource alter => some (.alterSource alter)
  | .breakAggregation fault => some (.breakAggregation fault)
  | .breakAssembly fault => some (.breakAssembly fault)
  | .listen name failure removes => some (.listen name failure removes)
  | _ => none

private theorem session_execute_of_event {inside : Bool} {command : SessionCommand σ} {e : SessionEvent σ}
    (h : eventOf? inside command = some e) (c : Console σ) :
    (execute source inside command c).1.session = c.session.occur source e := by
  cases command <;> cases h <;> rw [execute] <;> rfl

private theorem reaches_unlisten (inside : Bool) (name : String) (c : Console σ) :
    Reaches source c.session (execute source inside (.unlisten name) c).1.session := by
  have hunlisten : Reaches source c.session (c.session.unlisten name) :=
    c.session.reaches_occur (.unlisten name)
  rw [unlisten] at hunlisten
  rw [execute]
  cases hremoved : c.session.listeners.removeNamed name with
  | ok listeners =>
      rw [hremoved] at hunlisten
      exact hunlisten
  | error fault => exact .refl _

mutual

/-- A command takes the session of a console through events. -/
theorem reaches_execute (inside : Bool) (command : SessionCommand σ) (c : Console σ) :
    Reaches source c.session (execute source inside command c).1.session := by
  cases hevent : eventOf? inside command with
  | some e =>
      rw [session_execute_of_event hevent]
      exact c.session.reaches_occur e
  | none =>
      cases command with
      | await kind =>
          rw [execute]
          exact (c.session.reaches_occur (.request kind)).trans (reaches_awaitUntil _ _)
      | join name =>
          rw [execute]
          split
          · exact reaches_awaitUntil _ _
          · exact .refl _
      | awaitQuiet =>
          rw [execute]
          exact reaches_awaitUntil _ _
      | elapse duration =>
          rw [execute]
          exact c.session.reaches_elapse duration
      | batch commands =>
          rw [execute]
          exact reaches_executeAll inside commands c
      | outside command =>
          rw [execute]
          exact reaches_execute false command c
      | publish topic =>
          rw [execute]
          split
          · exact c.session.reaches_occur (.publish inside _)
          · exact .refl _
      | unlisten name => exact reaches_unlisten inside name c
      | relationships table =>
          rw [execute]
          exact .refl _
      | snapshot | subscribers | history | selection =>
          rw [execute]
          exact .refl _
      -- the other commands are events
      | _ => cases hevent

theorem reaches_executeAll (inside : Bool) (commands : List (SessionCommand σ)) (c : Console σ) :
    Reaches source c.session (executeAll source inside commands c).1.session := by
  cases commands with
  | nil =>
      rw [executeAll]
      exact .refl _
  | cons command rest =>
      rw [executeAll]
      exact (reaches_execute inside command c).trans (reaches_executeAll inside rest _)

end

private theorem reaches_perform (command : SessionCommand σ) (c : Console σ) :
    Reaches source c.session (perform source command c).1.session :=
  (reaches_execute true command c).trans (reaches_settle _)

theorem run_of_commands (source : MetadataSource σ) (commands : List (SessionCommand σ))
    (c : Console σ) :
    ∃ moments, Run source (fun _ => True) c.session moments
      (commands.foldl (fun c command => (perform source command c).1) c).session := by
  have hreaches : Reaches source c.session
      (commands.foldl (fun c command => (perform source command c).1) c).session := by
    induction commands generalizing c with
    | nil => exact .refl _
    | cons command rest ih => exact (reaches_perform command c).trans (ih _)
  obtain ⟨events, hevents⟩ := hreaches
  rw [hevents]
  exact ⟨_, Run.nil.through events fun _ _ => trivial⟩

end Console

end ErDiagram
