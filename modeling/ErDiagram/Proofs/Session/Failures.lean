import ErDiagram.Proofs.Aggregation.Answers
import ErDiagram.Proofs.Session.Origin
import ErDiagram.Proofs.Session.Standing

/-!
# What a view tells of a failure

A view that tells of an error tells of the failure of the rebuild that began last. When the list of tables
was refused, the view tells the wording of the cause as it is, and nothing where the cause has no wording.
Anything else that goes wrong on the way is told by its wording or else by its kind, so that something is
told. `error_told` says what can go wrong and where it does.
-/

namespace ErDiagram

variable {σ : Type}

/-- What makes a rebuild fail: a list of tables that was refused for a cause, or anything else. -/
inductive Failure
  | refusal (cause : Fault)
  | other (fault : Fault)

namespace Failure

def told : Failure → CodeString
  | refusal cause => cause.message
  | other fault => fault.text

/-- The failure that a fault of the collection makes. -/
def ofFault : Fault → Failure
  | .listing _ cause => refusal cause
  | fault => other fault

private theorem told_ofFault (fault : Fault) : (ofFault fault).told = CycleResult.errorText fault := by
  cases fault <;> rfl

end Failure

/-- Every kind of fault has a name, unless it is a fault that is known by an empty name only. -/
theorem Fault.kindName_eq_empty {fault : Fault} :
    fault.kindName = "" ↔ ∃ message, fault = .raised "" message := by
  constructor
  · intro h
    cases fault with
    | raised kind message => exact ⟨message, congrArg (Fault.raised · message) h⟩
    | unreadable cause =>
      cases cause <;> exact absurd h (by simp [kindName, readingKind])
    | hostName cause =>
      cases cause <;> exact absurd h (by simp [kindName, Uri.Domain.NameFault.kindName])
    | _ => exact absurd h (by simp [kindName])
  · rintro ⟨message, rfl⟩
    rfl

/-- Nothing is told only where a list was refused for a cause without wording, or of what has no name. -/
theorem Failure.told_eq_empty {failure : Failure} :
    failure.told = "" ↔ (∃ cause, failure = .refusal cause ∧ cause.message = "") ∨
      ∃ message, failure = .other (.raised "" message) ∧ message.getD "" = "" := by
  cases failure with
  | refusal cause => simp [told]
  | other fault =>
    constructor
    · intro h
      right
      by_cases worded : fault.message = ""
      · rw [told, Fault.text_eq_kindName worded] at h
        obtain ⟨message, rfl⟩ := Fault.kindName_eq_empty.1 (CodeString.whole.inj h)
        exact ⟨message, rfl, worded⟩
      · rw [told, Fault.text_eq_message worded] at h
        exact absurd h worded
    · rintro (⟨cause, h, -⟩ | ⟨message, h, silent⟩)
      · cases h
      · cases h
        exact Fault.text_eq_kindName silent

namespace Work

/-- The fault that work ends with when this is the answer to the request for the list. -/
inductive EndsWith (schema : CodeString) : Except Fault Listing → Fault → Prop
  | refused (cause : Fault) : EndsWith schema (.error cause) (.listing schema cause)
  | unlisted {list : Listing} {fault : Fault} (rows : list.rows = .error fault) :
      EndsWith schema (.ok list) fault

/-- The fault that work has ended with, or will end with when the list arrives. -/
inductive FailsWith : Work → Fault → Prop
  | ended (fault : Fault) : FailsWith (.ended (.error fault)) fault
  | listing {schema : CodeString} {answer : Except Fault Listing} {fault : Fault} (due : Option Nat)
      (h : EndsWith schema answer fault) : FailsWith (.listing schema due answer) fault

variable {source : MetadataSource σ} {limits : FetchLimits} {context : Context} {schema : CodeString}
variable {now : Nat} {s : σ} {fault : Fault}

private theorem failsWith_of_result {work : Work} (h : work.result? = some (.error fault)) :
    work.FailsWith fault := by
  cases work with
  | ended result =>
    obtain rfl := Option.some.inj h
    exact .ended fault
  | listing schema due answer => cases h
  | fetching schema fetches => cases h

theorem endsWith_of_listed {answer : Except Fault Listing} (h : (listed schema answer).FailsWith fault) :
    EndsWith schema answer fault := by
  unfold listed at h
  split at h
  · cases h
    exact .refused _
  · split at h
    · next rows =>
      cases h
      exact .unlisted rows
    · cases h
    · cases h

private theorem endsWith_of_start (h : (start source context schema now s).work.FailsWith fault) :
    EndsWith schema (source.listTables context schema s).1.outcome fault := by
  rw [start] at h
  simp only at h
  split at h
  · exact endsWith_of_listed h
  · cases h with
    | listing due ends => exact ends
  · cases h with
    | listing due ends => exact ends

theorem not_failsWith_fetch (fetches : List Fetch) :
    ¬ (fetch source limits context now schema fetches s).work.FailsWith fault := by
  intro h
  simp only [fetch, ofFetches] at h
  split at h <;> cases h

/-- Work that goes on fails with nothing but what it would have failed with before. -/
theorem failsWith_of_advance {work : Work}
    (h : (advance source limits context now work s).work.FailsWith fault) : work.FailsWith fault := by
  unfold advance at h
  split at h
  · next schema due answer =>
    split at h
    · have ends : (listed schema answer).FailsWith fault → EndsWith schema answer fault :=
        endsWith_of_listed
      generalize listed schema answer = next at h ends
      split at h
      · exact absurd h (not_failsWith_fetch _)
      · exact .listing (some due) (ends h)
    · exact h
  · exact absurd h (not_failsWith_fetch _)
  · exact h

end Work

/-- The fault that the work on a schema can end with when it begins at a moment. -/
inductive Moment.Spoils (source : MetadataSource σ) (m : Moment σ) (schema : CodeString) : Fault → Prop
  | aggregation {fault : Fault} (broken : m.session.brokenAggregation = some fault) :
      Spoils source m schema fault
  | listing {fault : Fault} (ends : Work.EndsWith schema
      (source.listTables m.session.context schema m.session.source).1.outcome fault) :
      Spoils source m schema fault

theorem Session.spoils_of_cycleOf {source : MetadataSource σ} (m : Moment σ) {task : Task}
    {schema : CodeString} {fault : Fault}
    (h : (m.session.cycleOf source task schema).work.FailsWith fault) :
    m.Spoils source schema fault := by
  simp only [cycleOf, startWork] at h
  split at h
  · next cause broken =>
    cases h
    exact .aggregation broken
  · exact .listing (Work.endsWith_of_start h)

/-- Why a rebuild of a schema has failed, and at which moment of a run: what it met when it began, or what
it met when it ended. -/
inductive Closing.FailsBy (source : MetadataSource σ) (moments : List (Moment σ)) (c : Closing σ)
    (schema : CodeString) : Failure → Prop
  /-- The list of tables was refused. -/
  | refused {m : Moment σ} {cause : Fault} (mem : m ∈ moments) (begun : m.begun? = some c.ticket)
      (outcome : (source.listTables m.session.context schema m.session.source).1.outcome =
        .error cause) : FailsBy source moments c schema (.refusal cause)
  /-- What came for the list of tables was no list, and it has no rows. -/
  | unlisted {m : Moment σ} {list : Listing} {fault : Fault} (mem : m ∈ moments)
      (begun : m.begun? = some c.ticket)
      (outcome : (source.listTables m.session.context schema m.session.source).1.outcome = .ok list)
      (other : ∀ rows, list ≠ .tables rows) (rows : list.rows = .error fault) :
      FailsBy source moments c schema (.ofFault fault)
  /-- No aggregation could begin. -/
  | broken {m : Moment σ} {fault : Fault} (mem : m ∈ moments) (begun : m.begun? = some c.ticket)
      (aggregation : m.session.brokenAggregation = some fault) :
      FailsBy source moments c schema (.ofFault fault)
  /-- The aggregation was ended by a fault. -/
  | halted {m : Moment σ} {ticket : Nat} {fault : Fault} (mem : m ∈ moments)
      (closes : m.closing? source = some c) (event : m.event = .halt ticket (.error fault)) :
      FailsBy source moments c schema (.ofFault fault)
  /-- What was collected could not be assembled. -/
  | unassembled {m : Moment σ} {fault : Fault} (mem : m ∈ moments)
      (closes : m.closing? source = some c) (assembly : m.session.brokenAssembly = some fault) :
      FailsBy source moments c schema (.other fault)

section Runs

variable {source : MetadataSource σ} {allowed : Moment σ → Prop} {limits : FetchLimits}
variable {context : Context} {layout : LayoutKind} {box : NodeBox} {state : σ}
variable {moments : List (Moment σ)} {s : Session σ}

/-- A rebuild with the ticket of work that was spoilt at a moment fails by what spoilt it. -/
theorem Closing.failsBy_of_spoils {c : Closing σ} {m : Moment σ} {schema : CodeString} {fault : Fault}
    (mem : m ∈ moments) (begun : m.begun? = some c.ticket) (h : m.Spoils source schema fault) :
    c.FailsBy source moments schema (.ofFault fault) := by
  cases h with
  | aggregation broken => exact .broken mem begun broken
  | listing ends =>
    generalize houtcome : (source.listTables m.session.context schema m.session.source).1.outcome =
      outcome at ends
    cases ends with
    | refused cause => exact .refused mem begun houtcome
    | unlisted rows => exact .unlisted mem begun houtcome (Listing.ne_tables_of_error rows) rows

/-- What a rebuild of a run tells as its error is told of the failure that it met. -/
theorem Run.failsBy_of_failed
    (run : Run source allowed (Session.opened limits context layout box state) moments s)
    {c : Closing σ} (hc : c ∈ closings source moments) {schema message : CodeString}
    (hoffer : c.offer = .result schema (.failed message)) :
    ∃ failure, c.FailsBy source moments schema failure ∧ message = failure.told := by
  have ended := run.forall_closings_of_begun
    (P := fun cycle => ∃ m ∈ moments, m.begun? = some cycle.ticket ∧
      ∀ fault, cycle.work.FailsWith fault → m.Spoils source cycle.schema fault) ?_ ?_ ?_ hc
  · rw [hoffer] at ended
    obtain nothing | ⟨m, hm, -, closes, cycle, ⟨first, hfirst, begun, spoils⟩, ticket, result, reached,
      offer⟩ := ended
    · cases nothing
    · rw [← ticket] at begun
      cases result with
      | error fault =>
        obtain ⟨rfl, rfl⟩ : schema = cycle.schema ∧ message = CycleResult.errorText fault := by
          simpa [CycleResult.ofCollection] using offer
        refine ⟨.ofFault fault, ?_, (Failure.told_ofFault fault).symm⟩
        obtain reached | ⟨halted, event⟩ := reached
        · exact Closing.failsBy_of_spoils hfirst begun (spoils fault (Work.failsWith_of_result reached))
        · exact .halted hm closes event
      | ok collected =>
        cases assembly : m.session.brokenAssembly with
        | none => simp [assembly, CycleResult.ofCollection] at offer
        | some fault =>
          obtain ⟨rfl, rfl⟩ : schema = cycle.schema ∧ message = fault.text := by
            simpa [assembly, CycleResult.ofCollection] using offer
          exact ⟨.other fault, .unassembled hm closes assembly, rfl⟩
  · intro cycle hcycle
    cases hcycle
  · intro m hm task schema begun wanted
    exact ⟨m, hm, begun, fun fault => Session.spoils_of_cycleOf m⟩
  · rintro s cycle ⟨m, hm, begun, spoils⟩
    exact ⟨m, hm, begun, fun fault h => spoils fault (Work.failsWith_of_advance h)⟩

/-- At every moment of a run, a view that tells of an error tells of the failure that the latest rebuild met.
It tells nothing exactly where the list of tables was refused for a cause without wording, or where a fault
has neither wording nor name. -/
theorem error_told (source : MetadataSource σ)
    (run : Run source allowed (Session.opened limits context layout box state) moments s)
    (herror : s.view.phase = .error) :
    ∃ c ∈ closings source moments, c.Commits ∧ c.generation = s.view.generation ∧
      ∃ schema failure, s.view.schema = some schema ∧ c.FailsBy source moments schema failure ∧
        s.view.error = some failure.told ∧
        (failure.told = "" ↔ (∃ cause, failure = .refusal cause ∧ cause.message = "") ∨
          ∃ message, failure = .other (.raised "" message) ∧ message.getD "" = "") := by
  cases Standing.of_run run with
  | fresh generation phase => simp [herror] at phase
  | awaiting ticket flight phase => simp [herror] at phase
  | stuck c mem generation unplaced phase => simp [herror] at phase
  | showing c mem generation commits kind shown =>
    obtain ⟨phase, schema, error, -, -, -⟩ := shown
    have offered : c.offer.phase = .error := phase.symm.trans herror
    match hoffer : c.offer with
    | .nothing => simp [hoffer, Offer.phase] at offered
    | .result name (.collected diagram diagnostics) => simp [hoffer, Offer.phase] at offered
    | .result name (.failed message) =>
      obtain ⟨failure, fails, rfl⟩ := run.failsBy_of_failed mem hoffer
      rw [hoffer] at schema error
      exact ⟨c, mem, commits, generation, name, failure, schema, fails, error, Failure.told_eq_empty⟩

end Runs

namespace Session

/-- A session in which a schema is wanted, over a source that has no states. -/
def ofPublic : Session Unit :=
  .opened ⟨1, none, Nat.one_pos⟩ ⟨some "public", none, none, none⟩ .grid .standard ()

/-- From now on every aggregation fails at once by a fault that has no wording; one begins. -/
def breakingDown : List (SessionEvent Unit) :=
  [.breakAggregation (some (.raised "RuntimeError" none)), .request .rebuild]

end Session

/-- A source that refuses everything for the same cause, at once. -/
def MetadataSource.refusing (cause : Fault) : MetadataSource Unit where
  listTables _ _ _ := (.immediate (.error cause), ())
  tableStructure _ _ _ _ := (.immediate (.error cause), ())
  close := id

/-- A fault of the aggregation that has no wording is told by its kind. -/
theorem error_told_of_unworded :
    let source := MetadataSource.prompt []
    let s := Session.ofPublic.through source Session.breakingDown
    let moments := Session.ofPublic.momentsOf source Session.breakingDown
    s.view.phase = .error ∧ s.view.error = some (.whole "RuntimeError") ∧
      ∃ c ∈ closings source moments, c.Commits ∧ c.generation = 1 ∧
        ∃ failure, c.FailsBy source moments "public" failure ∧ failure.told = "RuntimeError" := by
  intro source s moments
  have run : Run source (fun _ => True) Session.ofPublic moments s :=
    Run.nil.through Session.breakingDown fun _ _ => trivial
  have herror : s.view.phase = .error := by decide +kernel
  have htold : s.view.error = some (.whole "RuntimeError") := by decide +kernel
  have hschema : s.view.schema = some (.whole "public") := by decide +kernel
  have hgeneration : s.view.generation = 1 := by decide +kernel
  obtain ⟨c, mem, commits, generation, schema, failure, shown, fails, told, -⟩ :=
    error_told source run herror
  obtain rfl := Option.some.inj (hschema.symm.trans shown)
  exact ⟨herror, htold, c, mem, commits, generation.trans hgeneration, failure, fails,
    (Option.some.inj (htold.symm.trans told)).symm⟩

/-- A list that was refused for a cause without wording leaves a view that tells of an error and says
nothing. -/
theorem nothing_told_of_refusal :
    let source := MetadataSource.refusing (.raised "RuntimeError" none)
    let events : List (SessionEvent Unit) := [.request .rebuild]
    let s := Session.ofPublic.through source events
    Run source (fun _ => True) Session.ofPublic (Session.ofPublic.momentsOf source events) s ∧
      s.view.phase = .error ∧ s.view.error = some (.whole "") := by
  intro source events s
  exact ⟨Run.nil.through events fun _ _ => trivial, by decide +kernel, by decide +kernel⟩

end ErDiagram
