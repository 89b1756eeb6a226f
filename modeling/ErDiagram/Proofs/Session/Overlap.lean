import ErDiagram.Proofs.Aggregation.Answers
import ErDiagram.Proofs.Session.Placement
import ErDiagram.Proofs.Session.Standing

/-!
# Rebuilds that overlap

Rebuilds begin and end in any order. What each of them does at its end depends on one thing: whether
another has begun after it. If so, it changes nothing; otherwise it commits. In the end the view shows what
the rebuild that began last has come to, whatever the others came to and in whatever order they ended.
-/

namespace ErDiagram

variable {σ : Type}

/-- What the end of a rebuild at a moment comes to, after earlier moments. -/
structure Moment.Ends (source : MetadataSource σ) (earlier : List (Moment σ)) (m : Moment σ)
    (c : Closing σ) : Prop where
  after : m.session.occur source m.event = c.after
  /-- Its generation is its number among the rebuilds that have begun. -/
  numbered : (c.ticket, c.generation) ∈ (begun (earlier ++ [m])).zipIdx 1
  /-- It commits exactly when no rebuild has begun after it. -/
  commits_iff : c.Commits ↔ (begun (earlier ++ [m])).getLast? = some c.ticket
  /-- What it returns says whether it has committed. -/
  returns : ∀ committed, c.outcome = .ok committed → (committed = true ↔ c.Commits)
  /-- Only a listener that fails when it is told of a commit keeps it from returning. -/
  raises : ∀ fault, c.outcome = .error fault →
    c.Commits ∧ (c.session.listeners.notify c.after.view.diagram).2.2 = some fault
  /-- A rebuild that does not commit leaves all of the view as it was and tells no listener. -/
  superseded : ¬ c.Commits → c.after.view = m.session.view ∧
    c.after.listeners = m.session.listeners ∧ c.after.notices = m.session.notices

/-- What the rebuild that began last offered at its end, if it has ended. -/
def lastOffer? (source : MetadataSource σ) (moments : List (Moment σ)) : Option Offer :=
  ((closings source moments).find? fun c =>
    decide ((begun moments).getLast? = some c.ticket)).map Closing.offer

variable {source : MetadataSource σ} {allowed : Moment σ → Prop}

theorem Run.of_append {first s : Session σ} {moments : List (Moment σ)}
    (run : Run source allowed first moments s) {earlier later : List (Moment σ)} {m : Moment σ}
    (h : moments = earlier ++ m :: later) :
    Run source allowed first earlier m.session ∧ allowed m := by
  induction run generalizing later with
  | nil => simp at h
  | @snoc moments s run e hallowed ih =>
      rcases List.eq_nil_or_concat later with rfl | ⟨others, final, rfl⟩
      · obtain ⟨rfl, hm⟩ := List.append_inj' h rfl
        obtain rfl := (List.cons.inj hm).1
        exact ⟨run, hallowed⟩
      · have hsplit : moments ++ [⟨s, e⟩] = (earlier ++ m :: others) ++ [final] := by
          rw [h]
          simp
        exact ih (List.append_inj' hsplit rfl).1

namespace Closing

/-- A rebuild whose offer can be placed commits exactly when it is the latest. -/
theorem commits_iff_of_placed {c : Closing σ}
    (hplaced : c.generation = c.session.view.generation →
      ∃ shown, c.offer.commit c.session.view = .ok shown) :
    c.Commits ↔ c.generation = c.session.view.generation := by
  rw [commits_iff]
  exact ⟨And.left, fun hlatest => ⟨hlatest, hplaced hlatest⟩⟩

theorem outcome_of_commits {c : Closing σ} (h : c.Commits) :
    c.outcome = c.session.told c.after.view := by
  obtain ⟨hlatest, shown, hshown⟩ := commits_iff.1 h
  have hview : c.after.view = shown := by
    rw [after_of_latest hlatest hshown, Session.conclusion_eq]
  simp [outcome, View.isLatest, hlatest, hshown, hview]

theorem outcome_of_not_latest {c : Closing σ} (h : c.generation ≠ c.session.view.generation) :
    c.outcome = .ok false := by
  simp [outcome, View.isLatest, Ne.symm h]

end Closing

namespace Session

private theorem eq_true_of_told {s : Session σ} {v : View} {committed : Bool}
    (h : s.told v = .ok committed) : committed = true := by
  rw [told] at h
  split at h <;> cases h
  rfl

private theorem failure_of_told {s : Session σ} {v : View} {fault : Fault} (h : s.told v = .error fault) :
    (s.listeners.notify v.diagram).2.2 = some fault := by
  rw [told] at h
  split at h <;> cases h
  assumption

end Session

theorem Turn.eq_after {s t : Session σ} {ticket : Option Nat} {layout : Option LayoutKind}
    {c : Closing σ} (h : Turn s ticket layout (some c) t) : t = c.after := by
  cases h <;> rfl

/-- A rebuild that is not the latest ends as a cycle and changes nothing of the view. -/
theorem Turn.superseded {s t : Session σ} {ticket : Option Nat} {layout : Option LayoutKind}
    {c : Closing σ} (h : Turn s ticket layout (some c) t)
    (hold : c.generation ≠ c.session.view.generation) :
    c.after.view = s.view ∧ c.after.listeners = s.listeners ∧ c.after.notices = s.notices := by
  have hafter := Closing.after_of_not_latest hold
  cases h with
  | returned c view generation flights finished =>
      refine absurd ?_ hold
      rcases view with view | ⟨-, view⟩
      · rw [view, generation, View.await_generation]
      · rw [view, generation]
  | ended c view listeners notices flight flights finished =>
      rw [hafter]
      exact ⟨view, listeners, notices⟩

/-- Where the layout has points for all nodes, no rebuild comes to nothing. -/
theorem Moment.not_unplaced {m : Moment σ} (h : m.places source) {c : Closing σ}
    (hc : m.closing? source = some c) : ¬ c.Unplaced := by
  rintro ⟨hlatest, fault, hfault⟩
  have hall := (Bool.and_eq_true_iff.1 h).1
  rw [hc, Option.all_some, Offer.commit_eq_error.2 hfault] at hall
  simp [View.isLatest, hlatest, Except.isOk, Except.toBool] at hall

/-- Every rebuild of a run ends as it should. -/
theorem Moment.ends_of_run {limits : FetchLimits} {context : Context} {layout : LayoutKind}
    {box : NodeBox} {state : σ} {earlier : List (Moment σ)} {m : Moment σ}
    (run : Run source allowed (Session.opened limits context layout box state) earlier m.session)
    (hplaces : m.places source) {c : Closing σ} (hc : m.closing? source = some c) :
    m.Ends source earlier c := by
  have hledger := Ledger.of_run run
  have hturn : Turn m.session m.begun? m.selected? (m.closing? source)
      (m.session.occur source m.event) := turn_occur source hledger.nodup_cycles m.event
  have hlater : Ledger source (earlier ++ [m]) (m.session.occur source m.event) :=
    hledger.occur m.event
  have hmem : c ∈ closings source (earlier ++ [m]) := by simp [hc]
  have hlabel := hlater.labels.mem_iff.1 (Closing.label_mem hmem _)
  rw [hc] at hturn
  have hafter := hturn.eq_after
  have hplaced : c.generation = c.session.view.generation →
      ∃ shown, c.offer.commit c.session.view = .ok shown := by
    intro hlatest
    cases hcommit : c.offer.commit c.session.view with
    | ok shown => exact ⟨shown, rfl⟩
    | error fault =>
        have hunplaced : c.Unplaced := ⟨hlatest, fault, Offer.commit_eq_error.1 hcommit⟩
        exact absurd hunplaced (m.not_unplaced hplaces hc)
  have hcommits := Closing.commits_iff_of_placed hplaced
  refine ⟨hafter, hlabel, ?_, ?_, ?_, ?_⟩
  · have hlatest := hlater.latest_iff hlabel
    rw [hafter, c.after_generation] at hlatest
    exact hcommits.trans hlatest
  · intro committed houtcome
    by_cases hcommit : c.Commits
    · rw [Closing.outcome_of_commits hcommit] at houtcome
      exact ⟨fun _ => hcommit, fun _ => Session.eq_true_of_told houtcome⟩
    · rw [Closing.outcome_of_not_latest fun hlatest => hcommit (hcommits.2 hlatest)] at houtcome
      cases houtcome
      simp [hcommit]
  · intro fault houtcome
    by_cases hcommit : c.Commits
    · rw [Closing.outcome_of_commits hcommit] at houtcome
      exact ⟨hcommit, Session.failure_of_told houtcome⟩
    · rw [Closing.outcome_of_not_latest fun hlatest => hcommit (hcommits.2 hlatest)] at houtcome
      cases houtcome
  · intro hnot
    exact hturn.superseded fun hlatest => hnot (hcommits.2 hlatest)

theorem Run.not_unplaced {first s : Session σ} {moments : List (Moment σ)}
    (run : Run source allowed first moments s) (hallowed : ∀ m, allowed m → m.places source)
    {c : Closing σ} (hc : c ∈ closings source moments) : ¬ c.Unplaced := by
  obtain ⟨m, hm, hclosing⟩ := List.mem_filterMap.1 hc
  obtain ⟨earlier, later, hsplit⟩ := List.append_of_mem hm
  exact m.not_unplaced (hallowed m (run.of_append hsplit).2) hclosing

theorem Ledger.commits_ordered {moments : List (Moment σ)} {s : Session σ}
    (h : Ledger source moments s) : (closings source moments).Pairwise fun c d =>
      c.Commits → d.Commits → c.generation < d.generation := by
  have hdistinct := List.pairwise_map.1 (List.nodup_append.1 h.nodup_generations).1
  refine (h.ordered.and hdistinct).imp ?_
  rintro c d ⟨hordered, hne⟩ hc hd
  have hlatest := (Closing.commits_iff.1 hc).1
  have hlatest' := (Closing.commits_iff.1 hd).1
  omega

/-- The last offer is that of the rebuild with the latest generation. -/
theorem Ledger.lastOffer?_eq {moments : List (Moment σ)} {s : Session σ}
    (h : Ledger source moments s) {c : Closing σ} (hc : c ∈ closings source moments)
    (hgeneration : c.generation = s.view.generation) :
    lastOffer? source moments = some c.offer := by
  have hlast : ∀ d ∈ closings source moments,
      d.generation = s.view.generation ↔ (begun moments).getLast? = some d.ticket :=
    fun d hd => h.latest_iff (h.labels.mem_iff.1 (Closing.label_mem hd s))
  cases hfind : (closings source moments).find?
      (fun d => decide ((begun moments).getLast? = some d.ticket)) with
  | none =>
      have hnever := List.find?_eq_none.1 hfind c hc
      exact absurd (decide_eq_true ((hlast c hc).1 hgeneration)) hnever
  | some d =>
      have hd := List.mem_of_find?_eq_some hfind
      have hticket := List.find?_some hfind
      have hlatest := (hlast d hd).2 (of_decide_eq_true hticket)
      obtain rfl := h.closing_eq hd hc (hlatest.trans hgeneration.symm)
      rw [lastOffer?, hfind]
      rfl

/-- Once every rebuild has ended, the view shows what the last one to begin has offered. -/
theorem exists_shown {limits : FetchLimits} {context : Context} {layout : LayoutKind}
    {box : NodeBox} {state : σ} {moments : List (Moment σ)} {s : Session σ}
    (run : Run source allowed (Session.opened limits context layout box state) moments s)
    (hallowed : ∀ m, allowed m → m.places source) (hended : s.cycles = [])
    (hbegun : begun moments ≠ []) :
    ∃ c ∈ closings source moments, c.generation = s.view.generation ∧
      c.offer.ShownBy s.view := by
  cases Standing.of_run run with
  | fresh generation phase =>
      rw [(Ledger.of_run run).generation] at generation
      exact absurd (List.length_eq_zero_iff.1 generation) hbegun
  | awaiting ticket flight phase =>
      rw [Session.flights, hended] at flight
      cases flight
  | stuck c mem generation unplaced phase => exact absurd unplaced (run.not_unplaced hallowed mem)
  | showing c mem generation commits kind shown =>
      have hplaced := View.IsPlaced.of_run run hallowed
      exact ⟨c, mem, generation, Offer.shownBy_replace shown hplaced⟩

/-- Rebuilds that overlap in any way: each commits exactly when none has begun after it, commits come in the
order of generations, and the view after all of them depends on the last one to begin alone. -/
theorem overlapping_rebuilds (source : MetadataSource σ) {limits : FetchLimits} {context : Context}
    {layout : LayoutKind} {box : NodeBox} {state : σ} {moments : List (Moment σ)} {s : Session σ}
    (run : Run source (fun m => m.places source)
      (Session.opened limits context layout box state) moments s) :
    (begun moments).Nodup ∧
      (s.finished = (closings source moments).map fun c =>
        ⟨c.ticket, c.outcome, c.after.view, c.calls⟩) ∧
      (∀ earlier m later c, moments = earlier ++ m :: later → m.closing? source = some c →
        m.Ends source earlier c) ∧
      ((closings source moments).Pairwise fun c d =>
        c.Commits → d.Commits → c.generation < d.generation) ∧
      (s.cycles = [] → begun moments ≠ [] →
        (∃ offer, lastOffer? source moments = some offer ∧ offer.ShownBy s.view) ∧
        ∀ limits' context' layout' state' moments' s',
          Run source (fun m => m.places source)
              (Session.opened limits' context' layout' box state') moments' s' →
            s'.cycles = [] → begun moments' ≠ [] →
            lastOffer? source moments = lastOffer? source moments' →
            s.view.phase = s'.view.phase ∧ s.view.schema = s'.view.schema ∧
              s.view.error = s'.view.error ∧ s.view.diagnostics = s'.view.diagnostics ∧
              s.view.network = s'.view.network ∧
              ((selected moments).getLast?.getD layout = (selected moments').getLast?.getD layout' →
                s.view.diagram = s'.view.diagram)) := by
  have hledger := Ledger.of_run run
  refine ⟨hledger.nodup_begun, hledger.finished, ?_, hledger.commits_ordered, ?_⟩
  · intro earlier m later c hsplit hc
    obtain ⟨hrun, hplaces⟩ := run.of_append hsplit
    exact Moment.ends_of_run hrun hplaces hc
  · intro hended hbegun
    obtain ⟨c, hc, hlatest, hshown⟩ := exists_shown run (fun _ h => h) hended hbegun
    have hoffer := hledger.lastOffer?_eq hc hlatest
    refine ⟨⟨c.offer, hoffer, hshown⟩, ?_⟩
    intro limits' context' layout' state' moments' s' run' hended' hbegun' hoffers
    obtain ⟨c', hc', hlatest', hshown'⟩ := exists_shown run' (fun _ h => h) hended' hbegun'
    rw [hoffer, (Ledger.of_run run').lastOffer?_eq hc' hlatest'] at hoffers
    rw [← Option.some.inj hoffers] at hshown'
    refine ⟨hshown.phase.trans hshown'.phase.symm, hshown.schema.trans hshown'.schema.symm,
      hshown.error.trans hshown'.error.symm, hshown.diagnostics.trans hshown'.diagnostics.symm,
      hshown.network.trans hshown'.network.symm, ?_⟩
    intro hselected
    have hlaid := LaidOut.of_run run
    have hlaid' := LaidOut.of_run run'
    have hlayout : s.view.layout = s'.view.layout :=
      hlaid.layout.trans (hselected.trans hlaid'.layout.symm)
    have hview := Offer.eq_of_shownBy hshown hshown' hlayout (hlaid.box.trans hlaid'.box.symm)
    rw [hview]

namespace Session

/-- Two rebuilds begin; the second ends, a layout is selected, and then the first fails. -/
def secondFirst : List (SessionEvent Unit) :=
  [.request .rebuild, .request .rebuild, .progress 1, .selectLayout (.str "circular"),
    .halt 0 (.error (.listing "public" .timedOut))]

/-- The same two rebuilds end in the order in which they began. -/
def firstFirst : List (SessionEvent Unit) :=
  [.request .rebuild, .request .rebuild, .halt 0 (.error (.listing "public" .timedOut)),
    .selectLayout (.str "circular"), .progress 1]

end Session

/-- Two rebuilds leave the same view in either order of their ends. -/
theorem overlapping_rebuilds_of_two :
    let first : Session Unit :=
      .opened ⟨8, none, by decide⟩ ⟨some "public", none, none, none⟩ .grid .standard ()
    let source := MetadataSource.prompt [⟨"orders", none⟩, ⟨"users", none⟩]
    let s := first.through source Session.secondFirst
    let s' := first.through source Session.firstFirst
    s.view.phase = .ready ∧ s.view.phase = s'.view.phase ∧ s.view.schema = s'.view.schema ∧
      s.view.error = s'.view.error ∧ s.view.diagram = s'.view.diagram := by
  intro first source s s'
  have run : Run source (fun m => m.places source) first _ s :=
    Run.nil.through Session.secondFirst (by decide +kernel)
  have run' : Run source (fun m => m.places source) first _ s' :=
    Run.nil.through Session.firstFirst (by decide +kernel)
  obtain ⟨-, -, -, -, hlast⟩ := overlapping_rebuilds source run
  obtain ⟨-, hagree⟩ := hlast (List.isEmpty_iff.1 (by decide +kernel)) (by decide +kernel)
  obtain ⟨hphase, hschema, herror, -, -, hdiagram⟩ := hagree _ _ _ _ _ _ run'
    (List.isEmpty_iff.1 (by decide +kernel)) (by decide +kernel) (by decide +kernel)
  exact ⟨by decide +kernel, hphase, hschema, herror, hdiagram (by decide +kernel)⟩

end ErDiagram
