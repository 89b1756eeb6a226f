import ErDiagram.Proofs.Aggregation.Answers
import ErDiagram.Proofs.Session.Standing

/-!
# How long a view waits

A view is meant to wait exactly while the rebuild that began last is under way. That is so unless this
rebuild ends with a diagram for which the layout has no points. Then nothing is shown and no error is told,
and the view waits until another rebuild begins.
-/

namespace ErDiagram

variable {σ : Type}

namespace Session

/-- Whether the rebuild that began last is under way. -/
def LatestInFlight (s : Session σ) : Prop :=
  ∃ cycle ∈ s.cycles, cycle.generation = s.view.generation

/-- Whether the rebuild that began last has ended with a diagram for which the layout had no points. -/
def LatestUnplaced (source : MetadataSource σ) (moments : List (Moment σ)) (s : Session σ) : Prop :=
  ∃ c ∈ closings source moments, c.generation = s.view.generation ∧ c.Unplaced

instance (s : Session σ) : Decidable s.LatestInFlight := by
  rw [LatestInFlight]
  infer_instance

theorem latestInFlight_iff {s : Session σ} :
    s.LatestInFlight ↔ ∃ ticket, (ticket, s.view.generation) ∈ s.flights := by
  constructor
  · rintro ⟨cycle, hmem, hgeneration⟩
    refine ⟨cycle.ticket, List.mem_map.2 ⟨cycle, hmem, ?_⟩⟩
    rw [hgeneration]
  · rintro ⟨ticket, hflight⟩
    obtain ⟨cycle, hmem, hlabel⟩ := List.mem_map.1 hflight
    exact ⟨cycle, hmem, congrArg Prod.snd hlabel⟩

end Session

/-- A view waits while the latest rebuild is under way, or when that rebuild came to nothing. -/
theorem Standing.phase_eq_loading_iff {source : MetadataSource σ} {moments : List (Moment σ)}
    {s : Session σ} (h : Standing source moments s) (hledger : Ledger source moments s) :
    s.view.phase = .loading ↔ s.LatestInFlight ∨ s.LatestUnplaced source moments := by
  constructor
  · intro hphase
    cases h with
    | fresh generation phase =>
        rw [phase] at hphase
        cases hphase
    | awaiting ticket flight phase => exact .inl (Session.latestInFlight_iff.2 ⟨ticket, flight⟩)
    | stuck c mem generation unplaced phase => exact .inr ⟨c, mem, generation, unplaced⟩
    | showing c mem generation commits kind shown =>
        exact absurd hphase (phase_ne_loading_of_shownBy shown)
  · rintro (hflight | ⟨c, hmem, hgeneration, hunplaced⟩)
    · obtain ⟨ticket, hflight⟩ := Session.latestInFlight_iff.1 hflight
      exact h.phase_of_flight hledger hflight
    · cases h with
      | fresh generation phase =>
          have hpos := hledger.generation_pos (Closing.label_mem hmem s)
          rw [← hgeneration] at generation
          exact absurd generation (Nat.ne_of_gt hpos)
      | awaiting ticket flight phase => exact phase
      | stuck c mem generation unplaced phase => exact phase
      | showing d mem generation commits kind shown =>
          obtain rfl := hledger.closing_eq mem hmem (generation.trans hgeneration.symm)
          exact absurd commits (Closing.not_commits_of_unplaced hunplaced)

theorem Ledger.not_latestInFlight {source : MetadataSource σ} {moments : List (Moment σ)}
    {s : Session σ} (h : Ledger source moments s) (hunplaced : s.LatestUnplaced source moments) :
    ¬ s.LatestInFlight := by
  obtain ⟨c, hmem, hgeneration, -⟩ := hunplaced
  intro hflight
  obtain ⟨ticket, hflight⟩ := Session.latestInFlight_iff.1 hflight
  exact h.not_flight hmem hflight hgeneration

/-- In every run a view waits exactly while the latest rebuild is under way, if and only if this rebuild
has not ended with a diagram for which the layout had no points. Once every rebuild has ended, the view is
idle, ready or tells of an error under the same condition. -/
theorem loading_iff_in_flight_iff (source : MetadataSource σ) {allowed : Moment σ → Prop}
    {limits : FetchLimits} {context : Context} {layout : LayoutKind} {box : NodeBox} {state : σ}
    {moments : List (Moment σ)} {s : Session σ}
    (run : Run source allowed (Session.opened limits context layout box state) moments s) :
    ((s.view.phase = .loading ↔ s.LatestInFlight) ↔ ¬ s.LatestUnplaced source moments) ∧
      (s.cycles = [] →
        (s.view.phase ∈ [Phase.idle, .ready, .error] ↔ ¬ s.LatestUnplaced source moments)) := by
  have hledger := Ledger.of_run run
  have hphase := (Standing.of_run run).phase_eq_loading_iff hledger
  have hlanded := hledger.not_latestInFlight
  constructor
  · rw [hphase]
    constructor
    · intro hflight hunplaced
      exact hlanded hunplaced (hflight.1 (.inr hunplaced))
    · intro hplaced
      exact ⟨fun h => h.resolve_right hplaced, .inl⟩
  · intro hended
    have hnone : ¬ s.LatestInFlight := by
      rintro ⟨cycle, hmem, -⟩
      rw [hended] at hmem
      cases hmem
    have hsettled : s.view.phase ∈ [Phase.idle, .ready, .error] ↔ s.view.phase ≠ .loading := by
      cases s.view.phase <;> decide
    rw [hsettled, ne_eq, hphase]
    constructor
    · exact fun h hunplaced => h (.inr hunplaced)
    · exact fun hplaced h => h.elim hnone hplaced

namespace Session

/-- A rebuild is asked for, begins and goes on. -/
def refreshing : List (SessionEvent Unit) :=
  [.request .rebuild, .progress 0]

/-- A session over a source with two tables, whose nodes have a width. -/
def ofWidth (width : Int) : Session Unit :=
  .opened ⟨8, some 10, by decide⟩ ⟨some "public", none, none, none⟩ .grid
    ⟨.whole width, .whole 300, .whole 50⟩ ()

end Session

/-- Nodes of the standard width are placed, and the view does not wait after a rebuild. -/
theorem loading_iff_in_flight_iff_of_refresh :
    let source := MetadataSource.prompt [⟨"orders", none⟩, ⟨"users", none⟩]
    let s := (Session.ofWidth 280).through source Session.refreshing
    let moments := (Session.ofWidth 280).momentsOf source Session.refreshing
    s.view.phase = .ready ∧ s.cycles = [] ∧ ¬ s.LatestUnplaced source moments := by
  intro source s moments
  have run : Run source (fun _ => True) (Session.ofWidth 280) moments s :=
    Run.nil.through Session.refreshing fun _ _ => trivial
  have hready : s.view.phase = .ready := by decide +kernel
  have hended : s.cycles = [] := List.isEmpty_iff.1 (by decide +kernel)
  have hsettled := (loading_iff_in_flight_iff source run).2 hended
  refine ⟨hready, hended, hsettled.1 ?_⟩
  rw [hready]
  decide

/-- A width beyond the floating-point numbers leaves the view waiting with nothing under way. -/
theorem loading_without_flight :
    let source := MetadataSource.prompt [⟨"orders", none⟩, ⟨"users", none⟩]
    ∃ moments s, Run source (fun _ => True) (Session.ofWidth (Int.pow 10 400)) moments s ∧
      s.cycles = [] ∧ s.view.phase = .loading ∧ ¬ (s.view.phase = .loading ↔ s.LatestInFlight) := by
  intro source
  have run : Run source (fun _ => True) (Session.ofWidth (Int.pow 10 400)) _ _ :=
    Run.nil.through Session.refreshing fun _ _ => trivial
  exact ⟨_, _, run, List.isEmpty_iff.1 (by decide +kernel), by decide +kernel, by decide +kernel⟩

end ErDiagram
