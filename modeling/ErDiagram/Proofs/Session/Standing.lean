import ErDiagram.Proofs.Session.Ledger

/-!
# Where a session stands

At any moment of a run the view either is as it was at first, or waits for the rebuild that began last, or
shows what that rebuild offered. There is one way out of this: the rebuild that began last may end with a
diagram that the layout cannot place. The view then keeps waiting, and nothing is left that it could wait
for.
-/

namespace ErDiagram

variable {σ : Type}

/-- What the view has to do with the rebuild that began last. -/
inductive Standing (source : MetadataSource σ) (moments : List (Moment σ)) (s : Session σ) :
    Prop where
  | fresh (generation : s.view.generation = 0) (phase : s.view.phase = .idle)
  | awaiting (ticket : Nat) (flight : (ticket, s.view.generation) ∈ s.flights)
      (phase : s.view.phase = .loading)
  | stuck (c : Closing σ) (mem : c ∈ closings source moments)
      (generation : c.generation = s.view.generation) (unplaced : c.Unplaced)
      (phase : s.view.phase = .loading)
  | showing (c : Closing σ) (mem : c ∈ closings source moments)
      (generation : c.generation = s.view.generation) (commits : c.Commits) (kind : LayoutKind)
      (shown : c.offer.ShownBy { s.view with layout := kind })

namespace Closing

theorem label_mem {source : MetadataSource σ} {moments : List (Moment σ)} {c : Closing σ}
    (h : c ∈ closings source moments) (s : Session σ) :
    (c.ticket, c.generation) ∈ (closings source moments).map label ++ s.flights :=
  List.mem_append_left _ (List.mem_map.2 ⟨c, h, rfl⟩)

theorem not_commits_of_unplaced {c : Closing σ} (h : c.Unplaced) : ¬ c.Commits := by
  rintro ⟨shown, hshown, -⟩
  obtain ⟨-, fault, hfault⟩ := h
  have hcommit := Offer.commit_eq_error.2 hfault
  rw [hshown] at hcommit
  cases hcommit

end Closing

namespace Standing

variable {source : MetadataSource σ} {moments : List (Moment σ)} {s : Session σ}

theorem phase_ne_loading_of_shownBy {offer : Offer} {v : View} {kind : LayoutKind}
    (h : offer.ShownBy { v with layout := kind }) : v.phase ≠ .loading := by
  have hphase : v.phase = offer.phase := h.phase
  rw [hphase]
  exact offer.phase_ne_loading

theorem phase_of_flight (h : Standing source moments s) (hledger : Ledger source moments s)
    {ticket : Nat} (hflight : (ticket, s.view.generation) ∈ s.flights) :
    s.view.phase = .loading := by
  cases h with
  | fresh generation phase =>
      have hpos := hledger.generation_pos (List.mem_append_right _ hflight)
      exact absurd generation (Nat.ne_of_gt hpos)
  | awaiting ticket flight phase => exact phase
  | stuck c mem generation unplaced phase => exact phase
  | showing c mem generation commits kind shown =>
      exact absurd generation (hledger.not_flight mem hflight)

theorem opened (source : MetadataSource σ) (limits : FetchLimits) (context : Context)
    (layout : LayoutKind) (box : NodeBox) (state : σ) :
    Standing source [] (Session.opened limits context layout box state) :=
  .fresh rfl rfl

/-- Where a session stands does not change while its rebuilds and the view stay the same. -/
theorem mono (h : Standing source moments s) {m : Moment σ} {t : Session σ}
    (hview : t.view = s.view)
    (hflights : ∀ ticket, (ticket, s.view.generation) ∈ s.flights →
      (ticket, s.view.generation) ∈ t.flights) :
    Standing source (moments ++ [m]) t := by
  have hmem : ∀ c ∈ closings source moments, c ∈ closings source (moments ++ [m]) := by
    intro c hc
    rw [closings_append]
    exact List.mem_append_left _ hc
  cases h with
  | fresh generation phase =>
      rw [← hview] at generation phase
      exact .fresh generation phase
  | awaiting ticket flight phase =>
      have hflight := hflights ticket flight
      rw [← hview] at hflight phase
      exact .awaiting ticket hflight phase
  | stuck c mem generation unplaced phase =>
      rw [← hview] at generation phase
      exact .stuck c (hmem c mem) generation unplaced phase
  | showing c mem generation commits kind shown =>
      rw [← hview] at generation shown
      exact .showing c (hmem c mem) generation commits kind shown

/-- Selecting a layout leaves the view with the offer that it shows, placed or not. -/
theorem selected (h : Standing source moments s) {m : Moment σ} {t : Session σ}
    {kind : LayoutKind} {diagram : Diagram}
    (hview : t.view = { s.view with layout := kind, diagram := diagram })
    (hplaced : Layout.apply s.view.diagram kind s.view.box = .ok diagram ∨
      diagram = s.view.diagram ∧
        ∃ fault, Layout.apply s.view.diagram kind s.view.box = .error fault)
    (hflights : t.flights = s.flights) : Standing source (moments ++ [m]) t := by
  have hmem : ∀ c ∈ closings source moments, c ∈ closings source (moments ++ [m]) := by
    intro c hc
    rw [closings_append]
    exact List.mem_append_left _ hc
  have hgeneration : t.view.generation = s.view.generation := by rw [hview]
  have hphase : t.view.phase = s.view.phase := by rw [hview]
  cases h with
  | fresh generation phase => exact .fresh (hgeneration.trans generation) (hphase.trans phase)
  | awaiting ticket flight phase =>
      rw [← hgeneration, ← hflights] at flight
      exact .awaiting ticket flight (hphase.trans phase)
  | stuck c mem generation unplaced phase =>
      exact .stuck c (hmem c mem) (generation.trans hgeneration.symm) unplaced (hphase.trans phase)
  | showing c mem generation commits previous shown =>
      have hlatest := generation.trans hgeneration.symm
      rcases hplaced with hplaced | ⟨rfl, -⟩
      · have hreplaced := Offer.shownBy_replace shown hplaced
        refine .showing c (hmem c mem) hlatest commits kind ?_
        rw [hview]
        exact hreplaced
      · refine .showing c (hmem c mem) hlatest commits previous ?_
        rw [hview]
        exact shown

/-- Where a session stands after the end of the latest rebuild. -/
theorem of_latest {c : Closing σ} (hmem : c ∈ closings source moments)
    (hlatest : c.generation = c.session.view.generation)
    (hphase : c.session.view.phase = .loading ∨ c.offer = .nothing) :
    Standing source moments c.after := by
  rcases c.after_cases with ⟨hold, -⟩ | ⟨shown, -, hshown, hafter⟩ | ⟨fault, -, hfault, hafter⟩
  · exact absurd hlatest hold
  · have hview : c.after.view = shown := by rw [hafter, Session.conclusion_eq]
    refine .showing c hmem (hlatest.trans c.after_generation.symm) ⟨shown, hshown, hafter⟩
      c.after.view.layout ?_
    rw [hview]
    exact Offer.shownBy_of_commit hshown
  · have hview : c.after.view = c.session.view := by
      rw [hafter]
      rfl
    have hunplaced : c.Unplaced := ⟨hlatest, fault, Offer.commit_eq_error.1 hfault⟩
    refine .stuck c hmem (hlatest.trans c.after_generation.symm) hunplaced ?_
    rw [hview]
    rcases hphase with hphase | hnothing
    · exact hphase
    · obtain ⟨schema, diagram, diagnostics, hoffer⟩ := Offer.collected_of_commit_eq_error hfault
      rw [hnothing] at hoffer
      cases hoffer

/-- A turn leaves the session standing in one of these ways. -/
theorem turn (h : Standing source moments s) (hledger : Ledger source moments s) {m : Moment σ}
    {t : Session σ} (hturn : Turn s m.begun? m.selected? (m.closing? source) t) :
    Standing source (moments ++ [m]) t := by
  have hclosings := closings_append source moments m
  generalize m.selected? = layout at hturn
  generalize m.begun? = ticket at hturn
  generalize m.closing? source = closing at hturn hclosings
  cases hturn with
  | still view flights finished =>
      refine h.mono view ?_
      intro ticket hflight
      rwa [flights]
  | selected kind diagram view placed flights finished => exact h.selected view placed flights
  | began ticket view flights finished =>
      refine .awaiting ticket ?_ ?_
      · rw [view, flights, View.await_generation]
        exact List.mem_append_right _ (List.mem_singleton.2 rfl)
      · rw [view, View.await_phase]
  | returned c view generation flights finished =>
      have hmem : c ∈ closings source (moments ++ [m]) := by simp [hclosings]
      rcases view with view | ⟨hnothing, view⟩
      · refine of_latest hmem ?_ (.inl ?_)
        · rw [view, View.await_generation, generation]
        · rw [view, View.await_phase]
      · refine of_latest hmem ?_ (.inr hnothing)
        rw [view, generation]
  | ended c view listeners notices flight flights finished =>
      have hmem : c ∈ closings source (moments ++ [m]) := by simp [hclosings]
      by_cases hlatest : c.generation = c.session.view.generation
      · refine of_latest hmem hlatest (.inl ?_)
        rw [view] at hlatest ⊢
        rw [Closing.label, hlatest] at flight
        exact h.phase_of_flight hledger flight
      · have hafter := Closing.after_of_not_latest hlatest
        have hview : c.after.view = s.view := by
          rw [hafter, ← view]
          rfl
        refine h.mono hview ?_
        intro ticket hflight
        rw [c.after_flights, flights, List.mem_filter]
        refine ⟨hflight, ?_⟩
        simp only [ne_eq, decide_not, Bool.not_eq_true', decide_eq_false_iff_not]
        intro hticket
        -- the same ticket would make the rebuild that ends the latest one
        have hsame := List.inj_on_of_nodup_map hledger.nodup_flights flight hflight hticket.symm
        rw [view] at hlatest
        exact hlatest (congrArg Prod.snd hsame)

theorem of_run {allowed : Moment σ → Prop} {limits : FetchLimits} {context : Context}
    {layout : LayoutKind} {box : NodeBox} {state : σ}
    (run : Run source allowed (Session.opened limits context layout box state) moments s) :
    Standing source moments s := by
  induction run with
  | nil => exact .opened source limits context layout box state
  | snoc run e allowed ih =>
      have hledger := Ledger.of_run run
      exact ih.turn hledger (turn_occur source hledger.nodup_cycles e)

end Standing

end ErDiagram
