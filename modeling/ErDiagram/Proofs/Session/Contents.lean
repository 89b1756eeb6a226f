import ErDiagram.Proofs.Session.Overlap

/-!
# What a view retains

A view changes what it shows by commits alone. A rebuild that begins makes it wait, a layout that is
selected moves its nodes, and a rebuild that is superseded or cannot be placed leaves it as it is. So at
every moment of a run the view shows what the last commit put in place, or what it showed at first.
-/

namespace ErDiagram

variable {σ : Type}

/-- Whether a view shows what another one does, or waits with it in place. Neither the generation nor the
places of the nodes matter. -/
structure View.Retains (v w : View) : Prop where
  phase : v.phase = .loading ∨ v.phase = w.phase
  schema : v.schema = w.schema
  error : v.error = w.error
  diagnostics : v.diagnostics = w.diagnostics
  payloads : v.diagram.payloads = w.diagram.payloads
  edges : v.diagram.edges = w.diagram.edges
  network : v.network = w.network

namespace View.Retains

theorem refl (v : View) : v.Retains v :=
  ⟨.inr rfl, rfl, rfl, rfl, rfl, rfl, rfl⟩

theorem trans {u v w : View} (h : u.Retains v) (h' : v.Retains w) : u.Retains w where
  phase := by
    rcases h.phase with hloading | hsame
    · exact .inl hloading
    · rw [hsame]
      exact h'.phase
  schema := h.schema.trans h'.schema
  error := h.error.trans h'.error
  diagnostics := h.diagnostics.trans h'.diagnostics
  payloads := h.payloads.trans h'.payloads
  edges := h.edges.trans h'.edges
  network := h.network.trans h'.network

theorem await (v : View) : v.await.Retains v :=
  ⟨.inl rfl, rfl, rfl, rfl, rfl, rfl, rfl⟩

private theorem replaced {v : View} {kind kind' : LayoutKind} {box : NodeBox} {diagram : Diagram}
    (h : Layout.apply v.diagram kind box = .ok diagram) :
    View.Retains { v with layout := kind', diagram := diagram } v := by
  obtain ⟨hpayloads, hedges⟩ := Diagram.payloads_of_apply h
  exact ⟨.inr rfl, rfl, rfl, rfl, hpayloads, hedges, rfl⟩

theorem nodeIds {v w : View} (h : v.Retains w) : v.diagram.nodeIds = w.diagram.nodeIds := by
  rw [Diagram.nodeIds_eq, Diagram.nodeIds_eq, h.payloads]

end View.Retains

namespace Closing

/-- Whether a rebuild commits, as it can be computed. -/
def isCommit (c : Closing σ) : Bool :=
  c.session.view.isLatest c.generation && (c.offer.commit c.session.view).isOk

theorem isCommit_iff {c : Closing σ} : c.isCommit = true ↔ c.Commits := by
  rw [commits_iff, isCommit, Bool.and_eq_true, View.isLatest, decide_eq_true_eq]
  refine and_congr eq_comm ?_
  cases c.offer.commit c.session.view with
  | ok shown => simp [Except.isOk, Except.toBool]
  | error fault => simp [Except.isOk, Except.toBool]

private theorem shownBy_of_commits {c : Closing σ} (h : c.Commits) : c.offer.ShownBy c.after.view := by
  obtain ⟨shown, hshown, hafter⟩ := h
  rw [hafter, Session.conclusion_eq]
  exact Offer.shownBy_of_commit hshown

theorem view_of_not_commits {c : Closing σ} (h : ¬ c.Commits) : c.after.view = c.session.view := by
  rcases c.after_cases with ⟨-, hafter⟩ | ⟨shown, -, hshown, hafter⟩ | ⟨fault, -, -, hafter⟩
  · rw [hafter]
    rfl
  · exact absurd ⟨shown, hshown, hafter⟩ h
  · rw [hafter]
    rfl

end Closing

/-- The view as the last commit left it, or as it was at first. -/
def lastShown (source : MetadataSource σ) (moments : List (Moment σ)) (first : View) : View :=
  (((closings source moments).filter (·.isCommit)).getLast?.map (·.after.view)).getD first

variable {source : MetadataSource σ}

/-- A turn that commits nothing leaves the view with what it shows. -/
theorem Turn.retains {s t : Session σ} {ticket : Option Nat} {layout : Option LayoutKind}
    {closing : Option (Closing σ)} (h : Turn s ticket layout closing t)
    (hnone : ∀ c ∈ closing, ¬ c.Commits) : t.view.Retains s.view := by
  cases h with
  | still view flights finished =>
      rw [view]
      exact .refl s.view
  | selected kind diagram view placed flights finished =>
      rw [view]
      rcases placed with placed | ⟨rfl, -⟩
      · exact .replaced placed
      · exact ⟨.inr rfl, rfl, rfl, rfl, rfl, rfl, rfl⟩
  | began ticket view flights finished =>
      rw [view]
      exact .await s.view
  | returned c view generation flights finished =>
      rw [Closing.view_of_not_commits (hnone c rfl)]
      rcases view with view | ⟨-, view⟩
      · rw [view]
        exact .await s.view
      · rw [view]
        exact ⟨.inr rfl, rfl, rfl, rfl, rfl, rfl, rfl⟩
  | ended c view listeners notices flight flights finished =>
      rw [Closing.view_of_not_commits (hnone c rfl), view]
      exact .refl s.view

private theorem lastShown_append (moments : List (Moment σ)) (m : Moment σ) (first : View) :
    lastShown source (moments ++ [m]) first =
      (((m.closing? source).filter (·.isCommit)).map (·.after.view)).getD
        (lastShown source moments first) := by
  rw [lastShown, closings_append, List.filter_append, List.getLast?_append]
  cases m.closing? source with
  | none => rfl
  | some c => cases hcommit : c.isCommit <;> simp [hcommit, lastShown, Option.filter_some]

variable {allowed : Moment σ → Prop} {limits : FetchLimits} {context : Context}
variable {layout : LayoutKind} {box : NodeBox} {state : σ} {moments : List (Moment σ)}
variable {s : Session σ}

/-- At every moment of a run the view retains what the last commit put in place. -/
theorem Run.retains
    (run : Run source allowed (Session.opened limits context layout box state) moments s) :
    s.view.Retains (lastShown source moments (.fresh layout box)) := by
  induction run with
  | nil => exact .refl _
  | @snoc moments s run e h ih =>
      have hturn := turn_occur source (Ledger.of_run run).nodup_cycles e
      rw [lastShown_append]
      cases hclosing : Moment.closing? source ⟨s, e⟩ with
      | none =>
          rw [hclosing] at hturn
          exact (hturn.retains fun c hc => by cases hc).trans ih
      | some c =>
          rw [hclosing] at hturn
          cases hcommit : c.isCommit with
          | true =>
              rw [hturn.eq_after, Option.filter_some, if_pos hcommit]
              exact .refl _
          | false =>
              have hnone : ∀ d ∈ some c, ¬ d.Commits := by
                intro d hd
                obtain rfl := Option.some.inj hd
                rw [← Closing.isCommit_iff, hcommit]
                exact Bool.false_ne_true
              rw [Option.filter_some, if_neg (by rw [hcommit]; exact Bool.false_ne_true)]
              exact (hturn.retains hnone).trans ih

theorem Offer.shownBy_fresh (layout : LayoutKind) (box : NodeBox) :
    Offer.nothing.ShownBy (.fresh layout box) :=
  ⟨rfl, rfl, rfl, rfl, rfl, rfl⟩

/-- What the last commit put in place is an offer of a rebuild that has ended, and at first it is nothing. -/
theorem exists_shownBy_lastShown (source : MetadataSource σ) (moments : List (Moment σ))
    (layout : LayoutKind) (box : NodeBox) :
    ∃ offer, offer.ShownBy (lastShown source moments (.fresh layout box)) ∧
      (offer = .nothing ∨ ∃ c ∈ closings source moments, c.Commits ∧ c.offer = offer) := by
  rw [lastShown]
  cases hlast : ((closings source moments).filter (·.isCommit)).getLast? with
  | none => exact ⟨.nothing, Offer.shownBy_fresh layout box, .inl rfl⟩
  | some c =>
      obtain ⟨hmem, hcommit⟩ := List.mem_filter.1 (List.mem_of_getLast? hlast)
      have hcommits := Closing.isCommit_iff.1 hcommit
      exact ⟨c.offer, Closing.shownBy_of_commits hcommits, .inr ⟨c, hmem, hcommits, rfl⟩⟩

/-- The tables and the edges of a view are those of the offer that it shows. -/
theorem Offer.contents_of_shownBy {offer : Offer} {v : View} (h : offer.ShownBy v) :
    v.diagram.payloads = offer.diagram.payloads ∧ v.diagram.edges = offer.diagram.edges := by
  exact Diagram.payloads_of_apply h.placed

end ErDiagram
