import ErDiagram.Proofs.Session.Ledger

/-!
# Where the nodes are

The layout of a view is the one that was selected last, and the box never changes. As long as the layouts
that are selected have points for the nodes, the nodes are where the current layout puts them, whatever
rebuilds and selections there were.
-/

namespace ErDiagram

variable {σ : Type}

/-- How a view is laid out after some moments, from the layout and the box that it had at first. -/
structure LaidOut (layout : LayoutKind) (box : NodeBox) (moments : List (Moment σ)) (v : View) :
    Prop where
  layout : v.layout = (selected moments).getLast?.getD layout
  box : v.box = box

/-- Whether the nodes of a view are where its layout puts them. -/
def View.IsPlaced (v : View) : Prop :=
  Layout.apply v.diagram v.layout v.box = .ok v.diagram

@[simp] theorem selected_append (moments : List (Moment σ)) (m : Moment σ) :
    selected (moments ++ [m]) = selected moments ++ m.selected?.toList := by
  unfold selected
  rw [List.filterMap_append]
  cases h : m.selected? <;> simp [List.filterMap, h]

theorem Layout.apply_self_of_apply {diagram placed : Diagram} {kind : LayoutKind} {box : NodeBox}
    (h : apply diagram kind box = .ok placed) : apply placed kind box = .ok placed :=
  (apply_of_apply h).trans h

variable {source : MetadataSource σ} {moments : List (Moment σ)} {s t : Session σ} {m : Moment σ}

namespace LaidOut

variable {layout : LayoutKind} {box : NodeBox}

theorem turn (h : LaidOut layout box moments s.view)
    (hturn : Turn s m.begun? m.selected? (m.closing? source) t) :
    LaidOut layout box (moments ++ [m]) t.view := by
  have hselected := selected_append moments m
  generalize m.begun? = ticket at hturn
  generalize m.closing? source = closing at hturn
  generalize m.selected? = choice at hturn hselected
  -- only a selection changes the layout, and only to the one that is selected
  have hkept : choice = none → t.view.layout = s.view.layout → t.view.box = s.view.box →
      LaidOut layout box (moments ++ [m]) t.view := by
    rintro rfl hlayout hbox
    rw [Option.toList_none, List.append_nil] at hselected
    exact ⟨by rw [hlayout, hselected, h.layout], by rw [hbox, h.box]⟩
  cases hturn with
  | still view flights finished =>
      apply hkept rfl <;> rw [view]
  | began ticket view flights finished =>
      apply hkept rfl <;> rw [view] <;> rfl
  | returned c view generation flights finished =>
      have hview : c.session.view.layout = s.view.layout ∧ c.session.view.box = s.view.box := by
        rcases view with view | ⟨-, view⟩ <;> rw [view] <;> exact ⟨rfl, rfl⟩
      exact hkept rfl (c.after_layout.trans hview.1) (c.after_box.trans hview.2)
  | ended c view listeners notices flight flights finished =>
      have hlayout := c.after_layout
      have hbox := c.after_box
      rw [view] at hlayout hbox
      exact hkept rfl hlayout hbox
  | selected kind diagram view placed flights finished =>
      constructor
      · rw [view, hselected, Option.toList_some, List.getLast?_concat]
        rfl
      · rw [view]
        exact h.box

theorem of_run {allowed : Moment σ → Prop} {limits : FetchLimits} {context : Context} {state : σ}
    (run : Run source allowed (Session.opened limits context layout box state) moments s) :
    LaidOut layout box moments s.view := by
  induction run with
  | nil => exact ⟨rfl, rfl⟩
  | snoc run e allowed ih => exact ih.turn (turn_occur source (Ledger.of_run run).nodup_cycles e)

end LaidOut

namespace View.IsPlaced

/-- A turn leaves the nodes placed when the layout has points for them. -/
theorem turn (h : s.view.IsPlaced)
    (hplaces : ∀ kind ∈ m.selected?, ∃ diagram,
      Layout.apply s.view.diagram kind s.view.box = .ok diagram)
    (hturn : Turn s m.begun? m.selected? (m.closing? source) t) : t.view.IsPlaced := by
  generalize m.begun? = ticket at hturn
  generalize m.closing? source = closing at hturn
  generalize m.selected? = choice at hturn hplaces
  have hclosing : ∀ c : Closing σ, c.session.view.IsPlaced → c.after.view.IsPlaced := by
    intro c hc
    rcases c.after_view_cases with hview | ⟨placed, hplaced, hview⟩
    · rwa [hview]
    · rw [hview]
      exact Layout.apply_self_of_apply hplaced
  cases hturn with
  | still view flights finished => rwa [view]
  | began ticket view flights finished =>
      rw [view]
      exact h
  | returned c view generation flights finished =>
      refine hclosing c ?_
      rcases view with view | ⟨-, view⟩ <;> rw [view] <;> exact h
  | ended c view listeners notices flight flights finished =>
      refine hclosing c ?_
      rwa [view]
  | selected kind diagram view placed flights finished =>
      rcases placed with placed | ⟨-, fault, hfault⟩
      · rw [view]
        exact Layout.apply_self_of_apply placed
      · obtain ⟨diagram, hdiagram⟩ := hplaces kind rfl
        rw [hfault] at hdiagram
        cases hdiagram

/-- The nodes are where the layout puts them, in every run in which it has points for them. -/
theorem of_run {allowed : Moment σ → Prop} {limits : FetchLimits} {context : Context}
    {layout : LayoutKind} {box : NodeBox} {state : σ}
    (run : Run source allowed (Session.opened limits context layout box state) moments s)
    (hallowed : ∀ m, allowed m → m.places source) : s.view.IsPlaced := by
  induction run with
  | nil => exact Layout.apply_empty layout box
  | @snoc moments s run e hplaces ih =>
      have hledger := Ledger.of_run run
      refine ih.turn (m := ⟨s, e⟩) ?_ (turn_occur source hledger.nodup_cycles e)
      intro kind hkind
      have hok := (Bool.and_eq_true_iff.1 (hallowed _ hplaces)).2
      rw [Option.all_eq_true] at hok
      cases happly : Layout.apply s.view.diagram kind s.view.box with
      | ok diagram => exact ⟨diagram, rfl⟩
      | error fault =>
          have hfails := hok kind hkind
          rw [happly] at hfails
          cases hfails

end View.IsPlaced

end ErDiagram
