import ErDiagram.Proofs.Diagram.Placing
import ErDiagram.View.State

/-!
# What a rebuild offers to show

A rebuild that ends offers the view something to show: nothing for want of a schema, or what the cycle of
a schema has come to. A view shows an offer when its fields are those of the offer and its nodes stand where
the selected layout puts them. That is so after every commit, and it remains so when the nodes are placed
anew. A view that shows an offer is therefore known from the offer, the layout and the box.
-/

namespace ErDiagram

inductive Offer where
  | nothing
  | result (schema : CodeString) (result : CycleResult)
  deriving DecidableEq, Repr

namespace Offer

def phase : Offer → Phase
  | nothing => .idle
  | result _ (.collected _ _) => .ready
  | result _ (.failed _) => .error

def schema : Offer → Option CodeString
  | nothing => none
  | result schema _ => some schema

def error : Offer → Option CodeString
  | result _ (.failed message) => some message
  | _ => none

def diagram : Offer → Diagram
  | result _ (.collected diagram _) => diagram
  | _ => .empty

def diagnostics : Offer → List Diagnostic
  | result _ (.collected _ diagnostics) => diagnostics
  | _ => []

def commit (offer : Offer) (v : View) : Except Fault View :=
  v.commit offer.phase offer.schema offer.error offer.diagram offer.diagnostics

/-- Whether a view shows an offer, with the nodes placed in the selected layout. -/
structure ShownBy (offer : Offer) (v : View) : Prop where
  phase : v.phase = offer.phase
  schema : v.schema = offer.schema
  error : v.error = offer.error
  diagnostics : v.diagnostics = offer.diagnostics
  network : v.network = .ofDiagram offer.diagram
  placed : Layout.apply offer.diagram v.layout v.box = .ok v.diagram

@[simp] theorem phase_ne_loading (offer : Offer) : offer.phase ≠ .loading := by
  unfold phase
  split <;> simp

theorem commit_eq_ok {offer : Offer} {v v' : View} :
    offer.commit v = .ok v' ↔
      ∃ placed, Layout.apply offer.diagram v.layout v.box = .ok placed ∧
        v' = { v with
          phase := offer.phase
          diagram := placed
          network := .ofDiagram placed
          schema := offer.schema
          error := offer.error
          diagnostics := offer.diagnostics } := by
  rw [Offer.commit, View.commit]
  rw [bind_eq_ok_iff]
  constructor
  · rintro ⟨placed, hplaced, h⟩
    cases h
    exact ⟨placed, hplaced, rfl⟩
  · rintro ⟨placed, hplaced, rfl⟩
    exact ⟨placed, hplaced, rfl⟩

/-- An offer can be shown exactly when the layout has points for its nodes. -/
theorem commit_eq_error {offer : Offer} {v : View} {fault : Fault} :
    offer.commit v = .error fault ↔
      Layout.positions offer.diagram.nodes.length v.layout v.box = .error fault := by
  unfold Offer.commit View.commit Layout.apply
  cases Layout.positions offer.diagram.nodes.length v.layout v.box with
  | error cause => simp [bind, Except.bind]
  | ok points => simp [bind, Except.bind, pure, Except.pure]

theorem collected_of_commit_eq_error {offer : Offer} {v : View} {fault : Fault}
    (h : offer.commit v = .error fault) :
    ∃ schema diagram diagnostics, offer = .result schema (.collected diagram diagnostics) := by
  match offer with
  | .nothing => cases h
  | .result schema (.collected diagram diagnostics) => exact ⟨schema, diagram, diagnostics, rfl⟩
  | .result schema (.failed message) => cases h

theorem shownBy_of_commit {offer : Offer} {v v' : View} (h : offer.commit v = .ok v') :
    offer.ShownBy v' := by
  obtain ⟨placed, hplaced, rfl⟩ := commit_eq_ok.1 h
  exact ⟨rfl, rfl, rfl, rfl, Network.ofDiagram_of_apply hplaced, hplaced⟩

/-- Placing the nodes anew in any layout leaves a view with the offer that it shows. -/
theorem shownBy_replace {offer : Offer} {v : View} (h : offer.ShownBy v) {kind : LayoutKind}
    {diagram : Diagram} (hplaced : Layout.apply v.diagram kind v.box = .ok diagram) :
    offer.ShownBy { v with layout := kind, diagram := diagram } := by
  rw [Layout.apply_of_apply h.placed] at hplaced
  exact ⟨h.phase, h.schema, h.error, h.diagnostics, h.network, hplaced⟩

/-- The phase, the schema, the error, the diagnostics, the diagram and the network of a view are known from
the offer that it shows, the selected layout and the box. -/
theorem eq_of_shownBy {offer : Offer} {v w : View} (hv : offer.ShownBy v) (hw : offer.ShownBy w)
    (hlayout : v.layout = w.layout) (hbox : v.box = w.box) :
    v = { w with generation := v.generation } := by
  have hdiagram : v.diagram = w.diagram := by
    have hplaced := hv.placed
    rw [hlayout, hbox, hw.placed] at hplaced
    exact (Except.ok.inj hplaced).symm
  rw [View.mk.injEq]
  exact ⟨hv.phase.trans hw.phase.symm, hdiagram, hv.network.trans hw.network.symm,
    hv.schema.trans hw.schema.symm, hv.error.trans hw.error.symm,
    hv.diagnostics.trans hw.diagnostics.symm, rfl, hlayout, hbox⟩

theorem conclude_of_latest {v : View} {generation : Nat} (h : v.generation = generation)
    (schema : CodeString) (result : CycleResult) :
    v.conclude generation schema result =
      (Offer.result schema result).commit v >>= fun next => .ok (next, true) := by
  rw [View.conclude, View.isLatest]
  simp only [h, decide_true, if_true]
  cases result <;> rfl

end Offer

namespace View

/-- The view after a rebuild that nothing overtakes, and what the rebuild is noted as. An offer that cannot be
placed leaves the view waiting. -/
def renew (v : View) (offer : Offer) : View × Except Fault Bool :=
  match offer.commit v.await with
  | .ok shown => (shown, .ok true)
  | .error fault => (v.await, .error fault)

/-- What a rebuild comes to depends on the layout and the box alone. When its offer cannot be placed, it leaves
what was shown before. -/
theorem renew_cases {v w : View} (hlayout : v.layout = w.layout) (hbox : v.box = w.box)
    (offer : Offer) :
    (∃ fault, v.renew offer = (v.await, .error fault) ∧ w.renew offer = (w.await, .error fault)) ∨
      ∃ shown : View, shown.phase = offer.phase ∧
        v.renew offer = ({ shown with generation := v.generation + 1 }, .ok true) ∧
        w.renew offer = ({ shown with generation := w.generation + 1 }, .ok true) := by
  rw [renew, renew]
  cases hv : offer.commit v.await with
  | error fault =>
      have hw : offer.commit w.await = .error fault := by
        rw [Offer.commit_eq_error] at hv ⊢
        rw [← hv]
        exact congrArg₂ _ hlayout.symm hbox.symm
      rw [hw]
      exact .inl ⟨fault, rfl, rfl⟩
  | ok shown =>
      obtain ⟨placed, hplaced, hshown⟩ := Offer.commit_eq_ok.1 hv
      have hw : offer.commit w.await = .ok { shown with generation := w.generation + 1 } := by
        refine Offer.commit_eq_ok.2 ⟨placed, ?_, ?_⟩
        · rw [← hplaced]
          exact congrArg₂ _ hlayout.symm hbox.symm
        · simp only [hshown, await, hlayout, hbox]
      rw [hw]
      refine .inr ⟨shown, ?_, ?_, rfl⟩
      · rw [hshown]
      · rw [hshown]
        rfl

@[simp] theorem renew_generation (v : View) (offer : Offer) :
    (v.renew offer).1.generation = v.generation + 1 := by
  rcases renew_cases (v := v) (w := v) rfl rfl offer with ⟨fault, h, -⟩ | ⟨shown, -, h, -⟩
  · rw [h]
    rfl
  · rw [h]

@[simp] theorem renew_box (v : View) (offer : Offer) : (v.renew offer).1.box = v.box := by
  rw [renew]
  cases hcommit : offer.commit v.await with
  | error fault => rfl
  | ok shown =>
      obtain ⟨placed, -, rfl⟩ := Offer.commit_eq_ok.1 hcommit
      rfl

/-- A view as it is when a number of rebuilds went before. -/
def preceded (before : Nat) (v : View) : View :=
  { v with generation := before + v.generation }

theorem renew_preceded (before : Nat) (v : View) (offer : Offer) :
    (v.preceded before).renew offer = ((v.renew offer).1.preceded before, (v.renew offer).2) := by
  rcases renew_cases (v := v.preceded before) (w := v) rfl rfl offer with
    ⟨fault, h, h'⟩ | ⟨shown, -, h, h'⟩
  · rw [h, h']
    rfl
  · rw [h, h']
    rfl

/-- The view after a layout was asked for, with the diagram when its nodes were placed anew. A layout that cannot
place them stands all the same. -/
def rearrange (v : View) (kind : Json) : View × Except Fault Diagram :=
  match v.selectLayout kind with
  | .error fault => (v, .error fault)
  | .ok selected =>
    match selected.replace with
    | .error fault => (selected, .error fault)
    | .ok placed => (placed, .ok placed.diagram)

@[simp] theorem rearrange_box (v : View) (kind : Json) : (v.rearrange kind).1.box = v.box := by
  unfold rearrange selectLayout replace
  cases LayoutKind.choose kind with
  | error fault => rfl
  | ok selected =>
      simp only [bind, Except.bind, pure, Except.pure]
      cases Layout.apply v.diagram selected v.box <;> rfl

theorem rearrange_preceded (before : Nat) (v : View) (kind : Json) :
    (v.preceded before).rearrange kind =
      ((v.rearrange kind).1.preceded before, (v.rearrange kind).2) := by
  unfold rearrange selectLayout replace
  cases LayoutKind.choose kind with
  | error fault => rfl
  | ok selected =>
      simp only [preceded, bind, Except.bind, pure, Except.pure]
      cases Layout.apply v.diagram selected v.box <;> rfl

end View

end ErDiagram
