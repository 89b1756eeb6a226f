import ErDiagram.Proofs.Aggregation.Answers
import ErDiagram.Proofs.Diagram.Standard
import ErDiagram.Proofs.Session.Placement

/-!
# Every node at its point

Two things put nodes in place, a rebuild that commits and a layout that is selected, and they need not know
of the same diagram. In every run in which the layouts have points for the nodes, each node is at the point
that its index has in the layout that was selected last. Selecting a layout moves the nodes and does nothing
else.
-/

namespace ErDiagram

variable {σ : Type} {source : MetadataSource σ}

/-- A node of a view whose nodes are placed is at the point of its index. -/
theorem View.IsPlaced.position {v : View} (h : v.IsPlaced) {index : Nat} {node : Node}
    (hnode : v.diagram.nodes[index]? = some node) :
    Layout.position index v.diagram.nodes.length v.layout v.box = .ok node.position := by
  obtain ⟨points, hpoints, hmoved⟩ := Layout.apply_eq_ok.1 h
  have hlength := Layout.length_positions hpoints
  obtain ⟨hbound, -⟩ := List.getElem?_eq_some_iff.1 hnode
  have hpoint : points[index]? = some points[index] := List.getElem?_eq_getElem (by omega)
  have hposition : node.position = points[index] := by
    rw [← hmoved] at hnode
    simp only [Layout.moveNodes, List.getElem?_zipWith, hpoint] at hnode
    cases hfirst : v.diagram.nodes[index]? with
    | none => simp [hfirst] at hnode
    | some first =>
        simp only [hfirst, Option.some.injEq] at hnode
        rw [← hnode]
  rw [hposition]
  have hall := (List.forall₂_iff_get.1 (Layout.positions_eq_ok.1 hpoints)).2 index
    (by simpa using hbound) (by omega)
  simpa using hall

namespace Session

/-- Selecting a layout moves the nodes and tells the listeners, and everything else stays as it is. What names
no layout does not even do that. -/
theorem selectLayout_moves (s : Session σ) (kind : Json) :
    ∃ diagram listeners notices,
      (s.selectLayout kind).1 =
          { s with
            view := { s.view with
              layout := (LayoutKind.choose kind).toOption.getD s.view.layout
              diagram := diagram }
            listeners := listeners
            notices := notices } ∧
        diagram.payloads = s.view.diagram.payloads ∧ diagram.edges = s.view.diagram.edges := by
  unfold selectLayout View.selectLayout View.replace
  cases LayoutKind.choose kind with
  | error fault => exact ⟨s.view.diagram, s.listeners, s.notices, rfl, rfl, rfl⟩
  | ok selected =>
      simp only [bind, Except.bind, pure, Except.pure, Except.toOption, Option.getD_some]
      cases hplaced : Layout.apply s.view.diagram selected s.view.box with
      | error fault => exact ⟨s.view.diagram, s.listeners, s.notices, rfl, rfl, rfl⟩
      | ok diagram =>
          have hkept := Diagram.payloads_of_apply hplaced
          simp only [present]
          cases (s.listeners.notify diagram).2.2 with
          | none => exact ⟨diagram, _, _, rfl, hkept⟩
          | some fault => exact ⟨diagram, _, _, rfl, hkept⟩

end Session

/-- Whether no diagram that is placed at a moment has more than some number of nodes. -/
structure Moment.Within (source : MetadataSource σ) (most : Nat) (m : Moment σ) : Prop where
  shown : m.session.view.diagram.nodes.length ≤ most
  offered : ∀ c ∈ m.closing? source, c.offer.diagram.nodes.length ≤ most

theorem Turn.closing_box {s t : Session σ} {ticket : Option Nat} {layout : Option LayoutKind}
    {closing : Option (Closing σ)} (h : Turn s ticket layout closing t) :
    ∀ c ∈ closing, c.session.view.box = s.view.box := by
  rintro c ⟨⟩
  cases h with
  | returned c view generation flights finished =>
      rcases view with view | ⟨-, view⟩
      · rw [view]
        rfl
      · rw [view]
  | ended c view listeners notices flight flights finished => rw [view]

/-- The standard box has points for everything that is placed at a moment, up to `2 ^ 1000` nodes. -/
theorem Moment.places_of_standard {m : Moment σ} (hwithin : m.Within source (Nat.pow 2 1000))
    (hbox : m.session.view.box = .standard)
    (hclosing : ∀ c ∈ m.closing? source, c.session.view.box = m.session.view.box) :
    m.places source := by
  have happly : ∀ (diagram : Diagram) (kind : LayoutKind), diagram.nodes.length ≤ Nat.pow 2 1000 →
      ∃ placed, Layout.apply diagram kind .standard = .ok placed := by
    intro diagram kind hmost
    obtain ⟨points, hpoints⟩ := Layout.exists_positions_standard hmost kind
    exact ⟨_, Layout.apply_eq_ok.2 ⟨points, hpoints, rfl⟩⟩
  rw [places, Bool.and_eq_true, Option.all_eq_true, Option.all_eq_true]
  constructor
  · intro c hc
    obtain ⟨placed, hplaced⟩ :=
      happly c.offer.diagram c.session.view.layout (hwithin.offered c hc)
    have hcommit := Offer.commit_eq_ok (v := c.session.view).2
      ⟨placed, by rwa [hclosing c hc, hbox], rfl⟩
    rw [hcommit]
    exact Bool.or_true _
  · intro kind hkind
    obtain ⟨placed, hplaced⟩ := happly m.session.view.diagram kind hwithin.shown
    rw [hbox, hplaced]
    rfl

/-- In every run in which the layouts have points for the nodes, the nodes are where the layout that was
selected last puts them, and selecting another one moves them and nothing else. In the standard box the
layouts have points at every moment at which no diagram has more than `2 ^ 1000` nodes. -/
theorem positions_follow_layout (source : MetadataSource σ) {limits : FetchLimits} {context : Context}
    {layout : LayoutKind} {box : NodeBox} {state : σ} {moments : List (Moment σ)} {s : Session σ}
    (run : Run source (fun m => m.places source)
      (Session.opened limits context layout box state) moments s) :
    s.view.box = box ∧ s.view.layout = (selected moments).getLast?.getD layout ∧
      (∀ (index : Nat) node, s.view.diagram.nodes[index]? = some node →
        Layout.position index s.view.diagram.nodes.length s.view.layout box = .ok node.position) ∧
      (∀ kind : Json, ∃ diagram listeners notices,
        (s.selectLayout kind).1 =
            { s with
              view := { s.view with
                layout := (LayoutKind.choose kind).toOption.getD s.view.layout
                diagram := diagram }
              listeners := listeners
              notices := notices } ∧
          diagram.payloads = s.view.diagram.payloads ∧ diagram.edges = s.view.diagram.edges) ∧
      (box = .standard → ∀ e : SessionEvent σ, Moment.Within source (Nat.pow 2 1000) ⟨s, e⟩ →
        Moment.places source ⟨s, e⟩) := by
  have hlaid := LaidOut.of_run run
  have hplaced := View.IsPlaced.of_run run fun _ h => h
  refine ⟨hlaid.box, hlaid.layout, ?_, s.selectLayout_moves, ?_⟩
  · intro index node hnode
    rw [← hlaid.box]
    exact hplaced.position hnode
  · intro hstandard e hwithin
    have hturn := turn_occur source (Ledger.of_run run).nodup_cycles e
    exact Moment.places_of_standard hwithin (hlaid.box.trans hstandard) hturn.closing_box

/-- A layout is selected of a view without nodes, another one while a rebuild is under way, and a value that
names none when it has ended. -/
def Session.switchedWhileLoading : List (SessionEvent Unit) :=
  [.selectLayout (.str "hierarchical"), .request .rebuild, .selectLayout (.str "circular"),
    .progress 0, .selectLayout (.str "spiral")]

/-- A rebuild puts its nodes on the circle that was selected after it had begun. -/
theorem positions_follow_layout_of_switching :
    let first : Session Unit :=
      .opened ⟨8, none, by decide⟩ ⟨some "public", none, none, none⟩ .grid .standard ()
    let source := MetadataSource.prompt [⟨"orders", none⟩, ⟨"users", none⟩]
    let s := first.through source Session.switchedWhileLoading
    s.view.phase = .ready ∧ s.view.layout = .circular ∧ s.view.diagram.nodes.length = 2 ∧
      ∀ (index : Nat) node, s.view.diagram.nodes[index]? = some node →
        Layout.position index 2 .circular .standard = .ok node.position := by
  intro first source s
  have run : Run source (fun m => m.places source) first _ s :=
    Run.nil.through Session.switchedWhileLoading (by decide +kernel)
  obtain ⟨-, -, hposition, -, -⟩ := positions_follow_layout source run
  have hlayout : s.view.layout = .circular := by decide +kernel
  have hlength : s.view.diagram.nodes.length = 2 := by decide +kernel
  rw [hlayout, hlength] at hposition
  exact ⟨by decide +kernel, hlayout, hlength, hposition⟩

end ErDiagram
