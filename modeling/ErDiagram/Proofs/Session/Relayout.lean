import ErDiagram.Proofs.Diagram.Standard
import ErDiagram.Proofs.Session.Loading

/-!
# A layout that is selected

Selecting a layout has three parts: a value is read as a layout, which then counts as the selected one, the
nodes are placed, and the listeners are told. A value that names no layout is refused before anything has
changed. But a layout without a point for some node is selected all the same, over nodes that stand where
another one has put them. A listener is told when everything is done, and what it fails with comes last.

So a failure leaves everything as it was, unless it comes from the placing of the nodes under another layout
or from a listener.
-/

namespace ErDiagram

variable {σ : Type}

theorem Listeners.notices_of_failure {l : Listeners} {diagram : Diagram} {fault : Fault}
    (h : (l.notify diagram).2.2 = some fault) : (l.notify diagram).2.1 ≠ [] := by
  rw [notify] at h ⊢
  cases hregistered : l.registered with
  | nil =>
      rw [hregistered] at h
      cases h
  | cons listener rest =>
      rw [tell]
      cases l.react listener <;> simp

theorem Listeners.tell_of_silent {listeners : List Listener}
    (h : ∀ listener ∈ listeners, listener.failure = none ∧ listener.removes = none)
    (diagram : Diagram) (l : Listeners) :
    tell diagram listeners l = (l, listeners.map (⟨·, diagram⟩), none) := by
  induction listeners with
  | nil => rfl
  | cons listener rest ih =>
      obtain ⟨⟨hfailure, hremoves⟩, hrest⟩ := List.forall_mem_cons.1 h
      simp [tell, react, hfailure, hremoves, ih hrest]

/-- Whether a layout has a point for each node that a view shows. -/
def View.HasPoints (v : View) (kind : LayoutKind) : Prop :=
  ∀ index : Nat, index < v.diagram.nodes.length →
    ∃ point, Layout.position index v.diagram.nodes.length kind v.box = .ok point

theorem View.hasPoints_iff {v : View} {kind : LayoutKind} :
    v.HasPoints kind ↔ ∃ placed, Layout.apply v.diagram kind v.box = .ok placed := by
  constructor
  · intro h
    obtain ⟨points, hpoints⟩ := exists_mapM_eq_ok fun index hindex => h index (List.mem_range.1 hindex)
    exact ⟨_, Layout.apply_eq_ok.2 ⟨points, hpoints, rfl⟩⟩
  · rintro ⟨placed, h⟩ index hindex
    obtain ⟨points, hpoints, -⟩ := Layout.apply_eq_ok.1 h
    have hlength := Layout.length_positions hpoints
    have hpoint := (List.forall₂_iff_get.1 (Layout.positions_eq_ok.1 hpoints)).2 index
      (by simpa using hindex) (by omega)
    exact ⟨_, by simpa using hpoint⟩

namespace Session

/-- A session in which a layout is selected and the nodes are where they were. -/
def selecting (s : Session σ) (selected : LayoutKind) : Session σ :=
  { s with view := { s.view with layout := selected } }

/-- A session that shows its nodes placed under a layout and has told its listeners. -/
def relaid (s : Session σ) (selected : LayoutKind) (placed : Diagram) : Session σ :=
  { s with
    view := { s.view with layout := selected, diagram := placed }
    listeners := (s.listeners.notify placed).1
    notices := s.notices ++ (s.listeners.notify placed).2.1 }

/-- The ends that the selection of a layout can have. -/
inductive Selection (s : Session σ) (kind : Json) : Session σ × Except Fault Diagram → Prop
  | refused (fault : Fault) (unknown : LayoutKind.choose kind = .error fault) :
    Selection s kind (s, .error fault)
  | unplaced (selected : LayoutKind) (fault : Fault) (known : LayoutKind.choose kind = .ok selected)
    (pointless : ¬ s.view.HasPoints selected) : Selection s kind (s.selecting selected, .error fault)
  | placed (selected : LayoutKind) (diagram : Diagram) (known : LayoutKind.choose kind = .ok selected)
    (placed : Layout.apply s.view.diagram selected s.view.box = .ok diagram)
    (heard : (s.listeners.notify diagram).2.2 = none) :
    Selection s kind (s.relaid selected diagram, .ok diagram)
  | unheard (selected : LayoutKind) (diagram : Diagram) (fault : Fault)
    (known : LayoutKind.choose kind = .ok selected)
    (placed : Layout.apply s.view.diagram selected s.view.box = .ok diagram)
    (failed : (s.listeners.notify diagram).2.2 = some fault) :
    Selection s kind (s.relaid selected diagram, .error fault)

theorem selection (s : Session σ) (kind : Json) : Selection s kind (s.selectLayout kind) := by
  unfold selectLayout View.selectLayout View.replace
  cases hknown : LayoutKind.choose kind with
  | error fault => exact .refused fault hknown
  | ok selected =>
      simp only [bind, Except.bind, pure, Except.pure]
      cases happly : Layout.apply s.view.diagram selected s.view.box with
      | error fault =>
          refine .unplaced selected fault hknown fun hpoints => ?_
          obtain ⟨placed, hplaced⟩ := View.hasPoints_iff.1 hpoints
          rw [happly] at hplaced
          cases hplaced
      | ok diagram =>
          simp only [present]
          cases hfailure : (s.listeners.notify diagram).2.2 with
          | none => exact .placed selected diagram hknown happly hfailure
          | some fault => exact .unheard selected diagram fault hknown happly hfailure

/-- Whether the selection of a layout succeeds or leaves everything as it was. -/
def SelectsWhole (s : Session σ) (kind : Json) : Prop :=
  (∃ diagram, (s.selectLayout kind).2 = .ok diagram) ∨
    ∃ fault, s.selectLayout kind = (s, .error fault)

private theorem relaid_ne {s : Session σ} {selected : LayoutKind} {diagram : Diagram} {fault : Fault}
    (h : (s.listeners.notify diagram).2.2 = some fault) : s.relaid selected diagram ≠ s := by
  intro hsame
  have hnotices : s.notices ++ (s.listeners.notify diagram).2.1 = s.notices :=
    congrArg Session.notices hsame
  exact Listeners.notices_of_failure h (List.append_right_eq_self.1 hnotices)

/-- In every session and for every value, selecting a layout is all or nothing for what names no layout, for
the layout that is selected already and for one that has points for all nodes, as long as no listener fails,
and in no other case. Where it succeeds, the nodes are placed under the layout that was asked for, the
listeners have been told of them, and nothing else has changed. Where it does not, nothing has changed, or
the layout alone, or a listener has failed after everything was done. -/
theorem selects_whole_iff (s : Session σ) (kind : Json) :
    (s.SelectsWhole kind ↔ ∀ selected, LayoutKind.choose kind = .ok selected →
      (selected = s.view.layout ∨ s.view.HasPoints selected) ∧
        ∀ diagram, Layout.apply s.view.diagram selected s.view.box = .ok diagram →
          (s.listeners.notify diagram).2.2 = none) ∧
      (∀ diagram, (s.selectLayout kind).2 = .ok diagram →
        ∃ selected, LayoutKind.choose kind = .ok selected ∧
          Layout.apply s.view.diagram selected s.view.box = .ok diagram ∧
          diagram.payloads = s.view.diagram.payloads ∧ diagram.edges = s.view.diagram.edges ∧
          (s.selectLayout kind).1 = s.relaid selected diagram) ∧
      ∀ fault, (s.selectLayout kind).2 = .error fault →
        (s.selectLayout kind).1 = s ∨
        (∃ selected, LayoutKind.choose kind = .ok selected ∧ ¬ s.view.HasPoints selected ∧
          (s.selectLayout kind).1 = s.selecting selected) ∨
        ∃ selected diagram, LayoutKind.choose kind = .ok selected ∧
          Layout.apply s.view.diagram selected s.view.box = .ok diagram ∧
          (s.listeners.notify diagram).2.2 = some fault ∧
          (s.selectLayout kind).1 = s.relaid selected diagram := by
  have hselection := s.selection kind
  unfold SelectsWhole
  generalize s.selectLayout kind = ending at hselection ⊢
  cases hselection with
  | refused fault unknown =>
      refine ⟨⟨fun _ selected hknown => ?_, fun _ => .inr ⟨fault, rfl⟩⟩, nofun, fun _ _ => .inl rfl⟩
      rw [unknown] at hknown
      cases hknown
  | unplaced selected fault known pointless =>
      refine ⟨⟨?_, ?_⟩, nofun, fun _ _ => .inr (.inl ⟨selected, known, pointless, rfl⟩)⟩
      · rintro (⟨diagram, ⟨⟩⟩ | ⟨_, hsame⟩) selected' known'
        obtain rfl := Except.ok.inj (known.symm.trans known')
        have hlayout : selected = s.view.layout :=
          congrArg (fun ending => ending.1.view.layout) hsame
        refine ⟨.inl hlayout, fun diagram hplaced => ?_⟩
        exact absurd (View.hasPoints_iff.2 ⟨diagram, hplaced⟩) pointless
      · intro h
        obtain rfl := (h selected known).1.resolve_right pointless
        exact .inr ⟨fault, rfl⟩
  | placed selected diagram known placed heard =>
      refine ⟨⟨fun _ selected' known' => ?_, fun _ => .inl ⟨diagram, rfl⟩⟩, ?_, nofun⟩
      · obtain rfl := Except.ok.inj (known.symm.trans known')
        refine ⟨.inr (View.hasPoints_iff.2 ⟨diagram, placed⟩), fun diagram' placed' => ?_⟩
        obtain rfl := Except.ok.inj (placed.symm.trans placed')
        exact heard
      · rintro diagram' ⟨⟩
        obtain ⟨hpayloads, hedges⟩ := Diagram.payloads_of_apply placed
        exact ⟨selected, known, placed, hpayloads, hedges, rfl⟩
  | unheard selected diagram fault known placed failed =>
      refine ⟨⟨?_, ?_⟩, nofun, ?_⟩
      · rintro (⟨_, ⟨⟩⟩ | ⟨_, hsame⟩)
        exact absurd (congrArg Prod.fst hsame) (relaid_ne failed)
      · intro h
        rw [(h selected known).2 diagram placed] at failed
        cases failed
      · rintro fault' ⟨⟩
        exact .inr (.inr ⟨selected, diagram, known, placed, failed, rfl⟩)

/-- A circle is selected, and someone wants to be told of what a rebuild shows on it. -/
def circling : List (SessionEvent Unit) :=
  [.selectLayout (.str "circular"), .listen "watcher" none none, .request .rebuild, .progress 0]

/-- Nodes of the standard width have points in every layout. So whatever is asked for, the nodes are placed
and the listener is told, or nothing happens. -/
theorem selects_whole_of_standard :
    let s := (ofWidth 280).through (.prompt [⟨"orders", none⟩, ⟨"users", none⟩]) circling
    s.view.diagram.nodes.length = 2 ∧ s.listeners.registered.length = 1 ∧ ∀ kind, s.SelectsWhole kind := by
  intro s
  have hlength : s.view.diagram.nodes.length = 2 := by decide +kernel
  have hbox : s.view.box = .standard := by decide +kernel
  have hsilent : ∀ listener ∈ s.listeners.registered,
      listener.failure = none ∧ listener.removes = none := by decide +kernel
  refine ⟨hlength, by decide +kernel, fun kind => ?_⟩
  refine (selects_whole_iff s kind).1.2 fun selected _ => ⟨.inr ?_, fun diagram _ => ?_⟩
  · have hmost : s.view.diagram.nodes.length ≤ Nat.pow 2 1000 := by
      rw [hlength]
      decide +kernel
    obtain ⟨points, hpoints⟩ := Layout.exists_positions_standard hmost selected
    rw [← hbox] at hpoints
    exact View.hasPoints_iff.2 ⟨_, Layout.apply_eq_ok.2 ⟨points, hpoints, rfl⟩⟩
  · rw [Listeners.notify, Listeners.tell_of_silent hsilent]

/-- A width beyond the floating-point numbers leaves no point for the second node of a grid, and a grid is
selected with the nodes on the circle. -/
theorem grid_selected_over_circle :
    let source := MetadataSource.prompt [⟨"orders", none⟩, ⟨"users", none⟩]
    ∃ moments s, Run source (fun _ => True) (ofWidth (Int.pow 10 400)) moments s ∧
      s.view.phase = .ready ∧ s.view.layout = .circular ∧
      ¬ s.SelectsWhole (.str "grid") ∧
      (s.selectLayout (.str "grid")).2.toOption = none ∧
      (s.selectLayout (.str "grid")).1.view.layout = .grid ∧
      (s.selectLayout (.str "grid")).1.view.diagram = s.view.diagram := by
  intro source
  let s := (ofWidth (Int.pow 10 400)).through source circling
  have run : Run source (fun _ => True) (ofWidth (Int.pow 10 400)) _ s :=
    Run.nil.through circling fun _ _ => trivial
  have hfailed : (s.selectLayout (.str "grid")).2.toOption = none := by decide +kernel
  have hbefore : s.view.layout = .circular := by decide +kernel
  have hafter : (s.selectLayout (.str "grid")).1.view.layout = .grid := by decide +kernel
  refine ⟨_, s, run, by decide +kernel, hbefore, ?_, hfailed, hafter, by decide +kernel⟩
  -- from here on the session counts by what is known of it, not by how it came about
  clear_value s
  rintro (⟨diagram, hplaced⟩ | ⟨fault, hsame⟩)
  · rw [hplaced] at hfailed
    cases hfailed
  · rw [hsame, hbefore] at hafter
    cases hafter

end Session

end ErDiagram
