import ErDiagram.Proofs.Diagram.Explained
import ErDiagram.Proofs.Session.Contents
import ErDiagram.Proofs.Session.Origin

/-!
# Views in which everything fits together

The fields of a view are written by commits, by rebuilds that begin and by layouts that are selected. They
fit together all the same: an idle view and one that tells of an error show no diagram, a ready view tells
of no error, and a view that waits shows what it did before. The edges and the diagnostics of a view belong
to its nodes. This follows from what rebuilds offer, since a view shows nothing else.
-/

namespace ErDiagram

variable {σ : Type}

/-- Whether a collection is made of rows with the outcomes of asking for their structures. -/
def Collected.IsGathered (collected : Collected) : Prop :=
  ∃ outcomes, collected = .ofOutcomes collected.schema outcomes

/-- Whether an event that makes the work of a cycle end with tables ends it with tables that were gathered. -/
def SessionEvent.IsGenuine : SessionEvent σ → Prop
  | .halt _ (.ok collected) => collected.IsGathered
  | _ => True

namespace Work

/-- Whether work that has ended with tables has gathered them. -/
def IsGathered (work : Work) : Prop :=
  ∀ collected, work.result? = some (.ok collected) → collected.IsGathered

theorem isGathered_of_open {work : Work} (h : work.result? = none) : work.IsGathered := by
  intro collected hresult
  rw [h] at hresult
  cases hresult

theorem isGathered_ofOutcomes (schema : CodeString)
    (outcomes : List (ListedTable × Except Fault RawStructure)) :
    (Work.ended (.ok (.ofOutcomes schema outcomes))).IsGathered := by
  intro collected hresult
  cases hresult
  exact ⟨outcomes, rfl⟩

theorem isGathered_failed (fault : Fault) : (Work.ended (.error fault)).IsGathered := by
  intro collected hresult
  cases hresult

theorem isGathered_listed (schema : CodeString) (answer : Except Fault Listing) :
    (listed schema answer).IsGathered := by
  unfold listed
  split
  · exact isGathered_failed _
  · split
    · exact isGathered_failed _
    · exact isGathered_ofOutcomes schema []
    · exact isGathered_of_open rfl

private theorem isGathered_start (source : MetadataSource σ) (context : Context) (schema : CodeString)
    (now : Nat) (s : σ) : (start source context schema now s).work.IsGathered := by
  rw [start]
  simp only
  split
  · exact isGathered_listed schema _
  · exact isGathered_of_open rfl
  · exact isGathered_of_open rfl

variable {source : MetadataSource σ} {limits : FetchLimits} {context : Context}

theorem isGathered_fetch (now : Nat) (schema : CodeString) (fetches : List Fetch) (s : σ) :
    (fetch source limits context now schema fetches s).work.IsGathered := by
  simp only [fetch, ofFetches]
  split
  · exact isGathered_ofOutcomes schema _
  · exact isGathered_of_open rfl

private theorem isGathered_advance {work : Work} (h : work.IsGathered) (now : Nat) (s : σ) :
    (advance source limits context now work s).work.IsGathered := by
  unfold advance
  split
  · next schema due answer =>
    split
    · have hlisted := isGathered_listed schema answer
      generalize listed schema answer = next at hlisted
      split
      · exact isGathered_fetch now _ _ s
      · exact hlisted
    · exact h
  · exact isGathered_fetch now _ _ s
  · exact h

end Work

namespace Offer

/-- What is so of everything that a rebuild offers to show. -/
structure IsSound (offer : Offer) : Prop where
  named : ∀ schema, offer.schema = some schema → schema ≠ ""
  coherent : offer.diagram.IsCoherent
  explained : offer.diagram.IsExplained offer.diagnostics

theorem isCoherent_result (schema : CodeString) (assembling : Option Fault)
    (result : Except Fault Collected) :
    (Offer.result schema (.ofCollection assembling result)).diagram.IsCoherent := by
  cases result with
  | error fault => exact Diagram.isCoherent_assemble []
  | ok collected =>
      cases assembling with
      | some fault => exact Diagram.isCoherent_assemble []
      | none => exact Diagram.isCoherent_assemble collected.tables

theorem isSound_nothing : nothing.IsSound where
  named schema h := by cases h
  coherent := Diagram.isCoherent_assemble []
  explained := Diagram.isExplained_empty

/-- What a cycle of a schema with a name has come to is sound, when its tables were gathered. -/
theorem isSound_result {schema : CodeString} (hname : schema ≠ "") (assembling : Option Fault)
    {result : Except Fault Collected}
    (hgathered : ∀ collected, result = .ok collected → collected.IsGathered) :
    (Offer.result schema (.ofCollection assembling result)).IsSound where
  named name h := by rwa [← Option.some.inj h]
  coherent := isCoherent_result schema assembling result
  explained := by
    cases result with
    | error fault => exact Diagram.isExplained_empty
    | ok collected =>
        cases assembling with
        | some fault => exact Diagram.isExplained_empty
        | none =>
            obtain ⟨outcomes, houtcomes⟩ := hgathered collected rfl
            show (Diagram.assemble collected.tables).IsExplained collected.diagnostics
            rw [houtcomes]
            exact Collected.isExplained_ofOutcomes _ outcomes

end Offer

/-- Every rebuild of a run offers what is sound. -/
theorem Run.isSound_offer {source : MetadataSource σ} {limits : FetchLimits} {context : Context}
    {layout : LayoutKind} {box : NodeBox} {state : σ} {moments : List (Moment σ)} {s : Session σ}
    (run : Run source (fun m => m.event.IsGenuine)
      (Session.opened limits context layout box state) moments s)
    {c : Closing σ} (hc : c ∈ closings source moments) : c.offer.IsSound := by
  have hended := run.forall_closings (P := fun cycle => cycle.schema ≠ "" ∧ cycle.work.IsGathered)
    ?_ ?_ ?_ hc
  · rcases hended with hnothing | ⟨m, -, hgenuine, cycle, ⟨hname, hwork⟩, result, assembling,
      hreached, hoffer⟩
    · rw [hnothing]
      exact Offer.isSound_nothing
    · rw [hoffer]
      apply Offer.isSound_result hname
      intro collected hresult
      rw [hresult] at hreached
      rcases hreached with hreached | ⟨ticket, hevent⟩
      · exact hwork collected hreached
      · rw [hevent] at hgenuine
        exact hgenuine
  · intro cycle hcycle
    cases hcycle
  · intro s task schema hwanted
    refine ⟨Context.wantedSchema_ne_empty hwanted, ?_⟩
    simp only [Session.cycleOf, Session.startWork]
    split
    · exact Work.isGathered_failed _
    · exact Work.isGathered_start source s.context schema s.clock s.source
  · rintro s cycle ⟨hname, hwork⟩
    exact ⟨hname, Work.isGathered_advance hwork s.clock s.source⟩

theorem Diagram.eq_empty {diagram : Diagram} (hpayloads : diagram.payloads = [])
    (hedges : diagram.edges = []) : diagram = .empty := by
  obtain ⟨nodes, edges⟩ := diagram
  obtain rfl := List.map_eq_nil_iff.1 hpayloads
  obtain rfl : edges = [] := hedges
  rfl

/-- Whether the parts of a view fit together, and with the view as the last commit left it. -/
structure View.IsConsistent (v last : View) : Prop where
  idle : v.phase = .idle →
    v.schema = none ∧ v.error = none ∧ v.diagram = .empty ∧ v.diagnostics = []
  ready : v.phase = .ready → v.error = none ∧ ∃ schema, v.schema = some schema ∧ schema ≠ ""
  error : v.phase = .error → v.error ≠ none ∧ (∃ schema, v.schema = some schema ∧ schema ≠ "") ∧
    v.diagram = .empty ∧ v.diagnostics = []
  /-- The contents are those of the last commit, in particular while the view waits. -/
  kept : v.schema = last.schema ∧ v.error = last.error ∧ v.diagnostics = last.diagnostics ∧
    v.diagram.payloads = last.diagram.payloads ∧ v.diagram.edges = last.diagram.edges
  nodes : v.diagram.nodeIds.Nodup
  sources : ∀ edge ∈ v.diagram.edges,
    ∃ node ∈ v.diagram.nodes, node.id = edge.source ∧ node.table.degraded = false
  resolved : ∀ edge ∈ v.diagram.edges, edge.resolved = true ↔ edge.target ∈ v.diagram.nodeIds
  degraded : ∀ node ∈ v.diagram.nodes, node.table.degraded = true →
    ∃ d ∈ v.diagnostics, d.table = node.id
  diagnostics : ∀ d ∈ v.diagnostics, d.table ∈ v.diagram.nodeIds

/-- A view that retains a sound offer is consistent. -/
theorem Offer.IsSound.isConsistent {offer : Offer} (h : offer.IsSound) {v last : View}
    (hshown : offer.ShownBy last) (hretains : v.Retains last) : v.IsConsistent last := by
  obtain ⟨hpayloads, hedges⟩ := Offer.contents_of_shownBy hshown
  obtain ⟨hphase, hschema, herror, hdiagnostics, -, -⟩ := hshown
  rw [← hretains.schema] at hschema
  rw [← hretains.error] at herror
  rw [← hretains.diagnostics] at hdiagnostics
  rw [← hretains.payloads] at hpayloads
  rw [← hretains.edges] at hedges
  have hids : v.diagram.nodeIds = offer.diagram.nodeIds := by
    rw [Diagram.nodeIds_eq, hpayloads, ← Diagram.nodeIds_eq]
  have hcoherent := h.coherent.of_same hids hedges
  have hexplained := h.explained.of_same hpayloads hedges
  rw [← hdiagnostics] at hexplained
  -- in any phase but one the view is in that of the offer
  have hsettled : ∀ phase, v.phase = phase → phase ≠ .loading → offer.phase = phase := by
    intro phase hv hne
    rcases hretains.phase with hloading | hsame
    · exact absurd (hv.symm.trans hloading) hne
    · exact hphase.symm.trans (hsame.symm.trans hv)
  refine ⟨?_, ?_, ?_, ?_, hcoherent.nodes, hexplained.sources, hcoherent.resolved,
    hexplained.degraded, hexplained.diagnostics⟩
  · intro hidle
    have hoffer := hsettled .idle hidle (by decide)
    match offer with
    | .nothing => exact ⟨hschema, herror, Diagram.eq_empty hpayloads hedges, hdiagnostics⟩
    | .result _ (.collected _ _) => cases hoffer
    | .result _ (.failed _) => cases hoffer
  · intro hready
    have hoffer := hsettled .ready hready (by decide)
    have hnamed := h.named
    match offer with
    | .nothing => cases hoffer
    | .result _ (.failed _) => cases hoffer
    | .result schema (.collected _ _) => exact ⟨herror, schema, hschema, hnamed schema rfl⟩
  · intro hfailed
    have hoffer := hsettled .error hfailed (by decide)
    have hnamed := h.named
    match offer with
    | .nothing => cases hoffer
    | .result _ (.collected _ _) => cases hoffer
    | .result schema (.failed message) =>
        refine ⟨?_, ⟨schema, hschema, hnamed schema rfl⟩, Diagram.eq_empty hpayloads hedges,
          hdiagnostics⟩
        rw [herror]
        exact Option.some_ne_none message
  · exact ⟨hretains.schema, hretains.error, hretains.diagnostics, hretains.payloads,
      hretains.edges⟩

/-- At every moment of a run the parts of the view fit together: what it shows belongs to its phase, or to
the last commit while it waits, and its edges and diagnostics belong to its nodes. -/
theorem consistent_views (source : MetadataSource σ) {limits : FetchLimits} {context : Context}
    {layout : LayoutKind} {box : NodeBox} {state : σ} {moments : List (Moment σ)} {s : Session σ}
    (run : Run source (fun m => m.event.IsGenuine)
      (Session.opened limits context layout box state) moments s) :
    s.view.IsConsistent (lastShown source moments (.fresh layout box)) := by
  obtain ⟨offer, hshown, horigin⟩ := exists_shownBy_lastShown source moments layout box
  have hsound : offer.IsSound := by
    rcases horigin with rfl | ⟨c, hc, -, rfl⟩
    · exact Offer.isSound_nothing
    · exact run.isSound_offer hc
  exact hsound.isConsistent hshown run.retains

namespace Session

/-- A rebuild ends, another one begins, and a layout is selected while the view waits for it. -/
def refreshingTwice : List (SessionEvent Fetch.Answers) :=
  [.request .activate, .progress 0, .request .rebuild, .selectLayout (.str "circular")]

/-- A session over a source that lists a name twice and has two structures to tell, of which the first
refers to the table whose structure cannot be had. -/
def ofAmbiguous : Session Fetch.Answers :=
  .opened ⟨3, none, by decide⟩ ⟨some "public", none, none, none⟩ .grid .standard
    [(0, .ok ⟨[], [], [⟨"fk_user", "user_id", "users", "id"⟩]⟩), (0, .error .timedOut),
      (0, .ok default)]

end Session

/-- While a view waits, it shows the degraded node of the last commit with its diagnostic. -/
theorem consistent_views_of_ambiguous :
    let source := MetadataSource.holding 0 [⟨"orders", none⟩, ⟨"users", some 7⟩, ⟨"orders", none⟩]
    let s := Session.ofAmbiguous.through source Session.refreshingTwice
    let moments := Session.ofAmbiguous.momentsOf source Session.refreshingTwice
    s.view.phase = .loading ∧ s.view.diagram.edges.length = 1 ∧
      s.view.diagnostics.map (·.table) = [.whole "users"] ∧
      s.view.IsConsistent (lastShown source moments (.fresh .grid .standard)) := by
  intro source s moments
  have hgenuine : ∀ m ∈ moments, m.event.IsGenuine :=
    List.forall_mem_cons.2 ⟨trivial, List.forall_mem_cons.2 ⟨trivial,
      List.forall_mem_cons.2 ⟨trivial, List.forall_mem_singleton.2 trivial⟩⟩⟩
  have run : Run source (fun m => m.event.IsGenuine) Session.ofAmbiguous moments s :=
    Run.nil.through Session.refreshingTwice hgenuine
  exact ⟨by decide +kernel, by decide +kernel, by decide +kernel, consistent_views source run⟩

end ErDiagram
