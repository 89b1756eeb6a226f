import ErDiagram.Proofs.Aggregation.Outcomes
import ErDiagram.Proofs.Diagram.Degraded
import ErDiagram.Proofs.Session.Solitary

/-!
# Failures that concern one table

A structure that cannot be had degrades its own table and nothing else. Two rebuilds that differ in the answer
to one row, which brings a structure to the first and a failure or nothing in time to the second, show the
same nodes in the same places, but that the node of this row has no columns, the edges from it are missing,
and there is one more diagnostic. What a rebuild on its own shows is told by the answers alone, as
`view_of_await` says, so that the two need not be compared event by event.
-/

namespace ErDiagram

variable {σ : Type}

/-- Whether a source answers requests for a schema with rows, after some time, and with replies to them. -/
def MetadataSource.Tells (source : MetadataSource σ) (context : Context) (schema : CodeString) (s : σ)
    (rows : List ListedTable) (replies : List (Reply RawStructure)) : Prop :=
  ∃ wait listed, source.listTables context schema s = (⟨some wait, .ok (.tables rows)⟩, listed) ∧
    source.replies context schema rows listed = replies

theorem MetadataSource.Tells.length_replies {source : MetadataSource σ} {context : Context}
    {schema : CodeString} {s : σ} {rows : List ListedTable} {replies : List (Reply RawStructure)}
    (h : source.Tells context schema s rows replies) : replies.length = rows.length := by
  obtain ⟨wait, listed, -, rfl⟩ := h
  exact source.length_replies context schema rows listed

/-- A member of a list of distinct names is known by its name. -/
theorem map_ite_name {α : Type} {name : α → CodeString} {xs : List α} (hnodup : (xs.map name).Nodup)
    {i : Nat} (hi : i < xs.length) (f : α → α) :
    (xs.map fun x => if name x = name xs[i] then f x else x) = xs.set i (f xs[i]) := by
  apply List.ext_getElem
  · simp
  · intro k hk hk'
    have hlength : k < xs.length := by simpa using hk
    rw [List.getElem_map, List.getElem_set]
    by_cases hik : i = k
    · subst hik
      rw [if_pos rfl, if_pos rfl]
    · have hne : name xs[k] ≠ name xs[i] := by
        intro hsame
        have hindex : (⟨k, by simpa using hlength⟩ : Fin (xs.map name).length) =
            ⟨i, by simpa using hi⟩ :=
          List.nodup_iff_injective_get.1 hnodup (by simpa using hsame)
        exact hik (congrArg Fin.val hindex).symm
      rw [if_neg hne, if_neg hik]

section Outcomes

variable (schema : CodeString) {outcomes : List (ListedTable × Except Fault RawStructure)} {i : Nat}
  {row : ListedTable} {outcome : Except Fault RawStructure}

/-- A table whose structure could not be had is the degraded one of its row. -/
theorem Table.degrade_ofOutcome (row : ListedTable) (outcome : Except Fault RawStructure)
    (fault : Fault) : (ofOutcome row outcome).degrade = ofOutcome row (.error fault) := by
  cases outcome <;> rfl

theorem Collected.tables_set (hnodup : (outcomes.map (·.1.name)).Nodup)
    (hrow : outcomes[i]? = some (row, outcome)) (fault : Fault) :
    (ofOutcomes schema (outcomes.set i (row, .error fault))).tables =
      (ofOutcomes schema outcomes).tables.map fun table =>
        if table.name = row.name then table.degrade else table := by
  obtain ⟨hi, hget⟩ := List.getElem?_eq_some_iff.1 hrow
  have htables : ((ofOutcomes schema outcomes).tables.map (·.name)).Nodup := by
    rwa [ofOutcomes_names]
  have hlength : i < (ofOutcomes schema outcomes).tables.length := by
    simpa [ofOutcomes] using hi
  have hdegraded := map_ite_name htables hlength Table.degrade
  simp only [ofOutcomes, List.getElem_map, Table.ofOutcome_name, hget] at hdegraded ⊢
  rw [hdegraded, List.map_set, Table.degrade_ofOutcome _ _ fault]

/-- A fault in the place of a structure adds its diagnostic among the others, of which none is for this row. -/
theorem Collected.diagnostics_set (hnodup : (outcomes.map (·.1.name)).Nodup) {raw : RawStructure}
    (hrow : outcomes[i]? = some (row, .ok raw)) (fault : Fault) :
    ∃ front back, (ofOutcomes schema outcomes).diagnostics = front ++ back ∧
      (ofOutcomes schema (outcomes.set i (row, .error fault))).diagnostics =
        front ++ Diagnostic.ofFault row fault :: back ∧
      ∀ d ∈ front ++ back, d.table ≠ row.name := by
  let explain := fun o : ListedTable × Except Fault RawStructure => Diagnostic.ofOutcome? o.1 o.2
  obtain ⟨hi, hget⟩ := List.getElem?_eq_some_iff.1 hrow
  have hsplit : outcomes = outcomes.take i ++ (row, .ok raw) :: outcomes.drop (i + 1) := by
    rw [← hget, List.getElem_cons_drop, List.take_append_drop]
  refine ⟨(outcomes.take i).filterMap explain, (outcomes.drop (i + 1)).filterMap explain, ?_, ?_, ?_⟩
  · show outcomes.filterMap explain = _
    conv_lhs => rw [hsplit, List.filterMap_append, List.filterMap_cons_none rfl]
  · show (outcomes.set i _).filterMap explain = _
    rw [List.set_eq_take_append_cons_drop, if_pos hi, List.filterMap_append]
    rfl
  · intro d hd
    rw [← List.filterMap_append] at hd
    obtain ⟨o, ho, hdiagnostic⟩ := List.mem_filterMap.1 hd
    rw [hsplit, List.map_append, List.map_cons, List.nodup_middle, List.nodup_cons,
      ← List.map_append] at hnodup
    have hname : d.table = o.1.name := by
      obtain ⟨row, outcome⟩ := o
      cases outcome with
      | ok raw => cases hdiagnostic
      | error cause =>
          rw [← Option.some.inj hdiagnostic]
          rfl
    rw [hname]
    intro hsame
    exact hnodup.1 (List.mem_map.2 ⟨o, ho, hsame⟩)

end Outcomes

/-- A rebuild on its own shows the tables of the rows with what the answers to them come to, when each answer
comes to something and the layout has points for the rows. -/
theorem Console.view_of_await {source : MetadataSource σ} {s : Session σ} (hrest : s.AtRest)
    {schema : CodeString} (hwanted : s.context.wantedSchema = some schema) {rows : List ListedTable}
    {replies : List (Reply RawStructure)}
    (htells : source.Tells s.context schema s.source rows replies)
    (hverdicts : ∀ reply ∈ replies, (s.limits.verdict? reply).isSome)
    (hnodup : (rows.map (·.name)).Nodup) {points : List Position}
    (hpoints : Layout.positions rows.length s.view.layout s.view.box = .ok points)
    (kind : TaskKind) (names : List (String × Nat)) :
    let collected := Collected.ofOutcomes schema (Fetch.outcomesOf s.limits rows replies)
    let v := (perform source (.await kind) ⟨s, names⟩).1.session.view
    v.phase = .ready ∧ v.diagram = Layout.moveNodes (.assemble collected.tables) points ∧
      v.diagnostics = collected.diagnostics ∧ v.diagram.nodeIds = rows.map (·.name) ∧
      v.diagram.IsCoherent := by
  intro collected v
  obtain ⟨wait, listed, hlist, rfl⟩ := htells
  obtain ⟨report, hreport, hresult⟩ := Work.runFrom_of_prospects s.clock hlist
    (Fetch.prospects_eq_outcomesOf hverdicts)
  obtain ⟨c, hafter, hview, hgeneration, hoffer⟩ :=
    perform_await hrest kind hwanted hreport names
  have hreplies := source.length_replies s.context schema rows listed
  have htables : collected.tables.map (·.name) = rows.map (·.name) := by
    rw [Collected.ofOutcomes_names]
    conv_rhs => rw [← Fetch.map_fst_outcomesOf s.limits hreplies, List.map_map]
    rfl
  have hids : (Diagram.assemble collected.tables).nodeIds = rows.map (·.name) := by
    rw [Diagram.nodeIds_assemble, Diagram.firstOfName_of_nodup (htables ▸ hnodup)
      (fun _ _ => List.not_mem_nil), htables]
  have hlength : (Diagram.assemble collected.tables).nodes.length = rows.length := by
    simpa [Diagram.nodeIds] using congrArg List.length hids
  have hplaced : Layout.apply (.assemble collected.tables) s.view.layout s.view.box =
      .ok (Layout.moveNodes (.assemble collected.tables) points) :=
    Layout.apply_eq_ok.2 ⟨points, hlength ▸ hpoints, rfl⟩
  obtain ⟨hpayloads, hedges⟩ := Diagram.payloads_of_apply hplaced
  have hsame : (Layout.moveNodes (.assemble collected.tables) points).nodeIds =
      (Diagram.assemble collected.tables).nodeIds := by
    rw [Diagram.nodeIds_eq, hpayloads, ← Diagram.nodeIds_eq]
  rw [hresult] at hoffer
  have hcommit : ∃ shown, c.offer.commit c.session.view = .ok shown ∧ shown.phase = .ready ∧
      shown.diagram = Layout.moveNodes (.assemble collected.tables) points ∧
      shown.diagnostics = collected.diagnostics := by
    rw [hoffer, hview]
    exact ⟨_, Offer.commit_eq_ok.2 ⟨_, hplaced, rfl⟩, rfl, rfl, rfl⟩
  obtain ⟨shown, hshown, hready, hdiagram, hdiagnostics⟩ := hcommit
  have hlatest : c.generation = c.session.view.generation := by rw [hgeneration, hview]
  have hv : v = shown := by
    show (perform source (.await kind) ⟨s, names⟩).1.session.view = shown
    rw [hafter, Closing.after_of_latest hlatest hshown, Session.conclusion_eq]
  rw [hv, hdiagram]
  exact ⟨hready, rfl, hdiagnostics, hsame.trans hids,
    (Diagram.isCoherent_assemble _).of_same hsame hedges⟩

/-- Two rebuilds that differ in the answer to one row, which brings a structure to the first and comes to a
fault in the second, show the same but for that row: its node has no columns, the edges from it are missing
and the others are numbered anew, the edges to it still end in it, and one diagnostic more tells the fault. -/
theorem fault_isolation (source source' : MetadataSource σ) {s : Session σ} {state : σ}
    (hrest : s.AtRest) {schema : CodeString} (hwanted : s.context.wantedSchema = some schema)
    {rows : List ListedTable} {replies : List (Reply RawStructure)} {failing : Reply RawStructure}
    {i : Nat} (hi : i < rows.length)
    (htells : source.Tells s.context schema s.source rows replies)
    (htells' : source'.Tells s.context schema state rows (replies.set i failing))
    (hnames : (rows.map (·.name)).Nodup)
    (harrives : ∀ reply ∈ replies, (s.limits.verdict? reply).isSome)
    {raw : RawStructure} (hgood : replies[i]?.bind s.limits.verdict? = some (.ok raw))
    {fault : Fault} (hbad : s.limits.verdict? failing = some (.error fault))
    {points : List Position}
    (hpoints : Layout.positions rows.length s.view.layout s.view.box = .ok points)
    (kind kind' : TaskKind) (names names' : List (String × Nat)) :
    let before := (Console.perform source (.await kind) ⟨s, names⟩).1.session.view
    let after := (Console.perform source' (.await kind')
      ⟨{ s with source := state }, names'⟩).1.session.view
    before.phase = .ready ∧ after.phase = .ready ∧
      before.diagram.nodeIds = rows.map (·.name) ∧ after.diagram.nodeIds = rows.map (·.name) ∧
      after.diagram.nodes = (before.diagram.nodes.map fun node =>
        if node.id = rows[i].name then node.degrade else node) ∧
      after.diagram.edges =
        Diagram.numbered 0 (before.diagram.edges.filter (·.source ≠ rows[i].name)) ∧
      (∀ edge ∈ after.diagram.edges, edge.target = rows[i].name → edge.resolved = true) ∧
      ∃ front back, before.diagnostics = front ++ back ∧
        after.diagnostics = front ++ Diagnostic.ofFault rows[i] fault :: back ∧
        ∀ d ∈ front ++ back, d.table ≠ rows[i].name := by
  intro before after
  have hlength : replies.length = rows.length := htells.length_replies
  let outcomes := Fetch.outcomesOf s.limits rows replies
  have hrow : outcomes[i]? = some (rows[i], .ok raw) := Fetch.getElem?_outcomesOf hi hgood
  have hother : Fetch.outcomesOf s.limits rows (replies.set i failing) =
      outcomes.set i (rows[i], .error fault) := by
    rw [Fetch.outcomesOf_set hi, hbad, Option.getD_some]
  have hdistinct : (outcomes.map (·.1.name)).Nodup := by
    rw [← Fetch.map_fst_outcomesOf s.limits hlength, List.map_map] at hnames
    exact hnames
  have harrives' : ∀ reply ∈ replies.set i failing, (s.limits.verdict? reply).isSome := by
    intro reply hmem
    rcases List.mem_or_eq_of_mem_set hmem with hold | rfl
    · exact harrives reply hold
    · rw [hbad]
      rfl
  have hrest' : ({ s with source := state } : Session σ).AtRest :=
    ⟨hrest.pending, hrest.cycles, hrest.aggregation, hrest.assembly, hrest.issued⟩
  obtain ⟨hready, hdiagram, hdiagnostics, hids, -⟩ :=
    Console.view_of_await hrest hwanted htells harrives hnames hpoints kind names
  obtain ⟨hready', hdiagram', hdiagnostics', hids', hcoherent'⟩ :=
    Console.view_of_await hrest' hwanted htells' harrives' hnames hpoints kind' names'
  have hdegraded : after.diagram = before.diagram.degrade rows[i].name := by
    rw [hdiagram', hdiagram, ← Diagram.moveNodes_degrade, ← Diagram.assemble_degrade, hother,
      Collected.tables_set schema hdistinct hrow]
    rwa [Collected.ofOutcomes_names]
  refine ⟨hready, hready', hids, hids', congrArg Diagram.nodes hdegraded,
    congrArg Diagram.edges hdegraded, ?_, ?_⟩
  · intro edge hedge htarget
    rw [hcoherent'.resolved edge hedge, hids', htarget]
    exact List.mem_map.2 ⟨rows[i], List.getElem_mem hi, rfl⟩
  · rw [hdiagnostics, hdiagnostics', hother]
    exact Collected.diagnostics_set schema hdistinct hrow fault

/-- A session over a source that lists three tables in a circle of references. -/
def Session.ofCircle (answers : Fetch.Answers) : Session Fetch.Answers :=
  .opened ⟨2, some 5, by decide⟩ ⟨some "shop", none, none, none⟩ .grid .standard answers

/-- When the structure of the second of three tables comes too late, the edge from it is missing, the edge
after that one is numbered anew, and the edge to it is left. -/
theorem fault_isolation_of_circle :
    let rows : List ListedTable := [⟨"orders", some 3⟩, ⟨"users", some 7⟩, ⟨"items", none⟩]
    let answers : Fetch.Answers :=
      [(1, .ok ⟨[], [], [⟨"fk_user", "user_id", "users", "id"⟩]⟩),
        (4, .ok ⟨[], [], [⟨"fk_item", "item_id", "items", "id"⟩]⟩),
        (0, .ok ⟨[], [], [⟨"fk_order", "order_id", "orders", "id"⟩]⟩)]
    let answers' : Fetch.Answers := answers.set 1 (6, .ok default)
    let source : MetadataSource Fetch.Answers := .holding 2 rows
    let s := Session.ofCircle answers
    let before := (Console.perform source (.await .rebuild) ⟨s, []⟩).1.session.view
    let after := (Console.perform source (.await .rebuild)
      ⟨{ s with source := answers' }, []⟩).1.session.view
    before.phase = .ready ∧ after.phase = .ready ∧ before.diagnostics = [] ∧
      after.diagnostics = [⟨"users", "users: TimeoutError"⟩] ∧
      before.diagram.edges.map (·.id) =
        (["orders-users-0", "users-items-1", "items-orders-2"] : List CodeString) ∧
      after.diagram.edges.map (·.id) = (["orders-users-0", "items-orders-1"] : List CodeString) := by
  intro rows answers answers' source s
  have hplaced : (Layout.positions rows.length .grid .standard).isOk = true := by decide +kernel
  cases hpoints : Layout.positions rows.length .grid .standard with
  | error fault =>
      rw [hpoints] at hplaced
      cases hplaced
  | ok points =>
      obtain ⟨hready, hready', -, -, -, hedges', -, front, back, hdiagnostics, hdiagnostics', -⟩ :=
        @fault_isolation _ source source s answers' (.opened _ _ _ _ _) "shop" rfl
          rows _ _ 1 (by decide) ⟨2, answers, rfl, MetadataSource.replies_holding rfl⟩
          ⟨2, answers', rfl, MetadataSource.replies_holding rfl⟩ (by decide) (by decide) _ rfl _ rfl
          points hpoints .rebuild .rebuild [] []
      have hedges : (Console.perform source (.await .rebuild) ⟨s, []⟩).1.session.view.diagram.edges =
          [⟨"orders-users-0", "orders", "users", "user_id", "id", "fk_user", true⟩,
            ⟨"users-items-1", "users", "items", "item_id", "id", "fk_item", true⟩,
            ⟨"items-orders-2", "items", "orders", "order_id", "id", "fk_order", true⟩] := by
        decide +kernel
      have hnone : (Console.perform source (.await .rebuild) ⟨s, []⟩).1.session.view.diagnostics = [] := by
        decide +kernel
      obtain ⟨rfl, rfl⟩ := List.append_eq_nil_iff.1 (hdiagnostics.symm.trans hnone)
      refine ⟨hready, hready', hnone, hdiagnostics', ?_, ?_⟩
      · rw [hedges]
        rfl
      · rw [hedges', hedges]
        decide

end ErDiagram
