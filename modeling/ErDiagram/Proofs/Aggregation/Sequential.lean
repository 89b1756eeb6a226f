import ErDiagram.Proofs.Aggregation.Prospects

/-!
# Collecting is asking one after the other

Whatever the number of slots and whenever the answers arrive, what is collected from the rows of a schema
is what a sequential pass over the list would give: for each row the table of its own answer, if that
comes within the patience, and else a degraded table with a diagnostic. The time that a fetch waits for
its slot plays no part in it.

`follow_ofFetches` is the run lemma: with as much fuel as there are fetches left, following the fetches
ends with their prospects.
-/

namespace ErDiagram

/-- Whether an answer comes within the patience. One that takes just as long comes too late. -/
def inTime : Option Int → Nat → Bool
  | none, _ => true
  | some time, delay => (delay : Int) < time

/-- What an answer counts as. One that comes too late is lost. -/
def verdict (patience : Option Int) (delay : Nat) (outcome : Except Fault RawStructure) :
    Except Fault RawStructure :=
  if inTime patience delay then outcome else .error .timedOut

/-- What an answer counts as within limits, if it ever counts as anything. -/
def FetchLimits.verdict? (limits : FetchLimits) (reply : Reply RawStructure) :
    Option (Except Fault RawStructure) :=
  if limits.hasTime then (limits.bounded reply).arrival else some (.error .timedOut)

/-- A source that lists some rows and has an answer in store for each structure request to come. -/
def MetadataSource.holding (wait : Nat) (rows : List ListedTable) :
    MetadataSource (List (Nat × Except Fault RawStructure)) where
  listTables _ _ answers := (⟨some wait, .ok (.tables rows)⟩, answers)
  tableStructure _ _ _ answers :=
    match answers with
    | [] => (⟨none, .error .timedOut⟩, [])
    | answer :: rest => (⟨some answer.1, answer.2⟩, rest)
  close := id

/-- Whatever answers there are to some rows, there is a source that gives them. -/
theorem MetadataSource.replies_holding {wait : Nat} {listed rows : List ListedTable}
    {context : Context} {schema : CodeString} {answers : List (Nat × Except Fault RawStructure)}
    (h : rows.length = answers.length) :
    (holding wait listed).replies context schema rows answers =
      answers.map fun a => ⟨some a.1, a.2⟩ := by
  induction rows generalizing answers with
  | nil =>
      obtain rfl := List.length_eq_zero_iff.1 h.symm
      rfl
  | cons row rest ih =>
      cases answers with
      | nil => cases h
      | cons answer others => exact congrArg _ (ih (by simpa using h))

/-- The diagnostics name the degraded tables, each once and in their order. -/
theorem Collected.degradedTables_ofOutcomes (schema : CodeString)
    (outcomes : List (ListedTable × Except Fault RawStructure)) :
    (ofOutcomes schema outcomes).degradedTables =
      ((ofOutcomes schema outcomes).tables.filter (·.degraded)).map (·.name) := by
  simp only [degradedTables, ofOutcomes]
  induction outcomes with
  | nil => rfl
  | cons o rest ih =>
      obtain ⟨row, outcome⟩ := o
      cases outcome with
      | ok raw => simpa [Diagnostic.ofOutcome?, Table.ofOutcome, Table.ofRaw] using ih
      | error fault =>
          simpa [Diagnostic.ofOutcome?, Diagnostic.ofFault, Table.ofOutcome, Table.degradedOf]
            using ih

namespace Fetch

variable {σ : Type} {source : MetadataSource σ} {limits : FetchLimits} {context : Context}
variable {schema : CodeString}

private theorem bounded_arrival (limits : FetchLimits) (delay : Nat)
    (outcome : Except Fault RawStructure) :
    (limits.bounded ⟨some delay, outcome⟩).arrival =
      some (verdict limits.patience delay outcome) := by
  unfold FetchLimits.bounded verdict inTime
  cases limits.patience with
  | none => rfl
  | some time =>
      by_cases h : (delay : Int) < time
      · simp [h, Reply.arrival]
      · simp [h, Reply.arrival]

private theorem verdict_of_no_time (h : limits.hasTime = false) (delay : Nat)
    (outcome : Except Fault RawStructure) :
    verdict limits.patience delay outcome = .error .timedOut := by
  rw [FetchLimits.hasTime] at h
  unfold verdict inTime
  cases hp : limits.patience with
  | none => simp [hp] at h
  | some time =>
      have hlate : ¬ (delay : Int) < time := by
        simp only [hp, decide_eq_false_iff_not] at h
        omega
      simp [hlate]

private theorem verdict?_of_arrival (limits : FetchLimits) (delay : Nat)
    (outcome : Except Fault RawStructure) :
    limits.verdict? ⟨some delay, outcome⟩ = some (verdict limits.patience delay outcome) := by
  unfold FetchLimits.verdict?
  cases htime : limits.hasTime with
  | true => exact bounded_arrival limits delay outcome
  | false =>
      rw [verdict_of_no_time htime]
      rfl

/-- The prospects of rows that nobody has asked for yet are the verdicts on the answers to them. -/
theorem prospects_waiting (limits : FetchLimits) (rows : List ListedTable) (s : σ) :
    prospects source limits context schema (rows.map waiting) s =
      (rows.zip (source.replies context schema rows s)).map fun p =>
        (p.1, limits.verdict? p.2) := by
  cases htime : limits.hasTime with
  | true =>
      induction rows generalizing s with
      | nil => rfl
      | cons row rest ih =>
          simp only [List.map_cons, waiting, prospects, ask, htime, if_true,
            MetadataSource.replies, List.zip_cons_cons, FetchLimits.verdict?]
          refine congrArg _ ((ih _).trans ?_)
          simp only [FetchLimits.verdict?, htime, if_true]
  | false =>
      -- nobody asks the source, so its state stays behind that of the answers
      have hlate : ∀ (replies : List (Reply RawStructure)), replies.length = rows.length →
          prospects source limits context schema (rows.map waiting) s =
            (rows.zip replies).map fun p => (p.1, limits.verdict? p.2) := by
        intro replies hlength
        induction rows generalizing replies with
        | nil => rfl
        | cons row rest ih =>
            cases replies with
            | nil => cases hlength
            | cons reply others =>
                have hrest := ih others (Nat.succ.inj hlength)
                simp only [List.map_cons, waiting, prospects, ask, htime, Bool.false_eq_true,
                  if_false, List.zip_cons_cons, FetchLimits.verdict?]
                refine congrArg _ (hrest.trans ?_)
                simp only [FetchLimits.verdict?, htime, Bool.false_eq_true, if_false]
      exact hlate _ (source.length_replies context schema rows s)

/-- The answers of a source with the times that they take. -/
abbrev Answers := List (Nat × Except Fault RawStructure)

/-- What the rows come to with the answers to them. -/
def verdicts (patience : Option Int) (rows : List ListedTable) (answers : Answers) :
    List (ListedTable × Except Fault RawStructure) :=
  (rows.zip answers).map fun (row, answer) => (row, verdict patience answer.1 answer.2)

/-- The prospects of rows that nobody has asked for yet are the verdicts on the answers that the source
gives to them in order. -/
theorem prospects_map_waiting (limits : FetchLimits) {rows : List ListedTable} {answers : Answers}
    {s : σ} (h : source.replies context schema rows s = answers.map fun a => ⟨some a.1, a.2⟩) :
    prospects source limits context schema (rows.map waiting) s =
      (verdicts limits.patience rows answers).map fun o => (o.1, some o.2) := by
  rw [prospects_waiting, h, List.zip_map_right, verdicts, List.map_map, List.map_map]
  apply List.map_congr_left
  rintro ⟨row, answer⟩ -
  exact congrArg (Prod.mk row) (verdict?_of_arrival limits answer.1 answer.2)

end Fetch

namespace Work

variable {σ : Type} {source : MetadataSource σ} {limits : FetchLimits} {context : Context}
variable {schema : CodeString}

theorem follow_ended (fuel now : Nat) (result : Except Fault Collected) (s : σ)
    (calls : List SourceCall) :
    follow source limits context fuel now ⟨.ended result, s, calls⟩ =
      some ⟨result, now, s, calls⟩ := by
  cases fuel <;> rfl

theorem follow_succ {work : Work} {due : Nat} (hopen : work.result? = none)
    (hdue : work.nextDue? = some due) (fuel now : Nat) (s : σ) (calls : List SourceCall) :
    let next := advance source limits context due work s
    follow source limits context (fuel + 1) now ⟨work, s, calls⟩ =
      follow source limits context fuel due ⟨next.work, next.source, calls ++ next.calls⟩ := by
  intro next
  rw [follow]
  · simp only [hopen]
    rfl
  · exact hdue

theorem result_of_follow {work : Work} {result : Except Fault Collected}
    (h : work.result? = some result) {fuel now : Nat} {s : σ} {calls : List SourceCall}
    {report : WorkReport σ}
    (hreport : follow source limits context fuel now ⟨work, s, calls⟩ = some report) :
    report.result = result := by
  cases work with
  | ended other =>
      rw [follow_ended] at hreport
      rw [← Option.some.inj hreport]
      exact Option.some.inj h
  | listing schema due answer => cases h
  | fetching schema fetches => cases h

theorem advance_of_result {work : Work} {result : Except Fault Collected}
    (h : work.result? = some result) (now : Nat) (s : σ) :
    advance source limits context now work s = ⟨work, s, []⟩ := by
  cases work with
  | ended other => rfl
  | listing schema due answer => cases h
  | fetching schema fetches => cases h

theorem follow_eq_some {work : Work} (hopen : work.result? = none) {fuel now : Nat} {s : σ}
    {calls : List SourceCall} {report : WorkReport σ}
    (h : follow source limits context fuel now ⟨work, s, calls⟩ = some report) :
    ∃ left due, fuel = left + 1 ∧ work.nextDue? = some due ∧
      let next := advance source limits context due work s
      follow source limits context left due ⟨next.work, next.source, calls ++ next.calls⟩ =
        some report := by
  unfold follow at h
  simp only [hopen] at h
  split at h
  · next left due hdue => exact ⟨left, due, rfl, hdue, h⟩
  · cases h

/-- What stays as it is when a work goes on at its next event holds at the end of the work. -/
theorem follow_preserves {P : Nat → Work → List SourceCall → Prop}
    (hstep : ∀ {now work calls due}, P now work calls → work.nextDue? = some due → ∀ t : σ,
      let next := advance source limits context due work t
      P due next.work (calls ++ next.calls))
    {fuel now : Nat} {work : Work} {calls : List SourceCall} (h : P now work calls) {t : σ}
    {report : WorkReport σ}
    (hreport : follow source limits context fuel now ⟨work, t, calls⟩ = some report) :
    P report.elapsed (.ended report.result) report.calls := by
  induction fuel using Nat.strongRecOn generalizing now work calls t with
  | ind fuel ih =>
      have hgoes : work.result? = none → P report.elapsed (.ended report.result) report.calls := by
        intro hopen
        obtain ⟨left, due, rfl, hdue, hnext⟩ := follow_eq_some hopen hreport
        exact ih left (Nat.lt_succ_self left) (hstep h hdue t) hnext
      cases work with
      | ended result =>
          rw [follow_ended] at hreport
          rw [← Option.some.inj hreport]
          exact h
      | listing => exact hgoes rfl
      | fetching => exact hgoes rfl

/-- Settled fetches end the work with their prospects. -/
theorem follow_settled {fuel now : Nat} {fetches : List Fetch} {s : σ} {calls : List SourceCall}
    {outcomes settled : List (ListedTable × Except Fault RawStructure)}
    (hprospects : Fetch.prospects source limits context schema fetches s =
      outcomes.map (fun o => (o.1, some o.2)))
    (hsettled : Fetch.outcomes? fetches = some settled) :
    ∃ report, follow source limits context fuel now ⟨ofFetches schema fetches, s, calls⟩ =
        some report ∧
      report.result = .ok (.ofOutcomes schema outcomes) := by
  have hsame : settled.map (fun o => (o.1, some o.2)) = outcomes.map (fun o => (o.1, some o.2)) := by
    rw [← hprospects, Fetch.prospects_of_outcomes? hsettled]
  obtain rfl : settled = outcomes := by
    refine (List.map_inj_right ?_).1 hsame
    rintro ⟨row, outcome⟩ ⟨row', outcome'⟩ h
    cases h
    rfl
  have hwork : ofFetches schema fetches = .ended (.ok (.ofOutcomes schema settled)) := by
    simp only [ofFetches, hsettled]
  rw [hwork, follow_ended]
  exact ⟨_, rfl, rfl⟩

/-- Following fetches that all have a prospect ends with it. The induction is on the fuel, of which each
event takes one and settles at least one fetch. -/
theorem follow_ofFetches {outcomes : List (ListedTable × Except Fault RawStructure)}
    {fuel now : Nat} {fetches : List Fetch} {s : σ} {calls : List SourceCall}
    (hprospects : Fetch.prospects source limits context schema fetches s =
      outcomes.map (fun o => (o.1, some o.2)))
    (hdue : 0 < Fetch.unsettled fetches → (Fetch.nextDue? fetches).isSome)
    (hfuel : Fetch.unsettled fetches ≤ fuel) :
    ∃ report, follow source limits context fuel now ⟨ofFetches schema fetches, s, calls⟩ =
        some report ∧
      report.result = .ok (.ofOutcomes schema outcomes) := by
  induction fuel generalizing now fetches s calls with
  | zero =>
      obtain ⟨settled, hsettled⟩ := Option.isSome_iff_exists.1
        (Fetch.outcomes?_isSome_iff.2 (Nat.le_zero.1 hfuel))
      exact follow_settled hprospects hsettled
  | succ fuel ih =>
      cases hsettled : Fetch.outcomes? fetches with
      | some settled => exact follow_settled hprospects hsettled
      | none =>
          have hleft : 0 < Fetch.unsettled fetches := by
            apply Nat.pos_of_ne_zero
            intro hzero
            have hsome := Fetch.outcomes?_isSome_iff.2 hzero
            simp [hsettled] at hsome
          obtain ⟨due, hnext⟩ := Option.isSome_iff_exists.1 (hdue hleft)
          have hround := Fetch.prospects_advance source limits context schema due fetches s
          have hall : ∀ p ∈ Fetch.prospects source limits context schema fetches s, p.2.isSome := by
            rw [hprospects]
            intro p hp
            obtain ⟨o, -, rfl⟩ := List.mem_map.1 hp
            rfl
          have hless := Fetch.unsettled_advance_lt source limits context schema hnext s
          have hwork : ofFetches schema fetches = .fetching schema fetches := by
            simp only [ofFetches, hsettled]
          have hopen : (Work.fetching schema fetches).nextDue? = some due := hnext
          rw [hwork, follow_succ rfl hopen]
          apply ih (hround.trans hprospects) (Fetch.nextDue?_advance hall)
          omega

private theorem unsettled_le_eventsLeft (fetches : List Fetch) :
    Fetch.unsettled fetches ≤ (ofFetches schema fetches).eventsLeft := by
  rw [ofFetches]
  split
  · next hsettled =>
    have hzero := Fetch.outcomes?_isSome_iff.1 (Option.isSome_of_eq_some hsettled)
    simp [hzero]
  · exact Nat.le_succ _

/-- Going on with rows that nobody has asked for yet ends with their prospects. -/
theorem follow_rows {rows : List ListedTable} {listed : σ}
    {outcomes : List (ListedTable × Except Fault RawStructure)}
    (hprospects : Fetch.prospects source limits context schema (rows.map Fetch.waiting) listed =
      outcomes.map fun o => (o.1, some o.2))
    (fuel now : Nat) (calls : List SourceCall) :
    let round := Fetch.advance source limits context schema now (rows.map Fetch.waiting) listed
    Fetch.unsettled round.fetches ≤ fuel →
      ∃ report, follow source limits context fuel now
          ⟨ofFetches schema round.fetches, round.source, calls⟩ = some report ∧
        report.result = .ok (.ofOutcomes schema outcomes) := by
  intro round hfuel
  have hall : ∀ p ∈ Fetch.prospects source limits context schema (rows.map Fetch.waiting) listed,
      p.2.isSome := by
    rw [hprospects]
    intro p hp
    obtain ⟨o, -, rfl⟩ := List.mem_map.1 hp
    rfl
  have hround := Fetch.prospects_advance source limits context schema now (rows.map Fetch.waiting)
    listed
  exact follow_ofFetches (hround.trans hprospects) (Fetch.nextDue?_advance hall) hfuel

/-- Once the list is there, the fetches of its rows go on, also when there are none. -/
theorem advance_listed {list : Listing} {rows : List ListedTable} (hrows : list.rows = .ok rows)
    (now : Nat) (s : σ) :
    advance source limits context now (listed schema (.ok list)) s =
      fetch source limits context now schema (rows.map Fetch.waiting) s := by
  simp only [listed, hrows]
  cases rows <;> rfl

private theorem advance_listing {due now : Nat} (hdue : due ≤ now) (rows : List ListedTable) (s : σ) :
    advance source limits context now (.listing schema (some due) (.ok (.tables rows))) s =
      fetch source limits context now schema (rows.map Fetch.waiting) s := by
  simp only [advance, hdue, if_true]
  cases rows <;> rfl

def runFrom (source : MetadataSource σ) (limits : FetchLimits) (context : Context)
    (schema : CodeString) (now : Nat) (s : σ) : Option (WorkReport σ) :=
  let started := start source context schema now s
  let first := advance source limits context now started.work started.source
  follow source limits context first.work.eventsLeft now
    ⟨first.work, first.source, started.calls ++ first.calls⟩

/-- The collection of the tables of a schema whose list arrives comes to an end, with the prospects of its
rows, whenever it begins. -/
theorem runFrom_of_prospects (now : Nat) {rows : List ListedTable} {s listed : σ} {wait : Nat}
    {outcomes : List (ListedTable × Except Fault RawStructure)}
    (hlist : source.listTables context schema s = (⟨some wait, .ok (.tables rows)⟩, listed))
    (hprospects : Fetch.prospects source limits context schema (rows.map Fetch.waiting) listed =
      outcomes.map fun o => (o.1, some o.2)) :
    ∃ report, runFrom source limits context schema now s = some report ∧
      report.result = .ok (.ofOutcomes schema outcomes) := by
  cases wait with
  | zero =>
      have hstart : (start source context schema now s).work =
          Work.listed schema (.ok (.tables rows)) ∧
          (start source context schema now s).source = listed := by
        simp [start, hlist]
      simp only [runFrom, hstart.1, hstart.2, advance_listed (Listing.rows_tables rows)]
      exact follow_rows hprospects _ _ _ (unsettled_le_eventsLeft _)
  | succ wait =>
      have hstart : (start source context schema now s).work =
          .listing schema (some (now + (wait + 1))) (.ok (.tables rows)) ∧
          (start source context schema now s).source = listed := by
        simp [start, hlist]
      have hwaits : advance source limits context now
          (.listing schema (some (now + (wait + 1))) (.ok (.tables rows))) listed =
          ⟨.listing schema (some (now + (wait + 1))) (.ok (.tables rows)), listed, []⟩ := by
        have hlater : ¬ now + (wait + 1) ≤ now := by omega
        simp only [advance, hlater, if_false]
      simp only [runFrom, hstart.1, hstart.2, hwaits, eventsLeft]
      rw [follow_succ rfl rfl, advance_listing (Nat.le_refl _)]
      apply follow_rows hprospects
      refine Nat.le_trans (Fetch.unsettled_advance_le ..) ?_
      refine Nat.le_trans List.countP_le_length ?_
      simp

/-- With answers that all arrive, what is collected is made of the verdicts on them. -/
theorem run_of_listed (limits : FetchLimits) {rows : List ListedTable} {answers : Fetch.Answers}
    {s listed : σ} {wait : Nat}
    (hlist : source.listTables context schema s = (⟨some wait, .ok (.tables rows)⟩, listed))
    (hanswers : source.replies context schema rows listed =
      answers.map fun a => ⟨some a.1, a.2⟩) :
    ∃ report, run source limits context schema s = some report ∧
      report.result = .ok (.ofOutcomes schema (Fetch.verdicts limits.patience rows answers)) :=
  runFrom_of_prospects 0 hlist (Fetch.prospects_map_waiting limits hanswers)

/-- The tables of a schema come out in list order, one for each row, whatever the number of slots, the
patience, the delays and the failures: a row has the table of its own structure if that was had in time,
counted from when its slot was free, and is degraded otherwise, with one diagnostic for each degraded
table. So the number of slots makes no difference. -/
theorem run_in_list_order (source : MetadataSource σ) (limits : FetchLimits) (context : Context)
    (schema : CodeString) (s listed : σ) (wait : Nat) (rows : List ListedTable)
    (answers : Fetch.Answers)
    (hlist : source.listTables context schema s = (⟨some wait, .ok (.tables rows)⟩, listed))
    (hanswers : source.replies context schema rows listed =
      answers.map fun a => ⟨some a.1, a.2⟩) :
    ∃ report collected, run source limits context schema s = some report ∧
      report.result = .ok collected ∧ collected.schema = schema ∧
      collected.tables.length = rows.length ∧
      collected.tables = (rows.zip answers).map (fun (row, answer) =>
          match verdict limits.patience answer.1 answer.2 with
          | .ok raw => Table.ofRaw row raw
          | .error _ => ⟨row.name, [], [], row.rowCount, true⟩) ∧
      collected.diagnostics = (rows.zip answers).filterMap (fun (row, answer) =>
          match verdict limits.patience answer.1 answer.2 with
          | .ok _ => none
          | .error cause => some ⟨row.name, row.name ++ ": " ++
              if cause.message = "" then .whole cause.kindName else cause.message⟩) ∧
      collected.diagnostics.map (·.table) =
        (collected.tables.filter (·.degraded)).map (·.name) ∧
      ∀ others : FetchLimits, others.patience = limits.patience →
        ∃ report', run source others context schema s = some report' ∧
          report'.result = report.result := by
  have hlength : rows.length = answers.length := by
    simpa using congrArg List.length hanswers
  obtain ⟨report, hreport, hresult⟩ := run_of_listed limits hlist hanswers
  refine ⟨report, _, hreport, hresult, rfl, ?_, ?_, ?_, ?_, ?_⟩
  · simp [Collected.ofOutcomes, Fetch.verdicts, hlength]
  · simp only [Collected.ofOutcomes, Fetch.verdicts, List.map_map]
    apply List.map_congr_left
    rintro ⟨row, answer⟩ -
    simp only [Function.comp]
    cases verdict limits.patience answer.1 answer.2 <;> rfl
  · simp only [Collected.ofOutcomes, Fetch.verdicts, List.filterMap_map]
    rfl
  · exact Collected.degradedTables_ofOutcomes schema _
  · intro others hpatience
    obtain ⟨report', hreport', hresult'⟩ := run_of_listed others hlist hanswers
    refine ⟨report', hreport', ?_⟩
    rw [hresult', hresult, hpatience]

/-- A list with a name twice, two slots for four rows, an answer that fails and one that is too late. -/
theorem run_in_list_order_of_four :
    let rows : List ListedTable := [⟨"a", none⟩, ⟨"b", some 7⟩, ⟨"a", none⟩, ⟨"c", none⟩]
    let answers : Fetch.Answers := [(4, .ok default), (5, .ok default),
      (0, .error (.service "gone" none)), (1, .ok default)]
    ∃ report collected, run (.holding 2 rows) ⟨2, some 5, by decide⟩ .empty "shop" answers =
        some report ∧
      report.result = .ok collected ∧
      collected.tables.map (·.degraded) = [false, true, true, false] ∧
      collected.diagnostics = [⟨"b", "b: TimeoutError"⟩, ⟨"a", "a: gone"⟩] := by
  intro rows answers
  obtain ⟨report, collected, hreport, hresult, -, -, htables, hdiagnostics, -⟩ :=
    run_in_list_order (.holding 2 rows) ⟨2, some 5, by decide⟩ .empty "shop" answers answers 2 rows
      answers rfl (MetadataSource.replies_holding rfl)
  refine ⟨report, collected, hreport, hresult, ?_, ?_⟩
  · rw [htables]
    rfl
  · rw [hdiagnostics]
    rfl

end Work

end ErDiagram
