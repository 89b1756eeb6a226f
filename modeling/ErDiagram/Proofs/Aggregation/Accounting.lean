import ErDiagram.Proofs.Aggregation.Answers
import ErDiagram.Proofs.Aggregation.Outcomes
import ErDiagram.Proofs.Aggregation.Slots

/-!
# The account of the requests

The moments of a work are its beginning and every time after it at which the work goes on, whatever has
become of the context and of the source in the meantime. At each of them the requests for structures are
those for the first rows of the list, one for each, and the slots are kept. A work that has ended has asked
for every row, and one whose list cannot be had for none. When every answer arrives, or the patience for it
ends, the work does come to its end.
-/

namespace ErDiagram

namespace Fetch

/-- The fetches that have begun are the first ones. -/
theorem InOrder.isWaiting_iff {fetches : List Fetch} (h : InOrder fetches) :
    begun fetches = ((fetches.map (·.row)).take (begun fetches).length).map (·.name) ∧
      ∀ (i : Nat) (hi : i < fetches.length), fetches[i].isWaiting ↔ (begun fetches).length ≤ i := by
  induction fetches with
  | nil => exact ⟨rfl, fun i hi => absurd hi (Nat.not_lt_zero i)⟩
  | cons f rest ih =>
      obtain ⟨hfirst, hrest⟩ := List.pairwise_cons.1 h
      cases hf : f.isWaiting with
      | true =>
          have hall : ∀ g ∈ f :: rest, g.isWaiting :=
            List.forall_mem_cons.2 ⟨hf, fun g hg => hfirst g hg hf⟩
          rw [begun_of_waiting hall]
          exact ⟨rfl, fun i hi => iff_of_true (hall _ (List.getElem_mem hi)) (Nat.zero_le i)⟩
      | false =>
          obtain ⟨hnames, hwaiting⟩ := ih hrest
          rw [begun_cons_of_started hf]
          refine ⟨congrArg _ hnames, fun i hi => ?_⟩
          cases i with
          | zero => simp [hf]
          | succ i =>
              rw [List.getElem_cons_succ, hwaiting i (Nat.lt_of_succ_lt_succ hi), List.length_cons,
                Nat.succ_le_succ_iff]

/-- Fetches that have come to something have begun. -/
theorem begun_of_outcomes? {fetches : List Fetch}
    {outcomes : List (ListedTable × Except Fault RawStructure)}
    (h : outcomes? fetches = some outcomes) :
    outcomes.map Prod.fst = fetches.map (·.row) ∧ begun fetches = outcomes.map (·.1.name) := by
  induction fetches generalizing outcomes with
  | nil =>
      obtain rfl := Option.some.inj h
      exact ⟨rfl, rfl⟩
  | cons f rest ih =>
      simp only [outcomes?, List.mapM_cons, Option.bind_eq_bind, Option.bind_eq_some_iff] at h
      obtain ⟨first, hfirst, others, hothers, hpure⟩ := h
      obtain rfl := Option.some.inj hpure
      obtain ⟨hrows, hbegun⟩ := ih hothers
      cases hs : f.stage with
      | waiting => simp [outcome?, hs] at hfirst
      | running due outcome => simp [outcome?, hs] at hfirst
      | settled outcome =>
          simp only [outcome?, hs, Option.some.injEq] at hfirst
          subst first
          have hstarted : f.isWaiting = false := by simp [isWaiting, hs]
          exact ⟨by rw [List.map_cons, List.map_cons, hrows],
            by rw [begun_cons_of_started hstarted, hbegun, List.map_cons]⟩

theorem begun_map_waiting (rows : List ListedTable) : begun (rows.map waiting) = [] := by
  apply begun_of_waiting
  intro f hf
  obtain ⟨row, -, rfl⟩ := List.mem_map.1 hf
  rfl

theorem inOrder_map_waiting (rows : List ListedTable) : InOrder (rows.map waiting) := by
  refine List.pairwise_map.2 (List.pairwise_of_forall fun _ _ _ => rfl)

theorem underWay_map_waiting (rows : List ListedTable) : underWay (rows.map waiting) = 0 := by
  rw [underWay, List.countP_eq_zero]
  intro f hf
  obtain ⟨row, -, rfl⟩ := List.mem_map.1 hf
  simp [waiting, isRunning]

end Fetch

namespace Work

variable {σ : Type} {source : MetadataSource σ} {limits : FetchLimits} {context : Context}
variable {schema : CodeString} {s : σ}

/-- A work that begins, once all is done that can be done at that time. -/
def opening (source : MetadataSource σ) (limits : FetchLimits) (context : Context) (schema : CodeString)
    (now : Nat) (s : σ) : WorkRound σ :=
  let started := start source context schema now s
  let first := advance source limits context now started.work started.source
  ⟨first.work, first.source, started.calls ++ first.calls⟩

/-- The moments of a work: the time, what the work has come to and the requests made until then. When it
goes on, the context can be another one, and the source can have been asked by others. -/
inductive Moment (source : MetadataSource σ) (limits : FetchLimits) (context : Context)
    (schema : CodeString) (s : σ) : Nat → Work → List SourceCall → Prop
  | begun (now : Nat) : Moment source limits context schema s now
      (opening source limits context schema now s).work
      (opening source limits context schema now s).calls
  | later {before now : Nat} {work : Work} {calls : List SourceCall}
      (earlier : Moment source limits context schema s before work calls) (hle : before ≤ now)
      (context' : Context) (s' : σ) : Moment source limits context schema s now
        (advance source limits context' now work s').work
        (calls ++ (advance source limits context' now work s').calls)

/-- The account of a work whose list request has an answer: the work waits for it and has asked for
nothing, or has begun with the first rows of the list, or has ended, with all rows of the list or for want
of one. -/
inductive Accounted (limits : FetchLimits) (schema : CodeString) (answer : Except Fault Listing)
    (now : Nat) : Work → List SourceCall → Prop
  | listing (due : Option Nat) (calls : List SourceCall) (pending : ∀ time, due = some time → now < time)
      (asked : SourceCall.tables calls = []) :
      Accounted limits schema answer now (.listing schema due answer) calls
  | fetching (fetches : List Fetch) (calls : List SourceCall)
      (listed : answer = .ok (.tables (fetches.map (·.row)))) (order : Fetch.InOrder fetches)
      (kept : Fetch.AreKept limits now fetches)
      (asked : SourceCall.tables calls = Fetch.begun fetches) :
      Accounted limits schema answer now (.fetching schema fetches) calls
  | unlisted (result : Except Fault Collected) (calls : List SourceCall)
      (other : ∀ rows, answer ≠ .ok (.tables rows)) (asked : SourceCall.tables calls = []) :
      Accounted limits schema answer now (.ended result) calls
  | collected (outcomes : List (ListedTable × Except Fault RawStructure)) (calls : List SourceCall)
      (listed : answer = .ok (.tables (outcomes.map Prod.fst)))
      (asked : SourceCall.tables calls = outcomes.map (·.1.name)) :
      Accounted limits schema answer now (.ended (.ok (.ofOutcomes schema outcomes))) calls

/-- Fetches that go on are accounted for, also when that ends the work. -/
theorem accounted_fetch (htime : limits.hasTime) {answer : Except Fault Listing} {before now : Nat}
    {fetches : List Fetch} {calls : List SourceCall}
    (listed : answer = .ok (.tables (fetches.map (·.row)))) (order : Fetch.InOrder fetches)
    (hmost : Fetch.underWay fetches ≤ limits.slots)
    (htimely : ∀ f ∈ fetches, f.IsTimely limits before) (hle : before ≤ now)
    (asked : SourceCall.tables calls = Fetch.begun fetches) (t : σ) :
    let next := fetch source limits context now schema fetches t
    Accounted limits schema answer now next.work (calls ++ next.calls) := by
  have hkept := Fetch.areKept_advance source context schema htime hmost htimely hle t
  obtain ⟨horder, hbegun⟩ := Fetch.begun_advance source context schema htime order now t
  have hrows := Fetch.advance_rows source limits context schema now fetches t
  simp only [fetch]
  rw [← hrows] at listed
  have hasked : SourceCall.tables
      (calls ++ (Fetch.advance source limits context schema now fetches t).calls) =
        Fetch.begun (Fetch.advance source limits context schema now fetches t).fetches := by
    rw [SourceCall.tables_append, asked, hbegun]
  rw [ofFetches]
  cases houtcomes : Fetch.outcomes?
      (Fetch.advance source limits context schema now fetches t).fetches with
  | none => exact .fetching _ _ listed horder hkept hasked
  | some outcomes =>
      obtain ⟨hfirst, hall⟩ := Fetch.begun_of_outcomes? houtcomes
      exact .collected outcomes _ (by rw [hfirst, listed]) (by rw [hasked, hall])

/-- Without a list of rows the work ends as soon as the answer has arrived. -/
theorem listed_of_unlisted (schema : CodeString) {answer : Except Fault Listing}
    (h : ∀ rows, answer ≠ .ok (.tables rows)) : ∃ result, listed schema answer = .ended result := by
  cases answer with
  | error fault => exact ⟨_, rfl⟩
  | ok list =>
      rw [listed]
      obtain hrows | ⟨fault, hrows⟩ := Listing.rows_cases fun rows hlist => h rows (hlist ▸ rfl)
      · rw [hrows]
        exact ⟨_, rfl⟩
      · rw [hrows]
        exact ⟨_, rfl⟩

variable (source context schema) in
/-- What follows an answer that has arrived is accounted for, once it goes on. -/
theorem accounted_listed (htime : limits.hasTime) (answer : Except Fault Listing) (now : Nat)
    {calls : List SourceCall} (asked : SourceCall.tables calls = []) (t : σ) :
    let next := advance source limits context now (listed schema answer) t
    Accounted limits schema answer now next.work (calls ++ next.calls) := by
  have hnone : SourceCall.tables (calls ++ []) = [] := by rw [List.append_nil, asked]
  by_cases htables : ∃ rows, answer = .ok (.tables rows)
  · obtain ⟨rows, rfl⟩ := htables
    rw [advance_listed (Listing.rows_tables rows)]
    have hrows : (rows.map Fetch.waiting).map (·.row) = rows := by
      rw [List.map_map]
      exact List.map_id' rows
    have hmost : Fetch.underWay (rows.map Fetch.waiting) ≤ limits.slots := by
      rw [Fetch.underWay_map_waiting]
      exact Nat.zero_le _
    have htimely : ∀ f ∈ rows.map Fetch.waiting, f.IsTimely limits now := by
      intro f hf
      obtain ⟨row, -, rfl⟩ := List.mem_map.1 hf
      exact Fetch.isTimely_of_not_running rfl now
    exact accounted_fetch htime (by rw [hrows]) (Fetch.inOrder_map_waiting rows) hmost htimely
      (Nat.le_refl now) (by rw [asked, Fetch.begun_map_waiting]) t
  · rw [not_exists] at htables
    obtain ⟨result, hended⟩ := listed_of_unlisted schema htables
    rw [hended]
    exact .unlisted result _ htables hnone

theorem advance_listing_due {due now : Nat} (hdue : due ≤ now) (answer : Except Fault Listing) (t : σ) :
    advance source limits context now (.listing schema (some due) answer) t =
      advance source limits context now (listed schema answer) t := by
  simp only [advance, hdue, if_true]
  cases answer with
  | error fault => rfl
  | ok list =>
      rw [listed]
      cases list.rows with
      | error fault => rfl
      | ok rows => cases rows <;> rfl

variable (source context) in
/-- Work that goes on stays accounted for. -/
theorem accounted_advance (htime : limits.hasTime) {answer : Except Fault Listing} {before now : Nat}
    {work : Work} {calls : List SourceCall}
    (h : Accounted limits schema answer before work calls) (hle : before ≤ now) (t : σ) :
    Accounted limits schema answer now (advance source limits context now work t).work
      (calls ++ (advance source limits context now work t).calls) := by
  cases h with
  | listing due _ pending asked =>
      cases due with
      | none =>
          refine .listing none _ (fun _ h => by cases h) ?_
          rw [SourceCall.tables_append, asked]
          rfl
      | some due =>
          by_cases hdue : due ≤ now
          · rw [advance_listing_due hdue]
            exact accounted_listed source context schema htime answer now asked t
          · have hsame : advance source limits context now (.listing schema (some due) answer) t =
                ⟨.listing schema (some due) answer, t, []⟩ := by
              simp only [advance, hdue, if_false]
            rw [hsame]
            refine .listing (some due) _ (fun time htime => ?_) ?_
            · rw [← Option.some.inj htime]
              exact Nat.lt_of_not_le hdue
            · rw [List.append_nil, asked]
  | fetching fetches _ listed order kept asked =>
      exact accounted_fetch htime listed order kept.atMost kept.timely hle asked t
  | unlisted result _ other asked =>
      refine .unlisted result _ other ?_
      rw [SourceCall.tables_append, asked]
      rfl
  | collected outcomes _ listed asked =>
      refine .collected outcomes _ listed ?_
      rw [SourceCall.tables_append, asked]
      exact List.append_nil _

theorem accounted_of_waiting (htime : limits.hasTime) {now : Nat} {due : Option Nat}
    (hwork : (start source context schema now s).work =
      .listing schema due (source.listTables context schema s).1.outcome)
    (pending : ∀ time, due = some time → now < time) :
    Accounted limits schema (source.listTables context schema s).1.outcome now
      (opening source limits context schema now s).work
      (opening source limits context schema now s).calls := by
  have hstarted : Accounted limits schema (source.listTables context schema s).1.outcome now
      (start source context schema now s).work (start source context schema now s).calls := by
    rw [hwork]
    exact .listing due _ pending rfl
  exact accounted_advance source context htime hstarted (Nat.le_refl now) _

/-- A work that begins is accounted for. -/
theorem accounted_opening (htime : limits.hasTime) (now : Nat) :
    Accounted limits schema (source.listTables context schema s).1.outcome now
      (opening source limits context schema now s).work
      (opening source limits context schema now s).calls := by
  cases hdelay : (source.listTables context schema s).1.delay with
  | none =>
      have hwork : (start source context schema now s).work =
          .listing schema none (source.listTables context schema s).1.outcome := by
        simp only [start, hdelay]
      refine accounted_of_waiting htime hwork fun time h => ?_
      cases h
  | some delay =>
      cases delay with
      | zero =>
          have hwork : (start source context schema now s).work =
              listed schema (source.listTables context schema s).1.outcome := by
            simp only [start, hdelay]
          have hlisted := accounted_listed source context schema htime
            (source.listTables context schema s).1.outcome now
            (show SourceCall.tables (start source context schema now s).calls = [] from rfl)
            (start source context schema now s).source
          simp only [opening, hwork]
          exact hlisted
      | succ delay =>
          have hwork : (start source context schema now s).work = .listing schema
              (some (now + (delay + 1))) (source.listTables context schema s).1.outcome := by
            simp only [start, hdelay]
          refine accounted_of_waiting htime hwork fun time h => ?_
          rw [← Option.some.inj h]
          omega

theorem Moment.accounted (htime : limits.hasTime) {now : Nat} {work : Work} {calls : List SourceCall}
    (h : Moment source limits context schema s now work calls) :
    Accounted limits schema (source.listTables context schema s).1.outcome now work calls := by
  induction h with
  | begun now => exact accounted_opening htime now
  | later earlier hle context' s' ih => exact accounted_advance source context' htime ih hle s'

theorem underWay_of_mem_advance {now : Nat} {work : Work} {t : σ} {call : SourceCall}
    (h : call ∈ (advance source limits context now work t).calls) : call.underWay ≤ limits.slots := by
  cases work with
  | ended result => cases h
  | fetching schema fetches => exact Fetch.underWay_of_mem_calls h
  | listing schema due answer =>
      cases due with
      | none => cases h
      | some due =>
          rw [advance] at h
          split at h
          · split at h
            · exact Fetch.underWay_of_mem_calls h
            · cases h
          · cases h

theorem Moment.underWay_le {now : Nat} {work : Work} {calls : List SourceCall}
    (h : Moment source limits context schema s now work calls) :
    ∀ call ∈ calls, call.underWay ≤ limits.slots := by
  induction h with
  | begun now =>
      intro call hcall
      rcases List.mem_append.1 hcall with hlist | hmore
      · rw [List.mem_singleton.1 hlist]
        exact Nat.zero_le _
      · exact underWay_of_mem_advance hmore
  | later earlier hle context' s' ih =>
      intro call hcall
      rcases List.mem_append.1 hcall with hbefore | hmore
      · exact ih call hbefore
      · exact underWay_of_mem_advance hmore

theorem Accounted.lt_nextDue {answer : Except Fault Listing} {now due : Nat} {work : Work}
    {calls : List SourceCall} (h : Accounted limits schema answer now work calls)
    (hdue : work.nextDue? = some due) : now < due := by
  cases h with
  | listing due' _ pending => exact pending due hdue
  | fetching fetches _ _ _ kept =>
      obtain ⟨f, hf, hends⟩ := List.mem_filterMap.1 (List.min?_mem hdue)
      exact (kept.timely f hf (Fetch.isRunning_of_due? hends)).1 due hends
  | unlisted => cases hdue
  | collected => cases hdue

theorem Accounted.asked_of_rows {rows : List ListedTable} {now : Nat} {calls : List SourceCall}
    {result : Except Fault Collected}
    (h : Accounted limits schema (.ok (.tables rows)) now (.ended result) calls) :
    SourceCall.tables calls = rows.map (·.name) := by
  cases h with
  | unlisted _ _ other => exact absurd rfl (other rows)
  | collected outcomes _ listed asked =>
      obtain rfl : rows = outcomes.map Prod.fst := by simpa using listed
      rw [asked, List.map_map]
      rfl

theorem Accounted.asked_of_unlisted {answer : Except Fault Listing} {now : Nat} {work : Work}
    {calls : List SourceCall} (h : Accounted limits schema answer now work calls)
    (hanswer : ∀ rows, answer ≠ .ok (.tables rows)) : SourceCall.tables calls = [] := by
  cases h with
  | listing _ _ _ asked => exact asked
  | fetching fetches _ listed => exact absurd listed (hanswer _)
  | unlisted _ _ _ asked => exact asked
  | collected outcomes _ listed => exact absurd listed (hanswer _)

theorem Moment.of_follow (htime : limits.hasTime) {fuel now : Nat} {work : Work}
    {calls : List SourceCall} (h : Moment source limits context schema s now work calls) {t : σ}
    {context' : Context} {report : WorkReport σ}
    (hreport : follow source limits context' fuel now ⟨work, t, calls⟩ = some report) :
    Moment source limits context schema s report.elapsed (.ended report.result) report.calls := by
  refine follow_preserves (P := Moment source limits context schema s) ?_ h hreport
  intro now work calls due hmoment hdue t
  have hlate := (hmoment.accounted htime).lt_nextDue hdue
  exact .later hmoment (Nat.le_of_lt hlate) context' t

theorem moment_of_run (htime : limits.hasTime) {report : WorkReport σ}
    (h : run source limits context schema s = some report) :
    Moment source limits context schema s report.elapsed (.ended report.result) report.calls :=
  Moment.of_follow htime (.begun 0) h

/-- A work whose list request is refused ends with that. -/
theorem run_of_refused (limits : FetchLimits) {wait : Nat} {fault : Fault} {listed : σ}
    (h : source.listTables context schema s = (⟨some wait, .error fault⟩, listed)) :
    ∃ report, run source limits context schema s = some report ∧
      report.result = .error (.listing schema fault) := by
  cases wait with
  | zero => exact ⟨_, by simp only [run, start, h]; exact follow_ended _ _ _ _ _, rfl⟩
  | succ wait =>
      have hstart : (start source context schema 0 s).work =
          .listing schema (some (0 + (wait + 1))) (.error fault) := by
        simp only [start, h]
      have hwaits : advance source limits context 0
          (.listing schema (some (0 + (wait + 1))) (.error fault))
          (start source context schema 0 s).source =
          ⟨.listing schema (some (0 + (wait + 1))) (.error fault),
            (start source context schema 0 s).source, []⟩ := by
        have hlater : ¬ 0 + (wait + 1) ≤ 0 := by omega
        simp only [advance, hlater, if_false]
      simp only [run, hstart, hwaits, eventsLeft]
      rw [follow_succ rfl rfl, advance_listing_due (Nat.le_refl _)]
      exact ⟨_, follow_ended _ _ _ _ _, rfl⟩

/-- With a patience every answer counts as something, and without one every answer that arrives. -/
theorem verdict?_isSome (htime : limits.hasTime) {reply : Reply RawStructure}
    (h : limits.patience.isSome ∨ reply.delay.isSome) : (limits.verdict? reply).isSome := by
  rw [FetchLimits.verdict?, if_pos htime, Reply.arrival, Option.isSome_map]
  cases hpatience : limits.patience with
  | none =>
      have hsame : limits.bounded reply = reply := by simp only [FetchLimits.bounded, hpatience]
      rw [hsame]
      simpa [hpatience] using h
  | some time =>
      have hpos : 0 < time := by simpa [FetchLimits.hasTime, hpatience] using htime
      obtain ⟨delay, hdelay, -⟩ := Fetch.delay_bounded_le limits reply hpatience hpos
      simp [hdelay]

theorem Accounted.areKept {answer : Except Fault Listing} {now : Nat} {fetches : List Fetch}
    {calls : List SourceCall}
    (h : Accounted limits schema answer now (.fetching schema fetches) calls) :
    Fetch.AreKept limits now fetches := by
  cases h with
  | fetching _ _ _ _ kept => exact kept

/-- The requests of a work are for the first rows of its list, and the fetches of the others wait. -/
theorem Accounted.asked_in_order {rows : List ListedTable} {now : Nat} {work : Work}
    {calls : List SourceCall} (h : Accounted limits schema (.ok (.tables rows)) now work calls) :
    ∃ asked, SourceCall.tables calls = (rows.take asked).map (·.name) ∧
      (∀ fetches, work = .fetching schema fetches → fetches.map (·.row) = rows ∧
        ∀ (i : Nat) (hi : i < fetches.length), fetches[i].isWaiting ↔ asked ≤ i) ∧
      ∀ result, work = .ended result → asked = rows.length ∧
        ∃ outcomes, outcomes.map Prod.fst = rows ∧ result = .ok (.ofOutcomes schema outcomes) := by
  cases h with
  | listing due _ _ asked => exact ⟨0, asked, nofun, nofun⟩
  | fetching fetches _ listed order _ asked =>
      obtain ⟨hnames, hwaiting⟩ := order.isWaiting_iff
      obtain rfl : rows = fetches.map (·.row) := by simpa using listed
      refine ⟨_, asked.trans hnames, fun _ h => ?_, nofun⟩
      cases h
      exact ⟨rfl, hwaiting⟩
  | unlisted _ _ other => exact absurd rfl (other rows)
  | collected outcomes _ listed asked =>
      obtain rfl : rows = outcomes.map Prod.fst := by simpa using listed
      refine ⟨_, ?_, nofun, fun result hresult => ⟨rfl, outcomes, rfl, ?_⟩⟩
      · rw [asked, List.take_length, List.map_map]
        rfl
      · cases hresult
        rfl

/-- A work whose answers all count as something ends with all its rows asked for. -/
theorem run_of_verdicts (htime : limits.hasTime) {wait : Nat} {rows : List ListedTable} {listed : σ}
    (hlist : source.listTables context schema s = (⟨some wait, .ok (.tables rows)⟩, listed))
    (hverdicts : ∀ reply ∈ source.replies context schema rows listed, (limits.verdict? reply).isSome) :
    ∃ report outcomes, run source limits context schema s = some report ∧
      Moment source limits context schema s report.elapsed (.ended report.result) report.calls ∧
      outcomes.map Prod.fst = rows ∧ report.result = .ok (.ofOutcomes schema outcomes) ∧
      SourceCall.tables report.calls = rows.map (·.name) := by
  obtain ⟨report, hrun, hresult⟩ :=
    runFrom_of_prospects 0 hlist (Fetch.prospects_eq_outcomesOf hverdicts)
  have hmoment := moment_of_run htime hrun
  have haccount := hmoment.accounted htime
  rw [hlist] at haccount
  have hrows := Fetch.map_fst_outcomesOf limits
    (source.length_replies context schema rows listed)
  exact ⟨report, _, hrun, hmoment, hrows, hresult, haccount.asked_of_rows⟩

/-- The account of the requests of one collection. At every moment no more requests for structures are
under way than there are slots, none of them is over, and all slots are taken while a fetch waits. The
requests are for the first rows of the list, one for each in their order; the fetches of the other rows
wait. When the work has ended with its tables, all rows have been asked for. When every answer arrives, or
there is a patience, it does end. When the list is refused, nothing else is asked for. -/
theorem requests_accounted (source : MetadataSource σ) {limits : FetchLimits} (htime : limits.hasTime)
    (context : Context) (schema : CodeString) (s : σ) :
    (∀ now work calls, Moment source limits context schema s now work calls →
      (∀ call ∈ calls, call.underWay ≤ limits.slots) ∧
      (∀ fetches, work = .fetching schema fetches → Fetch.AreKept limits now fetches) ∧
      ((∀ rows, (source.listTables context schema s).1.outcome ≠ .ok (.tables rows)) →
        SourceCall.tables calls = []) ∧
      ∀ rows, (source.listTables context schema s).1.outcome = .ok (.tables rows) →
        ∃ asked, SourceCall.tables calls = (rows.take asked).map (·.name) ∧
          (∀ fetches, work = .fetching schema fetches → fetches.map (·.row) = rows ∧
            ∀ (i : Nat) (hi : i < fetches.length), fetches[i].isWaiting ↔ asked ≤ i) ∧
          ∀ result, work = .ended result → asked = rows.length ∧
            ∃ outcomes, outcomes.map Prod.fst = rows ∧ result = .ok (.ofOutcomes schema outcomes)) ∧
    (∀ wait rows listed,
      source.listTables context schema s = (⟨some wait, .ok (.tables rows)⟩, listed) →
      (∀ reply ∈ source.replies context schema rows listed,
        limits.patience.isSome ∨ reply.delay.isSome) →
      ∃ report outcomes, run source limits context schema s = some report ∧
        Moment source limits context schema s report.elapsed (.ended report.result) report.calls ∧
        outcomes.map Prod.fst = rows ∧ report.result = .ok (.ofOutcomes schema outcomes) ∧
        SourceCall.tables report.calls = rows.map (·.name)) ∧
    ∀ wait fault listed,
      source.listTables context schema s = (⟨some wait, .error fault⟩, listed) →
      ∃ report, run source limits context schema s = some report ∧
        Moment source limits context schema s report.elapsed (.ended report.result) report.calls ∧
        report.result = .error (.listing schema fault) ∧ SourceCall.tables report.calls = [] := by
  refine ⟨?_, ?_, ?_⟩
  · intro now work calls h
    have haccount := h.accounted htime
    refine ⟨h.underWay_le, ?_, haccount.asked_of_unlisted, ?_⟩
    · rintro fetches rfl
      exact haccount.areKept
    · intro rows hrows
      rw [hrows] at haccount
      exact haccount.asked_in_order
  · intro wait rows listed hlist hanswers
    exact run_of_verdicts htime hlist fun reply hreply => verdict?_isSome htime (hanswers reply hreply)
  · intro wait fault listed hlist
    obtain ⟨report, hrun, hresult⟩ := run_of_refused limits hlist
    have hmoment := moment_of_run htime hrun
    have haccount := hmoment.accounted htime
    rw [hlist] at haccount
    exact ⟨report, hrun, hmoment, hresult, haccount.asked_of_unlisted nofun⟩

/-- Four rows and two slots, for an answer that fails and one that is too late: two requests are under way
at the most, and each row is asked for once. -/
theorem requests_accounted_of_four :
    let rows : List ListedTable := [⟨"a", none⟩, ⟨"b", some 7⟩, ⟨"a", none⟩, ⟨"c", none⟩]
    let answers : Fetch.Answers := [(4, .ok default), (5, .ok default),
      (0, .error (.service "gone" none)), (1, .ok default)]
    let limits : FetchLimits := ⟨2, some 5, by decide⟩
    limits.hasTime ∧ ∃ report, run (.holding 2 rows) limits .empty "shop" answers = some report ∧
      SourceCall.tables report.calls = (["a", "b", "a", "c"] : List CodeString) ∧
      ∀ call ∈ report.calls, call.underWay ≤ 2 := by
  intro rows answers limits
  have htime : limits.hasTime = true := by decide
  obtain ⟨hmoments, hends, -⟩ :=
    requests_accounted (.holding 2 rows) htime .empty "shop" answers
  obtain ⟨report, -, hrun, hmoment, -, -, hasked⟩ := hends 2 rows answers rfl fun _ _ => .inl rfl
  exact ⟨htime, report, hrun, hasked, (hmoments _ _ _ hmoment).1⟩

end Work

end ErDiagram
