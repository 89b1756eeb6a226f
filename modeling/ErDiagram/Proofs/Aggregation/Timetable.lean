import ErDiagram.Proofs.Aggregation.Accounting
import Mathlib.Data.List.Forall2

/-!
# When slots come free

A request begins as soon as a slot is free, and slots come free at uneven times. Still there is a time by
which each request has begun. While a row waits, all slots are taken by requests for rows before it. The
first of these requests is for a row that stands before the waiting one by as many rows as there are slots,
or by more, and it is over when its patience ends. So each round of as many rows as there are slots begins
one patience after the round before it at the latest, and everything is over one patience after the last.

The induction is on the events of a work. `Fetch.OnTime` is what each of them keeps: it bounds the times of
the requests that were made and the ends of those that are under way.
-/

namespace ErDiagram

namespace SourceCall

/-- The requests for structures, in the order in which they were made. -/
def forTables (calls : List SourceCall) : List SourceCall :=
  calls.filter (·.table.isSome)

private theorem forTables_append (calls more : List SourceCall) :
    forTables (calls ++ more) = forTables calls ++ forTables more :=
  List.filter_append _ _

theorem map_table_forTables (calls : List SourceCall) :
    (forTables calls).map (·.table) = (tables calls).map some := by
  induction calls with
  | nil => rfl
  | cons call rest ih => cases h : call.table <;> simpa [forTables, tables, h] using ih

theorem length_forTables (calls : List SourceCall) :
    (forTables calls).length = (tables calls).length := by
  simpa using congrArg List.length (map_table_forTables calls)

end SourceCall

namespace Fetch

variable {σ : Type} {source : MetadataSource σ} {limits : FetchLimits} {context : Context}
variable {schema : CodeString} {opened now due time : Nat} {fetches : List Fetch} {calls : List SourceCall}

/-- The requests of some fetches that have gone on after their list had arrived, by the times at which they
were made and at which they are over. -/
structure OnTime (limits : FetchLimits) (opened time : Nat) (fetches : List Fetch)
    (calls : List SourceCall) : Prop where
  made : ∀ (k : Nat) call, (SourceCall.forTables calls)[k]? = some call →
    call.time ≤ opened + k / limits.slots * time
  done : ∀ (i : Nat) f due, fetches[i]? = some f → f.due? = some due →
    due ≤ opened + (i / limits.slots + 1) * time

/-- The first request that is under way is for a row at least as far before the waiting ones as there are
requests under way. -/
theorem exists_first_running (h : InOrder fetches) (hrun : 0 < underWay fetches) :
    ∃ (i : Nat) (f : Fetch), fetches[i]? = some f ∧ f.isRunning ∧
      i + underWay fetches ≤ (begun fetches).length := by
  induction fetches with
  | nil => simp [underWay] at hrun
  | cons first rest ih =>
      obtain ⟨hfirst, hrest⟩ := List.pairwise_cons.1 h
      cases hrunning : first.isRunning with
      | true =>
          refine ⟨0, first, rfl, hrunning, ?_⟩
          rw [Nat.zero_add, begun, List.length_map, ← List.countP_eq_length_filter, underWay]
          refine List.countP_mono_left fun f _ hf => ?_
          rw [isWaiting_of_isRunning hf]
          rfl
      | false =>
          have hsame : underWay (first :: rest) = underWay rest := by
            rw [underWay, List.countP_cons_of_neg (by simp [hrunning]), underWay]
          rw [hsame] at hrun ⊢
          obtain ⟨i, f, hf, hfrunning, hbefore⟩ := ih hrest hrun
          have hstarted : first.isWaiting = false := by
            cases hwait : first.isWaiting with
            | false => rfl
            | true =>
                have hwaits := hfirst f (List.mem_of_getElem? hf) hwait
                rw [isWaiting_of_isRunning hfrunning] at hwaits
                cases hwaits
          refine ⟨i + 1, f, hf, hfrunning, ?_⟩
          rw [begun_cons_of_started hstarted, List.length_cons]
          omega

/-- The round of a row is over before that of a row which stands behind it by as many as there are slots. -/
theorem round_le {i j : Nat} (h : i + limits.slots ≤ j) (opened time : Nat) :
    opened + (i / limits.slots + 1) * time ≤ opened + j / limits.slots * time := by
  rw [← Nat.add_div_right i limits.slots_pos]
  exact Nat.add_le_add_left (Nat.mul_le_mul_right time (Nat.div_le_div_right h)) opened

/-- The first request that is over while a fetch waits is over before the round of that fetch. -/
theorem OnTime.due_le (hpatience : limits.patience = some (time : Int)) (order : InOrder fetches)
    (kept : AreKept limits now fetches) (h : OnTime limits opened time fetches calls)
    (hwait : ∃ f ∈ fetches, f.isWaiting) (hdue : nextDue? fetches = some due) :
    due ≤ opened + (begun fetches).length / limits.slots * time := by
  have hfull : limits.slots ≤ underWay fetches := by
    apply Nat.le_of_not_lt
    intro hfree
    obtain ⟨f, hf, hwaits⟩ := hwait
    rw [kept.full hfree f hf] at hwaits
    cases hwaits
  obtain ⟨i, f, hf, hrunning, hbefore⟩ :=
    exists_first_running order (Nat.lt_of_lt_of_le limits.slots_pos hfull)
  have hmem := List.mem_of_getElem? hf
  obtain ⟨ends, hends, -⟩ := (kept.timely f hmem hrunning).2 time hpatience
  have hfirst : due ≤ ends :=
    (List.min?_eq_some_iff.1 hdue).2 ends (List.mem_filterMap.2 ⟨f, hmem, hends⟩)
  calc due ≤ ends := hfirst
    _ ≤ opened + (i / limits.slots + 1) * time := h.done i f ends hf hends
    _ ≤ opened + (begun fetches).length / limits.slots * time := round_le (by omega) opened time

theorem OnTime.due_le_last (h : OnTime limits opened time fetches calls)
    (hdue : nextDue? fetches = some due) :
    due ≤ opened + (fetches.length + limits.slots - 1) / limits.slots * time := by
  obtain ⟨f, hf, hends⟩ := List.mem_filterMap.1 (List.min?_mem hdue)
  obtain ⟨i, hi⟩ := List.mem_iff_getElem?.1 hf
  obtain ⟨hbound, -⟩ := List.getElem?_eq_some_iff.1 hi
  calc due ≤ opened + (i / limits.slots + 1) * time := h.done i f due hi hends
    _ ≤ _ := round_le (by omega) opened time

/-- Whether a fetch that is under way was so before, with the same end, or else began at a time and ends one
patience later at the latest. -/
def GoesOn (now time : Nat) (f g : Fetch) : Prop :=
  ∀ due, g.due? = some due → f.due? = some due ∨ f.isWaiting ∧ due ≤ now + time

theorem GoesOn.refl (now time : Nat) (f : Fetch) : GoesOn now time f f := fun _ => .inl

variable (source context schema) in
private theorem goesOn_dispatch (htime : limits.hasTime) (hpatience : limits.patience = some (time : Int))
    (now busy : Nat) (fetches : List Fetch) (s : σ) :
    List.Forall₂ (GoesOn now time) fetches
      (dispatch source limits context schema now busy fetches s).fetches := by
  induction fetches generalizing busy s with
  | nil => exact .nil
  | cons f rest ih =>
      rcases waiting_or_started f with hs | hw
      · by_cases hb : busy < limits.slots
        · obtain ⟨reply, next, heq⟩ := dispatch_begins source context schema htime hs hb now rest s
          rw [heq]
          refine .cons (fun due hdue => .inr ⟨isWaiting_of_stage hs, ?_⟩) (ih _ _)
          have htimely := isTimely_answered htime f now reply (isRunning_of_due? hdue)
          obtain ⟨ends, hends, hbound⟩ := htimely.2 time hpatience
          rw [hdue] at hends
          obtain rfl := Option.some.inj hends
          omega
        · rw [dispatch_full hs hb]
          exact List.forall₂_same.2 fun g _ => .refl now time g
      · rw [dispatch_started hw]
        exact .cons (.refl now time f) (ih _ _)

variable (source context schema) in
private theorem goesOn_advance (htime : limits.hasTime) (hpatience : limits.patience = some (time : Int))
    (now : Nat) (fetches : List Fetch) (s : σ) :
    List.Forall₂ (GoesOn now time) fetches
      (advance source limits context schema now fetches s).fetches := by
  have hstarted := goesOn_dispatch source context schema htime hpatience now
    (underWay (fetches.map (settle now))) (fetches.map (settle now)) s
  rw [List.forall₂_map_left_iff] at hstarted
  refine hstarted.imp fun f g hgoes due hdue => ?_
  rw [← isWaiting_settle now f]
  refine (hgoes due hdue).imp_left fun hsettled => ?_
  rcases settle_cases now f with hover | ⟨hsame, -⟩
  · rw [isRunning_of_due? hsettled] at hover
    cases hover
  · rwa [hsame] at hsettled

/-- Requests are made at the time at which fetches go on, and only for those that wait. -/
theorem of_mem_calls {busy : Nat} {s : σ} {call : SourceCall}
    (h : call ∈ (dispatch source limits context schema now busy fetches s).calls) :
    call.time = now ∧ ∃ f ∈ fetches, f.isWaiting := by
  induction fetches generalizing busy s with
  | nil => cases h
  | cons first rest ih =>
      rcases waiting_or_started first with hs | hw
      · have hwaits : ∃ f ∈ first :: rest, f.isWaiting :=
          ⟨first, List.mem_cons_self, isWaiting_of_stage hs⟩
        simp only [dispatch, hs] at h
        split at h
        · split at h
          · rcases List.mem_cons.1 h with rfl | hlater
            · exact ⟨rfl, hwaits⟩
            · exact ⟨(ih hlater).1, hwaits⟩
          · exact ⟨(ih h).1, hwaits⟩
        · cases h
      · rw [dispatch_started hw] at h
        obtain ⟨hnow, f, hf, hwaits⟩ := ih h
        exact ⟨hnow, f, List.mem_cons_of_mem _ hf, hwaits⟩

variable (source context schema) in
/-- Fetches that go on before the round of the first waiting one is due stay on time. -/
theorem OnTime.advance (htime : limits.hasTime) (hpatience : limits.patience = some (time : Int))
    (order : InOrder fetches) (asked : SourceCall.tables calls = begun fetches)
    (h : OnTime limits opened time fetches calls)
    (hnow : (∃ f ∈ fetches, f.isWaiting) →
      now ≤ opened + (begun fetches).length / limits.slots * time) (s : σ) :
    let round := Fetch.advance source limits context schema now fetches s
    OnTime limits opened time round.fetches (calls ++ round.calls) := by
  intro round
  have hround : ∀ {k : Nat}, (begun fetches).length ≤ k → (∃ f ∈ fetches, f.isWaiting) →
      now ≤ opened + k / limits.slots * time := by
    intro k hk hwait
    refine Nat.le_trans (hnow hwait) (Nat.add_le_add_left (Nat.mul_le_mul_right time ?_) opened)
    exact Nat.div_le_div_right hk
  constructor
  · intro k call hcall
    rw [SourceCall.forTables_append] at hcall
    by_cases hold : k < (SourceCall.forTables calls).length
    · rw [List.getElem?_append_left hold] at hcall
      exact h.made k call hcall
    · -- a request that is made now is for a row behind all that have begun
      have hk := Nat.le_of_not_lt hold
      rw [List.getElem?_append_right hk] at hcall
      rw [SourceCall.length_forTables, asked] at hk
      obtain ⟨rfl, f, hf, hwaits⟩ :=
        of_mem_calls (List.mem_filter.1 (List.mem_of_getElem? hcall)).1
      obtain ⟨g, hg, rfl⟩ := List.mem_map.1 hf
      exact hround hk ⟨g, hg, by rwa [isWaiting_settle] at hwaits⟩
  · intro i g due hg hdue
    obtain ⟨hlength, hgoes⟩ := List.forall₂_iff_get.1
      (goesOn_advance source context schema htime hpatience now fetches s)
    obtain ⟨hi, rfl⟩ := List.getElem?_eq_some_iff.1 hg
    have hi' : i < fetches.length := Nat.lt_of_lt_of_eq hi hlength.symm
    rcases hgoes i hi' hi due hdue with hsame | ⟨hwaits, hlate⟩
    · exact h.done i _ due (List.getElem?_eq_getElem hi') hsame
    · -- what begins now ends one patience later, which is when its own round is over
      have hbegun := (order.isWaiting_iff.2 i hi').1 hwaits
      have hbound := hround hbegun ⟨_, List.getElem_mem hi', hwaits⟩
      rw [Nat.succ_mul]
      omega

private theorem onTime_map_waiting (rows : List ListedTable) (hnone : SourceCall.tables calls = []) :
    OnTime limits opened time (rows.map waiting) calls := by
  constructor
  · intro k call hcall
    have hempty : SourceCall.forTables calls = [] := by
      rw [← List.length_eq_zero_iff, SourceCall.length_forTables, hnone, List.length_nil]
    rw [hempty] at hcall
    cases hcall
  · intro i f due hf hdue
    obtain ⟨row, -, rfl⟩ := List.mem_map.1 (List.mem_of_getElem? hf)
    cases hdue

end Fetch

namespace Work

variable {σ : Type} {source : MetadataSource σ} {limits : FetchLimits} {context : Context}
variable {schema : CodeString} {s : σ} {rows : List ListedTable} {opened time : Nat}

/-- How a work keeps time whose list of rows arrives at some time: it waits for the list, or its fetches are
on time, or it has ended when it had to, with all requests made in time. -/
inductive KeepsTime (limits : FetchLimits) (schema : CodeString) (rows : List ListedTable)
    (opened time now : Nat) : Work → List SourceCall → Prop
  | listing (calls : List SourceCall) :
      KeepsTime limits schema rows opened time now
        (.listing schema (some opened) (.ok (.tables rows))) calls
  | fetching (fetches : List Fetch) (calls : List SourceCall)
      (onTime : Fetch.OnTime limits opened time fetches calls) :
      KeepsTime limits schema rows opened time now (.fetching schema fetches) calls
  | ended (result : Except Fault Collected) (calls : List SourceCall)
      (made : ∀ (k : Nat) call, (SourceCall.forTables calls)[k]? = some call →
        call.time ≤ opened + k / limits.slots * time)
      (punctual : now ≤ opened + (rows.length + limits.slots - 1) / limits.slots * time) :
      KeepsTime limits schema rows opened time now (.ended result) calls

theorem keepsTime_fetch (htime : limits.hasTime) (hpatience : limits.patience = some (time : Int))
    {now : Nat} {fetches : List Fetch} {calls : List SourceCall}
    (order : Fetch.InOrder fetches) (asked : SourceCall.tables calls = Fetch.begun fetches)
    (onTime : Fetch.OnTime limits opened time fetches calls)
    (hround : (∃ f ∈ fetches, f.isWaiting) →
      now ≤ opened + (Fetch.begun fetches).length / limits.slots * time)
    (hlast : now ≤ opened + (rows.length + limits.slots - 1) / limits.slots * time) (t : σ) :
    let next := fetch source limits context now schema fetches t
    KeepsTime limits schema rows opened time now next.work (calls ++ next.calls) := by
  have hgone := onTime.advance source context schema htime hpatience order asked hround t
  simp only [fetch, ofFetches]
  cases Fetch.outcomes? (Fetch.advance source limits context schema now fetches t).fetches with
  | none => exact .fetching _ _ hgone
  | some outcomes => exact .ended _ _ hgone.made hlast

variable (source context schema) in
theorem keepsTime_listed (htime : limits.hasTime) (hpatience : limits.patience = some (time : Int))
    {calls : List SourceCall} (asked : SourceCall.tables calls = []) (t : σ) :
    let next := advance source limits context opened (listed schema (.ok (.tables rows))) t
    KeepsTime limits schema rows opened time opened next.work (calls ++ next.calls) := by
  rw [advance_listed (Listing.rows_tables rows)]
  exact keepsTime_fetch htime hpatience (Fetch.inOrder_map_waiting rows)
    (by rw [asked, Fetch.begun_map_waiting]) (Fetch.onTime_map_waiting rows asked)
    (fun _ => Nat.le_add_right ..) (Nat.le_add_right ..) t

/-- Work that goes on at its next event keeps time. -/
theorem KeepsTime.advance (htime : limits.hasTime) (hpatience : limits.patience = some (time : Int))
    {now due : Nat} {work : Work} {calls : List SourceCall}
    (haccount : Accounted limits schema (.ok (.tables rows)) now work calls)
    (h : KeepsTime limits schema rows opened time now work calls) (hdue : work.nextDue? = some due)
    (t : σ) :
    let next := Work.advance source limits context due work t
    KeepsTime limits schema rows opened time due next.work (calls ++ next.calls) := by
  cases h with
  | listing =>
      obtain rfl := Option.some.inj hdue
      cases haccount with
      | listing _ _ _ asked =>
          rw [advance_listing_due (Nat.le_refl _)]
          exact keepsTime_listed source context schema htime hpatience asked t
  | fetching fetches _ onTime =>
      cases haccount with
      | fetching _ _ listed order kept asked =>
          obtain rfl : rows = fetches.map (·.row) := by simpa using listed
          refine keepsTime_fetch htime hpatience order asked onTime ?_ ?_ t
          · exact fun hwait => onTime.due_le hpatience order kept hwait hdue
          · rw [List.length_map]
            exact onTime.due_le_last hdue
  | ended => cases hdue

/-- A work whose list of rows arrives keeps time until its end. -/
theorem keepsTime_run (htime : limits.hasTime) (hpatience : limits.patience = some (time : Int))
    {wait : Nat} {listed : σ}
    (hlist : source.listTables context schema s = (⟨some wait, .ok (.tables rows)⟩, listed))
    {report : WorkReport σ} (hreport : run source limits context schema s = some report) :
    KeepsTime limits schema rows wait time report.elapsed (.ended report.result) report.calls := by
  have haccount : Accounted limits schema (source.listTables context schema s).1.outcome 0
      (opening source limits context schema 0 s).work
      (opening source limits context schema 0 s).calls := accounted_opening htime 0
  rw [hlist] at haccount
  have hopening : KeepsTime limits schema rows wait time 0
      (opening source limits context schema 0 s).work
      (opening source limits context schema 0 s).calls := by
    cases wait with
    | zero =>
        have hwork : (start source context schema 0 s).work = Work.listed schema (.ok (.tables rows)) := by
          simp only [start, hlist]
        simp only [opening, hwork]
        exact keepsTime_listed source context schema htime hpatience rfl _
    | succ wait =>
        have hwork : (start source context schema 0 s).work =
            .listing schema (some (wait + 1)) (.ok (.tables rows)) := by
          simp only [start, hlist, Nat.zero_add]
        simp only [opening, hwork]
        exact .listing _
  have hboth := follow_preserves
    (P := fun now work calls => Accounted limits schema (.ok (.tables rows)) now work calls ∧
      KeepsTime limits schema rows wait time now work calls)
    (fun h hdue t => ⟨accounted_advance source context htime h.1 (Nat.le_of_lt (h.1.lt_nextDue hdue)) t,
      h.2.advance htime hpatience h.1 hdue t⟩) ⟨haccount, hopening⟩ hreport
  exact hboth.2

/-- With a patience the collection of rows that are listed comes to an end, and each row was asked for. -/
theorem exists_report (hpatience : limits.patience = some (time : Int)) (hpos : 0 < time) {wait : Nat}
    {listed : σ}
    (hlist : source.listTables context schema s = (⟨some wait, .ok (.tables rows)⟩, listed)) :
    ∃ report outcomes, run source limits context schema s = some report ∧
      outcomes.map Prod.fst = rows ∧ report.result = .ok (.ofOutcomes schema outcomes) ∧
      SourceCall.tables report.calls = rows.map (·.name) := by
  have htime : limits.hasTime := by simpa [FetchLimits.hasTime, hpatience] using hpos
  have hpatient : limits.patience.isSome := by
    rw [hpatience]
    rfl
  obtain ⟨report, hrun, hresult⟩ := runFrom_of_prospects 0 hlist
    (Fetch.prospects_eq_outcomesOf fun _ _ => verdict?_isSome htime (.inl hpatient))
  have haccount := (moment_of_run htime hrun).accounted htime
  rw [hlist] at haccount
  have hrows := Fetch.map_fst_outcomesOf limits (source.length_replies context schema rows listed)
  exact ⟨report, _, hrun, hrows, hresult, haccount.asked_of_rows⟩

/-- The timetable of the requests. However uneven the delays are, and also when answers fail or never come,
the request for a row begins after as many patiences as there are rounds before it, at the latest, where each
round has as many rows as there are slots. So the collection is over one patience after its last round has
begun. -/
theorem requests_begin_in_rounds (source : MetadataSource σ) {limits : FetchLimits} {time : Nat}
    (hpatience : limits.patience = some (time : Int)) (hpos : 0 < time) (context : Context)
    (schema : CodeString) {s listed : σ} {wait : Nat} {rows : List ListedTable}
    (hlist : source.listTables context schema s = (⟨some wait, .ok (.tables rows)⟩, listed)) :
    ∃ report outcomes, run source limits context schema s = some report ∧
      outcomes.map Prod.fst = rows ∧ report.result = .ok (.ofOutcomes schema outcomes) ∧
      (SourceCall.forTables report.calls).map (·.table) = rows.map (fun row => some row.name) ∧
      (∀ (k : Nat) call, (SourceCall.forTables report.calls)[k]? = some call →
        call.time ≤ wait + k / limits.slots * time) ∧
      report.elapsed ≤ wait + (rows.length + limits.slots - 1) / limits.slots * time := by
  have htime : limits.hasTime := by simpa [FetchLimits.hasTime, hpatience] using hpos
  obtain ⟨report, outcomes, hrun, hrows, hresult, hasked⟩ := exists_report hpatience hpos hlist
  have hkeeps := keepsTime_run htime hpatience hlist hrun
  refine ⟨report, outcomes, hrun, hrows, hresult, ?_, ?_⟩
  · rw [SourceCall.map_table_forTables, hasked, List.map_map]
    rfl
  · cases hkeeps with
    | ended _ _ made punctual => exact ⟨made, punctual⟩

/-- Five rows and two slots, for answers that never come: each round begins when the patience for the round
before it has ended, and no sooner. -/
theorem requests_begin_in_rounds_of_silence :
    let rows : List ListedTable :=
      [⟨"a", none⟩, ⟨"b", some 7⟩, ⟨"a", none⟩, ⟨"c", none⟩, ⟨"d", none⟩]
    let limits : FetchLimits := ⟨2, some 5, by decide⟩
    ∃ report, run (.holding 2 rows) limits .empty "shop" [] = some report ∧
      (SourceCall.forTables report.calls).map (·.time) = [2, 2, 2 + 5, 2 + 5, 2 + 2 * 5] ∧
      report.elapsed = 2 + 3 * 5 ∧
      report.elapsed ≤ 2 + (rows.length + limits.slots - 1) / limits.slots * 5 := by
  intro rows limits
  have hpatience : limits.patience = some ((5 : Nat) : Int) := rfl
  obtain ⟨report, -, hrun, -, -, -, -, hover⟩ :=
    requests_begin_in_rounds (.holding 2 rows) hpatience (by decide) .empty "shop" (s := []) rfl
  have htimes : (run (.holding 2 rows) limits .empty "shop" []).map
      (fun report => ((SourceCall.forTables report.calls).map (·.time), report.elapsed)) =
        some ([2, 2, 2 + 5, 2 + 5, 2 + 2 * 5], 2 + 3 * 5) := by
    decide +kernel
  rw [hrun] at htimes
  obtain ⟨hcalls, helapsed⟩ := Prod.mk.inj (Option.some.inj htimes)
  exact ⟨report, hrun, hcalls, helapsed, hover⟩

end Work

end ErDiagram
