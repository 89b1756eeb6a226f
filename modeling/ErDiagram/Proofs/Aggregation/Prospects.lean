import ErDiagram.Aggregation.Work

/-!
# What the fetches of a schema come to

Each fetch has a prospect: what it will have come to, or nothing when its answer never arrives. A fetch
that was started holds its prospect, and the waiting ones have theirs from the source, which is asked in
the order of the list. Neither settling what is due nor starting what can start changes the prospects, so
they do not depend on the number of slots or on the times at which the fetches go on.

The second half counts the fetches that are not settled. While the prospects are all there, some fetch is
due whenever one is left, and going on at that time settles it.
-/

namespace ErDiagram

def Reply.arrival {α : Type} (reply : Reply α) : Option (Except Fault α) :=
  reply.delay.map fun _ => reply.outcome

namespace MetadataSource

variable {σ : Type}

/-- The answers to the structure requests for rows, made one after the other from a state on. -/
def replies (source : MetadataSource σ) (context : Context) (schema : CodeString) :
    List ListedTable → σ → List (Reply RawStructure)
  | [], _ => []
  | row :: rest, s =>
    let (reply, next) := source.tableStructure context schema row.name s
    reply :: source.replies context schema rest next

@[simp] theorem length_replies (source : MetadataSource σ) (context : Context) (schema : CodeString)
    (rows : List ListedTable) (s : σ) :
    (source.replies context schema rows s).length = rows.length := by
  induction rows generalizing s with
  | nil => rfl
  | cons row rest ih => simp [replies, ih]

end MetadataSource

namespace Fetch

variable {σ : Type} {source : MetadataSource σ} {limits : FetchLimits} {context : Context}
variable {schema : CodeString}

/-- What asking for the structure of a row leads to. Without time for an answer nothing is asked. -/
def ask (source : MetadataSource σ) (limits : FetchLimits) (context : Context) (schema : CodeString)
    (row : ListedTable) (s : σ) : Reply RawStructure × σ :=
  if limits.hasTime then
    let (reply, next) := source.tableStructure context schema row.name s
    (limits.bounded reply, next)
  else (.immediate (.error .timedOut), s)

/-- What the fetches will have come to, the waiting ones asked for from a state of the source on. -/
def prospects (source : MetadataSource σ) (limits : FetchLimits) (context : Context)
    (schema : CodeString) :
    List Fetch → σ → List (ListedTable × Option (Except Fault RawStructure))
  | [], _ => []
  | f :: rest, s =>
    match f.stage with
    | .waiting =>
      let (reply, next) := ask source limits context schema f.row s
      (f.row, reply.arrival) :: prospects source limits context schema rest next
    | .running due outcome =>
      (f.row, due.map fun _ => outcome) :: prospects source limits context schema rest s
    | .settled outcome => (f.row, some outcome) :: prospects source limits context schema rest s

def unsettled (fetches : List Fetch) : Nat :=
  fetches.countP (!·.isSettled)

def isWaiting (f : Fetch) : Bool :=
  match f.stage with
  | .waiting => true
  | _ => false

private theorem prospects_answered (f : Fetch) (now : Nat) (reply : Reply RawStructure)
    (rest : List Fetch) (s : σ) :
    prospects source limits context schema (f.answered now reply :: rest) s =
      (f.row, reply.arrival) :: prospects source limits context schema rest s := by
  obtain ⟨delay, outcome⟩ := reply
  match delay with
  | none => rfl
  | some 0 => rfl
  | some (n + 1) => rfl

theorem isWaiting_answered (f : Fetch) (now : Nat) (reply : Reply RawStructure) :
    (f.answered now reply).isWaiting = false := by
  rw [answered]
  split <;> rfl

theorem waiting_or_started (f : Fetch) : f.stage = .waiting ∨ f.isWaiting = false := by
  cases hs : f.stage with
  | waiting => exact .inl rfl
  | running due outcome => exact .inr (by simp [isWaiting, hs])
  | settled outcome => exact .inr (by simp [isWaiting, hs])

variable (source limits context schema) in
private theorem prospects_started {f : Fetch} (hf : f.isWaiting = false) :
    ∃ prospect, ∀ rest (s : σ), prospects source limits context schema (f :: rest) s =
      (f.row, prospect) :: prospects source limits context schema rest s := by
  cases hs : f.stage with
  | waiting => simp [isWaiting, hs] at hf
  | running due outcome => exact ⟨due.map fun _ => outcome, fun _ _ => by simp [prospects, hs]⟩
  | settled outcome => exact ⟨some outcome, fun _ _ => by simp [prospects, hs]⟩

variable (source limits context schema) in
/-- Starting a waiting fetch is asking for its row, whether there is time for an answer or not. -/
theorem dispatch_waiting {f : Fetch} (hf : f.stage = .waiting) {busy : Nat}
    (hb : busy < limits.slots) (now : Nat) (rest : List Fetch) (s : σ) :
    let asked := ask source limits context schema f.row s
    let started := f.answered now asked.1
    let stillBusy := if started.isRunning then busy + 1 else busy
    let round := dispatch source limits context schema now stillBusy rest asked.2
    (dispatch source limits context schema now busy (f :: rest) s).fetches =
        started :: round.fetches ∧
      (dispatch source limits context schema now busy (f :: rest) s).source = round.source := by
  by_cases ht : limits.hasTime
  · simp [dispatch, hf, hb, ht, ask]
  · simp [dispatch, hf, hb, ht, ask, answered, Reply.immediate, isRunning]

theorem dispatch_full {f : Fetch} (hf : f.stage = .waiting) {busy : Nat}
    (hb : ¬ busy < limits.slots) (now : Nat) (rest : List Fetch) (s : σ) :
    dispatch source limits context schema now busy (f :: rest) s = ⟨f :: rest, s, []⟩ := by
  simp [dispatch, hf, hb]

theorem dispatch_started {f : Fetch} (hf : f.isWaiting = false) (now busy : Nat)
    (rest : List Fetch) (s : σ) :
    let round := dispatch source limits context schema now busy rest s
    dispatch source limits context schema now busy (f :: rest) s =
      ⟨f :: round.fetches, round.source, round.calls⟩ := by
  cases hs : f.stage with
  | waiting => simp [isWaiting, hs] at hf
  | running due outcome => simp [dispatch, hs]
  | settled outcome => simp [dispatch, hs]

private theorem prospects_dispatch (now busy : Nat) (fetches : List Fetch) (s : σ) :
    let round := dispatch source limits context schema now busy fetches s
    prospects source limits context schema round.fetches round.source =
      prospects source limits context schema fetches s := by
  induction fetches generalizing busy s with
  | nil => rfl
  | cons f rest ih =>
      rcases waiting_or_started f with hs | hw
      · by_cases hb : busy < limits.slots
        · obtain ⟨hfetches, hsource⟩ := dispatch_waiting source limits context schema hs hb now rest s
          simp only [hfetches, hsource, prospects_answered, ih, prospects, hs]
        · simp only [dispatch_full hs hb]
      · obtain ⟨prospect, hprospect⟩ := prospects_started source limits context schema hw
        simp only [dispatch_started hw, hprospect, ih]

/-- Settling what is due leaves every prospect as it is. -/
theorem prospects_map_settle (now : Nat) (fetches : List Fetch) (s : σ) :
    prospects source limits context schema (fetches.map (settle now)) s =
      prospects source limits context schema fetches s := by
  induction fetches generalizing s with
  | nil => rfl
  | cons f rest ih =>
      obtain ⟨row, stage⟩ := f
      cases stage with
      | waiting => simp only [List.map_cons, settle, prospects, ih]
      | settled outcome => simp only [List.map_cons, settle, prospects, ih]
      | running due outcome =>
          cases due with
          | none => simp only [List.map_cons, settle, prospects, ih]
          | some due =>
              by_cases hd : due ≤ now
              · simp only [List.map_cons, settle, hd, if_true, prospects, ih, Option.map_some]
              · simp only [List.map_cons, settle, hd, if_false, prospects, ih]

variable (source limits context schema) in
theorem prospects_advance (now : Nat) (fetches : List Fetch) (s : σ) :
    let round := advance source limits context schema now fetches s
    prospects source limits context schema round.fetches round.source =
      prospects source limits context schema fetches s := by
  simp only [advance, prospects_dispatch, prospects_map_settle]

/-- Once all fetches are settled, they have come to their prospects. -/
theorem prospects_of_outcomes? {fetches : List Fetch}
    {outcomes : List (ListedTable × Except Fault RawStructure)}
    (h : outcomes? fetches = some outcomes) (s : σ) :
    prospects source limits context schema fetches s =
      outcomes.map fun o => (o.1, some o.2) := by
  induction fetches generalizing outcomes s with
  | nil =>
      simp only [outcomes?, List.mapM_nil] at h
      obtain rfl := Option.some.inj h
      rfl
  | cons f rest ih =>
      simp only [outcomes?, List.mapM_cons, Option.bind_eq_bind, Option.bind_eq_some_iff] at h
      obtain ⟨first, hfirst, others, hothers, hpure⟩ := h
      obtain rfl := Option.some.inj hpure
      cases hs : f.stage with
      | waiting => simp [outcome?, hs] at hfirst
      | running due outcome => simp [outcome?, hs] at hfirst
      | settled outcome =>
          simp only [outcome?, hs, Option.some.injEq] at hfirst
          subst first
          simp only [prospects, hs, List.map_cons, ih hothers]

/-- The fetches have all come to something exactly when none is left unsettled. -/
theorem outcomes?_isSome_iff {fetches : List Fetch} :
    (outcomes? fetches).isSome ↔ unsettled fetches = 0 := by
  induction fetches with
  | nil => simp [outcomes?, unsettled]
  | cons f rest ih =>
      simp only [outcomes?, unsettled] at ih
      cases hs : f.stage with
      | waiting => simp [outcomes?, List.mapM_cons, unsettled, outcome?, isSettled, hs]
      | running due outcome => simp [outcomes?, List.mapM_cons, unsettled, outcome?, isSettled, hs]
      | settled outcome =>
          cases hrest : rest.mapM outcome? with
          | none => simpa [outcomes?, List.mapM_cons, unsettled, outcome?, isSettled, hs, hrest] using ih
          | some others =>
              simpa [outcomes?, List.mapM_cons, unsettled, outcome?, isSettled, hs, hrest] using ih

private theorem unsettled_cons_le (f : Fetch) (rest : List Fetch) :
    unsettled (f :: rest) ≤ unsettled rest + 1 := by
  simp only [unsettled, List.countP_cons]
  split <;> omega

private theorem unsettled_cons_of_waiting {f : Fetch} (hs : f.stage = .waiting) (rest : List Fetch) :
    unsettled (f :: rest) = unsettled rest + 1 := by
  have hf : f.isSettled = false := by simp [isSettled, hs]
  simp [unsettled, hf]

/-- A fetch that is started is no further from being settled. -/
theorem unsettled_dispatch_le (now busy : Nat) (fetches : List Fetch) (s : σ) :
    unsettled (dispatch source limits context schema now busy fetches s).fetches ≤
      unsettled fetches := by
  induction fetches generalizing busy s with
  | nil => exact Nat.le_refl _
  | cons f rest ih =>
      rcases waiting_or_started f with hs | hw
      · by_cases hb : busy < limits.slots
        · obtain ⟨hfetches, -⟩ := dispatch_waiting source limits context schema hs hb now rest s
          rw [hfetches]
          rw [unsettled_cons_of_waiting hs]
          exact Nat.le_trans (unsettled_cons_le _ _) (Nat.add_le_add_right (ih ..) 1)
        · exact Nat.le_of_eq (by rw [dispatch_full hs hb])
      · rw [dispatch_started hw]
        simp only [unsettled, List.countP_cons]
        exact Nat.add_le_add_right (ih busy s) _

private theorem isSettled_settle (now : Nat) {f : Fetch} (h : f.isSettled) : (f.settle now).isSettled := by
  cases hs : f.stage with
  | settled outcome => simp [settle, hs, isSettled]
  | waiting => simp [isSettled, hs] at h
  | running due outcome => simp [isSettled, hs] at h

theorem unsettled_map_settle_le (now : Nat) (fetches : List Fetch) :
    unsettled (fetches.map (settle now)) ≤ unsettled fetches := by
  simp only [unsettled, List.countP_map]
  apply List.countP_mono_left
  intro f _ hf
  cases hs : f.isSettled with
  | false => rfl
  | true =>
      have hsettled := isSettled_settle now hs
      simp [hsettled] at hf

/-- At the time at which the first running fetch ends, one more is settled. -/
theorem unsettled_map_settle_lt {fetches : List Fetch} {due : Nat}
    (h : nextDue? fetches = some due) :
    unsettled (fetches.map (settle due)) < unsettled fetches := by
  have hmem : due ∈ fetches.filterMap due? := List.min?_mem h
  obtain ⟨f, hf, hdue⟩ := List.mem_filterMap.1 hmem
  obtain ⟨before, after, rfl⟩ := List.append_of_mem hf
  have hsettles : (f.settle due).isSettled = true ∧ f.isSettled = false := by
    cases hs : f.stage with
    | waiting => simp [due?, hs] at hdue
    | settled outcome => simp [due?, hs] at hdue
    | running ends outcome =>
        simp only [due?, hs] at hdue
        subst hdue
        simp [settle, hs, isSettled]
  have hbefore := unsettled_map_settle_le due before
  have hafter := unsettled_map_settle_le due after
  simp only [unsettled] at hbefore hafter
  simp only [unsettled, List.map_append, List.map_cons, List.countP_append, List.countP_cons,
    hsettles.1, hsettles.2, Bool.not_true, Bool.not_false, if_true, Bool.false_eq_true, if_false]
  omega

variable (source limits context schema) in
/-- Going on at the time at which the first running fetch ends settles one more. -/
theorem unsettled_advance_lt {fetches : List Fetch} {due : Nat} (h : nextDue? fetches = some due)
    (s : σ) :
    unsettled (advance source limits context schema due fetches s).fetches < unsettled fetches :=
  Nat.lt_of_le_of_lt (unsettled_dispatch_le ..) (unsettled_map_settle_lt h)

theorem unsettled_advance_le (now : Nat) (fetches : List Fetch) (s : σ) :
    unsettled (advance source limits context schema now fetches s).fetches ≤ unsettled fetches :=
  Nat.le_trans (unsettled_dispatch_le ..) (unsettled_map_settle_le now fetches)

/-- When a fetch still waits after starting what can start, then all slots are taken. -/
theorem dispatch_fills {now busy : Nat} {fetches : List Fetch} {s : σ}
    (h : (dispatch source limits context schema now busy fetches s).fetches.any isWaiting) :
    limits.slots + underWay fetches ≤
      busy + underWay (dispatch source limits context schema now busy fetches s).fetches := by
  induction fetches generalizing busy s with
  | nil => simp [dispatch] at h
  | cons f rest ih =>
      rcases waiting_or_started f with hs | hw
      · by_cases hb : busy < limits.slots
        · obtain ⟨hfetches, -⟩ := dispatch_waiting source limits context schema hs hb now rest s
          rw [hfetches] at h ⊢
          rw [List.any_cons, isWaiting_answered, Bool.false_or] at h
          have hrest := ih h
          have hrun : f.isRunning = false := by simp [isRunning, hs]
          simp only [underWay, List.countP_cons, hrun, Bool.false_eq_true, if_false] at hrest ⊢
          split at hrest
          · rename_i hstarted
            simp only [hstarted, if_true]
            omega
          · rename_i hstarted
            simp only [hstarted, Bool.false_eq_true, if_false]
            omega
        · rw [dispatch_full hs hb]
          simp only
          omega
      · rw [dispatch_started hw] at h ⊢
        rw [List.any_cons, hw, Bool.false_or] at h
        have hrest := ih h
        simp only [underWay, List.countP_cons] at hrest ⊢
        omega

/-- A running fetch whose answer arrives is due. -/
theorem nextDue?_isSome {fetches : List Fetch} {s : σ}
    (hprospects : ∀ p ∈ prospects source limits context schema fetches s, p.2.isSome)
    (hrun : 0 < underWay fetches) : (nextDue? fetches).isSome := by
  induction fetches generalizing s with
  | nil => simp [underWay] at hrun
  | cons f rest ih =>
      cases hs : f.stage with
      | running due outcome =>
          have hdue := hprospects (f.row, due.map fun _ => outcome) (by simp [prospects, hs])
          obtain ⟨time, rfl⟩ : ∃ time, due = some time := by
            cases due with
            | none => simp at hdue
            | some time => exact ⟨time, rfl⟩
          have hf : f.due? = some time := by simp [due?, hs]
          simp [nextDue?, hf]
      | waiting =>
          have hrest : 0 < underWay rest := by simpa [underWay, isRunning, hs] using hrun
          have hf : f.due? = none := by simp [due?, hs]
          have hlater := ih (s := (ask source limits context schema f.row s).2)
            (fun p hp => hprospects p (by simp [prospects, hs, hp])) hrest
          simpa [nextDue?, hf] using hlater
      | settled outcome =>
          have hrest : 0 < underWay rest := by simpa [underWay, isRunning, hs] using hrun
          have hf : f.due? = none := by simp [due?, hs]
          have hlater := ih (s := s)
            (fun p hp => hprospects p (by simp [prospects, hs, hp])) hrest
          simpa [nextDue?, hf] using hlater

/-- After going on, some fetch is due whenever one is left that is not settled. -/
theorem nextDue?_advance {now : Nat} {fetches : List Fetch} {s : σ}
    (hprospects : ∀ p ∈ prospects source limits context schema fetches s, p.2.isSome)
    (hleft : 0 < unsettled (advance source limits context schema now fetches s).fetches) :
    (nextDue? (advance source limits context schema now fetches s).fetches).isSome := by
  have hsame := prospects_advance source limits context schema now fetches s
  apply nextDue?_isSome
    (s := (advance source limits context schema now fetches s).source)
  · rwa [hsame]
  · by_cases hwait : (advance source limits context schema now fetches s).fetches.any isWaiting
    · have hfull := dispatch_fills hwait
      have hslots := limits.slots_pos
      simp only [advance]
      omega
    · obtain ⟨f, hf, hopen⟩ := List.countP_pos_iff.1 hleft
      apply List.countP_pos_iff.2
      refine ⟨f, hf, ?_⟩
      have hstarted : f.isWaiting = false := by
        simpa using List.any_eq_false.1 (by simpa using hwait) f hf
      cases hs : f.stage with
      | waiting => simp [isWaiting, hs] at hstarted
      | running due outcome => simp [isRunning, hs]
      | settled outcome => simp [isSettled, hs] at hopen

end Fetch

end ErDiagram
