import ErDiagram.Proofs.Aggregation.Prospects

/-!
# The slots of the fetches

Going on with fetches keeps account of the slots. What is due is settled first and gives its slot back,
whatever it has come to, and then waiting fetches begin in the order of the list while slots are free. So
no more requests are under way than there are slots, none of them is overdue, and a fetch waits only while
all slots are taken. Each fetch that begins makes one request for its row.
-/

namespace ErDiagram

/-- The tables whose structures were asked for, in the order of the requests. -/
def SourceCall.tables (calls : List SourceCall) : List CodeString :=
  calls.filterMap (·.table)

theorem SourceCall.tables_append (calls more : List SourceCall) :
    tables (calls ++ more) = tables calls ++ tables more :=
  List.filterMap_append

namespace Fetch

variable {σ : Type} {source : MetadataSource σ} {limits : FetchLimits} {context : Context}
variable {schema : CodeString}

/-- The names of the fetches that have begun. -/
def begun (fetches : List Fetch) : List CodeString :=
  (fetches.filter (!·.isWaiting)).map (·.row.name)

/-- Whether fetches begin in order: behind one that waits, all of them wait. -/
def InOrder (fetches : List Fetch) : Prop :=
  fetches.Pairwise fun f g => f.isWaiting → g.isWaiting

/-- Whether a running fetch is not overdue, and ends when the patience does at the latest. -/
def IsTimely (limits : FetchLimits) (now : Nat) (f : Fetch) : Prop :=
  f.isRunning → (∀ due, f.due? = some due → now < due) ∧
    ∀ time, limits.patience = some time → ∃ due, f.due? = some due ∧ (due : Int) ≤ now + time

/-- How the slots are kept: never more than there are, none of them by a request that is over, and none of
them free while a fetch waits. -/
structure AreKept (limits : FetchLimits) (now : Nat) (fetches : List Fetch) : Prop where
  atMost : underWay fetches ≤ limits.slots
  full : underWay fetches < limits.slots → ∀ f ∈ fetches, f.isWaiting = false
  timely : ∀ f ∈ fetches, f.IsTimely limits now

/-! ### Starting fetches -/

variable (source context schema) in
theorem dispatch_begins (htime : limits.hasTime) {f : Fetch} (hf : f.stage = .waiting) {busy : Nat}
    (hb : busy < limits.slots) (now : Nat) (rest : List Fetch) (s : σ) :
    ∃ reply next,
      let started := f.answered now (limits.bounded reply)
      let round := dispatch source limits context schema now
        (if started.isRunning then busy + 1 else busy) rest next
      dispatch source limits context schema now busy (f :: rest) s =
        ⟨started :: round.fetches, round.source,
          ⟨now, schema, some f.row.name, context.requestHeaders, busy + 1⟩ :: round.calls⟩ := by
  refine ⟨(source.tableStructure context schema f.row.name s).1,
    (source.tableStructure context schema f.row.name s).2, ?_⟩
  simp only [dispatch, hf, hb, htime, if_true]

theorem isWaiting_of_stage {f : Fetch} (h : f.stage = .waiting) : f.isWaiting = true := by
  simp [isWaiting, h]

theorem isRunning_of_stage {f : Fetch} (h : f.stage = .waiting) : f.isRunning = false := by
  simp [isRunning, h]

theorem isWaiting_of_isRunning {f : Fetch} (h : f.isRunning) : f.isWaiting = false := by
  rcases waiting_or_started f with hs | hstarted
  · rw [isRunning_of_stage hs] at h
    cases h
  · exact hstarted

theorem isRunning_of_due? {f : Fetch} {due : Nat} (h : f.due? = some due) : f.isRunning := by
  cases hs : f.stage with
  | running ends outcome => simp [isRunning, hs]
  | waiting => simp [due?, hs] at h
  | settled outcome => simp [due?, hs] at h

theorem begun_cons_of_started {f : Fetch} (h : f.isWaiting = false) (rest : List Fetch) :
    begun (f :: rest) = f.row.name :: begun rest := by
  simp [begun, h]

theorem begun_of_waiting {fetches : List Fetch} (h : ∀ f ∈ fetches, f.isWaiting) :
    begun fetches = [] := by
  rw [begun, List.filter_eq_nil_iff.2, List.map_nil]
  intro f hf
  simp [h f hf]

/-- The fetches that begin do so in order, each with one request. -/
theorem begun_dispatch (htime : limits.hasTime) {fetches : List Fetch} (h : InOrder fetches)
    (now busy : Nat) (s : σ) :
    let round := dispatch source limits context schema now busy fetches s
    InOrder round.fetches ∧
      begun round.fetches = begun fetches ++ SourceCall.tables round.calls := by
  induction fetches generalizing busy s with
  | nil => exact ⟨List.Pairwise.nil, rfl⟩
  | cons f rest ih =>
      obtain ⟨hfirst, hrest⟩ := List.pairwise_cons.1 h
      rcases waiting_or_started f with hs | hw
      · -- all fetches behind a waiting one wait, so its request is the next in order
        have hwaiting : ∀ g ∈ rest, g.isWaiting := fun g hg => hfirst g hg (isWaiting_of_stage hs)
        by_cases hb : busy < limits.slots
        · obtain ⟨reply, next, heq⟩ := dispatch_begins source context schema htime hs hb now rest s
          have hstarted := isWaiting_answered f now (limits.bounded reply)
          obtain ⟨horder, hbegun⟩ := ih hrest
            (if (f.answered now (limits.bounded reply)).isRunning then busy + 1 else busy) next
          simp only [heq]
          refine ⟨List.pairwise_cons.2 ⟨fun g _ hwait => ?_, horder⟩, ?_⟩
          · simp [hstarted] at hwait
          · rw [begun_cons_of_started hstarted, hbegun, begun_of_waiting hwaiting,
              begun_of_waiting (List.forall_mem_cons.2 ⟨isWaiting_of_stage hs, hwaiting⟩),
              answered_row]
            rfl
        · simp only [dispatch_full hs hb]
          exact ⟨h, (List.append_nil _).symm⟩
      · obtain ⟨horder, hbegun⟩ := ih hrest busy s
        simp only [dispatch_started hw]
        refine ⟨List.pairwise_cons.2 ⟨fun g _ hwait => ?_, horder⟩, ?_⟩
        · simp [hw] at hwait
        · rw [begun_cons_of_started hw, hbegun, begun_cons_of_started hw, List.cons_append]

variable (source context schema) in
/-- Starting fetches takes no more slots than are free. -/
theorem underWay_dispatch_le (htime : limits.hasTime) {busy : Nat} (hbusy : busy ≤ limits.slots)
    (now : Nat) (fetches : List Fetch) (s : σ) :
    underWay (dispatch source limits context schema now busy fetches s).fetches + busy ≤
      limits.slots + underWay fetches := by
  induction fetches generalizing busy s with
  | nil => simpa [dispatch, underWay] using hbusy
  | cons f rest ih =>
      rcases waiting_or_started f with hs | hw
      · by_cases hb : busy < limits.slots
        · obtain ⟨reply, next, heq⟩ := dispatch_begins source context schema htime hs hb now rest s
          have hrun := isRunning_of_stage hs
          rw [heq]
          cases hstarted : (f.answered now (limits.bounded reply)).isRunning with
          | true =>
              have hmore : busy + 1 ≤ limits.slots := hb
              have hlater := ih hmore next
              simp only [underWay, List.countP_cons, hrun, hstarted, if_true, Bool.false_eq_true,
                if_false] at hlater ⊢
              omega
          | false =>
              have hlater := ih hbusy next
              simpa only [underWay, List.countP_cons, hrun, hstarted, Bool.false_eq_true,
                if_false, Nat.add_zero] using hlater
        · rw [dispatch_full hs hb]
          simp only
          omega
      · have hlater := ih hbusy s
        rw [dispatch_started hw]
        simp only [underWay, List.countP_cons] at hlater ⊢
        omega

/-- A request is made when a slot is free, and then takes it. -/
theorem underWay_of_mem_calls {now busy : Nat} {fetches : List Fetch} {s : σ} {call : SourceCall}
    (h : call ∈ (dispatch source limits context schema now busy fetches s).calls) :
    call.underWay ≤ limits.slots := by
  induction fetches generalizing busy s with
  | nil => cases h
  | cons f rest ih =>
      rcases waiting_or_started f with hs | hw
      · simp only [dispatch, hs] at h
        split at h
        · next hb =>
          split at h
          · rcases List.mem_cons.1 h with rfl | hlater
            · exact hb
            · exact ih hlater
          · exact ih h
        · cases h
      · rw [dispatch_started hw] at h
        exact ih h

/-! ### Times -/

theorem isTimely_of_not_running {f : Fetch} (h : f.isRunning = false) (now : Nat) :
    f.IsTimely limits now := by
  intro hrun
  simp [h] at hrun

theorem delay_bounded_le (limits : FetchLimits) (reply : Reply RawStructure) {time : Int}
    (h : limits.patience = some time) (hpos : 0 < time) :
    ∃ delay, (limits.bounded reply).delay = some delay ∧ (delay : Int) ≤ time := by
  have htime : (time.toNat : Int) = time := Int.toNat_of_nonneg (Int.le_of_lt hpos)
  rw [FetchLimits.bounded]
  simp only [h]
  cases hdelay : reply.delay with
  | none => exact ⟨time.toNat, rfl, Int.le_of_eq htime⟩
  | some delay =>
      by_cases hless : (delay : Int) < time
      · exact ⟨delay, by simp [hless, hdelay], Int.le_of_lt hless⟩
      · exact ⟨time.toNat, by simp [hless], Int.le_of_eq htime⟩

private theorem due?_answered {f : Fetch} {now : Nat} {reply : Reply RawStructure}
    (h : (f.answered now reply).isRunning) :
    (f.answered now reply).due? = reply.delay.map (now + ·) ∧
      ∀ delay, reply.delay = some delay → 0 < delay := by
  obtain ⟨delay, outcome⟩ := reply
  match delay with
  | none => exact ⟨rfl, fun _ hdelay => by cases hdelay⟩
  | some 0 => simp [answered, isRunning] at h
  | some (n + 1) =>
      refine ⟨rfl, fun delay hdelay => ?_⟩
      rw [← Option.some.inj hdelay]
      exact Nat.succ_pos n

theorem isTimely_answered (htime : limits.hasTime) (f : Fetch) (now : Nat)
    (reply : Reply RawStructure) : (f.answered now (limits.bounded reply)).IsTimely limits now := by
  intro hrun
  obtain ⟨hdue, hpos⟩ := due?_answered hrun
  rw [hdue]
  constructor
  · intro due h
    obtain ⟨delay, hdelay, rfl⟩ := Option.map_eq_some_iff.1 h
    exact Nat.lt_add_of_pos_right (hpos delay hdelay)
  · intro time hpatience
    have hlong : 0 < time := by simpa [FetchLimits.hasTime, hpatience] using htime
    obtain ⟨delay, hdelay, hle⟩ := delay_bounded_le limits reply hpatience hlong
    refine ⟨now + delay, by rw [hdelay, Option.map_some], ?_⟩
    omega

private theorem isTimely_dispatch (htime : limits.hasTime) {now : Nat} {fetches : List Fetch}
    (h : ∀ f ∈ fetches, f.IsTimely limits now) (busy : Nat) (s : σ) :
    ∀ f ∈ (dispatch source limits context schema now busy fetches s).fetches,
      f.IsTimely limits now := by
  induction fetches generalizing busy s with
  | nil => exact h
  | cons first rest ih =>
      have hrest := ih fun f hf => h f (List.mem_cons_of_mem _ hf)
      rcases waiting_or_started first with hs | hw
      · by_cases hb : busy < limits.slots
        · obtain ⟨reply, next, heq⟩ :=
            dispatch_begins source context schema htime hs hb now rest s
          rw [heq]
          exact List.forall_mem_cons.2 ⟨isTimely_answered htime first now reply, hrest _ _⟩
        · rw [dispatch_full hs hb]
          exact h
      · rw [dispatch_started hw]
        exact List.forall_mem_cons.2 ⟨h first List.mem_cons_self, hrest _ _⟩

/-! ### Settling fetches -/

theorem isWaiting_settle (now : Nat) (f : Fetch) : (f.settle now).isWaiting = f.isWaiting := by
  obtain ⟨row, stage⟩ := f
  cases stage with
  | waiting => rfl
  | settled outcome => rfl
  | running due outcome =>
      cases due with
      | none => rfl
      | some due =>
          simp only [settle]
          split <;> rfl

theorem settle_cases (now : Nat) (f : Fetch) :
    (f.settle now).isRunning = false ∨ f.settle now = f ∧ ∀ due, f.due? = some due → now < due := by
  obtain ⟨row, stage⟩ := f
  cases stage with
  | waiting => exact .inl rfl
  | settled outcome => exact .inl rfl
  | running due outcome =>
      cases due with
      | none => exact .inr ⟨rfl, fun _ hdue => by cases hdue⟩
      | some due =>
          by_cases hdue : due ≤ now
          · exact .inl (by simp [settle, hdue, isRunning])
          · refine .inr ⟨by simp [settle, hdue], fun _ h => ?_⟩
            rw [← Option.some.inj h]
            exact Nat.lt_of_not_le hdue

private theorem isTimely_settle {f : Fetch} {before now : Nat} (h : f.IsTimely limits before)
    (hle : before ≤ now) : (f.settle now).IsTimely limits now := by
  rcases settle_cases now f with hover | ⟨hsame, hlater⟩
  · exact isTimely_of_not_running hover now
  · rw [hsame]
    intro hrun
    refine ⟨hlater, fun time hpatience => ?_⟩
    obtain ⟨due, hdue, hbound⟩ := (h hrun).2 time hpatience
    exact ⟨due, hdue, by omega⟩

private theorem begun_map_settle (now : Nat) (fetches : List Fetch) :
    begun (fetches.map (settle now)) = begun fetches := by
  simp only [begun, List.filter_map, List.map_map]
  congr 1
  · funext f
    simp
  · simp [Function.comp_def, isWaiting_settle]

theorem InOrder.map_settle {fetches : List Fetch} (h : InOrder fetches) (now : Nat) :
    InOrder (fetches.map (settle now)) := by
  refine List.pairwise_map.2 (h.imp fun himp => ?_)
  simpa only [isWaiting_settle] using himp

private theorem underWay_map_settle_le (now : Nat) (fetches : List Fetch) :
    underWay (fetches.map (settle now)) ≤ underWay fetches := by
  simp only [underWay, List.countP_map]
  apply List.countP_mono_left
  intro f _ hrun
  rcases settle_cases now f with hover | ⟨hsame, -⟩
  · simp [hover] at hrun
  · rwa [Function.comp_apply, hsame] at hrun

/-! ### Going on -/

variable (source context schema) in
/-- The fetches that have begun after going on made one request each, in order. -/
theorem begun_advance (htime : limits.hasTime) {fetches : List Fetch} (h : InOrder fetches)
    (now : Nat) (s : σ) :
    let round := advance source limits context schema now fetches s
    InOrder round.fetches ∧
      begun round.fetches = begun fetches ++ SourceCall.tables round.calls := by
  rw [← begun_map_settle now fetches]
  exact begun_dispatch htime (h.map_settle now) now _ s

variable (source context schema) in
/-- Going on in time keeps the slots. -/
theorem areKept_advance (htime : limits.hasTime) {before now : Nat} {fetches : List Fetch}
    (hmost : underWay fetches ≤ limits.slots) (h : ∀ f ∈ fetches, f.IsTimely limits before)
    (hle : before ≤ now) (s : σ) :
    AreKept limits now (advance source limits context schema now fetches s).fetches := by
  have hbusy := Nat.le_trans (underWay_map_settle_le now fetches) hmost
  constructor
  · have hbound := underWay_dispatch_le source context schema htime hbusy now
      (fetches.map (settle now)) s
    simp only [advance]
    omega
  · intro hfree f hf
    cases hwait : f.isWaiting with
    | false => rfl
    | true =>
        have hfull := dispatch_fills (List.any_eq_true.2 ⟨f, hf, hwait⟩)
        simp only [advance] at hfree
        omega
  · refine isTimely_dispatch htime ?_ _ s
    intro f hf
    obtain ⟨g, hg, rfl⟩ := List.mem_map.1 hf
    exact isTimely_settle (h g hg) hle

end Fetch

end ErDiagram
