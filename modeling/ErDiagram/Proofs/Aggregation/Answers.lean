import ErDiagram.Proofs.Aggregation.Prospects

/-!
# Results and the answers they are made of

A result is an answer of the source for a schema when it is made of what the source answers: to the request
for the list and, for each row, to the request for its structure. The work of a schema stays true to such
answers while the context does not change, whatever state the source is in and whenever the work goes on.
So what it comes to is an answer of the source.
-/

namespace ErDiagram

variable {σ : Type}

/-- What a source answers for a schema in a context, in some of its states. -/
inductive MetadataSource.Answers (source : MetadataSource σ) (limits : FetchLimits)
    (context : Context) (schema : CodeString) : Except Fault Collected → Prop where
  | refused (s : σ) (fault : Fault)
      (h : (source.listTables context schema s).1.outcome = .error fault) :
      Answers source limits context schema (.error (.listing schema fault))
  | unlisted (s : σ) {list : Listing} {fault : Fault}
      (h : (source.listTables context schema s).1.outcome = .ok list)
      (rows : list.rows = .error fault) :
      Answers source limits context schema (.error fault)
  | collected (s : σ) {list : Listing} (outcomes : List (ListedTable × Except Fault RawStructure))
      (h : (source.listTables context schema s).1.outcome = .ok list)
      (rows : list.rows = .ok (outcomes.map Prod.fst))
      (given : ∀ o ∈ outcomes, ∃ s, (Fetch.ask source limits context schema o.1 s).1.outcome = o.2) :
      Answers source limits context schema (.ok (.ofOutcomes schema outcomes))

/-- Whether the answers of a source do not depend on its state. -/
def MetadataSource.Steady (source : MetadataSource σ) : Prop :=
  ∀ context schema (s t : σ),
    (source.listTables context schema s).1 = (source.listTables context schema t).1 ∧
      ∀ table, (source.tableStructure context schema table s).1 =
        (source.tableStructure context schema table t).1

/-- A source that lists the same rows for every schema and has no more to tell of them, at once. -/
def MetadataSource.prompt (rows : List ListedTable) : MetadataSource Unit where
  listTables _ _ _ := (.immediate (.ok (.tables rows)), ())
  tableStructure _ _ _ _ := (.immediate (.ok default), ())
  close := id

namespace Fetch

variable {source : MetadataSource σ} {limits : FetchLimits} {context : Context} {schema : CodeString}

private theorem ask_of_steady (h : source.Steady) (row : ListedTable) (s t : σ) :
    (ask source limits context schema row s).1 = (ask source limits context schema row t).1 := by
  unfold ask
  split
  · exact congrArg limits.bounded ((h context schema s t).2 row.name)
  · rfl

/-- Whether what a fetch will have come to is an answer of the source. -/
def IsTrue (source : MetadataSource σ) (limits : FetchLimits) (context : Context) (schema : CodeString)
    (f : Fetch) : Prop :=
  match f.stage with
  | .waiting => True
  | .running _ outcome => ∃ s, (ask source limits context schema f.row s).1.outcome = outcome
  | .settled outcome => ∃ s, (ask source limits context schema f.row s).1.outcome = outcome

private theorem isTrue_settle {f : Fetch} (h : f.IsTrue source limits context schema) (now : Nat) :
    (f.settle now).IsTrue source limits context schema := by
  obtain ⟨row, stage⟩ := f
  cases stage with
  | waiting => exact h
  | settled outcome => exact h
  | running due outcome =>
      cases due with
      | none => exact h
      | some due =>
          simp only [settle]
          split
          · exact h
          · exact h

private theorem isTrue_answered (f : Fetch) (now : Nat) (s : σ) :
    (f.answered now (ask source limits context schema f.row s).1).IsTrue
      source limits context schema := by
  have hgiven : ∃ t, (ask source limits context schema f.row t).1.outcome =
      (ask source limits context schema f.row s).1.outcome := ⟨s, rfl⟩
  revert hgiven
  generalize (ask source limits context schema f.row s).1 = reply
  obtain ⟨delay, outcome⟩ := reply
  intro hgiven
  match delay with
  | none => exact hgiven
  | some 0 => exact hgiven
  | some (n + 1) => exact hgiven

private theorem isTrue_dispatch {fetches : List Fetch}
    (h : ∀ f ∈ fetches, f.IsTrue source limits context schema) (now busy : Nat) (s : σ) :
    ∀ f ∈ (dispatch source limits context schema now busy fetches s).fetches,
      f.IsTrue source limits context schema := by
  induction fetches generalizing busy s with
  | nil => exact h
  | cons first rest ih =>
      have hrest := fun busy s => ih (fun f hf => h f (List.mem_cons_of_mem _ hf)) busy s
      rcases waiting_or_started first with hs | hw
      · by_cases hb : busy < limits.slots
        · obtain ⟨hfetches, -⟩ := dispatch_waiting source limits context schema hs hb now rest s
          rw [hfetches]
          exact List.forall_mem_cons.2 ⟨isTrue_answered first now s, hrest _ _⟩
        · rw [dispatch_full hs hb]
          exact h
      · rw [dispatch_started hw]
        exact List.forall_mem_cons.2 ⟨h first List.mem_cons_self, hrest _ _⟩

theorem isTrue_advance {fetches : List Fetch}
    (h : ∀ f ∈ fetches, f.IsTrue source limits context schema) (now : Nat) (s : σ) :
    ∀ f ∈ (advance source limits context schema now fetches s).fetches,
      f.IsTrue source limits context schema := by
  refine isTrue_dispatch ?_ now _ s
  intro f hf
  obtain ⟨g, hg, rfl⟩ := List.mem_map.1 hf
  exact isTrue_settle (h g hg) now

variable (source limits context schema) in
theorem advance_rows (now : Nat) (fetches : List Fetch) (s : σ) :
    (advance source limits context schema now fetches s).fetches.map (·.row) =
      fetches.map (·.row) := by
  rw [advance]
  rw [dispatch_rows, List.map_map]
  exact List.map_congr_left fun f _ => settle_row now f

/-- What settled fetches have come to belongs to their rows and is what the source answers. -/
theorem outcomes_of_isTrue {fetches : List Fetch}
    (h : ∀ f ∈ fetches, f.IsTrue source limits context schema)
    {outcomes : List (ListedTable × Except Fault RawStructure)}
    (houtcomes : outcomes? fetches = some outcomes) :
    outcomes.map Prod.fst = fetches.map (·.row) ∧
      ∀ o ∈ outcomes, ∃ s, (ask source limits context schema o.1 s).1.outcome = o.2 := by
  induction fetches generalizing outcomes with
  | nil =>
      simp only [outcomes?, List.mapM_nil] at houtcomes
      obtain rfl := Option.some.inj houtcomes
      refine ⟨rfl, ?_⟩
      intro o ho
      cases ho
  | cons f rest ih =>
      simp only [outcomes?, List.mapM_cons, Option.bind_eq_bind, Option.bind_eq_some_iff]
        at houtcomes
      obtain ⟨first, hfirst, others, hothers, hpure⟩ := houtcomes
      obtain rfl := Option.some.inj hpure
      obtain ⟨hrows, hgiven⟩ := ih (fun g hg => h g (List.mem_cons_of_mem f hg)) hothers
      have hf := h f List.mem_cons_self
      cases hs : f.stage with
      | waiting => simp [outcome?, hs] at hfirst
      | running due outcome => simp [outcome?, hs] at hfirst
      | settled outcome =>
          simp only [outcome?, hs, Option.some.injEq] at hfirst
          subst first
          simp only [IsTrue, hs] at hf
          exact ⟨by rw [List.map_cons, List.map_cons, hrows],
            List.forall_mem_cons.2 ⟨hf, hgiven⟩⟩

end Fetch

namespace Work

variable {source : MetadataSource σ} {limits : FetchLimits} {context : Context} {schema : CodeString}

/-- Whether the work of a schema is true to the answers of a source. -/
inductive IsTrue (source : MetadataSource σ) (limits : FetchLimits) (context : Context)
    (schema : CodeString) : Work → Prop where
  | listing (due : Option Nat) (s : σ) :
      IsTrue source limits context schema
        (.listing schema due (source.listTables context schema s).1.outcome)
  | fetching (s : σ) {list : Listing} (fetches : List Fetch)
      (listed : (source.listTables context schema s).1.outcome = .ok list)
      (rows : list.rows = .ok (fetches.map (·.row)))
      (fetched : ∀ f ∈ fetches, f.IsTrue source limits context schema) :
      IsTrue source limits context schema (.fetching schema fetches)
  | ended (result : Except Fault Collected)
      (answers : source.Answers limits context schema result) :
      IsTrue source limits context schema (.ended result)

variable (source limits context schema) in
/-- What follows the answer to the list request is true to it. -/
theorem isTrue_listed (s : σ) :
    (listed schema (source.listTables context schema s).1.outcome).IsTrue
      source limits context schema := by
  cases houtcome : (source.listTables context schema s).1.outcome with
  | error fault => exact .ended _ (.refused s fault houtcome)
  | ok list =>
      rw [Work.listed]
      cases hrows : list.rows with
      | error fault => exact .ended _ (.unlisted s houtcome hrows)
      | ok rows =>
          cases rows with
          | nil =>
              refine .ended _ (.collected s [] houtcome hrows ?_)
              intro o ho
              cases ho
          | cons row rest =>
              refine .fetching s _ houtcome ?_ ?_
              · rw [List.map_map, hrows]
                exact congrArg Except.ok (List.map_id' _).symm
              · intro f hf
                obtain ⟨row, -, rfl⟩ := List.mem_map.1 hf
                trivial

theorem isTrue_start (now : Nat) (s : σ) :
    (start source context schema now s).work.IsTrue source limits context schema := by
  rw [start]
  simp only
  split
  · exact isTrue_listed source limits context schema s
  · exact .listing _ s
  · exact .listing _ s

theorem isTrue_fetch {fetches : List Fetch} {s : σ} {list : Listing}
    (hlisted : (source.listTables context schema s).1.outcome = .ok list)
    (hlist : list.rows = .ok (fetches.map (·.row)))
    (hfetched : ∀ f ∈ fetches, f.IsTrue source limits context schema) (now : Nat) (t : σ) :
    (fetch source limits context now schema fetches t).work.IsTrue source limits context schema := by
  have hrows := Fetch.advance_rows source limits context schema now fetches t
  have hgone := Fetch.isTrue_advance hfetched now t
  rw [← hrows] at hlist
  rw [fetch, ofFetches]
  simp only
  cases houtcomes : Fetch.outcomes?
      (Fetch.advance source limits context schema now fetches t).fetches with
  | none => exact .fetching s _ hlisted hlist hgone
  | some outcomes =>
      obtain ⟨hfirst, hgiven⟩ := Fetch.outcomes_of_isTrue hgone houtcomes
      rw [← hfirst] at hlist
      exact .ended _ (.collected s outcomes hlisted hlist hgiven)

/-- Work that goes on in the same context stays true to the answers. -/
theorem isTrue_advance {work : Work} (h : work.IsTrue source limits context schema) (now : Nat)
    (s : σ) : (advance source limits context now work s).work.IsTrue source limits context schema := by
  cases h with
  | ended result answers => exact .ended result answers
  | fetching t fetches listed rows fetched => exact isTrue_fetch listed rows fetched now s
  | listing due t =>
      cases due with
      | none => exact .listing none t
      | some due =>
          simp only [advance]
          split
          · have hlisted := isTrue_listed source limits context schema t
            generalize listed schema (source.listTables context schema t).1.outcome = next at hlisted
            cases hlisted with
            | listing due u => exact .listing due u
            | fetching u fetches listed rows fetched => exact isTrue_fetch listed rows fetched now s
            | ended result answers => exact .ended result answers
          · exact .listing (some due) t

theorem answers_of_isTrue {work : Work} (h : work.IsTrue source limits context schema)
    {result : Except Fault Collected} (hresult : work.result? = some result) :
    source.Answers limits context schema result := by
  cases h with
  | listing due s => cases hresult
  | fetching s fetches listed rows fetched => cases hresult
  | ended result answers =>
      obtain rfl := Option.some.inj hresult
      exact answers

end Work

/-- What a steady source answers to some rows is known from the rows. -/
theorem Fetch.outcomes_unique {source : MetadataSource σ} {limits : FetchLimits}
    {context : Context} {schema : CodeString} (hsteady : source.Steady)
    {outcomes others : List (ListedTable × Except Fault RawStructure)}
    (hrows : outcomes.map Prod.fst = others.map Prod.fst)
    (h : ∀ o ∈ outcomes, ∃ s, (ask source limits context schema o.1 s).1.outcome = o.2)
    (h' : ∀ o ∈ others, ∃ s, (ask source limits context schema o.1 s).1.outcome = o.2) :
    outcomes = others := by
  induction outcomes generalizing others with
  | nil => exact (List.map_eq_nil_iff.1 hrows.symm).symm
  | cons o rest ih =>
      cases others with
      | nil => cases hrows
      | cons o' rest' =>
          obtain ⟨hrow, hrest⟩ := List.cons.inj hrows
          obtain ⟨ho, hgiven⟩ := List.forall_mem_cons.1 h
          obtain ⟨ho', hgiven'⟩ := List.forall_mem_cons.1 h'
          obtain ⟨s, hs⟩ := ho
          obtain ⟨t, ht⟩ := ho'
          have hsame : o = o' := by
            refine Prod.ext hrow ?_
            rw [← hs, ← ht, ask_of_steady hsteady o.1 s t, hrow]
          rw [hsame, ih hrest hgiven hgiven']

/-- A steady source has one answer for a schema. -/
theorem MetadataSource.Answers.unique {source : MetadataSource σ} {limits : FetchLimits}
    {context : Context} {schema : CodeString} {result result' : Except Fault Collected}
    (hsteady : source.Steady) (h : source.Answers limits context schema result)
    (h' : source.Answers limits context schema result') : result = result' := by
  have hlists : ∀ s t, (source.listTables context schema s).1.outcome =
      (source.listTables context schema t).1.outcome :=
    fun s t => congrArg Reply.outcome (hsteady context schema s t).1
  cases h with
  | refused s fault h =>
      cases h' with
      | refused t fault' h' =>
          cases h.symm.trans ((hlists s t).trans h')
          rfl
      | unlisted t h' rows' => cases h.symm.trans ((hlists s t).trans h')
      | collected t outcomes h' rows' given' => cases h.symm.trans ((hlists s t).trans h')
  | unlisted s h rows =>
      cases h' with
      | refused t fault h' => cases h.symm.trans ((hlists s t).trans h')
      | unlisted t h' rows' =>
          cases h.symm.trans ((hlists s t).trans h')
          cases rows.symm.trans rows'
          rfl
      | collected t outcomes h' rows' given' =>
          cases h.symm.trans ((hlists s t).trans h')
          cases rows.symm.trans rows'
  | collected s outcomes h rows given =>
      cases h' with
      | refused t fault h' => cases h.symm.trans ((hlists s t).trans h')
      | unlisted t h' rows' =>
          cases h.symm.trans ((hlists s t).trans h')
          cases rows.symm.trans rows'
      | collected t others h' rows' given' =>
          cases h.symm.trans ((hlists s t).trans h')
          have hrows : outcomes.map Prod.fst = others.map Prod.fst :=
            Except.ok.inj (rows.symm.trans rows')
          rw [Fetch.outcomes_unique hsteady hrows given given']

end ErDiagram
