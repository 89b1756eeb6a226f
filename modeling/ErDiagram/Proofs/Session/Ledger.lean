import ErDiagram.Proofs.Session.Frame
import ErDiagram.Proofs.Session.Turn

/-!
# The ledger of a run

Over a run the tickets and the generations add up. A ticket that was issued waits or its rebuild has begun;
the rebuilds that have begun are numbered by their generations, in the order in which they began; and each
of them has either ended or is under way. The ledger says so of the moments of a run and the session that
they lead to, and every event keeps it.
-/

namespace ErDiagram

variable {σ : Type}

@[simp] theorem begun_append (moments : List (Moment σ)) (m : Moment σ) :
    begun (moments ++ [m]) = begun moments ++ m.begun?.toList := by
  unfold begun
  rw [List.filterMap_append]
  cases h : m.begun? <;> simp [List.filterMap, h]

@[simp] theorem closings_append (source : MetadataSource σ) (moments : List (Moment σ))
    (m : Moment σ) :
    closings source (moments ++ [m]) = closings source moments ++ (m.closing? source).toList := by
  unfold closings
  rw [List.filterMap_append]
  cases h : m.closing? source <;> simp [List.filterMap, h]

/-- A list in which only one pair has a given first part is that pair and the others. -/
theorem perm_cons_filter_fst {α β : Type} [DecidableEq α] {pairs : List (α × β)} {p : α × β}
    (hunique : (pairs.map Prod.fst).Nodup) (h : p ∈ pairs) :
    pairs.Perm (p :: pairs.filter (·.1 ≠ p.1)) := by
  induction pairs with
  | nil => cases h
  | cons first rest ih =>
      rw [List.map_cons, List.nodup_cons] at hunique
      obtain ⟨hfirst, hrest⟩ := hunique
      rcases List.mem_cons.1 h with rfl | hmem
      · have hkept : rest.filter (·.1 ≠ p.1) = rest := by
          rw [List.filter_eq_self]
          intro q hq
          simp only [ne_eq, decide_not, Bool.not_eq_true', decide_eq_false_iff_not]
          exact fun heq => hfirst (List.mem_map.2 ⟨q, hq, heq⟩)
        rw [List.filter_cons_of_neg (by simp), hkept]
      · have hne : first.1 ≠ p.1 := fun heq => hfirst (List.mem_map.2 ⟨p, hmem, heq.symm⟩)
        rw [List.filter_cons_of_pos (by simpa using hne)]
        exact ((ih hrest hmem).cons first).trans (.swap p first _)

namespace Turn

variable {s t : Session σ} {ticket : Option Nat} {layout : Option LayoutKind}
  {closing : Option (Closing σ)}

private theorem generation_eq (h : Turn s ticket layout closing t) :
    t.view.generation = s.view.generation + ticket.toList.length := by
  cases h with
  | still view flights finished => rw [view]; rfl
  | selected kind diagram view placed flights finished => rw [view]; rfl
  | began ticket view flights finished => rw [view]; rfl
  | returned c view generation flights finished =>
      rw [c.after_generation]
      rcases view with view | ⟨-, view⟩ <;> rw [view] <;> rfl
  | ended c view listeners notices flight flights finished =>
      rw [c.after_generation, view]
      rfl

/-- A rebuild that ends does so at the generation of the session afterwards. -/
theorem closing_generation_eq (h : Turn s ticket layout closing t) {c : Closing σ} (hc : c ∈ closing) :
    c.session.view.generation = t.view.generation := by
  cases h with
  | still view flights finished => cases hc
  | selected kind diagram view placed flights finished => cases hc
  | began ticket view flights finished => cases hc
  | returned d view generation flights finished =>
      cases hc
      exact c.after_generation.symm
  | ended d view listeners notices flight flights finished =>
      cases hc
      exact c.after_generation.symm

/-- The rebuilds under way or at an end are those that were under way and the one that begins. -/
theorem labels_perm (h : Turn s ticket layout closing t) (hunique : (s.flights.map Prod.fst).Nodup) :
    (closing.toList.map Closing.label ++ t.flights).Perm
      (s.flights ++ ticket.toList.zipIdx (s.view.generation + 1)) := by
  cases h with
  | still view flights finished => rw [flights]; simp
  | selected kind diagram view placed flights finished => rw [flights]; simp
  | began ticket view flights finished => rw [flights]; simp
  | returned c view generation flights finished =>
      have hlabel : c.label = (c.ticket, s.view.generation + 1) := by rw [Closing.label, generation]
      rw [c.after_flights, flights]
      simpa [hlabel] using (List.perm_append_comm : ([c.label] ++ _).Perm _)
  | ended c view listeners notices flight flights finished =>
      rw [c.after_flights, flights]
      rw [Option.toList_none, List.zipIdx_nil, List.append_nil]
      exact (perm_cons_filter_fst hunique flight).symm

private theorem finished_eq (h : Turn s ticket layout closing t) :
    t.finished = s.finished ++ closing.toList.map fun c =>
      ⟨c.ticket, c.outcome, c.after.view, c.calls⟩ := by
  cases h with
  | still view flights finished => simpa using finished
  | selected kind diagram view placed flights finished => simpa using finished
  | began ticket view flights finished => simpa using finished
  | returned c view generation flights finished => rw [c.after_finished, finished]; rfl
  | ended c view listeners notices flight flights finished => rw [c.after_finished, finished]; rfl

end Turn

/-- How the rebuilds of a run add up. -/
structure Ledger (source : MetadataSource σ) (moments : List (Moment σ)) (s : Session σ) :
    Prop where
  /-- Every ticket that was issued waits or has begun. -/
  issued : (begun moments ++ s.waiting).Perm (List.range s.nextTicket)
  generation : s.view.generation = (begun moments).length
  /-- Every rebuild that has begun has ended or is under way, under its generation. -/
  labels : ((closings source moments).map Closing.label ++ s.flights).Perm
    ((begun moments).zipIdx 1)
  /-- Every rebuild that has ended is noted. -/
  finished : s.finished = (closings source moments).map fun c =>
    ⟨c.ticket, c.outcome, c.after.view, c.calls⟩
  /-- The generations at which rebuilds ended never decrease. -/
  ordered : (closings source moments).Pairwise fun c d =>
    c.session.view.generation ≤ d.session.view.generation
  passed : ∀ c ∈ closings source moments, c.session.view.generation ≤ s.view.generation

namespace Ledger

variable {source : MetadataSource σ} {moments : List (Moment σ)} {s : Session σ}

theorem nodup_begun (h : Ledger source moments s) : (begun moments).Nodup :=
  (List.nodup_append.1 (h.issued.nodup_iff.2 List.nodup_range)).1

theorem nodup_tickets (h : Ledger source moments s) :
    ((closings source moments).map Closing.ticket ++ s.flights.map Prod.fst).Nodup := by
  have hmap := h.labels.map Prod.fst
  rw [List.zipIdx_map_fst, List.map_append, List.map_map] at hmap
  exact hmap.nodup_iff.2 h.nodup_begun

theorem nodup_generations (h : Ledger source moments s) :
    ((closings source moments).map Closing.generation ++ s.flights.map Prod.snd).Nodup := by
  have hmap := h.labels.map Prod.snd
  rw [List.zipIdx_map_snd, List.map_append, List.map_map] at hmap
  exact hmap.nodup_iff.2 (List.nodup_range')

theorem nodup_flights (h : Ledger source moments s) : (s.flights.map Prod.fst).Nodup :=
  (List.nodup_append.1 h.nodup_tickets).2.1

theorem nodup_cycles (h : Ledger source moments s) : (s.cycles.map (·.ticket)).Nodup := by
  have hflights := h.nodup_flights
  rwa [Session.flights, List.map_map] at hflights

theorem closing_eq (h : Ledger source moments s) {c d : Closing σ}
    (hc : c ∈ closings source moments) (hd : d ∈ closings source moments)
    (hgeneration : c.generation = d.generation) : c = d :=
  List.inj_on_of_nodup_map (List.nodup_append.1 h.nodup_generations).1 hc hd hgeneration

theorem not_flight (h : Ledger source moments s) {c : Closing σ}
    (hc : c ∈ closings source moments) {ticket generation : Nat}
    (hflight : (ticket, generation) ∈ s.flights) : c.generation ≠ generation :=
  (List.nodup_append.1 h.nodup_generations).2.2 c.generation (List.mem_map.2 ⟨c, hc, rfl⟩)
    generation (List.mem_map.2 ⟨_, hflight, rfl⟩)

/-- The first generation that a rebuild takes is not the one that a view has at first. -/
theorem generation_pos (h : Ledger source moments s) {label : Nat × Nat}
    (hlabel : label ∈ (closings source moments).map Closing.label ++ s.flights) : 0 < label.2 :=
  List.le_snd_of_mem_zipIdx (h.labels.mem_iff.1 hlabel)

theorem generation_le (h : Ledger source moments s) {label : Nat × Nat}
    (hlabel : label ∈ (closings source moments).map Closing.label ++ s.flights) :
    label.2 ≤ s.view.generation := by
  have hbound := List.snd_lt_of_mem_zipIdx (h.labels.mem_iff.1 hlabel)
  rw [h.generation]
  exact Nat.le_of_lt_succ hbound

theorem ticket_lt (h : Ledger source moments s) {label : Nat × Nat}
    (hlabel : label ∈ (closings source moments).map Closing.label ++ s.flights) :
    label.1 < s.nextTicket := by
  have hbegun : label.1 ∈ begun moments := List.fst_mem_of_mem_zipIdx (h.labels.mem_iff.1 hlabel)
  exact List.mem_range.1 (h.issued.mem_iff.1 (List.mem_append_left _ hbegun))

theorem nextTicket_eq (h : Ledger source moments s) :
    s.nextTicket = s.view.generation + s.pending.length := by
  have hlength := h.issued.length_eq
  rw [List.length_append, List.length_range, Session.waiting, List.length_map] at hlength
  rw [h.generation, hlength]

/-- A rebuild has the latest generation exactly when none has begun after it. -/
theorem latest_iff (h : Ledger source moments s) {ticket generation : Nat}
    (hlabel : (ticket, generation) ∈ (begun moments).zipIdx 1) :
    generation = s.view.generation ↔ (begun moments).getLast? = some ticket := by
  obtain ⟨hpos, hat⟩ := List.mk_mem_zipIdx_iff_le_and_getElem?_sub.1 hlabel
  obtain ⟨hbound, hticket⟩ := List.getElem?_eq_some_iff.1 hat
  rw [List.getLast?_eq_getElem?, h.generation]
  constructor
  · intro hgeneration
    rw [← hgeneration]
    exact hat
  · intro hlast
    have hsame : (begun moments)[generation - 1]? = (begun moments)[(begun moments).length - 1]? :=
      hat.trans hlast.symm
    have hindex := (List.getElem?_inj hbound h.nodup_begun).1 hsame
    omega

theorem opened (source : MetadataSource σ) (limits : FetchLimits) (context : Context)
    (layout : LayoutKind) (box : NodeBox) (state : σ) :
    Ledger source [] (Session.opened limits context layout box state) where
  issued := .refl _
  generation := rfl
  labels := .refl _
  finished := rfl
  ordered := .nil
  passed := by
    intro c hc
    cases hc

/-- A turn keeps the ledger when the tickets add up after it. -/
theorem turn (h : Ledger source moments s) {m : Moment σ} {t : Session σ}
    (hturn : Turn s m.begun? m.selected? (m.closing? source) t)
    (hissued : (begun (moments ++ [m]) ++ t.waiting).Perm (List.range t.nextTicket)) :
    Ledger source (moments ++ [m]) t := by
  have hgeneration := hturn.generation_eq
  have hlater : ∀ c ∈ closings source moments, c.session.view.generation ≤ t.view.generation :=
    fun c hc => Nat.le_trans (h.passed c hc) (by omega)
  have hnow : ∀ c ∈ (m.closing? source).toList, c.session.view.generation = t.view.generation :=
    fun c hc => hturn.closing_generation_eq (Option.mem_toList.1 hc)
  refine ⟨hissued, ?generation, ?labels, ?finished, ?ordered, ?passed⟩
  case generation => rw [hgeneration, begun_append, List.length_append, h.generation]
  case labels =>
    rw [closings_append, List.map_append, List.append_assoc, begun_append, List.zipIdx_append,
      Nat.add_comm 1, ← h.generation]
    refine ((hturn.labels_perm h.nodup_flights).append_left _).trans ?_
    rw [← List.append_assoc]
    exact h.labels.append_right _
  case finished => rw [hturn.finished_eq, closings_append, List.map_append, h.finished]
  case ordered =>
    rw [closings_append]
    refine List.pairwise_append.2 ⟨h.ordered, ?_, fun c hc d hd => ?_⟩
    · cases m.closing? source <;> simp
    · rw [hnow d hd]
      exact hlater c hc
  case passed =>
    rw [closings_append]
    intro c hc
    rcases List.mem_append.1 hc with hc | hc
    · exact hlater c hc
    · exact Nat.le_of_eq (hnow c hc)

theorem occur (h : Ledger source moments s) (e : SessionEvent σ) :
    Ledger source (moments ++ [⟨s, e⟩]) (s.occur source e) := by
  refine h.turn (turn_occur source h.nodup_cycles e) ?_
  obtain ⟨count, hnext, hperm⟩ := tickets_occur source s e
  have hbefore := h.issued
  rw [List.range_eq_range'] at hbefore
  rw [begun_append, List.append_assoc, hnext, List.range_eq_range', ← List.range'_append_1]
  refine (hperm.append_left _).trans ?_
  rw [← List.append_assoc, Nat.zero_add]
  exact hbefore.append_right _

theorem through (h : Ledger source moments s) (events : List (SessionEvent σ)) :
    Ledger source (moments ++ s.momentsOf source events) (s.through source events) := by
  induction events generalizing moments s with
  | nil =>
      rw [Session.momentsOf, List.append_nil]
      exact h
  | cons e rest ih =>
      have hrest := ih (h.occur e)
      rwa [List.append_assoc] at hrest

/-- A rebuild that begins takes the next generation, and nothing else takes one. -/
theorem generation_occur (h : Ledger source moments s) (e : SessionEvent σ) :
    (s.occur source e).view.generation =
      s.view.generation + (Moment.begun? ⟨s, e⟩).toList.length := by
  rw [(h.occur e).generation, begun_append, List.length_append, h.generation]

theorem of_run {allowed : Moment σ → Prop} {limits : FetchLimits} {context : Context}
    {layout : LayoutKind} {box : NodeBox} {state : σ}
    (run : Run source allowed (Session.opened limits context layout box state) moments s) :
    Ledger source moments s := by
  induction run with
  | nil => exact .opened source limits context layout box state
  | snoc run e allowed ih => exact ih.occur e

end Ledger

end ErDiagram
