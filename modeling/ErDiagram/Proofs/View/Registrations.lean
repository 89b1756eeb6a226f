import ErDiagram.View.Listeners
import Mathlib.Data.List.Induction
import Mathlib.Data.List.TakeWhile

/-!
# Registrations of listeners

Adding a listener gives out a handle, and using the handle is meant to end that one registration. The
registry keeps no handles: using one takes out the first listener that equals its own. So the handles of a
listener that was added more than once can end one another's registrations. `IsHarmless` tells when a handle
ends its own registration and no other, and `registrations_independent_iff` that nothing else can go wrong.
-/

namespace ErDiagram.Listeners

/-- What is done with a registry. A handle has the number of the addition that gave it out. -/
inductive Handling
  | add (listener : Listener)
  | withdraw (handle : Nat)

namespace Handling

def added? : Handling → Option Listener
  | .add listener => some listener
  | .withdraw _ => none

def uses (handle : Nat) : Handling → Bool
  | .add _ => false
  | .withdraw used => used = handle

end Handling

def isUsed (handle : Nat) (handlings : List Handling) : Bool :=
  handlings.any (·.uses handle)

@[simp] theorem isUsed_concat_add (handle : Nat) (handlings : List Handling) (listener : Listener) :
    isUsed handle (handlings ++ [.add listener]) = isUsed handle handlings := by
  simp [isUsed, Handling.uses.eq_1]

@[simp] theorem isUsed_concat_withdraw (handle : Nat) (handlings : List Handling) (used : Nat) :
    isUsed handle (handlings ++ [.withdraw used]) = (isUsed handle handlings || used = handle) := by
  simp [isUsed, Handling.uses.eq_2]

/-- The registry after a listener was added or a handle was used. Using a handle takes out a listener that
equals the one it was given out for. -/
def handled (l : Listeners) : Handling → Listeners
  | .add listener => l.add listener
  | .withdraw handle =>
    match l.known[handle]? with
    | some listener => l.remove listener.identity
    | none => l

/-- Who removes a listener by its name uses the handle of a registration that was made under this name. -/
theorem handled_of_removeNamed {l next : Listeners} {name : String}
    (h : l.removeNamed name = .ok next) :
    ∃ handle listener, l.known[handle]? = some listener ∧ listener.name = name ∧
      next = l.handled (.withdraw handle) := by
  rw [removeNamed] at h
  cases found : l.named? name with
  | none =>
    rw [found] at h
    cases h
  | some listener =>
    rw [found] at h
    have mem : listener ∈ l.known := List.mem_reverse.1 (List.mem_of_find?_eq_some found)
    obtain ⟨handle, known⟩ := List.mem_iff_getElem?.1 mem
    have named := List.find?_some found
    refine ⟨handle, listener, known, of_decide_eq_true named, ?_⟩
    simp only [handled, known]
    exact (Except.ok.inj h).symm

/-- A registry that was empty, after what was done with it. -/
def after (handlings : List Handling) : Listeners :=
  handlings.foldl handled empty

/-- A registration with the number of its handle. -/
structure Entry where
  handle : Nat
  listener : Listener

/-- The registrations whose own handles are not used afterwards, in the order in which they were made. The
first of them has the given number. -/
def remaining : Nat → List Handling → List Entry
  | _, [] => []
  | handle, .add listener :: rest =>
    if isUsed handle rest then remaining (handle + 1) rest
    else ⟨handle, listener⟩ :: remaining (handle + 1) rest
  | handle, .withdraw _ :: rest => remaining handle rest

/-- Whether the registry holds the listeners of the registrations that should remain. -/
def IsFaithful (handlings : List Handling) : Prop :=
  (after handlings).registered.map (·.identity) =
    (remaining 0 handlings).map (·.listener.identity)

section Remaining

variable {handlings : List Handling} {start : Nat} {entry : Entry}

theorem after_concat (handlings : List Handling) (next : Handling) :
    after (handlings ++ [next]) = (after handlings).handled next := by
  simp [after]

theorem known_after (handlings : List Handling) :
    (after handlings).known = handlings.filterMap Handling.added? := by
  induction handlings using List.reverseRecOn with
  | nil => rfl
  | append_singleton handlings next ih =>
    rw [after_concat, List.filterMap_append, ← ih]
    cases next with
    | add listener => rfl
    | withdraw handle =>
      simp only [handled]
      split <;> simp [remove, Handling.added?]

/-- An addition makes the last registration. -/
theorem remaining_concat_add (start : Nat) (handlings : List Handling) (listener : Listener) :
    remaining start (handlings ++ [.add listener]) =
      remaining start handlings ++
        [⟨start + (handlings.filterMap Handling.added?).length, listener⟩] := by
  induction handlings generalizing start with
  | nil => rfl
  | cons first rest ih =>
    cases first with
    | add other =>
      simp only [List.cons_append, remaining, ih, isUsed_concat_add, List.filterMap_cons,
        Handling.added?, List.length_cons, Nat.add_right_comm, Nat.add_assoc]
      split
      · rfl
      · rfl
    | withdraw handle =>
      simp only [List.cons_append, remaining, ih, List.filterMap_cons, Handling.added?]

theorem remaining_concat_withdraw (start : Nat) (handlings : List Handling) (handle : Nat) :
    remaining start (handlings ++ [.withdraw handle]) =
      (remaining start handlings).filter (·.handle ≠ handle) := by
  induction handlings generalizing start with
  | nil => rfl
  | cons first rest ih =>
    cases first with
    | add other =>
      simp only [List.cons_append, remaining, ih, isUsed_concat_withdraw]
      by_cases used : isUsed start rest
      · simp [used]
      · by_cases own : handle = start
        · simp [used, own]
        · simp [used, own, Ne.symm own]
    | withdraw other => simp only [List.cons_append, remaining, ih]

/-- A registration is one of the additions. -/
theorem known_of_mem_remaining (h : entry ∈ remaining start handlings) :
    start ≤ entry.handle ∧
      (handlings.filterMap Handling.added?)[entry.handle - start]? = some entry.listener := by
  induction handlings generalizing start with
  | nil => simp [remaining] at h
  | cons first rest ih =>
    cases first with
    | withdraw handle => exact ih h
    | add listener =>
      have later (hrest : entry ∈ remaining (start + 1) rest) : start ≤ entry.handle ∧
          ((Handling.add listener :: rest).filterMap Handling.added?)[entry.handle - start]? =
            some entry.listener := by
        obtain ⟨hle, hknown⟩ := ih hrest
        refine ⟨Nat.le_of_succ_le hle, ?_⟩
        rw [show entry.handle - start = entry.handle - (start + 1) + 1 by omega]
        exact hknown
      rw [remaining] at h
      split at h
      · exact later h
      · obtain rfl | h := List.mem_cons.1 h
        · exact ⟨Nat.le_refl _, by simp [Handling.added?]⟩
        · exact later h

theorem pairwise_remaining (start : Nat) (handlings : List Handling) :
    (remaining start handlings).Pairwise (·.handle < ·.handle) := by
  induction handlings generalizing start with
  | nil => exact .nil
  | cons first rest ih =>
    cases first with
    | withdraw handle => exact ih start
    | add listener =>
      rw [remaining]
      split
      · exact ih _
      · exact .cons (fun other hother => (known_of_mem_remaining hother).1) (ih _)

private theorem filter_remaining_of_split {before later : List Entry}
    (h : remaining start handlings = before ++ entry :: later) :
    (remaining start handlings).filter (·.handle ≠ entry.handle) = before ++ later := by
  have ordered := pairwise_remaining start handlings
  rw [h, List.pairwise_append, List.pairwise_cons] at ordered
  obtain ⟨-, ⟨above, -⟩, below⟩ := ordered
  have keep_before : before.filter (·.handle ≠ entry.handle) = before :=
    List.filter_eq_self.2 fun other hother =>
      decide_eq_true (Nat.ne_of_lt (below other hother entry List.mem_cons_self))
  have keep_later : later.filter (·.handle ≠ entry.handle) = later :=
    List.filter_eq_self.2 fun other hother => decide_eq_true (Nat.ne_of_gt (above other hother))
  rw [h, List.filter_append, List.filter_cons_of_neg (by simp), keep_before, keep_later]

end Remaining

section Harmless

/-- The registrations in front of the one with the given handle, from the first of the same listener on. -/
def overtaken (standing : List Entry) (handle : Nat) (listener : Listener) : List Entry :=
  (standing.takeWhile (·.handle ≠ handle)).dropWhile (·.listener.identity ≠ listener.identity)

/-- Whether the handle that was given out for a listener ends nothing but its own registration, when these
registrations stand. No other listener may stand between the first registration of the listener and its own
one, and when its own one has ended, the listener may not be registered at all. -/
structure IsHarmless (standing : List Entry) (handle : Nat) (listener : Listener) : Prop where
  alike : ∀ entry ∈ overtaken standing handle listener, entry.listener.identity = listener.identity
  absent : (∀ entry ∈ standing, entry.handle ≠ handle) →
    ∀ entry ∈ standing, entry.listener.identity ≠ listener.identity

theorem IsHarmless.of_unique {standing : List Entry} {handle : Nat} {listener : Listener}
    (unique : ∀ entry ∈ standing, entry.listener.identity = listener.identity →
      entry.handle = handle) : IsHarmless standing handle listener := by
  have others : overtaken standing handle listener = [] := by
    refine List.dropWhile_eq_nil_iff.2 fun entry hentry => decide_eq_true fun same => ?_
    have other := List.mem_takeWhile_imp hentry
    exact of_decide_eq_true other (unique entry ((List.takeWhile_prefix _).subset hentry) same)
  constructor
  · simp [others]
  · exact fun gone entry hentry same => gone entry hentry (unique entry hentry same)

private theorem map_identity_removeFirst (identity : Nat) (listeners : List Listener) :
    (removeFirst identity listeners).map (·.identity) =
      (listeners.map (·.identity)).erase identity := by
  induction listeners with
  | nil => rfl
  | cons first rest ih =>
    rw [removeFirst, List.map_cons, List.erase_cons]
    by_cases same : first.identity = identity
    · simp [same]
    · simp [same, ih]

/-- A number can stand at the end of a list as well as in front when the list has no other numbers. -/
theorem concat_eq_cons_iff {n : Nat} {numbers : List Nat} :
    numbers ++ [n] = n :: numbers ↔ ∀ m ∈ numbers, m = n := by
  induction numbers with
  | nil => simp
  | cons first rest ih =>
    rw [List.cons_append, List.cons_eq_cons, List.forall_mem_cons]
    refine and_congr_right fun same => ?_
    rw [same]
    exact ih

/-- Taking out the first of equal numbers is taking out a later one when no others stand between them. -/
theorem erase_append_cons_iff {n : Nat} {before later : List Nat} :
    (before ++ n :: later).erase n = before ++ later ↔ ∀ m ∈ before.dropWhile (· ≠ n), m = n := by
  induction before with
  | nil => simp
  | cons first rest ih =>
    by_cases same : first = n
    · subst same
      rw [List.cons_append, List.erase_cons_head, List.cons_append, ← List.cons_append,
        List.dropWhile_cons_of_neg (by simp), List.forall_mem_cons, ← concat_eq_cons_iff,
        List.append_cons, List.append_left_inj]
      simp
    · rw [List.cons_append, List.erase_cons_tail (by simpa using same), List.cons_append,
        List.cons_inj_right, ih, List.dropWhile_cons_of_pos (by simpa using same)]

variable {handlings : List Handling} {handle : Nat} {listener : Listener}

private theorem overtaken_of_split {entry : Entry} {before later : List Entry}
    (h : remaining 0 handlings = before ++ entry :: later) (listener : Listener) :
    overtaken (remaining 0 handlings) entry.handle listener =
      before.dropWhile (·.listener.identity ≠ listener.identity) := by
  have ordered := pairwise_remaining 0 handlings
  rw [h, List.pairwise_append] at ordered
  have below : ∀ other ∈ before, (decide (other.handle ≠ entry.handle)) = true :=
    fun other hother =>
      decide_eq_true (Nat.ne_of_lt (ordered.2.2 other hother entry List.mem_cons_self))
  rw [overtaken, h, List.takeWhile_append_of_pos below, List.takeWhile_cons_of_neg (by simp),
    List.append_nil]

/-- While the registration of a handle stands, the first equal listener may be taken out instead when no
others stand between the two. -/
theorem isHarmless_iff_of_stands {entry : Entry} (h : entry ∈ remaining 0 handlings) :
    ((remaining 0 handlings).map (·.listener.identity)).erase entry.listener.identity =
        ((remaining 0 handlings).filter (·.handle ≠ entry.handle)).map (·.listener.identity) ↔
      IsHarmless (remaining 0 handlings) entry.handle entry.listener := by
  obtain ⟨before, later, split⟩ := List.append_of_mem h
  have alike_iff : IsHarmless (remaining 0 handlings) entry.handle entry.listener ↔
      ∀ other ∈ before.dropWhile (·.listener.identity ≠ entry.listener.identity),
        other.listener.identity = entry.listener.identity := by
    rw [← overtaken_of_split split]
    exact ⟨IsHarmless.alike, fun alike => ⟨alike, fun gone => absurd rfl (gone entry h)⟩⟩
  rw [alike_iff, filter_remaining_of_split split, split, List.map_append, List.map_append,
    List.map_cons, erase_append_cons_iff, List.dropWhile_map, List.forall_mem_map]
  rfl

private theorem isHarmless_iff_of_ended (gone : ∀ entry ∈ remaining 0 handlings, entry.handle ≠ handle) :
    ((remaining 0 handlings).map (·.listener.identity)).erase listener.identity =
        ((remaining 0 handlings).filter (·.handle ≠ handle)).map (·.listener.identity) ↔
      IsHarmless (remaining 0 handlings) handle listener := by
  rw [List.filter_eq_self.2 fun entry hentry => decide_eq_true (gone entry hentry),
    List.erase_eq_self_iff, List.mem_map]
  constructor
  · intro unregistered
    have absent : ∀ entry ∈ remaining 0 handlings, entry.listener.identity ≠ listener.identity :=
      fun entry hentry same => unregistered ⟨entry, hentry, same⟩
    exact .of_unique fun entry hentry same => absurd same (absent entry hentry)
  · rintro harmless ⟨entry, hentry, same⟩
    exact harmless.absent gone entry hentry same

/-- From a registry that holds what it should, the use of a handle leads to another one exactly when it is
harmless. -/
theorem isFaithful_concat_withdraw (faithful : IsFaithful handlings)
    (known : (after handlings).known[handle]? = some listener) :
    IsFaithful (handlings ++ [.withdraw handle]) ↔
      IsHarmless (remaining 0 handlings) handle listener := by
  have taken : (after (handlings ++ [.withdraw handle])).registered.map (·.identity) =
      ((remaining 0 handlings).map (·.listener.identity)).erase listener.identity := by
    rw [after_concat, ← faithful]
    simp only [handled, known, remove]
    exact map_identity_removeFirst ..
  rw [IsFaithful, taken, remaining_concat_withdraw]
  by_cases gone : ∀ entry ∈ remaining 0 handlings, entry.handle ≠ handle
  · exact isHarmless_iff_of_ended gone
  · push Not at gone
    obtain ⟨entry, hentry, rfl⟩ := gone
    -- a handle that stands was given out for the listener of its entry
    rw [known_after, ← Nat.sub_zero entry.handle, (known_of_mem_remaining hentry).2] at known
    obtain rfl := Option.some.inj known
    exact isHarmless_iff_of_stands hentry

theorem IsFaithful.concat_add (faithful : IsFaithful handlings) (listener : Listener) :
    IsFaithful (handlings ++ [.add listener]) := by
  rw [IsFaithful, after_concat, remaining_concat_add]
  simp only [handled, add, List.map_append]
  exact congrArg (· ++ [listener.identity]) faithful

theorem IsFaithful.concat_unknown (faithful : IsFaithful handlings)
    (unknown : (after handlings).known[handle]? = none) :
    IsFaithful (handlings ++ [.withdraw handle]) := by
  have kept : (remaining 0 handlings).filter (·.handle ≠ handle) = remaining 0 handlings := by
    refine List.filter_eq_self.2 fun entry hentry => decide_eq_true ?_
    rintro rfl
    have known := (known_of_mem_remaining hentry).2
    rw [Nat.sub_zero, ← known_after, unknown] at known
    cases known
  rw [IsFaithful, after_concat, remaining_concat_withdraw, kept, ← faithful]
  simp only [handled, unknown]

end Harmless

section Independent

variable {handlings : List Handling}

/-- Whether every use of a handle is harmless at its moment. -/
def AreHarmless (handlings : List Handling) : Prop :=
  ∀ earlier handle listener, earlier ++ [.withdraw handle] <+: handlings →
    (after earlier).known[handle]? = some listener → IsHarmless (remaining 0 earlier) handle listener

/-- Registrations are independent exactly when the uses of handles are harmless: at every moment the registry
holds the listeners of those registrations whose own handle has not been used, in the order in which they
were made. -/
theorem registrations_independent_iff :
    (∀ earlier, earlier <+: handlings → IsFaithful earlier) ↔ AreHarmless handlings := by
  constructor
  · intro faithful earlier handle listener hprefix known
    have before := faithful earlier ((List.prefix_append ..).trans hprefix)
    exact (isFaithful_concat_withdraw before known).1 (faithful _ hprefix)
  · intro harmless earlier hprefix
    -- from one moment to the next
    induction earlier using List.reverseRecOn with
    | nil => rfl
    | append_singleton earlier next ih =>
      have before := ih ((List.prefix_append ..).trans hprefix)
      cases next with
      | add listener => exact before.concat_add listener
      | withdraw handle =>
        cases known : (after earlier).known[handle]? with
        | none => exact before.concat_unknown known
        | some listener =>
          exact (isFaithful_concat_withdraw before known).2
            (harmless earlier handle listener hprefix known)

/-- A listener that was added twice loses both registrations to the handle of one, which was used twice. -/
theorem registration_lost_to_other_handle :
    let watcher : Listener := ⟨0, "watcher", none, none⟩
    let handlings : List Handling := [.add watcher, .add watcher, .withdraw 0, .withdraw 0]
    (after handlings).registered = [] ∧ remaining 0 handlings = [⟨1, watcher⟩] ∧
      ¬ IsFaithful handlings :=
  ⟨rfl, rfl, by unfold IsFaithful; decide⟩

/-- The registry holds what it should when no listener is added twice. -/
theorem IsFaithful.of_distinct
    (distinct : ((handlings.filterMap Handling.added?).map (·.identity)).Nodup) :
    IsFaithful handlings := by
  refine registrations_independent_iff.2 ?_ handlings (List.prefix_refl _)
  intro earlier handle listener hprefix known
  have distinct_earlier : ((earlier.filterMap Handling.added?).map (·.identity)).Nodup :=
    distinct.sublist
      ((((List.prefix_append ..).trans hprefix).sublist.filterMap _).map _)
  refine .of_unique fun entry hentry same => ?_
  have known_entry := (known_of_mem_remaining hentry).2
  rw [known_after] at known
  rw [Nat.sub_zero] at known_entry
  have same_place : ((earlier.filterMap Handling.added?).map (·.identity))[entry.handle]? =
      ((earlier.filterMap Handling.added?).map (·.identity))[handle]? := by
    rw [List.getElem?_map, List.getElem?_map, known, known_entry, Option.map_some, Option.map_some,
      same]
  refine (List.getElem?_inj ?_ distinct_earlier).1 same_place
  rw [List.length_map]
  exact (List.getElem?_eq_some_iff.1 known_entry).1

end Independent

end ErDiagram.Listeners
