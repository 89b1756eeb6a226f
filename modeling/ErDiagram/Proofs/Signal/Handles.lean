import ErDiagram.Proofs.Signal.Course
import Mathlib.Data.List.Induction

/-!
# Handles and the handlers they stand for

A subscription leaves two records, the handler on the bus and the handle that was given out for it, and
both change while signals are delivered. They never disagree: at every point of a run, also in the midst of
a handler, the handlers on the bus are those whose handles are active, and a handle is active until it is
released itself. `Lawful.accounts` says what both records are, by what has happened so far.

Nothing is needed for this but that handles are released only after they were given out. So it does not
matter in which order handlers act, how deep they nest, or whether they come to an end.
-/

namespace ErDiagram

namespace Switchboard

open Bus

section Lawful

/-- Whether things can have happened one after the other: a handle is released after it was given out. -/
def Lawful (s : Switchboard) (happenings : List Happening) : Prop :=
  ∀ before handle later, happenings = before ++ .released handle :: later →
    handle ∈ (s.after before).issued

variable {s : Switchboard} {happenings later : List Happening}

theorem lawful_nil (s : Switchboard) : s.Lawful [] := by
  intro before handle later h
  simp at h

theorem Lawful.left (h : s.Lawful (happenings ++ later)) : s.Lawful happenings := by
  rintro before handle rest rfl
  exact h before handle (rest ++ later) (by simp)

theorem Lawful.append (h : s.Lawful happenings) (h' : (s.after happenings).Lawful later) :
    s.Lawful (happenings ++ later) := by
  intro before handle rest heq
  rcases append_eq_append_cons heq with ⟨between, hnow, -⟩ | ⟨between, rfl, hlater⟩
  · exact h before handle between hnow
  · rw [after_append]
    exact h' between handle rest hlater

theorem Lawful.cons {first : Happening} (h : ∀ handle, first = .released handle → handle ∈ s.issued)
    (h' : (s.occur first).Lawful later) : s.Lawful (first :: later) := by
  have hfirst : s.Lawful [first] := by
    intro before handle rest heq
    cases before with
    | nil => exact h handle (List.cons.inj heq).1
    | cons other others => simp at heq
  exact hfirst.append h'

theorem Course.lawful {stage : Stage} (course : Course stage s happenings) : s.Lawful happenings := by
  induction course with
  | rest s => exact lawful_nil s
  | act deed _ ih =>
      refine .cons ?_ ih
      rintro handle rfl
      cases deed with
      | release issued => exact issued
  | publish topic _ _ ihnow ihlater => exact ihnow.append ihlater
  | change change _ _ ihnow ihlater => exact .cons nofun (ihnow.append ihlater)
  | record s topic count => exact .cons nofun (lawful_nil _)
  | call on _ _ ihrun ihlater => exact .cons nofun (ihrun.append ihlater)
  | pass off _ ih => exact ih

end Lawful

section Enrolled

def Happening.subscription? : Happening → Option (Topic × Handler)
  | .subscribed topic handler => some (topic, handler)
  | _ => none

def Happening.releases (key : Nat) : Happening → Bool
  | .released handle => handle.key = key
  | _ => false

@[simp] theorem Happening.releases_released (key : Nat) (handle : Subscription) :
    (Happening.released handle).releases key = decide (handle.key = key) := rfl

@[simp] theorem Happening.releases_subscribed (key : Nat) (topic : Topic) (handler : Handler) :
    (Happening.subscribed topic handler).releases key = false := rfl

/-- The registrations that subscriptions have made on a bus that nobody had used before. -/
def enrolled (happenings : List Happening) : List (Registration Handler) :=
  ((happenings.filterMap Happening.subscription?).zipIdx 1).map fun p => ⟨p.2, p.1.1, p.1.2⟩

/-- Whether the handle of a key has been released. -/
def isReleased (happenings : List Happening) (key : Nat) : Bool :=
  happenings.any (·.releases key)

/-- The handle of a registration as it is after some happenings. -/
def handleAfter (happenings : List Happening) (r : Registration Handler) : Subscription :=
  ⟨r.topic, r.key, !isReleased happenings r.key⟩

variable {happenings later : List Happening} {r : Registration Handler}

private theorem isReleased_append (happenings later : List Happening) (key : Nat) :
    isReleased (happenings ++ later) key = (isReleased happenings key || isReleased later key) :=
  List.any_append

@[simp] theorem isReleased_concat (happenings : List Happening) (next : Happening) (key : Nat) :
    isReleased (happenings ++ [next]) key = (isReleased happenings key || next.releases key) := by
  simp [isReleased]

theorem enrolled_append (happenings later : List Happening) :
    enrolled (happenings ++ later) = enrolled happenings ++
      ((later.filterMap Happening.subscription?).zipIdx (1 + (enrolled happenings).length)).map
        fun p => ⟨p.2, p.1.1, p.1.2⟩ := by
  simp [enrolled, List.zipIdx_append]

theorem enrolled_concat_of_none {next : Happening} (h : next.subscription? = none)
    (happenings : List Happening) : enrolled (happenings ++ [next]) = enrolled happenings := by
  simp [enrolled_append, h]

theorem map_key_enrolled (happenings : List Happening) :
    (enrolled happenings).map (·.key) = List.range' 1 (enrolled happenings).length := by
  simp only [enrolled, List.map_map, List.length_map, List.length_zipIdx]
  exact List.zipIdx_map_snd 1 _

theorem nodup_keys_enrolled (happenings : List Happening) :
    ((enrolled happenings).map (·.key)).Nodup := by
  rw [map_key_enrolled]
  exact List.nodup_range'

private theorem key_le_of_mem_enrolled (h : r ∈ enrolled happenings) :
    r.key ≤ (enrolled happenings).length := by
  have hkey : r.key ∈ (enrolled happenings).map (·.key) := List.mem_map_of_mem h
  rw [map_key_enrolled, List.mem_range'_1] at hkey
  omega

theorem eq_of_key_enrolled {r' : Registration Handler} (h : r ∈ enrolled happenings)
    (h' : r' ∈ enrolled happenings) (hkey : r.key = r'.key) : r = r' :=
  List.inj_on_of_nodup_map (nodup_keys_enrolled happenings) h h' hkey

end Enrolled

section Accounts

/-- The two records of the subscriptions after some happenings. The handles are those of all subscriptions
there were, in order, and on the bus are the handlers whose handles were not released. -/
structure Accounts (happenings : List Happening) (s : Switchboard) : Prop where
  issued : s.issued = (enrolled happenings).map (handleAfter happenings)
  registrations : s.bus.registrations =
    (enrolled happenings).filter fun r => !isReleased happenings r.key
  nextKey : s.bus.nextKey = (enrolled happenings).length + 1
  released : ∀ key, isReleased happenings key → key ≤ (enrolled happenings).length

namespace Accounts

variable {happenings : List Happening} {s : Switchboard}

private theorem keep (h : Accounts happenings s) {next : Happening} {t : Switchboard}
    (hsubscription : next.subscription? = none) (hreleases : ∀ key, next.releases key = false)
    (hissued : t.issued = s.issued) (hregistrations : t.bus.registrations = s.bus.registrations)
    (hnextKey : t.bus.nextKey = s.bus.nextKey) : Accounts (happenings ++ [next]) t := by
  constructor
  · rw [hissued, h.issued, enrolled_concat_of_none hsubscription]
    simp [handleAfter, hreleases]
  · rw [hregistrations, h.registrations, enrolled_concat_of_none hsubscription]
    simp [hreleases]
  · rw [hnextKey, h.nextKey, enrolled_concat_of_none hsubscription]
  · intro key hkey
    rw [isReleased_concat, hreleases, Bool.or_false] at hkey
    rw [enrolled_concat_of_none hsubscription]
    exact h.released key hkey

/-- A subscription adds to both records. -/
theorem subscribe (h : Accounts happenings s) (topic : Topic) (handler : Handler) :
    Accounts (happenings ++ [.subscribed topic handler]) (s.subscribe topic handler) := by
  have henrolled : enrolled (happenings ++ [.subscribed topic handler]) =
      enrolled happenings ++ [⟨s.bus.nextKey, topic, handler⟩] := by
    rw [enrolled_append, h.nextKey, Nat.add_comm]
    rfl
  have hnew : isReleased happenings s.bus.nextKey = false := by
    refine Bool.eq_false_iff.2 fun hold => ?_
    have hle := h.released _ hold
    have hnext := h.nextKey
    omega
  constructor
  · simp [Switchboard.subscribe, Bus.subscribe, h.issued, henrolled, handleAfter, hnew]
  · simp [Switchboard.subscribe, Bus.subscribe, h.registrations, henrolled, hnew]
  · simp [Switchboard.subscribe, Bus.subscribe, henrolled, h.nextKey]
  · intro key hkey
    rw [isReleased_concat, Happening.releases_subscribed, Bool.or_false] at hkey
    rw [henrolled, List.length_append]
    exact Nat.le_add_right_of_le (h.released key hkey)

/-- A release ends the handle and takes its handler from the bus, whichever of them are left. -/
theorem release (h : Accounts happenings s) {handle : Subscription} (hissued : handle ∈ s.issued) :
    Accounts (happenings ++ [.released handle]) (s.release handle) := by
  have henrolled : enrolled (happenings ++ [.released handle]) = enrolled happenings :=
    enrolled_concat_of_none rfl happenings
  have hissued := h.issued ▸ hissued
  obtain ⟨own, hown, rfl⟩ := List.mem_map.1 hissued
  have hsame : ∀ r ∈ enrolled happenings, own.key = r.key → own = r := fun r hr =>
    eq_of_key_enrolled hown hr
  constructor
  · rw [henrolled]
    simp only [Switchboard.release, Subscription.release_fst, h.issued, List.map_map]
    apply List.map_congr_left
    intro r hr
    by_cases hkey : own.key = r.key
    · obtain rfl := hsame r hr hkey
      simp [handleAfter]
    · simp [handleAfter, hkey, Ne.symm hkey]
  · rw [henrolled]
    cases hover : isReleased happenings own.key with
    | false =>
        simp only [Switchboard.release, Subscription.release, handleAfter, hover, Bool.not_false,
          if_true, Bus.remove, h.registrations, List.filter_filter]
        apply List.filter_congr
        intro r hr
        by_cases hkey : own.key = r.key
        · obtain rfl := hsame r hr hkey
          simp
        · simp [hkey, Ne.symm hkey]
    | true =>
        simp only [Switchboard.release, Subscription.release, handleAfter, hover, Bool.not_true,
          Bool.false_eq_true, if_false, h.registrations]
        apply List.filter_congr
        intro r hr
        by_cases hkey : own.key = r.key
        · obtain rfl := hsame r hr hkey
          simp [hover]
        · simp [hkey]
  · rw [henrolled, ← h.nextKey]
    simp only [Switchboard.release, Subscription.release]
    split <;> rfl
  · intro key hkey
    rw [henrolled]
    rw [isReleased_concat, Bool.or_eq_true] at hkey
    rcases hkey with hold | hown'
    · exact h.released key hold
    · obtain rfl := of_decide_eq_true hown'
      exact key_le_of_mem_enrolled hown

end Accounts

theorem Lawful.accounts {context : Context} {happenings : List Happening}
    (h : (ofContext context).Lawful happenings) :
    Accounts happenings ((ofContext context).after happenings) := by
  induction happenings using List.reverseRecOn with
  | nil => exact ⟨rfl, rfl, rfl, nofun⟩
  | append_singleton happenings next ih =>
      have hbefore := ih h.left
      rw [after_append, after_cons, after_nil]
      cases next with
      | subscribed topic handler => exact hbefore.subscribe topic handler
      | released handle => exact hbefore.release (h happenings handle [] rfl)
      | cleared | changed | started | published =>
          exact hbefore.keep rfl (fun _ => rfl) rfl rfl rfl

variable {happenings : List Happening} {s : Switchboard}

theorem Accounts.active_iff (h : Accounts happenings s) {r : Registration Handler}
    (hr : r ∈ enrolled happenings) {handle : Subscription} (hhandle : handle ∈ s.issued)
    (hkey : handle.key = r.key) : handle.active ↔ r ∈ s.bus.registered handle.topic := by
  rw [h.issued] at hhandle
  obtain ⟨own, hown, rfl⟩ := List.mem_map.1 hhandle
  obtain rfl : own = r := eq_of_key_enrolled hown hr hkey
  simp [registered, h.registrations, handleAfter, hr]

/-- As many handlers are on the bus for a topic as handles of it are active. -/
theorem Accounts.count_eq (h : Accounts happenings s) (topic : Topic) :
    s.bus.count topic = s.issued.countP fun handle => handle.active && handle.topic = topic := by
  rw [count, registered, h.registrations, h.issued, List.countP_map, List.filter_filter,
    ← List.countP_eq_length_filter]
  apply List.countP_congr
  intro r _
  simp only [Function.comp_apply, Bool.and_eq_true, decide_eq_true_eq]
  exact and_comm

theorem Accounts.exists_later (h : Accounts happenings s) {later : List Happening}
    {t : Switchboard} (h' : Accounts (happenings ++ later) t) {handle : Subscription}
    (hhandle : handle ∈ s.issued) :
    ∃ kept ∈ t.issued, kept.key = handle.key ∧ kept.topic = handle.topic ∧
      (kept.active ↔ handle.active ∧ ¬ isReleased later handle.key) := by
  rw [h.issued] at hhandle
  obtain ⟨own, hown, rfl⟩ := List.mem_map.1 hhandle
  refine ⟨handleAfter (happenings ++ later) own, ?_, rfl, rfl, ?_⟩
  · rw [h'.issued, enrolled_append]
    exact List.mem_map_of_mem (List.mem_append_left _ hown)
  · simp [handleAfter, isReleased_append]

end Accounts

/-- Handles and handlers of a bus that starts empty, whatever is done to it and in whatever order, also by
handlers in the midst of deliveries. Every subscription has a handle of its own. The handle is active while
its handler is on the bus under its topic, and nothing else is on the bus; so the handlers of a topic are
counted by its active handles. A handle that is active stays so until it is released itself, however often
others are, and one that is not never is again. What names no topic is refused and changes nothing. -/
theorem handles_tell_handlers (context : Context) :
    (∀ run : Runner, run.Acts → ∀ s, (ofContext context).Reaches s → ∀ command last reply,
      execute run command s = some (last, reply) → (ofContext context).Reaches last) ∧
    (∀ happenings later, Course .acting (ofContext context) (happenings ++ later) →
      (ofContext context).Lawful happenings) ∧
    (∀ happenings, (ofContext context).Lawful happenings →
      let s := (ofContext context).after happenings
      s.issued.map (fun handle => (handle.key, handle.topic)) =
          (enrolled happenings).map (fun r => (r.key, r.topic)) ∧
        (s.issued.map (·.key)).Nodup ∧
        (∀ r ∈ enrolled happenings, ∀ handle ∈ s.issued, handle.key = r.key →
          (handle.active ↔ r ∈ s.bus.registered handle.topic)) ∧
        (∀ r ∈ s.bus.registrations, r ∈ enrolled happenings) ∧
        (∀ topic, s.bus.count topic =
          s.issued.countP fun handle => handle.active && handle.topic = topic) ∧
        ∀ later, (ofContext context).Lawful (happenings ++ later) → ∀ handle ∈ s.issued,
          ∃ kept ∈ (s.after later).issued, kept.key = handle.key ∧ kept.topic = handle.topic ∧
            (kept.active ↔ handle.active ∧ ¬ isReleased later handle.key)) ∧
    ∀ given : Json, (∀ topic : Topic, given ≠ .str topic.name) →
      ∃ fault : Fault, fault.kindName = "ValueError" ∧ ∀ (run : Runner) (s : Switchboard),
        execute run (.publish given) s = some (s, .error fault) ∧
          ∀ name actions failure,
            execute run (.subscribe name given actions failure) s = some (s, .error fault) := by
  refine ⟨?_, ?_, ?_, ?_⟩
  · intro run hrun s hreached command last reply h
    exact hreached.trans (reaches_execute hrun h)
  · intro happenings later course
    exact course.lawful.left
  · intro happenings hlawful s
    have haccounts := hlawful.accounts
    refine ⟨?_, ?_, fun r hr handle => haccounts.active_iff hr, ?_, haccounts.count_eq, ?_⟩
    · simp [s, haccounts.issued, handleAfter]
    · rw [haccounts.issued, List.map_map]
      exact nodup_keys_enrolled happenings
    · intro r hr
      rw [haccounts.registrations] at hr
      exact List.mem_of_mem_filter hr
    · intro later hlater handle hhandle
      rw [← after_append]
      exact haccounts.exists_later hlater.accounts hhandle
  · intro given hnone
    obtain ⟨fault, hfault, hkind⟩ := Topic.exists_choose_eq_error hnone
    refine ⟨fault, hkind, fun run s => ⟨?_, fun name actions failure => ?_⟩⟩
    · simp only [execute, hfault]
    · simp only [execute, hfault]

section Doubled

/-- A handler that releases, twice, the handle that was last given out under its name. -/
def guard : Handler := ⟨"guard", [.release "guard", .release "guard"], none⟩

/-- The handler is subscribed two times, and when it is called for the first time it releases the handle of
the second. -/
def doubled : List Happening :=
  [.subscribed .schemaChanged guard, .subscribed .schemaChanged guard,
    .started ⟨1, .schemaChanged, guard⟩, .released ⟨.schemaChanged, 2, true⟩,
    .released ⟨.schemaChanged, 2, false⟩]

theorem course_doubled :
    Course .acting (ofContext .empty) (doubled ++ [.published ⟨.schemaChanged, 1⟩]) := by
  let both := (ofContext .empty).after (doubled.take 2)
  have hrun : Course .acting (both.occur (.started ⟨1, .schemaChanged, guard⟩)) (doubled.drop 3) :=
    .act (.release (by decide)) (.act (.release (by decide)) (.rest _))
  have hdelivery : Course (.delivering .schemaChanged (both.bus.registered .schemaChanged) 0) both
      (doubled.drop 2 ++ [.published ⟨.schemaChanged, 1⟩]) :=
    .call (by decide) hrun (.pass (by decide) (.record _ _ _))
  have hcourse : Course .acting (ofContext .empty) _ :=
    .act (.subscribe _ _) (.act (.subscribe _ _) (.publish .schemaChanged hdelivery (.rest _)))
  exact hcourse

private theorem schema_names_no_topic (topic : Topic) : (.str "schema" : Json) ≠ .str topic.name := by
  have hname : "schema" ≠ topic.name := by cases topic <;> decide
  simpa using hname

/-- While the handler is still running, its first handle is active and its second has ended for ever. -/
theorem handles_tell_handlers_of_doubled :
    let first := ofContext .empty
    let s := first.after doubled
    let last := first.after (doubled ++ [.published ⟨.schemaChanged, 1⟩])
    (runHandler 2).Acts ∧ first.Reaches (first.after (doubled.take 2)) ∧
      execute (runHandler 2) (.publish (.str "schema-changed")) (first.after (doubled.take 2)) =
        some (last, .ok (.delivered 1)) ∧
      first.Reaches last ∧ Course .acting first (doubled ++ [.published ⟨.schemaChanged, 1⟩]) ∧
      first.Lawful doubled ∧ s.bus.count .schemaChanged = 1 ∧
      (⟨1, .schemaChanged, guard⟩ : Registration Handler) ∈ s.bus.registered .schemaChanged ∧
      (∀ later, first.Lawful (doubled ++ later) →
        ∃ kept ∈ (s.after later).issued, kept.key = 2 ∧ ¬ kept.active) ∧
      ∃ fault : Fault, fault.kindName = "ValueError" ∧
        execute (runHandler 2) (.publish (.str "schema")) s = some (s, .error fault) := by
  intro first s last
  have hrun := acts_runHandler 2
  have hboth : first.Reaches (first.after (doubled.take 2)) :=
    ⟨_, .act (.subscribe _ _) (.act (.subscribe _ _) (.rest _)), rfl⟩
  have hends : execute (runHandler 2) (.publish (.str "schema-changed"))
      (first.after (doubled.take 2)) = some (last, .ok (.delivered 1)) := rfl
  obtain ⟨hreaches, hlawful, hpoints, hrefused⟩ := handles_tell_handlers .empty
  have hpoint : first.Lawful doubled := hlawful doubled _ course_doubled
  obtain ⟨-, -, hactive, -, hcount, hlater⟩ := hpoints doubled hpoint
  obtain ⟨fault, hkind, hunchanged⟩ := hrefused (.str "schema") schema_names_no_topic
  refine ⟨hrun, hboth, hends, hreaches _ hrun _ hboth _ _ _ hends, course_doubled, hpoint,
    ?_, ?_, ?_, fault, hkind, (hunchanged (runHandler 2) s).1⟩
  · exact (hcount .schemaChanged).trans (by decide)
  · exact (hactive _ List.mem_cons_self ⟨.schemaChanged, 1, true⟩ (by decide) rfl).1 rfl
  · intro later h
    obtain ⟨kept, hkept, hkey, -, hends⟩ := hlater later h ⟨.schemaChanged, 2, false⟩ (by decide)
    exact ⟨kept, hkept, hkey, fun hlives => Bool.false_ne_true (hends.1 hlives).1⟩

end Doubled

end Switchboard

end ErDiagram
