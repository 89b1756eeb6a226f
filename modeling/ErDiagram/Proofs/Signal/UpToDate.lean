import ErDiagram.Proofs.Signal.Course

/-!
# Subscribers that are up to date

A handler can set the schema again while a change of the schema is being told, so that handlers are told of
schemas that are no longer selected, and the older delivery goes on after the newer one. Still no subscriber
is left behind: whoever stays on the bus is due in the delivery that follows the last change, and is called
in it with the schema that the context keeps until everything has come to an end.
-/

namespace ErDiagram

namespace Switchboard

open Bus

section Setting

/-- Whether the schema is set, be it to another value or to the same. -/
def SetsSchema (happenings : List Happening) : Prop :=
  ∃ value, .changed (.schema value) ∈ happenings

theorem setsSchema_append {happenings later : List Happening} :
    SetsSchema (happenings ++ later) ↔ SetsSchema happenings ∨ SetsSchema later := by
  simp only [SetsSchema, List.mem_append, exists_or]

theorem SetsSchema.of_cons {h : Happening} {later : List Happening} (hset : SetsSchema (h :: later)) :
    (∃ value, h = .changed (.schema value)) ∨ SetsSchema later := by
  obtain ⟨value, hmem⟩ := hset
  rcases List.mem_cons.1 hmem with heq | hlater
  · exact .inl ⟨value, heq.symm⟩
  · exact .inr ⟨value, hlater⟩

private theorem occur_schema {h : Happening} (hkeeps : ∀ value, h ≠ .changed (.schema value))
    (s : Switchboard) : (s.occur h).context.schema = s.context.schema := by
  cases h with
  | changed change =>
      cases change with
      | schema value => exact absurd rfl (hkeeps value)
      | database value => rfl
      | connection value database => rfl
  | subscribed | released | cleared | started | published => rfl

private theorem after_schema {happenings : List Happening} (h : ¬ SetsSchema happenings) (s : Switchboard) :
    (s.after happenings).context.schema = s.context.schema := by
  induction happenings generalizing s with
  | nil => rfl
  | cons first later ih =>
      have hkeeps : ∀ value, first ≠ .changed (.schema value) := by
        rintro value rfl
        exact h ⟨value, List.mem_cons_self⟩
      have hlater : ¬ SetsSchema later := fun ⟨value, hmem⟩ =>
        h ⟨value, List.mem_cons_of_mem first hmem⟩
      rw [after_cons, ih hlater, occur_schema hkeeps]

end Setting

section Staying

variable {r : Registration Handler} {s : Switchboard}

/-- Whether a handler stays on the bus while things happen. -/
structure Stays (r : Registration Handler) (s : Switchboard) (happenings : List Happening) : Prop where
  ordered : s.bus.IsOrdered
  registered : r ∈ s.bus.registrations
  stays : (s.after happenings).bus.isRegistered r.topic r.key

theorem Stays.split {happenings later : List Happening} (h : Stays r s (happenings ++ later)) :
    Stays r s happenings ∧ Stays r (s.after happenings) later := by
  obtain ⟨hordered, hregistered, hstays⟩ := h
  rw [after_append] at hstays
  have hnow := s.after_evolves happenings
  have hlater := (s.after happenings).after_evolves later
  have hkey := Nat.lt_of_lt_of_le (hordered.lt_nextKey r hregistered) hnow.nextKey_le
  have hmid := hlater.isRegistered hkey hstays
  exact ⟨⟨hordered, hregistered, hmid⟩,
    ⟨hordered.evolves hnow, hordered.mem_of_isRegistered hnow hregistered hmid, hstays⟩⟩

theorem Stays.tail {h : Happening} {later : List Happening} (hstays : Stays r s (h :: later)) :
    Stays r (s.occur h) later :=
  (@Stays.split r s [h] later hstays).2

theorem Stays.isRegistered {happenings : List Happening} (h : Stays r s happenings) :
    s.bus.isRegistered r.topic r.key :=
  isRegistered_iff.2 ⟨r, h.registered, rfl, rfl⟩

theorem Stays.mem_registered {happenings : List Happening} (h : Stays r s happenings) :
    r ∈ s.bus.registered r.topic :=
  List.mem_filter.2 ⟨h.registered, by simp⟩

end Staying

/-- Whether a handler is called after the schema was set for the last time. -/
def IsTold (r : Registration Handler) (happenings : List Happening) : Prop :=
  ∃ before later, happenings = before ++ .started r :: later ∧ ¬ SetsSchema later

namespace IsTold

variable {r : Registration Handler} {happenings later : List Happening}

theorem append_left (h : IsTold r later) (happenings : List Happening) :
    IsTold r (happenings ++ later) := by
  obtain ⟨before, rest, rfl, hkeeps⟩ := h
  exact ⟨happenings ++ before, rest, (List.append_assoc _ _ _).symm, hkeeps⟩

theorem append_right (h : IsTold r happenings) (hlater : ¬ SetsSchema later) :
    IsTold r (happenings ++ later) := by
  obtain ⟨before, rest, rfl, hkeeps⟩ := h
  refine ⟨before, rest ++ later, by simp, ?_⟩
  rw [setsSchema_append, not_or]
  exact ⟨hkeeps, hlater⟩

/-- Of two parts, the later one tells if the schema is set in it, and the earlier one if not. -/
theorem of_parts (hnow : ¬ SetsSchema later → IsTold r happenings)
    (hlater : SetsSchema later → IsTold r later) : IsTold r (happenings ++ later) := by
  by_cases hset : SetsSchema later
  · exact (hlater hset).append_left happenings
  · exact (hnow hset).append_right hset

end IsTold

/-- Whether a stage is a delivery in which a handler is still due. -/
def Stage.Owes (r : Registration Handler) : Stage → Prop
  | .acting => False
  | .delivering topic due _ => topic = r.topic ∧ r ∈ due

/-- In every course in which the schema is set, or which calls those who are due, a subscriber who stays is
called, and after that the schema is not set again. -/
theorem Course.isTold {stage : Stage} {s : Switchboard} {happenings : List Happening}
    (course : Course stage s happenings) {r : Registration Handler}
    (htopic : r.topic = .schemaChanged) (hstays : Stays r s happenings)
    (hdue : SetsSchema happenings ∨ stage.Owes r) : IsTold r happenings := by
  induction course with
  | rest s =>
      obtain ⟨value, hmem⟩ : SetsSchema [] := hdue.resolve_right id
      cases hmem
  | @act s h later deed _ ih =>
      have hset : SetsSchema (h :: later) := hdue.resolve_right id
      have hlater : SetsSchema later := by
        rcases hset.of_cons with ⟨value, rfl⟩ | hlater
        · cases deed
        · exact hlater
      exact (ih hstays.tail (.inl hlater)).append_left [h]
  | @publish s now later topic _ _ ihnow ihlater =>
      obtain ⟨hnow, hlater⟩ := hstays.split
      have hset : SetsSchema now ∨ SetsSchema later := setsSchema_append.1 (hdue.resolve_right id)
      exact .of_parts (fun hnone => ihnow hnow (.inl (hset.resolve_right hnone)))
        fun hset => ihlater hlater (.inl hset)
  | @change s now later change _ _ ihnow ihlater =>
      obtain ⟨hnow, hlater⟩ := hstays.tail.split
      have hset : SetsSchema (.changed change :: (now ++ later)) := hdue.resolve_right id
      have htold : IsTold r (now ++ later) := by
        refine .of_parts (fun hnone => ?_) fun hset => ihlater hlater (.inl hset)
        rcases hset.of_cons with ⟨value, heq⟩ | hset
        · -- the change itself is told in the delivery that follows it
          cases heq
          have hmem := hstays.mem_registered
          rw [htopic] at hmem
          exact ihnow hnow (.inr ⟨htopic.symm, hmem⟩)
        · exact ihnow hnow (.inl ((setsSchema_append.1 hset).resolve_right hnone))
      exact htold.append_left [_]
  | record s topic count =>
      rcases hdue with ⟨value, hmem⟩ | ⟨-, hmem⟩
      · simp at hmem
      · cases hmem
  | @call s topic r' due count now later _ _ _ ihrun ihlater =>
      obtain ⟨hnow, hlater⟩ := hstays.tail.split
      by_cases howed : SetsSchema later ∨ (Stage.delivering topic due (count + 1)).Owes r
      · exact ((ihlater hlater howed).append_left now).append_left [_]
      · obtain ⟨hset, hnot⟩ := not_or.1 howed
        by_cases hearlier : SetsSchema now
        · exact ((ihrun hnow (.inl hearlier)).append_right hset).append_left [_]
        · -- nothing is set any more, so it is the turn of the handler itself
          have hnone : ¬ SetsSchema (now ++ later) := by
            rw [setsSchema_append, not_or]
            exact ⟨hearlier, hset⟩
          rcases hdue with hdue | ⟨hsame, hmem⟩
          · rcases hdue.of_cons with ⟨value, heq⟩ | hdue
            · cases heq
            · exact absurd hdue hnone
          · rcases List.mem_cons.1 hmem with rfl | hmem
            · exact ⟨[], now ++ later, rfl, hnone⟩
            · exact absurd ⟨hsame, hmem⟩ hnot
  | @pass s topic r' due count later off _ ih =>
      refine ih hstays (hdue.imp_right ?_)
      rintro ⟨hsame, hmem⟩
      refine ⟨hsame, (List.mem_cons.1 hmem).resolve_left ?_⟩
      rintro rfl
      have hon := hstays.isRegistered
      rw [← hsame, off] at hon
      cases hon

private theorem exists_last_of_mem {α : Type} {a : α} {xs : List α} (h : a ∈ xs) :
    ∃ before later, xs = before ++ a :: later ∧ a ∉ later := by
  obtain ⟨front, back, hsplit, hfront⟩ := List.eq_append_cons_of_mem (List.mem_reverse.2 h)
  refine ⟨back.reverse, front.reverse, ?_, by simpa using hfront⟩
  have hreversed := congrArg List.reverse hsplit
  simpa using hreversed

/-- From the last call of a handler that is told of the last schema on, the schema stays. -/
theorem IsTold.exists_last {r : Registration Handler} {happenings : List Happening}
    (h : IsTold r happenings) :
    ∃ before later, happenings = before ++ .started r :: later ∧ .started r ∉ later ∧
      ¬ SetsSchema (.started r :: later) := by
  obtain ⟨before, rest, rfl, hkeeps⟩ := h
  have hfrom : ∀ later, ¬ SetsSchema later → ¬ SetsSchema (.started r :: later) := by
    intro later hlater hset
    rcases hset.of_cons with ⟨value, heq⟩ | hset
    · cases heq
    · exact hlater hset
  by_cases hmem : .started r ∈ rest
  · obtain ⟨between, later, rfl, hlast⟩ := exists_last_of_mem hmem
    refine ⟨before ++ .started r :: between, later, by simp, hlast, ?_⟩
    exact fun hset => hkeeps (setsSchema_append.2 (.inr hset))
  · exact ⟨before, rest, rfl, hmem, hfrom rest hkeeps⟩

/-- Whatever handlers do, a command that comes to an end is a course of happenings. When the schema is set in
it, by the command or by handlers at any depth, everyone who is subscribed to changes of the schema before it
and still is after it has been called, and found at the start of the last call the schema that the context
has in the end. Who left the bus and came back is another subscriber. -/
theorem last_call_finds_schema {run : Runner} (hrun : run.Acts) {s last : Switchboard}
    (hbus : Evolves .empty s.bus) {command : Command} {reply : Except Fault CommandReply}
    (h : execute run command s = some (last, reply)) :
    s.Reaches last ∧
      ∀ happenings, Course .acting s happenings → s.after happenings = last →
        SetsSchema happenings →
        ∀ r ∈ s.bus.registered .schemaChanged, last.bus.isRegistered .schemaChanged r.key →
          ∃ before later, happenings = before ++ .started r :: later ∧ .started r ∉ later ∧
            (s.after before).context.schema = last.context.schema := by
  refine ⟨reaches_execute hrun h, ?_⟩
  rintro happenings hcourse rfl hset r hr hstays
  obtain ⟨hmem, htopic⟩ := List.mem_filter.1 hr
  have htopic : r.topic = .schemaChanged := of_decide_eq_true htopic
  have hstays : Stays r s happenings := ⟨IsOrdered.empty.evolves hbus, hmem, htopic ▸ hstays⟩
  obtain ⟨before, later, rfl, hlast, hkeeps⟩ :=
    (hcourse.isTold htopic hstays (.inl hset)).exists_last
  exact ⟨before, later, rfl, hlast, by rw [after_append, after_schema hkeeps]⟩

section Relay

/-- A handler that releases itself and sets the schema again. -/
def relay : Registration Handler :=
  ⟨1, .schemaChanged, ⟨"relay", [.release "relay", .change (.schema (some "crm"))], none⟩⟩

/-- A handler that looks on. -/
def viewer : Registration Handler := ⟨2, .schemaChanged, ⟨"viewer", [], none⟩⟩

/-- A handler that fails. -/
def auditor : Registration Handler :=
  ⟨3, .schemaChanged, ⟨"auditor", [], some (.missingKey "auditor")⟩⟩

def relayed : Switchboard :=
  (ofContext .empty).after [.subscribed .schemaChanged relay.handler,
    .subscribed .schemaChanged viewer.handler, .subscribed .schemaChanged auditor.handler]

/-- The turns of those who do nothing, to the end of a delivery. -/
def onlooking (count : Nat) : List Happening :=
  [.started viewer, .started auditor, .published ⟨.schemaChanged, count + 2⟩]

/-- What happens when the schema is set. The newer schema is told first, then the delivery of the older one
goes on. -/
def relaying : List Happening :=
  [.changed (.schema (some "public")), .started relay, .released ⟨.schemaChanged, 1, true⟩,
    .changed (.schema (some "crm"))] ++ onlooking 0 ++ onlooking 1

theorem course_onlooking {s : Switchboard} (hviewer : s.bus.isRegistered .schemaChanged 2)
    (hauditor : s.bus.isRegistered .schemaChanged 3) (count : Nat) :
    Course (.delivering .schemaChanged [viewer, auditor] count) s (onlooking count) :=
  .call hviewer (.rest _) (.call hauditor (.rest _) (.record _ _ _))

theorem course_relaying : Course .acting relayed relaying := by
  let set := relayed.occur (.changed (.schema (some "public")))
  have hrelay : Course .acting (set.occur (.started relay))
      (.released ⟨.schemaChanged, 1, true⟩ :: .changed (.schema (some "crm")) ::
        (onlooking 0 ++ [])) :=
    .act (.release (by decide)) (.change _ (course_onlooking (by decide) (by decide) 0) (.rest _))
  have hset : Course (.delivering .schemaChanged [relay, viewer, auditor] 0) set _ :=
    .call (by decide) hrelay (course_onlooking (by decide) (by decide) 1)
  have hcourse : Course .acting relayed _ := .change (.schema (some "public")) hset (.rest _)
  exact hcourse

/-- The viewer is told of the newer schema and then called once more, by the delivery of the older one. It
finds the newer schema both times. -/
theorem last_call_finds_schema_of_relay :
    (runHandler 2).Acts ∧ Evolves .empty relayed.bus ∧
      execute (runHandler 2) (.change (.schema (some "public"))) relayed =
        some (relayed.after relaying, .ok .done) ∧
      Course .acting relayed relaying ∧ SetsSchema relaying ∧
      viewer ∈ relayed.bus.registered .schemaChanged ∧
      (relayed.after relaying).bus.isRegistered .schemaChanged viewer.key ∧
      (relayed.after relaying).context.schema = some (.whole "crm") ∧
      ∃ before later, relaying = before ++ .started viewer :: later ∧ .started viewer ∉ later ∧
        (relayed.after before).context.schema = some (.whole "crm") := by
  have hrun := acts_runHandler 2
  have hbus : Evolves .empty relayed.bus := after_evolves (ofContext .empty) _
  have hends : execute (runHandler 2) (.change (.schema (some "public"))) relayed =
      some (relayed.after relaying, .ok .done) := rfl
  have hset : SetsSchema relaying := ⟨some "crm", by simp [relaying]⟩
  have hviewer : viewer ∈ relayed.bus.registered .schemaChanged :=
    List.mem_cons_of_mem _ List.mem_cons_self
  have hstays : (relayed.after relaying).bus.isRegistered .schemaChanged viewer.key := by decide
  obtain ⟨-, hfound⟩ := last_call_finds_schema hrun hbus hends
  exact ⟨hrun, hbus, hends, course_relaying, hset, hviewer, hstays, rfl,
    hfound relaying course_relaying rfl hset viewer hviewer hstays⟩

end Relay

end Switchboard

end ErDiagram
