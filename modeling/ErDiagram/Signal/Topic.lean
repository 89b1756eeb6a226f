import ErDiagram.Fault

/-!
# Topics of signals

A signal says that something in the context has changed and carries nothing but its topic.
-/

namespace ErDiagram

inductive Topic where
  | schemaChanged
  | databaseChanged
  | connectionChanged
  deriving DecidableEq, Repr, Inhabited

namespace Topic

def name : Topic → String
  | schemaChanged => "schema-changed"
  | databaseChanged => "database-changed"
  | connectionChanged => "connection-changed"

def ofName? : String → Option Topic
  | "schema-changed" => some schemaChanged
  | "database-changed" => some databaseChanged
  | "connection-changed" => some connectionChanged
  | _ => none

def all : List Topic := [schemaChanged, databaseChanged, connectionChanged]

/-- The topic that a value names, or the fault that it names none. -/
def choose (value : Json) : Except Fault Topic :=
  match value with
  | .str s =>
    match s.text?.bind ofName? with
    | some topic => .ok topic
    | none => .error (.unknownChoice value "Topic")
  | _ => .error (.unknownChoice value "Topic")

@[simp] theorem ofName?_name (topic : Topic) : ofName? topic.name = some topic := by
  cases topic <;> rfl

@[simp] theorem choose_name (topic : Topic) : choose (.str topic.name) = .ok topic := by
  simp [choose]

theorem choose_eq_ok_iff {given : Json} {topic : Topic} :
    choose given = .ok topic ↔ given = .str topic.name := by
  constructor
  · intro h
    unfold choose at h
    split at h
    · next s =>
      cases s with
      | halved codes lone => cases h
      | whole text =>
          rw [CodeString.text?_whole, Option.bind_some] at h
          cases hname : ofName? text with
          | none => simp [hname] at h
          | some found =>
              obtain rfl : found = topic := by simpa [hname] using h
              unfold ofName? at hname
              split at hname <;> cases hname <;> rfl
    · cases h
  · rintro rfl
    exact choose_name topic

theorem exists_choose_eq_error {given : Json} (h : ∀ topic : Topic, given ≠ .str topic.name) :
    ∃ fault : Fault, choose given = .error fault ∧ fault.kindName = "ValueError" := by
  cases hchosen : choose given with
  | ok topic => exact absurd (choose_eq_ok_iff.1 hchosen) (h topic)
  | error fault =>
      refine ⟨fault, rfl, ?_⟩
      unfold choose at hchosen
      split at hchosen
      · split at hchosen
        · cases hchosen
        · cases hchosen
          rfl
      · cases hchosen
        rfl

end Topic

end ErDiagram
