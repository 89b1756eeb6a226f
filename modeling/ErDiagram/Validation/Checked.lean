import ErDiagram.Json.Value

/-!
# Checked values and the issues of a check

A check reads a JSON value as a value of a domain type and tells every issue it finds, each with the path
of field names and list positions that leads to it. Checks combine as applicative functors: issues of
independent parts are collected in the order of the parts, and the combined value exists only when no part
has one.
-/

namespace ErDiagram

/-- One step of the path to an issue. -/
inductive PathStep where
  | field (name : String)
  | item (index : Nat)
  deriving DecidableEq, Repr

/-- What is wrong with a value. -/
inductive IssueKind where
  | missing
  | notText
  /-- A string with half of a surrogate pair where characters have to spell something. -/
  | halvedText
  | notInteger
  | unreadableInteger
  | fractionalInteger
  | oversizedInteger
  | notFiniteNumber
  | notNumber
  | unreadableNumber
  | notTruth
  | unreadableTruth
  | notChoice
  | notList
  | notObject
  | notBody
  | unreadableBody
  deriving DecidableEq, Repr

def IssueKind.name : IssueKind → String
  | missing => "missing"
  | notText => "string_type"
  | halvedText => "string_unicode"
  | notInteger => "int_type"
  | unreadableInteger => "int_parsing"
  | fractionalInteger => "int_from_float"
  | oversizedInteger => "int_parsing_size"
  | notFiniteNumber => "finite_number"
  | notNumber => "float_type"
  | unreadableNumber => "float_parsing"
  | notTruth => "bool_type"
  | unreadableTruth => "bool_parsing"
  | notChoice => "enum"
  | notList => "list_type"
  | notObject => "model_type"
  | notBody => "model_attributes_type"
  | unreadableBody => "json_invalid"

structure Issue where
  path : List PathStep
  kind : IssueKind
  deriving DecidableEq, Repr

/-- The result of a check: a value, or the issues that stand in its way. -/
inductive Checked (α : Type) where
  | valid (value : α)
  | invalid (issues : List Issue)
  deriving Repr

namespace Checked

variable {α β : Type}

def map (f : α → β) : Checked α → Checked β
  | valid a => valid (f a)
  | invalid issues => invalid issues

/-- Applies a checked function to a checked argument, collecting the issues of both. -/
def ap : Checked (α → β) → Checked α → Checked β
  | valid f, valid a => valid (f a)
  | valid _, invalid issues => invalid issues
  | invalid issues, valid _ => invalid issues
  | invalid first, invalid second => invalid (first ++ second)

instance : Applicative Checked where
  pure := valid
  map := map
  seq f x := ap f (x ())

def fail (kind : IssueKind) : Checked α :=
  invalid [⟨[], kind⟩]

/-- Puts a step in front of the path of every issue. -/
def under (step : PathStep) : Checked α → Checked α
  | valid a => valid a
  | invalid issues => invalid (issues.map fun issue => { issue with path := step :: issue.path })

def toOption : Checked α → Option α
  | valid a => some a
  | invalid _ => none

@[simp] theorem pure_eq (a : α) : (pure a : Checked α) = valid a := rfl

@[simp] theorem map_valid (f : α → β) (a : α) : f <$> (valid a : Checked α) = valid (f a) := rfl

@[simp] theorem valid_seq_valid (f : α → β) (a : α) :
    (valid f <*> valid a : Checked β) = valid (f a) := rfl

@[simp] theorem under_valid (step : PathStep) (a : α) : (valid a).under step = valid a := rfl

theorem under_eq_valid {step : PathStep} {c : Checked α} {a : α} (h : c.under step = valid a) :
    c = valid a := by
  cases c with
  | valid b => exact h
  | invalid issues => simp [under] at h

theorem seq_eq_valid {f : Checked (α → β)} {x : Checked α} {b : β} (h : f <*> x = valid b) :
    ∃ g a, f = valid g ∧ x = valid a ∧ g a = b := by
  change ap f x = valid b at h
  cases f <;> cases x <;> simp_all [ap]

theorem map_eq_valid {f : α → β} {x : Checked α} {b : β} (h : f <$> x = valid b) :
    ∃ a, x = valid a ∧ f a = b := by
  change map f x = valid b at h
  cases x <;> simp_all [map]

end Checked

end ErDiagram
