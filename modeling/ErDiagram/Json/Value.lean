import ErDiagram.Number.Binary64
import ErDiagram.Text.CodeString

/-!
# JSON values

Metadata arrives as JSON. Whole numbers and numbers with a point or an exponent stay apart, because
validation treats them differently, and the fields of an object keep their order. A name that is written
twice keeps the place of its first use and the value of its last. Names and strings can hold halves of
surrogate pairs.
-/

namespace ErDiagram

inductive Json where
  | null
  | bool (value : Bool)
  | int (value : Int)
  | real (value : Binary64)
  | str (value : CodeString)
  | arr (items : List Json)
  | obj (fields : List (CodeString × Json))
  deriving Repr, Inhabited

namespace Json

abbrev Fields := List (CodeString × Json)

def field? (fields : Fields) (name : CodeString) : Option Json :=
  (fields.find? (·.1 = name)).map (·.2)

/-- Adds a field; a name already there keeps its place and takes the new value. -/
def putField (fields : Fields) (name : CodeString) (value : Json) : Fields :=
  if fields.any (·.1 = name) then
    fields.map fun f => if f.1 = name then (name, value) else f
  else fields ++ [(name, value)]

/-- An object from fields as written, later ones overriding earlier ones of the same name. -/
def ofFields (fields : Fields) : Json :=
  .obj (fields.foldl (fun seen f => putField seen f.1 f.2) [])

/-- Whether a value says anything: null, false, zero and what is empty do not. -/
def saysSomething : Json → Bool
  | .null => false
  | .bool value => value
  | .int value => value != 0
  | .real value => !value.isZero
  | .str value => value != .whole ""
  | .arr items => !items.isEmpty
  | .obj fields => !fields.isEmpty

def isText : Json → Bool
  | .str _ => true
  | _ => false

def ofText? : Option CodeString → Json
  | none => .null
  | some text => .str text

def ofInt? : Option Int → Json
  | none => .null
  | some n => .int n

@[simp] theorem field?_nil (name : CodeString) : field? [] name = none := rfl

theorem field?_cons (f : CodeString × Json) (rest : Fields) (name : CodeString) :
    field? (f :: rest) name = if f.1 = name then some f.2 else field? rest name := by
  by_cases h : f.1 = name <;> simp [field?, h]

end Json

end ErDiagram
