import ErDiagram.Context
import ErDiagram.Metadata.Raw

/-!
# Sources of metadata

A source is asked for the tables of a schema and for the structure of a table. It answers after a delay
with an outcome, and asking it may change its own state. A source sees the context as it stands when it
is asked.
-/

namespace ErDiagram

/-- What comes of asking for the tables of a schema. -/
inductive Listing where
  | tables (rows : List ListedTable)
  /-- A value that is no list of rows. -/
  | unlisted (value : Json)
  /-- Something that cannot be gone through, with the fault that says so. -/
  | broken (fault : Fault)
  deriving Repr, Inhabited

/-- The entries of a value: the items of a list, the names of an object's fields, the characters of a
text. -/
def Json.entries : Json → Except Fault (List Json)
  | .arr items => .ok items
  | .obj fields => .ok (fields.map fun f => .str f.1)
  | .str text => .ok (text.codes.map fun code => .str (.ofCodes [code]))
  | value => .error (.notList value)

/-- The rows of a listing. A value without entries has none, and the entries of any other value are no
rows. -/
def Listing.rows : Listing → Except Fault (List ListedTable)
  | tables rows => .ok rows
  | unlisted value =>
    match value.entries with
    | .error fault => .error fault
    | .ok [] => .ok []
    | .ok (entry :: _) => .error (.noAttribute entry "table_name")
  | broken fault => .error fault

@[simp] theorem Listing.rows_tables (rows : List ListedTable) : (tables rows).rows = .ok rows := rfl

theorem Listing.ne_tables_of_error {listing : Listing} {fault : Fault}
    (h : listing.rows = .error fault) (rows : List ListedTable) : listing ≠ .tables rows := by
  rintro rfl
  cases h

theorem Listing.rows_cases {listing : Listing} (h : ∀ rows, listing ≠ .tables rows) :
    listing.rows = .ok [] ∨ ∃ fault, listing.rows = .error fault := by
  cases listing with
  | tables rows => exact absurd rfl (h rows)
  | broken fault => exact .inr ⟨fault, rfl⟩
  | unlisted value =>
    rw [rows]
    split
    · exact .inr ⟨_, rfl⟩
    · exact .inl rfl
    · exact .inr ⟨_, rfl⟩

/-- An answer and the time until it arrives; none stands for an answer that never does. -/
structure Reply (α : Type) where
  delay : Option Nat
  outcome : Except Fault α

namespace Reply

variable {α : Type}

def immediate (outcome : Except Fault α) : Reply α := ⟨some 0, outcome⟩

end Reply

/-- What a source promises to end a question with: a value, or a fault of the service. -/
inductive IsPromised {α : Type} : Except Fault α → Prop
  | value (a : α) : IsPromised (.ok a)
  | service (message : CodeString) (status : Option Int) : IsPromised (.error (.service message status))

/-- How a source with states in `σ` answers. -/
structure MetadataSource (σ : Type) where
  listTables : Context → (schema : CodeString) → σ → Reply Listing × σ
  tableStructure : Context → (schema table : CodeString) → σ → Reply RawStructure × σ
  /-- Closes what the source keeps open. -/
  close : σ → σ

namespace RawStructure

/-- The structure that a value describes, which has to have fields. -/
def ofJson : Json → Except Fault RawStructure
  | .obj fields => Fault.ofChecked modelName (ofFields fields)
  | value => .error (.notFields ("metadata." ++ modelName) value)

end RawStructure

namespace ListedTable

/-- The listed table that a value describes, which has to have fields. -/
def ofJson : Json → Except Fault ListedTable
  | .obj fields => Fault.ofChecked modelName (ofFields fields)
  | value => .error (.notFields ("metadata." ++ modelName) value)

end ListedTable

end ErDiagram
