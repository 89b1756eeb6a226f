import ErDiagram.Proofs.Validation.Rereading

/-!
# Hidden columns in what is told

Each node is told with the number of columns that its box hides. The number is not read: a value that claims
another one, or one in a place where there is no node, is read as if it claimed none. What is told counts the
columns of each node anew, wherever the node stands in it.
-/

namespace ErDiagram

open Checked

namespace Json

/-- Whether a value is another one or stands in it, however deep. -/
inductive Within (part : Json) : Json → Prop
  | here : Within part part
  | item {items : List Json} {item : Json} (hmem : item ∈ items) (hinside : Within part item) :
      Within part (.arr items)
  | field {fields : Fields} {field : CodeString × Json} (hmem : field ∈ fields)
      (hinside : Within part field.2) : Within part (.obj fields)

/-- Whether an object, if it has a table as its payload, tells how many columns that has beyond the tenth. -/
def CountsColumns (fields : Fields) : Prop :=
  ∀ payload, field? fields "payload" = some payload →
    ∃ inner columns, payload = .obj inner ∧ field? inner "columns" = some (.arr columns) ∧
      field? fields "hidden_column_count" = some (.int (columns.length - 10 : Nat))

/-- Whether all objects in a value count the columns of their tables. -/
def IsCounted (value : Json) : Prop :=
  ∀ fields, Within (.obj fields) value → CountsColumns fields

theorem isCounted_of_plain {value : Json} (hlist : ∀ items, value ≠ .arr items)
    (hobject : ∀ fields, value ≠ .obj fields) : IsCounted value := by
  rintro fields (_ | _ | _)
  · exact absurd rfl (hobject _)
  · exact absurd rfl (hlist _)
  · exact absurd rfl (hobject _)

@[simp] theorem isCounted_str (s : CodeString) : IsCounted (.str s) := isCounted_of_plain nofun nofun

@[simp] theorem isCounted_int (n : Int) : IsCounted (.int n) := isCounted_of_plain nofun nofun

@[simp] theorem isCounted_real (x : Binary64) : IsCounted (.real x) := isCounted_of_plain nofun nofun

@[simp] theorem isCounted_bool (b : Bool) : IsCounted (.bool b) := isCounted_of_plain nofun nofun

@[simp] theorem isCounted_ofText? (s : Option CodeString) : IsCounted (ofText? s) := by
  cases s <;> exact isCounted_of_plain nofun nofun

@[simp] theorem isCounted_ofInt? (n : Option Int) : IsCounted (ofInt? n) := by
  cases n <;> exact isCounted_of_plain nofun nofun

@[simp] theorem isCounted_arr {items : List Json} :
    IsCounted (.arr items) ↔ ∀ item ∈ items, IsCounted item := by
  constructor
  · intro h item hmem fields hwithin
    exact h fields (.item hmem hwithin)
  · rintro h fields (_ | ⟨hmem, hwithin⟩)
    exact h _ hmem fields hwithin

@[simp] theorem isCounted_obj {fields : Fields} :
    IsCounted (.obj fields) ↔ CountsColumns fields ∧ ∀ field ∈ fields, IsCounted field.2 := by
  constructor
  · intro h
    exact ⟨h fields .here, fun field hmem inner hwithin => h inner (.field hmem hwithin)⟩
  · rintro ⟨hcounts, hfields⟩ inner (_ | _ | ⟨hmem, hwithin⟩)
    · exact hcounts
    · exact hfields _ hmem inner hwithin

mutual

/-- A value without the counts of hidden columns that it claims anywhere. -/
def withoutCounts : Json → Json
  | .arr items => .arr (itemsWithoutCounts items)
  | .obj fields => .obj (fieldsWithoutCounts fields)
  | value => value

def itemsWithoutCounts : List Json → List Json
  | [] => []
  | item :: rest => item.withoutCounts :: itemsWithoutCounts rest

/-- Fields without the one for the count, and without the counts that the others claim. -/
def fieldsWithoutCounts : Fields → Fields
  | [] => []
  | (name, value) :: rest =>
    if name = .whole "hidden_column_count" then fieldsWithoutCounts rest
    else (name, value.withoutCounts) :: fieldsWithoutCounts rest

end

/-- A field other than the count is there as it was, but for the counts in it. -/
theorem field?_fieldsWithoutCounts {fields : Fields} {name : CodeString} (h : name ≠ .whole "hidden_column_count") :
    field? (fieldsWithoutCounts fields) name = (field? fields name).map withoutCounts := by
  induction fields with
  | nil => rfl
  | cons field rest ih =>
      obtain ⟨other, value⟩ := field
      rw [fieldsWithoutCounts, field?_cons]
      split
      · next hcount => rw [ih, if_neg (by simp [hcount, h.symm])]
      · rw [field?_cons, ih]
        split <;> rfl

end Json

open Json

/-- Whether a check finds the same in a value that claims counts and in one that does not. -/
def IgnoresCounts {α : Type} (check : Json → Checked α) : Prop :=
  ∀ value : Json, check value.withoutCounts = check value

namespace IgnoresCounts

variable {α : Type} {check : Json → Checked α} {fields : Json.Fields} {name : String}

@[simp] theorem text : IgnoresCounts text := by
  rintro (_ | _) <;> rfl

@[simp] theorem integer : IgnoresCounts integer := by
  rintro (_ | _) <;> rfl

@[simp] theorem number : IgnoresCounts number := by
  rintro (_ | _) <;> rfl

@[simp] theorem truth : IgnoresCounts truth := by
  rintro (_ | _) <;> rfl

@[simp] theorem layoutKind : IgnoresCounts LayoutKind.check := by
  rintro (_ | _) <;> rfl

@[simp] theorem optional (h : IgnoresCounts check) : IgnoresCounts (optional check) := by
  intro value
  have hvalue := h value
  cases value with
  | null => rfl
  | _ => exact congrArg (some <$> ·) hvalue

theorem itemsFrom (h : IgnoresCounts check) (n : Nat) (items : List Json) :
    itemsFrom check n (itemsWithoutCounts items) = itemsFrom check n items := by
  induction items generalizing n with
  | nil => rfl
  | cons item rest ih => rw [itemsWithoutCounts, Json.itemsFrom, h item, ih, Json.itemsFrom]

@[simp] theorem listOf (h : IgnoresCounts check) : IgnoresCounts (listOf check) := by
  intro value
  cases value with
  | arr items => exact h.itemsFrom 0 items
  | _ => rfl

@[simp] theorem object {check : Json.Fields → Checked α}
    (h : ∀ fields, check (fieldsWithoutCounts fields) = check fields) : IgnoresCounts (object check) := by
  intro value
  cases value with
  | obj fields => exact h fields
  | _ => rfl

@[simp] theorem required (h : IgnoresCounts check) (hname : name ≠ "hidden_column_count") :
    required (fieldsWithoutCounts fields) name check = required fields name check := by
  rw [Json.required, field?_fieldsWithoutCounts (hname ∘ CodeString.whole.inj), Json.required]
  cases field? fields name with
  | none => rfl
  | some value => exact congrArg (under _) (h value)

@[simp] theorem withDefault {absent : α} (h : IgnoresCounts check) (hname : name ≠ "hidden_column_count") :
    withDefault (fieldsWithoutCounts fields) name absent check = withDefault fields name absent check := by
  rw [Json.withDefault, field?_fieldsWithoutCounts (hname ∘ CodeString.whole.inj), Json.withDefault]
  cases field? fields name with
  | none => rfl
  | some value => exact congrArg (under _) (h value)

end IgnoresCounts

/-! ### What is read

The checks of texts, numbers and truth values do not look into lists and objects, and no record has a field
for the count. -/

@[simp] theorem ListedTable.ignoresCounts : IgnoresCounts (object ofFields) :=
  .object fun fields => by simp [ofFields]

@[simp] theorem RawColumn.ignoresCounts : IgnoresCounts (object ofFields) :=
  .object fun fields => by simp [ofFields]

@[simp] theorem RawConstraint.ignoresCounts : IgnoresCounts (object ofFields) :=
  .object fun fields => by simp [ofFields]

@[simp] theorem RawForeignKey.ignoresCounts : IgnoresCounts (object ofFields) :=
  .object fun fields => by simp [ofFields]

@[simp] theorem RawStructure.ignoresCounts : IgnoresCounts (object ofFields) :=
  .object fun fields => by simp [ofFields]

@[simp] theorem Column.ignoresCounts : IgnoresCounts (object ofFields) :=
  .object fun fields => by simp [ofFields]

@[simp] theorem ForeignKey.ignoresCounts : IgnoresCounts (object ofFields) :=
  .object fun fields => by simp [ofFields]

@[simp] theorem Table.ignoresCounts : IgnoresCounts (object ofFields) :=
  .object fun fields => by simp [ofFields]

@[simp] theorem Diagnostic.ignoresCounts : IgnoresCounts (object ofFields) :=
  .object fun fields => by simp [ofFields]

@[simp] theorem Position.ignoresCounts : IgnoresCounts (object ofFields) :=
  .object fun fields => by simp [ofFields]

@[simp] theorem Node.ignoresCounts : IgnoresCounts (object ofFields) :=
  .object fun fields => by simp [ofFields]

@[simp] theorem Edge.ignoresCounts : IgnoresCounts (object ofFields) :=
  .object fun fields => by simp [ofFields]

@[simp] theorem Diagram.ignoresCounts : IgnoresCounts (object ofFields) :=
  .object fun fields => by simp [ofFields]

@[simp] theorem LayoutRequest.ignoresCounts : IgnoresCounts (object ofFields) :=
  .object fun fields => by simp [ofFields]

@[simp] theorem SchemaRequest.ignoresCounts : IgnoresCounts (object ofFields) :=
  .object fun fields => by simp [ofFields]

@[simp] theorem DatabaseRequest.ignoresCounts : IgnoresCounts (object ofFields) :=
  .object fun fields => by simp [ofFields]

@[simp] theorem Selection.ignoresCounts : IgnoresCounts (object ofFields) :=
  .object fun fields => by simp [ofFields]

@[simp] theorem Snapshot.ignoresCounts : IgnoresCounts (object ofFields) :=
  .object fun fields => by simp [ofFields]

@[simp] theorem Relation.ignoresCounts : IgnoresCounts (object ofFields) :=
  .object fun fields => by simp [ofFields]

@[simp] theorem Relationships.ignoresCounts : IgnoresCounts (object ofFields) :=
  .object fun fields => by simp [ofFields]

@[simp] theorem SignalReport.ignoresCounts : IgnoresCounts (object ofFields) :=
  .object fun fields => by simp [ofFields]

/-! ### What is told

A node is the one record that is told with a payload. -/

@[simp] theorem LayoutKind.isCounted_toJson (kind : LayoutKind) : IsCounted kind.toJson :=
  isCounted_str _

@[simp] theorem ListedTable.isCounted_toJson (row : ListedTable) : IsCounted row.toJson := by
  simp [toJson, CountsColumns, field?_cons]

@[simp] theorem RawColumn.isCounted_toJson (column : RawColumn) : IsCounted column.toJson := by
  simp [toJson, CountsColumns, field?_cons]

@[simp] theorem RawConstraint.isCounted_toJson (c : RawConstraint) : IsCounted c.toJson := by
  simp [toJson, CountsColumns, field?_cons]

@[simp] theorem RawForeignKey.isCounted_toJson (key : RawForeignKey) : IsCounted key.toJson := by
  simp [toJson, CountsColumns, field?_cons]

@[simp] theorem RawStructure.isCounted_toJson (s : RawStructure) : IsCounted s.toJson := by
  simp [toJson, CountsColumns, field?_cons]

@[simp] theorem Column.isCounted_toJson (column : Column) : IsCounted column.toJson := by
  simp [toJson, CountsColumns, field?_cons]

@[simp] theorem ForeignKey.isCounted_toJson (key : ForeignKey) : IsCounted key.toJson := by
  simp [toJson, CountsColumns, field?_cons]

@[simp] theorem Table.isCounted_toJson (t : Table) : IsCounted t.toJson := by
  simp [toJson, CountsColumns, field?_cons]

@[simp] theorem Diagnostic.isCounted_toJson (d : Diagnostic) : IsCounted d.toJson := by
  simp [toJson, CountsColumns, field?_cons]

@[simp] theorem Position.isCounted_toJson (p : Position) : IsCounted p.toJson := by
  simp [toJson, CountsColumns, field?_cons]

@[simp] theorem Node.isCounted_toJson (node : Node) : IsCounted node.toJson := by
  have hcounts : CountsColumns [("id", .str node.id), ("position", node.position.toJson),
      ("payload", node.table.toJson), ("hidden_column_count", .int node.hiddenColumnCount)] := by
    intro payload hpayload
    obtain rfl : node.table.toJson = payload := by simpa [field?_cons] using hpayload
    refine ⟨_, node.table.columns.map Column.toJson, rfl, by simp [field?_cons], ?_⟩
    simp [field?_cons, hiddenColumnCount_eq]
  rw [toJson, isCounted_obj]
  exact ⟨hcounts, by simp⟩

@[simp] theorem Edge.isCounted_toJson (edge : Edge) : IsCounted edge.toJson := by
  simp [toJson, CountsColumns, field?_cons]

@[simp] theorem Diagram.isCounted_toJson (diagram : Diagram) : IsCounted diagram.toJson := by
  simp [toJson, CountsColumns, field?_cons]

@[simp] theorem LayoutRequest.isCounted_toJson (request : LayoutRequest) : IsCounted request.toJson := by
  simp [toJson, CountsColumns, field?_cons]

@[simp] theorem SchemaRequest.isCounted_toJson (request : SchemaRequest) : IsCounted request.toJson := by
  simp [toJson, CountsColumns, field?_cons]

@[simp] theorem DatabaseRequest.isCounted_toJson (request : DatabaseRequest) : IsCounted request.toJson := by
  simp [toJson, CountsColumns, field?_cons]

@[simp] theorem Selection.isCounted_toJson (s : Selection) : IsCounted s.toJson := by
  simp [toJson, CountsColumns, field?_cons]

@[simp] theorem Snapshot.isCounted_toJson (s : Snapshot) : IsCounted s.toJson := by
  simp [toJson, CountsColumns, field?_cons]

@[simp] theorem Relation.isCounted_toJson (r : Relation) : IsCounted r.toJson := by
  simp [toJson, CountsColumns, field?_cons]

@[simp] theorem Relationships.isCounted_toJson (r : Relationships) : IsCounted r.toJson := by
  simp [toJson, CountsColumns, field?_cons]

@[simp] theorem SignalReport.isCounted_toJson (r : SignalReport) : IsCounted r.toJson := by
  simp [toJson, CountsColumns, field?_cons]

namespace RecordKind

variable (kind : RecordKind)

theorem ignoresCounts : IgnoresCounts (object kind.check) := by
  cases kind <;> simp [check]

theorem isCounted_toJson (record : kind.Value) : IsCounted (kind.toJson record) := by
  cases kind <;> simp [toJson]

/-- A value is read as a record exactly when it is without the counts that it claims. -/
theorem read_withoutCounts {data : Json} {record : kind.Value} :
    kind.read data.withoutCounts = .ok record ↔ kind.read data = .ok record := by
  cases data with
  | obj fields =>
      have hsame := kind.ignoresCounts (.obj fields)
      rw [withoutCounts, object_obj, object_obj] at hsame
      rw [withoutCounts, read, read, hsame]
  | arr items => simp [withoutCounts, read]
  | _ => exact .rfl

/-- A record that is told is read as itself, so that a value which is read, told and read again any number of
times ends where the first reading did. In what is told, every node has the number of its columns beyond the
tenth; what a value claims to be that number, anywhere in it, does not matter to what is read. -/
theorem reading_settles (data : Json) (record : kind.Value) :
    kind.read (kind.toJson record) = .ok record ∧
      (∀ n, kind.rounds data n = kind.read data) ∧
      IsCounted (kind.toJson record) ∧
      (kind.read data.withoutCounts = .ok record ↔ kind.read data = .ok record) :=
  ⟨kind.read_toJson record, kind.rounds_eq_read data, kind.isCounted_toJson record, kind.read_withoutCounts⟩

example : (do
    let claimed : Json := .obj [("id", .str "a"), ("hidden_column_count", .int 99),
      ("payload", .obj [("name", .str "a"), ("degraded", .str "no"), ("row_count_estimate", .bool true)])]
    return node.toJson (← node.rounds claimed 2) : Except Fault Json) =
      .ok (.obj [("id", .str "a"), ("position", Position.origin.toJson),
        ("payload", (⟨"a", [], [], some 1, false⟩ : Table).toJson), ("hidden_column_count", .int 0)]) := by
  rfl

end RecordKind

end ErDiagram
