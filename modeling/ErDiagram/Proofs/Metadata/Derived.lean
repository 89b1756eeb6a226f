import ErDiagram.Metadata.Table
import Mathlib.Data.List.Forall2

/-!
# What a derived table says

A derived table says of each reported column and each reported foreign key what the service said of it, one for
one and in their order. `Table.Describes` lists what that is, and the table that `Table.ofRaw` derives is the
only one that does. Constraints come in by the columns that a primary key names alone, so their order, how
often one is reported, and constraints of any other kind make no difference.
-/

namespace ErDiagram

/-- Whether a column says of a reported one what it is, in a structure with some constraints. -/
structure Column.Describes (constraints : List RawConstraint) (raw : RawColumn) (column : Column) :
    Prop where
  name : column.name = raw.name
  dataType : column.dataType = raw.dataType
  default : column.default = raw.default
  /-- Nulls are allowed by a text of three letters, the word YES in either case. -/
  nullable : column.nullable = true ↔
    ∃ y ∈ ['Y', 'y'], ∃ e ∈ ['E', 'e'], ∃ s ∈ ['S', 's', 'ſ'], raw.isNullable = String.ofList [y, e, s]
  isPrimaryKey : column.isPrimaryKey = true ↔
    raw.name ≠ "" ∧ ∃ c ∈ constraints, c.kind = "PRIMARY KEY" ∧ c.column = some raw.name

/-- Whether a foreign key says of a reported one what it is. -/
structure ForeignKey.Describes (raw : RawForeignKey) (key : ForeignKey) : Prop where
  constraint : key.constraint = raw.constraint
  sourceColumn : key.sourceColumn = raw.column
  targetTable : key.targetTable = raw.targetTable
  targetColumn : key.targetColumn = raw.targetColumn

/-- Whether a table says of a listed row and its structure what they are. -/
structure Table.Describes (row : ListedTable) (s : RawStructure) (t : Table) : Prop where
  name : t.name = row.name
  rowCount : t.rowCount = row.rowCount
  columns : List.Forall₂ (Column.Describes s.constraints) s.columns t.columns
  foreignKeys : List.Forall₂ ForeignKey.Describes s.foreignKeys t.foreignKeys
  degraded : t.degraded = false

/-- What a reported column is, its nullability and its part in the key left aside. -/
def RawColumn.identity (c : RawColumn) : CodeString × CodeString × Option CodeString :=
  (c.name, c.dataType, c.default)

/-- A relation that is the graph of a function relates a list to its image alone. -/
theorem forall₂_iff_map_eq {α β : Type} {R : α → β → Prop} {f : α → β}
    (h : ∀ a b, R a b ↔ f a = b) {as : List α} {bs : List β} :
    List.Forall₂ R as bs ↔ as.map f = bs := by
  have hgraph : R = fun a b => f a = b := by
    funext a b
    exact propext (h a b)
  rw [hgraph, ← List.forall₂_map_left_iff, List.forall₂_eq_eq_eq]

namespace Table

theorem spellsYes_iff {text : CodeString} :
    spellsYes text = true ↔
      ∃ y ∈ ['Y', 'y'], ∃ e ∈ ['E', 'e'], ∃ s ∈ ['S', 's', 'ſ'], text = String.ofList [y, e, s] := by
  unfold spellsYes
  split
  · next y e s h =>
    obtain rfl := CodeString.map_toList_text?.1 h
    constructor
    · intro hletters
      simp only [Bool.and_eq_true, Bool.or_eq_true, beq_iff_eq, or_assoc] at hletters
      obtain ⟨⟨hy, he⟩, hs⟩ := hletters
      exact ⟨y, by simpa using hy, e, by simpa using he, s, by simpa using hs, rfl⟩
    · rintro ⟨y', hy, e', he, s', hs, hletters⟩
      obtain ⟨rfl, rfl, rfl⟩ : y = y' ∧ e = e' ∧ s = s' := by simpa using hletters
      simp only [List.mem_cons, List.not_mem_nil, or_false] at hy he hs
      simp [hy, he, hs, or_assoc]
  · next h =>
    constructor
    · nofun
    · rintro ⟨y, -, e, -, s, -, hletters⟩
      exact absurd (CodeString.map_toList_text?.2 hletters) (h y e s)

theorem contains_primaryKeyColumns {constraints : List RawConstraint} {name : CodeString} :
    (primaryKeyColumns constraints).contains name = true ↔
      name ≠ "" ∧ ∃ c ∈ constraints, c.kind = "PRIMARY KEY" ∧ c.column = some name := by
  rw [List.contains_iff_mem]
  exact mem_primaryKeyColumns

/-- The column that is derived from a reported one. -/
def columnOf (constraints : List RawConstraint) (raw : RawColumn) : Column where
  name := raw.name
  dataType := raw.dataType
  nullable := spellsYes raw.isNullable
  default := raw.default
  isPrimaryKey := (primaryKeyColumns constraints).contains raw.name

/-- The foreign key that is derived from a reported one. -/
def foreignKeyOf (raw : RawForeignKey) : ForeignKey where
  constraint := raw.constraint
  sourceColumn := raw.column
  targetTable := raw.targetTable
  targetColumn := raw.targetColumn

theorem ofRaw_eq (row : ListedTable) (s : RawStructure) :
    ofRaw row s =
      { name := row.name
        columns := s.columns.map (columnOf s.constraints)
        foreignKeys := s.foreignKeys.map foreignKeyOf
        rowCount := row.rowCount
        degraded := false } := rfl

private theorem describes_columnOf_iff {constraints : List RawConstraint} {raw : RawColumn}
    {column : Column} :
    Column.Describes constraints raw column ↔ columnOf constraints raw = column := by
  constructor
  · rintro ⟨hname, htype, hdefault, hnullable, hkey⟩
    obtain ⟨name, dataType, nullable, default, isPrimaryKey⟩ := column
    simp only at hname htype hdefault hnullable hkey
    rw [← spellsYes_iff, ← Bool.eq_iff_iff] at hnullable
    rw [← contains_primaryKeyColumns, ← Bool.eq_iff_iff] at hkey
    rw [columnOf, hname, htype, hdefault, hnullable, hkey]
  · rintro rfl
    exact ⟨rfl, rfl, rfl, spellsYes_iff, contains_primaryKeyColumns⟩

private theorem describes_foreignKeyOf_iff {raw : RawForeignKey} {key : ForeignKey} :
    ForeignKey.Describes raw key ↔ foreignKeyOf raw = key := by
  constructor
  · rintro ⟨hconstraint, hsource, htable, hcolumn⟩
    obtain ⟨constraint, sourceColumn, targetTable, targetColumn⟩ := key
    simp only at hconstraint hsource htable hcolumn
    rw [foreignKeyOf, hconstraint, hsource, htable, hcolumn]
  · rintro rfl
    exact ⟨rfl, rfl, rfl, rfl⟩

private theorem describes_iff {row : ListedTable} {s : RawStructure} {t : Table} :
    Describes row s t ↔ ofRaw row s = t := by
  have hcolumns : List.Forall₂ (Column.Describes s.constraints) s.columns t.columns ↔
      s.columns.map (columnOf s.constraints) = t.columns :=
    forall₂_iff_map_eq (f := columnOf s.constraints) fun _ _ => describes_columnOf_iff
  have hkeys : List.Forall₂ ForeignKey.Describes s.foreignKeys t.foreignKeys ↔
      s.foreignKeys.map foreignKeyOf = t.foreignKeys :=
    forall₂_iff_map_eq (f := foreignKeyOf) fun _ _ => describes_foreignKeyOf_iff
  rw [ofRaw_eq]
  constructor
  · rintro ⟨hname, hcount, hcolumn, hkey, hdegraded⟩
    rw [← hname, ← hcount, hcolumns.1 hcolumn, hkeys.1 hkey, ← hdegraded]
  · rintro rfl
    exact ⟨rfl, rfl, hcolumns.2 rfl, hkeys.2 rfl, rfl⟩

/-- Constraints with the same primary keys among them lead to the same table. -/
theorem ofRaw_of_same_keys (row : ListedTable) {s : RawStructure} {constraints : List RawConstraint}
    (h : ∀ c : RawConstraint, c.kind = "PRIMARY KEY" → (c ∈ constraints ↔ c ∈ s.constraints)) :
    ofRaw row { s with constraints := constraints } = ofRaw row s := by
  have hkeys : ∀ name, (primaryKeyColumns constraints).contains name =
      (primaryKeyColumns s.constraints).contains name := by
    intro name
    rw [Bool.eq_iff_iff, contains_primaryKeyColumns, contains_primaryKeyColumns]
    refine and_congr_right fun _ => exists_congr fun c => ?_
    constructor
    · rintro ⟨hmem, hkind, hcolumn⟩
      exact ⟨(h c hkind).1 hmem, hkind, hcolumn⟩
    · rintro ⟨hmem, hkind, hcolumn⟩
      exact ⟨(h c hkind).2 hmem, hkind, hcolumn⟩
  have hcolumns : columnOf constraints = columnOf s.constraints := by
    funext raw
    simp only [columnOf, hkeys]
  simp only [ofRaw_eq, hcolumns]

/-- Nothing is lost but the wording of nullability and the constraints that do not matter. -/
theorem reported_of_ofRaw_eq {row row' : ListedTable} {s s' : RawStructure}
    (h : ofRaw row' s' = ofRaw row s) :
    row' = row ∧ s'.columns.map RawColumn.identity = s.columns.map RawColumn.identity ∧
      s'.foreignKeys = s.foreignKeys := by
  rw [ofRaw_eq, ofRaw_eq, Table.mk.injEq] at h
  obtain ⟨hname, hcolumns, hkeys, hcount, -⟩ := h
  refine ⟨?_, ?_, ?_⟩
  · obtain ⟨name, rowCount⟩ := row
    obtain ⟨name', rowCount'⟩ := row'
    exact congrArg₂ ListedTable.mk hname hcount
  · have hidentity := congrArg
      (List.map fun c : Column => (c.name, c.dataType, c.default)) hcolumns
    rw [List.map_map, List.map_map] at hidentity
    exact hidentity
  · refine List.map_injective_iff.2 ?_ hkeys
    intro key key' hkey
    obtain ⟨constraint, column, targetTable, targetColumn⟩ := key
    cases hkey
    rfl

/-- Every listed row and structure has one table that describes it, the derived one. The row, what its columns
are and its foreign keys can be read off that table again. As for constraints, it depends on which primary key
constraints there are: another order, repetitions and constraints of another kind change nothing. -/
theorem ofRaw_exact (row : ListedTable) (s : RawStructure) :
    (∀ t, Describes row s t ↔ t = ofRaw row s) ∧
      (∀ row' s', ofRaw row' s' = ofRaw row s →
        row' = row ∧ s'.columns.map RawColumn.identity = s.columns.map RawColumn.identity ∧
          s'.foreignKeys = s.foreignKeys) ∧
      ∀ constraints : List RawConstraint,
        (∀ c : RawConstraint, c.kind = "PRIMARY KEY" → (c ∈ constraints ↔ c ∈ s.constraints)) →
          ofRaw row { s with constraints := constraints } = ofRaw row s := by
  refine ⟨fun t => ?_, fun row' s' => reported_of_ofRaw_eq, fun constraints => ofRaw_of_same_keys row⟩
  rw [describes_iff, eq_comm]

/-- Two columns of one name, one without a name, and primary keys that name both, none and a missing one. -/
def tangled : RawStructure where
  columns := [⟨"id", "int", "NO", none⟩, ⟨"", "text", "yeſ", none⟩, ⟨"id", "uuid", "YES ", some "0"⟩,
    ⟨"note", "text", "YES", none⟩]
  constraints := [⟨"k", "PRIMARY KEY", some ""⟩, ⟨"k", "PRIMARY KEY", none⟩,
    ⟨"k", "PRIMARY KEY", some "lost"⟩, ⟨"k", "PRIMARY KEY", some "id"⟩]
  foreignKeys := [⟨"f", "id", "users", "id"⟩, ⟨"f", "id", "users", "id"⟩]

/-- Both columns of the name are in the key, and neither repeated constraints in another order nor other
kinds of constraints change that. -/
theorem ofRaw_exact_of_tangled :
    let row : ListedTable := ⟨"orders", some (-1)⟩
    let others : List RawConstraint := [⟨"n", "primary key", some "note"⟩, ⟨"u", "UNIQUE", some "note"⟩]
    let constraints := others ++ tangled.constraints.reverse ++ tangled.constraints
    Describes row tangled
        { name := "orders"
          columns := [⟨"id", "int", false, none, true⟩, ⟨"", "text", true, none, false⟩,
            ⟨"id", "uuid", false, some "0", true⟩, ⟨"note", "text", true, none, false⟩]
          foreignKeys := [⟨"f", "id", "users", "id"⟩, ⟨"f", "id", "users", "id"⟩]
          rowCount := some (-1)
          degraded := false } ∧
      (∀ c : RawConstraint, c.kind = "PRIMARY KEY" → (c ∈ constraints ↔ c ∈ tangled.constraints)) ∧
      ofRaw row { tangled with constraints := constraints } = ofRaw row tangled := by
  intro row others constraints
  obtain ⟨hexact, -, hkeys⟩ := ofRaw_exact row tangled
  have hothers : ∀ c ∈ others, c.kind ≠ "PRIMARY KEY" := by decide
  have hsame : ∀ c : RawConstraint, c.kind = "PRIMARY KEY" → (c ∈ constraints ↔ c ∈ tangled.constraints) := by
    intro c hkind
    have hnot : c ∉ others := fun hmem => hothers c hmem hkind
    simp only [constraints, List.mem_append, List.mem_reverse, hnot, false_or, or_self]
  exact ⟨(hexact _).2 (by decide), hsame, hkeys constraints hsame⟩

end Table

end ErDiagram
