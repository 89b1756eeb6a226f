import ErDiagram.Proofs.Source.Entries

/-!
# When a document keeps its promise

A source promises to end a question with a value or with a fault of the service. A document is not checked
before it is asked, and it passes on what goes wrong with its entries as it is, but for the issues of a
structure. So the promise is kept exactly when the entries that a question looks at have the form of rows:
all of them for the list, and for a table those in front of its entry and the entry itself.
-/

namespace ErDiagram

namespace SchemaDocument

variable {document : SchemaDocument} {schema table : CodeString} {value entry : Json} {items : List Json}

/-- Whether an entry is an object with a name for its table, of whatever sort the name is. -/
def HasName (entry : Json) : Prop :=
  ∃ fields name, entry = .obj fields ∧ Json.field? fields "table_name" = some name

/-- The items of the tables of a schema: those of a list, or none where the tables are an object without
fields or an empty text. -/
inductive Holds : Json → List Json → Prop
  | items (items : List Json) : Holds (.arr items) items
  | noFields : Holds (.obj []) []
  | noText : Holds (.str "") []

/-- Whether a search for a table gets through some items: those in front of the first one of that name have
names, and the structure of that one is an object. -/
structure IsSearchable (table : CodeString) (items : List Json) : Prop where
  named : ∀ item ∈ items.takeWhile (!isNamed table ·), HasName item
  structured : ∀ item, items.find? (isNamed table) = some item →
    ∃ fields, entryStructure item = .obj fields

theorem hasName_iff : HasName entry ↔ ∃ name, entryName entry = .ok name := by
  cases entry with
  | obj fields =>
      rw [entryName]
      cases hname : Json.field? fields "table_name" <;> simp [HasName, hname]
  | _ => simp [HasName, entryName]

theorem entryRow_iff_describesRow {row : ListedTable} :
    entryRow entry = .ok row ↔ DescribesRow entry row := by
  rw [entryRow_eq_ok_iff, ListedTable.ofJson_eq_ok_iff]

private theorem hasName_of_describesRow {row : ListedTable} (h : DescribesRow entry row) : HasName entry := by
  obtain ⟨text, htext, -⟩ := entryName_of_entryRow (entryRow_iff_describesRow.2 h)
  exact hasName_iff.2 ⟨_, htext⟩

theorem Holds.entries_eq (h : Holds value items) : value.entries = .ok items := by
  cases h with
  | items => rfl
  | noFields => rfl
  | noText => rfl

/-- Items of which the first has a name, if there is any, are held as a list or there are none. -/
theorem holds_of_entries (h : value.entries = .ok items)
    (hnamed : ∀ item ∈ items.head?, HasName item) : Holds value items := by
  have hnotext : ∀ text : CodeString, ¬ HasName (.str text) := by
    rintro text ⟨fields, name, hobj, -⟩
    cases hobj
  cases value with
  | arr found =>
      cases h
      exact .items _
  | obj fields =>
      cases h
      cases fields with
      | nil => exact .noFields
      | cons field rest => exact absurd (hnamed _ rfl) (hnotext _)
  | str text =>
      have hempty : text.codes = [] := by
        cases hcodes : text.codes with
        | nil => rfl
        | cons code rest =>
            rw [Json.entries, hcodes] at h
            cases h
            exact absurd (hnamed _ rfl) (hnotext _)
      obtain rfl : text = .whole "" := by
        rw [← CodeString.ofCodes_codes text, hempty]
        rfl
      cases h
      exact .noText
  | _ => cases h

theorem not_isPromised_of_entryName {α : Type} {fault : Fault} (h : entryName entry = .error fault) :
    ¬ IsPromised (.error fault : Except Fault α) := by
  rintro ⟨⟩
  cases entry with
  | obj fields =>
      rw [entryName] at h
      cases hname : Json.field? fields "table_name" <;> simp [hname] at h
  | _ => cases h

private theorem not_isPromised_of_entryRow {α : Type} {fault : Fault} (h : entryRow entry = .error fault) :
    ¬ IsPromised (.error fault : Except Fault α) := by
  cases hname : entryName entry with
  | error cause =>
      have hsame : entryRow entry = .error cause := by rw [entryRow, hname]; rfl
      cases h.symm.trans hsame
      exact not_isPromised_of_entryName hname
  | ok name =>
      rintro ⟨⟩
      rw [entryRow_of_entryName hname] at h
      obtain ⟨fields, -, rfl, -⟩ := hasName_iff.2 ⟨name, hname⟩
      rw [ListedTable.ofJson] at h
      cases hrow : ListedTable.ofFields fields <;> simp [hrow, Fault.ofChecked] at h

theorem not_isPromised_of_entries {α : Type} {fault : Fault} (h : value.entries = .error fault) :
    ¬ IsPromised (.error fault : Except Fault α) := by
  rintro ⟨⟩
  cases value <;> cases h

/-- A search that ends has seen names in front of the first entry of its name. -/
theorem hasName_of_findEntry {found : Option Json} (h : findEntry table items = .ok found) :
    ∀ item ∈ items.takeWhile (!isNamed table ·), HasName item := by
  induction items with
  | nil => nofun
  | cons first rest ih =>
      cases hfirst : isNamed table first with
      | true => rw [List.takeWhile_cons_of_neg (by simp [hfirst])]; nofun
      | false =>
          rw [List.takeWhile_cons_of_pos (by simp [hfirst]), List.forall_mem_cons]
          rw [findEntry, bind_eq_ok_iff] at h
          obtain ⟨name, hname, h⟩ := h
          refine ⟨hasName_iff.2 ⟨name, hname⟩, ?_⟩
          split at h
          · next text =>
            have hother : text ≠ table := by
              rintro rfl
              simp [isNamed_iff.2 hname] at hfirst
            rw [if_neg hother] at h
            exact ih h
          · exact ih h

/-- A search ends when there are names in front of the first entry of its name, and finds that. -/
theorem findEntry_eq_ok_iff {found : Option Json} :
    findEntry table items = .ok found ↔
      (∀ item ∈ items.takeWhile (!isNamed table ·), HasName item) ∧
        items.find? (isNamed table) = found := by
  constructor
  · intro h
    have hnamed := hasName_of_findEntry h
    rw [findEntry_of_named fun item hitem => hasName_iff.1 (hnamed item hitem)] at h
    exact ⟨hnamed, Except.ok.inj h⟩
  · rintro ⟨hnamed, rfl⟩
    exact findEntry_of_named fun item hitem => hasName_iff.1 (hnamed item hitem)

/-- A search fails at an entry without a name alone. -/
theorem not_isPromised_of_findEntry {α : Type} {fault : Fault}
    (h : findEntry table items = .error fault) : ¬ IsPromised (.error fault : Except Fault α) := by
  induction items with
  | nil => cases h
  | cons first rest ih =>
      rw [findEntry] at h
      cases hname : entryName first with
      | error cause =>
          cases h.symm.trans (congrArg (· >>= _) hname)
          exact not_isPromised_of_entryName hname
      | ok name =>
          simp only [hname, bind, Except.bind] at h
          split at h
          · split at h
            · cases h
            · exact ih h
          · exact ih h

theorem entriesOf_of_some (h : Json.field? document.schemas schema = some value) :
    document.entriesOf schema = value.entries := by
  rw [entriesOf, h]

/-- The list of a schema has a row for each of its items, in order, and is told exactly when all of them
describe rows. -/
theorem listTables_eq_ok_iff {rows : List ListedTable} :
    document.listTables schema = .ok (.tables rows) ↔
      ∃ value items, Json.field? document.schemas schema = some value ∧ Holds value items ∧
        List.Forall₂ DescribesRow items rows := by
  rw [listTables, bind_eq_ok_iff]
  simp only [bind_eq_ok_iff, pure, Except.pure, Except.ok.injEq, Listing.tables.injEq, exists_eq_right,
    mapM_eq_ok_iff_forall₂, entryRow_iff_describesRow]
  constructor
  · rintro ⟨items, hentries, hrows⟩
    cases hvalue : Json.field? document.schemas schema with
    | none => simp [entriesOf, hvalue] at hentries
    | some value =>
        rw [entriesOf_of_some hvalue] at hentries
        refine ⟨value, items, rfl, holds_of_entries hentries fun item hitem => ?_, hrows⟩
        obtain ⟨row, -, hrow⟩ := (exists_mem_of_forall₂ hrows).1 item (List.mem_of_mem_head? hitem)
        exact hasName_of_describesRow hrow
  · rintro ⟨value, items, hvalue, hholds, hrows⟩
    exact ⟨items, by rw [entriesOf_of_some hvalue, hholds.entries_eq], hrows⟩

/-- Where a schema is there, its list is promised exactly when it is told. -/
theorem isPromised_listTables_iff (h : Json.field? document.schemas schema = some value) :
    IsPromised (document.listTables schema) ↔
      ∃ items, Holds value items ∧ ∀ item ∈ items, ∃ row, DescribesRow item row := by
  constructor
  · intro hpromised
    rw [listTables, entriesOf_of_some h] at hpromised
    cases hentries : value.entries with
    | error fault =>
        rw [hentries] at hpromised
        exact absurd hpromised (not_isPromised_of_entries hentries)
    | ok items =>
        cases hread : items.mapM entryRow with
        | error fault =>
            simp only [hentries, hread, bind, Except.bind] at hpromised
            obtain ⟨item, -, hitem⟩ := exists_of_mapM_eq_error hread
            exact absurd hpromised (not_isPromised_of_entryRow hitem)
        | ok rows =>
            have hlist : document.listTables schema = .ok (.tables rows) := by
              simp only [listTables, entriesOf_of_some h, hentries, hread, bind, Except.bind]
              rfl
            obtain ⟨_, found, hvalue, hholds, hrows⟩ := listTables_eq_ok_iff.1 hlist
            cases h.symm.trans hvalue
            refine ⟨found, hholds, fun item hitem => ?_⟩
            obtain ⟨row, -, hrow⟩ := (exists_mem_of_forall₂ hrows).1 item hitem
            exact ⟨row, hrow⟩
  · rintro ⟨items, hholds, hrows⟩
    obtain ⟨rows, hread⟩ : ∃ rows, items.mapM entryRow = .ok rows := by
      refine exists_mapM_eq_ok fun item hitem => ?_
      obtain ⟨row, hrow⟩ := hrows item hitem
      exact ⟨row, entryRow_iff_describesRow.2 hrow⟩
    have heach := (mapM_eq_ok_iff_forall₂.1 hread).imp fun _ _ => entryRow_iff_describesRow.1
    rw [listTables_eq_ok_iff.2 ⟨value, items, h, hholds, heach⟩]
    exact .value _

/-- The structure of an entry, as it is told of a table. -/
def structureOf (schema table : CodeString) (entry : Json) : Except Fault RawStructure :=
  match RawStructure.ofJson (entryStructure entry) with
  | .error (.invalid model issues) => .error (malformedStructure schema table (.invalid model issues))
  | outcome => outcome

theorem tableStructure_of_found {found : Option Json} (hentries : document.entriesOf schema = .ok items)
    (hfound : findEntry table items = .ok found) :
    document.tableStructure schema table =
      found.elim
        (.error (.service ("Table '" ++ schema ++ "." ++ table ++ "' does not exist") (some 404)))
        (structureOf schema table) := by
  simp only [tableStructure, hentries, hfound, bind, Except.bind]
  cases found <;> rfl

theorem isPromised_structureOf_iff :
    IsPromised (structureOf schema table entry) ↔ ∃ fields, entryStructure entry = .obj fields := by
  rw [structureOf]
  constructor
  · intro h
    cases hentry : entryStructure entry with
    | obj fields => exact ⟨fields, rfl⟩
    | _ => rw [hentry] at h; cases h
  · rintro ⟨fields, hentry⟩
    rw [hentry, RawStructure.ofJson]
    cases RawStructure.ofFields fields with
    | valid raw => exact .value raw
    | invalid issues => exact .service _ _

/-- A search gets through to the first entry of its name only where items are held. -/
theorem holds_of_named (h : value.entries = .ok items)
    (hnamed : ∀ item ∈ items.takeWhile (!isNamed table ·), HasName item) : Holds value items := by
  refine holds_of_entries h fun item hitem => ?_
  cases items with
  | nil => cases hitem
  | cons first rest =>
      cases hitem
      cases hfirst : isNamed table item with
      | true => exact hasName_iff.2 ⟨_, isNamed_iff.1 hfirst⟩
      | false =>
          apply hnamed
          rw [List.takeWhile_cons_of_pos (by simp [hfirst])]
          exact List.mem_cons_self

/-- A table is promised exactly when the search for it gets through. -/
theorem isPromised_tableStructure_iff (h : Json.field? document.schemas schema = some value) :
    IsPromised (document.tableStructure schema table) ↔
      ∃ items, Holds value items ∧ IsSearchable table items := by
  have hschema := entriesOf_of_some h
  constructor
  · intro hpromised
    cases hentries : value.entries with
    | error fault =>
        rw [hentries] at hschema
        simp only [tableStructure, hschema, bind, Except.bind] at hpromised
        exact absurd hpromised (not_isPromised_of_entries hentries)
    | ok items =>
        rw [hentries] at hschema
        cases hfound : findEntry table items with
        | error fault =>
            simp only [tableStructure, hschema, hfound, bind, Except.bind] at hpromised
            exact absurd hpromised (not_isPromised_of_findEntry hfound)
        | ok found =>
            obtain ⟨hnamed, rfl⟩ := findEntry_eq_ok_iff.1 hfound
            rw [tableStructure_of_found hschema hfound] at hpromised
            refine ⟨items, holds_of_named hentries hnamed, hnamed, fun item hitem => ?_⟩
            rw [hitem] at hpromised
            exact isPromised_structureOf_iff.1 hpromised
  · rintro ⟨items, hholds, hsearch⟩
    rw [hholds.entries_eq] at hschema
    rw [tableStructure_of_found hschema (findEntry_eq_ok_iff.2 ⟨hsearch.named, rfl⟩)]
    cases hitem : items.find? (isNamed table) with
    | none => exact .service _ _
    | some item => exact isPromised_structureOf_iff.2 (hsearch.structured item hitem)

private theorem takeWhile_find?_of_split {before : List Json} (after : List Json)
    (hbefore : ∀ other ∈ before, isNamed table other = false) (hentry : isNamed table entry) :
    (before ++ entry :: after).takeWhile (!isNamed table ·) = before ∧
      (before ++ entry :: after).find? (isNamed table) = some entry := by
  constructor
  · rw [List.takeWhile_append_of_pos (by simpa using hbefore),
      List.takeWhile_cons_of_neg (by simp [hentry]), List.append_nil]
  · rw [List.find?_append, List.find?_eq_none.2 (by simpa using hbefore), Option.none_or,
      List.find?_cons_of_pos hentry]

/-- A table whose entry describes it is told exactly when the entries in front have names. -/
theorem tableStructure_eq_ok_iff_of_split {before after : List Json} {raw : RawStructure}
    (h : Json.field? document.schemas schema = some (.arr (before ++ entry :: after)))
    (hbefore : ∀ other ∈ before, isNamed table other = false) (hentry : isNamed table entry)
    (hraw : DescribesStructure (entryStructure entry) raw) :
    document.tableStructure schema table = .ok raw ↔ ∀ other ∈ before, HasName other := by
  obtain ⟨hseen, hfind⟩ := takeWhile_find?_of_split after hbefore hentry
  constructor
  · intro hok
    have hpromised : IsPromised (document.tableStructure schema table) := by
      rw [hok]
      exact .value raw
    obtain ⟨items, hholds, hsearch⟩ := (isPromised_tableStructure_iff h).1 hpromised
    cases hholds
    rw [← hseen]
    exact hsearch.named
  · intro hnamed
    have hfound : findEntry table (before ++ entry :: after) = .ok (some entry) :=
      findEntry_eq_ok_iff.2 ⟨by rwa [hseen], hfind⟩
    rw [tableStructure_of_found (entriesOf_of_some h) hfound, Option.elim_some, structureOf,
      RawStructure.ofJson_eq_ok_iff.2 hraw]

theorem isPromised_of_absent (table : CodeString) (h : Json.field? document.schemas schema = none) :
    IsPromised (document.listTables schema) ∧ IsPromised (document.tableStructure schema table) := by
  have hentries : document.entriesOf schema =
      .error (.service ("Schema '" ++ schema ++ "' does not exist") (some 404)) := by
    rw [entriesOf, h]
  simp only [listTables, tableStructure, hentries, bind, Except.bind]
  exact ⟨.service _ _, .service _ _⟩

/-- A document lists the tables of a schema, each as its item describes it, and otherwise keeps the promise
only where there is no such schema. It keeps the promise for a table exactly when there is no such schema or
the search for the table gets through: items in front of its entry need names, and its structure has to be
an object. So an item harms a table that is described well exactly when it stands in front of it and has no
name; whatever else is wrong with it, and whatever stands behind the entry, does not matter. -/
theorem keeps_promise_iff (document : SchemaDocument) (schema : CodeString) :
    (∀ rows, document.listTables schema = .ok (.tables rows) ↔
      ∃ value items, Json.field? document.schemas schema = some value ∧ Holds value items ∧
        List.Forall₂ DescribesRow items rows) ∧
    (IsPromised (document.listTables schema) ↔
      ∀ value, Json.field? document.schemas schema = some value →
        ∃ items, Holds value items ∧ ∀ item ∈ items, ∃ row, DescribesRow item row) ∧
    (∀ table, IsPromised (document.tableStructure schema table) ↔
      ∀ value, Json.field? document.schemas schema = some value →
        ∃ items, Holds value items ∧ IsSearchable table items) ∧
    ∀ before entry after table raw,
      Json.field? document.schemas schema = some (.arr (before ++ entry :: after)) →
      (∀ other ∈ before, isNamed table other = false) → isNamed table entry →
      DescribesStructure (entryStructure entry) raw →
      (document.tableStructure schema table = .ok raw ↔ ∀ other ∈ before, HasName other) := by
  refine ⟨fun rows => listTables_eq_ok_iff, ?_, fun table => ?_,
    fun before entry after table raw h hbefore hentry hraw =>
      tableStructure_eq_ok_iff_of_split h hbefore hentry hraw⟩
  · cases hschema : Json.field? document.schemas schema with
    | none => exact iff_of_true (isPromised_of_absent "" hschema).1 nofun
    | some value => simp [isPromised_listTables_iff hschema]
  · cases hschema : Json.field? document.schemas schema with
    | none => exact iff_of_true (isPromised_of_absent table hschema).2 nofun
    | some value => simp [isPromised_tableStructure_iff hschema]

/-- A row with a name that is no text, in front of one that is described well and something that is no row. -/
def numbered : List Json :=
  [.obj [("table_name", .int 1), ("structure", .null)],
    .obj [("table_name", .str "users"), ("structure", .obj [])], .str "orders"]

/-- Rows with a wrong name in front of a table and anything behind it do not harm it. -/
theorem keeps_promise_iff_of_numbered :
    let document : SchemaDocument := ⟨[("public", .arr numbered)]⟩
    document.tableStructure "public" "users" = .ok ⟨[], [], []⟩ ∧
      ¬ IsPromised (document.listTables "public") := by
  intro document
  obtain ⟨-, hlist, -, hsplit⟩ := keeps_promise_iff document "public"
  constructor
  · refine (hsplit [.obj [("table_name", .int 1), ("structure", .null)]] _ [.str "orders"] "users" _ rfl
      ?_ rfl ⟨_, rfl, rfl⟩).2 ?_
    · exact List.forall_mem_singleton.2 rfl
    · exact List.forall_mem_singleton.2 ⟨_, _, rfl, rfl⟩
  · intro hpromised
    obtain ⟨items, hholds, hrows⟩ := hlist.1 hpromised _ rfl
    cases hholds
    obtain ⟨row, fields, hobj, -⟩ := hrows (.str "orders") (by simp [numbered])
    cases hobj

/-- A row without a name in front of one that is described well. -/
def nameless : List Json :=
  [.obj [("row_count", .int 1)], .obj [("table_name", .str "users"), ("structure", .obj [])]]

/-- A row without a name breaks the promise for the list and for a table that is described well. -/
theorem promise_broken_by_nameless :
    let document : SchemaDocument := ⟨[("public", .arr nameless)]⟩
    ofJson (.obj [("schemas", .obj [("public", .obj [("tables", .arr nameless)])])]) = .ok document ∧
      document.listTables "public" = .error (.missingKey "table_name") ∧
      ¬ IsPromised (document.listTables "public") ∧
      (∃ entry raw, nameless[1]? = some entry ∧ isNamed "users" entry ∧
        DescribesStructure (entryStructure entry) raw) ∧
      document.tableStructure "public" "users" = .error (.missingKey "table_name") ∧
      ¬ IsPromised (document.tableStructure "public" "users") := by
  intro document
  have hlist : document.listTables "public" = .error (.missingKey "table_name") := rfl
  have htable : document.tableStructure "public" "users" = .error (.missingKey "table_name") := rfl
  refine ⟨rfl, hlist, ?_, ⟨_, ⟨[], [], []⟩, rfl, rfl, _, rfl, rfl⟩, htable, ?_⟩
  · rw [hlist]
    nofun
  · rw [htable]
    nofun

end SchemaDocument

end ErDiagram
