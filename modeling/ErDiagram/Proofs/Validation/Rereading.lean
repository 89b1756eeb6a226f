import ErDiagram.Records

/-!
# Records that are told and read again

What a record tells of itself is spelled the plain way: texts as texts, numbers as numbers, every field in its
place. So the lenient checks, which accept other spellings too, have nothing to convert when they read it, and
find the record again. A kind of record reads back what it tells because its parts do, and a record that has
been read once stays as it is however often it is told and read.
-/

namespace ErDiagram

open Json Checked

/-- Whether a check finds every value in the form in which it is told. -/
def ReadsBack {α : Type} (check : Json → Checked α) (tell : α → Json) : Prop :=
  ∀ a, check (tell a) = .valid a

namespace Json

section

variable {α : Type} {name other : String} {value : Json} {rest : Json.Fields} {absent : α}
  {check : Json → Checked α}

@[simp] theorem required_cons_self :
    required ((.whole name, value) :: rest) name check = (check value).under (.field name) := by
  simp [required, field?_cons]

@[simp] theorem required_cons_of_ne (h : other ≠ name) :
    required ((.whole other, value) :: rest) name check = required rest name check := by
  simp [required, field?_cons, h]

@[simp] theorem withDefault_cons_self :
    withDefault ((.whole name, value) :: rest) name absent check =
      (check value).under (.field name) := by
  simp [withDefault, field?_cons]

@[simp] theorem withDefault_cons_of_ne (h : other ≠ name) :
    withDefault ((.whole other, value) :: rest) name absent check =
      withDefault rest name absent check := by
  simp [withDefault, field?_cons, h]

@[simp] theorem object_obj (check : Json.Fields → Checked α) (fields : Json.Fields) :
    object check (.obj fields) = check fields := rfl

end

@[simp] theorem optional_integer_ofInt? (n : Option Int) : optional integer (ofInt? n) = .valid n := by
  cases n <;> rfl

@[simp] theorem optional_text_ofText? (s : Option CodeString) : optional text (ofText? s) = .valid s := by
  cases s <;> rfl

end Json

namespace ReadsBack

variable {α : Type} {check : Json → Checked α} {tell : α → Json}

private theorem itemsFrom_map (h : ReadsBack check tell) (n : Nat) (xs : List α) :
    itemsFrom check n (xs.map tell) = .valid xs := by
  induction xs generalizing n with
  | nil => rfl
  | cons x rest ih => simp [itemsFrom, h x, ih]

theorem listOf_map (h : ReadsBack check tell) (xs : List α) :
    listOf check (.arr (xs.map tell)) = .valid xs :=
  h.itemsFrom_map 0 xs

end ReadsBack

theorem ListedTable.readsBack : ReadsBack (object ofFields) toJson := by
  intro row
  simp [toJson, ofFields]

theorem RawColumn.readsBack : ReadsBack (object ofFields) toJson := by
  intro column
  simp [toJson, ofFields]

theorem RawConstraint.readsBack : ReadsBack (object ofFields) toJson := by
  intro c
  simp [toJson, ofFields]

theorem RawForeignKey.readsBack : ReadsBack (object ofFields) toJson := by
  intro key
  simp [toJson, ofFields]

theorem RawStructure.readsBack : ReadsBack (object ofFields) toJson := by
  intro s
  simp [toJson, ofFields, RawColumn.readsBack.listOf_map, RawConstraint.readsBack.listOf_map,
    RawForeignKey.readsBack.listOf_map]

theorem Column.readsBack : ReadsBack (object ofFields) toJson := by
  intro column
  simp [toJson, ofFields]

theorem ForeignKey.readsBack : ReadsBack (object ofFields) toJson := by
  intro key
  simp [toJson, ofFields]

theorem Table.readsBack : ReadsBack (object ofFields) toJson := by
  intro t
  simp [toJson, ofFields, Column.readsBack.listOf_map, ForeignKey.readsBack.listOf_map]

theorem Diagnostic.readsBack : ReadsBack (object ofFields) toJson := by
  intro d
  simp [toJson, ofFields]

theorem Position.readsBack : ReadsBack (object ofFields) toJson := by
  intro p
  simp [toJson, ofFields]

theorem Node.readsBack : ReadsBack (object ofFields) toJson := by
  intro node
  simp [toJson, ofFields, Position.readsBack _, Table.readsBack _]

theorem Edge.readsBack : ReadsBack (object ofFields) toJson := by
  intro edge
  simp [toJson, ofFields]

theorem Diagram.readsBack : ReadsBack (object ofFields) toJson := by
  intro diagram
  simp [toJson, ofFields, Node.readsBack.listOf_map, Edge.readsBack.listOf_map]

theorem LayoutRequest.readsBack : ReadsBack (object ofFields) toJson := by
  intro request
  simp [toJson, ofFields]

theorem SchemaRequest.readsBack : ReadsBack (object ofFields) toJson := by
  intro request
  simp [toJson, ofFields]

theorem DatabaseRequest.readsBack : ReadsBack (object ofFields) toJson := by
  intro request
  simp [toJson, ofFields]

theorem Selection.readsBack : ReadsBack (object ofFields) toJson := by
  intro s
  simp [toJson, ofFields]

theorem Snapshot.readsBack : ReadsBack (object ofFields) toJson := by
  intro s
  simp [toJson, ofFields, Diagram.readsBack _, Diagnostic.readsBack.listOf_map]

theorem Relation.readsBack : ReadsBack (object ofFields) toJson := by
  intro r
  simp [toJson, ofFields]

theorem Relationships.readsBack : ReadsBack (object ofFields) toJson := by
  intro r
  simp [toJson, ofFields, Relation.readsBack.listOf_map]

theorem SignalReport.readsBack : ReadsBack (object ofFields) toJson := by
  intro r
  simp [toJson, ofFields]

namespace RecordKind

variable (kind : RecordKind)

/-- Every kind of record reads back what it tells. -/
theorem readsBack : ReadsBack (object kind.check) kind.toJson := by
  cases kind with
  | listedTable => exact ListedTable.readsBack
  | rawColumn => exact RawColumn.readsBack
  | rawConstraint => exact RawConstraint.readsBack
  | rawForeignKey => exact RawForeignKey.readsBack
  | rawStructure => exact RawStructure.readsBack
  | column => exact Column.readsBack
  | foreignKey => exact ForeignKey.readsBack
  | table => exact Table.readsBack
  | diagnostic => exact Diagnostic.readsBack
  | position => exact Position.readsBack
  | node => exact Node.readsBack
  | edge => exact Edge.readsBack
  | diagram => exact Diagram.readsBack
  | layoutRequest => exact LayoutRequest.readsBack
  | schemaRequest => exact SchemaRequest.readsBack
  | databaseRequest => exact DatabaseRequest.readsBack
  | selection => exact Selection.readsBack
  | snapshot => exact Snapshot.readsBack
  | relation => exact Relation.readsBack
  | relationships => exact Relationships.readsBack
  | signalReport => exact SignalReport.readsBack

/-- What is told is an object, and what a kind reads from it is the record. -/
theorem read_toJson (record : kind.Value) : kind.read (kind.toJson record) = .ok record := by
  have hback := kind.readsBack record
  cases htold : kind.toJson record with
  | obj fields =>
      rw [htold, object_obj] at hback
      rw [read, hback, Fault.ofChecked]
  | _ => rw [htold] at hback; cases hback

/-- A value that is read as a record, which is told and read again, a number of times. -/
def rounds (data : Json) : Nat → Except Fault kind.Value
  | 0 => kind.read data
  | n + 1 => do kind.read (kind.toJson (← rounds data n))

private theorem rounds_succ (data : Json) (n : Nat) : kind.rounds data (n + 1) = kind.rounds data n := by
  rw [rounds]
  cases kind.rounds data n with
  | error fault => rfl
  | ok record => exact kind.read_toJson record

theorem rounds_eq_read (data : Json) (n : Nat) : kind.rounds data n = kind.read data := by
  induction n with
  | zero => rfl
  | succ n ih => rw [rounds_succ, ih]

end RecordKind

end ErDiagram
