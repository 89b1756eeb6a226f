import ErDiagram.Proofs.Computation
import ErDiagram.Source.Remote

/-!
# Entries of a document as rows of a service

A document and a service read the same rows in different ways. A document picks the fields that it needs
from an entry and looks for the first entry of a name; a service is told each row whole and asked for each
name. They make the same of it: a list is read by one exactly when it is read by the other, with the same
rows, and a structure that one finds is the one that the other is told.
-/

namespace ErDiagram

open Json

theorem Fault.ofChecked_eq_ok_iff {α : Type} {model : String} {checked : Checked α} {value : α} :
    Fault.ofChecked model checked = .ok value ↔ checked = .valid value := by
  cases checked <;> simp [Fault.ofChecked]

/-- Whether a value is an object whose fields describe a row. -/
def DescribesRow (value : Json) (row : ListedTable) : Prop :=
  ∃ fields, value = .obj fields ∧ ListedTable.ofFields fields = .valid row

/-- Whether a value is an object whose fields describe a structure. -/
def DescribesStructure (value : Json) (raw : RawStructure) : Prop :=
  ∃ fields, value = .obj fields ∧ RawStructure.ofFields fields = .valid raw

theorem ListedTable.ofJson_eq_ok_iff {value : Json} {row : ListedTable} :
    ListedTable.ofJson value = .ok row ↔ DescribesRow value row := by
  cases value <;> simp [ListedTable.ofJson, DescribesRow, Fault.ofChecked_eq_ok_iff]

theorem RawStructure.ofJson_eq_ok_iff {value : Json} {raw : RawStructure} :
    RawStructure.ofJson value = .ok raw ↔ DescribesStructure value raw := by
  cases value <;> simp [RawStructure.ofJson, DescribesStructure, Fault.ofChecked_eq_ok_iff]

namespace SchemaDocument

variable {entry : Json} {row : ListedTable}

def isNamed (name : CodeString) (entry : Json) : Bool :=
  match entryName entry with
  | .ok (.str text) => text = name
  | _ => false

theorem isNamed_iff {name : CodeString} : isNamed name entry ↔ entryName entry = .ok (.str name) := by
  rw [isNamed]
  split
  · next text h => simp [h]
  · next h => simpa using fun hname => h _ hname

theorem entryRow_of_entryName {name : Json} (h : entryName entry = .ok name) :
    entryRow entry = ListedTable.ofJson entry := by
  cases entry with
  | obj fields =>
      have hname : field? fields "table_name" = some name := by
        cases hfield : field? fields "table_name" with
        | none => simp [entryName, hfield] at h
        | some found => simpa [entryName, hfield] using h
      simp only [entryRow, h, ListedTable.ofJson, ListedTable.ofFields, required, withDefault, hname,
        entryRowCount]
      cases hcount : field? fields "row_count" with
      | some count => rfl
      | none => rfl
  | _ => cases h

private theorem entryName_of_ofJson (h : ListedTable.ofJson entry = .ok row) :
    ∃ name, entryName entry = .ok name := by
  cases entry with
  | obj fields =>
      cases hfield : field? fields "table_name" with
      | some name => exact ⟨name, by simp [entryName, hfield]⟩
      | none =>
          obtain ⟨make, count, hmake, -, -⟩ := Checked.seq_eq_valid (Fault.ofChecked_eq_ok_iff.1 h)
          obtain ⟨name, hname, -⟩ := Checked.map_eq_valid hmake
          rw [required, hfield] at hname
          cases hname
  | _ => cases h

theorem entryRow_eq_ok_iff : entryRow entry = .ok row ↔ ListedTable.ofJson entry = .ok row := by
  constructor
  · intro h
    cases hname : entryName entry with
    | ok name => rwa [← entryRow_of_entryName hname]
    | error fault => simp [entryRow, hname, bind, Except.bind] at h
  · intro h
    obtain ⟨name, hname⟩ := entryName_of_ofJson h
    rwa [entryRow_of_entryName hname]

theorem entryName_of_entryRow (h : entryRow entry = .ok row) :
    ∃ text : CodeString, entryName entry = .ok (.str text) ∧ row.name = text := by
  cases hname : entryName entry with
  | error fault => simp [entryRow, hname, bind, Except.bind] at h
  | ok name =>
      simp only [entryRow, hname, bind, Except.bind] at h
      obtain ⟨make, count, hmake, -, hrow⟩ := Checked.seq_eq_valid (Fault.ofChecked_eq_ok_iff.1 h)
      obtain ⟨text, htext, rfl⟩ := Checked.map_eq_valid hmake
      have hchecked : Json.text name = .valid text := Checked.under_eq_valid htext
      cases name with
      | str spelling =>
          refine ⟨spelling, rfl, ?_⟩
          obtain rfl : spelling = text := by simpa [Json.text] using hchecked
          rw [← hrow]
      | _ => cases hchecked

/-- The first entry of a name is found when all entries in front of it have names, of whatever sort. -/
theorem findEntry_of_named {table : CodeString} {entries : List Json}
    (h : ∀ entry ∈ entries.takeWhile (!isNamed table ·), ∃ name, entryName entry = .ok name) :
    findEntry table entries = .ok (entries.find? (isNamed table)) := by
  induction entries with
  | nil => rfl
  | cons entry rest ih =>
      cases hfirst : isNamed table entry with
      | true => simp [findEntry, isNamed_iff.1 hfirst, hfirst, bind, Except.bind, pure, Except.pure]
      | false =>
          rw [List.takeWhile_cons_of_pos (by simp [hfirst]), List.forall_mem_cons] at h
          obtain ⟨⟨name, hname⟩, hrest⟩ := h
          have hother : name ≠ .str table := by
            rintro rfl
            simp [isNamed_iff.2 hname] at hfirst
          rw [List.find?_cons_of_neg (by simp [hfirst]), ← ih hrest, findEntry, hname]
          simp only [bind, Except.bind]
          split
          · next text => exact if_neg fun hsame => hother (by rw [hsame])
          · rfl

end SchemaDocument

end ErDiagram
