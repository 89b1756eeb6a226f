import Mathlib.Data.List.Nodup
import ErDiagram.Proofs.Computation
import ErDiagram.Service.Api

/-!
# Which samples are listed and which are loaded

A catalog can be listed when each sample file either is no JSON text at all or holds an object that can have
a description; then the entries are those of the JSON files, in order. A file of any other content hides all
samples, and keeps the service from starting. A sample that is listed is loaded by its name when its object
also has the form of a document. The file whose name is nothing but the ending is listed under a name that
leads to another file.
-/

namespace ErDiagram

/-- What holds of the value that stands in for an absent field holds of a field when it is there. -/
theorem Json.forall_field?_iff {fields : Json.Fields} {name : CodeString} {P : Json → Prop} (absent : Json)
    (h : P absent) :
    (∀ value, field? fields name = some value → P value) ↔ P ((field? fields name).getD absent) := by
  cases field? fields name <;> simp [h]

namespace SchemaDocument

/-- Whether a value is an object whose schemas, if it has any, are an object of objects. -/
def IsDocument (content : Json) : Prop :=
  ∃ fields, content = .obj fields ∧ ∀ schemas, Json.field? fields "schemas" = some schemas →
    ∃ bodies, schemas = .obj bodies ∧ ∀ body ∈ bodies, ∃ inner, body.2 = .obj inner

theorem member_eq_ok_iff {value absent found : Json} {name : String} :
    member value name absent = .ok found ↔
      ∃ fields, value = .obj fields ∧ (Json.field? fields name).getD absent = found := by
  cases value <;> simp [member]

private theorem members_eq_ok_iff {value : Json} {fields : Json.Fields} :
    members value = .ok fields ↔ value = .obj fields := by
  cases value <;> simp [members]

/-- A value is read as a document exactly when it is one. -/
theorem exists_ofJson_eq_ok_iff {content : Json} :
    (∃ document, ofJson content = .ok document) ↔ IsDocument content := by
  have hbody : ∀ body : CodeString × Json,
      (∃ tables, (do return (body.1, ← member body.2 "tables" (.arr [])) : Except Fault _) =
        .ok tables) ↔ ∃ inner, body.2 = .obj inner := by
    rintro ⟨name, value⟩
    cases value <;> simp [member, bind, Except.bind, pure, Except.pure]
  constructor
  · rintro ⟨document, h⟩
    obtain ⟨schemas, hmember, h⟩ := bind_eq_ok_iff.1 h
    obtain ⟨bodies, hbodies, h⟩ := bind_eq_ok_iff.1 h
    obtain ⟨tables, htables, -⟩ := bind_eq_ok_iff.1 h
    obtain ⟨fields, rfl, hschemas⟩ := member_eq_ok_iff.1 hmember
    obtain rfl := members_eq_ok_iff.1 hbodies
    refine ⟨fields, rfl, (Json.forall_field?_iff (.obj []) ⟨[], rfl, nofun⟩).2 ?_⟩
    exact ⟨bodies, hschemas, fun body hmem => (hbody body).1 (exists_mapM_eq_ok_iff.1 ⟨_, htables⟩ body hmem)⟩
  · rintro ⟨fields, rfl, h⟩
    obtain ⟨bodies, hschemas, hbodies⟩ :=
      (Json.forall_field?_iff (.obj []) ⟨[], rfl, nofun⟩).1 h
    obtain ⟨tables, htables⟩ :=
      exists_mapM_eq_ok_iff.2 fun body hmem => (hbody body).2 (hbodies body hmem)
    refine ⟨⟨tables⟩, ?_⟩
    rw [ofJson, bind_eq_ok_iff]
    refine ⟨_, member_eq_ok_iff.2 ⟨fields, rfl, hschemas⟩, bind_eq_ok_iff.2 ⟨bodies, rfl, ?_⟩⟩
    exact bind_eq_ok_iff.2 ⟨tables, htables, rfl⟩

end SchemaDocument

namespace SampleFile

variable {file : SampleFile} {content : Json}

/-- Whether a value is an object whose metadata, if it has any, are an object. -/
def IsDescribed (content : Json) : Prop :=
  ∃ fields, content = .obj fields ∧ ∀ metadata, Json.field? fields "metadata" = some metadata →
    ∃ inner, metadata = .obj inner

/-- Whether a file does not stand in the way of a list: its text is no JSON, or its content is described. -/
def IsListable (file : SampleFile) : Prop :=
  file.content = .error .malformed ∨ ∃ content, file.content = .ok content ∧ IsDescribed content

theorem exists_description_eq_ok_iff :
    (∃ text, description content = .ok text) ↔ IsDescribed content := by
  simp only [description, IsDescribed, bind_eq_ok_iff, SchemaDocument.member_eq_ok_iff]
  constructor
  · rintro ⟨text, _, ⟨fields, rfl, rfl⟩, inner, hinner, -⟩
    exact ⟨fields, rfl, (Json.forall_field?_iff (.obj []) ⟨[], rfl⟩).2 ⟨inner, hinner⟩⟩
  · rintro ⟨fields, rfl, h⟩
    obtain ⟨inner, hinner⟩ := (Json.forall_field?_iff (.obj []) ⟨[], rfl⟩).1 h
    exact ⟨_, _, ⟨fields, rfl, hinner⟩, inner, rfl, rfl⟩

/-- A file with the ending has its name in front of it, unless there is nothing in front of it. -/
theorem sampleName_append_ending (hsample : file.isSample) (hname : file.fileName ≠ ending) :
    file.sampleName ++ ending = file.fileName := by
  obtain ⟨front, hfront⟩ := List.isSuffixOf_iff_suffix.1 hsample
  have hlength : file.fileName.length - ending.length = front.length := by
    rw [← String.length_toList, ← String.length_toList, ← hfront, List.length_append, Nat.add_sub_cancel]
  rw [sampleName, if_neg hname, hlength, ← hfront, List.take_left]
  apply String.toList_injective
  rw [String.toList_append, String.toList_ofList, hfront]

end SampleFile

namespace SampleCatalog

variable {catalog : SampleCatalog} {file : SampleFile} {name : String}

/-- Whether the files of a catalog can lie in one folder: their names differ, and none leads elsewhere. -/
structure IsFolder (catalog : SampleCatalog) : Prop where
  distinct : (catalog.files.map (·.fileName)).Nodup
  inside : ∀ file ∈ catalog.files, '/' ∉ file.fileName.toList

/-- Whether an entry tells what a file holds: its name, and the description in its content. -/
def Tells (file : SampleFile) (entry : SampleEntry) : Prop :=
  entry.name = file.sampleName ∧
    ∃ content, file.content = .ok content ∧ SampleFile.description content = .ok entry.description

private theorem mem_samples : file ∈ catalog.samples ↔ file ∈ catalog.files ∧ file.isSample := by
  rw [samples, List.mem_mergeSort, List.mem_filter]

theorem samples_of_pairwise {samples : List SampleFile}
    (hfilter : catalog.files.filter SampleFile.isSample = samples)
    (horder : samples.Pairwise fun a b => decide (a.fileName ≤ b.fileName)) :
    catalog.samples = samples := by
  rw [SampleCatalog.samples, hfilter]
  exact List.mergeSort_of_pairwise horder

theorem entryOf_eq_some_iff {entry : SampleEntry} :
    entryOf file = .ok (some entry) ↔ Tells file entry := by
  obtain ⟨name, description⟩ := entry
  rw [entryOf, Tells]
  cases hcontent : file.content with
  | ok content =>
      constructor
      · intro h
        obtain ⟨found, hfound, h⟩ := bind_eq_ok_iff.1 h
        cases h
        exact ⟨rfl, content, rfl, hfound⟩
      · rintro ⟨rfl, _, ⟨⟩, hfound⟩
        exact bind_eq_ok_iff.2 ⟨_, hfound, rfl⟩
  | error cause => cases cause <;> simp

theorem entryOf_eq_none_iff : entryOf file = .ok none ↔ file.content = .error .malformed := by
  rw [entryOf]
  cases hcontent : file.content with
  | ok content => simp [bind_eq_ok_iff, pure, Except.pure]
  | error cause => cases cause <;> simp

private theorem exists_entryOf_eq_ok_iff : (∃ found, entryOf file = .ok found) ↔ file.IsListable := by
  rw [SampleFile.IsListable]
  constructor
  · rintro ⟨_ | entry, h⟩
    · exact .inl (entryOf_eq_none_iff.1 h)
    · obtain ⟨-, content, hcontent, htext⟩ := entryOf_eq_some_iff.1 h
      exact .inr ⟨content, hcontent, SampleFile.exists_description_eq_ok_iff.1 ⟨_, htext⟩⟩
  · rintro (hcontent | ⟨content, hcontent, hdescribed⟩)
    · exact ⟨none, entryOf_eq_none_iff.2 hcontent⟩
    · obtain ⟨text, htext⟩ := SampleFile.exists_description_eq_ok_iff.2 hdescribed
      exact ⟨some ⟨file.sampleName, text⟩, entryOf_eq_some_iff.2 ⟨rfl, content, hcontent, htext⟩⟩

/-- The samples can be listed exactly when no sample file stands in the way. -/
theorem exists_entries_eq_ok_iff :
    (∃ entries, catalog.entries = .ok entries) ↔
      ∀ file ∈ catalog.files, file.isSample → file.IsListable := by
  have hread : (∃ found, catalog.samples.mapM entryOf = .ok found) ↔ _ := exists_mapM_eq_ok_iff
  simp only [mem_samples, exists_entryOf_eq_ok_iff, and_imp] at hread
  rw [← hread]
  constructor
  · rintro ⟨_, h⟩
    obtain ⟨found, hfound, -⟩ := bind_eq_ok_iff.1 h
    exact ⟨found, hfound⟩
  · rintro ⟨found, hfound⟩
    exact ⟨_, bind_eq_ok_iff.2 ⟨found, hfound, rfl⟩⟩

private theorem tells_of_mapM {files : List SampleFile} {found : List (Option SampleEntry)}
    (h : List.Forall₂ (fun file found => entryOf file = .ok found) files found) :
    List.Forall₂ Tells (files.filter (·.content.isOk)) (found.filterMap id) := by
  induction h with
  | nil => exact .nil
  | @cons file entry files found hfile _ ih =>
      cases entry with
      | none =>
          rw [List.filter_cons_of_neg (by simp [entryOf_eq_none_iff.1 hfile, Except.isOk, Except.toBool])]
          exact ih
      | some entry =>
          have htells := entryOf_eq_some_iff.1 hfile
          obtain ⟨content, hcontent, -⟩ := htells.2
          rw [List.filter_cons_of_pos (by simp [hcontent, Except.isOk, Except.toBool])]
          exact .cons htells ih

/-- A way that does not leave the folder leads to the file of its name. -/
theorem fileAt?_append_ending (hname : '/' ∉ name.toList) :
    catalog.fileAt? (name ++ SampleFile.ending) =
      catalog.files.find? (·.fileName = name ++ SampleFile.ending) := by
  have hslash : '/' ∉ (name ++ SampleFile.ending).toList := by
    simpa [SampleFile.ending] using hname
  have hhead : (name ++ SampleFile.ending).toList.head? ≠ some '/' :=
    fun hhead => hslash (List.mem_of_mem_head? hhead)
  have hlength : 5 ≤ (name ++ SampleFile.ending).length := by
    rw [String.length_append]
    exact Nat.le_add_left ..
  have hnames : wayNames (name ++ SampleFile.ending) = [name ++ SampleFile.ending] := by
    have hsplit : Text.splitMark '/' (name ++ SampleFile.ending).toList =
        [(name ++ SampleFile.ending).toList] :=
      Text.splitWhere_eq_singleton fun c hc => beq_eq_false_iff_ne.2 fun h => hslash (h ▸ hc)
    rw [wayNames, hsplit, List.map_singleton, String.ofList_toList, List.filter_cons_of_pos]
    · rfl
    · rw [decide_eq_true_iff]
      constructor <;> intro h <;> rw [h] at hlength <;> revert hlength <;> decide
  rw [fileAt?, if_neg hhead, hnames]
  simp

private theorem exists_load_iff_of_file (h : catalog.fileAt? (name ++ SampleFile.ending) = some file) :
    (∃ document, catalog.load name = .ok document) ↔
      ∃ content, file.content = .ok content ∧ SchemaDocument.IsDocument content := by
  rw [load, CodeString.text?_whole, Option.bind_some, h]
  cases hcontent : file.content with
  | ok content => simp [hcontent, SchemaDocument.exists_ofJson_eq_ok_iff]
  | error cause => simp [hcontent]

/-- A name without a slash is loaded exactly when the folder has a file of that name, with the ending behind
it, that holds a document. -/
theorem exists_load_iff (hfolder : catalog.IsFolder) (hname : '/' ∉ name.toList) :
    (∃ document, catalog.load name = .ok document) ↔
      ∃ file ∈ catalog.files, file.fileName = name ++ SampleFile.ending ∧
        ∃ content, file.content = .ok content ∧ SchemaDocument.IsDocument content := by
  have hway : catalog.fileAt? (name ++ SampleFile.ending) = _ := fileAt?_append_ending hname
  cases hfind : catalog.files.find? (·.fileName = name ++ SampleFile.ending) with
  | none =>
      rw [load, CodeString.text?_whole, Option.bind_some, hway, hfind]
      refine iff_of_false nofun ?_
      rintro ⟨file, hmem, hfile, -⟩
      simpa [hfile] using List.find?_eq_none.1 hfind file hmem
  | some file =>
      rw [exists_load_iff_of_file (hway.trans hfind)]
      have hmem := List.mem_of_find?_eq_some hfind
      have hfile : file.fileName = name ++ SampleFile.ending := by
        simpa using List.find?_some hfind
      constructor
      · intro hholds
        exact ⟨file, hmem, hfile, hholds⟩
      · rintro ⟨other, hother, hnamed, hholds⟩
        obtain rfl : other = file :=
          List.inj_on_of_nodup_map hfolder.distinct hother hmem (hnamed.trans hfile.symm)
        exact hholds

private theorem exists_launch_eq_ok_iff {σ : Type} {source : MetadataSource σ} {service : Service σ} :
    (∃ started, service.launch source catalog = .ok started) ↔
      ∃ entries, catalog.entries = .ok entries := by
  constructor
  · rintro ⟨_, h⟩
    obtain ⟨entries, hentries, -⟩ := bind_eq_ok_iff.1 h
    exact ⟨entries, hentries⟩
  · rintro ⟨entries, hentries⟩
    exact ⟨_, bind_eq_ok_iff.2 ⟨entries, hentries, rfl⟩⟩

theorem slash_not_mem_sampleName (h : '/' ∉ file.fileName.toList) : '/' ∉ file.sampleName.toList := by
  rw [SampleFile.sampleName]
  split
  · decide
  · rw [String.toList_ofList]
    exact fun hmem => h (List.mem_of_mem_take hmem)

/-- The samples of a folder are listed, and the service starts, exactly when no sample file stands in the
way: each has text that is no JSON, or an object whose metadata, if there are any, are an object. The list
then has one entry for each sample file with JSON, in order. A listed sample is loaded by its name exactly
when its schemas, if there are any, are an object of objects. The name of the file that is nothing but the
ending is the exception, as it leads to the file with the ending twice. -/
theorem lists_and_loads_iff (catalog : SampleCatalog) (hfolder : catalog.IsFolder) :
    ((∃ entries, catalog.entries = .ok entries) ↔
      ∀ file ∈ catalog.files, file.isSample → file.IsListable) ∧
    (∀ entries, catalog.entries = .ok entries →
      List.Forall₂ Tells (catalog.samples.filter (·.content.isOk)) entries) ∧
    (∀ (σ : Type) (source : MetadataSource σ) (service : Service σ),
      (∃ started, service.launch source catalog = .ok started) ↔
        ∀ file ∈ catalog.files, file.isSample → file.IsListable) ∧
    ∀ file ∈ catalog.files, file.isSample →
      (file.fileName ≠ SampleFile.ending → ∀ content, file.content = .ok content →
        ((∃ document, catalog.load file.sampleName = .ok document) ↔
          SchemaDocument.IsDocument content)) ∧
      (file.fileName = SampleFile.ending →
        ((∃ document, catalog.load file.sampleName = .ok document) ↔
          ∃ other ∈ catalog.files, other.fileName = SampleFile.ending ++ SampleFile.ending ∧
            ∃ content, other.content = .ok content ∧ SchemaDocument.IsDocument content)) := by
  refine ⟨exists_entries_eq_ok_iff, ?_, fun σ source service => ?_, fun file hmem hsample => ⟨?_, ?_⟩⟩
  · intro entries hentries
    obtain ⟨found, hfound, h⟩ := bind_eq_ok_iff.1 hentries
    cases h
    exact tells_of_mapM (mapM_eq_ok_iff_forall₂.1 hfound)
  · exact exists_launch_eq_ok_iff.trans exists_entries_eq_ok_iff
  · intro hname content hcontent
    rw [exists_load_iff hfolder (slash_not_mem_sampleName (hfolder.inside file hmem)),
      SampleFile.sampleName_append_ending hsample hname]
    constructor
    · rintro ⟨other, hother, hsame, found, hfound, hdocument⟩
      obtain rfl := List.inj_on_of_nodup_map hfolder.distinct hother hmem hsame
      cases hcontent.symm.trans hfound
      exact hdocument
    · intro hdocument
      exact ⟨file, hmem, rfl, content, hcontent, hdocument⟩
  · intro hname
    rw [exists_load_iff hfolder (slash_not_mem_sampleName (hfolder.inside file hmem)),
      SampleFile.sampleName, if_pos hname]

/-- A folder with a file that is no sample, a sample file that is no JSON, and a plain sample. -/
def plainFolder : SampleCatalog :=
  ofFiles [.ofText "notes.txt" "[]", .ofText "broken.json" "[", .ofText "plain.json" "\x7b\x7d"]

/-- A file without JSON and a file that is no sample do not stand in the way of another sample. -/
theorem lists_and_loads_iff_of_plainFolder :
    plainFolder.IsFolder ∧ (∃ entry, plainFolder.entries = .ok [entry] ∧ entry.name = "plain") ∧
      (∀ (σ : Type) (source : MetadataSource σ) (service : Service σ),
        ∃ started, service.launch source plainFolder = .ok started) ∧
      ∃ document, plainFolder.load "plain" = .ok document := by
  have hfolder : plainFolder.IsFolder := ⟨by decide, by decide⟩
  have hmem : SampleFile.ofText "plain.json" "\x7b\x7d" ∈ plainFolder.files := by simp [plainFolder, ofFiles]
  have hlistable : ∀ file ∈ plainFolder.files, file.isSample → file.IsListable := by
    intro file hfile hsample
    simp only [plainFolder, ofFiles, List.mem_cons, List.not_mem_nil, or_false] at hfile
    obtain rfl | rfl | rfl := hfile
    · exact absurd hsample (by decide)
    · exact .inl rfl
    · exact .inr ⟨_, rfl, [], rfl, nofun⟩
  obtain ⟨hlist, htells, hlaunch, hload⟩ := lists_and_loads_iff plainFolder hfolder
  refine ⟨hfolder, ?_, fun σ source service => (hlaunch σ source service).2 hlistable, ?_⟩
  · obtain ⟨entries, hentries⟩ := hlist.2 hlistable
    have hsamples : plainFolder.samples = [.ofText "broken.json" "[", .ofText "plain.json" "\x7b\x7d"] :=
      samples_of_pairwise rfl (by decide)
    have hall := htells entries hentries
    rw [hsamples] at hall
    change List.Forall₂ Tells [.ofText "plain.json" "\x7b\x7d"] entries at hall
    obtain ⟨entry, _, ⟨hname, -⟩, hrest, rfl⟩ := List.forall₂_cons_left_iff.1 hall
    obtain rfl := List.forall₂_nil_left_iff.1 hrest
    exact ⟨entry, hentries, hname⟩
  · exact ((hload _ hmem (by decide)).1 (by decide) (.obj []) rfl).2 ⟨[], rfl, nofun⟩

/-- A folder with a file that is a list, and a plain sample. -/
def shadowedFolder : SampleCatalog := ofFiles [.ofText "bad.json" "[]", .ofText "good.json" "\x7b\x7d"]

/-- A sample whose schemas are a list. -/
def flat : SampleFile := ⟨"flat.json", .ok (.obj [("schemas", .arr [])])⟩

/-- A file with a list as its content hides the sample beside it and keeps every service from starting. A
sample whose schemas are a list is listed and cannot be loaded. -/
theorem sample_hidden_by_list :
    (shadowedFolder.IsFolder ∧ shadowedFolder.entries = .error .noMembers ∧
      ∀ (σ : Type) (source : MetadataSource σ) (service : Service σ),
        service.launch source shadowedFolder = .error .noMembers) ∧
    (ofFiles [flat]).IsFolder ∧ (ofFiles [flat]).entries = .ok [⟨"flat", .str ""⟩] ∧
      (ofFiles [flat]).load "flat" = .error .noMembers := by
  have hshadowed : shadowedFolder.samples = [.ofText "bad.json" "[]", .ofText "good.json" "\x7b\x7d"] :=
    samples_of_pairwise rfl (by decide)
  have hflat : (ofFiles [flat]).samples = [flat] := samples_of_pairwise rfl (by decide)
  have hentries : shadowedFolder.entries = .error .noMembers := by
    rw [entries, hshadowed]
    rfl
  refine ⟨⟨⟨by decide, by decide⟩, hentries, fun σ source service => ?_⟩, ⟨by decide, by decide⟩, ?_, ?_⟩
  · rw [Service.launch, hentries]
    rfl
  · rw [entries, hflat]
    rfl
  · have hfound : (ofFiles [flat]).fileAt? ("flat" ++ SampleFile.ending) = some flat := by
      rw [fileAt?_append_ending (by decide)]
      exact List.find?_cons_of_pos (by decide)
    rw [load, CodeString.text?_whole, Option.bind_some, hfound]
    rfl

end SampleCatalog

end ErDiagram
