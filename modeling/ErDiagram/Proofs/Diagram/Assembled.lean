import ErDiagram.Diagram.Assembly
import Mathlib.Data.List.Nodup
import Mathlib.Tactic.Tauto

/-!
# Assembled diagrams

What can be said of every diagram that was assembled from tables, whatever the tables are: no two nodes or
edges share an identifier, every edge comes from a node, it is resolved exactly when it ends in one, and the
edges stand in the order of the nodes that they come from. `isCoherent_assemble` says so at once, and a
diagram stays coherent when its nodes are moved.
-/

namespace ErDiagram

namespace Diagram

/-- The edges of references, in their order; `names` are the tables that a target may resolve to. -/
def edgesOf (names : List CodeString) (references : List (CodeString × ForeignKey)) : List Edge :=
  references.zipIdx.map fun ((source, key), ordinal) => edgeOf names source key ordinal

theorem edges_assemble (tables : List Table) :
    (assemble tables).edges =
      edgesOf ((firstOfName [] tables).map (·.name)) (references (firstOfName [] tables)) := rfl

section Names

/-- A name is kept when it is that of a table and has not been seen. -/
theorem mem_names_firstOfName {seen : List CodeString} {tables : List Table} {name : CodeString} :
    name ∈ (firstOfName seen tables).map (·.name) ↔
      name ∈ tables.map (·.name) ∧ name ∉ seen := by
  induction tables generalizing seen with
  | nil => simp [firstOfName]
  | cons table rest ih =>
      rw [firstOfName]
      split
      · next hseen =>
        have hold : name = table.name → name ∈ seen := by
          rintro rfl
          simpa using hseen
        rw [ih]
        simp only [List.map_cons, List.mem_cons]
        tauto
      · next hseen =>
        have hnew : name = table.name → name ∉ seen := by
          rintro rfl
          simpa using hseen
        simp only [List.map_cons, List.mem_cons, ih]
        tauto

theorem nodup_firstOfName (seen : List CodeString) (tables : List Table) :
    ((firstOfName seen tables).map (·.name)).Nodup := by
  induction tables generalizing seen with
  | nil => exact List.nodup_nil
  | cons table rest ih =>
      rw [firstOfName]
      split
      · exact ih seen
      · rw [List.map_cons, List.nodup_cons]
        refine ⟨?_, ih _⟩
        intro h
        exact (mem_names_firstOfName.1 h).2 List.mem_cons_self

/-- Tables whose names differ are all kept. -/
theorem firstOfName_of_nodup {seen : List CodeString} {tables : List Table}
    (hnodup : (tables.map (·.name)).Nodup) (hnew : ∀ table ∈ tables, table.name ∉ seen) :
    firstOfName seen tables = tables := by
  induction tables generalizing seen with
  | nil => rfl
  | cons table rest ih =>
      rw [List.map_cons, List.nodup_cons] at hnodup
      have hfirst : seen.contains table.name = false := by
        simpa using hnew table List.mem_cons_self
      rw [firstOfName, hfirst, if_neg Bool.false_ne_true]
      congr 1
      apply ih hnodup.2
      intro other hother h
      rcases List.mem_cons.1 h with heq | h
      · exact hnodup.1 (List.mem_map.2 ⟨other, hother, heq⟩)
      · exact hnew other (List.mem_cons_of_mem _ hother) h

end Names

section Identifiers

private theorem ne_dash_of_mem_toDigits {ordinal : Nat} {c : Char} (h : c ∈ Nat.toDigits 10 ordinal) :
    c ≠ '-' := by
  have hdigit := Nat.isDigit_of_mem_toDigits (by decide) (by decide) h
  rintro rfl
  revert hdigit
  decide

theorem takeWhile_reverse_append {mark : Nat} {front back : List Nat} (h : ∀ code ∈ back, code ≠ mark) :
    (front ++ mark :: back).reverse.takeWhile (· ≠ mark) = back.reverse := by
  rw [List.reverse_append, List.reverse_cons, List.append_assoc, List.takeWhile_append_of_pos]
  · simp
  · intro c hc
    simpa using h c (List.mem_reverse.1 hc)

/-- The ordinal of an edge is known from its identifier, whatever the names of its tables are. -/
theorem ordinal_of_edgeId {source target source' target' : CodeString} {ordinal ordinal' : Nat}
    (h : edgeId source target ordinal = edgeId source' target' ordinal') : ordinal = ordinal' := by
  have hparts : ∀ source target ordinal, (edgeId source target ordinal).codes =
      (source ++ "-" ++ target).codes ++ '-'.toNat :: (Nat.toDigits 10 ordinal).map Char.toNat := by
    intro source target ordinal
    simp [edgeId, Text.codesOf]
  have hdash : ∀ n, ∀ code ∈ (Nat.toDigits 10 n).map Char.toNat, code ≠ '-'.toNat := by
    intro n code hcode
    obtain ⟨c, hc, rfl⟩ := List.mem_map.1 hcode
    exact fun hsame => ne_dash_of_mem_toDigits hc (Char.toNat_inj.1 hsame)
  have hlast := congrArg (fun id => id.codes.reverse.takeWhile (· ≠ '-'.toNat)) h
  simp only [hparts] at hlast
  rw [takeWhile_reverse_append (hdash ordinal), takeWhile_reverse_append (hdash ordinal')] at hlast
  have hnames := List.map_injective_iff.2 (fun _ _ => Char.toNat_inj.1) (List.reverse_injective hlast)
  have hdigits := congrArg (Nat.ofDigitChars 10 · 0) hnames
  simpa only [Nat.ofDigitChars_toDigits (by decide : 1 < 10) (Nat.le_refl 10)] using hdigits

private theorem nodup_ids_edgesOf (names : List CodeString) (references : List (CodeString × ForeignKey)) :
    ((edgesOf names references).map (·.id)).Nodup := by
  have hordinals : (references.zipIdx.map Prod.snd).Nodup := by
    rw [List.zipIdx_map_snd]
    exact List.nodup_range'
  rw [edgesOf, List.map_map, List.nodup_iff_pairwise_ne, List.pairwise_map]
  apply (List.pairwise_map.1 hordinals).imp
  intro p p' hne hid
  exact hne (ordinal_of_edgeId hid)

end Identifiers

section Edges

variable {names : List CodeString}

/-- What does not depend on the identifiers of edges is read off their references. -/
theorem map_edgesOf {α : Type} (f : Edge → α) (hf : ∀ edge id, f { edge with id := id } = f edge)
    (references : List (CodeString × ForeignKey)) :
    (edgesOf names references).map f = references.map fun r => f (edgeOf names r.1 r.2 0) := by
  rw [edgesOf, List.map_map]
  conv_rhs => rw [← List.zipIdx_map_fst 0 references, List.map_map]
  apply List.map_congr_left
  rintro ⟨⟨source, key⟩, ordinal⟩ -
  exact hf (edgeOf names source key 0) (edgeId source key.targetTable ordinal)

private theorem mem_edgesOf {references : List (CodeString × ForeignKey)} {edge : Edge}
    (h : edge ∈ edgesOf names references) :
    ∃ key ordinal, (edge.source, key) ∈ references ∧
      edge = edgeOf names edge.source key ordinal := by
  obtain ⟨⟨⟨source, key⟩, ordinal⟩, hmem, rfl⟩ := List.mem_map.1 h
  exact ⟨key, ordinal, List.fst_mem_of_mem_zipIdx hmem, rfl⟩

theorem mem_edges_assemble {tables : List Table} {edge : Edge}
    (h : edge ∈ (assemble tables).edges) :
    ∃ table ∈ firstOfName [] tables, ∃ key ∈ table.foreignKeys, ∃ ordinal,
      edge = edgeOf (assemble tables).nodeIds table.name key ordinal := by
  rw [edges_assemble, ← nodeIds_assemble] at h
  obtain ⟨key, ordinal, hmem, hedge⟩ := mem_edgesOf h
  obtain ⟨table, htable, hkey⟩ := List.mem_flatMap.1 hmem
  obtain ⟨key', hkey', heq⟩ := List.mem_map.1 hkey
  obtain ⟨hname, rfl⟩ := Prod.mk.inj heq
  rw [← hname] at hedge
  exact ⟨table, htable, key', hkey', ordinal, hedge⟩

/-- References stand in the order of the tables that hold them. -/
theorem pairwise_references {tables : List Table} (hnodup : (tables.map (·.name)).Nodup) :
    (references tables).Pairwise fun r r' =>
      (tables.map (·.name)).idxOf r.1 ≤ (tables.map (·.name)).idxOf r'.1 := by
  rw [references, List.pairwise_flatMap]
  constructor
  · intro table _
    rw [List.pairwise_map]
    exact List.pairwise_of_forall fun _ _ => Nat.le_refl _
  · rw [List.pairwise_iff_getElem]
    intro i j hi hj hlt r hr r' hr'
    obtain ⟨key, -, rfl⟩ := List.mem_map.1 hr
    obtain ⟨key', -, rfl⟩ := List.mem_map.1 hr'
    have hindex : ∀ k (hk : k < tables.length),
        (tables.map (·.name)).idxOf tables[k].name = k := by
      intro k hk
      have h := hnodup.idxOf_getElem k (by rwa [List.length_map])
      rwa [List.getElem_map] at h
    show (tables.map (·.name)).idxOf tables[i].name ≤ (tables.map (·.name)).idxOf tables[j].name
    rw [hindex i hi, hindex j hj]
    exact Nat.le_of_lt hlt

end Edges

/-- Whether the nodes and edges of a diagram fit together. -/
structure IsCoherent (diagram : Diagram) : Prop where
  nodes : diagram.nodeIds.Nodup
  edges : (diagram.edges.map (·.id)).Nodup
  sources : ∀ edge ∈ diagram.edges, edge.source ∈ diagram.nodeIds
  resolved : ∀ edge ∈ diagram.edges, edge.resolved = true ↔ edge.target ∈ diagram.nodeIds
  /-- The edges stand in the order of the nodes that they come from. -/
  ordered : diagram.edges.Pairwise fun edge edge' =>
    diagram.nodeIds.idxOf edge.source ≤ diagram.nodeIds.idxOf edge'.source

theorem isCoherent_assemble (tables : List Table) : (assemble tables).IsCoherent where
  nodes := by
    rw [nodeIds_assemble]
    exact nodup_firstOfName [] tables
  edges := nodup_ids_edgesOf _ _
  sources := by
    intro edge hedge
    obtain ⟨table, htable, key, -, ordinal, rfl⟩ := mem_edges_assemble hedge
    rw [nodeIds_assemble]
    exact List.mem_map.2 ⟨table, htable, rfl⟩
  resolved := by
    intro edge hedge
    obtain ⟨table, -, key, -, ordinal, rfl⟩ := mem_edges_assemble hedge
    exact List.contains_iff_mem
  ordered := by
    have hordered := pairwise_references (nodup_firstOfName [] tables)
    have hsources : (assemble tables).edges.map (·.source) =
        (references (firstOfName [] tables)).map Prod.fst :=
      map_edgesOf (·.source) (fun _ _ => rfl) _
    rw [nodeIds_assemble]
    generalize (firstOfName [] tables).map (·.name) = names at hordered
    have hsorted : ((assemble tables).edges.map (·.source)).Pairwise fun source source' =>
        names.idxOf source ≤ names.idxOf source' := by
      rw [hsources]
      exact List.pairwise_map.2 hordered
    rwa [List.pairwise_map] at hsorted

theorem IsCoherent.of_same {diagram diagram' : Diagram} (h : diagram.IsCoherent)
    (hnodes : diagram'.nodeIds = diagram.nodeIds) (hedges : diagram'.edges = diagram.edges) :
    diagram'.IsCoherent := by
  obtain ⟨nodes, edges, sources, resolved, ordered⟩ := h
  rw [← hnodes] at nodes sources resolved ordered
  rw [← hedges] at edges sources resolved ordered
  exact ⟨nodes, edges, sources, resolved, ordered⟩

end Diagram

end ErDiagram
