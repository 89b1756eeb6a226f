import ErDiagram.Proofs.Diagram.Linked

/-!
# The diagram of a listing

What the diagram of a list of tables is, told by places in lists. A table is kept when no table before it
has its name. The foreign keys of the kept tables become edges in the order in which they stand, so that the
place of an edge is the number of foreign keys before it, and its ordinal is its place. Whether it is
resolved is a matter of all the names, wherever the tables stand that have them.
-/

namespace ErDiagram

namespace Diagram

/-- The tables that have a name which no table before them has. -/
def firsts (tables : List Table) : List Table :=
  (tables.zipIdx.filter fun (table, place) => table.name ∉ (tables.take place).map (·.name)).map
    Prod.fst

/-- The number of foreign keys of the tables before a place. -/
def keysBefore (tables : List Table) (place : Nat) : Nat :=
  ((tables.take place).flatMap (·.foreignKeys)).length

/-- Keeping the first table of each name is keeping those whose name does not come before them. -/
theorem firstOfName_eq (seen : List CodeString) (tables : List Table) :
    firstOfName seen tables =
      (tables.zipIdx.filter fun (table, place) =>
        table.name ∉ seen ∧ table.name ∉ (tables.take place).map (·.name)).map Prod.fst := by
  induction tables generalizing seen with
  | nil => rfl
  | cons table rest ih =>
      -- the others are kept alike whether the first was or had been seen before
      have hothers : ∀ seen', (∀ name, name ∈ seen' ↔ name = table.name ∨ name ∈ seen) →
          firstOfName seen' rest = ((rest.zipIdx 1).filter fun (other, place) =>
            other.name ∉ seen ∧ other.name ∉ ((table :: rest).take place).map (·.name)).map
              Prod.fst := by
        intro seen' hseen'
        rw [ih, List.zipIdx_succ, List.filter_map, List.map_map]
        refine congrArg (List.map Prod.fst) (List.filter_congr ?_)
        rintro ⟨other, place⟩ -
        simp only [hseen', Function.comp_apply, List.take_succ_cons, List.map_cons, List.mem_cons,
          decide_eq_decide]
        tauto
      rw [firstOfName, List.zipIdx_cons]
      by_cases hseen : table.name ∈ seen
      · rw [if_pos (by simpa using hseen), List.filter_cons_of_neg (by simp [hseen])]
        refine hothers seen fun name => (or_iff_right_of_imp ?_).symm
        rintro rfl
        exact hseen
      · rw [if_neg (by simpa using hseen), List.filter_cons_of_pos (by simp [hseen]), List.map_cons,
          hothers (table.name :: seen) fun name => List.mem_cons]

theorem firstOfName_nil (tables : List Table) : firstOfName [] tables = firsts tables := by
  rw [firstOfName_eq, firsts]
  simp

/-- A foreign key stands among the references behind all those of the tables before its own. -/
theorem getElem?_references {tables : List Table} {place index : Nat} {table : Table}
    {key : ForeignKey} (htable : tables[place]? = some table)
    (hkey : table.foreignKeys[index]? = some key) :
    (references tables)[keysBefore tables place + index]? = some (table.name, key) := by
  induction tables generalizing place with
  | nil => cases htable
  | cons first rest ih =>
      have hreferences : references (first :: rest) =
          first.foreignKeys.map (first.name, ·) ++ references rest := rfl
      rw [hreferences]
      cases place with
      | zero =>
          obtain rfl : first = table := by simpa using htable
          have hindex : index < first.foreignKeys.length := (List.getElem?_eq_some_iff.1 hkey).1
          rw [keysBefore, List.take_zero, List.flatMap_nil, List.length_nil, Nat.zero_add,
            List.getElem?_append_left (by simpa using hindex), List.getElem?_map, hkey]
          rfl
      | succ place =>
          have hbefore : keysBefore (first :: rest) (place + 1) =
              first.foreignKeys.length + keysBefore rest place := by
            simp [keysBefore]
          rw [hbefore, Nat.add_assoc, List.getElem?_append_right (by simp), List.length_map,
            Nat.add_sub_cancel_left]
          exact ih (by simpa using htable)

/-- The diagram of any list of tables. Its nodes are the tables whose name none before them has, in their
order, each under its name. Its edges stand for the foreign keys of these tables and for no others, in their
order: the edge of a foreign key stands behind as many edges as there are foreign keys before it, which is
the ordinal that ends its identifier. It is resolved exactly when some table has the name of its target,
which is then the name of a node. -/
theorem assemble_listing (tables : List Table) :
    (assemble tables).nodes = (firsts tables).map (fun table => ⟨table.name, .origin, table⟩) ∧
    (assemble tables).nodeIds.Nodup ∧
    (∀ name, name ∈ (assemble tables).nodeIds ↔ ∃ table ∈ tables, table.name = name) ∧
    (assemble tables).edges.map Edge.reference = (firsts tables).flatMap (fun table =>
      table.foreignKeys.map fun key =>
        { constraint := key.constraint
          source := table.name
          column := key.sourceColumn
          target := key.targetTable
          foreignColumn := key.targetColumn }) ∧
    ∀ place index table key, (firsts tables)[place]? = some table →
      table.foreignKeys[index]? = some key →
      (assemble tables).edges[keysBefore (firsts tables) place + index]? = some
        { id := table.name ++ "-" ++ key.targetTable ++ "-" ++
            toString (keysBefore (firsts tables) place + index)
          source := table.name
          target := key.targetTable
          label := key.sourceColumn
          targetColumn := key.targetColumn
          constraint := key.constraint
          resolved := tables.any (·.name = key.targetTable) } := by
  have hcoherent := isCoherent_assemble tables
  have hnames : ∀ name, name ∈ (assemble tables).nodeIds ↔ ∃ table ∈ tables, table.name = name := by
    intro name
    rw [nodeIds_assemble, mem_names_firstOfName, List.mem_map]
    simp
  refine ⟨?_, hcoherent.nodes, hnames, ?_, ?_⟩
  · rw [← firstOfName_nil]
    rfl
  · rw [edges_assemble, map_edgesOf Edge.reference (fun _ _ => rfl), firstOfName_nil, references,
      List.map_flatMap]
    simp only [List.map_map]
    rfl
  · intro place index table key htable hkey
    have hreference := getElem?_references htable hkey
    have hresolved : (assemble tables).nodeIds.contains key.targetTable =
        tables.any (·.name = key.targetTable) := by
      rw [Bool.eq_iff_iff, List.contains_iff_mem, hnames]
      simp
    rw [edges_assemble, edgesOf, List.getElem?_map, List.getElem?_zipIdx, firstOfName_nil,
      hreference, ← hresolved, nodeIds_assemble, firstOfName_nil, Nat.zero_add]
    rfl

/-- Tables of which two have one name. Their foreign keys point forwards, to their own table, backwards and
to no table. -/
def repeated : List Table :=
  [⟨"orders", [], [⟨"fk_user", "user_id", "users", "id"⟩, ⟨"fk_next", "next", "orders", "id"⟩], none,
      false⟩,
    ⟨"users", [], [⟨"fk_last", "last", "orders", "id"⟩], some 7, false⟩,
    ⟨"orders", [], [⟨"fk_log", "log_id", "logs", "id"⟩], none, false⟩,
    ⟨"logs", [], [⟨"fk_ghost", "ghost", "ghosts", "id"⟩, ⟨"fk_order", "order", "orders", "id"⟩], none,
      false⟩]

/-- The foreign key of the second table of a name makes no edge and is not counted. -/
theorem assemble_listing_of_repeated :
    ∃ logs key, (firsts repeated)[2]? = some logs ∧ logs.foreignKeys[1]? = some key ∧
      ((assemble repeated).edges.map Edge.reference).map (·.constraint) =
        (["fk_user", "fk_next", "fk_last", "fk_ghost", "fk_order"] : List CodeString) ∧
      (assemble repeated).edges[4]? =
        some ⟨"logs-orders-4", "logs", "orders", "order", "id", "fk_order", true⟩ := by
  obtain ⟨-, -, -, hreferences, hedge⟩ := assemble_listing repeated
  have hlogs : (firsts repeated)[2]? = some ⟨"logs", [], [⟨"fk_ghost", "ghost", "ghosts", "id"⟩,
      ⟨"fk_order", "order", "orders", "id"⟩], none, false⟩ := by decide
  refine ⟨_, _, hlogs, rfl, ?_, hedge 2 1 _ _ hlogs rfl⟩
  rw [hreferences]
  decide

end Diagram

end ErDiagram
