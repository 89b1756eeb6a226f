import ErDiagram.Proofs.Aggregation.Sequential

/-!
# What the answers to rows come to

An answer counts as what it brings in time, and as a failure when it comes too late or not at all. Only an
answer that never comes and on which nobody gives up counts as nothing. What rows come to is known from the
answers to them alone, so that one answer more or less concerns its own row.
-/

namespace ErDiagram

namespace Fetch

variable {σ : Type} {source : MetadataSource σ} {context : Context} {schema : CodeString}

/-- What rows come to with the answers to them, when each answer counts as something. -/
def outcomesOf (limits : FetchLimits) (rows : List ListedTable)
    (replies : List (Reply RawStructure)) : List (ListedTable × Except Fault RawStructure) :=
  (rows.zip replies).map fun p => (p.1, (limits.verdict? p.2).getD (.error .timedOut))

theorem prospects_eq_outcomesOf {limits : FetchLimits} {rows : List ListedTable} {s : σ}
    (h : ∀ reply ∈ source.replies context schema rows s, (limits.verdict? reply).isSome) :
    prospects source limits context schema (rows.map waiting) s =
      (outcomesOf limits rows (source.replies context schema rows s)).map fun o =>
        (o.1, some o.2) := by
  rw [prospects_waiting, outcomesOf, List.map_map]
  apply List.map_congr_left
  rintro ⟨row, reply⟩ hmem
  obtain ⟨verdict, hverdict⟩ := Option.isSome_iff_exists.1 (h reply (List.of_mem_zip hmem).2)
  simp only [Function.comp_apply, hverdict, Option.getD_some]

theorem map_fst_outcomesOf (limits : FetchLimits) {rows : List ListedTable}
    {replies : List (Reply RawStructure)} (h : replies.length = rows.length) :
    (outcomesOf limits rows replies).map Prod.fst = rows := by
  rw [outcomesOf, List.map_map]
  exact List.map_fst_zip (Nat.le_of_eq h.symm)

theorem getElem?_outcomesOf {limits : FetchLimits} {rows : List ListedTable}
    {replies : List (Reply RawStructure)} {i : Nat} (hi : i < rows.length)
    {outcome : Except Fault RawStructure}
    (h : replies[i]?.bind limits.verdict? = some outcome) :
    (outcomesOf limits rows replies)[i]? = some (rows[i], outcome) := by
  obtain ⟨reply, hreply, hverdict⟩ := Option.bind_eq_some_iff.1 h
  have hpair : (rows.zip replies)[i]? = some (rows[i], reply) :=
    List.getElem?_zip_eq_some.2 ⟨List.getElem?_eq_getElem hi, hreply⟩
  rw [outcomesOf, List.getElem?_map, hpair, Option.map_some, hverdict, Option.getD_some]

theorem outcomesOf_set {limits : FetchLimits} {rows : List ListedTable}
    {replies : List (Reply RawStructure)} {i : Nat} (hi : i < rows.length)
    (reply : Reply RawStructure) :
    outcomesOf limits rows (replies.set i reply) = (outcomesOf limits rows replies).set i
      (rows[i], (limits.verdict? reply).getD (.error .timedOut)) := by
  apply List.ext_getElem
  · simp [outcomesOf]
  · intro k hk hk'
    by_cases hki : i = k
    · subst hki
      simp [outcomesOf]
    · simp [outcomesOf, hki]

end Fetch

end ErDiagram
