import Mathlib.Data.List.Forall2

/-!
# Computations that can fail

What is known of the parts of a computation that has succeeded or failed, and of its members when it runs
over a list.
-/

namespace ErDiagram

variable {ε α β : Type}

theorem bind_eq_ok_iff {x : Except ε α} {f : α → Except ε β} {b : β} :
    x >>= f = .ok b ↔ ∃ a, x = .ok a ∧ f a = .ok b := by
  cases x with
  | error e => simp [bind, Except.bind]
  | ok a => simp [bind, Except.bind]

theorem eq_ok_of_toOption {x : Except ε α} {a : α} (h : x.toOption = some a) :
    x = .ok a := by
  cases x with
  | error e => cases h
  | ok b => exact congrArg _ (Option.some.inj h)

/-- A computation succeeds over a list when it does for each of its members, in order. -/
theorem mapM_eq_ok_iff_forall₂ {f : α → Except ε β} {xs : List α} {ys : List β} :
    xs.mapM f = .ok ys ↔ List.Forall₂ (fun x y => f x = .ok y) xs ys := by
  induction xs generalizing ys with
  | nil => cases ys <;> simp [pure, Except.pure]
  | cons x rest ih =>
      rw [List.mapM_cons]
      cases hx : f x with
      | error fault => cases ys <;> simp [hx, bind, Except.bind]
      | ok y =>
          cases hrest : rest.mapM f with
          | error fault => cases ys <;> simp [hx, hrest, bind, Except.bind, ← ih]
          | ok others => cases ys <;> simp [hx, hrest, bind, Except.bind, pure, Except.pure, ← ih]

/-- A computation that succeeds for each member of a list succeeds over the list. -/
theorem exists_mapM_eq_ok {f : α → Except ε β} {xs : List α}
    (h : ∀ x ∈ xs, ∃ y, f x = .ok y) : ∃ ys, xs.mapM f = .ok ys := by
  induction xs with
  | nil => exact ⟨[], rfl⟩
  | cons x rest ih =>
      obtain ⟨y, hy⟩ := h x List.mem_cons_self
      obtain ⟨ys, hys⟩ := ih fun x' hx' => h x' (List.mem_cons_of_mem x hx')
      exact ⟨y :: ys, mapM_eq_ok_iff_forall₂.2 (.cons hy (mapM_eq_ok_iff_forall₂.1 hys))⟩

theorem exists_mem_of_forall₂ {R : α → β → Prop} {xs : List α} {ys : List β}
    (h : List.Forall₂ R xs ys) : (∀ x ∈ xs, ∃ y ∈ ys, R x y) ∧ ∀ y ∈ ys, ∃ x ∈ xs, R x y := by
  induction h with
  | nil => exact ⟨nofun, nofun⟩
  | @cons x y xs ys hfirst _ ih =>
      obtain ⟨hleft, hright⟩ := ih
      refine ⟨List.forall_mem_cons.2 ⟨⟨y, List.mem_cons_self, hfirst⟩, fun x' hx' => ?_⟩,
        List.forall_mem_cons.2 ⟨⟨x, List.mem_cons_self, hfirst⟩, fun y' hy' => ?_⟩⟩
      · obtain ⟨y', hy', hrelated⟩ := hleft x' hx'
        exact ⟨y', List.mem_cons_of_mem y hy', hrelated⟩
      · obtain ⟨x', hx', hrelated⟩ := hright y' hy'
        exact ⟨x', List.mem_cons_of_mem x hx', hrelated⟩

/-- A computation succeeds over a list exactly when it does for each member. -/
theorem exists_mapM_eq_ok_iff {f : α → Except ε β} {xs : List α} :
    (∃ ys, xs.mapM f = .ok ys) ↔ ∀ x ∈ xs, ∃ y, f x = .ok y := by
  refine ⟨?_, exists_mapM_eq_ok⟩
  rintro ⟨ys, h⟩ x hx
  obtain ⟨y, -, hy⟩ := (exists_mem_of_forall₂ (mapM_eq_ok_iff_forall₂.1 h)).1 x hx
  exact ⟨y, hy⟩

/-- A computation that fails over a list fails for a member. -/
theorem exists_of_mapM_eq_error {f : α → Except ε β} {xs : List α} {fault : ε}
    (h : xs.mapM f = .error fault) : ∃ x ∈ xs, f x = .error fault := by
  induction xs with
  | nil => cases h
  | cons x rest ih =>
      rw [List.mapM_cons] at h
      cases hx : f x with
      | error cause =>
          refine ⟨x, List.mem_cons_self, ?_⟩
          simpa [hx, bind, Except.bind] using h
      | ok y =>
          have hrest : rest.mapM f = .error fault := by
            cases hrest : rest.mapM f with
            | error cause => simpa [hx, hrest, bind, Except.bind] using h
            | ok ys => simp [hx, hrest, bind, Except.bind, pure, Except.pure] at h
          obtain ⟨x', hx', hfault⟩ := ih hrest
          exact ⟨x', List.mem_cons_of_mem x hx', hfault⟩

end ErDiagram
