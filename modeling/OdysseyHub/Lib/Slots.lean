import Mathlib.Data.List.Basic

/-!
# Lists as tables of slots

A program that numbers its tasks keeps them in a list, the number of a task being its
place.  New tasks are appended (`getElem?_concat_some`); a step of a task replaces its
slot.  What holds of all slots, or of some, is kept by a replacement when the new
entry takes over for the old one (`forall_mem_set`, `exists_mem_set`), and holds
without the old one when the other slots see to it (`…_of_eraseIdx`).
-/

namespace Slots

variable {α : Type*} {xs : List α} {k j : Nat} {x x' y : α} {Q : α → Prop}

/-! ## One slot -/

theorem getElem?_concat_some :
    (xs ++ [x])[k]? = some y ↔ xs[k]? = some y ∨ (k = xs.length ∧ y = x) := by
  rcases Nat.lt_trichotomy k xs.length with hlt | rfl | hgt
  · rw [List.getElem?_append_left hlt]
    exact ⟨.inl, fun h => h.resolve_right fun h' => absurd h'.1 (Nat.ne_of_lt hlt)⟩
  · simp [eq_comm]
  · have h₁ : (xs ++ [x])[k]? = none := List.getElem?_eq_none (by simpa using Nat.succ_le_of_lt hgt)
    have h₂ : xs[k]? = none := List.getElem?_eq_none (Nat.le_of_lt hgt)
    simp [h₁, h₂, Nat.ne_of_gt hgt]

theorem getElem?_set_of_some (hk : xs[k]? = some x) (x' : α) (j : Nat) :
    (xs.set k x')[j]? = if k = j then some x' else xs[j]? := by
  have hlt := (List.getElem?_eq_some_iff.mp hk).1
  by_cases hkj : k = j
  · subst hkj
    simp [hlt]
  · simp [hkj]

theorem getElem?_set_same (hk : xs[k]? = some x) (x' : α) : (xs.set k x')[k]? = some x' := by
  rw [getElem?_set_of_some hk, if_pos rfl]

theorem getElem?_set_cases (h : (xs.set k x')[j]? = some y) :
    (j = k ∧ y = x') ∨ (j ≠ k ∧ xs[j]? = some y) := by
  by_cases hj : j = k
  · subst hj
    have hlt : j < xs.length := by
      obtain ⟨hlt, -⟩ := List.getElem?_eq_some_iff.mp h
      simpa using hlt
    rw [List.getElem?_set_self hlt] at h
    exact .inl ⟨rfl, (Option.some.inj h).symm⟩
  · rw [List.getElem?_set_ne (Ne.symm hj)] at h
    exact .inr ⟨hj, h⟩

/-! ## All slots, and some -/

theorem forall_mem_set (h : ∀ y ∈ xs, Q y) (hx : Q x') : ∀ y ∈ xs.set k x', Q y := by
  intro y hy
  rcases List.mem_or_eq_of_mem_set hy with hy | rfl
  · exact h y hy
  · exact hx

theorem forall_mem_set_of_eraseIdx (h : ∀ y ∈ xs.eraseIdx k, Q y) (hx : Q x') :
    ∀ y ∈ xs.set k x', Q y := by
  intro y hy
  obtain ⟨i, hget⟩ := List.mem_iff_getElem?.mp hy
  rcases getElem?_set_cases hget with ⟨-, rfl⟩ | ⟨hi, hget⟩
  · exact hx
  · exact h y (List.mem_eraseIdx_iff_getElem?.mpr ⟨i, hi, hget⟩)

theorem forall_mem_concat (h : ∀ y ∈ xs, Q y) (hx : Q x) : ∀ y ∈ xs ++ [x], Q y := by
  intro y hy
  rcases List.mem_append.mp hy with hy | hy
  · exact h y hy
  · rw [List.mem_singleton.mp hy]
    exact hx

theorem mem_set_self (hk : xs[k]? = some x) : x' ∈ xs.set k x' :=
  List.mem_set (List.getElem?_eq_some_iff.mp hk).1 x'

theorem exists_mem_set_of_eraseIdx (h : ∃ y ∈ xs.eraseIdx k, Q y) : ∃ y ∈ xs.set k x', Q y := by
  obtain ⟨y, hy, hq⟩ := h
  obtain ⟨i, hi, hget⟩ := List.mem_eraseIdx_iff_getElem?.mp hy
  refine ⟨y, List.mem_iff_getElem?.mpr ⟨i, ?_⟩, hq⟩
  rw [List.getElem?_set_ne (Ne.symm hi), hget]

/-- A slot other than the `k`-th, if the `k`-th does not satisfy `Q`. -/
theorem exists_mem_eraseIdx (hk : xs[k]? = some x) (hx : ¬ Q x) (h : ∃ y ∈ xs, Q y) :
    ∃ y ∈ xs.eraseIdx k, Q y := by
  obtain ⟨y, hy, hq⟩ := h
  obtain ⟨i, hget⟩ := List.mem_iff_getElem?.mp hy
  have hi : i ≠ k := by
    rintro rfl
    rw [hk] at hget
    cases hget
    exact hx hq
  exact ⟨y, List.mem_eraseIdx_iff_getElem?.mpr ⟨i, hi, hget⟩, hq⟩

theorem exists_mem_set (hk : xs[k]? = some x) (hx : Q x → Q x') (h : ∃ y ∈ xs, Q y) :
    ∃ y ∈ xs.set k x', Q y := by
  by_cases hq : Q x
  · exact ⟨x', mem_set_self hk, hx hq⟩
  · exact exists_mem_set_of_eraseIdx (exists_mem_eraseIdx hk hq h)

theorem exists_mem_concat (x : α) (h : ∃ y ∈ xs, Q y) : ∃ y ∈ xs ++ [x], Q y := by
  obtain ⟨y, hy, hq⟩ := h
  exact ⟨y, List.mem_append_left _ hy, hq⟩

end Slots
