import Mathlib.Order.Lattice
import Mathlib.Data.List.Induction

/-!
# The nearest of a list

A scan keeps the best value so far with its distance, starts from the distance `top`, and
takes a value only if it is strictly nearer.  It finds a nearest value, unless none is
nearer than `top`:

    nearest dist top l = some x → x ∈ l ∧ dist x < top ∧ ∀ y ∈ l, dist x ≤ dist y
    nearest dist top l = none ↔ ∀ y ∈ l, top ≤ dist y
-/

namespace Nearest

variable {α β : Type*} [LinearOrder β]

/-- Keep the best value unless the next one is strictly nearer. -/
def closer (dist : α → β) (best : Option α × β) (x : α) : Option α × β :=
  if dist x < best.2 then (some x, dist x) else best

def nearest (dist : α → β) (top : β) (l : List α) : Option α := (l.foldl (closer dist) (none, top)).1

/-- What the scan has after the values `seen`. -/
structure Best (dist : α → β) (top : β) (seen : List α) (best : Option α × β) : Prop where
  le_top : best.2 ≤ top
  min : ∀ y ∈ seen, best.2 ≤ dist y
  found : ∀ x, best.1 = some x → x ∈ seen ∧ dist x = best.2 ∧ best.2 < top
  missed : best.1 = none → best.2 = top

variable {dist : α → β} {top : β} {seen l : List α} {best : Option α × β}

theorem best_nil (dist : α → β) (top : β) : Best dist top [] (none, top) :=
  ⟨le_refl top, fun y hy => absurd hy List.not_mem_nil, fun x hx => (by cases hx), fun _ => rfl⟩

theorem Best.add (b : Best dist top seen best) (x : α) : Best dist top (seen ++ [x]) (closer dist best x) := by
  unfold closer
  by_cases hx : dist x < best.2
  · rw [if_pos hx]
    refine ⟨le_of_lt (lt_of_lt_of_le hx b.le_top), ?_, ?_, fun h => by cases h⟩
    · intro y hy
      rcases List.mem_append.mp hy with hy | hy
      · exact le_trans (le_of_lt hx) (b.min y hy)
      · rw [List.mem_singleton.mp hy]
    · rintro y ⟨⟩
      exact ⟨List.mem_append_right _ (List.mem_singleton.mpr rfl), rfl, lt_of_lt_of_le hx b.le_top⟩
  · rw [if_neg hx]
    refine ⟨b.le_top, ?_, ?_, b.missed⟩
    · intro y hy
      rcases List.mem_append.mp hy with hy | hy
      · exact b.min y hy
      · rw [List.mem_singleton.mp hy]
        exact le_of_not_gt hx
    · intro y hy
      obtain ⟨hmem, heq, hlt⟩ := b.found y hy
      exact ⟨List.mem_append_left _ hmem, heq, hlt⟩

theorem best_foldl (dist : α → β) (top : β) (l : List α) :
    Best dist top l (l.foldl (closer dist) (none, top)) := by
  induction l using List.reverseRecOn with
  | nil => exact best_nil dist top
  | append_singleton l x ih =>
    rw [List.foldl_append]
    exact ih.add x

/-- **What is found** is in the list, nearer than `top`, and a nearest. -/
theorem nearest_eq_some {x : α} (h : nearest dist top l = some x) :
    x ∈ l ∧ dist x < top ∧ ∀ y ∈ l, dist x ≤ dist y := by
  have b := best_foldl dist top l
  obtain ⟨hmem, heq, hlt⟩ := b.found x h
  rw [heq]
  exact ⟨hmem, hlt, b.min⟩

theorem nearest_eq_none_iff : nearest dist top l = none ↔ ∀ y ∈ l, top ≤ dist y := by
  have b := best_foldl dist top l
  constructor
  · intro h y hy
    rw [← b.missed h]
    exact b.min y hy
  · intro h
    cases hn : nearest dist top l with
    | none => rfl
    | some x =>
      obtain ⟨hmem, hlt, -⟩ := nearest_eq_some hn
      exact absurd (h x hmem) (not_le_of_gt hlt)

end Nearest
