import Mathlib.Data.Finmap

/-!
# The last write of a key

A map to which a program only ever writes single entries holds, under every key, what was written
there last (`Holds.insert`).
-/

namespace LastWrite

variable {κ V : Type*} [DecidableEq κ]

/-- The value written last under a key. -/
def latest (writes : List (κ × V)) (k : κ) : Option V := (writes.filter (·.1 = k)).getLast?.map (·.2)

theorem latest_append (writes more : List (κ × V)) (k : κ) :
    latest (writes ++ more) k = (latest more k).or (latest writes k) := by
  unfold latest
  rw [List.filter_append, List.getLast?_append]
  cases (more.filter (·.1 = k)).getLast? with
  | none => rfl
  | some p => rfl

theorem latest_singleton (k' : κ) (v : V) (k : κ) : latest [(k', v)] k = if k' = k then some v else none := by
  unfold latest
  by_cases hk : k' = k
  · rw [if_pos hk, List.filter_cons_of_pos (by simpa using hk)]
    rfl
  · rw [if_neg hk, List.filter_cons_of_neg (by simpa using hk)]
    rfl

/-- Only the writes of the key count. -/
theorem latest_eq_none_iff (writes : List (κ × V)) (k : κ) : latest writes k = none ↔ ∀ p ∈ writes, p.1 ≠ k := by
  unfold latest
  rw [Option.map_eq_none_iff, List.getLast?_eq_none_iff, List.filter_eq_nil_iff]
  simp

/-- The map is what the writes have made of an empty one. -/
def Holds (m : Finmap fun _ : κ => V) (writes : List (κ × V)) : Prop := ∀ k, m.lookup k = latest writes k

theorem holds_empty : Holds (∅ : Finmap fun _ : κ => V) [] := fun k => Finmap.lookup_empty k

theorem Holds.insert {m : Finmap fun _ : κ => V} {writes : List (κ × V)} (h : Holds m writes) (k' : κ) (v : V) :
    Holds (m.insert k' v) (writes ++ [(k', v)]) := by
  intro k
  rw [latest_append, latest_singleton]
  by_cases hk : k' = k
  · subst hk
    rw [if_pos rfl, Finmap.lookup_insert]
    rfl
  · rw [if_neg hk, Finmap.lookup_insert_of_ne _ (Ne.symm hk), h k]
    rfl

end LastWrite
