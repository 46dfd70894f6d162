import Mathlib.Data.List.Nodup

/-!
# Lists as maps

A program that keeps a map in a list finds an entry by its key and then replaces it,
erases it, or appends a new one.  `Distinct key l` is what makes the list a map; each
edit keeps it, and under it an edit of the entry of `k` says nothing about the entries
of other keys (`Distinct.mem_eraseP`, `Distinct.mem_set`).
-/

namespace KeyedList

variable {α κ : Type*} {key : α → κ} {l l' : List α} {k : κ} {i : Nat} {x y : α}

/-- No two entries have the same key. -/
def Distinct (key : α → κ) (l : List α) : Prop := (l.map key).Nodup

theorem distinct_nil (key : α → κ) : Distinct key [] := List.nodup_nil

/-- An edit that keeps every key in its place. -/
theorem Distinct.of_map_eq (h : Distinct key l) (he : l'.map key = l.map key) : Distinct key l' := by
  unfold Distinct
  rw [he]
  exact h

theorem Distinct.concat (h : Distinct key l) (hx : ∀ e ∈ l, key e ≠ key x) :
    Distinct key (l ++ [x]) := by
  unfold Distinct
  rw [List.map_append, List.nodup_append]
  refine ⟨h, by simp, ?_⟩
  intro a ha b hb
  obtain ⟨e, he, rfl⟩ := List.mem_map.mp ha
  obtain rfl : b = key x := by simpa using hb
  exact hx e he

theorem map_set_same (hi : l[i]? = some y) (hx : key x = key y) :
    (l.set i x).map key = l.map key := by
  rw [List.map_set, hx]
  refine List.ext_getElem? fun j => ?_
  rw [List.getElem?_set]
  split
  · next h =>
    subst h
    have hlt := (List.getElem?_eq_some_iff.mp hi).1
    have hy : l[i] = y := Option.some.inj ((List.getElem?_eq_getElem hlt).symm.trans hi)
    simp [hlt, hy]
  · rfl

theorem modify_eq_set (hi : l[i]? = some y) (f : α → α) : l.modify i f = l.set i (f y) := by
  rw [List.modify_eq_set_getElem?, hi]
  rfl

theorem Distinct.set (h : Distinct key l) (hi : l[i]? = some y) (hx : key x = key y) :
    Distinct key (l.set i x) :=
  h.of_map_eq (map_set_same hi hx)

theorem Distinct.eraseP (h : Distinct key l) (p : α → Bool) : Distinct key (l.eraseP p) :=
  List.Nodup.sublist (List.eraseP_sublist.map key) h

/-- The keys other than that of the entry in place `i` stay with their entries. -/
theorem Distinct.mem_set (h : Distinct key l) (hi : l[i]? = some y) (hx : key x = key y) {e : α} :
    e ∈ l.set i x ↔ e = x ∨ (e ∈ l ∧ key e ≠ key x) := by
  constructor
  · intro he
    obtain ⟨j, hj⟩ := List.mem_iff_getElem?.mp he
    by_cases hij : j = i
    · subst hij
      have hlt := (List.getElem?_eq_some_iff.mp hi).1
      rw [List.getElem?_set_self hlt] at hj
      exact .inl (Option.some.inj hj).symm
    · rw [List.getElem?_set_ne (Ne.symm hij)] at hj
      refine .inr ⟨List.mem_of_getElem? hj, fun hk => hij ?_⟩
      have hj' : (l.map key)[j]? = (l.map key)[i]? := by
        rw [List.getElem?_map, List.getElem?_map, hj, hi, Option.map_some, Option.map_some, hk, hx]
      have hlt : j < (l.map key).length := by
        rw [List.length_map]
        exact (List.getElem?_eq_some_iff.mp hj).1
      exact (List.getElem?_inj hlt h).mp hj'
  · rintro (rfl | ⟨he, hk⟩)
    · exact List.mem_set (List.getElem?_eq_some_iff.mp hi).1 e
    · obtain ⟨j, hj⟩ := List.mem_iff_getElem?.mp he
      have hij : i ≠ j := by
        rintro rfl
        rw [hi] at hj
        exact hk ((congrArg key (Option.some.inj hj)).symm.trans hx.symm)
      refine List.mem_iff_getElem?.mpr ⟨j, ?_⟩
      rw [List.getElem?_set_ne hij]
      exact hj

section
variable [BEq κ] [LawfulBEq κ]

theorem forall_of_findIdx?_none (h : l.findIdx? (fun e => key e == k) = none) :
    ∀ e ∈ l, key e ≠ k := by
  intro e he
  simpa using List.findIdx?_eq_none_iff.mp h e he

theorem exists_of_findIdx?_some (h : l.findIdx? (fun e => key e == k) = some i) :
    ∃ y, l[i]? = some y ∧ key y = k := by
  obtain ⟨hlt, hp, -⟩ := List.findIdx?_eq_some_iff_getElem.mp h
  exact ⟨l[i], List.getElem?_eq_getElem hlt, by simpa using hp⟩

/-- Erasing the entry of `k` leaves the entries of the other keys, and no other. -/
theorem Distinct.mem_eraseP (h : Distinct key l) {e : α} :
    e ∈ l.eraseP (fun a => key a == k) ↔ e ∈ l ∧ key e ≠ k := by
  constructor
  · intro he
    refine ⟨List.mem_of_mem_eraseP he, fun hk => ?_⟩
    induction l with
    | nil => cases he
    | cons a l ih =>
      obtain ⟨hnot, hd⟩ := List.nodup_cons.mp h
      by_cases ha : key a = k
      · rw [List.eraseP_cons_of_pos (by simpa using ha)] at he
        exact hnot (List.mem_map.mpr ⟨e, he, hk.trans ha.symm⟩)
      · rw [List.eraseP_cons_of_neg (by simpa using ha)] at he
        obtain rfl | he := List.mem_cons.mp he
        · exact ha hk
        · exact ih hd he
  · rintro ⟨he, hk⟩
    exact (List.mem_eraseP_of_neg (by simpa using hk)).mpr he

/-- After an erasure nothing is found under the key. -/
theorem Distinct.find?_eraseP (h : Distinct key l) :
    (l.eraseP fun a => key a == k).find? (fun a => key a == k) = none := by
  rw [List.find?_eq_none]
  intro e he
  simpa using (h.mem_eraseP.mp he).2

end

end KeyedList
