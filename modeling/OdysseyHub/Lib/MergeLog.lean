import OdysseyHub.Lib.HashMap

/-!
# Merges into a map, in order

`merges` are maps merged into another one after the other, by a merge whose result shows
the value merged (`val`).  A map carries the `i`-th if each of its keys shows the value
of that merge, or of a later one.  The target carries all of them
(`carriesBelow_merge`), and what is copied from it goes on carrying those it has seen
(`CarriesBelow.append`).
-/

namespace HashMap

variable {K V W : Type} [DecidableEq K]

/-- Every key of the `i`-th map has in `m` the value of that map, or of one merged later. -/
def Carries (val : W → V) (merges : List (HashMap K V)) (i : Nat) (m : HashMap K W) : Prop :=
  ∀ fresh k, merges[i]? = some fresh → k ∈ fresh →
    ∃ j later w, i ≤ j ∧ merges[j]? = some later ∧ m.lookup k = some w ∧ later.lookup k = some (val w)

/-- The first `n` merges have all been seen. -/
def CarriesBelow (val : W → V) (merges : List (HashMap K V)) (n : Nat) (m : HashMap K W) : Prop :=
  n ≤ merges.length ∧ ∀ i < n, Carries val merges i m

variable {val : W → V} {merges : List (HashMap K V)} {fresh : HashMap K V} {m : HashMap K W} {n i : Nat}

theorem Carries.append (h : Carries val merges i m) (hi : i < merges.length) :
    Carries val (merges ++ [fresh]) i m := by
  intro old k hold hk
  rw [List.getElem?_append_left hi] at hold
  obtain ⟨j, later, w, hij, hlater, hw, hval⟩ := h old k hold hk
  obtain ⟨hj, -⟩ := List.getElem?_eq_some_iff.mp hlater
  exact ⟨j, later, w, hij, (List.getElem?_append_left hj).trans hlater, hw, hval⟩

/-- What has been copied stays as it was. -/
theorem CarriesBelow.append (h : CarriesBelow val merges n m) : CarriesBelow val (merges ++ [fresh]) n m := by
  refine ⟨?_, fun i hi => (h.2 i hi).append (Nat.lt_of_lt_of_le hi h.1)⟩
  rw [List.length_append]
  exact Nat.le_trans h.1 (Nat.le_add_right _ _)

theorem carriesBelow_zero (m : HashMap K W) : CarriesBelow val merges 0 m :=
  ⟨Nat.zero_le _, fun i hi => absurd hi (Nat.not_lt_zero i)⟩

/-- **One merge more.** -/
theorem carriesBelow_merge {f : Option W → V → W} (hf : ∀ old v, val (f old v) = v)
    (h : CarriesBelow val merges merges.length m) :
    CarriesBelow val (merges ++ [fresh]) (merges.length + 1) (m.merge f fresh) := by
  refine ⟨by rw [List.length_append]; rfl, fun i hi old k hold hk => ?_⟩
  have hlast : (merges ++ [fresh])[merges.length]? = some fresh := by
    rw [List.getElem?_append_right (Nat.le_refl _), Nat.sub_self]
    rfl
  by_cases hfresh : k ∈ fresh
  · -- the key shows what has just been merged
    obtain ⟨v, hv⟩ := (mem_iff_lookup fresh k).mp hfresh
    refine ⟨merges.length, fresh, f (m.lookup k) v, Nat.le_of_lt_succ hi, hlast, ?_, ?_⟩
    · rw [lookup_merge, hv]
      rfl
    · rw [hf]
      exact hv
  · have hkeep : (m.merge f fresh).lookup k = m.lookup k := by
      rw [lookup_merge, AList.lookup_eq_none.mpr hfresh]
      rfl
    have hlt : i < merges.length := by
      by_contra hge
      have heq : i = merges.length := by omega
      rw [heq, hlast] at hold
      exact hfresh (Option.some.inj hold ▸ hk)
    obtain ⟨j, later, w, hij, hlater, hw, hval⟩ := (h.2 i hlt).append hlt old k hold hk
    exact ⟨j, later, w, hij, hlater, hkeep.trans hw, hval⟩

/-- Maps with the same entries carry the same. -/
theorem Carries.same {m' : HashMap K W} (h : Carries val merges i m) (hs : m'.Same m) :
    Carries val merges i m' := by
  intro old k hold hk
  obtain ⟨j, later, w, hij, hlater, hw, hval⟩ := h old k hold hk
  exact ⟨j, later, w, hij, hlater, (hs k).trans hw, hval⟩

end HashMap
