import Mathlib.Data.List.AList

/-!
# Hash maps

A hash map is an association list with distinct keys: its entries in the order in
which one iteration meets them.  The loops of a program over a map are folds over
these entries; what they do to a key does not depend on the order, and is said by
one lookup lemma an operation.
-/

/-- A map with an order of iteration. -/
abbrev HashMap (K V : Type) := AList fun _ : K => V

namespace HashMap

variable {K V W : Type} [DecidableEq K]

/-! ## Loops over entries that write another map -/

/-- `for (k, v) in entries { if let Some(w) = f(k, v, g.get(&k)) { g.insert(k, w) } }` -/
def visit (f : K → V → Option W → Option W) (g : HashMap K W) (entries : List (Sigma fun _ : K => V)) :
    HashMap K W :=
  entries.foldl
    (fun g e =>
      match f e.1 e.2 (g.lookup e.1) with
      | some w => g.insert e.1 w
      | none => g) g

theorem lookup_visit (f : K → V → Option W → Option W) (g : HashMap K W)
    {entries : List (Sigma fun _ : K => V)} (hnd : entries.NodupKeys) (k : K) :
    (visit f g entries).lookup k =
      ((entries.dlookup k).bind fun v => f k v (g.lookup k)).or (g.lookup k) := by
  induction entries generalizing g with
  | nil => rfl
  | cons e entries ih =>
    obtain ⟨a, v⟩ := e
    rw [List.nodupKeys_cons] at hnd
    by_cases hk : k = a
    · subst hk
      have hnone : entries.dlookup k = none := List.dlookup_eq_none.mpr hnd.1
      show (visit f _ entries).lookup k = _
      rw [ih _ hnd.2, hnone, List.dlookup_cons_eq, Option.bind_some]
      dsimp only
      split
      · next w hw => rw [hw, AList.lookup_insert]; rfl
      · next hw => rw [hw]; rfl
    · rw [List.dlookup_cons_ne entries ⟨a, v⟩ hk]
      show (visit f _ entries).lookup k = _
      rw [ih _ hnd.2]
      dsimp only
      split
      · rw [AList.lookup_insert_ne hk]
      · rfl

/-- `for (k, v) in entries { g.insert(k, f(g.get(&k), v)) }` -/
def insertAll (f : Option W → V → W) (g : HashMap K W) (entries : List (Sigma fun _ : K => V)) :
    HashMap K W :=
  visit (fun _ v old => some (f old v)) g entries

theorem lookup_insertAll (f : Option W → V → W) (g : HashMap K W)
    {entries : List (Sigma fun _ : K => V)} (hnd : entries.NodupKeys) (k : K) :
    (insertAll f g entries).lookup k =
      ((entries.dlookup k).map (f (g.lookup k))).or (g.lookup k) := by
  rw [insertAll, lookup_visit _ _ hnd]
  cases entries.dlookup k with
  | none => rfl
  | some v => rfl

/-- The loop over a whole map. -/
def merge (f : Option W → V → W) (g : HashMap K W) (m : HashMap K V) : HashMap K W :=
  insertAll f g m.entries

theorem lookup_merge (f : Option W → V → W) (g : HashMap K W) (m : HashMap K V) (k : K) :
    (merge f g m).lookup k = ((m.lookup k).map (f (g.lookup k))).or (g.lookup k) :=
  lookup_insertAll f g m.nodupKeys k

/-- `for k in m.keys() { g.entry(k).or_insert(w) }` -/
def orInsertKeys (w : W) (g : HashMap K W) (m : HashMap K V) : HashMap K W :=
  visit (fun _ _ old => if old.isSome then none else some w) g m.entries

theorem lookup_orInsertKeys (w : W) (g : HashMap K W) (m : HashMap K V) (k : K) :
    (orInsertKeys w g m).lookup k = if k ∈ m then some ((g.lookup k).getD w) else g.lookup k := by
  rw [orInsertKeys, lookup_visit _ _ m.nodupKeys]
  by_cases hk : k ∈ m
  · obtain ⟨v, hv⟩ := Option.isSome_iff_exists.mp (AList.lookup_isSome.mpr hk)
    have hv' : m.entries.dlookup k = some v := hv
    rw [if_pos hk, hv']
    cases hg : g.lookup k with
    | none => rfl
    | some x => rfl
  · have hnone : m.entries.dlookup k = none := AList.lookup_eq_none.mpr hk
    rw [if_neg hk, hnone]
    rfl

/-! ## Maps over and out of a map -/

/-- `into_iter().map(|(k, v)| (k, f(k, v))).collect()` -/
def mapValues (f : K → V → W) (m : HashMap K V) : HashMap K W :=
  ⟨m.entries.map (Sigma.map id f), m.nodupKeys.map₂ f m.entries⟩

theorem lookup_mapValues (f : K → V → W) (m : HashMap K V) (k : K) :
    (m.mapValues f).lookup k = (m.lookup k).map (f k) :=
  List.dlookup_map₂ k

/-- `retain` by the key. -/
def retainKeys (p : K → Bool) (m : HashMap K V) : HashMap K V :=
  ⟨m.entries.filter fun e => p e.1, m.nodupKeys.sublist List.filter_sublist⟩

theorem lookup_retainKeys (p : K → Bool) (m : HashMap K V) (k : K) :
    (m.retainKeys p).lookup k = if p k then m.lookup k else none := by
  show (m.entries.filter fun e => p e.1).dlookup k = if p k then m.entries.dlookup k else none
  induction m.entries with
  | nil => simp
  | cons e entries ih =>
    obtain ⟨a, v⟩ := e
    by_cases hk : k = a
    · subst hk
      cases hp : p k with
      | true => simp [hp]
      | false =>
        rw [List.filter_cons_of_neg (by simp [hp]), ih, hp]
        rfl
    · have hcons : ∀ l : List (Sigma fun _ : K => V), List.dlookup k (⟨a, v⟩ :: l) = l.dlookup k :=
        fun l => List.dlookup_cons_ne l ⟨a, v⟩ hk
      rw [hcons, ← ih]
      by_cases hp : p a = true
      · rw [List.filter_cons_of_pos (by simpa using hp), hcons]
      · rw [List.filter_cons_of_neg (by simpa using hp)]

/-- Membership as the lookup sees it. -/
theorem mem_iff_lookup (m : HashMap K V) (k : K) : k ∈ m ↔ ∃ v, m.lookup k = some v := by
  rw [← AList.lookup_isSome, Option.isSome_iff_exists]

theorem eq_of_lookup_singleton {k a : K} {v w : V} (h : (AList.singleton k v : HashMap K V).lookup a = some w) :
    a = k ∧ w = v := by
  rw [← AList.insert_empty] at h
  by_cases ha : a = k
  · subst ha
    rw [AList.lookup_insert] at h
    exact ⟨rfl, (Option.some.inj h).symm⟩
  · rw [AList.lookup_insert_ne ha] at h
    cases h

/-! ## Maps under other keys -/

section

variable {K' : Type} [DecidableEq K']

/-- `into_iter().map(|(k, v)| (f(k), h(v))).collect()`; `none` where `h` panics. -/
def collect (f : K → K') (h : V → Option W) (m : HashMap K V) : Option (HashMap K' W) :=
  m.entries.foldlM (fun g e => (h e.2).map fun w => g.insert (f e.1) w) ∅

/-- `for (k, v) in m { g.insert(f(k), h(v)) }` into a new map. -/
def rekey (f : K → K') (h : V → W) (m : HashMap K V) : HashMap K' W :=
  m.entries.foldl (fun g e => g.insert (f e.1) (h e.2)) ∅

omit [DecidableEq K] in
theorem collect_some (f : K → K') (h : V → W) (m : HashMap K V) :
    collect f (fun v => some (h v)) m = some (rekey f h m) :=
  List.foldlM_pure

omit [DecidableEq K] in
theorem foldlM_insert (f : K → K') (h : V → Option W) {entries : List (Sigma fun _ : K => V)}
    (hnd : ((entries.map Sigma.fst).map f).Nodup) (hs : ∀ e ∈ entries, ∃ w, h e.2 = some w) (g : HashMap K' W) :
    ∃ g', entries.foldlM (fun g e => (h e.2).map fun w => g.insert (f e.1) w) g = some g' ∧
      (∀ e ∈ entries, g'.lookup (f e.1) = h e.2) ∧
      ∀ k, (∀ e ∈ entries, f e.1 ≠ k) → g'.lookup k = g.lookup k := by
  induction entries generalizing g with
  | nil => exact ⟨g, rfl, fun e he => absurd he List.not_mem_nil, fun k _ => rfl⟩
  | cons e entries ih =>
    rw [List.map_cons, List.map_cons, List.nodup_cons] at hnd
    obtain ⟨w, hw⟩ := hs e List.mem_cons_self
    obtain ⟨g', hg', hin, hout⟩ := ih hnd.2 (fun e he => hs e (List.mem_cons_of_mem _ he)) (g.insert (f e.1) w)
    have hfresh : ∀ e' ∈ entries, f e'.1 ≠ f e.1 := fun e' he' heq =>
      hnd.1 (List.mem_map.mpr ⟨e'.1, List.mem_map_of_mem he', heq⟩)
    refine ⟨g', ?_, ?_, ?_⟩
    · rw [List.foldlM_cons, hw]
      exact hg'
    · intro e' he'
      rcases List.mem_cons.mp he' with rfl | he'
      · rw [hout _ hfresh, AList.lookup_insert, hw]
      · exact hin e' he'
    · intro k hk
      rw [hout k fun e' he' => hk e' (List.mem_cons_of_mem _ he')]
      exact AList.lookup_insert_ne (hk e List.mem_cons_self).symm

/-- Keys that stay apart and values that all convert: nothing is lost or made up. -/
theorem lookup_collect {f : K → K'} {h : V → Option W} {m : HashMap K V}
    (hinj : ∀ a ∈ m, ∀ b ∈ m, f a = f b → a = b) (hs : ∀ k v, m.lookup k = some v → ∃ w, h v = some w) :
    ∃ m', collect f h m = some m' ∧ (∀ k v, m.lookup k = some v → m'.lookup (f k) = h v) ∧
      ∀ k', (∀ k ∈ m, f k ≠ k') → m'.lookup k' = none := by
  have hmem : ∀ e ∈ m.entries, m.lookup e.1 = some e.2 := fun e he => AList.mem_lookup_iff.mpr he
  have hnd : ((m.entries.map Sigma.fst).map f).Nodup := List.Nodup.map_on hinj m.nodupKeys
  obtain ⟨m', hm', hin, hout⟩ := foldlM_insert f h hnd (fun e he => hs e.1 e.2 (hmem e he)) ∅
  refine ⟨m', hm', fun k v hkv => hin ⟨k, v⟩ (AList.mem_lookup_iff.mp hkv), fun k' hk' => ?_⟩
  rw [hout k' fun e he => hk' e.1 (List.mem_map_of_mem he), AList.lookup_empty]

theorem lookup_rekey {f : K → K'} (hinj : Function.Injective f) (h : V → W) (m : HashMap K V) :
    (∀ k, (rekey f h m).lookup (f k) = (m.lookup k).map h) ∧
      ∀ k', (∀ k ∈ m, f k ≠ k') → (rekey f h m).lookup k' = none := by
  obtain ⟨m', hm', hin, hout⟩ :=
    lookup_collect (h := fun v => some (h v)) (fun a _ b _ hab => hinj hab) fun k v (_ : m.lookup k = some v) => ⟨h v, rfl⟩
  rw [collect_some, Option.some.injEq] at hm'
  subst hm'
  refine ⟨fun k => ?_, hout⟩
  cases hk : m.lookup k with
  | some v => exact hin k v hk
  | none =>
    refine hout (f k) fun a ha heq => ?_
    rw [hinj heq] at ha
    exact AList.lookup_eq_none.mp hk ha

omit [DecidableEq K] in
theorem isSome_foldlM_insert (f : K → K') (h : V → Option W) (entries : List (Sigma fun _ : K => V))
    (g : HashMap K' W) :
    (entries.foldlM (fun g e => (h e.2).map fun w => g.insert (f e.1) w) g).isSome ↔
      ∀ e ∈ entries, (h e.2).isSome := by
  induction entries generalizing g with
  | nil => exact ⟨fun _ e he => absurd he List.not_mem_nil, fun _ => rfl⟩
  | cons e entries ih =>
    rw [List.foldlM_cons, List.forall_mem_cons]
    cases he : h e.2 with
    | none => exact ⟨fun hs => (by cases hs), fun hs => absurd hs.1 (by simp)⟩
    | some w => exact (ih (g.insert (f e.1) w)).trans ⟨fun hs => ⟨rfl, hs⟩, fun hs => hs.2⟩

/-- The conversion of a map panics exactly where that of a value does. -/
theorem isSome_collect_iff (f : K → K') (h : V → Option W) (m : HashMap K V) :
    (collect f h m).isSome ↔ ∀ k v, m.lookup k = some v → (h v).isSome := by
  unfold collect
  rw [isSome_foldlM_insert]
  constructor
  · intro hall k v hkv
    exact hall ⟨k, v⟩ (AList.mem_lookup_iff.mp hkv)
  · intro hall e he
    exact hall e.1 e.2 (AList.mem_lookup_iff.mpr he)

/-- `==` of hash maps: the same entries, in any order. -/
def Same (m m' : HashMap K V) : Prop := ∀ k, m.lookup k = m'.lookup k

/-- Keys and values that are read back: the map is, whatever its order in between. -/
theorem collect_rekey {f : K → K'} {f' : K' → K} {h : V → W} {h' : W → Option V} (hf : Function.LeftInverse f' f)
    (hh : ∀ v, h' (h v) = some v) (m : HashMap K V) {wire : HashMap K' W} (hw : Same wire (rekey f h m)) :
    ∃ m', collect f' h' wire = some m' ∧ Same m' m := by
  obtain ⟨hin, hout⟩ := lookup_rekey hf.injective h m
  have hkeys : ∀ a w, wire.lookup a = some w → ∃ k v, m.lookup k = some v ∧ f k = a ∧ h v = w := by
    intro a w ha
    by_cases hall : ∀ k ∈ m, f k ≠ a
    · rw [hw a, hout a hall] at ha
      cases ha
    · push Not at hall
      obtain ⟨k, hk, rfl⟩ := hall
      obtain ⟨v, hv⟩ := (mem_iff_lookup m k).mp hk
      rw [hw, hin k, hv] at ha
      exact ⟨k, v, hv, rfl, Option.some.inj ha⟩
  have hmem : ∀ a ∈ wire, ∃ k ∈ m, f k = a := by
    intro a ha
    obtain ⟨w, hw'⟩ := (mem_iff_lookup wire a).mp ha
    obtain ⟨k, v, hv, hk, -⟩ := hkeys a w hw'
    exact ⟨k, (mem_iff_lookup m k).mpr ⟨v, hv⟩, hk⟩
  have hinj : ∀ a ∈ wire, ∀ b ∈ wire, f' a = f' b → a = b := by
    intro a ha b hb heq
    obtain ⟨k, -, rfl⟩ := hmem a ha
    obtain ⟨k', -, rfl⟩ := hmem b hb
    rw [hf k, hf k'] at heq
    rw [heq]
  have hread : ∀ a w, wire.lookup a = some w → ∃ v, h' w = some v := by
    intro a w ha
    obtain ⟨k, v, -, -, rfl⟩ := hkeys a w ha
    exact ⟨v, hh v⟩
  obtain ⟨m', hm', hin', hout'⟩ := lookup_collect hinj hread
  refine ⟨m', hm', fun k => ?_⟩
  cases hk : m.lookup k with
  | some v =>
    have hwire : wire.lookup (f k) = some (h v) := by
      rw [hw, hin, hk]
      rfl
    rw [← hf k, hin' (f k) (h v) hwire, hh]
  | none =>
    refine hout' k fun a ha heq => ?_
    obtain ⟨k', hk', rfl⟩ := hmem a ha
    rw [hf k'] at heq
    subst heq
    exact AList.lookup_eq_none.mp hk hk'

end

end HashMap
