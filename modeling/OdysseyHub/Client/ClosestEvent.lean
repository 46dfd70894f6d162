import OdysseyHub.Client.TrackingHistory
import OdysseyHub.Lib.Nearest
import Mathlib.Tactic.Common

/-!
# The closest event (odyssey_hub_client::tracking_history, views/zero.rs)

`get_closest` takes the plain difference of two timestamps, starting from `u32::MAX` and
accepting strictly smaller ones only; its callers compute query times with `wrapping_sub`.
So it finds a nearest event in linear time unless all events lie at the other end of the
range (`findsClosest_iff`), and it follows a shift of the clock unless the wrap comes
between the query and its nearest events (`closest_follows_iff`).
-/

namespace OdysseyHub

namespace TrackingHistory

/-! ## In linear time -/

/-- `|e.timestamp - timestamp|` -/
def timeDist (timestamp : UInt32) (e : TrackingEvent) : Nat :=
  ((e.timestamp.toNat : Int) - timestamp.toNat).natAbs

theorem toNat_absDiff (a b : UInt32) : (absDiff a b).toNat = ((a.toNat : Int) - b.toNat).natAbs := by
  unfold absDiff
  split
  · next h =>
    have hlt := UInt32.lt_iff_toNat_lt.mp h
    rw [UInt32.toNat_sub_of_le _ _ (UInt32.le_iff_toNat_le.mpr (Nat.le_of_lt hlt))]
    omega
  · next h =>
    have hle : b.toNat ≤ a.toNat := Nat.le_of_not_lt fun hlt => h (UInt32.lt_iff_toNat_lt.mpr hlt)
    rw [UInt32.toNat_sub_of_le _ _ (UInt32.le_iff_toNat_le.mpr hle)]
    omega

theorem timeDist_le (timestamp : UInt32) (e : TrackingEvent) : timeDist timestamp e ≤ 4294967295 := by
  have h := e.timestamp.toNat_lt
  have h' := timestamp.toNat_lt
  unfold timeDist
  omega

/-- The loop of `get_closest` is the scan for a nearest event. -/
theorem foldl_closer (timestamp : UInt32) (l : List TrackingEvent) (best : Option TrackingEvent × UInt32) :
    ((l.map some).foldl (closer timestamp) best).1 =
      (l.foldl (Nearest.closer (timeDist timestamp)) (best.1, best.2.toNat)).1 := by
  induction l generalizing best with
  | nil => rfl
  | cons e l ih =>
    have hstep : Nearest.closer (timeDist timestamp) (best.1, best.2.toNat) e =
        ((closer timestamp best (some e)).1, (closer timestamp best (some e)).2.toNat) := by
      have hdist : timeDist timestamp e = (absDiff e.timestamp timestamp).toNat :=
        (toNat_absDiff e.timestamp timestamp).symm
      unfold Nearest.closer closer
      dsimp only
      rw [hdist]
      by_cases hlt : absDiff e.timestamp timestamp < best.2
      · rw [if_pos hlt, if_pos (UInt32.lt_iff_toNat_lt.mp hlt)]
      · rw [if_neg hlt, if_neg fun h => hlt (UInt32.lt_iff_toNat_lt.mpr h)]
    rw [List.map_cons, List.foldl_cons, List.foldl_cons, ih, hstep]

/-- A permutation of entries is a list of entries. -/
theorem exists_of_perm_map_some {α : Type} {cells : List (Option α)} {q : List α} (h : cells.Perm (q.map some)) :
    ∃ l : List α, cells = l.map some ∧ ∀ x, x ∈ l ↔ x ∈ q := by
  refine ⟨cells.filterMap id, ?_, fun x => ?_⟩
  · have hsome : ∀ c ∈ cells, ∃ x, c = some x := by
      intro c hc
      obtain ⟨x, -, rfl⟩ := List.mem_map.mp (h.mem_iff.mp hc)
      exact ⟨x, rfl⟩
    clear h
    induction cells with
    | nil => rfl
    | cons c cells ih =>
      obtain ⟨x, rfl⟩ := hsome c List.mem_cons_self
      rw [List.filterMap_cons_some (f := id) rfl, List.map_cons, ← ih fun c hc => hsome c (List.mem_cons_of_mem _ hc)]
  · rw [List.mem_filterMap]
    constructor
    · rintro ⟨c, hc, rfl⟩
      obtain ⟨y, hy, hxy⟩ := List.mem_map.mp (h.mem_iff.mp hc)
      cases hxy
      exact hy
    · intro hx
      exact ⟨some x, h.mem_iff.mpr (List.mem_map.mpr ⟨x, hx, rfl⟩), rfl⟩

/-- `get_closest` after a sequence of pushes; `none` is a panic. -/
def closestAfter (capacity : Nat) (events : List TrackingEvent) (timestamp : UInt32) :
    Option (Option TrackingEvent) :=
  ((new capacity).pushAll events).bind (·.getClosest timestamp)

/-- What the scan of the events `q` can give. -/
def Picks (q : List TrackingEvent) (timestamp : UInt32) : Option TrackingEvent → Prop
  | some e => e ∈ q ∧ timeDist timestamp e < 4294967295 ∧ ∀ f ∈ q, timeDist timestamp e ≤ timeDist timestamp f
  | none => ∀ f ∈ q, timeDist timestamp f = 4294967295

/-- **One lookup.**  It never panics, and picks from the events retained. -/
theorem closestAfter_picks {capacity : Nat} (hc : 0 < capacity) (events : List TrackingEvent)
    (timestamp : UInt32) :
    ∃ r, closestAfter capacity events timestamp = some r ∧ Picks (events.rtake capacity) timestamp r := by
  obtain ⟨h, hall, r⟩ := pushAll_new hc events
  obtain ⟨l, hl, hmem⟩ := exists_of_perm_map_some (r.used ▸ r.ring.perm)
  refine ⟨Nearest.nearest (timeDist timestamp) 4294967295 l, ?_, ?_⟩
  · rw [closestAfter, hall, Option.bind_some, r.getClosest, hl, foldl_closer]
    rfl
  · cases hn : Nearest.nearest (timeDist timestamp) 4294967295 l with
    | some e =>
      obtain ⟨he, hlt, hmin⟩ := Nearest.nearest_eq_some hn
      exact ⟨(hmem e).mp he, hlt, fun f hf => hmin f ((hmem f).mpr hf)⟩
    | none =>
      intro f hf
      have hge := Nearest.nearest_eq_none_iff.mp hn f ((hmem f).mpr hf)
      exact Nat.le_antisymm (timeDist_le timestamp f) hge

/-- A retained event is found, and none is nearer. -/
def FindsClosest (capacity : Nat) (events : List TrackingEvent) (timestamp : UInt32) : Prop :=
  ∃ e ∈ events.rtake capacity, closestAfter capacity events timestamp = some (some e) ∧
    ∀ f ∈ events.rtake capacity, timeDist timestamp e ≤ timeDist timestamp f

/-- The two ends of the range. -/
def Opposite (a b : UInt32) : Prop := (a = 0 ∧ b = 0xFFFFFFFF) ∨ (a = 0xFFFFFFFF ∧ b = 0)

instance (a b : UInt32) : Decidable (Opposite a b) := inferInstanceAs (Decidable (_ ∨ _))

theorem opposite_iff (timestamp : UInt32) (e : TrackingEvent) :
    Opposite e.timestamp timestamp ↔ timeDist timestamp e = 4294967295 := by
  have h := e.timestamp.toNat_lt
  have h' := timestamp.toNat_lt
  have hmax : (0xFFFFFFFF : UInt32).toNat = 4294967295 := rfl
  have hzero : (0 : UInt32).toNat = 0 := rfl
  unfold Opposite timeDist
  rw [← UInt32.toNat_inj, ← UInt32.toNat_inj, ← UInt32.toNat_inj, ← UInt32.toNat_inj, hmax, hzero]
  omega

/-- **Linear time.**  The lookup finds a nearest retained event exactly when some retained
event is not at the other end of the range. -/
theorem findsClosest_iff {capacity : Nat} (hc : 0 < capacity) (events : List TrackingEvent)
    (timestamp : UInt32) : FindsClosest capacity events timestamp ↔
      ∃ e ∈ events.rtake capacity, ¬ Opposite e.timestamp timestamp := by
  obtain ⟨r, hr, hp⟩ := closestAfter_picks hc events timestamp
  constructor
  · rintro ⟨e, he, hfound, -⟩
    rw [hfound] at hr
    cases hr
    exact ⟨e, he, fun ho => Nat.ne_of_lt hp.2.1 ((opposite_iff timestamp e).mp ho)⟩
  · rintro ⟨e, he, ho⟩
    cases r with
    | some f => exact ⟨f, hp.1, hr, hp.2.2⟩
    | none => exact absurd ((opposite_iff timestamp e).mpr (hp e he)) ho

theorem findsClosest_iff_two :
    FindsClosest 2 ([100, 200].map sampleEvent) 170 ↔
      ∃ e ∈ ([100, 200].map sampleEvent).rtake 2, ¬ Opposite e.timestamp 170 :=
  findsClosest_iff (by decide) ([100, 200].map sampleEvent) 170

/-- A marker event has the timestamp 0; an impact at 999 µs is looked up 1 ms earlier. -/
theorem closest_missed :
    ¬ ∀ (capacity : Nat) (events : List TrackingEvent) (timestamp : UInt32),
      0 < capacity → events ≠ [] → FindsClosest capacity events timestamp := by
  intro hall
  obtain ⟨e, he, ho⟩ := (findsClosest_iff (by decide) [sampleEvent 0] (999 - 1000)).mp
    (hall 1 [sampleEvent 0] (999 - 1000) (by decide) (by decide))
  have hret : [sampleEvent 0].rtake 1 = [sampleEvent 0] := rfl
  rw [hret, List.mem_singleton] at he
  subst he
  exact ho (by decide)

/-! ## Over the wrap of the clock -/

/-- The time between an event and the query on a clock that wraps, as `wrapping_sub`
counts it. -/
def clockDist (timestamp : UInt32) (e : TrackingEvent) : Nat :=
  min (e.timestamp - timestamp).toNat (timestamp - e.timestamp).toNat

/-- The event of a clock that reads `k` later. -/
def shift (k : UInt32) (e : TrackingEvent) : TrackingEvent := { e with timestamp := e.timestamp + k }

/-- The wrap comes between the event and the query. -/
def AcrossWrap (timestamp : UInt32) (e : TrackingEvent) : Prop := 2147483648 < timeDist timestamp e

instance (timestamp : UInt32) (e : TrackingEvent) : Decidable (AcrossWrap timestamp e) :=
  Nat.decLt 2147483648 (timeDist timestamp e)

/-- The shorter way round. -/
theorem clockDist_eq_min (timestamp : UInt32) (e : TrackingEvent) :
    clockDist timestamp e = min (timeDist timestamp e) (4294967296 - timeDist timestamp e) := by
  have h := e.timestamp.toNat_lt
  have h' := timestamp.toNat_lt
  unfold clockDist timeDist
  rw [UInt32.toNat_sub, UInt32.toNat_sub]
  omega

theorem clockDist_shift (timestamp k : UInt32) (e : TrackingEvent) :
    clockDist (timestamp + k) (shift k e) = clockDist timestamp e := by
  have hsub : ∀ a b : UInt32, a + k - (b + k) = a - b := by
    intro a b
    rw [UInt32.sub_eq_iff_eq_add, ← UInt32.add_assoc, UInt32.sub_add_cancel]
  unfold clockDist shift
  rw [hsub, hsub]

/-- What the plain difference makes of the time on the clock. -/
theorem timeDist_eq (timestamp : UInt32) (e : TrackingEvent) : timeDist timestamp e =
    if AcrossWrap timestamp e then 4294967296 - clockDist timestamp e else clockDist timestamp e := by
  have hle := timeDist_le timestamp e
  rw [clockDist_eq_min]
  by_cases hx : AcrossWrap timestamp e
  · rw [if_pos hx]
    unfold AcrossWrap at hx
    omega
  · rw [if_neg hx]
    unfold AcrossWrap at hx
    omega

theorem AcrossWrap.timeDist_add {timestamp : UInt32} {e : TrackingEvent} (h : AcrossWrap timestamp e) :
    timeDist timestamp e + clockDist timestamp e = 4294967296 := by
  have heq := timeDist_eq timestamp e
  rw [if_pos h] at heq
  unfold AcrossWrap at h
  omega

/-- Events equally near that both lie across the wrap carry one timestamp. -/
theorem AcrossWrap.timestamp_eq {timestamp : UInt32} {e f : TrackingEvent} (he : AcrossWrap timestamp e)
    (hf : AcrossWrap timestamp f) (h : clockDist timestamp e = clockDist timestamp f) :
    e.timestamp = f.timestamp := by
  have h₁ := e.timestamp.toNat_lt
  have h₂ := f.timestamp.toNat_lt
  have h₃ := timestamp.toNat_lt
  rw [← UInt32.toNat_inj]
  rw [clockDist_eq_min, clockDist_eq_min] at h
  unfold AcrossWrap at he hf
  unfold timeDist at h he hf
  omega

theorem acrossWrap_shift (timestamp k : UInt32) (e : TrackingEvent) :
    AcrossWrap (timestamp + k) (shift k e) ↔ 2147483648 <
      (((e.timestamp.toNat + k.toNat) % 4294967296 : Nat) -
        ((timestamp.toNat + k.toNat) % 4294967296 : Nat) : Int).natAbs := by
  show 2147483648 < ((((e.timestamp + k).toNat : Int)) - (timestamp + k).toNat).natAbs ↔ _
  rw [UInt32.toNat_add, UInt32.toNat_add]

/-- Where an event lies across the wrap before and after the shift, the shift moves no event
that is as far from the query over the wrap. -/
theorem acrossWrap_shift_iff {timestamp k : UInt32} {e f : TrackingEvent} (he : AcrossWrap timestamp e)
    (he' : AcrossWrap (timestamp + k) (shift k e)) (h : clockDist timestamp e ≤ clockDist timestamp f) :
    AcrossWrap timestamp f ↔ AcrossWrap (timestamp + k) (shift k f) := by
  have h₁ := e.timestamp.toNat_lt
  have h₂ := f.timestamp.toNat_lt
  have h₃ := timestamp.toNat_lt
  have h₄ := k.toNat_lt
  rw [clockDist_eq_min, clockDist_eq_min] at h
  rw [acrossWrap_shift] at he' ⊢
  unfold AcrossWrap at he ⊢
  unfold timeDist at h he ⊢
  omega

/-! ### What a lookup chooses, in terms of the clock

`near` is the time on the clock, and `far` says which events lie across the wrap. -/

section

variable {q : List TrackingEvent} {near : TrackingEvent → Nat} {far far' : TrackingEvent → Prop}
  {r r' : Option TrackingEvent}

/-- An event across the wrap is chosen only if all are, and then the farthest of them. -/
def Chosen (q : List TrackingEvent) (near : TrackingEvent → Nat) (far : TrackingEvent → Prop) :
    Option TrackingEvent → Prop
  | some e => e ∈ q ∧ (far e → near e ≠ 1 ∧ ∀ f ∈ q, far f ∧ near f ≤ near e) ∧
      (¬ far e → ∀ f ∈ q, ¬ far f → near e ≤ near f)
  | none => ∀ f ∈ q, far f ∧ near f = 1

/-- A nearest event lies on the query's side of the wrap. -/
def NearThisSide (q : List TrackingEvent) (near : TrackingEvent → Nat) (far : TrackingEvent → Prop) : Prop :=
  ∃ e ∈ q, (∀ f ∈ q, near e ≤ near f) ∧ ¬ far e

theorem Chosen.nearest (h : Chosen q near far r) (hn : NearThisSide q near far) :
    ∃ e ∈ q, r = some e ∧ ∀ f ∈ q, near e ≤ near f := by
  obtain ⟨m, hm, hmin, hside⟩ := hn
  cases r with
  | none => exact absurd (h m hm).1 hside
  | some e =>
    obtain ⟨he, hfar, hthis⟩ := h
    have hne : ¬ far e := fun hx => hside ((hfar hx).2 m hm).1
    exact ⟨e, he, rfl, fun f hf => Nat.le_trans (hthis hne m hm hside) (hmin f hf)⟩

/-- Two lookups that see the same events across the wrap. -/
theorem Chosen.le_of_same {e e' : TrackingEvent} (h : Chosen q near far (some e)) (h' : Chosen q near far' (some e'))
    (hsame : ∀ f ∈ q, (far f ↔ far' f)) : near e ≤ near e' := by
  obtain ⟨he, hfar, hthis⟩ := h
  obtain ⟨he', hfar', -⟩ := h'
  by_cases hx : far e
  · have hx' := (hsame e' he').mp ((hfar hx).2 e' he').1
    exact ((hfar' hx').2 e he).2
  · by_cases hx' : far' e'
    · exact absurd ((hsame e he).mpr ((hfar' hx').2 e he).1) hx
    · exact hthis hx e' he' fun h => hx' ((hsame e' he').mp h)

theorem Chosen.none_of_same (h : Chosen q near far none) (h' : Chosen q near far' r')
    (hsame : ∀ f ∈ q, (far f ↔ far' f)) : r' = none := by
  cases r' with
  | none => rfl
  | some e' =>
    obtain ⟨he', hfar', -⟩ := h'
    have hall := h e' he'
    exact absurd hall.2 (hfar' ((hsame e' he').mp hall.1)).1

theorem Chosen.tied_of_same (h : Chosen q near far r) (h' : Chosen q near far' r')
    (hsame : ∀ f ∈ q, (far f ↔ far' f)) : r.map near = r'.map near := by
  cases r with
  | none => rw [h.none_of_same h' hsame]
  | some e =>
    cases r' with
    | none => cases h'.none_of_same h fun f hf => (hsame f hf).symm
    | some e' =>
      have hle := h.le_of_same h' hsame
      have hge := h'.le_of_same h fun f hf => (hsame f hf).symm
      exact congrArg some (Nat.le_antisymm hle hge)

theorem Chosen.tied_of_nearest (h : Chosen q near far r) (h' : Chosen q near far' r')
    (hn : NearThisSide q near far) (hn' : NearThisSide q near far') : r.map near = r'.map near := by
  obtain ⟨e, he, rfl, hmin⟩ := h.nearest hn
  obtain ⟨e', he', rfl, hmin'⟩ := h'.nearest hn'
  exact congrArg some (Nat.le_antisymm (hmin e' he') (hmin' e he))

/-- Only an event 1 µs over the wrap is missed. -/
theorem Chosen.isSome (h : Chosen q near far r) {m : TrackingEvent} (hm : m ∈ q) (hne : near m ≠ 1) :
    ∃ e ∈ q, r = some e := by
  cases r with
  | none => exact absurd (h m hm).2 hne
  | some e => exact ⟨e, h.1, rfl⟩

/-- One chosen over the wrap, the other on this side: all events are at one time. -/
theorem Chosen.all_at {e e' : TrackingEvent} (h : Chosen q near far (some e)) (h' : Chosen q near far' (some e'))
    (hshift : ∀ e f, far e → far' e → near e ≤ near f → (far f ↔ far' f)) (heq : near e = near e')
    (hx : far e) (hx' : ¬ far' e') : ∀ f ∈ q, far f ∧ near f = near e := by
  obtain ⟨he, hfar, -⟩ := h
  obtain ⟨he', -, hthis'⟩ := h'
  intro f hf
  obtain ⟨hxf, hle⟩ := (hfar hx).2 f hf
  have hne : ¬ far' f := fun h => hx' ((hshift f e' hxf h (heq ▸ hle)).mp ((hfar hx).2 e' he').1)
  exact ⟨hxf, Nat.le_antisymm hle (heq ▸ hthis' hx' f hf hne)⟩

end

/-! ### Two runs -/

variable {q : List TrackingEvent} {timestamp k : UInt32} {r r' : Option TrackingEvent}

theorem Picks.chosen (h : Picks q timestamp r) : Chosen q (clockDist timestamp) (AcrossWrap timestamp) r := by
  cases r with
  | some e =>
    obtain ⟨he, hlt, hmin⟩ := h
    refine ⟨he, fun hx => ?_, fun hx f hf hxf => ?_⟩
    · have hsum := hx.timeDist_add
      refine ⟨by omega, fun f hf => ?_⟩
      have hle := hmin f hf
      have hxf : AcrossWrap timestamp f := Nat.lt_of_lt_of_le hx hle
      have hsumf := hxf.timeDist_add
      exact ⟨hxf, by omega⟩
    · have hle := hmin f hf
      rw [timeDist_eq, timeDist_eq, if_neg hx, if_neg hxf] at hle
      exact hle
  | none =>
    intro f hf
    have hmax := h f hf
    have hxf : AcrossWrap timestamp f := by
      unfold AcrossWrap
      omega
    have hsumf := hxf.timeDist_add
    exact ⟨hxf, by omega⟩

/-- The run of the shifted clock, told in the events of the first. -/
theorem Picks.chosen_shift (h : Picks (q.map (shift k)) (timestamp + k) r) :
    ∃ r' : Option TrackingEvent, r = r'.map (shift k) ∧
      Chosen q (clockDist timestamp) (fun e => AcrossWrap (timestamp + k) (shift k e)) r' := by
  have hch := h.chosen
  have hall : ∀ f ∈ q, shift k f ∈ q.map (shift k) := fun f hf => List.mem_map.mpr ⟨f, hf, rfl⟩
  cases r with
  | some e =>
    obtain ⟨he, hfar, hthis⟩ := hch
    obtain ⟨g, hg, rfl⟩ := List.mem_map.mp he
    rw [clockDist_shift] at hfar hthis
    refine ⟨some g, rfl, hg, fun hx => ⟨(hfar hx).1, fun f hf => ?_⟩, fun hx f hf hxf => ?_⟩
    · have hf' := (hfar hx).2 (shift k f) (hall f hf)
      rw [clockDist_shift] at hf'
      exact hf'
    · have hf' := hthis hx (shift k f) (hall f hf) hxf
      rw [clockDist_shift] at hf'
      exact hf'
  | none =>
    refine ⟨none, rfl, fun f hf => ?_⟩
    have hf' := hch (shift k f) (hall f hf)
    rw [clockDist_shift] at hf'
    exact hf'

/-- On a clock that reads `k` later the lookup gives the same event, or one as near. -/
def Follows (capacity : Nat) (events : List TrackingEvent) (timestamp k : UInt32) : Prop :=
  ∃ r r' : Option TrackingEvent, closestAfter capacity events timestamp = some r ∧
    closestAfter capacity (events.map (shift k)) (timestamp + k) = some (r'.map (shift k)) ∧
    r.map (clockDist timestamp) = r'.map (clockDist timestamp)

/-- A nearest event lies on the query's side of the wrap in both runs, or the wrap lies
between the query and the same events in both, or all events carry one timestamp, which is
not 1 µs from the query. -/
def WrapHarmless (q : List TrackingEvent) (timestamp k : UInt32) : Prop :=
  (NearThisSide q (clockDist timestamp) (AcrossWrap timestamp) ∧
    NearThisSide q (clockDist timestamp) (fun e => AcrossWrap (timestamp + k) (shift k e))) ∨
  (∀ e ∈ q, AcrossWrap timestamp e ↔ AcrossWrap (timestamp + k) (shift k e)) ∨
  ∀ e ∈ q, clockDist timestamp e ≠ 1 ∧ ∀ f ∈ q, e.timestamp = f.timestamp

theorem clockDist_congr {e f : TrackingEvent} (h : e.timestamp = f.timestamp) :
    clockDist timestamp e = clockDist timestamp f := by
  unfold clockDist
  rw [h]

theorem shift_timestamp_inj {e f : TrackingEvent} (h : (shift k e).timestamp = (shift k f).timestamp) :
    e.timestamp = f.timestamp := (UInt32.add_left_inj k).mp h

theorem WrapHarmless.tied (hw : WrapHarmless q timestamp k)
    (h : Chosen q (clockDist timestamp) (AcrossWrap timestamp) r)
    (h' : Chosen q (clockDist timestamp) (fun e => AcrossWrap (timestamp + k) (shift k e)) r') :
    r.map (clockDist timestamp) = r'.map (clockDist timestamp) := by
  rcases hw with ⟨hn, hn'⟩ | hsame | hone
  · exact h.tied_of_nearest h' hn hn'
  · exact h.tied_of_same h' hsame
  · cases q with
    | nil => exact h.tied_of_same h' fun f hf => absurd hf List.not_mem_nil
    | cons m q =>
      have hm : m ∈ m :: q := List.mem_cons_self
      obtain ⟨e, he, rfl⟩ := h.isSome hm (hone m hm).1
      obtain ⟨e', he', rfl⟩ := h'.isSome hm (hone m hm).1
      exact congrArg some (clockDist_congr ((hone e he).2 e' he'))

/-- An event nearer than both choices lies across the wrap in both runs, and so does every
event that changes its side. -/
theorem same_of_nearer {m : TrackingEvent} {e e' : TrackingEvent} (hm : m ∈ q)
    (h : Chosen q (clockDist timestamp) (AcrossWrap timestamp) (some e))
    (h' : Chosen q (clockDist timestamp) (fun e => AcrossWrap (timestamp + k) (shift k e)) (some e'))
    (hx : ¬ AcrossWrap timestamp e) (hx' : ¬ AcrossWrap (timestamp + k) (shift k e'))
    (hlt : clockDist timestamp m < clockDist timestamp e) (hlt' : clockDist timestamp m < clockDist timestamp e') :
    ∀ f ∈ q, AcrossWrap timestamp f ↔ AcrossWrap (timestamp + k) (shift k f) := by
  have hfar : ∀ f ∈ q, clockDist timestamp f ≤ clockDist timestamp m → AcrossWrap timestamp f := by
    intro f hf hle
    by_contra hne
    exact absurd (h.2.2 hx f hf hne) (by omega)
  have hfar' : ∀ f ∈ q, clockDist timestamp f ≤ clockDist timestamp m →
      AcrossWrap (timestamp + k) (shift k f) := by
    intro f hf hle
    by_contra hne
    exact absurd (h'.2.2 hx' f hf hne) (by omega)
  intro f hf
  rcases Nat.le_total (clockDist timestamp f) (clockDist timestamp m) with hle | hle
  · exact ⟨fun _ => hfar' f hf hle, fun _ => hfar f hf hle⟩
  · exact acrossWrap_shift_iff (hfar m hm (Nat.le_refl _)) (hfar' m hm (Nat.le_refl _)) hle

theorem wrapHarmless_of_tied (h : Chosen q (clockDist timestamp) (AcrossWrap timestamp) r)
    (h' : Chosen q (clockDist timestamp) (fun e => AcrossWrap (timestamp + k) (shift k e)) r')
    (heq : r.map (clockDist timestamp) = r'.map (clockDist timestamp)) : WrapHarmless q timestamp k := by
  cases r with
  | none =>
    cases r' with
    | none => exact Or.inr (Or.inl fun f hf => ⟨fun _ => (h' f hf).1, fun _ => (h f hf).1⟩)
    | some e' => cases heq
  | some e =>
    cases r' with
    | none => cases heq
    | some e' =>
      have hnear : clockDist timestamp e = clockDist timestamp e' := Option.some.inj heq
      by_cases hx : AcrossWrap timestamp e
      · by_cases hx' : AcrossWrap (timestamp + k) (shift k e')
        · exact Or.inr (Or.inl fun f hf => ⟨fun _ => ((h'.2.1 hx').2 f hf).1, fun _ => ((h.2.1 hx).2 f hf).1⟩)
        · have hat := h.all_at h' (fun _ _ he he' => acrossWrap_shift_iff he he') hnear hx hx'
          refine Or.inr (Or.inr fun f hf => ⟨(hat f hf).2 ▸ (h.2.1 hx).1, fun g hg => ?_⟩)
          exact (hat f hf).1.timestamp_eq (hat g hg).1 ((hat f hf).2.trans (hat g hg).2.symm)
      · by_cases hx' : AcrossWrap (timestamp + k) (shift k e')
        · have hat := h'.all_at h (fun _ _ he' he hle => (acrossWrap_shift_iff he he' hle).symm) hnear.symm hx' hx
          refine Or.inr (Or.inr fun f hf => ⟨(hat f hf).2 ▸ (h'.2.1 hx').1, fun g hg => ?_⟩)
          refine shift_timestamp_inj ((hat f hf).1.timestamp_eq (hat g hg).1 ?_)
          rw [clockDist_shift, clockDist_shift]
          exact (hat f hf).2.trans (hat g hg).2.symm
        · by_cases hnearer : ∃ m ∈ q, clockDist timestamp m < clockDist timestamp e
          · obtain ⟨m, hm, hlt⟩ := hnearer
            exact Or.inr (Or.inl (same_of_nearer hm h h' hx hx' hlt (hnear ▸ hlt)))
          · have hmin : ∀ f ∈ q, clockDist timestamp e ≤ clockDist timestamp f := fun f hf =>
              Nat.le_of_not_lt fun hlt => hnearer ⟨f, hf, hlt⟩
            exact Or.inl ⟨⟨e, h.1, hmin, hx⟩, e', h'.1, hnear ▸ hmin, hx'⟩

/-- **The wrap of the clock.**  Shifting all timestamps and the query shifts the event found,
up to ties on the clock, exactly when the wrap does no harm. -/
theorem closest_follows_iff {capacity : Nat} (hc : 0 < capacity) (events : List TrackingEvent)
    (timestamp k : UInt32) :
    Follows capacity events timestamp k ↔ WrapHarmless (events.rtake capacity) timestamp k := by
  obtain ⟨r, hr, hp⟩ := closestAfter_picks hc events timestamp
  obtain ⟨s, hs, hps⟩ := closestAfter_picks hc (events.map (shift k)) (timestamp + k)
  rw [Ring.map_rtake] at hps
  obtain ⟨r', rfl, h'⟩ := hps.chosen_shift
  constructor
  · rintro ⟨r₁, r₂, hr₁, hr₂, heq⟩
    rw [hr, Option.some.injEq] at hr₁
    rw [hs, Option.some.injEq] at hr₂
    subst hr₁
    refine wrapHarmless_of_tied hp.chosen h' (heq.trans ?_)
    have hcomp : ∀ r : Option TrackingEvent, r.map (clockDist timestamp) =
        (r.map (shift k)).map (clockDist (timestamp + k)) := by
      intro r
      rw [Option.map_map]
      exact congrArg (Option.map · r) (funext fun e => (clockDist_shift timestamp k e).symm)
    rw [hcomp r₂, hcomp r', hr₂]
  · exact fun hw => ⟨r, r', hr, hs, hw.tied hp.chosen h'⟩

theorem closest_follows_iff_two :
    Follows 2 ([100, 200].map sampleEvent) 170 1000 ↔
      WrapHarmless (([100, 200].map sampleEvent).rtake 2) 170 1000 :=
  closest_follows_iff (by decide) ([100, 200].map sampleEvent) 170 1000

/-- 5 µs after the clock wrapped, an event 15 µs ago loses to one 95 µs ahead. -/
theorem closest_lost_at_wrap :
    ¬ ∀ (capacity : Nat) (events : List TrackingEvent) (timestamp k base : UInt32), 0 < capacity →
      (∀ e ∈ events, (e.timestamp - base).toNat < 2147483648) →
      (∀ e ∈ events, clockDist timestamp e < 2147483648) → Follows capacity events timestamp k := by
  intro hall
  have hspan : ∀ e ∈ [sampleEvent (0 - 10), sampleEvent 100], (e.timestamp - (0 - 10)).toNat < 2147483648 := by
    intro e he
    rcases List.mem_pair.mp he with rfl | rfl <;> decide
  have hquery : ∀ e ∈ [sampleEvent (0 - 10), sampleEvent 100], clockDist 5 e < 2147483648 := by
    intro e he
    rcases List.mem_pair.mp he with rfl | rfl <;> decide
  have hw := (closest_follows_iff (by decide) [sampleEvent (0 - 10), sampleEvent 100] 5 1000).mp
    (hall 2 [sampleEvent (0 - 10), sampleEvent 100] 5 1000 (0 - 10) (by decide) hspan hquery)
  have hret : [sampleEvent (0 - 10), sampleEvent 100].rtake 2 = [sampleEvent (0 - 10), sampleEvent 100] := rfl
  rw [hret] at hw
  rcases hw with ⟨⟨e, he, hmin, hside⟩, -⟩ | hsame | hone
  · rcases List.mem_pair.mp he with rfl | rfl
    · exact hside (by decide)
    · exact absurd (hmin (sampleEvent (0 - 10)) List.mem_cons_self) (by decide)
  · exact absurd ((hsame (sampleEvent (0 - 10)) List.mem_cons_self).mp (by decide)) (by decide)
  · have hmem : sampleEvent 100 ∈ [sampleEvent (0 - 10), sampleEvent 100] := List.mem_pair.mpr (Or.inr rfl)
    exact absurd ((hone (sampleEvent (0 - 10)) List.mem_cons_self).2 (sampleEvent 100) hmem) (by decide)

end TrackingHistory

end OdysseyHub
