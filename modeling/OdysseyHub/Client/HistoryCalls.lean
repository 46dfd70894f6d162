import OdysseyHub.Client.TrackingHistory

/-!
# Calls of a tracking history (odyssey_hub_client_ffi, odyssey_hub_client_uniffi)

Both foreign interfaces make a history of any `u32` capacity and pass the calls on.  What a
call indexes, divides by and subtracts is stated beside the call (`Call.Safe`), and a call
panics exactly where this fails.  A history without room is safe as long as nothing is
pushed:

    Safe (trackingHistoryNew capacity) calls ↔ capacity ≠ 0 ∨ no call is a push    (safe_iff)
-/

namespace OdysseyHub

namespace TrackingHistory

inductive Call
  | push (event : TrackingEvent)
  | latest
  | getClosest (timestamp : UInt32)
  deriving DecidableEq, Repr

/-- `tracking_history_new`, and the constructor of the uniffi `TrackingHistory` -/
def trackingHistoryNew (capacity : UInt32) : TrackingHistory := .new capacity.toNat

/-- A call, with what it returns; `none` is a panic. -/
def call (h : TrackingHistory) : Call → Option (TrackingHistory × Option TrackingEvent)
  | .push event => (h.push event).map fun h => (h, none)
  | .latest => h.latest.map fun te => (h, te)
  | .getClosest timestamp => (h.getClosest timestamp).map fun te => (h, te)

/-- Every index is one of the buffer, and nothing is divided by zero or falls below it. -/
def Call.Safe (h : TrackingHistory) : Call → Prop
  | .push _ => h.head < h.buffer.length ∧ h.capacity ≠ 0
  | .latest =>
    ¬ (h.head = 0 ∧ h.full = false) →
      1 ≤ h.head + h.capacity ∧ h.capacity ≠ 0 ∧ (h.head + h.capacity - 1) % h.capacity < h.buffer.length
  | .getClosest _ => ∀ i < if h.full then h.capacity else h.head, i < h.buffer.length

/-- Every call of a sequence is safe in the history that it finds. -/
def Safe : TrackingHistory → List Call → Prop
  | _, [] => True
  | h, c :: calls => c.Safe h ∧ ∀ h' te, h.call c = some (h', te) → Safe h' calls

/-- One call after another. -/
def callAll (h : TrackingHistory) (calls : List Call) : Option TrackingHistory :=
  calls.foldlM (fun h c => (h.call c).map (·.1)) h

variable {h h' : TrackingHistory} {te : Option TrackingEvent}

/-! ## Safe calls are the calls that return -/

theorem push_isSome_iff (event : TrackingEvent) : (h.push event).isSome = true ↔ (Call.push event).Safe h := by
  unfold push
  split
  · next hok => exact ⟨fun _ => hok, fun _ => rfl⟩
  · next hno => exact ⟨fun hs => (by cases hs), fun hs => absurd hs hno⟩

theorem latest_isSome_iff : h.latest.isSome = true ↔ Call.latest.Safe h := by
  unfold latest
  by_cases hempty : h.head = 0 ∧ h.full = false
  · have hcond : (h.head == 0 && !h.full) = true := by simp [hempty]
    rw [if_pos hcond]
    exact ⟨fun _ hne => absurd hempty hne, fun _ => rfl⟩
  · have hcond : ¬ (h.head == 0 && !h.full) = true := by simpa using hempty
    rw [if_neg hcond]
    by_cases hcap : h.capacity = 0
    · rw [if_pos hcap]
      exact ⟨fun hs => (by cases hs), fun hs => absurd hcap (hs hempty).2.1⟩
    · rw [if_neg hcap]
      have hpos : 1 ≤ h.head + h.capacity := by omega
      constructor
      · intro hs _
        exact ⟨hpos, hcap, by simpa using hs⟩
      · intro hs
        simpa using (hs hempty).2.2

theorem getClosest_isSome_iff (timestamp : UInt32) :
    (h.getClosest timestamp).isSome = true ↔ (Call.getClosest timestamp).Safe h := by
  unfold getClosest Call.Safe
  dsimp only
  generalize (if h.full then h.capacity else h.head) = len
  by_cases hle : len ≤ h.buffer.length
  · rw [if_pos hle]
    exact ⟨fun _ i hi => Nat.lt_of_lt_of_le hi hle, fun _ => rfl⟩
  · rw [if_neg hle]
    refine ⟨fun hs => (by cases hs), fun hs => ?_⟩
    exact absurd (hs h.buffer.length (Nat.lt_of_not_le hle)) (Nat.lt_irrefl _)

/-- A call returns exactly when it is safe. -/
theorem call_isSome_iff (c : Call) : (h.call c).isSome = true ↔ c.Safe h := by
  cases c with
  | push event => rw [call, Option.isSome_map, push_isSome_iff]
  | latest => rw [call, Option.isSome_map, latest_isSome_iff]
  | getClosest timestamp => rw [call, Option.isSome_map, getClosest_isSome_iff]

/-- A sequence returns exactly when all its calls are safe. -/
theorem callAll_isSome_iff (h : TrackingHistory) (calls : List Call) :
    (h.callAll calls).isSome = true ↔ Safe h calls := by
  induction calls generalizing h with
  | nil => exact ⟨fun _ => trivial, fun _ => rfl⟩
  | cons c calls ih =>
    rw [Safe, ← call_isSome_iff, callAll, List.foldlM_cons]
    cases hc : h.call c with
    | none => exact ⟨fun hs => (by cases hs), fun hs => absurd hs.1 (by simp)⟩
    | some p =>
      refine (ih p.1).trans ⟨fun hs => ⟨rfl, ?_⟩, fun hs => hs.2 p.1 p.2 rfl⟩
      rintro _ _ ⟨⟩
      exact hs

/-! ## With room and without -/

theorem WellFormed.call_safe (w : h.WellFormed) (c : Call) : c.Safe h := by
  cases c with
  | push event => exact ⟨w.length ▸ w.head, Nat.ne_of_gt w.capacity_pos⟩
  | latest =>
    have hpos := w.capacity_pos
    exact fun _ => ⟨by omega, Nat.ne_of_gt hpos, w.latest_index⟩
  | getClosest timestamp => exact fun i hi => Nat.lt_of_lt_of_le hi w.scanned_le

theorem WellFormed.call (w : h.WellFormed) {c : Call} (hc : h.call c = some (h', te)) : h'.WellFormed := by
  cases c with
  | push event =>
    obtain ⟨h₁, hp, heq⟩ := Option.map_eq_some_iff.mp hc
    cases heq
    exact w.push hp
  | latest =>
    obtain ⟨_, -, heq⟩ := Option.map_eq_some_iff.mp hc
    cases heq
    exact w
  | getClosest timestamp =>
    obtain ⟨_, -, heq⟩ := Option.map_eq_some_iff.mp hc
    cases heq
    exact w

/-- Well-formed histories are safe for whatever is called. -/
theorem WellFormed.safe (w : h.WellFormed) (calls : List Call) : Safe h calls := by
  induction calls generalizing h with
  | nil => trivial
  | cons c calls ih => exact ⟨w.call_safe c, fun h' te hc => ih (w.call hc)⟩

/-- The history without room reads as empty, and stays as it is. -/
theorem call_new_zero {c : Call} (hc : ∀ event, c ≠ .push event) : (new 0).call c = some (new 0, none) := by
  cases c with
  | push event => exact absurd rfl (hc event)
  | latest => rfl
  | getClosest timestamp => rfl

/-- … and a push into it panics. -/
theorem call_new_zero_push (event : TrackingEvent) : (new 0).call (.push event) = none := rfl

theorem safe_new_zero_iff (calls : List Call) : Safe (new 0) calls ↔ ∀ event, .push event ∉ calls := by
  induction calls with
  | nil => exact ⟨fun _ event => List.not_mem_nil, fun _ => trivial⟩
  | cons c calls ih =>
    rw [Safe, ← call_isSome_iff]
    by_cases hc : ∃ event, c = .push event
    · obtain ⟨event, rfl⟩ := hc
      rw [call_new_zero_push]
      exact ⟨fun hs => absurd hs.1 (by simp), fun hs => absurd List.mem_cons_self (hs event)⟩
    · have hread : ∀ event, c ≠ .push event := fun event heq => hc ⟨event, heq⟩
      rw [call_new_zero hread]
      constructor
      · rintro ⟨-, hs⟩ event hmem
        rcases List.mem_cons.mp hmem with heq | hmem
        · exact hread event heq.symm
        · exact ih.mp (hs (new 0) none rfl) event hmem
      · intro hs
        refine ⟨rfl, ?_⟩
        rintro _ _ ⟨⟩
        exact ih.mpr fun event hmem => hs event (List.mem_cons_of_mem _ hmem)

/-- **Calls of a history.**  No index is behind the buffer, and nothing is divided by zero or
underflows, exactly when the history has room or nothing is pushed. -/
theorem safe_iff (capacity : UInt32) (calls : List Call) :
    Safe (trackingHistoryNew capacity) calls ↔ capacity ≠ 0 ∨ ∀ event, .push event ∉ calls := by
  by_cases hcap : capacity = 0
  · subst hcap
    exact (safe_new_zero_iff calls).trans ⟨Or.inr, fun hs => hs.resolve_left fun hne => hne rfl⟩
  · have hpos : 0 < capacity.toNat :=
      Nat.pos_of_ne_zero fun h => hcap (UInt32.toNat_inj.mp h)
    exact ⟨fun _ => Or.inl hcap, fun _ => (wellFormed_new hpos).safe calls⟩

/-- A push into a history of capacity 0. -/
theorem push_unsafe :
    ¬ ∀ (capacity : UInt32) (calls : List Call), Safe (trackingHistoryNew capacity) calls := by
  intro hall
  exact absurd (hall 0 [.push (sampleEvent 1)]).1.2 (by decide)

end TrackingHistory

end OdysseyHub
