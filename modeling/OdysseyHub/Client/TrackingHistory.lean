import OdysseyHub.Common.Events
import OdysseyHub.Lib.Ring

/-!
# The tracking history of a device (odyssey_hub_client::tracking_history)

A ring buffer of tracking events.  `none` is a panic: an index behind the buffer, a
remainder by zero or an underflow.  With room for an event nothing panics, and the buffer
is a queue of the last events pushed (`pushAll_refines_queue`).
-/

namespace OdysseyHub

structure TrackingHistory where
  buffer : List (Option TrackingEvent)
  head : Nat
  full : Bool
  capacity : Nat
  deriving DecidableEq, Repr

/-- `u32::abs_diff` -/
def absDiff (a b : UInt32) : UInt32 := if a < b then b - a else a - b

namespace TrackingHistory

def new (capacity : Nat) : TrackingHistory :=
  { buffer := List.replicate capacity none, head := 0, full := false, capacity := capacity }

def push (h : TrackingHistory) (event : TrackingEvent) : Option TrackingHistory :=
  if h.head < h.buffer.length ∧ h.capacity ≠ 0 then
    let head := (h.head + 1) % h.capacity
    some { h with buffer := h.buffer.set h.head (some event), head := head, full := h.full || head == 0 }
  else none

def latest (h : TrackingHistory) : Option (Option TrackingEvent) :=
  if h.head == 0 && !h.full then some none
  else if h.capacity = 0 then none
  else h.buffer[(h.head + h.capacity - 1) % h.capacity]?

/-- The best entry so far with its distance from `timestamp`, after one more. -/
def closer (timestamp : UInt32) (best : Option TrackingEvent × UInt32) :
    Option TrackingEvent → Option TrackingEvent × UInt32
  | some ev =>
    let diff := absDiff ev.timestamp timestamp
    if diff < best.2 then (some ev, diff) else best
  | none => best

def getClosest (h : TrackingHistory) (timestamp : UInt32) : Option (Option TrackingEvent) :=
  let len := if h.full then h.capacity else h.head
  if len ≤ h.buffer.length then
    some ((h.buffer.take len).foldl (closer timestamp) (none, 0xFFFFFFFF)).1
  else none

/-- The slots `get_closest` goes through. -/
def scanned (h : TrackingHistory) : List (Option TrackingEvent) :=
  h.buffer.take (if h.full then h.capacity else h.head)

/-- One push after another. -/
def pushAll (h : TrackingHistory) (events : List TrackingEvent) : Option TrackingHistory :=
  events.foldlM push h

/-- What `new` makes, with room for an event, and `push` keeps. -/
structure WellFormed (h : TrackingHistory) : Prop where
  length : h.buffer.length = h.capacity
  head : h.head < h.capacity

variable {h h' : TrackingHistory}

theorem wellFormed_new {capacity : Nat} (hc : 0 < capacity) : (new capacity).WellFormed :=
  ⟨List.length_replicate, hc⟩

theorem WellFormed.capacity_pos (w : h.WellFormed) : 0 < h.capacity := Nat.zero_lt_of_lt w.head

/-- A push does not panic. -/
theorem WellFormed.push_isSome (w : h.WellFormed) (event : TrackingEvent) : ∃ h', h.push event = some h' := by
  have hlt : h.head < h.buffer.length := by
    rw [w.length]
    exact w.head
  exact ⟨_, if_pos ⟨hlt, Nat.ne_of_gt w.capacity_pos⟩⟩

theorem WellFormed.push (w : h.WellFormed) {event : TrackingEvent} (hp : h.push event = some h') :
    h'.WellFormed := by
  unfold TrackingHistory.push at hp
  split at hp
  · cases hp
    refine ⟨?_, Nat.mod_lt _ w.capacity_pos⟩
    rw [List.length_set]
    exact w.length
  · cases hp

/-- The slot before the new head is the one just written. -/
theorem mod_pred {head capacity : Nat} (hh : head < capacity) :
    ((head + 1) % capacity + capacity - 1) % capacity = head := by
  rcases Nat.lt_or_ge (head + 1) capacity with hlt | hge
  · have hidx : head + 1 + capacity - 1 = head + capacity := by omega
    rw [Nat.mod_eq_of_lt hlt, hidx, Nat.add_mod_right, Nat.mod_eq_of_lt hh]
  · have heq : head + 1 = capacity := Nat.le_antisymm hh hge
    have hidx : capacity - 1 = head := by omega
    rw [heq, Nat.mod_self, Nat.zero_add, hidx, Nat.mod_eq_of_lt hh]

/-- `latest` is the event pushed last. -/
theorem WellFormed.latest_push (w : h.WellFormed) {event : TrackingEvent} (hp : h.push event = some h') :
    h'.latest = some (some event) := by
  unfold TrackingHistory.push at hp
  split at hp
  · next hlt =>
    cases hp
    unfold latest
    dsimp only
    have hwritten : ((h.head + 1) % h.capacity == 0 && !(h.full || (h.head + 1) % h.capacity == 0)) = false := by
      cases (h.head + 1) % h.capacity == 0 <;> simp
    rw [hwritten, if_neg Bool.false_ne_true, if_neg hlt.2, mod_pred w.head, List.getElem?_set_self hlt.1]
  · cases hp

/-- The slot that `latest` reads is one of the buffer. -/
theorem WellFormed.latest_index (w : h.WellFormed) : (h.head + h.capacity - 1) % h.capacity < h.buffer.length := by
  rw [w.length]
  exact Nat.mod_lt _ w.capacity_pos

theorem WellFormed.latest_isSome (w : h.WellFormed) : ∃ te, h.latest = some te := by
  unfold latest
  split
  · exact ⟨none, rfl⟩
  · rw [if_neg (Nat.ne_of_gt w.capacity_pos), List.getElem?_eq_getElem w.latest_index]
    exact ⟨_, rfl⟩

/-- The slots that `get_closest` goes through are slots of the buffer. -/
theorem WellFormed.scanned_le (w : h.WellFormed) : (if h.full then h.capacity else h.head) ≤ h.buffer.length := by
  rw [w.length]
  split
  · exact Nat.le_refl _
  · exact Nat.le_of_lt w.head

/-- `get_closest` does not panic. -/
theorem WellFormed.getClosest (w : h.WellFormed) (timestamp : UInt32) :
    h.getClosest timestamp = some (h.scanned.foldl (closer timestamp) (none, 0xFFFFFFFF)).1 := by
  unfold TrackingHistory.getClosest
  exact if_pos w.scanned_le

/-! ## The queue of the last events -/

/-- The buffer is the queue `q`, oldest event first. -/
structure Represents (h : TrackingHistory) (q : List TrackingEvent) : Prop extends WellFormed h where
  ring : Ring.Holds h.buffer h.head h.full q
  latest : h.latest = some q.getLast?

theorem represents_new {capacity : Nat} (hc : 0 < capacity) : (new capacity).Represents [] :=
  { toWellFormed := wellFormed_new hc, ring := Ring.holds_new capacity, latest := rfl }

/-- A push puts its event into the queue. -/
theorem Represents.push {q : List TrackingEvent} (r : h.Represents q) {event : TrackingEvent}
    (hp : h.push event = some h') : h'.Represents (Ring.enqueue h.capacity q event) := by
  refine { toWellFormed := r.toWellFormed.push hp, ring := ?_, latest := ?_ }
  · have hw := r.ring.write (r.length ▸ r.head) event
    rw [r.length] at hw
    unfold TrackingHistory.push at hp
    split at hp
    · cases hp
      exact hw
    · cases hp
  · rw [r.toWellFormed.latest_push hp]
    obtain ⟨c, hc⟩ := Nat.exists_eq_succ_of_ne_zero (Nat.ne_of_gt r.capacity_pos)
    rw [Ring.enqueue, hc, Nat.succ_eq_add_one, List.rtake_concat_succ, List.getLast?_concat]

theorem capacity_push {event : TrackingEvent} (hp : h.push event = some h') : h'.capacity = h.capacity := by
  unfold TrackingHistory.push at hp
  split at hp
  · cases hp
    rfl
  · cases hp

/-- No push of a sequence panics, and the queue takes all its events. -/
theorem Represents.pushAll {q : List TrackingEvent} (r : h.Represents q) (events : List TrackingEvent) :
    ∃ h', h.pushAll events = some h' ∧ h'.capacity = h.capacity ∧
      h'.Represents (events.foldl (Ring.enqueue h.capacity) q) := by
  induction events generalizing h q with
  | nil => exact ⟨h, rfl, rfl, r⟩
  | cons event events ih =>
    obtain ⟨h₁, hp⟩ := r.toWellFormed.push_isSome event
    have hcap := capacity_push hp
    obtain ⟨h', hall, hcap', r'⟩ := ih (r.push hp)
    refine ⟨h', ?_, hcap'.trans hcap, hcap ▸ r'⟩
    unfold TrackingHistory.pushAll at hall ⊢
    rw [List.foldlM_cons, hp]
    exact hall

theorem pushAll_new {capacity : Nat} (hc : 0 < capacity) (events : List TrackingEvent) :
    ∃ h, (new capacity).pushAll events = some h ∧ h.Represents (events.rtake capacity) := by
  obtain ⟨h, hall, -, r⟩ := (represents_new hc).pushAll events
  refine ⟨h, hall, ?_⟩
  rw [← Ring.foldl_enqueue]
  exact r

theorem Represents.used {q : List TrackingEvent} (r : h.Represents q) :
    h.scanned = Ring.used h.buffer h.head h.full := by
  unfold scanned Ring.used
  rw [r.length]

/-- **The history is a bounded queue.**  Whatever is pushed into a history with room for
`capacity` events, nothing panics, `latest` is the last event, and `get_closest` goes
through the last `capacity` of them, each once. -/
theorem pushAll_refines_queue {capacity : Nat} (hc : 0 < capacity) (events : List TrackingEvent) :
    ∃ h, (new capacity).pushAll events = some h ∧ h.latest = some events.getLast? ∧
      h.scanned.Perm ((events.rtake capacity).map some) ∧
      (events.rtake capacity).length = min events.length capacity ∧
      ∀ timestamp, h.getClosest timestamp = some (h.scanned.foldl (closer timestamp) (none, 0xFFFFFFFF)).1 := by
  obtain ⟨h, hall, r⟩ := pushAll_new hc events
  refine ⟨h, hall, ?_, ?_, Ring.length_rtake capacity events, r.toWellFormed.getClosest⟩
  · rw [r.latest]
    induction events using List.reverseRecOn with
    | nil => rw [List.rtake_nil]
    | append_singleton events event =>
      obtain ⟨c, rfl⟩ := Nat.exists_eq_succ_of_ne_zero (Nat.ne_of_gt hc)
      rw [Nat.succ_eq_add_one, List.rtake_concat_succ, List.getLast?_concat, List.getLast?_concat]
  · rw [r.used]
    exact r.ring.perm

/-- An event that carries its timestamp alone. -/
def sampleEvent (timestamp : UInt32) : TrackingEvent :=
  { timestamp := timestamp, aimpoint := vector2 0 0
    pose := { rotation := matrix3 0 0 0 0 0 0 0 0 0, translation := vector3 0 0 0 }
    distance := 0, screenId := 0 }

/-- Two events more than fit. -/
theorem pushAll_refines_queue_wrapped :
    ∃ h, (new 2).pushAll ([1, 2, 3, 4].map sampleEvent) = some h ∧
      h.latest = some ([1, 2, 3, 4].map sampleEvent).getLast? ∧
      h.scanned.Perm ((([1, 2, 3, 4].map sampleEvent).rtake 2).map some) ∧
      (([1, 2, 3, 4].map sampleEvent).rtake 2).length = min ([1, 2, 3, 4].map sampleEvent).length 2 ∧
      ∀ timestamp, h.getClosest timestamp = some (h.scanned.foldl (closer timestamp) (none, 0xFFFFFFFF)).1 :=
  pushAll_refines_queue (by decide) ([1, 2, 3, 4].map sampleEvent)

end TrackingHistory

end OdysseyHub
