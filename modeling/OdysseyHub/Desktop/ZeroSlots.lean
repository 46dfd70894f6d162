import OdysseyHub.Desktop.ZeroOnShot

/-!
# The slots of the Zero view (views/zero.rs, hub.rs)

The vector `device_signals` is padded when the view is drawn and cut when the effect of an
earlier draw has its task run, while slots are handed out by the table of the hub and kept by
rows, replies and handlers.  Whoever uses a slot indexes the vector with it, and the view panics
exactly where such an index is behind the vector (`always_isSome_iff`).

The history variable `room` is the number of devices of the last resize, or of a longer list
drawn since.  No index is behind the vector exactly in runs whose steps are `Covered`: a slot
that is used lies within the room.  This is so as long as slots are handed out and taken back
within the room (`Sized`).

    StepsOk InBounds … tr ↔ StepsOk Covered … tr,   StepsOk Sized … tr → StepsOk InBounds … tr
                                                                        (slots_inBounds_iff)
-/

namespace OdysseyHub

open Slots Transition

namespace HubDevices

/-! ## The table of the hub -/

theorem length_insert (hub : HubDevices) (device : Device) :
    (hub.insert device).devices.length = hub.devices.length + 1 := List.length_append

theorem length_foldl_insert (list : List Device) (hub : HubDevices) :
    (list.foldl insert hub).devices.length = hub.devices.length + list.length := by
  induction list generalizing hub with
  | nil => rfl
  | cons device list ih => rw [List.foldl_cons, ih, length_insert, List.length_cons, Nat.add_right_comm, Nat.add_assoc]

theorem length_replaceDevices (list : List Device) : (replaceDevices list).devices.length = list.length :=
  (length_foldl_insert list _).trans (Nat.zero_add _)

theorem lookup_foldl_insert_lt {list : List Device} {hub : HubDevices}
    (hhub : ∀ u slot, hub.deviceKeys.lookup u = some slot → slot < hub.devices.length) {u : Uuid} {slot : Nat}
    (hu : (list.foldl insert hub).deviceKeys.lookup u = some slot) :
    slot < hub.devices.length + list.length := by
  induction list generalizing hub with
  | nil => exact hhub u slot hu
  | cons device list ih =>
    have hlt : slot < (hub.insert device).devices.length + list.length := by
      refine ih (fun v k hv => ?_) hu
      rw [length_insert]
      by_cases hdev : v = device.uuid
      · have hk : (hub.insert device).deviceKeys.lookup device.uuid = some hub.devices.length := Finmap.lookup_insert _
        rw [hdev, hk] at hv
        exact Option.some.inj hv ▸ Nat.lt_succ_self _
      · have hk : (hub.insert device).deviceKeys.lookup v = hub.deviceKeys.lookup v := Finmap.lookup_insert_of_ne _ hdev
        exact Nat.lt_succ_of_lt (hhub v k (hk ▸ hv))
    rw [length_insert, Nat.add_assoc, Nat.add_comm 1] at hlt
    exact hlt

/-- The table has a slot of the list for each of its devices. -/
theorem lookup_replaceDevices_lt {list : List Device} {u : Uuid} {slot : Nat}
    (hu : (replaceDevices list).deviceKeys.lookup u = some slot) : slot < list.length := by
  refine (lookup_foldl_insert_lt (fun v k hv => ?_) hu).trans_eq (Nat.zero_add _)
  rw [Finmap.lookup_empty] at hv
  cases hv

end HubDevices

namespace ZeroView

/-! ## Handlers that wait -/

/-- What the handler of a button waits for before it goes on with its slot. -/
inductive Awaited
  /-- `reset_shot_delay` -/
  | reset
  /-- `save_zero` -/
  | saveZero
  /-- the timer that takes the status of the save back -/
  | idle
  deriving DecidableEq, Repr

/-- A handler that goes on uses its slot, but for a `Reset` that has failed. -/
def Awaited.uses : Awaited → Except String UInt16 → Bool
  | .reset, .error _ => false
  | _, _ => true

/-- The view, with its waiting handlers and their slots. -/
structure SlotView extends View where
  waiting : List (Awaited × Nat)

inductive SlotEvent
  | view (e : ZeroEvent)
  /-- `Set` and `Save` read the delay of their slot -/
  | readDelay (slot : Nat)
  | reset (slot : Nat)
  | saveZero (slot : Nat)
  /-- what a handler waits for has come, for `Reset` with the delay -/
  | resumed (i : Nat) (reply : Except String UInt16)

/-- A device list, a draw or the task of an effect. -/
def SlotEvent.resizing : SlotEvent → Bool
  | .view (.deviceList _) | .view .render | .view (.resize _) => true
  | _ => false

namespace SlotView

/-- The view with its first render. -/
def init (list : List Device) : SlotView := { View.init list with waiting := [] }

/-- What can come next: buttons are those of the rows as drawn, the impact loop waits for its
zero, and only what is pending is answered. -/
def Offers (s : SlotView) : SlotEvent → Prop
  | .view (.resize i) => i < s.resizes.length
  | .view (.shotDelay i _) => i < s.delays.length
  | .view (.arm slot) => (s.rows[slot]?).any (fun r => !r.firing) = true
  | .view (.cancel slot) => (s.rows[slot]?).any (·.firing) = true
  | .view (.toggleKey slot) | .view (.editDelay slot _) => slot < s.rows.length
  | .view (.impact _ _) => s.sending = none
  | .view (.answered _) => s.sending.isSome = true
  | .view (.keyAnswered i _) => i < s.presses.length
  | .view (.deviceList _) | .view (.tracking _ _) | .view .render | .view .effect | .view (.press _) => True
  | .readDelay slot | .reset slot | .saveZero slot => slot < s.rows.length
  | .resumed i _ => i < s.waiting.length

instance decidableOffers (s : SlotView) : ∀ e, Decidable (s.Offers e)
  | .view (.resize _) | .view (.shotDelay _ _) | .view (.keyAnswered _ _) => inferInstanceAs (Decidable (_ < _))
  | .view (.arm _) | .view (.cancel _) | .view (.answered _) => inferInstanceAs (Decidable (_ = true))
  | .view (.toggleKey _) | .view (.editDelay _ _) => inferInstanceAs (Decidable (_ < _))
  | .view (.impact _ _) => decidable_of_iff (s.sending.isNone = true) Option.isNone_iff_eq_none
  | .view (.deviceList _) | .view (.tracking _ _) | .view .render | .view .effect | .view (.press _) => isTrue trivial
  | .readDelay _ | .reset _ | .saveZero _ | .resumed _ _ => inferInstanceAs (Decidable (_ < _))

/-- A step of the view beside the handlers. -/
def onView (s : SlotView) (v : Option View) : Option SlotView := v.map fun v => { s with toView := v }

/-- A handler that was waiting goes on. -/
def resume (s : SlotView) (slot : Nat) : Awaited → Except String UInt16 → Option SlotView
  | .reset, .ok delay => s.onView (s.modifySlot slot fun sig => { sig with shotDelay := delay })
  | .reset, .error _ => some s
  -- the status of the save is set, which nothing else reads
  | .saveZero, _ => (s.modifySlot slot id).map fun v => { toView := v, waiting := s.waiting ++ [(.idle, slot)] }
  | .idle, _ => s.onView (s.modifySlot slot id)

/-- `none` is a panic, for what the view offers. -/
def next (s : SlotView) : SlotEvent → Option SlotView
  | .view e => s.onView (s.toView.next e)
  | .readDelay slot => s.onView (s.modifySlot slot id)
  | .reset slot => some { s with waiting := s.waiting ++ [(.reset, slot)] }
  | .saveZero slot => some { s with waiting := s.waiting ++ [(.saveZero, slot)] }
  | .resumed i reply => do
    let p ← s.waiting[i]?
    { s with waiting := s.waiting.eraseIdx i }.resume p.2 p.1 reply

/-! ## The indices -/

/-- A key handler sends a zero for the slot, and waits for it. -/
def stopsAt (key : ZeroKey) (devs : List Device) (signals : List DeviceSignals) (slot : Nat) : Bool :=
  (signals[slot]?).any (·.zeroingOnKey) && decide (key = .z) && (devs[slot]?).isSome

/-- The slots that a key handler looks at before it waits. -/
def swept (key : ZeroKey) (devs : List Device) (signals : List DeviceSignals) : List Nat → List Nat
  | [] => []
  | slot :: rest => slot :: if stopsAt key devs signals slot then [] else swept key devs signals rest

/-- The indices into `device_signals` of an event, each with the length of the vector when it
is used. -/
def indexings (s : SlotView) : SlotEvent → List (Nat × Nat)
  | .view .render =>
    (List.range s.hub.devices.length).map (·, (padded s.signals s.hub.devices.length).length)
  | .view (.shotDelay i (.ok _)) => ((s.delays[i]?).map fun p => (p.1, s.signals.length)).toList
  | .view (.arm slot) | .view (.cancel slot) | .view (.toggleKey slot) | .view (.editDelay slot _)
  | .readDelay slot => [(slot, s.signals.length)]
  | .view (.impact device _) => ((s.hub.deviceKey device).map (·, s.signals.length)).toList
  | .view (.press key) =>
    (swept key s.hub.devices s.signals (List.range s.signals.length)).map (·, s.signals.length)
  | .view (.keyAnswered i _) =>
    ((s.presses[i]?).toList.flatMap fun p => swept p.key p.devs s.signals p.rest).map (·, s.signals.length)
  | .resumed i reply =>
    ((s.waiting[i]?).filter (·.1.uses reply)).toList.map fun p => (p.2, s.signals.length)
  | .view (.deviceList _) | .view (.tracking _ _) | .view .effect | .view (.resize _) | .view (.shotDelay _ (.error _))
  | .view (.answered _) | .reset _ | .saveZero _ => []

/-! ## Runs -/

-- `none` stands for the view that has panicked
def turn (s : Option SlotView) (e : SlotEvent) : Option (Option SlotView) :=
  s.bind fun v => if v.Offers e then some (v.next e) else none

def Step (s : Option SlotView) (e : SlotEvent) (s' : Option SlotView) : Prop := turn s e = some s'

/-- The number of devices that the vector was last cut to, or has been padded to since. -/
def roomAfter (s : Option SlotView) (e : SlotEvent) (_ : Option SlotView) (room : Nat) : Nat :=
  match s, e with
  | some v, .view .render => max room v.hub.devices.length
  | some v, .view (.resize i) => ((v.resizes[i]?).map List.length).getD room
  | _, _ => room

/-- Every index of the event is smaller than the length of the vector at that moment. -/
def InBounds (s : Option SlotView × Nat) (e : SlotEvent) : Prop :=
  ∀ v ∈ s.1, ∀ p ∈ v.indexings e, p.1 < p.2

/-- The slot of an impact, an answer or a click lies within the room; a key handler that goes on
has its slots there, or stops for a zero at one of them. -/
def Covers (v : SlotView) (room : Nat) : SlotEvent → Prop
  | .view (.impact device _) => ∀ slot ∈ v.hub.deviceKey device, slot < room
  | .view (.shotDelay i (.ok _)) => ∀ p ∈ v.delays[i]?, p.1 < room
  | .view (.arm slot) | .view (.cancel slot) | .view (.toggleKey slot) | .view (.editDelay slot _)
  | .readDelay slot => slot < room
  | .view (.keyAnswered i _) =>
    ∀ p ∈ v.presses[i]?, (∀ slot ∈ p.rest, slot < room) ∨
      ∃ slot ∈ p.rest, slot < room ∧ stopsAt p.key p.devs v.signals slot = true
  | .resumed i reply => ∀ p ∈ v.waiting[i]?, p.1.uses reply = true → p.2 < room
  | _ => True

def Covered (s : Option SlotView × Nat) (e : SlotEvent) : Prop := ∀ v ∈ s.1, Covers v s.2 e

/-- The slots that the hub, a row, a reply or a handler has. -/
inductive Held (v : SlotView) : Nat → Prop
  | hub {u : Uuid} {slot : Nat} : v.hub.deviceKeys.lookup u = some slot → Held v slot
  | row {slot : Nat} : slot < v.rows.length → Held v slot
  | delay {p : Nat × Device} : p ∈ v.delays → Held v p.1
  | press {p : KeyPress} {slot : Nat} : p ∈ v.presses → slot ∈ p.rest → Held v slot
  | waiting {p : Awaited × Nat} : p ∈ v.waiting → Held v p.2

/-- A device list fits into the room, and a resize leaves room for all slots that something has. -/
def Sizes (v : SlotView) (room : Nat) : SlotEvent → Prop
  | .view (.deviceList list) => list.length ≤ room
  | .view (.resize i) => ∀ devices ∈ v.resizes[i]?, ∀ slot, Held v slot → slot < devices.length
  | _ => True

def Sized (s : Option SlotView × Nat) (e : SlotEvent) : Prop := ∀ v ∈ s.1, Sizes v s.2 e

/-! ## Key handlers -/

theorem swept_subset {key : ZeroKey} {devs : List Device} {signals : List DeviceSignals} {slots : List Nat} :
    swept key devs signals slots ⊆ slots := by
  induction slots with
  | nil => exact fun slot h => h
  | cons a rest ih =>
    unfold swept
    refine List.cons_subset_cons a ?_
    split
    · exact List.nil_subset rest
    · exact ih

/-- A handler with slots in order is in bounds if they all are, or if it stops before the others. -/
theorem swept_lt_iff {key : ZeroKey} {devs : List Device} {signals : List DeviceSignals} {slots : List Nat} {n : Nat}
    (hsorted : slots.Pairwise (· < ·)) :
    (∀ slot ∈ swept key devs signals slots, slot < n) ↔
      (∀ slot ∈ slots, slot < n) ∨ ∃ slot ∈ slots, slot < n ∧ stopsAt key devs signals slot = true := by
  induction slots with
  | nil => exact ⟨fun _ => Or.inl fun slot h => absurd h List.not_mem_nil, fun _ slot h => absurd h List.not_mem_nil⟩
  | cons a rest ih =>
    obtain ⟨hfirst, hrest⟩ := List.pairwise_cons.mp hsorted
    unfold swept
    constructor
    · intro h
      have ha : a < n := h a List.mem_cons_self
      by_cases hstop : stopsAt key devs signals a = true
      · exact Or.inr ⟨a, List.mem_cons_self, ha, hstop⟩
      · rw [if_neg hstop] at h
        rcases (ih hrest).mp fun slot hs => h slot (List.mem_cons_of_mem _ hs) with hall | ⟨slot, hs, hlt, hstops⟩
        · exact Or.inl (List.forall_mem_cons.mpr ⟨ha, hall⟩)
        · exact Or.inr ⟨slot, List.mem_cons_of_mem _ hs, hlt, hstops⟩
    · rintro (hall | ⟨slot, hs, hlt, hstops⟩)
      · intro slot hs
        have hsub : swept key devs signals (a :: rest) ⊆ a :: rest := swept_subset
        exact hall slot (hsub hs)
      · rcases List.mem_cons.mp hs with rfl | hs
        · rw [if_pos hstops]
          exact List.forall_mem_singleton.mpr hlt
        · refine List.forall_mem_cons.mpr ⟨Nat.lt_trans (hfirst slot hs) hlt, ?_⟩
          split
          · exact fun _ h => absurd h List.not_mem_nil
          · exact (ih hrest).mpr (Or.inr ⟨slot, hs, hlt, hstops⟩)

/-! ## Histories do not panic -/

def HistoriesOk (histories : Finmap fun _ : Uuid => TrackingHistory) : Prop :=
  ∀ u, ∀ h ∈ histories.lookup u, h.WellFormed

theorem latestLookup_isSome {h : TrackingHistory} (hw : h.WellFormed) (ms : UInt16) :
    ∃ ts, latestLookup h ms = some ts := by
  obtain ⟨te, hlatest⟩ := hw.latest_isSome
  unfold latestLookup
  rw [hlatest]
  exact ⟨_, rfl⟩

theorem lookupTs_isSome {history : Option TrackingHistory} (hw : ∀ h ∈ history, h.WellFormed) (ms : UInt16)
    (trigger : Trigger) : ∃ ts, lookupTs history ms trigger = some ts := by
  cases trigger with
  | impact timestamp =>
    unfold lookupTs
    dsimp only
    by_cases hts : timestamp = 0xFFFFFFFF
    · rw [if_pos hts]
      cases history with
      | none => exact ⟨_, rfl⟩
      | some h => exact latestLookup_isSome (hw h rfl) ms
    · rw [if_neg hts]
      exact ⟨_, rfl⟩
  | key =>
    cases history with
    | none => exact ⟨_, rfl⟩
    | some h => exact latestLookup_isSome (hw h rfl) ms

theorem historicalTe_isSome {history : Option TrackingHistory} (hw : ∀ h ∈ history, h.WellFormed) (ms : UInt16)
    (trigger : Trigger) : ∃ te, historicalTe history ms trigger = some te := by
  obtain ⟨ts, hts⟩ := lookupTs_isSome hw ms trigger
  unfold historicalTe
  rw [hts]
  cases history with
  | none => exact ⟨none, rfl⟩
  | some h => exact ⟨_, (hw h rfl).getClosest ts⟩

theorem record_wellFormed {history : Option TrackingHistory} (hw : ∀ h ∈ history, h.WellFormed) (te : TrackingEvent) :
    ∃ h, record history te = some h ∧ h.WellFormed := by
  have hwf : (history.getD (.new trackingHistoryCap)).WellFormed := by
    cases history with
    | none => exact TrackingHistory.wellFormed_new (by decide)
    | some h => exact hw h rfl
  obtain ⟨h, hpush⟩ := hwf.push_isSome te
  exact ⟨h, hpush, hwf.push hpush⟩

/-- A slot whose flag is taken back without a zero is not one to stop at. -/
theorem stopsAt_set {key : ZeroKey} {devs : List Device} {signals : List DeviceSignals} {slot : Nat}
    {sig : DeviceSignals} (hs : signals[slot]? = some sig)
    (hno : ¬ (key = .z ∧ (devs[slot]?).isSome = true)) (j : Nat) :
    stopsAt key devs (signals.set slot { sig with zeroingOnKey := false }) j = stopsAt key devs signals j := by
  unfold stopsAt
  rw [getElem?_set_of_some hs]
  by_cases hj : slot = j
  · subst hj
    have hoff : (decide (key = .z) && (devs[slot]?).isSome) = false := by
      rw [Bool.eq_false_iff]
      simpa using hno
    rw [Bool.and_assoc, Bool.and_assoc, hoff, Bool.and_false, Bool.and_false]
  · rw [if_neg hj]

theorem swept_set {key : ZeroKey} {devs : List Device} {signals : List DeviceSignals} {slot : Nat}
    {sig : DeviceSignals} (hs : signals[slot]? = some sig) (hno : ¬ (key = .z ∧ (devs[slot]?).isSome = true))
    (slots : List Nat) :
    swept key devs (signals.set slot { sig with zeroingOnKey := false }) slots = swept key devs signals slots := by
  induction slots with
  | nil => rfl
  | cons a rest ih =>
    unfold swept
    rw [stopsAt_set hs hno, ih]

/-- A key handler gets through exactly if all slots that it looks at are there. -/
theorem sweep_isSome_iff {histories : Finmap fun _ : Uuid => TrackingHistory} (hok : HistoriesOk histories)
    {key : ZeroKey} {devs : List Device} {slots : List Nat} {signals : List DeviceSignals} :
    (sweep histories key devs slots signals).isSome = true ↔
      ∀ slot ∈ swept key devs signals slots, slot < signals.length := by
  induction slots generalizing signals with
  | nil => exact ⟨fun _ slot h => absurd h List.not_mem_nil, fun _ => rfl⟩
  | cons a rest ih =>
    unfold sweep swept
    rw [List.forall_mem_cons]
    cases hs : signals[a]? with
    | none =>
      have hge : signals.length ≤ a := List.getElem?_eq_none_iff.mp hs
      exact ⟨fun h => (by cases h), fun h => absurd h.1 (Nat.not_lt.mpr hge)⟩
    | some sig =>
      have hlt : a < signals.length := (List.getElem?_eq_some_iff.mp hs).1
      show (if sig.zeroingOnKey = true then _ else sweep histories key devs rest signals).isSome = true ↔ _
      by_cases hflag : sig.zeroingOnKey = true
      · rw [if_pos hflag]
        by_cases hzero : key = .z ∧ (devs[a]?).isSome = true
        · obtain ⟨rfl, hdev⟩ := hzero
          obtain ⟨dev, hdev⟩ := Option.isSome_iff_exists.mp hdev
          obtain ⟨te, hte⟩ := historicalTe_isSome (hok dev.uuid) sig.shotDelay .key
          have hstop : stopsAt .z devs signals a = true := by
            simp [stopsAt, hs, hflag, hdev]
          rw [if_pos hstop, hdev]
          simp [hte, hlt]
        · have hstop : stopsAt key devs signals a = false := by
            rw [stopsAt, Bool.and_assoc, Bool.and_eq_false_iff]
            right
            rw [Bool.eq_false_iff]
            simpa using hzero
          have hrest := @ih (signals.set a { sig with zeroingOnKey := false })
          rw [swept_set hs hzero, List.length_set] at hrest
          rw [hstop, if_neg Bool.false_ne_true, ← hrest]
          split
          · next dev hdev => exact absurd ⟨rfl, by rw [hdev]; rfl⟩ hzero
          · exact ⟨fun h => ⟨hlt, h⟩, fun h => h.2⟩
      · have hstop : stopsAt key devs signals a = false := by
          simp [stopsAt, hs, hflag]
        rw [if_neg hflag, hstop, if_neg Bool.false_ne_true, ih]
        exact ⟨fun h => ⟨hlt, h⟩, fun h => h.2⟩

/-! ## An event is handled exactly if its indices are in bounds -/

section
variable {s s' : SlotView} {e : SlotEvent}

theorem modifySlot_isSome_iff (v : View) (slot : Nat) (f : DeviceSignals → DeviceSignals) :
    (v.modifySlot slot f).isSome = true ↔ slot < v.signals.length := by
  unfold View.modifySlot
  rw [Option.isSome_map]
  simp

theorem onView_isSome (v : Option View) : (s.onView v).isSome = v.isSome := Option.isSome_map

theorem forall_mem_singleton_index {slot n : Nat} : (∀ p ∈ [(slot, n)], p.1 < p.2) ↔ slot < n := by
  rw [List.forall_mem_singleton]

theorem forall_mem_map_index {slots : List Nat} {n : Nat} :
    (∀ p ∈ slots.map (·, n), p.1 < p.2) ↔ ∀ slot ∈ slots, slot < n := by
  rw [List.forall_mem_map]

theorem forall_mem_toList_index {α : Type} {o : Option α} {f : α → Nat} {n : Nat} :
    (∀ p ∈ (o.map fun a => (f a, n)).toList, p.1 < p.2) ↔ ∀ a ∈ o, f a < n := by
  cases o with
  | none => exact ⟨fun _ a h => (by cases h), fun _ p h => absurd h List.not_mem_nil⟩
  | some a =>
    rw [Option.map_some, Option.toList_some, forall_mem_singleton_index]
    exact ⟨fun h b hb => Option.some.inj hb ▸ h, fun h => h a rfl⟩

theorem sweepOn_isSome_iff {v : View} (hok : HistoriesOk v.histories) (key : ZeroKey) (devs : List Device)
    (slots : List Nat) :
    (v.sweepOn key devs slots).isSome = true ↔ ∀ slot ∈ swept key devs v.signals slots, slot < v.signals.length := by
  unfold View.sweepOn
  rw [Option.isSome_map, sweep_isSome_iff hok]

theorem impact_isSome_iff {v : View} (hok : HistoriesOk v.histories) (device : Device) (timestamp : UInt32) :
    (v.impact device timestamp).isSome = true ↔ ∀ slot ∈ v.hub.deviceKey device, slot < v.signals.length := by
  unfold View.impact
  cases v.hub.deviceKey device with
  | none => exact ⟨fun _ slot h => (by cases h), fun _ => rfl⟩
  | some slot =>
    have hindex : (∀ k ∈ some slot, k < v.signals.length) ↔ slot < v.signals.length :=
      ⟨fun h => h slot rfl, fun h k hk => Option.some.inj hk ▸ h⟩
    rw [hindex]
    dsimp only
    cases hs : v.signals[slot]? with
    | none =>
      have hge : v.signals.length ≤ slot := List.getElem?_eq_none_iff.mp hs
      exact ⟨fun h => (by cases h), fun h => absurd h (Nat.not_lt.mpr hge)⟩
    | some sig =>
      have hlt : slot < v.signals.length := (List.getElem?_eq_some_iff.mp hs).1
      obtain ⟨te, hte⟩ := historicalTe_isSome (hok device.uuid) sig.shotDelay (.impact timestamp)
      refine ⟨fun _ => hlt, fun _ => ?_⟩
      rw [Option.bind_eq_bind, Option.bind_some]
      split
      · rw [hte]
        rfl
      · rfl

theorem resume_isSome_iff (slot : Nat) (w : Awaited) (reply : Except String UInt16) :
    (s.resume slot w reply).isSome = true ↔ (w.uses reply = true → slot < s.signals.length) := by
  unfold resume
  split
  · rw [onView_isSome, modifySlot_isSome_iff]
    exact ⟨fun h _ => h, fun h => h rfl⟩
  · exact ⟨fun _ h => (by cases h), fun _ => rfl⟩
  · rw [Option.isSome_map, modifySlot_isSome_iff]
    exact ⟨fun h _ => h, fun h => h rfl⟩
  · rw [onView_isSome, modifySlot_isSome_iff]
    exact ⟨fun h _ => h, fun h => h rfl⟩

theorem length_padded (signals : List DeviceSignals) (n : Nat) : (padded signals n).length = max signals.length n := by
  unfold padded
  rw [List.length_append, List.length_replicate]
  omega

/-- The steps that the view has without the handlers. -/
theorem view_isSome_iff {e : ZeroEvent} (hok : HistoriesOk s.histories) (he : s.Offers (.view e)) :
    (s.toView.next e).isSome = true ↔ ∀ p ∈ s.indexings (.view e), p.1 < p.2 := by
  cases e with
  | deviceList list => exact iff_of_true rfl (List.forall_mem_nil _)
  | tracking device te =>
    obtain ⟨h, hrecord, -⟩ := record_wellFormed (hok device.uuid) te
    refine ⟨fun _ p h => absurd h List.not_mem_nil, fun _ => ?_⟩
    rw [View.next, hrecord]
    rfl
  | render =>
    refine ⟨fun _ => ?_, fun _ => rfl⟩
    rw [indexings, forall_mem_map_index, length_padded]
    intro slot hslot
    have hlt := List.mem_range.mp hslot
    omega
  | effect => exact iff_of_true rfl (List.forall_mem_nil _)
  | resize i =>
    have hi : i < s.resizes.length := he
    refine ⟨fun _ p h => absurd h List.not_mem_nil, fun _ => ?_⟩
    rw [View.next, List.getElem?_eq_getElem hi]
    rfl
  | shotDelay i reply =>
    have hi : i < s.delays.length := he
    rw [View.next, List.getElem?_eq_getElem hi]
    cases reply with
    | ok delay =>
      rw [indexings, List.getElem?_eq_getElem hi, Option.map_some, Option.toList_some, forall_mem_singleton_index]
      exact modifySlot_isSome_iff _ _ _
    | error msg => exact iff_of_true rfl (List.forall_mem_nil _)
  | arm slot =>
    obtain ⟨r, hr, hfiring⟩ := (Option.any_eq_true _ _).mp he
    have hnot : ¬ r.firing = true := by simpa using hfiring
    rw [indexings, forall_mem_singleton_index]
    refine Iff.trans (Eq.to_iff ?_) (modifySlot_isSome_iff s.toView slot fun sig => { sig with shooting := true })
    rw [View.next, hr, Option.bind_eq_bind, Option.bind_some, if_neg hnot]
  | cancel slot =>
    obtain ⟨r, hr, hfiring⟩ := (Option.any_eq_true _ _).mp he
    rw [indexings, forall_mem_singleton_index]
    refine Iff.trans (Eq.to_iff ?_) (modifySlot_isSome_iff s.toView slot fun sig => { sig with shooting := false })
    rw [View.next, hr, Option.bind_eq_bind, Option.bind_some, if_pos hfiring]
  | toggleKey slot => exact (modifySlot_isSome_iff _ _ _).trans forall_mem_singleton_index.symm
  | editDelay slot delay => exact (modifySlot_isSome_iff _ _ _).trans forall_mem_singleton_index.symm
  | impact device timestamp =>
    have hnone : s.sending = none := he
    rw [View.next, hnone, Option.isSome_none, if_neg Bool.false_ne_true, impact_isSome_iff hok, indexings,
      forall_mem_toList_index]
  | press key =>
    rw [View.next, sweepOn_isSome_iff hok, indexings, forall_mem_map_index]
  | answered ok =>
    refine ⟨fun _ p h => absurd h List.not_mem_nil, fun _ => ?_⟩
    rw [View.next, Option.isSome_map]
    exact he
  | keyAnswered i ok =>
    have hi : i < s.presses.length := he
    rw [View.next, List.getElem?_eq_getElem hi, Option.bind_eq_bind, Option.bind_some, indexings,
      List.getElem?_eq_getElem hi, Option.toList_some, List.flatMap_singleton, forall_mem_map_index]
    exact sweepOn_isSome_iff (v := { s.toView with presses := s.presses.eraseIdx i }) hok _ _ _

/-- **Indices and panics.**  What the view offers is handled without a panic exactly if all
indices are in bounds. -/
theorem next_isSome_iff (hok : HistoriesOk s.histories) (he : s.Offers e) :
    (s.next e).isSome = true ↔ ∀ p ∈ s.indexings e, p.1 < p.2 := by
  cases e with
  | view e => rw [next, onView_isSome, view_isSome_iff hok he]
  | readDelay slot =>
    rw [next, onView_isSome, indexings, forall_mem_singleton_index, modifySlot_isSome_iff]
  | reset slot => exact iff_of_true rfl (List.forall_mem_nil _)
  | saveZero slot => exact iff_of_true rfl (List.forall_mem_nil _)
  | resumed i reply =>
    have hi : i < s.waiting.length := he
    rw [next, List.getElem?_eq_getElem hi, Option.bind_eq_bind, Option.bind_some, resume_isSome_iff, indexings,
      List.getElem?_eq_getElem hi]
    cases huses : (s.waiting[i].1.uses reply) with
    | true =>
      rw [Option.filter_some, if_pos huses, Option.toList_some, List.map_singleton, forall_mem_singleton_index]
      exact ⟨fun h => h rfl, fun h _ => h⟩
    | false =>
      rw [Option.filter_some, if_neg (by rw [huses]; exact Bool.false_ne_true)]
      exact ⟨fun _ p h => absurd h List.not_mem_nil, fun _ h => (by cases h)⟩

end

/-! ## What a step does to the slots -/

/-- A step that hands out no slots of the table, and leaves the vector as long as it is. -/
structure Quiet (v v' : View) : Prop where
  hub : v'.hub = v.hub
  rows : v'.rows = v.rows
  length : v'.signals.length = v.signals.length
  delays : v'.delays ⊆ v.delays
  presses : ∀ p ∈ v'.presses, (∃ q ∈ v.presses, p.rest <:+ q.rest) ∨ p.rest <:+ List.range v.signals.length
  histories : HistoriesOk v.histories → HistoriesOk v'.histories

/-- The steps that matter for the slots, and all others. -/
inductive Took (s : SlotView) : SlotEvent → SlotView → Prop
  | listed (list : List Device) : Took s (.view (.deviceList list)) { s with hub := .replaceDevices list }
  | drawn : Took s (.view .render) { s with toView := s.toView.render }
  | resized {i : Nat} {devices : List Device} : s.resizes[i]? = some devices →
      Took s (.view (.resize i))
        { s with toView := { s.toView with resizes := s.resizes.eraseIdx i }.resize devices }
  | quiet {e : SlotEvent} {s' : SlotView} : e.resizing = false → Quiet s.toView s'.toView →
      (∀ p ∈ s'.waiting, p.2 < s.rows.length ∨ ∃ q ∈ s.waiting, q.2 = p.2) → Took s e s'

theorem Quiet.refl (v : View) : Quiet v v :=
  ⟨rfl, rfl, rfl, List.Subset.refl _, fun p hp => Or.inl ⟨p, hp, List.suffix_refl _⟩, id⟩

theorem quiet_modifySlot {v v' : View} {slot : Nat} {f : DeviceSignals → DeviceSignals}
    (h : v.modifySlot slot f = some v') : Quiet v v' := by
  obtain ⟨sig, -, rfl⟩ := Option.map_eq_some_iff.mp h
  exact { Quiet.refl v with length := List.length_set }

theorem sweep_cases {histories : Finmap fun _ : Uuid => TrackingHistory} {key : ZeroKey} {devs : List Device}
    {slots : List Nat} {signals : List DeviceSignals}
    {p : List DeviceSignals × Option (ZeroRequest × List Nat)}
    (h : sweep histories key devs slots signals = some p) :
    p.1.length = signals.length ∧ ∀ q ∈ p.2, q.2 <:+ slots := by
  induction slots generalizing signals with
  | nil =>
    cases h
    exact ⟨rfl, fun q hq => (by cases hq)⟩
  | cons slot rest ih =>
    obtain ⟨sig, hs, h⟩ := Option.bind_eq_some_iff.mp h
    split at h
    · split at h
      · obtain ⟨event, -, h⟩ := Option.bind_eq_some_iff.mp h
        cases h
        refine ⟨List.length_set, ?_⟩
        rintro q ⟨⟩
        exact List.suffix_cons slot rest
      · obtain ⟨hlen, hrest⟩ := ih h
        exact ⟨hlen.trans List.length_set, fun q hq => (hrest q hq).trans (List.suffix_cons slot rest)⟩
    · obtain ⟨hlen, hrest⟩ := ih h
      exact ⟨hlen, fun q hq => (hrest q hq).trans (List.suffix_cons slot rest)⟩

/-- A key handler is left with a part of its slots. -/
theorem quiet_sweepOn {v v' : View} {key : ZeroKey} {devs : List Device} {slots : List Nat}
    (hslots : (∃ q ∈ v.presses, slots <:+ q.rest) ∨ slots <:+ List.range v.signals.length)
    {presses : List KeyPress} (hpresses : presses ⊆ v.presses)
    (h : { v with presses := presses }.sweepOn key devs slots = some v') : Quiet v v' := by
  obtain ⟨p, hp, rfl⟩ := Option.map_eq_some_iff.mp h
  obtain ⟨hlen, hrest⟩ := sweep_cases hp
  refine { Quiet.refl v with length := hlen, presses := fun q hq => ?_ }
  rcases List.mem_append.mp hq with hq | hq
  · exact Or.inl ⟨q, hpresses hq, List.suffix_refl _⟩
  · obtain ⟨r, hr, rfl⟩ := Option.map_eq_some_iff.mp (Option.mem_toList.mp hq)
    have hsuffix : r.2 <:+ slots := hrest r hr
    rcases hslots with ⟨q, hq, hslots⟩ | hslots
    · exact Or.inl ⟨q, hq, hsuffix.trans hslots⟩
    · exact Or.inr (hsuffix.trans hslots)

theorem quiet_impact {v v' : View} {device : Device} {timestamp : UInt32}
    (h : v.impact device timestamp = some v') : Quiet v v' := by
  unfold View.impact at h
  split at h
  · cases h
    exact Quiet.refl v
  · obtain ⟨sig, -, h⟩ := Option.bind_eq_some_iff.mp h
    split at h
    · obtain ⟨event, -, h⟩ := Option.bind_eq_some_iff.mp h
      cases h
      exact { Quiet.refl v with length := List.length_set }
    · cases h
      exact Quiet.refl v

theorem quiet_effect (v : View) : Quiet v v.effect := by
  unfold View.effect
  dsimp only
  split
  · exact Quiet.refl v
  · exact { Quiet.refl v with }

theorem quiet_tracking {v v' : View} {device : Device} {te : TrackingEvent}
    (h : v.next (.tracking device te) = some v') : Quiet v v' := by
  obtain ⟨hist, hrecord, rfl⟩ := Option.map_eq_some_iff.mp h
  refine { Quiet.refl v with histories := fun hok u h hu => ?_ }
  by_cases hdev : u = device.uuid
  · subst hdev
    obtain ⟨hist', hrecord', hwf⟩ := record_wellFormed (hok device.uuid) te
    obtain rfl := Option.some.inj (hrecord.symm.trans hrecord')
    have hu' : some hist = some h := (Finmap.lookup_insert _).symm.trans hu
    cases hu'
    exact hwf
  · have hu' : v.histories.lookup u = some h := (Finmap.lookup_insert_of_ne _ hdev).symm.trans hu
    exact hok u h hu'

section
variable {s s' : SlotView} {e : SlotEvent} {room : Nat}

theorem Took.of_view {e : ZeroEvent} {v : View} (he : (SlotEvent.view e).resizing = false) (h : Quiet s.toView v) :
    Took s (.view e) { s with toView := v } :=
  .quiet he h fun p hp => Or.inr ⟨p, hp, rfl⟩

theorem waiting_append {w : Awaited} {slot : Nat} (h : slot < s.rows.length) :
    ∀ p ∈ s.waiting ++ [(w, slot)], p.2 < s.rows.length ∨ ∃ q ∈ s.waiting, q.2 = p.2 := by
  intro p hp
  rcases List.mem_append.mp hp with hp | hp
  · exact Or.inr ⟨p, hp, rfl⟩
  · rw [List.mem_singleton.mp hp]
    exact Or.inl h

/-- A handler that goes on waits again for its own slot at most. -/
theorem took_resume {i : Nat} {p : Awaited × Nat} {reply : Except String UInt16} {waiting : List (Awaited × Nat)}
    (hp : p ∈ s.waiting) (hwaiting : waiting ⊆ s.waiting)
    (h : { s with waiting := waiting }.resume p.2 p.1 reply = some s') : Took s (.resumed i reply) s' := by
  unfold resume at h
  split at h
  · obtain ⟨v, hv, rfl⟩ := Option.map_eq_some_iff.mp h
    exact .quiet rfl (quiet_modifySlot hv) fun q hq => Or.inr ⟨q, hwaiting hq, rfl⟩
  · cases h
    exact .quiet rfl (Quiet.refl s.toView) fun q hq => Or.inr ⟨q, hwaiting hq, rfl⟩
  · obtain ⟨v, hv, rfl⟩ := Option.map_eq_some_iff.mp h
    refine .quiet rfl (quiet_modifySlot hv) fun q hq => Or.inr ?_
    rcases List.mem_append.mp hq with hq | hq
    · exact ⟨q, hwaiting hq, rfl⟩
    · exact ⟨p, hp, by rw [List.mem_singleton.mp hq]⟩
  · obtain ⟨v, hv, rfl⟩ := Option.map_eq_some_iff.mp h
    exact .quiet rfl (quiet_modifySlot hv) fun q hq => Or.inr ⟨q, hwaiting hq, rfl⟩

theorem took_of_view {e : ZeroEvent} {v : View} (hv : s.toView.next e = some v) :
    Took s (.view e) { s with toView := v } := by
  cases e with
  | deviceList list =>
    cases hv
    exact .listed list
  | tracking device te => exact .of_view rfl (quiet_tracking hv)
  | render =>
    cases hv
    exact .drawn
  | effect =>
    cases hv
    exact .of_view rfl (quiet_effect s.toView)
  | resize i =>
    obtain ⟨devices, hdevices, rfl⟩ := Option.map_eq_some_iff.mp hv
    exact .resized hdevices
  | shotDelay i reply =>
    obtain ⟨p, -, hv⟩ := Option.bind_eq_some_iff.mp hv
    have herase : s.delays.eraseIdx i ⊆ s.delays := (List.eraseIdx_sublist _ _).subset
    cases reply with
    | ok delay =>
      have hq := quiet_modifySlot hv
      exact .of_view rfl { hq with delays := List.Subset.trans hq.delays herase }
    | error msg =>
      cases hv
      exact .of_view rfl { Quiet.refl s.toView with delays := herase }
  | arm slot =>
    obtain ⟨r, -, hv⟩ := Option.bind_eq_some_iff.mp hv
    split at hv
    · cases hv
    · exact .of_view rfl (quiet_modifySlot hv)
  | cancel slot =>
    obtain ⟨r, -, hv⟩ := Option.bind_eq_some_iff.mp hv
    split at hv
    · exact .of_view rfl (quiet_modifySlot hv)
    · cases hv
  | toggleKey slot => exact .of_view rfl (quiet_modifySlot hv)
  | editDelay slot delay => exact .of_view rfl (quiet_modifySlot hv)
  | impact device timestamp =>
    rw [View.next] at hv
    split at hv
    · cases hv
    · exact .of_view rfl (quiet_impact hv)
  | press key =>
    exact .of_view rfl (quiet_sweepOn (Or.inr (List.suffix_refl _)) (List.Subset.refl _) hv)
  | answered ok =>
    obtain ⟨q, -, rfl⟩ := Option.map_eq_some_iff.mp hv
    exact .of_view rfl { Quiet.refl s.toView with }
  | keyAnswered i ok =>
    obtain ⟨p, hp, hv⟩ := Option.bind_eq_some_iff.mp hv
    have hmem : p ∈ s.presses := List.mem_of_getElem? hp
    exact .of_view rfl
      (quiet_sweepOn (Or.inl ⟨p, hmem, List.suffix_refl _⟩) (List.eraseIdx_sublist _ _).subset hv)

/-- **Inversion of a step.** -/
theorem took_of_step (he : s.Offers e) (h : s.next e = some s') : Took s e s' := by
  cases e with
  | view e =>
    obtain ⟨v, hv, rfl⟩ := Option.map_eq_some_iff.mp h
    exact took_of_view hv
  | readDelay slot =>
    obtain ⟨v, hv, rfl⟩ := Option.map_eq_some_iff.mp h
    exact .quiet rfl (quiet_modifySlot hv) fun p hp => Or.inr ⟨p, hp, rfl⟩
  | reset slot =>
    cases h
    exact .quiet rfl (Quiet.refl s.toView) (waiting_append he)
  | saveZero slot =>
    cases h
    exact .quiet rfl (Quiet.refl s.toView) (waiting_append he)
  | resumed i reply =>
    obtain ⟨p, hp, h⟩ := Option.bind_eq_some_iff.mp h
    have hmem : p ∈ s.waiting := List.mem_of_getElem? hp
    exact took_resume hmem (List.eraseIdx_sublist _ _).subset h

/-! ## The vector is as long as the room -/

/-- The vector has the length of the room, key handlers go through their slots in order, and no
history panics. -/
structure Inv (v : SlotView) (room : Nat) : Prop where
  length : v.signals.length = room
  presses : ∀ p ∈ v.presses, p.rest.Pairwise (· < ·)
  histories : HistoriesOk v.histories

theorem inv_init (list : List Device) : Inv (init list) list.length where
  length := by
    refine (length_padded [] _).trans ?_
    rw [HubDevices.length_replaceDevices]
    exact Nat.max_eq_right (Nat.zero_le _)
  presses := fun p hp => absurd hp List.not_mem_nil
  histories := fun u h hu => by
    rw [show (init list).histories = ∅ from rfl, Finmap.lookup_empty] at hu
    cases hu

theorem roomAfter_of_not_resizing (he : e.resizing = false) (t : Option SlotView) :
    roomAfter (some s) e t room = room := by
  unfold roomAfter
  split
  · cases he
  · cases he
  · rfl

theorem Inv.next (hi : Inv s room) (he : s.Offers e) (h : s.next e = some s') :
    Inv s' (roomAfter (some s) e (some s') room) := by
  cases took_of_step he h with
  | listed list => exact ⟨hi.length, hi.presses, hi.histories⟩
  | drawn =>
    refine ⟨?_, hi.presses, hi.histories⟩
    rw [← hi.length]
    exact length_padded _ _
  | @resized i devices hdevices =>
    refine ⟨?_, hi.presses, hi.histories⟩
    show (padded (s.signals.take devices.length) devices.length).length = ((s.resizes[i]?).map List.length).getD room
    rw [hdevices, length_padded, List.length_take]
    exact Nat.max_eq_right (Nat.min_le_left _ _)
  | quiet hrest hquiet _ =>
    rw [roomAfter_of_not_resizing hrest]
    refine ⟨hquiet.length.trans hi.length, fun p hp => ?_, hquiet.histories hi.histories⟩
    rcases hquiet.presses p hp with ⟨q, hq, hsuffix⟩ | hsuffix
    · exact (hi.presses q hq).sublist hsuffix.sublist
    · exact List.pairwise_lt_range.sublist hsuffix.sublist

/-- **One step.**  The indices of an event are in bounds exactly if its slots lie within the room. -/
theorem Inv.inBounds_iff (hi : Inv s room) (e : SlotEvent) : (∀ p ∈ s.indexings e, p.1 < p.2) ↔ Covers s room e := by
  cases e with
  | view e =>
    cases e with
    | render =>
      refine ⟨fun _ => trivial, fun _ => ?_⟩
      rw [indexings, forall_mem_map_index, length_padded]
      intro slot hslot
      exact Nat.lt_of_lt_of_le (List.mem_range.mp hslot) (Nat.le_max_right _ _)
    | shotDelay i reply =>
      cases reply with
      | ok delay =>
        rw [indexings, forall_mem_toList_index, hi.length]
        rfl
      | error msg => exact iff_of_true (List.forall_mem_nil _) trivial
    | arm slot | cancel slot | toggleKey slot | editDelay slot delay =>
      rw [indexings, forall_mem_singleton_index, hi.length]
      rfl
    | impact device timestamp =>
      rw [indexings, forall_mem_toList_index, hi.length]
      rfl
    | press key =>
      refine ⟨fun _ => trivial, fun _ => ?_⟩
      rw [indexings, forall_mem_map_index]
      exact fun slot hslot => List.mem_range.mp (swept_subset hslot)
    | keyAnswered i ok =>
      rw [indexings, forall_mem_map_index, List.forall_mem_flatMap, hi.length]
      refine forall_congr' fun p => ?_
      rw [Option.mem_toList]
      exact forall_congr' fun hp => swept_lt_iff (hi.presses p (List.mem_of_getElem? hp))
    | deviceList list | tracking device te | effect | resize i | answered ok =>
      exact iff_of_true (List.forall_mem_nil _) trivial
  | readDelay slot =>
    rw [indexings, forall_mem_singleton_index, hi.length]
    rfl
  | reset slot | saveZero slot => exact iff_of_true (List.forall_mem_nil _) trivial
  | resumed i reply =>
    rw [indexings, List.forall_mem_map, hi.length]
    refine forall_congr' fun p => ?_
    rw [Option.mem_toList, Option.filter_eq_some_iff, and_imp]
    rfl

/-! ## Slots within the room -/

/-- All slots that something has lie within the room. -/
def Fits (v : SlotView) (room : Nat) : Prop := ∀ slot, Held v slot → slot < room

theorem rows_length (v : View) : v.render.rows.length = v.hub.devices.length := List.length_mapIdx

theorem fits_init (list : List Device) : Fits (init list) list.length := by
  intro slot h
  cases h with
  | hub hu => exact HubDevices.lookup_replaceDevices_lt hu
  | row hrow =>
    have hlt : slot < (HubDevices.replaceDevices list).devices.length := hrow.trans_eq (rows_length _)
    rwa [HubDevices.length_replaceDevices] at hlt
  | delay hp => exact absurd hp List.not_mem_nil
  | press hp _ => exact absurd hp List.not_mem_nil
  | waiting hp => exact absurd hp List.not_mem_nil

theorem Fits.next (hf : Fits s room) (hi : Inv s room) (he : s.Offers e) (hok : Sizes s room e)
    (h : s.next e = some s') : Fits s' (roomAfter (some s) e (some s') room) := by
  cases took_of_step he h with
  | listed list =>
    intro slot hheld
    have hlist : list.length ≤ room := hok
    cases hheld with
    | hub hu => exact Nat.lt_of_lt_of_le (HubDevices.lookup_replaceDevices_lt hu) hlist
    | row hrow => exact hf slot (.row hrow)
    | delay hp => exact hf _ (.delay hp)
    | press hp hslot => exact hf slot (.press hp hslot)
    | waiting hp => exact hf _ (.waiting hp)
  | drawn =>
    intro slot hheld
    have hroom : room ≤ max room s.hub.devices.length := Nat.le_max_left _ _
    cases hheld with
    | hub hu => exact Nat.lt_of_lt_of_le (hf slot (.hub hu)) hroom
    | row hrow => exact Nat.lt_of_lt_of_le (hrow.trans_eq (rows_length _)) (Nat.le_max_right _ _)
    | delay hp => exact Nat.lt_of_lt_of_le (hf _ (.delay hp)) hroom
    | press hp hslot => exact Nat.lt_of_lt_of_le (hf slot (.press hp hslot)) hroom
    | waiting hp => exact Nat.lt_of_lt_of_le (hf _ (.waiting hp)) hroom
  | @resized i devices hdevices =>
    intro slot hheld
    have hleft : ∀ slot, Held s slot → slot < devices.length := hok devices hdevices
    show slot < ((s.resizes[i]?).map List.length).getD room
    rw [hdevices]
    cases hheld with
    | hub hu => exact hleft slot (.hub hu)
    | row hrow => exact hleft slot (.row hrow)
    | @delay p hp =>
      rcases List.mem_append.mp hp with hp | hp
      · exact hleft _ (.delay hp)
      · obtain ⟨k, hk, rfl⟩ := List.mem_mapIdx.mp hp
        exact hk
    | press hp hslot => exact hleft slot (.press hp hslot)
    | waiting hp => exact hleft _ (.waiting hp)
  | quiet hrest hquiet hwaiting =>
    rw [roomAfter_of_not_resizing hrest]
    intro slot hheld
    cases hheld with
    | hub hu => exact hf slot (.hub (hquiet.hub ▸ hu))
    | row hrow => exact hf slot (.row (hquiet.rows ▸ hrow))
    | delay hp => exact hf _ (.delay (hquiet.delays hp))
    | press hp hslot =>
      rcases hquiet.presses _ hp with ⟨q, hq, hsuffix⟩ | hsuffix
      · exact hf slot (.press hq (hsuffix.subset hslot))
      · exact (List.mem_range.mp (hsuffix.subset hslot)).trans_eq hi.length
    | waiting hp =>
      rcases hwaiting _ hp with hrow | ⟨q, hq, hslot⟩
      · exact hf _ (.row hrow)
      · exact hslot ▸ hf _ (.waiting hq)

theorem lt_rows_of_any {slot : Nat} {p : ZeroRow → Bool} (h : (s.rows[slot]?).any p = true) : slot < s.rows.length := by
  obtain ⟨r, hr, -⟩ := (Option.any_eq_true _ _).mp h
  exact (List.getElem?_eq_some_iff.mp hr).1

theorem Fits.covers (hf : Fits s room) (he : s.Offers e) : Covers s room e := by
  cases e with
  | view e =>
    cases e with
    | impact device timestamp => exact fun slot hk => hf slot (.hub hk)
    | shotDelay i reply =>
      cases reply with
      | ok delay => exact fun p hp => hf p.1 (.delay (List.mem_of_getElem? hp))
      | error msg => trivial
    | arm slot | cancel slot => exact hf slot (.row (lt_rows_of_any he))
    | toggleKey slot | editDelay slot delay => exact hf slot (.row he)
    | keyAnswered i ok => exact fun p hp => Or.inl fun slot hslot => hf slot (.press (List.mem_of_getElem? hp) hslot)
    | deviceList list | tracking device te | render | effect | resize i | press key | answered ok => trivial
  | readDelay slot => exact hf slot (.row he)
  | reset slot | saveZero slot => trivial
  | resumed i reply => exact fun p hp _ => hf p.2 (.waiting (List.mem_of_getElem? hp))

end

/-! ## Runs of the view -/

theorem step_cases {s s' : Option SlotView} {e : SlotEvent} (h : Step s e s') :
    ∃ v, s = some v ∧ v.Offers e ∧ v.next e = s' := by
  obtain ⟨v, rfl, hv⟩ := Option.bind_eq_some_iff.mp h
  split at hv
  · next he => exact ⟨v, rfl, he, Option.some.inj hv⟩
  · cases hv

/-- The invariant of the run: that of the view, unless it has panicked. -/
def Good (s : Option SlotView × Nat) : Prop := ∀ v ∈ s.1, Inv v s.2

def Fitted (s : Option SlotView × Nat) : Prop := ∀ v ∈ s.1, Inv v s.2 ∧ Fits v s.2

theorem forall_mem_some {α : Type} {a : α} {P : α → Prop} : (∀ b ∈ some a, P b) ↔ P a :=
  ⟨fun h => h a rfl, fun h _ hb => Option.some.inj hb ▸ h⟩

section
variable {s : SlotView} {e : SlotEvent} {room : Nat}

theorem inBounds_some : InBounds (some s, room) e ↔ ∀ p ∈ s.indexings e, p.1 < p.2 := forall_mem_some

theorem covered_some : Covered (some s, room) e ↔ Covers s room e := forall_mem_some

end

section
variable {s s' : Option SlotView × Nat} {e : SlotEvent}

theorem Good.next (hg : Good s) (h : ghost Step roomAfter s e s') : Good s' := by
  obtain ⟨t, room⟩ := s
  obtain ⟨t', room'⟩ := s'
  obtain ⟨hstep, hroom⟩ := h
  obtain ⟨v, rfl, he, rfl⟩ := step_cases hstep
  dsimp only at hroom
  subst hroom
  exact fun v' hv' => (hg v rfl).next he hv'

theorem Good.inBounds_iff (hg : Good s) (h : ghost Step roomAfter s e s') : InBounds s e ↔ Covered s e := by
  obtain ⟨t, room⟩ := s
  obtain ⟨v, rfl, -, -⟩ := step_cases h.1
  exact inBounds_some.trans (((hg v rfl).inBounds_iff e).trans covered_some.symm)

theorem Good.isSome_iff (hg : Good s) (h : ghost Step roomAfter s e s') : s'.1.isSome = true ↔ InBounds s e := by
  obtain ⟨t, room⟩ := s
  obtain ⟨v, rfl, he, hnext⟩ := step_cases h.1
  rw [← hnext, next_isSome_iff (hg v rfl).histories he]
  exact inBounds_some.symm

theorem Fitted.next (hf : Fitted s) (hok : Sized s e) (h : ghost Step roomAfter s e s') : Fitted s' := by
  obtain ⟨t, room⟩ := s
  obtain ⟨t', room'⟩ := s'
  obtain ⟨hstep, hroom⟩ := h
  obtain ⟨v, rfl, he, rfl⟩ := step_cases hstep
  dsimp only at hroom
  subst hroom
  obtain ⟨hi, hfits⟩ := hf v rfl
  exact fun v' hv' => ⟨hi.next he hv', hfits.next hi he (hok v rfl) hv'⟩

theorem Fitted.inBounds (hf : Fitted s) (h : ghost Step roomAfter s e s') : InBounds s e := by
  obtain ⟨t, room⟩ := s
  obtain ⟨v, rfl, he, -⟩ := step_cases h.1
  obtain ⟨hi, hfits⟩ := hf v rfl
  exact inBounds_some.mpr ((hi.inBounds_iff e).mpr (hfits.covers he))

end

/-- **No panics.**  The view gets through a run exactly if all indices are in bounds. -/
theorem always_isSome_iff (list : List Device) {tr : List (SlotEvent × Option SlotView × Nat)}
    (hrun : Exec (ghost Step roomAfter) (some (init list), list.length) tr) :
    Always (fun s => s.1.isSome = true) (some (init list), list.length) tr ↔
      StepsOk InBounds (some (init list), list.length) tr := by
  refine hrun.always_iff (I := fun s => s.1.isSome = true ∧ Good s) (fun s hs => hs.1) ?_ ?_ ?_
  · rintro s e s' ⟨-, hg⟩ hok h
    exact ⟨(hg.isSome_iff h).mpr hok, hg.next h⟩
  · rintro s e s' ⟨-, hg⟩ h hsome
    exact (hg.isSome_iff h).mp hsome
  · exact ⟨rfl, forall_mem_some.mpr (inv_init list)⟩

/-- **Slots.**  In a run all indices into the signals are in bounds exactly when all its steps
are `Covered`; they are if slots are handed out and taken back within the room. -/
theorem slots_inBounds_iff (list : List Device) {tr : List (SlotEvent × Option SlotView × Nat)}
    (hrun : Exec (ghost Step roomAfter) (some (init list), list.length) tr) :
    (StepsOk InBounds (some (init list), list.length) tr ↔ StepsOk Covered (some (init list), list.length) tr) ∧
      (StepsOk Sized (some (init list), list.length) tr → StepsOk InBounds (some (init list), list.length) tr) := by
  have hgood : Good (some (init list), list.length) := forall_mem_some.mpr (inv_init list)
  have hfitted : Fitted (some (init list), list.length) := forall_mem_some.mpr ⟨inv_init list, fits_init list⟩
  refine ⟨⟨hrun.stepsOk (I := Good) ?_ ?_ hgood, hrun.stepsOk (I := Good) ?_ ?_ hgood⟩, ?_⟩
  · exact fun _ _ _ hg _ h => hg.next h
  · exact fun _ _ _ hg hok h => (hg.inBounds_iff h).mp hok
  · exact fun _ _ _ hg _ h => hg.next h
  · exact fun _ _ _ hg hok h => (hg.inBounds_iff h).mpr hok
  · exact hrun.stepsOk (I := Fitted) (fun _ _ _ hf hok h => hf.next hok h) (fun _ _ _ hf _ h => hf.inBounds h) hfitted

/-! ## A device before its row -/

instance decidableInBounds (s : Option SlotView × Nat) (e : SlotEvent) : Decidable (InBounds s e) :=
  Option.decidableForallMem _

instance decidableCovers (v : SlotView) (room : Nat) : ∀ e, Decidable (Covers v room e)
  | .view (.impact _ _) | .view (.shotDelay _ (.ok _)) => Option.decidableForallMem _
  | .view (.arm _) | .view (.cancel _) | .view (.toggleKey _) | .view (.editDelay _ _) | .readDelay _ =>
    inferInstanceAs (Decidable (_ < _))
  | .view (.keyAnswered _ _) | .resumed _ _ => Option.decidableForallMem _
  | .view (.deviceList _) | .view (.tracking _ _) | .view .render | .view .effect | .view (.resize _)
  | .view (.shotDelay _ (.error _)) | .view (.press _) | .view (.answered _) | .reset _ | .saveZero _ => isTrue trivial

instance decidableCovered (s : Option SlotView × Nat) (e : SlotEvent) : Decidable (Covered s e) :=
  Option.decidableForallMem _

def slotRun (list : List Device) (events : List SlotEvent) : List (SlotEvent × Option SlotView × Nat) :=
  trace (ghostStep turn roomAfter) (some (init list), list.length) events

theorem slotRun_exec (list : List Device) (events : List SlotEvent) :
    Exec (ghost Step roomAfter) (some (init list), list.length) (slotRun list events) :=
  exec_ghostStep (fun _ _ _ h => h) roomAfter _ _

/-- The second gun is shot, before or after the view draws it. -/
def plugged (drawn : List SlotEvent) : List SlotEvent :=
  [.view .effect, .view (.resize 0), .view (.deviceList [View.gun 1, View.gun 2])] ++ drawn ++
    [.view (.impact (View.gun 2) 500000)]

theorem slots_inBounds_iff_drawn :
    (slotRun [View.gun 1] (plugged [.view .render])).length = 5 ∧
      StepsOk InBounds (some (init [View.gun 1]), 1) (slotRun [View.gun 1] (plugged [.view .render])) :=
  ⟨by decide +kernel,
    (slots_inBounds_iff [View.gun 1] (slotRun_exec [View.gun 1] (plugged [.view .render]))).1.mpr (by decide +kernel)⟩

/-- An impact between the device list and the draw uses slot 1 of a vector of one. -/
theorem slot_out_of_bounds :
    ¬ ∀ (list : List Device) (tr : List (SlotEvent × Option SlotView × Nat)),
      Exec (ghost Step roomAfter) (some (init list), list.length) tr →
      StepsOk InBounds (some (init list), list.length) tr := by
  intro hall
  exact absurd (hall _ _ (slotRun_exec [View.gun 1] (plugged []))) (by decide +kernel)

end SlotView

end ZeroView

end OdysseyHub
