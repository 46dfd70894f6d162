import Mathlib.Data.Finmap
import OdysseyHub.Desktop.ZeroLookup

/-!
# Zero on shot (views/zero.rs, hub.rs)

The Zero view keeps what it knows of a device by slot.  Every device list gives out the slots
anew, from 0, while the view only pads its vector of signals before it draws and cuts it off
later: a slot that is armed stays armed for whichever device has it next.

The history variable `g` holds the devices armed by a click in their own row, since their last
cancel or completed zero.  Armed slots belong to such devices exactly in runs whose steps are
`Kept`, and then an impact sends a zero for such a device only:

    Always Safe … tr ↔ StepsOk Kept … tr,   StepsOk Kept … tr → StepsOk Wanted … tr   (zeroOnShot_follows)
-/

namespace OdysseyHub

open Slots Transition

/-! ## The devices of the hub -/

/-- The `devices` slab, which is cleared before it is filled, and the `device_keys`. -/
structure HubDevices where
  devices : List Device
  deviceKeys : Finmap fun _ : Uuid => Nat

namespace HubDevices

def insert (hub : HubDevices) (device : Device) : HubDevices :=
  { devices := hub.devices ++ [device]
    deviceKeys := hub.deviceKeys.insert device.uuid hub.devices.length }

/-- `replace_devices`, and an update of the list in `run` -/
def replaceDevices (list : List Device) : HubDevices :=
  list.foldl insert { devices := [], deviceKeys := ∅ }

def deviceKey (hub : HubDevices) (device : Device) : Option Nat := hub.deviceKeys.lookup device.uuid

end HubDevices

namespace ZeroView

/-! ## The view -/

structure DeviceSignals where
  shooting : Bool := false
  zeroingOnKey : Bool := false
  shotDelay : UInt16 := 0
  deriving DecidableEq, Repr

/-- The row of a slot as it was drawn last; `firing` chooses between its two buttons. -/
structure ZeroRow where
  device : Device
  firing : Bool

/-- A call of `zero`, with the event looked up for it. -/
structure ZeroRequest where
  device : Device
  event : Option TrackingEvent

inductive ZeroKey
  | z
  | escape
  deriving DecidableEq, Repr

/-- A key handler that waits for its zero, with the slots it goes on with. -/
structure KeyPress where
  key : ZeroKey
  devs : List Device
  request : ZeroRequest
  rest : List Nat

structure View where
  hub : HubDevices
  signals : List DeviceSignals
  histories : Finmap fun _ : Uuid => TrackingHistory
  rows : List ZeroRow
  lastSnapshot : List Uuid
  /-- the resizes spawned by the effect, with the devices it was made for -/
  resizes : List (List Device)
  /-- the calls of `get_shot_delay` that are under way, with the slots they are for -/
  delays : List (Nat × Device)
  /-- the zero that the impact loop waits for -/
  sending : Option ZeroRequest
  presses : List KeyPress

inductive ZeroEvent
  | deviceList (list : List Device)
  | tracking (device : Device) (te : TrackingEvent)
  | render
  | effect
  | resize (i : Nat)
  | shotDelay (i : Nat) (reply : Except String UInt16)
  /-- `Zero on shot` -/
  | arm (slot : Nat)
  | cancel (slot : Nat)
  | toggleKey (slot : Nat)
  /-- a delay is typed or stepped, or a `Reset` has been answered -/
  | editDelay (slot : Nat) (delay : UInt16)
  | impact (device : Device) (timestamp : UInt32)
  | press (key : ZeroKey)
  /-- the zero of the impact loop, or of a key handler, has been answered -/
  | answered (ok : Bool)
  | keyAnswered (i : Nat) (ok : Bool)

/-- The zero of a key is sent for the next slot that waits for the key; what is returned are the
signals, and the request with the slots left.  `none` is an index behind the signals. -/
def sweep (histories : Finmap fun _ : Uuid => TrackingHistory) (key : ZeroKey) (devs : List Device) :
    List Nat → List DeviceSignals → Option (List DeviceSignals × Option (ZeroRequest × List Nat))
  | [], signals => some (signals, none)
  | slot :: rest, signals => do
    let sig ← signals[slot]?
    if sig.zeroingOnKey then
      let signals := signals.set slot { sig with zeroingOnKey := false }
      match key, devs[slot]? with
      | .z, some dev =>
        let event ← historicalTe (histories.lookup dev.uuid) sig.shotDelay .key
        some (signals, some ({ device := dev, event := event }, rest))
      | _, _ => sweep histories key devs rest signals
    else sweep histories key devs rest signals

/-- `resize_with` up to a length. -/
def padded (signals : List DeviceSignals) (n : Nat) : List DeviceSignals :=
  signals ++ List.replicate (n - signals.length) ({} : DeviceSignals)

/-- The slot is waiting for a shot. -/
def firing (signals : List DeviceSignals) (slot : Nat) : Bool := (signals[slot]?).any (·.shooting)

namespace View

/-- A render, which pads the signals first. -/
def render (s : View) : View :=
  let signals := padded s.signals s.hub.devices.length
  { s with
    signals := signals
    rows := s.hub.devices.mapIdx fun slot device => { device := device, firing := firing signals slot } }

/-- The view with its first render. -/
def init (list : List Device) : View :=
  render
    { hub := .replaceDevices list
      signals := []
      histories := ∅
      rows := []
      lastSnapshot := []
      resizes := []
      delays := []
      sending := none
      presses := [] }

/-- A signal of a slot is set; `none` is an index behind the signals. -/
def modifySlot (s : View) (slot : Nat) (f : DeviceSignals → DeviceSignals) : Option View :=
  (s.signals[slot]?).map fun sig => { s with signals := s.signals.set slot (f sig) }

/-- A key handler goes through slots, up to its next zero. -/
def sweepOn (s : View) (key : ZeroKey) (devs : List Device) (slots : List Nat) : Option View :=
  (sweep s.histories key devs slots s.signals).map fun p =>
    { s with
      signals := p.1
      presses := s.presses ++ (p.2.map fun q => KeyPress.mk key devs q.1 q.2).toList }

/-- The impact loop, for one event. -/
def impact (s : View) (device : Device) (timestamp : UInt32) : Option View :=
  match s.hub.deviceKey device with
  | none => some s
  | some key => do
    let sig ← s.signals[key]?
    if sig.shooting then
      let event ← historicalTe (s.histories.lookup device.uuid) sig.shotDelay (.impact timestamp)
      some
        { s with
          signals := s.signals.set key { sig with shooting := false }
          sending := some { device := device, event := event } }
    else some s

/-- The effect of the last render: new devices have the signals resized. -/
def effect (s : View) : View :=
  let devices := s.rows.map (·.device)
  let snapshot := devices.map (·.uuid)
  if s.lastSnapshot = snapshot then s
  else { s with lastSnapshot := snapshot, resizes := s.resizes ++ [devices] }

/-- The task of the effect, up to the replies. -/
def resize (s : View) (devices : List Device) : View :=
  { s with
    signals := padded (s.signals.take devices.length) devices.length
    delays := s.delays ++ devices.mapIdx fun slot device => (slot, device) }

def next (s : View) : ZeroEvent → Option View
  | .deviceList list => some { s with hub := .replaceDevices list }
  | .tracking device te =>
    (record (s.histories.lookup device.uuid) te).map fun h =>
      { s with histories := s.histories.insert device.uuid h }
  | .render => some s.render
  | .effect => some s.effect
  | .resize i => (s.resizes[i]?).map fun devices => { s with resizes := s.resizes.eraseIdx i }.resize devices
  | .shotDelay i reply => do
    let p ← s.delays[i]?
    let s := { s with delays := s.delays.eraseIdx i }
    match reply with
    | .ok delay => s.modifySlot p.1 fun sig => { sig with shotDelay := delay }
    | .error _ => some s
  | .arm slot => do
    let r ← s.rows[slot]?
    if r.firing then none else s.modifySlot slot fun sig => { sig with shooting := true }
  | .cancel slot => do
    let r ← s.rows[slot]?
    if r.firing then s.modifySlot slot fun sig => { sig with shooting := false } else none
  | .toggleKey slot => s.modifySlot slot fun sig => { sig with zeroingOnKey := !sig.zeroingOnKey }
  | .editDelay slot delay => s.modifySlot slot fun sig => { sig with shotDelay := delay }
  | .impact device timestamp => if s.sending.isSome then none else s.impact device timestamp
  | .press key => s.sweepOn key s.hub.devices (List.range s.signals.length)
  | .answered _ => s.sending.map fun _ => { s with sending := none }
  | .keyAnswered i _ => do
    let p ← s.presses[i]?
    { s with presses := s.presses.eraseIdx i }.sweepOn p.key p.devs p.rest

def Step (s : View) (e : ZeroEvent) (s' : View) : Prop := s.next e = some s'

/-- The device whose row a click is in. -/
def rowUuid (s : View) (slot : Nat) : Option Uuid := (s.rows[slot]?).map (·.device.uuid)

/-- The device whose zero completes. -/
def zeroed (s : View) : ZeroEvent → Option Uuid
  | .answered true => s.sending.map (·.device.uuid)
  | .keyAnswered i true => (s.presses[i]?).map (·.request.device.uuid)
  | _ => none

/-- The devices armed in their own row, after a step: a click arms the device of its row, a
cancel or a completed zero disarms one. -/
def armedBy (s : View) (e : ZeroEvent) (_ : View) (g : Finset Uuid) : Finset Uuid :=
  match e with
  | .arm slot => g ∪ (s.rowUuid slot).toFinset
  | .cancel slot => g \ (s.rowUuid slot).toFinset
  | e => g \ (s.zeroed e).toFinset

/-! ## What is claimed, and of which steps -/

/-- Of a device that has a slot, if the slot is armed. -/
def Armed (hub : HubDevices) (signals : List DeviceSignals) (P : Uuid → Prop) : Prop :=
  ∀ u ∈ hub.deviceKeys.keys, ∀ slot ∈ hub.deviceKeys.lookup u, firing signals slot = true → P u

/-- Armed slots belong to devices that the user has armed. -/
def Safe (s : View × Finset Uuid) : Prop := Armed s.1.hub s.1.signals (· ∈ s.2)

/-- A zero is sent for an impact only if the user has armed its device. -/
def Wanted (s : View × Finset Uuid) : ZeroEvent → Prop
  | .impact device timestamp =>
    ∀ s' ∈ s.1.next (.impact device timestamp), ∀ q ∈ s'.sending, q.device.uuid ∈ s.2
  | _ => True

/-- A device list gives armed slots to armed devices only, the slot of an arming click is not
another device's, and a device is not armed in any other slot when it is cancelled or its zero
completes. -/
def Kept (s : View × Finset Uuid) : ZeroEvent → Prop
  | .deviceList list => Armed (.replaceDevices list) s.1.signals (· ∈ s.2)
  | .arm slot =>
    ∀ u ∈ s.1.hub.deviceKeys.keys, s.1.hub.deviceKeys.lookup u = some slot → s.1.rowUuid slot = some u ∨ u ∈ s.2
  | .cancel slot =>
    ∀ u ∈ s.1.rowUuid slot, ∀ k ∈ s.1.hub.deviceKeys.lookup u, k ≠ slot → firing s.1.signals k = false
  | e => ∀ u ∈ s.1.zeroed e, ∀ k ∈ s.1.hub.deviceKeys.lookup u, firing s.1.signals k = false

end View

/-- A device list, or a click of one of the two buttons. -/
def ZeroEvent.assigns : ZeroEvent → Bool
  | .deviceList _ | .arm _ | .cancel _ => true
  | _ => false

/-! ## The flags -/

theorem firing_padded (signals : List DeviceSignals) (n slot : Nat) :
    firing (padded signals n) slot = firing signals slot := by
  unfold firing padded
  rcases Nat.lt_or_ge slot signals.length with hlt | hge
  · rw [List.getElem?_append_left hlt]
  · rw [List.getElem?_append_right hge, List.getElem?_eq_none hge, List.getElem?_replicate]
    split <;> rfl

theorem firing_take {signals : List DeviceSignals} {n slot : Nat} (h : firing (signals.take n) slot = true) :
    firing signals slot = true := by
  unfold firing at h ⊢
  rw [List.getElem?_take] at h
  split at h
  · exact h
  · cases h

theorem firing_set {signals : List DeviceSignals} {slot : Nat} {sig : DeviceSignals}
    (hs : signals[slot]? = some sig) (sig' : DeviceSignals) (k : Nat) :
    firing (signals.set slot sig') k = if k = slot then sig'.shooting else firing signals k := by
  unfold firing
  rw [getElem?_set_of_some hs]
  by_cases hk : k = slot
  · rw [if_pos hk.symm, if_pos hk]
    rfl
  · rw [if_neg (Ne.symm hk), if_neg hk]

/-- A slot with the flag it had. -/
theorem firing_set_same {signals : List DeviceSignals} {slot : Nat} {sig : DeviceSignals}
    (hs : signals[slot]? = some sig) {sig' : DeviceSignals} (h : sig'.shooting = sig.shooting) (k : Nat) :
    firing (signals.set slot sig') k = firing signals k := by
  rw [firing_set hs]
  split
  · next hk => simp [firing, hk, hs, h]
  · rfl

/-- Key handlers leave the flags alone. -/
theorem firing_sweep {histories : Finmap fun _ : Uuid => TrackingHistory} {key : ZeroKey} {devs : List Device}
    {slots : List Nat} {signals : List DeviceSignals}
    {p : List DeviceSignals × Option (ZeroRequest × List Nat)}
    (h : sweep histories key devs slots signals = some p) (k : Nat) : firing p.1 k = firing signals k := by
  induction slots generalizing signals with
  | nil =>
    cases h
    rfl
  | cons slot rest ih =>
    obtain ⟨sig, hs, h⟩ := Option.bind_eq_some_iff.mp h
    split at h
    · have hset : firing (signals.set slot { sig with zeroingOnKey := false }) k = firing signals k :=
        firing_set_same hs (by rfl) k
      split at h
      · obtain ⟨event, -, h⟩ := Option.bind_eq_some_iff.mp h
        cases h
        exact hset
      · rw [ih h, hset]
    · exact ih h

namespace View

/-! ## What a step does to them -/

/-- Slots and flags stay as they are. -/
structure Same (s s' : View) : Prop where
  hub : s'.hub = s.hub
  flags : ∀ k, firing s'.signals k = firing s.signals k

/-- The steps that matter for slots and flags, and all others. -/
inductive Moved (s : View) : ZeroEvent → View → Prop
  | listed (list : List Device) : Moved s (.deviceList list) { s with hub := .replaceDevices list }
  | armed {slot : Nat} {sig : DeviceSignals} : s.signals[slot]? = some sig →
      Moved s (.arm slot) { s with signals := s.signals.set slot { sig with shooting := true } }
  | cancelled {slot : Nat} {sig : DeviceSignals} : s.signals[slot]? = some sig →
      Moved s (.cancel slot) { s with signals := s.signals.set slot { sig with shooting := false } }
  | resized {i : Nat} {devices : List Device} :
      Moved s (.resize i) ({ s with resizes := s.resizes.eraseIdx i }.resize devices)
  | fired {device : Device} {timestamp : UInt32} {slot : Nat} {sig : DeviceSignals} {event : Option TrackingEvent} :
      s.hub.deviceKey device = some slot → s.signals[slot]? = some sig → sig.shooting = true →
      Moved s (.impact device timestamp)
        { s with
          signals := s.signals.set slot { sig with shooting := false }
          sending := some { device := device, event := event } }
  | same {e : ZeroEvent} {s' : View} : e.assigns = false → Same s s' →
      (∀ device timestamp, e = .impact device timestamp → s'.sending = none) → Moved s e s'

variable {s s' : View}

theorem modifySlot_same {slot : Nat} (f : DeviceSignals → DeviceSignals) (hf : ∀ sig, (f sig).shooting = sig.shooting)
    (h : s.modifySlot slot f = some s') : Same s s' := by
  obtain ⟨sig, hs, rfl⟩ := Option.map_eq_some_iff.mp h
  exact ⟨rfl, firing_set_same hs (hf sig)⟩

theorem sweepOn_same {key : ZeroKey} {devs : List Device} {slots : List Nat}
    (h : s.sweepOn key devs slots = some s') : Same s s' := by
  obtain ⟨p, hp, rfl⟩ := Option.map_eq_some_iff.mp h
  exact ⟨rfl, firing_sweep hp⟩

theorem effect_same (s : View) : Same s s.effect := by
  unfold effect
  dsimp only
  split
  · exact ⟨rfl, fun _ => rfl⟩
  · exact ⟨rfl, fun _ => rfl⟩

theorem impact_cases {device : Device} {timestamp : UInt32} (hs : s.sending = none)
    (h : s.impact device timestamp = some s') : Moved s (.impact device timestamp) s' := by
  have unchanged : Moved s (.impact device timestamp) s := .same rfl ⟨rfl, fun _ => rfl⟩ fun _ _ _ => hs
  unfold impact at h
  split at h
  · cases h
    exact unchanged
  · next slot hk =>
    obtain ⟨sig, hsig, h⟩ := Option.bind_eq_some_iff.mp h
    split at h
    · next hshoot =>
      obtain ⟨event, -, h⟩ := Option.bind_eq_some_iff.mp h
      cases h
      exact .fired hk hsig hshoot
    · cases h
      exact unchanged

/-- **Inversion of a step.** -/
theorem step_cases {e : ZeroEvent} (h : Step s e s') : Moved s e s' := by
  have h : s.next e = some s' := h
  cases e with
  | deviceList list =>
    cases h
    exact .listed list
  | tracking device te =>
    obtain ⟨hist, -, rfl⟩ := Option.map_eq_some_iff.mp h
    exact .same rfl ⟨rfl, fun _ => rfl⟩ (by simp)
  | render =>
    cases h
    exact .same rfl ⟨rfl, firing_padded s.signals s.hub.devices.length⟩ (by simp)
  | effect =>
    cases h
    exact .same rfl (effect_same s) (by simp)
  | resize i =>
    obtain ⟨devices, -, rfl⟩ := Option.map_eq_some_iff.mp h
    exact .resized
  | shotDelay i reply =>
    obtain ⟨p, -, h⟩ := Option.bind_eq_some_iff.mp h
    cases reply with
    | ok delay =>
      obtain ⟨hhub, hflags⟩ := modifySlot_same (fun sig => { sig with shotDelay := delay }) (fun _ => rfl) h
      exact .same rfl ⟨hhub, hflags⟩ (by simp)
    | error e =>
      cases h
      exact .same rfl ⟨rfl, fun _ => rfl⟩ (by simp)
  | arm slot =>
    obtain ⟨r, -, h⟩ := Option.bind_eq_some_iff.mp h
    split at h
    · cases h
    · obtain ⟨sig, hsig, rfl⟩ := Option.map_eq_some_iff.mp h
      exact .armed hsig
  | cancel slot =>
    obtain ⟨r, -, h⟩ := Option.bind_eq_some_iff.mp h
    split at h
    · obtain ⟨sig, hsig, rfl⟩ := Option.map_eq_some_iff.mp h
      exact .cancelled hsig
    · cases h
  | toggleKey slot =>
    exact .same rfl (modifySlot_same (fun sig => { sig with zeroingOnKey := !sig.zeroingOnKey }) (fun _ => rfl) h)
      (by simp)
  | editDelay slot delay =>
    exact .same rfl (modifySlot_same (fun sig => { sig with shotDelay := delay }) (fun _ => rfl) h) (by simp)
  | impact device timestamp =>
    simp only [next] at h
    split at h
    · cases h
    · next hs => exact impact_cases (by simpa using hs) h
  | press key => exact .same rfl (sweepOn_same h) (by simp)
  | answered ok =>
    obtain ⟨q, -, rfl⟩ := Option.map_eq_some_iff.mp h
    exact .same rfl ⟨rfl, fun _ => rfl⟩ (by simp)
  | keyAnswered i ok =>
    obtain ⟨p, -, h⟩ := Option.bind_eq_some_iff.mp h
    obtain ⟨hhub, hflags⟩ := sweepOn_same h
    exact .same rfl ⟨hhub, hflags⟩ (by simp)

/-! ## Armed slots -/

variable {g : Finset Uuid} {e : ZeroEvent}

theorem safe_init (list : List Device) : Safe (init list, ∅) := by
  intro u _ k _ hf
  have hnone : firing (init list).signals k = false := firing_padded [] _ k
  rw [hnone] at hf
  cases hf

theorem kept_iff_of_not_assigns (he : e.assigns = false) :
    Kept (s, g) e ↔ ∀ u ∈ s.zeroed e, ∀ k ∈ s.hub.deviceKeys.lookup u, firing s.signals k = false := by
  cases e <;> first | exact Iff.rfl | cases he

theorem armedBy_of_not_assigns (he : e.assigns = false) : armedBy s e s' g = g \ (s.zeroed e).toFinset := by
  cases e <;> first | rfl | cases he

theorem armedBy_listed (list : List Device) : armedBy s (.deviceList list) s' g = g := Finset.sdiff_empty

/-- A step that arms nothing disarms at most the device whose zero completes. -/
theorem Safe.shrink (hs : Safe (s, g)) (he : e.assigns = false) (hok : Kept (s, g) e) (hhub : s'.hub = s.hub)
    (hflags : ∀ k, firing s'.signals k = true → firing s.signals k = true) : Safe (s', armedBy s e s' g) := by
  intro u hu k hk hf
  rw [hhub] at hu hk
  rw [armedBy_of_not_assigns he]
  refine Finset.mem_sdiff.mpr ⟨hs u hu k hk (hflags k hf), fun hz => ?_⟩
  have hoff := (kept_iff_of_not_assigns he).mp hok u (Option.mem_toFinset.mp hz) k hk
  exact absurd (hflags k hf) (by simp [hoff])

theorem Safe.step (hs : Safe (s, g)) (hok : Kept (s, g) e) (h : Step s e s') : Safe (s', armedBy s e s' g) := by
  cases step_cases h with
  | listed list =>
    rw [armedBy_listed]
    exact hok
  | @armed slot sig hsig =>
    intro u hu k hk hf
    rw [firing_set hsig] at hf
    split at hf
    · next hslot =>
      obtain hrow | hg := hok u hu (hslot ▸ hk)
      · exact Finset.mem_union_right _ (Option.mem_toFinset.mpr hrow)
      · exact Finset.mem_union_left _ hg
    · exact Finset.mem_union_left _ (hs u hu k hk hf)
  | @cancelled slot sig hsig =>
    intro u hu k hk hf
    rw [firing_set hsig] at hf
    split at hf
    · cases hf
    · next hslot =>
      refine Finset.mem_sdiff.mpr ⟨hs u hu k hk hf, fun hrow => ?_⟩
      have hoff := hok u (Option.mem_toFinset.mp hrow) k hk hslot
      exact absurd hf (by simp [hoff])
  | @resized i devices =>
    refine hs.shrink rfl hok rfl fun k hk => ?_
    have hpad := firing_padded (s.signals.take devices.length) devices.length k
    exact firing_take (hpad ▸ hk)
  | fired _ hsig _ =>
    refine hs.shrink rfl hok rfl fun k hk => ?_
    rw [firing_set hsig] at hk
    split at hk
    · cases hk
    · exact hk
  | same he hsame _ => exact hs.shrink he hok hsame.hub fun k hk => hsame.flags k ▸ hk

/-- A step that is not `Kept` leaves an armed slot with a device that is not armed. -/
theorem Safe.kept (h : Step s e s') (hs' : Safe (s', armedBy s e s' g)) : Kept (s, g) e := by
  have mem_keys {u : Uuid} {k : Nat} (hk : k ∈ s.hub.deviceKeys.lookup u) : u ∈ s.hub.deviceKeys.keys :=
    Finmap.mem_keys.mpr (Finmap.mem_of_lookup_eq_some hk)
  cases step_cases h with
  | listed list =>
    rw [armedBy_listed] at hs'
    exact hs'
  | @armed slot sig hsig =>
    intro u hu hk
    have hmem : u ∈ g ∪ (s.rowUuid slot).toFinset := hs' u hu slot hk (by rw [firing_set hsig, if_pos rfl])
    obtain hg | hrow := Finset.mem_union.mp hmem
    · exact .inr hg
    · exact .inl (Option.mem_toFinset.mp hrow)
  | @cancelled slot sig hsig =>
    intro u hrow k hk hslot
    by_contra hf
    have hmem : u ∈ g \ (s.rowUuid slot).toFinset := by
      refine hs' u (mem_keys hk) k hk ?_
      rw [firing_set hsig, if_neg hslot]
      simpa using hf
    exact (Finset.mem_sdiff.mp hmem).2 (Option.mem_toFinset.mpr hrow)
  | resized => exact fun u hz => absurd hz (by simp [zeroed])
  | fired _ _ _ => exact fun u hz => absurd hz (by simp [zeroed])
  | same he hsame _ =>
    refine (kept_iff_of_not_assigns he).mpr fun u hz k hk => ?_
    by_contra hf
    have hmem : u ∈ armedBy s e s' g := by
      refine hs' u ?_ k ?_ ?_
      · rw [hsame.hub]
        exact mem_keys hk
      · rw [hsame.hub]
        exact hk
      · rw [hsame.flags]
        simpa using hf
    rw [armedBy_of_not_assigns he] at hmem
    exact (Finset.mem_sdiff.mp hmem).2 (Option.mem_toFinset.mpr hz)

/-- The slot of an impact that sends a zero is armed. -/
theorem Safe.wanted (hs : Safe (s, g)) (e : ZeroEvent) : Wanted (s, g) e := by
  cases e with
  | impact device timestamp =>
    intro s' h q hq
    cases step_cases h with
    | @fired _ _ slot sig event hk hsig hshoot =>
      cases hq
      have hmem : device.uuid ∈ s.hub.deviceKeys.keys := Finmap.mem_keys.mpr (Finmap.mem_of_lookup_eq_some hk)
      exact hs device.uuid hmem slot hk (by simp [firing, hsig, hshoot])
    | same _ _ hnone =>
      rw [hnone device timestamp rfl] at hq
      cases hq
  | _ => trivial

/-- **Zero on shot.**  In a run all armed slots belong to devices armed in their own row
exactly when all its steps are `Kept`, and in such a run a zero is sent for an impact only if
the user has armed its device. -/
theorem zeroOnShot_follows (list : List Device) {tr : List (ZeroEvent × View × Finset Uuid)}
    (hrun : Exec (ghost Step armedBy) (init list, ∅) tr) :
    (Always Safe (init list, ∅) tr ↔ StepsOk Kept (init list, ∅) tr) ∧
      (StepsOk Kept (init list, ∅) tr → StepsOk Wanted (init list, ∅) tr) := by
  have hstep : ∀ (s : View × Finset Uuid) e s', Safe s → Kept s e → ghost Step armedBy s e s' → Safe s' := by
    rintro ⟨s, g⟩ e ⟨s', g'⟩ hs hok ⟨h, hg⟩
    dsimp only at hg
    subst hg
    exact hs.step hok h
  constructor
  · refine hrun.always_iff (fun _ hs => hs) hstep ?_ (safe_init list)
    rintro ⟨s, g⟩ e ⟨s', g'⟩ - ⟨h, hg⟩ hs'
    dsimp only at hg
    subst hg
    exact Safe.kept h hs'
  · exact hrun.stepsOk hstep (fun s e _ hs _ _ => hs.wanted e) (safe_init list)

/-! ## A device that moves up -/

-- by the slots that are taken, never by going through all UUIDs
instance (hub : HubDevices) (signals : List DeviceSignals) (P : Uuid → Prop) [DecidablePred P] :
    Decidable (Armed hub signals P) :=
  Finset.decidableDforallFinset

instance (s : View × Finset Uuid) (e : ZeroEvent) : Decidable (Kept s e) := by
  unfold Kept
  split
  · infer_instance
  · exact Finset.decidableDforallFinset
  · exact Option.decidableForallMem _
  · exact Option.decidableForallMem _

instance (s : View × Finset Uuid) (e : ZeroEvent) : Decidable (Wanted s e) := by
  unfold Wanted
  split <;> infer_instance

def shotRun (list : List Device) (events : List ZeroEvent) : List (ZeroEvent × View × Finset Uuid) :=
  trace (ghostStep next armedBy) (init list, ∅) events

theorem shotRun_exec (list : List Device) (events : List ZeroEvent) :
    Exec (ghost Step armedBy) (init list, ∅) (shotRun list events) :=
  exec_ghostStep (fun _ _ _ h => h) armedBy _ _

def gun (last : UInt8) : Device :=
  { uuid := Uuid.of 0xC0 1 2 3 4 last
    transport := .usbMux
    capabilities := ⟨DeviceCapabilities.EVENTS⟩
    firmwareVersion := Version.of 1 0 0
    eventsTransport := .bluetooth
    eventsConnected := true
    productId := 0x5210
    name := Vector.replicate 33 0 }

/-- The first gun is armed, and then the list has others. -/
def rearranged (list : List Device) : List ZeroEvent :=
  [.effect, .resize 0, .arm 0, .deviceList list, .render, .effect, .resize 0]

/-- The armed gun is shot after the other one has been unplugged. -/
def ownShot : List ZeroEvent := rearranged [gun 1] ++ [.impact (gun 1) 500000, .answered true]

/-- The other gun is shot after the armed one has been unplugged. -/
def otherShot : List ZeroEvent := rearranged [gun 2] ++ [.impact (gun 2) 500000]

theorem zeroOnShot_follows_ownShot :
    (shotRun [gun 1, gun 2] ownShot).length = 9 ∧
      Always Safe (init [gun 1, gun 2], ∅) (shotRun [gun 1, gun 2] ownShot) ∧
      StepsOk Wanted (init [gun 1, gun 2], ∅) (shotRun [gun 1, gun 2] ownShot) :=
  ⟨by decide +kernel,
    (zeroOnShot_follows [gun 1, gun 2] (shotRun_exec [gun 1, gun 2] ownShot)).1.mpr (by decide +kernel),
    (zeroOnShot_follows [gun 1, gun 2] (shotRun_exec [gun 1, gun 2] ownShot)).2 (by decide +kernel)⟩

/-- The second gun has taken over the armed slot. -/
theorem zero_unarmed :
    ¬ ∀ (list : List Device) (tr : List (ZeroEvent × View × Finset Uuid)),
      Exec (ghost Step armedBy) (init list, ∅) tr → StepsOk Wanted (init list, ∅) tr := by
  intro hall
  exact absurd (hall _ _ (shotRun_exec [gun 1, gun 2] otherShot)) (by decide +kernel)

end View

end ZeroView

end OdysseyHub
