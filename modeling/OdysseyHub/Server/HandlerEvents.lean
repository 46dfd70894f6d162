import OdysseyHub.Lib.Transition
import OdysseyHub.Server.HandlerTurn

/-!
# The events side of a handler

Runs of the select loop of `device_handler_task`, from either construction, under
any control messages, timers and device answers.

* `eventsAgree_iff`: the EVENTS bit, `events_connected` and the presence of an
  events device agree throughout a run exactly when every `AddControlDevice` whose
  device reports USB mode finds an events device (the arm turns the flags on
  without one).
* `survivesUnplug_iff`: an events device supplied by `AddEventsDevice` survives
  `RemoveControlDevice` in every state of a run exactly when `events_transport` is
  already Bluetooth wherever one is taken, and no USB answer arrives over it: the
  decision reads `events_transport`, which `AddEventsDevice` does not set.
* `removeEventsDevice_tears_down`: `RemoveEventsDevice` never keeps a direct-USB
  events device; it does not look where the device came from.
-/

namespace OdysseyHub

open Transition
open DeviceCapabilities (CONTROL EVENTS DFU)

namespace Handler

/-- One turn that stays in the loop. -/
def Step (h : Handler) (l : Arm × Answers) (h' : Handler) : Prop :=
  ∃ o, h.turn l.1 l.2 = some o ∧ o.leave = false ∧ o.handler = h'

/-- `Step` as a function, for runs on given arms and answers. -/
def next (h : Handler) (l : Arm × Answers) : Option Handler :=
  match h.turn l.1 l.2 with
  | some o => if o.leave then none else some o.handler
  | none => none

theorem step_of_next (h : Handler) (l : Arm × Answers) (h' : Handler) (hn : h.next l = some h') :
    Step h l h' := by
  unfold next at hn
  split at hn
  · next o ho =>
    split at hn
    · cases hn
    · next hl => exact ⟨o, ho, by simpa using hl, Option.some.inj hn⟩
  · cases hn

/-- The states in which a handler enters its loop, from either construction. -/
inductive AtEntry : Handler → Prop
  | usb (p : UsbProbe) (shotDelay : UInt32) (a : Answers) :
      AtEntry ((usbHandler p shotDelay).start a).handler
  | mux (p : MuxProbe) (hub : Nat) (shotDelay : UInt32) (a : Answers) :
      AtEntry ((muxHandler p hub shotDelay).start a).handler

/-- The prelude reads and streams; it keeps the links. -/
theorem start_sameLinks (h : Handler) (a : Answers) : SameLinks h (h.start a).handler := by
  unfold start
  split <;> exact .of_eq rfl rfl

/-! ## Sample devices -/

/-- A device behind a dongle, protocol 0.1.1. -/
def sampleMux : MuxProbe :=
  { uuid := Uuid.of 0xC0 1 2 3 4 5, version := Version.of 0 2 0, eventsVersion := Version.of 0 1 1
    productId := 0x5210, name := "", device := ⟨.mux, 1⟩ }

/-- The same device on a USB cable, in the given transport mode. -/
def sampleUsb (mode : TransportMode) : UsbProbe :=
  { uuid := Uuid.of 0xC0 1 2 3 4 5, version := some (Version.of 0 2 0), eventsVersion := Version.of 0 1 1
    transportMode := mode, productId := 0x5210, productString := none, hasDfuInterface := true
    device := ⟨.usb, 2⟩ }

/-- A device whose streams all start. -/
def streaming : Answers := { streamsStarted := fun _ => true }

/-- `AddControlDevice` over USB, the device reporting `mode`. -/
def plugUsb (mode : TransportMode) : Arm × Answers :=
  (.control (.addControlDevice ⟨.usb, 2⟩), { getTransportMode := some (.ok mode) })

/-- `AddEventsDevice` from a dongle, all streams starting. -/
def joinBle : Arm × Answers := (.control (.addEventsDevice ⟨.mux, 1⟩ (Version.of 0 1 1)), streaming)

/-! ## The three flags -/

/-- EVENTS is published iff `events_connected` iff there is an events device. -/
structure EventsAgree (h : Handler) : Prop where
  capability : h.device.capabilities.contains EVENTS = h.device.eventsConnected
  connection : h.device.eventsConnected = h.connections.eventsDevice.isSome

theorem EventsAgree.of_sameLinks {h h' : Handler} (s : SameLinks h h') (e : EventsAgree h) :
    EventsAgree h' :=
  ⟨by rw [s.capabilities, s.eventsConnected]; exact e.capability,
    by rw [s.eventsConnected, s.connections]; exact e.connection⟩

theorem usbHandler_eventsAgree (p : UsbProbe) (ms : UInt32) : EventsAgree (usbHandler p ms) := by
  have base : (DeviceCapabilities.mk CONTROL).contains EVENTS = false := by decide
  constructor
  · simp only [usbHandler, usbDeviceMeta]
    cases p.transportMode <;> cases p.hasDfuInterface <;> simp [base]
  · simp only [usbHandler, usbDeviceMeta]
    cases p.transportMode <;> rfl

theorem AtEntry.eventsAgree {h : Handler} (he : AtEntry h) : EventsAgree h := by
  cases he with
  | usb p ms a => exact (usbHandler_eventsAgree p ms).of_sameLinks (start_sameLinks _ a)
  | mux p hub ms a =>
    have base : DeviceCapabilities.empty.contains EVENTS = false := by decide
    exact EventsAgree.of_sameLinks (start_sameLinks (muxHandler p hub ms) a) ⟨base, rfl⟩

/-- An `AddControlDevice` answered with USB mode finds an events device. -/
def UsbModeBacked (h : Handler) (l : Arm × Answers) : Prop :=
  ∀ dev, l.1 = .control (.addControlDevice dev) → l.2.getTransportMode = some (.ok .usb) →
    h.connections.eventsDevice.isSome = true

theorem addEventsDevice_eventsAgree {h : Handler} (e : EventsAgree h) (dev : VmDevice) (v : Version)
    (a : Answers) : EventsAgree (h.addEventsDevice dev v a).handler := by
  cases hs : h.hasSensorStreams with
  | true => exact e.of_sameLinks (addEventsDevice_streaming h dev v a hs)
  | false =>
    have hd := addEventsDevice_device h dev v a hs
    have hv := addEventsDevice_eventsDevice h dev v a hs
    exact ⟨by rw [hd]; simp, by rw [hd, hv]; rfl⟩

theorem addControlDevice_eventsAgree {h : Handler} (e : EventsAgree h) (dev : VmDevice) (a : Answers)
    (hok : UsbModeBacked h (.control (.addControlDevice dev), a)) :
    EventsAgree (h.addControlDevice dev a).handler := by
  by_cases hm : ∃ mode, a.getTransportMode = some (.ok mode)
  · obtain ⟨mode, hm⟩ := hm
    cases mode with
    | usb =>
      obtain ⟨h1, h2, -⟩ := addControlDevice_usb h dev a hm
      exact ⟨h1.trans h2.symm, h2.trans (hok dev rfl hm).symm⟩
    | ble =>
      cases he : h.connections.eventsDevice.isSome with
      | true =>
        obtain ⟨h1, h2, -⟩ := addControlDevice_ble h dev a hm he
        exact ⟨by rw [h1, h2]; exact e.capability, by rw [h2]; exact e.connection⟩
      | false =>
        obtain ⟨h1, h2, -⟩ := addControlDevice_ble_none h dev a hm he
        exact ⟨h1.trans h2.symm, h2.trans he.symm⟩
  · rw [not_exists] at hm
    obtain ⟨h1, h2, -⟩ := addControlDevice_unread h dev a hm
    exact ⟨by rw [h1, h2]; exact e.capability, by rw [h2]; exact e.connection⟩

theorem removeControlDevice_eventsAgree {h : Handler} (e : EventsAgree h)
    (hl : h.removeControlDevice.leave = false) : EventsAgree h.removeControlDevice.handler := by
  rw [removeControlDevice_leave, Bool.not_eq_false'] at hl
  obtain ⟨-, hc, hd⟩ := removeControlDevice_stay hl
  exact ⟨by rw [hd]; simpa using e.capability, by rw [hd, hc]; exact e.connection⟩

theorem removeEventsDevice_eventsAgree (h : Handler) : EventsAgree h.removeEventsDevice.handler := by
  obtain ⟨h1, h2⟩ := removeEventsDevice_device h
  exact ⟨h1.trans h2.symm, by rw [h2, removeEventsDevice_eventsDevice]; rfl⟩

/-- A turn keeps the flags together unless it is an unbacked USB answer. -/
theorem Step.eventsAgree (h : Handler) (l : Arm × Answers) (h' : Handler) (e : EventsAgree h)
    (hok : UsbModeBacked h l) (hs : Step h l h') : EventsAgree h' := by
  obtain ⟨arm, a⟩ := l
  obtain ⟨o, ht, hl, rfl⟩ := hs
  rcases turn_cases ht with ⟨dev, v, rfl, rfl⟩ | ⟨dev, rfl, rfl⟩ | ⟨rfl, rfl⟩ | ⟨rfl, rfl⟩ | ⟨-, hsame⟩
  · exact addEventsDevice_eventsAgree e dev v a
  · exact addControlDevice_eventsAgree e dev a hok
  · exact removeControlDevice_eventsAgree e hl
  · exact removeEventsDevice_eventsAgree h
  · exact e.of_sameLinks hsame

/-- An unbacked USB answer leaves `events_connected` without an events device. -/
theorem Step.usbModeBacked (h : Handler) (l : Arm × Answers) (h' : Handler) (hs : Step h l h')
    (e : EventsAgree h') : UsbModeBacked h l := by
  obtain ⟨arm, a⟩ := l
  obtain ⟨o, ht, -, rfl⟩ := hs
  rintro dev rfl hm
  have ho : o = h.addControlDevice dev a := (Option.some.inj ht).symm
  subst ho
  rw [← addControlDevice_eventsDevice h dev a, ← e.connection]
  exact (addControlDevice_usb h dev a hm).2.1

/-- **Events flags.**  Throughout a run, EVENTS, `events_connected` and the events device
agree exactly when every USB answer to `AddControlDevice` finds an events device. -/
theorem eventsAgree_iff {h : Handler} {tr : List ((Arm × Answers) × Handler)} (he : AtEntry h)
    (hrun : Exec Step h tr) : Always EventsAgree h tr ↔ StepsOk UsbModeBacked h tr :=
  hrun.always_iff (fun _ hi => hi) Step.eventsAgree
    (fun h l h' _ hs hP => Step.usbModeBacked h l h' hs hP) he.eventsAgree

/-- A dongle attach, a USB attach in BLE mode and the loss of the BLE link keep the flags
together. -/
theorem eventsAgree_iff_sample :
    let h := ((muxHandler sampleMux 0 0).start {}).handler
    let tr := trace next h [joinBle, plugUsb .ble, (.control .removeEventsDevice, {})]
    tr.length = 3 ∧ (Always EventsAgree h tr ↔ StepsOk UsbModeBacked h tr) :=
  ⟨by decide, eventsAgree_iff (.mux sampleMux 0 0 {}) (exec_trace step_of_next _ _)⟩

/-- The dongle attaches, USB attaches in BLE mode, the BLE link is lost, and at the next
scan the device reports USB mode: events count as connected without an events device. -/
theorem usb_answer_without_events_device :
    ¬ ∀ (h : Handler) (tr : List ((Arm × Answers) × Handler)),
      AtEntry h → Exec Step h tr → Always EventsAgree h tr := by
  intro hall
  have hfin := (hall _ _ (.mux sampleMux 0 0 {}) (exec_trace step_of_next _
    [joinBle, plugUsb .ble, (.control .removeEventsDevice, {}), plugUsb .usb])).last
  exact absurd hfin.connection (by decide)

/-! ## Where the events device came from -/

/-- Where `connections.events_device` came from. -/
inductive EventsSource
  | absent
  | direct
  | added
  deriving DecidableEq, Repr

/-- The history variable after a turn: an `AddEventsDevice` that is not ignored supplies
the device, and a removed device has no source. -/
def sourceAfter (h : Handler) (l : Arm × Answers) (h' : Handler) (src : EventsSource) : EventsSource :=
  match l.1 with
  | .control (.addEventsDevice _ _) => if h.hasSensorStreams then src else .added
  | _ => if h'.connections.eventsDevice.isSome then src else .absent

def sourceAtEntry (h : Handler) : EventsSource :=
  if h.connections.eventsDevice.isSome then .direct else .absent

/-- Turns with the source of the events device. -/
abbrev SourcedStep : Handler × EventsSource → Arm × Answers → Handler × EventsSource → Prop :=
  ghost Step sourceAfter

/-- `SourcedStep` as a function. -/
def sourcedNext (s : Handler × EventsSource) (l : Arm × Answers) : Option (Handler × EventsSource) :=
  (next s.1 l).map fun h' => (h', sourceAfter s.1 l h' s.2)

theorem sourcedStep_of_next (s : Handler × EventsSource) (l : Arm × Answers)
    (s' : Handler × EventsSource) (hn : sourcedNext s l = some s') : SourcedStep s l s' := by
  simp only [sourcedNext, Option.map_eq_some_iff] at hn
  obtain ⟨h', hh, rfl⟩ := hn
  exact ⟨step_of_next _ _ _ hh, rfl⟩

/-- A device with a source is there, and its events count as connected. -/
structure SourceOk (s : Handler × EventsSource) : Prop where
  present : s.2 ≠ .absent → s.1.connections.eventsDevice.isSome = true
  connected : s.1.connections.eventsDevice.isSome = true → s.1.device.eventsConnected = true

theorem AtEntry.sourceOk {h : Handler} (he : AtEntry h) : SourceOk (h, sourceAtEntry h) := by
  refine ⟨fun hsrc => ?_, fun hd => ?_⟩
  · simp only [sourceAtEntry] at hsrc
    split at hsrc
    · assumption
    · exact absurd rfl hsrc
  · rw [he.eventsAgree.connection]
    exact hd

theorem sourceAfter_other {h h' : Handler} {arm : Arm} {a : Answers} {src : EventsSource}
    (ha : ∀ dev v, arm ≠ .control (.addEventsDevice dev v)) :
    sourceAfter h (arm, a) h' src = if h'.connections.eventsDevice.isSome then src else .absent := by
  unfold sourceAfter
  split
  · next dev v heq => exact absurd heq (ha dev v)
  · rfl

/-- The connected half of the flags holds on every turn, USB answers included. -/
theorem Step.connected {h h' : Handler} {l : Arm × Answers} (hs : Step h l h')
    (hc : h.connections.eventsDevice.isSome = true → h.device.eventsConnected = true)
    (hd : h'.connections.eventsDevice.isSome = true) : h'.device.eventsConnected = true := by
  obtain ⟨arm, a⟩ := l
  obtain ⟨o, ht, hl, rfl⟩ := hs
  rcases turn_cases ht with ⟨dev, v, rfl, rfl⟩ | ⟨dev, rfl, rfl⟩ | ⟨rfl, rfl⟩ | ⟨rfl, rfl⟩ | ⟨-, hsame⟩
  · cases hstr : h.hasSensorStreams with
    | true =>
      have hsame := addEventsDevice_streaming h dev v a hstr
      rw [hsame.connections] at hd
      rw [hsame.eventsConnected]
      exact hc hd
    | false => rw [addEventsDevice_device h dev v a hstr]
  · rw [addControlDevice_eventsDevice] at hd
    by_cases hm : ∃ mode, a.getTransportMode = some (.ok mode)
    · obtain ⟨mode, hm⟩ := hm
      cases mode with
      | usb => exact (addControlDevice_usb h dev a hm).2.1
      | ble =>
        rw [(addControlDevice_ble h dev a hm hd).2.1]
        exact hc hd
    · rw [not_exists] at hm
      rw [(addControlDevice_unread h dev a hm).2.1]
      exact hc hd
  · rw [removeControlDevice_leave, Bool.not_eq_false'] at hl
    obtain ⟨-, hcon, hdev⟩ := removeControlDevice_stay hl
    rw [hcon] at hd
    rw [hdev]
    exact hc hd
  · rw [removeEventsDevice_eventsDevice] at hd
    cases hd
  · rw [hsame.connections] at hd
    rw [hsame.eventsConnected]
    exact hc hd

theorem SourcedStep.sourceOk (s : Handler × EventsSource) (l : Arm × Answers)
    (s' : Handler × EventsSource) (hi : SourceOk s) (hs : SourcedStep s l s') : SourceOk s' := by
  refine ⟨fun hsrc => ?_, hs.1.connected hi.connected⟩
  obtain ⟨hstep, hsrc'⟩ := hs
  rw [hsrc'] at hsrc
  by_cases ha : ∃ dev v, l.1 = .control (.addEventsDevice dev v)
  · obtain ⟨dev, v, ha⟩ := ha
    obtain ⟨arm, a⟩ := l
    subst ha
    obtain ⟨o, ht, -, ho⟩ := hstep
    have hoe : o = s.1.addEventsDevice dev v a := (Option.some.inj ht).symm
    subst hoe
    rw [← ho]
    cases hstr : s.1.hasSensorStreams with
    | true =>
      rw [(addEventsDevice_streaming s.1 dev v a hstr).connections]
      exact hi.present (by simpa [sourceAfter, hstr] using hsrc)
    | false => rw [addEventsDevice_eventsDevice s.1 dev v a hstr]; rfl
  · rw [sourceAfter_other (fun dev v hh => ha ⟨dev, v, hh⟩)] at hsrc
    split at hsrc
    · assumption
    · exact absurd rfl hsrc

/-! ## Unplugging USB -/

/-- `RemoveControlDevice` keeps the handler running on an events device that an
`AddEventsDevice` supplied. -/
def SurvivesUnplug (s : Handler × EventsSource) : Prop :=
  s.2 = .added → ∀ a, (s.1.control a .removeControlDevice).leave = false ∧
    (s.1.control a .removeControlDevice).handler.connections.eventsDevice =
      s.1.connections.eventsDevice

/-- An events device is taken only with `events_transport` Bluetooth, and no USB answer
to `AddControlDevice` arrives while one is in use. -/
def TakenOverBluetooth (s : Handler × EventsSource) (l : Arm × Answers) : Prop :=
  (∀ dev v, l.1 = .control (.addEventsDevice dev v) → s.1.hasSensorStreams = false →
    s.1.device.eventsTransport = .bluetooth) ∧
  (∀ dev, l.1 = .control (.addControlDevice dev) → l.2.getTransportMode = some (.ok .usb) →
    s.2 ≠ .added)

/-- The invariant behind `SurvivesUnplug`. -/
structure AddedIsBluetooth (s : Handler × EventsSource) : Prop where
  source : SourceOk s
  transport : s.2 = .added → s.1.device.eventsTransport = .bluetooth

/-- What the decision of `RemoveControlDevice` comes to for a supplied device. -/
theorem survivesUnplug_iff_transport {s : Handler × EventsSource} (hi : SourceOk s)
    (hsrc : s.2 = .added) : SurvivesUnplug s ↔ s.1.device.eventsTransport = .bluetooth := by
  have hd : s.1.connections.eventsDevice.isSome = true := hi.present (by rw [hsrc]; decide)
  have hind : s.1.hasIndependentBleEvents = (s.1.device.eventsTransport == .bluetooth) := by
    simp [hasIndependentBleEvents, hd, hi.connected hd]
  constructor
  · intro h
    have hl := (h hsrc {}).1
    simp only [control, removeControlDevice_leave, Bool.not_eq_false', hind] at hl
    exact beq_iff_eq.mp hl
  · intro ht _ a
    have hind' : s.1.hasIndependentBleEvents = true := by rw [hind, ht]; rfl
    obtain ⟨h1, h2, -⟩ := removeControlDevice_stay hind'
    exact ⟨h1, by rw [show (s.1.control a .removeControlDevice) = s.1.removeControlDevice from rfl, h2]⟩

theorem AddedIsBluetooth.survivesUnplug (s : Handler × EventsSource) (hi : AddedIsBluetooth s) :
    SurvivesUnplug s :=
  fun hsrc => (survivesUnplug_iff_transport hi.source hsrc).mpr (hi.transport hsrc) hsrc

theorem AtEntry.addedIsBluetooth {h : Handler} (he : AtEntry h) :
    AddedIsBluetooth (h, sourceAtEntry h) := by
  refine ⟨he.sourceOk, fun hsrc => ?_⟩
  simp only [sourceAtEntry] at hsrc
  split at hsrc <;> cases hsrc

theorem SourcedStep.addedIsBluetooth (s : Handler × EventsSource) (l : Arm × Answers)
    (s' : Handler × EventsSource) (hi : AddedIsBluetooth s) (hok : TakenOverBluetooth s l)
    (hs : SourcedStep s l s') : AddedIsBluetooth s' := by
  refine ⟨SourcedStep.sourceOk s l s' hi.source hs, fun hsrc => ?_⟩
  obtain ⟨⟨o, ht, hl, ho⟩, hsrc'⟩ := hs
  obtain ⟨arm, a⟩ := l
  rw [hsrc'] at hsrc
  rw [← ho] at hsrc ⊢
  rcases turn_cases ht with ⟨dev, v, rfl, rfl⟩ | ⟨dev, rfl, rfl⟩ | ⟨rfl, rfl⟩ | ⟨rfl, rfl⟩ | ⟨hm, hsame⟩
  · cases hstr : s.1.hasSensorStreams with
    | true =>
      rw [(addEventsDevice_streaming s.1 dev v a hstr).eventsTransport]
      exact hi.transport (by simpa [sourceAfter, hstr] using hsrc)
    | false =>
      rw [addEventsDevice_device s.1 dev v a hstr]
      exact hok.1 dev v rfl hstr
  · rw [sourceAfter_other (by simp), addControlDevice_eventsDevice] at hsrc
    split at hsrc
    · next hd =>
      by_cases hmode : ∃ mode, a.getTransportMode = some (.ok mode)
      · obtain ⟨mode, hmode⟩ := hmode
        cases mode with
        | usb => exact absurd hsrc (hok.2 dev rfl hmode)
        | ble => exact (addControlDevice_ble s.1 dev a hmode hd).2.2
      · rw [not_exists] at hmode
        rw [(addControlDevice_unread s.1 dev a hmode).2.2]
        exact hi.transport hsrc
    · cases hsrc
  · rw [removeControlDevice_leave, Bool.not_eq_false'] at hl
    obtain ⟨-, hc, hd⟩ := removeControlDevice_stay hl
    rw [sourceAfter_other (by simp)] at hsrc
    split at hsrc
    · rw [hd]
      exact hi.transport hsrc
    · cases hsrc
  · rw [sourceAfter_other (by simp), removeEventsDevice_eventsDevice] at hsrc
    cases hsrc
  · rw [sourceAfter_other (by rintro dev v rfl; cases hm _ rfl)] at hsrc
    split at hsrc
    · rw [hsame.eventsTransport]
      exact hi.transport hsrc
    · cases hsrc

/-- A step outside the condition ends in a state that does not survive the unplug. -/
theorem SourcedStep.takenOverBluetooth (s : Handler × EventsSource) (l : Arm × Answers)
    (s' : Handler × EventsSource) (hi : AddedIsBluetooth s) (hs : SourcedStep s l s')
    (hP : SurvivesUnplug s') : TakenOverBluetooth s l := by
  have hok' := SourcedStep.sourceOk s l s' hi.source hs
  obtain ⟨⟨o, ht, hl, ho⟩, hsrc'⟩ := hs
  obtain ⟨arm, a⟩ := l
  constructor
  · rintro dev v rfl hstr
    have hadd : s'.2 = .added := by
      rw [hsrc']
      simp [sourceAfter, hstr]
    have hoe : o = s.1.addEventsDevice dev v a := (Option.some.inj ht).symm
    have htr := (survivesUnplug_iff_transport hok' hadd).mp hP
    rw [← ho, hoe, addEventsDevice_device s.1 dev v a hstr] at htr
    exact htr
  · rintro dev rfl hmode hadd
    have hoe : o = s.1.addControlDevice dev a := (Option.some.inj ht).symm
    have hpres := hi.source.present (by rw [hadd]; decide)
    have hadd' : s'.2 = .added := by
      rw [hsrc', sourceAfter_other (by simp), ← ho, hoe, addControlDevice_eventsDevice, if_pos hpres]
      exact hadd
    have htr := (survivesUnplug_iff_transport hok' hadd').mp hP
    rw [← ho, hoe, (addControlDevice_usb s.1 dev a hmode).2.2] at htr
    cases htr

/-- **Unplugging USB.**  In every state of a run an events device supplied by
`AddEventsDevice` survives `RemoveControlDevice`, exactly when the run takes one only
with `events_transport` Bluetooth and gets no USB answer while it is in use. -/
theorem survivesUnplug_iff {h : Handler} {tr : List ((Arm × Answers) × (Handler × EventsSource))}
    (he : AtEntry h) (hrun : Exec SourcedStep (h, sourceAtEntry h) tr) :
    Always SurvivesUnplug (h, sourceAtEntry h) tr ↔
      StepsOk TakenOverBluetooth (h, sourceAtEntry h) tr :=
  hrun.always_iff AddedIsBluetooth.survivesUnplug SourcedStep.addedIsBluetooth
    SourcedStep.takenOverBluetooth he.addedIsBluetooth

theorem survivesUnplug_iff_sample :
    let h := ((muxHandler sampleMux 0 0).start {}).handler
    let tr := trace sourcedNext (h, sourceAtEntry h) [joinBle, plugUsb .ble]
    tr.length = 2 ∧ (Always SurvivesUnplug (h, sourceAtEntry h) tr ↔
      StepsOk TakenOverBluetooth (h, sourceAtEntry h) tr) :=
  ⟨by decide, survivesUnplug_iff (.mux sampleMux 0 0 {}) (exec_trace sourcedStep_of_next _ _)⟩

/-- A device whose transport mode could not be read is taken for a wired one; its streams do
not start, the dongle then supplies its events, and unplugging USB ends the handler. -/
theorem unplug_ends_ble_events :
    ¬ ∀ (h : Handler) (tr : List ((Arm × Answers) × (Handler × EventsSource))),
      AtEntry h → Exec SourcedStep (h, sourceAtEntry h) tr →
        Always SurvivesUnplug (h, sourceAtEntry h) tr := by
  intro hall
  have hfin := (hall _ _ (.usb (sampleUsb .usb) 0 {})
    (exec_trace sourcedStep_of_next _ [joinBle])).last
  exact absurd (hfin (by decide) {}).1 (by decide)

/-! ## Losing the BLE link -/

/-- `RemoveEventsDevice` leaves the handler running with its events device, its streams and
the EVENTS capability. -/
def KeepsEvents (h : Handler) (a : Answers) : Prop :=
  let o := h.control a .removeEventsDevice
  o.leave = false ∧
  o.handler.connections.eventsDevice = h.connections.eventsDevice ∧
  o.handler.sensorStreams = h.sensorStreams ∧
  o.handler.hasSensorStreams = h.hasSensorStreams ∧
  o.handler.device.capabilities.contains EVENTS = h.device.capabilities.contains EVENTS

theorem not_keepsEvents {h : Handler} (hd : h.connections.eventsDevice.isSome = true) (a : Answers) :
    ¬ KeepsEvents h a := by
  rintro ⟨-, hkeep, -⟩
  rw [show h.control a .removeEventsDevice = h.removeEventsDevice from rfl,
    removeEventsDevice_eventsDevice] at hkeep
  rw [← hkeep] at hd
  cases hd

/-- **Losing the BLE link.**  In no state of any run does `RemoveEventsDevice` keep the
direct-USB events device the handler was created with. -/
theorem removeEventsDevice_tears_down {h : Handler}
    {tr : List ((Arm × Answers) × (Handler × EventsSource))} (he : AtEntry h)
    (hrun : Exec SourcedStep (h, sourceAtEntry h) tr) :
    Always (fun s => s.2 = .direct → ∀ a, ¬ KeepsEvents s.1 a) (h, sourceAtEntry h) tr :=
  (hrun.invariant SourcedStep.sourceOk he.sourceOk).imp fun s hi hsrc a =>
    not_keepsEvents (hi.present (by rw [hsrc]; decide)) a

theorem removeEventsDevice_tears_down_sample :
    let h := ((usbHandler (sampleUsb .usb) 0).start streaming).handler
    let tr := trace sourcedNext (h, sourceAtEntry h) [joinBle]
    (last (h, sourceAtEntry h) tr).2 = .direct ∧
      Always (fun s => s.2 = .direct → ∀ a, ¬ KeepsEvents s.1 a) (h, sourceAtEntry h) tr :=
  ⟨by decide, removeEventsDevice_tears_down (.usb (sampleUsb .usb) 0 streaming)
    (exec_trace sourcedStep_of_next _ _)⟩

/-- A wired device streams, the dongle's `AddEventsDevice` is ignored, and the matching
`RemoveEventsDevice` takes the wired events device away. -/
theorem ble_loss_tears_down_wired :
    ¬ ∀ (h : Handler) (tr : List ((Arm × Answers) × (Handler × EventsSource))),
      AtEntry h → Exec SourcedStep (h, sourceAtEntry h) tr →
        Always (fun s => s.2 = .direct → ∀ a, KeepsEvents s.1 a) (h, sourceAtEntry h) tr := by
  intro hall
  have hfin := (hall _ _ (.usb (sampleUsb .usb) 0 streaming)
    (exec_trace sourcedStep_of_next _ [joinBle])).last
  exact absurd (hfin (by decide) {}).2.1 (by decide)

end Handler

end OdysseyHub
