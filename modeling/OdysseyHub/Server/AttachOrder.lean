import OdysseyHub.Server.HandlerEvents
import OdysseyHub.Server.StreamTurn

/-!
# The order of the two attachments

A device in BLE mode is attached over USB and over a dongle, in one of two orders:

    USB first:  usbHandler, then AddEventsDevice                         (usbFirst_attached)
    BLE first:  muxHandler, then AddEventsDevice and AddControlDevice    (bleFirst_attached)

with any other turns of the loop in between.  The two published devices agree exactly
when the device has no DFU interface (`attachOrder_iff`): only the construction of a
direct-USB handler looks for one.
-/

namespace OdysseyHub

open Transition
open DeviceCapabilities (CONTROL EVENTS DFU)

namespace Handler

/-! ## Runs and their link messages -/

def linkMessage? : Arm → Option DeviceTaskMessage
  | .control m => if m.isLink then some m else none
  | _ => none

theorem linkMessage?_eq_some {arm : Arm} {m : DeviceTaskMessage} (h : linkMessage? arm = some m) :
    arm = .control m := by
  unfold linkMessage? at h
  split at h
  · split at h
    · rw [Option.some.inj h]
    · cases h
  · cases h

/-- The link messages a run handles, in order. -/
def linkMessages (tr : List ((Arm × Answers) × Handler)) : List DeviceTaskMessage :=
  tr.filterMap fun e => linkMessage? e.1.1

theorem SameLinks.trans {h h' h'' : Handler} (s : SameLinks h h') (s' : SameLinks h' h'') :
    SameLinks h h'' := by
  obtain ⟨name, hn⟩ := s.device
  obtain ⟨name', hn'⟩ := s'.device
  exact ⟨s'.connections.trans s.connections, name', by rw [hn', hn]⟩

theorem SameLinks.transport {h h' : Handler} (s : SameLinks h h') :
    h'.device.transport = h.device.transport :=
  s.keeps (·.transport) fun _ _ => rfl

/-- A turn on anything but a link message. -/
theorem Step.sameLinks {h h' : Handler} {l : Arm × Answers} (hs : Step h l h')
    (hl : linkMessage? l.1 = none) : SameLinks h h' := by
  obtain ⟨arm, a⟩ := l
  obtain ⟨o, ht, -, rfl⟩ := hs
  rcases turn_cases ht with ⟨dev, v, rfl, -⟩ | ⟨dev, rfl, -⟩ | ⟨rfl, -⟩ | ⟨rfl, -⟩ | ⟨-, hsame⟩
  · cases hl
  · cases hl
  · cases hl
  · cases hl
  · exact hsame

theorem Step.streamsBacked {h h' : Handler} {l : Arm × Answers} (hs : Step h l h')
    (hb : StreamsBacked h) : StreamsBacked h' := by
  obtain ⟨o, ht, hl, rfl⟩ := hs
  exact hb.turn ht hl

/-- Between link messages the links stay. -/
theorem links_nil {h : Handler} {tr : List ((Arm × Answers) × Handler)} (hrun : Exec Step h tr)
    (hl : linkMessages tr = []) : SameLinks h (last h tr) := by
  induction hrun with
  | nil h => exact .refl h
  | cons hs _ ih =>
    simp only [linkMessages, List.filterMap_cons] at hl
    split at hl
    · next hnone => exact (hs.sameLinks hnone).trans (ih hl)
    · cases hl

/-- A run up to its first link message, and the run from there. -/
theorem links_cons {ok : Handler → Arm × Answers → Prop} {m : DeviceTaskMessage}
    {ms : List DeviceTaskMessage} {h : Handler} {tr : List ((Arm × Answers) × Handler)}
    (hrun : Exec Step h tr) (hb : StreamsBacked h) (hok : StepsOk ok h tr)
    (hl : linkMessages tr = m :: ms) :
    ∃ h1 a h2 tr', SameLinks h h1 ∧ StreamsBacked h1 ∧ ok h1 (.control m, a) ∧
      Step h1 (.control m, a) h2 ∧ StreamsBacked h2 ∧ Exec Step h2 tr' ∧ StepsOk ok h2 tr' ∧
      linkMessages tr' = ms ∧ last h2 tr' = last h tr := by
  induction hrun with
  | nil h => cases hl
  | @cons h h' l tr hs hrest ih =>
    have hb' := hs.streamsBacked hb
    rw [stepsOk_cons] at hok
    simp only [linkMessages, List.filterMap_cons] at hl
    split at hl
    · next hnone =>
      obtain ⟨h1, a, h2, tr', hsame, hrest⟩ := ih hb' hok.2 hl
      exact ⟨h1, a, h2, tr', (hs.sameLinks hnone).trans hsame, hrest⟩
    · next m' hm =>
      obtain ⟨arm, a⟩ := l
      obtain ⟨rfl, rfl⟩ : m' = m ∧ _ = ms := List.cons.inj hl
      obtain rfl : arm = .control m' := linkMessage?_eq_some hm
      exact ⟨h, a, h', tr, .refl h, hb, hok.1, hs, hb', hrest, hok.2, rfl, rfl⟩

/-! ## What is published at the end -/

/-- The fields of the published device that tell how it is attached. -/
structure Attached (caps : DeviceCapabilities) (d : Device) : Prop where
  capabilities : d.capabilities = caps
  transport : d.transport = .usb
  eventsTransport : d.eventsTransport = .bluetooth
  eventsConnected : d.eventsConnected = true

theorem Attached.of_sameLinks {h h' : Handler} {caps : DeviceCapabilities} (s : SameLinks h h')
    (hd : Attached caps h.device) : Attached caps h'.device :=
  ⟨s.capabilities.trans hd.capabilities, s.transport.trans hd.transport,
    s.eventsTransport.trans hd.eventsTransport, s.eventsConnected.trans hd.eventsConnected⟩

/-- Two devices that are attached in the same way, as far as their clients can see. -/
def SameAttachment (d d' : Device) : Prop :=
  d.capabilities = d'.capabilities ∧ d.transport = d'.transport ∧
    d.eventsTransport = d'.eventsTransport ∧ d.eventsConnected = d'.eventsConnected

/-- Every read of an `AddControlDevice` succeeds, and the device is in BLE mode. -/
def ReadsBle (_ : Handler) (l : Arm × Answers) : Prop :=
  ∀ dev, l.1 = .control (.addControlDevice dev) →
    (∃ v, l.2.readVersion = some (.ok v)) ∧ l.2.getTransportMode = some (.ok .ble)

/-- Without an events device there is no stream, so `AddEventsDevice` takes effect. -/
theorem Step.addEventsDevice {h h' : Handler} {dev : VmDevice} {v : Version} {a : Answers}
    (hs : Step h (.control (.addEventsDevice dev v), a) h') (hb : StreamsBacked h)
    (hnone : h.connections.eventsDevice = none) :
    h'.device = { h.device with
        capabilities := h.device.capabilities.insert EVENTS, eventsConnected := true } ∧
      h'.connections.eventsDevice = some dev := by
  obtain ⟨o, ht, -, rfl⟩ := hs
  obtain rfl : h.addEventsDevice dev v a = o := Option.some.inj ht
  have hstr : h.hasSensorStreams = false := by
    rw [← Bool.not_eq_true]
    intro hstr
    have := hb hstr
    rw [hnone] at this
    cases this
  exact ⟨addEventsDevice_device h dev v a hstr, addEventsDevice_eventsDevice h dev v a hstr⟩

/-- A BLE answer to a handler with an events device sets CONTROL and the two transports. -/
theorem Step.addControlDevice {h h' : Handler} {dev : VmDevice} {a : Answers}
    (hs : Step h (.control (.addControlDevice dev), a) h')
    (hm : a.getTransportMode = some (.ok .ble)) (he : h.connections.eventsDevice.isSome = true) :
    h'.device.capabilities = h.device.capabilities.insert CONTROL ∧ h'.device.transport = .usb ∧
      h'.device.eventsTransport = .bluetooth ∧
      h'.device.eventsConnected = h.device.eventsConnected := by
  obtain ⟨o, ht, -, rfl⟩ := hs
  obtain rfl : h.addControlDevice dev a = o := Option.some.inj ht
  simp [Handler.addControlDevice, hm, he, refreshTransportMode]

section
variable {dev dev' control : VmDevice} {v v' : Version} {tr tr' : List ((Arm × Answers) × Handler)}

theorem usbFirst_attached (p : UsbProbe) (hble : p.transportMode = .ble) (ms : UInt32) (a : Answers)
    (hrun : Exec Step ((usbHandler p ms).start a).handler tr)
    (hl : linkMessages tr = [.addEventsDevice dev v]) :
    Attached ((usbDeviceMeta p).capabilities.insert EVENTS)
      (last ((usbHandler p ms).start a).handler tr).device := by
  have hstart := start_sameLinks (usbHandler p ms) a
  obtain ⟨h1, a1, h2, tr2, hsame, hb, -, hs, -, hrun2, -, hl2, hlast⟩ :=
    links_cons hrun (start_streamsBacked _ a) (stepsOk_true _ _) hl
  have hsame' := hstart.trans hsame
  have hnone : h1.connections.eventsDevice = none := by
    rw [hsame'.connections]
    simp [usbHandler, hble]
  have hd := (hs.addEventsDevice hb hnone).1
  rw [← hlast]
  refine Attached.of_sameLinks (links_nil hrun2 hl2) ?_
  rw [hd]
  exact ⟨by rw [hsame'.capabilities]; rfl, hsame'.transport,
    by rw [hsame'.eventsTransport]; simp [usbHandler, usbDeviceMeta, hble], rfl⟩

theorem bleFirst_attached (q : MuxProbe) (hub : Nat) (ms : UInt32) (a : Answers)
    (hrun : Exec Step ((muxHandler q hub ms).start a).handler tr)
    (hl : linkMessages tr = [.addEventsDevice dev v, .addControlDevice control])
    (hok : StepsOk ReadsBle ((muxHandler q hub ms).start a).handler tr) :
    Attached ((DeviceCapabilities.empty.insert EVENTS).insert CONTROL)
      (last ((muxHandler q hub ms).start a).handler tr).device := by
  have hstart := start_sameLinks (muxHandler q hub ms) a
  obtain ⟨h1, a1, h2, tr2, hsame, hb, -, hs, hb2, hrun2, hok2, hl2, hlast⟩ :=
    links_cons hrun (start_streamsBacked _ a) hok hl
  have hsame' := hstart.trans hsame
  have hnone : h1.connections.eventsDevice = none := by
    rw [hsame'.connections]
    rfl
  obtain ⟨hd, hev⟩ := hs.addEventsDevice hb hnone
  obtain ⟨h3, a3, h4, tr4, hsame3, -, hreads, hs3, -, hrun4, -, hl4, hlast4⟩ :=
    links_cons hrun2 hb2 hok2 hl2
  have hev3 : h3.connections.eventsDevice.isSome = true := by
    rw [hsame3.connections, hev]
    rfl
  obtain ⟨hc, ht, het, hec⟩ := hs3.addControlDevice (hreads control rfl).2 hev3
  rw [← hlast, ← hlast4]
  refine Attached.of_sameLinks (links_nil hrun4 hl4) ⟨?_, ht, het, ?_⟩
  · rw [hc, hsame3.capabilities, hd]
    show (h1.device.capabilities.insert EVENTS).insert CONTROL = _
    rw [hsame'.capabilities]
    rfl
  · rw [hec, hsame3.eventsConnected, hd]

/-- **Attach order.**  For a device in BLE mode the two orders publish the same attachment
exactly when the device exposes no DFU interface. -/
theorem attachOrder_iff (p : UsbProbe) (hble : p.transportMode = .ble) (q : MuxProbe) (hub : Nat)
    (ms ms' : UInt32) (a a' : Answers)
    (hrun : Exec Step ((usbHandler p ms).start a).handler tr)
    (hl : linkMessages tr = [.addEventsDevice dev v])
    (hrun' : Exec Step ((muxHandler q hub ms').start a').handler tr')
    (hl' : linkMessages tr' = [.addEventsDevice dev' v', .addControlDevice control])
    (hok : StepsOk ReadsBle ((muxHandler q hub ms').start a').handler tr') :
    SameAttachment (last ((usbHandler p ms).start a).handler tr).device
        (last ((muxHandler q hub ms').start a').handler tr').device
      ↔ p.hasDfuInterface = false := by
  have hu := usbFirst_attached p hble ms a hrun hl
  have hb := bleFirst_attached q hub ms' a' hrun' hl' hok
  have hcaps : (usbDeviceMeta p).capabilities.insert EVENTS
      = (DeviceCapabilities.empty.insert EVENTS).insert CONTROL ↔ p.hasDfuInterface = false := by
    cases hdfu : p.hasDfuInterface with
    | true => simp [usbDeviceMeta, hble, hdfu]; decide
    | false => simp [usbDeviceMeta, hble, hdfu]; decide
  rw [← hcaps]
  constructor
  · intro hsame
    rw [← hu.capabilities, ← hb.capabilities]
    exact hsame.1
  · intro hc
    refine ⟨?_, hu.transport.trans hb.transport.symm,
      hu.eventsTransport.trans hb.eventsTransport.symm,
      hu.eventsConnected.trans hb.eventsConnected.symm⟩
    rw [hu.capabilities, hb.capabilities, hc]

end

/-- `AddControlDevice` over USB, the device in BLE mode and every read answered. -/
def plugBle : Arm × Answers :=
  (.control (.addControlDevice ⟨.usb, 2⟩),
    { readVersion := some (.ok (Version.of 0 2 0)), getTransportMode := some (.ok .ble) })

/-- The USB-first run of the sample device. -/
def sampleUsbFirst : List ((Arm × Answers) × Handler) :=
  trace next ((usbHandler (sampleUsb .ble) 0).start {}).handler [joinBle]

/-- The BLE-first run of the sample device. -/
def sampleBleFirst : List ((Arm × Answers) × Handler) :=
  trace next ((muxHandler sampleMux 0 0).start {}).handler [joinBle, plugBle]

theorem sampleBleFirst_reads :
    StepsOk ReadsBle ((muxHandler sampleMux 0 0).start {}).handler sampleBleFirst := by
  refine ⟨fun dev h => ?_, fun dev h => ⟨⟨_, rfl⟩, rfl⟩, trivial⟩
  cases h

theorem attachOrder_iff_sample :
    SameAttachment (last ((usbHandler (sampleUsb .ble) 0).start {}).handler sampleUsbFirst).device
        (last ((muxHandler sampleMux 0 0).start {}).handler sampleBleFirst).device
      ↔ (sampleUsb .ble).hasDfuInterface = false :=
  attachOrder_iff (sampleUsb .ble) rfl sampleMux 0 0 0 {} {} (exec_trace step_of_next _ _) (by rfl)
    (exec_trace step_of_next _ _) (by rfl) sampleBleFirst_reads

/-- Attached over USB first, the sample device has DFU; attached over the dongle first, it
has not. -/
theorem dfu_depends_on_order :
    ¬ SameAttachment (last ((usbHandler (sampleUsb .ble) 0).start {}).handler sampleUsbFirst).device
        (last ((muxHandler sampleMux 0 0).start {}).handler sampleBleFirst).device := by
  rintro ⟨hcaps, -⟩
  exact absurd hcaps (by decide)

end Handler

end OdysseyHub
