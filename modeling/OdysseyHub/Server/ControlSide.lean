import OdysseyHub.Desktop.FirmwareOffer
import OdysseyHub.Server.HandlerEvents

/-!
# The control side of a handler

`ControlSide` ties the control device of a handler to what it publishes: CONTROL and
`Transport::Usb` exactly with a control device, DFU only with CONTROL.  Four messages
touch any of these fields; the step lemma takes them one by one and the frame
(`SameLinks`) covers every other turn.

    AtEntry h → Exec Step h tr → Always ControlSide h tr        (controlSide_always)

The clients take a device with DFU and without CONTROL for one stuck in its bootloader
(`isDfuBootloader`); no device of a handler looks like that.
-/

namespace OdysseyHub

open Transition
open DeviceCapabilities (CONTROL EVENTS DFU contains_insert_self contains_insert_of_disjoint
  contains_remove_self contains_remove_of_disjoint)

namespace Handler

/-- A control device is there iff CONTROL is published iff the transport is USB, and DFU
comes with CONTROL. -/
structure ControlSide (h : Handler) : Prop where
  connection : h.connections.controlDevice.isSome = h.device.capabilities.contains CONTROL
  transport : h.device.capabilities.contains CONTROL = true ↔ h.device.transport = .usb
  bootloader : h.device.capabilities.contains DFU = true →
    h.device.capabilities.contains CONTROL = true

theorem SameLinks.transport_eq {h h' : Handler} (s : SameLinks h h') :
    h'.device.transport = h.device.transport :=
  s.keeps (·.transport) fun _ _ => rfl

theorem ControlSide.of_sameLinks {h h' : Handler} (s : SameLinks h h') (c : ControlSide h) :
    ControlSide h' :=
  ⟨by rw [s.connections, s.capabilities]; exact c.connection,
    by rw [s.capabilities, s.transport_eq]; exact c.transport,
    by rw [s.capabilities]; exact c.bootloader⟩

/-- The clients do not take the device for one stuck in its bootloader. -/
theorem ControlSide.not_isDfuBootloader {h : Handler} (c : ControlSide h) :
    isDfuBootloader h.device = false := by
  unfold isDfuBootloader
  cases hd : h.device.capabilities.contains DFU with
  | false => rfl
  | true => rw [c.bootloader hd]; rfl

/-! ## The two constructions -/

/-- EVENTS and DFU are added to CONTROL, never taken from it. -/
theorem usbHandler_control (p : UsbProbe) (ms : UInt32) :
    (usbHandler p ms).device.capabilities.contains CONTROL = true := by
  have hc : (DeviceCapabilities.mk CONTROL).contains CONTROL = true := by decide
  simp only [usbHandler, usbDeviceMeta]
  cases p.transportMode <;> cases p.hasDfuInterface <;>
    simp (disch := decide) [contains_insert_of_disjoint, hc]

theorem usbHandler_controlSide (p : UsbProbe) (ms : UInt32) : ControlSide (usbHandler p ms) := by
  have hc := usbHandler_control p ms
  exact ⟨hc.symm, iff_of_true hc rfl, fun _ => hc⟩

theorem muxHandler_controlSide (p : MuxProbe) (hub : Nat) (ms : UInt32) :
    ControlSide (muxHandler p hub ms) := by
  have hc : (muxHandler p hub ms).device.capabilities.contains CONTROL = false :=
    (by decide : DeviceCapabilities.empty.contains CONTROL = false)
  have hd : (muxHandler p hub ms).device.capabilities.contains DFU = false :=
    (by decide : DeviceCapabilities.empty.contains DFU = false)
  refine ⟨hc.symm, ?_, fun h => absurd (hd.symm.trans h) Bool.false_ne_true⟩
  rw [hc]
  exact iff_of_false Bool.false_ne_true (by simp [muxHandler, muxDeviceMeta])

theorem AtEntry.controlSide {h : Handler} (he : AtEntry h) : ControlSide h := by
  cases he with
  | usb p ms a => exact (usbHandler_controlSide p ms).of_sameLinks (start_sameLinks _ a)
  | mux p hub ms a => exact (muxHandler_controlSide p hub ms).of_sameLinks (start_sameLinks _ a)

/-! ## The link messages -/

theorem addEventsDevice_controlSide {h : Handler} (c : ControlSide h) (dev : VmDevice) (v : Version)
    (a : Answers) : ControlSide (h.addEventsDevice dev v a).handler := by
  cases hs : h.hasSensorStreams with
  | true => exact c.of_sameLinks (addEventsDevice_streaming h dev v a hs)
  | false =>
    have hd := addEventsDevice_device h dev v a hs
    have hcap : ∀ flag, EVENTS &&& flag = 0 →
        (h.addEventsDevice dev v a).handler.device.capabilities.contains flag =
          h.device.capabilities.contains flag := by
      intro flag hf
      rw [hd]
      exact contains_insert_of_disjoint _ hf
    refine ⟨?_, ?_, ?_⟩
    · rw [addEventsDevice_controlDevice, hcap CONTROL (by decide)]
      exact c.connection
    · rw [hcap CONTROL (by decide), hd]
      exact c.transport
    · rw [hcap CONTROL (by decide), hcap DFU (by decide)]
      exact c.bootloader

/-- Whatever the device answers, `AddControlDevice` ends with CONTROL over USB. -/
theorem addControlDevice_controlSide (h : Handler) (dev : VmDevice) (a : Answers) :
    ControlSide (h.addControlDevice dev a).handler := by
  have hc : (h.addControlDevice dev a).handler.device.capabilities.contains CONTROL = true :=
    contains_insert_self _ CONTROL
  exact ⟨hc.symm, iff_of_true hc rfl, fun _ => hc⟩

theorem removeControlDevice_controlSide {h : Handler} (hl : h.removeControlDevice.leave = false) :
    ControlSide h.removeControlDevice.handler := by
  rw [removeControlDevice_leave, Bool.not_eq_false'] at hl
  obtain ⟨-, hcon, hdev⟩ := removeControlDevice_stay hl
  have hc : h.removeControlDevice.handler.device.capabilities.contains CONTROL = false := by
    rw [hdev]
    simp (disch := decide) only [contains_remove_of_disjoint, contains_remove_self]
  have hd : h.removeControlDevice.handler.device.capabilities.contains DFU = false := by
    rw [hdev]
    exact contains_remove_self _ (by decide)
  refine ⟨?_, ?_, fun hdfu => absurd (hd.symm.trans hdfu) Bool.false_ne_true⟩
  · rw [hc, hcon]
    rfl
  · rw [hc, hdev]
    exact iff_of_false Bool.false_ne_true (by simp)

/-- A handler that stays without events device keeps its control device; a `UsbMux`
transport would be turned into USB. -/
theorem removeEventsDevice_stay {h : Handler} (hl : h.removeEventsDevice.leave = false) :
    h.connections.controlDevice.isSome = true ∧
    h.removeEventsDevice.handler.device.capabilities = h.device.capabilities.remove EVENTS ∧
    (h.device.transport = .usb → h.removeEventsDevice.handler.device.transport = .usb) := by
  rw [removeEventsDevice_leave] at hl
  have hc : h.connections.controlDevice.isSome = true := by simpa using hl
  refine ⟨hc, ?_⟩
  simp only [removeEventsDevice, hc, if_true]
  split
  · exact ⟨rfl, fun _ => rfl⟩
  · exact ⟨rfl, id⟩

theorem removeEventsDevice_controlSide {h : Handler} (c : ControlSide h)
    (hl : h.removeEventsDevice.leave = false) : ControlSide h.removeEventsDevice.handler := by
  obtain ⟨hcon, hcap, htr⟩ := removeEventsDevice_stay hl
  have hold : h.device.capabilities.contains CONTROL = true := c.connection ▸ hcon
  have hc : h.removeEventsDevice.handler.device.capabilities.contains CONTROL = true := by
    rw [hcap, contains_remove_of_disjoint _ (by decide)]
    exact hold
  refine ⟨?_, iff_of_true hc (htr (c.transport.mp hold)), fun _ => hc⟩
  rw [removeEventsDevice_controlDevice, hcon, hc]

/-! ## Runs -/

theorem Step.controlSide (h : Handler) (l : Arm × Answers) (h' : Handler) (c : ControlSide h)
    (hs : Step h l h') : ControlSide h' := by
  obtain ⟨arm, a⟩ := l
  obtain ⟨o, ht, hl, rfl⟩ := hs
  rcases turn_cases ht with ⟨dev, v, rfl, rfl⟩ | ⟨dev, rfl, rfl⟩ | ⟨rfl, rfl⟩ | ⟨rfl, rfl⟩ | ⟨-, hsame⟩
  · exact addEventsDevice_controlSide c dev v a
  · exact addControlDevice_controlSide h dev a
  · exact removeControlDevice_controlSide hl
  · exact removeEventsDevice_controlSide c hl
  · exact c.of_sameLinks hsame

/-- **The control side.**  Throughout every run of the loop, from either construction, the
control device, CONTROL and the USB transport go together, DFU comes with them, and the
device is not taken for one stuck in its bootloader. -/
theorem controlSide_always {h : Handler} {tr : List ((Arm × Answers) × Handler)} (he : AtEntry h)
    (hrun : Exec Step h tr) :
    Always (fun h => ControlSide h ∧ isDfuBootloader h.device = false) h tr :=
  (hrun.invariant Step.controlSide he.controlSide).imp fun _ c => ⟨c, c.not_isDfuBootloader⟩

/-- A wired device is taken over by the dongle and unplugged, then plugged in again. -/
theorem controlSide_always_sample :
    let h := ((usbHandler (sampleUsb .ble) 0).start {}).handler
    let tr := trace next h [joinBle, (.control .removeControlDevice, {}), plugUsb .ble,
      (.control .removeEventsDevice, {})]
    tr.length = 4 ∧ Always (fun h => ControlSide h ∧ isDfuBootloader h.device = false) h tr :=
  ⟨by decide, controlSide_always (.usb (sampleUsb .ble) 0 {}) (exec_trace step_of_next _ _)⟩

end Handler

end OdysseyHub
