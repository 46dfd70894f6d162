import OdysseyHub.Server.Handler

/-!
# What a turn of the handler can do

One lemma a message, so that invariants need not open `Handler.turn` again.
`SameLinks` is the frame: a turn on anything but the four link messages leaves the
connections and, apart from its name, the published device as they are
(`control_sameLinks`, `turn_cases`); it leaves the loop only to reboot for
`SetTransportMode` or because every sender is gone (`turn_leave`).
-/

namespace OdysseyHub

open DeviceCapabilities (CONTROL EVENTS DFU)

namespace Handler

/-- `h'` has the connections of `h` and publishes the same device but for its name. -/
structure SameLinks (h h' : Handler) : Prop where
  connections : h'.connections = h.connections
  device : ∃ name, h'.device = { h.device with name := name }

theorem SameLinks.of_eq {h h' : Handler} (hc : h'.connections = h.connections)
    (hd : h'.device = h.device) : SameLinks h h' :=
  ⟨hc, h.device.name, hd⟩

theorem SameLinks.refl (h : Handler) : SameLinks h h := .of_eq rfl rfl

section
variable {h h' : Handler} (s : SameLinks h h')
include s

/-- What does not read the name is kept. -/
theorem SameLinks.keeps {α : Type*} (f : Device → α)
    (hf : ∀ (d : Device) (name : Vector UInt8 33), f { d with name := name } = f d) :
    f h'.device = f h.device := by
  obtain ⟨name, hn⟩ := s.device
  rw [hn]
  exact hf h.device name

theorem SameLinks.uuid : h'.device.uuid = h.device.uuid := s.keeps (·.uuid) fun _ _ => rfl

theorem SameLinks.capabilities : h'.device.capabilities = h.device.capabilities :=
  s.keeps (·.capabilities) fun _ _ => rfl

theorem SameLinks.eventsConnected : h'.device.eventsConnected = h.device.eventsConnected :=
  s.keeps (·.eventsConnected) fun _ _ => rfl

theorem SameLinks.eventsTransport : h'.device.eventsTransport = h.device.eventsTransport :=
  s.keeps (·.eventsTransport) fun _ _ => rfl

end

/-! ## Helpers of the arms -/

@[simp] theorem pauseStreams_connections (h : Handler) (dev : VmDevice) :
    (h.pauseStreams dev).1.connections = h.connections := by
  unfold pauseStreams; split <;> rfl

@[simp] theorem pauseStreams_device (h : Handler) (dev : VmDevice) :
    (h.pauseStreams dev).1.device = h.device := by
  unfold pauseStreams; split <;> rfl

@[simp] theorem armResume_connections (h : Handler) : h.armResume.connections = h.connections := by
  unfold armResume; split <;> rfl

@[simp] theorem armResume_device (h : Handler) : h.armResume.device = h.device := by
  unfold armResume; split <;> rfl

theorem batchAccess_sameLinks (h : Handler) (dev : VmDevice) (request : DeviceCall) (r : Reply) :
    SameLinks h (h.batchAccess dev request r).handler :=
  .of_eq (by simp [batchAccess]) (by simp [batchAccess])

theorem restartStreams_sameLinks (h : Handler) (dev : VmDevice) (a : Answers) :
    SameLinks h (h.restartStreams dev a).handler := .of_eq rfl rfl

/-! ## The messages that are not about the links -/

theorem Asked.frame {h : Handler} {b : Bool} {o : Outcome} (hq : Asked h b o) :
    SameLinks h o.handler ∧ o.leave = false := by
  cases hq with
  | replied r => exact ⟨.refl h, rfl⟩
  | batched r hdev hr => exact ⟨batchAccess_sameLinks h _ _ _, rfl⟩
  | plain dev r hr => exact ⟨.refl h, rfl⟩

theorem setDeviceName_frame (h : Handler) (name : String) (a : Answers) :
    SameLinks h (h.setDeviceName name a).handler ∧ (h.setDeviceName name a).leave = false := by
  unfold setDeviceName
  dsimp only
  split
  · exact ⟨⟨rfl, Device.nameBytes name, rfl⟩, rfl⟩
  · exact ⟨.refl h, rfl⟩

/-- Every message but the four about the links keeps the links. -/
theorem control_sameLinks (h : Handler) (a : Answers) {m : DeviceTaskMessage} (hm : m.isLink = false) :
    SameLinks h (h.control a m).handler := by
  cases m with
  | resetZero | saveZero | setShotDelay | clearZero => exact .refl h
  | writeVendor tag data =>
    simp only [control, writeVendor]
    split <;> exact .refl h
  | zero t p te =>
    simp only [control, zero]
    split <;> exact .refl h
  | readRegister | writeRegister | readConfig | writeConfig | flashSettings | cancelPairing | clearBond =>
    exact (control_asked h a rfl).frame.1
  | startPairing t =>
    simp only [control, startPairing]
    split <;> exact .refl h
  | setTransportMode u =>
    simp only [control, setTransportMode]
    split <;> exact .refl h
  | setDeviceName name => exact (setDeviceName_frame h name a).1
  | addEventsDevice | addControlDevice | removeControlDevice | removeEventsDevice => cases hm

/-- Of these messages only `SetTransportMode` leaves the loop, and only with a control device. -/
theorem control_leave (h : Handler) (a : Answers) {m : DeviceTaskMessage} (hm : m.isLink = false)
    (hl : (h.control a m).leave = true) :
    (∃ u, m = .setTransportMode u) ∧ h.connections.controlDevice.isSome = true := by
  cases m with
  | resetZero | saveZero | setShotDelay | clearZero => cases hl
  | writeVendor tag data =>
    simp only [control, writeVendor] at hl
    split at hl <;> cases hl
  | zero t p te =>
    simp only [control, zero] at hl
    split at hl <;> cases hl
  | readRegister | writeRegister | readConfig | writeConfig | flashSettings | cancelPairing | clearBond =>
    exact absurd ((control_asked h a rfl).frame.2.symm.trans hl) Bool.false_ne_true
  | startPairing t =>
    simp only [control, startPairing] at hl
    split at hl <;> cases hl
  | setTransportMode u =>
    refine ⟨⟨u, rfl⟩, ?_⟩
    simp only [control, setTransportMode] at hl
    split at hl
    · next dev hdev => rw [hdev]; rfl
    · cases hl
  | setDeviceName name =>
    exact absurd ((setDeviceName_frame h name a).2.symm.trans hl) Bool.false_ne_true
  | addEventsDevice | addControlDevice | removeControlDevice | removeEventsDevice => cases hm

/-! ## The other arms -/

/-- Timers, streams and the shot-delay watch keep the links and stay in the loop. -/
theorem turn_timer {h : Handler} {arm : Arm} {a : Answers} {o : Outcome} (ht : h.turn arm a = some o)
    (hc : ∀ m, arm ≠ .control m) : SameLinks h o.handler ∧ (o.leave = true → arm = .closed) := by
  cases arm with
  | control m => exact absurd rfl (hc m)
  | closed =>
    cases ht
    exact ⟨.refl h, fun _ => rfl⟩
  | shotDelay ms =>
    cases ht
    exact ⟨.of_eq rfl rfl, fun hl => by cases hl⟩
  | resume =>
    simp only [turn] at ht
    split at ht
    · split at ht
      · cases ht
        exact ⟨.of_eq rfl rfl, fun hl => by cases hl⟩
      · cases ht
        exact ⟨.of_eq rfl rfl, fun hl => by cases hl⟩
    · cases ht
  | retry =>
    simp only [turn] at ht
    split at ht
    · cases ht
      exact ⟨restartStreams_sameLinks h _ a, fun hl => by cases hl⟩
    · cases ht
  | stream kind =>
    simp only [turn] at ht
    split at ht
    · cases ht
      exact ⟨.refl h, fun hl => by cases hl⟩
    · cases ht
  | streamsEnded =>
    simp only [turn] at ht
    split at ht
    · cases ht
      exact ⟨.of_eq rfl rfl, fun hl => by cases hl⟩
    · cases ht

/-- **What a turn can do to the links**: it handles one of the four link messages,
or it keeps them. -/
theorem turn_cases {h : Handler} {arm : Arm} {a : Answers} {o : Outcome} (ht : h.turn arm a = some o) :
    (∃ dev v, arm = .control (.addEventsDevice dev v) ∧ o = h.addEventsDevice dev v a) ∨
    (∃ dev, arm = .control (.addControlDevice dev) ∧ o = h.addControlDevice dev a) ∨
    (arm = .control .removeControlDevice ∧ o = h.removeControlDevice) ∨
    (arm = .control .removeEventsDevice ∧ o = h.removeEventsDevice) ∨
    ((∀ m, arm = .control m → m.isLink = false) ∧ SameLinks h o.handler) := by
  by_cases hc : ∃ m, arm = .control m
  · obtain ⟨m, rfl⟩ := hc
    have ho : o = h.control a m := (Option.some.inj ht).symm
    cases hm : m.isLink with
    | false =>
      refine .inr (.inr (.inr (.inr ⟨?_, ho ▸ control_sameLinks h a hm⟩)))
      rintro m' ⟨⟩
      exact hm
    | true =>
      cases m with
      | addEventsDevice dev v => exact .inl ⟨dev, v, rfl, ho⟩
      | addControlDevice dev => exact .inr (.inl ⟨dev, rfl, ho⟩)
      | removeControlDevice => exact .inr (.inr (.inl ⟨rfl, ho⟩))
      | removeEventsDevice => exact .inr (.inr (.inr (.inl ⟨rfl, ho⟩)))
      | _ => cases hm
  · rw [not_exists] at hc
    exact .inr (.inr (.inr (.inr ⟨fun m hm => absurd hm (hc m), (turn_timer ht hc).1⟩)))

/-! ## The link messages, field by field -/

section
variable (h : Handler) (dev : VmDevice) (v : Version) (a : Answers)

/-- A redundant `AddEventsDevice` changes the protocol version at most. -/
theorem addEventsDevice_streaming (hs : h.hasSensorStreams = true) :
    SameLinks h (h.addEventsDevice dev v a).handler := by
  unfold addEventsDevice
  dsimp only
  split <;> simp only [hs]
  · exact .of_eq rfl rfl
  · exact .refl h

theorem addEventsDevice_eventsDevice (hs : h.hasSensorStreams = false) :
    (h.addEventsDevice dev v a).handler.connections.eventsDevice = some dev := by
  unfold addEventsDevice
  dsimp only
  split <;> simp [hs, restartStreams]

theorem addEventsDevice_controlDevice :
    (h.addEventsDevice dev v a).handler.connections.controlDevice = h.connections.controlDevice := by
  unfold addEventsDevice
  dsimp only
  split <;> split <;> simp [restartStreams]

theorem addEventsDevice_device (hs : h.hasSensorStreams = false) :
    (h.addEventsDevice dev v a).handler.device =
      { h.device with
        capabilities := h.device.capabilities.insert EVENTS, eventsConnected := true } := by
  unfold addEventsDevice
  dsimp only
  split <;> simp [hs]

@[simp] theorem addEventsDevice_leave : (h.addEventsDevice dev v a).leave = false := by
  unfold addEventsDevice
  dsimp only
  split <;> split <;> rfl

@[simp] theorem addControlDevice_leave : (h.addControlDevice dev a).leave = false := rfl

@[simp] theorem addControlDevice_controlDevice :
    (h.addControlDevice dev a).handler.connections.controlDevice = some dev := rfl

@[simp] theorem addControlDevice_eventsDevice :
    (h.addControlDevice dev a).handler.connections.eventsDevice = h.connections.eventsDevice := rfl

@[simp] theorem refreshVersion_capabilities (d : Device) :
    (refreshVersion d a).capabilities = d.capabilities := by
  unfold refreshVersion; split <;> rfl

@[simp] theorem refreshVersion_eventsConnected (d : Device) :
    (refreshVersion d a).eventsConnected = d.eventsConnected := by
  unfold refreshVersion; split <;> rfl

@[simp] theorem refreshVersion_eventsTransport (d : Device) :
    (refreshVersion d a).eventsTransport = d.eventsTransport := by
  unfold refreshVersion; split <;> rfl

@[simp] theorem refreshVersion_uuid (d : Device) : (refreshVersion d a).uuid = d.uuid := by
  unfold refreshVersion; split <;> rfl

@[simp] theorem refreshTransportMode_uuid (d : Device) (e : Bool) (mode : TransportMode) :
    (refreshTransportMode d e mode).uuid = d.uuid := by
  cases mode <;> simp only [refreshTransportMode]
  split <;> rfl

theorem addControlDevice_uuid : (h.addControlDevice dev a).handler.device.uuid = h.device.uuid := by
  simp only [addControlDevice]
  split <;> simp

/-- A USB answer turns the events flags on. -/
theorem addControlDevice_usb (hm : a.getTransportMode = some (.ok .usb)) :
    let d := (h.addControlDevice dev a).handler.device
    d.capabilities.contains EVENTS = true ∧ d.eventsConnected = true ∧ d.eventsTransport = .wired := by
  simp [addControlDevice, hm, refreshTransportMode]

/-- A BLE answer keeps the events flags of a handler that has an events device. -/
theorem addControlDevice_ble (hm : a.getTransportMode = some (.ok .ble))
    (he : h.connections.eventsDevice.isSome = true) :
    let d := (h.addControlDevice dev a).handler.device
    d.capabilities.contains EVENTS = h.device.capabilities.contains EVENTS ∧
    d.eventsConnected = h.device.eventsConnected ∧ d.eventsTransport = .bluetooth := by
  simp [addControlDevice, hm, refreshTransportMode, he]

/-- A BLE answer turns the events flags of a handler without events device off. -/
theorem addControlDevice_ble_none (hm : a.getTransportMode = some (.ok .ble))
    (he : h.connections.eventsDevice.isSome = false) :
    let d := (h.addControlDevice dev a).handler.device
    d.capabilities.contains EVENTS = false ∧ d.eventsConnected = false ∧
    d.eventsTransport = .bluetooth := by
  simp [addControlDevice, hm, refreshTransportMode, he]

/-- Without an answer the events flags stay. -/
theorem addControlDevice_unread (hm : ∀ mode, a.getTransportMode ≠ some (.ok mode)) :
    let d := (h.addControlDevice dev a).handler.device
    d.capabilities.contains EVENTS = h.device.capabilities.contains EVENTS ∧
    d.eventsConnected = h.device.eventsConnected ∧ d.eventsTransport = h.device.eventsTransport := by
  simp [addControlDevice]

end

theorem removeControlDevice_stay {h : Handler} (hi : h.hasIndependentBleEvents = true) :
    h.removeControlDevice.leave = false ∧
    h.removeControlDevice.handler.connections = { h.connections with controlDevice := none } ∧
    h.removeControlDevice.handler.device =
      { h.device with
        capabilities := (h.device.capabilities.remove CONTROL).remove DFU, transport := .usbMux } := by
  simp [removeControlDevice, hi]

theorem removeControlDevice_leave (h : Handler) :
    h.removeControlDevice.leave = !h.hasIndependentBleEvents := by
  unfold removeControlDevice
  dsimp only
  split
  · next hi => simp [hi]
  · next hi => simp [hi]

theorem removeEventsDevice_eventsDevice (h : Handler) :
    h.removeEventsDevice.handler.connections.eventsDevice = none := by
  unfold removeEventsDevice
  dsimp only
  split <;> rfl

theorem removeEventsDevice_controlDevice (h : Handler) :
    h.removeEventsDevice.handler.connections.controlDevice = h.connections.controlDevice := by
  unfold removeEventsDevice
  dsimp only
  split <;> rfl

theorem removeEventsDevice_leave (h : Handler) :
    h.removeEventsDevice.leave = h.connections.controlDevice.isNone := by
  unfold removeEventsDevice
  dsimp only
  split
  · next hc =>
    rw [Option.isSome_iff_exists] at hc
    obtain ⟨d, hd⟩ := hc
    simp [hd]
  · next hc =>
    rw [Bool.not_eq_true, Option.isSome_eq_false_iff] at hc
    exact hc.symm

theorem removeEventsDevice_device (h : Handler) :
    h.removeEventsDevice.handler.device.capabilities.contains EVENTS = false ∧
    h.removeEventsDevice.handler.device.eventsConnected = false := by
  unfold removeEventsDevice
  dsimp only
  split
  · split <;> exact ⟨remove_events_events _, rfl⟩
  · exact ⟨remove_events_events _, rfl⟩

/-! ## What every turn keeps -/

theorem addEventsDevice_uuid (h : Handler) (dev : VmDevice) (v : Version) (a : Answers) :
    (h.addEventsDevice dev v a).handler.device.uuid = h.device.uuid := by
  cases hs : h.hasSensorStreams with
  | true => exact (addEventsDevice_streaming h dev v a hs).uuid
  | false => rw [addEventsDevice_device h dev v a hs]

theorem removeControlDevice_uuid (h : Handler) :
    h.removeControlDevice.handler.device.uuid = h.device.uuid := by
  unfold removeControlDevice
  dsimp only
  split <;> rfl

theorem removeEventsDevice_uuid (h : Handler) :
    h.removeEventsDevice.handler.device.uuid = h.device.uuid := by
  unfold removeEventsDevice
  dsimp only
  split
  · split <;> rfl
  · rfl

theorem turn_uuid {h : Handler} {arm : Arm} {a : Answers} {o : Outcome} (ht : h.turn arm a = some o) :
    o.handler.device.uuid = h.device.uuid := by
  obtain ⟨dev, v, -, rfl⟩ | ⟨dev, -, rfl⟩ | ⟨-, rfl⟩ | ⟨-, rfl⟩ | ⟨-, hs⟩ := turn_cases ht
  · exact addEventsDevice_uuid h dev v a
  · exact addControlDevice_uuid h dev a
  · exact removeControlDevice_uuid h
  · exact removeEventsDevice_uuid h
  · exact hs.uuid

theorem start_uuid (h : Handler) (a : Answers) : (h.start a).handler.device.uuid = h.device.uuid := by
  unfold start
  split <;> rfl

/-! ## What a turn does to the shared tables -/

/-- An effect on the shared tables is about the device `u`, and a message only updates it. -/
def Concerns (u : Uuid) : Effect → Prop
  | .message (.updateDevice d) => d.uuid = u
  | .message (.updateName v _) => v = u
  | .message _ => False
  | .removeDirect v => v = u
  | _ => True

/-- An effect that neither concerns the registry of handlers nor reports a saved zero. -/
def isLocal : Effect → Bool
  | .message _ | .removeDirect _ => false
  | .event _ kind => kind != .saveZeroResult true
  | .call .. | .reply _ | .offsetInsert .. | .offsetRemove _ | .offsetsSave _ | .shotDelay .. | .bondName ..
  | .updateBondName .. | .awaitPairing .. | .streamEvent .. => true

/-- The effects of a turn: its own, what `SaveZero` and `ClearZero` report, and what a message
has it do to the registry. -/
inductive Emits (h : Handler) : Arm → Effect → Prop
  | own {arm : Arm} {e : Effect} : isLocal e = true → Emits h arm e
  | saved (d : Device) : Emits h (.control .saveZero) (.event d (.saveZeroResult true))
  | cleared (d : Device) : Emits h (.control .clearZero) (.event d (.saveZeroResult true))
  | message {m : DeviceTaskMessage} {msg : Message} : Concerns h.device.uuid (.message msg) →
      Emits h (.control m) (.message msg)
  | direct (m : DeviceTaskMessage) : Emits h (.control m) (.removeDirect h.device.uuid)

theorem emits_local {h : Handler} {arm : Arm} {es : List Effect} (hes : ∀ e ∈ es, isLocal e = true) :
    ∀ e ∈ es, Emits h arm e :=
  fun e he => .own (hes e he)

theorem startCalls_local (dev : VmDevice) (v : Version) : ∀ e ∈ startCalls dev v, isLocal e = true := by
  intro e he
  obtain ⟨k, -, rfl⟩ := List.mem_map.mp he
  rfl

theorem batchAccess_local (h : Handler) (dev : VmDevice) (request : DeviceCall) (r : Reply) :
    ∀ e ∈ (h.batchAccess dev request r).effects, isLocal e = true := by
  simp only [batchAccess, pauseStreams]
  split <;> simp [isLocal]

theorem Asked.local {h : Handler} {b : Bool} {o : Outcome} (hq : Asked h b o) :
    ∀ e ∈ o.effects, isLocal e = true := by
  cases hq with
  | replied r => simp [replyOnly, isLocal]
  | batched r hdev hr => exact batchAccess_local h _ _ _
  | plain dev r hr => simp [isLocal]

theorem setDeviceName_emits (h : Handler) (name : String) (a : Answers) (m : DeviceTaskMessage) :
    ∀ e ∈ (h.setDeviceName name a).effects, Emits h (.control m) e := by
  have one {e : Effect} (he : Emits h (.control m) e) : ∀ e' ∈ [e], Emits h (.control m) e' :=
    List.forall_mem_singleton.mpr he
  unfold setDeviceName
  cases h.connections.controlDevice with
  | some dev =>
    dsimp only
    split <;> simp only [List.forall_mem_append]
    · refine ⟨⟨⟨one (.own rfl), one (.own rfl)⟩, ?_⟩, List.forall_mem_cons.mpr ⟨.message rfl, one (.own rfl)⟩⟩
      split
      · exact one (.own rfl)
      · simp
    · exact ⟨one (.own rfl), one (.own rfl)⟩
  | none =>
    cases h.connections.eventsDevice with
    | some dev =>
      dsimp only
      split <;> simp only [List.forall_mem_append]
      · refine ⟨⟨⟨one (.own rfl), one (.own rfl)⟩, ?_⟩, List.forall_mem_cons.mpr ⟨.message rfl, one (.own rfl)⟩⟩
        split
        · exact one (.own rfl)
        · simp
      · exact ⟨one (.own rfl), one (.own rfl)⟩
    | none => exact one (.own rfl)

/-- A redundant `AddEventsDevice` does nothing to the world. -/
theorem addEventsDevice_effects_streaming (h : Handler) (dev : VmDevice) (v : Version) (a : Answers)
    (hs : h.hasSensorStreams = true) : (h.addEventsDevice dev v a).effects = [] := by
  unfold addEventsDevice
  dsimp only
  split <;> rfl

theorem addEventsDevice_emits (h : Handler) (dev : VmDevice) (v : Version) (a : Answers) (m : DeviceTaskMessage) :
    ∀ e ∈ (h.addEventsDevice dev v a).effects, Emits h (.control m) e := by
  cases hs : h.hasSensorStreams with
  | true =>
    rw [addEventsDevice_effects_streaming h dev v a hs]
    simp
  | false =>
    have hc : ∀ w, ∀ e ∈ startCalls dev w, Emits h (.control m) e :=
      fun w => emits_local (startCalls_local dev w)
    unfold addEventsDevice
    dsimp only
    split <;> simp only [hs, Bool.false_eq_true, if_false, restartStreams, List.forall_mem_append] <;>
      exact ⟨hc _, List.forall_mem_cons.mpr ⟨.own rfl, List.forall_mem_cons.mpr
        ⟨.own rfl, List.forall_mem_singleton.mpr (.message rfl)⟩⟩⟩

/-- An announcement of the device. -/
theorem announce_emits {h : Handler} {d : Device} (hd : d.uuid = h.device.uuid) (m : DeviceTaskMessage) :
    ∀ e ∈ announce d, Emits h (.control m) e :=
  List.forall_mem_cons.mpr ⟨.message hd, List.forall_mem_singleton.mpr (.own rfl)⟩

theorem control_emits (h : Handler) (a : Answers) (m : DeviceTaskMessage) :
    ∀ e ∈ (h.control a m).effects, Emits h (.control m) e := by
  cases m with
  | resetZero => exact emits_local (by simp [control, resetZero, isLocal])
  | saveZero => exact List.forall_mem_cons.mpr ⟨.own rfl, List.forall_mem_singleton.mpr (.saved _)⟩
  | clearZero => exact List.forall_mem_cons.mpr ⟨.own rfl, List.forall_mem_singleton.mpr (.cleared _)⟩
  | setShotDelay ms => exact emits_local (by simp [control, setShotDelay, shotDelayWrites, isLocal])
  | writeVendor tag data =>
    simp only [control, writeVendor]
    split <;> exact emits_local (by simp [isLocal])
  | zero t p te =>
    simp only [control, zero]
    split <;> exact emits_local (by simp [isLocal])
  | readRegister | writeRegister | readConfig | writeConfig | flashSettings | cancelPairing | clearBond =>
    exact emits_local (control_asked h a rfl).local
  | startPairing t =>
    simp only [control, startPairing]
    split
    · split <;> exact emits_local (by simp [isLocal])
    · exact emits_local (by simp [replyOnly, isLocal])
  | setTransportMode u =>
    simp only [control, setTransportMode]
    split <;> exact emits_local (by simp [replyOnly, isLocal])
  | setDeviceName name => exact setDeviceName_emits h name a _
  | addEventsDevice dev v => exact addEventsDevice_emits h dev v a _
  | addControlDevice dev =>
    exact List.forall_mem_append.mpr
      ⟨emits_local (by simp [isLocal]), announce_emits (addControlDevice_uuid h dev a) _⟩
  | removeControlDevice =>
    simp only [control, removeControlDevice]
    split
    · exact List.forall_mem_cons.mpr ⟨.direct _, announce_emits (by rfl) _⟩
    · simp
  | removeEventsDevice =>
    simp only [control, removeEventsDevice]
    split
    · exact announce_emits (by split <;> rfl) _
    · simp

theorem turn_emits {h : Handler} {arm : Arm} {a : Answers} {o : Outcome} (ht : h.turn arm a = some o) :
    ∀ e ∈ o.effects, Emits h arm e := by
  cases arm with
  | control m =>
    cases ht
    exact control_emits h a m
  | closed =>
    cases ht
    simp
  | shotDelay ms =>
    cases ht
    exact emits_local (by simp [isLocal])
  | resume =>
    simp only [turn] at ht
    split at ht
    · split at ht
      · cases ht
        exact emits_local (startCalls_local _ _)
      · cases ht
        simp
    · cases ht
  | retry =>
    simp only [turn] at ht
    split at ht
    · cases ht
      exact emits_local (startCalls_local _ _)
    · cases ht
  | stream kind =>
    simp only [turn] at ht
    split at ht
    · cases ht
      exact emits_local (by simp [isLocal])
    · cases ht
  | streamsEnded =>
    simp only [turn] at ht
    split at ht
    · cases ht
      simp
    · cases ht

theorem start_local (h : Handler) (a : Answers) : ∀ e ∈ (h.start a).effects, isLocal e = true := by
  unfold start
  split
  · exact List.forall_mem_cons.mpr ⟨rfl, startCalls_local _ _⟩
  · split <;> simp [isLocal]

theorem concerns_of_isLocal (u : Uuid) {e : Effect} (he : isLocal e = true) : Concerns u e := by
  cases e with
  | message | removeDirect => cases he
  | _ => trivial

theorem turn_concerns {h : Handler} {arm : Arm} {a : Answers} {o : Outcome}
    (ht : h.turn arm a = some o) : ∀ e ∈ o.effects, Concerns h.device.uuid e := by
  intro e he
  cases turn_emits ht e he with
  | own hl => exact concerns_of_isLocal _ hl
  | saved | cleared => trivial
  | message hc => exact hc
  | direct => rfl

theorem start_concerns (h : Handler) (u : Uuid) (a : Answers) :
    ∀ e ∈ (h.start a).effects, Concerns u e :=
  fun e he => concerns_of_isLocal u (start_local h a e he)

/-! ## Messages to the server -/

theorem start_silent (h : Handler) (a : Answers) (m : Message) :
    Effect.message m ∉ (h.start a).effects :=
  fun hm => Bool.false_ne_true (start_local h a _ hm)

/-- Only control messages make the handler send messages of its own. -/
theorem turn_silent {h : Handler} {arm : Arm} {a : Answers} {o : Outcome} (ht : h.turn arm a = some o)
    (hc : ∀ m, arm ≠ .control m) (m : Message) : Effect.message m ∉ o.effects := by
  intro hm
  cases turn_emits ht _ hm with
  | own hl => cases hl
  | message => exact hc _ rfl

end Handler

end OdysseyHub
