import OdysseyHub.Server.HandlerTask
import OdysseyHub.Server.HandlerEvents

/-!
# Replies with an error (device_tasks.rs)

A command with a reply channel that fails should leave everything as it was.  Nine of the
ten do, whatever the device answers; `SetTransportMode` replies, reboots the device and
leaves the loop without a look at the answer.  So error replies are harmless in exactly the
runs in which no `SetTransportMode` that reaches the device fails
(`errorReplies_harmless_iff`).
-/

namespace OdysseyHub

open Transition

def Reply.isError : Reply → Bool
  | .byte (.error _) | .unit (.error _) | .mode (.error _) => true
  | _ => false

/-- The commands with a reply channel. -/
def DeviceTaskMessage.hasReply : DeviceTaskMessage → Bool
  | .readRegister _ _ _ | .writeRegister _ _ _ _ | .readConfig _ | .writeConfig _ _ | .flashSettings
  | .startPairing _ | .cancelPairing | .clearBond | .setTransportMode _ | .setDeviceName _ => true
  | _ => false

namespace Handler

/-- The handler keeps running, the device is not rebooted, and connections, the published
device and the name tables are as they were. -/
structure Unaffected (h : Handler) (o : Outcome) : Prop where
  runs : o.leave = false
  connections : o.handler.connections = h.connections
  device : o.handler.device = h.device
  noReboot : ∀ dev, .call dev .reboot ∉ o.effects
  noMessage : ∀ m, .message m ∉ o.effects
  noBondName : ∀ uuid name, .bondName uuid name ∉ o.effects
  noHubName : ∀ hub uuid name, .updateBondName hub uuid name ∉ o.effects

/-- An error reply to the command has no side effect. -/
def ErrorHarmless (h : Handler) (m : DeviceTaskMessage) (a : Answers) : Prop :=
  m.hasReply = true → (∃ r, .reply r ∈ (h.control a m).effects ∧ r.isError = true) → Unaffected h (h.control a m)

/-- A `SetTransportMode` that reaches the device succeeds. -/
def ModeSet (h : Handler) (m : DeviceTaskMessage) (a : Answers) : Prop :=
  ∀ usbMode, m = .setTransportMode usbMode → h.connections.controlDevice.isSome = true →
    ∃ mode, a.setTransportMode = some (.ok mode)

/-- The effect asks the device something, but not to reboot, or replies. -/
def asks : Effect → Bool
  | .call _ request => request != .reboot
  | .reply _ | .awaitPairing _ _ => true
  | _ => false

variable {h : Handler} {o : Outcome} {a : Answers} {m : DeviceTaskMessage}

theorem unaffected_of_asks (hl : o.leave = false) (hc : o.handler.connections = h.connections)
    (hd : o.handler.device = h.device) (he : ∀ e ∈ o.effects, asks e = true) : Unaffected h o :=
  { runs := hl
    connections := hc
    device := hd
    noReboot := fun dev hmem => absurd (he _ hmem) (by simp [asks])
    noMessage := fun m hmem => absurd (he _ hmem) (by simp [asks])
    noBondName := fun uuid name hmem => absurd (he _ hmem) (by simp [asks])
    noHubName := fun hub uuid name hmem => absurd (he _ hmem) (by simp [asks]) }

theorem replyOnly_unaffected (h : Handler) (r : Reply) : Unaffected h (h.replyOnly r) :=
  unaffected_of_asks rfl rfl rfl fun e he => by
    rw [List.mem_singleton.mp he]
    rfl

/-- One request to a device, then the reply. -/
theorem request_unaffected (h : Handler) (dev : VmDevice) {request : DeviceCall} (hr : request ≠ .reboot) (r : Reply) :
    Unaffected h { handler := h, effects := [.call dev request, .reply r] } := by
  refine unaffected_of_asks rfl rfl rfl fun e he => ?_
  rcases List.mem_pair.mp he with rfl | rfl
  · simp [asks, hr]
  · rfl

theorem batchAccess_unaffected (h : Handler) (dev : VmDevice) {request : DeviceCall} (hr : request ≠ .reboot)
    (r : Reply) : Unaffected h (h.batchAccess dev request r) := by
  refine unaffected_of_asks rfl ?_ ?_ fun e he => ?_
  · simp [batchAccess]
  · simp [batchAccess]
  · have hpause : ∀ e ∈ (h.pauseStreams dev).2, asks e = true := by
      intro e he
      unfold pauseStreams at he
      split at he
      · rw [List.mem_singleton.mp he]
        rfl
      · cases he
    rcases List.mem_append.mp he with he | he
    · exact hpause e he
    · rcases List.mem_pair.mp he with rfl | rfl
      · simp [asks, hr]
      · rfl

/-- A command that asks the device once does nothing besides. -/
theorem Asked.unaffected {b : Bool} (hq : Asked h b o) : Unaffected h o := by
  cases hq with
  | replied r => exact replyOnly_unaffected h r
  | batched r hdev hr => exact batchAccess_unaffected h _ (by rintro rfl; cases hr) r
  | plain dev r hr => exact request_unaffected h dev (by rintro rfl; cases hr) r

/-- Waiting for the pairing leaves the loop as it is, too. -/
theorem startPairing_unaffected (h : Handler) (timeoutMs : UInt32) (a : Answers) :
    Unaffected h (h.startPairing timeoutMs a) := by
  unfold startPairing
  split
  · refine unaffected_of_asks rfl rfl rfl fun e he => ?_
    rcases List.mem_append.mp he with he | he
    · rcases List.mem_append.mp he with he | he
      · rw [List.mem_singleton.mp he]
        rfl
      · split at he
        · rw [List.mem_singleton.mp he]
          rfl
        · cases he
    · rw [List.mem_singleton.mp he]
      rfl
  · exact replyOnly_unaffected h _

/-- What `SetDeviceName` does after an `Ok` ends in that `Ok`. -/
theorem named_reply {request push : List Effect} {uuid : Uuid} {name : String} {u : Unit} {r : Reply}
    (hrequest : ∀ r, .reply r ∉ request) (hpush : ∀ r, .reply r ∉ push)
    (hr : .reply r ∈ request ++ [.bondName uuid name] ++ push
      ++ [.message (.updateName uuid name), .reply (.unit (.ok u))]) : r.isError = false := by
  rcases List.mem_append.mp hr with hr | hr
  · rcases List.mem_append.mp hr with hr | hr
    · rcases List.mem_append.mp hr with hr | hr
      · exact absurd hr (hrequest r)
      · cases List.mem_singleton.mp hr
    · exact absurd hr (hpush r)
  · rcases List.mem_pair.mp hr with hr | hr
    · cases hr
    · cases hr
      rfl

/-- The tables are written only before an `Ok`. -/
theorem setDeviceName_unaffected {name : String}
    (he : ∃ r, .reply r ∈ (h.setDeviceName name a).effects ∧ r.isError = true) :
    Unaffected h (h.setDeviceName name a) := by
  obtain ⟨r, hr, herr⟩ := he
  unfold setDeviceName at hr ⊢
  cases hc : h.connections.controlDevice with
  | some dev =>
    simp only [hc] at hr ⊢
    cases hset : a.setName.orError "set_device_name timed out" with
    | error e => exact request_unaffected h dev (by simp) _
    | ok u =>
      simp only [hset] at hr
      have hok := named_reply (by simp) (by intro r; split <;> simp) hr
      rw [hok] at herr
      cases herr
  | none =>
    cases hev : h.connections.eventsDevice with
    | some dev =>
      simp only [hc, hev] at hr ⊢
      cases hset : a.requestSetDeviceName.orError "set_device_name timed out" with
      | error e => exact request_unaffected h dev (by simp) _
      | ok named =>
        cases named with
        | false => exact request_unaffected h dev (by simp) _
        | true =>
          simp only [hset] at hr
          have hok := named_reply (by simp) (by intro r; split <;> simp) hr
          rw [hok] at herr
          cases herr
    | none => exact replyOnly_unaffected h _

/-- `SetTransportMode` on a device: the loop is left, and the one reply is the device's. -/
theorem setTransportMode_device {dev : VmDevice} (hc : h.connections.controlDevice = some dev) (usbMode : Bool)
    (a : Answers) :
    (h.control a (.setTransportMode usbMode)).leave = true ∧
      ∀ r, .reply r ∈ (h.control a (.setTransportMode usbMode)).effects ↔
        r = .mode ((a.setTransportMode.orError "set_transport_mode timed out").map fun m => decide (m = .usb)) := by
  show (h.setTransportMode usbMode a).leave = true ∧ ∀ r, .reply r ∈ (h.setTransportMode usbMode a).effects ↔ _
  unfold setTransportMode
  rw [hc]
  exact ⟨rfl, fun r => by simp⟩

theorem setTransportMode_noDevice (hc : h.connections.controlDevice = none) (usbMode : Bool) (a : Answers) :
    h.control a (.setTransportMode usbMode) = h.replyOnly (.mode (.error "no control device available")) := by
  show h.setTransportMode usbMode a = _
  unfold setTransportMode
  rw [hc]

/-- An answer that is no success is an error. -/
theorem orError_of_not_ok {α : Type} {r : Timed α} (h : ¬ ∃ v, r = some (.ok v)) (late : String) :
    ∃ e, r.orError late = .error e := by
  cases r with
  | none => exact ⟨late, rfl⟩
  | some r =>
    cases r with
    | error e => exact ⟨e, rfl⟩
    | ok v => exact absurd ⟨v, rfl⟩ h

/-- `SetTransportMode` reboots a device it reaches whatever it answers. -/
theorem setTransportMode_harmless_iff (h : Handler) (usbMode : Bool) (a : Answers) :
    ErrorHarmless h (.setTransportMode usbMode) a ↔ ModeSet h (.setTransportMode usbMode) a := by
  cases hc : h.connections.controlDevice with
  | none =>
    have hout := setTransportMode_noDevice hc usbMode a
    refine iff_of_true (fun _ _ => hout ▸ replyOnly_unaffected h _) fun u _ hsome => ?_
    rw [hc] at hsome
    cases hsome
  | some dev =>
    obtain ⟨hleave, hreplies⟩ := setTransportMode_device hc usbMode a
    constructor
    · intro hharmless u _ _
      by_contra hfailed
      obtain ⟨e, he⟩ := orError_of_not_ok hfailed "set_transport_mode timed out"
      have hreply := (hreplies (.mode (.error e))).mpr (by rw [he]; rfl)
      have hun := hharmless rfl ⟨_, hreply, rfl⟩
      rw [hun.runs] at hleave
      cases hleave
    · rintro hset - ⟨r, hr, herr⟩
      obtain ⟨mode, hm⟩ := hset usbMode rfl (by rw [hc]; rfl)
      rw [(hreplies r).mp hr, hm] at herr
      cases herr

theorem harmless_iff_of_ne (hne : ∀ u, m ≠ .setTransportMode u) (hh : ErrorHarmless h m a) :
    ErrorHarmless h m a ↔ ModeSet h m a :=
  iff_of_true hh fun u hu _ => absurd hu (hne u)

/-- **One command.** -/
theorem errorHarmless_iff (h : Handler) (m : DeviceTaskMessage) (a : Answers) :
    ErrorHarmless h m a ↔ ModeSet h m a := by
  cases m with
  | setTransportMode usbMode => exact setTransportMode_harmless_iff h usbMode a
  | readRegister | writeRegister | readConfig | writeConfig | flashSettings | cancelPairing | clearBond =>
    exact harmless_iff_of_ne (by simp) fun _ _ => (control_asked h a rfl).unaffected
  | startPairing timeoutMs => exact harmless_iff_of_ne (by simp) fun _ _ => startPairing_unaffected h timeoutMs a
  | setDeviceName name => exact harmless_iff_of_ne (by simp) fun _ he => setDeviceName_unaffected he
  | resetZero | saveZero | clearZero | setShotDelay | writeVendor | zero | addEventsDevice | addControlDevice
  | removeControlDevice | removeEventsDevice => exact harmless_iff_of_ne (by simp) fun hr _ => (by cases hr)

end Handler

namespace HandlerTask

/-- What happens to a handler task: a message arrives, or an event. -/
inductive TaskLabel
  | receive (m : DeviceTaskMessage)
  | event (e : HandlerEvent)

def taskNext (t : HandlerTask) : TaskLabel → Option HandlerTask
  | .receive m => some (t.receive m)
  | .event e => t.next e

def TaskStep (t : HandlerTask) (l : TaskLabel) (t' : HandlerTask) : Prop := t.taskNext l = some t'

/-- A command taken from the queue is harmless if it fails. -/
def ErrorsHarmless (t : HandlerTask) : TaskLabel → Prop
  | .event (.recv a) => ∀ m, t.queue.head? = some m → t.handler.ErrorHarmless m a
  | _ => True

/-- A `SetTransportMode` taken from the queue succeeds, if it reaches the device. -/
def ModesSet (t : HandlerTask) : TaskLabel → Prop
  | .event (.recv a) => ∀ m, t.queue.head? = some m → t.handler.ModeSet m a
  | _ => True

/-- **Error replies.**  In every run of a handler task all failed commands are harmless exactly
when every `SetTransportMode` that reaches the device succeeds. -/
theorem errorReplies_harmless_iff {t : HandlerTask} {tr : List (TaskLabel × HandlerTask)}
    (hrun : Exec TaskStep t tr) : StepsOk ErrorsHarmless t tr ↔ StepsOk ModesSet t tr := by
  refine hrun.stepsOk_iff fun t l t' _ => ?_
  cases l with
  | receive m => exact Iff.rfl
  | event e =>
    cases e with
    | recv a => exact forall_congr' fun m => imp_congr_right fun _ => Handler.errorHarmless_iff t.handler m a
    | start | arm | closed | perform | exit => exact Iff.rfl

/-- A device that refuses to forget its bond. -/
theorem errorReplies_harmless_iff_clearBond :
    let t := spawned (usbHandler (Handler.sampleUsb .ble) 0)
    let tr := trace taskNext t [.event (.start 0 {}), .receive .clearBond, .event .perform,
      .event (.recv { clearBond := some (.error "busy") }), .event .perform, .event .perform]
    tr.length = 6 ∧ (StepsOk ErrorsHarmless t tr ↔ StepsOk ModesSet t tr) :=
  ⟨by decide, errorReplies_harmless_iff (exec_trace (fun _ _ _ h => h) _ _)⟩

/-- A device that does not answer in time is rebooted, and its handler ends. -/
theorem error_reboots :
    ¬ ∀ (h : Handler) (m : DeviceTaskMessage) (a : Answers), Handler.AtEntry h → h.ErrorHarmless m a := by
  intro hall
  have hset := (Handler.errorHarmless_iff _ (.setTransportMode false) {}).mp
    (hall _ (.setTransportMode false) {} (.usb (Handler.sampleUsb .usb) 0 {}))
  obtain ⟨mode, hmode⟩ := hset false rfl (by decide)
  cases hmode

end HandlerTask

end OdysseyHub
