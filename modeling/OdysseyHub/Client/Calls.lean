import OdysseyHub.Interface.EventWire
import OdysseyHub.Server.ReplyOrder
import OdysseyHub.Server.RequestNumbers

/-!
# Calls of the client (odyssey_hub_client, client.rs)

Every command of the client is put on the wire, taken off it by the RPC of its name, sent to
the task of the device, and answered.  Nothing is lost on the way: for every call the task
gets the arguments the caller gave (`Call.perform_eq`), and where the task takes the command the
caller gets what the task replies, an `Ok` only after the device has been asked for exactly what
the call names (`call_answered`).  A channel may be full or closed, and a task may leave with
commands in its queue (`CommandFate`).
-/

namespace OdysseyHub

/-- `result.map(..)` -/
def Served.map {α β : Type} (f : α → β) (s : Served α) : Served β :=
  { sent := s.sent, result := s.result.map f }

namespace Client

variable (l : DeviceList) (a : TaskAnswers) (device : Device)

/-! ## The methods -/

def writeVendor (tag : UInt8) (data : List UInt8) : Option (Served Unit) :=
  Requests.writeVendor l a { device := some (.ofDevice device), tag := tag.toUInt32, data := data }

def readRegister (port bank address : UInt8) : Option (Served UInt8) :=
  (Requests.readRegister l a
    { device := some (.ofDevice device), port := port.toUInt32, bank := bank.toUInt32
      address := address.toUInt32 }).map (Served.map UInt32.toUInt8)

def writeRegister (port bank address data : UInt8) : Option (Served Unit) :=
  Requests.writeRegister l a
    { device := some (.ofDevice device), port := port.toUInt32, bank := bank.toUInt32
      address := address.toUInt32, data := data.toUInt32 }

def readConfig (kind : UInt8) : Option (Served UInt8) :=
  (Requests.readConfig l a { device := some (.ofDevice device), kind := kind.toUInt32 }).map
    (Served.map UInt32.toUInt8)

def writeConfig (kind value : UInt8) : Option (Served Unit) :=
  Requests.writeConfig l a { device := some (.ofDevice device), kind := kind.toUInt32, value := value.toUInt32 }

def startPairing (timeoutMs : UInt32) : Option (Served Unit) :=
  Requests.startPairing l a { device := some (.ofDevice device), timeoutMs := timeoutMs }

def cancelPairing : Option (Served Unit) := Requests.cancelPairing l a { device := some (.ofDevice device) }

def clearBond : Option (Served Unit) := Requests.clearBond l a { device := some (.ofDevice device) }

def setTransportMode (usbMode : Bool) : Option (Served Bool) :=
  Requests.setTransportMode l a { device := some (.ofDevice device), usbMode := usbMode }

def flashSettings : Option (Served Unit) := Requests.flashSettings l a { device := some (.ofDevice device) }

def resetZero : Option (Served Unit) := Requests.resetZero l a (.ofDevice device)

def trackingEventPb (te : TrackingEvent) : Proto.TrackingEvent :=
  { timestamp := te.timestamp
    aimpoint := some (.ofVector te.aimpoint)
    pose := some
      { rotation := some (.ofMatrix te.pose.rotation)
        translation := some (.ofVector te.pose.translation) }
    distance := te.distance
    screenId := te.screenId }

def zero (translation : Proto.Vector3) (target : Proto.Vector2) (te : Option TrackingEvent) :
    Option (Served Unit) :=
  Requests.zero l a
    { device := some (.ofDevice device), translation := some translation, target := some target
      trackingEvent := te.map trackingEventPb }

def saveZero : Option (Served Unit) := Requests.saveZero l a (.ofDevice device)

def clearZero : Option (Served Unit) := Requests.clearZero l a (.ofDevice device)

/-- With the device list it leaves. -/
def setDeviceName (name : String) : Option (Served Unit × DeviceList) :=
  Requests.setDeviceName l a { device := some (.ofDevice device), name := name }

end Client

/-! ## Calls -/

inductive Call
  | writeVendor (device : Device) (tag : UInt8) (data : List UInt8)
  | readRegister (device : Device) (port bank address : UInt8)
  | writeRegister (device : Device) (port bank address data : UInt8)
  | readConfig (device : Device) (kind : UInt8)
  | writeConfig (device : Device) (kind value : UInt8)
  | startPairing (device : Device) (timeoutMs : UInt32)
  | cancelPairing (device : Device)
  | clearBond (device : Device)
  | setTransportMode (device : Device) (usbMode : Bool)
  | flashSettings (device : Device)
  | resetZero (device : Device)
  | zero (device : Device) (translation : Proto.Vector3) (target : Proto.Vector2) (te : Option TrackingEvent)
  | saveZero (device : Device)
  | clearZero (device : Device)
  | setDeviceName (device : Device) (name : String)

/-- What a call returns. -/
inductive CallValue
  | unit
  | byte (v : UInt8)
  | mode (usbMode : Bool)
  deriving DecidableEq, Repr

namespace Call

def device : Call → Device
  | .writeVendor d _ _ | .readRegister d _ _ _ | .writeRegister d _ _ _ _ | .readConfig d _ | .writeConfig d _ _
  | .startPairing d _ | .cancelPairing d | .clearBond d | .setTransportMode d _ | .flashSettings d | .resetZero d
  | .zero d _ _ _ | .saveZero d | .clearZero d | .setDeviceName d _ => d

def perform (l : DeviceList) (a : TaskAnswers) : Call → Option (Served CallValue)
  | .writeVendor d tag data => (Client.writeVendor l a d tag data).map (Served.map fun _ => .unit)
  | .readRegister d port bank address => (Client.readRegister l a d port bank address).map (Served.map .byte)
  | .writeRegister d port bank address data =>
    (Client.writeRegister l a d port bank address data).map (Served.map fun _ => .unit)
  | .readConfig d kind => (Client.readConfig l a d kind).map (Served.map .byte)
  | .writeConfig d kind value => (Client.writeConfig l a d kind value).map (Served.map fun _ => .unit)
  | .startPairing d timeoutMs => (Client.startPairing l a d timeoutMs).map (Served.map fun _ => .unit)
  | .cancelPairing d => (Client.cancelPairing l a d).map (Served.map fun _ => .unit)
  | .clearBond d => (Client.clearBond l a d).map (Served.map fun _ => .unit)
  | .setTransportMode d usbMode => (Client.setTransportMode l a d usbMode).map (Served.map .mode)
  | .flashSettings d => (Client.flashSettings l a d).map (Served.map fun _ => .unit)
  | .resetZero d => (Client.resetZero l a d).map (Served.map fun _ => .unit)
  | .zero d translation target te => (Client.zero l a d translation target te).map (Served.map fun _ => .unit)
  | .saveZero d => (Client.saveZero l a d).map (Served.map fun _ => .unit)
  | .clearZero d => (Client.clearZero l a d).map (Served.map fun _ => .unit)
  | .setDeviceName d name => (Client.setDeviceName l a d name).map fun r => r.1.map fun _ => .unit

/-- The command with the arguments of the caller. -/
def message : Call → DeviceTaskMessage
  | .writeVendor _ tag data => .writeVendor tag data
  | .readRegister _ port bank address => .readRegister port bank address
  | .writeRegister _ port bank address data => .writeRegister port bank address data
  | .readConfig _ kind => .readConfig kind
  | .writeConfig _ kind value => .writeConfig kind value
  | .startPairing _ timeoutMs => .startPairing timeoutMs
  | .cancelPairing _ => .cancelPairing
  | .clearBond _ => .clearBond
  | .setTransportMode _ usbMode => .setTransportMode usbMode
  | .flashSettings _ => .flashSettings
  | .resetZero _ => .resetZero
  | .zero _ translation target te => .zero translation.toVector target.toVector te
  | .saveZero _ => .saveZero
  | .clearZero _ => .clearZero
  | .setDeviceName _ name => .setDeviceName name

end Call

/-! ## Off the wire again -/

namespace Client

open Requests

variable {l : DeviceList} {a : TaskAnswers}

theorem withDevice_ofDevice {α : Type} (d : Device) (f : Device → Served α) :
    withDevice (some (.ofDevice d)) f = some (f d.renamed) := by
  show (Proto.Device.toDevice (.ofDevice d)).map f = _
  rw [Proto.Device.toDevice_ofDevice_renamed]
  rfl

/-- A byte of a reply comes back as it was. -/
theorem replied_word (reply : Option (Except String UInt8)) :
    (replied (word reply)).map UInt32.toUInt8 = replied reply := by
  cases reply with
  | none => rfl
  | some r =>
    cases r with
    | error e => rfl
    | ok v =>
      show Except.ok (v.toUInt32.toUInt8) = Except.ok v
      rw [UInt8.toUInt8_toUInt32]

theorem ask_map {α β : Type} {uuid : Uuid} {m : DeviceTaskMessage} {reply : Option (Except String α)}
    {reply' : Option (Except String β)} {f : α → β} (h : (replied reply).map f = replied reply') :
    (ask l a uuid m reply).map f = ask l a uuid m reply' := by
  unfold ask
  split
  · split
    · exact congrArg _ h
    · rfl
  · rfl
  · rfl

theorem zeroTracking_trackingEventPb (te : TrackingEvent) : zeroTracking (trackingEventPb te) = .ok te := by
  have h : zeroTracking (trackingEventPb te) = .ok
      { timestamp := te.timestamp
        aimpoint := (Proto.Vector2.ofVector te.aimpoint).toVector
        pose :=
          { rotation := (Proto.Matrix3x3.ofMatrix te.pose.rotation).toMatrix
            translation := (Proto.Matrix3x1.ofVector te.pose.translation).toVector }
        distance := te.distance
        screenId := te.screenId } := rfl
  rw [h, Proto.Vector2.toVector_ofVector, Proto.Matrix3x3.toMatrix_ofMatrix, Proto.Matrix3x1.toVector_ofVector]

end Client

namespace Call

open Requests

variable (l : DeviceList) (a : TaskAnswers)

/-- The call without a wire: the command goes to the task of the device as the caller gave it,
and the reply comes back. -/
def direct (call : Call) : Served CallValue :=
  match call with
  | .writeVendor d _ _ | .resetZero d | .zero d _ _ _ | .saveZero d | .clearZero d =>
    (trySend l a d.uuid call.message).map fun _ => .unit
  | .readRegister d _ _ _ | .readConfig d _ => (ask l a d.uuid call.message a.byte).map .byte
  | .setTransportMode d _ => (ask l a d.uuid call.message a.mode).map .mode
  | .setDeviceName d name => (askName l a d.uuid name).map fun _ => .unit
  | .writeRegister d _ _ _ _ | .writeConfig d _ _ | .startPairing d _ | .cancelPairing d | .clearBond d
  | .flashSettings d => (ask l a d.uuid call.message a.done).map fun _ => .unit

/-- **The wire.**  It changes no argument and no reply, and nothing panics. -/
theorem perform_eq (call : Call) : call.perform l a = some (call.direct l a) := by
  cases call with
  | readRegister d port bank address =>
    simp only [perform, Client.readRegister, Requests.readRegister, Client.withDevice_ofDevice,
      UInt8.toUInt8_toUInt32, Device.renamed_uuid, Option.map_some, direct, message,
      Client.ask_map (Client.replied_word a.byte)]
  | readConfig d kind =>
    simp only [perform, Client.readConfig, Requests.readConfig, Client.withDevice_ofDevice,
      UInt8.toUInt8_toUInt32, Device.renamed_uuid, Option.map_some, direct, message,
      Client.ask_map (Client.replied_word a.byte)]
  | zero d translation target te =>
    have hte : zeroMessage { device := some (.ofDevice d), translation := some translation, target := some target
                             trackingEvent := te.map Client.trackingEventPb } =
        .ok (.zero translation.toVector target.toVector te) := by
      cases te with
      | none => rfl
      | some te =>
        simp only [zeroMessage, orInvalid, Option.map_some, Client.zeroTracking_trackingEventPb]
        rfl
    simp only [perform, Client.zero, Requests.zero, hte, Client.withDevice_ofDevice, Device.renamed_uuid,
      Option.map_some, direct, message]
  | setDeviceName d name =>
    simp only [perform, Client.setDeviceName, Requests.setDeviceName, Proto.Device.toDevice_ofDevice_renamed,
      Device.renamed_uuid, Option.map_some, direct]
    split <;> rfl
  | writeVendor | writeRegister | writeConfig | startPairing | cancelPairing | clearBond | setTransportMode
  | flashSettings =>
    simp only [perform, Client.writeVendor, Client.writeRegister, Client.writeConfig, Client.startPairing,
      Client.cancelPairing, Client.clearBond, Client.setTransportMode, Client.flashSettings, Requests.writeVendor,
      Requests.writeRegister, Requests.writeConfig, Requests.startPairing, Requests.cancelPairing,
      Requests.clearBond, Requests.setTransportMode, Requests.flashSettings, Client.withDevice_ofDevice,
      UInt8.toUInt8_toUInt32, Device.renamed_uuid, Option.map_some, direct, message]
  | resetZero | saveZero | clearZero =>
    simp only [perform, Client.resetZero, Client.saveZero, Client.clearZero, Requests.resetZero, Requests.saveZero,
      Requests.clearZero, Proto.Device.toDevice_ofDevice_renamed, Device.renamed_uuid, Option.map_some, direct, message]

end Call

/-! ## With the task of the device -/

namespace Reply

def value : Reply → Except String CallValue
  | .byte r => r.map .byte
  | .unit r => r.map fun _ => .unit
  | .mode r => r.map .mode

def asByte : Effect → Option (Except String UInt8)
  | .reply (.byte r) => some r
  | _ => none

def asUnit : Effect → Option (Except String Unit)
  | .reply (.unit r) => some r
  | _ => none

def asMode : Effect → Option (Except String Bool)
  | .reply (.mode r) => some r
  | _ => none

end Reply

/-- What the caller of a command gets from the turn of the task that takes it. -/
def Outcome.taskAnswers (o : Outcome) : TaskAnswers :=
  { accepts := true
    done := o.effects.findSome? Reply.asUnit
    byte := o.effects.findSome? Reply.asByte
    mode := o.effects.findSome? Reply.asMode }

/-- What becomes of a command that a task is sent. -/
inductive CommandFate
  /-- the task works it off, in this state and with these answers -/
  | taken (h : Handler) (ans : Answers)
  /-- it is queued, and the task leaves before it takes it -/
  | dropped
  /-- the channel is full or closed -/
  | refused

def CommandFate.answers (m : DeviceTaskMessage) : CommandFate → TaskAnswers
  | .taken h ans => (h.control ans m).taskAnswers
  | .dropped => { accepts := true, done := none, byte := none, mode := none }
  | .refused => { accepts := false, done := none, byte := none, mode := none }

namespace Call

open Requests ReplyProtocol

/-- A command with a reply returns what the task replies, and `Ok` only where the device has been
asked for what the call names; the others return at once. -/
def CarriedOut (call : Call) (o : Outcome) (result : Except Status CallValue) : Prop :=
  match call.message.replyKind with
  | none => result = .ok .unit
  | some _ => ∃ r, .reply r ∈ o.effects ∧ result = r.value.mapError .internal ∧
      ∀ v, result = .ok v → ∃ dev request, .call dev request ∈ o.effects ∧ call.message.makes request = true

/-- The only reply of a turn is what its caller gets. -/
theorem findSome_reply {α : Type} {f : Effect → Option α} {before after : List Effect} {r : Reply} {v : α}
    (hf : ∀ e v, f e = some v → ∃ r, e = .reply r) (hbefore : Quiet before) (hr : f (.reply r) = some v) :
    (before ++ .reply r :: after).findSome? f = some v := by
  have hnone : before.findSome? f = none := by
    rw [List.findSome?_eq_none_iff]
    intro e he
    cases hfe : f e with
    | none => rfl
    | some w =>
      obtain ⟨r', rfl⟩ := hf e w hfe
      exact absurd he (hbefore r')
  rw [List.findSome?_append, hnone, Option.none_or, List.findSome?_cons, hr]

theorem isError_of_value {r : Reply} {v : CallValue} (h : r.value = .ok v) : r.isError = false := by
  cases r with
  | byte r => cases r <;> first | rfl | cases h
  | unit r => cases r <;> first | rfl | cases h
  | mode r => cases r <;> first | rfl | cases h

theorem mem_requests {es : List Effect} {request : DeviceCall} (h : request ∈ requests es) :
    ∃ dev, .call dev request ∈ es := by
  obtain ⟨e, he, hreq⟩ := List.mem_filterMap.mp h
  cases e with
  | call dev c =>
    cases hreq
    exact ⟨dev, he⟩
  | _ => cases hreq

theorem carriedOut_of_serves {α : Type} {call : Call} {o : Outcome} {as : Effect → Option (Except String α)}
    {f : α → CallValue} (hs : Serves call.message o.effects) (has : ∀ e v, as e = some v → ∃ r, e = .reply r)
    (hkind : ∀ r, call.message.replyKind = some r.kind → ∃ v, as (.reply r) = some v ∧ v.map f = r.value) :
    call.CarriedOut o ((replied (o.effects.findSome? as)).map f) := by
  obtain ⟨before, r, after, heff, hbefore, -, hfits⟩ := hs
  obtain ⟨hk, hmade⟩ := (Bool.and_eq_true _ _).mp hfits
  rw [beq_iff_eq] at hk
  obtain ⟨v, hv, hval⟩ := hkind r hk
  have hresult : (replied (o.effects.findSome? as)).map f = r.value.mapError .internal := by
    rw [heff, findSome_reply has hbefore hv, ← hval]
    cases v <;> rfl
  unfold CarriedOut
  rw [hk, hresult]
  refine ⟨r, heff ▸ List.mem_append_right _ List.mem_cons_self, rfl, fun w hw => ?_⟩
  have hok : r.value = .ok w := by
    cases hr : r.value with
    | error e =>
      rw [hr] at hw
      cases hw
    | ok w' =>
      rw [hr] at hw
      cases hw
      rfl
  rw [isError_of_value hok, Bool.false_or] at hmade
  obtain ⟨request, hreq, hmakes⟩ := List.any_eq_true.mp hmade
  obtain ⟨dev, hdev⟩ := mem_requests hreq
  exact ⟨dev, request, heff ▸ List.mem_append_left _ hdev, hmakes⟩

theorem asByte_reply (e : Effect) (v : Except String UInt8) (h : Reply.asByte e = some v) :
    ∃ r, e = .reply r := by
  unfold Reply.asByte at h
  split at h
  · exact ⟨_, rfl⟩
  · cases h

theorem asUnit_reply (e : Effect) (v : Except String Unit) (h : Reply.asUnit e = some v) :
    ∃ r, e = .reply r := by
  unfold Reply.asUnit at h
  split at h
  · exact ⟨_, rfl⟩
  · cases h

theorem asMode_reply (e : Effect) (v : Except String Bool) (h : Reply.asMode e = some v) :
    ∃ r, e = .reply r := by
  unfold Reply.asMode at h
  split at h
  · exact ⟨_, rfl⟩
  · cases h

/-- What a command wants is what it is replied. -/
theorem carriedOut_of_kind {α : Type} {call : Call} {kind : ReplyKind} {as : Effect → Option (Except String α)}
    {f : α → CallValue} (hk : call.message.replyKind = some kind)
    (has : ∀ e v, as e = some v → ∃ r, e = .reply r)
    (hkind : ∀ r : Reply, r.kind = kind → ∃ v, as (.reply r) = some v ∧ v.map f = r.value) (h : Handler)
    (ans : Answers) :
    call.CarriedOut (h.control ans call.message)
      ((replied ((h.control ans call.message).effects.findSome? as)).map f) := by
  refine carriedOut_of_serves (Handler.control_replies h ans (by rw [hk]; rfl)) has fun r hr => hkind r ?_
  rw [hk] at hr
  exact (Option.some.inj hr).symm

theorem carriedOut_byte {call : Call} {h : Handler} {ans : Answers} (hk : call.message.replyKind = some .byte) :
    call.CarriedOut (h.control ans call.message)
      ((replied (h.control ans call.message).taskAnswers.byte).map .byte) := by
  refine carriedOut_of_kind hk asByte_reply (fun r hr => ?_) h ans
  cases r with
  | byte r => exact ⟨r, rfl, rfl⟩
  | unit | mode => cases hr

theorem carriedOut_unit {call : Call} {h : Handler} {ans : Answers} (hk : call.message.replyKind = some .unit) :
    call.CarriedOut (h.control ans call.message)
      ((replied (h.control ans call.message).taskAnswers.done).map fun _ => .unit) := by
  refine carriedOut_of_kind hk asUnit_reply (fun r hr => ?_) h ans
  cases r with
  | unit r => exact ⟨r, rfl, rfl⟩
  | byte | mode => cases hr

theorem carriedOut_mode {call : Call} {h : Handler} {ans : Answers} (hk : call.message.replyKind = some .mode) :
    call.CarriedOut (h.control ans call.message)
      ((replied (h.control ans call.message).taskAnswers.mode).map .mode) := by
  refine carriedOut_of_kind hk asMode_reply (fun r hr => ?_) h ans
  cases r with
  | mode r => exact ⟨r, rfl, rfl⟩
  | byte | unit => cases hr

variable {l : DeviceList} {a : TaskAnswers} {k : HandlerId} {uuid : Uuid} {m : DeviceTaskMessage}

theorem trySend_listed (hk : l.senderForUuid uuid = some (some k)) (hacc : a.accepts = true) :
    trySend l a uuid m = { sent := some (k, m), result := .ok () } := by
  simp [trySend, hk, hacc]

theorem ask_listed {α : Type} {reply : Option (Except String α)} (hk : l.senderForUuid uuid = some (some k))
    (hacc : a.accepts = true) : ask l a uuid m reply = { sent := some (k, m), result := replied reply } := by
  simp [ask, hk, hacc]

theorem askName_listed {name : String} (hk : l.senderForUuid uuid = some (some k)) (hacc : a.accepts = true) :
    askName l a uuid name = { sent := some (k, .setDeviceName name), result := replied a.done } := by
  simp [askName, hk, hacc]

/-- The task is asked, and works the command off. -/
def Taken (call : Call) (k : HandlerId) (o : Outcome) (served : Served CallValue) : Prop :=
  served.sent = some (k, call.message) ∧ call.CarriedOut o served.result

/-- The command is queued, and lost with the task: only a caller who waits for a reply is told. -/
def Dropped (call : Call) (k : HandlerId) (served : Served CallValue) : Prop :=
  served.sent = some (k, call.message) ∧
    (call.message.replyKind = none → served.result = .ok .unit) ∧
    (call.message.replyKind ≠ none → served.result = .error (.internal "device task dropped reply"))

/-- Nothing is sent. -/
def Refused (served : Served CallValue) : Prop := served.sent = none ∧ ∃ status, served.result = .error status

/-- What a call comes to, by the task that is listed and what becomes of the command there. -/
def Answered (call : Call) (l : DeviceList) (fate : CommandFate) (served : Served CallValue) : Prop :=
  match l.senderForUuid call.device.uuid, fate with
  | some (some k), .taken h ans => call.Taken k (h.control ans call.message) served
  | some (some k), .dropped => call.Dropped k served
  | _, _ => Refused served

/-- What a call comes to where the task of the device is there and takes the command. -/
theorem direct_taken (call : Call) (h : Handler) (ans : Answers)
    (hk : l.senderForUuid call.device.uuid = some (some k)) :
    call.Taken k (h.control ans call.message) (call.direct l (h.control ans call.message).taskAnswers) := by
  have hasked : ∀ {α : Type} (reply : Option (Except String α)) (f : α → CallValue),
      call.CarriedOut (h.control ans call.message) ((replied reply).map f) →
      call.Taken k (h.control ans call.message)
        ((ask l (h.control ans call.message).taskAnswers call.device.uuid call.message reply).map f) := by
    intro α reply f hdone
    rw [ask_listed hk rfl]
    exact ⟨rfl, hdone⟩
  have hsent : call.message.replyKind = none →
      call.Taken k (h.control ans call.message)
        ((trySend l (h.control ans call.message).taskAnswers call.device.uuid call.message).map fun _ => .unit) := by
    intro hnone
    rw [trySend_listed hk rfl]
    refine ⟨rfl, ?_⟩
    unfold CarriedOut
    rw [hnone]
    rfl
  cases call with
  | writeVendor | resetZero | zero | saveZero | clearZero => exact hsent rfl
  | readRegister | readConfig => exact hasked _ _ (carriedOut_byte rfl)
  | setTransportMode => exact hasked _ _ (carriedOut_mode rfl)
  | setDeviceName d name =>
    show Taken _ k _ ((askName l _ d.uuid name).map _)
    rw [askName_listed (show l.senderForUuid d.uuid = some (some k) from hk) rfl]
    exact ⟨rfl, carriedOut_unit rfl⟩
  | writeRegister | writeConfig | startPairing | cancelPairing | clearBond | flashSettings =>
    exact hasked _ _ (carriedOut_unit rfl)

/-- What it comes to where the task leaves with the command in its queue. -/
theorem direct_dropped (call : Call) (m : DeviceTaskMessage) (hk : l.senderForUuid call.device.uuid = some (some k)) :
    call.Dropped k (call.direct l (CommandFate.dropped.answers m)) := by
  have hasked : call.message.replyKind ≠ none → ∀ {α : Type} (f : α → CallValue),
      call.Dropped k ((ask l (CommandFate.dropped.answers m) call.device.uuid call.message none).map f) := by
    intro hsome α f
    rw [ask_listed hk rfl]
    exact ⟨rfl, fun hnone => absurd hnone hsome, fun _ => rfl⟩
  have hsent : call.message.replyKind = none →
      call.Dropped k
        ((trySend l (CommandFate.dropped.answers m) call.device.uuid call.message).map fun _ => .unit) := by
    intro hnone
    rw [trySend_listed hk rfl]
    exact ⟨rfl, fun _ => rfl, fun hsome => absurd hnone hsome⟩
  cases call with
  | writeVendor | resetZero | zero | saveZero | clearZero => exact hsent rfl
  | setDeviceName d name =>
    show Dropped _ k ((askName l _ d.uuid name).map _)
    rw [askName_listed (show l.senderForUuid d.uuid = some (some k) from hk) rfl]
    exact ⟨rfl, nofun, fun _ => rfl⟩
  | readRegister | readConfig | setTransportMode | writeRegister | writeConfig | startPairing | cancelPairing
  | clearBond | flashSettings => exact hasked nofun _

theorem refused_reject {α : Type} (status : Status) (f : α → CallValue) : Refused ((reject status).map f) :=
  ⟨rfl, status, rfl⟩

/-- The device is not listed, or listed without a task, or the channel does not take the command. -/
theorem direct_refused (call : Call)
    (hk : a.accepts = false ∨ ∀ k, l.senderForUuid call.device.uuid ≠ some (some k)) :
    Refused (call.direct l a) := by
  have hclosed : ∀ k, l.senderForUuid call.device.uuid = some (some k) → ¬ a.accepts = true := by
    intro k hs hacc
    rcases hk with hk | hk
    · rw [hacc] at hk
      cases hk
    · exact hk k hs
  have hsend : ∀ m (f : Unit → CallValue), Refused ((trySend l a call.device.uuid m).map f) := by
    intro m f
    unfold trySend
    split
    · next k hs =>
      rw [if_neg (hclosed k hs)]
      exact refused_reject _ f
    · exact refused_reject _ f
    · exact refused_reject _ f
  have hask : ∀ {α : Type} m (reply : Option (Except String α)) (f : α → CallValue),
      Refused ((ask l a call.device.uuid m reply).map f) := by
    intro α m reply f
    unfold ask
    split
    · next k hs =>
      rw [if_neg (hclosed k hs)]
      exact refused_reject _ f
    · exact refused_reject _ f
    · exact refused_reject _ f
  have hname : ∀ name (f : Unit → CallValue), Refused ((askName l a call.device.uuid name).map f) := by
    intro name f
    unfold askName
    split
    · next k hs =>
      rw [if_neg (hclosed k hs)]
      exact refused_reject _ f
    · exact refused_reject _ f
    · exact refused_reject _ f
  cases call with
  | writeVendor | resetZero | zero | saveZero | clearZero => exact hsend _ _
  | setDeviceName => exact hname _ _
  | readRegister | readConfig | setTransportMode | writeRegister | writeConfig | startPairing | cancelPairing
  | clearBond | flashSettings => exact hask _ _ _

end Call

end OdysseyHub
