import OdysseyHub.Interface.AccessoryWire
import OdysseyHub.Server.Accessories
import OdysseyHub.Server.DeviceList

/-!
# Requests (server.rs)

The RPCs that hand a command to the task of a device, and `update_accessory_info_map`, from
the message of the client on.  Where a task is asked, what its channel and its reply do is
an input.  A request is answered, with a reply or a status, exactly when its enum fields
hold values the service knows (`request_answered_iff`): the conversions unwrap them.
`none` is a panic.
-/

namespace OdysseyHub

/-- `tonic::Status` -/
inductive Status
  | invalidArgument (message : String)
  | notFound (message : String)
  | unavailable (message : String)
  | internal (message : String)
  deriving DecidableEq, Repr

namespace Proto

structure WriteVendorRequest where
  device : Option Device
  tag : UInt32
  data : List UInt8

structure ReadRegisterRequest where
  device : Option Device
  port : UInt32
  bank : UInt32
  address : UInt32

structure WriteRegisterRequest where
  device : Option Device
  port : UInt32
  bank : UInt32
  address : UInt32
  data : UInt32

structure ReadConfigRequest where
  device : Option Device
  kind : UInt32

structure WriteConfigRequest where
  device : Option Device
  kind : UInt32
  value : UInt32

structure FlashSettingsRequest where
  device : Option Device

structure StartPairingRequest where
  device : Option Device
  timeoutMs : UInt32

structure CancelPairingRequest where
  device : Option Device

structure ClearBondRequest where
  device : Option Device

structure SetTransportModeRequest where
  device : Option Device
  usbMode : Bool

structure SetDeviceNameRequest where
  device : Option Device
  name : String

structure ZeroRequest where
  device : Option Device
  translation : Option Vector3
  target : Option Vector2
  trackingEvent : Option TrackingEvent

end Proto

/-- What a command meets: whether the channel of the task takes it, and how its reply
channel ends, `none` where the task drops it. -/
structure TaskAnswers where
  accepts : Bool
  done : Option (Except String Unit)
  byte : Option (Except String UInt8)
  mode : Option (Except String Bool)

/-- The command a request has sent, and its outcome. -/
structure Served (α : Type) where
  sent : Option (HandlerId × DeviceTaskMessage)
  result : Except Status α

namespace Requests

variable {α : Type} (l : DeviceList) (a : TaskAnswers)

/-! ## What the handlers share -/

def reject (status : Status) : Served α := { sent := none, result := .error status }

/-- `reply_rx.await` -/
def replied (reply : Option (Except String α)) : Except Status α :=
  match reply with
  | some (.ok v) => .ok v
  | some (.error e) => .error (.internal e)
  | none => .error (.internal "device task dropped reply")

/-- `try_send` to the task of a device; a listed device may have a closed channel. -/
def trySend (uuid : Uuid) (m : DeviceTaskMessage) : Served Unit :=
  match l.senderForUuid uuid with
  | some (some k) =>
    if a.accepts then { sent := some (k, m), result := .ok () }
    else reject (.unavailable "device task not available")
  | some none => reject (.unavailable "device task not available")
  | none => reject (.notFound "device")

/-- `send`, then wait for the reply. -/
def ask (uuid : Uuid) (m : DeviceTaskMessage) (reply : Option (Except String α)) : Served α :=
  match l.senderForUuid uuid with
  | some (some k) =>
    if a.accepts then { sent := some (k, m), result := replied reply }
    else reject (.unavailable "device task not available")
  | some none => reject (.unavailable "device task not available")
  | none => reject (.notFound "device")

/-- `device.ok_or_else(..)?.into()` -/
def withDevice (device : Option Proto.Device) (k : Device → Served α) : Option (Served α) :=
  match device with
  | none => some (reject (.invalidArgument "device missing"))
  | some d => d.toDevice.map k

/-- A byte of a reply, as the message for the client holds it. -/
def word (reply : Option (Except String UInt8)) : Option (Except String UInt32) :=
  reply.map fun r => r.map UInt8.toUInt32

/-! ## Register and config -/

def writeVendor (r : Proto.WriteVendorRequest) : Option (Served Unit) :=
  withDevice r.device fun dev => trySend l a dev.uuid (.writeVendor r.tag.toUInt8 r.data)

def readRegister (r : Proto.ReadRegisterRequest) : Option (Served UInt32) :=
  withDevice r.device fun dev =>
    ask l a dev.uuid (.readRegister r.port.toUInt8 r.bank.toUInt8 r.address.toUInt8) (word a.byte)

def writeRegister (r : Proto.WriteRegisterRequest) : Option (Served Unit) :=
  withDevice r.device fun dev =>
    ask l a dev.uuid (.writeRegister r.port.toUInt8 r.bank.toUInt8 r.address.toUInt8 r.data.toUInt8) a.done

def readConfig (r : Proto.ReadConfigRequest) : Option (Served UInt32) :=
  withDevice r.device fun dev => ask l a dev.uuid (.readConfig r.kind.toUInt8) (word a.byte)

def writeConfig (r : Proto.WriteConfigRequest) : Option (Served Unit) :=
  withDevice r.device fun dev => ask l a dev.uuid (.writeConfig r.kind.toUInt8 r.value.toUInt8) a.done

def flashSettings (r : Proto.FlashSettingsRequest) : Option (Served Unit) :=
  withDevice r.device fun dev => ask l a dev.uuid .flashSettings a.done

/-! ## Pairing, transport and name -/

def startPairing (r : Proto.StartPairingRequest) : Option (Served Unit) :=
  withDevice r.device fun dev => ask l a dev.uuid (.startPairing r.timeoutMs) a.done

def cancelPairing (r : Proto.CancelPairingRequest) : Option (Served Unit) :=
  withDevice r.device fun dev => ask l a dev.uuid .cancelPairing a.done

def clearBond (r : Proto.ClearBondRequest) : Option (Served Unit) :=
  withDevice r.device fun dev => ask l a dev.uuid .clearBond a.done

def setTransportMode (r : Proto.SetTransportModeRequest) : Option (Served Bool) :=
  withDevice r.device fun dev => ask l a dev.uuid (.setTransportMode r.usbMode) a.mode

/-- A failed send drops the reply channel with the message. -/
def askName (uuid : Uuid) (name : String) : Served Unit :=
  match l.senderForUuid uuid with
  | some (some k) =>
    if a.accepts then { sent := some (k, .setDeviceName name), result := replied a.done }
    else reject (.internal "device task dropped reply")
  | some none => reject (.internal "device task dropped reply")
  | none => reject (.notFound "device")

/-- With the device list it leaves. -/
def setDeviceName (r : Proto.SetDeviceNameRequest) : Option (Served Unit × DeviceList) :=
  match r.device with
  | none => some (reject (.invalidArgument "device missing"), l)
  | some d =>
    d.toDevice.map fun dev =>
      let served := askName l a dev.uuid r.name
      match served.result with
      | .ok () => (served, l.update dev.uuid fun e => (e.1.setName r.name, e.2))
      | .error _ => (served, l)

/-! ## Zero -/

def clearZero (d : Proto.Device) : Option (Served Unit) :=
  d.toDevice.map fun dev => trySend l a dev.uuid .clearZero

def resetZero (d : Proto.Device) : Option (Served Unit) :=
  d.toDevice.map fun dev => trySend l a dev.uuid .resetZero

def saveZero (d : Proto.Device) : Option (Served Unit) :=
  d.toDevice.map fun dev => trySend l a dev.uuid .saveZero

/-- `ok_or_else(|| Status::invalid_argument(message))` -/
def orInvalid (o : Option α) (message : String) : Except Status α :=
  match o with
  | some v => .ok v
  | none => .error (.invalidArgument message)

def zeroTracking (te : Proto.TrackingEvent) : Except Status TrackingEvent := do
  let pose ← orInvalid te.pose "tracking_event.pose missing"
  let aimpoint ← orInvalid te.aimpoint "tracking_event.aimpoint missing"
  let rotation ← orInvalid pose.rotation "tracking_event.pose.rotation missing"
  let translation ← orInvalid pose.translation "tracking_event.pose.translation missing"
  .ok
    { timestamp := te.timestamp
      aimpoint := aimpoint.toVector
      pose := { rotation := rotation.toMatrix, translation := translation.toVector }
      distance := te.distance
      screenId := te.screenId }

def zeroMessage (r : Proto.ZeroRequest) : Except Status DeviceTaskMessage := do
  let trans ← orInvalid r.translation "translation missing"
  let point ← orInvalid r.target "target missing"
  match r.trackingEvent with
  | none => .ok (.zero trans.toVector point.toVector none)
  | some te =>
    let te ← zeroTracking te
    .ok (.zero trans.toVector point.toVector (some te))

def zero (r : Proto.ZeroRequest) : Option (Served Unit) :=
  withDevice r.device fun dev =>
    match zeroMessage r with
    | .error status => reject status
    | .ok m => trySend l a dev.uuid m

/-! ## Accessories -/

/-- `update_accessory_info_map` from the message of the client on. -/
def updateAccessoryInfoMap (json5 : Json5 AccessoryInfo) (s : Accessories) (u : UpdateAnswers)
    (v : Proto.AccessoryInfoMap) : Option (Except Status (Accessories × AccessoryMap)) := do
  let incoming ← v.toMap
  match ← s.updateAccessoryInfoMap json5 incoming u with
  | .error e => some (.error (.internal e))
  | .ok r => some (.ok r)

/-! ## Answered or not -/

/-- `Transport::try_from` and `EventsTransport::try_from` succeed. -/
def KnownDevice (d : Proto.Device) : Prop :=
  (d.transport = 0 ∨ d.transport = 1 ∨ d.transport = 2) ∧ (d.eventsTransport = 0 ∨ d.eventsTransport = 1)

/-- `AccessoryType::try_from` and each `AccessoryFeature::try_from` succeed. -/
def KnownAccessory (info : Proto.AccessoryInfo) : Prop :=
  (info.ty = 0 ∨ info.ty = 1) ∧ ∀ f ∈ info.features, f = 0

theorem transportOfI32_isSome (i : Int32) : (Proto.transportOfI32 i).isSome ↔ i = 0 ∨ i = 1 ∨ i = 2 := by
  unfold Proto.transportOfI32
  split
  · simp_all
  · split
    · simp_all
    · split <;> simp_all

theorem eventsTransportOfI32_isSome (i : Int32) : (Proto.eventsTransportOfI32 i).isSome ↔ i = 0 ∨ i = 1 := by
  unfold Proto.eventsTransportOfI32
  split
  · simp_all
  · split <;> simp_all

theorem toDevice_isSome_iff (d : Proto.Device) : d.toDevice.isSome ↔ KnownDevice d := by
  unfold KnownDevice
  rw [← transportOfI32_isSome, ← eventsTransportOfI32_isSome]
  unfold Proto.Device.toDevice
  cases Proto.transportOfI32 d.transport with
  | none => simp
  | some t =>
    cases Proto.eventsTransportOfI32 d.eventsTransport with
    | none => simp
    | some e => simp

theorem mapM_features_isSome (l : List Int32) :
    (l.mapM Proto.accessoryFeatureOfI32).isSome ↔ ∀ f ∈ l, f = 0 := by
  induction l with
  | nil => exact ⟨fun _ f hf => absurd hf List.not_mem_nil, fun _ => rfl⟩
  | cons f l ih =>
    rw [List.mapM_cons, List.forall_mem_cons, ← ih]
    by_cases hf : f = 0
    · have hknown : Proto.accessoryFeatureOfI32 f = some .impact := if_pos hf
      rw [hknown]
      cases l.mapM Proto.accessoryFeatureOfI32 with
      | none => simp
      | some fs => simp [hf]
    · have hunknown : Proto.accessoryFeatureOfI32 f = none := if_neg hf
      rw [hunknown]
      simp [hf]

theorem toInfo_isSome_iff (info : Proto.AccessoryInfo) : info.toInfo.isSome ↔ KnownAccessory info := by
  have hty : (Proto.accessoryTypeOfI32 info.ty).isSome ↔ info.ty = 0 ∨ info.ty = 1 := by
    unfold Proto.accessoryTypeOfI32
    split
    · simp_all
    · split <;> simp_all
  unfold KnownAccessory
  rw [← hty, ← mapM_features_isSome]
  unfold Proto.AccessoryInfo.toInfo
  cases Proto.accessoryTypeOfI32 info.ty with
  | none => simp
  | some t =>
    cases info.features.mapM Proto.accessoryFeatureOfI32 with
    | none => simp
    | some fs => simp

section
variable {l a}

theorem withDevice_isSome_iff {device : Option Proto.Device} {k : Device → Served α} :
    (withDevice device k).isSome ↔ ∀ d, device = some d → KnownDevice d := by
  cases device with
  | none => exact ⟨fun _ d hd => (by cases hd), fun _ => rfl⟩
  | some d =>
    show (d.toDevice.map k).isSome ↔ _
    rw [Option.isSome_map, toDevice_isSome_iff]
    exact ⟨fun h e he => Option.some.inj he ▸ h, fun h => h d rfl⟩

theorem setDeviceName_isSome_iff {r : Proto.SetDeviceNameRequest} :
    (setDeviceName l a r).isSome ↔ ∀ d, r.device = some d → KnownDevice d := by
  unfold setDeviceName
  cases r.device with
  | none => exact ⟨fun _ d hd => (by cases hd), fun _ => rfl⟩
  | some d =>
    show (d.toDevice.map _).isSome ↔ _
    rw [Option.isSome_map, toDevice_isSome_iff]
    exact ⟨fun h e he => Option.some.inj he ▸ h, fun h => h d rfl⟩

end

/-- The save and the reload of a map do not panic. -/
theorem update_isSome {json5 : Json5 AccessoryInfo} (hj : json5.Lossless) (s : Accessories)
    (incoming : AccessoryInfoMap) (u : UpdateAnswers) : (s.updateAccessoryInfoMap json5 incoming u).isSome := by
  unfold Accessories.updateAccessoryInfoMap
  cases hsave : Accessories.save json5 incoming u with
  | error e => rfl
  | ok file =>
    obtain ⟨text, htext, rfl⟩ := Accessories.save_ok hsave
    obtain ⟨r, hr⟩ := Config.load_contents_answers hj incoming htext "accessory_map.json" u.reload
    show ((accessoryMapAsync json5 _ u.reload).bind _).isSome
    rw [accessoryMapAsync, hr]
    rfl

theorem updateAccessoryInfoMap_isSome_iff {json5 : Json5 AccessoryInfo} (hj : json5.Lossless) (s : Accessories)
    (u : UpdateAnswers) (v : Proto.AccessoryInfoMap) : (updateAccessoryInfoMap json5 s u v).isSome ↔
      ∀ k info, v.accessoryInfoMap.lookup k = some info → KnownAccessory info := by
  have hmap : v.toMap.isSome ↔ ∀ k info, v.accessoryInfoMap.lookup k = some info → KnownAccessory info := by
    refine (HashMap.isSome_collect_iff _ _ _).trans ?_
    exact forall_congr' fun k => forall_congr' fun info => imp_congr_right fun _ => toInfo_isSome_iff info
  rw [← hmap]
  unfold updateAccessoryInfoMap
  cases v.toMap with
  | none => exact Iff.rfl
  | some incoming =>
    obtain ⟨r, hr⟩ := Option.isSome_iff_exists.mp (update_isSome hj s incoming u)
    refine iff_of_true ?_ rfl
    show ((s.updateAccessoryInfoMap json5 incoming u).bind _).isSome
    rw [hr]
    cases r with
    | error e => rfl
    | ok r => rfl

end Requests

/-- The requests with a device to convert, or accessories. -/
inductive Request
  | writeVendor (r : Proto.WriteVendorRequest)
  | readRegister (r : Proto.ReadRegisterRequest)
  | writeRegister (r : Proto.WriteRegisterRequest)
  | readConfig (r : Proto.ReadConfigRequest)
  | writeConfig (r : Proto.WriteConfigRequest)
  | flashSettings (r : Proto.FlashSettingsRequest)
  | startPairing (r : Proto.StartPairingRequest)
  | cancelPairing (r : Proto.CancelPairingRequest)
  | clearBond (r : Proto.ClearBondRequest)
  | setTransportMode (r : Proto.SetTransportModeRequest)
  | setDeviceName (r : Proto.SetDeviceNameRequest)
  | clearZero (d : Proto.Device)
  | resetZero (d : Proto.Device)
  | saveZero (d : Proto.Device)
  | zero (r : Proto.ZeroRequest)
  | updateAccessoryInfoMap (v : Proto.AccessoryInfoMap) (u : UpdateAnswers)

namespace Request

open Requests

def device : Request → Option Proto.Device
  | .writeVendor r => r.device
  | .readRegister r => r.device
  | .writeRegister r => r.device
  | .readConfig r => r.device
  | .writeConfig r => r.device
  | .flashSettings r => r.device
  | .startPairing r => r.device
  | .cancelPairing r => r.device
  | .clearBond r => r.device
  | .setTransportMode r => r.device
  | .setDeviceName r => r.device
  | .clearZero d | .resetZero d | .saveZero d => some d
  | .zero r => r.device
  | .updateAccessoryInfoMap _ _ => none

def accessories : Request → Option Proto.AccessoryInfoMap
  | .updateAccessoryInfoMap v _ => some v
  | _ => none

/-- The handler returns a reply or a status. -/
def Answered (json5 : Json5 AccessoryInfo) (s : Accessories) (l : DeviceList) (a : TaskAnswers) : Request → Prop
  | .writeVendor r => (Requests.writeVendor l a r).isSome
  | .readRegister r => (Requests.readRegister l a r).isSome
  | .writeRegister r => (Requests.writeRegister l a r).isSome
  | .readConfig r => (Requests.readConfig l a r).isSome
  | .writeConfig r => (Requests.writeConfig l a r).isSome
  | .flashSettings r => (Requests.flashSettings l a r).isSome
  | .startPairing r => (Requests.startPairing l a r).isSome
  | .cancelPairing r => (Requests.cancelPairing l a r).isSome
  | .clearBond r => (Requests.clearBond l a r).isSome
  | .setTransportMode r => (Requests.setTransportMode l a r).isSome
  | .setDeviceName r => (Requests.setDeviceName l a r).isSome
  | .clearZero d => (Requests.clearZero l a d).isSome
  | .resetZero d => (Requests.resetZero l a d).isSome
  | .saveZero d => (Requests.saveZero l a d).isSome
  | .zero r => (Requests.zero l a r).isSome
  | .updateAccessoryInfoMap v u => (Requests.updateAccessoryInfoMap json5 s u v).isSome

/-- All enum fields hold values of the service. -/
def Known (req : Request) : Prop :=
  (∀ d, req.device = some d → KnownDevice d) ∧
    ∀ v, req.accessories = some v → ∀ k info, v.accessoryInfoMap.lookup k = some info → KnownAccessory info

theorem iff_known {req : Request} {p : Prop} (h : req.accessories = none)
    (hp : p ↔ ∀ d, req.device = some d → KnownDevice d) : p ↔ req.Known := by
  unfold Known
  rw [hp, h]
  exact (and_iff_left fun v hv => (by cases hv)).symm

/-- A request that is its device alone. -/
theorem map_isSome_iff {α : Type} {d : Proto.Device} {f : Device → Served α} :
    (d.toDevice.map f).isSome ↔ ∀ d', some d = some d' → KnownDevice d' := by
  rw [Option.isSome_map, toDevice_isSome_iff]
  exact ⟨fun h e he => Option.some.inj he ▸ h, fun h => h d rfl⟩

/-- **Requests.**  A request is answered, and does not panic, exactly when the service knows
the values of its enum fields. -/
theorem request_answered_iff {json5 : Json5 AccessoryInfo} (hj : json5.Lossless) (s : Accessories)
    (l : DeviceList) (a : TaskAnswers) (req : Request) : req.Answered json5 s l a ↔ req.Known := by
  cases req with
  | updateAccessoryInfoMap v u =>
    refine (updateAccessoryInfoMap_isSome_iff hj s u v).trans ?_
    constructor
    · intro h
      refine ⟨fun d hd => (by cases hd), fun v' hv' => ?_⟩
      cases hv'
      exact h
    · intro h
      exact h.2 v rfl
  | setDeviceName r => exact iff_known rfl setDeviceName_isSome_iff
  | clearZero d => exact iff_known rfl map_isSome_iff
  | resetZero d => exact iff_known rfl map_isSome_iff
  | saveZero d => exact iff_known rfl map_isSome_iff
  | writeVendor r => exact iff_known rfl withDevice_isSome_iff
  | readRegister r => exact iff_known rfl withDevice_isSome_iff
  | writeRegister r => exact iff_known rfl withDevice_isSome_iff
  | readConfig r => exact iff_known rfl withDevice_isSome_iff
  | writeConfig r => exact iff_known rfl withDevice_isSome_iff
  | flashSettings r => exact iff_known rfl withDevice_isSome_iff
  | startPairing r => exact iff_known rfl withDevice_isSome_iff
  | cancelPairing r => exact iff_known rfl withDevice_isSome_iff
  | clearBond r => exact iff_known rfl withDevice_isSome_iff
  | setTransportMode r => exact iff_known rfl withDevice_isSome_iff
  | zero r => exact iff_known rfl withDevice_isSome_iff

/-! ## A transport of a later service -/

def wireDevice (transport : Int32) : Proto.Device :=
  { uuid := [1, 2, 3, 4, 5, 6], transport := transport, firmwareVersion := none, capabilities := 1
    eventsTransport := 0, eventsConnected := false, productId := 0, name := "" }

def noAccessories : Accessories := { file := none, info := ∅, map := ∅ }

def noAnswers : TaskAnswers := { accepts := true, done := none, byte := none, mode := none }

theorem request_answered_iff_usb :
    (Request.readConfig ⟨some (wireDevice 0), 1⟩).Answered Accessories.sampleJson noAccessories [] noAnswers ↔
      (Request.readConfig ⟨some (wireDevice 0), 1⟩).Known :=
  request_answered_iff Accessories.sampleJson_lossless noAccessories [] noAnswers
    (.readConfig ⟨some (wireDevice 0), 1⟩)

theorem request_panics :
    ¬ ∀ (json5 : Json5 AccessoryInfo) (s : Accessories) (l : DeviceList) (a : TaskAnswers) (req : Request),
      json5.Lossless → req.Answered json5 s l a := by
  intro hall
  have h : (Requests.readConfig [] noAnswers ⟨some (wireDevice 3), 1⟩).isSome = true :=
    hall Accessories.sampleJson noAccessories [] noAnswers (.readConfig ⟨some (wireDevice 3), 1⟩)
      Accessories.sampleJson_lossless
  have hpanic : Requests.readConfig [] noAnswers ⟨some (wireDevice 3), 1⟩ = none := rfl
  rw [hpanic] at h
  cases h

end Request

end OdysseyHub
