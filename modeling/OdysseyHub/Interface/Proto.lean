import OdysseyHub.Common.Events

/-!
# The messages of the service (service_interface.proto, odyssey_hub_server_interface)

`Device` and `Event` as prost generates them, and the conversions to and from the
common types.  A sub-message may be absent, an enum field is any `i32`, and `bytes`
fields have any length.  A conversion that can panic returns an `Option`, `none`
standing for the panic.

`postcard` is a parameter: the two functions the conversions call.
-/

namespace OdysseyHub

/-- `postcard::to_allocvec` and `postcard::from_bytes` at the packet type `P`; `none` is
an error. -/
structure Postcard (P : Type) where
  toAllocvec : P → Option (List UInt8)
  fromBytes : List UInt8 → Option P

/-- What postcard promises: packets serialize, and are read back. -/
def Postcard.Lossless {P : Type} (postcard : Postcard P) : Prop :=
  ∀ pkt, ∃ bytes, postcard.toAllocvec pkt = some bytes ∧ postcard.fromBytes bytes = some pkt

namespace Proto

/-! ## Messages -/

structure Vector2 where
  x : F32
  y : F32
  deriving DecidableEq, Repr

structure Vector3 where
  x : F32
  y : F32
  z : F32
  deriving DecidableEq, Repr

structure Matrix3x3 where
  m11 : F32
  m12 : F32
  m13 : F32
  m21 : F32
  m22 : F32
  m23 : F32
  m31 : F32
  m32 : F32
  m33 : F32
  deriving DecidableEq, Repr

structure Matrix3x1 where
  m11 : F32
  m21 : F32
  m31 : F32
  deriving DecidableEq, Repr

structure Pose where
  rotation : Option Matrix3x3
  translation : Option Matrix3x1
  deriving DecidableEq, Repr

structure FirmwareVersion where
  major : UInt32
  minor : UInt32
  patch : UInt32
  deriving DecidableEq, Repr

structure Device where
  uuid : List UInt8
  transport : Int32
  firmwareVersion : Option FirmwareVersion
  capabilities : UInt32
  eventsTransport : Int32
  eventsConnected : Bool
  productId : UInt32
  name : String
  deriving DecidableEq, Repr

structure AccelerometerEvent where
  timestamp : UInt32
  acceleration : Option Vector3
  angularVelocity : Option Vector3
  eulerAngles : Option Vector3
  deriving DecidableEq, Repr

structure TrackingEvent where
  timestamp : UInt32
  aimpoint : Option Vector2
  pose : Option Pose
  distance : F32
  screenId : UInt32
  deriving DecidableEq, Repr

inductive DeviceEventOneof
  | accelerometer (e : AccelerometerEvent)
  | tracking (e : TrackingEvent)
  | impact (timestamp : UInt32)
  | packet (bytes : List UInt8)
  | zeroResult (success : Bool)
  | saveZeroResult (success : Bool)
  | capabilitiesChanged
  | pairingResult (success : Bool) (pairedAddress : List UInt8) (error pairedName : String)
  | battery (percent : UInt32) (charging : Bool)
  deriving DecidableEq, Repr

structure DeviceEvent where
  device : Option Device
  deviceEventOneof : Option DeviceEventOneof
  deriving DecidableEq, Repr

inductive EventOneof
  | device (e : DeviceEvent)
  | donglePairingResult (dongleId : String) (success : Bool) (pairedAddress : List UInt8)
      (error pairedName : String)
  deriving DecidableEq, Repr

structure Event where
  eventOneof : Option EventOneof
  deriving DecidableEq, Repr

/-! ## Math types -/

def Vector2.ofVector (v : Vector F32 2) : Vector2 := ⟨v.get 0, v.get 1⟩
def Vector2.toVector (v : Vector2) : Vector F32 2 := vector2 v.x v.y

def Vector3.ofVector (v : Vector F32 3) : Vector3 := ⟨v.get 0, v.get 1, v.get 2⟩
def Vector3.toVector (v : Vector3) : Vector F32 3 := vector3 v.x v.y v.z

def Matrix3x1.ofVector (v : Vector F32 3) : Matrix3x1 := ⟨v.get 0, v.get 1, v.get 2⟩
def Matrix3x1.toVector (v : Matrix3x1) : Vector F32 3 := vector3 v.m11 v.m21 v.m31

def Matrix3x3.ofMatrix (m : Vector F32 9) : Matrix3x3 :=
  ⟨m.get 0, m.get 1, m.get 2, m.get 3, m.get 4, m.get 5, m.get 6, m.get 7, m.get 8⟩

def Matrix3x3.toMatrix (m : Matrix3x3) : Vector F32 9 :=
  matrix3 m.m11 m.m12 m.m13 m.m21 m.m22 m.m23 m.m31 m.m32 m.m33

/-! ## Devices -/

def transportToI32 : Transport → Int32
  | .usb => 0
  | .usbMux => 1
  | .udpMux => 2

/-- `proto::Transport::try_from` -/
def transportOfI32 (i : Int32) : Option Transport :=
  if i = 0 then some .usb else if i = 1 then some .usbMux else if i = 2 then some .udpMux else none

def eventsTransportToI32 : EventsTransport → Int32
  | .wired => 0
  | .bluetooth => 1

/-- `proto::EventsTransport::try_from` -/
def eventsTransportOfI32 (i : Int32) : Option EventsTransport :=
  if i = 0 then some .wired else if i = 1 then some .bluetooth else none

/-- The first six bytes, zero padded. -/
def uuidOfBytes (bytes : List UInt8) : Uuid := Vector.ofFn fun i => bytes.getD i.val 0

@[simp] theorem uuidOfBytes_toList (uuid : Uuid) : uuidOfBytes uuid.toList = uuid := by
  ext i hi
  simp [uuidOfBytes, List.getD_eq_getElem?_getD]

def FirmwareVersion.ofVersion (v : Version) : Option FirmwareVersion :=
  if v = Version.of 0 0 0 then none
  else some ⟨v.major.toUInt32, v.minor.toUInt32, v.patch.toUInt32⟩

def FirmwareVersion.toVersion (v : Option FirmwareVersion) : Version :=
  (v.map fun v => Version.of v.major.toUInt16 v.minor.toUInt16 v.patch.toUInt16).getD (Version.of 0 0 0)

/-- `From<Device> for proto::Device` -/
def Device.ofDevice (d : OdysseyHub.Device) : Device :=
  { uuid := d.uuid.toList
    transport := transportToI32 d.transport
    firmwareVersion := FirmwareVersion.ofVersion d.firmwareVersion
    capabilities := d.capabilities.bits.toUInt32
    eventsTransport := eventsTransportToI32 d.eventsTransport
    eventsConnected := d.eventsConnected
    productId := d.productId.toUInt32
    name := d.nameStr }

/-- `From<proto::Device> for Device`: the enum fields are unwrapped. -/
def Device.toDevice (d : Device) : Option OdysseyHub.Device := do
  some
    { uuid := uuidOfBytes d.uuid
      transport := ← transportOfI32 d.transport
      capabilities := ⟨d.capabilities.toUInt8⟩
      firmwareVersion := FirmwareVersion.toVersion d.firmwareVersion
      eventsTransport := ← eventsTransportOfI32 d.eventsTransport
      eventsConnected := d.eventsConnected
      productId := d.productId.toUInt16
      name := OdysseyHub.Device.nameBytes d.name }

/-! ## Events -/

section
variable {P : Type} (postcard : Postcard P)

def DeviceEventOneof.ofKind : Events.DeviceEventKind P → Option DeviceEventOneof
  | .accelerometerEvent e =>
    some <| .accelerometer
      { timestamp := e.timestamp
        acceleration := some (.ofVector e.accel)
        angularVelocity := some (.ofVector e.gyro)
        eulerAngles := some (.ofVector e.eulerAngles) }
  | .trackingEvent e =>
    some <| .tracking
      { timestamp := e.timestamp
        aimpoint := some (.ofVector e.aimpoint)
        pose := some
          { rotation := some (.ofMatrix e.pose.rotation)
            translation := some (.ofVector e.pose.translation) }
        distance := e.distance
        screenId := e.screenId }
  | .impactEvent e => some (.impact e.timestamp)
  | .packetEvent pkt => (postcard.toAllocvec pkt).map .packet
  | .zeroResult success => some (.zeroResult success)
  | .saveZeroResult success => some (.saveZeroResult success)
  | .capabilitiesChanged => some .capabilitiesChanged
  | .pairingResult success pairedAddress pairedName error =>
    some (.pairingResult success pairedAddress.toList error pairedName)
  | .batteryEvent e => some (.battery e.percent.toUInt32 e.charging)

/-- `From<Event> for proto::Event` -/
def Event.ofEvent : Events.Event P → Option Event
  | .deviceEvent device kind => do
    let oneof ← DeviceEventOneof.ofKind postcard kind
    some ⟨some (.device ⟨some (Device.ofDevice device), some oneof⟩)⟩
  | .donglePairingResult dongleId success pairedAddress pairedName error =>
    some ⟨some (.donglePairingResult dongleId success pairedAddress.toList error pairedName)⟩

/-- Each `expect` is a `←`. -/
def DeviceEventOneof.toKind : DeviceEventOneof → Option (Events.DeviceEventKind P)
  | .accelerometer e => do
    some <| .accelerometerEvent
      { timestamp := e.timestamp
        accel := (← e.acceleration).toVector
        gyro := (← e.angularVelocity).toVector
        eulerAngles := (← e.eulerAngles).toVector }
  | .tracking e => do
    let aimpoint ← e.aimpoint
    let p ← e.pose
    some <| .trackingEvent
      { timestamp := e.timestamp
        aimpoint := aimpoint.toVector
        pose := { rotation := (← p.rotation).toMatrix, translation := (← p.translation).toVector }
        distance := e.distance
        screenId := e.screenId }
  | .impact timestamp => some (.impactEvent ⟨timestamp⟩)
  | .packet bytes => (postcard.fromBytes bytes).map .packetEvent
  | .zeroResult success => some (.zeroResult success)
  | .saveZeroResult success => some (.saveZeroResult success)
  | .capabilitiesChanged => some .capabilitiesChanged
  | .pairingResult success pairedAddress error pairedName =>
    some (.pairingResult success (uuidOfBytes pairedAddress) pairedName error)
  | .battery percent charging => some (.batteryEvent ⟨percent.toUInt8, charging⟩)

/-- `TryFrom<proto::Event> for Event` -/
def Event.tryInto (event : Event) : Option (Except Unit (Events.Event P)) :=
  match event.eventOneof with
  | none => some (.error ())
  | some (.donglePairingResult dongleId success pairedAddress error pairedName) =>
    some (.ok (.donglePairingResult dongleId success (uuidOfBytes pairedAddress) pairedName error))
  | some (.device d) =>
    match d.device with
    | none => some (.error ())
    | some dev => do
      let device ← dev.toDevice
      match d.deviceEventOneof with
      | none => some (.error ())
      | some oneof => do
        let kind ← oneof.toKind postcard
        some (.ok (.deviceEvent device kind))

end

end Proto

end OdysseyHub
