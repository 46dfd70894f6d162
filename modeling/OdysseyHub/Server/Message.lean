import OdysseyHub.Common.Events

/-!
# Messages (device_tasks.rs)

What the tasks of the server send each other: `DeviceTaskMessage` into a device
handler, `DongleTaskMessage` into a hub manager, `Message` from all of them to
`event_fwd_stream`.  A sender half is the number of the task that holds the
receiver.  The reply channel of a request is not part of the message: a handler's
replies are among its effects (Handler.lean).
-/

namespace OdysseyHub

/-- An incarnation of `device_handler_task`, and the sender of its command channel. -/
abbrev HandlerId := Nat

/-- An incarnation of a hub manager task, and the sender of its command channel. -/
abbrev ManagerId := Nat

/-- Where a `VmDevice` handle talks to: `connect_usb_any_mode` or `connect_via_mux`. -/
inductive Link
  | usb
  | mux
  deriving DecidableEq, Repr

/-- A connected `VmDevice`; clones are equal, separate connections differ. -/
structure VmDevice where
  link : Link
  session : Nat
  deriving DecidableEq, Repr

inductive TransportMode
  | usb
  | ble
  deriving DecidableEq, Repr

/-- Control messages sent into a per-device task. -/
inductive DeviceTaskMessage
  | resetZero
  | saveZero
  | writeVendor (tag : UInt8) (data : List UInt8)
  | setShotDelay (ms : UInt16)
  | zero (trans : Vector F32 3) (point : Vector F32 2) (trackingEvent : Option TrackingEvent)
  | clearZero
  | readRegister (port bank address : UInt8)
  | writeRegister (port bank address data : UInt8)
  | readConfig (kind : UInt8)
  | writeConfig (kind value : UInt8)
  | flashSettings
  | startPairing (timeoutMs : UInt32)
  | cancelPairing
  | clearBond
  | setTransportMode (usbMode : Bool)
  | setDeviceName (name : String)
  | addEventsDevice (dev : VmDevice) (version : Version)
  | addControlDevice (dev : VmDevice)
  | removeControlDevice
  | removeEventsDevice
  deriving DecidableEq, Repr

/-- The messages the USB scan and the hub managers send.  Every other message comes
from an RPC of the server. -/
def DeviceTaskMessage.isLink : DeviceTaskMessage → Bool
  | .addEventsDevice _ _ | .addControlDevice _ | .removeControlDevice | .removeEventsDevice => true
  | _ => false

/-- Dongle metadata (for the dongle list). -/
structure DongleInfo where
  id : String
  protocolVersion : Version
  controlProtocolVersion : Version
  firmwareVersion : Version
  connectedDevices : List Uuid
  bondedDevices : List Uuid
  deriving DecidableEq, Repr

/-- `version >= required`, component by component. -/
def semverAtLeast (version required : Version) : Bool :=
  decide (version.major > required.major)
    || (version.major == required.major && decide (version.minor > required.minor))
    || (version.major == required.major && version.minor == required.minor
      && decide (version.patch ≥ required.patch))

/-- Messages emitted by device_tasks to the rest of the system. -/
inductive Message
  | connect (device : Device) (commands : Option HandlerId)
  | disconnect (device : Device)
  | updateDevice (device : Device)
  | updateName (uuid : Uuid) (name : String)
  | dongleConnect (info : DongleInfo) (commands : ManagerId)
  | dongleUpdate (info : DongleInfo)
  | dongleDisconnect (id : String)
  deriving DecidableEq, Repr

end OdysseyHub
