import OdysseyHub.Common.Device

/-!
# Events (odyssey_hub_common::events)

What the server streams to its clients.  A packet is carried as it is; its type comes
from the firmware's library and is a parameter.
-/

namespace OdysseyHub

/-- `f32` values are only carried here: their bit patterns. -/
abbrev F32 := UInt32

def vector2 (x y : F32) : Vector F32 2 := #v[x, y]

def vector3 (x y z : F32) : Vector F32 3 := #v[x, y, z]

/-- Entries row by row. -/
def matrix3 (m11 m12 m13 m21 m22 m23 m31 m32 m33 : F32) : Vector F32 9 :=
  #v[m11, m12, m13, m21, m22, m23, m31, m32, m33]

theorem vector2_get (v : Vector F32 2) : vector2 (v.get 0) (v.get 1) = v := by
  ext i hi
  obtain rfl | rfl : i = 0 ∨ i = 1 := by omega
  · rfl
  · rfl

theorem vector3_get (v : Vector F32 3) : vector3 (v.get 0) (v.get 1) (v.get 2) = v := by
  ext i hi
  obtain rfl | rfl | rfl : i = 0 ∨ i = 1 ∨ i = 2 := by omega
  · rfl
  · rfl
  · rfl

theorem matrix3_get (m : Vector F32 9) :
    matrix3 (m.get 0) (m.get 1) (m.get 2) (m.get 3) (m.get 4) (m.get 5) (m.get 6) (m.get 7) (m.get 8) = m := by
  ext i hi
  obtain rfl | rfl | rfl | rfl | rfl | rfl | rfl | rfl | rfl :
    i = 0 ∨ i = 1 ∨ i = 2 ∨ i = 3 ∨ i = 4 ∨ i = 5 ∨ i = 6 ∨ i = 7 ∨ i = 8 := by omega
  all_goals rfl

structure Pose where
  rotation : Vector F32 9
  translation : Vector F32 3
  deriving DecidableEq, Repr

structure TrackingEvent where
  timestamp : UInt32
  aimpoint : Vector F32 2
  pose : Pose
  distance : F32
  screenId : UInt32
  deriving DecidableEq, Repr

structure AccelerometerEvent where
  timestamp : UInt32
  accel : Vector F32 3
  gyro : Vector F32 3
  eulerAngles : Vector F32 3
  deriving DecidableEq, Repr

structure ImpactEvent where
  timestamp : UInt32
  deriving DecidableEq, Repr

structure BatteryEvent where
  percent : UInt8
  charging : Bool
  deriving DecidableEq, Repr

namespace Events

/-- `P` is `ats_usb::packets::vm::Packet`. -/
inductive DeviceEventKind (P : Type)
  | accelerometerEvent (e : AccelerometerEvent)
  | trackingEvent (e : TrackingEvent)
  | impactEvent (e : ImpactEvent)
  | zeroResult (ok : Bool)
  | saveZeroResult (ok : Bool)
  | packetEvent (pkt : P)
  | capabilitiesChanged
  | pairingResult (success : Bool) (pairedAddress : Uuid) (pairedName error : String)
  | batteryEvent (e : BatteryEvent)
  deriving DecidableEq, Repr

inductive Event (P : Type)
  | deviceEvent (device : Device) (kind : DeviceEventKind P)
  | donglePairingResult (dongleId : String) (success : Bool) (pairedAddress : Uuid)
      (pairedName error : String)
  deriving DecidableEq, Repr

end Events

end OdysseyHub
