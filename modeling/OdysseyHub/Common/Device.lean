import Mathlib.Data.BitVec

/-!
# Devices (odyssey_hub_common::device)

The `Device` record every table, message and event carries, with its capability
bits and its name buffer.
-/

namespace OdysseyHub

/-- A device UUID or a BLE address: `[u8; 6]`. -/
abbrev Uuid := Vector UInt8 6

namespace Uuid

/-- `[b0, b1, b2, b3, b4, b5]` -/
def of (b0 b1 b2 b3 b4 b5 : UInt8) : Uuid := #v[b0, b1, b2, b3, b4, b5]

instance : LawfulBEq Uuid := inferInstance

end Uuid

/-- `[major, minor, patch]`: `[u16; 3]`. -/
abbrev Version := Vector UInt16 3

namespace Version

/-- `[major, minor, patch]` -/
def of (major minor patch : UInt16) : Version := #v[major, minor, patch]

def major (v : Version) : UInt16 := v[0]
def minor (v : Version) : UInt16 := v[1]
def patch (v : Version) : UInt16 := v[2]

end Version

inductive Transport
  | usb
  | usbMux
  | udpMux
  deriving DecidableEq, Repr

inductive EventsTransport
  | wired
  | bluetooth
  deriving DecidableEq, Repr

/-! ## Capability bits -/

structure DeviceCapabilities where
  bits : UInt8
  deriving DecidableEq, Repr

namespace DeviceCapabilities

def CONTROL : UInt8 := 0b01
def EVENTS : UInt8 := 0b10
def DFU : UInt8 := 0b100

def empty : DeviceCapabilities := ⟨0⟩

def contains (c : DeviceCapabilities) (flag : UInt8) : Bool := (c.bits &&& flag) == flag

def insert (c : DeviceCapabilities) (flag : UInt8) : DeviceCapabilities := ⟨c.bits ||| flag⟩

def remove (c : DeviceCapabilities) (flag : UInt8) : DeviceCapabilities := ⟨c.bits &&& ~~~flag⟩

theorem contains_iff (c : DeviceCapabilities) (flag : UInt8) :
    c.contains flag = true ↔ c.bits &&& flag = flag := by
  simp [contains]

theorem contains_insert_self (c : DeviceCapabilities) (flag : UInt8) :
    (c.insert flag).contains flag = true := by
  rw [contains_iff, insert, ← UInt8.toBitVec_inj, UInt8.toBitVec_and, UInt8.toBitVec_or]
  ext i hi
  simp only [BitVec.getElem_and, BitVec.getElem_or]
  cases flag.toBitVec[i] <;> simp

/-- A flag is read and written apart from the flags it shares no bit with. -/
theorem contains_insert_of_disjoint (c : DeviceCapabilities) {flag other : UInt8}
    (h : other &&& flag = 0) : (c.insert other).contains flag = c.contains flag := by
  have hb : (c.bits ||| other) &&& flag = c.bits &&& flag := by
    have h' := congrArg UInt8.toBitVec h
    rw [UInt8.toBitVec_and] at h'
    rw [← UInt8.toBitVec_inj, UInt8.toBitVec_and, UInt8.toBitVec_or, UInt8.toBitVec_and,
      BitVec.and_or_distrib_right, h']
    simp
  simp [contains, insert, hb]

theorem contains_remove_self (c : DeviceCapabilities) {flag : UInt8} (h : flag ≠ 0) :
    (c.remove flag).contains flag = false := by
  have hb : c.bits &&& ~~~flag &&& flag = 0 := by
    rw [← UInt8.toBitVec_inj]
    ext i hi
    simp
  simp only [contains, remove, hb]
  simpa using h.symm

theorem contains_remove_of_disjoint (c : DeviceCapabilities) {flag other : UInt8}
    (h : other &&& flag = 0) : (c.remove other).contains flag = c.contains flag := by
  have hb : c.bits &&& ~~~other &&& flag = c.bits &&& flag := by
    have h' := congrArg UInt8.toBitVec h
    rw [UInt8.toBitVec_and] at h'
    rw [← UInt8.toBitVec_inj]
    ext i hi
    have hi' : (other.toBitVec &&& flag.toBitVec)[i] = (0#8)[i] := by
      rw [h']; rfl
    simp only [BitVec.getElem_and, BitVec.getElem_zero] at hi'
    simp only [UInt8.toBitVec_and, UInt8.toBitVec_not, BitVec.getElem_and, BitVec.getElem_not]
    revert hi'
    cases other.toBitVec[i] <;> cases flag.toBitVec[i] <;> simp
  simp [contains, remove, hb]

end DeviceCapabilities

open DeviceCapabilities (CONTROL EVENTS DFU)

@[simp] theorem insert_events_events (c : DeviceCapabilities) :
    (c.insert EVENTS).contains EVENTS = true := c.contains_insert_self EVENTS

@[simp] theorem insert_control_events (c : DeviceCapabilities) :
    (c.insert CONTROL).contains EVENTS = c.contains EVENTS :=
  c.contains_insert_of_disjoint (by decide)

@[simp] theorem insert_dfu_events (c : DeviceCapabilities) :
    (c.insert DFU).contains EVENTS = c.contains EVENTS :=
  c.contains_insert_of_disjoint (by decide)

@[simp] theorem remove_events_events (c : DeviceCapabilities) :
    (c.remove EVENTS).contains EVENTS = false := c.contains_remove_self (by decide)

@[simp] theorem remove_control_events (c : DeviceCapabilities) :
    (c.remove CONTROL).contains EVENTS = c.contains EVENTS :=
  c.contains_remove_of_disjoint (by decide)

@[simp] theorem remove_dfu_events (c : DeviceCapabilities) :
    (c.remove DFU).contains EVENTS = c.contains EVENTS :=
  c.contains_remove_of_disjoint (by decide)

/-! ## The device record -/

structure Device where
  uuid : Uuid
  transport : Transport
  capabilities : DeviceCapabilities
  firmwareVersion : Version
  eventsTransport : EventsTransport
  eventsConnected : Bool
  productId : UInt16
  name : Vector UInt8 33
  deriving DecidableEq, Repr

namespace Device

/-- The name buffer of a string: its first 32 bytes, zero padded to 33. -/
def nameBytes (s : String) : Vector UInt8 33 :=
  let bytes := s.toUTF8
  let len := min bytes.size 32
  Vector.ofFn fun i => if i.val < len then bytes.get! i.val else 0

/-- `name()`: the buffer up to its first NUL, or nothing if that is not UTF-8. -/
def nameStr (d : Device) : String :=
  let nul := d.name.toList.idxOf 0
  (String.fromUTF8? ⟨(d.name.toList.take nul).toArray⟩).getD ""

def setName (d : Device) (s : String) : Device := { d with name := nameBytes s }

@[simp] theorem setName_uuid (d : Device) (s : String) : (d.setName s).uuid = d.uuid := by
  simp only [setName]

theorem setName_setName (d : Device) (s s' : String) : (d.setName s).setName s' = d.setName s' := by
  simp only [setName]

/-- Same physical device: same UUID, whatever the other fields. -/
def uuidEq (d other : Device) : Bool := d.uuid == other.uuid

end Device

end OdysseyHub
