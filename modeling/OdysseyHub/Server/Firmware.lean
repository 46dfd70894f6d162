import Mathlib.Data.Finmap
import OdysseyHub.Lib.Logged
import OdysseyHub.Common.Numbers
import OdysseyHub.Common.Serial

/-!
# Firmware manifests and the DFU update (firmware.rs)

The lookups in `nusb::list_devices()`, the choice of the slot and the update of one
device.  Each lookup sees an enumeration of its own.  An entry of an enumeration
says what the device would answer if it were opened in that step, so that nothing is
assumed about how enumerations follow each other.  What a device receives is logged
as a `Contact`.

Logging and the progress callback are left out; of a download the number of bytes
read is kept.
-/

namespace OdysseyHub

/-! ## Manifests -/

structure FileEntry where
  sha256 : String
  size : UInt64
  deriving DecidableEq, Repr

/-- A single firmware version entry. -/
structure FirmwareEntry where
  version : String
  files : Finmap fun _ : String => FileEntry
  released : String

/-- Per-device firmware information. -/
structure DeviceManifest where
  firmwares : List FirmwareEntry

/-- Top-level firmware manifest. -/
structure FirmwareManifest where
  version : UInt32
  devices : Finmap fun _ : String => DeviceManifest

/-- Parse version string into [major, minor, patch]. -/
def FirmwareEntry.versionParts (f : FirmwareEntry) : Option Version :=
  match (f.version.toList.splitOn '.').map String.ofList with
  | [a, b, c] => do some (Version.of (← parseU16 a) (← parseU16 b) (← parseU16 c))
  | _ => none

/-- For 0.x.y versions the same minor is required, for 1+.x.y the same major. -/
def versionsCompatible (device manifest : Version) : Bool :=
  if device.major == 0 && manifest.major == 0 then device.minor == manifest.minor
  else device.major == manifest.major

/-- Check if manifest version is newer than device version. -/
def versionNewer (device manifest : Version) : Bool :=
  if manifest.major != device.major then decide (manifest.major > device.major)
  else if manifest.minor != device.minor then decide (manifest.minor > device.minor)
  else decide (manifest.patch > device.patch)

/-- Find the latest compatible firmware for a device. -/
def findCompatibleFirmware (manifest : FirmwareManifest) (deviceType : String) (deviceVersion : Version) :
    Option FirmwareEntry := do
  let deviceManifest ← manifest.devices.lookup deviceType
  deviceManifest.firmwares.find? fun firmware =>
    match firmware.versionParts with
    | some fwVersion => versionsCompatible deviceVersion fwVersion && versionNewer deviceVersion fwVersion
    | none => false

/-- Find the latest firmware for a device type regardless of version compatibility. -/
def findLatestFirmware (manifest : FirmwareManifest) (deviceType : String) : Option FirmwareEntry := do
  (← manifest.devices.lookup deviceType).firmwares.head?

/-! ## USB devices -/

inductive TransferError
  | stall
  | cancelled
  deriving DecidableEq, Repr

/-- `dfu_nusb::Error`, with the transfer errors the update looks at. -/
structure DfuFailure where
  transfer : Option TransferError
  text : String
  deriving DecidableEq, Repr

/-- DFU-related errors. -/
inductive DfuError
  | deviceNotFound
  | altInterfaceNotFound (slot : String)
  | dfuInterfaceNotFound
  | dfu (e : DfuFailure)
  | usb (e : String)
  deriving DecidableEq, Repr

def DfuError.toString : DfuError → String
  | .deviceNotFound => "Device not found"
  | .altInterfaceNotFound slot => s!"No suitable alt interface found for slot: {slot}"
  | .dfuInterfaceNotFound => "DFU interface not found on device"
  | .dfu e => s!"DFU error: {e.text}"
  | .usb e => s!"USB error: {e}"

structure AltSetting where
  alternateSetting : UInt8
  interfaceClass : UInt8
  subclass : UInt8
  protocol : UInt8
  /-- the string descriptor, if there is one and it can be read -/
  description : Option String
  deriving DecidableEq, Repr

structure UsbInterface where
  interfaceNumber : UInt8
  altSettings : List AltSetting
  deriving DecidableEq, Repr

/-- What an opened device answers. -/
structure UsbDevice where
  configurations : List (List UsbInterface)
  claimInterface : Except String Unit
  /-- `DfuNusb::open` on an alt setting -/
  openDfu : UInt8 → Except DfuFailure Unit
  detach : Except DfuFailure Unit
  download : Except DfuFailure Unit
  /-- how much of the firmware a download reads -/
  bytesRead : Nat

/-- An entry of an enumeration. -/
structure DeviceInfo where
  vendorId : UInt16
  productId : UInt16
  serialNumber : Option String
  interfaceClasses : List UInt8
  opened : Except String UsbDevice

/-- `nusb::list_devices()` -/
abbrev Listing := Except String (List DeviceInfo)

/-- What a device receives, or what of it decides the slot. -/
inductive ContactKind
  /-- the DFU detach that enters DFU mode, and the USB reset behind it -/
  | detach
  | detachReset
  | slot
  | download (alt : UInt8) (firmware : List UInt8)
  /-- the DFU detach and the USB reset behind a download -/
  | flashDetach
  | flashReset
  deriving DecidableEq, Repr

structure Contact where
  kind : ContactKind
  device : DeviceInfo

/-- A part of the update. -/
abbrev Update := Logged Contact DfuError

def usb {α : Type} (r : Except String α) : Update α := .ofExcept (r.mapError .usb)

def contact (kind : ContactKind) (device : DeviceInfo) : Update Unit := .act ⟨kind, device⟩

/-! ## Lookups -/

/-- Known device types mapped by VID:PID. -/
def deviceMap : List (UInt16 × UInt16 × String) :=
  [(0x1915, 0x5210, "legacy-atslite1"), (0x1915, 0x5211, "atslite1"), (0x1915, 0x5212, "dongle")]

def DeviceInfo.hasIds (vid pid : UInt16) (d : DeviceInfo) : Bool :=
  d.vendorId == vid && d.productId == pid

/-- `ok_or(DfuError::DeviceNotFound)` -/
def orNotFound : Option DeviceInfo → Except DfuError DeviceInfo
  | some d => .ok d
  | none => .error .deviceNotFound

/-- Find a USB device by VID/PID. -/
def findDevice (listing : Listing) (vid pid : UInt16) : Except DfuError DeviceInfo := do
  orNotFound ((← listing.mapError .usb).find? (·.hasIds vid pid))

/-- `{:02X}` -/
def upperHex (b : UInt8) : List Char :=
  [Nat.digitChar (b.toNat / 16), Nat.digitChar (b.toNat % 16)].map Char.toUpper

def uuidHex (uuid : Uuid) : List Char := uuid.toList.flatMap upperHex

def eqIgnoreAsciiCase (a b : List Char) : Bool := a.map Char.toLower == b.map Char.toLower

/-- The serial number of the device is the UUID. -/
def DeviceInfo.hasUuid (uuid : Uuid) (d : DeviceInfo) : Bool :=
  match d.serialNumber with
  | some s => eqIgnoreAsciiCase (serialDigits s) (uuidHex uuid)
  | none => false

/-- Find a USB device by VID/PID and UUID (matched against USB serial number).
Falls back to first-match if no device with that serial is found. -/
def findDeviceByUuid (listing : Listing) (uuid : Uuid) (vid pid : UInt16) : Except DfuError DeviceInfo := do
  let devices := (← listing.mapError .usb).filter (·.hasIds vid pid)
  match devices.find? (·.hasUuid uuid) with
  | some dev => .ok dev
  | none => orNotFound devices.head?

/-- Find a USB device by its UUID and return its VID/PID. -/
def findDeviceVidPidByUuid (listing : Listing) (uuid : Uuid) : Option (UInt16 × UInt16) := do
  let devices ← listing.toOption
  devices.findSome? fun dev =>
    deviceMap.findSome? fun e =>
      if dev.hasIds e.1 e.2.1 && dev.hasUuid uuid then some (e.1, e.2.1) else none

/-! ## The DFU interface -/

def DFU_CLASS : UInt8 := 0xFE
def DFU_SUBCLASS : UInt8 := 0x01
def DFU_PROTOCOL_DFU_MODE : UInt8 := 0x02

def AltSetting.isDfu (a : AltSetting) : Bool :=
  a.interfaceClass == DFU_CLASS && a.subclass == DFU_SUBCLASS

/-- Find the DFU interface number on a device. -/
def findDfuInterface (device : UsbDevice) : Except DfuError UInt8 :=
  match device.configurations.flatten.find? (·.altSettings.any (·.isDfu)) with
  | some i => .ok i.interfaceNumber
  | none => .error .dfuInterfaceNotFound

/-- The alt settings of an interface, over all configurations. -/
def altSettingsOf (device : UsbDevice) (interfaceNum : UInt8) : List AltSetting :=
  (device.configurations.flatten.filter (·.interfaceNumber == interfaceNum)).flatMap (·.altSettings)

/-- `desc.contains(slot)` -/
def containsStr (desc slot : String) : Bool := decide (slot.toList <:+: desc.toList)

/-- Find the alt setting for a given slot name (e.g., "APP_A" or "APP_B"). -/
def findAltForSlot (device : UsbDevice) (interfaceNum : UInt8) (slot : String) : Except DfuError UInt8 :=
  match (altSettingsOf device interfaceNum).find? fun alt =>
      alt.isDfu && alt.description.any (containsStr · slot) with
  | some alt => .ok alt.alternateSetting
  | none => .error (.altInterfaceNotFound slot)

/-- The bank that is exposed for flashing. -/
structure TargetSlot where
  slotName : String
  slotFile : String
  alt : UInt8
  deriving DecidableEq, Repr

/-- Determine which slot to flash by reading the DFU interface alt settings. -/
def determineTargetSlot (device : UsbDevice) (interfaceNum : UInt8) : Except DfuError TargetSlot :=
  match findAltForSlot device interfaceNum "APP_A", findAltForSlot device interfaceNum "APP_B" with
  | .ok alt, _ => .ok ⟨"APP_A", "app-a", alt⟩
  | _, .ok alt => .ok ⟨"APP_B", "app-b", alt⟩
  | _, _ => .error (.altInterfaceNotFound "APP_A or APP_B")

/-- Determine which slot to flash for a device by VID/PID. -/
def determineTargetSlotForDevice (listing : Listing) (vid pid : UInt16) : Update TargetSlot := do
  let info ← .ofExcept (findDevice listing vid pid)
  let device ← usb info.opened
  let interfaceNum ← .ofExcept (findDfuInterface device)
  contact .slot info
  .ofExcept (determineTargetSlot device interfaceNum)

/-- The alt settings of the DFU interface are those of DFU mode, not of runtime. -/
def inDfuMode (device : UsbDevice) : Bool :=
  match findDfuInterface device with
  | .ok interfaceNum =>
    (altSettingsOf device interfaceNum).any fun alt => alt.isDfu && alt.protocol == DFU_PROTOCOL_DFU_MODE
  | .error _ => false

/-! ## The update -/

/-- A request after which the device may already have reset: that error is expected. -/
def expecting (expected : TransferError) (r : Except DfuFailure Unit) : Update Unit :=
  match r with
  | .ok () => pure ()
  | .error e => if e.transfer = some expected then pure () else .throw (.dfu e)

/-- Send DFU detach command to a device in runtime mode. -/
def sendDfuDetach (listing : Listing) (uuid : Uuid) (vid pid : UInt16) : Update Unit := do
  let info ← .ofExcept (findDeviceByUuid listing uuid vid pid)
  let device ← usb info.opened
  let _ ← .ofExcept (findDfuInterface device)
  usb device.claimInterface
  .ofExcept ((device.openDfu 0).mapError .dfu)
  contact .detach info
  match device.detach with
  | .ok () => contact .detachReset info
  -- a device that stalls has reset already
  | .error e => expecting .stall (.error e)

/-- One poll of `wait_for_dfu_device`: the first device listed is in DFU mode. -/
def pollDfuDevice (listing : Listing) (vid pid : UInt16) : Bool :=
  match findDevice listing vid pid with
  | .ok info =>
    match info.opened with
    | .ok device => inDfuMode device
    | .error _ => false
  | .error _ => false

/-- Wait for a device to appear in DFU mode after detach; `polls` are the enumerations
up to the timeout. -/
def waitForDfuDevice (polls : List Listing) (vid pid : UInt16) : Update Unit :=
  match polls with
  | [] => .throw .deviceNotFound
  | listing :: rest => if pollDfuDevice listing vid pid then pure () else waitForDfuDevice rest vid pid

/-- Flash firmware with progress callback; the number of bytes it was called with last. -/
def flashFirmwareWithProgress (listing : Listing) (vid pid : UInt16) (alt : UInt8) (firmware : List UInt8) :
    Update Nat := do
  let info ← .ofExcept (findDevice listing vid pid)
  let device ← usb info.opened
  let _ ← .ofExcept (findDfuInterface device)
  usb device.claimInterface
  .ofExcept ((device.openDfu alt).mapError .dfu)
  contact (.download alt firmware) info
  expecting .cancelled device.download
  -- the device may have reset by itself: both errors are ignored
  contact .flashDetach info
  contact .flashReset info
  pure device.bytesRead

/-- The enumerations the steps of an update see. -/
structure Enumerations where
  /-- the desktop application asks first whether the device is in DFU mode already -/
  mode : Listing
  detach : Listing
  polls : List Listing
  slot : Listing
  flash : Listing

/-- The enumeration a contact comes from. -/
def Enumerations.of (e : Enumerations) : ContactKind → Listing
  | .detach | .detachReset => e.detach
  | .slot => e.slot
  | .download _ _ | .flashDetach | .flashReset => e.flash

/-- High-level firmware update function. -/
def updateFirmware (e : Enumerations) (uuid : Uuid) (vid pid : UInt16) (firmware : List UInt8) :
    Update Unit := do
  sendDfuDetach e.detach uuid vid pid
  waitForDfuDevice e.polls vid pid
  let target ← determineTargetSlotForDevice e.slot vid pid
  let _ ← flashFirmwareWithProgress e.flash vid pid target.alt firmware

/-! ## What a step can touch -/

theorem ok_of_mapError {ε ε' α : Type} {r : Except ε α} {f : ε → ε'} {a : α}
    (h : r.mapError f = .ok a) : r = .ok a := by
  cases r with
  | ok b =>
    cases h
    rfl
  | error err => cases h

section
variable {listing : Listing} {vid pid : UInt16} {uuid : Uuid} {d : DeviceInfo}

theorem findDevice_ok (h : findDevice listing vid pid = .ok d) :
    ∃ ds, listing = .ok ds ∧ d ∈ ds ∧ d.hasIds vid pid = true := by
  cases listing with
  | error e => cases h
  | ok ds =>
    change orNotFound (ds.find? (·.hasIds vid pid)) = .ok d at h
    cases hf : ds.find? (·.hasIds vid pid) with
    | none =>
      rw [hf] at h
      cases h
    | some d' =>
      rw [hf] at h
      cases h
      exact ⟨ds, rfl, List.mem_of_find?_eq_some hf, List.find?_some hf⟩

/-- The device found is the one with the UUID, or, when that is not listed, the first. -/
theorem findDeviceByUuid_ok (h : findDeviceByUuid listing uuid vid pid = .ok d) :
    ∃ ds, listing = .ok ds ∧ d ∈ ds ∧ d.hasIds vid pid = true ∧
      (d.hasUuid uuid = true ∨
        ((∀ d' ∈ ds, d'.hasIds vid pid = true → d'.hasUuid uuid = false) ∧
          ds.find? (·.hasIds vid pid) = some d)) := by
  cases listing with
  | error e => cases h
  | ok ds =>
    change (match (ds.filter (·.hasIds vid pid)).find? (·.hasUuid uuid) with
      | some dev => Except.ok dev
      | none => orNotFound (ds.filter (DeviceInfo.hasIds vid pid)).head?) = .ok d at h
    split at h
    · next dev hf =>
      cases h
      have hmem := List.mem_filter.mp (List.mem_of_find?_eq_some hf)
      exact ⟨ds, rfl, hmem.1, hmem.2, .inl (List.find?_some hf)⟩
    · next hf =>
      rw [List.head?_filter] at h
      cases hd : ds.find? (·.hasIds vid pid) with
      | none =>
        rw [hd] at h
        cases h
      | some d' =>
        rw [hd] at h
        cases h
        refine ⟨ds, rfl, List.mem_of_find?_eq_some hd, List.find?_some hd, .inr ⟨fun x hx hids => ?_, hd⟩⟩
        simpa using List.find?_eq_none.mp hf x (List.mem_filter.mpr ⟨hx, hids⟩)

end

/-- The contacts that enter DFU mode. -/
def ContactKind.Detaches (k : ContactKind) : Prop := k = .detach ∨ k = .detachReset

/-- The contacts behind a download. -/
def ContactKind.Restarts (k : ContactKind) : Prop := k = .flashDetach ∨ k = .flashReset

/-- What an update may do with a device: it is listed under the ids of the update, and
to enter DFU mode it is the one with the UUID or, when that is not listed, the first. -/
structure Contact.Allowed (e : Enumerations) (uuid : Uuid) (vid pid : UInt16) (c : Contact) : Prop where
  listed : ∃ ds, e.of c.kind = .ok ds ∧ c.device ∈ ds
  ids : c.device.hasIds vid pid = true
  selected : c.kind.Detaches → ∀ ds, e.detach = .ok ds → c.device.hasUuid uuid = true ∨
    ((∀ d ∈ ds, d.hasIds vid pid = true → d.hasUuid uuid = false) ∧
      ds.find? (·.hasIds vid pid) = some c.device)

/-- The lookup that finds the device of a contact. -/
def ContactKind.lookup (e : Enumerations) (uuid : Uuid) (vid pid : UInt16) :
    ContactKind → Except DfuError DeviceInfo
  | .detach | .detachReset => findDeviceByUuid e.detach uuid vid pid
  | .slot => findDevice e.slot vid pid
  | .download _ _ | .flashDetach | .flashReset => findDevice e.flash vid pid

/-- What the code of an update keeps to. -/
def Contact.LookedUp (e : Enumerations) (uuid : Uuid) (vid pid : UInt16) (c : Contact) : Prop :=
  c.kind.lookup e uuid vid pid = .ok c.device

section
variable {e : Enumerations} {uuid : Uuid} {vid pid : UInt16}

theorem Contact.Allowed.of_findDevice {kind : ContactKind} {d : DeviceInfo} (hk : ¬ kind.Detaches)
    (h : findDevice (e.of kind) vid pid = .ok d) : Contact.Allowed e uuid vid pid ⟨kind, d⟩ := by
  obtain ⟨ds, hds, hd, hids⟩ := findDevice_ok h
  exact ⟨⟨ds, hds, hd⟩, hids, fun hc => absurd hc hk⟩

theorem Contact.Allowed.of_findDeviceByUuid {kind : ContactKind} {d : DeviceInfo} (hk : e.of kind = e.detach)
    (h : findDeviceByUuid e.detach uuid vid pid = .ok d) : Contact.Allowed e uuid vid pid ⟨kind, d⟩ := by
  obtain ⟨ds, hds, hd, hids, hsel⟩ := findDeviceByUuid_ok h
  refine ⟨⟨ds, by rw [hk, hds], hd⟩, hids, fun _ ds' hds' => ?_⟩
  rw [hds] at hds'
  cases hds'
  exact hsel

/-- A device that was looked up is one the update may touch. -/
theorem Contact.LookedUp.allowed {c : Contact} (h : c.LookedUp e uuid vid pid) :
    c.Allowed e uuid vid pid := by
  obtain ⟨kind, d⟩ := c
  cases kind with
  | detach => exact .of_findDeviceByUuid rfl h
  | detachReset => exact .of_findDeviceByUuid rfl h
  | slot => exact .of_findDevice (by simp [ContactKind.Detaches]) h
  | download alt firmware => exact .of_findDevice (by simp [ContactKind.Detaches]) h
  | flashDetach => exact .of_findDevice (by simp [ContactKind.Detaches]) h
  | flashReset => exact .of_findDevice (by simp [ContactKind.Detaches]) h

end

/-! ## What a step does -/

/-- The contacts of a detach that succeeds. -/
def Detached (log : List Contact) : Prop :=
  ∃ d, log = [⟨.detach, d⟩] ∨ log = [⟨.detach, d⟩, ⟨.detachReset, d⟩]

section
variable {uuid : Uuid} {vid pid : UInt16} {listing : Listing} {P : Contact → Prop}

open Logged

theorem spec_expecting {t : TransferError} {r : Except DfuFailure Unit} :
    Spec (expecting t r) P (fun l _ => l = []) := by
  unfold expecting
  split
  · exact .pure rfl
  · split
    · exact .pure rfl
    · exact .throw _

theorem spec_sendDfuDetach
    (hP : ∀ kind : ContactKind, kind.Detaches → ∀ d, findDeviceByUuid listing uuid vid pid = .ok d → P ⟨kind, d⟩) :
    Spec (sendDfuDetach listing uuid vid pid) P (fun l _ => Detached l) := by
  refine Spec.read fun d hd => Spec.read fun device _ => Spec.read fun _ _ => Spec.read fun _ _ =>
    Spec.read fun _ _ => Spec.doing (hP _ (.inl rfl) d hd) ?_
  split
  · exact .act (hP _ (.inr rfl) d hd) ⟨d, .inr rfl⟩
  · exact spec_expecting.imp fun l _ hl => ⟨d, .inl (by rw [hl])⟩

theorem spec_waitForDfuDevice (polls : List Listing) :
    Spec (waitForDfuDevice polls vid pid) P (fun l _ => l = []) := by
  induction polls with
  | nil => exact .throw _
  | cons listing rest ih =>
    unfold waitForDfuDevice
    split
    · exact .pure rfl
    · exact ih

theorem spec_determineTargetSlotForDevice (hP : ∀ d, findDevice listing vid pid = .ok d → P ⟨.slot, d⟩) :
    Spec (determineTargetSlotForDevice listing vid pid) P
      (fun l target => ∃ info device interfaceNum, l = [⟨.slot, info⟩] ∧
        findDevice listing vid pid = .ok info ∧ info.opened = .ok device ∧
        findDfuInterface device = .ok interfaceNum ∧ determineTargetSlot device interfaceNum = .ok target) := by
  refine Spec.read fun info hinfo => Spec.read fun device hopen => Spec.read fun i hi =>
    Spec.doing (hP info hinfo) (.ofExcept fun target htarget => ?_)
  exact ⟨info, device, i, rfl, hinfo, ok_of_mapError hopen, hi, htarget⟩

theorem spec_flashFirmwareWithProgress {alt : UInt8} {firmware : List UInt8}
    (hP : ∀ kind : ContactKind, kind = .download alt firmware ∨ kind.Restarts →
      ∀ d, findDevice listing vid pid = .ok d → P ⟨kind, d⟩) :
    Spec (flashFirmwareWithProgress listing vid pid alt firmware) P
      (fun l progress => ∃ info device,
        l = [⟨.download alt firmware, info⟩, ⟨.flashDetach, info⟩, ⟨.flashReset, info⟩] ∧
        info.opened = .ok device ∧ progress = device.bytesRead) := by
  refine Spec.read fun info hinfo => Spec.read fun device hopen => Spec.read fun _ _ => Spec.read fun _ _ =>
    Spec.read fun _ _ => Spec.doing (hP _ (.inl rfl) info hinfo) (spec_expecting.bind ?_)
  rintro l _ rfl
  refine Spec.doing (hP _ (.inr (.inl rfl)) info hinfo) (Spec.doing (hP _ (.inr (.inr rfl)) info hinfo) ?_)
  exact .pure ⟨info, device, rfl, ok_of_mapError hopen, rfl⟩

end

/-! ## What an update does -/

/-- The contacts of an update that succeeds. -/
def Complete (log : List Contact) : Prop :=
  ∃ detached slot flashed alt firmware, log = detached ++
    [⟨.slot, slot⟩, ⟨.download alt firmware, flashed⟩, ⟨.flashDetach, flashed⟩, ⟨.flashReset, flashed⟩] ∧
    (detached = [] ∨ Detached detached)

section
variable {e : Enumerations} {uuid : Uuid} {vid pid : UInt16} {P : Contact → Prop}

open Logged

theorem spec_updateFirmware (firmware : List UInt8) (hP : ∀ c, c.LookedUp e uuid vid pid → P c) :
    Spec (updateFirmware e uuid vid pid firmware) P (fun l _ => Complete l) := by
  refine (spec_sendDfuDetach fun kind hk d hd => hP ⟨kind, d⟩ ?_).bind ?_
  · rcases hk with rfl | rfl <;> exact hd
  intro detached _ hdetached
  refine (spec_waitForDfuDevice e.polls).bind ?_
  rintro l _ rfl
  refine (spec_determineTargetSlotForDevice fun d hd => hP ⟨.slot, d⟩ hd).bind ?_
  rintro l target ⟨s, -, -, rfl, -⟩
  refine (spec_flashFirmwareWithProgress fun kind hk d hd => hP ⟨kind, d⟩ ?_).bind ?_
  · rcases hk with rfl | rfl | rfl <;> exact hd
  rintro l _ ⟨f, -, rfl, -⟩
  exact .pure ⟨detached, s, f, target.alt, firmware, by simp, .inr hdetached⟩

end

/-! ## What stands behind a download -/

/-- The detach and the reset behind a download go to a device that received one. -/
def RestartsBehind (log : List Contact) : Prop :=
  ∀ c ∈ log, c.kind.Restarts → ∃ alt firmware, ⟨.download alt firmware, c.device⟩ ∈ log

section
variable {ε : Type}

open Logged

theorem RestartsBehind.of_spec {α : Type} {x : Logged Contact ε α} {Q : List Contact → α → Prop}
    (h : Spec x (fun c => ¬ c.kind.Restarts) Q) : RestartsBehind x.log :=
  fun c hc hk => absurd hk (h.actions c hc)

theorem RestartsBehind.bind {α β : Type} {x : Logged Contact ε α} {f : α → Logged Contact ε β}
    (hx : RestartsBehind x.log) (hf : ∀ a, RestartsBehind (f a).log) : RestartsBehind (x >>= f).log := by
  rcases log_bind x f with ⟨a, -, hlog⟩ | hlog
  · rw [hlog]
    intro c hc hk
    rcases List.mem_append.mp hc with hc | hc
    · obtain ⟨alt, firmware, hd⟩ := hx c hc hk
      exact ⟨alt, firmware, List.mem_append_left _ hd⟩
    · obtain ⟨alt, firmware, hd⟩ := hf a c hc hk
      exact ⟨alt, firmware, List.mem_append_right _ hd⟩
  · rw [hlog]
    exact hx

theorem RestartsBehind.read {α β : Type} {r : Except ε α} {f : α → Logged Contact ε β}
    (hf : ∀ a, RestartsBehind (f a).log) : RestartsBehind (Logged.ofExcept r >>= f).log :=
  .bind (fun _ hc => absurd hc List.not_mem_nil) hf

end

section
variable {e : Enumerations} {uuid : Uuid} {vid pid : UInt16} {listing : Listing}

open Logged

theorem restartsBehind_sendDfuDetach : RestartsBehind (sendDfuDetach listing uuid vid pid).log := by
  refine .of_spec (spec_sendDfuDetach fun kind hk d _ => ?_)
  rcases hk with rfl | rfl <;> simp [ContactKind.Restarts]

theorem restartsBehind_determineTargetSlot :
    RestartsBehind (determineTargetSlotForDevice listing vid pid).log :=
  .of_spec (spec_determineTargetSlotForDevice fun d _ => by simp [ContactKind.Restarts])

/-- All contacts of a flash go to one device, and the first is the download. -/
theorem restartsBehind_flashFirmware (alt : UInt8) (firmware : List UInt8) :
    RestartsBehind (flashFirmwareWithProgress listing vid pid alt firmware).log := by
  refine .bind (fun _ hc => absurd hc List.not_mem_nil) fun info => .read fun device => .read fun _ =>
    .read fun _ => .read fun _ => ?_
  have hrest : Spec (do
      expecting .cancelled device.download
      contact .flashDetach info
      contact .flashReset info
      pure device.bytesRead) (fun c => c.device = info) (fun _ _ => True) := by
    refine spec_expecting.bind ?_
    rintro l _ rfl
    exact Spec.doing rfl (Spec.doing rfl (.pure trivial))
  intro c hc _
  refine ⟨alt, firmware, ?_⟩
  have hdevice : c.device = info := by
    rcases List.mem_cons.mp hc with rfl | hc
    · rfl
    · exact hrest.actions c hc
  rw [hdevice]
  exact List.mem_cons_self

theorem restartsBehind_updateFirmware (firmware : List UInt8) :
    RestartsBehind (updateFirmware e uuid vid pid firmware).log :=
  restartsBehind_sendDfuDetach.bind fun _ =>
    (RestartsBehind.of_spec (spec_waitForDfuDevice e.polls)).bind fun _ =>
      restartsBehind_determineTargetSlot.bind fun target =>
        (restartsBehind_flashFirmware target.alt firmware).bind fun _ =>
          fun _ hc => absurd hc List.not_mem_nil

end

end OdysseyHub
