import OdysseyHub.Server.System

/-!
# The USB scan loop (device_tasks.rs, usb_device_manager)

One definition a step, in the order of the source.  A step is `none` where the scan
is elsewhere or waits for the lock.
-/

namespace OdysseyHub

open DeviceCapabilities (DFU)

namespace Scan

/-- Detect removed hubs and hand their managers to a task that aborts them. -/
def enumerate (s : Sys) (devices : List UsbEntry) : Option Sys :=
  match s.scan with
  | .idle =>
    let present := fun e : UsbId × ManagerId => devices.any fun d => d.isHub && d.id == e.1
    some
      { s with
        hubManagers := s.hubManagers.filter present
        aborting := s.aborting ++ (s.hubManagers.filter fun e => !present e).map (·.2)
        scan := .cleaning devices }
  | _ => none

/-- Clean up finished handlers, under the lock; `finished` are their UUIDs. -/
def cleanup (s : Sys) (finished : List Uuid) : Option Sys :=
  match s.scan with
  | .cleaning devices =>
    if s.handlesLock = none ∧ finished.toFinset = s.deviceHandles.keys.filter (s.staleEntry ·) then
      some
        { s with
          deviceHandles := finished.foldr Finmap.erase s.deviceHandles
          directUsbHandlerUuids := s.directUsbHandlerUuids \ finished.toFinset
          scan := .devices ⟨devices, ∅, ∅⟩ }
    else none
  | _ => none

/-- Not an ATS device. -/
def skip (s : Sys) : Option Sys :=
  match s.scan with
  | .devices ⟨d :: rest, direct, dfu⟩ =>
    if d.vendorId ≠ 0x1915 ∨ d.product = none then
      some { s with scan := .devices ⟨rest, direct, dfu⟩ }
    else none
  | _ => none

/-! ## Dongles -/

def managerFinished (s : Sys) (m : ManagerId) : Bool :=
  match s.managers[m]? with
  | some t => t.isFinished
  | none => true

/-- Connect to the dongle, subscribe to its device list and spawn its manager. -/
def connectHub (s : Sys) (d : UsbEntry) (connected : Bool) : Sys :=
  if connected then
    { s with
      managers := s.managers ++ [.spawned d]
      hubManagers := s.hubManagers ++ [(d.id, s.managers.length)] }
  else s

def hub (s : Sys) (connected : Bool) : Option Sys :=
  match s.scan with
  | .devices ⟨d :: rest, direct, dfu⟩ =>
    if d.isHub then
      let s' := { s with scan := .devices ⟨rest, direct, dfu⟩ }
      match s.hubManagers.find? (·.1 == d.id) with
      | some (_, m) =>
        if managerFinished s m then
          some (connectHub { s' with hubManagers := s.hubManagers.eraseP (·.1 == d.id) } d connected)
        else some s'
      | none => some (connectHub s' d connected)
    else none
  | _ => none

/-! ## Direct devices: probing -/

/-- A device with a vendor interface of its own. -/
def isDirect (d : UsbEntry) : Bool :=
  d.vendorId == 0x1915 && match d.product with
    | some .mux | none => false
    | _ => true

/-- `connect_usb_any_mode` failed: a known device with a handler is left alone. -/
def unreachable (s : Sys) : Option Sys :=
  match s.scan with
  | .devices ⟨d :: rest, direct, dfu⟩ =>
    if isDirect d then
      let l : ScanLocals := ⟨rest, insert d.id direct, dfu⟩
      match s.directUsbIdToUuid.lookup d.id with
      | some u =>
        if s.handlesLock = none then
          some { s with scan := if u ∈ s.deviceHandles then .devices l else .surfacing l d }
        else none
      | none => some { s with scan := .surfacing l d }
    else none
  | _ => none

/-- The device that stands for one in DFU mode. -/
def dfuMeta (u : Uuid) (pid : UInt16) : Device :=
  { uuid := u
    transport := .usb
    capabilities := ⟨DFU⟩
    firmwareVersion := Version.of 0 0 0
    eventsTransport := .wired
    eventsConnected := false
    productId := pid
    name := Device.nameBytes "" }

/-- Surface an unreachable device with a DFU interface, unless it is tracked. -/
def surface (s : Sys) : Option Sys :=
  match s.scan with
  | .surfacing l d =>
    if d.hasDfuInterface then
      match uuidFromUsbSerial d.serialNumber with
      | some u =>
        let l' : ScanLocals := { l with presentDfu := insert d.id l.presentDfu }
        if s.handlesLock = none then
          if u ∈ s.deviceHandles ∨ s.dfuDeviceIdToInfo.any (fun _ info => info.1 == u) then
            some { s with scan := .devices l' }
          else
            some
              { s with
                dfuDeviceIdToInfo := s.dfuDeviceIdToInfo.insert d.id (u, d.productId)
                scan := .surfaced l' (dfuMeta u d.productId) }
        else none
      | none => some { s with scan := .devices l }
    else some { s with scan := .devices l }
  | _ => none

def announceDfu (s : Sys) : Option Sys :=
  match s.scan with
  | .surfaced l d => some ({ s with scan := .devices l }.post (.connect d none))
  | _ => none

/-- Connected, but the UUID could not be read. -/
def unread (s : Sys) : Option Sys :=
  match s.scan with
  | .devices ⟨d :: rest, direct, dfu⟩ =>
    if isDirect d then some { s with scan := .devices ⟨rest, insert d.id direct, dfu⟩ } else none
  | _ => none

/-- Connected and read.  A transport mode that cannot be read is taken for USB; the
events protocol version is asked for in USB mode only. -/
def probe (s : Sys) (session : Nat) (uuid : Uuid) (version : Option Version)
    (mode : Option TransportMode) (eventsVersion : Option Version) : Option Sys :=
  match s.scan with
  | .devices ⟨d :: rest, direct, dfu⟩ =>
    if isDirect d then
      let mode := mode.getD .usb
      let p : UsbProbe :=
        { uuid := uuid
          version := version
          eventsVersion := if mode = .usb then eventsVersion.getD (.of 0 0 0) else .of 0 0 0
          transportMode := mode
          productId := d.productId
          productString := d.productString
          hasDfuInterface := d.hasDfuInterface
          device := ⟨.usb, session⟩ }
      some
        { s with
          directUsbIdToUuid := s.directUsbIdToUuid.insert d.id uuid
          scan := .probed ⟨rest, insert d.id direct, dfu⟩ p }
    else none
  | _ => none

/-! ## Direct devices: merging and creating -/

/-- Take the lock and evict the entry of a finished handler. -/
def lock (s : Sys) : Option Sys :=
  match s.scan with
  | .probed l p =>
    if s.handlesLock = none then
      let s' := { s with handlesLock := some .scan, scan := .checking l p }
      if s.staleEntry p.uuid then
        some
          { s' with
            deviceHandles := s.deviceHandles.erase p.uuid
            directUsbHandlerUuids := s.directUsbHandlerUuids.erase p.uuid }
      else some s'
    else none
  | _ => none

/-- There is a handler: give it the control device, unless it is a direct one. -/
def merge (s : Sys) : Option Sys :=
  match s.scan with
  | .checking l p =>
    match s.deviceHandles.lookup p.uuid with
    | some h =>
      let s' := { s with handlesLock := none, scan := .devices l }
      if p.uuid ∈ s.directUsbHandlerUuids then some s'
      else some (s'.send h (.addControlDevice p.device))
    | none => none
  | _ => none

/-- There is none: release the lock and spawn one. -/
def spawn (s : Sys) : Option Sys :=
  match s.scan with
  | .checking l p =>
    match s.deviceHandles.lookup p.uuid with
    | some _ => none
    | none =>
      some
        { s with
          handlesLock := none
          handlers := s.handlers ++ [.spawned (usbHandler p 0)]
          scan := .creating l p s.handlers.length }
  | _ => none

def insert (s : Sys) : Option Sys :=
  match s.scan with
  | .creating l p h =>
    if s.handlesLock = none then
      some
        { s with
          handlesLock := some .scan
          deviceHandles := s.deviceHandles.insert p.uuid h
          scan := .inserted l p h }
    else none
  | _ => none

def insertDirect (s : Sys) : Option Sys :=
  match s.scan with
  | .inserted l p h =>
    some
      { s with
        handlesLock := none
        directUsbHandlerUuids := Insert.insert p.uuid s.directUsbHandlerUuids
        scan := .connecting l p h }
  | _ => none

def connect (s : Sys) : Option Sys :=
  match s.scan with
  | .connecting l p h =>
    some ({ s with scan := .devices l }.post (.connect (usbDeviceMeta p) (some h)))
  | _ => none

/-! ## Reconciliation -/

/-- The ids that have vanished; the lock is held while they are gone through. -/
def missing (s : Sys) (ids : List UsbId) : Option Sys :=
  match s.scan with
  | .devices ⟨[], direct, dfu⟩ =>
    if ids.Nodup ∧ ids.toFinset = s.directUsbIdToUuid.keys \ direct then
      let s' := { s with scan := .unplugging ⟨[], direct, dfu⟩ ids }
      if ids = [] then some s'
      else if s.handlesLock = none then some { s' with handlesLock := some .scan }
      else none
    else none
  | _ => none

def unplug (s : Sys) : Option Sys :=
  match s.scan with
  | .unplugging l (id :: ids) =>
    let s' := { s with scan := .unplugging l ids }
    match s.directUsbIdToUuid.lookup id with
    | some u =>
      let s'' := { s' with directUsbIdToUuid := s.directUsbIdToUuid.erase id }
      match s.deviceHandles.lookup u with
      | some h => some (s''.send h .removeControlDevice)
      | none => some s''
    | none => some s'
  | _ => none

/-- Release the lock, if it was taken; `ids` are the vanished DFU devices. -/
def unplugged (s : Sys) (ids : List UsbId) : Option Sys :=
  match s.scan with
  | .unplugging l [] =>
    if ids.Nodup ∧ ids.toFinset = s.dfuDeviceIdToInfo.keys \ l.presentDfu then
      some
        { s with
          handlesLock := if s.handlesLock = some .scan then none else s.handlesLock
          scan := .retiring ids }
    else none
  | _ => none

/-- Disconnect a vanished DFU device. -/
def retire (s : Sys) : Option Sys :=
  match s.scan with
  | .retiring (id :: ids) =>
    let s' := { s with scan := .retiring ids }
    match s.dfuDeviceIdToInfo.lookup id with
    | some (u, pid) =>
      some ({ s' with dfuDeviceIdToInfo := s.dfuDeviceIdToInfo.erase id }.post
        (.disconnect (dfuMeta u pid)))
    | none => some s'
  | _ => none

def sleep (s : Sys) : Option Sys :=
  match s.scan with
  | .retiring [] => some { s with scan := .idle }
  | _ => none

end Scan

/-- A step of the scan, with what the USB bus answers. -/
inductive ScanEvent
  | enumerate (devices : List UsbEntry)
  | cleanup (finished : List Uuid)
  | skip
  | hub (connected : Bool)
  | unreachable
  | surface
  | announceDfu
  | unread
  | probe (session : Nat) (uuid : Uuid) (version : Option Version) (mode : Option TransportMode)
      (eventsVersion : Option Version)
  | lock
  | merge
  | spawn
  | insert
  | insertDirect
  | connect
  | missing (ids : List UsbId)
  | unplug
  | unplugged (ids : List UsbId)
  | retire
  | sleep

def Sys.scanStep (s : Sys) : ScanEvent → Option Sys
  | .enumerate devices => Scan.enumerate s devices
  | .cleanup finished => Scan.cleanup s finished
  | .skip => Scan.skip s
  | .hub connected => Scan.hub s connected
  | .unreachable => Scan.unreachable s
  | .surface => Scan.surface s
  | .announceDfu => Scan.announceDfu s
  | .unread => Scan.unread s
  | .probe session uuid version mode eventsVersion =>
    Scan.probe s session uuid version mode eventsVersion
  | .lock => Scan.lock s
  | .merge => Scan.merge s
  | .spawn => Scan.spawn s
  | .insert => Scan.insert s
  | .insertDirect => Scan.insertDirect s
  | .connect => Scan.connect s
  | .missing ids => Scan.missing s ids
  | .unplug => Scan.unplug s
  | .unplugged ids => Scan.unplugged s ids
  | .retire => Scan.retire s
  | .sleep => Scan.sleep s

end OdysseyHub
