import OdysseyHub.Server.System

/-!
# The hub manager task (device_tasks.rs)

One definition a step, in the order of the source: registration, the snapshot loop
with its added and removed devices, and the cleanup behind the loop.  The manager
is the task `t` with number `m`; every step ends with the manager in a new state.
-/

namespace OdysseyHub

namespace HubManager

variable (s : Sys) (m : ManagerId) (t : ManagerTask)

/-- The manager's own locals. -/
def put (t : ManagerTask) : Sys := { s with managers := s.managers.set m t }

/-- The manager moves on. -/
def goto (state : ManagerState) : Sys := put s m { t with state := state }

/-! ## Registration -/

/-- Read the versions and the bonds of the dongle. -/
def readVersions (version : Option (Version × Version)) (control : Option Version)
    (bonds : Option (List (Uuid × String))) : Option Sys :=
  match t.state with
  | .reading =>
    let t' : ManagerTask :=
      { t with
        protocolVersion := (version.map (·.1)).getD (Version.of 0 0 0)
        firmwareVersion := (version.map (·.2)).getD (Version.of 0 0 0)
        controlProtocolVersion := control.getD (Version.of 0 0 0) }
    match t'.supportsListBonds, bonds with
    | true, some bonds =>
      some (goto { s with bondNames := Sys.insertBonds s.bondNames bonds } m t'
        (.registering (bonds.map (·.1))))
    | _, _ => some (goto s m t' (.registering []))
  | _ => none

def register : Option Sys :=
  match t.state with
  | .registering bonded =>
    some ((goto s m t .requesting).post (.dongleConnect (t.info [] bonded) m))
  | _ => none

/-- `request_devices`, which is tried three times. -/
def initial (devices : Option (List Uuid)) : Option Sys :=
  match t.state with
  | .requesting => some (goto s m t (.waiting devices))
  | _ => none

/-! ## The select -/

/-- A snapshot arrives, the initial one first; `added` are its new addresses. -/
def snapshot (devices added : List Uuid) : Option Sys :=
  match t.state with
  | .waiting first =>
    let newSet := devices.toFinset
    if (first = none ∨ first = some devices) ∧ added.Nodup ∧ added.toFinset = newSet \ t.hubDevices then
      some (goto s m t (if added ≠ [] ∧ t.supportsListBonds then .refreshing newSet added
        else .adding newSet added))
    else none
  | _ => none

def receiveError : Option Sys :=
  match t.state with
  | .waiting none => some (goto s m t .unregistering)
  | _ => none

/-- `ClearBonds`, answered by the dongle with success. -/
def clearBonds (connected : List Uuid) : Option Sys :=
  match t.state with
  | .waiting _ =>
    if connected.Nodup ∧ connected.toFinset = t.hubDevices then
      some (s.post (.dongleUpdate (t.info connected [])))
    else none
  | _ => none

/-! ## Added devices -/

def refresh (bonds : Option (List (Uuid × String))) : Option Sys :=
  match t.state with
  | .refreshing newSet added =>
    let names := match bonds with
      | some bonds => Sys.refreshBonds s.bondNames bonds
      | none => s.bondNames
    some (goto { s with bondNames := names } m t (.adding newSet added))
  | _ => none

def connectFailed : Option Sys :=
  match t.state with
  | .adding newSet (_ :: rest) => some (goto s m t (.adding newSet rest))
  | _ => none

/-- Connect through the dongle and read the device.  A UUID that cannot be read is
taken to be the address, a name that cannot be read comes from the bonds. -/
def probe (session : Nat) (uuid : Option Uuid) (version : Option (Version × Version))
    (productId : Option UInt16) (name : Option String) : Option Sys :=
  match t.state with
  | .adding newSet (addr :: rest) =>
    let (names, deviceName) : Table Uuid String × String :=
      match name.filter (fun n => n ≠ "") with
      | some n => (s.bondNames.insert addr n, n)
      | none => (s.bondNames, (s.bondNames.lookup addr).getD "")
    let p : MuxProbe :=
      { uuid := uuid.getD addr
        version := (version.map (·.1)).getD (Version.of 0 0 0)
        eventsVersion := (version.map (·.2)).getD (Version.of 0 0 0)
        productId := productId.getD 0
        name := deviceName
        device := ⟨.mux, session⟩ }
    some (goto { s with bondNames := names } m t (.probed ⟨newSet, rest, addr, p⟩))
  | _ => none

/-- Take the lock and evict the entry of a finished handler. -/
def lock : Option Sys :=
  match t.state with
  | .probed a =>
    if s.handlesLock = none then
      let handles := if s.staleEntry a.probe.uuid then s.deviceHandles.erase a.probe.uuid
        else s.deviceHandles
      some (goto { s with handlesLock := some (.manager m), deviceHandles := handles } m t
        (.checking a))
    else none
  | _ => none

/-- The address belongs to this hub from now on. -/
def track (t : ManagerTask) (a : Adding) : ManagerTask :=
  { t with
    hubDevices := Insert.insert a.addr t.hubDevices
    hubDeviceUuids := t.hubDeviceUuids.insert a.addr a.probe.uuid }

/-- There is a handler: give it the events device.  The result of the send is logged. -/
def merge : Option Sys :=
  match t.state with
  | .checking a =>
    match s.deviceHandles.lookup a.probe.uuid with
    | some h =>
      some ((goto { s with handlesLock := none } m (track t a) (.adding a.snapshot a.rest)).send h
        (.addEventsDevice a.probe.device a.probe.eventsVersion))
    | none => none
  | _ => none

/-- There is none: release the lock and spawn one. -/
def spawn : Option Sys :=
  match t.state with
  | .checking a =>
    match s.deviceHandles.lookup a.probe.uuid with
    | some _ => none
    | none =>
      some (goto
        { s with
          handlesLock := none
          handlers := s.handlers ++ [.spawned (muxHandler a.probe m 0)] } m t
        (.creating a s.handlers.length))
  | _ => none

def insert : Option Sys :=
  match t.state with
  | .creating a h =>
    if s.handlesLock = none then
      some (goto
        { s with
          handlesLock := some (.manager m)
          deviceHandles := s.deviceHandles.insert a.probe.uuid h } m (track t a)
        (.connecting a h))
    else none
  | _ => none

def connect : Option Sys :=
  match t.state with
  | .connecting a h =>
    some ((goto s m t (.queueing a h)).post (.connect (muxDeviceMeta a.probe) (some h)))
  | _ => none

/-- Queue `AddEventsDevice`, so that the handler starts the streams itself. -/
def queue : Option Sys :=
  match t.state with
  | .queueing a h =>
    some ((goto { s with handlesLock := none } m t (.adding a.snapshot a.rest)).send h
      (.addEventsDevice a.probe.device a.probe.eventsVersion))
  | _ => none

/-! ## Removed devices -/

/-- The addresses of this hub that the snapshot lacks. -/
def removed (order : List Uuid) : Option Sys :=
  match t.state with
  | .adding newSet [] =>
    if order.Nodup ∧ order.toFinset = t.hubDevices \ newSet then some (goto s m t (.dropping order))
    else none
  | _ => none

def untrack : Option Sys :=
  match t.state with
  | .dropping (addr :: rest) =>
    some (goto s m
      { t with
        hubDevices := t.hubDevices.erase addr
        hubDeviceUuids := t.hubDeviceUuids.erase addr }
      (.unlinked rest addr (t.uuidOf addr)))
  | _ => none

/-- `RemoveEventsDevice` to the handler of `uuid`, if there is an entry. -/
def sendRemoval (s : Sys) (uuid : Uuid) : Sys :=
  match s.deviceHandles.lookup uuid with
  | some h => s.send h .removeEventsDevice
  | none => s

@[simp] theorem sendRemoval_of_some {s : Sys} {u : Uuid} {h : HandlerId}
    (hu : s.deviceHandles.lookup u = some h) : sendRemoval s u = s.send h .removeEventsDevice := by
  simp only [sendRemoval, hu]

@[simp] theorem sendRemoval_of_none {s : Sys} {u : Uuid} (hu : s.deviceHandles.lookup u = none) :
    sendRemoval s u = s := by
  simp only [sendRemoval, hu]

def removeEvents : Option Sys :=
  match t.state with
  | .unlinked rest _ uuid =>
    if s.handlesLock = none then some (sendRemoval (goto s m t (.dropping rest)) uuid) else none
  | _ => none

def rebond (bonds : Option (List (Uuid × String))) : Option Sys :=
  match t.state with
  | .dropping [] =>
    match t.supportsListBonds, bonds with
    | true, some bonds =>
      some (goto { s with bondNames := Sys.refreshBonds s.bondNames bonds } m t
        (.updating (bonds.map (·.1))))
    | _, _ => some (goto s m t (.updating []))
  | _ => none

def update (connected : List Uuid) : Option Sys :=
  match t.state with
  | .updating bonded =>
    if connected.Nodup ∧ connected.toFinset = t.hubDevices then
      some ((goto s m t (.waiting none)).post (.dongleUpdate (t.info connected bonded)))
    else none
  | _ => none

/-! ## Behind the loop -/

/-- Unregister the dongle; `order` is the order of the cleanup. -/
def unregister (order : List Uuid) : Option Sys :=
  match t.state with
  | .unregistering =>
    if order.Nodup ∧ order.toFinset = t.hubDevices then
      some ((goto s m t (.cleaning order)).post (.dongleDisconnect t.dongleId))
    else none
  | _ => none

def clean : Option Sys :=
  match t.state with
  | .cleaning (addr :: rest) =>
    if s.handlesLock = none then some (sendRemoval (goto s m t (.cleaning rest)) (t.uuidOf addr))
    else none
  | _ => none

def finish : Option Sys :=
  match t.state with
  | .cleaning [] => some (goto s m t .done)
  | _ => none

/-- The abort takes effect at the await point the manager is at; a lock is released. -/
def abort : Option Sys :=
  if m ∈ s.aborting ∧ !t.isFinished then
    let lock := if s.handlesLock = some (.manager m) then none else s.handlesLock
    some (goto { s with handlesLock := lock } m t .aborted)
  else none

end HubManager

/-- A step of a hub manager, with what the dongle answers. -/
inductive ManagerEvent
  | readVersions (version : Option (Version × Version)) (control : Option Version)
      (bonds : Option (List (Uuid × String)))
  | register
  | initial (devices : Option (List Uuid))
  | snapshot (devices added : List Uuid)
  | receiveError
  | clearBonds (connected : List Uuid)
  | refresh (bonds : Option (List (Uuid × String)))
  | connectFailed
  | probe (session : Nat) (uuid : Option Uuid) (version : Option (Version × Version))
      (productId : Option UInt16) (name : Option String)
  | lock
  | merge
  | spawn
  | insert
  | connect
  | queue
  | removed (order : List Uuid)
  | untrack
  | removeEvents
  | rebond (bonds : Option (List (Uuid × String)))
  | update (connected : List Uuid)
  | unregister (order : List Uuid)
  | clean
  | finish
  | abort

def HubManager.step (s : Sys) (m : ManagerId) (t : ManagerTask) : ManagerEvent → Option Sys
  | .readVersions version control bonds => readVersions s m t version control bonds
  | .register => register s m t
  | .initial devices => initial s m t devices
  | .snapshot devices added => snapshot s m t devices added
  | .receiveError => receiveError s m t
  | .clearBonds connected => clearBonds s t connected
  | .refresh bonds => refresh s m t bonds
  | .connectFailed => connectFailed s m t
  | .probe session uuid version productId name => probe s m t session uuid version productId name
  | .lock => lock s m t
  | .merge => merge s m t
  | .spawn => spawn s m t
  | .insert => insert s m t
  | .connect => connect s m t
  | .queue => queue s m t
  | .removed order => removed s m t order
  | .untrack => untrack s m t
  | .removeEvents => removeEvents s m t
  | .rebond bonds => rebond s m t bonds
  | .update connected => update s m t connected
  | .unregister order => unregister s m t order
  | .clean => clean s m t
  | .finish => finish s m t
  | .abort => abort s m t

def Sys.managerStep (s : Sys) (m : ManagerId) (e : ManagerEvent) : Option Sys :=
  match s.managers[m]? with
  | some t => HubManager.step s m t e
  | none => none

end OdysseyHub
