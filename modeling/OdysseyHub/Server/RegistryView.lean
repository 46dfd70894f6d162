import OdysseyHub.Server.Run
import OdysseyHub.Server.RegistryInv

/-!
# The server keeps a registry

`Sys.registry` reads the registry off a state of the server, `Sys.op` what a step
does to it.  `Sys.Inv.step` is the simulation: a step of the server is a step of
its registry.  It needs two facts about the server itself, `Sys.LockInv` (a task at
a point under the lock holds the lock) and the invariant of the registry.
-/

namespace OdysseyHub

open HandlerTask Registry

/-! ## The view -/

def ScanState.stage : ScanState → Stage
  | .creating _ p h => .spawned h p.uuid
  | .inserted _ p h => .inserted h p.uuid
  | .connecting _ p h => .announcing h p.uuid
  | _ => .free

def ManagerState.stage : ManagerState → Stage
  | .creating a h => .spawned h a.probe.uuid
  | .connecting a h => .announcing h a.probe.uuid
  | .queueing a h => .announced h a.probe.uuid
  | _ => .free

/-- The manager is in its loop, or on the way to it. -/
def ManagerState.inLoop : ManagerState → Bool
  | .unregistering | .cleaning _ | .done | .aborted => false
  | _ => true

namespace ManagerTask

/-- The UUID a tracked address stands for, while the manager is in its loop. -/
def tracks (t : ManagerTask) (addr : Uuid) : Option Uuid :=
  if t.state.inLoop = true ∧ addr ∈ t.hubDevices then some (t.uuidOf addr) else none

theorem tracks_eq_some {t : ManagerTask} {addr u : Uuid} : t.tracks addr = some u ↔
    t.state.inLoop = true ∧ addr ∈ t.hubDevices ∧ t.uuidOf addr = u := by
  simp [tracks, and_assoc]

end ManagerTask

namespace Sys

def stage (s : Sys) : Creator → Stage
  | .scan => s.scan.stage
  | .manager m =>
    match s.managers[m]? with
    | some t => t.state.stage
    | none => .free

theorem stage_manager (s : Sys) (m : ManagerId) :
    s.stage (.manager m) = s.managers[m]?.elim .free (·.state.stage) := by
  simp only [stage]
  cases s.managers[m]? <;> rfl

def tracks (s : Sys) (m : ManagerId) (addr : Uuid) : Option Uuid :=
  match s.managers[m]? with
  | some t => t.tracks addr
  | none => none

theorem tracks_eq (s : Sys) (m : ManagerId) (addr : Uuid) :
    s.tracks m addr = s.managers[m]?.elim none (·.tracks addr) := by
  simp only [tracks]
  cases s.managers[m]? <;> rfl

/-- The device list once the queued messages are forwarded. -/
def drained (s : Sys) : DeviceList := s.messageChannel.foldl DeviceList.forward s.deviceList

/-- The device list, a queued `Connect` or an RPC has a sender of the handler. -/
def Shared (s : Sys) (h : HandlerId) : Prop :=
  (∃ e ∈ s.deviceList, e.2 = some h) ∨ (∃ d, Message.connect d (some h) ∈ s.messageChannel) ∨
  ∃ c ∈ s.calls, c.1 = h

def registry (s : Sys) : Registry :=
  { handles := fun u => s.deviceHandles.lookup u
    direct := s.directUsbHandlerUuids
    tasks := s.handlers
    stage := s.stage
    senders := s.drained.senderForUuid
    shared := s.Shared
    tracks := s.tracks }

end Sys

/-! ## The operation of a step -/

/-- `RemoveEventsDevice` to the handler of a UUID, if there is an entry. -/
def Sys.removal (s : Sys) (u : Uuid) : Op :=
  match s.deviceHandles.lookup u with
  | some h => .send h .removeEventsDevice
  | none => .quiet

def Sys.scanOp (s : Sys) : ScanEvent → Op
  | .cleanup finished => .evict finished true
  | .announceDfu =>
    match s.scan with
    | .surfaced _ d => .surface d.uuid
    | _ => .quiet
  | .lock =>
    match s.scan with
    | .probed _ p => if s.staleEntry p.uuid then .evict [p.uuid] true else .quiet
    | _ => .quiet
  | .merge =>
    match s.scan with
    | .checking _ p =>
      match s.deviceHandles.lookup p.uuid with
      | some h =>
        if p.uuid ∈ s.directUsbHandlerUuids then .quiet else .send h (.addControlDevice p.device)
      | none => .quiet
    | _ => .quiet
  | .spawn =>
    match s.scan with
    | .checking _ p => .spawn .scan (.spawned (usbHandler p 0))
    | _ => .quiet
  | .insert =>
    match s.scan with
    | .creating _ _ h => .insertScan h
    | _ => .quiet
  | .insertDirect =>
    match s.scan with
    | .inserted _ _ h => .insertDirect h
    | _ => .quiet
  | .connect =>
    match s.scan with
    | .connecting _ _ h => .announce .scan h
    | _ => .quiet
  | .unplug =>
    match s.scan with
    | .unplugging _ (id :: _) =>
      match s.directUsbIdToUuid.lookup id with
      | some u =>
        match s.deviceHandles.lookup u with
        | some h => .send h .removeControlDevice
        | none => .quiet
      | none => .quiet
    | _ => .quiet
  | .retire =>
    match s.scan with
    | .retiring (id :: _) =>
      match s.dfuDeviceIdToInfo.lookup id with
      | some (u, _) => .retire u
      | none => .quiet
    | _ => .quiet
  | _ => .quiet

def Sys.managerOp (s : Sys) (m : ManagerId) (t : ManagerTask) : ManagerEvent → Op
  | .lock =>
    match t.state with
    | .probed a => if s.staleEntry a.probe.uuid then .evict [a.probe.uuid] false else .quiet
    | _ => .quiet
  | .merge =>
    match t.state with
    | .checking a =>
      match s.deviceHandles.lookup a.probe.uuid with
      | some h =>
        .merge m a.addr a.probe.uuid h (.addEventsDevice a.probe.device a.probe.eventsVersion)
      | none => .quiet
    | _ => .quiet
  | .spawn =>
    match t.state with
    | .checking a => .spawn (.manager m) (.spawned (muxHandler a.probe m 0))
    | _ => .quiet
  | .insert =>
    match t.state with
    | .creating a h => .insertHub m a.addr h
    | _ => .quiet
  | .connect =>
    match t.state with
    | .connecting _ h => .announce (.manager m) h
    | _ => .quiet
  | .queue =>
    match t.state with
    | .queueing a h => .queue m h (.addEventsDevice a.probe.device a.probe.eventsVersion)
    | _ => .quiet
  | .removeEvents =>
    match t.state with
    | .unlinked _ _ uuid => s.removal uuid
    | _ => .quiet
  | .clean =>
    match t.state with
    | .cleaning (addr :: _) => s.removal (t.uuidOf addr)
    | _ => .quiet
  | .abort => .abort m
  | _ => .quiet

/-- What a step does to the registry. -/
def Sys.op (s : Sys) : Event → Op
  | .scan e => s.scanOp e
  | .manager m e =>
    match s.managers[m]? with
    | some t => s.managerOp m t e
    | none => .quiet
  | .handler h e => .work h e
  | .deliver i =>
    match s.calls[i]? with
    | some c => .send c.1 c.2
    | none => .quiet
  | .forward | .request _ _ | .cancel _ | .rename _ _ | .paired _ _ => .quiet

/-- Only events of handlers are work on them. -/
theorem Sys.op_work {s : Sys} {e : Event} {k : HandlerId} {e' : HandlerEvent} (h : s.op e = .work k e') :
    e = .handler k e' := by
  cases e with
  | handler j e =>
    cases h
    rfl
  | scan e =>
    cases e <;> simp only [Sys.op, Sys.scanOp] at h <;> (repeat' split at h) <;> cases h
  | manager m e =>
    simp only [Sys.op] at h
    split at h
    · cases e <;> simp only [Sys.managerOp, Sys.removal] at h <;> (repeat' split at h) <;> cases h
    · cases h
  | deliver i =>
    simp only [Sys.op] at h
    split at h <;> cases h
  | _ => cases h

/-- A task is spawned with nothing to do. -/
theorem Sys.op_spawn {s : Sys} {e : Event} {c : Creator} {t : HandlerTask} (h : s.op e = .spawn c t) :
    t.todo = [] := by
  cases e with
  | handler j e => cases h
  | scan e =>
    cases e <;> simp only [Sys.op, Sys.scanOp] at h <;> (repeat' split at h) <;> cases h
    rfl
  | manager m e =>
    simp only [Sys.op] at h
    split at h
    · cases e <;> simp only [Sys.managerOp, Sys.removal] at h <;> (repeat' split at h) <;> cases h
      rfl
    · cases h
  | deliver i =>
    simp only [Sys.op] at h
    split at h <;> cases h
  | _ => cases h

end OdysseyHub
