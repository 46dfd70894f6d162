import Mathlib.Data.Finmap
import OdysseyHub.Common.Serial
import OdysseyHub.Server.Handler

/-!
# The tasks of the server and the tables they share (device_tasks.rs, lib.rs)

One USB scan loop, any number of hub managers and device handlers, the forwarding
loop of the server and its RPCs.  A task's control point is a constructor that
carries its live locals; it moves in steps from one await point to the next, and
every table it shares is a field of `Sys`.

`device_handles` is the only lock held across await points.  It is a field of its
own, with the task that holds it; the other locks guard single accesses.  Queues
are unbounded: a send that would wait for room is a step that comes later.  The
order in which a `HashMap` or `HashSet` is gone through is part of the event.
-/

namespace OdysseyHub

/-- A `HashMap`. -/
abbrev Table (α β : Type) := Finmap fun _ : α => β

/-! ## Device handlers -/

/-- Where a `device_handler_task` is: before its loop, in it, behind it with the
`Disconnect` still to send, or at its end. -/
inductive Phase
  | prelude
  | loop
  | left
  | finished
  deriving DecidableEq, Repr

structure HandlerTask where
  handler : Handler
  phase : Phase
  queue : List DeviceTaskMessage
  /-- What the current arm has still to do. -/
  todo : List Effect

namespace HandlerTask

def uuid (t : HandlerTask) : Uuid := t.handler.device.uuid

/-- `JoinHandle::is_finished`. -/
def isFinished (t : HandlerTask) : Bool := t.phase == .finished

def spawned (h : Handler) : HandlerTask := { handler := h, phase := .prelude, queue := [], todo := [] }

/-- A send into the command channel; it fails once the receiver is gone. -/
def receive (t : HandlerTask) (m : DeviceTaskMessage) : HandlerTask :=
  if t.isFinished then t else { t with queue := t.queue ++ [m] }

/-- The task after a turn, with the effects of the turn to come. -/
def turned (t : HandlerTask) (o : Outcome) : HandlerTask :=
  { t with handler := o.handler, todo := o.effects, phase := if o.leave then .left else .loop }

end HandlerTask

/-- What a handler does next. -/
inductive HandlerEvent
  /-- the prelude, with the shot delay its watch holds -/
  | start (shotDelay : UInt32) (a : Answers)
  | recv (a : Answers)
  | arm (arm : Arm) (a : Answers)
  | closed
  /-- the next effect of the current arm -/
  | perform
  | exit

namespace HandlerTask

/-- The locals of the task after an event.  The select is `biased` and looks at the
command queue first, so the other arms run only when it is empty. -/
def next (t : HandlerTask) : HandlerEvent → Option HandlerTask
  | .start shotDelay a =>
    if t.phase = .prelude then
      some (t.turned ({ t.handler with currentShotDelay := shotDelay }.start a))
    else none
  | .recv a =>
    match t.phase, t.todo, t.queue with
    | .loop, [], m :: q =>
      (t.handler.turn (.control m) a).map fun o => { t with queue := q }.turned o
    | _, _, _ => none
  | .arm arm a =>
    match t.phase, t.todo, t.queue, arm with
    | _, _, _, .control _ => none
    | _, _, _, .closed => none
    | .loop, [], [], arm => (t.handler.turn arm a).map t.turned
    | _, _, _, _ => none
  | .closed =>
    match t.phase, t.todo, t.queue with
    | .loop, [], [] => (t.handler.turn .closed {}).map t.turned
    | _, _, _ => none
  | .perform =>
    match t.todo with
    | _ :: rest => some { t with todo := rest }
    | [] => none
  | .exit =>
    match t.phase, t.todo with
    | .left, [] => some { t with phase := .finished, queue := [] }
    | _, _ => none

end HandlerTask

/-! ## The USB scan -/

/-- nusb's opaque device id. -/
abbrev UsbId := Nat

/-- `protodongers::ProductId`. -/
inductive ProductId
  | mux
  | atsVm
  | atsLite
  | atsPro
  deriving DecidableEq, Repr

/-- What the scan reads of an entry of `nusb::list_devices()`. -/
structure UsbEntry where
  id : UsbId
  vendorId : UInt16
  productId : UInt16
  /-- `ProductId::from_u16(product_id)` -/
  product : Option ProductId
  serialNumber : Option String
  productString : Option String
  /-- some interface has class 0xFE -/
  hasDfuInterface : Bool
  deriving DecidableEq, Repr

/-- The entry is a dongle. -/
def UsbEntry.isHub (d : UsbEntry) : Bool := d.vendorId == 0x1915 && d.product == some .mux

/-- The locals of the loop over the enumerated devices. -/
structure ScanLocals where
  rest : List UsbEntry
  presentDirect : Finset UsbId
  presentDfu : Finset UsbId

inductive ScanState
  | idle
  | cleaning (devices : List UsbEntry)
  | devices (l : ScanLocals)
  /-- the device does not connect; its DFU interface is still to be looked at -/
  | surfacing (l : ScanLocals) (d : UsbEntry)
  | surfaced (l : ScanLocals) (d : Device)
  | probed (l : ScanLocals) (p : UsbProbe)
  | checking (l : ScanLocals) (p : UsbProbe)
  | creating (l : ScanLocals) (p : UsbProbe) (h : HandlerId)
  | inserted (l : ScanLocals) (p : UsbProbe) (h : HandlerId)
  | connecting (l : ScanLocals) (p : UsbProbe) (h : HandlerId)
  | unplugging (l : ScanLocals) (ids : List UsbId)
  | retiring (ids : List UsbId)

/-- The command senders a scan state keeps. -/
def ScanState.sender : ScanState → Option HandlerId
  | .creating _ _ h | .inserted _ _ h | .connecting _ _ h => some h
  | _ => none

/-! ## Hub managers -/

/-- The locals of the loop over the added addresses, at the address `addr`. -/
structure Adding where
  snapshot : Finset Uuid
  rest : List Uuid
  addr : Uuid
  probe : MuxProbe

inductive ManagerState
  | reading
  | registering (bonded : List Uuid)
  | requesting
  /-- at the select, with the initial device list prepended to the snapshots -/
  | waiting (initial : Option (List Uuid))
  | refreshing (snapshot : Finset Uuid) (added : List Uuid)
  | adding (snapshot : Finset Uuid) (added : List Uuid)
  | probed (a : Adding)
  | checking (a : Adding)
  | creating (a : Adding) (h : HandlerId)
  | connecting (a : Adding) (h : HandlerId)
  | queueing (a : Adding) (h : HandlerId)
  | dropping (removed : List Uuid)
  | unlinked (removed : List Uuid) (addr uuid : Uuid)
  | updating (bonded : List Uuid)
  | unregistering
  | cleaning (rest : List Uuid)
  | done
  | aborted

/-- The command senders a manager state keeps. -/
def ManagerState.sender : ManagerState → Option HandlerId
  | .creating _ h | .connecting _ h | .queueing _ h => some h
  | _ => none

structure ManagerTask where
  dongleId : String
  protocolVersion : Version
  controlProtocolVersion : Version
  firmwareVersion : Version
  hubDevices : Finset Uuid
  hubDeviceUuids : Table Uuid Uuid
  state : ManagerState

namespace ManagerTask

def isFinished (t : ManagerTask) : Bool :=
  match t.state with
  | .done | .aborted => true
  | _ => false

def supportsListBonds (t : ManagerTask) : Bool := semverAtLeast t.controlProtocolVersion (Version.of 0 1 1)

/-- `hub_device_uuids.get(&addr).copied().unwrap_or(addr)` -/
def uuidOf (t : ManagerTask) (addr : Uuid) : Uuid := (t.hubDeviceUuids.lookup addr).getD addr

def info (t : ManagerTask) (connected bonded : List Uuid) : DongleInfo :=
  { id := t.dongleId
    protocolVersion := t.protocolVersion
    controlProtocolVersion := t.controlProtocolVersion
    firmwareVersion := t.firmwareVersion
    connectedDevices := connected
    bondedDevices := bonded }

/-- The manager at its start, for the dongle `d`. -/
def spawned (d : UsbEntry) : ManagerTask :=
  { dongleId := d.serialNumber.getD "unknown"
    protocolVersion := Version.of 0 0 0
    controlProtocolVersion := Version.of 0 0 0
    firmwareVersion := Version.of 0 0 0
    hubDevices := ∅
    hubDeviceUuids := ∅
    state := .reading }

end ManagerTask

/-! ## The system -/

/-- A task that looks up and creates handlers. -/
inductive Creator
  | scan
  | manager (m : ManagerId)
  deriving DecidableEq, Repr

/-- Entries of `device_list`; `none` is the dummy sender of a device without commands. -/
abbrev DeviceList := List (Device × Option HandlerId)

structure Sys where
  deviceHandles : Table Uuid HandlerId
  /-- the task holding the lock of `device_handles` -/
  handlesLock : Option Creator
  directUsbHandlerUuids : Finset Uuid
  hubManagers : List (UsbId × ManagerId)
  /-- managers whose handle was given to a task that aborts it -/
  aborting : List ManagerId
  directUsbIdToUuid : Table UsbId Uuid
  dfuDeviceIdToInfo : Table UsbId (Uuid × UInt16)
  bondNames : Table Uuid String
  scan : ScanState
  managers : List ManagerTask
  handlers : List HandlerTask
  messageChannel : List Message
  deviceList : DeviceList
  dongleList : List (DongleInfo × ManagerId)
  /-- RPCs that have looked up a sender and not sent yet -/
  calls : List (HandlerId × DeviceTaskMessage)

namespace Sys

def init : Sys :=
  { deviceHandles := ∅
    handlesLock := none
    directUsbHandlerUuids := ∅
    hubManagers := []
    aborting := []
    directUsbIdToUuid := ∅
    dfuDeviceIdToInfo := ∅
    bondNames := ∅
    scan := .idle
    managers := []
    handlers := []
    messageChannel := []
    deviceList := []
    dongleList := []
    calls := [] }

/-- `message_channel.send(m)` -/
def post (s : Sys) (m : Message) : Sys := { s with messageChannel := s.messageChannel ++ [m] }

/-- `cmd_tx.send(m)` -/
def send (s : Sys) (h : HandlerId) (m : DeviceTaskMessage) : Sys :=
  { s with handlers := s.handlers.modify h (·.receive m) }

/-- The entry of `device_handles` is there and its task has ended. -/
def staleEntry (s : Sys) (u : Uuid) : Bool :=
  match s.deviceHandles.lookup u with
  | some h => (s.handlers[h]?).any (·.isFinished)
  | none => false

/-- Somebody keeps a sender of the handler's command channel. -/
def senderHeld (s : Sys) (h : HandlerId) : Bool :=
  decide (s.deviceHandles.keys.filter fun u => s.deviceHandles.lookup u = some h).Nonempty
    || s.deviceList.any (fun e => e.2 == some h)
    || s.messageChannel.any (fun m => match m with
        | .connect _ commands => commands == some h
        | _ => false)
    || s.calls.any (fun c => c.1 == h)
    || s.scan.sender == some h
    || s.managers.any (fun t => t.state.sender == some h)

/-- The names of a list of bonds go into `bond_names`, over the ones that are there. -/
def insertBonds (names : Table Uuid String) (bonds : List (Uuid × String)) : Table Uuid String :=
  bonds.foldl (fun names b => if b.2 = "" then names else names.insert b.1 b.2) names

/-- `or_insert_with`: a name that is there stays. -/
def refreshBonds (names : Table Uuid String) (bonds : List (Uuid × String)) : Table Uuid String :=
  bonds.foldl (fun names b =>
    if b.2 = "" then names else if b.1 ∈ names then names else names.insert b.1 b.2) names

end Sys

end OdysseyHub
