import OdysseyHub.Server.HandlerTask

/-!
# The registry of device handlers

What the scan, the hub managers and the forwarding loop keep about handlers, apart
from how their code is written: the table of handlers, how far each creator has got
with the one it is creating, the sender the device list will have for a UUID once
the queued messages are forwarded, and the addresses the hubs track.

An operation (`Op`) is what one step of a task does to it.  `Core` is the operation
itself, `Quiet` what happens on the side: senders are dropped, addresses are no
longer tracked.  `Inv` holds in every reachable registry (`Inv.step`).
-/

namespace OdysseyHub

/-- How far a creator has got with the handler it is creating. -/
inductive Stage
  | free
  /-- the task runs, `device_handles` does not have it -/
  | spawned (h : HandlerId) (u : Uuid)
  /-- the scan still has to enter it into `direct_usb_handler_uuids` -/
  | inserted (h : HandlerId) (u : Uuid)
  /-- its `Connect` is still to send -/
  | announcing (h : HandlerId) (u : Uuid)
  /-- a hub manager still has to queue its `AddEventsDevice` -/
  | announced (h : HandlerId) (u : Uuid)
  deriving DecidableEq

namespace Stage

def handler : Stage → Option HandlerId
  | .free => none
  | .spawned h _ | .inserted h _ | .announcing h _ | .announced h _ => some h

def uuid : Stage → Option Uuid
  | .free => none
  | .spawned _ u | .inserted _ u | .announcing _ u | .announced _ u => some u

/-- The handler whose `Connect` is still to send. -/
def unannounced : Stage → Option HandlerId
  | .spawned h _ | .inserted h _ | .announcing h _ => some h
  | .free | .announced _ _ => none

/-- At this stage the creator holds the lock of `device_handles`. -/
def locks : Creator → Stage → Bool
  | .scan, .inserted _ _ => true
  | .manager _, .announcing _ _ | .manager _, .announced _ _ => true
  | _, _ => false

@[simp] theorem locks_free (c : Creator) : locks c .free = false := by
  cases c <;> rfl

theorem handler_of_unannounced {s : Stage} {h : HandlerId} (hs : s.unannounced = some h) :
    s.handler = some h := by
  cases s with
  | free | announced => cases hs
  | spawned | inserted | announcing => exact hs

end Stage

structure Registry where
  handles : Uuid → Option HandlerId
  direct : Finset Uuid
  tasks : List HandlerTask
  stage : Creator → Stage
  /-- `sender_for_uuid` once the queued messages are forwarded -/
  senders : Uuid → Option (Option HandlerId)
  /-- the device list, a queued `Connect` or an RPC has a sender of the handler -/
  shared : HandlerId → Prop
  /-- the UUIDs of the addresses in `hub_devices` of the managers in their loop -/
  tracks : ManagerId → Uuid → Option Uuid

/-- What a step does to the registry. -/
inductive Op
  | quiet
  | evict (us : List Uuid) (direct : Bool)
  | spawn (c : Creator) (t : HandlerTask)
  | insertScan (h : HandlerId)
  | insertHub (m : ManagerId) (addr : Uuid) (h : HandlerId)
  | insertDirect (h : HandlerId)
  | announce (c : Creator) (h : HandlerId)
  | queue (m : ManagerId) (h : HandlerId) (msg : DeviceTaskMessage)
  | merge (m : ManagerId) (addr u : Uuid) (h : HandlerId) (msg : DeviceTaskMessage)
  | send (h : HandlerId) (msg : DeviceTaskMessage)
  /-- a `Connect` without commands -/
  | surface (u : Uuid)
  /-- a `Disconnect` that no handler sends -/
  | retire (u : Uuid)
  | work (h : HandlerId) (e : HandlerEvent)
  | abort (m : ManagerId)

/-- The two messages a hub manager sends. -/
def DeviceTaskMessage.isEvents : DeviceTaskMessage → Bool
  | .addEventsDevice _ _ | .removeEventsDevice => true
  | _ => false

namespace Registry

/-- No creator is at a stage at which it holds the lock. -/
def Unlocked (R : Registry) : Prop := ∀ c, (R.stage c).locks c = false

/-- Nobody has a sender of the handler. -/
def Unheld (R : Registry) (h : HandlerId) : Prop :=
  (∀ u, R.handles u ≠ some h) ∧ ¬ R.shared h ∧ ∀ c, (R.stage c).handler ≠ some h

/-- A task as its creator spawns it. -/
structure Fresh (c : Creator) (t : HandlerTask) : Prop where
  phase : t.phase = .prelude
  queue : t.queue = []
  wellFormed : t.WellFormed
  control : c = .scan → t.handler.connections.controlDevice.isSome = true

def setStage (R : Registry) (c : Creator) (st : Stage) : Registry :=
  { R with stage := Function.update R.stage c st }

def setTask (R : Registry) (h : HandlerId) (t : HandlerTask) : Registry :=
  { R with tasks := R.tasks.set h t }

def receive (R : Registry) (h : HandlerId) (msg : DeviceTaskMessage) : Registry :=
  { R with tasks := R.tasks.modify h (·.receive msg) }

def setHandle (R : Registry) (u : Uuid) (h : HandlerId) : Registry :=
  { R with handles := Function.update R.handles u (some h) }

def setSender (R : Registry) (u : Uuid) (x : Option (Option HandlerId)) : Registry :=
  { R with senders := Function.update R.senders u x }

def track (R : Registry) (m : ManagerId) (addr u : Uuid) : Registry :=
  { R with tracks := Function.update R.tracks m (Function.update (R.tracks m) addr (some u)) }

def evict (R : Registry) (us : List Uuid) (direct : Bool) : Registry :=
  { R with
    handles := fun u => if u ∈ us then none else R.handles u
    direct := if direct then R.direct \ us.toFinset else R.direct }

/-- The operations, with their guards. -/
inductive Core (R : Registry) : Op → Registry → Prop
  | quiet : Core R .quiet R
  | evict {us : List Uuid} {direct : Bool} :
      R.Unlocked →
      (∀ u ∈ us, ∃ h t, R.handles u = some h ∧ R.tasks[h]? = some t ∧ ¬ t.Running) →
      Core R (.evict us direct) (R.evict us direct)
  | spawn {c : Creator} {t : HandlerTask} :
      R.stage c = .free → R.handles t.uuid = none → Fresh c t →
      Core R (.spawn c t)
        ({ R with tasks := R.tasks ++ [t] }.setStage c (.spawned R.tasks.length t.uuid))
  | insertScan {h : HandlerId} {u : Uuid} :
      R.Unlocked → R.stage .scan = .spawned h u →
      Core R (.insertScan h) ((R.setHandle u h).setStage .scan (.inserted h u))
  | insertHub {m : ManagerId} {addr : Uuid} {h : HandlerId} {u : Uuid} :
      R.Unlocked → R.stage (.manager m) = .spawned h u →
      Core R (.insertHub m addr h)
        (((R.setHandle u h).setStage (.manager m) (.announcing h u)).track m addr u)
  | insertDirect {h : HandlerId} {u : Uuid} :
      R.stage .scan = .inserted h u →
      Core R (.insertDirect h)
        ({ R with direct := insert u R.direct }.setStage .scan (.announcing h u))
  | announce {c : Creator} {h : HandlerId} {u : Uuid} :
      R.stage c = .announcing h u →
      Core R (.announce c h)
        (({ R with shared := fun k => R.shared k ∨ k = h }.setSender u (some (some h))).setStage c
          (if c = Creator.scan then .free else .announced h u))
  | queue {m : ManagerId} {h : HandlerId} {u : Uuid} {dev : VmDevice} {v : Version} :
      R.stage (.manager m) = .announced h u →
      Core R (.queue m h (.addEventsDevice dev v))
        ((R.receive h (.addEventsDevice dev v)).setStage (.manager m) .free)
  | merge {m : ManagerId} {addr u : Uuid} {h : HandlerId} {dev : VmDevice} {v : Version} :
      R.Unlocked → R.stage (.manager m) = .free → R.handles u = some h →
      Core R (.merge m addr u h (.addEventsDevice dev v))
        ((R.receive h (.addEventsDevice dev v)).track m addr u)
  | sendLink {u : Uuid} {h : HandlerId} {msg : DeviceTaskMessage} :
      R.Unlocked → R.handles u = some h → msg.isLink = true →
      (msg.isEvents = true ∨ R.stage .scan = .free) →
      Core R (.send h msg) (R.receive h msg)
  | sendCall {h : HandlerId} {msg : DeviceTaskMessage} :
      R.shared h → msg.isLink = false → Core R (.send h msg) (R.receive h msg)
  | surface {u : Uuid} :
      Core R (.surface u) (R.setSender u (some ((R.senders u).getD none)))
  | retire {u : Uuid} (x : Option (Option HandlerId)) : Core R (.retire u) (R.setSender u x)
  | work {h : HandlerId} {e : HandlerEvent} {t t' : HandlerTask} :
      R.tasks[h]? = some t → t.next e = some t' → e ≠ .exit → (e = .closed → R.Unheld h) →
      (e = .perform → ∀ u, t.todo.head? ≠ some (.removeDirect u)) →
      Core R (.work h e) (R.setTask h t')
  | forget {h : HandlerId} {t t' : HandlerTask} {u : Uuid} :
      R.tasks[h]? = some t → t.next .perform = some t' → t.todo.head? = some (.removeDirect u) →
      Core R (.work h .perform) ({ R with direct := R.direct.erase u }.setTask h t')
  | exit {h : HandlerId} {t t' : HandlerTask} (x : Option (Option HandlerId)) :
      R.tasks[h]? = some t → t.next .exit = some t' →
      Core R (.work h .exit) ((R.setTask h t').setSender t.uuid x)
  | abort {m : ManagerId} :
      Core R (.abort m) ({ R with tracks := Function.update R.tracks m fun _ => none }.setStage
        (.manager m) .free)

/-- What happens on the side of an operation. -/
structure Quiet (R R' : Registry) : Prop where
  handles : R'.handles = R.handles
  direct : R'.direct = R.direct
  tasks : R'.tasks = R.tasks
  stage : R'.stage = R.stage
  senders : R'.senders = R.senders
  shared : ∀ h, R'.shared h → R.shared h
  tracks : ∀ m addr u, R'.tracks m addr = some u → R.tracks m addr = some u

/-- A step of the registry. -/
def Step (R : Registry) (op : Op) (R' : Registry) : Prop := ∃ R₁, Core R op R₁ ∧ Quiet R₁ R'

end Registry

end OdysseyHub
