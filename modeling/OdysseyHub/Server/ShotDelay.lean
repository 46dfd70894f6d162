import OdysseyHub.Lib.Transition
import OdysseyHub.Server.HandlerTask

/-!
# The shot delay of one device (server.rs, device_tasks.rs)

Three copies of one value: `device_shot_delays[uuid]`, the watch channel
`shot_delay_watch[uuid]` and what each receiver of the channel has last read.  The
RPCs of the server write the first two and send `SetShotDelay` to the handler that
is listed; a handler writes both when it takes the message, and the map again with
every value its `shot_delay_stream` yields.

The tables are taken at one UUID, whose RPCs run one after another; handlers are the
tasks of Handler.lean, each with the receiver of its watch.  An await point of the
source ends a step.
-/

namespace OdysseyHub

/-- A `device_handler_task` with its `shot_delay_stream`. -/
structure Listener where
  task : HandlerTask
  /-- the stream has a value it has not yielded -/
  fresh : Bool

namespace Listener

/-- The receiver of the watch is alive: from the subscription to the end of the task. -/
def receiving (l : Listener) : Bool := l.task.phase == .loop || l.task.phase == .left

/-- `tx.send(v)` as the receiver sees it. -/
def changed (l : Listener) : Listener := if l.receiving then { l with fresh := true } else l

def receive (l : Listener) (m : DeviceTaskMessage) : Listener := { l with task := l.task.receive m }

end Listener

/-- A `subscribe_shot_delay` stream. -/
structure Subscriber where
  /-- the client still reads the stream -/
  connected : Bool
  /-- the forwarding task is there, and with it the receiver -/
  running : Bool
  fresh : Bool
  /-- the last value forwarded -/
  seen : UInt32
  deriving DecidableEq, Repr

def Subscriber.changed (b : Subscriber) : Subscriber :=
  if b.running then { b with fresh := true } else b

/-- What a client asks for; `reset_shot_delay` is a set to the default. -/
inductive ShotDelayRequest
  | set (delayMs : UInt32)
  | reset
  | subscribe
  deriving DecidableEq, Repr

/-- Where the RPC that runs is. -/
inductive ShotDelayRpc
  | idle
  /-- `set_shot_delay_live` has written the map -/
  | watching (ms : UInt16)
  /-- … and the watch; the handler is still to be told -/
  | telling (ms : UInt16)
  /-- `subscribe_shot_delay_watch` has read `cur` -/
  | subscribing (cur : UInt32)
  deriving DecidableEq, Repr

/-- The tables at one UUID and who uses them. -/
structure ShotDelays where
  uuid : Uuid
  /-- the entry of the configuration file, from which lib.rs seeds the map -/
  config : Option UInt16
  deviceShotDelay : Option UInt16
  shotDelayWatch : Option UInt32
  handlers : List Listener
  subscribers : List Subscriber
  rpc : ShotDelayRpc

inductive ShotDelayEvent
  | spawn (h : Handler)
  /-- any message but `SetShotDelay` reaches a handler -/
  | message (k : HandlerId) (m : DeviceTaskMessage)
  | handler (k : HandlerId) (e : HandlerEvent)
  | request (r : ShotDelayRequest)
  | setWatch
  /-- `sender_for_uuid` finds the handler `target`, or none that has room for the message -/
  | tell (target : Option HandlerId)
  | subscribe
  /-- the subscriber forwards a changed value, or finds its client gone -/
  | forward (i : Nat)
  | hangUp (i : Nat)

/-- The value of a `SetShotDelay`. -/
def DeviceTaskMessage.shotDelayMs : DeviceTaskMessage → Option UInt16
  | .setShotDelay ms => some ms
  | _ => none

/-- The write to the shot-delay tables of `u` among the effects of an arm. -/
def Effect.shotWrite (u : Uuid) : Effect → Option StoreWrite
  | .shotDelay v w => if v = u then some w else none
  | _ => none

namespace ShotDelays

def init (uuid : Uuid) (config : Option UInt16) : ShotDelays :=
  { uuid, config
    deviceShotDelay := config
    shotDelayWatch := none
    handlers := []
    subscribers := []
    rpc := .idle }

/-- `get_or_default_shot_delay` -/
def getOrDefaultShotDelay (s : ShotDelays) : UInt16 :=
  match s.deviceShotDelay with
  | some v => v
  | none => s.config.getD 0

def hasReceiver (s : ShotDelays) : Bool :=
  s.handlers.any (·.receiving) || s.subscribers.any (·.running)

/-- A value that is sent changes the watch for all receivers. -/
def sent (s : ShotDelays) (v : UInt32) : ShotDelays :=
  { s with
    shotDelayWatch := some v
    handlers := s.handlers.map (·.changed)
    subscribers := s.subscribers.map (·.changed) }

/-- `watch::Sender::send`: it fails, and changes nothing, without a receiver. -/
def send (s : ShotDelays) (v : UInt32) : ShotDelays := if s.hasReceiver then s.sent v else s

/-- What the handler and the server share: send, or create the channel; the receiver
of a created channel is dropped. -/
def setWatch (s : ShotDelays) (v : UInt32) : ShotDelays :=
  match s.shotDelayWatch with
  | some _ => s.send v
  | none => { s with shotDelayWatch := some v }

def write (s : ShotDelays) : StoreWrite → ShotDelays
  | .delay ms => { s with deviceShotDelay := some ms }
  | .watch v => s.setWatch v

/-- Replace a handler. -/
def put (s : ShotDelays) (k : HandlerId) (l : Listener) : ShotDelays :=
  { s with handlers := s.handlers.set k l }

/-- The value a starting handler finds in the channel, or creates it with. -/
def initialShotDelay (s : ShotDelays) : UInt32 :=
  s.shotDelayWatch.getD (s.deviceShotDelay.getD 0).toUInt32

def handlerStep (s : ShotDelays) (k : HandlerId) (l : Listener) (e : HandlerEvent) : Option ShotDelays :=
  match e with
  | .start ms _ =>
    if ms = s.initialShotDelay then
      (l.task.next e).map fun t => { s with shotDelayWatch := some ms }.put k ⟨t, true⟩
    else none
  | .arm (.shotDelay ms) _ =>
    if l.fresh ∧ s.shotDelayWatch = some ms then
      (l.task.next e).map fun t => s.put k ⟨t, false⟩
    else none
  | .perform =>
    (l.task.next e).map fun t =>
      let s' := s.put k ⟨t, l.fresh⟩
      match l.task.todo.head?.bind (·.shotWrite s.uuid) with
      | some w => s'.write w
      | none => s'
  | e => (l.task.next e).map fun t => s.put k ⟨t, l.fresh⟩

/-- The first step of an RPC: a set writes the map, a subscription reads it. -/
def request (s : ShotDelays) (r : ShotDelayRequest) : Option ShotDelays :=
  if s.rpc = .idle then
    match r with
    | .set delayMs =>
      some { s with deviceShotDelay := some delayMs.toUInt16, rpc := .watching delayMs.toUInt16 }
    | .reset => some { s with deviceShotDelay := some 0, rpc := .watching 0 }
    | .subscribe => some { s with rpc := .subscribing s.getOrDefaultShotDelay.toUInt32 }
  else none

/-- The second step of `set_shot_delay_live`. -/
def watch (s : ShotDelays) : Option ShotDelays :=
  match s.rpc with
  | .watching ms => some { s.setWatch ms.toUInt32 with rpc := .telling ms }
  | _ => none

/-- `try_send(SetShotDelay(ms))`, and the acknowledgement. -/
def tell (s : ShotDelays) (target : Option HandlerId) : Option ShotDelays :=
  match s.rpc with
  | .telling ms =>
    match target with
    | none => some { s with rpc := .idle }
    | some k =>
      (s.handlers[k]?).map fun l => { s with rpc := .idle }.put k (l.receive (.setShotDelay ms))
  | _ => none

/-- The second step of `subscribe_shot_delay_watch`, and the task that forwards. -/
def subscribe (s : ShotDelays) : Option ShotDelays :=
  match s.rpc with
  | .subscribing cur =>
    let v := s.shotDelayWatch.getD cur
    some
      { s with
        shotDelayWatch := some v
        subscribers := s.subscribers ++ [{ connected := true, running := true, fresh := false, seen := v }]
        rpc := .idle }
  | _ => none

/-- A change is forwarded; without a client the task ends. -/
def forward (s : ShotDelays) (i : Nat) : Option ShotDelays :=
  match s.subscribers[i]?, s.shotDelayWatch with
  | some b, some v =>
    if b.running ∧ b.fresh then
      some
        { s with
          subscribers := s.subscribers.set i
            (if b.connected then { b with fresh := false, seen := v } else { b with running := false }) }
    else none
  | _, _ => none

def step (s : ShotDelays) : ShotDelayEvent → Option ShotDelays
  | .spawn h =>
    if h.device.uuid = s.uuid then
      some { s with handlers := s.handlers ++ [⟨.spawned h, false⟩] }
    else none
  | .message k m =>
    if m.shotDelayMs = none then (s.handlers[k]?).map fun l => s.put k (l.receive m) else none
  | .handler k e => s.handlers[k]?.bind fun l => s.handlerStep k l e
  | .request r => s.request r
  | .setWatch => s.watch
  | .tell target => s.tell target
  | .subscribe => s.subscribe
  | .forward i => s.forward i
  | .hangUp i =>
    (s.subscribers[i]?).map fun b =>
      { s with subscribers := s.subscribers.set i { b with connected := false } }

/-- The steps of the tables at one UUID. -/
def Step (s : ShotDelays) (e : ShotDelayEvent) (s' : ShotDelays) : Prop := s.step e = some s'

/-- The ways the tables can move. -/
inductive Moves (s : ShotDelays) : ShotDelayEvent → ShotDelays → Prop
  | spawn {h : Handler} : h.device.uuid = s.uuid →
      Moves s (.spawn h) { s with handlers := s.handlers ++ [⟨.spawned h, false⟩] }
  | message {k : HandlerId} {m : DeviceTaskMessage} {l : Listener} :
      m.shotDelayMs = none → s.handlers[k]? = some l → Moves s (.message k m) (s.put k (l.receive m))
  | handler {k : HandlerId} {e : HandlerEvent} {l : Listener} {s' : ShotDelays} :
      s.handlers[k]? = some l → s.handlerStep k l e = some s' → Moves s (.handler k e) s'
  | set (ms : UInt32) : s.rpc = .idle →
      Moves s (.request (.set ms))
        { s with deviceShotDelay := some ms.toUInt16, rpc := .watching ms.toUInt16 }
  | reset : s.rpc = .idle →
      Moves s (.request .reset) { s with deviceShotDelay := some 0, rpc := .watching 0 }
  | ask : s.rpc = .idle →
      Moves s (.request .subscribe) { s with rpc := .subscribing s.getOrDefaultShotDelay.toUInt32 }
  | watch {ms : UInt16} : s.rpc = .watching ms →
      Moves s .setWatch { s.setWatch ms.toUInt32 with rpc := .telling ms }
  | tellNobody {ms : UInt16} : s.rpc = .telling ms → Moves s (.tell none) { s with rpc := .idle }
  | tell {ms : UInt16} {k : HandlerId} {l : Listener} :
      s.rpc = .telling ms → s.handlers[k]? = some l →
      Moves s (.tell (some k)) ({ s with rpc := .idle }.put k (l.receive (.setShotDelay ms)))
  | subscribe {cur : UInt32} {s' : ShotDelays} :
      s.rpc = .subscribing cur → s.subscribe = some s' → Moves s .subscribe s'
  | forward {i : Nat} {b : Subscriber} {v : UInt32} :
      s.subscribers[i]? = some b → s.shotDelayWatch = some v → b.running = true ∧ b.fresh = true →
      Moves s (.forward i)
        { s with
          subscribers := s.subscribers.set i
            (if b.connected then { b with fresh := false, seen := v } else { b with running := false }) }
  | hangUp {i : Nat} {b : Subscriber} : s.subscribers[i]? = some b →
      Moves s (.hangUp i) { s with subscribers := s.subscribers.set i { b with connected := false } }

/-- **Inversion of `step`.** -/
theorem step_moves {s s' : ShotDelays} {e : ShotDelayEvent} (h : s.step e = some s') : s.Moves e s' := by
  cases e with
  | spawn hd =>
    simp only [step] at h
    split at h
    · next hu =>
      cases h
      exact .spawn hu
    · cases h
  | message k m =>
    simp only [step] at h
    split at h
    · next hm =>
      obtain ⟨l, hk, rfl⟩ := Option.map_eq_some_iff.mp h
      exact .message hm hk
    · cases h
  | handler k e =>
    obtain ⟨l, hk, hl⟩ := Option.bind_eq_some_iff.mp h
    exact .handler hk hl
  | request r =>
    simp only [step, request] at h
    split at h
    · next hr =>
      cases r with
      | set ms => cases h; exact .set ms hr
      | reset => cases h; exact .reset hr
      | subscribe => cases h; exact .ask hr
    · cases h
  | setWatch =>
    simp only [step, watch] at h
    split at h
    · next ms hr =>
      cases h
      exact .watch hr
    · cases h
  | tell target =>
    simp only [step, tell] at h
    split at h
    · next ms hr =>
      cases target with
      | none => cases h; exact .tellNobody hr
      | some k =>
        obtain ⟨l, hk, rfl⟩ := Option.map_eq_some_iff.mp h
        exact .tell hr hk
    · cases h
  | subscribe =>
    have hs : s.subscribe = some s' := h
    cases hr : s.rpc with
    | subscribing cur => exact .subscribe hr hs
    | idle | watching | telling => simp [subscribe, hr] at hs
  | forward i =>
    simp only [step, forward] at h
    split at h
    · next b v hb hv =>
      split at h
      · next hg =>
        cases h
        exact .forward hb hv hg
      · cases h
    · cases h
  | hangUp i =>
    obtain ⟨b, hb, rfl⟩ := Option.map_eq_some_iff.mp h
    exact .hangUp hb

/-- The last set or reset that was acknowledged, as a history variable. -/
def acknowledge (s : ShotDelays) (e : ShotDelayEvent) (_ : ShotDelays) (acked : Option UInt16) :
    Option UInt16 :=
  match e, s.rpc with
  | .tell _, .telling ms => some ms
  | _, _ => acked

end ShotDelays

end OdysseyHub
