import OdysseyHub.Common.Events
import OdysseyHub.Lib.Transition
import OdysseyHub.Server.Requests

/-!
# Commands for a dongle (server.rs, and the command arm of the hub manager in device_tasks.rs)

A request for a dongle queues a command for the manager that the list names, and waits for the
reply.  The manager takes commands one at a time, between its snapshots; it may end before it gets
to one, or be aborted with one in hand.  A pairing that has started is waited for by a task of its
own, which outlives the manager.

    commands reach the dongle in their order, each at most once; a request returns `Ok` only for a
    command that the dongle has carried out, and none waits for a reply that nobody owes it; every
    pairing that was started is told once                                   (commands_attended)
-/

namespace OdysseyHub

open Transition

/-! ## Commands -/

/-- Commands that can be sent to a dongle (hub manager task). -/
inductive DongleTaskMessage
  | startPairing (timeoutMs : UInt32)
  | cancelPairing
  | clearBonds
  deriving DecidableEq, Repr

/-- The requests of the service. -/
inductive DongleRequest
  | startDonglePairing (dongleId : String) (timeoutMs : UInt32)
  | cancelDonglePairing (dongleId : String)
  | clearDongleBonds (dongleId : String)

def DongleRequest.dongleId : DongleRequest → String
  | .startDonglePairing id _ | .cancelDonglePairing id | .clearDongleBonds id => id

def DongleRequest.command : DongleRequest → DongleTaskMessage
  | .startDonglePairing _ timeoutMs => .startPairing timeoutMs
  | .cancelDonglePairing _ => .cancelPairing
  | .clearDongleBonds _ => .clearBonds

/-- `dongle_sender_for_id` -/
def dongleSenderForId (dongles : List (DongleInfo × ManagerId)) (id : String) : Option ManagerId :=
  (dongles.find? fun e => e.1.id = id).map (·.2)

/-- The reply channel of a request. -/
inductive DongleReply
  | pending
  | sent (r : Except String Unit)
  | dropped

inductive DongleRpcState
  /-- it has a sender, and its command is not in the queue yet -/
  | sending
  /-- `reply_rx.await` -/
  | waiting
  | returned (r : Except Status Unit)
  /-- the client is gone -/
  | cancelled

structure DongleRpc where
  command : DongleTaskMessage
  state : DongleRpcState
  reply : DongleReply

namespace DongleRpc

/-- What the three handlers share, up to `send`. -/
def start (sender : Option ManagerId) (command : DongleTaskMessage) : DongleRpc :=
  { command := command
    state := if sender.isSome then .sending else .returned (.error (.notFound "dongle"))
    reply := .pending }

/-- `match reply_rx.await`, once there is something to hear. -/
def heard (rpc : DongleRpc) : Option DongleRpc :=
  match rpc.reply with
  | .pending => none
  | .sent (.ok ()) => some { rpc with state := .returned (.ok ()) }
  | .sent (.error e) => some { rpc with state := .returned (.error (.internal e)) }
  | .dropped => some { rpc with state := .returned (.error (.internal "dongle task dropped reply")) }

end DongleRpc

/-! ## The manager -/

inductive DongleManagerState
  /-- before its loop -/
  | starting
  | looping
  /-- the dongle has been asked -/
  | asking (i : Nat)
  /-- the bonds are cleared, and `DongleUpdate` is being sent -/
  | posting (i : Nat)
  /-- behind its loop -/
  | leaving
  | ended
  deriving DecidableEq

/-- `ats_usb::device::PairingEvent` -/
inductive PairingEvent
  | result (uuid : Uuid) (name : String)
  | timeout
  | cancelled

/-- The event of a pairing that is over. -/
def donglePairingResult {P : Type} (dongleId : String) : Except String PairingEvent → Events.Event P
  | .ok (.result uuid name) => .donglePairingResult dongleId true uuid name ""
  | .ok .timeout => .donglePairingResult dongleId false (Uuid.of 0 0 0 0 0 0) "" "Pairing timed out"
  | .ok .cancelled => .donglePairingResult dongleId false (Uuid.of 0 0 0 0 0 0) "" "Pairing cancelled"
  | .error e => .donglePairingResult dongleId false (Uuid.of 0 0 0 0 0 0) "" e

/-- One manager, with the requests that looked for its dongle, numbered as they came. -/
structure DongleCommands (P : Type) where
  self : ManagerId
  dongleId : String
  manager : DongleManagerState
  queue : List Nat
  rpcs : List DongleRpc
  /-- tasks in `wait_pairing_event` -/
  waiters : Nat
  emitted : List (Events.Event P)

inductive DongleCommandsEvent
  /-- a request, and the list it finds -/
  | request (dongles : List (DongleInfo × ManagerId)) (req : DongleRequest)
  | send (i : Nat)
  | hear (i : Nat)
  | cancel (i : Nat)
  | enter
  | take
  /-- the dongle answers -/
  | answer (r : Except String Unit)
  | posted
  /-- a snapshot that fails -/
  | leave
  /-- the task ends, or is aborted -/
  | stop
  | pairingEvent (r : Except String PairingEvent)

namespace DongleCommands

variable {P : Type}

/-- slots of `dongle_cmd_tx` -/
def commandCapacity : Nat := 32

def init (self : ManagerId) (dongleId : String) : DongleCommands P :=
  { self := self, dongleId := dongleId, manager := .starting, queue := [], rpcs := [], waiters := 0, emitted := [] }

def setRpc (s : DongleCommands P) (i : Nat) (rpc : DongleRpc) : DongleCommands P := { s with rpcs := s.rpcs.set i rpc }

/-- The request whose command the manager has in hand. -/
def inHand (s : DongleCommands P) : List Nat :=
  match s.manager with
  | .asking i | .posting i => [i]
  | _ => []

/-- `reply.send(r)`, and back to the loop. -/
def reply (s : DongleCommands P) (i : Nat) (rpc : DongleRpc) (r : Except String Unit) : DongleCommands P :=
  { s.setRpc i { rpc with reply := .sent r } with manager := .looping }

def answered (s : DongleCommands P) (i : Nat) (rpc : DongleRpc) : Except String Unit → DongleCommands P
  | .ok () =>
    match rpc.command with
    | .startPairing _ => { s.reply i rpc (.ok ()) with waiters := s.waiters + 1 }
    | .cancelPairing => s.reply i rpc (.ok ())
    | .clearBonds => { s with manager := .posting i }
  | .error e => s.reply i rpc (.error e)

/-- The receiver goes, and with it the commands in the queue and the one in hand. -/
def stopped (s : DongleCommands P) : DongleCommands P :=
  { s with
    manager := .ended
    queue := []
    rpcs := s.rpcs.mapIdx fun i rpc => if i ∈ s.queue ++ s.inHand then { rpc with reply := .dropped } else rpc }

def next (s : DongleCommands P) : DongleCommandsEvent → Option (DongleCommands P)
  | .request dongles req =>
    let sender := dongleSenderForId dongles req.dongleId
    -- requests that find another manager are that one's
    if sender = none ∨ sender = some s.self then some { s with rpcs := s.rpcs ++ [.start sender req.command] }
    else none
  | .send i =>
    (s.rpcs[i]?).bind fun rpc =>
      match rpc.state with
      | .sending =>
        if s.manager = .ended then
          some (s.setRpc i { rpc with state := .returned (.error (.unavailable "dongle task not available")) })
        else if s.queue.length < commandCapacity then
          some { s.setRpc i { rpc with state := .waiting } with queue := s.queue ++ [i] }
        else none
      | _ => none
  | .hear i =>
    (s.rpcs[i]?).bind fun rpc =>
      match rpc.state with
      | .waiting => rpc.heard.map (s.setRpc i)
      | _ => none
  | .cancel i =>
    (s.rpcs[i]?).bind fun rpc =>
      match rpc.state with
      | .sending | .waiting => some (s.setRpc i { rpc with state := .cancelled })
      | _ => none
  | .enter => if s.manager = .starting then some { s with manager := .looping } else none
  | .take =>
    match s.manager, s.queue with
    | .looping, i :: queue => some { s with manager := .asking i, queue := queue }
    | _, _ => none
  | .answer r =>
    match s.manager with
    | .asking i => (s.rpcs[i]?).map fun rpc => s.answered i rpc r
    | _ => none
  | .posted =>
    match s.manager with
    | .posting i => (s.rpcs[i]?).map fun rpc => s.reply i rpc (.ok ())
    | _ => none
  | .leave => if s.manager = .looping then some { s with manager := .leaving } else none
  | .stop => if s.manager = .ended then none else some s.stopped
  | .pairingEvent r =>
    if s.waiters = 0 then none
    else some { s with waiters := s.waiters - 1, emitted := s.emitted ++ [donglePairingResult s.dongleId r] }

def Step (s : DongleCommands P) (l : DongleCommandsEvent) (s' : DongleCommands P) : Prop := next s l = some s'

/-! ## What requests are promised -/

/-- A command that the dongle has answered. -/
structure DongleAnswer where
  rpc : Nat
  command : DongleTaskMessage
  result : Except String Unit

/-- A pairing that has started. -/
def DongleAnswer.started : DongleAnswer → Bool
  | ⟨_, .startPairing _, .ok ()⟩ => true
  | _ => false

/-- The commands that were queued, those the dongle was asked to carry out, and its answers. -/
structure DongleLog where
  queued : List Nat
  asked : List Nat
  answers : List DongleAnswer

def DongleLog.empty : DongleLog := ⟨[], [], []⟩

def logged (s : DongleCommands P) (l : DongleCommandsEvent) (_ : DongleCommands P) (log : DongleLog) : DongleLog :=
  match l with
  | .send i => if s.manager = .ended then log else { log with queued := log.queued ++ [i] }
  | .take => { log with asked := log.asked ++ s.queue.take 1 }
  | .answer r =>
    match s.manager with
    | .asking i =>
      { log with answers := log.answers ++ ((s.rpcs[i]?).elim [] fun rpc => [⟨i, rpc.command, r⟩]) }
    | _ => log
  | _ => log

def commands (s : DongleCommands P) : List DongleTaskMessage := s.rpcs.map (·.command)

/-- The manager still owes request `i` its reply. -/
def Owes (s : DongleCommands P) (i : Nat) : Prop := s.manager ≠ .ended ∧ i ∈ s.queue ++ s.inHand

/-- What a request may return. -/
def Tells (s : DongleCommands P) (log : DongleLog) (i : Nat) (command : DongleTaskMessage) : Except Status Unit → Prop
  | .ok () => ⟨i, command, .ok ()⟩ ∈ log.answers
  | .error (.internal e) =>
    ⟨i, command, .error e⟩ ∈ log.answers ∨ (e = "dongle task dropped reply" ∧ s.manager = .ended)
  | .error _ => i ∉ log.queued

structure Attended (s : DongleCommands P × DongleLog) : Prop where
  /-- commands reach the dongle in the order in which they were queued, each at most once -/
  inOrder : s.2.asked <+: s.2.queued
  once : s.2.queued.Nodup
  told : ∀ i rpc r, s.1.rpcs[i]? = some rpc → rpc.state = .returned r → s.1.Tells s.2 i rpc.command r
  awaited : ∀ i rpc, s.1.rpcs[i]? = some rpc → rpc.state = .waiting → rpc.heard = none → s.1.Owes i
  /-- a pairing that was started has been told, or is waited for -/
  pairings : s.2.answers.countP DongleAnswer.started = s.1.waiters + s.1.emitted.length

/-! ## The invariant -/

/-- What holds of the request `i`. -/
structure RpcOk (s : DongleCommands P) (log : DongleLog) (i : Nat) (rpc : DongleRpc) : Prop where
  sending : rpc.state = .sending → i ∉ log.queued
  told : ∀ r, rpc.state = .returned r → s.Tells log i rpc.command r
  awaited : rpc.state = .waiting → rpc.reply = .pending → s.Owes i
  replied : ∀ r, rpc.reply = .sent r → ⟨i, rpc.command, r⟩ ∈ log.answers
  dropped : rpc.reply = .dropped → s.manager = .ended

structure Inv (s : DongleCommands P × DongleLog) : Prop where
  asked : s.2.asked <+: s.2.queued
  kept : s.1.manager ≠ .ended → s.2.asked ++ s.1.queue = s.2.queued
  once : s.2.queued.Nodup
  known : ∀ i ∈ s.2.queued, i < s.1.commands.length
  rpcs : ∀ i rpc, s.1.rpcs[i]? = some rpc → s.1.RpcOk s.2 i rpc
  posting : ∀ i, s.1.manager = .posting i →
    ∃ command, s.1.commands[i]? = some command ∧ ⟨i, command, .ok ()⟩ ∈ s.2.answers
  pairings : s.2.answers.countP DongleAnswer.started = s.1.waiters + s.1.emitted.length

variable {s s' : DongleCommands P} {log log' : DongleLog}

theorem Inv.attended (h : Inv (s, log)) : Attended (s, log) where
  inOrder := h.asked
  once := h.once
  told i rpc r hi hr := (h.rpcs i rpc hi).told r hr
  awaited i rpc hi hw hheard := by
    refine (h.rpcs i rpc hi).awaited hw ?_
    unfold DongleRpc.heard at hheard
    cases hreply : rpc.reply with
    | pending => rfl
    | sent r => rw [hreply] at hheard; rcases r with e | _ <;> cases hheard
    | dropped => rw [hreply] at hheard; cases hheard
  pairings := h.pairings

theorem Tells.mono {i : Nat} {command : DongleTaskMessage} {r : Except Status Unit} (h : s.Tells log i command r)
    (hqueued : i ∈ log'.queued → i ∈ log.queued) (hanswers : ∀ a ∈ log.answers, a ∈ log'.answers)
    (hended : s.manager = .ended → s'.manager = .ended) : s'.Tells log' i command r := by
  rcases r with (_ | _ | _ | e) | _
  · exact fun hi => h (hqueued hi)
  · exact fun hi => h (hqueued hi)
  · exact fun hi => h (hqueued hi)
  · rcases h with h | ⟨he, hm⟩
    · exact .inl (hanswers _ h)
    · exact .inr ⟨he, hended hm⟩
  · exact hanswers _ h

/-- A request the step does not touch. -/
theorem RpcOk.frame {i : Nat} {rpc : DongleRpc} (h : s.RpcOk log i rpc)
    (hqueued : i ∈ log'.queued → i ∈ log.queued) (hanswers : ∀ a ∈ log.answers, a ∈ log'.answers)
    (hended : s.manager = .ended → s'.manager = .ended) (howes : s.Owes i → s'.Owes i) : s'.RpcOk log' i rpc where
  sending hs hi := h.sending hs (hqueued hi)
  told r hr := (h.told r hr).mono hqueued hanswers hended
  awaited hw hp := howes (h.awaited hw hp)
  replied r hr := hanswers _ (h.replied r hr)
  dropped hd := hended (h.dropped hd)

/-- The requests after one of them has been replaced. -/
theorem rpcs_set {i : Nat} {rpc : DongleRpc} (hi : s.rpcs[i]? = some rpc) {rpc' : DongleRpc}
    (hself : s'.RpcOk log' i rpc') (hother : ∀ j rpc, j ≠ i → s.rpcs[j]? = some rpc → s'.RpcOk log' j rpc) :
    ∀ j rpc, (s.rpcs.set i rpc')[j]? = some rpc → s'.RpcOk log' j rpc := by
  intro j rpc'' hj
  by_cases hij : j = i
  · subst hij
    rw [List.getElem?_set_self (List.getElem?_eq_some_iff.mp hi).1] at hj
    obtain rfl := Option.some.inj hj
    exact hself
  · rw [List.getElem?_set_ne (Ne.symm hij)] at hj
    exact hother j rpc'' hij hj

theorem commands_set {i : Nat} {rpc rpc' : DongleRpc} (hi : s.rpcs[i]? = some rpc)
    (hcommand : rpc'.command = rpc.command) : (s.rpcs.set i rpc').map (·.command) = s.commands := by
  have hlt := (List.getElem?_eq_some_iff.mp hi).1
  have hget : (s.rpcs.map (·.command))[i]? = some rpc'.command := by rw [List.getElem?_map, hi, hcommand]; rfl
  rw [List.map_set]
  apply List.ext_getElem?
  intro j
  by_cases hij : i = j
  · subst hij
    rw [List.getElem?_set_self (by rwa [List.length_map])]
    exact hget.symm
  · exact List.getElem?_set_ne hij

/-! ## Requests -/

theorem Inv.request (h : Inv (s, log)) (sender : Option ManagerId) (command : DongleTaskMessage) :
    Inv ({ s with rpcs := s.rpcs ++ [.start sender command] }, log) where
  asked := h.asked
  kept := h.kept
  once := h.once
  known i hi := by
    show i < ((s.rpcs ++ [_]).map _).length
    rw [List.map_append, List.length_append]
    exact Nat.lt_add_right _ (h.known i hi)
  rpcs i rpc hi := by
    rcases Nat.lt_or_ge i s.rpcs.length with hlt | hge
    · rw [List.getElem?_append_left hlt] at hi
      exact (h.rpcs i rpc hi).frame id (fun _ => id) id id
    · rw [List.getElem?_append_right hge, List.getElem?_singleton] at hi
      split at hi
      · cases hi
        have hnew : i ∉ log.queued := by
          intro hq
          have hlt : i < s.commands.length := h.known i hq
          rw [commands, List.length_map] at hlt
          omega
        refine ⟨fun _ => hnew, fun r hr => ?_, fun hw => ?_, fun r hr => (by cases hr), fun hd => by cases hd⟩
        · cases sender with
          | none => cases hr; exact hnew
          | some k => cases hr
        · cases sender <;> cases hw
      · cases hi
  posting i hp := by
    obtain ⟨c, hi, ha⟩ := h.posting i hp
    refine ⟨c, ?_, ha⟩
    show ((s.rpcs ++ [_]).map _)[i]? = some c
    rw [List.map_append]
    exact (List.getElem?_append_left (List.getElem?_eq_some_iff.mp hi).1).trans hi
  pairings := h.pairings

/-- A request changes its own state, and nothing else happens. -/
theorem Inv.setRpc (h : Inv (s, log)) {i : Nat} {rpc rpc' : DongleRpc} (hi : s.rpcs[i]? = some rpc)
    (hcommand : rpc'.command = rpc.command) (hok : s.RpcOk log i rpc') : Inv (s.setRpc i rpc', log) := by
  have hcommands : (s.setRpc i rpc').commands = s.commands := commands_set hi hcommand
  exact
    { asked := h.asked
      kept := h.kept
      once := h.once
      known := by
        dsimp only
        rw [hcommands]
        exact h.known
      rpcs := rpcs_set hi (hok.frame id (fun _ => id) id id) fun j rpc _ hj =>
        (h.rpcs j rpc hj).frame id (fun _ => id) id id
      posting := by
        dsimp only
        rw [hcommands]
        exact h.posting
      pairings := h.pairings }

theorem Inv.send (h : Inv (s, log)) {i : Nat} {rpc : DongleRpc} (hi : s.rpcs[i]? = some rpc)
    (hs : rpc.state = .sending) (hm : s.manager ≠ .ended) :
    Inv ({ s.setRpc i { rpc with state := .waiting } with queue := s.queue ++ [i] },
      { log with queued := log.queued ++ [i] }) := by
  have hcommands : (s.rpcs.set i { rpc with state := .waiting }).map (·.command) = s.commands := commands_set hi rfl
  have howes : ∀ j, s.Owes j → j ∈ (s.queue ++ [i]) ++ s.inHand := by
    intro j hj
    rcases List.mem_append.mp hj.2 with hj | hj
    · exact List.mem_append_left _ (List.mem_append_left _ hj)
    · exact List.mem_append_right _ hj
  refine
    { asked := h.asked.trans (List.prefix_append _ _)
      kept := fun hm => ?_
      once := List.nodup_append.mpr ⟨h.once, List.nodup_singleton i, fun j hj k hk hjk => ?_⟩
      known := fun j hj => ?_
      rpcs := rpcs_set hi ?_ fun j rpc hij hj => ?_
      posting := fun j hp => ?_
      pairings := h.pairings }
  · show log.asked ++ (s.queue ++ [i]) = log.queued ++ [i]
    rw [← h.kept hm, List.append_assoc]
  · obtain rfl := List.mem_singleton.mp hk
    exact (h.rpcs k rpc hi).sending hs (hjk ▸ hj)
  · show j < ((s.rpcs.set i _).map _).length
    rw [hcommands]
    rcases List.mem_append.mp hj with hj | hj
    · exact h.known j hj
    · rw [List.mem_singleton.mp hj, commands, List.length_map]
      exact (List.getElem?_eq_some_iff.mp hi).1
  · have hok := h.rpcs i rpc hi
    exact
      { sending := fun hs => by cases hs
        told := fun r hr => by cases hr
        awaited := fun _ _ => ⟨hm, List.mem_append_left _ (List.mem_append_right _ List.mem_cons_self)⟩
        replied := hok.replied
        dropped := hok.dropped }
  · refine (h.rpcs j rpc hj).frame (fun hq => ?_) (fun _ => id) id fun ho => ⟨ho.1, howes j ho⟩
    rcases List.mem_append.mp hq with hq | hq
    · exact hq
    · exact absurd (List.mem_singleton.mp hq) hij
  · show ∃ c, ((s.rpcs.set i _).map _)[j]? = some c ∧ _
    rw [hcommands]
    exact h.posting j hp

/-- A send that fails, a reply that is heard, and a client that goes. -/
theorem RpcOk.unsent {i : Nat} {rpc : DongleRpc} (h : s.RpcOk log i rpc) (hs : rpc.state = .sending) :
    s.RpcOk log i { rpc with state := .returned (.error (.unavailable "dongle task not available")) } where
  sending hs := by cases hs
  told r hr := by
    cases hr
    exact h.sending hs
  awaited hw := by cases hw
  replied := h.replied
  dropped := h.dropped

theorem RpcOk.heard {i : Nat} {rpc rpc' : DongleRpc} (h : s.RpcOk log i rpc) (hheard : rpc.heard = some rpc') :
    rpc'.command = rpc.command ∧ s.RpcOk log i rpc' := by
  obtain ⟨command, state, reply⟩ := rpc
  have hok : ∀ r : Except Status Unit, s.Tells log i command r →
      s.RpcOk log i ⟨command, .returned r, reply⟩ := fun r hr =>
    { sending := fun hs => by cases hs
      told := fun r' hr' => by cases hr'; exact hr
      awaited := fun hw => by cases hw
      replied := h.replied
      dropped := h.dropped }
  unfold DongleRpc.heard at hheard
  dsimp only at hheard
  cases hreply : reply with
  | pending => rw [hreply] at hheard; cases hheard
  | sent r =>
    rw [hreply] at hheard
    subst hreply
    rcases r with e | _ <;> cases hheard
    · exact ⟨rfl, hok _ (.inl (h.replied _ rfl))⟩
    · exact ⟨rfl, hok _ (h.replied _ rfl)⟩
  | dropped =>
    rw [hreply] at hheard
    subst hreply
    cases hheard
    exact ⟨rfl, hok _ (.inr ⟨rfl, h.dropped rfl⟩)⟩

theorem RpcOk.cancelled {i : Nat} {rpc : DongleRpc} (h : s.RpcOk log i rpc) :
    s.RpcOk log i { rpc with state := .cancelled } where
  sending hs := by cases hs
  told r hr := by cases hr
  awaited hw := by cases hw
  replied := h.replied
  dropped := h.dropped

/-! ## The manager -/

/-- The manager goes into its loop, or out of it. -/
theorem Inv.goto (h : Inv (s, log)) (hs : s.manager ≠ .ended) (hidle : s.inHand = []) {m : DongleManagerState}
    (hm : m = .looping ∨ m = .leaving) : Inv ({ s with manager := m }, log) where
  asked := h.asked
  kept _ := h.kept hs
  once := h.once
  known := h.known
  rpcs j rpc hj := by
    refine (h.rpcs j rpc hj).frame id (fun _ => id) (absurd · hs) fun ho => ⟨?_, ?_⟩
    · rcases hm with rfl | rfl <;> exact fun h => by cases h
    · have hq := ho.2
      rw [hidle, List.append_nil] at hq
      exact List.mem_append_left _ hq
  posting j hp := by
    rcases hm with rfl | rfl <;> cases hp
  pairings := h.pairings

theorem Inv.take (h : Inv (s, log)) (hs : s.manager = .looping) {i : Nat} {queue : List Nat}
    (hqueue : s.queue = i :: queue) :
    Inv ({ s with manager := .asking i, queue := queue }, { log with asked := log.asked ++ [i] }) := by
  have hkept : log.asked ++ [i] ++ queue = log.queued := by
    have hk : log.asked ++ s.queue = log.queued := h.kept (by rw [hs]; exact fun h => by cases h)
    rw [← hk, hqueue, List.append_assoc]
    rfl
  have hhand : s.queue ++ s.inHand = i :: queue := by
    rw [hqueue, show s.inHand = [] by unfold inHand; rw [hs], List.append_nil]
  exact
    { asked := ⟨queue, hkept⟩
      kept := fun _ => hkept
      once := h.once
      known := h.known
      rpcs := fun j rpc hj => by
        refine (h.rpcs j rpc hj).frame id (fun _ => id) (fun he => by rw [hs] at he; cases he) fun ho => ⟨?_, ?_⟩
        · exact fun h => by cases h
        · have hq := ho.2
          rw [hhand] at hq
          rcases List.mem_cons.mp hq with rfl | hq
          · exact List.mem_append_right _ List.mem_cons_self
          · exact List.mem_append_left _ hq
      posting := fun j hp => by cases hp
      pairings := h.pairings }

/-- The reply to the command in hand. -/
theorem Inv.reply (h : Inv (s, log)) {i : Nat} {rpc : DongleRpc} (hi : s.rpcs[i]? = some rpc)
    (hm : s.manager ≠ .ended) (hhand : s.inHand = [i]) {r : Except String Unit} {answers : List DongleAnswer}
    (hkeep : ∀ a ∈ log.answers, a ∈ answers) (hr : ⟨i, rpc.command, r⟩ ∈ answers) {waiters : Nat}
    (hpairings : answers.countP DongleAnswer.started = waiters + s.emitted.length) :
    Inv ({ s.reply i rpc r with waiters := waiters }, { log with answers := answers }) := by
  have hcommands : (s.rpcs.set i { rpc with reply := .sent r }).map (·.command) = s.commands := commands_set hi rfl
  refine
    { asked := h.asked
      kept := fun _ => h.kept hm
      once := h.once
      known := fun j hj => ?_
      rpcs := rpcs_set hi ?_ fun j rpc hij hj => ?_
      posting := fun j hp => by cases hp
      pairings := hpairings }
  · show j < ((s.rpcs.set i _).map _).length
    rw [hcommands]
    exact h.known j hj
  · have hok := h.rpcs i rpc hi
    exact
      { sending := hok.sending
        told := fun r' hr' => (hok.told r' hr').mono id hkeep (absurd · hm)
        awaited := fun _ hp => by cases hp
        replied := fun r' hr' => by cases hr'; exact hr
        dropped := fun hd => by cases hd }
  · refine (h.rpcs j rpc hj).frame id hkeep (absurd · hm) fun ho => ⟨fun h => (by cases h), ?_⟩
    have hq := ho.2
    rw [hhand] at hq
    rcases List.mem_append.mp hq with hq | hq
    · exact List.mem_append_left _ hq
    · exact absurd (List.mem_singleton.mp hq) hij

/-- The bonds are cleared, and the list is told before the request. -/
theorem Inv.post (h : Inv (s, log)) {i : Nat} {rpc : DongleRpc} (hi : s.rpcs[i]? = some rpc)
    (hm : s.manager = .asking i) {a : DongleAnswer} (ha : a = ⟨i, rpc.command, .ok ()⟩) (hquiet : a.started = false) :
    Inv ({ s with manager := .posting i }, { log with answers := log.answers ++ [a] }) where
  asked := h.asked
  kept _ := h.kept (by rw [hm]; exact fun h => by cases h)
  once := h.once
  known := h.known
  rpcs j rpc hj := by
    refine (h.rpcs j rpc hj).frame id (fun b hb => List.mem_append_left _ hb) (fun he => by rw [hm] at he; cases he)
      fun ho => ⟨fun h => (by cases h), ?_⟩
    have hq := ho.2
    rw [show s.inHand = [i] by unfold inHand; rw [hm]] at hq
    exact hq
  posting j hp := by
    cases hp
    refine ⟨rpc.command, ?_, List.mem_append_right _ ?_⟩
    · show (s.rpcs.map _)[i]? = _
      rw [List.getElem?_map, hi]
      rfl
    · rw [ha]
      exact List.mem_cons_self
  pairings := by
    have hp := h.pairings
    dsimp only at hp ⊢
    rw [List.countP_append, List.countP_singleton, hquiet, hp]
    rfl

/-- **The manager ends.**  Nobody is left waiting for it. -/
theorem Inv.stopped (h : Inv (s, log)) : Inv (s.stopped, log) := by
  have hget : ∀ j rpc', s.stopped.rpcs[j]? = some rpc' → ∃ rpc, s.rpcs[j]? = some rpc ∧
      rpc' = if j ∈ s.queue ++ s.inHand then { rpc with reply := .dropped } else rpc := by
    intro j rpc' hj
    unfold DongleCommands.stopped at hj
    rw [List.getElem?_mapIdx] at hj
    obtain ⟨rpc, hrpc, rfl⟩ := Option.map_eq_some_iff.mp hj
    exact ⟨rpc, hrpc, rfl⟩
  refine
    { asked := h.asked
      kept := fun hm => absurd rfl hm
      once := h.once
      known := fun j hj => ?_
      rpcs := fun j rpc' hj => ?_
      posting := fun j hp => by cases hp
      pairings := h.pairings }
  · show j < (s.stopped.rpcs.map _).length
    rw [List.length_map, DongleCommands.stopped, List.length_mapIdx]
    have hlt := h.known j hj
    unfold commands at hlt
    rwa [List.length_map] at hlt
  · obtain ⟨rpc, hrpc, rfl⟩ := hget j rpc' hj
    have hok := h.rpcs j rpc hrpc
    have hmono : ∀ r, s.Tells log j rpc.command r → s.stopped.Tells log j rpc.command r := fun r hr =>
      hr.mono id (fun _ => id) fun _ => rfl
    by_cases hheld : j ∈ s.queue ++ s.inHand
    · rw [if_pos hheld]
      exact
        { sending := hok.sending
          told := fun r hr => hmono r (hok.told r hr)
          awaited := fun _ hp => by cases hp
          replied := fun r hr => by cases hr
          dropped := fun _ => rfl }
    · rw [if_neg hheld]
      exact
        { sending := hok.sending
          told := fun r hr => hmono r (hok.told r hr)
          awaited := fun hw hp => absurd (hok.awaited hw hp).2 hheld
          replied := hok.replied
          dropped := fun _ => rfl }

theorem Inv.pairingEvent (h : Inv (s, log)) (hw : s.waiters ≠ 0) (ev : Events.Event P) :
    Inv ({ s with waiters := s.waiters - 1, emitted := s.emitted ++ [ev] }, log) where
  asked := h.asked
  kept := h.kept
  once := h.once
  known := h.known
  rpcs j rpc hj := (h.rpcs j rpc hj).frame id (fun _ => id) id id
  posting := h.posting
  pairings := by
    have hp := h.pairings
    dsimp only at hp ⊢
    rw [hp, List.length_append, List.length_singleton]
    omega

/-- The answer of the dongle. -/
theorem Inv.answer (h : Inv (s, log)) {i : Nat} {rpc : DongleRpc} (hi : s.rpcs[i]? = some rpc)
    (hm : s.manager = .asking i) (r : Except String Unit) :
    Inv (s.answered i rpc r, { log with answers := log.answers ++ [⟨i, rpc.command, r⟩] }) := by
  have hlive : s.manager ≠ .ended := by rw [hm]; exact fun h => by cases h
  have hhand : s.inHand = [i] := by unfold inHand; rw [hm]
  have hkeep : ∀ a ∈ log.answers, a ∈ log.answers ++ [⟨i, rpc.command, r⟩] := fun a => List.mem_append_left _
  have hlast : ⟨i, rpc.command, r⟩ ∈ log.answers ++ [⟨i, rpc.command, r⟩] :=
    List.mem_append_right _ List.mem_cons_self
  have hcount : (log.answers ++ [DongleAnswer.mk i rpc.command r]).countP DongleAnswer.started =
      s.waiters + s.emitted.length + if DongleAnswer.started ⟨i, rpc.command, r⟩ then 1 else 0 := by
    have hp : log.answers.countP DongleAnswer.started = s.waiters + s.emitted.length := h.pairings
    rw [List.countP_append, List.countP_singleton, hp]
  obtain ⟨command, state, reply⟩ := rpc
  rcases r with e | _
  · refine h.reply hi hlive hhand hkeep hlast (hcount.trans ?_)
    cases command <;> rfl
  · cases command with
    | startPairing timeoutMs =>
      refine h.reply hi hlive hhand hkeep hlast (hcount.trans ?_)
      show s.waiters + s.emitted.length + 1 = s.waiters + 1 + s.emitted.length
      omega
    | cancelPairing => exact h.reply hi hlive hhand hkeep hlast hcount
    | clearBonds => exact h.post hi hm rfl rfl

/-- **Step lemma.** -/
theorem Inv.step (h : Inv (s, log)) {l : DongleCommandsEvent} (hstep : Step s l s') :
    Inv (s', logged s l s' log) := by
  unfold Step next at hstep
  unfold logged
  cases l with
  | request dongles req =>
    dsimp only at hstep ⊢
    split at hstep
    · cases hstep
      exact h.request _ _
    · cases hstep
  | send i =>
    dsimp only at hstep ⊢
    obtain ⟨rpc, hi, hrpc⟩ := Option.bind_eq_some_iff.mp hstep
    split at hrpc
    · next hs =>
      by_cases hm : s.manager = .ended
      · rw [if_pos hm] at hrpc ⊢
        cases hrpc
        exact h.setRpc hi rfl ((h.rpcs i rpc hi).unsent hs)
      · rw [if_neg hm] at hrpc ⊢
        split at hrpc
        · cases hrpc
          exact h.send hi hs hm
        · cases hrpc
    · cases hrpc
  | hear i =>
    dsimp only at hstep ⊢
    obtain ⟨rpc, hi, hrpc⟩ := Option.bind_eq_some_iff.mp hstep
    split at hrpc
    · obtain ⟨rpc', hheard, rfl⟩ := Option.map_eq_some_iff.mp hrpc
      obtain ⟨hcommand, hok⟩ := (h.rpcs i rpc hi).heard hheard
      exact h.setRpc hi hcommand hok
    · cases hrpc
  | cancel i =>
    dsimp only at hstep ⊢
    obtain ⟨rpc, hi, hrpc⟩ := Option.bind_eq_some_iff.mp hstep
    split at hrpc
    · cases hrpc
      exact h.setRpc hi rfl (h.rpcs i rpc hi).cancelled
    · cases hrpc
      exact h.setRpc hi rfl (h.rpcs i rpc hi).cancelled
    · cases hrpc
  | enter =>
    dsimp only at hstep ⊢
    split at hstep
    · next hm =>
      cases hstep
      exact h.goto (by rw [hm]; exact fun h => by cases h) (by unfold inHand; rw [hm]) (.inl rfl)
    · cases hstep
  | take =>
    dsimp only at hstep ⊢
    split at hstep
    · next i queue hm hq =>
      cases hstep
      rw [hq]
      exact h.take hm hq
    · cases hstep
  | answer r =>
    dsimp only at hstep ⊢
    split at hstep
    · next i hm =>
      obtain ⟨rpc, hi, rfl⟩ := Option.map_eq_some_iff.mp hstep
      rw [hi]
      exact h.answer hi hm r
    · cases hstep
  | posted =>
    dsimp only at hstep ⊢
    split at hstep
    · next i hm =>
      obtain ⟨rpc, hi, rfl⟩ := Option.map_eq_some_iff.mp hstep
      obtain ⟨command, hc, ha⟩ := h.posting i hm
      have hcommand : s.commands[i]? = some rpc.command := by rw [commands, List.getElem?_map, hi]; rfl
      obtain rfl := Option.some.inj (hcommand.symm.trans hc)
      exact h.reply hi (by rw [hm]; exact fun h => by cases h) (by unfold inHand; rw [hm]) (fun _ => id) ha h.pairings
    · cases hstep
  | leave =>
    dsimp only at hstep ⊢
    split at hstep
    · next hm =>
      cases hstep
      exact h.goto (by rw [hm]; exact fun h => by cases h) (by unfold inHand; rw [hm]) (.inr rfl)
    · cases hstep
  | stop =>
    dsimp only at hstep ⊢
    split at hstep
    · cases hstep
    · cases hstep
      exact h.stopped
  | pairingEvent r =>
    dsimp only at hstep ⊢
    split at hstep
    · cases hstep
    · next hw =>
      cases hstep
      exact h.pairingEvent hw _

/-- **Commands are attended to.**  However requests, the manager, the dongle and the pairings cross,
and whenever clients and the manager go. -/
theorem commands_attended (self : ManagerId) (dongleId : String)
    {tr : List (DongleCommandsEvent × (DongleCommands P × DongleLog))}
    (hrun : Exec (ghost Step logged) (init self dongleId, .empty) tr) :
    Always Attended (init self dongleId, .empty) tr := by
  have hinit : Inv (init (P := P) self dongleId, .empty) :=
    { asked := List.nil_prefix
      kept := fun _ => rfl
      once := List.nodup_nil
      known := fun i hi => absurd hi List.not_mem_nil
      rpcs := fun i rpc hi => by cases hi
      posting := fun i hp => by cases hp
      pairings := rfl }
  refine (hrun.invariant ?_ hinit).imp fun t ht => ht.attended
  rintro ⟨s, log⟩ l ⟨s', log'⟩ hs ⟨hstep, hlog⟩
  dsimp only at hstep hlog
  rw [hlog]
  exact hs.step hstep

def listedDongle : List (DongleInfo × ManagerId) :=
  [({ id := "D", protocolVersion := .of 0 1 1, controlProtocolVersion := .of 0 1 1, firmwareVersion := .of 1 0 0
      connectedDevices := [], bondedDevices := [] }, 3)]

/-- A pairing starts, and the manager is aborted before it gets to the bonds; then the pairing times
out. -/
def aborted : List DongleCommandsEvent :=
  [.request listedDongle (.startDonglePairing "D" 30000), .send 0, .enter, .take, .answer (.ok ()),
    .request listedDongle (.clearDongleBonds "D"), .send 1, .hear 0, .stop, .hear 1,
    .request [] (.cancelDonglePairing "D"), .pairingEvent (.ok .timeout)]

def abortedRun : List (DongleCommandsEvent × (DongleCommands UInt8 × DongleLog)) :=
  trace (ghostStep next logged) (init 3 "D", .empty) aborted

theorem commands_attended_aborted :
    Always Attended (init 3 "D", .empty) abortedRun ∧
      (last (init 3 "D", .empty) abortedRun).1.rpcs.map (·.state) =
        [.returned (.ok ()), .returned (.error (.internal "dongle task dropped reply")),
          .returned (.error (.notFound "dongle"))] ∧
      (last (init 3 "D", .empty) abortedRun).1.emitted.length = 1 :=
  ⟨commands_attended 3 "D" (exec_ghostStep (fun _ _ _ h => h) _ _ aborted), rfl, rfl⟩

end DongleCommands

end OdysseyHub
