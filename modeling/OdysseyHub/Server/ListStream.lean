import OdysseyHub.Interface.Proto
import OdysseyHub.Server.Run

/-!
# List subscriptions (server.rs)

`subscribe_device_list` and `subscribe_dongle_list` forward a list to a client: every
change of the list is announced on a broadcast channel, and a task answers each
announcement with a fresh snapshot.  The two differ in the list, the reply and the room of
the channel.  A subscription lives on and converges exactly as long as the task
never comes to receive with more announcements unread than the channel keeps
(`lists_converge_iff`).
-/

namespace OdysseyHub

open Transition

/-! ## Broadcast receivers -/

/-- What a `recv` finds: a value, or how many were overwritten. -/
inductive RecvResult (α : Type)
  | ok (value : α)
  | lagged (missed : Nat)

/-- `recv()` on the values not yet read, of which the channel keeps the last `capacity`. -/
def broadcastRecv {α : Type} (capacity : Nat) : List α → Option (RecvResult α × List α)
  | [] => none
  | v :: rest =>
    let missed := (v :: rest).length - capacity
    if missed = 0 then some (.ok v, rest) else some (.lagged missed, (v :: rest).drop missed)

section
variable {α : Type} {capacity missed : Nat} {value : α} {unread rest : List α}

theorem recv_ok (h : broadcastRecv capacity unread = some (.ok value, rest)) : unread = value :: rest := by
  cases unread with
  | nil => cases h
  | cons v tail =>
    unfold broadcastRecv at h
    dsimp only at h
    split at h
    · cases h
      rfl
    · cases h

theorem recv_of_room (h : (value :: rest).length ≤ capacity) :
    broadcastRecv capacity (value :: rest) = some (.ok value, rest) := by
  unfold broadcastRecv
  dsimp only
  rw [if_pos (Nat.sub_eq_zero_of_le h)]

theorem recv_lagged (h : broadcastRecv capacity unread = some (.lagged missed, rest)) : capacity < unread.length := by
  cases unread with
  | nil => cases h
  | cons v tail =>
    unfold broadcastRecv at h
    dsimp only at h
    split at h
    · cases h
    · next hmissed => omega

end

/-! ## The two lists -/

/-- A list, how messages change it, and the messages that are announced. -/
structure ListService (L V : Type) where
  forward : L → Message → L
  announces : Message → Bool
  reply : L → V
  /-- slots of the broadcast channel, a power of two -/
  changeCapacity : Nat
  /-- slots of the client's channel -/
  replyCapacity : Nat
  room : 0 < replyCapacity
  silent : ∀ l m, announces m = false → forward l m = l

namespace Proto

structure Dongle where
  id : String
  firmwareVersion : Option FirmwareVersion
  connectedDevices : List (List UInt8)
  protocolVersion : Option FirmwareVersion
  bondedDevices : List (List UInt8)
  controlProtocolVersion : Option FirmwareVersion
  deriving DecidableEq, Repr

end Proto

/-- `dongle_list_reply_from` -/
def dongleListReplyFrom (dongles : List DongleInfo) : List Proto.Dongle :=
  dongles.map fun d =>
    { id := d.id
      firmwareVersion := Proto.FirmwareVersion.ofVersion d.firmwareVersion
      connectedDevices := d.connectedDevices.map (·.toList)
      protocolVersion := Proto.FirmwareVersion.ofVersion d.protocolVersion
      bondedDevices := d.bondedDevices.map (·.toList)
      controlProtocolVersion := Proto.FirmwareVersion.ofVersion d.controlProtocolVersion }

/-- The message is about a dongle. -/
def Message.isDongle : Message → Bool
  | .dongleConnect .. | .dongleUpdate _ | .dongleDisconnect _ => true
  | .connect .. | .disconnect _ | .updateDevice _ | .updateName .. => false

/-- `device_list_stream`, on a `broadcast::channel(12)`. -/
def deviceListStream : ListService DeviceList (List Proto.Device) where
  forward := DeviceList.forward
  announces m := !m.isDongle
  reply l := l.map fun e => Proto.Device.ofDevice e.1
  changeCapacity := 16
  replyCapacity := 16
  room := by decide
  silent l m h := by
    cases m with
    | dongleConnect info commands => rfl
    | dongleUpdate info => rfl
    | dongleDisconnect id => rfl
    | connect d commands => cases h
    | disconnect d => cases h
    | updateDevice d => cases h
    | updateName u name => cases h

/-- `dongle_list_stream`, on a `broadcast::channel(16)`. -/
def dongleListStream : ListService (List (DongleInfo × ManagerId)) (List Proto.Dongle) where
  forward := forwardDongle
  announces := Message.isDongle
  reply l := dongleListReplyFrom (l.map (·.1))
  changeCapacity := 16
  replyCapacity := 16
  room := by decide
  silent l m h := by
    cases m with
    | dongleConnect info commands => cases h
    | dongleUpdate info => cases h
    | dongleDisconnect id => cases h
    | connect d commands => rfl
    | disconnect d => rfl
    | updateDevice d => rfl
    | updateName u name => rfl

/-! ## One subscription -/

inductive StreamTask (V : Type)
  /-- the receiver is there, the first snapshot is to come -/
  | subscribed
  | receiving
  /-- an announcement is read, a snapshot is to come -/
  | received
  | sending (reply : V)
  /-- out of the loop -/
  | ended

structure ListStream (L V : Type) where
  list : L
  /-- tasks that have changed the list and are about to announce it -/
  changed : Nat
  /-- announcements the subscription has not read -/
  unread : List Unit
  task : StreamTask V
  replies : List V
  /-- what the client has read last -/
  delivered : Option V

inductive StreamEvent
  /-- the list is changed by a message; `set_device_name` changes it as `UpdateName` does -/
  | change (m : Message)
  | announce
  | snapshot
  | recv
  | send
  /-- the client reads a reply -/
  | deliver

namespace ListStream

section
variable {L V : Type} (svc : ListService L V)

def init (list : L) : ListStream L V :=
  { list := list, changed := 0, unread := [], task := .subscribed, replies := [], delivered := none }

/-- `try_send` of the first snapshot. -/
def trySend (s : ListStream L V) (reply : V) : List V :=
  if s.replies.length < svc.replyCapacity then s.replies ++ [reply] else s.replies

def next (s : ListStream L V) : StreamEvent → Option (ListStream L V)
  | .change m =>
    some
      { s with
        list := svc.forward s.list m
        changed := if svc.announces m then s.changed + 1 else s.changed }
  | .announce =>
    if s.changed = 0 then none else some { s with changed := s.changed - 1, unread := s.unread ++ [()] }
  | .snapshot =>
    match s.task with
    | .subscribed => some { s with task := .receiving, replies := s.trySend svc (svc.reply s.list) }
    | .received => some { s with task := .sending (svc.reply s.list) }
    | _ => none
  | .recv =>
    match s.task, broadcastRecv svc.changeCapacity s.unread with
    | .receiving, some (.ok (), unread) => some { s with task := .received, unread := unread }
    -- "broadcast closed"
    | .receiving, some (.lagged _, unread) => some { s with task := .ended, unread := unread }
    | _, _ => none
  | .send =>
    match s.task with
    | .sending reply =>
      if s.replies.length < svc.replyCapacity then
        some { s with task := .receiving, replies := s.replies ++ [reply] }
      else none
    | _ => none
  | .deliver =>
    match s.replies with
    | reply :: rest => some { s with replies := rest, delivered := some reply }
    | [] => none

def Step (s : ListStream L V) (e : StreamEvent) (s' : ListStream L V) : Prop := next svc s e = some s'

/-! ## Convergence -/

/-- Every change is announced, and every announcement and reply is read. -/
def Drained (s : ListStream L V) : Prop :=
  s.changed = 0 ∧ s.replies = [] ∧ ((s.task = .receiving ∧ s.unread = []) ∨ s.task = .ended)

/-- The subscription has not ended, and once the queues have drained the client has the list. -/
def Converges (s : ListStream L V) : Prop :=
  s.task ≠ .ended ∧ (s.Drained → s.delivered = some (svc.reply s.list))

/-- The task comes to receive before an announcement is overwritten. -/
def KeepsUp (s : ListStream L V) : StreamEvent → Prop
  | .recv => s.unread.length ≤ svc.changeCapacity
  | _ => True

instance (s : ListStream L V) : ∀ e, Decidable (KeepsUp svc s e)
  | .recv => inferInstanceAs (Decidable (_ ≤ _))
  | .change _ => isTrue trivial
  | .announce => isTrue trivial
  | .snapshot => isTrue trivial
  | .send => isTrue trivial
  | .deliver => isTrue trivial

/-- The last reply sent, whether it has been read or not. -/
def latest (s : ListStream L V) : Option V := s.replies.getLast?.or s.delivered

/-- Another snapshot will be taken, or the one `v` is of the list. -/
def Fresh (s : ListStream L V) (v : Option V) : Prop :=
  v = some (svc.reply s.list) ∨ s.changed ≠ 0 ∨ s.unread ≠ []

/-- What each stage of the task promises. -/
structure Inv (s : ListStream L V) : Prop where
  subscribed : s.task = .subscribed → s.replies = []
  receiving : s.task = .receiving → s.Fresh svc s.latest
  sending : ∀ reply, s.task = .sending reply → s.Fresh svc (some reply)
  alive : s.task ≠ .ended

variable {svc} {s s' : ListStream L V}

theorem recv_ok_iff {capacity : Nat} {unread : List Unit} (h : unread ≠ []) :
    (∃ rest, broadcastRecv capacity unread = some (.ok (), rest)) ↔ unread.length ≤ capacity := by
  cases unread with
  | nil => exact absurd rfl h
  | cons v rest =>
    constructor
    · rintro ⟨rest', hrest⟩
      by_contra hfull
      unfold broadcastRecv at hrest
      dsimp only at hrest
      rw [if_neg (by omega)] at hrest
      cases hrest
    · intro hroom
      exact ⟨rest, recv_of_room hroom⟩

/-- What is read out of the queue of replies was the latest before. -/
theorem latest_deliver {reply : V} {rest : List V} (h : s.replies = reply :: rest) :
    latest { s with replies := rest, delivered := some reply } = s.latest := by
  unfold latest
  rw [h]
  cases rest with
  | nil => rfl
  | cons r rest =>
    rw [List.getLast?_cons_cons, List.getLast?_cons]
    rfl

theorem latest_append (reply : V) :
    latest { s with task := .receiving, replies := s.replies ++ [reply] } = some reply := by
  unfold latest
  rw [List.getLast?_append]
  rfl

/-- A change is followed by an announcement. -/
theorem Fresh.change {v : Option V} (h : s.Fresh svc v) (m : Message) :
    Fresh svc
      { s with
        list := svc.forward s.list m
        changed := if svc.announces m then s.changed + 1 else s.changed } v := by
  unfold Fresh at *
  by_cases hm : svc.announces m = true
  · right
    left
    simp [hm]
  · have hm' : svc.announces m = false := by simpa using hm
    simpa [hm', svc.silent s.list m hm'] using h

theorem Fresh.announce {v : Option V} :
    Fresh svc { s with changed := s.changed - 1, unread := s.unread ++ [()] } v :=
  .inr (.inr (by simp))

/-! One rule for each stage that a step can lead to. -/

theorem inv_of_receiving (ht : s.task = .receiving) (hf : s.Fresh svc s.latest) : s.Inv svc where
  subscribed h := by rw [ht] at h; cases h
  receiving _ := hf
  sending _ h := by rw [ht] at h; cases h
  alive h := by rw [ht] at h; cases h

theorem inv_of_received (ht : s.task = .received) : s.Inv svc where
  subscribed h := by rw [ht] at h; cases h
  receiving h := by rw [ht] at h; cases h
  sending _ h := by rw [ht] at h; cases h
  alive h := by rw [ht] at h; cases h

theorem inv_of_sending {reply : V} (ht : s.task = .sending reply) (hf : s.Fresh svc (some reply)) :
    s.Inv svc where
  subscribed h := by rw [ht] at h; cases h
  receiving h := by rw [ht] at h; cases h
  sending r h := by
    rw [ht] at h
    cases h
    exact hf
  alive h := by rw [ht] at h; cases h

theorem Inv.step (hs : s.Inv svc) {e : StreamEvent} (hok : KeepsUp svc s e) (h : Step svc s e s') :
    s'.Inv svc := by
  unfold Step next at h
  cases e with
  | change m =>
    cases h
    exact ⟨hs.subscribed, fun ht => (hs.receiving ht).change m, fun r hr => (hs.sending r hr).change m,
      hs.alive⟩
  | announce =>
    dsimp only at h
    split at h
    · cases h
    · cases h
      exact ⟨hs.subscribed, fun _ => Fresh.announce, fun _ _ => Fresh.announce, hs.alive⟩
  | snapshot =>
    dsimp only at h
    split at h
    · next ht =>
      cases h
      -- the client's channel is new, so there is room
      have hpush : s.trySend svc (svc.reply s.list) = s.replies ++ [svc.reply s.list] := by
        unfold trySend
        rw [hs.subscribed ht]
        exact if_pos svc.room
      rw [hpush]
      exact inv_of_receiving rfl (.inl (latest_append _))
    · cases h
      exact inv_of_sending rfl (.inl rfl)
    · cases h
  | recv =>
    dsimp only at h
    split at h
    · cases h
      exact inv_of_received rfl
    · next hrecv =>
      have hlt := recv_lagged hrecv
      have hle : s.unread.length ≤ svc.changeCapacity := hok
      exact absurd hle (not_le.mpr hlt)
    · cases h
  | send =>
    dsimp only at h
    split at h
    · next reply ht =>
      split at h
      · cases h
        refine inv_of_receiving rfl ?_
        rw [latest_append]
        exact hs.sending reply ht
      · cases h
    · cases h
  | deliver =>
    dsimp only at h
    split at h
    · next reply rest hreplies =>
      cases h
      refine ⟨fun ht => ?_, fun ht => ?_, hs.sending, hs.alive⟩
      · have hnil := hs.subscribed ht
        rw [hreplies] at hnil
        cases hnil
      · rw [latest_deliver hreplies]
        exact hs.receiving ht
    · cases h

theorem Inv.converges (hs : s.Inv svc) : s.Converges svc := by
  refine ⟨hs.alive, ?_⟩
  rintro ⟨hchanged, hreplies, ⟨ht, hunread⟩ | ht⟩
  · have hlatest : s.latest = s.delivered := by
      unfold latest
      rw [hreplies]
      rfl
    rcases hs.receiving ht with hfresh | hc | hu
    · rw [← hlatest]
      exact hfresh
    · exact absurd hchanged hc
    · exact absurd hunread hu
  · exact absurd ht hs.alive

/-- A task that comes too late ends the subscription. -/
theorem keepsUp_of_converges {e : StreamEvent} (h : Step svc s e s') (hc : s'.Converges svc) :
    KeepsUp svc s e := by
  cases e with
  | recv =>
    show s.unread.length ≤ svc.changeCapacity
    unfold Step next at h
    dsimp only at h
    split at h
    · next rest _ hrecv =>
      have hne : s.unread ≠ [] := by
        intro hnil
        rw [hnil] at hrecv
        cases hrecv
      exact (recv_ok_iff hne).mp ⟨_, hrecv⟩
    · cases h
      exact absurd rfl hc.1
    · cases h
  | change m => trivial
  | announce => trivial
  | snapshot => trivial
  | send => trivial
  | deliver => trivial

theorem inv_init (list : L) : Inv svc (init list : ListStream L V) where
  subscribed _ := rfl
  receiving h := by cases h
  sending _ h := by cases h
  alive h := by cases h

/-- One subscription, of either list. -/
theorem converges_iff (list : L) {tr : List (StreamEvent × ListStream L V)}
    (hrun : Exec (Step svc) (init list) tr) :
    Always (Converges svc) (init list) tr ↔ StepsOk (KeepsUp svc) (init list) tr := by
  have hstep : ∀ s e s', Inv svc s → KeepsUp svc s e → Step svc s e s' → Inv svc s' :=
    fun _ _ _ hs hok h => hs.step hok h
  have hbad : ∀ s e s', Inv svc s → Step svc s e s' → Converges svc s' → KeepsUp svc s e :=
    fun _ _ _ _ h hc => keepsUp_of_converges h hc
  exact hrun.always_iff (fun _ hs => hs.converges) hstep hbad (inv_init list)

end

/-- **Subscriptions.**  A subscription of the device list, or of the dongle list, goes on and
converges exactly when its task keeps up with the changes. -/
theorem lists_converge_iff (devices : DeviceList) (dongles : List (DongleInfo × ManagerId))
    {trd : List (StreamEvent × ListStream DeviceList (List Proto.Device))}
    {trg : List (StreamEvent × ListStream (List (DongleInfo × ManagerId)) (List Proto.Dongle))}
    (hd : Exec (Step deviceListStream) (init devices) trd)
    (hg : Exec (Step dongleListStream) (init dongles) trg) :
    (Always (Converges deviceListStream) (init devices) trd ↔
      StepsOk (KeepsUp deviceListStream) (init devices) trd) ∧
    (Always (Converges dongleListStream) (init dongles) trg ↔
      StepsOk (KeepsUp dongleListStream) (init dongles) trg) :=
  ⟨converges_iff devices hd, converges_iff dongles hg⟩

/-! ## A busy dongle -/

def streamRun {L V : Type} (svc : ListService L V) (list : L) (es : List StreamEvent) :
    List (StreamEvent × ListStream L V) :=
  trace (next svc) (init list) es

theorem streamRun_exec {L V : Type} (svc : ListService L V) (list : L) (es : List StreamEvent) :
    Exec (Step svc) (init list) (streamRun svc list es) :=
  exec_trace (fun _ _ _ h => h) _ _

def busyDongle : DongleInfo :=
  { id := "D0", protocolVersion := Version.of 1 0 0, controlProtocolVersion := Version.of 1 0 0
    firmwareVersion := Version.of 1 2 3, connectedDevices := [], bondedDevices := [] }

/-- One change, and its snapshot is read. -/
def oneChange (m : Message) : List StreamEvent :=
  [.snapshot, .deliver, .change m, .announce, .recv, .snapshot, .send, .deliver]

/-- The dongle connects and is updated sixteen times before the task gets to receive. -/
def burst : List StreamEvent :=
  [.snapshot, .deliver, .change (.dongleConnect busyDongle 0), .announce]
    ++ (List.replicate 16 [.change (.dongleUpdate busyDongle), .announce]).flatten ++ [.recv]

theorem lists_converge_iff_oneChange :
    (Always (Converges deviceListStream) (init [])
        (streamRun deviceListStream [] (oneChange (.updateName sampleUuid "gun"))) ↔
      StepsOk (KeepsUp deviceListStream) (init [])
        (streamRun deviceListStream [] (oneChange (.updateName sampleUuid "gun")))) ∧
    (Always (Converges dongleListStream) (init [])
        (streamRun dongleListStream [] (oneChange (.dongleConnect busyDongle 0))) ↔
      StepsOk (KeepsUp dongleListStream) (init [])
        (streamRun dongleListStream [] (oneChange (.dongleConnect busyDongle 0)))) :=
  lists_converge_iff [] [] (streamRun_exec deviceListStream [] _) (streamRun_exec dongleListStream [] _)

/-- The client has seen the list without the dongle, and will see no other. -/
theorem subscription_ends_burst :
    ¬ ∀ (dongles : List (DongleInfo × ManagerId))
        (tr : List (StreamEvent × ListStream (List (DongleInfo × ManagerId)) (List Proto.Dongle))),
      Exec (Step dongleListStream) (init dongles) tr →
        Always (Converges dongleListStream) (init dongles) tr := by
  intro hall
  have hlast := (hall [] _ (streamRun_exec dongleListStream [] burst)).last
  have hdrained : Drained (last (init []) (streamRun dongleListStream [] burst)) :=
    ⟨by decide +kernel, by decide +kernel, .inr rfl⟩
  have hlist := hlast.2 hdrained
  exact absurd hlist (by decide +kernel)

end ListStream

end OdysseyHub
