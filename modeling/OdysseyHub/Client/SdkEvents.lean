import OdysseyHub.Client.SdkCalls
import OdysseyHub.Server.EventStream

/-!
# Event streams of the Uniffi client (client.rs, ffi_common.rs)

A program in another language holds an `EventStream` and calls `next`, from as many tasks as it
likes, and may drop a call at any time.  The calls wait for one lock, which is fair, and the one
that has it takes the next message.

Together the calls get what the server has emitted since the subscription, without gaps and
nothing twice, each call one event, in the order of the calls (`sdkEvents_shared`).
-/

namespace OdysseyHub

open Transition

namespace Uniffi

/-! ## Records of events (ffi_common.rs) -/

abbrev AccelerometerEvent := ClientFfi.AccelerometerEvent
abbrev TrackingEvent := ClientFfi.TrackingEvent
abbrev ImpactEvent := ClientFfi.ImpactEvent

structure VendorEventPacketData where
  len : UInt8
  data : List UInt8
  deriving DecidableEq, Repr

inductive PacketData
  | unsupported
  | vendorEvent (data : VendorEventPacketData)
  deriving DecidableEq, Repr

structure PacketEvent where
  ty : UInt8
  data : PacketData
  deriving DecidableEq, Repr

structure PairingResult where
  success : Bool
  pairedAddress : List UInt8
  pairedName : String
  error : String
  deriving DecidableEq, Repr

structure BatteryEvent where
  percent : UInt8
  charging : Bool
  deriving DecidableEq, Repr

structure DonglePairingResult where
  dongleId : String
  success : Bool
  pairedAddress : List UInt8
  pairedName : String
  error : String
  deriving DecidableEq, Repr

inductive DeviceEventKind
  | accelerometerEvent (e : AccelerometerEvent)
  | trackingEvent (e : TrackingEvent)
  | impactEvent (e : ImpactEvent)
  | zeroResult (ok : Bool)
  | saveZeroResult (ok : Bool)
  | packetEvent (p : PacketEvent)
  | capabilitiesChanged
  | pairingResult (r : PairingResult)
  | batteryEvent (e : BatteryEvent)
  deriving DecidableEq, Repr

/-- No conversion makes an `AccessoryEvent`. -/
inductive Event
  | deviceEvent (device : Device) (kind : DeviceEventKind)
  | donglePairingResult (r : DonglePairingResult)
  deriving DecidableEq, Repr

section
variable {P : Type} (packets : ClientFfi.Packets P)

def PacketEvent.ofPacket (p : P) : PacketEvent :=
  { ty := packets.ty p
    data := (packets.vendor p).elim .unsupported fun v => .vendorEvent { len := v.len, data := v.data.toList } }

def DeviceEventKind.ofKind : Events.DeviceEventKind P → DeviceEventKind
  | .accelerometerEvent e => .accelerometerEvent (.ofEvent e)
  | .trackingEvent e => .trackingEvent (.ofEvent e)
  | .impactEvent e => .impactEvent (.ofEvent e)
  | .zeroResult ok => .zeroResult ok
  | .saveZeroResult ok => .saveZeroResult ok
  | .packetEvent p => .packetEvent (.ofPacket packets p)
  | .capabilitiesChanged => .capabilitiesChanged
  | .pairingResult success pairedAddress pairedName error =>
    .pairingResult
      { success := success, pairedAddress := pairedAddress.toList, pairedName := pairedName, error := error }
  | .batteryEvent e => .batteryEvent { percent := e.percent, charging := e.charging }

/-- `From<common::events::Event> for Event` -/
def Event.ofEvent : Events.Event P → Event
  | .deviceEvent device kind => .deviceEvent (.ofCommon device) (.ofKind packets kind)
  | .donglePairingResult dongleId success pairedAddress pairedName error =>
    .donglePairingResult
      { dongleId := dongleId, success := success, pairedAddress := pairedAddress.toList, pairedName := pairedName
        error := error }

/-- The event that a record was made of. -/
def DeviceEventKind.told : DeviceEventKind → Option (Events.DeviceEventKind P)
  | .accelerometerEvent e =>
    some <| .accelerometerEvent
      { timestamp := e.timestamp
        accel := e.accel.toVector
        gyro := e.gyro.toVector
        eulerAngles := e.eulerAngles.toVector }
  | .trackingEvent e => some (.trackingEvent e.toEvent)
  | .impactEvent e => some (.impactEvent ⟨e.timestamp⟩)
  | .zeroResult ok => some (.zeroResult ok)
  | .saveZeroResult ok => some (.saveZeroResult ok)
  | .packetEvent _ => none
  | .capabilitiesChanged => some .capabilitiesChanged
  | .pairingResult r =>
    (arrayOfVec 6 r.pairedAddress).map fun address => .pairingResult r.success address r.pairedName r.error
  | .batteryEvent e => some (.batteryEvent ⟨e.percent, e.charging⟩)

def Event.told : Event → Option (Events.Event P)
  | .deviceEvent device kind => do
    let device ← device.toCommon
    let kind ← kind.told
    some (.deviceEvent device kind)
  | .donglePairingResult r =>
    (arrayOfVec 6 r.pairedAddress).map fun address =>
      .donglePairingResult r.dongleId r.success address r.pairedName r.error

/-- A packet goes into its record with a part only. -/
def isPacket : Events.Event P → Bool
  | .deviceEvent _ (.packetEvent _) => true
  | _ => false

theorem isPacket_renamed {ev : Events.Event P} : isPacket ev.renamed = isPacket ev := by
  cases ev with
  | donglePairingResult dongleId success address name error => rfl
  | deviceEvent device kind => cases kind <;> simp only [Events.Event.renamed, isPacket]

theorem told_ofKind (device : OdysseyHub.Device) {kind : Events.DeviceEventKind P}
    (h : isPacket (.deviceEvent device kind) = false) : (DeviceEventKind.ofKind packets kind).told = some kind := by
  cases kind with
  | accelerometerEvent e =>
    show some (Events.DeviceEventKind.accelerometerEvent _) = _
    simp [ClientFfi.AccelerometerEvent.ofEvent]
  | trackingEvent e =>
    show some (Events.DeviceEventKind.trackingEvent _) = _
    rw [ClientFfi.TrackingEvent.toEvent_ofEvent]
  | packetEvent p => cases h
  | pairingResult success address name error =>
    show (arrayOfVec 6 address.toList).map _ = _
    rw [arrayOfVec_toList]
    rfl
  | impactEvent e => rfl
  | zeroResult ok => rfl
  | saveZeroResult ok => rfl
  | capabilitiesChanged => rfl
  | batteryEvent e => rfl

/-- Of an event that is not a packet only the name of its device can change. -/
theorem told_ofEvent {ev : Events.Event P} (h : isPacket ev = false) :
    (Event.ofEvent packets ev).told = some ev.renamed := by
  cases ev with
  | donglePairingResult dongleId success address name error =>
    show (arrayOfVec 6 address.toList).map _ = _
    rw [arrayOfVec_toList]
    rfl
  | deviceEvent device kind =>
    show ((Device.ofCommon device).toCommon.bind fun device =>
      (DeviceEventKind.ofKind packets kind).told.bind fun kind => some (Events.Event.deviceEvent device kind)) = _
    rw [Device.toCommon_ofCommon, told_ofKind packets device h]
    rfl

end

/-! ## The stream (client.rs) -/

/-- A subscription, and the calls of `next`, numbered as they are made. -/
structure EventStream (P : Type) where
  inner : OdysseyHub.EventStream P
  calls : Nat
  /-- at the lock; the first has it, and waits for the stream -/
  waiting : List Nat
  returned : List (Nat × Except ClientError Event)
  /-- dropped by the program -/
  dropped : List Nat
  /-- the connection has failed -/
  lost : Bool
  /-- the conversion of a message has panicked -/
  crashed : Bool

inductive EventStreamStep (P : Type)
  /-- the server emits, or the task of the subscription receives or sends -/
  | emit (ev : Events.Event P)
  | recv
  | send
  | call
  | drop (n : Nat)
  /-- the first call gets a message, the end of the stream, or an error -/
  | next
  | ended
  | fail

namespace EventStream

variable {P : Type} (postcard : Postcard P) (packets : ClientFfi.Packets P)

def init : EventStream P :=
  { inner := .init, calls := 0, waiting := [], returned := [], dropped := [], lost := false, crashed := false }

/-- The subscription takes a step of its own. -/
def inside (s : EventStream P) (e : EventStreamEvent P) : Option (EventStream P) :=
  (s.inner.next postcard e).map fun inner => { s with inner := inner }

/-- The first call returns. -/
def answer (s : EventStream P) (n : Nat) (rest : List Nat) (r : Except ClientError Event) : EventStream P :=
  { s with waiting := rest, returned := s.returned ++ [(n, r)] }

def next (s : EventStream P) : EventStreamStep P → Option (EventStream P)
  | .emit ev => s.inside postcard (.emit ev)
  | .recv => s.inside postcard .recv
  | .send => s.inside postcard .send
  | .call => some { s with calls := s.calls + 1, waiting := s.waiting ++ [s.calls] }
  | .drop n =>
    if n ∈ s.waiting then some { s with waiting := s.waiting.erase n, dropped := s.dropped ++ [n] } else none
  | .next =>
    match s.waiting, s.inner.replies with
    | n :: rest, pb :: _ => do
      let s ← s.inside postcard .deliver
      match Proto.Event.tryInto postcard pb with
      | some (.ok ev) => some (s.answer n rest (.ok (.ofEvent packets ev)))
      -- `filter_map` leaves it out, and the call waits on
      | some (.error ()) => some s
      | none => some { s with waiting := rest, crashed := true }
    | _, _ => none
  | .ended =>
    match s.waiting with
    | n :: rest =>
      if s.inner.task = .ended ∧ s.inner.replies = [] then some (s.answer n rest (.error .streamEnd)) else none
    | [] => none
  | .fail =>
    match s.waiting with
    | n :: rest => some { s.answer n rest (.error .streamEnd) with lost := true }
    | [] => none

def Step (s : EventStream P) (e : EventStreamStep P) (s' : EventStream P) : Prop :=
  next postcard packets s e = some s'

/-- The events emitted since the subscription. -/
def emitted (_ : EventStream P) (e : EventStreamStep P) (_ : EventStream P) (sent : List (Events.Event P)) :
    List (Events.Event P) :=
  match e with
  | .emit ev => sent ++ [ev]
  | _ => sent

/-! ## What the calls get -/

/-- The events that calls have returned, in order. -/
def got (s : EventStream P) : List Event := s.returned.filterMap fun r => r.2.toOption

/-- The calls, those that have returned before those that wait. -/
def tickets (s : EventStream P) : List Nat := s.returned.map Prod.fst ++ s.waiting

/-- What the calls of one stream get together. -/
structure Shared (s : EventStream P × List (Events.Event P)) : Prop where
  running : s.1.crashed = false
  /-- no gaps, and nothing twice -/
  inOrder : s.1.got <+: s.2.map fun ev => Event.ofEvent packets ev.renamed
  /-- and all of it once the subscription is drained -/
  complete : OdysseyHub.EventStream.Alive (s.1.inner, s.2) → s.1.inner.Drained →
    s.1.got = s.2.map fun ev => Event.ofEvent packets ev.renamed
  /-- the calls return in their order, each once -/
  turns : s.1.tickets.Pairwise (· < ·)
  calls : ∀ n, n < s.1.calls ↔ n ∈ s.1.tickets ∨ n ∈ s.1.dropped
  /-- an error is the end of the subscription, or of the connection -/
  errors : ∀ r ∈ s.1.returned, r.2.toOption = none →
    s.1.lost = true ∨ s.1.inner.task = .ended ∧ s.1.inner.replies = []
  /-- a record tells the event it was made of, packets apart; names go through a string again -/
  told : ∀ ev ∈ s.2, isPacket ev = false → (Event.ofEvent packets ev.renamed).told = some ev.renamed.renamed

structure Inv (s : EventStream P × List (Events.Event P)) : Prop where
  running : s.1.crashed = false
  inner : OdysseyHub.EventStream.Inv postcard (s.1.inner, s.2)
  /-- what the calls have returned is what has been read -/
  read : ∃ evs : List (Events.Event P), s.1.got = evs.map (Event.ofEvent packets) ∧
    s.1.inner.delivered.map (Proto.Event.tryInto postcard) = evs.map fun ev => some (.ok ev)
  turns : s.1.tickets.Pairwise (· < ·)
  calls : ∀ n, n < s.1.calls ↔ n ∈ s.1.tickets ∨ n ∈ s.1.dropped
  errors : ∀ r ∈ s.1.returned, r.2.toOption = none →
    s.1.lost = true ∨ s.1.inner.task = .ended ∧ s.1.inner.replies = []

theorem inv_init : Inv postcard packets ((init : EventStream P), []) where
  running := rfl
  inner := OdysseyHub.EventStream.inv_init postcard
  read := ⟨[], rfl, rfl⟩
  turns := List.Pairwise.nil
  calls n := by simp [init, tickets]
  errors _ h := absurd h List.not_mem_nil

variable {postcard packets} {s s' : EventStream P} {sent : List (Events.Event P)} {e : EventStreamStep P}

theorem inside_cases {ev : EventStreamEvent P} (h : s.inside postcard ev = some s') :
    ∃ inner, OdysseyHub.EventStream.Step postcard s.inner ev inner ∧ s' = { s with inner := inner } := by
  obtain ⟨inner, hinner, rfl⟩ := Option.map_eq_some_iff.mp h
  exact ⟨inner, hinner, rfl⟩

/-- The server takes a step of the subscription. -/
theorem Inv.server (h : Inv postcard packets (s, sent)) {ev : EventStreamEvent P} (hev : ev.ofServer = true)
    (hstep : s.inside postcard ev = some s') {sent' : List (Events.Event P)}
    (hsent : ∀ inner inner', OdysseyHub.EventStream.emitted inner ev inner' sent = sent') :
    Inv postcard packets (s', sent') := by
  obtain ⟨inner, hinner, rfl⟩ := inside_cases hstep
  obtain ⟨-, hdelivered⟩ := OdysseyHub.EventStream.frame_ofServer hev hinner
  have hinv := h.inner.step hinner
  rw [hsent] at hinv
  obtain ⟨evs, hgot, hread⟩ := h.read
  refine ⟨h.running, hinv, ⟨evs, hgot, ?_⟩, h.turns, h.calls, fun r hr herr => ?_⟩
  · show inner.delivered.map _ = _
    rw [hdelivered]
    exact hread
  · exact (h.errors r hr herr).imp_right fun hended => OdysseyHub.EventStream.ended_stays hinner hended

/-- A call that returns leaves the calls as they are. -/
theorem tickets_answer {n : Nat} {rest : List Nat} (hw : s.waiting = n :: rest) (r : Except ClientError Event) :
    (s.answer n rest r).tickets = s.tickets := by
  show (s.returned ++ [(n, r)]).map Prod.fst ++ rest = s.returned.map Prod.fst ++ s.waiting
  rw [hw, List.map_append, List.append_assoc]
  rfl

/-- A call returns an error. -/
theorem Inv.fails (h : Inv postcard packets (s, sent)) {n : Nat} {rest : List Nat} (hw : s.waiting = n :: rest)
    {lost : Bool} (hlost : s.lost = true → lost = true)
    (hended : lost = true ∨ s.inner.task = .ended ∧ s.inner.replies = []) :
    Inv postcard packets ({ s.answer n rest (.error .streamEnd) with lost := lost }, sent) := by
  obtain ⟨evs, hgot, hread⟩ := h.read
  have htickets := tickets_answer hw (.error .streamEnd)
  refine ⟨h.running, h.inner, ⟨evs, ?_, hread⟩, htickets ▸ h.turns, ?_, fun r hr herr => ?_⟩
  · show (s.returned ++ [(n, Except.error ClientError.streamEnd)]).filterMap _ = _
    rw [List.filterMap_append, ← hgot]
    exact List.append_nil _
  · intro m
    show m < s.calls ↔ m ∈ (s.answer n rest (.error .streamEnd)).tickets ∨ m ∈ s.dropped
    rw [htickets]
    exact h.calls m
  · rcases List.mem_append.mp hr with hr | -
    · exact (h.errors r hr herr).imp_left hlost
    · exact hended

/-- A call returns the next event. -/
theorem Inv.reads (hp : postcard.Lossless) (h : Inv postcard packets (s, sent))
    (hstep : Step postcard packets s .next s') : Inv postcard packets (s', sent) := by
  unfold Step next at hstep
  dsimp only at hstep
  split at hstep
  · next n rest pb replies hw hr =>
    obtain ⟨t, ht, hstep⟩ := Option.bind_eq_some_iff.mp hstep
    obtain ⟨inner, hinner, rfl⟩ := inside_cases ht
    obtain ⟨ev, hev⟩ := h.inner.decodes hp hr
    rw [hev] at hstep
    cases hstep
    obtain ⟨pb', replies', hr', rfl⟩ := OdysseyHub.EventStream.deliver_cases hinner
    rw [hr] at hr'
    cases hr'
    obtain ⟨evs, hgot, hread⟩ := h.read
    have htickets := tickets_answer hw (.ok (.ofEvent packets ev))
    refine ⟨h.running, h.inner.step hinner, ⟨evs ++ [ev], ?_, ?_⟩, htickets ▸ h.turns, ?_,
      fun r hr' herr => ?_⟩
    · show (s.returned ++ [(n, Except.ok (Event.ofEvent packets ev))]).filterMap _ = _
      rw [List.filterMap_append, List.map_append, ← hgot]
      rfl
    · show (s.inner.delivered ++ [pb]).map _ = _
      rw [List.map_append, List.map_append, hread, List.map_singleton, hev]
      rfl
    · intro m
      show m < s.calls ↔ m ∈ (s.answer n rest (.ok (.ofEvent packets ev))).tickets ∨ m ∈ s.dropped
      rw [htickets]
      exact h.calls m
    · rcases List.mem_append.mp hr' with hr' | hr'
      · refine (h.errors r hr' herr).imp_right fun hended => ?_
        rw [hended.2] at hr
        cases hr
      · obtain rfl := List.mem_singleton.mp hr'
        cases herr
  · cases hstep

theorem Inv.step (hp : postcard.Lossless) (h : Inv postcard packets (s, sent))
    (hstep : Step postcard packets s e s') : Inv postcard packets (s', emitted s e s' sent) := by
  cases e with
  | emit ev =>
    exact h.server rfl hstep (fun _ _ => rfl)
  | recv => exact h.server rfl hstep (fun _ _ => rfl)
  | send => exact h.server rfl hstep (fun _ _ => rfl)
  | call =>
    cases hstep
    have htickets : s.returned.map Prod.fst ++ (s.waiting ++ [s.calls]) = s.tickets ++ [s.calls] :=
      (List.append_assoc _ _ _).symm
    refine ⟨h.running, h.inner, h.read, ?_, fun m => ?_, h.errors⟩
    · show (s.returned.map Prod.fst ++ (s.waiting ++ [s.calls])).Pairwise (· < ·)
      rw [htickets, List.pairwise_append]
      refine ⟨h.turns, List.pairwise_singleton _ _, fun m hm m' hm' => ?_⟩
      obtain rfl := List.mem_singleton.mp hm'
      exact (h.calls m).mpr (.inl hm)
    · have hm := h.calls m
      dsimp only at hm
      show m < s.calls + 1 ↔ m ∈ s.returned.map Prod.fst ++ (s.waiting ++ [s.calls]) ∨ m ∈ s.dropped
      rw [htickets, Nat.lt_succ_iff_lt_or_eq, hm, List.mem_append, List.mem_singleton]
      exact or_right_comm
  | drop n =>
    unfold Step next at hstep
    dsimp only at hstep
    split at hstep
    · next hn =>
      cases hstep
      refine ⟨h.running, h.inner, h.read, ?_, fun m => ?_, h.errors⟩
      · exact h.turns.sublist (List.Sublist.append_left List.erase_sublist _)
      · have hm := h.calls m
        dsimp only at hm
        show m < s.calls ↔ m ∈ s.returned.map Prod.fst ++ s.waiting.erase n ∨ m ∈ s.dropped ++ [n]
        unfold tickets at hm
        rw [hm, List.mem_append, List.mem_append, List.mem_append, List.mem_singleton]
        by_cases hmn : m = n
        · rw [hmn]
          simp [hn]
        · rw [List.mem_erase_of_ne hmn]
          simp [hmn]
    · cases hstep
  | next => exact h.reads hp hstep
  | ended =>
    unfold Step next at hstep
    dsimp only at hstep
    split at hstep
    · next n rest hw =>
      split at hstep
      · next hended =>
        cases hstep
        exact h.fails hw id (.inr hended)
      · cases hstep
    · cases hstep
  | fail =>
    unfold Step next at hstep
    dsimp only at hstep
    split at hstep
    · next n rest hw =>
      cases hstep
      exact h.fails hw (fun _ => rfl) (.inl rfl)
    · cases hstep

theorem Inv.shared (hp : postcard.Lossless) {t : EventStream P × List (Events.Event P)} (h : Inv postcard packets t) :
    Shared packets t := by
  obtain ⟨evs, hgot, hread⟩ := h.read
  have hnames : t.2.map (fun ev => Event.ofEvent packets ev.renamed) =
      (t.2.map Events.Event.renamed).map (Event.ofEvent packets) := by
    rw [List.map_map]
    rfl
  refine ⟨h.running, ?_, fun halive hdrained => ?_, h.turns, h.calls, h.errors,
    fun ev _ hpacket => told_ofEvent packets (isPacket_renamed.trans hpacket)⟩
  · rw [hnames, hgot]
    exact ((h.inner.inOrder hp).got_isPrefix hread).map _
  · rw [hnames, hgot, (h.inner.inOrder hp).got_eq hread halive hdrained]

/-- **Event streams in other languages.**  However many tasks call `next`, whichever calls are dropped,
and whatever the order of steps, the calls return in their order what the server has emitted since the
subscription, without gaps and nothing twice, and all of it once the subscription is drained. -/
theorem sdkEvents_shared (hp : postcard.Lossless)
    {tr : List (EventStreamStep P × (EventStream P × List (Events.Event P)))}
    (hrun : Exec (ghost (Step postcard packets) emitted) (init, []) tr) :
    Always (Shared packets) (init, []) tr := by
  have hstep : ∀ t e t', Inv postcard packets t → ghost (Step postcard packets) emitted t e t' →
      Inv postcard packets t' := by
    rintro t e ⟨s', sent'⟩ ht ⟨hnext, hsent⟩
    have hinv := ht.step hp hnext
    rw [← hsent] at hinv
    exact hinv
  exact (hrun.invariant hstep (inv_init postcard packets)).imp fun t ht => ht.shared hp

/-- Three calls, of which one is dropped, and two events. -/
def threeCalls : List (EventStreamStep UInt8) :=
  [.call, .emit (.deviceEvent Proto.unnamedDevice (.impactEvent ⟨7⟩)), .call, .recv, .call, .send, .drop 1,
    .emit (.deviceEvent Proto.unnamedDevice (.batteryEvent ⟨80, true⟩)), .next, .recv, .send, .next]

/-- Of a byte for a packet there is nothing but its type. -/
def byteTypes : ClientFfi.Packets UInt8 := { ty := id, vendor := fun _ => none }

def threeCallsRun : List (EventStreamStep UInt8 × (EventStream UInt8 × List (Events.Event UInt8))) :=
  trace (ghostStep (next Proto.bytePostcard byteTypes) emitted) (init, []) threeCalls

theorem threeCallsRun_exec :
    Exec (ghost (Step Proto.bytePostcard byteTypes) emitted) (init, []) threeCallsRun :=
  exec_ghostStep (fun _ _ _ h => h) emitted _ threeCalls

theorem sdkEvents_shared_threeCalls :
    Always (Shared byteTypes) (init, []) threeCallsRun ∧
      (last (init, []) threeCallsRun).1.returned.map Prod.fst = [0, 2] :=
  ⟨sdkEvents_shared (fun b => ⟨[b], rfl, rfl⟩) threeCallsRun_exec, by decide⟩

end EventStream

end Uniffi

end OdysseyHub
