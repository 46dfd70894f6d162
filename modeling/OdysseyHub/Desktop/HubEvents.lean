import Mathlib.Data.Finmap
import OdysseyHub.Lib.LastWrite
import OdysseyHub.Lib.Slots
import OdysseyHub.Server.EventStream

/-!
# The events of the hub (odyssey_desktop, hub.rs)

The hub subscribes to the events of the server, again whenever the subscription or the connection
ends.  It keeps the latest event and the battery of every device, and forwards tracking events and
impacts to its views on broadcast channels of its own, whose listeners go on after they have fallen
behind.

What the hub has received is, but for device names, always a sublist of what was emitted, without
gaps since it subscribed last, and what it shows and forwards is what it received (`hub_follows`).
-/

namespace OdysseyHub

open Transition Broadcast LastWrite

/-! ## The hub -/

namespace Events.Event

variable {P : Type}

def tracking? : Event P → Option (Device × TrackingEvent)
  | .deviceEvent device (.trackingEvent te) => some (device, te)
  | _ => none

def impact? : Event P → Option (Device × ImpactEvent)
  | .deviceEvent device (.impactEvent impact) => some (device, impact)
  | _ => none

def battery? : Event P → Option (Uuid × UInt8 × Bool)
  | .deviceEvent device (.batteryEvent battery) => some (device.uuid, battery.percent, battery.charging)
  | _ => none

end Events.Event

/-- The part of `HubContext` that events change. -/
structure HubEvents (P : Type) where
  latestEvent : Option (Events.Event P)
  batteryStates : Finmap fun _ : Uuid => UInt8 × Bool
  /-- the receivers of `tracking_events` -/
  tracking : List (Receiver (Device × TrackingEvent))
  /-- the receivers of `impact_events` -/
  impact : List (Receiver (Device × ImpactEvent))

/-- slots of `tracking_events` -/
def trackingCapacity : Nat := 128

/-- slots of `impact_events` -/
def impactCapacity : Nat := 64

/-- A `send` on a broadcast channel. -/
def sendAll {α : Type} (receivers : List (Receiver α)) : Option α → List (Receiver α)
  | some v => receivers.map (·.send v)
  | none => receivers

/-- One turn of the loop of a listener, which goes on when it has lagged behind. -/
def listen {α : Type} (capacity : Nat) (r : Receiver α) : Option (Receiver α) :=
  match broadcastRecv capacity r.unread with
  | some (.ok v, rest) => some (r.take v rest)
  | some (.lagged _, rest) => some { r with unread := rest }
  | none => none

namespace HubEvents

variable {P : Type}

def new : HubEvents P := { latestEvent := none, batteryStates := ∅, tracking := [], impact := [] }

/-- One turn of the event loop in `run`. -/
def receive (hub : HubEvents P) (evt : Events.Event P) : HubEvents P :=
  { latestEvent := some evt
    batteryStates :=
      match evt.battery? with
      | some (uuid, state) => hub.batteryStates.insert uuid state
      | none => hub.batteryStates
    tracking := sendAll hub.tracking evt.tracking?
    impact := sendAll hub.impact evt.impact? }

end HubEvents

/-! ## From the server to the listeners -/

structure EventPath (P : Type) where
  /-- the subscription the hub is reading; there is none while it is reconnecting -/
  stream : Option (EventStream P)
  hub : HubEvents P
  /-- the conversion of an event has panicked in `run` -/
  crashed : Bool

inductive EventPathEvent (P : Type)
  | emit (ev : Events.Event P)
  /-- the task of the subscription receives, or sends -/
  | recv
  | send
  /-- all requests of a connection have succeeded -/
  | connect
  /-- the stream has ended, or an error came out of it -/
  | disconnect
  /-- `run` reads the next event -/
  | next
  | subscribeTracking
  | subscribeImpact
  | listenTracking (i : Nat)
  | listenImpact (i : Nat)

/-- What was emitted, and what the hub received: before its last subscription, and since. -/
structure EventLog (P : Type) where
  past : List (Events.Event P)
  since : List (Events.Event P)
  kept : List (Events.Event P)
  got : List (Events.Event P)

namespace EventLog

variable {P : Type}

def emitted (log : EventLog P) : List (Events.Event P) := log.past ++ log.since

def received (log : EventLog P) : List (Events.Event P) := log.kept ++ log.got

def empty : EventLog P := ⟨[], [], [], []⟩

end EventLog

namespace EventPath

variable {P : Type} (postcard : Postcard P)

def init : EventPath P := { stream := none, hub := .new, crashed := false }

/-- What the stream of the client makes of a message; `none` is a panic, `some none` is left out. -/
def decoded (pb : Proto.Event) : Option (Option (Events.Event P)) :=
  (Proto.Event.tryInto postcard pb).map Except.toOption

/-- The subscription takes a step of its own. -/
def stepStream (s : EventPath P) (e : EventStreamEvent P) : Option (EventPath P) := do
  let stream ← s.stream
  let stream ← EventStream.next postcard stream e
  some { s with stream := some stream }

/-- What `run` makes of a decoded message. -/
def took (s : EventPath P) : Option (Option (Events.Event P)) → EventPath P
  | some (some evt) => { s with hub := s.hub.receive evt }
  | some none => s
  | none => { s with crashed := true }

/-- One listener takes a turn. -/
def listenAt {α : Type} (capacity : Nat) (receivers : List (Receiver α)) (i : Nat) : Option (List (Receiver α)) := do
  let r ← receivers[i]?
  let r ← listen capacity r
  some (receivers.set i r)

def next (s : EventPath P) : EventPathEvent P → Option (EventPath P)
  | .emit ev =>
    match s.stream with
    | some _ => s.stepStream postcard (.emit ev)
    | none => some s
  | .recv => s.stepStream postcard .recv
  | .send => s.stepStream postcard .send
  | .connect => if s.crashed || s.stream.isSome then none else some { s with stream := some .init }
  | .disconnect => if s.crashed || s.stream.isNone then none else some { s with stream := none }
  | .next =>
    if s.crashed then none
    else do
      let stream ← s.stream
      let pb ← stream.replies.head?
      let s ← s.stepStream postcard .deliver
      some (s.took (decoded postcard pb))
  | .subscribeTracking => some { s with hub := { s.hub with tracking := s.hub.tracking ++ [.new] } }
  | .subscribeImpact => some { s with hub := { s.hub with impact := s.hub.impact ++ [.new] } }
  | .listenTracking i =>
    (listenAt trackingCapacity s.hub.tracking i).map fun tracking =>
      { s with hub := { s.hub with tracking := tracking } }
  | .listenImpact i =>
    (listenAt impactCapacity s.hub.impact i).map fun impact => { s with hub := { s.hub with impact := impact } }

def Step (s : EventPath P) (e : EventPathEvent P) (s' : EventPath P) : Prop := next postcard s e = some s'

/-- The event that `run` reads next. -/
def upcoming (s : EventPath P) : Option (Events.Event P) := do
  let stream ← s.stream
  let pb ← stream.replies.head?
  (decoded postcard pb).join

def logged (s : EventPath P) (e : EventPathEvent P) (_ : EventPath P) (log : EventLog P) : EventLog P :=
  match e with
  | .emit ev =>
    if s.stream.isSome then { log with since := log.since ++ [ev] } else { log with past := log.past ++ [ev] }
  | .disconnect => { past := log.past ++ log.since, since := [], kept := log.kept ++ log.got, got := [] }
  | .next => { log with got := log.got ++ (upcoming postcard s).toList }
  | _ => log

/-! ## What the hub promises -/

/-- A listener joined at some point, and has heard in order what the hub forwarded since, the last
`capacity` values for certain. -/
structure Hears {α : Type} (capacity : Nat) (forwarded : List α) (r : Receiver α) : Prop where
  joined : r.sent <:+ forwarded
  recent : r.Recent capacity

/-- What the hub keeps and forwards is what it received. -/
structure Shows (hub : HubEvents P) (received : List (Events.Event P)) : Prop where
  latest : hub.latestEvent = received.getLast?
  battery : Holds hub.batteryStates (received.filterMap Events.Event.battery?)
  tracking : ∀ r ∈ hub.tracking, Hears trackingCapacity (received.filterMap Events.Event.tracking?) r
  impact : ∀ r ∈ hub.impact, Hears impactCapacity (received.filterMap Events.Event.impact?) r

/-- The hub follows the server, device names apart. -/
structure Follows (s : EventPath P × EventLog P) : Prop where
  running : s.1.crashed = false
  sublist : s.2.received.Sublist (s.2.emitted.map Events.Event.renamed)
  /-- no gaps since the last subscription -/
  unbroken : s.2.got <+: s.2.since.map Events.Event.renamed
  /-- and nothing is missing once the subscription is drained -/
  current : ∀ stream ∈ s.1.stream, stream.task ≠ .ended → stream.Drained →
    s.2.got = s.2.since.map Events.Event.renamed
  shows : Shows s.1.hub s.2.received

/-! ## One turn of the hub -/

variable {α : Type} {capacity : Nat} {forwarded : List α} {r r' : Receiver α}

theorem Hears.send (h : Hears capacity forwarded r) (v : α) : Hears capacity (forwarded ++ [v]) (r.send v) where
  joined := List.suffix_append_self_iff.mpr h.joined
  recent := h.recent.send v

theorem hears_new (forwarded : List α) : Hears capacity forwarded Receiver.new :=
  ⟨List.nil_suffix, Receiver.recent_new capacity⟩

theorem recv_lagged_rest {missed : Nat} {unread rest : List α}
    (h : broadcastRecv capacity unread = some (.lagged missed, rest)) :
    rest = unread.drop (unread.length - capacity) := by
  cases unread with
  | nil => cases h
  | cons v tail =>
    unfold broadcastRecv at h
    dsimp only at h
    split at h
    · cases h
    · cases h
      rfl

theorem Hears.listen (h : Hears capacity forwarded r) (hl : listen capacity r = some r') :
    Hears capacity forwarded r' := by
  unfold OdysseyHub.listen at hl
  split at hl
  · next v rest hrecv =>
    cases hl
    exact ⟨h.joined, h.recent.take (recv_ok hrecv)⟩
  · next missed rest hrecv =>
    cases hl
    rw [recv_lagged_rest hrecv]
    exact ⟨h.joined, h.recent.skip (recv_lagged hrecv)⟩
  · cases hl

theorem hears_sendAll {receivers : List (Receiver α)} (h : ∀ r ∈ receivers, Hears capacity forwarded r)
    (v : Option α) : ∀ r ∈ sendAll receivers v, Hears capacity (forwarded ++ v.toList) r := by
  cases v with
  | none =>
    intro r hr
    rw [Option.toList_none, List.append_nil]
    exact h r hr
  | some v =>
    intro r hr
    obtain ⟨r₀, hr₀, rfl⟩ := List.mem_map.mp hr
    exact (h r₀ hr₀).send v

theorem hears_listenAt {receivers receivers' : List (Receiver α)} {i : Nat}
    (h : ∀ r ∈ receivers, Hears capacity forwarded r) (hl : listenAt capacity receivers i = some receivers') :
    ∀ r ∈ receivers', Hears capacity forwarded r := by
  obtain ⟨r, hr, r', hr', rfl⟩ : ∃ r, receivers[i]? = some r ∧ ∃ r', listen capacity r = some r' ∧
      receivers.set i r' = receivers' := by
    simpa [listenAt, Option.bind_eq_some_iff] using hl
  exact Slots.forall_mem_set h ((h r (List.mem_of_getElem? hr)).listen hr')

theorem filterMap_concat {β γ : Type} (f : β → Option γ) (l : List β) (v : β) :
    (l ++ [v]).filterMap f = l.filterMap f ++ (f v).toList := by
  rw [List.filterMap_append]
  cases hf : f v with
  | none => simp [hf]
  | some w => simp [hf]

theorem shows_new : Shows (.new : HubEvents P) [] :=
  ⟨rfl, holds_empty, fun _ h => absurd h List.not_mem_nil, fun _ h => absurd h List.not_mem_nil⟩

theorem Shows.receive {hub : HubEvents P} {received : List (Events.Event P)} (h : Shows hub received)
    (evt : Events.Event P) : Shows (hub.receive evt) (received ++ [evt]) where
  latest := by
    rw [List.getLast?_append]
    rfl
  battery := by
    rw [filterMap_concat]
    unfold HubEvents.receive
    dsimp only
    cases evt.battery? with
    | none =>
      rw [Option.toList_none, List.append_nil]
      exact h.battery
    | some p => exact h.battery.insert p.1 p.2
  tracking := by
    rw [filterMap_concat]
    exact hears_sendAll h.tracking _
  impact := by
    rw [filterMap_concat]
    exact hears_sendAll h.impact _

/-! ## The subscription of the hub -/

/-- The messages read have been decoded to the events received since. -/
def StreamOk (log : EventLog P) : Option (EventStream P) → Prop
  | some stream =>
    EventStream.Inv postcard (stream, log.since) ∧ stream.gone = false ∧
      stream.delivered.map (Proto.Event.tryInto postcard) = log.got.map fun ev => some (.ok ev)
  | none => log.since = [] ∧ log.got = []

structure Inv (s : EventPath P × EventLog P) : Prop where
  running : s.1.crashed = false
  stream : StreamOk postcard s.2 s.1.stream
  kept : s.2.kept.Sublist (s.2.past.map Events.Event.renamed)
  shows : Shows s.1.hub s.2.received

theorem inv_init : Inv postcard ((init : EventPath P), .empty) where
  running := rfl
  stream := ⟨rfl, rfl⟩
  kept := List.Sublist.refl _
  shows := shows_new

variable {postcard} {s s' : EventPath P} {log : EventLog P} {e : EventPathEvent P}

theorem Inv.unbroken (hp : postcard.Lossless) {t : EventPath P × EventLog P} (h : Inv postcard t) :
    t.2.got <+: t.2.since.map Events.Event.renamed := by
  have hstream := h.stream
  cases hs : t.1.stream with
  | none =>
    rw [hs] at hstream
    obtain ⟨hsince, hgot⟩ := hstream
    rw [hsince, hgot, List.map_nil]
  | some stream =>
    rw [hs] at hstream
    obtain ⟨hinv, -, hread⟩ := hstream
    exact (hinv.inOrder hp).got_isPrefix hread

theorem Inv.current (hp : postcard.Lossless) {t : EventPath P × EventLog P} (h : Inv postcard t)
    {stream : EventStream P} (hs : t.1.stream = some stream) (hlive : stream.task ≠ .ended)
    (hdrained : stream.Drained) : t.2.got = t.2.since.map Events.Event.renamed := by
  have hstream := h.stream
  rw [hs] at hstream
  obtain ⟨hinv, hgone, hread⟩ := hstream
  exact (hinv.inOrder hp).got_eq hread ⟨hlive, hgone⟩ hdrained

theorem Inv.follows (hp : postcard.Lossless) {t : EventPath P × EventLog P} (h : Inv postcard t) : Follows t where
  running := h.running
  sublist := by
    rw [EventLog.emitted, List.map_append]
    exact h.kept.append (h.unbroken hp).sublist
  unbroken := h.unbroken hp
  current _ hs hlive hdrained := h.current hp hs hlive hdrained
  shows := h.shows

theorem stepStream_cases {ev : EventStreamEvent P} (h : s.stepStream postcard ev = some s') :
    ∃ stream stream', s.stream = some stream ∧ EventStream.Step postcard stream ev stream' ∧
      s' = { s with stream := some stream' } := by
  obtain ⟨stream, hs, stream', hstep, rfl⟩ : ∃ stream, s.stream = some stream ∧
      ∃ stream', EventStream.next postcard stream ev = some stream' ∧ { s with stream := some stream' } = s' := by
    simpa [stepStream, Option.bind_eq_some_iff] using h
  exact ⟨stream, stream', hs, hstep, rfl⟩

/-- The server takes a step of the subscription. -/
theorem Inv.server (h : Inv postcard (s, log)) {ev : EventStreamEvent P} (hev : ev.ofServer = true)
    (hstep : s.stepStream postcard ev = some s') {since : List (Events.Event P)}
    (hsince : ∀ stream stream', EventStream.emitted stream ev stream' log.since = since) :
    Inv postcard (s', { log with since := since }) := by
  obtain ⟨stream, stream', hs, hnext, rfl⟩ := stepStream_cases hstep
  have hstream := h.stream
  rw [hs] at hstream
  obtain ⟨hinv, hgone, hread⟩ := hstream
  obtain ⟨hgone', hdelivered⟩ := EventStream.frame_ofServer hev hnext
  have hinv' := hinv.step hnext
  rw [hsince] at hinv'
  exact ⟨h.running, ⟨hinv', hgone'.trans hgone, hdelivered ▸ hread⟩, h.kept, h.shows⟩

/-- `run` reads the next message. -/
theorem Inv.read (hp : postcard.Lossless) (h : Inv postcard (s, log)) (hstep : Step postcard s .next s') :
    Inv postcard (s', logged postcard s .next s' log) := by
  unfold Step next at hstep
  dsimp only at hstep
  rw [if_neg (by rw [show s.crashed = false from h.running]; exact Bool.false_ne_true)] at hstep
  obtain ⟨stream, hs, pb, hpb, t, ht, hstep⟩ : ∃ stream, s.stream = some stream ∧
      ∃ pb, stream.replies.head? = some pb ∧ ∃ t, s.stepStream postcard .deliver = some t ∧
        t.took (decoded postcard pb) = s' := by
    simpa only [Option.bind_eq_bind, Option.bind_eq_some_iff, Option.some.injEq] using hstep
  obtain ⟨rest, hr⟩ : ∃ rest, stream.replies = pb :: rest := List.head?_eq_some_iff.mp hpb
  have hstream := h.stream
  rw [hs] at hstream
  obtain ⟨hinv, hgone, hread⟩ := hstream
  obtain ⟨evt, hevt⟩ := hinv.decodes hp hr
  have hdecoded : decoded postcard pb = some (some evt) := by
    unfold decoded
    rw [hevt]
    rfl
  rw [hdecoded] at hstep
  cases hstep
  have hgot : logged postcard s .next (t.took (some (some evt))) log = { log with got := log.got ++ [evt] } := by
    unfold logged EventPath.upcoming
    simp only [hs, hpb, hdecoded, Option.bind_eq_bind, Option.bind_some, Option.join_some, Option.toList_some]
  rw [hgot]
  obtain ⟨stream₀, stream', hs₀, hnext, rfl⟩ := stepStream_cases ht
  obtain rfl : stream = stream₀ := Option.some.inj (hs.symm.trans hs₀)
  have hinv' := hinv.step hnext
  have hread' : stream' = { stream with replies := rest, delivered := stream.delivered ++ [pb] } := by
    obtain ⟨pb', rest', hr', hstream'⟩ := EventStream.deliver_cases hnext
    rw [hr] at hr'
    cases hr'
    exact hstream'
  refine ⟨h.running, ⟨hinv', ?_, ?_⟩, h.kept, ?_⟩
  · rw [hread']
    exact hgone
  · rw [hread', List.map_append, List.map_append, hread, List.map_singleton, hevt]
    rfl
  · show Shows _ (log.kept ++ (log.got ++ [evt]))
    rw [← List.append_assoc]
    exact h.shows.receive evt

theorem Inv.step (hp : postcard.Lossless) (h : Inv postcard (s, log))
    (hstep : Step postcard s e s') : Inv postcard (s', logged postcard s e s' log) := by
  cases e with
  | emit ev =>
    unfold Step next at hstep
    dsimp only at hstep
    unfold logged
    dsimp only
    split at hstep
    · next stream hs =>
      rw [hs, if_pos Option.isSome_some]
      exact h.server rfl hstep (fun _ _ => rfl)
    · next hs =>
      cases hstep
      rw [hs, if_neg (by simp)]
      have hstream := h.stream
      rw [hs] at hstream
      refine ⟨h.running, ?_, h.kept.trans (.map _ (List.sublist_append_left _ _)), h.shows⟩
      show StreamOk postcard _ s.stream
      rw [hs]
      exact hstream
  | recv => exact h.server rfl hstep (fun _ _ => rfl)
  | send => exact h.server rfl hstep (fun _ _ => rfl)
  | connect =>
    unfold Step next at hstep
    dsimp only at hstep
    split at hstep
    · cases hstep
    · next hfree =>
      cases hstep
      have hs : s.stream = none := by
        cases hs : s.stream with
        | none => rfl
        | some stream => simp [hs] at hfree
      have hstream := h.stream
      rw [hs] at hstream
      obtain ⟨hsince, hgot⟩ := hstream
      dsimp only at hsince hgot
      refine ⟨h.running, ⟨?_, rfl, ?_⟩, h.kept, h.shows⟩
      · show EventStream.Inv postcard (.init, log.since)
        rw [hsince]
        exact EventStream.inv_init postcard
      · show [] = log.got.map _
        rw [hgot]
        rfl
  | disconnect =>
    unfold Step next at hstep
    dsimp only at hstep
    split at hstep
    · cases hstep
    · cases hstep
      refine ⟨h.running, ⟨rfl, rfl⟩, ?_, ?_⟩
      · show (log.kept ++ log.got).Sublist ((log.past ++ log.since).map Events.Event.renamed)
        rw [List.map_append]
        exact h.kept.append (h.unbroken hp).sublist
      · show Shows s.hub (log.kept ++ log.got ++ [])
        rw [List.append_nil]
        exact h.shows
  | next => exact h.read hp hstep
  | subscribeTracking =>
    cases hstep
    exact ⟨h.running, h.stream, h.kept, h.shows.latest, h.shows.battery,
      Slots.forall_mem_concat h.shows.tracking (hears_new _), h.shows.impact⟩
  | subscribeImpact =>
    cases hstep
    exact ⟨h.running, h.stream, h.kept, h.shows.latest, h.shows.battery, h.shows.tracking,
      Slots.forall_mem_concat h.shows.impact (hears_new _)⟩
  | listenTracking i =>
    obtain ⟨receivers, hl, rfl⟩ := Option.map_eq_some_iff.mp hstep
    exact ⟨h.running, h.stream, h.kept, h.shows.latest, h.shows.battery,
      hears_listenAt h.shows.tracking hl, h.shows.impact⟩
  | listenImpact i =>
    obtain ⟨receivers, hl, rfl⟩ := Option.map_eq_some_iff.mp hstep
    exact ⟨h.running, h.stream, h.kept, h.shows.latest, h.shows.battery, h.shows.tracking,
      hears_listenAt h.shows.impact hl⟩

/-! ## Whole runs -/

/-- **The hub follows the server.**  Whatever the order of steps and however often the connection is
lost, `run` never panics on an event; what it has received is, but for device names, a sublist of what was
emitted and has no gaps since it subscribed last; its latest event and its batteries are the last ones
received, and every listener hears what it received, in order and up to the newest. -/
theorem hub_follows (hp : postcard.Lossless) {tr : List (EventPathEvent P × (EventPath P × EventLog P))}
    (hrun : Exec (ghost (Step postcard) (logged postcard)) (init, .empty) tr) :
    Always Follows (init, .empty) tr := by
  have hstep : ∀ t e t', Inv postcard t → ghost (Step postcard) (logged postcard) t e t' → Inv postcard t' := by
    rintro t e ⟨s', log'⟩ ht ⟨hnext, hlog⟩
    have hinv := ht.step hp hnext
    rw [← hlog] at hinv
    exact hinv
  exact (hrun.invariant hstep (inv_init postcard)).imp fun t ht => ht.follows hp

/-- Two events are emitted, one of them reaches the hub, and the connection is lost and made again. -/
def twoEvents : List (EventPathEvent UInt8) :=
  [.connect, .subscribeTracking, .emit (.deviceEvent Proto.unnamedDevice (.batteryEvent ⟨80, true⟩)),
    .emit (.deviceEvent Proto.unnamedDevice (.impactEvent ⟨7⟩)), .recv, .send, .recv, .send, .next, .disconnect,
    .connect]

def twoEventsRun : List (EventPathEvent UInt8 × (EventPath UInt8 × EventLog UInt8)) :=
  trace (ghostStep (next Proto.bytePostcard) (logged Proto.bytePostcard)) (init, .empty) twoEvents

theorem twoEventsRun_exec :
    Exec (ghost (Step Proto.bytePostcard) (logged Proto.bytePostcard)) (init, .empty) twoEventsRun :=
  exec_ghostStep (fun _ _ _ h => h) _ _ twoEvents

theorem hub_follows_twoEvents : Always Follows (init, .empty) twoEventsRun :=
  hub_follows (fun b => ⟨[b], rfl, rfl⟩) twoEventsRun_exec

end EventPath

end OdysseyHub
