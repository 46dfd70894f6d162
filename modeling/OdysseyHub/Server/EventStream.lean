import OdysseyHub.Interface.EventWire
import OdysseyHub.Lib.Broadcast
import OdysseyHub.Server.ListStream

/-!
# Event subscriptions (server.rs, subscribe_events)

All events of the server go through one broadcast channel, and each subscription has a task
that forwards them to its client.  The task ends at the first announcement that it has fallen
behind, so what a client gets has no gaps: it is always a prefix of what has been emitted since
the client subscribed, and a subscription that is alive and drained has brought all of it.
Device names go through strings on the way (`Event.renamed`).

    Always InOrder … tr,   Always Alive … tr ↔ StepsOk KeepsUp … tr        (eventStream_inOrder)
-/

namespace OdysseyHub

open Transition Broadcast

inductive EventTask
  | receiving
  | sending (reply : Proto.Event)
  /-- out of the loop -/
  | ended
  deriving DecidableEq, Repr

def EventTask.inFlight : EventTask → List Proto.Event
  | .sending pb => [pb]
  | _ => []

/-- One subscription. -/
structure EventStream (P : Type) where
  /-- emitted, and not received by the task -/
  unread : List (Events.Event P)
  task : EventTask
  /-- in the channel of the client -/
  replies : List Proto.Event
  /-- what the client has read -/
  delivered : List Proto.Event
  /-- the client has dropped its stream -/
  gone : Bool

inductive EventStreamEvent (P : Type)
  | emit (ev : Events.Event P)
  | recv
  | send
  | deliver
  | hangUp

/-- The steps of the server; the others are the client's. -/
def EventStreamEvent.ofServer {P : Type} : EventStreamEvent P → Bool
  | .emit _ | .recv | .send => true
  | .deliver | .hangUp => false

namespace EventStream

variable {P : Type} (postcard : Postcard P)

def init : EventStream P := { unread := [], task := .receiving, replies := [], delivered := [], gone := false }

/-- slots of `event_sender` -/
def eventCapacity : Nat := 256

/-- slots of the channel of a client -/
def replyCapacity : Nat := 128

/-- The task is out of its loop, and its receiver is dropped. -/
def finish (s : EventStream P) : EventStream P := { s with task := .ended, unread := [] }

def next (s : EventStream P) : EventStreamEvent P → Option (EventStream P)
  | .emit ev =>
    match s.task with
    | .ended => some s
    | _ => some { s with unread := s.unread ++ [ev] }
  | .recv =>
    match s.task, broadcastRecv eventCapacity s.unread with
    | .receiving, some (.ok ev, unread) =>
      match Proto.Event.ofEvent postcard ev with
      | some pb => some { s with task := .sending pb, unread := unread }
      -- the conversion panics, and the task with it
      | none => some s.finish
    | .receiving, some (.lagged _, _) => some s.finish
    | _, _ => none
  | .send =>
    match s.task with
    | .sending pb =>
      if s.gone then some s.finish
      else if s.replies.length < replyCapacity then
        some { s with task := .receiving, replies := s.replies ++ [pb] }
      else none
    | _ => none
  | .deliver =>
    match s.replies with
    | pb :: rest => some { s with replies := rest, delivered := s.delivered ++ [pb] }
    | [] => none
  | .hangUp => some { s with replies := [], gone := true }

def Step (s : EventStream P) (e : EventStreamEvent P) (s' : EventStream P) : Prop := next postcard s e = some s'

/-- The events emitted since the subscription. -/
def emitted (_ : EventStream P) (e : EventStreamEvent P) (_ : EventStream P) (sent : List (Events.Event P)) :
    List (Events.Event P) :=
  match e with
  | .emit ev => sent ++ [ev]
  | _ => sent

/-! ## What is promised -/

def Alive (s : EventStream P × List (Events.Event P)) : Prop := s.1.task ≠ .ended ∧ s.1.gone = false

def Drained (s : EventStream P) : Prop := s.task = .receiving ∧ s.unread = [] ∧ s.replies = []

/-- The client decodes the events that were emitted, without gaps, and a drained subscription has
brought everything. -/
structure InOrder (s : EventStream P × List (Events.Event P)) : Prop where
  isPrefix : s.1.delivered.map (Proto.Event.tryInto postcard) <+: s.2.map fun ev => some (.ok ev.renamed)
  complete : Alive s → s.1.Drained →
    s.1.delivered.map (Proto.Event.tryInto postcard) = s.2.map fun ev => some (.ok ev.renamed)

/-- The task comes to receive before an event is overwritten, and the client stays. -/
def KeepsUp (s : EventStream P × List (Events.Event P)) : EventStreamEvent P → Prop
  | .recv => s.1.unread.length ≤ eventCapacity
  | .hangUp => False
  | _ => True

/-! ## The subscription as a receiver -/

/-- What has been emitted counts as read once it is in the channel of the client. -/
def receiver (s : EventStream P × List (Events.Event P)) : Receiver (Option Proto.Event) :=
  { sent := s.2.map (Proto.Event.ofEvent postcard)
    unread := s.1.task.inFlight.map some ++ s.1.unread.map (Proto.Event.ofEvent postcard)
    received := (s.1.delivered ++ s.1.replies).map some }

structure Inv (s : EventStream P × List (Events.Event P)) : Prop where
  isPrefix : (receiver postcard s).received <+: (receiver postcard s).sent
  complete : Alive s → (receiver postcard s).Complete

theorem inv_init : Inv postcard ((init : EventStream P), []) :=
  ⟨List.prefix_refl _, fun _ => rfl⟩

variable {postcard} {s s' : EventStream P} {sent sent' : List (Events.Event P)} {e : EventStreamEvent P}

theorem Inv.of_complete {t : EventStream P × List (Events.Event P)} (h : (receiver postcard t).Complete) :
    Inv postcard t :=
  ⟨h.isPrefix, fun _ => h⟩

theorem Inv.finish (h : Inv postcard (s, sent)) : Inv postcard (s.finish, sent) :=
  ⟨h.isPrefix, fun halive => absurd rfl halive.1⟩

variable (postcard) in
/-- What `recv` makes of the subscription. -/
inductive Received (s : EventStream P) : EventStream P → Prop
  | read {ev : Events.Event P} {rest : List (Events.Event P)} {pb : Proto.Event} : s.unread = ev :: rest →
      Proto.Event.ofEvent postcard ev = some pb → Received s { s with task := .sending pb, unread := rest }
  | panicked {ev : Events.Event P} : Proto.Event.ofEvent postcard ev = none → Received s s.finish
  | lagged : eventCapacity < s.unread.length → Received s s.finish

theorem recv_cases (h : Step postcard s .recv s') : s.task = .receiving ∧ Received postcard s s' := by
  unfold Step next at h
  dsimp only at h
  split at h
  · next ev unread ht hrecv =>
    refine ⟨ht, ?_⟩
    split at h
    · next pb hpb =>
      cases h
      exact .read (recv_ok hrecv) hpb
    · next hnone =>
      cases h
      exact .panicked hnone
  · next ht hrecv =>
    cases h
    exact ⟨ht, .lagged (recv_lagged hrecv)⟩
  · cases h

/-- Reading an event moves it, in the view of the receiver, nowhere. -/
theorem receiver_read (sent : List (Events.Event P)) {ev : Events.Event P} {rest : List (Events.Event P)}
    {pb : Proto.Event} (ht : s.task = .receiving) (hu : s.unread = ev :: rest)
    (hpb : Proto.Event.ofEvent postcard ev = some pb) :
    receiver postcard ({ s with task := .sending pb, unread := rest }, sent) = receiver postcard (s, sent) := by
  unfold receiver
  dsimp only
  rw [ht, hu, List.map_cons, hpb]
  rfl

theorem receiver_sent {pb : Proto.Event} :
    receiver postcard ({ s with task := .receiving, replies := s.replies ++ [pb] }, sent) =
      (receiver postcard (s, sent)).take (some pb) (s.unread.map (Proto.Event.ofEvent postcard)) := by
  unfold receiver Receiver.take
  dsimp only
  rw [← List.append_assoc, List.map_append]
  rfl

theorem receiver_emit (ev : Events.Event P) :
    receiver postcard ({ s with unread := s.unread ++ [ev] }, sent ++ [ev]) =
      (receiver postcard (s, sent)).send (Proto.Event.ofEvent postcard ev) := by
  unfold receiver Receiver.send
  dsimp only
  rw [List.map_append, List.map_append, List.append_assoc]
  rfl

variable (postcard) in
theorem receiver_deliver (sent : List (Events.Event P)) {pb : Proto.Event} {rest : List Proto.Event}
    (hr : s.replies = pb :: rest) :
    receiver postcard ({ s with replies := rest, delivered := s.delivered ++ [pb] }, sent) =
      receiver postcard (s, sent) := by
  unfold receiver
  dsimp only
  rw [hr, List.append_assoc, List.singleton_append]

theorem Inv.step (hs : Inv postcard (s, sent)) (h : Step postcard s e s') :
    Inv postcard (s', emitted s e s' sent) := by
  cases e with
  | emit ev =>
    have hgrown : (receiver postcard (s, sent)).received <+: (sent ++ [ev]).map (Proto.Event.ofEvent postcard) := by
      rw [List.map_append]
      exact hs.isPrefix.trans (List.prefix_append _ _)
    unfold Step next at h
    dsimp only at h
    split at h
    · next ht =>
      cases h
      exact ⟨hgrown, fun halive => absurd ht halive.1⟩
    · cases h
      refine ⟨hgrown, fun halive => ?_⟩
      show (receiver postcard ({ s with unread := s.unread ++ [ev] }, sent ++ [ev])).Complete
      rw [receiver_emit]
      exact (hs.complete halive).send _
  | recv =>
    obtain ⟨ht, hreceived⟩ := recv_cases h
    cases hreceived with
    | read hu hpb =>
      have hsame := receiver_read sent ht hu hpb
      refine ⟨?_, fun halive => ?_⟩
      · show (receiver postcard (_, sent)).received <+: (receiver postcard (_, sent)).sent
        rw [hsame]
        exact hs.isPrefix
      · show (receiver postcard (_, sent)).Complete
        rw [hsame]
        exact hs.complete ⟨by rw [ht]; exact EventTask.noConfusion, halive.2⟩
    | panicked _ => exact hs.finish
    | lagged _ => exact hs.finish
  | send =>
    unfold Step next at h
    dsimp only at h
    split at h
    · next pb ht =>
      split at h
      · cases h
        exact hs.finish
      · next hgone =>
        split at h
        · cases h
          have halive : Alive (s, sent) := ⟨by rw [ht]; exact EventTask.noConfusion, by simpa using hgone⟩
          refine .of_complete ?_
          show (receiver postcard (_, sent)).Complete
          rw [receiver_sent]
          refine (hs.complete halive).take ?_
          unfold receiver
          dsimp only
          rw [ht]
          rfl
        · cases h
    · cases h
  | deliver =>
    unfold Step next at h
    dsimp only at h
    split at h
    · next pb rest hr =>
      cases h
      have hsame := receiver_deliver postcard sent hr
      refine ⟨?_, fun halive => ?_⟩
      · show (receiver postcard (_, sent)).received <+: (receiver postcard (_, sent)).sent
        rw [hsame]
        exact hs.isPrefix
      · show (receiver postcard (_, sent)).Complete
        rw [hsame]
        exact hs.complete halive
    · cases h
  | hangUp =>
    cases h
    refine ⟨?_, fun halive => ?_⟩
    · have hfewer : (s.delivered ++ []).map some <+: (s.delivered ++ s.replies).map some := by
        rw [List.append_nil, List.map_append]
        exact List.prefix_append _ _
      exact hfewer.trans hs.isPrefix
    · cases halive.2

/-- Only the client reads, or hangs up. -/
theorem frame_ofServer (he : e.ofServer = true) (h : Step postcard s e s') :
    s'.gone = s.gone ∧ s'.delivered = s.delivered := by
  cases e with
  | emit ev =>
    unfold Step next at h
    dsimp only at h
    split at h
    · cases h
      exact ⟨rfl, rfl⟩
    · cases h
      exact ⟨rfl, rfl⟩
  | recv =>
    obtain ⟨-, hreceived⟩ := recv_cases h
    cases hreceived with
    | read _ _ => exact ⟨rfl, rfl⟩
    | panicked _ => exact ⟨rfl, rfl⟩
    | lagged _ => exact ⟨rfl, rfl⟩
  | send =>
    unfold Step next at h
    dsimp only at h
    split at h
    · split at h
      · cases h
        exact ⟨rfl, rfl⟩
      · split at h
        · cases h
          exact ⟨rfl, rfl⟩
        · cases h
    · cases h
  | deliver => cases he
  | hangUp => cases he

/-! ## What the client decodes -/

/-- Decoding undoes encoding, event by event. -/
theorem map_decoded (hp : postcard.Lossless) (sent : List (Events.Event P)) :
    (sent.map (Proto.Event.ofEvent postcard)).map (·.bind (Proto.Event.tryInto postcard)) =
      sent.map fun ev => some (.ok ev.renamed) := by
  rw [List.map_map]
  refine List.map_congr_left fun ev _ => ?_
  obtain ⟨pb, hpb, hdecoded⟩ := Proto.tryInto_renamed hp ev
  show (Proto.Event.ofEvent postcard ev).bind _ = _
  rw [hpb]
  exact hdecoded

theorem Inv.inOrder (hp : postcard.Lossless) {t : EventStream P × List (Events.Event P)} (h : Inv postcard t) :
    InOrder postcard t where
  isPrefix := by
    have hdelivered : t.1.delivered.map some <+: t.2.map (Proto.Event.ofEvent postcard) := by
      refine List.IsPrefix.trans ?_ h.isPrefix
      show t.1.delivered.map some <+: (t.1.delivered ++ t.1.replies).map some
      rw [List.map_append]
      exact List.prefix_append _ _
    have hdecoded := hdelivered.map (·.bind (Proto.Event.tryInto postcard))
    rw [map_decoded hp, List.map_map] at hdecoded
    exact hdecoded
  complete halive hdrained := by
    obtain ⟨ht, hunread, hreplies⟩ := hdrained
    have hsent : (receiver postcard t).received ++ (receiver postcard t).unread = (receiver postcard t).sent :=
      h.complete halive
    unfold receiver at hsent
    dsimp only at hsent
    rw [ht, hunread, hreplies, List.append_nil, show EventTask.receiving.inFlight = [] from rfl, List.map_nil,
      List.map_nil, List.append_nil, List.append_nil] at hsent
    rw [← map_decoded hp, ← hsent, List.map_map]
    rfl

theorem decodes_injective : Function.Injective fun ev : Events.Event P => (some (.ok ev) : Option (Except Unit _)) := by
  intro a b h
  cases h
  rfl

theorem decodes_renamed (evs : List (Events.Event P)) :
    (evs.map fun ev => (some (.ok ev.renamed) : Option (Except Unit _))) =
      (evs.map Events.Event.renamed).map fun ev => some (.ok ev) := by
  rw [List.map_map]
  rfl

section
variable {t : EventStream P × List (Events.Event P)} {got : List (Events.Event P)} (h : InOrder postcard t)
  (hread : t.1.delivered.map (Proto.Event.tryInto postcard) = got.map fun ev => some (.ok ev))
include h hread

/-- A client that has decoded what it read has the events without gaps. -/
theorem InOrder.got_isPrefix : got <+: t.2.map Events.Event.renamed := by
  have hprefix := h.isPrefix
  rw [hread, decodes_renamed] at hprefix
  exact (List.prefix_map_iff_of_injective decodes_injective).mp hprefix

/-- … and all of them once the subscription is drained. -/
theorem InOrder.got_eq (halive : Alive t) (hdrained : t.1.Drained) : got = t.2.map Events.Event.renamed := by
  have hall := h.complete halive hdrained
  rw [hread, decodes_renamed] at hall
  exact List.map_injective_iff.mpr decodes_injective hall

end

/-- The client reads the next message. -/
theorem deliver_cases (h : Step postcard s .deliver s') :
    ∃ pb rest, s.replies = pb :: rest ∧ s' = { s with replies := rest, delivered := s.delivered ++ [pb] } := by
  unfold Step next at h
  dsimp only at h
  split at h
  · next pb rest hr =>
    cases h
    exact ⟨pb, rest, hr, rfl⟩
  · cases h

/-- It is one that the client can decode. -/
theorem Inv.decodes (hp : postcard.Lossless) (h : Inv postcard (s, sent))
    {pb : Proto.Event} {rest : List Proto.Event} (hr : s.replies = pb :: rest) :
    ∃ evt, Proto.Event.tryInto postcard pb = some (.ok evt) := by
  have hdelivered : Step postcard s .deliver { s with replies := rest, delivered := s.delivered ++ [pb] } := by
    unfold Step next
    dsimp only
    rw [hr]
  have hprefix := ((h.step hdelivered).inOrder hp).isPrefix
  have hmem : Proto.Event.tryInto postcard pb ∈ sent.map fun ev => some (Except.ok ev.renamed) := by
    refine hprefix.subset ?_
    rw [List.map_append]
    exact List.mem_append_right _ (List.mem_singleton.mpr rfl)
  obtain ⟨ev, -, hev⟩ := List.mem_map.mp hmem
  exact ⟨ev.renamed, hev.symm⟩

/-! ## When a subscription ends -/

/-- A subscription that has ended and been read stays so. -/
theorem ended_stays (h : Step postcard s e s') (hs : s.task = .ended ∧ s.replies = []) :
    s'.task = .ended ∧ s'.replies = [] := by
  obtain ⟨htask, hreplies⟩ := hs
  unfold Step next at h
  cases e with
  | emit ev =>
    dsimp only at h
    rw [htask] at h
    cases h
    exact ⟨htask, hreplies⟩
  | recv =>
    dsimp only at h
    rw [htask] at h
    cases h
  | send =>
    dsimp only at h
    rw [htask] at h
    cases h
  | deliver =>
    dsimp only at h
    rw [hreplies] at h
    cases h
  | hangUp =>
    cases h
    exact ⟨htask, rfl⟩

theorem ofEvent_ne_none (hp : postcard.Lossless) (ev : Events.Event P) :
    Proto.Event.ofEvent postcard ev ≠ none := by
  obtain ⟨pb, hpb, -⟩ := Proto.tryInto_renamed hp ev
  rw [hpb]
  exact Option.some_ne_none pb

theorem Alive.step (hp : postcard.Lossless) (hs : Alive (s, sent)) (hok : KeepsUp (s, sent) e)
    (h : Step postcard s e s') : Alive (s', sent') := by
  obtain ⟨htask, hgone⟩ := hs
  cases e with
  | emit ev =>
    unfold Step next at h
    dsimp only at h
    split at h
    · next ht => exact absurd ht htask
    · cases h
      exact ⟨htask, hgone⟩
  | recv =>
    obtain ⟨ht, hreceived⟩ := recv_cases h
    cases hreceived with
    | read hu hpb => exact ⟨EventTask.noConfusion, hgone⟩
    | panicked hnone => exact absurd hnone (ofEvent_ne_none hp _)
    | lagged hlag => exact absurd hok (not_le.mpr hlag)
  | send =>
    unfold Step next at h
    dsimp only at h
    split at h
    · rw [if_neg (by rw [show s.gone = false from hgone]; exact Bool.false_ne_true)] at h
      split at h
      · cases h
        exact ⟨EventTask.noConfusion, hgone⟩
      · cases h
    · cases h
  | deliver =>
    unfold Step next at h
    dsimp only at h
    split at h
    · cases h
      exact ⟨htask, hgone⟩
    · cases h
  | hangUp => exact hok.elim

theorem keepsUp_of_alive (h : Step postcard s e s') (halive : Alive (s', sent')) : KeepsUp (s, sent) e := by
  cases e with
  | recv =>
    show s.unread.length ≤ eventCapacity
    by_contra hlag
    unfold Step next at h
    dsimp only at h
    split at h
    · next ev unread _ hrecv =>
      have hu := recv_ok hrecv
      rw [hu] at hrecv hlag
      unfold broadcastRecv at hrecv
      dsimp only at hrecv
      rw [if_neg (by omega)] at hrecv
      cases hrecv
    · cases h
      exact halive.1 rfl
    · cases h
  | hangUp =>
    cases h
    cases halive.2
  | emit ev => trivial
  | send => trivial
  | deliver => trivial

/-! ## Whole runs -/

/-- **Event subscriptions.**  Whatever the order of steps, what a client decodes is a prefix of the events
emitted since it subscribed, each as it was emitted but for the device's name; the subscription lives on
exactly as long as its task never comes to receive with more events unread than the channel keeps and the
client stays. -/
theorem eventStream_inOrder (hp : postcard.Lossless)
    {tr : List (EventStreamEvent P × (EventStream P × List (Events.Event P)))}
    (hrun : Exec (ghost (Step postcard) emitted) (init, []) tr) :
    Always (InOrder postcard) (init, []) tr ∧ (Always Alive (init, []) tr ↔ StepsOk KeepsUp (init, []) tr) := by
  constructor
  · have hstep : ∀ t e t', Inv postcard t → ghost (Step postcard) emitted t e t' → Inv postcard t' := by
      rintro t e ⟨s', sent'⟩ ht ⟨hnext, hsent⟩
      have hinv := ht.step hnext
      rw [← hsent] at hinv
      exact hinv
    exact (hrun.invariant hstep (inv_init postcard)).imp fun t ht => ht.inOrder hp
  · exact hrun.always_iff (I := Alive) (fun _ h => h) (fun _ _ _ hs hok h => hs.step hp hok h.1)
      (fun _ _ _ _ h halive => keepsUp_of_alive h.1 halive) ⟨EventTask.noConfusion, rfl⟩

/-- An impact is emitted and reaches the client. -/
def oneEvent : List (EventStreamEvent UInt8) :=
  [.emit (.deviceEvent Proto.unnamedDevice (.impactEvent ⟨7⟩)), .recv, .send, .deliver]

def oneEventRun : List (EventStreamEvent UInt8 × (EventStream UInt8 × List (Events.Event UInt8))) :=
  trace (ghostStep (next Proto.bytePostcard) emitted) (init, []) oneEvent

theorem oneEventRun_exec : Exec (ghost (Step Proto.bytePostcard) emitted) (init, []) oneEventRun :=
  exec_ghostStep (fun _ _ _ h => h) emitted _ oneEvent

theorem eventStream_inOrder_oneEvent :
    Always (InOrder Proto.bytePostcard) (init, []) oneEventRun ∧
      (Always Alive (init, []) oneEventRun ↔ StepsOk KeepsUp (init, []) oneEventRun) :=
  eventStream_inOrder (fun b => ⟨[b], rfl, rfl⟩) oneEventRun_exec

end EventStream

end OdysseyHub
