import OdysseyHub.Interface.AccessoryWire
import OdysseyHub.Lib.MergeLog
import OdysseyHub.Server.Accessories
import OdysseyHub.Server.ListStream

/-!
# Accessory map subscriptions (server.rs)

`subscribe_accessory_map` takes the first snapshot, then the receiver;
`update_accessory_info_map` merges, takes a snapshot, then sends it.  The merges are
numbered in their order, and a snapshot remembers how many it has seen.  The last map that
reaches the client carries every update that has completed, as long as no map enters the
stream older than one of these (`updates_delivered_of_upToDate`); and what has been sent
can be read to its end (`drains`).
-/

namespace OdysseyHub

open Transition

/-- A copy of `accessory_map`, with the number of merges before it. -/
structure MapSnapshot where
  map : AccessoryMap
  seen : Nat

/-- A call of `update_accessory_info_map` that has saved its map and read back `fresh`; its
merge was the `n`-th. -/
inductive MapUpdate
  | informed (fresh : AccessoryInfoMap)
  | merged (n : Nat)
  | snapped (n : Nat) (snapshot : MapSnapshot)

/-- `subscribe_accessory_map` and the task it spawns. -/
inductive MapTask
  | idle
  /-- the snapshot is taken, the receiver is not there yet -/
  | snapped (init : MapSnapshot)
  | receiving
  | sending (reply : Proto.AccessoryMapReply)
  /-- out of the loop -/
  | ended

/-- The receiver exists. -/
def MapTask.live : MapTask → Bool
  | .receiving | .sending _ => true
  | .idle | .snapped _ | .ended => false

structure AccessoryStream where
  /-- `Server::accessory_map` -/
  map : AccessoryMap
  updates : List MapUpdate
  task : MapTask
  /-- maps the receiver has not read -/
  unread : List AccessoryMap
  replies : List Proto.AccessoryMapReply
  /-- what the client has read last -/
  delivered : Option Proto.AccessoryMapReply
  /-- all merges, in their order, and the numbers of those whose call has completed -/
  merges : List AccessoryInfoMap
  completed : List Nat

inductive MapEvent
  | inform (fresh : AccessoryInfoMap)
  | merge (i : Nat)
  | snap (i : Nat)
  /-- `accessory_map_sender.send`; the call returns -/
  | send (i : Nat)
  /-- the accessory manager sends a map of its own -/
  | managerSend (map : AccessoryMap)
  | snapshot
  | subscribe
  | recv
  | reply
  /-- the client reads a reply -/
  | deliver

/-- A step of the task or of the client. -/
def MapEvent.reads : MapEvent → Prop
  | .recv | .reply | .deliver => True
  | _ => False

namespace AccessoryStream

/-- Slots of `broadcast::channel(12)`. -/
def mapCapacity : Nat := 16

/-- Slots of the client's channel. -/
def replyCapacity : Nat := 16

def init (map : AccessoryMap) : AccessoryStream :=
  { map := map, updates := [], task := .idle, unread := [], replies := [], delivered := none, merges := []
    completed := [] }

/-- `accessory_map_snapshot()` -/
def snapshot (s : AccessoryStream) : MapSnapshot := ⟨s.map, s.merges.length⟩

/-- What the receiver has after a map is sent. -/
def heard (s : AccessoryStream) (map : AccessoryMap) : List AccessoryMap :=
  if s.task.live then s.unread ++ [map] else s.unread

section
variable (order : SetOrder AccessoryFeature)

def next (s : AccessoryStream) : MapEvent → Option AccessoryStream
  | .inform fresh => some { s with updates := s.updates ++ [.informed fresh] }
  | .merge i =>
    match s.updates[i]? with
    | some (.informed fresh) =>
      some
        { s with
          map := s.map.merge Accessories.keepFlag fresh
          merges := s.merges ++ [fresh]
          updates := s.updates.set i (.merged s.merges.length) }
    | _ => none
  | .snap i =>
    match s.updates[i]? with
    | some (.merged n) => some { s with updates := s.updates.set i (.snapped n s.snapshot) }
    | _ => none
  | .send i =>
    match s.updates[i]? with
    | some (.snapped n snap) =>
      some
        { s with
          updates := s.updates.eraseIdx i
          unread := s.heard snap.map
          completed := s.completed ++ [n] }
    | _ => none
  | .managerSend map => some { s with unread := s.heard map }
  | .snapshot =>
    match s.task with
    | .idle => some { s with task := .snapped s.snapshot }
    | _ => none
  | .subscribe =>
    match s.task with
    -- both channels are new: nothing is unread, and `try_send` finds room
    | .snapped init => some { s with task := .receiving, unread := [], replies := [.ofMap order init.map] }
    | _ => none
  | .recv =>
    match s.task, broadcastRecv mapCapacity s.unread with
    | .receiving, some (.ok map, unread) => some { s with task := .sending (.ofMap order map), unread := unread }
    | .receiving, some (.lagged _, _) => some { s with task := .ended, unread := [] }
    | _, _ => none
  | .reply =>
    match s.task with
    | .sending reply =>
      if s.replies.length < replyCapacity then some { s with task := .receiving, replies := s.replies ++ [reply] }
      else none
    | _ => none
  | .deliver =>
    match s.replies with
    | reply :: rest => some { s with replies := rest, delivered := some reply }
    | [] => none

def Step (s : AccessoryStream) (e : MapEvent) (s' : AccessoryStream) : Prop := s.next order e = some s'

end

/-! ## What the client has -/

/-- The map shows every update that has completed, or a later one in its place. -/
def Current (s : AccessoryStream) (map : AccessoryMap) : Prop :=
  ∀ n ∈ s.completed, HashMap.Carries Prod.fst s.merges n map

/-- Every map sent has been read, and every reply. -/
def Quiet (s : AccessoryStream) : Prop :=
  s.replies = [] ∧ ((s.task = .receiving ∧ s.unread = []) ∨ s.task = .ended)

/-- If nothing more is sent, the client has ended up with every update that has completed. -/
def UpdatesDelivered (s : AccessoryStream) : Prop :=
  s.Quiet → ∃ reply map, s.delivered = some reply ∧ reply.toMap = some map ∧ s.Current map

/-- No map enters the stream that is older than an update completed before, and the task
comes to receive before a map is overwritten. -/
def UpToDate (s : AccessoryStream) : MapEvent → Prop
  | .subscribe => ∀ snap, s.task = .snapped snap → ∀ n ∈ s.completed, n < snap.seen
  | .send i => ∀ n snap, s.updates[i]? = some (.snapped n snap) → s.task.live = true →
      ∀ n' ∈ s.completed, n' < snap.seen
  | .managerSend map => s.task.live = true → s.Current map
  | .recv => s.unread.length ≤ mapCapacity
  | _ => True

/-- The map a reply is read back as is current. -/
def Shows (s : AccessoryStream) (reply : Proto.AccessoryMapReply) : Prop :=
  ∃ map, reply.toMap = some map ∧ s.Current map

/-- The reply being sent. -/
def inHand (s : AccessoryStream) : Option Proto.AccessoryMapReply :=
  match s.task with
  | .sending reply => some reply
  | _ => none

/-- The last reply the client gets if nothing more is sent. -/
def latest (order : SetOrder AccessoryFeature) (s : AccessoryStream) : Option Proto.AccessoryMapReply :=
  (s.unread.getLast?.map (.ofMap order)).or (s.inHand.or (s.replies.getLast?.or s.delivered))

/-- What is merged carries the number of its merge, and a snapshot the merges it has seen. -/
structure Numbered (s : AccessoryStream) : Prop where
  map : HashMap.CarriesBelow Prod.fst s.merges s.merges.length s.map
  merged : ∀ n, .merged n ∈ s.updates → n < s.merges.length
  snapped : ∀ n snap, .snapped n snap ∈ s.updates →
    n < snap.seen ∧ HashMap.CarriesBelow Prod.fst s.merges snap.seen snap.map
  init : ∀ snap, s.task = .snapped snap → HashMap.CarriesBelow Prod.fst s.merges snap.seen snap.map
  completed : ∀ n ∈ s.completed, n < s.merges.length

/-- A stream that is there ends with a reply that is current. -/
structure Streaming (order : SetOrder AccessoryFeature) (s : AccessoryStream) : Prop where
  alive : s.task ≠ .ended
  ends : s.task.live = true → ∃ reply, s.latest order = some reply ∧ s.Shows reply

variable {order : SetOrder AccessoryFeature} {s s' : AccessoryStream}

/-! ## What a step can do -/

/-- `next`, with the guards of each case. -/
inductive Moved (order : SetOrder AccessoryFeature) (s : AccessoryStream) : MapEvent → AccessoryStream → Prop
  | inform (fresh : AccessoryInfoMap) :
      Moved order s (.inform fresh) { s with updates := s.updates ++ [.informed fresh] }
  | merge {i : Nat} {fresh : AccessoryInfoMap} (hi : s.updates[i]? = some (.informed fresh)) :
      Moved order s (.merge i)
        { s with
          map := s.map.merge Accessories.keepFlag fresh
          merges := s.merges ++ [fresh]
          updates := s.updates.set i (.merged s.merges.length) }
  | snap {i n : Nat} (hi : s.updates[i]? = some (.merged n)) :
      Moved order s (.snap i) { s with updates := s.updates.set i (.snapped n s.snapshot) }
  | send {i n : Nat} {snap : MapSnapshot} (hi : s.updates[i]? = some (.snapped n snap)) :
      Moved order s (.send i)
        { s with
          updates := s.updates.eraseIdx i
          unread := s.heard snap.map
          completed := s.completed ++ [n] }
  | managerSend (map : AccessoryMap) : Moved order s (.managerSend map) { s with unread := s.heard map }
  | snapshot (ht : s.task = .idle) : Moved order s .snapshot { s with task := .snapped s.snapshot }
  | subscribe {init : MapSnapshot} (ht : s.task = .snapped init) :
      Moved order s .subscribe { s with task := .receiving, unread := [], replies := [.ofMap order init.map] }
  | recv {map : AccessoryMap} {rest : List AccessoryMap} (ht : s.task = .receiving) (hunread : s.unread = map :: rest) :
      Moved order s .recv { s with task := .sending (.ofMap order map), unread := rest }
  | lagged (ht : s.task = .receiving) (hlagged : mapCapacity < s.unread.length) :
      Moved order s .recv { s with task := .ended, unread := [] }
  | reply {reply : Proto.AccessoryMapReply} (ht : s.task = .sending reply) :
      Moved order s .reply { s with task := .receiving, replies := s.replies ++ [reply] }
  | deliver {reply : Proto.AccessoryMapReply} {rest : List Proto.AccessoryMapReply}
      (hreplies : s.replies = reply :: rest) :
      Moved order s .deliver { s with replies := rest, delivered := some reply }

theorem step_cases {e : MapEvent} (h : Step order s e s') : Moved order s e s' := by
  unfold Step next at h
  cases e with
  | inform fresh =>
    cases h
    exact .inform fresh
  | merge i =>
    dsimp only at h
    split at h
    · next fresh hi =>
      cases h
      exact .merge hi
    · cases h
  | snap i =>
    dsimp only at h
    split at h
    · next n hi =>
      cases h
      exact .snap hi
    · cases h
  | send i =>
    dsimp only at h
    split at h
    · next n snap hi =>
      cases h
      exact .send hi
    · cases h
  | managerSend map =>
    cases h
    exact .managerSend map
  | snapshot =>
    dsimp only at h
    split at h
    · next ht =>
      cases h
      exact .snapshot ht
    · cases h
  | subscribe =>
    dsimp only at h
    split at h
    · next init ht =>
      cases h
      exact .subscribe ht
    · cases h
  | recv =>
    dsimp only at h
    split at h
    · next ht hrecv =>
      cases h
      exact .recv ht (recv_ok hrecv)
    · next ht hrecv =>
      cases h
      exact .lagged ht (recv_lagged hrecv)
    · cases h
  | reply =>
    dsimp only at h
    split at h
    · next reply ht =>
      split at h
      · cases h
        exact .reply ht
      · cases h
    · cases h
  | deliver =>
    dsimp only at h
    split at h
    · next reply rest hreplies =>
      cases h
      exact .deliver hreplies
    · cases h

/-! ## The numbers of the merges -/

/-- The task goes on, and touches nothing of the server's. -/
theorem Numbered.task (hs : s.Numbered) {task : MapTask} (ht : ∀ snap, task ≠ .snapped snap)
    (unread : List AccessoryMap) (replies : List Proto.AccessoryMapReply) :
    Numbered { s with task := task, unread := unread, replies := replies } :=
  ⟨hs.map, hs.merged, hs.snapped, fun snap hsnap => absurd hsnap (ht snap), hs.completed⟩

/-- A merge is numbered by those before it. -/
theorem Numbered.merge (hs : s.Numbered) (i : Nat) (fresh : AccessoryInfoMap) :
    Numbered
      { s with
        map := s.map.merge Accessories.keepFlag fresh
        merges := s.merges ++ [fresh]
        updates := s.updates.set i (.merged s.merges.length) } := by
  have hlen : (s.merges ++ [fresh]).length = s.merges.length + 1 := List.length_append
  refine ⟨?_, fun n hn => ?_, fun n snap hn => ?_, fun snap hsnap => (hs.init snap hsnap).append, fun n hn => ?_⟩
  · rw [hlen]
    exact HashMap.carriesBelow_merge (fun _ _ => rfl) hs.map
  · rw [hlen]
    rcases List.mem_or_eq_of_mem_set hn with hn | hn
    · exact Nat.lt_succ_of_lt (hs.merged n hn)
    · cases hn
      exact Nat.lt_succ_self _
  · rcases List.mem_or_eq_of_mem_set hn with hn | hn
    · obtain ⟨hlt, hcarries⟩ := hs.snapped n snap hn
      exact ⟨hlt, hcarries.append⟩
    · cases hn
  · rw [hlen]
    exact Nat.lt_succ_of_lt (hs.completed n hn)

theorem Numbered.step (hs : s.Numbered) {e : MapEvent} (h : Step order s e s') : s'.Numbered := by
  cases step_cases h with
  | inform fresh =>
    refine ⟨hs.map, fun n hn => ?_, fun n snap hn => ?_, hs.init, hs.completed⟩
    · rcases List.mem_append.mp hn with hn | hn
      · exact hs.merged n hn
      · cases List.mem_singleton.mp hn
    · rcases List.mem_append.mp hn with hn | hn
      · exact hs.snapped n snap hn
      · cases List.mem_singleton.mp hn
  | @merge i fresh hi => exact hs.merge i fresh
  | @snap i n hi =>
    refine ⟨hs.map, fun m hm => ?_, fun m snap hm => ?_, hs.init, hs.completed⟩
    · rcases List.mem_or_eq_of_mem_set hm with hm | hm
      · exact hs.merged m hm
      · cases hm
    · rcases List.mem_or_eq_of_mem_set hm with hm | hm
      · exact hs.snapped m snap hm
      · cases hm
        exact ⟨hs.merged n (List.mem_of_getElem? hi), hs.map⟩
  | @send i n snap hi =>
    obtain ⟨hn, hcarries⟩ := hs.snapped n snap (List.mem_of_getElem? hi)
    refine ⟨hs.map, fun m hm => ?_, fun m snap' hm => ?_, hs.init, fun m hm => ?_⟩
    · exact hs.merged m (List.mem_of_mem_eraseIdx hm)
    · exact hs.snapped m snap' (List.mem_of_mem_eraseIdx hm)
    · rcases List.mem_append.mp hm with hm | hm
      · exact hs.completed m hm
      · obtain rfl : m = n := List.mem_singleton.mp hm
        exact Nat.lt_of_lt_of_le hn hcarries.1
  | managerSend map => exact ⟨hs.map, hs.merged, hs.snapped, hs.init, hs.completed⟩
  | snapshot ht =>
    refine ⟨hs.map, hs.merged, hs.snapped, fun snap hsnap => ?_, hs.completed⟩
    cases hsnap
    exact hs.map
  | subscribe ht => exact hs.task (by rintro _ ⟨⟩) _ _
  | recv ht hunread => exact hs.task (by rintro _ ⟨⟩) _ _
  | lagged ht hlagged => exact hs.task (by rintro _ ⟨⟩) _ _
  | reply ht => exact hs.task (by rintro _ ⟨⟩) _ _
  | deliver hreplies => exact ⟨hs.map, hs.merged, hs.snapped, hs.init, hs.completed⟩

/-! ## The last reply -/

/-- The reply made of a current map shows it. -/
theorem shows_ofMap {map : AccessoryMap} (h : s.Current map) : s.Shows (.ofMap order map) := by
  obtain ⟨map', hmap', hsame⟩ :=
    HashMap.collect_rekey Proto.key6_key64 (Proto.toPair_ofPair order) map fun _ => rfl
  exact ⟨map', hmap', fun n hn => (h n hn).same hsame⟩

/-- A map sent to the receiver is the last. -/
theorem latest_heard {map : AccessoryMap} (hlive : s.task.live = true) :
    latest order { s with unread := s.heard map } = some (.ofMap order map) := by
  unfold latest heard
  rw [if_pos hlive]
  dsimp only
  rw [List.getLast?_append]
  rfl

/-- What the task takes from the channel is on its way. -/
theorem latest_recv {map : AccessoryMap} {rest : List AccessoryMap} (ht : s.task = .receiving)
    (hunread : s.unread = map :: rest) :
    latest order { s with task := .sending (.ofMap order map), unread := rest } = s.latest order := by
  unfold latest inHand
  rw [ht, hunread]
  cases rest with
  | nil => rfl
  | cons next rest =>
    rw [List.getLast?_cons_cons, List.getLast?_cons]
    rfl

theorem latest_reply {reply : Proto.AccessoryMapReply} (ht : s.task = .sending reply) :
    latest order { s with task := .receiving, replies := s.replies ++ [reply] } = s.latest order := by
  unfold latest inHand
  rw [ht, List.getLast?_append]
  rfl

theorem latest_deliver {reply : Proto.AccessoryMapReply} {rest : List Proto.AccessoryMapReply}
    (hreplies : s.replies = reply :: rest) :
    latest order { s with replies := rest, delivered := some reply } = s.latest order := by
  have hqueue : rest.getLast?.or (some reply) = s.replies.getLast?.or s.delivered := by
    rw [hreplies]
    cases rest with
    | nil => rfl
    | cons next rest =>
      rw [List.getLast?_cons_cons, List.getLast?_cons]
      rfl
  unfold latest
  rw [← hqueue]
  rfl

theorem Streaming.step (hs : s.Streaming order) (hnum : s.Numbered) {e : MapEvent} (hok : s.UpToDate e)
    (h : Step order s e s') : s'.Streaming order := by
  cases step_cases h with
  | inform fresh => exact ⟨hs.alive, hs.ends⟩
  | @merge i fresh hi =>
    refine ⟨hs.alive, fun hlive => ?_⟩
    obtain ⟨reply, hreply, map, hmap, hcurrent⟩ := hs.ends hlive
    exact ⟨reply, hreply, map, hmap, fun n hn => (hcurrent n hn).append (hnum.completed n hn)⟩
  | snap hi => exact ⟨hs.alive, hs.ends⟩
  | @send i n snap hi =>
    refine ⟨hs.alive, fun hlive => ⟨_, latest_heard hlive, shows_ofMap fun m hm => ?_⟩⟩
    obtain ⟨hn, -, hcarries⟩ := hnum.snapped n snap (List.mem_of_getElem? hi)
    rcases List.mem_append.mp hm with hm | hm
    · exact hcarries m (hok n snap hi hlive m hm)
    · obtain rfl : m = n := List.mem_singleton.mp hm
      exact hcarries m hn
  | managerSend map => exact ⟨hs.alive, fun hlive => ⟨_, latest_heard hlive, shows_ofMap (hok hlive)⟩⟩
  | snapshot ht => exact ⟨nofun, nofun⟩
  | @subscribe init ht =>
    refine ⟨nofun, fun _ => ⟨_, rfl, shows_ofMap fun n hn => ?_⟩⟩
    exact (hnum.init init ht).2 n (hok init ht n hn)
  | recv ht hunread =>
    refine ⟨nofun, fun _ => ?_⟩
    rw [latest_recv ht hunread]
    exact hs.ends (by rw [ht]; rfl)
  | lagged ht hlagged =>
    have hroom : s.unread.length ≤ mapCapacity := hok
    omega
  | reply ht =>
    refine ⟨nofun, fun _ => ?_⟩
    rw [latest_reply ht]
    exact hs.ends (by rw [ht]; rfl)
  | deliver hreplies =>
    refine ⟨hs.alive, fun hlive => ?_⟩
    rw [latest_deliver hreplies]
    exact hs.ends hlive

/-- Once all is quiet, the last reply is the one delivered. -/
theorem Streaming.delivered (hs : s.Streaming order) : s.UpdatesDelivered := by
  rintro ⟨hreplies, ⟨ht, hunread⟩ | ht⟩
  · obtain ⟨reply, hreply, map, hmap, hcur⟩ := hs.ends (by rw [ht]; rfl)
    refine ⟨reply, map, ?_, hmap, hcur⟩
    unfold latest inHand at hreply
    rw [hunread, ht, hreplies] at hreply
    exact hreply
  · exact absurd ht hs.alive

theorem numbered_init (map : AccessoryMap) : (init map).Numbered :=
  ⟨HashMap.carriesBelow_zero map, nofun, nofun, nofun, nofun⟩

/-- **Accessory map subscriptions.**  In a run in which nothing older enters the stream, the
client that has read all there is has every update that has completed. -/
theorem updates_delivered_of_upToDate {map : AccessoryMap} {tr : List (MapEvent × AccessoryStream)}
    (hrun : Exec (Step order) (init map) tr) (hok : StepsOk UpToDate (init map) tr) :
    Always UpdatesDelivered (init map) tr := by
  have hall : Always (fun s => s.Numbered ∧ s.Streaming order) (init map) tr := by
    refine hrun.always ?_ ⟨numbered_init map, nofun, nofun⟩ hok
    rintro s e s' ⟨hnum, hs⟩ hok h
    exact ⟨hnum.step h, hs.step hnum hok h⟩
  exact hall.imp fun s hs => hs.2.delivered

/-! ## Reading what has been sent -/

/-- How many steps that read are to come. -/
def toRead (s : AccessoryStream) : Nat :=
  3 * s.unread.length + s.inHand.elim 0 (fun _ => 2) + s.replies.length

/-- A run of such steps alone reads all that has been sent, and no map is overwritten on the way. -/
def Drains (order : SetOrder AccessoryFeature) (s : AccessoryStream) : Prop :=
  ∃ tr, Exec (Step order) s tr ∧ (∀ e ∈ tr, e.1.reads) ∧ StepsOk UpToDate s tr ∧ (last s tr).Quiet

theorem Drains.of_step {e : MapEvent} (h : Step order s e s') (hreads : e.reads) (hok : s.UpToDate e)
    (hd : Drains order s') : Drains order s := by
  obtain ⟨tr, hrun, hall, hsteps, hquiet⟩ := hd
  refine ⟨(e, s') :: tr, .cons h hrun, fun e' he' => ?_, ⟨hok, hsteps⟩, hquiet⟩
  rcases List.mem_cons.mp he' with rfl | he'
  · exact hreads
  · exact hall e' he'

/-- A stream that has not lagged can be read to its end. -/
theorem drains (hlive : s.task.live = true) (hroom : s.unread.length ≤ mapCapacity) : Drains order s := by
  induction hn : s.toRead using Nat.strong_induction_on generalizing s with
  | h n ih =>
    subst hn
    cases hreplies : s.replies with
    | cons reply rest =>
      -- the client reads first, so that the task finds room
      have hstep : Step order s .deliver { s with replies := rest, delivered := some reply } := by
        unfold Step next
        rw [hreplies]
      refine .of_step hstep trivial trivial (ih _ ?_ hlive hroom rfl)
      unfold toRead inHand
      rw [hreplies, List.length_cons]
      dsimp only
      omega
    | nil =>
      cases ht : s.task with
      | idle | snapped init | ended =>
        rw [ht] at hlive
        cases hlive
      | sending reply =>
        have hstep : Step order s .reply { s with task := .receiving, replies := s.replies ++ [reply] } := by
          unfold Step next
          rw [ht]
          exact if_pos (by rw [hreplies]; decide)
        refine .of_step hstep trivial trivial (ih _ ?_ rfl hroom rfl)
        unfold toRead inHand
        rw [ht, hreplies]
        show 3 * s.unread.length + 0 + 1 < 3 * s.unread.length + 2 + 0
        omega
      | receiving =>
        cases hunread : s.unread with
        | nil => exact ⟨[], .nil s, nofun, trivial, hreplies, .inl ⟨ht, hunread⟩⟩
        | cons map rest =>
          have hlen : rest.length + 1 ≤ mapCapacity := by
            rw [hunread] at hroom
            exact hroom
          have hstep : Step order s .recv { s with task := .sending (.ofMap order map), unread := rest } := by
            unfold Step next
            rw [ht, hunread, recv_of_room hlen]
          refine .of_step hstep trivial hroom (ih _ ?_ rfl (Nat.le_of_succ_le hlen) rfl)
          unfold toRead inHand
          rw [ht, hunread, List.length_cons]
          show 3 * rest.length + 2 + s.replies.length < 3 * (rest.length + 1) + 0 + s.replies.length
          omega

/-! ## One update and one subscription -/

/-- With one feature there is one order. -/
def oneFeature : SetOrder AccessoryFeature where
  toList s := if .impact ∈ s then [.impact] else []
  nodup s := by
    split
    · exact List.nodup_singleton _
    · exact List.nodup_nil
  toFinset_toList s := by
    ext f
    cases f with
    | impact =>
      split
      · next h => simp [h]
      · next h => simp [h]

def oneUpdate : List MapEvent :=
  [.inform (AList.singleton Accessories.sampleKey Accessories.sampleMag), .merge 0, .snap 0, .send 0]

def mapRun (es : List MapEvent) : List (MapEvent × AccessoryStream) := trace (next oneFeature) (init ∅) es

theorem mapRun_exec (es : List MapEvent) : Exec (Step oneFeature) (init ∅) (mapRun es) :=
  exec_trace (fun _ _ _ h => h) _ _

/-- The update comes after the subscription. -/
theorem updates_delivered_of_upToDate_subscribed :
    let tr := mapRun ([.snapshot, .subscribe] ++ oneUpdate ++ [.recv, .reply, .deliver, .deliver])
    tr.length = 10 ∧ Always UpdatesDelivered (init ∅) tr := by
  refine ⟨by decide +kernel, updates_delivered_of_upToDate (mapRun_exec _) ?_⟩
  refine ⟨trivial, fun _ _ => nofun, trivial, trivial, trivial, fun _ _ _ _ => nofun, ?_, trivial, trivial, trivial,
    trivial⟩
  show 1 ≤ mapCapacity
  decide

/-- The update comes between the snapshot and the receiver, and the client never has it. -/
theorem update_between_missed :
    ¬ ∀ (order : SetOrder AccessoryFeature) (map : AccessoryMap) (tr : List (MapEvent × AccessoryStream)),
      Exec (Step order) (init map) tr → Always UpdatesDelivered (init map) tr := by
  intro hall
  have hlast := (hall oneFeature ∅ _ (mapRun_exec ([.snapshot] ++ oneUpdate ++ [.subscribe, .deliver]))).last
  obtain ⟨reply, map, hreply, hmap, hcurrent⟩ := hlast ⟨rfl, .inl ⟨rfl, rfl⟩⟩
  obtain rfl : Proto.AccessoryMapReply.ofMap oneFeature ∅ = reply := Option.some.inj hreply
  obtain rfl : ∅ = map := Option.some.inj hmap
  obtain ⟨j, later, w, -, -, hw, -⟩ := hcurrent 0 (List.mem_singleton.mpr rfl) _ Accessories.sampleKey rfl
    (by decide +kernel)
  cases hw

end AccessoryStream

end OdysseyHub
