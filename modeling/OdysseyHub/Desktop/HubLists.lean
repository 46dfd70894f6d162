import OdysseyHub.Desktop.ZeroSlots
import OdysseyHub.Interface.EventWire
import OdysseyHub.Server.ListStream

/-!
# The lists of the hub (odyssey_desktop, hub.rs; odyssey_hub_client, client.rs)

After every connection the hub has a new task for each of its lists, which replaces the list by
every snapshot of its subscription; the task before it is aborted, but may still have a snapshot
in hand.  A list that is shown is always one that the server had, and it is the server's list
whenever the task is drained, in runs where the subscription keeps up and no aborted task writes
late (`hubLists_follow`).
-/

namespace OdysseyHub

open Slots Transition

/-! ## What the client makes of a snapshot -/

/-- `client::DongleInfo`, which has the fields of the server's. -/
def Proto.Dongle.toDongleInfo (d : Proto.Dongle) : DongleInfo :=
  { id := d.id
    protocolVersion := Proto.FirmwareVersion.toVersion d.protocolVersion
    controlProtocolVersion := Proto.FirmwareVersion.toVersion d.controlProtocolVersion
    firmwareVersion := Proto.FirmwareVersion.toVersion d.firmwareVersion
    connectedDevices := d.connectedDevices.filterMap fun bytes =>
      if bytes.length = 6 then some (Proto.uuidOfBytes bytes) else none
    bondedDevices := d.bondedDevices.filterMap fun bytes =>
      if bytes.length = 6 then some (Proto.uuidOfBytes bytes) else none }

theorem filterMap_uuidOfBytes (uuids : List Uuid) :
    (uuids.map (·.toList)).filterMap (fun bytes => if bytes.length = 6 then some (Proto.uuidOfBytes bytes) else none) =
      uuids := by
  induction uuids with
  | nil => rfl
  | cons u uuids ih =>
    rw [List.map_cons, List.filterMap_cons, if_pos (Vector.length_toList), Proto.uuidOfBytes_toList, ih]

theorem dongleListReplyFrom_toDongleInfo (dongles : List DongleInfo) :
    (dongleListReplyFrom dongles).map Proto.Dongle.toDongleInfo = dongles := by
  unfold dongleListReplyFrom
  rw [List.map_map]
  refine (List.map_congr_left fun d _ => ?_).trans (List.map_id dongles)
  simp only [Function.comp_apply, Proto.Dongle.toDongleInfo, Proto.FirmwareVersion.toVersion_ofVersion,
    filterMap_uuidOfBytes]
  rfl

/-! ## Devices and their keys -/

namespace HubDevices

/-- Every key is of the device in its slot, and every device has one. -/
structure Agrees (hub : HubDevices) : Prop where
  keyed : ∀ u slot, hub.deviceKeys.lookup u = some slot → ∃ d, hub.devices[slot]? = some d ∧ d.uuid = u
  listed : ∀ d ∈ hub.devices, ∃ slot, hub.deviceKey d = some slot

variable {hub : HubDevices}

theorem Agrees.insert (h : hub.Agrees) (device : Device) : (hub.insert device).Agrees where
  keyed u slot hu := by
    by_cases hdev : u = device.uuid
    · have hk : (hub.insert device).deviceKeys.lookup device.uuid = some hub.devices.length := Finmap.lookup_insert _
      rw [hdev, hk] at hu
      exact ⟨device, getElem?_concat_some.mpr (.inr ⟨(Option.some.inj hu).symm, rfl⟩), hdev.symm⟩
    · have hk : (hub.insert device).deviceKeys.lookup u = hub.deviceKeys.lookup u := Finmap.lookup_insert_of_ne _ hdev
      obtain ⟨d, hd, hdu⟩ := h.keyed u slot (hk ▸ hu)
      exact ⟨d, getElem?_concat_some.mpr (.inl hd), hdu⟩
  listed d hd := by
    by_cases hdev : d.uuid = device.uuid
    · refine ⟨hub.devices.length, ?_⟩
      show (hub.insert device).deviceKeys.lookup d.uuid = _
      rw [hdev]
      exact Finmap.lookup_insert _
    · rcases List.mem_append.mp hd with hd | hd
      · obtain ⟨slot, hslot⟩ := h.listed d hd
        exact ⟨slot, (Finmap.lookup_insert_of_ne _ hdev).trans hslot⟩
      · exact absurd (congrArg Device.uuid (List.mem_singleton.mp hd)) hdev

theorem agrees_replaceDevices (list : List Device) : (replaceDevices list).Agrees := by
  have hfold : ∀ hub : HubDevices, hub.Agrees → (list.foldl insert hub).Agrees := by
    induction list with
    | nil => exact fun _ h => h
    | cons device list ih => exact fun _ h => ih _ (h.insert device)
  refine hfold _ ⟨fun u slot hu => ?_, fun _ hd => absurd hd List.not_mem_nil⟩
  rw [Finmap.lookup_empty] at hu
  cases hu

end HubDevices

/-! ## A list of the server, as a table of the hub -/

structure HubTable {L V : Type} (svc : ListService L V) (T : Type) where
  /-- the table a snapshot makes; `none` is a panic in the client -/
  store : V → Option T
  shown : L → T
  empty : T
  /-- the list is fetched once before its task is there -/
  fetches : Bool
  store_reply : ∀ l, store (svc.reply l) = some (shown l)

/-- `devices` and `device_keys` -/
def deviceTable : HubTable deviceListStream HubDevices where
  store reply := (reply.mapM Proto.Device.toDevice).map HubDevices.replaceDevices
  shown l := .replaceDevices (l.map fun e => e.1.renamed)
  empty := .replaceDevices []
  fetches := true
  store_reply l := by
    have hread : (l.map fun e => Proto.Device.ofDevice e.1).mapM Proto.Device.toDevice =
        some (l.map fun e => e.1.renamed) := by
      induction l with
      | nil => rfl
      | cons e l ih =>
        rw [List.map_cons, List.mapM_cons, ih, Proto.Device.toDevice_ofDevice_renamed]
        rfl
    show ((l.map fun e => Proto.Device.ofDevice e.1).mapM Proto.Device.toDevice).map _ = _
    rw [hread]
    rfl

/-- `dongles` -/
def dongleTable : HubTable dongleListStream (List DongleInfo) where
  store reply := some (reply.map Proto.Dongle.toDongleInfo)
  shown l := l.map Prod.fst
  empty := []
  fetches := false
  store_reply l := congrArg some (dongleListReplyFrom_toDongleInfo (l.map Prod.fst))

/-! ## The hub and its tasks -/

/-- A task of a list, from its subscription on. -/
structure HubListTask (L V T : Type) where
  stream : ListStream L V
  /-- what it has read and not yet written -/
  holding : Option T
  dead : Bool

/-- Where `run` is. -/
inductive HubPhase (V : Type)
  /-- it reads the event stream -/
  | reading
  | connecting
  | fetched (reply : Option V)
  /-- the new task's stream is `n` -/
  | subscribed (reply : Option V) (n : Nat)
  | replaced (n : Nat)

structure HubList (L V T : Type) where
  list : L
  /-- tasks of the server that have changed the list and are about to announce it -/
  changed : Nat
  tasks : List (HubListTask L V T)
  /-- `device_list_task`, `dongle_list_task` -/
  handle : Option Nat
  phase : HubPhase V
  table : T

inductive HubListEvent
  | change (m : Message)
  | announce
  /-- the server's task of a subscription takes a snapshot, receives or sends -/
  | snapshot (k : Nat)
  | recv (k : Nat)
  | send (k : Nat)
  | fetch
  | subscribe
  | fail
  | replace
  /-- the task before is aborted, and the new one spawned -/
  | spawn
  /-- the event stream has ended -/
  | disconnect
  /-- the task reads a snapshot -/
  | read
  | write (k : Nat)

/-- The stream whose task is about to be spawned. -/
def HubPhase.pending {V : Type} : HubPhase V → Option Nat
  | .subscribed _ n => some n
  | .replaced n => some n
  | _ => none

/-- What was fetched before the task. -/
def HubPhase.reply {V : Type} : HubPhase V → Option V
  | .fetched reply => reply
  | .subscribed reply _ => reply
  | _ => none

namespace HubList

section
variable {L V T : Type} {svc : ListService L V} (tbl : HubTable svc T)

def init (list : L) : HubList L V T :=
  { list := list, changed := 0, tasks := [], handle := none, phase := .connecting, table := tbl.empty }

/-- All subscriptions see a change, or its announcement. -/
def atAll (svc : ListService L V) (e : StreamEvent) (tasks : List (HubListTask L V T)) : List (HubListTask L V T) :=
  tasks.map fun t => { t with stream := (ListStream.next svc t.stream e).getD t.stream }

/-- The server takes a step of one subscription. -/
def atStream (svc : ListService L V) (s : HubList L V T) (k : Nat) (e : StreamEvent) : Option (HubList L V T) := do
  let t ← s.tasks[k]?
  let stream ← ListStream.next svc t.stream e
  some { s with tasks := s.tasks.set k { t with stream := stream } }

/-- A snapshot that has been read. -/
def took (t : HubListTask L V T) (stream : ListStream L V) (table : Option T) : HubListTask L V T :=
  match table with
  | some _ => { stream := stream, holding := table, dead := t.dead }
  | none => { stream := stream, holding := none, dead := true }

def next (s : HubList L V T) : HubListEvent → Option (HubList L V T)
  | .change m =>
    some
      { s with
        list := svc.forward s.list m
        changed := if svc.announces m then s.changed + 1 else s.changed
        tasks := atAll svc (.change m) s.tasks }
  | .announce =>
    if s.changed = 0 then none
    else some { s with changed := s.changed - 1, tasks := atAll svc .announce s.tasks }
  | .snapshot k => s.atStream svc k .snapshot
  | .recv k => s.atStream svc k .recv
  | .send k => s.atStream svc k .send
  | .fetch =>
    match s.phase with
    | .connecting => some { s with phase := .fetched (if tbl.fetches then some (svc.reply s.list) else none) }
    | _ => none
  | .subscribe =>
    match s.phase with
    | .fetched reply =>
      let stream : ListStream L V := { ListStream.init s.list with changed := s.changed }
      some
        { s with
          tasks := s.tasks ++ [{ stream := stream, holding := none, dead := false }]
          phase := .subscribed reply s.tasks.length }
    | _ => none
  | .fail =>
    match s.phase with
    | .fetched _ | .subscribed _ _ => some { s with phase := .connecting }
    | _ => none
  | .replace =>
    match s.phase with
    | .subscribed none n => some { s with phase := .replaced n }
    -- the hub does not go on after a panic
    | .subscribed (some reply) n => (tbl.store reply).map fun table => { s with phase := .replaced n, table := table }
    | _ => none
  | .spawn =>
    match s.phase with
    | .replaced n => some { s with handle := some n, phase := .reading }
    | _ => none
  | .disconnect =>
    match s.phase with
    | .reading => some { s with phase := .connecting }
    | _ => none
  | .read => do
    let k ← s.handle
    let t ← s.tasks[k]?
    if t.dead || t.holding.isSome then none
    else do
      let reply ← t.stream.replies.head?
      let stream ← ListStream.next svc t.stream .deliver
      some { s with tasks := s.tasks.set k (took t stream (tbl.store reply)) }
  | .write k => do
    let t ← s.tasks[k]?
    let table ← t.holding
    some { s with tasks := s.tasks.set k { t with holding := none }, table := table }

def Step (s : HubList L V T) (e : HubListEvent) (s' : HubList L V T) : Prop := next tbl s e = some s'

/-- The lists that the server has had. -/
def lists (_ : HubList L V T) (e : HubListEvent) (s' : HubList L V T) (past : List L) : List L :=
  match e with
  | .change _ => past ++ [s'.list]
  | _ => past

/-! ## What is shown -/

/-- No task panics, and a list that is shown is one that the server had. -/
structure Shown (s : HubList L V T × List L) : Prop where
  alive : ∀ t ∈ s.1.tasks, t.dead = false
  table : s.1.table = tbl.empty ∨ ∃ l ∈ s.2, s.1.table = tbl.shown l

/-- The subscription is alive, and nothing is under way to the table. -/
def Settled (s : HubList L V T) : Prop :=
  (∀ n, s.phase ≠ .replaced n) ∧
    ∃ k t, s.handle = some k ∧ s.tasks[k]? = some t ∧ t.holding = none ∧ t.stream.task ≠ .ended ∧
      t.stream.Drained

def Current (s : HubList L V T × List L) : Prop := Settled s.1 → s.1.table = tbl.shown s.1.list

/-- The subscription keeps up, and a task that has been aborted does not write. -/
def Timely (svc : ListService L V) (s : HubList L V T × List L) : HubListEvent → Prop
  | .recv k =>
    s.1.handle = some k ∨ s.1.phase.pending = some k →
      ∀ t ∈ s.1.tasks[k]?, t.stream.unread.length ≤ svc.changeCapacity
  | .write k => s.1.handle = some k
  | _ => True

/-! ## Steps of a subscription -/

variable {tbl} {s s' : HubList L V T} {past : List L} {st st' : ListStream L V} {e : StreamEvent}

variable (svc) in
/-- Where the replies of a subscription come from. -/
structure Replied (st st' : ListStream L V) : Prop where
  list : st'.list = st.list
  changed : st'.changed = st.changed
  delivered : st'.delivered = st.delivered
  queued : ∀ v ∈ st'.replies, v ∈ st.replies ∨ st.task = .sending v ∨ v = svc.reply st.list
  sending : ∀ v, st'.task = .sending v → st.task = .sending v ∨ v = svc.reply st.list

theorem replied_snapshot (h : ListStream.Step svc st .snapshot st') : Replied svc st st' := by
  unfold ListStream.Step ListStream.next at h
  dsimp only at h
  split at h
  · cases h
    refine ⟨rfl, rfl, rfl, fun v hv => ?_, fun v hv => (by cases hv)⟩
    unfold ListStream.trySend at hv
    dsimp only at hv
    split at hv
    · rcases List.mem_append.mp hv with hv | hv
      · exact .inl hv
      · exact .inr (.inr (List.mem_singleton.mp hv))
    · exact .inl hv
  · cases h
    refine ⟨rfl, rfl, rfl, fun v hv => .inl hv, fun v hv => ?_⟩
    cases hv
    exact .inr rfl
  · cases h

theorem replied_recv (h : ListStream.Step svc st .recv st') : Replied svc st st' := by
  unfold ListStream.Step ListStream.next at h
  dsimp only at h
  split at h
  · cases h
    exact ⟨rfl, rfl, rfl, fun v hv => .inl hv, fun v hv => (by cases hv)⟩
  · cases h
    exact ⟨rfl, rfl, rfl, fun v hv => .inl hv, fun v hv => (by cases hv)⟩
  · cases h

theorem replied_send (h : ListStream.Step svc st .send st') : Replied svc st st' := by
  unfold ListStream.Step ListStream.next at h
  dsimp only at h
  split at h
  · next reply ht =>
    split at h
    · cases h
      refine ⟨rfl, rfl, rfl, fun v hv => ?_, fun v hv => (by cases hv)⟩
      rcases List.mem_append.mp hv with hv | hv
      · exact .inl hv
      · rw [List.mem_singleton.mp hv]
        exact .inr (.inl ht)
    · cases h
  · cases h

/-- The client reads the first reply. -/
theorem deliver_cases (h : ListStream.Step svc st .deliver st') :
    ∃ v rest, st.replies = v :: rest ∧ st' = { st with replies := rest, delivered := some v } := by
  unfold ListStream.Step ListStream.next at h
  dsimp only at h
  split at h
  · next v rest hr =>
    cases h
    exact ⟨v, rest, hr, rfl⟩
  · cases h

/-! ## Every reply is of a list that the server had -/

/-- A reply with a list of the past. -/
def Was (svc : ListService L V) (past : List L) (v : V) : Prop := ∃ l ∈ past, v = svc.reply l

theorem Was.more {v : V} (h : Was svc past v) (l : L) : Was svc (past ++ [l]) v := by
  obtain ⟨l', hl', hv⟩ := h
  exact ⟨l', List.mem_append_left _ hl', hv⟩

variable (tbl) in
structure TaskSound (list : L) (changed : Nat) (past : List L) (t : HubListTask L V T) : Prop where
  list : t.stream.list = list
  changed : t.stream.changed = changed
  queued : ∀ v ∈ t.stream.replies, Was svc past v
  sending : ∀ v, t.stream.task = .sending v → Was svc past v
  holding : ∀ table ∈ t.holding, ∃ l ∈ past, table = tbl.shown l
  alive : t.dead = false

theorem TaskSound.stream {list : L} {changed : Nat} {t : HubListTask L V T} (h : TaskSound tbl list changed past t)
    (hlist : list ∈ past) {stream : ListStream L V} (hr : Replied svc t.stream stream) :
    TaskSound tbl list changed past { t with stream := stream } where
  list := hr.list.trans h.list
  changed := hr.changed.trans h.changed
  queued v hv := by
    rcases hr.queued v hv with hold | hsending | rfl
    · exact h.queued v hold
    · exact h.sending v hsending
    · exact ⟨list, hlist, by rw [h.list]⟩
  sending v hv := by
    rcases hr.sending v hv with hold | rfl
    · exact h.sending v hold
    · exact ⟨list, hlist, by rw [h.list]⟩
  holding := h.holding
  alive := h.alive

variable (tbl) in
structure Sound (s : HubList L V T × List L) : Prop where
  current : s.1.list ∈ s.2
  tasks : ∀ t ∈ s.1.tasks, TaskSound tbl s.1.list s.1.changed s.2 t
  fetched : ∀ v, s.1.phase.reply = some v → Was svc s.2 v
  table : s.1.table = tbl.empty ∨ ∃ l ∈ s.2, s.1.table = tbl.shown l

theorem sound_init (list : L) : Sound tbl (init tbl list, [list]) where
  current := List.mem_singleton.mpr rfl
  tasks _ h := absurd h List.not_mem_nil
  fetched _ h := by cases h
  table := .inl rfl

theorem Sound.shown {p : HubList L V T × List L} (h : Sound tbl p) : Shown tbl p :=
  ⟨fun t ht => (h.tasks t ht).alive, h.table⟩

/-- What every subscription sees of a change. -/
theorem stream_change (m : Message) (st : ListStream L V) :
    (ListStream.next svc st (.change m)).getD st =
      { st with
        list := svc.forward st.list m
        changed := if svc.announces m then st.changed + 1 else st.changed } := rfl

theorem stream_announce (h : st.changed ≠ 0) :
    (ListStream.next svc st .announce).getD st =
      { st with changed := st.changed - 1, unread := st.unread ++ [()] } := by
  unfold ListStream.next
  dsimp only
  rw [if_neg h]
  rfl

theorem TaskSound.change {list : L} {changed : Nat} {t : HubListTask L V T} (h : TaskSound tbl list changed past t)
    (m : Message) :
    TaskSound tbl (svc.forward list m) (if svc.announces m then changed + 1 else changed)
      (past ++ [svc.forward list m]) { t with stream := (ListStream.next svc t.stream (.change m)).getD t.stream } := by
  rw [stream_change]
  refine ⟨congrArg (svc.forward · m) h.list, ?_, fun v hv => (h.queued v hv).more _,
    fun v hv => (h.sending v hv).more _, fun table ht => ?_, h.alive⟩
  · show (if _ then t.stream.changed + 1 else t.stream.changed) = _
    rw [h.changed]
  · obtain ⟨l, hl, heq⟩ := h.holding table ht
    exact ⟨l, List.mem_append_left _ hl, heq⟩

theorem TaskSound.announce {list : L} {changed : Nat} {t : HubListTask L V T} (h : TaskSound tbl list changed past t)
    (hc : changed ≠ 0) :
    TaskSound tbl list (changed - 1) past
      { t with stream := (ListStream.next svc t.stream .announce).getD t.stream } := by
  rw [stream_announce (by rw [h.changed]; exact hc)]
  exact ⟨h.list, congrArg (· - 1) h.changed, h.queued, h.sending, h.holding, h.alive⟩

theorem atStream_cases {k : Nat} (h : s.atStream svc k e = some s') :
    ∃ t stream, s.tasks[k]? = some t ∧ ListStream.Step svc t.stream e stream ∧
      s' = { s with tasks := s.tasks.set k { t with stream := stream } } := by
  obtain ⟨t, ht, stream, hstream, rfl⟩ : ∃ t, s.tasks[k]? = some t ∧ ∃ stream,
      ListStream.next svc t.stream e = some stream ∧
        { s with tasks := s.tasks.set k { t with stream := stream } } = s' := by
    simpa [atStream, Option.bind_eq_some_iff] using h
  exact ⟨t, stream, ht, hstream, rfl⟩

theorem Sound.server (h : Sound tbl (s, past)) {k : Nat} (hs : s.atStream svc k e = some s')
    (hr : ∀ {st st' : ListStream L V}, ListStream.Step svc st e st' → Replied svc st st') :
    Sound tbl (s', past) := by
  obtain ⟨t, stream, ht, hstream, rfl⟩ := atStream_cases hs
  have htask := (h.tasks t (List.mem_of_getElem? ht)).stream h.current (hr hstream)
  exact ⟨h.current, forall_mem_set h.tasks htask, h.fetched, h.table⟩

/-- The task reads the snapshot that comes next. -/
theorem read_cases (h : Step tbl s .read s') :
    ∃ k t v rest, s.handle = some k ∧ s.tasks[k]? = some t ∧ t.holding = none ∧ t.stream.replies = v :: rest ∧
      s' = { s with
        tasks := s.tasks.set k (took t { t.stream with replies := rest, delivered := some v } (tbl.store v)) } := by
  obtain ⟨k, hk, h⟩ := Option.bind_eq_some_iff.mp h
  obtain ⟨t, ht, h⟩ := Option.bind_eq_some_iff.mp h
  split at h
  · cases h
  · next hfree =>
    obtain ⟨v, hv, h⟩ := Option.bind_eq_some_iff.mp h
    obtain ⟨stream, hstream, h⟩ := Option.bind_eq_some_iff.mp h
    cases h
    obtain ⟨v', rest, hr, rfl⟩ := deliver_cases hstream
    obtain rfl : v' = v := by
      rw [hr] at hv
      exact Option.some.inj hv
    have hholding : t.holding = none := by
      cases hh : t.holding with
      | none => rfl
      | some table => simp [hh] at hfree
    exact ⟨k, t, v', rest, hk, ht, hholding, hr, rfl⟩

theorem Sound.step (h : Sound tbl (s, past)) {e : HubListEvent} (hs : Step tbl s e s') :
    Sound tbl (s', lists s e s' past) := by
  cases e with
  | change m =>
    cases hs
    refine ⟨List.mem_append_right _ (List.mem_singleton.mpr rfl), fun t' ht' => ?_,
      fun v hv => (h.fetched v hv).more _, ?_⟩
    · obtain ⟨t, ht, rfl⟩ := List.mem_map.mp ht'
      exact (h.tasks t ht).change m
    · rcases h.table with htable | ⟨l, hl, htable⟩
      · exact .inl htable
      · exact .inr ⟨l, List.mem_append_left _ hl, htable⟩
  | announce =>
    unfold Step next at hs
    dsimp only at hs
    split at hs
    · cases hs
    · next hc =>
      cases hs
      refine ⟨h.current, fun t' ht' => ?_, h.fetched, h.table⟩
      obtain ⟨t, ht, rfl⟩ := List.mem_map.mp ht'
      exact (h.tasks t ht).announce hc
  | snapshot k => exact h.server hs replied_snapshot
  | recv k => exact h.server hs replied_recv
  | send k => exact h.server hs replied_send
  | fetch =>
    unfold Step next at hs
    dsimp only at hs
    split at hs
    · cases hs
      refine ⟨h.current, h.tasks, fun v hv => ?_, h.table⟩
      have hfetched : (if tbl.fetches then some (svc.reply s.list) else none) = some v := hv
      split at hfetched
      · cases hfetched
        exact ⟨s.list, h.current, rfl⟩
      · cases hfetched
    · cases hs
  | subscribe =>
    unfold Step next at hs
    dsimp only at hs
    split at hs
    · next reply hphase =>
      cases hs
      refine ⟨h.current, forall_mem_concat h.tasks ?_, fun v hv => h.fetched v ?_, h.table⟩
      · exact ⟨rfl, rfl, fun _ hv => absurd hv List.not_mem_nil, fun _ hv => (by cases hv),
          fun _ hv => (by cases hv), rfl⟩
      · rw [hphase]
        exact hv
    · cases hs
  | fail =>
    unfold Step next at hs
    dsimp only at hs
    split at hs
    · cases hs
      exact ⟨h.current, h.tasks, fun _ hv => (by cases hv), h.table⟩
    · cases hs
      exact ⟨h.current, h.tasks, fun _ hv => (by cases hv), h.table⟩
    · cases hs
  | replace =>
    unfold Step next at hs
    dsimp only at hs
    split at hs
    · cases hs
      exact ⟨h.current, h.tasks, fun _ hv => (by cases hv), h.table⟩
    · next reply n hphase =>
      obtain ⟨table, htable, rfl⟩ := Option.map_eq_some_iff.mp hs
      obtain ⟨l, hl, rfl⟩ := h.fetched reply (by rw [hphase]; rfl)
      rw [tbl.store_reply] at htable
      exact ⟨h.current, h.tasks, fun _ hv => (by cases hv), .inr ⟨l, hl, (Option.some.inj htable).symm⟩⟩
    · cases hs
  | spawn =>
    unfold Step next at hs
    dsimp only at hs
    split at hs
    · cases hs
      exact ⟨h.current, h.tasks, fun _ hv => (by cases hv), h.table⟩
    · cases hs
  | disconnect =>
    unfold Step next at hs
    dsimp only at hs
    split at hs
    · cases hs
      exact ⟨h.current, h.tasks, fun _ hv => (by cases hv), h.table⟩
    · cases hs
  | read =>
    obtain ⟨k, t, v, rest, -, ht, -, hr, rfl⟩ := read_cases hs
    have htask := h.tasks t (List.mem_of_getElem? ht)
    obtain ⟨l, hl, rfl⟩ := htask.queued v (by rw [hr]; exact List.mem_cons_self)
    rw [tbl.store_reply]
    refine ⟨h.current, forall_mem_set h.tasks ?_, h.fetched, h.table⟩
    refine ⟨htask.list, htask.changed, fun w hw => htask.queued w ?_, htask.sending, ?_, htask.alive⟩
    · rw [hr]
      exact List.mem_cons_of_mem _ hw
    · rintro table ⟨⟩
      exact ⟨l, hl, rfl⟩
  | write k =>
    obtain ⟨t, ht, hs⟩ := Option.bind_eq_some_iff.mp hs
    obtain ⟨table, htable, hs⟩ := Option.bind_eq_some_iff.mp hs
    cases hs
    have htask := h.tasks t (List.mem_of_getElem? ht)
    obtain ⟨l, hl, rfl⟩ := htask.holding table htable
    refine ⟨h.current, forall_mem_set h.tasks ?_, h.fetched, .inr ⟨l, hl, rfl⟩⟩
    exact ⟨htask.list, htask.changed, htask.queued, htask.sending, fun _ hv => (by cases hv), htask.alive⟩

/-! ## The task of the current connection -/

variable (tbl) in
/-- The table is the last snapshot the task has read, or will be when it writes what it holds. -/
structure Reflects (t : HubListTask L V T) (table : T) : Prop where
  written : t.holding = none → ∀ v, t.stream.delivered = some v → tbl.store v = some table
  held : ∀ held, t.holding = some held → ∃ v, t.stream.delivered = some v ∧ tbl.store v = some held

variable (tbl) in
structure Led (s : HubList L V T) : Prop where
  pending : ∀ n, s.phase.pending = some n → s.handle ≠ some n ∧
    ∃ t, s.tasks[n]? = some t ∧ t.stream.Inv svc ∧ t.holding = none ∧ t.stream.delivered = none
  running : ∀ k, s.handle = some k → ∃ t, s.tasks[k]? = some t ∧ t.stream.Inv svc ∧
    ((∀ n, s.phase ≠ .replaced n) → Reflects tbl t s.table)

theorem led_init (list : L) : Led tbl (init tbl list) :=
  ⟨fun _ h => (by cases h), fun _ h => (by cases h)⟩

theorem Reflects.stream {t : HubListTask L V T} {table : T} (h : Reflects tbl t table) {stream : ListStream L V}
    (hd : stream.delivered = t.stream.delivered) : Reflects tbl { t with stream := stream } table :=
  ⟨fun hh v hv => h.written hh v (hd.symm.trans hv), fun held hh => hd ▸ h.held held hh⟩

/-- A step that all subscriptions see. -/
theorem Led.atAll (h : Led tbl s) (hkeeps : ∀ st : ListStream L V, ListStream.KeepsUp svc st e)
    (hdelivered : ∀ st : ListStream L V, ((ListStream.next svc st e).getD st).delivered = st.delivered) (list : L)
    (changed : Nat) : Led tbl { s with list := list, changed := changed, tasks := HubList.atAll svc e s.tasks } := by
  have hinv : ∀ st : ListStream L V, st.Inv svc → ((ListStream.next svc st e).getD st).Inv svc := by
    intro st hst
    cases hn : ListStream.next svc st e with
    | none => exact hst
    | some st' => exact hst.step (hkeeps st) hn
  refine ⟨fun n hn => ?_, fun k hk => ?_⟩
  · obtain ⟨hne, t, ht, hst, hholding, hnone⟩ := h.pending n hn
    refine ⟨hne, { t with stream := (ListStream.next svc t.stream e).getD t.stream }, ?_, hinv _ hst, hholding,
      (hdelivered _).trans hnone⟩
    rw [HubList.atAll, List.getElem?_map, ht]
    rfl
  · obtain ⟨t, ht, hst, href⟩ := h.running k hk
    refine ⟨{ t with stream := (ListStream.next svc t.stream e).getD t.stream }, ?_, hinv _ hst,
      fun hphase => (href hphase).stream (hdelivered _)⟩
    rw [HubList.atAll, List.getElem?_map, ht]
    rfl

/-- The server takes a step of one subscription. -/
theorem Led.server (h : Led tbl s) {k : Nat} (hs : s.atStream svc k e = some s')
    (hr : ∀ {st st' : ListStream L V}, ListStream.Step svc st e st' → Replied svc st st')
    (hkeeps : s.handle = some k ∨ s.phase.pending = some k →
      ∀ t ∈ s.tasks[k]?, ListStream.KeepsUp svc t.stream e) : Led tbl s' := by
  obtain ⟨t, stream, ht, hstream, rfl⟩ := atStream_cases hs
  refine ⟨fun n hn => ?_, fun j hj => ?_⟩
  · obtain ⟨hne, t', ht', hst, hholding, hnone⟩ := h.pending n hn
    refine ⟨hne, ?_⟩
    by_cases hk : k = n
    · subst hk
      obtain rfl : t = t' := Option.some.inj (ht.symm.trans ht')
      exact ⟨_, getElem?_set_same ht _, hst.step (hkeeps (.inr hn) t ht) hstream, hholding,
        (hr hstream).delivered.trans hnone⟩
    · exact ⟨t', (List.getElem?_set_ne hk).trans ht', hst, hholding, hnone⟩
  · obtain ⟨t', ht', hst, href⟩ := h.running j hj
    by_cases hk : k = j
    · subst hk
      obtain rfl : t = t' := Option.some.inj (ht.symm.trans ht')
      exact ⟨_, getElem?_set_same ht _, hst.step (hkeeps (.inl hj) t ht) hstream,
        fun hphase => (href hphase).stream (hr hstream).delivered⟩
    · exact ⟨t', (List.getElem?_set_ne hk).trans ht', hst, href⟩

/-- The task of the handle goes on, and the one that is pending is another. -/
theorem Led.own (h : Led tbl s) {k : Nat} (hk : s.handle = some k) {t t' : HubListTask L V T}
    (ht : s.tasks[k]? = some t) {table : T} (hinv : t'.stream.Inv svc)
    (href : (∀ n, s.phase ≠ .replaced n) → Reflects tbl t' table) :
    Led tbl { s with tasks := s.tasks.set k t', table := table } := by
  refine ⟨fun n hn => ?_, fun j hj => ?_⟩
  · obtain ⟨hne, t₀, ht₀, hrest⟩ := h.pending n hn
    have hkn : k ≠ n := fun hkn => hne (hk.trans (congrArg some hkn))
    exact ⟨hne, t₀, (List.getElem?_set_ne hkn).trans ht₀, hrest⟩
  · obtain rfl : k = j := Option.some.inj (hk.symm.trans hj)
    exact ⟨t', getElem?_set_same ht t', hinv, href⟩

theorem Led.step (h : Led tbl s) (hsound : Sound tbl (s, past)) {e : HubListEvent} (hok : Timely svc (s, past) e)
    (hs : Step tbl s e s') : Led tbl s' := by
  cases e with
  | change m =>
    cases hs
    exact h.atAll (e := .change m) (fun _ => trivial) (fun _ => rfl) _ _
  | announce =>
    unfold Step next at hs
    dsimp only at hs
    split at hs
    · cases hs
    · cases hs
      refine h.atAll (e := .announce) (fun _ => trivial) (fun st => ?_) _ _
      unfold ListStream.next
      dsimp only
      split
      · rfl
      · rfl
  | snapshot k => exact h.server hs replied_snapshot fun _ _ _ => trivial
  | recv k => exact h.server hs replied_recv hok
  | send k => exact h.server hs replied_send fun _ _ _ => trivial
  | fetch =>
    unfold Step next at hs
    dsimp only at hs
    split at hs
    · next hphase =>
      cases hs
      refine ⟨fun _ hn => (by cases hn), fun k hk => ?_⟩
      obtain ⟨t, ht, hst, href⟩ := h.running k hk
      exact ⟨t, ht, hst, fun _ => href fun n hn => (by rw [hphase] at hn; cases hn)⟩
    · cases hs
  | subscribe =>
    unfold Step next at hs
    dsimp only at hs
    split at hs
    · next reply hphase =>
      cases hs
      refine ⟨fun n hn => ?_, fun k hk => ?_⟩
      · cases hn
        refine ⟨fun hk => ?_, _, getElem?_concat_some.mpr (.inr ⟨rfl, rfl⟩), ?_, rfl, rfl⟩
        · obtain ⟨t, ht, -⟩ := h.running _ hk
          exact absurd (List.getElem?_eq_some_iff.mp ht).1 (Nat.lt_irrefl _)
        · exact ⟨fun _ => rfl, fun ht => (by cases ht), fun _ ht => (by cases ht), fun ht => (by cases ht)⟩
      · obtain ⟨t, ht, hst, href⟩ := h.running k hk
        exact ⟨t, getElem?_concat_some.mpr (.inl ht), hst,
          fun _ => href fun n hn => (by rw [hphase] at hn; cases hn)⟩
    · cases hs
  | fail =>
    have hrunning : (∀ n, s.phase ≠ .replaced n) → Led tbl { s with phase := .connecting } := by
      intro hphase
      refine ⟨fun _ hn => (by cases hn), fun k hk => ?_⟩
      obtain ⟨t, ht, hst, href⟩ := h.running k hk
      exact ⟨t, ht, hst, fun _ => href hphase⟩
    unfold Step next at hs
    dsimp only at hs
    split at hs
    · next hphase =>
      cases hs
      exact hrunning fun n hn => (by rw [hphase] at hn; cases hn)
    · next hphase =>
      cases hs
      exact hrunning fun n hn => (by rw [hphase] at hn; cases hn)
    · cases hs
  | replace =>
    have hreplaced : ∀ n table, s.phase.pending = some n →
        Led tbl { s with phase := .replaced n, table := table } := by
      intro n table hpending
      refine ⟨fun n' hn' => ?_, fun k hk => ?_⟩
      · cases hn'
        exact h.pending n hpending
      · obtain ⟨t, ht, hst, -⟩ := h.running k hk
        exact ⟨t, ht, hst, fun hphase => absurd rfl (hphase n)⟩
    unfold Step next at hs
    dsimp only at hs
    split at hs
    · next n hphase =>
      cases hs
      exact hreplaced n s.table (by rw [hphase]; rfl)
    · next reply n hphase =>
      obtain ⟨table, -, rfl⟩ := Option.map_eq_some_iff.mp hs
      exact hreplaced n table (by rw [hphase]; rfl)
    · cases hs
  | spawn =>
    unfold Step next at hs
    dsimp only at hs
    split at hs
    · next n hphase =>
      cases hs
      refine ⟨fun _ hn => (by cases hn), fun k hk => ?_⟩
      cases hk
      obtain ⟨-, t, ht, hst, hholding, hnone⟩ := h.pending n (by rw [hphase]; rfl)
      refine ⟨t, ht, hst, fun _ => ⟨fun _ v hv => ?_, fun held hheld => ?_⟩⟩
      · rw [hnone] at hv
        cases hv
      · rw [hholding] at hheld
        cases hheld
    · cases hs
  | disconnect =>
    unfold Step next at hs
    dsimp only at hs
    split at hs
    · next hphase =>
      cases hs
      refine ⟨fun _ hn => (by cases hn), fun k hk => ?_⟩
      obtain ⟨t, ht, hst, href⟩ := h.running k hk
      exact ⟨t, ht, hst, fun _ => href fun n hn => (by rw [hphase] at hn; cases hn)⟩
    · cases hs
  | read =>
    obtain ⟨k, t, v, rest, hk, ht, -, hr, rfl⟩ := read_cases hs
    obtain ⟨t₀, ht₀, hst, -⟩ := h.running k hk
    obtain rfl : t = t₀ := Option.some.inj (ht.symm.trans ht₀)
    have hstep : ListStream.Step svc t.stream .deliver { t.stream with replies := rest, delivered := some v } := by
      unfold ListStream.Step ListStream.next
      dsimp only
      rw [hr]
    obtain ⟨l, -, rfl⟩ := (hsound.tasks t (List.mem_of_getElem? ht)).queued v (by rw [hr]; exact List.mem_cons_self)
    rw [tbl.store_reply]
    refine h.own hk ht (hst.step (e := .deliver) trivial hstep) fun _ => ⟨fun hnone => (by cases hnone), ?_⟩
    rintro held ⟨⟩
    exact ⟨_, rfl, tbl.store_reply l⟩
  | write k =>
    obtain ⟨t, ht, hs⟩ := Option.bind_eq_some_iff.mp hs
    obtain ⟨table, htable, hs⟩ := Option.bind_eq_some_iff.mp hs
    cases hs
    have hk : s.handle = some k := hok
    obtain ⟨t₀, ht₀, hst, href⟩ := h.running k hk
    obtain rfl : t = t₀ := Option.some.inj (ht.symm.trans ht₀)
    refine h.own hk ht hst fun hphase => ⟨fun _ v hv => ?_, fun held hheld => (by cases hheld)⟩
    obtain ⟨w, hw, hstore⟩ := (href hphase).held table htable
    have hvw : v = w := Option.some.inj (hv.symm.trans hw)
    rw [hvw]
    exact hstore

theorem Led.current (h : Led tbl s) (hsound : Sound tbl (s, past)) : Current tbl (s, past) := by
  rintro ⟨hphase, k, t, hk, ht, hholding, hlive, hdrained⟩
  obtain ⟨t₀, ht₀, hst, href⟩ := h.running k hk
  obtain rfl : t = t₀ := Option.some.inj (ht.symm.trans ht₀)
  have hlist := (hsound.tasks t (List.mem_of_getElem? ht)).list
  have hdelivered := hst.converges.2 hdrained
  rw [hlist] at hdelivered
  have hstore := (href hphase).written hholding _ hdelivered
  rw [tbl.store_reply] at hstore
  exact (Option.some.inj hstore).symm

/-- One list of the hub. -/
theorem hubList_follows (list : L) {tr : List (HubListEvent × (HubList L V T × List L))}
    (hrun : Exec (ghost (Step tbl) lists) (init tbl list, [list]) tr) :
    Always (Shown tbl) (init tbl list, [list]) tr ∧
      (StepsOk (Timely svc) (init tbl list, [list]) tr → Always (Current tbl) (init tbl list, [list]) tr) := by
  have hsound : ∀ (p : HubList L V T × List L) e p', Sound tbl p → ghost (Step tbl) lists p e p' →
      Sound tbl p' := by
    rintro p e ⟨s', past'⟩ hp ⟨hs, hpast⟩
    have hnext := hp.step hs
    rw [← hpast] at hnext
    exact hnext
  constructor
  · have hall : Always (Sound tbl) (init tbl list, [list]) tr := hrun.invariant hsound (sound_init list)
    exact hall.imp fun _ hp => hp.shown
  · intro hok
    have hstep : ∀ (p : HubList L V T × List L) e p', Sound tbl p ∧ Led tbl p.1 → Timely svc p e →
        ghost (Step tbl) lists p e p' → Sound tbl p' ∧ Led tbl p'.1 :=
      fun p e p' hp ht hs => ⟨hsound p e p' hp.1 hs, hp.2.step hp.1 ht hs.1⟩
    have hall : Always (fun p => Sound tbl p ∧ Led tbl p.1) (init tbl list, [list]) tr :=
      hrun.always hstep ⟨sound_init list, led_init list⟩ hok
    exact hall.imp fun _ hp => hp.2.current hp.1

end

/-- **The lists of the hub.**  Whatever the order of steps and however often the hub reconnects, the
devices and the dongles it shows are ones that the server had, and the keys are those of the devices
shown.  Where the subscription keeps up and no aborted task writes late, a list is the server's once its
task has nothing under way. -/
theorem hubLists_follow (devices : DeviceList) (dongles : List (DongleInfo × ManagerId))
    {trd : List (HubListEvent × (HubList DeviceList (List Proto.Device) HubDevices × List DeviceList))}
    {trg : List (HubListEvent × (HubList (List (DongleInfo × ManagerId)) (List Proto.Dongle) (List DongleInfo) ×
      List (List (DongleInfo × ManagerId))))}
    (hd : Exec (ghost (Step deviceTable) lists) (init deviceTable devices, [devices]) trd)
    (hg : Exec (ghost (Step dongleTable) lists) (init dongleTable dongles, [dongles]) trg) :
    (Always (fun p => Shown deviceTable p ∧ p.1.table.Agrees) (init deviceTable devices, [devices]) trd ∧
        (StepsOk (Timely deviceListStream) (init deviceTable devices, [devices]) trd →
          Always (Current deviceTable) (init deviceTable devices, [devices]) trd)) ∧
      Always (Shown dongleTable) (init dongleTable dongles, [dongles]) trg ∧
        (StepsOk (Timely dongleListStream) (init dongleTable dongles, [dongles]) trg →
          Always (Current dongleTable) (init dongleTable dongles, [dongles]) trg) := by
  obtain ⟨hshown, hcurrent⟩ := hubList_follows devices hd
  refine ⟨⟨hshown.imp fun p hp => ⟨hp, ?_⟩, hcurrent⟩, hubList_follows dongles hg⟩
  rcases hp.table with htable | ⟨l, -, htable⟩
  · rw [htable]
    exact HubDevices.agrees_replaceDevices []
  · rw [htable]
    exact HubDevices.agrees_replaceDevices _

/-! ## One connection -/

def hubListRun {L V T : Type} {svc : ListService L V} (tbl : HubTable svc T) (list : L) (es : List HubListEvent) :
    List (HubListEvent × (HubList L V T × List L)) :=
  trace (ghostStep (next tbl) lists) (init tbl list, [list]) es

theorem hubListRun_exec {L V T : Type} {svc : ListService L V} (tbl : HubTable svc T) (list : L)
    (es : List HubListEvent) : Exec (ghost (Step tbl) lists) (init tbl list, [list]) (hubListRun tbl list es) :=
  exec_ghostStep (fun _ _ _ h => h) _ _ es

/-- The hub connects, and is shown one change. -/
def connected (m : Message) : List HubListEvent :=
  [.fetch, .subscribe, .replace, .spawn, .snapshot 0, .read, .write 0, .change m, .announce, .recv 0, .snapshot 0,
    .send 0, .read, .write 0]

theorem hubLists_follow_connected :
    (Always (fun p => Shown deviceTable p ∧ p.1.table.Agrees) (init deviceTable [], [[]])
          (hubListRun deviceTable [] (connected (.connect Proto.unnamedDevice none))) ∧
        (StepsOk (Timely deviceListStream) (init deviceTable [], [[]])
            (hubListRun deviceTable [] (connected (.connect Proto.unnamedDevice none))) →
          Always (Current deviceTable) (init deviceTable [], [[]])
            (hubListRun deviceTable [] (connected (.connect Proto.unnamedDevice none))))) ∧
      Always (Shown dongleTable) (init dongleTable [], [[]])
          (hubListRun dongleTable [] (connected (.dongleConnect ListStream.busyDongle 0))) ∧
        (StepsOk (Timely dongleListStream) (init dongleTable [], [[]])
            (hubListRun dongleTable [] (connected (.dongleConnect ListStream.busyDongle 0))) →
          Always (Current dongleTable) (init dongleTable [], [[]])
            (hubListRun dongleTable [] (connected (.dongleConnect ListStream.busyDongle 0)))) :=
  hubLists_follow [] [] (hubListRun_exec deviceTable [] _) (hubListRun_exec dongleTable [] _)

end HubList

end OdysseyHub
