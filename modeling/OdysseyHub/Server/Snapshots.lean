import OdysseyHub.Server.Teardown

/-!
# Snapshots of a dongle (device_tasks.rs, the hub manager)

A hub manager compares each snapshot with `hub_devices`, connects what is new, and sends
`RemoveEventsDevice` for what is gone to the UUID it wrote down in `hub_device_uuids`.
`SnapshotHistory` records the snapshot at hand, what was tracked before it, what
connected since, and for each address the order of its link sends.

    Always Reconciled (Sys.init, …) tr                     (Sys.reconciled_always)

`Move` is the step relation of one manager; `Tracks` its invariant, with `Placed` for
the set of addresses and `Fits` for the sends of one of them.
-/

namespace OdysseyHub

open HandlerTask Slots Transition

/-! ## The history of a manager -/

/-- What happens to an address: its `AddEventsDevice` and the `RemoveEventsDevice` after it,
with the UUID they go to, and that it leaves `hub_devices`. -/
inductive LinkEvent
  | add (u : Uuid)
  | drop
  | remove (u : Uuid)
  deriving DecidableEq, Repr

inductive LinkState
  | free
  | added (u : Uuid)
  | dropped (u : Uuid)
  deriving DecidableEq, Repr

/-- The order link events may come in: no second `add` before a `drop` or a `remove`, and a
`remove` once after its `add`, to the same UUID. -/
def LinkState.next : LinkState → LinkEvent → Option LinkState
  | .added u, .drop => some (.dropped u)
  | .added u, .remove v => if v = u then some .free else none
  | .dropped u, .remove v => if v = u then some .free else none
  | .free, .add u => some (.added u)
  | .dropped _, .add u => some (.added u)
  | _, _ => none

/-- The state a log of link events leads to, if it is in order. -/
def linkState (log : List LinkEvent) : Option LinkState := log.foldlM LinkState.next .free

structure SnapshotHistory where
  /-- the last snapshot, and `hub_devices` when it came -/
  snapshot : Finset Uuid
  before : Finset Uuid
  /-- the addresses that connected since -/
  connected : Finset Uuid
  log : Uuid → List LinkEvent

namespace SnapshotHistory

def empty : SnapshotHistory := ⟨∅, ∅, ∅, fun _ => []⟩

def push (g : SnapshotHistory) (addr : Uuid) (e : LinkEvent) : SnapshotHistory :=
  { g with log := Function.update g.log addr (g.log addr ++ [e]) }

/-- `RemoveEventsDevice` to the entry of `u`, if there is one. -/
def pushRemoval (g : SnapshotHistory) (s : Sys) (addr u : Uuid) : SnapshotHistory :=
  if (s.deviceHandles.lookup u).isSome then g.push addr (.remove u) else g

/-- The history of the manager `t` after one of its steps. -/
def next (s : Sys) (t : ManagerTask) (g : SnapshotHistory) (e : ManagerEvent) : SnapshotHistory :=
  match e, t.state with
  | .snapshot devices _, _ =>
    { g with snapshot := devices.toFinset, before := t.hubDevices, connected := ∅ }
  | .probe .., .adding _ (addr :: _) => { g with connected := Insert.insert addr g.connected }
  | .merge, .checking a => g.push a.addr (.add a.probe.uuid)
  | .queue, .queueing a _ => g.push a.addr (.add a.probe.uuid)
  | .untrack, .dropping (addr :: _) => g.push addr .drop
  | .removeEvents, .unlinked _ addr u => g.pushRemoval s addr u
  | .clean, .cleaning (addr :: _) => g.pushRemoval s addr (t.uuidOf addr)
  | _, _ => g

/-- What `hub_devices` must come to: the addresses of the snapshot that were tracked before
it or connected since. -/
def settled (g : SnapshotHistory) : Finset Uuid := g.snapshot ∩ (g.before ∪ g.connected)

theorem push_linkState (g : SnapshotHistory) (a addr : Uuid) (e : LinkEvent) :
    linkState ((g.push a e).log addr) =
      if addr = a then (linkState (g.log a)).bind (·.next e) else linkState (g.log addr) := by
  simp only [push, Function.update_apply]
  split
  · simp [linkState, List.foldlM_append]
  · rfl

end SnapshotHistory

/-- The histories of the managers after a step. -/
def snapshotHistories (s : Sys) (e : Event) (_ : Sys) (g : ManagerId → SnapshotHistory) :
    ManagerId → SnapshotHistory :=
  match e with
  | .manager m e =>
    match s.managers[m]? with
    | some t => Function.update g m ((g m).next s t e)
    | none => g
  | _ => g

/-- The manager has processed its snapshots: it waits for the next one, or is on its way
back to that or out of its loop. -/
def ManagerState.afterSnapshot : ManagerState → Bool
  | .waiting _ | .updating _ | .unregistering => true
  | _ => false

/-- Every manager is reconciled with its snapshots: `hub_devices` is what the last one left,
`hub_device_uuids` has the same keys, and the link events of each address came in order. -/
def Reconciled (x : Sys × (ManagerId → SnapshotHistory)) : Prop :=
  ∀ (m : ManagerId) (t : ManagerTask), x.1.managers[m]? = some t →
    (t.state.afterSnapshot = true → t.hubDevices = (x.2 m).settled) ∧
    t.hubDeviceUuids.keys = t.hubDevices ∧
    ∀ addr, (linkState ((x.2 m).log addr)).isSome = true

/-! ## The steps of a manager -/

/-- The states in which a manager is neither in the middle of a snapshot nor behind its loop. -/
def ManagerState.resting : ManagerState → Bool
  | .reading | .registering _ | .requesting | .waiting _ | .updating _ | .unregistering => true
  | _ => false

/-- What a step does to the addresses of a manager. -/
inductive Move (t : ManagerTask) : ManagerEvent → ManagerTask → Prop
  | rest {e : ManagerEvent} {t' : ManagerTask} : t.state.resting = true → t'.state.resting = true →
      t'.hubDevices = t.hubDevices → t'.hubDeviceUuids = t.hubDeviceUuids →
      (∀ devices added, e ≠ .snapshot devices added) → Move t e t'
  | snapshot {initial : Option (List Uuid)} {devices added : List Uuid} {state : ManagerState} :
      t.state = .waiting initial → added.Nodup →
      added.toFinset = devices.toFinset \ t.hubDevices →
      state = .refreshing devices.toFinset added ∨ state = .adding devices.toFinset added →
      Move t (.snapshot devices added) { t with state := state }
  | refresh {bonds : Option (List (Uuid × String))} {newSet : Finset Uuid} {added : List Uuid} :
      t.state = .refreshing newSet added →
      Move t (.refresh bonds) { t with state := .adding newSet added }
  | connectFailed {newSet : Finset Uuid} {addr : Uuid} {rest : List Uuid} :
      t.state = .adding newSet (addr :: rest) →
      Move t .connectFailed { t with state := .adding newSet rest }
  | probe {newSet : Finset Uuid} {addr : Uuid} {rest : List Uuid} {session : Nat} {uuid : Option Uuid}
      {version : Option (Version × Version)} {productId : Option UInt16} {name : Option String}
      (p : MuxProbe) : t.state = .adding newSet (addr :: rest) →
      Move t (.probe session uuid version productId name)
        { t with state := .probed ⟨newSet, rest, addr, p⟩ }
  | lock {a : Adding} : t.state = .probed a → Move t .lock { t with state := .checking a }
  | spawn {a : Adding} (h : HandlerId) : t.state = .checking a →
      Move t .spawn { t with state := .creating a h }
  | merge {a : Adding} : t.state = .checking a →
      Move t .merge { HubManager.track t a with state := .adding a.snapshot a.rest }
  | insert {a : Adding} {h : HandlerId} : t.state = .creating a h →
      Move t .insert { HubManager.track t a with state := .connecting a h }
  | connect {a : Adding} {h : HandlerId} : t.state = .connecting a h →
      Move t .connect { t with state := .queueing a h }
  | queue {a : Adding} {h : HandlerId} : t.state = .queueing a h →
      Move t .queue { t with state := .adding a.snapshot a.rest }
  | removed {newSet : Finset Uuid} {order : List Uuid} : t.state = .adding newSet [] → order.Nodup →
      order.toFinset = t.hubDevices \ newSet →
      Move t (.removed order) { t with state := .dropping order }
  | untrack {addr : Uuid} {rest : List Uuid} : t.state = .dropping (addr :: rest) →
      Move t .untrack
        { t with
          hubDevices := t.hubDevices.erase addr
          hubDeviceUuids := t.hubDeviceUuids.erase addr
          state := .unlinked rest addr (t.uuidOf addr) }
  | removeEvents {rest : List Uuid} {addr u : Uuid} : t.state = .unlinked rest addr u →
      Move t .removeEvents { t with state := .dropping rest }
  | rebond {bonds : Option (List (Uuid × String))} (bonded : List Uuid) : t.state = .dropping [] →
      Move t (.rebond bonds) { t with state := .updating bonded }
  | unregister {order : List Uuid} : t.state = .unregistering → order.Nodup →
      order.toFinset = t.hubDevices → Move t (.unregister order) { t with state := .cleaning order }
  | clean {addr : Uuid} {rest : List Uuid} : t.state = .cleaning (addr :: rest) →
      Move t .clean { t with state := .cleaning rest }
  | finish : t.state = .cleaning [] → Move t .finish { t with state := .done }
  | abort : Move t .abort { t with state := .aborted }

namespace Sys

variable {s s' : Sys}

theorem manager_move {m : ManagerId} {t : ManagerTask} {e : ManagerEvent}
    (hm : s.managers[m]? = some t) (h : HubManager.Stepped s m t e s') :
    ∃ t', s'.managers = s.managers.set m t' ∧ Move t e t' := by
  cases h with
  | listed hst | unlisted hst | register hst | initial hst | receiveError hst | update hst =>
    exact ⟨_, rfl, .rest (by rw [hst]; rfl) rfl rfl rfl (by simp)⟩
  | clearBonds hst =>
    have hr : t.state.resting = true := by rw [hst]; rfl
    exact ⟨t, (put_self hm).symm, .rest hr hr rfl rfl (by simp)⟩
  | refreshing hst _ hnodup hadded => exact ⟨_, rfl, .snapshot hst hnodup hadded (.inl rfl)⟩
  | adding hst _ hnodup hadded => exact ⟨_, rfl, .snapshot hst hnodup hadded (.inr rfl)⟩
  | refreshed hst | unrefreshed hst => exact ⟨_, rfl, .refresh hst⟩
  | connectFailed hst => exact ⟨_, rfl, .connectFailed hst⟩
  | probe hst => exact ⟨_, rfl, .probe _ hst⟩
  | lock hst => exact ⟨_, rfl, .lock hst⟩
  | merge hst => exact ⟨_, rfl, .merge hst⟩
  | spawn hst => exact ⟨_, rfl, .spawn _ hst⟩
  | insert hst => exact ⟨_, rfl, .insert hst⟩
  | connect hst => exact ⟨_, rfl, .connect hst⟩
  | queue hst => exact ⟨_, rfl, .queue hst⟩
  | removed hst hnodup horder => exact ⟨_, rfl, .removed hst hnodup horder⟩
  | untrack hst => exact ⟨_, rfl, .untrack hst⟩
  | removeEvents hst => exact ⟨_, HubManager.sendRemoval_managers _ _, .removeEvents hst⟩
  | rebonded hst | unrebonded hst => exact ⟨_, rfl, .rebond _ hst⟩
  | unregister hst hnodup horder => exact ⟨_, rfl, .unregister hst hnodup horder⟩
  | clean hst => exact ⟨_, HubManager.sendRemoval_managers _ _, .clean hst⟩
  | finish hst => exact ⟨_, rfl, .finish hst⟩
  | abort => exact ⟨_, rfl, .abort⟩

end Sys

/-! ## The invariant of a manager -/

namespace SnapshotHistory

/-- Addresses still to be connected: each once, in the snapshot and not tracked. -/
def ToCome (g : SnapshotHistory) (devices : Finset Uuid) (rest : List Uuid) : Prop :=
  rest.Nodup ∧ ∀ a ∈ rest, a ∈ g.snapshot ∧ a ∉ devices

/-- How far `hub_devices` is on its way to the snapshot. -/
def Placed (g : SnapshotHistory) (devices : Finset Uuid) : ManagerState → Prop
  | .refreshing newSet rest | .adding newSet rest =>
    newSet = g.snapshot ∧ devices = g.before ∪ g.connected ∧ g.ToCome devices rest
  | .probed a | .checking a | .creating a _ =>
    a.snapshot = g.snapshot ∧ devices = g.before ∪ g.connected.erase a.addr ∧
      a.addr ∈ g.connected ∧ g.ToCome devices (a.addr :: a.rest)
  | .connecting a _ | .queueing a _ =>
    a.snapshot = g.snapshot ∧ devices = g.before ∪ g.connected ∧ g.ToCome devices a.rest
  | .dropping removed | .unlinked removed _ _ =>
    devices = g.settled ∪ removed.toFinset ∧ removed.Nodup ∧ ∀ a ∈ removed, a ∉ g.snapshot
  | .cleaning rest => devices = g.settled ∧ rest.Nodup ∧ ∀ a ∈ rest, a ∈ devices
  | .aborted => True
  | _ => devices = g.settled

theorem placed_resting {g : SnapshotHistory} {devices : Finset Uuid} {st : ManagerState}
    (h : st.resting = true) : g.Placed devices st ↔ devices = g.settled := by
  cases st <;> first | exact Iff.rfl | cases h

theorem next_resting {s : Sys} {t : ManagerTask} {g : SnapshotHistory} {e : ManagerEvent}
    (h : t.state.resting = true) (he : ∀ devices added, e ≠ .snapshot devices added) :
    g.next s t e = g := by
  cases hst : t.state <;> rw [hst] at h <;> cases h
  all_goals
    cases e <;> simp only [next, hst]
    exact absurd rfl (he _ _)

end SnapshotHistory

/-- The address is not linked. -/
def LinkState.Free (st : LinkState) : Prop := ∀ u, st ≠ .added u

theorem LinkState.Free.add {st : LinkState} (h : st.Free) (u : Uuid) :
    st.next (.add u) = some (.added u) := by
  cases st with
  | added v => exact absurd rfl (h v)
  | free | dropped v => rfl

namespace ManagerTask

/-- A tracked address is linked under its recorded UUID, the others are not. -/
def Holds (t : ManagerTask) (addr : Uuid) (st : LinkState) : Prop :=
  match t.hubDeviceUuids.lookup addr with
  | some u => st = .added u
  | none => st.Free

/-- Where an address is in its log, in the state the manager is in. -/
def Fits (t : ManagerTask) (addr : Uuid) (st : LinkState) : Prop :=
  match t.state with
  | .connecting a _ | .queueing a _ =>
    -- tracked, and its `AddEventsDevice` still to be queued
    if addr = a.addr then st.Free ∧ t.hubDeviceUuids.lookup addr = some a.probe.uuid
    else t.Holds addr st
  | .unlinked _ a u =>
    if addr = a then st = .dropped u ∧ t.hubDeviceUuids.lookup addr = none else t.Holds addr st
  | .cleaning rest => addr ∈ rest → t.Holds addr st
  | .done | .aborted => True
  | _ => t.Holds addr st

variable {t t' : ManagerTask}

theorem holds_some {addr u : Uuid} {st : LinkState} (h : t.hubDeviceUuids.lookup addr = some u) :
    t.Holds addr st ↔ st = .added u := by
  simp only [Holds, h]

theorem holds_none {addr : Uuid} {st : LinkState} (h : t.hubDeviceUuids.lookup addr = none) :
    t.Holds addr st ↔ st.Free := by
  simp only [Holds, h]

theorem holds_congr {addr : Uuid} {st : LinkState}
    (h : t'.hubDeviceUuids.lookup addr = t.hubDeviceUuids.lookup addr) :
    t'.Holds addr st ↔ t.Holds addr st := by
  simp only [Holds, h]

theorem fits_resting {addr : Uuid} {st : LinkState} (h : t.state.resting = true) :
    t.Fits addr st ↔ t.Holds addr st := by
  unfold Fits
  cases hst : t.state <;> first | exact Iff.rfl | (rw [hst] at h; cases h)

end ManagerTask

structure SnapshotHistory.Tracks (g : SnapshotHistory) (t : ManagerTask) : Prop where
  keys : t.hubDeviceUuids.keys = t.hubDevices
  placed : g.Placed t.hubDevices t.state
  fits : ∀ addr, ∃ st, linkState (g.log addr) = some st ∧ t.Fits addr st

namespace SnapshotHistory.Tracks

variable {g : SnapshotHistory} {s : Sys} {t t' : ManagerTask} {e : ManagerEvent}

theorem lookup_none (T : g.Tracks t) {addr : Uuid} (h : addr ∉ t.hubDevices) :
    t.hubDeviceUuids.lookup addr = none := by
  rw [Finmap.lookup_eq_none, ← Finmap.mem_keys, T.keys]
  exact h

theorem lookup_some (T : g.Tracks t) {addr : Uuid} (h : addr ∈ t.hubDevices) :
    t.hubDeviceUuids.lookup addr = some (t.uuidOf addr) := by
  rw [← T.keys, Finmap.mem_keys, Finmap.mem_iff] at h
  obtain ⟨u, hu⟩ := h
  rw [ManagerTask.uuidOf, hu]
  rfl

/-- The manager goes on to another state; addresses and log are left alone. -/
theorem goto (T : g.Tracks t) {state : ManagerState} (hp : g.Placed t.hubDevices state)
    (hf : ∀ addr st, t.Fits addr st → { t with state := state }.Fits addr st) :
    g.Tracks { t with state := state } where
  keys := T.keys
  placed := hp
  fits addr := by
    obtain ⟨st, hst, hfit⟩ := T.fits addr
    exact ⟨st, hst, hf addr st hfit⟩

/-- From a state to one with the same expectation of every address. -/
theorem goto_same (T : g.Tracks t) {state : ManagerState} (hp : g.Placed t.hubDevices state)
    (h : ∀ addr st, t.Fits addr st ↔ t.Holds addr st)
    (h' : ∀ addr st, { t with state := state }.Fits addr st ↔ t.Holds addr st) :
    g.Tracks { t with state := state } :=
  T.goto hp fun addr st hf => (h' addr st).mpr ((h addr st).mp hf)

/-- A link event of `a` alone. -/
theorem push_fits (T : g.Tracks t) {a : Uuid} {l : LinkEvent} {st st' : LinkState}
    (hst : linkState (g.log a) = some st) (hn : st.next l = some st') (ha : t'.Fits a st')
    (ho : ∀ addr st, addr ≠ a → t.Fits addr st → t'.Fits addr st) (addr : Uuid) :
    ∃ st, linkState ((g.push a l).log addr) = some st ∧ t'.Fits addr st := by
  rw [push_linkState]
  by_cases h : addr = a
  · subst h
    rw [if_pos rfl, hst]
    exact ⟨st', hn, ha⟩
  · rw [if_neg h]
    obtain ⟨st₀, h₀, hf⟩ := T.fits addr
    exact ⟨st₀, h₀, ho addr st₀ h hf⟩

theorem track_lookup (t : ManagerTask) (a : Adding) (addr : Uuid) :
    (HubManager.track t a).hubDeviceUuids.lookup addr =
      if addr = a.addr then some a.probe.uuid else t.hubDeviceUuids.lookup addr := by
  unfold HubManager.track
  split
  · next h => subst h; exact Finmap.lookup_insert _
  · next h => exact Finmap.lookup_insert_of_ne _ h

theorem track_keys (T : g.Tracks t) (a : Adding) :
    (HubManager.track t a).hubDeviceUuids.keys = (HubManager.track t a).hubDevices := by
  have hk := T.keys
  ext addr
  rw [Finmap.mem_keys]
  simp only [HubManager.track]
  rw [Finmap.mem_insert, Finset.mem_insert, ← hk, Finmap.mem_keys]

/-- `hub_devices` with the address at hand tracked. -/
theorem placed_track {a : Adding} {devices : Finset Uuid}
    (hp : a.snapshot = g.snapshot ∧ devices = g.before ∪ g.connected.erase a.addr ∧
      a.addr ∈ g.connected ∧ g.ToCome devices (a.addr :: a.rest)) :
    a.snapshot = g.snapshot ∧ Insert.insert a.addr devices = g.before ∪ g.connected ∧
      g.ToCome (Insert.insert a.addr devices) a.rest := by
  obtain ⟨hs, hd, hc, hnd, hmem⟩ := hp
  obtain ⟨hnot, hnd'⟩ := List.nodup_cons.mp hnd
  refine ⟨hs, ?_, hnd', fun b hb => ?_⟩
  · rw [hd, ← Finset.union_insert, Finset.insert_erase hc]
  · obtain ⟨hsn, hno⟩ := hmem b (List.mem_cons_of_mem _ hb)
    refine ⟨hsn, fun hin => ?_⟩
    obtain rfl | hin := Finset.mem_insert.mp hin
    · exact hnot hb
    · exact hno hin

theorem snapshot (T : g.Tracks t) {initial : Option (List Uuid)} {devices added : List Uuid}
    {state : ManagerState} (hst : t.state = .waiting initial) (hnd : added.Nodup)
    (hadd : added.toFinset = devices.toFinset \ t.hubDevices)
    (hs : state = .refreshing devices.toFinset added ∨ state = .adding devices.toFinset added) :
    (g.next s t (.snapshot devices added)).Tracks { t with state := state } := by
  have hcome : SnapshotHistory.ToCome
      { g with snapshot := devices.toFinset, before := t.hubDevices, connected := ∅ } t.hubDevices
      added := by
    refine ⟨hnd, fun a ha => ?_⟩
    rw [← List.mem_toFinset, hadd, Finset.mem_sdiff] at ha
    exact ha
  have hfits : ∀ addr st, t.Fits addr st ↔ t.Holds addr st := fun addr st =>
    ManagerTask.fits_resting (by rw [hst]; rfl)
  refine ⟨T.keys, ?_, fun addr => ?_⟩
  · obtain rfl | rfl := hs <;>
      exact ⟨rfl, (Finset.union_empty t.hubDevices).symm, hcome⟩
  · obtain ⟨st, hlog, hf⟩ := T.fits addr
    refine ⟨st, hlog, ?_⟩
    obtain rfl | rfl := hs <;> exact (hfits addr st).mp hf

theorem probe (T : g.Tracks t) {newSet : Finset Uuid} {addr : Uuid} {rest : List Uuid}
    (p : MuxProbe) (hst : t.state = .adding newSet (addr :: rest)) :
    Tracks { g with connected := Insert.insert addr g.connected }
      { t with state := .probed ⟨newSet, rest, addr, p⟩ } := by
  have hp := T.placed
  rw [hst] at hp
  obtain ⟨hnew, hdev, hcome⟩ := hp
  have hno : addr ∉ g.connected := by
    have := (hcome.2 addr List.mem_cons_self).2
    rw [hdev, Finset.mem_union, not_or] at this
    exact this.2
  refine ⟨T.keys, ?_, fun addr' => ?_⟩
  · refine ⟨hnew, ?_, Finset.mem_insert_self _ _, hcome⟩
    rw [Finset.erase_insert hno]
    exact hdev
  · obtain ⟨st, hlog, hf⟩ := T.fits addr'
    refine ⟨st, hlog, ?_⟩
    simp only [ManagerTask.Fits, hst] at hf
    exact hf

/-- The handler is there: it is sent the events device, and the address is tracked. -/
theorem merge (T : g.Tracks t) {a : Adding} (hst : t.state = .checking a) :
    Tracks (g.push a.addr (.add a.probe.uuid))
      { HubManager.track t a with state := .adding a.snapshot a.rest } := by
  have hp := T.placed
  rw [hst] at hp
  have hnot : a.addr ∉ t.hubDevices := (hp.2.2.2.2 a.addr List.mem_cons_self).2
  obtain ⟨st, hlog, hf⟩ := T.fits a.addr
  simp only [ManagerTask.Fits, hst] at hf
  have hfree : st.Free := (ManagerTask.holds_none (T.lookup_none hnot)).mp hf
  refine ⟨track_keys T a, placed_track hp, ?_⟩
  refine push_fits T hlog (hfree.add _) ?_ fun addr st' hne hf' => ?_
  · exact (ManagerTask.holds_some ((track_lookup t a a.addr).trans (if_pos rfl))).mpr rfl
  · simp only [ManagerTask.Fits, hst] at hf'
    exact (ManagerTask.holds_congr ((track_lookup t a addr).trans (if_neg hne))).mpr hf'

/-- There is none: the address is tracked, its `AddEventsDevice` follows. -/
theorem insert (T : g.Tracks t) {a : Adding} {h : HandlerId} (hst : t.state = .creating a h) :
    Tracks g { HubManager.track t a with state := .connecting a h } := by
  have hp := T.placed
  rw [hst] at hp
  have hnot : a.addr ∉ t.hubDevices := (hp.2.2.2.2 a.addr List.mem_cons_self).2
  refine ⟨track_keys T a, placed_track hp, fun addr => ?_⟩
  obtain ⟨st, hlog, hf⟩ := T.fits addr
  refine ⟨st, hlog, ?_⟩
  simp only [ManagerTask.Fits, hst] at hf ⊢
  split
  · next ha =>
    subst ha
    exact ⟨(ManagerTask.holds_none (T.lookup_none hnot)).mp hf, (track_lookup t a a.addr).trans (if_pos rfl)⟩
  · next ha => exact (ManagerTask.holds_congr ((track_lookup t a addr).trans (if_neg ha))).mpr hf

theorem queue (T : g.Tracks t) {a : Adding} {h : HandlerId} (hst : t.state = .queueing a h) :
    Tracks (g.push a.addr (.add a.probe.uuid)) { t with state := .adding a.snapshot a.rest } := by
  have hp := T.placed
  rw [hst] at hp
  obtain ⟨st, hlog, hf⟩ := T.fits a.addr
  simp only [ManagerTask.Fits, hst, if_true] at hf
  refine ⟨T.keys, hp, ?_⟩
  refine push_fits T hlog (hf.1.add _) ?_ fun addr st' hne hf' => ?_
  · exact (ManagerTask.holds_some hf.2).mpr rfl
  · simp only [ManagerTask.Fits, hst, if_neg hne] at hf'
    exact hf'

theorem removed (T : g.Tracks t) {newSet : Finset Uuid} {order : List Uuid}
    (hst : t.state = .adding newSet []) (hnd : order.Nodup)
    (hord : order.toFinset = t.hubDevices \ newSet) : g.Tracks { t with state := .dropping order } := by
  have hp := T.placed
  rw [hst] at hp
  obtain ⟨hnew, hdev, -⟩ := hp
  refine T.goto_same ⟨?_, hnd, fun a ha => ?_⟩ (fun addr st => ?_) fun _ _ => Iff.rfl
  · rw [hord, hnew, SnapshotHistory.settled, ← hdev]
    ext a
    simp only [Finset.mem_union, Finset.mem_inter, Finset.mem_sdiff]
    tauto
  · rw [← List.mem_toFinset, hord, hnew, Finset.mem_sdiff] at ha
    exact ha.2
  · simp only [ManagerTask.Fits, hst]

theorem untrack (T : g.Tracks t) {addr : Uuid} {rest : List Uuid}
    (hst : t.state = .dropping (addr :: rest)) :
    Tracks (g.push addr .drop)
      { t with
        hubDevices := t.hubDevices.erase addr
        hubDeviceUuids := t.hubDeviceUuids.erase addr
        state := .unlinked rest addr (t.uuidOf addr) } := by
  have hp := T.placed
  rw [hst] at hp
  obtain ⟨hdev, hnd, hout⟩ := hp
  obtain ⟨hnot, hnd'⟩ := List.nodup_cons.mp hnd
  have hmem : addr ∈ t.hubDevices := by rw [hdev]; simp
  have hset : addr ∉ g.settled := fun hin =>
    hout addr List.mem_cons_self (Finset.mem_inter.mp hin).1
  obtain ⟨st, hlog, hf⟩ := T.fits addr
  simp only [ManagerTask.Fits, hst] at hf
  obtain rfl := (ManagerTask.holds_some (T.lookup_some hmem)).mp hf
  refine ⟨?_, ⟨?_, hnd', fun a ha => hout a (List.mem_cons_of_mem _ ha)⟩, ?_⟩
  · rw [Finmap.keys_erase, T.keys]
  · change t.hubDevices.erase addr = g.settled ∪ rest.toFinset
    rw [hdev, List.toFinset_cons, Finset.union_insert, Finset.erase_insert]
    rw [Finset.mem_union, not_or, List.mem_toFinset]
    exact ⟨hset, hnot⟩
  · refine push_fits T hlog rfl ?_ fun a st' hne hf' => ?_
    · simp [ManagerTask.Fits]
    · simp only [ManagerTask.Fits, hst] at hf'
      simp only [ManagerTask.Fits, if_neg hne]
      exact (ManagerTask.holds_congr (Finmap.lookup_erase_ne hne)).mpr hf'

/-- A removal that is in order, whether or not there is an entry to send it to. -/
theorem pushRemoval_fits (T : g.Tracks t) {a u : Uuid} {st : LinkState}
    (hst : linkState (g.log a) = some st) (hn : st.next (.remove u) = some .free)
    (ha : t'.Fits a st) (hfree : t'.Fits a .free)
    (ho : ∀ addr st, addr ≠ a → t.Fits addr st → t'.Fits addr st) (addr : Uuid) :
    ∃ st, linkState ((g.pushRemoval s a u).log addr) = some st ∧ t'.Fits addr st := by
  unfold pushRemoval
  split
  · exact push_fits T hst hn hfree ho addr
  · obtain ⟨st₀, h₀, hf₀⟩ := T.fits addr
    refine ⟨st₀, h₀, ?_⟩
    by_cases h : addr = a
    · subst h
      obtain rfl : st = st₀ := Option.some.inj (hst.symm.trans h₀)
      exact ha
    · exact ho addr st₀ h hf₀

theorem placed_pushRemoval {devices : Finset Uuid} {state : ManagerState} (a u : Uuid)
    (hp : g.Placed devices state) : (g.pushRemoval s a u).Placed devices state := by
  unfold pushRemoval
  split
  · exact hp
  · exact hp

theorem removeEvents (T : g.Tracks t) {rest : List Uuid} {addr u : Uuid}
    (hst : t.state = .unlinked rest addr u) :
    Tracks (g.pushRemoval s addr u) { t with state := .dropping rest } := by
  have hp := T.placed
  rw [hst] at hp
  obtain ⟨st, hlog, hf⟩ := T.fits addr
  simp only [ManagerTask.Fits, hst, if_true] at hf
  obtain ⟨rfl, hno⟩ := hf
  have hfree : ∀ st : LinkState, st.Free →
      { t with state := ManagerState.dropping rest }.Fits addr st := fun st hst' =>
    (ManagerTask.holds_none hno).mpr hst'
  refine ⟨T.keys, placed_pushRemoval addr u hp, ?_⟩
  refine pushRemoval_fits T hlog (if_pos rfl) (hfree _ fun v => by simp) (hfree _ fun v => by simp)
    fun a st hne hf' => ?_
  simp only [ManagerTask.Fits, hst, if_neg hne] at hf'
  exact hf'

theorem unregister (T : g.Tracks t) {order : List Uuid} (hst : t.state = .unregistering)
    (hnd : order.Nodup) (hord : order.toFinset = t.hubDevices) :
    g.Tracks { t with state := .cleaning order } := by
  have hp := T.placed
  rw [hst] at hp
  refine T.goto ⟨hp, hnd, fun a ha => ?_⟩ fun addr st hf _ => ?_
  · rw [← hord, List.mem_toFinset]
    exact ha
  · simp only [ManagerTask.Fits, hst] at hf
    exact hf

theorem clean (T : g.Tracks t) {addr : Uuid} {rest : List Uuid}
    (hst : t.state = .cleaning (addr :: rest)) :
    Tracks (g.pushRemoval s addr (t.uuidOf addr)) { t with state := .cleaning rest } := by
  have hp := T.placed
  rw [hst] at hp
  obtain ⟨hdev, hnd, hmem⟩ := hp
  obtain ⟨hnot, hnd'⟩ := List.nodup_cons.mp hnd
  obtain ⟨st, hlog, hf⟩ := T.fits addr
  simp only [ManagerTask.Fits, hst] at hf
  obtain rfl := (ManagerTask.holds_some (T.lookup_some (hmem addr List.mem_cons_self))).mp
    (hf List.mem_cons_self)
  -- nothing is expected of an address behind the cleanup
  have hpast : ∀ st, { t with state := ManagerState.cleaning rest }.Fits addr st := fun _ h =>
    absurd h hnot
  refine ⟨T.keys, placed_pushRemoval _ _ ⟨hdev, hnd', fun a ha => hmem a (List.mem_cons_of_mem _ ha)⟩, ?_⟩
  refine pushRemoval_fits T hlog (if_pos rfl) (hpast _) (hpast _) fun a st' _ hf' ha => ?_
  simp only [ManagerTask.Fits, hst] at hf'
  exact hf' (List.mem_cons_of_mem _ ha)

theorem step (T : g.Tracks t) (mv : Move t e t') : (g.next s t e).Tracks t' := by
  cases mv with
  | rest hr hr' hd hu hne =>
    rw [next_resting hr hne]
    refine ⟨by rw [hu, hd]; exact T.keys, ?_, fun addr => ?_⟩
    · rw [hd]
      exact (placed_resting hr').mpr ((placed_resting hr).mp T.placed)
    · obtain ⟨st, hlog, hf⟩ := T.fits addr
      refine ⟨st, hlog, (ManagerTask.fits_resting hr').mpr ?_⟩
      exact (ManagerTask.holds_congr (by rw [hu])).mpr ((ManagerTask.fits_resting hr).mp hf)
  | snapshot hst hnd hadd hs => exact T.snapshot hst hnd hadd hs
  | refresh hst =>
    have hp := T.placed
    rw [hst] at hp
    exact T.goto_same hp (fun _ _ => by simp only [ManagerTask.Fits, hst]) fun _ _ => Iff.rfl
  | connectFailed hst =>
    have hp := T.placed
    rw [hst] at hp
    obtain ⟨hnew, hdev, hnd, hmem⟩ := hp
    exact T.goto_same
      ⟨hnew, hdev, (List.nodup_cons.mp hnd).2, fun a ha => hmem a (List.mem_cons_of_mem _ ha)⟩
      (fun _ _ => by simp only [ManagerTask.Fits, hst]) fun _ _ => Iff.rfl
  | probe p hst =>
    simp only [SnapshotHistory.next, hst]
    exact T.probe p hst
  | lock hst =>
    have hp := T.placed
    rw [hst] at hp
    exact T.goto_same hp (fun _ _ => by simp only [ManagerTask.Fits, hst]) fun _ _ => Iff.rfl
  | spawn h hst =>
    have hp := T.placed
    rw [hst] at hp
    exact T.goto_same hp (fun _ _ => by simp only [ManagerTask.Fits, hst]) fun _ _ => Iff.rfl
  | merge hst =>
    simp only [SnapshotHistory.next, hst]
    exact T.merge hst
  | insert hst => exact T.insert hst
  | connect hst =>
    have hp := T.placed
    rw [hst] at hp
    refine T.goto hp fun addr st hf => ?_
    simp only [ManagerTask.Fits, hst] at hf
    exact hf
  | queue hst =>
    simp only [SnapshotHistory.next, hst]
    exact T.queue hst
  | removed hst hnd hord => exact T.removed hst hnd hord
  | untrack hst =>
    simp only [SnapshotHistory.next, hst]
    exact T.untrack hst
  | removeEvents hst =>
    simp only [SnapshotHistory.next, hst]
    exact T.removeEvents hst
  | rebond bonded hst =>
    have hp := T.placed
    rw [hst] at hp
    refine T.goto_same ?_ (fun _ _ => by simp only [ManagerTask.Fits, hst]) fun _ _ => Iff.rfl
    exact hp.1.trans (Finset.union_empty _)
  | unregister hst hnd hord => exact T.unregister hst hnd hord
  | clean hst =>
    simp only [SnapshotHistory.next, hst]
    exact T.clean hst
  | finish hst =>
    have hp := T.placed
    rw [hst] at hp
    exact T.goto hp.1 fun _ _ _ => trivial
  | abort => exact T.goto trivial fun _ _ _ => trivial

theorem spawned (d : UsbEntry) : empty.Tracks (.spawned d) :=
  ⟨Finmap.keys_empty, (Finset.inter_empty ∅).symm, fun addr => ⟨.free, rfl, fun u => by simp⟩⟩

end SnapshotHistory.Tracks

/-! ## Runs -/

/-- The invariant of the managers; those to come have an empty history. -/
structure SnapshotInv (x : Sys × (ManagerId → SnapshotHistory)) : Prop where
  tracks : ∀ {m : ManagerId} {t : ManagerTask}, x.1.managers[m]? = some t → (x.2 m).Tracks t
  fresh : ∀ {m : ManagerId}, x.1.managers[m]? = none → x.2 m = .empty

namespace SnapshotInv

variable {s s' : Sys} {g : ManagerId → SnapshotHistory}

theorem reconciled {x : Sys × (ManagerId → SnapshotHistory)} (I : SnapshotInv x) : Reconciled x := by
  intro m t hm
  have T := I.tracks hm
  refine ⟨fun hs => ?_, T.keys, fun addr => ?_⟩
  · have hr : t.state.resting = true := by
      cases hst : t.state <;> rw [hst] at hs <;> first | rfl | cases hs
    exact (SnapshotHistory.placed_resting hr).mp T.placed
  · obtain ⟨st, hlog, -⟩ := T.fits addr
    rw [hlog]
    rfl

theorem step {e : Event} (I : SnapshotInv (s, g)) (h : s.Step e s') :
    SnapshotInv (s', snapshotHistories s e s' g) := by
  by_cases hme : ∃ m me, e = .manager m me
  · obtain ⟨m, me, rfl⟩ := hme
    obtain ⟨t, hm, hms⟩ := Sys.managerStep_stepped h
    obtain ⟨t', hset, mv⟩ := Sys.manager_move hm hms
    have hg : snapshotHistories s (.manager m me) s' g =
        Function.update g m ((g m).next s t me) := by
      simp only [snapshotHistories, hm]
    rw [hg]
    constructor
    · intro k tk hk
      obtain ⟨rfl, rfl⟩ | ⟨hne, hk⟩ := getElem?_set_cases (hset ▸ hk)
      · change (Function.update g k _ k).Tracks tk
        rw [Function.update_self]
        exact (I.tracks hm).step mv
      · change (Function.update g m _ k).Tracks tk
        rw [Function.update_of_ne hne]
        exact I.tracks hk
    · intro k hk
      have hk' : (s.managers.set m t')[k]? = none := hset ▸ hk
      rw [getElem?_set_of_some hm] at hk'
      split at hk'
      · cases hk'
      · next hne =>
        change Function.update g m _ k = .empty
        rw [Function.update_of_ne (Ne.symm hne)]
        exact I.fresh hk'
  · simp only [not_exists] at hme
    have hg : snapshotHistories s e s' g = g := by
      unfold snapshotHistories
      split
      · exact absurd rfl (hme _ _)
      · rfl
    rw [hg]
    constructor
    · intro k tk hk
      obtain hm | ⟨hn, d, hd⟩ := Sys.step_managers h (hme k)
      · exact I.tracks (hm ▸ hk)
      · obtain rfl : .spawned d = tk := Option.some.inj (hd.symm.trans hk)
        rw [I.fresh hn]
        exact .spawned d
    · intro k hk
      obtain hm | ⟨hn, -, -⟩ := Sys.step_managers h (hme k)
      · exact I.fresh (hm ▸ hk)
      · exact I.fresh hn

end SnapshotInv

/-- **Snapshot reconciliation.**  In every state of every run each manager is reconciled
with its snapshots: what they and the connects left is what it tracks, under the same keys,
and of every address each `AddEventsDevice` comes to one untracked since the last, each
`RemoveEventsDevice` once after an `AddEventsDevice` and to the UUID of that one. -/
theorem Sys.reconciled_always {tr : List (Event × (Sys × (ManagerId → SnapshotHistory)))}
    (hrun : Exec (ghost Sys.Step snapshotHistories) (Sys.init, fun _ => .empty) tr) :
    Always Reconciled (Sys.init, fun _ => .empty) tr := by
  refine (hrun.invariant (I := SnapshotInv) ?_ ?_).imp fun _ I => I.reconciled
  · rintro ⟨s, g⟩ e ⟨s', g'⟩ I ⟨h, hg⟩
    obtain rfl : g' = snapshotHistories s e s' g := hg
    exact I.step h
  · exact ⟨fun hm => by simp [Sys.init] at hm, fun _ => rfl⟩

/-- The dongle loses its gun, and finds it again under another UUID. -/
def reread : List Event :=
  muxed ++ [.manager 0 (.snapshot [] []), .manager 0 (.removed [sampleUuid]), .manager 0 .untrack,
    .manager 0 .removeEvents, .manager 0 (.rebond none), .manager 0 (.update []),
    .manager 0 (.snapshot [sampleUuid] [sampleUuid]),
    .manager 0 (.probe 2 (some (Uuid.of 0xC0 9 9 9 9 9)) none none none), .manager 0 .lock,
    .manager 0 .spawn, .manager 0 .insert, .manager 0 .connect, .manager 0 .queue,
    .manager 0 (.snapshot [] [])]

theorem Sys.reconciled_always_reread :
    let tr := trace (ghostStep Sys.step snapshotHistories) (Sys.init, fun _ => .empty) reread
    tr.length = 32 ∧ Always Reconciled (Sys.init, fun _ => .empty) tr :=
  ⟨by decide +kernel, Sys.reconciled_always (exec_ghostStep (fun _ _ _ h => h) _ _ _)⟩

/-! ## The log and the handlers -/

/-- What a link event does to the handlers. -/
def LinkEvent.Sends (s s' : Sys) : LinkEvent → Prop
  | .add _ => ∃ k dev v, s'.handlers = s.handlers.modify k (·.receive (.addEventsDevice dev v))
  | .drop => s'.handlers = s.handlers
  | .remove u => ∃ k, s.deviceHandles.lookup u = some k ∧
      s'.handlers = s.handlers.modify k (·.receive .removeEventsDevice)

/-- The logs are complete: a step of a manager that logs nothing sends no handler anything. -/
theorem Sys.manager_links {s s' : Sys} {m : ManagerId} {t : ManagerTask} {e : ManagerEvent}
    (g : SnapshotHistory) (h : HubManager.Stepped s m t e s') :
    ((g.next s t e).log = g.log ∧
      (s'.handlers = s.handlers ∨ ∃ k, s'.handlers = s.handlers ++ [k])) ∨
    ∃ addr l, (g.next s t e).log = (g.push addr l).log ∧ l.Sends s s' := by
  have removal : ∀ (r : Sys) (addr u : Uuid), r.deviceHandles = s.deviceHandles →
      r.handlers = s.handlers →
      ((g.pushRemoval s addr u).log = g.log ∧
        ((HubManager.sendRemoval r u).handlers = s.handlers ∨
          ∃ k, (HubManager.sendRemoval r u).handlers = s.handlers ++ [k])) ∨
      ∃ addr' l, (g.pushRemoval s addr u).log = (g.push addr' l).log ∧
        l.Sends s (HubManager.sendRemoval r u) := by
    intro r addr u hd hh
    unfold SnapshotHistory.pushRemoval
    cases hl : s.deviceHandles.lookup u with
    | some k =>
      refine .inr ⟨addr, .remove u, rfl, k, hl, ?_⟩
      rw [HubManager.sendRemoval_of_some (hd ▸ hl), Sys.send, hh]
    | none =>
      refine .inl ⟨rfl, .inl ?_⟩
      rw [HubManager.sendRemoval_of_none (hd ▸ hl), hh]
  cases h with
  | merge hst | queue hst =>
    simp only [SnapshotHistory.next, hst]
    exact .inr ⟨_, _, rfl, _, _, _, rfl⟩
  | untrack hst =>
    simp only [SnapshotHistory.next, hst]
    exact .inr ⟨_, _, rfl, rfl⟩
  | @removeEvents rest addr u hst =>
    simp only [SnapshotHistory.next, hst]
    exact removal _ addr u rfl rfl
  | @clean addr rest hst =>
    simp only [SnapshotHistory.next, hst]
    exact removal _ addr (t.uuidOf addr) rfl rfl
  | probe hst =>
    refine .inl ⟨?_, .inl rfl⟩
    simp only [SnapshotHistory.next, hst]
  | spawn => exact .inl ⟨rfl, .inr ⟨_, rfl⟩⟩
  | _ => exact .inl ⟨rfl, .inl rfl⟩

end OdysseyHub
