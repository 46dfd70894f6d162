import OdysseyHub.Server.RegistryRun

/-!
# Addresses of the dongles and their handlers

A hub manager records an address when it has queued `AddEventsDevice`, and compares
later snapshots with its record, not with the handlers.  What the handler makes of
its queue (`finalEvents`) decides whether it will have an events device.

A handler may leave its loop while an address of its UUID is tracked: `Watch` keeps the
UUIDs that have lost their handler that way, until they get another, and the managers
whose last snapshot repeated their addresses, as long as none of these loses its handler.

**Sys.notOrphaned_of_keepsServed**: in every run in which no repeated snapshot lists an
address that has lost its handler (the manager does not enter it again), `AddEventsDevice`
reaches handlers in their loop only, and no events device is taken from, or not brought
to, a UUID of a tracked address, every address of a manager whose snapshot was repeated
has a running handler with an events device whenever the queues are drained.
-/

namespace OdysseyHub

open HandlerTask Slots Transition

/-! ## What a handler makes of its queue -/

/-- Whether the handler has an events device after a message that it stays for. -/
def eventsAfter (b : Bool) : DeviceTaskMessage → Bool
  | .addEventsDevice _ _ => true
  | .removeEventsDevice => false
  | _ => b

namespace Handler

theorem turn_events {h : Handler} (hb : StreamsBacked h) {arm : Arm} {a : Answers} {o : Outcome}
    (ht : h.turn arm a = some o) (hl : o.leave = false) :
    o.handler.connections.eventsDevice.isSome =
      match arm with
      | .control m => eventsAfter h.connections.eventsDevice.isSome m
      | _ => h.connections.eventsDevice.isSome := by
  obtain ⟨dev, v, rfl, rfl⟩ | ⟨dev, rfl, rfl⟩ | ⟨rfl, rfl⟩ | ⟨rfl, rfl⟩ | ⟨hm, hs⟩ := turn_cases ht
  · cases hst : h.hasSensorStreams with
    | true =>
      rw [(addEventsDevice_streaming h dev v a hst).connections]
      exact hb hst
    | false =>
      rw [addEventsDevice_eventsDevice h dev v a hst]
      rfl
  · rfl
  · rw [removeControlDevice_leave, Bool.not_eq_false'] at hl
    rw [(removeControlDevice_stay hl).2.1]
    rfl
  · rw [removeEventsDevice_eventsDevice]
    rfl
  · rw [hs.connections]
    cases arm with
    | control m =>
      have hlink := hm m rfl
      cases m with
      | addEventsDevice dev v => cases hlink
      | removeEventsDevice => cases hlink
      | _ => rfl
    | _ => rfl

end Handler

namespace HandlerTask

instance (t : HandlerTask) : Decidable t.InLoop := inferInstanceAs (Decidable (_ ∨ _))

/-- The handler has an events device once it has gone through its queue. -/
def finalEvents (t : HandlerTask) : Bool :=
  t.queue.foldl eventsAfter t.handler.connections.eventsDevice.isSome

theorem finalEvents_receive {t : HandlerTask} (h : t.InLoop) (m : DeviceTaskMessage) :
    (t.receive m).finalEvents = eventsAfter t.finalEvents m := by
  simp [finalEvents, receive_queue t m h.running]

theorem finalEvents_next {t t' : HandlerTask} (w : t.WellFormed) (hin : t'.InLoop) {e : HandlerEvent}
    (h : t.next e = some t') : t'.finalEvents = t.finalEvents := by
  have stays : ∀ {o : Outcome} {t : HandlerTask}, (t.turned o).InLoop → o.leave = false :=
    fun {o t} hin => by
      cases hl : o.leave with
      | false => rfl
      | true => simp [InLoop, hl] at hin
  obtain ⟨ms, a, -, hp, rfl⟩ | ⟨a, m, q, o, -, hp, -, hq, ho, rfl⟩ |
    ⟨arm, a, o, -, hp, -, -, harm, -, ho, rfl⟩ | ⟨eff, rest, -, -, rfl⟩ | ⟨-, -, -, rfl⟩ :=
      next_cases h
  · simp only [finalEvents, turned_queue, turned_handler]
    unfold Handler.start
    split <;> rfl
  · have hev := Handler.turn_events (w.streams (.inr hp)) ho (stays hin)
    simp only [finalEvents, turned_queue, turned_handler, hq, List.foldl_cons, hev]
  · have hev := Handler.turn_events (w.streams (.inr hp)) ho (stays hin)
    simp only [finalEvents, turned_queue, turned_handler, hev]
    cases arm with
    | control m => exact absurd rfl (harm m)
    | _ => rfl
  · rfl
  · simp [InLoop] at hin

end HandlerTask

/-- The UUID whose `AddEventsDevice` a manager at the stage has still to queue. -/
def Stage.awaited : Stage → Option Uuid
  | .announcing _ u | .announced _ u => some u
  | _ => none

namespace Registry

/-! ## The invariant -/

/-- A manager tracks an address of the UUID. -/
def Tracked (R : Registry) (u : Uuid) : Prop := ∃ m addr, R.tracks m addr = some u

/-- A manager has entered the handler and still has to queue its `AddEventsDevice`. -/
def Awaits (R : Registry) (m : ManagerId) (h : HandlerId) (u : Uuid) : Prop :=
  R.stage (.manager m) = .announcing h u ∨ R.stage (.manager m) = .announced h u

theorem Awaits.awaited {R : Registry} {m : ManagerId} {h : HandlerId} {u : Uuid} (hw : R.Awaits m h u) :
    u ∈ (R.stage (.manager m)).awaited := by
  obtain hw | hw := hw
  · rw [hw]
    rfl
  · rw [hw]
    rfl

/-- The handler of the UUID is in its loop and has, or will have, an events device. -/
def Served (R : Registry) (u : Uuid) : Prop :=
  ∃ h t, R.handles u = some h ∧ R.tasks[h]? = some t ∧ t.InLoop ∧
    (t.finalEvents = true ∨ ∃ m, R.Awaits m h u)

/-- The UUID whose registered handler leaves its loop by the operation; `tasks` are the
tasks after it. -/
def leaver (R : Registry) (tasks : List HandlerTask) : Op → Option Uuid
  | .work h _ =>
    match R.tasks[h]?, tasks[h]? with
    | some t, some t' =>
      if R.handles t.uuid = some h ∧ t.InLoop ∧ ¬ t'.InLoop then some t.uuid else none
    | _, _ => none
  | _ => none

/-- The UUIDs that have lost their handler, after the operation: one that leaves its loop
is lost, one that is entered with an events device to come is not. -/
def lostAfter (R : Registry) (tasks : List HandlerTask) (lost : Finset Uuid) (op : Op) : Finset Uuid :=
  match op with
  | .merge _ _ u _ _ => lost.erase u
  | .insertHub _ _ h =>
    match R.tasks[h]? with
    | some t => lost.erase t.uuid
    | none => lost
  | .insertScan h =>
    match R.tasks[h]? with
    | some t => if t.finalEvents = true then lost.erase t.uuid else lost
    | none => lost
  | op => lost ∪ (R.leaver tasks op).toFinset

/-- Every tracked UUID has a handler for its events device, unless it has lost it. -/
def AllServed (R : Registry) (lost : Finset Uuid) : Prop := ∀ u, R.Tracked u → u ∉ lost → R.Served u

/-- The operation takes no events device from a tracked address that has its handler. -/
def KeepsServed (R : Registry) (lost : Finset Uuid) : Op → Prop
  | .merge _ _ _ h _ => ∀ t, R.tasks[h]? = some t → t.InLoop
  | .send h msg => msg = .removeEventsDevice → ∀ t, R.tasks[h]? = some t → R.Tracked t.uuid → t.uuid ∈ lost
  | .insertScan h => ∀ t, R.tasks[h]? = some t → R.Tracked t.uuid → t.finalEvents = true ∨ t.uuid ∈ lost
  | .abort m => ∀ u ∈ (R.stage (.manager m)).awaited, ∀ k addr, R.tracks k addr = some u → k = m ∨ u ∈ lost
  | _ => True

variable {R R' : Registry} {op : Op}

/-- A registered task stays in its loop, with the same prospects. -/
theorem Served.tasks {u : Uuid} (S : R.Served u) (hh : R'.handles u = R.handles u)
    (ht : ∀ (h : HandlerId) (t : HandlerTask), R.handles u = some h → R.tasks[h]? = some t → t.InLoop →
      ∃ t', R'.tasks[h]? = some t' ∧ t'.InLoop ∧ (t.finalEvents = true → t'.finalEvents = true))
    (hst : ∀ m h, R.Awaits m h u → R'.Awaits m h u) : R'.Served u := by
  obtain ⟨h, t, hu, htk, hin, hev⟩ := S
  obtain ⟨t', ht', hin', hev'⟩ := ht h t hu htk hin
  exact ⟨h, t', hh.trans hu, ht', hin', hev.imp hev' fun ⟨m, hm⟩ => ⟨m, hst m h hm⟩⟩

theorem Served.same {u : Uuid} (S : R.Served u) (hh : R'.handles u = R.handles u)
    (ht : R'.tasks = R.tasks) (hst : ∀ m h, R.Awaits m h u → R'.Awaits m h u) : R'.Served u :=
  S.tasks hh (fun _ t _ htk hin => ⟨t, ht ▸ htk, hin, id⟩) hst

theorem Served.receive {u : Uuid} (S : R.Served u) {h : HandlerId} {msg : DeviceTaskMessage}
    (hm : ∀ t : HandlerTask, R.tasks[h]? = some t → t.uuid = u → eventsAfter true msg = true)
    (I : R.Inv) : (R.receive h msg).Served u := by
  refine S.tasks rfl (fun k t hu ht hin => ?_) fun _ _ hw => hw
  refine ⟨if h = k then t.receive msg else t, receive_tasks_some.mpr ⟨t, ht, rfl⟩, ?_, fun hev => ?_⟩
  · split
    · exact (receive_inLoop t msg).mpr hin
    · exact hin
  · split
    · next hk =>
      subst hk
      obtain ⟨t₀, ht₀, hut⟩ := I.entry hu
      rw [ht] at ht₀
      cases ht₀
      rw [finalEvents_receive hin, hev]
      exact hm t ht hut
    · exact hev

/-- The handler of the UUID gets the events device that was to come, or still waits for it. -/
theorem Served.queue {u : Uuid} (S : R.Served u) {h : HandlerId} {dev : VmDevice} {v : Version}
    (hh : R'.handles u = R.handles u) (ht : R'.tasks = (R.receive h (.addEventsDevice dev v)).tasks)
    (hst : ∀ m k, R.Awaits m k u → h ≠ k → R'.Awaits m k u) : R'.Served u := by
  obtain ⟨k, t, hk, htk, hin, hev⟩ := S
  refine ⟨k, if h = k then t.receive (.addEventsDevice dev v) else t, hh.trans hk, ?_, ?_, ?_⟩
  · rw [ht]
    exact receive_tasks_some.mpr ⟨t, htk, rfl⟩
  · split
    · exact (receive_inLoop ..).mpr hin
    · exact hin
  · split
    · exact .inl (finalEvents_receive hin _)
    · next hne => exact hev.imp_right fun ⟨m, hw⟩ => ⟨m, hst m k hw hne⟩

/-- A step of a task, if the handler of the UUID stays in its loop. -/
theorem Served.work {u : Uuid} (S : R.Served u) (I : R.Inv) {h : HandlerId} {e : HandlerEvent}
    {t t' : HandlerTask} (ht : R.tasks[h]? = some t) (hn : t.next e = some t')
    (hstay : t.uuid = u → R.handles u = some h → t.InLoop → t'.InLoop) : (R.setTask h t').Served u := by
  refine S.tasks rfl (fun k t₁ hk ht₁ hin => ?_) fun _ _ hw => hw
  by_cases hkh : h = k
  · subst hkh
    obtain ⟨t₀, ht₀, hut⟩ := I.entry hk
    obtain rfl : t = t₀ := Option.some.inj (ht.symm.trans ht₀)
    obtain rfl : t = t₁ := Option.some.inj (ht.symm.trans ht₁)
    have hin' := hstay hut hk hin
    refine ⟨t', (setTask_tasks_some ht).mpr (.inl ⟨rfl, rfl⟩), hin', fun hev => ?_⟩
    rw [finalEvents_next (I.wellFormed ht) hin' hn]
    exact hev
  · exact ⟨t₁, (setTask_tasks_some ht).mpr (.inr ⟨hkh, ht₁⟩), hin, id⟩

/-- The handler of a UUID that is not lost by the step stays in its loop. -/
theorem stays_of_not_lost {h : HandlerId} {e : HandlerEvent} {t t' : HandlerTask} {u : Uuid}
    {lost : Finset Uuid} (ht : R.tasks[h]? = some t)
    (hu : u ∉ R.lostAfter (R.tasks.set h t') lost (.work h e)) :
    t.uuid = u → R.handles u = some h → t.InLoop → t'.InLoop := by
  rintro rfl hh hin
  by_contra hout
  refine hu (Finset.mem_union_right _ ?_)
  simp [leaver, ht, Slots.getElem?_set_of_some ht, hh, hin, hout]

/-- A manager waits to queue its message until it does so or is aborted. -/
theorem Core.awaits (hs : Core R op R') {m : ManagerId} {h : HandlerId} {u : Uuid}
    (hw : R.Awaits m h u) (hq : ∀ msg, op ≠ .queue m h msg) (ha : op ≠ .abort m) : R'.Awaits m h u := by
  unfold Awaits at *
  obtain he | hadv := hs.stages (.manager m)
  · rwa [he]
  · generalize R.stage (.manager m) = st at hw hadv
    generalize R'.stage (.manager m) = st' at hadv
    cases hadv with
    | spawn => obtain hw | hw := hw <;> cases hw
    | insertHub => obtain hw | hw := hw <;> cases hw
    | announceHub =>
      obtain hw | hw := hw
      · cases hw
        exact .inr rfl
      · cases hw
    | queue =>
      obtain hw | hw := hw
      · cases hw
      · cases hw
        exact absurd rfl (hq _)
    | abort => exact absurd rfl ha

theorem track_some {m k : ManagerId} {addr a u v : Uuid} (h : (R.track m addr v).tracks k a = some u) :
    (k = m ∧ a = addr ∧ u = v) ∨ R.tracks k a = some u := by
  simp only [Registry.track, Function.update_apply] at h
  split at h
  · next hkm =>
    rw [Function.update_apply] at h
    split at h
    · next ha => exact .inl ⟨hkm, ha, (Option.some.inj h).symm⟩
    · exact .inr (hkm ▸ h)
  · exact .inr h

theorem Tracked.of_track {m : ManagerId} {addr u v : Uuid} (h : (R.track m addr v).Tracked u) :
    u = v ∨ R.Tracked u := by
  obtain ⟨k, a, hk⟩ := h
  obtain ⟨-, -, rfl⟩ | hk := track_some hk
  · exact .inl rfl
  · exact .inr ⟨k, a, hk⟩

theorem AllServed.core {lost : Finset Uuid} (I : R.Inv) (A : R.AllServed lost) (ok : R.KeepsServed lost op)
    (hs : Core R op R') : R'.AllServed (R.lostAfter R'.tasks lost op) := by
  intro u hu hn
  have awaits : ∀ m k, R.Awaits m k u → (∀ msg, op ≠ .queue m k msg) → op ≠ .abort m →
      R'.Awaits m k u := fun m k hw => hs.awaits hw
  cases hs with
  | @evict us direct hl he =>
    obtain ⟨h, t, hh, ht, hin, hev⟩ := A u hu fun hm => hn (Finset.mem_union_left _ hm)
    have hnot : u ∉ us := fun hmem => by
      obtain ⟨k, t', hk, ht', hr⟩ := he u hmem
      rw [hh] at hk
      cases hk
      rw [ht] at ht'
      cases ht'
      exact hr hin.running
    exact ⟨h, t, (if_neg hnot).trans hh, ht, hin, hev⟩
  | @spawn c t hc hh hf =>
    have S := A u hu fun hm => hn (Finset.mem_union_left _ hm)
    refine S.tasks rfl (fun h t _ ht hin => ⟨t, ?_, hin, id⟩) fun m h hw => awaits m h hw (by simp) (by simp)
    exact getElem?_concat_some.mpr (.inl ht)
  | @insertScan h v hl hc =>
    obtain ⟨t, ht, rfl, hin⟩ := I.newcomer hc
    simp only [lostAfter, ht] at hn
    by_cases hut : u = t.uuid
    · subst hut
      have hev : t.finalEvents = true := by
        by_contra hev
        rw [if_neg hev] at hn
        exact hn ((ok t ht hu).resolve_left hev)
      exact ⟨h, t, Function.update_self .., ht, hin, .inl hev⟩
    · have hnl : u ∉ lost := by
        split at hn
        · exact fun hm => hn (Finset.mem_erase.mpr ⟨hut, hm⟩)
        · exact hn
      exact (A u hu hnl).same (Function.update_of_ne hut ..) rfl fun m k hw =>
        awaits m k hw (by simp) (by simp)
  | @insertHub m addr h v hl hc =>
    obtain ⟨t, ht, rfl, hin⟩ := I.newcomer hc
    by_cases hut : u = t.uuid
    · subst hut
      exact ⟨h, t, Function.update_self .., ht, hin, .inr ⟨m, .inl (Function.update_self ..)⟩⟩
    · simp only [lostAfter, ht] at hn
      have S := A u ((Tracked.of_track hu).resolve_left hut) fun hm => hn (Finset.mem_erase.mpr ⟨hut, hm⟩)
      exact S.same (Function.update_of_ne hut ..) rfl fun k j hw => awaits k j hw (by simp) (by simp)
  | insertDirect hc =>
    have S := A u hu fun hm => hn (Finset.mem_union_left _ hm)
    exact S.same rfl rfl fun m k hw => awaits m k hw (by simp) (by simp)
  | announce hc =>
    have S := A u hu fun hm => hn (Finset.mem_union_left _ hm)
    exact S.same rfl rfl fun m k hw => awaits m k hw (by simp) (by simp)
  | @queue m h v dev ver hc =>
    have S := A u hu fun hm => hn (Finset.mem_union_left _ hm)
    refine S.queue rfl rfl fun j k hw hne => awaits j k hw (fun msg he => ?_) (by simp)
    cases he
    exact hne rfl
  | @merge m addr v h dev ver hl hc hh =>
    by_cases huv : u = v
    · subst huv
      obtain ⟨t, ht, -⟩ := I.entry hh
      have hin := ok t ht
      exact ⟨h, t.receive (.addEventsDevice dev ver), hh,
        receive_tasks_some.mpr ⟨t, ht, (if_pos rfl).symm⟩, (receive_inLoop ..).mpr hin,
        .inl (finalEvents_receive hin _)⟩
    · have S := A u ((Tracked.of_track hu).resolve_left huv) fun hm => hn (Finset.mem_erase.mpr ⟨huv, hm⟩)
      exact S.receive (fun _ _ _ => rfl) I
  | @sendLink v h msg hl hh hm hst =>
    have hnl : u ∉ lost := fun hm => hn (Finset.mem_union_left _ hm)
    refine (A u hu hnl).receive (fun t ht hut => ?_) I
    cases msg with
    | removeEventsDevice => exact absurd (hut ▸ ok rfl t ht (hut ▸ hu)) hnl
    | _ => rfl
  | @sendCall h msg hsh hm =>
    have S := A u hu fun hm => hn (Finset.mem_union_left _ hm)
    refine S.receive (fun t ht hut => ?_) I
    cases msg with
    | removeEventsDevice => cases hm
    | _ => rfl
  | @work h e t t' ht hx =>
    have S := A u hu fun hm => hn (Finset.mem_union_left _ hm)
    exact S.work I ht hx (stays_of_not_lost ht hn)
  | @forget h t t' v ht hx hhd =>
    have S := A u hu fun hm => hn (Finset.mem_union_left _ hm)
    exact S.work I ht hx (stays_of_not_lost ht hn)
  | @exit h t t' x ht hx =>
    have S := A u hu fun hm => hn (Finset.mem_union_left _ hm)
    exact S.work I ht hx (stays_of_not_lost ht hn)
  | @abort m =>
    have hnl : u ∉ lost := fun hm => hn (Finset.mem_union_left _ hm)
    obtain ⟨k, addr, hk⟩ := hu
    have hkm : k ≠ m := fun he => by simp [he] at hk
    have hk' : R.tracks k addr = some u := by
      simpa [Function.update_of_ne hkm] using hk
    obtain ⟨h, t, hh, ht, hin, hev⟩ := A u ⟨k, addr, hk'⟩ hnl
    refine ⟨h, t, hh, ht, hin, hev.imp_right fun ⟨j, hw⟩ => ⟨j, awaits j h hw (by simp) fun he => ?_⟩⟩
    cases he
    exact (ok u hw.awaited k addr hk').elim hkm hnl
  | _ => exact A u hu fun hm => hn (Finset.mem_union_left _ hm)

theorem Quiet.allServed {lost : Finset Uuid} (q : Quiet R R') (A : R.AllServed lost) : R'.AllServed lost := by
  rintro u ⟨m, addr, hm⟩ hn
  obtain S := A u ⟨m, addr, q.tracks m addr u hm⟩ hn
  simpa only [Served, Awaits, q.handles, q.tasks, q.stage] using S

/-! ## Addresses come in with a handler -/

theorem mem_lostAfter {tasks : List HandlerTask} {lost : Finset Uuid} {u : Uuid}
    (h : u ∈ R.lostAfter tasks lost op) : u ∈ lost ∨ u ∈ R.leaver tasks op := by
  have erased : ∀ v : Uuid, u ∈ lost.erase v → u ∈ lost := fun v hm => (Finset.mem_erase.mp hm).2
  cases op with
  | merge m addr v k msg => exact .inl (erased v h)
  | insertHub m addr k =>
    simp only [lostAfter] at h
    split at h
    · exact .inl (erased _ h)
    · exact .inl h
  | insertScan k =>
    simp only [lostAfter] at h
    split at h
    · split at h
      · exact .inl (erased _ h)
      · exact .inl h
    · exact .inl h
  | _ => exact (Finset.mem_union.mp h).imp_right Option.mem_toFinset.mp

/-- An address that comes to be tracked has not lost its handler. -/
theorem Core.tracks (I : R.Inv) (hs : Core R op R') {m : ManagerId} {addr u : Uuid}
    (h : R'.tracks m addr = some u) (tasks : List HandlerTask) (lost : Finset Uuid) :
    R.tracks m addr = some u ∨ u ∉ R.lostAfter tasks lost op := by
  cases hs with
  | @insertHub k addr' j v hl hc =>
    obtain ⟨-, -, rfl⟩ | h := track_some h
    · obtain ⟨t, ht, rfl, -⟩ := I.newcomer hc
      refine .inr ?_
      simp only [lostAfter, ht]
      exact Finset.notMem_erase t.uuid lost
    · exact .inl h
  | @merge k addr' v j dev ver hl hc hh =>
    obtain ⟨-, -, rfl⟩ | h := track_some h
    · exact .inr (Finset.notMem_erase u lost)
    · exact .inl h
  | @abort k =>
    by_cases hkm : m = k
    · simp [hkm] at h
    · exact .inl (by simpa [Function.update_of_ne hkm] using h)
  | _ => exact .inl h

end Registry

/-- What is remembered of a run: the UUIDs that have lost their handler, and the managers
whose last snapshot repeated their addresses, none of which has lost its handler since. -/
structure Watch where
  lost : Finset Uuid := ∅
  again : Finset ManagerId := ∅

namespace Sys

/-- The UUIDs of the addresses the manager tracks. -/
def trackedUuids (s : Sys) (m : ManagerId) : Finset Uuid :=
  match s.managers[m]? with
  | some t => if t.state.inLoop = true then t.hubDevices.image t.uuidOf else ∅
  | none => ∅

theorem mem_trackedUuids {s : Sys} {m : ManagerId} {u : Uuid} :
    u ∈ s.trackedUuids m ↔ ∃ addr, s.registry.tracks m addr = some u := by
  simp only [trackedUuids, registry, tracks]
  cases s.managers[m]? with
  | none => simp
  | some t =>
    simp only [ManagerTask.tracks_eq_some]
    split
    · next hl => simp [hl]
    · next hl => simp [hl]

/-- The manager that takes a snapshot of the addresses it has. -/
def repeats (s : Sys) : Event → Option ManagerId
  | .manager m (.snapshot devices _) =>
    if ∃ t ∈ s.managers[m]?, devices.toFinset = t.hubDevices then some m else none
  | _ => none

end Sys

/-- The manager that takes a snapshot. -/
def Event.snapshots : Event → Option ManagerId
  | .manager m (.snapshot _ _) => some m
  | _ => none

def Watch.next (s : Sys) (e : Event) (s' : Sys) (w : Watch) : Watch :=
  { lost := s.registry.lostAfter s'.handlers w.lost (s.op e)
    again := (w.again \ e.snapshots.toFinset ∪ (s.repeats e).toFinset).filter fun m =>
      Disjoint (s.registry.leaver s'.handlers (s.op e)).toFinset (s.trackedUuids m) }

namespace Sys

/-- No repeated snapshot lists an address that has lost its handler, and the events
devices of the others stay. -/
def KeepsServed (x : Sys × Watch) (e : Event) : Prop :=
  (∀ m ∈ x.1.repeats e, ∀ u ∈ x.1.trackedUuids m, u ∉ x.2.lost) ∧
    x.1.registry.KeepsServed x.2.lost (x.1.op e)

/-- With all queues drained and no `AddEventsDevice` still to be queued, each address that
a hub manager tracks has a running handler with an events device, once a further snapshot
of the same addresses has been taken. -/
def NotOrphaned (x : Sys × Watch) : Prop :=
  x.1.Drained → (∀ m h u, ¬ x.1.registry.Awaits m h u) →
  ∀ (m : ManagerId) (t : ManagerTask), x.1.managers[m]? = some t → t.state.inLoop = true → m ∈ x.2.again →
  ∀ addr ∈ t.hubDevices, ∃ (h : HandlerId) (k : HandlerTask),
    x.1.deviceHandles.lookup (t.uuidOf addr) = some h ∧ x.1.handlers[h]? = some k ∧ k.Running ∧
      k.handler.connections.eventsDevice.isSome = true

/-- What holds along a run that keeps the addresses served. -/
structure Watched (x : Sys × Watch) : Prop where
  inv : x.1.Inv
  served : x.1.registry.AllServed x.2.lost
  again : ∀ m ∈ x.2.again, ∀ u ∈ x.1.trackedUuids m, u ∉ x.2.lost

theorem Watched.notOrphaned {x : Sys × Watch} (W : Watched x) : NotOrphaned x := by
  intro hdr haw m t hm hl hagain addr ha
  have htr : x.1.registry.tracks m addr = some (t.uuidOf addr) :=
    (congrFun (tracks_of_some hm) addr).trans (ManagerTask.tracks_eq_some.mpr ⟨hl, ha, rfl⟩)
  have hnl := W.again m hagain _ (mem_trackedUuids.mpr ⟨addr, htr⟩)
  obtain ⟨h, k, hu, hk, hin, hev⟩ := W.served _ ⟨m, addr, htr⟩ hnl
  refine ⟨h, k, hu, hk, hin.running, ?_⟩
  have hfin := hev.resolve_right fun ⟨j, hw⟩ => haw j h _ hw
  simpa [HandlerTask.finalEvents, (hdr h k hk hin.running).2.1] using hfin

theorem Watched.step {x x' : Sys × Watch} {e : Event} (W : Watched x) (ok : KeepsServed x e)
    (h : ghost Sys.Step Watch.next x e x') : Watched x' := by
  obtain ⟨hs, hw⟩ := h
  obtain ⟨R₁, hc, q⟩ := (W.inv.simulates hs).2.2
  refine ⟨W.inv.step hs, ?_, fun m hm u hu => ?_⟩
  · have A := W.served.core W.inv.registry ok.2 hc
    rw [← q.tasks] at A
    rw [hw]
    exact q.allServed A
  · rw [hw] at hm ⊢
    obtain ⟨hm, hleft⟩ := Finset.mem_filter.mp hm
    obtain ⟨addr, ha⟩ := mem_trackedUuids.mp hu
    obtain hold | hnew := hc.tracks W.inv.registry (q.tracks m addr u ha) x'.1.handlers x.2.lost
    · have hu₀ := mem_trackedUuids.mpr ⟨addr, hold⟩
      intro hmem
      obtain hl | hl := Registry.mem_lostAfter hmem
      · obtain hm | hm := Finset.mem_union.mp hm
        · exact W.again m (Finset.mem_sdiff.mp hm).1 u hu₀ hl
        · exact ok.1 m (Option.mem_toFinset.mp hm) u hu₀ hl
      · exact Finset.disjoint_left.mp hleft (Option.mem_toFinset.mpr hl) hu₀
    · exact hnew

theorem Watched.init : Watched (Sys.init, {}) where
  inv := Inv.init
  served := by
    rintro u ⟨m, addr, hm⟩
    cases hm
  again m hm := by cases hm

/-- **No device connected through a dongle is orphaned.** -/
theorem notOrphaned_of_keepsServed {tr : List (Event × (Sys × Watch))}
    (hrun : Exec (ghost Sys.Step Watch.next) (Sys.init, {}) tr)
    (hok : StepsOk KeepsServed (Sys.init, {}) tr) : Always NotOrphaned (Sys.init, {}) tr :=
  (hrun.always (fun _ _ _ W ok h => W.step ok h) Watched.init hok).imp fun _ W => W.notOrphaned

/-! ## Runs that keep the addresses served -/

theorem lt_of_trackedUuids {s : Sys} {m : ManagerId} {u : Uuid} (hu : u ∈ s.trackedUuids m) :
    m < s.managers.length := by
  by_contra hlt
  simp [trackedUuids, List.getElem?_eq_none (not_lt.mp hlt)] at hu

instance (s : Sys) (u : Uuid) : Decidable (s.registry.Tracked u) :=
  decidable_of_iff (∃ m ∈ List.range s.managers.length, u ∈ s.trackedUuids m)
    ⟨fun ⟨m, _, hu⟩ => ⟨m, mem_trackedUuids.mp hu⟩, fun ⟨m, addr, ha⟩ =>
      have hu := mem_trackedUuids.mpr ⟨addr, ha⟩
      ⟨m, List.mem_range.mpr (lt_of_trackedUuids hu), hu⟩⟩

instance (s : Sys) (lost : Finset Uuid) : ∀ op : Op, Decidable (s.registry.KeepsServed lost op)
  | .merge _ _ _ h _ => inferInstanceAs (Decidable (∀ t ∈ s.handlers[h]?, t.InLoop))
  | .send h msg => inferInstanceAs (Decidable (msg = .removeEventsDevice → ∀ t ∈ s.handlers[h]?,
      s.registry.Tracked t.uuid → t.uuid ∈ lost))
  | .insertScan h => inferInstanceAs (Decidable (∀ t ∈ s.handlers[h]?,
      s.registry.Tracked t.uuid → t.finalEvents = true ∨ t.uuid ∈ lost))
  | .abort m => @decidable_of_iff _ (∀ u ∈ (s.stage (.manager m)).awaited,
      ∀ k ∈ List.range s.managers.length, u ∈ s.trackedUuids k → k = m ∨ u ∈ lost)
    ⟨fun hk u hu k addr ha =>
      have hm := mem_trackedUuids.mpr ⟨addr, ha⟩
      hk u hu k (List.mem_range.mpr (lt_of_trackedUuids hm)) hm,
     fun hk u hu k _ hm =>
      have ⟨addr, ha⟩ := mem_trackedUuids.mp hm
      hk u hu k addr ha⟩ (Option.decidableForallMem _)
  | .quiet | .evict .. | .spawn .. | .insertHub .. | .insertDirect _ | .announce .. | .queue .. | .surface _
  | .retire _ | .work .. => isTrue trivial

instance (x : Sys × Watch) (e : Event) : Decidable (KeepsServed x e) :=
  haveI (m : ManagerId) : Decidable (∀ u ∈ x.1.trackedUuids m, u ∉ x.2.lost) :=
    decidable_of_iff (Disjoint (x.1.trackedUuids m) x.2.lost) Finset.disjoint_left
  inferInstanceAs (Decidable (_ ∧ _))

/-- The run that a list of events makes, watched. -/
def watch (events : List Event) : List (Event × (Sys × Watch)) :=
  trace (ghostStep Sys.step Watch.next) (Sys.init, {}) events

/-- A gun in BLE mode has its handler from the USB scan; the manager of a dongle comes to its
select. -/
def plugInBle : List Event :=
  [.scan (.enumerate [sampleDongle, sampleGun]), .scan (.cleanup []), .scan (.hub true),
    .scan (.probe 1 sampleUuid none (some .ble) none), .scan .lock, .scan .spawn, .scan .insert,
    .scan .insertDirect, .scan .connect, .scan (.missing []), .scan (.unplugged []), .scan .sleep,
    .handler 0 (.start 0 {}), .handler 0 .perform, .manager 0 (.readVersions none none none),
    .manager 0 .register, .manager 0 (.initial none)]

/-- A snapshot has the gun, for which there is a handler. -/
def mergeGun : List Event :=
  [.manager 0 (.snapshot [sampleUuid] [sampleUuid]),
    .manager 0 (.probe 2 (some sampleUuid) none none none), .manager 0 .lock, .manager 0 .merge,
    .manager 0 (.removed []), .manager 0 (.rebond none), .manager 0 (.update [sampleUuid])]

/-- A snapshot has the gun, as the one before. -/
def repeatGun : List Event :=
  [.manager 0 (.snapshot [sampleUuid] []), .manager 0 (.removed []), .manager 0 (.rebond none),
    .manager 0 (.update [sampleUuid])]

/-- The gun is switched to USB mode and leaves the dongle; then it is back, with a handler
of its own, and a snapshot is repeated. -/
def switchMode : List Event :=
  List.flatten [plugInBle, mergeGun, [.handler 0 (.recv {})], List.replicate 7 (.handler 0 .perform),
    [.forward, .forward, .request sampleUuid (.setTransportMode true), .deliver 0, .handler 0 (.recv {})],
    List.replicate 3 (.handler 0 .perform),
    [.handler 0 .exit, .manager 0 (.snapshot [] []), .manager 0 (.removed [sampleUuid]),
      .manager 0 .untrack, .manager 0 .removeEvents, .manager 0 (.rebond none), .manager 0 (.update []),
      .manager 0 (.snapshot [sampleUuid] [sampleUuid]),
      .manager 0 (.probe 3 (some sampleUuid) none none none), .manager 0 .lock, .manager 0 .spawn,
      .manager 0 .insert, .manager 0 .connect, .manager 0 .queue, .manager 0 (.removed []),
      .manager 0 (.rebond none), .manager 0 (.update [sampleUuid]), .handler 1 (.start 0 {}),
      .handler 1 (.recv {})],
    List.replicate 7 (.handler 1 .perform), repeatGun]

theorem notOrphaned_of_keepsServed_switchMode :
    (watch switchMode).length = 70 ∧ 0 ∈ (last (Sys.init, {}) (watch switchMode)).2.again ∧
      Always NotOrphaned (Sys.init, {}) (watch switchMode) := by
  refine ⟨by decide +kernel, by decide +kernel, ?_⟩
  exact notOrphaned_of_keepsServed (exec_ghostStep (fun _ _ _ h => h) Watch.next _ switchMode)
    (by decide +kernel)

/-- The gun's USB is unplugged, and before its handler sees that, the dongle's manager
queues `AddEventsDevice` behind it.  The handler ends; the next snapshot, with the same
address, finds nothing new. -/
def orphaned : List Event :=
  List.flatten [plugInBle,
    [.scan (.enumerate [sampleDongle]), .scan (.cleanup []), .scan (.hub true), .scan (.missing [2]),
      .scan .unplug, .scan (.unplugged []), .scan .sleep],
    mergeGun, [.handler 0 (.recv {}), .handler 0 .exit], repeatGun]

theorem orphaned_stays : Exec (ghost Sys.Step Watch.next) (Sys.init, {}) (watch orphaned) ∧
    ¬ NotOrphaned (last (Sys.init, {}) (watch orphaned)) := by
  refine ⟨exec_ghostStep (fun _ _ _ h => h) Watch.next _ orphaned, fun h => ?_⟩
  have hm : (last (Sys.init, {}) (watch orphaned)).1.managers.map
      (fun t => (t.state.inLoop, t.state.stage, decide (sampleUuid ∈ t.hubDevices))) = [(true, .free, true)] := by
    decide +kernel
  have ht : (last (Sys.init, {}) (watch orphaned)).1.handlers.map (·.phase) = [.finished] := by decide +kernel
  have ha : decide (0 ∈ (last (Sys.init, {}) (watch orphaned)).2.again) = true := by decide +kernel
  generalize last (Sys.init, {}) (watch orphaned) = x at *
  obtain ⟨t, l, hl, he, hnil⟩ := List.map_eq_cons_iff.mp hm
  obtain rfl := List.map_eq_nil_iff.mp hnil
  obtain ⟨k, l', hl', hk, hnil⟩ := List.map_eq_cons_iff.mp ht
  obtain rfl := List.map_eq_nil_iff.mp hnil
  simp only [Prod.mk.injEq, decide_eq_true_eq] at he
  have ended : ∀ (j : HandlerId) (k' : HandlerTask), x.1.handlers[j]? = some k' → ¬ k'.Running :=
    fun j k' hj hr => by
      rw [hl', List.getElem?_singleton] at hj
      split at hj <;> cases hj
      exact hr hk
  have hwait : ∀ m h u, ¬ x.1.registry.Awaits m h u := fun m h u hw => by
    simp only [Registry.Awaits, registry, stage, hl, List.getElem?_singleton] at hw
    split at hw
    · next t' ht' =>
      split at ht' <;> cases ht'
      simp [he.2.1] at hw
    · simp at hw
  obtain ⟨j, k', -, hj, hr, -⟩ := h (fun j k' hj hr => absurd hr (ended j k' hj)) hwait 0 t
    (by rw [hl]; rfl) he.1 (of_decide_eq_true ha) sampleUuid he.2.2
  exact ended j k' hj hr

end Sys

end OdysseyHub
