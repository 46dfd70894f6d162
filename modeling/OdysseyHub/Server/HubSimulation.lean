import OdysseyHub.Server.ScanSimulation

/-!
# The hub managers on the registry

A step of a hub manager is the step `Sys.managerOp` of the registry
(`manager_simulates`).  The shape is that of the scan: `hub_moved` for the steps that
only move on, `hub_step` for the others.
-/

namespace OdysseyHub

open HandlerTask Registry Slots

namespace Sys

section
variable {s s' : Sys} {m : ManagerId} {t t' : ManagerTask}

section
variable (hm : s.managers[m]? = some t) (hm' : s'.managers = s.managers.set m t')
include hm hm'

theorem hub_stage (hsc : s'.scan = s.scan) :
    s'.stage = Function.update s.stage (.manager m) t'.state.stage := by
  funext c
  cases c with
  | scan => simp [stage, hsc]
  | manager k =>
    simp only [stage, hm', getElem?_set_of_some hm, Function.update_apply, Creator.manager.injEq]
    by_cases hk : k = m
    · simp [hk]
    · simp [hk, Ne.symm hk]

theorem hub_tracks : s'.tracks = Function.update s.tracks m t'.tracks := by
  funext k addr
  rw [Function.update_apply]
  simp only [tracks, hm', getElem?_set_of_some hm]
  by_cases hk : k = m
  · simp [hk]
  · simp [hk, Ne.symm hk, tracks]

theorem hub_others (hsc : s'.scan = s.scan) :
    ∀ c ≠ Creator.manager m, s'.holdsLock c = s.holdsLock c := by
  intro c hc
  cases c with
  | scan => simp only [holdsLock, hsc]
  | manager k =>
    have hk : m ≠ k := fun h => hc (by rw [h])
    simp [holdsLock, hm', getElem?_set_of_some hm, hk]

theorem hub_holdsLock : s'.holdsLock (.manager m) = t'.state.holdsLock := by
  simp [holdsLock, hm', getElem?_set_of_some hm]

theorem hub_unlocked (hlk : t'.state.holdsLock = false) : s'.holdsLock (.manager m) = false :=
  (hub_holdsLock hm hm').trans hlk

omit hm hm' in
/-- A step of a manager, from what it does to the tables. -/
theorem hub_step {op : Op} {R : Registry} (hc : Core s.registry op R) (hm : s.managers[m]? = some t)
    (hm' : s'.managers = s.managers.set m t') (hsc : s'.scan = s.scan)
    (hh : (fun u => s'.deviceHandles.lookup u) = R.handles) (hd : s'.directUsbHandlerUuids = R.direct)
    (ht : s'.handlers = R.tasks)
    (hst : Function.update s.stage (.manager m) t'.state.stage = R.stage)
    (hse : s'.drained.senderForUuid = R.senders) (hsh : ∀ h, s'.Shared h → R.shared h)
    (htr : ∀ k addr u, Function.update s.tracks m t'.tracks k addr = some u →
      R.tracks k addr = some u) : s.registry.Step op s'.registry := by
  refine ⟨R, hc, ⟨hh, hd, ht, (hub_stage hm hm' hsc).trans hst, hse, hsh, fun k addr u h => ?_⟩⟩
  apply htr
  rw [← hub_tracks hm hm']
  exact h

omit hm' in
theorem hub_stage_same (hs : t'.state.stage = t.state.stage) :
    Function.update s.stage (.manager m) t'.state.stage = s.stage := by
  have h : s.stage (.manager m) = t.state.stage := by simp only [stage, hm]
  rw [hs, ← h]
  exact Function.update_eq_self (Creator.manager m) s.stage

omit hm' in
theorem tracks_of_some : s.tracks m = t.tracks := by
  funext addr
  simp only [tracks, hm]

omit hm' in
/-- Tracking less, or the same. -/
theorem hub_tracks_less (h : ∀ addr u, t'.tracks addr = some u → t.tracks addr = some u) :
    ∀ k addr u, Function.update s.tracks m t'.tracks k addr = some u →
      s.tracks k addr = some u := by
  intro k addr u hk
  rw [Function.update_apply] at hk
  split at hk
  · next he =>
    subst he
    have := h addr u hk
    simpa only [tracks, hm] using this
  · exact hk

/-- A manager moves on outside the lock, and no sender is gained or lost. -/
theorem hub_moved (L : s.LockInv) (hsc : s'.scan = s.scan)
    (hh : s'.deviceHandles = s.deviceHandles)
    (hd : s'.directUsbHandlerUuids = s.directUsbHandlerUuids) (ht : s'.handlers = s.handlers)
    (hl : s'.handlesLock = s.handlesLock) (hse : s'.drained = s.drained)
    (hsh : ∀ h, s'.Shared h → s.Shared h) (hs : t'.state.stage = t.state.stage)
    (hlk : t'.state.holdsLock = false)
    (htr : ∀ addr u, t'.tracks addr = some u → t.tracks addr = some u) :
    s'.LockInv ∧ s.registry.Step .quiet s'.registry := by
  refine ⟨L.keep (c := .manager m) (hub_others hm hm' hsc) (fun h => ?_) hl,
    hub_step .quiet hm hm' hsc (by rw [hh]; rfl) hd ht (hub_stage_same hm hs) (by rw [hse]; rfl) hsh
      (hub_tracks_less hm htr)⟩
  rw [hub_holdsLock hm hm', hlk] at h
  cases h

end

theorem goto_tracks {st : ManagerState} (h : st.inLoop = true → t.state.inLoop = true) :
    ∀ addr u, ({ t with state := st } : ManagerTask).tracks addr = some u →
      t.tracks addr = some u := by
  intro addr u ha
  obtain ⟨hl, hmem, hu⟩ := ManagerTask.tracks_eq_some.mp ha
  exact ManagerTask.tracks_eq_some.mpr ⟨h hl, hmem, hu⟩

/-- The address `a.addr` is tracked now. -/
theorem track_tracks {a : Adding} {st : ManagerState} (hst : st.inLoop = true)
    (ht : t.state.inLoop = true) :
    ({ HubManager.track t a with state := st } : ManagerTask).tracks =
      Function.update t.tracks a.addr (some a.probe.uuid) := by
  funext addr
  rw [Function.update_apply]
  by_cases h : addr = a.addr
  · subst h
    simp [ManagerTask.tracks, HubManager.track, hst, ManagerTask.uuidOf]
  · simp [ManagerTask.tracks, HubManager.track, hst, ht, ManagerTask.uuidOf, h,
      Finmap.lookup_insert_of_ne _ h]

/-- A message about a dongle. -/
inductive IsDongle : Message → Prop
  | connect (info : DongleInfo) (k : ManagerId) : IsDongle (.dongleConnect info k)
  | update (info : DongleInfo) : IsDongle (.dongleUpdate info)
  | disconnect (id : String) : IsDongle (.dongleDisconnect id)

theorem drained_post_dongle {msg : Message} (hd : IsDongle msg) : (s.post msg).drained = s.drained := by
  rw [drained_post]
  cases hd <;> rfl

theorem shared_post_dongle {msg : Message} (hd : IsDongle msg) {h : HandlerId}
    (hs : (s.post msg).Shared h) : s.Shared h := by
  obtain hs | ⟨d, rfl⟩ := shared_post hs
  · exact hs
  · cases hd

theorem put_self (hm : s.managers[m]? = some t) : s.managers.set m t = s.managers := by
  obtain ⟨hlt, rfl⟩ := List.getElem?_eq_some_iff.mp hm
  exact List.set_getElem_self hlt

section
variable (L : s.LockInv) (hm : s.managers[m]? = some t)
include L hm

/-! ## Messages about the dongle -/

/-- A manager says what its dongle is, and moves on. -/
theorem hub_says {msg : Message} {st : ManagerState} (hd : IsDongle msg) (hs : st.stage = t.state.stage)
    (hlk : st.holdsLock = false) (hin : st.inLoop = true → t.state.inLoop = true) :
    ((HubManager.goto s m t st).post msg).LockInv ∧
      s.registry.Step .quiet ((HubManager.goto s m t st).post msg).registry :=
  hub_moved hm rfl L rfl rfl rfl rfl rfl (drained_post_dongle hd) (fun _ => shared_post_dongle hd) hs hlk
    (goto_tracks hin)

theorem hub_clearBonds_simulates {connected : List Uuid}
    (h : HubManager.Stepped s m t (.clearBonds connected) s') :
    s'.LockInv ∧ s.registry.Step .quiet s'.registry := by
  cases h with
  | clearBonds hst =>
    have hput : (s.post (.dongleUpdate (t.info connected []))).managers = s.managers.set m t :=
      (put_self hm).symm
    exact hub_moved hm hput L rfl rfl rfl rfl rfl (drained_post_dongle (.update _))
      (fun _ => shared_post_dongle (.update _)) rfl (by rw [hst]; rfl) fun _ _ => id

/-! ## Merging and creating -/

theorem hub_lock_simulates (h : HubManager.Stepped s m t .lock s') :
    s'.LockInv ∧ s.registry.Step (s.managerOp m t .lock) s'.registry := by
  cases h with
  | @lock a hst hl =>
    simp only [managerOp, hst]
    refine ⟨L.acquire (c := .manager m) (hub_others hm rfl rfl) hl rfl, ?_⟩
    have htr : ∀ k addr u,
        Function.update s.tracks m ({ t with state := .checking a } : ManagerTask).tracks k addr =
          some u → s.tracks k addr = some u :=
      hub_tracks_less hm (goto_tracks fun _ => by rw [hst]; rfl)
    split
    · next he =>
      exact hub_step (.evict (L.unlocked_of_none hl) fun u hu => by
          rw [List.mem_singleton.mp hu]; exact staleEntry_iff.mp he) hm rfl rfl
        (by simp only [HubManager.goto, HubManager.put]; exact registry_evict_erase _ _) rfl rfl
        (hub_stage_same hm (by rw [hst]; rfl)) rfl (fun _ => id) htr
    · next he =>
      exact hub_step .quiet hm rfl rfl (by simp [HubManager.goto, HubManager.put, registry]) rfl rfl
        (hub_stage_same hm (by rw [hst]; rfl)) rfl (fun _ => id) htr

theorem hub_merge_simulates (h : HubManager.Stepped s m t .merge s') :
    s'.LockInv ∧ s.registry.Step (s.managerOp m t .merge) s'.registry := by
  cases h with
  | merge hst hk =>
    simp only [managerOp, hst, hk]
    have hold : s.holdsLock (.manager m) = true := by simp [holdsLock, hm, hst, ManagerState.holdsLock]
    have hfree : s.stage (.manager m) = .free := by simp [stage, hm, hst, ManagerState.stage]
    refine ⟨L.release (c := .manager m) (hub_others hm rfl rfl) (L _ hold)
      (hub_unlocked hm rfl rfl), hub_step (.merge (L.unlocked_of_free hold hfree) hfree hk) hm rfl rfl rfl rfl rfl
        (hub_stage_same hm (by rw [hst]; rfl)) rfl (fun _ => id) ?_⟩
    rw [track_tracks rfl (by rw [hst]; rfl), ← tracks_of_some hm]
    exact fun _ _ _ => id

theorem hub_spawn_simulates (h : HubManager.Stepped s m t .spawn s') :
    s'.LockInv ∧ s.registry.Step (s.managerOp m t .spawn) s'.registry := by
  cases h with
  | @spawn a hst hk =>
    simp only [managerOp, hst]
    have hold : s.holdsLock (.manager m) = true := by simp [holdsLock, hm, hst, ManagerState.holdsLock]
    have hfree : s.stage (.manager m) = .free := by simp [stage, hm, hst, ManagerState.stage]
    have hfresh : Fresh (.manager m) (.spawned (muxHandler a.probe m 0)) :=
      ⟨rfl, rfl, wellFormed_spawned rfl, fun hc => by cases hc⟩
    exact ⟨L.release (c := .manager m) (hub_others hm rfl rfl) (L _ hold) (hub_unlocked hm rfl rfl),
      hub_step (.spawn hfree hk hfresh) hm rfl rfl rfl rfl rfl rfl rfl (fun _ => id)
        (hub_tracks_less hm (goto_tracks fun _ => by rw [hst]; rfl))⟩

theorem hub_insert_simulates (h : HubManager.Stepped s m t .insert s') :
    s'.LockInv ∧ s.registry.Step (s.managerOp m t .insert) s'.registry := by
  cases h with
  | @insert a k hst hl =>
    simp only [managerOp, hst]
    have hsp : s.stage (.manager m) = .spawned k a.probe.uuid := by
      simp [stage, hm, hst, ManagerState.stage]
    refine ⟨L.acquire (c := .manager m) (hub_others hm rfl rfl) hl rfl,
      hub_step (.insertHub (L.unlocked_of_none hl) hsp) hm rfl rfl
        (lookup_insert s.deviceHandles a.probe.uuid k) rfl rfl rfl rfl (fun _ => id) ?_⟩
    rw [track_tracks rfl (by rw [hst]; rfl), ← tracks_of_some hm]
    exact fun _ _ _ => id

theorem hub_connect_simulates (h : HubManager.Stepped s m t .connect s') :
    s'.LockInv ∧ s.registry.Step (s.managerOp m t .connect) s'.registry := by
  cases h with
  | @connect a k hst =>
    simp only [managerOp, hst]
    have hold : s.holdsLock (.manager m) = true := by simp [holdsLock, hm, hst, ManagerState.holdsLock]
    have han : s.stage (.manager m) = .announcing k a.probe.uuid := by
      simp [stage, hm, hst, ManagerState.stage]
    refine ⟨L.keep (c := .manager m) (hub_others hm rfl rfl) (fun _ => hold) rfl,
      hub_step (.announce han) hm rfl rfl rfl rfl rfl rfl ?_ (fun j hj => ?_)
        (hub_tracks_less hm (goto_tracks fun _ => by rw [hst]; rfl))⟩
    · rw [drained_post]
      exact senders_connect s.drained (muxDeviceMeta a.probe) k
    · obtain hj | ⟨d, hd⟩ := shared_post hj
      · exact .inl hj
      · cases hd
        exact .inr rfl

theorem hub_queue_simulates (h : HubManager.Stepped s m t .queue s') :
    s'.LockInv ∧ s.registry.Step (s.managerOp m t .queue) s'.registry := by
  cases h with
  | @queue a k hst =>
    simp only [managerOp, hst]
    have hold : s.holdsLock (.manager m) = true := by simp [holdsLock, hm, hst, ManagerState.holdsLock]
    have han : s.stage (.manager m) = .announced k a.probe.uuid := by
      simp [stage, hm, hst, ManagerState.stage]
    exact ⟨L.release (c := .manager m) (hub_others hm rfl rfl) (L _ hold) (hub_unlocked hm rfl rfl),
      hub_step (.queue han) hm rfl rfl rfl rfl rfl rfl rfl (fun _ => id)
        (hub_tracks_less hm (goto_tracks fun _ => by rw [hst]; rfl))⟩

/-! ## Removals and the abort -/

theorem hub_untrack_simulates (h : HubManager.Stepped s m t .untrack s') :
    s'.LockInv ∧ s.registry.Step .quiet s'.registry := by
  cases h with
  | untrack hst =>
    refine hub_moved hm rfl L rfl rfl rfl rfl rfl rfl (fun _ => id) (by rw [hst]; rfl) rfl
      fun a u ha => ?_
    obtain ⟨-, hmem, hu⟩ := ManagerTask.tracks_eq_some.mp ha
    obtain ⟨hne, hmem'⟩ := Finset.mem_erase.mp hmem
    refine ManagerTask.tracks_eq_some.mpr ⟨by rw [hst]; rfl, hmem', ?_⟩
    rw [← hu]
    simp [ManagerTask.uuidOf, Finmap.lookup_erase_ne hne]

/-- `RemoveEventsDevice` goes out while nobody has the lock. -/
theorem removal_simulates {st : ManagerState} {u : Uuid} (hl : s.handlesLock = none)
    (hs : st.stage = t.state.stage) (hlk : st.holdsLock = false)
    (hin : st.inLoop = true → t.state.inLoop = true) :
    (HubManager.sendRemoval (HubManager.goto s m t st) u).LockInv ∧
      s.registry.Step (s.removal u) (HubManager.sendRemoval (HubManager.goto s m t st) u).registry := by
  have hlk' : (HubManager.goto s m t st).LockInv :=
    L.keep (c := .manager m) (hub_others hm rfl rfl) (fun hc => by
      rw [hub_holdsLock hm rfl] at hc
      exact absurd hc (by simp [hlk])) rfl
  have htr := hub_tracks_less hm (goto_tracks hin)
  unfold removal
  cases hu : s.deviceHandles.lookup u with
  | some k =>
    have hu' : (HubManager.goto s m t st).deviceHandles.lookup u = some k := hu
    rw [HubManager.sendRemoval_of_some hu']
    exact ⟨hlk', hub_step (.sendLink (L.unlocked_of_none hl) hu rfl (.inl rfl)) hm rfl rfl rfl rfl rfl
      (hub_stage_same hm hs) rfl (fun _ => id) htr⟩
  | none =>
    have hu' : (HubManager.goto s m t st).deviceHandles.lookup u = none := hu
    rw [HubManager.sendRemoval_of_none hu']
    exact ⟨hlk', hub_step .quiet hm rfl rfl rfl rfl rfl (hub_stage_same hm hs) rfl (fun _ => id) htr⟩

theorem hub_abort_simulates (h : HubManager.Stepped s m t .abort s') :
    s'.LockInv ∧ s.registry.Step (.abort m) s'.registry := by
  cases h with
  | abort =>
    refine ⟨?_, hub_step .abort hm rfl rfl rfl rfl rfl rfl rfl (fun _ => id) fun k addr u hk => ?_⟩
    · by_cases hl : s.handlesLock = some (.manager m)
      · exact L.release (c := .manager m) (hub_others hm rfl rfl) hl (hub_unlocked hm rfl rfl)
      · refine L.keep (c := .manager m) (hub_others hm rfl rfl) (fun hc => ?_)
          (by simp [HubManager.goto, HubManager.put, hl])
        rw [hub_holdsLock hm rfl] at hc
        cases hc
    · have he : ({ t with state := .aborted } : ManagerTask).tracks = fun _ => none := by
        funext a
        simp [ManagerTask.tracks, ManagerState.inLoop]
      rw [he] at hk
      exact hk

/-! ## All steps -/

theorem manager_simulates {e : ManagerEvent} (h : s.managerStep m e = some s') :
    s'.LockInv ∧ s.registry.Step (s.managerOp m t e) s'.registry := by
  obtain ⟨t₁, ht₁, hs⟩ := managerStep_stepped h
  obtain rfl : t = t₁ := Option.some.inj (hm.symm.trans ht₁)
  cases hs with
  | listed hst | unlisted hst =>
    exact hub_moved hm rfl L rfl rfl rfl rfl rfl rfl (fun _ => id) (by rw [hst]; rfl) rfl
      (goto_tracks (t := t) fun _ => by rw [hst]; rfl)
  -- the manager moves on within its loop
  | initial hst | refreshing hst | adding hst | receiveError hst
  | refreshed hst | unrefreshed hst | connectFailed hst | probe hst | removed hst | rebonded hst
  | unrebonded hst =>
    exact hub_moved hm rfl L rfl rfl rfl rfl rfl rfl (fun _ => id) (by rw [hst]; rfl) rfl
      (goto_tracks fun _ => by rw [hst]; rfl)
  | finish hst =>
    exact hub_moved hm rfl L rfl rfl rfl rfl rfl rfl (fun _ => id) (by rw [hst]; rfl) rfl
      (goto_tracks fun hf => by cases hf)
  | register hst => exact hub_says L hm (.connect _ _) (by rw [hst]; rfl) rfl fun _ => by rw [hst]; rfl
  | update hst => exact hub_says L hm (.update _) (by rw [hst]; rfl) rfl fun _ => by rw [hst]; rfl
  | unregister hst => exact hub_says L hm (.disconnect _) (by rw [hst]; rfl) rfl fun hf => by cases hf
  | clearBonds hst hnd hfin => exact hub_clearBonds_simulates L hm (.clearBonds hst hnd hfin)
  | lock hst hl => exact hub_lock_simulates L hm (.lock hst hl)
  | merge hst hk => exact hub_merge_simulates L hm (.merge hst hk)
  | spawn hst hk => exact hub_spawn_simulates L hm (.spawn hst hk)
  | insert hst hl => exact hub_insert_simulates L hm (.insert hst hl)
  | connect hst => exact hub_connect_simulates L hm (.connect hst)
  | queue hst => exact hub_queue_simulates L hm (.queue hst)
  | untrack hst => exact hub_untrack_simulates L hm (.untrack hst)
  | removeEvents hst hl =>
    simp only [managerOp, hst]
    exact removal_simulates L hm hl (by rw [hst]; rfl) rfl fun _ => by rw [hst]; rfl
  | clean hst hl =>
    simp only [managerOp, hst]
    exact removal_simulates L hm hl (by rw [hst]; rfl) rfl fun hc => by cases hc
  | abort hm hf => exact hub_abort_simulates L ht₁ (.abort hm hf)

end

end

end Sys

end OdysseyHub
