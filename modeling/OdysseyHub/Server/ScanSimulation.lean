import OdysseyHub.Server.Frames
import OdysseyHub.Server.RegistryView

/-!
# The scan loop on the registry

A step of the scan is the step `Sys.scanOp` of the registry (`scan_simulates`),
between states in which a task at a point under the lock of `device_handles` holds
that lock (`LockInv`).  Most steps only move on (`scan_moved`); the others say what
they do to the tables (`scan_step`).
-/

namespace OdysseyHub

open HandlerTask Registry

/-! ## The lock -/

def ScanState.holdsLock : ScanState → Bool
  | .checking _ _ | .inserted _ _ _ | .unplugging _ (_ :: _) => true
  | _ => false

def ManagerState.holdsLock : ManagerState → Bool
  | .checking _ | .connecting _ _ | .queueing _ _ => true
  | _ => false

namespace Sys

def holdsLock (s : Sys) : Creator → Bool
  | .scan => s.scan.holdsLock
  | .manager m => (s.managers[m]?).any (·.state.holdsLock)

/-- A task at a point under the lock holds it. -/
def LockInv (s : Sys) : Prop := ∀ c, s.holdsLock c = true → s.handlesLock = some c

section
variable {s s' : Sys} {c : Creator} (L : s.LockInv)
  (ho : ∀ c' ≠ c, s'.holdsLock c' = s.holdsLock c')
include L ho

theorem LockInv.keep (hc : s'.holdsLock c = true → s.holdsLock c = true)
    (hl : s'.handlesLock = s.handlesLock) : s'.LockInv := by
  intro c' h
  rw [hl]
  rcases eq_or_ne c' c with rfl | hne
  · exact L _ (hc h)
  · exact L _ (ho c' hne ▸ h)

theorem LockInv.acquire (h₀ : s.handlesLock = none) (h₁ : s'.handlesLock = some c) : s'.LockInv := by
  intro c' h
  rcases eq_or_ne c' c with rfl | hne
  · exact h₁
  · have := L _ (ho c' hne ▸ h)
    rw [h₀] at this
    cases this

theorem LockInv.release (h₀ : s.handlesLock = some c) (hc : s'.holdsLock c = false) : s'.LockInv := by
  intro c' h
  rcases eq_or_ne c' c with rfl | hne
  · rw [hc] at h
    cases h
  · have := L _ (ho c' hne ▸ h)
    rw [h₀] at this
    exact absurd (Option.some.inj this).symm hne

end

theorem holdsLock_of_locks {s : Sys} {c : Creator} (h : (s.stage c).locks c = true) :
    s.holdsLock c = true := by
  cases c with
  | scan =>
    change Stage.locks .scan s.scan.stage = true at h
    show s.scan.holdsLock = true
    cases hs : s.scan <;> rw [hs] at h <;> first | rfl | cases h
  | manager m =>
    simp only [stage] at h
    simp only [holdsLock]
    cases hm : s.managers[m]? with
    | none => rw [hm] at h; cases h
    | some t =>
      rw [hm] at h
      change Stage.locks (.manager m) t.state.stage = true at h
      show t.state.holdsLock = true
      cases hs : t.state <;> rw [hs] at h <;> first | rfl | cases h

theorem LockInv.unlocked_of_none {s : Sys} (L : s.LockInv) (h : s.handlesLock = none) :
    s.registry.Unlocked := by
  intro c
  cases hc : (s.stage c).locks c with
  | false => exact hc
  | true =>
    have := L c (holdsLock_of_locks hc)
    rw [h] at this
    cases this

theorem LockInv.unlocked_of_free {s : Sys} (L : s.LockInv) {c : Creator} (h : s.holdsLock c = true)
    (hf : s.stage c = .free) : s.registry.Unlocked := by
  intro c'
  cases hc : (s.stage c').locks c' with
  | false => exact hc
  | true =>
    have h' := L c' (holdsLock_of_locks hc)
    rw [L c h] at h'
    cases h'
    rw [hf] at hc
    cases c <;> cases hc

/-! ## Steps that leave the tables alone -/

/-- The tables the registry is read off. -/
structure SameTables (s s' : Sys) : Prop where
  handles : s'.deviceHandles = s.deviceHandles
  direct : s'.directUsbHandlerUuids = s.directUsbHandlerUuids
  handlers : s'.handlers = s.handlers
  channel : s'.messageChannel = s.messageChannel
  list : s'.deviceList = s.deviceList
  calls : s'.calls = s.calls

theorem SameTables.quiet {s s' : Sys} (T : SameTables s s') (hst : ∀ c, s'.stage c = s.stage c)
    (htr : ∀ m addr u, s'.tracks m addr = some u → s.tracks m addr = some u) :
    s.registry.Step .quiet s'.registry := by
  refine ⟨_, .quiet, ?_⟩
  exact
    { handles := by simp only [registry, T.handles]
      direct := T.direct
      tasks := T.handlers
      stage := funext hst
      senders := by simp only [registry, drained, T.channel, T.list]
      shared := fun h hs => by
        simpa only [registry, Shared, T.channel, T.list, T.calls] using hs
      tracks := htr }

/-! ## The message channel -/

theorem drained_post (s : Sys) (m : Message) : (s.post m).drained = s.drained.forward m := by
  simp [drained, post]

theorem shared_post {s : Sys} {m : Message} {h : HandlerId} (hs : (s.post m).Shared h) :
    s.Shared h ∨ ∃ d, m = .connect d (some h) := by
  obtain hs | ⟨d, hd⟩ | hs := hs
  · exact .inl (.inl hs)
  · obtain hd | hd := List.mem_append.mp hd
    · exact .inl (.inr (.inl ⟨d, hd⟩))
    · exact .inr ⟨d, (List.mem_singleton.mp hd).symm⟩
  · exact .inl (.inr (.inr hs))

theorem senders_connect (l : DeviceList) (d : Device) (h : HandlerId) :
    (l.forward (.connect d (some h))).senderForUuid =
      Function.update l.senderForUuid d.uuid (some (some h)) := by
  funext u
  rw [DeviceList.senderForUuid_connect_some, Function.update_apply]

theorem senders_surface (l : DeviceList) (d : Device) :
    (l.forward (.connect d none)).senderForUuid =
      Function.update l.senderForUuid d.uuid (some ((l.senderForUuid d.uuid).getD none)) := by
  funext u
  rw [DeviceList.senderForUuid_connect_none, Function.update_apply]
  split
  · next h => rw [h]
  · rfl

theorem senders_disconnect (l : DeviceList) (d : Device) :
    (l.forward (.disconnect d)).senderForUuid =
      Function.update l.senderForUuid d.uuid ((l.forward (.disconnect d)).senderForUuid d.uuid) := by
  funext u
  rw [Function.update_apply]
  split
  · next h => rw [h]
  · next h => exact DeviceList.senderForUuid_disconnect d h

theorem lookup_insert (t : Table Uuid HandlerId) (u : Uuid) (h : HandlerId) :
    (fun v => (t.insert u h).lookup v) = Function.update (fun v => t.lookup v) u (some h) := by
  funext v
  rw [Function.update_apply]
  split
  · next hv => rw [hv, Finmap.lookup_insert]
  · next hv => rw [Finmap.lookup_insert_of_ne t hv]

/-! ## The scan -/

section
variable {s s' : Sys}

theorem scan_others (hm : s'.managers = s.managers) :
    ∀ c ≠ Creator.scan, s'.holdsLock c = s.holdsLock c := by
  intro c hc
  cases c with
  | scan => exact absurd rfl hc
  | manager m => simp only [holdsLock, hm]

theorem scan_stage (hm : s'.managers = s.managers) :
    s'.stage = Function.update s.stage .scan s'.scan.stage := by
  funext c
  cases c with
  | scan => simp [stage]
  | manager m => simp [stage, hm]

theorem scan_tracks (hm : s'.managers = s.managers) : s'.tracks = s.tracks := by
  funext m addr
  simp only [tracks, hm]

/-- A step of the scan that only moves on. -/
theorem scan_quiet (T : SameTables s s') (hm : s'.managers = s.managers)
    (hs : s'.scan.stage = s.scan.stage) : s.registry.Step .quiet s'.registry := by
  refine T.quiet (fun c => ?_) fun m addr u h => ?_
  · rw [scan_stage hm, hs]
    exact congrFun (Function.update_eq_self Creator.scan s.stage) c
  · rwa [scan_tracks hm] at h

theorem staleEntry_iff {u : Uuid} : s.staleEntry u = true ↔
    ∃ h t, s.deviceHandles.lookup u = some h ∧ s.handlers[h]? = some t ∧ ¬ t.Running := by
  unfold staleEntry
  split
  · next h hu =>
    simp only [Option.any_eq_true, isFinished_iff, Running, not_not]
    constructor
    · rintro ⟨t, ht, hp⟩
      exact ⟨h, t, hu, ht, hp⟩
    · rintro ⟨h', t, hu', ht, hp⟩
      rw [hu] at hu'
      cases hu'
      exact ⟨t, ht, hp⟩
  · next hu => simp [hu]

theorem lookup_foldr_erase (us : List Uuid) (t : Table Uuid HandlerId) (u : Uuid) :
    (us.foldr Finmap.erase t).lookup u = if u ∈ us then none else t.lookup u := by
  induction us with
  | nil => simp
  | cons v us ih =>
    rw [List.foldr_cons]
    by_cases h : u = v
    · subst h
      simp
    · rw [Finmap.lookup_erase_ne h, ih]
      simp [h]

theorem registry_evict_erase (t : Table Uuid HandlerId) (u : Uuid) :
    (fun v => (t.erase u).lookup v) = fun v => if v ∈ [u] then none else t.lookup v := by
  funext v
  by_cases h : v = u
  · subst h
    simp
  · simp [h, Finmap.lookup_erase_ne h]

theorem scan_stage_same (hs : s'.scan.stage = s.scan.stage) :
    Function.update s.stage .scan s'.scan.stage = s.stage := by
  rw [hs]
  exact Function.update_eq_self Creator.scan s.stage

/-- A step of the scan, from what it does to the tables. -/
theorem scan_step {op : Op} {R : Registry} (hc : Core s.registry op R) (hm : s'.managers = s.managers)
    (hh : (fun u => s'.deviceHandles.lookup u) = R.handles) (hd : s'.directUsbHandlerUuids = R.direct)
    (ht : s'.handlers = R.tasks) (hst : Function.update s.stage .scan s'.scan.stage = R.stage)
    (hse : s'.drained.senderForUuid = R.senders) (hsh : ∀ h, s'.Shared h → R.shared h)
    (htr : s.tracks = R.tracks) : s.registry.Step op s'.registry := by
  refine ⟨R, hc, ⟨hh, hd, ht, (scan_stage hm).trans hst, hse, hsh, fun m addr u h => ?_⟩⟩
  rw [← htr, ← scan_tracks hm]
  exact h

variable (L : s.LockInv)
include L

theorem cleanup_simulates {finished : List Uuid} (h : Scan.cleanup s finished = some s') :
    s'.LockInv ∧ s.registry.Step (.evict finished true) s'.registry := by
  unfold Scan.cleanup at h
  split at h
  · next devices hs =>
    split at h
    · next hg =>
      cases h
      have hst : ∀ u ∈ finished, s.staleEntry u = true := fun u hu => by
        have := List.mem_toFinset.mpr hu
        rw [hg.2] at this
        exact (Finset.mem_filter.mp this).2
      refine ⟨L.keep (c := .scan) (scan_others rfl) (fun hc => by cases hc) rfl,
        scan_step (.evict (L.unlocked_of_none hg.1) fun u hu => staleEntry_iff.mp (hst u hu)) rfl ?_ rfl
          rfl (scan_stage_same (by rw [hs]; rfl)) rfl (fun _ => id) rfl⟩
      funext u
      exact lookup_foldr_erase finished s.deviceHandles u
    · cases h
  · cases h

theorem lock_simulates (h : Scan.lock s = some s') :
    s'.LockInv ∧ s.registry.Step (s.scanOp .lock) s'.registry := by
  unfold Scan.lock at h
  split at h
  · next l p hs =>
    split at h
    · next hl =>
      simp only [scanOp, hs]
      split at h
      · next hst =>
        cases h
        rw [if_pos hst]
        refine ⟨L.acquire (c := .scan) (scan_others rfl) hl rfl,
          scan_step (.evict (L.unlocked_of_none hl) fun u hu => ?_) rfl
            (registry_evict_erase _ _) ?_ rfl (scan_stage_same (by rw [hs]; rfl)) rfl (fun _ => id) rfl⟩
        · rw [List.mem_singleton.mp hu]
          exact staleEntry_iff.mp hst
        · simp [Registry.evict, registry, Finset.sdiff_singleton_eq_erase]
      · next hst =>
        cases h
        rw [if_neg hst]
        exact ⟨L.acquire (c := .scan) (scan_others rfl) hl rfl,
          scan_quiet ⟨rfl, rfl, rfl, rfl, rfl, rfl⟩ rfl (by rw [hs]; rfl)⟩
    · cases h
  · cases h

theorem merge_simulates (h : Scan.merge s = some s') :
    s'.LockInv ∧ s.registry.Step (s.scanOp .merge) s'.registry := by
  unfold Scan.merge at h
  split at h
  · next l p hs =>
    have hold : s.holdsLock .scan = true := by simp only [holdsLock, hs]; rfl
    split at h
    · next k hk =>
      simp only [scanOp, hs, hk]
      split at h
      · next hd =>
        cases h
        rw [if_pos hd]
        exact ⟨L.release (c := .scan) (scan_others rfl) (L _ hold) rfl,
          scan_quiet ⟨rfl, rfl, rfl, rfl, rfl, rfl⟩ rfl (by rw [hs]; rfl)⟩
      · next hd =>
        cases h
        rw [if_neg hd]
        have hfree : s.stage .scan = .free := by simp only [stage, hs]; rfl
        exact ⟨L.release (c := .scan) (scan_others rfl) (L _ hold) rfl,
          scan_step (.sendLink (L.unlocked_of_free hold hfree) hk rfl (.inr hfree)) rfl rfl rfl rfl
            (scan_stage_same (by rw [hs]; rfl)) rfl (fun _ => id) rfl⟩
    · cases h
  · cases h

theorem spawn_simulates (h : Scan.spawn s = some s') :
    s'.LockInv ∧ s.registry.Step (s.scanOp .spawn) s'.registry := by
  unfold Scan.spawn at h
  split at h
  · next l p hs =>
    have hold : s.holdsLock .scan = true := by simp only [holdsLock, hs]; rfl
    split at h
    · cases h
    · next hk =>
      cases h
      simp only [scanOp, hs]
      have hfree : s.stage .scan = .free := by simp only [stage, hs]; rfl
      have hfresh : Fresh .scan (.spawned (usbHandler p 0)) :=
        ⟨rfl, rfl, wellFormed_spawned rfl, fun _ => rfl⟩
      exact ⟨L.release (c := .scan) (scan_others rfl) (L _ hold) rfl,
        scan_step (.spawn hfree hk hfresh) rfl rfl rfl rfl rfl rfl (fun _ => id) rfl⟩
  · cases h

theorem insert_simulates (h : Scan.insert s = some s') :
    s'.LockInv ∧ s.registry.Step (s.scanOp .insert) s'.registry := by
  unfold Scan.insert at h
  split at h
  · next l p k hs =>
    split at h
    · next hl =>
      cases h
      simp only [scanOp, hs]
      have hst : s.stage .scan = .spawned k p.uuid := by simp only [stage, hs]; rfl
      refine ⟨L.acquire (c := .scan) (scan_others rfl) hl rfl,
        scan_step (.insertScan (L.unlocked_of_none hl) hst) rfl ?_ rfl rfl rfl rfl (fun _ => id) rfl⟩
      exact lookup_insert s.deviceHandles p.uuid k
    · cases h
  · cases h

theorem insertDirect_simulates (h : Scan.insertDirect s = some s') :
    s'.LockInv ∧ s.registry.Step (s.scanOp .insertDirect) s'.registry := by
  unfold Scan.insertDirect at h
  split at h
  · next l p k hs =>
    cases h
    simp only [scanOp, hs]
    have hold : s.holdsLock .scan = true := by simp only [holdsLock, hs]; rfl
    have hst : s.stage .scan = .inserted k p.uuid := by simp only [stage, hs]; rfl
    exact ⟨L.release (c := .scan) (scan_others rfl) (L _ hold) rfl,
      scan_step (.insertDirect hst) rfl rfl rfl rfl rfl rfl (fun _ => id) rfl⟩
  · cases h

theorem connect_simulates (h : Scan.connect s = some s') :
    s'.LockInv ∧ s.registry.Step (s.scanOp .connect) s'.registry := by
  unfold Scan.connect at h
  split at h
  · next l p k hs =>
    cases h
    simp only [scanOp, hs]
    have hst : s.stage .scan = .announcing k p.uuid := by simp only [stage, hs]; rfl
    refine ⟨L.keep (c := .scan) (scan_others rfl) (fun hc => by cases hc) rfl,
      scan_step (.announce hst) rfl rfl rfl rfl rfl ?_ (fun j hj => ?_) rfl⟩
    · rw [drained_post]
      exact senders_connect s.drained (usbDeviceMeta p) k
    · obtain hj | ⟨d, hd⟩ := shared_post hj
      · exact .inl hj
      · cases hd
        exact .inr rfl
  · cases h

theorem announceDfu_simulates (h : Scan.announceDfu s = some s') :
    s'.LockInv ∧ s.registry.Step (s.scanOp .announceDfu) s'.registry := by
  unfold Scan.announceDfu at h
  split at h
  · next l d hs =>
    cases h
    simp only [scanOp, hs]
    refine ⟨L.keep (c := .scan) (scan_others rfl) (fun hc => by cases hc) rfl,
      scan_step .surface rfl rfl rfl rfl (scan_stage_same (by rw [hs]; rfl)) ?_ (fun j hj => ?_) rfl⟩
    · rw [drained_post]
      exact senders_surface s.drained d
    · obtain hj | ⟨d, hd⟩ := shared_post hj
      · exact hj
      · cases hd
  · cases h

theorem unplug_simulates (h : Scan.unplug s = some s') :
    s'.LockInv ∧ s.registry.Step (s.scanOp .unplug) s'.registry := by
  unfold Scan.unplug at h
  split at h
  · next l usb ids hs =>
    have hold : s.holdsLock .scan = true := by simp only [holdsLock, hs]; rfl
    have hfree : s.stage .scan = .free := by simp only [stage, hs]; rfl
    simp only [scanOp, hs]
    cases hu : s.directUsbIdToUuid.lookup usb with
    | some u =>
      simp only [hu] at h ⊢
      cases hk : s.deviceHandles.lookup u with
      | some k =>
        simp only [hk] at h ⊢
        cases h
        exact ⟨L.keep (c := .scan) (scan_others rfl) (fun _ => hold) rfl,
          scan_step (.sendLink (L.unlocked_of_free hold hfree) hk rfl (.inr hfree)) rfl rfl rfl rfl
            (scan_stage_same (by rw [hs]; rfl)) rfl (fun _ => id) rfl⟩
      | none =>
        simp only [hk] at h ⊢
        cases h
        exact ⟨L.keep (c := .scan) (scan_others rfl) (fun _ => hold) rfl,
          scan_quiet ⟨rfl, rfl, rfl, rfl, rfl, rfl⟩ rfl (by rw [hs]; rfl)⟩
    | none =>
      simp only [hu] at h ⊢
      cases h
      exact ⟨L.keep (c := .scan) (scan_others rfl) (fun _ => hold) rfl,
        scan_quiet ⟨rfl, rfl, rfl, rfl, rfl, rfl⟩ rfl (by rw [hs]; rfl)⟩
  · cases h

theorem retire_simulates (h : Scan.retire s = some s') :
    s'.LockInv ∧ s.registry.Step (s.scanOp .retire) s'.registry := by
  unfold Scan.retire at h
  split at h
  · next usb ids hs =>
    simp only [scanOp, hs]
    cases hu : s.dfuDeviceIdToInfo.lookup usb with
    | some info =>
      obtain ⟨u, pid⟩ := info
      simp only [hu] at h ⊢
      cases h
      have hc := Core.retire (R := s.registry) (u := u)
        ((s.drained.forward (.disconnect (Scan.dfuMeta u pid))).senderForUuid u)
      refine ⟨L.keep (c := .scan) (scan_others rfl) (fun hc => by cases hc) rfl,
        scan_step hc rfl rfl rfl rfl (scan_stage_same (by rw [hs]; rfl)) ?_ (fun j hj => ?_) rfl⟩
      · rw [drained_post]
        exact senders_disconnect s.drained (Scan.dfuMeta u pid)
      · obtain hj | ⟨d, hd⟩ := shared_post hj
        · exact hj
        · cases hd
    | none =>
      simp only [hu] at h ⊢
      cases h
      exact ⟨L.keep (c := .scan) (scan_others rfl) (fun hc => by cases hc) rfl,
        scan_quiet ⟨rfl, rfl, rfl, rfl, rfl, rfl⟩ rfl (by rw [hs]; rfl)⟩
  · cases h

omit L in
/-- Nobody can tell a manager that has just been spawned from none. -/
theorem spawned_manager {α : Type} {d : UsbEntry} (f : Option ManagerTask → α)
    (hf : f (some (.spawned d)) = f none)
    (hm : s'.managers = s.managers ∨ s'.managers = s.managers ++ [.spawned d]) (m : ManagerId) :
    f s'.managers[m]? = f s.managers[m]? := by
  obtain hm | hm := hm
  · rw [hm]
  · rw [hm]
    rcases Nat.lt_trichotomy m s.managers.length with hlt | rfl | hgt
    · rw [List.getElem?_append_left hlt]
    · simpa using hf
    · rw [List.getElem?_eq_none (by simpa using Nat.succ_le_of_lt hgt),
        List.getElem?_eq_none (Nat.le_of_lt hgt)]

/-- A scan step that moves on, and perhaps spawns a manager. -/
theorem moved_simulates {d : UsbEntry} (T : SameTables s s')
    (hm : s'.managers = s.managers ∨ s'.managers = s.managers ++ [.spawned d])
    (hs : s'.scan.stage = s.scan.stage) (hh : s'.scan.holdsLock = true → s.scan.holdsLock = true)
    (hl : s'.handlesLock = s.handlesLock) :
    s'.LockInv ∧ s.registry.Step .quiet s'.registry := by
  refine ⟨L.keep (c := .scan) (fun c hc => ?_) hh hl, T.quiet (fun c => ?_) fun m addr u h => ?_⟩
  · cases c with
    | scan => exact absurd rfl hc
    | manager m => exact spawned_manager (fun o => o.any (·.state.holdsLock)) rfl hm m
  · cases c with
    | scan => exact hs
    | manager m =>
      rw [stage_manager, stage_manager]
      exact spawned_manager (fun o => o.elim .free (·.state.stage)) rfl hm m
  · have he : s'.tracks m addr = s.tracks m addr := by
      rw [tracks_eq, tracks_eq]
      exact spawned_manager (fun o => o.elim none (·.tracks addr))
        (by simp [ManagerTask.tracks, ManagerTask.spawned]) hm m
    rwa [he] at h

theorem hub_simulates {connected : Bool} (h : Scan.hub s connected = some s') :
    s'.LockInv ∧ s.registry.Step .quiet s'.registry := by
  have tables : ∀ (s₁ : Sys) (d : UsbEntry) (c : Bool), SameTables s s₁ →
      SameTables s (Scan.connectHub s₁ d c) := by
    intro s₁ d c T
    unfold Scan.connectHub
    split <;> exact ⟨T.handles, T.direct, T.handlers, T.channel, T.list, T.calls⟩
  unfold Scan.hub at h
  split at h
  · next d rest direct dfu hs =>
    have moved : ∀ (s₁ : Sys), Scan.connectHub s₁ d connected = s' → SameTables s s₁ →
        s₁.managers = s.managers → s₁.scan = .devices ⟨rest, direct, dfu⟩ →
        s₁.handlesLock = s.handlesLock → s'.LockInv ∧ s.registry.Step .quiet s'.registry := by
      intro s₁ he T hm hsc hl
      subst he
      have T' := tables s₁ d connected T
      refine moved_simulates (d := d) L T' ?_ ?_ ?_ ?_
      all_goals unfold Scan.connectHub
      · split
        · exact .inr (by rw [hm])
        · exact .inl hm
      · split <;> rw [hs, hsc] <;> rfl
      · split <;> rw [hsc] <;> exact fun hc => by cases hc
      · split <;> exact hl
    dsimp only at h
    split at h
    · split at h
      · split at h
        · exact moved _ (Option.some.inj h) ⟨rfl, rfl, rfl, rfl, rfl, rfl⟩ rfl rfl rfl
        · cases h
          exact moved_simulates (d := d) L ⟨rfl, rfl, rfl, rfl, rfl, rfl⟩ (.inl rfl) (by rw [hs]; rfl)
            (fun hc => by cases hc) rfl
      · exact moved _ (Option.some.inj h) ⟨rfl, rfl, rfl, rfl, rfl, rfl⟩ rfl rfl rfl
    · cases h
  · cases h

/-- The scan moves on, outside the lock. -/
theorem scan_moved (T : SameTables s s') (hm : s'.managers = s.managers)
    (hs : s'.scan.stage = s.scan.stage) (hh : s'.scan.holdsLock = false)
    (hl : s'.handlesLock = s.handlesLock) : s'.LockInv ∧ s.registry.Step .quiet s'.registry :=
  ⟨L.keep (c := .scan) (scan_others hm)
    (fun hc => absurd (show s'.scan.holdsLock = true from hc) (by simp [hh])) hl, scan_quiet T hm hs⟩

theorem enumerate_simulates {devices : List UsbEntry} (h : Scan.enumerate s devices = some s') :
    s'.LockInv ∧ s.registry.Step .quiet s'.registry := by
  unfold Scan.enumerate at h
  split at h
  · next hs =>
    cases h
    exact scan_moved L ⟨rfl, rfl, rfl, rfl, rfl, rfl⟩ rfl (by rw [hs]; rfl) rfl rfl
  · cases h

theorem skip_simulates (h : Scan.skip s = some s') :
    s'.LockInv ∧ s.registry.Step .quiet s'.registry := by
  unfold Scan.skip at h
  split at h
  · next d rest direct dfu hs =>
    split at h
    · cases h
      exact scan_moved L ⟨rfl, rfl, rfl, rfl, rfl, rfl⟩ rfl (by rw [hs]; rfl) rfl rfl
    · cases h
  · cases h

theorem unreachable_simulates (h : Scan.unreachable s = some s') :
    s'.LockInv ∧ s.registry.Step .quiet s'.registry := by
  unfold Scan.unreachable at h
  split at h
  · next d rest direct dfu hs =>
    dsimp only at h
    split at h
    · split at h
      · split at h
        · cases h
          refine scan_moved L ⟨rfl, rfl, rfl, rfl, rfl, rfl⟩ rfl ?_ ?_ rfl
          · rw [hs]
            dsimp only
            split <;> rfl
          · dsimp only
            split <;> rfl
        · cases h
      · cases h
        exact scan_moved L ⟨rfl, rfl, rfl, rfl, rfl, rfl⟩ rfl (by rw [hs]; rfl) rfl rfl
    · cases h
  · cases h

theorem surface_simulates (h : Scan.surface s = some s') :
    s'.LockInv ∧ s.registry.Step .quiet s'.registry := by
  unfold Scan.surface at h
  split at h
  · next l d hs =>
    dsimp only at h
    repeat' split at h
    all_goals
      cases h
      try exact scan_moved L ⟨rfl, rfl, rfl, rfl, rfl, rfl⟩ rfl (by rw [hs]; rfl) rfl rfl
  · cases h

theorem unread_simulates (h : Scan.unread s = some s') :
    s'.LockInv ∧ s.registry.Step .quiet s'.registry := by
  unfold Scan.unread at h
  split at h
  · next d rest direct dfu hs =>
    split at h
    · cases h
      exact scan_moved L ⟨rfl, rfl, rfl, rfl, rfl, rfl⟩ rfl (by rw [hs]; rfl) rfl rfl
    · cases h
  · cases h

theorem probe_simulates {session : Nat} {uuid : Uuid} {version : Option Version}
    {mode : Option TransportMode} {eventsVersion : Option Version}
    (h : Scan.probe s session uuid version mode eventsVersion = some s') :
    s'.LockInv ∧ s.registry.Step .quiet s'.registry := by
  unfold Scan.probe at h
  split at h
  · next d rest direct dfu hs =>
    dsimp only at h
    split at h
    · cases h
      exact scan_moved L ⟨rfl, rfl, rfl, rfl, rfl, rfl⟩ rfl (by rw [hs]; rfl) rfl rfl
    · cases h
  · cases h

theorem missing_simulates {ids : List UsbId} (h : Scan.missing s ids = some s') :
    s'.LockInv ∧ s.registry.Step .quiet s'.registry := by
  unfold Scan.missing at h
  split at h
  · next direct dfu hs =>
    dsimp only at h
    split at h
    · split at h
      · next hids =>
        cases h
        subst hids
        exact scan_moved L ⟨rfl, rfl, rfl, rfl, rfl, rfl⟩ rfl (by rw [hs]; rfl) rfl rfl
      · split at h
        · next hl =>
          cases h
          exact ⟨L.acquire (c := .scan) (scan_others rfl) hl rfl,
            scan_quiet ⟨rfl, rfl, rfl, rfl, rfl, rfl⟩ rfl (by rw [hs]; rfl)⟩
        · cases h
    · cases h
  · cases h

theorem unplugged_simulates {ids : List UsbId} (h : Scan.unplugged s ids = some s') :
    s'.LockInv ∧ s.registry.Step .quiet s'.registry := by
  unfold Scan.unplugged at h
  split at h
  · next l hs =>
    split at h
    · cases h
      refine ⟨?_, scan_quiet ⟨rfl, rfl, rfl, rfl, rfl, rfl⟩ rfl (by rw [hs]; rfl)⟩
      by_cases hl : s.handlesLock = some .scan
      · exact L.release (c := .scan) (scan_others rfl) hl rfl
      · exact L.keep (c := .scan) (scan_others rfl) (fun hc => by cases hc) (by simp [hl])
    · cases h
  · cases h

theorem sleep_simulates (h : Scan.sleep s = some s') :
    s'.LockInv ∧ s.registry.Step .quiet s'.registry := by
  unfold Scan.sleep at h
  split at h
  · next hs =>
    cases h
    exact scan_moved L ⟨rfl, rfl, rfl, rfl, rfl, rfl⟩ rfl (by rw [hs]; rfl) rfl rfl
  · cases h

theorem scan_simulates {e : ScanEvent} (h : s.scanStep e = some s') :
    s'.LockInv ∧ s.registry.Step (s.scanOp e) s'.registry := by
  cases e with
  | enumerate devices => exact enumerate_simulates L h
  | cleanup finished => exact cleanup_simulates L h
  | skip => exact skip_simulates L h
  | hub connected => exact hub_simulates L h
  | unreachable => exact unreachable_simulates L h
  | surface => exact surface_simulates L h
  | announceDfu => exact announceDfu_simulates L h
  | unread => exact unread_simulates L h
  | probe session uuid version mode eventsVersion => exact probe_simulates L h
  | lock => exact lock_simulates L h
  | merge => exact merge_simulates L h
  | spawn => exact spawn_simulates L h
  | insert => exact insert_simulates L h
  | insertDirect => exact insertDirect_simulates L h
  | connect => exact connect_simulates L h
  | missing ids => exact missing_simulates L h
  | unplug => exact unplug_simulates L h
  | unplugged ids => exact unplugged_simulates L h
  | retire => exact retire_simulates L h
  | sleep => exact sleep_simulates L h

end

end Sys

end OdysseyHub
