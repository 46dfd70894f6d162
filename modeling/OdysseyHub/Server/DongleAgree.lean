import OdysseyHub.Server.ListMaps
import OdysseyHub.Server.Teardown

/-!
# The dongle list and the hub managers

A hub manager announces its dongle under an id (the serial number, or "unknown") and
takes the entry back under the same id.  `manager_dongle` says what each of its steps
does to its registration and posts about dongles.

    (no abort of a registered manager, no second registration of an id) →
      Always DonglesAgree Sys.init tr                     (Sys.donglesAgree_of_separate)

The list the channel still leads to (`drainedDongles`) has exactly the registered
managers for its entries, at every point of such a run (`DongleInv`).
-/

namespace OdysseyHub

open KeyedList Slots Transition

/-- The manager has announced its dongle and not taken it back. -/
def ManagerState.registered : ManagerState → Bool
  | .reading | .registering _ | .cleaning _ | .done | .aborted => false
  | _ => true

namespace Sys

/-- The dongle list once every message in the channel is processed. -/
def drainedDongles (s : Sys) : List (DongleInfo × ManagerId) :=
  s.messageChannel.foldl forwardDongle s.dongleList

/-- The id under which a manager stands registered. -/
def registration (s : Sys) (m : ManagerId) : Option String :=
  match s.managers[m]? with
  | some t => if t.state.registered then some t.dongleId else none
  | none => none

/-- With no message left, each registered manager has an entry with its id and its sender,
and no entry is that of a manager that has ended. -/
def DonglesAgree (s : Sys) : Prop :=
  s.messageChannel = [] →
    (∀ (m : ManagerId) (id : String), s.registration m = some id →
      ∃ info, (info, m) ∈ s.dongleList ∧ info.id = id) ∧
    ∀ e ∈ s.dongleList, ∃ t, s.managers[e.2]? = some t ∧ t.isFinished = false

/-- No registered manager is aborted, and none registers an id under which another one
stands registered. -/
def Separate (s : Sys) : Event → Prop
  | .manager m .abort => s.registration m = none
  | .manager m .register => ∀ t ∈ s.managers[m]?, ∀ o ∈ s.managers, o.state.registered = true →
      o.dongleId ≠ t.dongleId
  | _ => True

instance Separate.decidable (s : Sys) (e : Event) : Decidable (Separate s e) := by
  unfold Separate
  split <;> infer_instance

/-! ## What a manager does to the dongle list -/

/-- The registration of a manager after a step, and what the step posts. -/
inductive DongleStep (m : ManagerId) (t : ManagerTask) :
    ManagerEvent → ManagerTask → List Message → Prop
  | register (bonded : List Uuid) : t.state = .registering bonded →
      DongleStep m t .register { t with state := .requesting } [.dongleConnect (t.info [] bonded) m]
  | report {e : ManagerEvent} {t' : ManagerTask} (connected bonded : List Uuid) :
      t.state.registered = true → t'.state.registered = true → t'.dongleId = t.dongleId →
      DongleStep m t e t' [.dongleUpdate (t.info connected bonded)]
  | unregister (order : List Uuid) : t.state = .unregistering →
      DongleStep m t (.unregister order) { t with state := .cleaning order }
        [.dongleDisconnect t.dongleId]
  | abort : DongleStep m t .abort { t with state := .aborted } []
  | other {e : ManagerEvent} {t' : ManagerTask} {ms : List Message} :
      t'.state.registered = t.state.registered → t'.dongleId = t.dongleId →
      (∀ msg ∈ ms, ¬ IsDongle msg) → DongleStep m t e t' ms

section
variable {s s' : Sys} {m : ManagerId} {t : ManagerTask}

theorem manager_dongle {e : ManagerEvent} (hm : s.managers[m]? = some t)
    (h : HubManager.Stepped s m t e s') :
    ∃ t' ms, s'.managers = s.managers.set m t' ∧ s'.messageChannel = s.messageChannel ++ ms ∧
      DongleStep m t e t' ms := by
  cases h with
  | @register bonded hst => exact ⟨_, _, rfl, rfl, .register bonded hst⟩
  | @unregister order hst => exact ⟨_, _, rfl, rfl, .unregister order hst⟩
  | abort => exact ⟨_, [], rfl, (List.append_nil _).symm, .abort⟩
  | @update bonded connected hst =>
    exact ⟨_, _, rfl, rfl, .report connected bonded (by rw [hst]; rfl) rfl rfl⟩
  | @clearBonds first connected hst =>
    have hr : t.state.registered = true := by rw [hst]; rfl
    exact ⟨t, _, (put_self hm).symm, rfl, .report connected [] hr hr rfl⟩
  | connect hst =>
    refine ⟨_, _, rfl, rfl, .other (by rw [hst]; rfl) rfl ?_⟩
    rintro msg hmsg ⟨⟩ <;> simp at hmsg
  | removeEvents hst | clean hst =>
    exact ⟨_, [], HubManager.sendRemoval_managers _ _,
      (HubManager.sendRemoval_messageChannel _ _).trans (List.append_nil _).symm,
      .other (by rw [hst]; rfl) rfl (by simp)⟩
  | listed hst | unlisted hst | initial hst | refreshing hst | adding hst | receiveError hst | refreshed hst
  | unrefreshed hst | connectFailed hst | probe hst | lock hst | merge hst | spawn hst | insert hst
  | queue hst | removed hst | untrack hst | rebonded hst | unrebonded hst | finish hst =>
    exact ⟨_, [], rfl, (List.append_nil _).symm, .other (by rw [hst]; rfl) rfl (by simp)⟩

/-- The steps of the other tasks post nothing about dongles. -/
theorem step_dongle_silent {e : Event} (I : s.Inv) (h : s.Step e s') (he : e ≠ .forward)
    (hk : ∀ m me, e ≠ .manager m me) :
    ∃ ms, s'.messageChannel = s.messageChannel ++ ms ∧ ∀ msg ∈ ms, ¬ IsDongle msg := by
  have nothing : s'.messageChannel = s.messageChannel →
      ∃ ms, s'.messageChannel = s.messageChannel ++ ms ∧ ∀ msg ∈ ms, ¬ IsDongle msg :=
    fun hc => ⟨[], by rw [hc, List.append_nil], by simp⟩
  have one : ∀ msg, ¬ IsDongle msg → s'.messageChannel = s.messageChannel ++ [msg] →
      ∃ ms, s'.messageChannel = s.messageChannel ++ ms ∧ ∀ msg ∈ ms, ¬ IsDongle msg :=
    fun msg hm hc => ⟨[msg], hc, by simpa using hm⟩
  cases e with
  | scan e =>
    obtain ⟨ms, hc, hms⟩ := (scan_frame h).messages
    refine ⟨ms, hc, fun msg hmsg hd => ?_⟩
    obtain ⟨d, commands, rfl⟩ | ⟨d, rfl⟩ := hms msg hmsg
    · cases hd
    · cases hd
  | manager m me => exact absurd rfl (hk m me)
  | handler k e =>
    obtain ⟨t, ht, hs⟩ := handlerStep_stepped h
    cases hs with
    | @perform t' eff hn heff =>
      -- a handler posts what its turn left to do, and that is about its device
      have hcon : Handler.Concerns t.uuid eff := (I.registry.wellFormed ht).todo eff (List.mem_of_head? heff)
      cases eff with
      | message msg =>
        refine one msg (fun hd => ?_) rfl
        cases hd <;> exact hcon
      | _ => exact nothing rfl
    | exit => exact one _ (fun hd => by cases hd) rfl
    | own => exact nothing rfl
  | forward => exact absurd rfl he
  | request | deliver | cancel | rename | paired => exact nothing (client_frame rfl h).messageChannel

end

/-! ## Who holds an entry -/

/-- The list has an entry of the manager `k` under `id`. -/
def Holds (l : List (DongleInfo × ManagerId)) (k : ManagerId) (id : String) : Prop :=
  ∃ info, (info, k) ∈ l ∧ info.id = id

section
variable {l : List (DongleInfo × ManagerId)} {k m : ManagerId} {id : String}
  (hl : Distinct (fun e : DongleInfo × ManagerId => e.1.id) l)
include hl

theorem Holds.unique (hk : Holds l k id) (hm : Holds l m id) : k = m := by
  obtain ⟨i, hi, rfl⟩ := hk
  obtain ⟨j, hj, hij⟩ := hm
  exact congrArg Prod.snd (List.inj_on_of_nodup_map hl hi hj hij.symm)

theorem holds_connect (info : DongleInfo) :
    Holds (forwardDongle l (.dongleConnect info m)) k id ↔
      (k = m ∧ info.id = id) ∨ (Holds l k id ∧ id ≠ info.id) := by
  have hmem : ∀ e : DongleInfo × ManagerId, e ∈ forwardDongle l (.dongleConnect info m) ↔
      e = (info, m) ∨ (e ∈ l ∧ e.1.id ≠ info.id) := by
    intro e
    simp only [forwardDongle]
    split
    · next i hi =>
      obtain ⟨y, hy, hyk⟩ := exists_of_findIdx?_some hi
      exact hl.mem_set (x := (info, m)) hy hyk.symm
    · next hi =>
      have hne := forall_of_findIdx?_none hi
      rw [List.mem_append, List.mem_singleton, or_comm]
      exact or_congr_right ⟨fun he => ⟨he, hne e he⟩, And.left⟩
  constructor
  · rintro ⟨i, hi, rfl⟩
    obtain he | ⟨he, hne⟩ := (hmem _).mp hi
    · cases he
      exact .inl ⟨rfl, rfl⟩
    · exact .inr ⟨⟨i, he, rfl⟩, hne⟩
  · rintro (⟨rfl, rfl⟩ | ⟨⟨i, hi, rfl⟩, hne⟩)
    · exact ⟨info, (hmem _).mpr (.inl rfl), rfl⟩
    · exact ⟨i, (hmem _).mpr (.inr ⟨hi, hne⟩), rfl⟩

/-- An update changes what an entry says, not whose it is. -/
theorem holds_update (info : DongleInfo) :
    Holds (forwardDongle l (.dongleUpdate info)) k id ↔ Holds l k id := by
  simp only [forwardDongle]
  split
  · next i hi =>
    obtain ⟨y, hy, hyk⟩ := exists_of_findIdx?_some hi
    rw [KeyedList.modify_eq_set hy]
    have hmem := fun e => hl.mem_set (x := (info, y.2)) (e := e) hy hyk.symm
    have hyl := List.mem_of_getElem? hy
    constructor
    · rintro ⟨j, hj, rfl⟩
      obtain he | ⟨he, -⟩ := (hmem _).mp hj
      · cases he
        exact ⟨y.1, hyl, hyk⟩
      · exact ⟨j, he, rfl⟩
    · rintro ⟨j, hj, rfl⟩
      by_cases hid : j.id = info.id
      · have hyj : (j, k) = y := List.inj_on_of_nodup_map hl hj hyl (hid.trans hyk.symm)
        exact ⟨info, (hmem _).mpr (.inl (by rw [← hyj])), hid.symm⟩
      · exact ⟨j, (hmem _).mpr (.inr ⟨hj, hid⟩), rfl⟩
  · exact Iff.rfl

theorem holds_disconnect (id' : String) :
    Holds (forwardDongle l (.dongleDisconnect id')) k id ↔ Holds l k id ∧ id ≠ id' := by
  constructor
  · rintro ⟨i, hi, rfl⟩
    obtain ⟨he, hne⟩ := hl.mem_eraseP.mp hi
    exact ⟨⟨i, he, rfl⟩, hne⟩
  · rintro ⟨⟨i, hi, rfl⟩, hne⟩
    exact ⟨i, hl.mem_eraseP.mpr ⟨hi, hne⟩, rfl⟩

end

theorem foldl_not_dongle {l : List (DongleInfo × ManagerId)} {ms : List Message}
    (hms : ∀ msg ∈ ms, ¬ IsDongle msg) : ms.foldl forwardDongle l = l := by
  induction ms with
  | nil => rfl
  | cons msg ms ih =>
    have hf : forwardDongle l msg = l := by
      have hmsg := hms msg List.mem_cons_self
      cases msg with
      | dongleConnect info k => exact absurd (.connect info k) hmsg
      | dongleUpdate info => exact absurd (.update info) hmsg
      | dongleDisconnect id => exact absurd (.disconnect id) hmsg
      | _ => rfl
    rw [List.foldl_cons, hf]
    exact ih fun msg' h' => hms msg' (List.mem_cons_of_mem _ h')

/-! ## The invariant -/

/-- The list the channel leads to has one entry an id, and the registered managers hold
the entries. -/
structure DongleInv (s : Sys) : Prop where
  distinct : Distinct (fun e : DongleInfo × ManagerId => e.1.id) s.drainedDongles
  holds : ∀ (k : ManagerId) (id : String),
    Holds s.drainedDongles k id ↔ s.registration k = some id

section
variable {s s' : Sys}

theorem DongleInv.of_same (D : DongleInv s) (hl : s'.drainedDongles = s.drainedDongles)
    (hr : ∀ k, s'.registration k = s.registration k) : DongleInv s' :=
  ⟨hl ▸ D.distinct, fun k id => by rw [hl, hr k]; exact D.holds k id⟩

theorem exists_of_registration {k : ManagerId} {id : String} (h : s.registration k = some id) :
    ∃ o, s.managers[k]? = some o ∧ o.state.registered = true ∧ o.dongleId = id := by
  unfold registration at h
  split at h
  · next o ho =>
    split at h
    · next hr => exact ⟨o, ho, hr, Option.some.inj h⟩
    · cases h
  · cases h

theorem registration_set {m : ManagerId} {t t' : ManagerTask} (hm : s.managers[m]? = some t)
    (hs : s'.managers = s.managers.set m t') (k : ManagerId) :
    s'.registration k =
      if m = k then (if t'.state.registered then some t'.dongleId else none) else s.registration k := by
  simp only [registration, hs, getElem?_set_of_some hm]
  by_cases hk : m = k
  · simp [hk]
  · simp [hk]

/-- Only a manager's own steps change its registration. -/
theorem registration_other {e : Event} (h : s.Step e s') {k : ManagerId}
    (hk : ∀ me, e ≠ .manager k me) : s'.registration k = s.registration k := by
  obtain hm | ⟨hn, d, hd⟩ := step_managers h hk
  · simp only [registration, hm]
  · simp only [registration, hn, hd]
    rfl

theorem DongleInv.manager (D : DongleInv s) {m : ManagerId} {e : ManagerEvent}
    (ok : Separate s (.manager m e)) (h : s.Step (.manager m e) s') : DongleInv s' := by
  have hl : s'.dongleList = s.dongleList := step_dongleList h (by simp)
  obtain ⟨t, hm, hms⟩ := managerStep_stepped h
  obtain ⟨t', ms, hset, hch, hstep⟩ := manager_dongle hm hms
  have hreg := registration_set hm hset
  have hdr : s'.drainedDongles = ms.foldl forwardDongle s.drainedDongles := by
    rw [drainedDongles, drainedDongles, hch, hl, List.foldl_append]
  have hregm : s.registration m = if t.state.registered then some t.dongleId else none := by
    simp only [registration, hm]
  have same : t'.state.registered = t.state.registered → t'.dongleId = t.dongleId →
      ∀ k, s'.registration k = s.registration k := by
    intro hr hid k
    rw [hreg k]
    by_cases hk : m = k
    · subst hk
      rw [if_pos rfl, hr, hid, hregm]
    · rw [if_neg hk]
  cases hstep with
  | register bonded hst =>
    have hnone : s.registration m = none := by rw [hregm, hst]; rfl
    refine ⟨by rw [hdr, List.foldl_cons]; exact distinct_forwardDongle D.distinct _, fun k id => ?_⟩
    rw [hdr, List.foldl_cons, List.foldl_nil, holds_connect D.distinct, D.holds, hreg k]
    by_cases hk : m = k
    · subst hk
      rw [hnone]
      simp [ManagerState.registered, ManagerTask.info]
    · rw [if_neg hk]
      constructor
      · rintro (⟨rfl, -⟩ | ⟨hid, -⟩)
        · exact absurd rfl hk
        · exact hid
      · intro hid
        refine .inr ⟨hid, ?_⟩
        rintro rfl
        obtain ⟨o, ho, hr, hoid⟩ := exists_of_registration hid
        exact ok t hm o (List.mem_of_getElem? ho) hr hoid
  | report connected bonded hr hr' hid =>
    refine ⟨by rw [hdr, List.foldl_cons]; exact distinct_forwardDongle D.distinct _, fun k id => ?_⟩
    rw [hdr, List.foldl_cons, List.foldl_nil, holds_update D.distinct, D.holds,
      same (hr'.trans hr.symm) hid k]
  | unregister order hst =>
    have hsome : s.registration m = some t.dongleId := by rw [hregm, hst]; rfl
    refine ⟨by rw [hdr, List.foldl_cons]; exact distinct_forwardDongle D.distinct _, fun k id => ?_⟩
    rw [hdr, List.foldl_cons, List.foldl_nil, holds_disconnect D.distinct, D.holds, hreg k]
    by_cases hk : m = k
    · subst hk
      rw [hsome]
      simp [ManagerState.registered, eq_comm]
    · rw [if_neg hk]
      refine ⟨And.left, fun hid => ⟨hid, ?_⟩⟩
      rintro rfl
      exact hk (Holds.unique D.distinct ((D.holds m _).mpr hsome) ((D.holds k _).mpr hid))
  | abort =>
    have hnone : t.state.registered = false := by
      have hno : s.registration m = none := ok
      rw [hregm] at hno
      simpa using hno
    exact D.of_same (by rw [hdr]; rfl) (same (by rw [hnone]; rfl) rfl)
  | other hr hid hsilent =>
    exact D.of_same (by rw [hdr, foldl_not_dongle hsilent]) (same hr hid)

theorem DongleInv.step (I : s.Inv) (D : DongleInv s) {e : Event} (ok : Separate s e)
    (h : s.Step e s') : DongleInv s' := by
  by_cases hme : ∃ m me, e = .manager m me
  · obtain ⟨m, me, rfl⟩ := hme
    exact D.manager ok h
  · simp only [not_exists] at hme
    refine D.of_same ?_ fun k => registration_other h (hme k)
    by_cases hf : e = .forward
    · subst hf
      obtain ⟨msg, rest, hch, rfl⟩ := forward_stepped h
      simp only [drainedDongles, hch, List.foldl_cons]
    · obtain ⟨ms, hch, hms⟩ := step_dongle_silent I h hf hme
      rw [drainedDongles, drainedDongles, hch, step_dongleList h hf, List.foldl_append,
        foldl_not_dongle hms]

theorem DongleInv.init : DongleInv Sys.init :=
  ⟨distinct_nil _, fun k id => by simp [Holds, drainedDongles, Sys.init, registration]⟩

theorem DongleInv.donglesAgree (D : DongleInv s) : s.DonglesAgree := by
  intro hch
  have hl : s.drainedDongles = s.dongleList := by rw [drainedDongles, hch]; rfl
  refine ⟨fun m id hreg => ?_, fun e he => ?_⟩
  · have hh := (D.holds m id).mpr hreg
    rw [hl] at hh
    exact hh
  · have hreg := (D.holds e.2 e.1.id).mp ⟨e.1, hl ▸ he, rfl⟩
    obtain ⟨t, ht, hr, -⟩ := exists_of_registration hreg
    refine ⟨t, ht, ?_⟩
    unfold ManagerTask.isFinished
    cases hst : t.state <;> first | rfl | (rw [hst] at hr; cases hr)

end

/-- **The dongle list agrees with the managers** throughout every run in which no
registered manager is aborted and none registers an id that another one holds. -/
theorem donglesAgree_of_separate {tr : List (Event × Sys)} (hrun : Exec Step init tr)
    (hok : StepsOk Separate init tr) : Always DonglesAgree init tr :=
  (hrun.always (I := fun s => s.Inv ∧ DongleInv s)
    (fun _ _ _ D ok h => ⟨D.1.step h, D.2.step D.1 ok h⟩) ⟨Inv.init, .init⟩ hok).imp
    fun _ D => D.2.donglesAgree

/-! ## The two ways to lose agreement -/

/-- The dongle goes by a receive error, and comes back under a new USB id. -/
def replug : List Event :=
  muxed ++ [.manager 0 .receiveError, .manager 0 (.unregister [sampleUuid]), .manager 0 .clean,
    .manager 0 .finish, .scan (.enumerate [{ sampleDongle with id := 7 }]), .scan (.cleanup []),
    .scan (.hub true), .manager 1 (.readVersions none none none), .manager 1 .register,
    .forward, .forward, .forward, .forward, .forward]

/-- The dongle is unplugged and the scan sees it first. -/
def unplug : List Event := muxed ++ [.scan (.enumerate []), .manager 0 .abort, .forward, .forward, .forward]

theorem donglesAgree_of_separate_replug :
    (run replug).length = 33 ∧ Always DonglesAgree init (run replug) :=
  ⟨by decide +kernel, donglesAgree_of_separate (exec_run replug) (by decide +kernel)⟩

/-- The aborted manager posts no `DongleDisconnect`: its entry stays. -/
theorem aborted_dongle_stays :
    ¬ ∀ tr : List (Event × Sys), Exec Step init tr → Always DonglesAgree init tr := by
  intro hall
  have hP := (hall _ (exec_run unplug)).last
  have hch : (last init (run unplug)).messageChannel = [] := by decide +kernel
  have hl : (last init (run unplug)).dongleList.map (·.2) = [0] := by decide +kernel
  have hm : (last init (run unplug)).managers.map (·.isFinished) = [true] := by decide +kernel
  generalize last init (run unplug) = s at *
  obtain ⟨e, l, he, hk, -⟩ := List.map_eq_cons_iff.mp hl
  obtain ⟨t, ts, ht, hf, -⟩ := List.map_eq_cons_iff.mp hm
  obtain ⟨t', ht', hf'⟩ := (hP hch).2 e (by rw [he]; exact List.mem_cons_self)
  rw [hk, ht] at ht'
  obtain rfl : t = t' := Option.some.inj ht'
  exact absurd (hf.symm.trans hf') Bool.false_ne_true.symm

end Sys

end OdysseyHub
