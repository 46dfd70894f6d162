import OdysseyHub.Desktop.UpdateRuns

/-!
# The states an update stores (firmware_update.rs)

Three tasks write a device's state: the render, which checks it and stores the next one
later, the update, and the progress updater, which is aborted but not waited for.

`logOf k` keeps the states stored for the device of run `k`, from the first one the run
stores to its cleanup.  They go forward if every store finds what it expects: the render
an offer, the progress updater `Flashing`, a click no mark.

    StepsOk Orderly … tr → Always (OnlyForward of the log) … tr      (onlyForward_of_orderly)
-/

namespace OdysseyHub

open Slots Transition

namespace FirmwareUpdateState

/-- How far an update is that shows the state. -/
@[simp] def phase : FirmwareUpdateState → Nat
  | .idle | .available .. | .needsUsbConnection .. => 0
  | .detaching => 1
  | .waitingForDfu => 2
  | .downloading => 3
  | .flashing .. => 4
  | .rebooting => 5
  | .verifying => 6
  | .complete | .failed _ => 7

def isFlashing : FirmwareUpdateState → Bool
  | .flashing .. => true
  | _ => false

/-- Only `Flashing` is stored more than once. -/
def Before (a b : FirmwareUpdateState) : Prop :=
  a.phase < b.phase ∨ a.isFlashing = true ∧ b.isFlashing = true

instance (a b : FirmwareUpdateState) : Decidable (Before a b) :=
  inferInstanceAs (Decidable (_ ∨ _))

theorem isFlashing_iff {st : FirmwareUpdateState} : st.isFlashing = true ↔ st.phase = 4 := by
  cases st <;> simp [isFlashing]

theorem phase_lt (st : FirmwareUpdateState) : st.phase < 8 := by
  cases st <;> simp

theorem before_iff {a b : FirmwareUpdateState} :
    a.Before b ↔ a.phase < b.phase ∨ a.phase = 4 ∧ b.phase = 4 := by
  rw [Before, isFlashing_iff, isFlashing_iff]

theorem Before.trans {a b c : FirmwareUpdateState} (hab : a.Before b) (hbc : b.Before c) : a.Before c := by
  rw [before_iff] at hab hbc ⊢
  omega

instance : Trans Before Before Before := ⟨Before.trans⟩

end FirmwareUpdateState

open FirmwareUpdateState (Before)

/-- The states only move forward, and none of them is an offer. -/
structure OnlyForward (log : List FirmwareUpdateState) : Prop where
  noOffer : ∀ st ∈ log, st.isOffer = false
  forward : log.Pairwise Before

instance (log : List FirmwareUpdateState) : Decidable (OnlyForward log) :=
  decidable_of_iff ((∀ st ∈ log, st.isOffer = false) ∧ log.Pairwise Before)
    ⟨fun h => ⟨h.1, h.2⟩, fun h => ⟨h.noOffer, h.forward⟩⟩

namespace OnlyForward

theorem nil : OnlyForward [] := ⟨by simp, .nil⟩

/-- It is enough to be past the last state. -/
theorem concat {log : List FirmwareUpdateState} {st : FirmwareUpdateState} (h : OnlyForward log)
    (hst : st.isOffer = false) (hlast : ∀ x ∈ log.getLast?, x.Before st) : OnlyForward (log ++ [st]) where
  noOffer := forall_mem_concat h.noOffer hst
  forward := by
    rw [← List.isChain_iff_pairwise, List.isChain_append]
    refine ⟨List.isChain_iff_pairwise.mpr h.forward, List.isChain_singleton st, ?_⟩
    intro x hx y hy
    obtain rfl := Option.some.inj hy
    exact hlast x hx

end OnlyForward

/-! ## What an action stores -/

/-- What has been stored up to a stage is of an earlier phase than this. -/
@[simp] def UpdateStage.bound : UpdateStage → Nat
  | .spawned => 1
  | .detaching => 2
  | .waitingForDfu | .targeting => 3
  | .downloading => 4
  | .flashing _ | .ended (.error _) => 5
  | .rebooting => 6
  | .verifying => 7
  | .ended (.ok _) | .sleeping | .done => 8

namespace UpdateTask

/-- The state an action stores: what it leaves in an empty map. -/
def storedState (t : UpdateTask) (a : UpdateAction) : Option FirmwareUpdateState :=
  (t.act .new a).bind fun r => r.1.states.lookup t.uuid

theorem not_isDone_of_bound {stage : UpdateStage} (h : stage.bound < 8) : stage.isDone = false := by
  cases stage <;> first | rfl | exact absurd h (by simp)

/-- An action stores a state of a later phase than all before it, or the progress of the
flash, or nothing. -/
inductive Stores (t : UpdateTask) (m : FirmwareUpdateManager) :
    UpdateAction → FirmwareUpdateManager → UpdateTask → Option FirmwareUpdateState → Prop
  | entered {a : UpdateAction} {stage : UpdateStage} {st : FirmwareUpdateState} :
      st.isOffer = false → t.stage.bound ≤ st.phase → st.phase < stage.bound →
      Stores t m a (m.setState t.uuid st) { t with stage := stage } (some st)
  | flashed {p : Nat × Nat} : t.progress = some p →
      Stores t m .store (m.setState t.uuid (.flashing p.1 p.2)) { t with progress := none }
        (some (.flashing p.1 p.2))
  | loaded {a : UpdateAction} {p : Nat × Nat} : t.stage.bound = 5 →
      Stores t m a m { t with progress := some p } none
  | moved {a : UpdateAction} {stage : UpdateStage} : t.stage.bound ≤ stage.bound →
      Stores t m a m { t with stage := stage } none
  | cleaned : t.stage = .sleeping →
      Stores t m .cleanup (m.clearState t.uuid) { t with stage := .done } none

section
variable {t t' : UpdateTask} {m m' : FirmwareUpdateManager} {a : UpdateAction}

/-- The two ways to go on, where the action does the same whatever the map. -/
theorem stores_enter {stage : UpdateStage} {st : FirmwareUpdateState}
    (hact : t.act m a = some (m', t')) (h : ∀ m, t.act m a = some (t.enter m stage st)) (hoffer : st.isOffer = false)
    (hlow : t.stage.bound ≤ st.phase) (hhigh : st.phase < stage.bound) :
    Stores t m a m' t' (t.storedState a) := by
  obtain ⟨rfl, rfl⟩ := Prod.mk.inj (Option.some.inj ((h m).symm.trans hact))
  have hstored : t.storedState a = some st := by
    rw [storedState, h]
    exact Finmap.lookup_insert _
  rw [hstored]
  exact .entered hoffer hlow hhigh

theorem stores_goTo {stage : UpdateStage} (hact : t.act m a = some (m', t'))
    (h : ∀ m, t.act m a = some (t.goTo m stage)) (hbound : t.stage.bound ≤ stage.bound) :
    Stores t m a m' t' (t.storedState a) := by
  obtain ⟨rfl, rfl⟩ := Prod.mk.inj (Option.some.inj ((h m).symm.trans hact))
  have hstored : t.storedState a = none := by
    rw [storedState, h]
    exact Finmap.lookup_empty _
  rw [hstored]
  exact .moved hbound

theorem returned_stores {r : Except String Nat} (h : t.act m (.result r) = some (m', t')) :
    Stores t m (.result r) m' t' (t.storedState (.result r)) := by
  obtain ⟨page, device, deviceType, manifest, stage, progress⟩ := t
  cases r with
  | ok n =>
    cases stage with
    | detaching | targeting | downloading | rebooting | verifying =>
      exact stores_enter h (fun _ => rfl) rfl (by simp) (by simp)
    | waitingForDfu => exact stores_goTo h (fun _ => rfl) (by simp)
    | flashing total =>
      by_cases hn : n < total
      · exact stores_goTo h (fun _ => if_pos hn) (by simp)
      · exact stores_enter h (fun _ => if_neg hn) rfl (by simp) (by simp)
    | spawned | ended _ | sleeping | done => cases h
  | error e =>
    cases stage with
    | detaching | waitingForDfu | targeting | downloading | flashing _ =>
      exact stores_goTo h (fun _ => rfl) (by simp)
    | spawned | rebooting | verifying | ended _ | sleeping | done => cases h

theorem start_stores {already : Bool} (h : t.act m (.start already) = some (m', t')) :
    Stores t m (.start already) m' t' (t.storedState (.start already)) := by
  obtain ⟨page, device, deviceType, manifest, stage, progress⟩ := t
  cases stage with
  | spawned =>
    cases manifest with
    | none => exact stores_goTo h (fun _ => rfl) (by simp)
    | some manifest =>
      cases hc : chooseFirmware manifest device deviceType with
      | error e => exact stores_goTo h (fun m => by simp only [act, hc]; rfl) (by simp)
      | ok entry =>
        cases already with
        | true => exact stores_goTo h (fun m => by simp only [act, hc]; rfl) (by simp)
        | false =>
          exact stores_enter h (fun m => by simp only [act, hc]; rfl) rfl (by simp) (by simp)
  | _ => cases h

/-- **Inversion of an action.** -/
theorem act_stores (h : t.act m a = some (m', t')) : Stores t m a m' t' (t.storedState a) := by
  cases a with
  | start already => exact start_stores h
  | result r => exact returned_stores h
  | load current =>
    obtain ⟨page, device, deviceType, manifest, stage, progress⟩ := t
    cases stage with
    | flashing total =>
      obtain ⟨rfl, rfl⟩ := Prod.mk.inj (Option.some.inj h)
      exact .loaded rfl
    | _ => cases h
  | store =>
    obtain ⟨p, hp, h⟩ := Option.map_eq_some_iff.mp h
    cases h
    have hstored : t.storedState .store = some (.flashing p.1 p.2) := by
      simp only [storedState, act, hp, Option.map_some, Option.bind_some]
      exact Finmap.lookup_insert _
    rw [hstored]
    exact .flashed hp
  | report =>
    obtain ⟨page, device, deviceType, manifest, stage, progress⟩ := t
    cases stage with
    | ended result =>
      cases result with
      | error e => exact stores_enter h (fun _ => rfl) rfl (by simp) (by simp)
      | ok _ => exact stores_goTo h (fun _ => rfl) (by simp)
    | _ => cases h
  | cleanup =>
    obtain ⟨page, device, deviceType, manifest, stage, progress⟩ := t
    cases stage with
    | sleeping =>
      obtain ⟨rfl, rfl⟩ := Prod.mk.inj (Option.some.inj h)
      exact .cleaned rfl
    | _ => cases h

theorem Stores.bound_le {st : Option FirmwareUpdateState} (h : Stores t m a m' t' st) :
    t.stage.bound ≤ t'.stage.bound := by
  cases h with
  | entered _ hlow hhigh => exact Nat.le_of_lt (Nat.lt_of_le_of_lt hlow hhigh)
  | flashed _ => exact Nat.le_refl _
  | loaded _ => exact Nat.le_refl _
  | moved hbound => exact hbound
  | cleaned hst =>
    rw [hst]
    exact Nat.le_refl 8

end

end UpdateTask

namespace Updates

/-! ## What is claimed, and of which steps -/

/-- What is in the map of a page for a device. -/
def entry (s : Updates) (page : Nat) (uuid : Uuid) : FirmwareUpdateState := (s.managerOf page).getState uuid

/-- What a step stores: in the map of which page, for which device. -/
def stored (s : Updates) : UpdateEvent → Option (Nat × Uuid × FirmwareUpdateState)
  | .act k a => do
    let t ← s.tasks[k]?
    let state ← t.storedState a
    some (t.page, t.uuid, state)
  | .draw => do
    let (i, state) ← s.drawing
    let r ← s.rows[i]?
    let state ← state
    some (s.page, r.device.uuid, state)
  | _ => none

/-- The run a step is one of. -/
def actor : UpdateEvent → Option Nat
  | .act k _ => some k
  | _ => none

/-- The states stored for the device of run `k`, from the first one it stores to its cleanup. -/
def logOf (k : Nat) (s : Updates) (e : UpdateEvent) (_ : Updates) (log : List FirmwareUpdateState) :
    List FirmwareUpdateState :=
  match s.tasks[k]?, s.stored e with
  | some t, some (page, uuid, state) =>
    if t.stage.isDone = false ∧ page = t.page ∧ uuid = t.uuid ∧ (log ≠ [] ∨ actor e = some k) then
      log ++ [state]
    else log
  | _, _ => log

/-- What a step expects it finds: a click no mark, a render that has a state to store one of
the three it checked for, the progress updater the flash it reports on. -/
def Orderly (s : Updates) : UpdateEvent → Prop
  | .click i => ∀ r ∈ s.rows[i]?, ∀ b ∈ r.button, s.manager.isUpdating b.device.uuid = false
  | .draw =>
    ∀ d ∈ s.drawing, ∀ r ∈ s.rows[d.1]?, d.2.isSome = true → (s.entry s.page r.device.uuid).isOffer = true
  | .act k .store => ∀ t ∈ s.tasks[k]?, (s.entry t.page t.uuid).isFlashing = true
  | _ => True

instance (s : Updates) : (e : UpdateEvent) → Decidable (Orderly s e)
  | .click i =>
    inferInstanceAs (Decidable (∀ r ∈ s.rows[i]?, ∀ b ∈ r.button, s.manager.isUpdating b.device.uuid = false))
  | .draw =>
    inferInstanceAs (Decidable (∀ d ∈ s.drawing, ∀ r ∈ s.rows[d.1]?, d.2.isSome = true →
      (s.entry s.page r.device.uuid).isOffer = true))
  | .act k .store =>
    inferInstanceAs (Decidable (∀ t ∈ s.tasks[k]?, (s.entry t.page t.uuid).isFlashing = true))
  | .navigate | .fetched _ | .mount _ | .unmount _ | .props _ _ | .poll _ | .check _ => isTrue trivial
  | .act _ (.start _) | .act _ (.result _) | .act _ (.load _) | .act _ .report | .act _ .cleanup =>
    isTrue trivial

/-! ## Entries of the maps -/

section
variable {s s' : Updates}

theorem getState_setState (m : FirmwareUpdateManager) (uuid : Uuid) (st : FirmwareUpdateState) (v : Uuid) :
    (m.setState uuid st).getState v = if uuid = v then st else m.getState v := by
  split
  · next h =>
    subst h
    rw [FirmwareUpdateManager.getState, FirmwareUpdateManager.setState, Finmap.lookup_insert, Option.getD_some]
  · next h =>
    simp only [FirmwareUpdateManager.getState, FirmwareUpdateManager.setState,
      Finmap.lookup_insert_of_ne _ (Ne.symm h)]

theorem getState_clearState (m : FirmwareUpdateManager) {uuid v : Uuid} (h : uuid ≠ v) :
    (m.clearState uuid).getState v = m.getState v := by
  simp only [FirmwareUpdateManager.getState, FirmwareUpdateManager.clearState,
    Finmap.lookup_erase_ne (Ne.symm h)]

theorem entry_of_managers {s₁ s₂ : Updates} (h : s₁.managers = s₂.managers) (page : Nat) (uuid : Uuid) :
    s₁.entry page uuid = s₂.entry page uuid := by
  rw [entry, managerOf, h, entry, managerOf]

theorem entry_setManager {page : Nat} (hp : page < s.managers.length) (m : FirmwareUpdateManager) (q : Nat)
    (v : Uuid) : (s.setManager page m).entry q v = if page = q then m.getState v else s.entry q v := by
  rw [entry, managerOf_setManager hp]
  split
  · rfl
  · rfl

/-- A manager with the states it had. -/
theorem entry_setManager_same {page : Nat} (hp : page < s.managers.length) {m : FirmwareUpdateManager}
    (hm : m.states = (s.managerOf page).states) (q : Nat) (v : Uuid) :
    (s.setManager page m).entry q v = s.entry q v := by
  rw [entry_setManager hp]
  split
  · next hq =>
    rw [FirmwareUpdateManager.getState, hm, hq]
    rfl
  · rfl

/-- A state stored in one map is an entry of this map only. -/
theorem entry_setState {page : Nat} (hp : page < s.managers.length) (uuid : Uuid) (st : FirmwareUpdateState)
    (q : Nat) (v : Uuid) :
    (s.setManager page ((s.managerOf page).setState uuid st)).entry q v =
      if page = q ∧ uuid = v then st else s.entry q v := by
  rw [entry_setManager hp]
  by_cases hq : page = q
  · subst hq
    rw [if_pos rfl, getState_setState]
    simp only [true_and]
    rfl
  · rw [if_neg hq, if_neg (fun h => hq h.1)]

theorem entry_clearState {page : Nat} (hp : page < s.managers.length) {uuid : Uuid} {q : Nat} {v : Uuid}
    (h : ¬ (page = q ∧ uuid = v)) :
    (s.setManager page ((s.managerOf page).clearState uuid)).entry q v = s.entry q v := by
  rw [entry_setManager hp]
  split
  · next hq =>
    subst hq
    exact getState_clearState _ fun hv => h ⟨rfl, hv⟩
  · rfl

/-! ## What a step stores -/

theorem stored_act {k : Nat} {t : UpdateTask} (ht : s.tasks[k]? = some t) (a : UpdateAction) :
    s.stored (.act k a) = (t.storedState a).map fun st => (t.page, t.uuid, st) := by
  simp only [stored, ht, Option.bind_eq_bind, Option.bind_some, Option.map_eq_bind]
  rfl

theorem stored_act_some {k : Nat} {t : UpdateTask} (ht : s.tasks[k]? = some t) {a : UpdateAction} {page : Nat}
    {uuid : Uuid} {st : FirmwareUpdateState} (h : s.stored (.act k a) = some (page, uuid, st)) :
    t.page = page ∧ t.uuid = uuid ∧ t.storedState a = some st := by
  rw [stored_act ht] at h
  obtain ⟨st₁, hst₁, heq⟩ := Option.map_eq_some_iff.mp h
  obtain ⟨hpage, hrest⟩ := Prod.mk.inj heq
  obtain ⟨huuid, rfl⟩ := Prod.mk.inj hrest
  exact ⟨hpage, huuid, hst₁⟩

/-- A step that stores nothing: the tasks there were stay, and the entries. -/
structure Elsewhere (s : Updates) (e : UpdateEvent) (s' : Updates) : Prop where
  actor : actor e = none
  stored : s.stored e = none
  tasks : ∃ new, s'.tasks = s.tasks ++ new ∧ ∀ t ∈ new, t.progress = none
  entry : ∀ page < s.managers.length, ∀ uuid, s'.entry page uuid = s.entry page uuid

/-- An action of a task, the second half of a render, or anything else. -/
inductive Took (s : Updates) : UpdateEvent → Updates → Prop
  | acted {k : Nat} {a : UpdateAction} {t t' : UpdateTask} {m : FirmwareUpdateManager} :
      s.tasks[k]? = some t → t.act (s.managerOf t.page) a = some (m, t') →
      Took s (.act k a) { s.setManager t.page m with tasks := s.tasks.set k t' }
  | drawn {i : Nat} {state : Option FirmwareUpdateState} {r : UpdateRow} {s' : Updates} :
      s.drawing = some (i, state) → s.rows[i]? = some r →
      s.stored .draw = state.map (fun st => (s.page, r.device.uuid, st)) → s'.tasks = s.tasks →
      s'.managers = (state.elim s fun st =>
        s.setManager s.page (s.manager.setState r.device.uuid st)).managers →
      Took s .draw s'
  | other {e : UpdateEvent} {s' : Updates} : Elsewhere s e s' → Took s e s'

/-- A step that changes the rows, the manifest and the render only. -/
theorem Elsewhere.of_rows {e : UpdateEvent} (hactor : Updates.actor e = none) (hstored : s.stored e = none)
    (ht : s'.tasks = s.tasks) (hm : s'.managers = s.managers) : Elsewhere s e s' where
  actor := hactor
  stored := hstored
  tasks := ⟨[], by rw [ht, List.append_nil], by simp⟩
  entry page _ uuid := entry_of_managers hm page uuid

theorem took_draw (h : Step s .draw s') : Took s .draw s' := by
  cases hd : s.drawing with
  | none => simp [Step, next, hd] at h
  | some d =>
    obtain ⟨i, state⟩ := d
    simp only [Step, next, hd] at h
    obtain ⟨r, hr, h⟩ := Option.bind_eq_some_iff.mp h
    refine .drawn hd hr ?_ ?_ ?_
    · cases state <;> simp [stored, hd, hr]
    · cases state <;> cases h <;> rfl
    · cases state <;> cases h <;> rfl

/-- **Inversion of a step**, with what it stores. -/
theorem took_of_step (hp : s.page < s.managers.length) {e : UpdateEvent} (h : Step s e s') : Took s e s' := by
  have hnext : s.next e = some s' := h
  unfold next at hnext
  split at hnext
  · obtain ⟨t, ht, hnext⟩ := Option.bind_eq_some_iff.mp hnext
    obtain ⟨⟨m, t'⟩, ha, hnext⟩ := Option.bind_eq_some_iff.mp hnext
    cases hnext
    exact .acted ht ha
  · exact took_draw h
  · refine .other ?_
    split at hnext
    · cases hnext
    · cases hnext
      refine ⟨rfl, rfl, ⟨[], by simp, by simp⟩, fun page hpage uuid => ?_⟩
      simp only [entry, managerOf, List.getElem?_append_left hpage]
    · cases hnext
      exact .of_rows rfl rfl rfl rfl
    · cases hnext
      exact .of_rows rfl rfl rfl rfl
    · cases hnext
      exact .of_rows rfl rfl rfl rfl
    · obtain ⟨r, -, hnext⟩ := Option.bind_eq_some_iff.mp hnext
      split at hnext
      · cases hnext
        exact .of_rows rfl rfl rfl rfl
      · cases hnext
    · obtain ⟨r, -, rfl⟩ := Option.map_eq_some_iff.mp hnext
      exact .of_rows rfl rfl rfl rfl
    · obtain ⟨r, -, rfl⟩ := Option.map_eq_some_iff.mp hnext
      exact .of_rows rfl rfl rfl rfl
    · obtain ⟨r, hr, hnext⟩ := Option.bind_eq_some_iff.mp hnext
      obtain ⟨b, hb, rfl⟩ := Option.map_eq_some_iff.mp hnext
      refine ⟨rfl, rfl, ⟨_, rfl, by simp⟩, fun page _ uuid => ?_⟩
      exact entry_setManager_same hp (m := s.manager.addUpdating b.device.uuid) rfl page uuid
    · cases hnext

/-- A step stores a state in the map of `page` for `uuid`, or removes what is there, or
leaves it alone. -/
inductive Wrote (s : Updates) (e : UpdateEvent) (s' : Updates) (page : Nat) (uuid : Uuid) : Prop
  | stored {st : FirmwareUpdateState} :
      s.stored e = some (page, uuid, st) → s'.entry page uuid = st → Wrote s e s' page uuid
  | cleaned {k : Nat} {t : UpdateTask} : s.stored e = none → e = .act k .cleanup → s.tasks[k]? = some t →
      t.page = page → t.uuid = uuid → t.stage = .sleeping → Wrote s e s' page uuid
  | kept : (∀ st, s.stored e ≠ some (page, uuid, st)) → s'.entry page uuid = s.entry page uuid →
      Wrote s e s' page uuid

theorem wrote_of_setState {e : UpdateEvent} {page : Nat} (hp : page < s.managers.length) {uuid : Uuid}
    {st : FirmwareUpdateState} (hstored : s.stored e = some (page, uuid, st))
    (hm : s'.managers = (s.setManager page ((s.managerOf page).setState uuid st)).managers) (q : Nat) (v : Uuid) :
    Wrote s e s' q v := by
  have hentry : s'.entry q v = if page = q ∧ uuid = v then st else s.entry q v := by
    rw [entry_of_managers hm, entry_setState hp]
  by_cases h : page = q ∧ uuid = v
  · obtain ⟨rfl, rfl⟩ := h
    exact .stored hstored (hentry.trans (if_pos ⟨rfl, rfl⟩))
  · refine .kept (fun st' hst => ?_) (hentry.trans (if_neg h))
    rw [hstored] at hst
    obtain ⟨hq, hrest⟩ := Prod.mk.inj (Option.some.inj hst)
    exact h ⟨hq, (Prod.mk.inj hrest).1⟩

theorem wrote_of_step (M : Marks s) {e : UpdateEvent} (h : Step s e s') {page : Nat}
    (hpage : page < s.managers.length) (uuid : Uuid) : Wrote s e s' page uuid := by
  cases took_of_step M.page h with
  | @drawn i state r _ _ _ hstored _ hm =>
    cases state with
    | some st => exact wrote_of_setState M.page hstored hm page uuid
    | none => exact .kept (by simp [hstored]) (entry_of_managers hm page uuid)
  | @acted k a t t' m ht ha =>
    have hp : t.page < s.managers.length := M.pages t (List.mem_of_getElem? ht)
    have hstored := stored_act ht a
    have hS := UpdateTask.act_stores ha
    generalize t.storedState a = st at hstored hS
    cases hS with
    | entered _ _ _ => exact wrote_of_setState hp hstored (by rfl) page uuid
    | flashed _ => exact wrote_of_setState hp hstored (by rfl) page uuid
    | loaded _ => exact .kept (by simp [hstored]) (entry_setManager_same hp rfl page uuid)
    | moved _ => exact .kept (by simp [hstored]) (entry_setManager_same hp rfl page uuid)
    | cleaned hst =>
      by_cases hq : t.page = page ∧ t.uuid = uuid
      · exact .cleaned hstored rfl ht hq.1 hq.2 hst
      · exact .kept (by simp [hstored]) (entry_clearState hp hq)
  | other E => exact .kept (by simp [E.stored]) (E.entry page hpage uuid)

/-! ## The log goes forward -/

theorem Marks.step (M : Marks s) {e : UpdateEvent} (hok : Orderly s e) (h : Step s e s') : Marks s' := by
  cases step_cases M.page h with
  | acted ht ha => exact M.acted ht ha
  | clicked hr hb => exact M.clicked (hok _ hr _ hb)
  | quiet _ _ hq => exact M.quiet hq

/-- A task after a step: as it was, or after an action of its own. -/
inductive Continues (s : Updates) (k : Nat) (t : UpdateTask) (e : UpdateEvent) (t' : UpdateTask) : Prop
  | same : t' = t → actor e ≠ some k → Continues s k t e t'
  | own {a : UpdateAction} {m : FirmwareUpdateManager} :
      e = .act k a → t.act (s.managerOf t.page) a = some (m, t') → Continues s k t e t'

theorem Continues.follows {k : Nat} {t t' : UpdateTask} {e : UpdateEvent} (h : Continues s k t e t') :
    Follows t t' ∧ t.stage.bound ≤ t'.stage.bound := by
  cases h with
  | same heq _ =>
    subst heq
    exact ⟨⟨rfl, rfl, id, id⟩, Nat.le_refl _⟩
  | own _ ha => exact ⟨(act_cases ha).follows, (UpdateTask.act_stores ha).bound_le⟩

theorem task_step (M : Marks s) {e : UpdateEvent} (h : Step s e s') {k : Nat} {t : UpdateTask}
    (ht : s.tasks[k]? = some t) : ∃ t', s'.tasks[k]? = some t' ∧ Continues s k t e t' := by
  have hk : k < s.tasks.length := (List.getElem?_eq_some_iff.mp ht).1
  cases took_of_step M.page h with
  | drawn _ _ _ htasks _ => exact ⟨t, htasks ▸ ht, .same rfl nofun⟩
  | @acted j a t₁ t' m ht₁ ha =>
    by_cases hj : j = k
    · subst hj
      obtain rfl := Option.some.inj (ht₁.symm.trans ht)
      exact ⟨t', List.getElem?_set_self hk, .own rfl ha⟩
    · refine ⟨t, ?_, .same rfl fun he => hj (Option.some.inj he)⟩
      show (s.tasks.set j t')[k]? = some t
      rw [List.getElem?_set_ne hj, ht]
  | other E =>
    obtain ⟨new, htasks, -⟩ := E.tasks
    refine ⟨t, ?_, .same rfl (by simp [E.actor])⟩
    rw [htasks, List.getElem?_append_left hk, ht]

theorem logOf_cases (k : Nat) (s : Updates) (e : UpdateEvent) (s' : Updates) (log : List FirmwareUpdateState) :
    (logOf k s e s' log = log ∧ ∀ t, s.tasks[k]? = some t → t.stage.isDone = false → log ≠ [] →
      ∀ st, s.stored e ≠ some (t.page, t.uuid, st)) ∨
    ∃ t st, s.tasks[k]? = some t ∧ t.stage.isDone = false ∧ s.stored e = some (t.page, t.uuid, st) ∧
      (log ≠ [] ∨ actor e = some k) ∧ logOf k s e s' log = log ++ [st] := by
  unfold logOf
  split
  · next t page uuid st ht hst =>
    split
    · next hcond =>
      obtain ⟨hlive, rfl, rfl, hlog⟩ := hcond
      exact .inr ⟨t, st, ht, hlive, hst, hlog, rfl⟩
    · next hcond =>
      refine .inl ⟨rfl, fun t₁ ht₁ hlive hlog st₁ hst₁ => hcond ?_⟩
      obtain rfl := Option.some.inj (ht.symm.trans ht₁)
      obtain ⟨hp, hrest⟩ := Prod.mk.inj (Option.some.inj (hst.symm.trans hst₁))
      exact ⟨hlive, hp, (Prod.mk.inj hrest).1, .inl hlog⟩
  · next hnone => exact .inl ⟨rfl, fun t ht _ _ st hst => hnone t _ _ _ ht hst⟩

/-- What is loaded is loaded during the flash. -/
def Flashed (s : Updates) : Prop := ∀ t ∈ s.tasks, t.progress ≠ none → 5 ≤ t.stage.bound

theorem Flashed.step (F : Flashed s) (M : Marks s) {e : UpdateEvent} (h : Step s e s') : Flashed s' := by
  cases took_of_step M.page h with
  | drawn _ _ _ htasks _ =>
    rw [Flashed, htasks]
    exact F
  | @acted j a t t' m ht ha =>
    intro x hx hprog
    rcases List.mem_or_eq_of_mem_set hx with hx | rfl
    · exact F x hx hprog
    · have hS := UpdateTask.act_stores ha
      have hF := F t (List.mem_of_getElem? ht)
      have hle := hS.bound_le
      generalize t.storedState a = st at hS
      cases hS with
      | entered _ _ _ => exact Nat.le_trans (hF hprog) hle
      | flashed _ => exact absurd rfl hprog
      | loaded h5 => exact Nat.le_of_eq h5.symm
      | moved _ => exact Nat.le_trans (hF hprog) hle
      | cleaned _ => exact Nat.le_trans (hF hprog) hle
  | other E =>
    obtain ⟨new, htasks, hnew⟩ := E.tasks
    intro x hx hprog
    rw [htasks] at hx
    rcases List.mem_append.mp hx with hx | hx
    · exact F x hx hprog
    · exact absurd (hnew x hx) hprog

/-- The last state of the log is in the map, and of an earlier phase than what the run is
still to store. -/
structure Forwards (k : Nat) (s : Updates) (log : List FirmwareUpdateState) : Prop where
  marks : Marks s
  flashed : Flashed s
  forward : OnlyForward log
  shown : ∀ st ∈ log.getLast?, ∃ t, s.tasks[k]? = some t ∧
    (t.stage.isDone = false → s.entry t.page t.uuid = st ∧ st.phase < t.stage.bound)

section
variable {k : Nat} {log : List FirmwareUpdateState} {e : UpdateEvent} {t t' : UpdateTask}
  {st : FirmwareUpdateState}

theorem Forwards.last (I : Forwards k s log) (ht : s.tasks[k]? = some t) (hlive : t.stage.isDone = false)
    {x : FirmwareUpdateState} (hx : x ∈ log.getLast?) :
    s.entry t.page t.uuid = x ∧ x.phase < t.stage.bound := by
  obtain ⟨t₁, ht₁, hshown⟩ := I.shown x hx
  obtain rfl := Option.some.inj (ht.symm.trans ht₁)
  exact hshown hlive

/-- What the run itself stores. -/
theorem Forwards.own (I : Forwards k s log) {a : UpdateAction} (hok : Orderly s (.act k a))
    (ht : s.tasks[k]? = some t) (hlive : t.stage.isDone = false) {m : FirmwareUpdateManager}
    (ha : t.act (s.managerOf t.page) a = some (m, t')) (hst : t.storedState a = some st) :
    st.isOffer = false ∧ (∀ x ∈ log.getLast?, x.Before st) ∧ st.phase < t'.stage.bound := by
  have hS := UpdateTask.act_stores ha
  rw [hst] at hS
  cases hS with
  | entered hoffer hlow hhigh =>
    exact ⟨hoffer, fun x hx => .inl (Nat.lt_of_lt_of_le (I.last ht hlive hx).2 hlow), hhigh⟩
  | flashed hp =>
    refine ⟨rfl, fun x hx => .inr ⟨?_, rfl⟩, ?_⟩
    · rw [← (I.last ht hlive hx).1]
      exact hok t ht
    · exact I.flashed t (List.mem_of_getElem? ht) (by simp [hp])

/-- What others store for the device after the run has stored a state. -/
theorem Forwards.others (I : Forwards k s log) (hok : Orderly s e) (h : Step s e s')
    (ht : s.tasks[k]? = some t) (hlive : t.stage.isDone = false) (hactor : actor e ≠ some k)
    (hst : s.stored e = some (t.page, t.uuid, st)) {x : FirmwareUpdateState} (hx : x ∈ log.getLast?) :
    st.isOffer = false ∧ x.Before st ∧ st.phase < t.stage.bound := by
  obtain ⟨hentry, hbound⟩ := I.last ht hlive hx
  cases took_of_step I.marks.page h with
  | @acted j a t₁ t₁' m ht₁ ha =>
    have hS := UpdateTask.act_stores ha
    obtain ⟨hpage, huuid, hst₁⟩ := stored_act_some ht₁ hst
    rw [hst₁] at hS
    cases hS with
    | entered hoffer hlow hhigh =>
      -- of the tasks for the device on this page only run `k` is not done
      have hlive₁ : t₁.stage.isDone = false :=
        UpdateTask.not_isDone_of_bound (Nat.lt_of_le_of_lt hlow (FirmwareUpdateState.phase_lt _))
      have hj := I.marks.single j k t₁ t ht₁ ht huuid hpage hlive₁ hlive
      exact absurd (congrArg some hj) hactor
    | flashed hp =>
      have hflash : x.isFlashing = true := by
        rw [← hentry, ← hpage, ← huuid]
        exact hok t₁ ht₁
      refine ⟨rfl, .inr ⟨hflash, rfl⟩, ?_⟩
      rw [FirmwareUpdateState.isFlashing_iff] at hflash
      show 4 < t.stage.bound
      rwa [← hflash]
  | @drawn i state r _ hd hr hstored _ _ =>
    -- the render would find the state of the run, which is no offer
    rw [hst] at hstored
    obtain ⟨st₁, rfl, heq⟩ := Option.map_eq_some_iff.mp hstored.symm
    obtain ⟨hpage, hrest⟩ := Prod.mk.inj heq
    have hoffer := hok _ hd r hr rfl
    rw [hpage, (Prod.mk.inj hrest).1, hentry] at hoffer
    have hno := I.forward.noOffer x (List.mem_of_getLast? hx)
    rw [hoffer] at hno
    cases hno
  | other E => cases hst.symm.trans E.stored

/-- A step that stores nothing in the entry leaves it as it is until the run is done. -/
theorem Forwards.entry_kept (I : Forwards k s log) (h : Step s e s') (ht : s.tasks[k]? = some t)
    (hlive : t.stage.isDone = false) (hlive' : t'.stage.isDone = false)
    (hstep : Continues s k t e t') (hnot : ∀ st, s.stored e ≠ some (t.page, t.uuid, st)) :
    s'.entry t.page t.uuid = s.entry t.page t.uuid := by
  have hpage : t.page < s.managers.length := I.marks.pages t (List.mem_of_getElem? ht)
  cases wrote_of_step I.marks h hpage t.uuid with
  | stored hst _ => exact absurd hst (hnot _)
  | kept _ hentry => exact hentry
  | @cleaned j t₁ _ he ht₁ hp hu hsleep =>
    -- it is the run's own cleanup
    obtain rfl := I.marks.single j k t₁ t ht₁ ht hu hp (by rw [hsleep]; rfl) hlive
    subst he
    cases hstep with
    | same _ hactor => exact absurd rfl hactor
    | own he ha =>
      obtain rfl := (UpdateEvent.act.inj he).2
      cases act_cases ha with
      | on hne _ _ _ => exact absurd rfl hne
      | cleaned _ _ => cases hlive'

theorem Forwards.step (I : Forwards k s log) (hok : Orderly s e) (h : Step s e s') :
    Forwards k s' (logOf k s e s' log) := by
  have M' := I.marks.step hok h
  have F' := I.flashed.step I.marks h
  rcases logOf_cases k s e s' log with ⟨hlog, hnot⟩ | ⟨t, st, ht, hlive, hst, hstarted, hlog⟩
  · rw [hlog]
    refine ⟨M', F', I.forward, fun x hx => ?_⟩
    obtain ⟨t, ht, -⟩ := I.shown x hx
    obtain ⟨t', ht', hstep⟩ := task_step I.marks h ht
    obtain ⟨hf, hle⟩ := hstep.follows
    refine ⟨t', ht', fun hlive' => ?_⟩
    have hlive := hf.live hlive'
    obtain ⟨hentry, hbound⟩ := I.last ht hlive hx
    have hlog : log ≠ [] := by
      rintro rfl
      cases hx
    rw [hf.page, hf.uuid, I.entry_kept h ht hlive hlive' hstep (hnot t ht hlive hlog)]
    exact ⟨hentry, Nat.lt_of_lt_of_le hbound hle⟩
  · rw [hlog]
    obtain ⟨t', ht', hstep⟩ := task_step I.marks h ht
    have hnew : st.isOffer = false ∧ (∀ x ∈ log.getLast?, x.Before st) ∧ st.phase < t'.stage.bound := by
      cases hstep with
      | same heq hactor =>
        have hothers := fun x (hx : x ∈ log.getLast?) => I.others hok h ht hlive hactor hst hx
        obtain ⟨x, hx⟩ : ∃ x, x ∈ log.getLast? :=
          ⟨_, List.getLast?_eq_some_getLast (hstarted.resolve_right hactor)⟩
        rw [heq]
        exact ⟨(hothers x hx).1, fun y hy => (hothers y hy).2.1, (hothers x hx).2.2⟩
      | own he ha =>
        subst he
        exact I.own hok ht hlive ha (stored_act_some ht hst).2.2
    obtain ⟨hoffer, hbefore, hbound⟩ := hnew
    refine ⟨M', F', I.forward.concat hoffer hbefore, fun x hx => ?_⟩
    rw [List.getLast?_concat] at hx
    obtain rfl := Option.some.inj hx
    refine ⟨t', ht', fun _ => ⟨?_, hbound⟩⟩
    rw [hstep.follows.1.page, hstep.follows.1.uuid]
    cases wrote_of_step I.marks h (I.marks.pages t (List.mem_of_getElem? ht)) t.uuid with
    | stored hst' hentry =>
      obtain rfl := (Prod.mk.inj (Prod.mk.inj (Option.some.inj (hst.symm.trans hst'))).2).2
      exact hentry
    | cleaned hnone => cases hst.symm.trans hnone
    | kept hnot _ => exact absurd hst (hnot st)

end

theorem forwards_init (k : Nat) : Forwards k init [] where
  marks := marks_init
  flashed := by simp [Flashed, init]
  forward := .nil
  shown := by simp

/-- **The states of an update.**  In runs whose steps find what they expect, the states stored
for the device of a run, from the first one it stores to its cleanup, only move forward. -/
theorem onlyForward_of_orderly (k : Nat) {tr : List (UpdateEvent × Updates × List FirmwareUpdateState)}
    (hrun : Exec (ghost Step (logOf k)) (init, []) tr)
    (hok : StepsOk (fun s e => Orderly s.1 e) (init, []) tr) :
    Always (fun s => OnlyForward s.2) (init, []) tr := by
  have hstep : ∀ (s : Updates × List FirmwareUpdateState) (e : UpdateEvent)
      (s' : Updates × List FirmwareUpdateState), Forwards k s.1 s.2 → Orderly s.1 e →
        ghost Step (logOf k) s e s' → Forwards k s'.1 s'.2 := by
    intro s e s' I ho h
    rw [h.2]
    exact I.step ho h.1
  exact (hrun.always hstep (forwards_init k) hok).imp fun _ I => I.forward

end

/-! ## A render that is late -/

/-- The states stored in a run, for the device of the first update. -/
def loggedRun (events : List UpdateEvent) : List (UpdateEvent × Updates × List FirmwareUpdateState) :=
  trace (ghostStep next (logOf 0)) (init, []) events

theorem loggedRun_exec (events : List UpdateEvent) :
    Exec (ghost Step (logOf 0)) (init, []) (loggedRun events) :=
  exec_ghostStep (fun _ _ _ h => h) _ _ _

/-- One click and an update that ends, seen by a row that draws and polls meanwhile. -/
def wholeUpdate : List UpdateEvent :=
  offered ++ [.click 0, .act 0 (.start false), .check 0, .draw, .act 0 (.result (.ok 0)), .poll 0,
    .act 0 (.result (.ok 0)), .act 0 (.result (.ok 0)), .act 0 (.result (.ok 2)), .act 0 (.load 1),
    .act 0 .store, .check 0, .act 0 (.result (.ok 2)), .draw, .act 0 (.result (.ok 0)),
    .act 0 (.result (.ok 0)), .act 0 .report, .act 0 .cleanup, .check 0, .draw]

theorem onlyForward_of_orderly_wholeUpdate :
    (last (init, []) (loggedRun wholeUpdate)).2 =
        [.detaching, .waitingForDfu, .downloading, .flashing 0 2, .flashing 1 2, .rebooting, .verifying,
          .complete] ∧
      Always (fun s => OnlyForward s.2) (init, []) (loggedRun wholeUpdate) :=
  ⟨by decide +kernel, onlyForward_of_orderly 0 (loggedRun_exec wholeUpdate) (by decide +kernel)⟩

/-- The row checks the state after the click, and stores the offer when the update has begun. -/
def lateRender : List UpdateEvent := offered ++ [.click 0, .check 0, .act 0 (.start false), .draw]

/-- The progress is stored when the flash has returned and the device reboots. -/
def lateProgress : List UpdateEvent :=
  offered ++ [.click 0, .act 0 (.start true), .act 0 (.result (.ok 0)), .act 0 (.result (.ok 2)),
    .act 0 (.load 2), .act 0 (.result (.ok 2)), .act 0 .store]

theorem lateRender_stored :
    ¬ ∀ (k : Nat) (tr : List (UpdateEvent × Updates × List FirmwareUpdateState)),
      Exec (ghost Step (logOf k)) (init, []) tr → Always (fun s => OnlyForward s.2) (init, []) tr := by
  intro hall
  have hlog : OnlyForward (last (init, []) (loggedRun lateRender)).2 :=
    (hall 0 _ (loggedRun_exec lateRender)).last
  exact absurd hlog (by decide +kernel)

example : ¬ OnlyForward (last (init, []) (loggedRun lateProgress)).2 := by decide +kernel

end Updates

end OdysseyHub
