import OdysseyHub.Desktop.FirmwareOffer
import OdysseyHub.Lib.Slots
import OdysseyHub.Lib.Transition

/-!
# Firmware updates side by side (firmware_update.rs, home.rs)

A click on `Update` marks the device as updating and spawns a task, which runs the update,
keeps its last state for five seconds and clears state and mark.  The button is shown by the
state a row has polled last; the mark is never read.  Opening the Home page anew makes a new
manager, while the tasks keep theirs.

If every click comes when its device is not marked, and no run started from an earlier page
is under way, a device is updated by one run at a time and no cleanup clears a later run:

    StepsOk Unmarked … tr → Always OneRun … tr ∧ StepsOk CleansOwn … tr      (oneRun_of_unmarked)
-/

namespace OdysseyHub

open Slots Transition

/-! ## The manager -/

structure FirmwareUpdateManager where
  states : Finmap fun _ : Uuid => FirmwareUpdateState
  updating : Finset Uuid

namespace FirmwareUpdateManager

def new : FirmwareUpdateManager := { states := ∅, updating := ∅ }

variable (m : FirmwareUpdateManager)

def getState (uuid : Uuid) : FirmwareUpdateState := (m.states.lookup uuid).getD .idle

def setState (uuid : Uuid) (state : FirmwareUpdateState) : FirmwareUpdateManager :=
  { m with states := m.states.insert uuid state }

def isUpdating (uuid : Uuid) : Bool := decide (uuid ∈ m.updating)

def addUpdating (uuid : Uuid) : FirmwareUpdateManager := { m with updating := insert uuid m.updating }

def clearState (uuid : Uuid) : FirmwareUpdateManager :=
  { states := m.states.erase uuid, updating := m.updating.erase uuid }

end FirmwareUpdateManager

/-! ## The task of an update -/

/-- Where the task of `start_firmware_update` is: from `detaching` to `verifying` in
`run_firmware_update`, at the call named. -/
inductive UpdateStage
  | spawned
  | detaching
  | waitingForDfu
  | targeting
  | downloading
  | flashing (total : Nat)
  | rebooting
  | verifying
  /-- `run_firmware_update` has returned -/
  | ended (result : Except String Unit)
  /-- five seconds are left for the user to see the last state -/
  | sleeping
  | done

structure UpdateTask where
  /-- the page whose manager the task has -/
  page : Nat
  device : Device
  deviceType : String
  manifest : Option FirmwareManifest
  stage : UpdateStage
  /-- what the progress updater has loaded and not stored yet, of how much -/
  progress : Option (Nat × Nat)

inductive UpdateAction
  /-- the task runs; `alreadyInDfu` is what the enumeration says -/
  | start (alreadyInDfu : Bool)
  /-- the call has returned; after a download `n` is its size, after a flash what was written -/
  | result (r : Except String Nat)
  /-- the progress updater, which is aborted once the flash has returned -/
  | load (current : Nat)
  | store
  /-- what follows `run_firmware_update` -/
  | report
  | cleanup

namespace UpdateTask

def uuid (t : UpdateTask) : Uuid := t.device.uuid

/-- The task goes on to a stage, and to the state shown there. -/
def enter (t : UpdateTask) (m : FirmwareUpdateManager) (stage : UpdateStage) (state : FirmwareUpdateState) :
    FirmwareUpdateManager × UpdateTask :=
  (m.setState t.uuid state, { t with stage := stage })

/-- The task goes on without a new state. -/
def goTo (t : UpdateTask) (m : FirmwareUpdateManager) (stage : UpdateStage) :
    FirmwareUpdateManager × UpdateTask :=
  (m, { t with stage := stage })

def fail (t : UpdateTask) (m : FirmwareUpdateManager) (text : String) : FirmwareUpdateManager × UpdateTask :=
  t.goTo m (.ended (.error text))

/-- The task returns from the call it is at. -/
def returned (t : UpdateTask) (m : FirmwareUpdateManager) :
    Except String Nat → Option (FirmwareUpdateManager × UpdateTask)
  | .ok n =>
    match t.stage with
    | .detaching => some (t.enter m .waitingForDfu .waitingForDfu)
    | .waitingForDfu => some (t.goTo m .targeting)
    | .targeting => some (t.enter m .downloading .downloading)
    | .downloading => some (t.enter m (.flashing n) (.flashing 0 n))
    | .flashing total =>
      if n < total then some (t.fail m s!"Flash incomplete: {n}/{total} bytes written")
      else some (t.enter m .rebooting .rebooting)
    | .rebooting => some (t.enter m .verifying .verifying)
    | .verifying => some (t.enter m (.ended (.ok ())) .complete)
    | _ => none
  | .error e =>
    match t.stage with
    | .detaching => some (t.fail m s!"DFU detach failed: {e}")
    | .waitingForDfu => some (t.fail m s!"Device did not enter DFU mode: {e}")
    -- the slot, or the file of the slot in the manifest
    | .targeting => some (t.fail m e)
    | .downloading => some (t.fail m s!"Download failed: {e}")
    | .flashing _ => some (t.fail m s!"Flash failed: {e}")
    | _ => none

def act (t : UpdateTask) (m : FirmwareUpdateManager) :
    UpdateAction → Option (FirmwareUpdateManager × UpdateTask)
  | .start alreadyInDfu =>
    match t.stage, t.manifest with
    | .spawned, none => some (t.fail m "No manifest available")
    | .spawned, some manifest =>
      match chooseFirmware manifest t.device t.deviceType with
      | .error e => some (t.fail m e)
      | .ok _ =>
        if alreadyInDfu then some (t.goTo m .targeting) else some (t.enter m .detaching .detaching)
    | _, _ => none
  | .result r => t.returned m r
  | .load current =>
    match t.stage with
    | .flashing total => some (m, { t with progress := some (current, total) })
    | _ => none
  | .store =>
    t.progress.map fun p =>
      (m.setState t.uuid (.flashing p.1 p.2), { t with progress := none })
  | .report =>
    match t.stage with
    | .ended (.error e) => some (t.enter m .sleeping (.failed e))
    | .ended (.ok _) => some (t.goTo m .sleeping)
    | _ => none
  | .cleanup =>
    match t.stage with
    | .sleeping => some (m.clearState t.uuid, { t with stage := .done })
    | _ => none

end UpdateTask

/-! ## The Home page -/

/-- What the handler of an `Update` button has captured. -/
structure UpdateButton where
  device : Device
  deviceType : String
  vid : UInt16
  pid : UInt16
  deriving DecidableEq, Repr

/-- A `DeviceFirmwareUpdate`: its device, its `local_state`, and the button of its last render. -/
structure UpdateRow where
  device : Device
  localState : FirmwareUpdateState
  button : Option UpdateButton

structure Updates where
  /-- the manager of each Home page opened so far, and the page that is open -/
  managers : List FirmwareUpdateManager
  page : Nat
  manifest : Option FirmwareManifest
  rows : List UpdateRow
  /-- a row in the middle of a render, with the state it is about to store -/
  drawing : Option (Nat × Option FirmwareUpdateState)
  tasks : List UpdateTask

inductive UpdateEvent
  /-- Home is left and opened again -/
  | navigate
  | fetched (manifest : FirmwareManifest)
  | mount (device : Device)
  | unmount (i : Nat)
  /-- the device list has new data for the device of the row -/
  | props (i : Nat) (device : Device)
  | poll (i : Nat)
  /-- a render reads the state -/
  | check (i : Nat)
  /-- and stores the next one -/
  | draw
  | click (i : Nat)
  | act (k : Nat) (a : UpdateAction)

/-- A render recomputes only these. -/
def FirmwareUpdateState.isOffer : FirmwareUpdateState → Bool
  | .idle | .available .. | .needsUsbConnection .. => true
  | _ => false

/-- `renderUpdateState` in two steps: what is read, and what is stored. -/
theorem renderUpdateState_eq (current : FirmwareUpdateState) (manifest : Option FirmwareManifest)
    (device : Device) : renderUpdateState current manifest device =
      if current.isOffer then nextUpdateState manifest device else current := by
  cases current <;> rfl

/-- The button a row shows. -/
def UpdateRow.shown (r : UpdateRow) : Option UpdateButton :=
  match r.localState with
  | .available _ _ deviceType vid pid => some ⟨r.device, deviceType, vid, pid⟩
  | _ => none

namespace Updates

def init : Updates :=
  { managers := [.new], page := 0, manifest := none, rows := [], drawing := none, tasks := [] }

def managerOf (s : Updates) (page : Nat) : FirmwareUpdateManager := (s.managers[page]?).getD .new

def manager (s : Updates) : FirmwareUpdateManager := s.managerOf s.page

def setManager (s : Updates) (page : Nat) (m : FirmwareUpdateManager) : Updates :=
  { s with managers := s.managers.set page m }

def setRow (s : Updates) (i : Nat) (r : UpdateRow) : Updates := { s with rows := s.rows.set i r }

/-- `start_firmware_update` -/
def start (s : Updates) (b : UpdateButton) : Updates :=
  { s.setManager s.page (s.manager.addUpdating b.device.uuid) with
    tasks := s.tasks ++ [
      { page := s.page
        device := b.device
        deviceType := b.deviceType
        manifest := s.manifest
        stage := .spawned
        progress := none }] }

/-- The step of the page, which does one thing at a time, or of a task. -/
def next (s : Updates) : UpdateEvent → Option Updates
  | .act k a => do
    let t ← s.tasks[k]?
    let (m, t') ← t.act (s.managerOf t.page) a
    some { s.setManager t.page m with tasks := s.tasks.set k t' }
  | .draw =>
    match s.drawing with
    | none => none
    | some (i, state) => do
      let r ← s.rows[i]?
      let s' := match state with
        | some state => s.setManager s.page (s.manager.setState r.device.uuid state)
        | none => s
      some { s'.setRow i { r with button := r.shown } with drawing := none }
  | e =>
    match s.drawing, e with
    | some _, _ => none
    | none, .navigate =>
      some
        { s with
          managers := s.managers ++ [.new]
          page := s.managers.length
          manifest := none
          rows := [] }
    | none, .fetched manifest => some { s with manifest := some manifest }
    | none, .mount device =>
      some
        { s with
          rows := s.rows ++ [
            { device := device, localState := s.manager.getState device.uuid, button := none }] }
    | none, .unmount i => some { s with rows := s.rows.eraseIdx i }
    | none, .props i device => do
      let r ← s.rows[i]?
      if device.uuid = r.device.uuid then some (s.setRow i { r with device := device }) else none
    | none, .poll i =>
      (s.rows[i]?).map fun r => s.setRow i { r with localState := s.manager.getState r.device.uuid }
    | none, .check i =>
      (s.rows[i]?).map fun r =>
        let current := s.manager.getState r.device.uuid
        { s with
          drawing := some (i, if current.isOffer then some (nextUpdateState s.manifest r.device) else none) }
    | none, .click i => do
      let r ← s.rows[i]?
      (r.button).map s.start
    | none, _ => none

def Step (s : Updates) (e : UpdateEvent) (s' : Updates) : Prop := s.next e = some s'

end Updates

namespace UpdateStage

/-- Between the start and the end of `run_firmware_update`. -/
def isRunning : UpdateStage → Bool
  | .spawned | .ended _ | .sleeping | .done => false
  | _ => true

/-- `run_firmware_update` is still to end. -/
def isPending : UpdateStage → Bool
  | .ended _ | .sleeping | .done => false
  | _ => true

def isDone : UpdateStage → Bool
  | .done => true
  | _ => false

theorem isPending_of_isRunning {st : UpdateStage} (h : st.isRunning = true) : st.isPending = true := by
  cases st <;> first | rfl | cases h

theorem not_isDone_of_isPending {st : UpdateStage} (h : st.isPending = true) : st.isDone = false := by
  cases st <;> first | rfl | cases h

end UpdateStage

namespace Updates

/-! ## What is claimed, and of which clicks -/

/-- A device is updated by one run at a time. -/
def OneRun (s : Updates) : Prop :=
  ∀ (i j : Nat) (t t' : UpdateTask), s.tasks[i]? = some t → s.tasks[j]? = some t' → t.uuid = t'.uuid →
    t.stage.isRunning = true → t'.stage.isRunning = true → i = j

/-- A cleanup finds no later run whose state and mark it would clear. -/
def CleansOwn (s : Updates) : UpdateEvent → Prop
  | .act k .cleanup =>
    ∀ t ∈ s.tasks[k]?, ∀ t' ∈ s.tasks.drop (k + 1), t'.uuid = t.uuid → t'.page = t.page →
      t'.stage.isDone = true
  | _ => True

/-- The device of a click is not marked as updating, and no run for it that was started from
an earlier page is still to end. -/
def Unmarked (s : Updates) : UpdateEvent → Prop
  | .click i =>
    ∀ r ∈ s.rows[i]?, ∀ b ∈ r.button, s.manager.isUpdating b.device.uuid = false ∧
      ∀ t ∈ s.tasks, t.uuid = b.device.uuid → t.page ≠ s.page → t.stage.isPending = false
  | _ => True

instance (s : Updates) (e : UpdateEvent) : Decidable (CleansOwn s e) := by
  unfold CleansOwn
  split <;> infer_instance

instance (s : Updates) (e : UpdateEvent) : Decidable (Unmarked s e) := by
  unfold Unmarked
  split <;> infer_instance

/-! ## What a step does to the tasks and the marks -/

section
variable {s s' : Updates}

theorem managerOf_setManager {page : Nat} (hp : page < s.managers.length) (m : FirmwareUpdateManager)
    (q : Nat) : (s.setManager page m).managerOf q = if page = q then m else s.managerOf q := by
  simp only [setManager, managerOf, List.getElem?_set]
  rw [if_pos hp]
  split
  · rfl
  · rfl

/-- A manager with the marks it had. -/
theorem updating_setManager {page : Nat} (hp : page < s.managers.length) {m : FirmwareUpdateManager}
    (hm : m.updating = (s.managerOf page).updating) (q : Nat) :
    ((s.setManager page m).managerOf q).updating = (s.managerOf q).updating := by
  rw [managerOf_setManager hp]
  split
  · next h => rw [hm, h]
  · rfl

/-- What an action makes of a task: it goes on and leaves the marks alone, or cleans up. -/
inductive Acted (m : FirmwareUpdateManager) (t : UpdateTask) (a : UpdateAction) :
    FirmwareUpdateManager → UpdateTask → Prop
  | on {m' : FirmwareUpdateManager} {stage : UpdateStage} {progress : Option (Nat × Nat)} :
      a ≠ .cleanup → m'.updating = m.updating → stage.isDone = t.stage.isDone →
      (stage.isPending = true → t.stage.isPending = true) →
      Acted m t a m' { t with stage := stage, progress := progress }
  | cleaned : a = .cleanup → t.stage = .sleeping →
      Acted m t a (m.clearState t.uuid) { t with stage := .done }

theorem returned_cases {t t' : UpdateTask} {m m' : FirmwareUpdateManager} {r : Except String Nat}
    (h : t.returned m r = some (m', t')) {a : UpdateAction} (ha : a ≠ .cleanup) : Acted m t a m' t' := by
  unfold UpdateTask.returned at h
  cases hst : t.stage <;> cases r <;> simp only [hst] at h
  case flashing.ok total n =>
    split at h <;> cases h <;> exact .on ha rfl (by rw [hst]; rfl) (by simp [hst, UpdateStage.isPending])
  all_goals
    cases h
    try exact .on ha rfl (by rw [hst]; rfl) (by simp [hst, UpdateStage.isPending])

theorem act_cases {t t' : UpdateTask} {m m' : FirmwareUpdateManager} {a : UpdateAction}
    (h : t.act m a = some (m', t')) : Acted m t a m' t' := by
  cases a with
  | start already =>
    simp only [UpdateTask.act] at h
    split at h
    · next hst _ =>
      cases h
      exact .on (by simp) rfl (by rw [hst]; rfl) (by simp [UpdateStage.isPending])
    · next hst _ =>
      split at h
      · cases h
        exact .on (by simp) rfl (by rw [hst]; rfl) (by simp [UpdateStage.isPending])
      · split at h <;> cases h <;> exact .on (by simp) rfl (by rw [hst]; rfl) (by simp [hst, UpdateStage.isPending])
    · cases h
  | result r => exact returned_cases h (by simp)
  | load current =>
    simp only [UpdateTask.act] at h
    split at h
    · cases h
      exact .on (by simp) rfl rfl id
    · cases h
  | store =>
    obtain ⟨p, -, hp⟩ := Option.map_eq_some_iff.mp h
    cases hp
    exact .on (by simp) rfl rfl id
  | report =>
    simp only [UpdateTask.act] at h
    split at h
    · next hst =>
      cases h
      exact .on (by simp) rfl (by rw [hst]; rfl) (by simp [UpdateStage.isPending])
    · next hst =>
      cases h
      exact .on (by simp) rfl (by rw [hst]; rfl) (by simp [UpdateStage.isPending])
    · cases h
  | cleanup =>
    simp only [UpdateTask.act] at h
    split at h
    · next hst =>
      cases h
      exact .cleaned rfl hst
    · cases h

/-- A step that neither moves a task nor is a click. -/
structure Quiet (s s' : Updates) : Prop where
  tasks : s'.tasks = s.tasks
  managers : s.managers.length ≤ s'.managers.length
  marks : ∀ p < s.managers.length, (s'.managerOf p).updating = (s.managerOf p).updating
  page : s.page < s.managers.length → s'.page < s'.managers.length

/-- The steps of the page and of the tasks. -/
inductive Moved (s : Updates) : UpdateEvent → Updates → Prop
  | acted {k : Nat} {a : UpdateAction} {t t' : UpdateTask} {m : FirmwareUpdateManager} :
      s.tasks[k]? = some t → Acted (s.managerOf t.page) t a m t' →
      Moved s (.act k a) { s.setManager t.page m with tasks := s.tasks.set k t' }
  | clicked {i : Nat} {r : UpdateRow} {b : UpdateButton} :
      s.rows[i]? = some r → r.button = some b → Moved s (.click i) (s.start b)
  | quiet {e : UpdateEvent} {s' : Updates} : (∀ k a, e ≠ .act k a) → (∀ i, e ≠ .click i) → Quiet s s' →
      Moved s e s'

/-- A step that changes the rows, the manifest and the render only. -/
theorem Quiet.of_rows {s' : Updates} (ht : s'.tasks = s.tasks) (hm : s'.managers = s.managers)
    (hp : s'.page = s.page) : Quiet s s' where
  tasks := ht
  managers := by rw [hm]
  marks p _ := by rw [managerOf, hm, managerOf]
  page h := by rwa [hp, hm]

theorem navigate_quiet :
    Quiet s { s with managers := s.managers ++ [.new], page := s.managers.length, manifest := none, rows := [] } where
  tasks := rfl
  managers := by simp
  marks p hp := by simp only [managerOf, List.getElem?_append_left hp]
  page _ := by simp

/-- A render stores a state, and shows a button. -/
theorem draw_quiet (hp : s.page < s.managers.length) (uuid : Uuid) (state : FirmwareUpdateState) (i : Nat)
    (r : UpdateRow) :
    Quiet s { (s.setManager s.page (s.manager.setState uuid state)).setRow i r with drawing := none } where
  tasks := rfl
  managers := by simp [setRow, setManager]
  marks q _ := updating_setManager hp (m := s.manager.setState uuid state) rfl q
  page h := by simpa [setRow, setManager] using h

/-- **Inversion of a step.** -/
theorem step_cases {e : UpdateEvent} (hp : s.page < s.managers.length) (h : Step s e s') : Moved s e s' := by
  have h : s.next e = some s' := h
  unfold next at h
  split at h
  · next k a =>
    obtain ⟨t, ht, h⟩ := Option.bind_eq_some_iff.mp h
    obtain ⟨⟨m, t'⟩, ha, h⟩ := Option.bind_eq_some_iff.mp h
    cases h
    exact .acted ht (act_cases ha)
  · split at h
    · cases h
    · next i state _ =>
      obtain ⟨r, -, h⟩ := Option.bind_eq_some_iff.mp h
      cases h
      refine .quiet (by simp) (by simp) ?_
      cases state with
      | some state => exact draw_quiet hp r.device.uuid state i _
      | none => exact .of_rows rfl rfl rfl
  · split at h
    · cases h
    · cases h
      exact .quiet (by simp) (by simp) navigate_quiet
    · cases h
      exact .quiet (by simp) (by simp) (.of_rows rfl rfl rfl)
    · cases h
      exact .quiet (by simp) (by simp) (.of_rows rfl rfl rfl)
    · cases h
      exact .quiet (by simp) (by simp) (.of_rows rfl rfl rfl)
    · obtain ⟨r, -, h⟩ := Option.bind_eq_some_iff.mp h
      split at h
      · cases h
        exact .quiet (by simp) (by simp) (.of_rows rfl rfl rfl)
      · cases h
    · obtain ⟨r, -, rfl⟩ := Option.map_eq_some_iff.mp h
      exact .quiet (by simp) (by simp) (.of_rows rfl rfl rfl)
    · obtain ⟨r, -, rfl⟩ := Option.map_eq_some_iff.mp h
      exact .quiet (by simp) (by simp) (.of_rows rfl rfl rfl)
    · obtain ⟨r, hr, h⟩ := Option.bind_eq_some_iff.mp h
      obtain ⟨b, hb, rfl⟩ := Option.map_eq_some_iff.mp h
      exact .clicked hr hb
    · cases h

end

/-! ## The invariant -/

/-- A task before its cleanup is marked in its manager and alone there, and of all runs for a
device one at most is still to end. -/
structure Inv (s : Updates) : Prop where
  page : s.page < s.managers.length
  pages : ∀ t ∈ s.tasks, t.page < s.managers.length
  marked : ∀ t ∈ s.tasks, t.stage.isDone = false → t.uuid ∈ (s.managerOf t.page).updating
  single : ∀ (i j : Nat) (t t' : UpdateTask), s.tasks[i]? = some t → s.tasks[j]? = some t' →
    t.uuid = t'.uuid → t.page = t'.page → t.stage.isDone = false → t'.stage.isDone = false → i = j
  alone : ∀ (i j : Nat) (t t' : UpdateTask), s.tasks[i]? = some t → s.tasks[j]? = some t' →
    t.uuid = t'.uuid → t.stage.isPending = true → t'.stage.isPending = true → i = j

/-- The part of it that unmarked clicks keep alone: a task before its cleanup has its mark, and
is the only one for the device on its page. -/
structure Marks (s : Updates) : Prop where
  page : s.page < s.managers.length
  pages : ∀ t ∈ s.tasks, t.page < s.managers.length
  marked : ∀ t ∈ s.tasks, t.stage.isDone = false → t.uuid ∈ (s.managerOf t.page).updating
  single : ∀ (i j : Nat) (t t' : UpdateTask), s.tasks[i]? = some t → s.tasks[j]? = some t' →
    t.uuid = t'.uuid → t.page = t'.page → t.stage.isDone = false → t'.stage.isDone = false → i = j

theorem Inv.marks {s : Updates} (I : Inv s) : Marks s := ⟨I.page, I.pages, I.marked, I.single⟩

theorem marks_init : Marks init where
  page := Nat.zero_lt_one
  pages := by simp [init]
  marked := by simp [init]
  single := by simp [init]

theorem inv_init : Inv init where
  page := marks_init.page
  pages := marks_init.pages
  marked := marks_init.marked
  single := marks_init.single
  alone := by simp [init]

section
variable {s s' : Updates}

theorem Marks.quiet (M : Marks s) (q : Quiet s s') : Marks s' where
  page := q.page M.page
  pages t ht := Nat.lt_of_lt_of_le (M.pages t (q.tasks ▸ ht)) q.managers
  marked t ht hd := by
    rw [q.tasks] at ht
    rw [q.marks t.page (M.pages t ht)]
    exact M.marked t ht hd
  single := by
    rw [q.tasks]
    exact M.single

theorem Inv.quiet (I : Inv s) (q : Quiet s s') : Inv s' where
  page := (I.marks.quiet q).page
  pages := (I.marks.quiet q).pages
  marked := (I.marks.quiet q).marked
  single := (I.marks.quiet q).single
  alone := by
    rw [q.tasks]
    exact I.alone

/-- Two tasks that `P` holds of are one, if there were none such and the new one is like no other. -/
theorem pairs_concat {tasks : List UpdateTask} {x : UpdateTask} {P : UpdateTask → UpdateTask → Prop}
    (hsymm : ∀ t t', P t t' → P t' t)
    (hold : ∀ (i j : Nat) (t t' : UpdateTask), tasks[i]? = some t → tasks[j]? = some t' → P t t' → i = j)
    (hnew : ∀ t ∈ tasks, ¬ P t x) (i j : Nat) (t t' : UpdateTask) (hi : (tasks ++ [x])[i]? = some t)
    (hj : (tasks ++ [x])[j]? = some t') (hP : P t t') : i = j := by
  rcases getElem?_concat_some.mp hi with hi₁ | ⟨rfl, rfl⟩
  · rcases getElem?_concat_some.mp hj with hj₁ | ⟨rfl, rfl⟩
    · exact hold i j t t' hi₁ hj₁ hP
    · exact absurd hP (hnew t (List.mem_of_getElem? hi₁))
  · rcases getElem?_concat_some.mp hj with hj₁ | ⟨rfl, rfl⟩
    · exact absurd (hsymm _ _ hP) (hnew t' (List.mem_of_getElem? hj₁))
    · rfl

/-- What a task does not gain by an action: it is not undone, and does not start anew. -/
structure Follows (t t' : UpdateTask) : Prop where
  uuid : t'.uuid = t.uuid
  page : t'.page = t.page
  live : t'.stage.isDone = false → t.stage.isDone = false
  pending : t'.stage.isPending = true → t.stage.isPending = true

theorem Acted.follows {m m' : FirmwareUpdateManager} {t t' : UpdateTask} {a : UpdateAction}
    (h : Acted m t a m' t') : Follows t t' := by
  cases h with
  | on ha hm hd hp => exact ⟨rfl, rfl, fun h => hd ▸ h, hp⟩
  | cleaned ha hst => exact ⟨rfl, rfl, fun h => Bool.noConfusion h, fun h => Bool.noConfusion h⟩

theorem follows_set {tasks : List UpdateTask} {k : Nat} {t t' : UpdateTask} (hk : tasks[k]? = some t)
    (h : Follows t t') {i : Nat} {x : UpdateTask} (hi : (tasks.set k t')[i]? = some x) :
    ∃ y, tasks[i]? = some y ∧ Follows y x := by
  rcases getElem?_set_cases hi with ⟨rfl, rfl⟩ | ⟨-, hi⟩
  · exact ⟨t, hk, h⟩
  · exact ⟨x, hi, ⟨rfl, rfl, id, id⟩⟩

theorem Marks.acted (M : Marks s) {k : Nat} {a : UpdateAction} {t t' : UpdateTask} {m : FirmwareUpdateManager}
    (ht : s.tasks[k]? = some t) (h : Acted (s.managerOf t.page) t a m t') :
    Marks { s.setManager t.page m with tasks := s.tasks.set k t' } := by
  have hpage : t.page < s.managers.length := M.pages t (List.mem_of_getElem? ht)
  have hlen : (s.managers.set t.page m).length = s.managers.length := List.length_set
  refine ⟨?_, ?_, ?_, ?_⟩
  · show s.page < (s.managers.set t.page m).length
    rw [hlen]
    exact M.page
  · intro x hx
    show x.page < (s.managers.set t.page m).length
    rw [hlen]
    obtain ⟨i, hi⟩ := List.mem_iff_getElem?.mp hx
    obtain ⟨y, hy, hf⟩ := follows_set ht h.follows hi
    rw [hf.page]
    exact M.pages y (List.mem_of_getElem? hy)
  · intro x hx hd
    obtain ⟨i, hi⟩ := List.mem_iff_getElem?.mp hx
    obtain ⟨y, hy, hf⟩ := follows_set ht h.follows hi
    have hmark : x.uuid ∈ (s.managerOf x.page).updating := by
      rw [hf.uuid, hf.page]
      exact M.marked y (List.mem_of_getElem? hy) (hf.live hd)
    show x.uuid ∈ ((s.setManager t.page m).managerOf x.page).updating
    cases h with
    | on _ hm _ _ =>
      rw [updating_setManager hpage hm]
      exact hmark
    | cleaned _ hst =>
      rw [managerOf_setManager hpage]
      split
      · next hp =>
        -- the other task is for another device, or it would be the one that is cleaned up
        refine Finset.mem_erase.mpr ⟨fun hu => ?_, hp ▸ hmark⟩
        rcases getElem?_set_cases hi with ⟨-, rfl⟩ | ⟨hne, hi⟩
        · cases hd
        · exact hne (M.single i k x t hi ht hu hp.symm hd (by rw [hst]; rfl))
      · exact hmark
  · intro i j x x' hi hj hu hp hd hd'
    obtain ⟨y, hy, hf⟩ := follows_set ht h.follows hi
    obtain ⟨y', hy', hf'⟩ := follows_set ht h.follows hj
    exact M.single i j y y' hy hy' (hf.uuid.symm.trans (hu.trans hf'.uuid))
      (hf.page.symm.trans (hp.trans hf'.page)) (hf.live hd) (hf'.live hd')

theorem Inv.acted (I : Inv s) {k : Nat} {a : UpdateAction} {t t' : UpdateTask} {m : FirmwareUpdateManager}
    (ht : s.tasks[k]? = some t) (h : Acted (s.managerOf t.page) t a m t') :
    Inv { s.setManager t.page m with tasks := s.tasks.set k t' } := by
  have M := I.marks.acted ht h
  refine ⟨M.page, M.pages, M.marked, M.single, ?_⟩
  intro i j x x' hi hj hu hp hp'
  obtain ⟨y, hy, hf⟩ := follows_set ht h.follows hi
  obtain ⟨y', hy', hf'⟩ := follows_set ht h.follows hj
  exact I.alone i j y y' hy hy' (hf.uuid.symm.trans (hu.trans hf'.uuid)) (hf.pending hp) (hf'.pending hp')

/-- The tasks for a device that is not marked on the page are done. -/
theorem Marks.free (M : Marks s) {uuid : Uuid} (hmark : s.manager.isUpdating uuid = false) {t : UpdateTask}
    (ht : t ∈ s.tasks) (hu : t.uuid = uuid) (hp : t.page = s.page) : t.stage.isDone = true := by
  by_contra hd
  have hmem := M.marked t ht (by simpa using hd)
  rw [hu, hp] at hmem
  exact absurd hmem (of_decide_eq_false hmark)

theorem Marks.clicked (M : Marks s) {b : UpdateButton} (hmark : s.manager.isUpdating b.device.uuid = false) :
    Marks (s.start b) := by
  have hlen : (s.managers.set s.page (s.manager.addUpdating b.device.uuid)).length = s.managers.length :=
    List.length_set
  have hmarks : ∀ q, (s.managerOf q).updating ⊆
      ((s.setManager s.page (s.manager.addUpdating b.device.uuid)).managerOf q).updating := by
    intro q
    rw [managerOf_setManager M.page]
    split
    · next hq =>
      subst hq
      exact Finset.subset_insert _ _
    · exact Finset.Subset.refl _
  refine ⟨?_, ?_, ?_, ?_⟩
  · show s.page < (s.managers.set s.page _).length
    rw [hlen]
    exact M.page
  · refine forall_mem_concat (fun t ht => ?_) ?_
    · show t.page < (s.managers.set s.page _).length
      rw [hlen]
      exact M.pages t ht
    · show s.page < (s.managers.set s.page _).length
      rw [hlen]
      exact M.page
  · refine forall_mem_concat (fun t ht hd => hmarks t.page (M.marked t ht hd)) fun _ => ?_
    show b.device.uuid ∈
      ((s.setManager s.page (s.manager.addUpdating b.device.uuid)).managerOf s.page).updating
    rw [managerOf_setManager M.page, if_pos rfl]
    exact Finset.mem_insert_self _ _
  · intro i j t t' hi hj hu hp hd hd'
    refine pairs_concat
      (P := fun t t' => t.uuid = t'.uuid ∧ t.page = t'.page ∧ t.stage.isDone = false ∧ t'.stage.isDone = false)
      (fun t t' ⟨hu, hp, hd, hd'⟩ => ⟨hu.symm, hp.symm, hd', hd⟩)
      (fun i j t t' hi hj ⟨hu, hp, hd, hd'⟩ => M.single i j t t' hi hj hu hp hd hd') ?_ i j t t' hi hj
      ⟨hu, hp, hd, hd'⟩
    rintro t ht ⟨hu, hp, hd, -⟩
    exact absurd (M.free hmark ht hu hp) (by simp [hd])

theorem Inv.clicked (I : Inv s) {b : UpdateButton} (hmark : s.manager.isUpdating b.device.uuid = false)
    (hearlier : ∀ t ∈ s.tasks, t.uuid = b.device.uuid → t.page ≠ s.page → t.stage.isPending = false) :
    Inv (s.start b) := by
  have M := I.marks.clicked hmark
  refine ⟨M.page, M.pages, M.marked, M.single, ?_⟩
  intro i j t t' hi hj hu hp hp'
  refine pairs_concat
    (P := fun t t' => t.uuid = t'.uuid ∧ t.stage.isPending = true ∧ t'.stage.isPending = true)
    (fun t t' ⟨hu, hp, hp'⟩ => ⟨hu.symm, hp', hp⟩)
    (fun i j t t' hi hj ⟨hu, hp, hp'⟩ => I.alone i j t t' hi hj hu hp hp') ?_ i j t t' hi hj ⟨hu, hp, hp'⟩
  rintro t ht ⟨hu, hp, -⟩
  by_cases hpage : t.page = s.page
  · have hdone := I.marks.free hmark ht hu hpage
    rw [UpdateStage.not_isDone_of_isPending hp] at hdone
    cases hdone
  · exact absurd hp (by simp [hearlier t ht hu hpage])

theorem Inv.step (I : Inv s) {e : UpdateEvent} (hok : Unmarked s e) (h : Step s e s') : Inv s' := by
  cases step_cases I.page h with
  | acted ht ha => exact I.acted ht ha
  | clicked hr hb =>
    obtain ⟨hmark, hearlier⟩ := hok _ hr _ hb
    exact I.clicked hmark hearlier
  | quiet _ _ hq => exact I.quiet hq

theorem Inv.oneRun (I : Inv s) : OneRun s := fun i j t t' hi hj hu hr hr' =>
  I.alone i j t t' hi hj hu (UpdateStage.isPending_of_isRunning hr) (UpdateStage.isPending_of_isRunning hr')

/-- A later task for the device is done, since the one that is cleaned up is not. -/
theorem Inv.cleansOwn (I : Inv s) {e : UpdateEvent} (h : Step s e s') : CleansOwn s e := by
  unfold CleansOwn
  split
  · next k =>
    intro t ht t' ht' hu hp
    obtain ⟨i, hi⟩ := List.mem_iff_getElem?.mp ht'
    rw [List.getElem?_drop] at hi
    by_contra hd
    cases step_cases I.page h with
    | acted ht₀ ha =>
      obtain rfl := Option.some.inj (ht₀.symm.trans ht)
      cases ha with
      | on hne _ _ _ => exact hne rfl
      | cleaned _ hst =>
        have hsame := I.single k (k + 1 + i) _ t' ht hi hu.symm hp.symm (by rw [hst]; rfl) (by simpa using hd)
        omega
    | quiet hact _ _ => exact hact _ _ rfl
  · trivial

/-- **Updates.**  In runs whose clicks all come unmarked, a device is updated by one run at a
time, and no cleanup of a run clears the state or the mark of a later one. -/
theorem oneRun_of_unmarked {tr : List (UpdateEvent × Updates)} (hrun : Exec Step init tr)
    (hok : StepsOk Unmarked init tr) : Always OneRun init tr ∧ StepsOk CleansOwn init tr := by
  have hstep : ∀ s e s', Inv s → Unmarked s e → Step s e s' → Inv s' := fun _ _ _ I ho h => I.step ho h
  refine ⟨?_, ?_⟩
  · exact (hrun.always hstep inv_init hok).imp fun _ I => I.oneRun
  · exact hrun.stepsOk hstep (fun _ _ _ I _ h => I.cleansOwn h) inv_init hok

end

/-! ## A second click -/

def updateRun (events : List UpdateEvent) : List (UpdateEvent × Updates) := trace next init events

theorem updateRun_exec (events : List UpdateEvent) : Exec Step init (updateRun events) :=
  exec_trace (fun _ _ _ h => h) _ _

/-- The row of a plugged device polls the offer and draws the button. -/
def offered : List UpdateEvent :=
  [.fetched sampleAhead, .mount samplePlugged, .check 0, .draw, .poll 0, .check 0, .draw]

/-- One click, and the run it starts. -/
def oneClick : List UpdateEvent := offered ++ [.click 0, .act 0 (.start false), .act 0 (.result (.ok 0))]

theorem oneRun_of_unmarked_oneClick :
    (updateRun oneClick).length = 10 ∧
      Always OneRun init (updateRun oneClick) ∧ StepsOk CleansOwn init (updateRun oneClick) :=
  ⟨by decide +kernel, oneRun_of_unmarked (updateRun_exec oneClick) (by decide +kernel)⟩

/-- The row has not polled again when the button is clicked again. -/
def twoClicks : List UpdateEvent :=
  offered ++ [.click 0, .act 0 (.start false), .click 0, .act 1 (.start false)]

/-- The detach fails, and the button is clicked again before the row polls: the cleanup of the
first run comes while the second is under way. -/
def clickAfterFailure : List UpdateEvent :=
  offered ++ [.click 0, .act 0 (.start false), .act 0 (.result (.error "")), .act 0 .report, .click 0,
    .act 1 (.start false), .act 0 .cleanup]

theorem second_click_runs :
    ¬ ∀ tr : List (UpdateEvent × Updates), Exec Step init tr →
      Always OneRun init tr ∧ StepsOk CleansOwn init tr := by
  intro hall
  have hone : OneRun (last init (updateRun twoClicks)) := (hall _ (updateRun_exec twoClicks)).1.last
  have hrunning : ∀ k < 2, ((last init (updateRun twoClicks)).tasks[k]?).any
      (fun t => t.uuid == samplePlugged.uuid && t.stage.isRunning) = true := by decide +kernel
  obtain ⟨t, ht, hrun⟩ := (Option.any_eq_true _ _).mp (hrunning 0 (by decide))
  obtain ⟨t', ht', hrun'⟩ := (Option.any_eq_true _ _).mp (hrunning 1 (by decide))
  rw [Bool.and_eq_true, beq_iff_eq] at hrun hrun'
  exact absurd (hone 0 1 t t' ht ht' (hrun.1.trans hrun'.1.symm) hrun.2 hrun'.2) (by decide)

example : ¬ StepsOk CleansOwn init (updateRun clickAfterFailure) := by decide +kernel

end Updates

end OdysseyHub
