import OdysseyHub.Lib.Slots
import OdysseyHub.Server.Registry

/-!
# What an operation of the registry can change

Inversion lemmas for `Registry.Core`, one for each table: a task stays as it was, takes
a message or does an event of its own (`Core.moved`), so that it keeps its UUID and does
not come back to life (`Core.tasks`); an entry of `device_handles` is new only where a
creator inserts its own handler (`Core.handles`) and goes only with its task or under
another handler (`Core.handles_lost`); a creator is moved on by its own operations alone
(`Core.stages`).
-/

namespace OdysseyHub

open HandlerTask Slots

/-- The message an operation sends, and the handler it goes to. -/
def Op.sends : Op → Option (HandlerId × DeviceTaskMessage)
  | .queue _ h msg | .merge _ _ _ h msg | .send h msg => some (h, msg)
  | _ => none

namespace Registry

/-! ## Fields of the updates -/

section
variable (R : Registry) (c : Creator) (st : Stage) (h : HandlerId) (t : HandlerTask)

@[simp] theorem setStage_handles : (R.setStage c st).handles = R.handles := rfl
@[simp] theorem setStage_tasks : (R.setStage c st).tasks = R.tasks := rfl
@[simp] theorem setStage_tracks : (R.setStage c st).tracks = R.tracks := rfl
@[simp] theorem setStage_stage : (R.setStage c st).stage = Function.update R.stage c st := rfl

end

/-- The tasks after a send. -/
theorem receive_tasks_some {R : Registry} {h k : HandlerId} {msg : DeviceTaskMessage}
    {t' : HandlerTask} :
    (R.receive h msg).tasks[k]? = some t' ↔
      ∃ t, R.tasks[k]? = some t ∧ t' = if h = k then t.receive msg else t := by
  simp only [receive, List.getElem?_modify, Option.map_eq_map, Option.map_eq_some_iff]
  constructor
  · rintro ⟨t, ht, rfl⟩
    exact ⟨t, ht, rfl⟩
  · rintro ⟨t, ht, rfl⟩
    exact ⟨t, ht, rfl⟩

theorem setTask_tasks_some {R : Registry} {h k : HandlerId} {t t' t'' : HandlerTask}
    (ht : R.tasks[h]? = some t) :
    (R.setTask h t').tasks[k]? = some t'' ↔ (h = k ∧ t'' = t') ∨ (h ≠ k ∧ R.tasks[k]? = some t'') := by
  simp only [setTask, getElem?_set_of_some ht]
  split
  · next hk => simp [hk, eq_comm]
  · next hk => simp [hk]

theorem setStage_self (R : Registry) (c : Creator) (st : Stage) : (R.setStage c st).stage c = st := by
  simp

theorem setStage_of_ne (R : Registry) {c c' : Creator} (st : Stage) (h : c' ≠ c) :
    (R.setStage c st).stage c' = R.stage c' := by
  simp [h]

variable {R R' : Registry} {op : Op}

/-! ## Tasks -/

/-- The task of `t'` before the step: the same, or earlier in its life. -/
structure Before (t t' : HandlerTask) : Prop where
  uuid : t'.uuid = t.uuid
  running : t'.Running → t.Running
  inLoop : t'.InLoop → t.InLoop

theorem Before.refl (t : HandlerTask) : Before t t := ⟨rfl, id, id⟩

theorem before_receive (t : HandlerTask) (msg : DeviceTaskMessage) : Before t (t.receive msg) :=
  ⟨receive_uuid t msg, (receive_running t msg).mp, (receive_inLoop t msg).mp⟩

theorem before_next {t t' : HandlerTask} {e : HandlerEvent} (h : t.next e = some t') : Before t t' :=
  ⟨next_uuid h, fun hr hf => hr ((next_phase h).1 hf), (next_phase h).2.2⟩

/-- The task after a step: as it was, with one more message, or after an event of its own. -/
inductive Moved (op : Op) (k : HandlerId) (t : HandlerTask) : HandlerTask → Prop
  | same : Moved op k t t
  | received {msg : DeviceTaskMessage} : op.sends = some (k, msg) → Moved op k t (t.receive msg)
  | worked {e : HandlerEvent} {t' : HandlerTask} : op = .work k e → t.next e = some t' → Moved op k t t'

theorem Moved.before {k : HandlerId} {t t' : HandlerTask} (h : Moved op k t t') : Before t t' := by
  cases h with
  | same => exact .refl t
  | received hop => exact before_receive t _
  | worked hop hn => exact before_next hn

/-- A task ends by its own exit. -/
theorem Moved.exits {k : HandlerId} {t t' : HandlerTask} (h : Moved op k t t') (hr : t.Running)
    (hf : ¬ t'.Running) : op = .work k .exit := by
  cases h with
  | same => exact absurd hr hf
  | received hop => exact absurd ((receive_running t _).mpr hr) hf
  | worked hop hn =>
    obtain hp | rfl := (next_phase hn).2.1 (not_not.mp hf)
    · exact absurd hp hr
    · exact hop

theorem receive_moved {h k : HandlerId} {msg : DeviceTaskMessage} {t' : HandlerTask}
    (ht : (R.receive h msg).tasks[k]? = some t') (hop : op.sends = some (h, msg)) :
    ∃ t, R.tasks[k]? = some t ∧ Moved op k t t' := by
  obtain ⟨t, ht₀, rfl⟩ := receive_tasks_some.mp ht
  refine ⟨t, ht₀, ?_⟩
  split
  · next hk => exact .received (hk ▸ hop)
  · exact .same

theorem setTask_moved {h k : HandlerId} {t t₁ t' : HandlerTask} {e : HandlerEvent}
    (ht : R.tasks[h]? = some t) (hn : t.next e = some t₁)
    (hk : (R.setTask h t₁).tasks[k]? = some t') :
    ∃ t, R.tasks[k]? = some t ∧ Moved (.work h e) k t t' := by
  obtain ⟨rfl, rfl⟩ | ⟨-, hk⟩ := (setTask_tasks_some ht).mp hk
  · exact ⟨t, ht, .worked rfl hn⟩
  · exact ⟨t', hk, .same⟩

theorem Core.moved (h : Core R op R') {k : HandlerId} {t' : HandlerTask}
    (ht : R'.tasks[k]? = some t') :
    (∃ t, R.tasks[k]? = some t ∧ Moved op k t t') ∨ ∃ c, op = .spawn c t' ∧ k = R.tasks.length := by
  cases h with
  | spawn hc hu hf =>
    obtain ht | ⟨rfl, rfl⟩ := getElem?_concat_some.mp ht
    · exact .inl ⟨t', ht, .same⟩
    · exact .inr ⟨_, rfl, rfl⟩
  | queue hc => exact .inl (receive_moved ht rfl)
  | merge hl hc hu => exact .inl (receive_moved ht rfl)
  | sendLink hl hu hm hs => exact .inl (receive_moved ht rfl)
  | sendCall hs hm => exact .inl (receive_moved ht rfl)
  | work htk hn hx hcl hp => exact .inl (setTask_moved htk hn ht)
  | forget htk hn hp => exact .inl (setTask_moved (R := R) htk hn ht)
  | exit x htk hn => exact .inl (setTask_moved htk hn ht)
  | _ => exact .inl ⟨t', ht, .same⟩

theorem Core.tasks (h : Core R op R') {k : HandlerId} {t' : HandlerTask}
    (ht : R'.tasks[k]? = some t') :
    (∃ t, R.tasks[k]? = some t ∧ Before t t') ∨
      ∃ c, op = .spawn c t' ∧ k = R.tasks.length := by
  obtain ⟨t, ht, hm⟩ | hsp := h.moved ht
  · exact .inl ⟨t, ht, hm.before⟩
  · exact .inr hsp

theorem Core.length_le (hs : Core R op R') : R.tasks.length ≤ R'.tasks.length := by
  cases hs <;> simp [Registry.receive, Registry.setTask, Registry.track, Registry.evict,
    Registry.setHandle, Registry.setSender]

/-- No task is lost. -/
theorem Core.kept (hs : Core R op R') {k : HandlerId} {t : HandlerTask} (ht : R.tasks[k]? = some t) :
    ∃ t', R'.tasks[k]? = some t' ∧ Moved op k t t' := by
  have hlt := (List.getElem?_eq_some_iff.mp ht).1
  have ht' := List.getElem?_eq_getElem (Nat.lt_of_lt_of_le hlt hs.length_le)
  obtain ⟨t₀, ht₀, hm⟩ | ⟨c, -, hk⟩ := hs.moved ht'
  · obtain rfl : t₀ = t := Option.some.inj (ht₀.symm.trans ht)
    exact ⟨_, ht', hm⟩
  · exact absurd hk (Nat.ne_of_lt hlt)

/-- **Who can send to a handler**: the manager that has announced it, whoever finds it in
the table, and who has a sender of it. -/
theorem Core.sends (hs : Core R op R') {h : HandlerId} {msg : DeviceTaskMessage}
    (hop : op.sends = some (h, msg)) :
    (∃ m u, R.stage (.manager m) = .announced h u) ∨
    (R.Unlocked ∧ (∃ u, R.handles u = some h) ∧ (msg.isEvents = true ∨ R.stage .scan = .free)) ∨
    R.shared h := by
  cases hs with
  | queue hc =>
    cases hop
    exact .inl ⟨_, _, hc⟩
  | merge hl _ hu =>
    cases hop
    exact .inr (.inl ⟨hl, ⟨_, hu⟩, .inl rfl⟩)
  | sendLink hl hu _ hm =>
    cases hop
    exact .inr (.inl ⟨hl, ⟨_, hu⟩, hm⟩)
  | sendCall hsh _ =>
    cases hop
    exact .inr (.inr hsh)
  | _ => cases hop

theorem Core.closed {h : HandlerId} (hs : Core R (.work h .closed) R') : R.Unheld h := by
  cases hs with
  | work ht hn hx hcl => exact hcl rfl

/-- A `Connect` alone makes a sender known. -/
theorem Core.shared (hs : Core R op R') {h : HandlerId} (h' : R'.shared h) :
    R.shared h ∨ ∃ c u, op = .announce c h ∧ R.stage c = .announcing h u := by
  cases hs with
  | @announce c k u hc =>
    obtain h' | rfl := h'
    · exact .inl h'
    · exact .inr ⟨c, u, rfl, hc⟩
  | _ => exact .inl h'

/-! ## Entries -/

/-- The operation enters the handler `h` of the creator `c` into the table. -/
def Inserts (op : Op) (c : Creator) (h : HandlerId) : Prop :=
  (op = .insertScan h ∧ c = .scan) ∨ ∃ m addr, op = .insertHub m addr h ∧ c = .manager m

theorem Core.handles (hs : Core R op R') {u : Uuid} {h : HandlerId} (hu : R'.handles u = some h) :
    R.handles u = some h ∨ ∃ c, R.stage c = .spawned h u ∧ Inserts op c h := by
  cases hs with
  | evict hl he =>
    simp only [Registry.evict] at hu
    split at hu
    · cases hu
    · exact .inl hu
  | insertScan hl hc =>
    simp only [setStage_handles, setHandle, Function.update_apply] at hu
    split at hu
    · next huv => cases hu; subst huv; exact .inr ⟨_, hc, .inl ⟨rfl, rfl⟩⟩
    · exact .inl hu
  | insertHub hl hc =>
    simp only [Registry.track, setStage_handles, setHandle, Function.update_apply] at hu
    split at hu
    · next huv => cases hu; subst huv; exact .inr ⟨_, hc, .inr ⟨_, _, rfl, rfl⟩⟩
    · exact .inl hu
  | _ => exact .inl hu

theorem Inserts.unique {c c' : Creator} {h h' : HandlerId} (hi : Inserts op c h)
    (hi' : Inserts op c' h') : c = c' := by
  obtain ⟨rfl, rfl⟩ | ⟨m, addr, rfl, rfl⟩ := hi
  · obtain ⟨-, rfl⟩ | ⟨m', addr', hop, -⟩ := hi'
    · rfl
    · cases hop
  · obtain ⟨hop, -⟩ | ⟨m', addr', hop, rfl⟩ := hi'
    · cases hop
    · cases hop
      rfl

/-- The table changes only while no creator holds the lock. -/
theorem Core.handles_same (hs : Core R op R') : R'.handles = R.handles ∨ R.Unlocked := by
  cases hs with
  | evict hl => exact .inr hl
  | insertScan hl => exact .inr hl
  | insertHub hl => exact .inr hl
  | _ => exact .inl rfl

/-- An entry goes when its task has ended, or another handler of the UUID comes in. -/
theorem Core.handles_lost (hs : Core R op R') {u : Uuid} {h : HandlerId} {t : HandlerTask}
    (hu : R.handles u = some h) (ht : R.tasks[h]? = some t) (hr : t.Running) :
    R'.handles u = some h ∨ ∃ c k, R.stage c = .spawned k u ∧ Inserts op c k := by
  cases hs with
  | @evict us direct hl he =>
    simp only [Registry.evict]
    split
    · next hmem =>
      obtain ⟨k, t', hk, ht', hr'⟩ := he u hmem
      rw [hu] at hk
      cases hk
      rw [ht] at ht'
      cases ht'
      exact absurd hr hr'
    · exact .inl hu
  | @insertScan k v hl hc =>
    by_cases huv : u = v
    · subst huv
      exact .inr ⟨_, k, hc, .inl ⟨rfl, rfl⟩⟩
    · exact .inl (by simpa [setHandle, huv] using hu)
  | @insertHub m addr k v hl hc =>
    by_cases huv : u = v
    · subst huv
      exact .inr ⟨_, k, hc, .inr ⟨_, _, rfl, rfl⟩⟩
    · exact .inl (by simpa [Registry.track, setHandle, huv] using hu)
  | _ => exact .inl hu

/-! ## The set of direct handlers -/

/-- The scan alone adds to the set, the UUID of the handler it has just entered. -/
theorem Core.direct (hs : Core R op R') {u : Uuid} (hu : u ∈ R'.direct) :
    u ∈ R.direct ∨ ∃ h, op = .insertDirect h ∧ R.stage .scan = .inserted h u := by
  cases hs with
  | @evict us direct hl he =>
    simp only [Registry.evict] at hu
    split at hu
    · exact .inl (Finset.mem_sdiff.mp hu).1
    · exact .inl hu
  | @insertDirect h v hc =>
    obtain rfl | hu := Finset.mem_insert.mp hu
    · exact .inr ⟨h, rfl, hc⟩
    · exact .inl hu
  | forget => exact .inl (Finset.mem_erase.mp hu).2
  | _ => exact .inl hu

/-- A handler that removes a UUID from the set does so. -/
theorem Core.forgets {h : HandlerId} {t : HandlerTask} {u : Uuid} (hs : Core R (.work h .perform) R')
    (ht : R.tasks[h]? = some t) (hhd : t.todo.head? = some (.removeDirect u)) : u ∉ R'.direct := by
  cases hs with
  | work ht₀ hn hx hcl hp =>
    rw [ht] at ht₀
    cases ht₀
    exact absurd hhd (hp rfl u)
  | forget ht₀ hn hhd₀ =>
    rw [ht] at ht₀
    cases ht₀
    rw [hhd] at hhd₀
    cases hhd₀
    exact Finset.notMem_erase u R.direct

/-! ## Creators -/

/-- How an operation moves its creator on. -/
inductive Advance (R : Registry) : Op → Creator → Stage → Stage → Prop
  | spawn {c : Creator} {t : HandlerTask} :
      Advance R (.spawn c t) c .free (.spawned R.tasks.length t.uuid)
  | insertScan {h : HandlerId} {u : Uuid} :
      Advance R (.insertScan h) .scan (.spawned h u) (.inserted h u)
  | insertHub {m : ManagerId} {addr : Uuid} {h : HandlerId} {u : Uuid} :
      Advance R (.insertHub m addr h) (.manager m) (.spawned h u) (.announcing h u)
  | insertDirect {h : HandlerId} {u : Uuid} :
      Advance R (.insertDirect h) .scan (.inserted h u) (.announcing h u)
  | announceScan {h : HandlerId} {u : Uuid} :
      Advance R (.announce .scan h) .scan (.announcing h u) .free
  | announceHub {m : ManagerId} {h : HandlerId} {u : Uuid} :
      Advance R (.announce (.manager m) h) (.manager m) (.announcing h u) (.announced h u)
  | queue {m : ManagerId} {h : HandlerId} {u : Uuid} {msg : DeviceTaskMessage} :
      Advance R (.queue m h msg) (.manager m) (.announced h u) .free
  | abort {m : ManagerId} {st : Stage} : Advance R (.abort m) (.manager m) st .free

theorem update_stage {c c' : Creator} {st st' : Stage} (hc : R.stage c' = st)
    (ha : Advance R op c' st st') :
    Function.update R.stage c' st' c = R.stage c ∨
      Advance R op c (R.stage c) (Function.update R.stage c' st' c) := by
  rcases eq_or_ne c c' with rfl | hne
  · rw [Function.update_self, hc]
    exact .inr ha
  · exact .inl (Function.update_of_ne hne ..)

/-- **Inversion for the creators**: one stays at its stage, or its own operation moves it on. -/
theorem Core.stages (hs : Core R op R') (c : Creator) :
    R'.stage c = R.stage c ∨ Advance R op c (R.stage c) (R'.stage c) := by
  cases hs with
  | spawn hc => exact update_stage hc .spawn
  | insertScan hl hc => exact update_stage hc .insertScan
  | insertHub hl hc => exact update_stage hc .insertHub
  | insertDirect hc => exact update_stage hc .insertDirect
  | @announce c' h u hc =>
    cases c' with
    | scan => exact update_stage hc .announceScan
    | manager m => exact update_stage hc .announceHub
  | queue hc => exact update_stage hc .queue
  | abort => exact update_stage (R := R) rfl .abort
  | _ => exact .inl rfl

/-- A creator has the handler it had, or the one it spawns. -/
theorem Core.stage_handler (hs : Core R op R') {c : Creator} {h : HandlerId}
    (hh : (R'.stage c).handler = some h) :
    ((R.stage c).handler = some h ∧ (R'.stage c).uuid = (R.stage c).uuid) ∨
      ∃ t, op = .spawn c t ∧ h = R.tasks.length ∧ (R'.stage c).uuid = some t.uuid := by
  obtain he | ha := hs.stages c
  · rw [he] at hh ⊢
    exact .inl ⟨hh, rfl⟩
  · generalize R.stage c = st at ha
    generalize R'.stage c = st' at hh ha
    cases ha with
    | @spawn _ t => cases hh; exact .inr ⟨t, rfl, rfl, rfl⟩
    | insertScan | insertHub | insertDirect | announceHub => exact .inl ⟨hh, rfl⟩
    | announceScan | queue | abort => cases hh

/-- A creator takes the lock for its own handler only when nobody has it. -/
theorem Core.locks_of (hs : Core R op R') {c : Creator} (hl : (R'.stage c).locks c = true) :
    (R.stage c).locks c = true ∨ (R.Unlocked ∧ ∃ h, Inserts op c h) := by
  obtain he | ha := hs.stages c
  · rw [he] at hl
    exact .inl hl
  · generalize R.stage c = st at ha
    generalize R'.stage c = st' at hl ha
    cases ha with
    | spawn => cases c <;> cases hl
    | insertScan =>
      cases hs with
      | insertScan hul hc => exact .inr ⟨hul, _, .inl ⟨rfl, rfl⟩⟩
    | insertHub =>
      cases hs with
      | insertHub hul hc => exact .inr ⟨hul, _, .inr ⟨_, _, rfl, rfl⟩⟩
    | announceHub => exact .inl rfl
    | insertDirect | announceScan | queue | abort => cases hl

/-- What a creator enters, it keeps at hand. -/
theorem Core.inserts_stage (hs : Core R op R') {c : Creator} {h : HandlerId} (hi : Inserts op c h) :
    ∃ u, R'.handles u = some h ∧ (R'.stage c = .inserted h u ∨ R'.stage c = .announcing h u) := by
  obtain ⟨rfl, rfl⟩ | ⟨m, addr, rfl, rfl⟩ := hi
  · cases hs with
    | @insertScan _ u hl hc => exact ⟨u, Function.update_self .., .inl (setStage_self ..)⟩
  · cases hs with
    | @insertHub _ _ _ u hl hc => exact ⟨u, Function.update_self .., .inr (setStage_self ..)⟩

/-- A handler just entered is not announced. -/
theorem Core.inserts_unannounced (hs : Core R op R') {c : Creator} {h : HandlerId}
    (hi : Inserts op c h) : (R'.stage c).unannounced = some h := by
  obtain ⟨u, -, hst | hst⟩ := hs.inserts_stage hi
  · rw [hst]
    rfl
  · rw [hst]
    rfl

/-- A creator keeps its handler unannounced until it sends the `Connect` or is aborted. -/
theorem Core.unannounced (hs : Core R op R') {c : Creator} {h : HandlerId}
    (hc : (R.stage c).unannounced = some h) :
    (R'.stage c).unannounced = some h ∨ op = .announce c h ∨ ∃ m, op = .abort m ∧ c = .manager m := by
  obtain he | ha := hs.stages c
  · rw [he]
    exact .inl hc
  · generalize R.stage c = st at hc ha
    generalize R'.stage c = st' at ha
    cases ha with
    | spawn => cases hc
    | insertScan => exact .inl hc
    | insertHub => exact .inl hc
    | insertDirect => exact .inl hc
    | announceScan => cases hc; exact .inr (.inl rfl)
    | announceHub => cases hc; exact .inr (.inl rfl)
    | queue => cases hc
    | @abort m => exact .inr (.inr ⟨m, rfl, rfl⟩)

/-- A creator comes to an unannounced handler by spawning it. -/
theorem Core.unannounced_of (hs : Core R op R') {c : Creator} {h : HandlerId}
    (hc : (R'.stage c).unannounced = some h) :
    (R.stage c).unannounced = some h ∨ ∃ t, op = .spawn c t ∧ h = R.tasks.length := by
  obtain he | ha := hs.stages c
  · rw [he] at hc
    exact .inl hc
  · generalize R.stage c = st at ha
    generalize R'.stage c = st' at hc ha
    cases ha with
    | @spawn _ t => cases hc; exact .inr ⟨t, rfl, rfl⟩
    | insertScan => exact .inl hc
    | insertHub => exact .inl hc
    | insertDirect => exact .inl hc
    | _ => cases hc

end Registry

end OdysseyHub
