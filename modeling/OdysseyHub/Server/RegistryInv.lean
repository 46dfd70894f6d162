import OdysseyHub.Server.RegistryStep

/-!
# The invariant of the registry

Entries of the table belong to tasks of their UUID; a creator that holds the lock
has its handler in the table; and a handler whose `Connect` has not been sent can
neither be reached by an RPC nor leave its loop (`Unannounced`): nobody but its
creator, and for a registered handler of the scan the hub managers, can send to it.

`Inv.step` shows that every step keeps the invariant, `Inv.init` that it holds at
the start.
-/

namespace OdysseyHub

open HandlerTask Slots

namespace Registry

/-! ## Handlers that are not announced yet -/

/-- A task whose `Connect` is still to send, at its creator's stage. -/
structure Secluded (c : Creator) (st : Stage) (t : HandlerTask) : Prop where
  inLoop : t.InLoop
  queue : ∀ m ∈ t.queue, m.isEvents = true ∧ c = .scan ∧ ∃ h u, st = .announcing h u
  control : c = .scan → t.handler.connections.controlDevice.isSome = true

theorem Fresh.secluded {c : Creator} {t : HandlerTask} (f : Fresh c t) (st : Stage) :
    Secluded c st t :=
  ⟨.inl f.phase, by simp [f.queue], f.control⟩

/-- A message of a hub manager neither ends a secluded task nor takes its control. -/
theorem Secluded.turn {c : Creator} {st : Stage} {t : HandlerTask} (s : Secluded c st t)
    {m : DeviceTaskMessage} (hm : m ∈ t.queue) (a : Answers) :
    (t.handler.control a m).leave = false ∧
    (c = .scan → (t.handler.control a m).handler.connections.controlDevice.isSome = true) := by
  obtain ⟨he, hc, -⟩ := s.queue m hm
  have hctl := s.control hc
  cases m with
  | addEventsDevice dev v =>
    refine ⟨Handler.addEventsDevice_leave _ _ _ _, fun _ => ?_⟩
    show (t.handler.addEventsDevice dev v a).handler.connections.controlDevice.isSome = true
    rw [Handler.addEventsDevice_controlDevice]
    exact hctl
  | removeEventsDevice =>
    constructor
    · show t.handler.removeEventsDevice.leave = false
      rw [Handler.removeEventsDevice_leave, Option.isNone_eq_false_iff]
      exact hctl
    · intro _
      show t.handler.removeEventsDevice.handler.connections.controlDevice.isSome = true
      rw [Handler.removeEventsDevice_controlDevice]
      exact hctl
  | _ => cases he

theorem Secluded.next {c : Creator} {st : Stage} {t t' : HandlerTask} (s : Secluded c st t)
    {e : HandlerEvent} (h : t.next e = some t') (hcl : e ≠ .closed) : Secluded c st t' := by
  have hq : ∀ m ∈ t'.queue, m.isEvents = true ∧ c = .scan ∧ ∃ h u, st = .announcing h u :=
    fun m hm => s.queue m (next_queue h m hm)
  obtain ⟨ms, a, -, -, rfl⟩ | ⟨a, m, q, o, -, -, -, hmq, ho, rfl⟩ |
    ⟨arm, a, o, -, -, -, -, harm, hac, ho, rfl⟩ | ⟨eff, rest, -, -, rfl⟩ | ⟨-, hp, -, rfl⟩ :=
      next_cases h
  · refine ⟨.inr ?_, hq, fun hc => ?_⟩
    · rw [turned_phase]
      unfold Handler.start
      split <;> rfl
    · rw [turned_handler]
      unfold Handler.start
      split <;> exact s.control hc
  · cases ho
    obtain ⟨hl, hctl⟩ := s.turn (m := m) (by rw [hmq]; exact List.mem_cons_self) a
    exact ⟨.inr (by rw [turned_phase, hl]; rfl), hq, hctl⟩
  · obtain ⟨hs, hlv⟩ := Handler.turn_timer ho harm
    have hl : o.leave = false := by
      cases hl : o.leave with
      | false => rfl
      | true => exact absurd (hac.mp (hlv hl)) hcl
    refine ⟨.inr (by rw [turned_phase, hl]; rfl), hq, fun hc => ?_⟩
    rw [turned_handler, hs.connections]
    exact s.control hc
  · exact ⟨s.inLoop, hq, s.control⟩
  · rcases s.inLoop with hin | hin <;> rw [hp] at hin <;> cases hin

/-! ## The invariant -/

structure Inv (R : Registry) : Prop where
  entry : ∀ {u h}, R.handles u = some h → ∃ t, R.tasks[h]? = some t ∧ t.uuid = u
  known : ∀ {h}, R.shared h → h < R.tasks.length
  own : ∀ {c h}, (R.stage c).handler = some h →
    ∃ t, R.tasks[h]? = some t ∧ (R.stage c).uuid = some t.uuid
  sole : ∀ {c c' h}, (R.stage c).handler = some h → (R.stage c').handler = some h → c = c'
  hubStage : ∀ {m h u}, R.stage (.manager m) ≠ .inserted h u
  scanStage : ∀ {h u}, R.stage .scan ≠ .announced h u
  lock : ∀ {c c'}, (R.stage c).locks c = true → (R.stage c').locks c' = true → c = c'
  spawned : ∀ {c h v u}, R.stage c = .spawned h v → R.handles u ≠ some h
  locked : ∀ {c h u}, (R.stage c).locks c = true → (R.stage c).handler = some h →
    (R.stage c).uuid = some u → R.handles u = some h
  unshared : ∀ {c h}, (R.stage c).unannounced = some h → ¬ R.shared h
  secluded : ∀ {c} {h : HandlerId} {t : HandlerTask}, (R.stage c).unannounced = some h →
    R.tasks[h]? = some t → Secluded c (R.stage c) t
  wellFormed : ∀ {h : HandlerId} {t : HandlerTask}, R.tasks[h]? = some t → t.WellFormed

variable {R R' : Registry}

/-- The direct set, the senders and the tracked addresses do not matter, and senders may go. -/
theorem Inv.congr (I : R.Inv) (hh : R'.handles = R.handles) (ht : R'.tasks = R.tasks)
    (hs : R'.stage = R.stage) (hsh : ∀ h, R'.shared h → R.shared h) : R'.Inv where
  entry := by rw [hh, ht]; exact I.entry
  known h := by rw [ht]; exact I.known (hsh _ h)
  own := by rw [hs, ht]; exact I.own
  sole := by rw [hs]; exact I.sole
  hubStage := by rw [hs]; exact I.hubStage
  scanStage := by rw [hs]; exact I.scanStage
  lock := by rw [hs]; exact I.lock
  spawned := by rw [hs, hh]; exact I.spawned
  locked := by rw [hs, hh]; exact I.locked
  unshared hu h := I.unshared (by rw [← hs]; exact hu) (hsh _ h)
  secluded := by rw [hs, ht]; exact I.secluded
  wellFormed := by rw [ht]; exact I.wellFormed

theorem Inv.quiet (I : R.Inv) (q : Quiet R R') : R'.Inv := I.congr q.handles q.tasks q.stage q.shared

/-! ## What an operation keeps -/

theorem Inv.own_lt (I : R.Inv) {c : Creator} {h : HandlerId} (hc : (R.stage c).handler = some h) :
    h < R.tasks.length := by
  obtain ⟨t, ht, -⟩ := I.own hc
  exact (List.getElem?_eq_some_iff.mp ht).1

/-- The handler that its creator is about to enter is in its loop. -/
theorem Inv.newcomer (I : R.Inv) {c : Creator} {h : HandlerId} {u : Uuid}
    (hc : R.stage c = .spawned h u) : ∃ t, R.tasks[h]? = some t ∧ t.uuid = u ∧ t.InLoop := by
  obtain ⟨t, ht, hut⟩ := I.own (c := c) (h := h) (by rw [hc]; rfl)
  rw [hc] at hut
  exact ⟨t, ht, (Option.some.inj hut).symm, (I.secluded (c := c) (by rw [hc]; rfl) ht).inLoop⟩

section
variable (I : R.Inv) {op : Op} (hs : Core R op R')
include I hs

theorem Inv.entry_core {u : Uuid} {h : HandlerId} (hu : R'.handles u = some h) :
    ∃ t, R'.tasks[h]? = some t ∧ t.uuid = u := by
  have hold : ∃ t, R.tasks[h]? = some t ∧ t.uuid = u := by
    obtain hu | ⟨c, hc, -⟩ := hs.handles hu
    · exact I.entry hu
    · obtain ⟨t, ht, hut, -⟩ := I.newcomer hc
      exact ⟨t, ht, hut⟩
  obtain ⟨t, ht, rfl⟩ := hold
  obtain ⟨t', ht', hm⟩ := hs.kept ht
  exact ⟨t', ht', hm.before.uuid⟩

theorem Inv.known_core {h : HandlerId} (hsh : R'.shared h) : h < R'.tasks.length := by
  refine Nat.lt_of_lt_of_le ?_ hs.length_le
  obtain hsh | ⟨c, u, -, hc⟩ := hs.shared hsh
  · exact I.known hsh
  · exact I.own_lt (by rw [hc]; rfl)

theorem Inv.own_core {c : Creator} {h : HandlerId} (hh : (R'.stage c).handler = some h) :
    ∃ t, R'.tasks[h]? = some t ∧ (R'.stage c).uuid = some t.uuid := by
  obtain ⟨hh, hu⟩ | ⟨t, rfl, rfl, hu⟩ := hs.stage_handler hh
  · obtain ⟨t, ht, hut⟩ := I.own hh
    obtain ⟨t', ht', hm⟩ := hs.kept ht
    exact ⟨t', ht', by rw [hu, hut, hm.before.uuid]⟩
  · cases hs with
    | spawn => exact ⟨t, getElem?_concat_some.mpr (.inr ⟨rfl, rfl⟩), hu⟩

theorem Inv.sole_core {c c' : Creator} {h : HandlerId} (hc : (R'.stage c).handler = some h)
    (hc' : (R'.stage c').handler = some h) : c = c' := by
  obtain ⟨hc, -⟩ | ⟨t, hop, hk, -⟩ := hs.stage_handler hc <;>
    obtain ⟨hc', -⟩ | ⟨t', hop', hk', -⟩ := hs.stage_handler hc'
  · exact I.sole hc hc'
  · exact absurd hk' (Nat.ne_of_lt (I.own_lt hc))
  · exact absurd hk (Nat.ne_of_lt (I.own_lt hc'))
  · rw [hop] at hop'
    cases hop'
    rfl

theorem Inv.hubStage_core {m : ManagerId} {h : HandlerId} {u : Uuid} :
    R'.stage (.manager m) ≠ .inserted h u := by
  intro h'
  obtain he | ha := hs.stages (.manager m)
  · exact I.hubStage (he.symm.trans h')
  · rw [h'] at ha
    generalize R.stage (.manager m) = st at ha
    cases ha

theorem Inv.scanStage_core {h : HandlerId} {u : Uuid} : R'.stage .scan ≠ .announced h u := by
  intro h'
  obtain he | ha := hs.stages .scan
  · exact I.scanStage (he.symm.trans h')
  · rw [h'] at ha
    generalize R.stage .scan = st at ha
    cases ha

theorem Inv.lock_core {c c' : Creator} (hl : (R'.stage c).locks c = true)
    (hl' : (R'.stage c').locks c' = true) : c = c' := by
  obtain hl | ⟨hul, h, hi⟩ := hs.locks_of hl <;> obtain hl' | ⟨hul', h', hi'⟩ := hs.locks_of hl'
  · exact I.lock hl hl'
  · exact absurd ((hul' c).symm.trans hl) Bool.false_ne_true
  · exact absurd ((hul c').symm.trans hl') Bool.false_ne_true
  · exact hi.unique hi'

theorem Inv.spawned_core {c : Creator} {h : HandlerId} {v u : Uuid} (hst : R'.stage c = .spawned h v) :
    R'.handles u ≠ some h := by
  intro hu
  have hold : R.stage c = .spawned h v ∨ h = R.tasks.length := by
    obtain he | ha := hs.stages c
    · exact .inl (he.symm.trans hst)
    · rw [hst] at ha
      generalize R.stage c = st at ha
      cases ha
      exact .inr rfl
  obtain hu₀ | ⟨c', hc', hi⟩ := hs.handles hu
  · obtain hold | rfl := hold
    · exact I.spawned hold hu₀
    · obtain ⟨t, ht, -⟩ := I.entry hu₀
      exact absurd (List.getElem?_eq_some_iff.mp ht).1 (Nat.lt_irrefl _)
  · have hh : (R.stage c').handler = some h := by rw [hc']; rfl
    obtain hold | rfl := hold
    · obtain rfl : c = c' := I.sole (by rw [hold]; rfl) hh
      obtain ⟨w, -, hw | hw⟩ := hs.inserts_stage hi <;> rw [hst] at hw <;> cases hw
    · exact absurd (I.own_lt hh) (Nat.lt_irrefl _)

theorem Inv.locked_core {c : Creator} {h : HandlerId} {u : Uuid} (hl : (R'.stage c).locks c = true)
    (hh : (R'.stage c).handler = some h) (hu : (R'.stage c).uuid = some u) : R'.handles u = some h := by
  obtain hl₀ | ⟨-, k, hi⟩ := hs.locks_of hl
  · obtain ⟨hh, hu'⟩ | ⟨t, rfl, -, -⟩ := hs.stage_handler hh
    · obtain he | hul := hs.handles_same
      · rw [he]
        exact I.locked hl₀ hh (hu'.symm.trans hu)
      · exact absurd ((hul c).symm.trans hl₀) Bool.false_ne_true
    · cases hs with
      | spawn hc =>
        rw [hc, Stage.locks_free] at hl₀
        cases hl₀
  · obtain ⟨v, hv, hst | hst⟩ := hs.inserts_stage hi
    · rw [hst] at hh hu
      cases hh
      cases hu
      exact hv
    · rw [hst] at hh hu
      cases hh
      cases hu
      exact hv

omit hs in
/-- The handler whose `Connect` is sent is announced then. -/
theorem Core.announces {c c' : Creator} {h : HandlerId} (hs : Core R (.announce c h) R') :
    (R'.stage c').unannounced ≠ some h := by
  intro h'
  obtain h₀ | ⟨t, hop, -⟩ := hs.unannounced_of h'
  · cases hs with
    | announce hc =>
      obtain rfl : c' = c := I.sole (Stage.handler_of_unannounced h₀) (by rw [hc]; rfl)
      rw [setStage_self] at h'
      split at h' <;> cases h'
  · cases hop

theorem Inv.unshared_core {c : Creator} {h : HandlerId} (hc' : (R'.stage c).unannounced = some h) :
    ¬ R'.shared h := by
  intro hsh
  obtain hsh | ⟨c', u, rfl, -⟩ := hs.shared hsh
  · obtain hc | ⟨t, -, rfl⟩ := hs.unannounced_of hc'
    · exact I.unshared hc hsh
    · exact absurd (I.known hsh) (Nat.lt_irrefl _)
  · exact hs.announces I hc'

/-- What reaches a secluded handler comes from a hub manager that has found it in the table. -/
theorem Inv.sends_secluded {c : Creator} {h : HandlerId} {msg : DeviceTaskMessage}
    (hop : op.sends = some (h, msg)) (hc : (R.stage c).unannounced = some h) :
    msg.isEvents = true ∧ c = .scan ∧ ∃ k u, R.stage c = .announcing k u := by
  obtain ⟨m, u, hm⟩ | ⟨hul, ⟨u, hu⟩, hmsg⟩ | hsh := hs.sends hop
  · obtain rfl : c = .manager m := I.sole (Stage.handler_of_unannounced hc) (by rw [hm]; rfl)
    rw [hm] at hc
    cases hc
  · have hlk := hul c
    cases hst : R.stage c with
    | free => rw [hst] at hc; cases hc
    | announced k v => rw [hst] at hc; cases hc
    | spawned k v =>
      rw [hst] at hc
      cases hc
      exact absurd hu (I.spawned hst)
    | inserted k v =>
      rw [hst] at hlk
      cases c with
      | scan => cases hlk
      | manager m => exact absurd hst I.hubStage
    | announcing k v =>
      rw [hst] at hlk
      cases c with
      | manager m => cases hlk
      | scan =>
        refine ⟨hmsg.resolve_right fun hf => ?_, rfl, k, v, rfl⟩
        rw [hst] at hf
        cases hf
  · exact absurd hsh (I.unshared hc)

omit I hs in
/-- A creator that has its handler still to announce takes its queue along. -/
theorem Secluded.advance {c : Creator} {st st' : Stage} {h : HandlerId} {t : HandlerTask}
    (s : Secluded c st t) (ha : Advance R op c st st') (hun : st.unannounced = some h)
    (hun' : st'.unannounced = some h) : Secluded c st' t := by
  refine ⟨s.inLoop, fun m hm => ?_, s.control⟩
  obtain ⟨-, -, k, u, rfl⟩ := s.queue m hm
  cases ha with
  | announceScan | announceHub | abort => cases hun'

theorem Inv.secluded_core {c : Creator} {h : HandlerId} {t' : HandlerTask}
    (hc' : (R'.stage c).unannounced = some h) (ht' : R'.tasks[h]? = some t') :
    Secluded c (R'.stage c) t' := by
  obtain hc | ⟨t, rfl, rfl⟩ := hs.unannounced_of hc'
  · obtain ⟨t, ht, hm⟩ | ⟨c', -, hk⟩ := hs.moved ht'
    · have s : Secluded c (R'.stage c) t := by
        obtain he | ha := hs.stages c
        · rw [he]
          exact I.secluded hc ht
        · exact (I.secluded hc ht).advance ha hc hc'
      cases hm with
      | same => exact s
      | @received msg hop =>
        refine ⟨(receive_inLoop t msg).mpr s.inLoop, fun m hm => ?_, by simpa using s.control⟩
        obtain hm | rfl := mem_receive_queue t msg hm
        · exact s.queue m hm
        · obtain ⟨hev, hsc, k, u, hst⟩ := I.sends_secluded hs hop hc
          obtain he | ha := hs.stages c
          · exact ⟨hev, hsc, k, u, he.trans hst⟩
          · rw [hst] at ha
            generalize R'.stage c = st' at ha
            cases ha <;> cases hop
      | worked hop hn =>
        subst hop
        refine s.next hn fun hcl => ?_
        subst hcl
        exact hs.closed.2.2 c (Stage.handler_of_unannounced hc)
    · exact absurd hk (Nat.ne_of_lt (I.own_lt (Stage.handler_of_unannounced hc)))
  · cases hs with
    | spawn hc hu hf =>
      obtain ht' | ⟨-, rfl⟩ := getElem?_concat_some.mp ht'
      · exact absurd (List.getElem?_eq_some_iff.mp ht').1 (Nat.lt_irrefl _)
      · exact hf.secluded _

theorem Inv.wellFormed_core {h : HandlerId} {t' : HandlerTask} (ht' : R'.tasks[h]? = some t') :
    t'.WellFormed := by
  obtain ⟨t, ht, hm⟩ | ⟨c, rfl, -⟩ := hs.moved ht'
  · have w := I.wellFormed ht
    cases hm with
    | same => exact w
    | received => exact w.receive _
    | worked hop hn => exact w.next hn
  · cases hs with
    | spawn hc hu hf => exact hf.wellFormed

/-- **Every operation keeps the invariant.** -/
theorem Inv.core : R'.Inv where
  entry := I.entry_core hs
  known := I.known_core hs
  own := I.own_core hs
  sole := I.sole_core hs
  hubStage := I.hubStage_core hs
  scanStage := I.scanStage_core hs
  lock := I.lock_core hs
  spawned := I.spawned_core hs
  locked := I.locked_core hs
  unshared := I.unshared_core hs
  secluded := I.secluded_core hs
  wellFormed := I.wellFormed_core hs

end

theorem Inv.step (I : R.Inv) {op : Op} (h : Step R op R') : R'.Inv := by
  obtain ⟨R₁, hc, hq⟩ := h
  exact (I.core hc).quiet hq

/-- An empty registry. -/
theorem Inv.init (hst : ∀ c, R.stage c = .free) (hh : ∀ u, R.handles u = none) (ht : R.tasks = [])
    (hsh : ∀ h, ¬ R.shared h) : R.Inv where
  entry h := by rw [hh] at h; cases h
  known h := absurd h (hsh _)
  own h := by rw [hst] at h; cases h
  sole h := by rw [hst] at h; cases h
  hubStage h := by rw [hst] at h; cases h
  scanStage h := by rw [hst] at h; cases h
  lock {c} _ h := by rw [hst, Stage.locks_free] at h; cases h
  spawned h := by rw [hst] at h; cases h
  locked {c} _ _ h := by rw [hst, Stage.locks_free] at h; cases h
  unshared h := by rw [hst] at h; cases h
  secluded h := by rw [hst] at h; cases h
  wellFormed h := by rw [ht] at h; cases h

end Registry

end OdysseyHub
