import OdysseyHub.Server.RegistryRun

/-!
# One handler for a UUID

Both creators look a UUID up under the lock of `device_handles`, release it, spawn
the handler and take the lock again to enter it.  What they cannot see is a handler
that is between its spawn and its entry, and one whose hub manager was aborted there.

**Sys.oneHandlerPerUuid_iff**: in every run, two handlers of one UUID never run at
the same time exactly when no creator spawns a handler while such a handler of the
same UUID runs.
-/

namespace OdysseyHub

open HandlerTask Slots Transition

/-- No two running handlers have the same UUID. -/
def OneHandlerPerUuid (tasks : List HandlerTask) : Prop :=
  ∀ (h h' : HandlerId) (t t' : HandlerTask), tasks[h]? = some t → tasks[h']? = some t' →
    t.Running → t'.Running → t.uuid = t'.uuid → h = h'

namespace Registry

/-- Nobody is about to enter a handler of the spawned one's UUID, and nobody has left
one running that nobody can reach. -/
def SpawnsAlone (R : Registry) : Op → Prop
  | .spawn _ t =>
    (∀ c h, R.stage c ≠ .spawned h t.uuid) ∧
    ∀ (h : HandlerId) (t' : HandlerTask), R.tasks[h]? = some t' → t'.uuid = t.uuid →
      R.Unheld h → ¬ t'.Running
  | _ => True

/-- Running handlers are in the table, about to be entered, or out of reach. -/
def Accounted (R : Registry) : Prop :=
  ∀ (h : HandlerId) (t : HandlerTask), R.tasks[h]? = some t → t.Running →
    R.handles t.uuid = some h ∨ (∃ c, R.stage c = .spawned h t.uuid) ∨ R.Unheld h

variable {R R' : Registry} {op : Op}

/-! ## Handlers out of reach -/

theorem Unheld.of {k : HandlerId} (hk : R.Unheld k)
    (hh : ∀ u, R'.handles u = some k → ∃ v, R.handles v = some k)
    (hsh : R'.shared k → R.shared k)
    (hst : ∀ c, (R'.stage c).handler = some k → ∃ c', (R.stage c').handler = some k) :
    R'.Unheld k := by
  refine ⟨fun u hu => ?_, fun h => hk.2.1 (hsh h), fun c hc => ?_⟩
  · obtain ⟨v, hv⟩ := hh u hu
    exact hk.1 v hv
  · obtain ⟨c', hc'⟩ := hst c hc
    exact hk.2.2 c' hc'

/-- Nobody can reach a handler again that is out of reach. -/
theorem Unheld.core {k : HandlerId} (hk : R.Unheld k) (hlt : k < R.tasks.length)
    (hs : Core R op R') : R'.Unheld k := by
  refine ⟨fun u hu => ?_, fun hsh => ?_, fun c hc => ?_⟩
  · obtain hu | ⟨c, hc, -⟩ := hs.handles hu
    · exact hk.1 u hu
    · exact hk.2.2 c (by rw [hc]; rfl)
  · obtain hsh | ⟨c, u, -, hc⟩ := hs.shared hsh
    · exact hk.2.1 hsh
    · exact hk.2.2 c (by rw [hc]; rfl)
  · obtain ⟨hc, -⟩ | ⟨t, -, rfl, -⟩ := hs.stage_handler hc
    · exact hk.2.2 c hc
    · exact Nat.lt_irrefl _ hlt

/-! ## What a step keeps -/

theorem SpawnsAlone.core (ok : R.SpawnsAlone op) (P : OneHandlerPerUuid R.tasks) (A : R.Accounted)
    (hs : Core R op R') : OneHandlerPerUuid R'.tasks := by
  -- a spawned task meets no running task of its UUID
  have alone : ∀ {c : Creator} {t t' : HandlerTask} {k : HandlerId}, op = .spawn c t →
      R.tasks[k]? = some t' → t'.Running → t'.uuid = t.uuid → False := by
    intro c t t' k hop ht hr hu
    subst hop
    obtain hh | ⟨c', hc'⟩ | hun := A k t' ht hr
    · cases hs with
      | spawn hc hn hf =>
        rw [hu, hn] at hh
        cases hh
    · exact ok.1 c' k (hu ▸ hc')
    · exact ok.2 k t' ht hu hun hr
  intro h h' t t' ht ht' hr hr' hu
  obtain ⟨a, ha, hba⟩ | ⟨c, hop, hk⟩ := hs.tasks ht <;>
    obtain ⟨a', ha', hba'⟩ | ⟨c', hop', hk'⟩ := hs.tasks ht'
  · exact P h h' a a' ha ha' (hba.running hr) (hba'.running hr')
      (hba.uuid.symm.trans (hu.trans hba'.uuid))
  · exact (alone hop' ha (hba.running hr) (hba.uuid.symm.trans hu)).elim
  · exact (alone hop ha' (hba'.running hr') (hba'.uuid.symm.trans hu.symm)).elim
  · rw [hk, hk']

/-- A handler about to be entered still is, or has been, or its creator has gone. -/
theorem Core.spawned (I : R.Inv) (hs : Core R op R') {c : Creator} {k : HandlerId} {u : Uuid}
    (hc : R.stage c = .spawned k u) :
    R'.stage c = .spawned k u ∨ R'.handles u = some k ∨ R'.Unheld k := by
  obtain he | ha := hs.stages c
  · exact .inl (he.trans hc)
  · rw [hc] at ha
    generalize R'.stage c = st at ha
    cases ha with
    | insertScan =>
      cases hs with
      | insertScan hl hc' =>
        obtain rfl := (Stage.spawned.inj (hc.symm.trans hc')).2
        exact .inr (.inl (by simp [setHandle]))
    | insertHub =>
      cases hs with
      | insertHub hl hc' =>
        obtain rfl := (Stage.spawned.inj (hc.symm.trans hc')).2
        exact .inr (.inl (by simp [Registry.track, setHandle]))
    | @abort m _ =>
      cases hs with
      | abort =>
        have hh : (R.stage (.manager m)).handler = some k := by rw [hc]; rfl
        refine .inr (.inr ⟨fun v hv => I.spawned hc hv, I.unshared (by rw [hc]; rfl), fun c' hc' => ?_⟩)
        rcases eq_or_ne c' (Creator.manager m) with rfl | hne
        · rw [setStage_self] at hc'
          cases hc'
        · rw [setStage_of_ne _ _ hne] at hc'
          exact hne (I.sole hc' hh)

theorem Accounted.core (I : R.Inv) (P : OneHandlerPerUuid R.tasks) (A : R.Accounted) (hs : Core R op R') :
    R'.Accounted := by
  intro k t' ht' hr'
  obtain ⟨t, ht, hb⟩ | ⟨c, rfl, rfl⟩ := hs.tasks ht'
  · have hr := hb.running hr'
    rw [hb.uuid]
    obtain hu | ⟨c, hc⟩ | hun := A k t ht hr
    · obtain hu' | ⟨c, j, hc, -⟩ := hs.handles_lost hu ht hr
      · exact .inl hu'
      · -- the handler that comes in would be a second one
        obtain ⟨tj, htj, huj, hinj⟩ := I.newcomer hc
        have := P k j t tj ht htj hr hinj.running huj.symm
        subst this
        exact absurd hu (I.spawned hc)
    · obtain h | h | h := hs.spawned I hc
      · exact .inr (.inl ⟨c, h⟩)
      · exact .inl h
      · exact .inr (.inr h)
    · exact .inr (.inr (hun.core (List.getElem?_eq_some_iff.mp ht).1 hs))
  · cases hs with
    | spawn hc hu hf => exact .inr (.inl ⟨c, setStage_self ..⟩)

theorem Quiet.accounted (q : Quiet R R') (A : R.Accounted) : R'.Accounted := by
  intro k t ht hr
  rw [q.tasks] at ht
  rw [q.handles, q.stage]
  obtain h | h | h := A k t ht hr
  · exact .inl h
  · exact .inr (.inl h)
  · refine .inr (.inr (h.of (fun u hu => ⟨u, ?_⟩) (q.shared k) fun c hc => ⟨c, ?_⟩))
    · rwa [q.handles] at hu
    · rwa [q.stage] at hc

/-! ## The exact condition -/

/-- A handler spawned next to another one of its UUID is one too many. -/
theorem SpawnsAlone.of_step (I : R.Inv) (h : Step R op R') (P : OneHandlerPerUuid R'.tasks) :
    R.SpawnsAlone op := by
  obtain ⟨R₁, hs, q⟩ := h
  cases hs with
  | @spawn c t hc hu hf =>
    have hnew : R'.tasks[R.tasks.length]? = some t := by
      rw [q.tasks]
      exact getElem?_concat_some.mpr (.inr ⟨rfl, rfl⟩)
    have hrun : t.Running := by simp [Running, hf.phase]
    -- an older task of the UUID is not running
    have only : ∀ (h : HandlerId) (t' : HandlerTask), R.tasks[h]? = some t' → t'.uuid = t.uuid →
        ¬ t'.Running := fun h t' ht hut hr => by
      have hold : R'.tasks[h]? = some t' := by
        rw [q.tasks]
        exact getElem?_concat_some.mpr (.inl ht)
      have := P h R.tasks.length t' t hold hnew hr hrun hut
      exact absurd (List.getElem?_eq_some_iff.mp ht).1 (by rw [this]; exact Nat.lt_irrefl _)
    refine ⟨fun c' h hc' => ?_, fun h t' ht hut _ => only h t' ht hut⟩
    obtain ⟨t', ht', hut', hin'⟩ := I.newcomer hc'
    exact only h t' ht' hut' hin'.running
  | _ => trivial

end Registry

namespace Sys

/-- **One handler for a UUID.** -/
theorem oneHandlerPerUuid_iff {tr : List (Event × Sys)} (hrun : Exec Sys.Step Sys.init tr) :
    Always (fun s => OneHandlerPerUuid s.handlers) Sys.init tr ↔
      StepsOk (fun s e => s.registry.SpawnsAlone (s.op e)) Sys.init tr := by
  refine registry_always_iff (J := fun R => OneHandlerPerUuid R.tasks ∧ R.Accounted)
    (P := fun R => OneHandlerPerUuid R.tasks) ⟨?_, ?_⟩ (fun _ J => J.1) ?_
    (fun R op R' I _ h P => Registry.SpawnsAlone.of_step I h P) hrun
  · intro h h' t t' ht
    cases ht
  · intro h t ht
    cases ht
  · rintro R op R' I ⟨P, A⟩ ok ⟨R₁, hs, q⟩
    have P' := ok.core P A hs
    rw [← q.tasks] at P'
    exact ⟨P', q.accounted (A.core I P hs)⟩

/-- A hub manager has spawned a handler and waits for the lock to enter it; the scan
finds the same device on USB, no entry in the table, and spawns another. -/
def race : List Event :=
  [.scan (.enumerate [sampleDongle]), .scan (.cleanup []), .scan (.hub true), .scan (.missing []),
    .scan (.unplugged []), .scan .sleep, .manager 0 (.readVersions none none none),
    .manager 0 .register, .manager 0 (.initial (some [sampleUuid])),
    .manager 0 (.snapshot [sampleUuid] [sampleUuid]),
    .manager 0 (.probe 1 (some sampleUuid) none none none), .manager 0 .lock, .manager 0 .spawn,
    .scan (.enumerate [sampleDongle, sampleGun]), .scan (.cleanup []), .scan (.hub true),
    .scan (.probe 2 sampleUuid none (some .usb) none), .scan .lock, .scan .spawn]

theorem oneHandlerPerUuid_iff_race :
    Always (fun s => OneHandlerPerUuid s.handlers) Sys.init (run race) ↔
      StepsOk (fun s e => s.registry.SpawnsAlone (s.op e)) Sys.init (run race) :=
  oneHandlerPerUuid_iff (exec_run race)

set_option maxRecDepth 4000 in
theorem race_two_handlers : Exec Sys.Step Sys.init (run race) ∧
    ¬ Always (fun s => OneHandlerPerUuid s.handlers) Sys.init (run race) := by
  refine ⟨exec_run race, fun h => ?_⟩
  have two : ((last Sys.init (run race)).handlers.map fun t => (t.uuid, t.isFinished)) =
      [(sampleUuid, false), (sampleUuid, false)] := by decide
  obtain ⟨t, l, hl, ht, two⟩ := List.map_eq_cons_iff.mp two
  obtain ⟨t', l', rfl, ht', -⟩ := List.map_eq_cons_iff.mp two
  simp only [Prod.mk.injEq] at ht ht'
  have running : ∀ {a : HandlerTask}, a.isFinished = false → a.Running := fun ha hf => by
    simp [HandlerTask.isFinished, hf] at ha
  have := h.last 0 1 t t' (by rw [hl]; rfl) (by rw [hl]; rfl) (running ht.2) (running ht'.2)
    (ht.1.trans ht'.1.symm)
  cases this

end Sys

end OdysseyHub
