import OdysseyHub.Server.RegistryRun

/-!
# The device list follows the handlers

`device_list` is keyed by UUID alone: a `Connect` puts the sender of its handler
there and a `Disconnect` takes the entry of its UUID out, whoever sent it.  So the
list has the sender of a running handler as long as no other message about its UUID
comes after its `Connect`.

**Sys.listed_of_keepsListed**: in every run in which a `Disconnect` is sent, and the
`Connect` of another handler, only while the table has no other announced running
handler of the UUID, and no hub manager is aborted between entering its handler and
announcing it, the list has the sender of every running handler of the table
whenever a scan has ended and the messages are forwarded.
-/

namespace OdysseyHub

open HandlerTask Transition

namespace Registry

/-- The table has the handler `h` for `u`, it runs, and its creator has sent its `Connect`. -/
def Announced (R : Registry) (u : Uuid) (h : HandlerId) : Prop :=
  R.Live u h ∧ ∀ c, (R.stage c).unannounced ≠ some h

/-- The senders of announced handlers are in the list once it is up to date. -/
def Listed (R : Registry) : Prop := ∀ u h, R.Announced u h → R.senders u = some (some h)

/-- The operation takes no announced handler of the table off the list. -/
def KeepsListed (R : Registry) : Op → Prop
  | .announce c h => ∀ u k, R.stage c = .announcing h u → ¬ R.Announced u k
  | .retire u => ∀ k, ¬ R.Announced u k
  | .work h .exit => ∀ t k, R.tasks[h]? = some t → R.Announced t.uuid k → k = h
  | .abort m => ∀ h u, R.stage (.manager m) ≠ .announcing h u
  | _ => True

variable {R R' : Registry} {op : Op}

/-! ## Becoming announced -/

/-- A handler is announced by its creator, or taken for announced once the creator is gone. -/
theorem Core.announced (I : R.Inv) (hs : Core R op R') {u : Uuid} {h : HandlerId}
    (ha : R'.Announced u h) : R.Announced u h ∨
      ∃ c, R.stage c = .announcing h u ∧ (op = .announce c h ∨ ∃ m, op = .abort m ∧ c = .manager m) := by
  have hl : R.Live u h := hs.live I ha.1 fun c hi => ha.2 c (hs.inserts_unannounced hi)
  by_cases hold : ∃ c, (R.stage c).unannounced = some h
  · obtain ⟨c, hc⟩ := hold
    have hop := (hs.unannounced hc).resolve_left (ha.2 c)
    obtain ⟨t, ht, hut⟩ := I.own (Stage.handler_of_unannounced hc)
    obtain ⟨t', ht', rfl⟩ := I.entry hl.1
    rw [ht] at ht'
    cases ht'
    right
    cases hst : R.stage c with
    | free => rw [hst] at hc; cases hc
    | announced k v => rw [hst] at hc; cases hc
    | spawned k v =>
      rw [hst] at hc
      cases hc
      exact absurd hl.1 (I.spawned hst)
    | inserted k v =>
      -- at this stage the creator is the scan, which sends no `Connect` yet
      cases c with
      | manager m => exact absurd hst I.hubStage
      | scan =>
        obtain rfl | ⟨m, -, hm⟩ := hop
        · cases hs with
          | announce hc' => rw [hc'] at hst; cases hst
        · cases hm
    | announcing k v =>
      rw [hst] at hc hut
      cases hc
      cases hut
      exact ⟨c, hst, hop⟩
  · exact .inl ⟨hl, fun c hc => hold ⟨c, hc⟩⟩

/-! ## What a step keeps -/

theorem Listed.core (I : R.Inv) (L : R.Listed) (ok : R.KeepsListed op) (hs : Core R op R') :
    R'.Listed := by
  intro u h ha
  obtain ha₀ | ⟨c, hc, rfl | ⟨m, rfl, rfl⟩⟩ := hs.announced I ha
  · have hu := L u h ha₀
    cases hs with
    | @announce c k v hc =>
      have hne : u ≠ v := fun he => ok v h hc (he ▸ ha₀)
      exact (Function.update_of_ne hne ..).trans hu
    | @surface v =>
      show Function.update _ _ _ _ = _
      rw [Function.update_apply]
      split
      · next he => rw [← he, hu]; rfl
      · exact hu
    | @retire v x =>
      have hne : u ≠ v := fun he => ok h (he ▸ ha₀)
      exact (Function.update_of_ne hne ..).trans hu
    | @exit k t t' x ht hn =>
      rcases eq_or_ne u t.uuid with rfl | hne
      · obtain rfl := ok t h ht ha₀
        obtain ⟨t'', ht'', hr⟩ := ha.1.2
        obtain ⟨-, rfl⟩ | ⟨hne, -⟩ := (setTask_tasks_some (R := R) ht).mp ht''
        · exact absurd (next_exit hn) hr
        · exact absurd rfl hne
      · exact (Function.update_of_ne hne ..).trans hu
    | _ => exact hu
  · cases hs with
    | announce hc' =>
      rw [hc'] at hc
      cases hc
      exact Function.update_self ..
  · exact absurd hc (ok h u)

theorem Quiet.listed (q : Quiet R R') (L : R.Listed) : R'.Listed := by
  simpa only [Listed, Announced, Live, q.handles, q.tasks, q.stage, q.senders] using L

end Registry

namespace Sys

/-- After a scan, with all messages forwarded, the device list has the sender of each
running handler in `device_handles`, but for one that a hub manager has entered and
not announced yet; it has the lock then. -/
def DeviceListAgrees (s : Sys) : Prop :=
  s.scan = .idle → s.messageChannel = [] →
  ∀ (u : Uuid) (h : HandlerId) (t : HandlerTask),
    s.deviceHandles.lookup u = some h → s.handlers[h]? = some t → t.Running →
    (∀ c, (s.stage c).unannounced ≠ some h) → s.deviceList.senderForUuid u = some (some h)

/-- **The device list follows the handlers.** -/
theorem listed_of_keepsListed {tr : List (Event × Sys)} (hrun : Exec Sys.Step Sys.init tr)
    (hok : StepsOk (fun s e => s.registry.KeepsListed (s.op e)) Sys.init tr) :
    Always DeviceListAgrees Sys.init tr := by
  have hinit : Sys.init.registry.Listed := by
    rintro u h ⟨⟨hu, -⟩, -⟩
    cases hu
  have hstep : ∀ (R : Registry) (op : Op) (R' : Registry), R.Inv → R.Listed → R.KeepsListed op →
      R.Step op R' → R'.Listed := by
    rintro R op R' I L ok ⟨R₁, hs, q⟩
    exact q.listed (L.core I ok hs)
  refine (registry_always hinit hstep hrun hok).imp fun s ⟨_, L⟩ _ hch u h t hu ht hr hun => ?_
  have hs := L u h ⟨⟨hu, t, ht, hr⟩, hun⟩
  simpa only [registry, drained, hch, List.foldl_nil] using hs

set_option maxRecDepth 4000 in
theorem listed_of_keepsListed_plugIn : Always DeviceListAgrees Sys.init (run plugIn) := by
  refine listed_of_keepsListed (exec_run plugIn) ⟨trivial, trivial, trivial, trivial, trivial, trivial,
    trivial, ?_, trivial, trivial, trivial, trivial, trivial⟩
  -- the `Connect`: the table has its handler alone
  rintro u k - ⟨⟨hu, -⟩, hun⟩
  change (Finmap.insert sampleUuid 0 ∅ : Table Uuid HandlerId).lookup u = some k at hu
  refine hun .scan ?_
  show some 0 = some k
  by_cases h : u = sampleUuid
  · subst h
    simpa using hu
  · rw [Finmap.lookup_insert_of_ne _ h] at hu
    simp at hu

/-- The gun in DFU mode, under another USB id. -/
def sampleGunDfu : UsbEntry := { sampleGun with id := 3 }

/-- The gun is surfaced in DFU mode by one scan and found in application mode by the
next, which then disconnects the DFU device it misses. -/
def dfuReturn : List Event :=
  [.scan (.enumerate [sampleGunDfu]), .scan (.cleanup []), .scan .unreachable, .scan .surface,
    .scan .announceDfu, .scan (.missing []), .scan (.unplugged []), .scan .sleep, .forward,
    .scan (.enumerate [sampleGun]), .scan (.cleanup []),
    .scan (.probe 1 sampleUuid none (some .usb) none), .scan .lock, .scan .spawn, .scan .insert,
    .scan .insertDirect, .scan .connect, .scan (.missing []), .scan (.unplugged [3]),
    .scan .retire, .scan .sleep, .forward, .forward]

set_option maxRecDepth 4000 in
theorem dfuReturn_loses_device : Exec Sys.Step Sys.init (run dfuReturn) ∧
    ¬ Always DeviceListAgrees Sys.init (run dfuReturn) := by
  refine ⟨exec_run dfuReturn, fun h => ?_⟩
  have hrun : (last Sys.init (run dfuReturn)).handlers.map (·.isFinished) = [false] := by decide
  obtain ⟨t, l, hl, ht, -⟩ := List.map_eq_cons_iff.mp hrun
  have hr : t.Running := fun hf => by simp [HandlerTask.isFinished, hf] at ht
  have := h.last rfl rfl sampleUuid 0 t (by decide) (by rw [hl]; rfl) hr (fun c => ?_)
  · revert this
    decide
  · cases c with
    | scan => decide
    | manager m =>
      show (none : Option HandlerId) ≠ some 0
      simp

end Sys

end OdysseyHub
