import OdysseyHub.Server.HubSimulation

/-!
# The server simulates its registry

**Sys.Inv.step**: a step of the server is the step `Sys.op` of its registry, from any
state in which the registry's invariant holds, a task at a point under the lock of
`device_handles` has it, and no RPC pretends to be the scan or a hub manager.  All
three are kept, so they hold in every reachable state (`Sys.Inv.always`).
-/

namespace OdysseyHub

open HandlerTask Registry Slots Transition
open Handler (Concerns)

namespace Sys

/-- What holds in every reachable state of the server. -/
structure Inv (s : Sys) : Prop where
  lock : s.LockInv
  registry : s.registry.Inv
  calls : ∀ c ∈ s.calls, c.2.isLink = false

variable {s s' : Sys}

/-! ## Handlers -/

/-- A step that leaves the creators alone, from what it does to the tables. -/
theorem tables_step {op : Op} {R : Registry} (hc : Core s.registry op R) (hsc : s'.scan = s.scan)
    (hm : s'.managers = s.managers) (hh : s'.deviceHandles = s.deviceHandles)
    (hd : s'.directUsbHandlerUuids = R.direct) (ht : s'.handlers = R.tasks)
    (hse : s'.drained.senderForUuid = R.senders) (hsh : ∀ h, s'.Shared h → R.shared h)
    (hRh : R.handles = s.registry.handles) (hRs : R.stage = s.registry.stage)
    (hRt : R.tracks = s.registry.tracks) : s.registry.Step op s'.registry := by
  refine ⟨R, hc, ⟨?_, hd, ht, ?_, hse, hsh, fun m addr u h => ?_⟩⟩
  · rw [hRh]
    simp only [registry, hh]
  · rw [hRs]
    funext c
    cases c <;> simp only [registry, stage, hsc, hm]
  · rw [hRt]
    simpa only [registry, tracks, hm] using h

theorem unheld_of_senderHeld {h : HandlerId} (hs : s.senderHeld h = false) : s.registry.Unheld h := by
  simp only [senderHeld, Bool.or_eq_false_iff, decide_eq_false_iff_not, List.any_eq_false] at hs
  obtain ⟨⟨⟨⟨⟨h₁, h₂⟩, h₃⟩, h₄⟩, h₅⟩, h₆⟩ := hs
  refine ⟨fun u hu => h₁ ⟨u, Finset.mem_filter.mpr ⟨?_, hu⟩⟩, ?_, fun c hc => ?_⟩
  · exact Finmap.mem_keys.mpr (Finmap.mem_of_lookup_eq_some hu)
  · rintro (⟨e, he, hes⟩ | ⟨d, hd⟩ | ⟨c, hc, hcs⟩)
    · exact h₂ e he (by simp [hes])
    · exact h₃ _ hd (by simp)
    · exact h₄ c hc (by simp [hcs])
  · cases c with
    | scan =>
      change s.scan.stage.handler = some h at hc
      cases hsc : s.scan <;> rw [hsc] at hc h₅ <;> cases hc <;> simp [ScanState.sender] at h₅
    | manager m =>
      simp only [registry, stage] at hc
      split at hc
      · next t ht =>
        have h₆' := h₆ t (List.mem_of_getElem? ht)
        cases hst : t.state <;> rw [hst] at hc h₆' <;> cases hc <;> simp [ManagerState.sender] at h₆'
      · cases hc

theorem senders_updateDevice (l : DeviceList) (d : Device) :
    (l.forward (.updateDevice d)).senderForUuid = l.senderForUuid :=
  funext fun _ => DeviceList.senderForUuid_updateDevice d

theorem senders_updateName (l : DeviceList) (u : Uuid) (name : String) :
    (l.forward (.updateName u name)).senderForUuid = l.senderForUuid :=
  funext fun _ => DeviceList.senderForUuid_updateName name

/-- An effect of a handler reaches the registry only as a removal from
`direct_usb_handler_uuids`. -/
theorem perform_simulates {h : HandlerId} {t t' : HandlerTask} {eff : Effect}
    (ht : s.handlers[h]? = some t) (hn : t.next .perform = some t') (hhd : t.todo.head? = some eff)
    (hcon : Concerns t.uuid eff) :
    s.registry.Step (.work h .perform) ((s.setHandler h t').perform eff).registry := by
  have hcore : (∀ u, eff ≠ .removeDirect u) →
      Core s.registry (.work h .perform) (s.registry.setTask h t') := fun hne =>
    .work ht hn (by simp) (fun hc => by cases hc) fun _ u hu => by
      rw [hhd] at hu
      exact hne u (Option.some.inj hu)
  cases eff with
  | removeDirect u =>
    exact tables_step (.forget ht hn hhd) rfl rfl rfl rfl rfl rfl (fun _ => id) rfl rfl rfl
  | message m =>
    cases m with
    | updateDevice d =>
      refine tables_step (hcore fun u hu => by cases hu) rfl rfl rfl rfl rfl ?_ (fun k hk => ?_) rfl rfl rfl
      · show ((s.setHandler h t').post (.updateDevice d)).drained.senderForUuid = _
        rw [drained_post]
        exact senders_updateDevice _ d
      · obtain hk | ⟨d', hd⟩ := shared_post hk
        · exact hk
        · cases hd
    | updateName u name =>
      refine tables_step (hcore fun u hu => by cases hu) rfl rfl rfl rfl rfl ?_ (fun k hk => ?_) rfl rfl rfl
      · show ((s.setHandler h t').post (.updateName u name)).drained.senderForUuid = _
        rw [drained_post]
        exact senders_updateName _ u name
      · obtain hk | ⟨d', hd⟩ := shared_post hk
        · exact hk
        · cases hd
    | _ => exact hcon.elim
  | _ =>
    exact tables_step (hcore fun u hu => by cases hu) rfl rfl rfl rfl rfl rfl (fun _ => id) rfl rfl rfl

theorem handler_simulates (I : s.Inv) {h : HandlerId} {e : HandlerEvent}
    (hs : s.handlerStep h e = some s') : s'.LockInv ∧ s.registry.Step (.work h e) s'.registry := by
  obtain ⟨t, ht, hs⟩ := handlerStep_stepped hs
  cases hs with
  | @perform t' eff hn heff =>
    have hcon : Concerns t.uuid eff := (I.registry.wellFormed ht).todo eff (List.mem_of_head? heff)
    refine ⟨?_, perform_simulates ht hn heff hcon⟩
    cases eff <;> exact I.lock
  | exit hn =>
    refine ⟨I.lock, tables_step
      (.exit ((s.drained.forward (.disconnect t.handler.device)).senderForUuid t.uuid) ht hn)
      rfl rfl rfl rfl rfl ?_ (fun k hk => ?_) rfl rfl rfl⟩
    · rw [drained_post]
      exact senders_disconnect _ t.handler.device
    · obtain hk | ⟨d', hd⟩ := shared_post hk
      · exact hk
      · cases hd
  | own hn hpf hex hcl =>
    exact ⟨I.lock, tables_step (.work ht hn hex (fun hc => unheld_of_senderHeld (hcl hc))
      fun hc => absurd hc hpf) rfl rfl rfl rfl rfl rfl (fun _ => id) rfl rfl rfl⟩

/-! ## The forwarding loop and the RPCs -/

/-- Such a step has no effect on the registry but that senders are dropped. -/
theorem quiet_step (hsc : s'.scan = s.scan) (hm : s'.managers = s.managers)
    (hh : s'.deviceHandles = s.deviceHandles)
    (hd : s'.directUsbHandlerUuids = s.directUsbHandlerUuids) (ht : s'.handlers = s.handlers)
    (hse : s'.drained.senderForUuid = s.drained.senderForUuid) (hsh : ∀ h, s'.Shared h → s.Shared h) :
    s.registry.Step .quiet s'.registry :=
  tables_step .quiet hsc hm hh hd ht hse hsh rfl rfl rfl

theorem forward_simulates (h : s.forward = some s') : s.registry.Step .quiet s'.registry := by
  unfold forward at h
  split at h
  · next msg rest hch =>
    cases h
    refine quiet_step rfl rfl rfl rfl rfl ?_ fun k hk => ?_
    · simp only [drained, hch, List.foldl_cons]
    · obtain ⟨e, he, hes⟩ | ⟨d, hd⟩ | hk := hk
      · obtain ⟨e', he', hee⟩ | ⟨d, rfl⟩ := DeviceList.mem_forward he
        · exact .inl ⟨e', he', hee.trans hes⟩
        · exact .inr (.inl ⟨d, by rw [hch, hes]; exact List.mem_cons_self⟩)
      · exact .inr (.inl ⟨d, by rw [hch]; exact List.mem_cons_of_mem _ hd⟩)
      · exact .inr (.inr hk)
  · cases h

/-- `sender_for_uuid` finds an entry of the list. -/
theorem mem_of_senderForUuid {l : DeviceList} {u : Uuid} {x : Option HandlerId}
    (h : l.senderForUuid u = some x) : ∃ e ∈ l, e.2 = x := by
  obtain ⟨e, he, hx⟩ := Option.map_eq_some_iff.mp h
  exact ⟨e, List.mem_of_find?_eq_some he, hx⟩

theorem request_simulates (I : s.Inv) {u : Uuid} {msg : DeviceTaskMessage}
    (h : s.request u msg = some s') :
    s'.LockInv ∧ (∀ c ∈ s'.calls, c.2.isLink = false) ∧ s.registry.Step .quiet s'.registry := by
  unfold request at h
  split at h
  · next k hlink hu =>
    cases h
    refine ⟨I.lock, forall_mem_concat I.calls hlink,
      quiet_step rfl rfl rfl rfl rfl rfl fun j hj => ?_⟩
    · obtain hj | hj | ⟨c, hc, hcj⟩ := hj
      · exact .inl hj
      · exact .inr (.inl hj)
      · obtain hc | hc := List.mem_append.mp hc
        · exact .inr (.inr ⟨c, hc, hcj⟩)
        · rw [List.mem_singleton.mp hc] at hcj
          obtain ⟨e, he, hes⟩ := mem_of_senderForUuid hu
          exact .inl ⟨e, he, hes.trans (congrArg some hcj)⟩
  · cases h

theorem cancel_shared {i : Nat} {h : HandlerId} (hs : (s.cancel i).Shared h) : s.Shared h := by
  obtain hs | hs | ⟨c, hc, hch⟩ := hs
  · exact .inl hs
  · exact .inr (.inl hs)
  · exact .inr (.inr ⟨c, List.mem_of_mem_eraseIdx hc, hch⟩)

theorem cancel_calls (I : s.Inv) (i : Nat) : ∀ c ∈ (s.cancel i).calls, c.2.isLink = false :=
  fun c hc => I.calls c (List.mem_of_mem_eraseIdx hc)

theorem deliver_simulates (I : s.Inv) {i : Nat} (h : s.deliver i = some s') :
    s'.LockInv ∧ (∀ c ∈ s'.calls, c.2.isLink = false) ∧
      s.registry.Step (s.op (.deliver i)) s'.registry := by
  obtain ⟨c, hc, rfl⟩ := Option.map_eq_some_iff.mp h
  have hmem := List.mem_of_getElem? hc
  simp only [op, hc]
  exact ⟨I.lock, cancel_calls I i,
    tables_step (.sendCall (.inr (.inr ⟨c, hmem, rfl⟩)) (I.calls c hmem)) rfl rfl rfl rfl rfl rfl
      (fun _ hk => cancel_shared (s := s) (i := i) hk) rfl rfl rfl⟩

theorem rename_simulates (u : Uuid) (name : String) :
    s.registry.Step .quiet (s.rename u name).registry := by
  refine quiet_step rfl rfl rfl rfl rfl ?_ fun k hk => ?_
  · exact funext fun v =>
      ((DeviceList.sameKeys_rename s.deviceList u name).foldl s.messageChannel).senderForUuid v
  · obtain ⟨e, he, hes⟩ | hk := hk
    · obtain ⟨e', he', hee⟩ := DeviceList.sender_of_mem_update he fun _ => rfl
      exact .inl ⟨e', he', hee.trans hes⟩
    · exact .inr hk

/-! ## The simulation -/

/-- **The server simulates its registry.** -/
theorem Inv.simulates (I : s.Inv) {e : Event} (h : s.Step e s') :
    s'.LockInv ∧ (∀ c ∈ s'.calls, c.2.isLink = false) ∧ s.registry.Step (s.op e) s'.registry := by
  cases e with
  | scan e =>
    obtain ⟨hl, hr⟩ := scan_simulates I.lock h
    exact ⟨hl, (scan_frame h).calls ▸ I.calls, hr⟩
  | manager m e =>
    have hms : s.managerStep m e = some s' := h
    cases hm : s.managers[m]? with
    | none => simp [managerStep, hm] at hms
    | some t =>
      obtain ⟨hl, hr⟩ := manager_simulates I.lock hm hms
      simp only [op, hm]
      exact ⟨hl, (manager_frame h).calls ▸ I.calls, hr⟩
  | handler k e =>
    obtain ⟨hl, hr⟩ := handler_simulates I h
    exact ⟨hl, (handler_frame h).calls ▸ I.calls, hr⟩
  | forward =>
    refine ⟨?_, ?_, forward_simulates h⟩
    all_goals
      have hf : s.forward = some s' := h
      unfold forward at hf
      split at hf <;> cases hf
    · exact I.lock
    · exact I.calls
  | request u msg => exact request_simulates I h
  | deliver i => exact deliver_simulates I h
  | cancel i =>
    cases h
    exact ⟨I.lock, cancel_calls I i, quiet_step rfl rfl rfl rfl rfl rfl fun _ => cancel_shared⟩
  | rename u name =>
    cases h
    exact ⟨I.lock, I.calls, rename_simulates u name⟩
  | paired addr name =>
    cases h
    unfold paired
    split
    · exact ⟨I.lock, I.calls, quiet_step rfl rfl rfl rfl rfl rfl fun _ => id⟩
    · exact ⟨I.lock, I.calls, quiet_step rfl rfl rfl rfl rfl rfl fun _ => id⟩

theorem Inv.step (I : s.Inv) {e : Event} (h : s.Step e s') : s'.Inv := by
  obtain ⟨hl, hc, hr⟩ := I.simulates h
  exact ⟨hl, I.registry.step hr, hc⟩

theorem Inv.init : Sys.init.Inv where
  lock c h := by
    cases c with
    | scan => cases h
    | manager m => simp [holdsLock, Sys.init] at h
  registry := by
    refine Registry.Inv.init (fun c => ?_) (fun u => rfl) rfl fun h hs => ?_
    · cases c <;> rfl
    · have hs' : Sys.init.Shared h := hs
      simp [Shared, Sys.init] at hs'
  calls := by simp [Sys.init]

/-- The invariant holds in every reachable state. -/
theorem Inv.always {tr : List (Event × Sys)} (hrun : Exec Sys.Step Sys.init tr) :
    Always Inv Sys.init tr :=
  hrun.invariant (fun _ _ _ I h => I.step h) Inv.init

end Sys

end OdysseyHub
