import OdysseyHub.Server.RegistryRun

/-!
# What a step puts into the message channel

`Mail R op ms` says which messages an operation of the registry comes with, and
`Sys.mail` that a step of the server appends just these: the creators send `Connect`,
the handlers their updates and the `Disconnect` behind their loop, the scan the two
messages about a device in DFU mode.
-/

namespace OdysseyHub

open HandlerTask Transition

namespace Op

/-- The handler a message of this operation is about. -/
def author : Op → Option HandlerId
  | .announce _ h | .work h _ => some h
  | _ => none

/-- Operations that never come with a message about a device. -/
def Silent : Op → Prop
  | .quiet | .evict .. | .insertScan _ | .insertHub .. | .insertDirect _ | .queue .. | .merge ..
  | .send .. | .abort _ => True
  | .work _ e => e ≠ .perform ∧ e ≠ .exit
  | .spawn _ t => t.todo = []
  | .announce .. | .surface _ | .retire _ => False

end Op

/-- The steps of the scan that send a message. -/
def ScanEvent.posts : ScanEvent → Bool
  | .announceDfu | .connect | .retire => true
  | _ => false

/-- The steps of a hub manager that send a message. -/
def ManagerEvent.posts : ManagerEvent → Bool
  | .connect | .register | .clearBonds _ | .update _ | .unregister _ => true
  | _ => false

namespace Registry

/-- The messages of an operation. -/
inductive Mail (R : Registry) : Op → List Message → Prop
  | connect {c : Creator} {h : HandlerId} {d : Device} :
      R.stage c = .announcing h d.uuid → Mail R (.announce c h) [.connect d (some h)]
  | surface (d : Device) : Mail R (.surface d.uuid) [.connect d none]
  | retire (d : Device) : Mail R (.retire d.uuid) [.disconnect d]
  | publish {h : HandlerId} {t : HandlerTask} {m : Message} :
      R.tasks[h]? = some t → t.todo.head? = some (.message m) → Mail R (.work h .perform) [m]
  | perform {h : HandlerId} {t : HandlerTask} :
      R.tasks[h]? = some t → (∀ m, t.todo.head? ≠ some (.message m)) → Mail R (.work h .perform) []
  | exit {h : HandlerId} {t : HandlerTask} :
      R.tasks[h]? = some t → Mail R (.work h .exit) [.disconnect t.handler.device]
  | dongle {m : Message} : Sys.IsDongle m → Mail R .quiet [m]
  | silent {op : Op} : op.Silent → Mail R op []

end Registry

namespace Sys

open Registry

variable {s s' : Sys}

/-- The step appends `ms` to the channel, and takes nothing out. -/
structure Sends (s : Sys) (ms : List Message) (s' : Sys) : Prop where
  channel : s'.messageChannel = s.messageChannel ++ ms
  list : s'.deviceList = s.deviceList

theorem Sends.nothing (hc : s'.messageChannel = s.messageChannel) (hl : s'.deviceList = s.deviceList) :
    Sends s [] s' :=
  ⟨by rw [hc, List.append_nil], hl⟩

theorem Sends.drained {ms : List Message} (h : Sends s ms s') :
    s'.drained = ms.foldl DeviceList.forward s.drained := by
  rw [Sys.drained, Sys.drained, h.channel, h.list, List.foldl_append]

/-! ## The scan -/

theorem scan_silent {e : ScanEvent} (he : e.posts = false) : (s.scanOp e).Silent := by
  cases e with
  | announceDfu | connect | retire => cases he
  | lock | merge | spawn | insert | insertDirect | unplug =>
    simp only [scanOp]
    repeat' split
    all_goals trivial
  | _ => trivial

theorem scan_channel {e : ScanEvent} (h : s.scanStep e = some s') (he : e.posts = false) :
    Sends s [] s' := by
  cases e <;>
    simp only [scanStep, Scan.enumerate, Scan.cleanup, Scan.skip, Scan.hub, Scan.connectHub,
      Scan.unreachable, Scan.surface, Scan.unread, Scan.probe, Scan.lock, Scan.merge, Scan.spawn,
      Scan.insert, Scan.insertDirect, Scan.missing, Scan.unplug, Scan.unplugged, Scan.sleep] at h
  case announceDfu | connect | retire => cases he
  all_goals
    repeat' split at h
    all_goals cases h <;> exact .nothing rfl rfl

theorem scan_mail {e : ScanEvent} (h : s.scanStep e = some s') :
    ∃ ms, Mail s.registry (s.scanOp e) ms ∧ Sends s ms s' := by
  cases he : e.posts with
  | false => exact ⟨[], .silent (scan_silent he), scan_channel h he⟩
  | true =>
    cases e with
    | announceDfu =>
      simp only [scanStep, Scan.announceDfu] at h
      split at h
      · next l d hs =>
        cases h
        simp only [scanOp, hs]
        exact ⟨_, .surface d, rfl, rfl⟩
      · cases h
    | connect =>
      simp only [scanStep, Scan.connect] at h
      split at h
      · next l p k hs =>
        cases h
        simp only [scanOp, hs]
        have hst : s.stage .scan = .announcing k p.uuid := by simp only [stage, hs]; rfl
        exact ⟨_, .connect (d := usbDeviceMeta p) hst, rfl, rfl⟩
      · cases h
    | retire =>
      simp only [scanStep, Scan.retire] at h
      split at h
      · next id ids hs =>
        simp only [scanOp, hs]
        cases hu : s.dfuDeviceIdToInfo.lookup id with
        | some info =>
          obtain ⟨u, pid⟩ := info
          simp only [hu] at h ⊢
          cases h
          exact ⟨_, .retire (Scan.dfuMeta u pid), rfl, rfl⟩
        | none =>
          simp only [hu] at h ⊢
          cases h
          exact ⟨[], .silent trivial, .nothing rfl rfl⟩
      · cases h
    | _ => cases he

/-! ## The hub managers -/

section
variable {m : ManagerId} {t : ManagerTask}

theorem removal_silent (u : Uuid) : (s.removal u).Silent := by
  unfold removal
  split <;> trivial

theorem manager_silent {e : ManagerEvent} (he : e.posts = false) :
    (s.managerOp m t e).Silent := by
  cases e with
  | connect | register | clearBonds | update | unregister => cases he
  | lock | merge | spawn | insert | queue =>
    simp only [managerOp]
    repeat' split
    all_goals trivial
  | removeEvents | clean =>
    simp only [managerOp]
    split
    · exact removal_silent _
    · trivial
  | _ => trivial

theorem manager_channel {e : ManagerEvent} (h : HubManager.Stepped s m t e s') (he : e.posts = false) :
    Sends s [] s' := by
  cases h with
  | register | clearBonds | connect | update | unregister => cases he
  | removeEvents | clean =>
    exact .nothing (HubManager.sendRemoval_messageChannel _ _) (HubManager.sendRemoval_deviceList _ _)
  | _ => exact .nothing rfl rfl

theorem manager_mail (hm : s.managers[m]? = some t) {e : ManagerEvent}
    (h : HubManager.Stepped s m t e s') :
    ∃ ms, Mail s.registry (s.managerOp m t e) ms ∧ Sends s ms s' := by
  cases he : e.posts with
  | false => exact ⟨[], .silent (manager_silent he), manager_channel h he⟩
  | true =>
    cases h with
    | @connect a k hst =>
      simp only [managerOp, hst]
      have han : s.stage (.manager m) = .announcing k a.probe.uuid := by
        simp [stage, hm, hst, ManagerState.stage]
      exact ⟨_, .connect (d := muxDeviceMeta a.probe) han, rfl, rfl⟩
    | register => exact ⟨_, .dongle (.connect _ _), rfl, rfl⟩
    | clearBonds | update => exact ⟨_, .dongle (.update _), rfl, rfl⟩
    | unregister => exact ⟨_, .dongle (.disconnect _), rfl, rfl⟩
    | _ => cases he

end

/-! ## The handlers -/

theorem handler_mail {h : HandlerId} {e : HandlerEvent} (hs : s.handlerStep h e = some s') :
    ∃ ms, Mail s.registry (.work h e) ms ∧ Sends s ms s' := by
  obtain ⟨t, ht, hs⟩ := handlerStep_stepped hs
  cases hs with
  | @perform t' eff hn heff =>
    cases eff with
    | message m => exact ⟨[m], .publish ht heff, rfl, rfl⟩
    | _ => exact ⟨[], .perform ht (by simp [heff]), .nothing rfl rfl⟩
  | exit hn => exact ⟨_, .exit ht, rfl, rfl⟩
  | own hn hpf hex hcl => exact ⟨[], .silent ⟨hpf, hex⟩, .nothing rfl rfl⟩

/-! ## Every step -/

/-- **The messages of a step**: those of its operation, unless the forwarding loop
takes one out or an RPC renames an entry of the list. -/
theorem mail {e : Event} (h : s.Step e s') :
    (∃ ms, Mail s.registry (s.op e) ms ∧ Sends s ms s') ∨
    (e = .forward ∧ s'.drained = s.drained) ∨ ∃ u name, e = .rename u name ∧ s' = s.rename u name := by
  cases e with
  | scan e => exact .inl (scan_mail h)
  | manager m e =>
    obtain ⟨t, hm, hms⟩ := managerStep_stepped h
    simp only [op, hm]
    exact .inl (manager_mail hm hms)
  | handler k e => exact .inl (handler_mail h)
  | forward =>
    have hf : s.forward = some s' := h
    unfold forward at hf
    split at hf
    · next m rest hch =>
      cases hf
      refine .inr (.inl ⟨rfl, ?_⟩)
      simp only [drained, hch, List.foldl_cons]
    · cases hf
  | request u m =>
    have hr : s.request u m = some s' := h
    unfold request at hr
    split at hr
    · cases hr
      exact .inl ⟨[], .silent trivial, .nothing rfl rfl⟩
    · cases hr
  | deliver i =>
    obtain ⟨c, hc, rfl⟩ := Option.map_eq_some_iff.mp h
    simp only [op, hc]
    exact .inl ⟨[], .silent trivial, .nothing rfl rfl⟩
  | cancel i =>
    cases h
    exact .inl ⟨[], .silent trivial, .nothing rfl rfl⟩
  | rename u name =>
    cases h
    exact .inr (.inr ⟨u, name, rfl, rfl⟩)
  | paired addr name =>
    cases h
    refine .inl ⟨[], .silent trivial, ?_⟩
    unfold paired
    split <;> exact .nothing rfl rfl

end Sys

end OdysseyHub
