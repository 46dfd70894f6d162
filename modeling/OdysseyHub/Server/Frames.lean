import OdysseyHub.Server.Run

/-!
# What the steps of the tasks can do

The inversion of a hub manager's step and of a handler's, one constructor an outcome, and
what the scan loop and the RPCs leave alone.  Whatever follows a table of the server through
its steps reads it off these, and never unfolds a step.
-/

namespace OdysseyHub

/-! ## A hub manager -/

namespace HubManager

/-- The versions of the dongle, 0.0.0 where none was read. -/
def versioned (t : ManagerTask) (version : Option (Version × Version)) (control : Option Version) : ManagerTask :=
  { t with
    protocolVersion := (version.map (·.1)).getD (Version.of 0 0 0)
    firmwareVersion := (version.map (·.2)).getD (Version.of 0 0 0)
    controlProtocolVersion := control.getD (Version.of 0 0 0) }

theorem versioned_supportsListBonds (t : ManagerTask) (version : Option (Version × Version))
    (control : Option Version) : (versioned t version control).supportsListBonds =
      semverAtLeast (control.getD (Version.of 0 0 0)) (Version.of 0 1 1) := rfl

inductive Stepped (s : Sys) (m : ManagerId) (t : ManagerTask) : ManagerEvent → Sys → Prop
  | listed {version : Option (Version × Version)} {control : Option Version} {bonds : List (Uuid × String)} :
      t.state = .reading → (versioned t version control).supportsListBonds = true →
      Stepped s m t (.readVersions version control (some bonds))
        (goto { s with bondNames := Sys.insertBonds s.bondNames bonds } m (versioned t version control)
          (.registering (bonds.map (·.1))))
  | unlisted {version : Option (Version × Version)} {control : Option Version}
      {bonds : Option (List (Uuid × String))} :
      t.state = .reading → (versioned t version control).supportsListBonds = false ∨ bonds = none →
      Stepped s m t (.readVersions version control bonds)
        (goto s m (versioned t version control) (.registering []))
  | register {bonded : List Uuid} : t.state = .registering bonded →
      Stepped s m t .register ((goto s m t .requesting).post (.dongleConnect (t.info [] bonded) m))
  | initial {devices : Option (List Uuid)} : t.state = .requesting →
      Stepped s m t (.initial devices) (goto s m t (.waiting devices))
  | refreshing {first : Option (List Uuid)} {devices added : List Uuid} : t.state = .waiting first →
      first = none ∨ first = some devices → added.Nodup → added.toFinset = devices.toFinset \ t.hubDevices →
      added ≠ [] → t.supportsListBonds = true →
      Stepped s m t (.snapshot devices added) (goto s m t (.refreshing devices.toFinset added))
  | adding {first : Option (List Uuid)} {devices added : List Uuid} : t.state = .waiting first →
      first = none ∨ first = some devices → added.Nodup → added.toFinset = devices.toFinset \ t.hubDevices →
      added = [] ∨ t.supportsListBonds = false →
      Stepped s m t (.snapshot devices added) (goto s m t (.adding devices.toFinset added))
  | receiveError : t.state = .waiting none → Stepped s m t .receiveError (goto s m t .unregistering)
  | clearBonds {first : Option (List Uuid)} {connected : List Uuid} : t.state = .waiting first → connected.Nodup →
      connected.toFinset = t.hubDevices →
      Stepped s m t (.clearBonds connected) (s.post (.dongleUpdate (t.info connected [])))
  | refreshed {newSet : Finset Uuid} {added : List Uuid} {bonds : List (Uuid × String)} :
      t.state = .refreshing newSet added →
      Stepped s m t (.refresh (some bonds))
        (goto { s with bondNames := Sys.refreshBonds s.bondNames bonds } m t (.adding newSet added))
  | unrefreshed {newSet : Finset Uuid} {added : List Uuid} : t.state = .refreshing newSet added →
      Stepped s m t (.refresh none) (goto s m t (.adding newSet added))
  | connectFailed {newSet : Finset Uuid} {addr : Uuid} {rest : List Uuid} :
      t.state = .adding newSet (addr :: rest) → Stepped s m t .connectFailed (goto s m t (.adding newSet rest))
  | probe {newSet : Finset Uuid} {addr : Uuid} {rest : List Uuid} {session : Nat} {uuid : Option Uuid}
      {version : Option (Version × Version)} {productId : Option UInt16} {name : Option String} :
      t.state = .adding newSet (addr :: rest) →
      Stepped s m t (.probe session uuid version productId name)
        (goto
          { s with
            bondNames := ((name.filter fun n => n ≠ "").map (s.bondNames.insert addr)).getD s.bondNames } m t
          (.probed ⟨newSet, rest, addr,
            { uuid := uuid.getD addr
              version := (version.map (·.1)).getD (Version.of 0 0 0)
              eventsVersion := (version.map (·.2)).getD (Version.of 0 0 0)
              productId := productId.getD 0
              name := (name.filter fun n => n ≠ "").getD ((s.bondNames.lookup addr).getD "")
              device := ⟨.mux, session⟩ }⟩))
  | lock {a : Adding} : t.state = .probed a → s.handlesLock = none →
      Stepped s m t .lock
        (goto
          { s with
            handlesLock := some (.manager m)
            deviceHandles := if s.staleEntry a.probe.uuid then s.deviceHandles.erase a.probe.uuid
              else s.deviceHandles } m t
          (.checking a))
  | merge {a : Adding} {h : HandlerId} : t.state = .checking a → s.deviceHandles.lookup a.probe.uuid = some h →
      Stepped s m t .merge
        ((goto { s with handlesLock := none } m (track t a) (.adding a.snapshot a.rest)).send h
          (.addEventsDevice a.probe.device a.probe.eventsVersion))
  | spawn {a : Adding} : t.state = .checking a → s.deviceHandles.lookup a.probe.uuid = none →
      Stepped s m t .spawn
        (goto
          { s with
            handlesLock := none
            handlers := s.handlers ++ [.spawned (muxHandler a.probe m 0)] } m t
          (.creating a s.handlers.length))
  | insert {a : Adding} {h : HandlerId} : t.state = .creating a h → s.handlesLock = none →
      Stepped s m t .insert
        (goto
          { s with
            handlesLock := some (.manager m)
            deviceHandles := s.deviceHandles.insert a.probe.uuid h } m (track t a)
          (.connecting a h))
  | connect {a : Adding} {h : HandlerId} : t.state = .connecting a h →
      Stepped s m t .connect ((goto s m t (.queueing a h)).post (.connect (muxDeviceMeta a.probe) (some h)))
  | queue {a : Adding} {h : HandlerId} : t.state = .queueing a h →
      Stepped s m t .queue
        ((goto { s with handlesLock := none } m t (.adding a.snapshot a.rest)).send h
          (.addEventsDevice a.probe.device a.probe.eventsVersion))
  | removed {newSet : Finset Uuid} {order : List Uuid} : t.state = .adding newSet [] → order.Nodup →
      order.toFinset = t.hubDevices \ newSet → Stepped s m t (.removed order) (goto s m t (.dropping order))
  | untrack {addr : Uuid} {rest : List Uuid} : t.state = .dropping (addr :: rest) →
      Stepped s m t .untrack
        (goto s m
          { t with
            hubDevices := t.hubDevices.erase addr
            hubDeviceUuids := t.hubDeviceUuids.erase addr }
          (.unlinked rest addr (t.uuidOf addr)))
  | removeEvents {rest : List Uuid} {addr uuid : Uuid} : t.state = .unlinked rest addr uuid →
      s.handlesLock = none → Stepped s m t .removeEvents (sendRemoval (goto s m t (.dropping rest)) uuid)
  | rebonded {bonds : List (Uuid × String)} : t.state = .dropping [] → t.supportsListBonds = true →
      Stepped s m t (.rebond (some bonds))
        (goto { s with bondNames := Sys.refreshBonds s.bondNames bonds } m t (.updating (bonds.map (·.1))))
  | unrebonded {bonds : Option (List (Uuid × String))} : t.state = .dropping [] →
      t.supportsListBonds = false ∨ bonds = none →
      Stepped s m t (.rebond bonds) (goto s m t (.updating []))
  | update {bonded connected : List Uuid} : t.state = .updating bonded → connected.Nodup →
      connected.toFinset = t.hubDevices →
      Stepped s m t (.update connected)
        ((goto s m t (.waiting none)).post (.dongleUpdate (t.info connected bonded)))
  | unregister {order : List Uuid} : t.state = .unregistering → order.Nodup → order.toFinset = t.hubDevices →
      Stepped s m t (.unregister order) ((goto s m t (.cleaning order)).post (.dongleDisconnect t.dongleId))
  | clean {addr : Uuid} {rest : List Uuid} : t.state = .cleaning (addr :: rest) → s.handlesLock = none →
      Stepped s m t .clean (sendRemoval (goto s m t (.cleaning rest)) (t.uuidOf addr))
  | finish : t.state = .cleaning [] → Stepped s m t .finish (goto s m t .done)
  | abort : m ∈ s.aborting → t.isFinished = false →
      Stepped s m t .abort
        (goto { s with handlesLock := if s.handlesLock = some (.manager m) then none else s.handlesLock } m t
          .aborted)

variable {s s' : Sys} {m : ManagerId} {t : ManagerTask}

/-- The bonds are passed over where the dongle cannot list them, or did not answer. -/
theorem unsupported_or_unanswered {supported : Bool} {bonds : Option (List (Uuid × String))}
    (hno : ∀ answer, supported = true → bonds = some answer → False) : supported = false ∨ bonds = none := by
  cases bonds with
  | none => exact .inr rfl
  | some answer => exact .inl (Bool.eq_false_iff.mpr fun hsup => hno answer hsup rfl)

theorem snapshot_cases {devices added : List Uuid} (h : step s m t (.snapshot devices added) = some s') :
    Stepped s m t (.snapshot devices added) s' := by
  simp only [step, snapshot] at h
  split at h
  · next first hst =>
    split at h
    · next hg =>
      cases h
      split
      · next hr => exact .refreshing hst hg.1 hg.2.1 hg.2.2 hr.1 hr.2
      · next hr =>
        refine .adding hst hg.1 hg.2.1 hg.2.2 ?_
        simpa only [not_and_or, not_not, Bool.not_eq_true] using hr
    · cases h
  · cases h

theorem probe_cases {session : Nat} {uuid : Option Uuid} {version : Option (Version × Version)}
    {productId : Option UInt16} {name : Option String}
    (h : step s m t (.probe session uuid version productId name) = some s') :
    Stepped s m t (.probe session uuid version productId name) s' := by
  simp only [step, HubManager.probe] at h
  split at h
  · next newSet addr rest hst =>
    have hp : Stepped s m t (.probe session uuid version productId name) _ := .probe hst
    split at h
    · next n hn =>
      cases h
      simpa only [hn, Option.map_some, Option.getD_some] using hp
    · next hn =>
      cases h
      simpa only [hn, Option.map_none, Option.getD_none] using hp
  · cases h

/-- **Inversion of a manager's step.** -/
theorem step_cases {e : ManagerEvent} (h : step s m t e = some s') : Stepped s m t e s' := by
  cases e with
  | readVersions version control bonds =>
    simp only [step, readVersions] at h
    split at h
    · next hst =>
      split at h
      · next bonds hsup =>
        cases h
        exact .listed hst hsup
      · next bonds _ _ hno =>
        cases h
        exact .unlisted hst (unsupported_or_unanswered hno)
    · cases h
  | register =>
    simp only [step, HubManager.register] at h
    split at h
    · next bonded hst =>
      cases h
      exact .register hst
    · cases h
  | initial devices =>
    simp only [step, HubManager.initial] at h
    split at h
    · next hst =>
      cases h
      exact .initial hst
    · cases h
  | snapshot devices added => exact snapshot_cases h
  | receiveError =>
    simp only [step, HubManager.receiveError] at h
    split at h
    · next hst =>
      cases h
      exact .receiveError hst
    · cases h
  | clearBonds connected =>
    simp only [step, HubManager.clearBonds] at h
    split at h
    · next hst =>
      split at h
      · next hg =>
        cases h
        exact .clearBonds hst hg.1 hg.2
      · cases h
    · cases h
  | refresh bonds =>
    simp only [step, refresh] at h
    split at h
    · next newSet added hst =>
      cases h
      cases bonds with
      | none => exact .unrefreshed hst
      | some bonds => exact .refreshed hst
    · cases h
  | connectFailed =>
    simp only [step, HubManager.connectFailed] at h
    split at h
    · next newSet addr rest hst =>
      cases h
      exact .connectFailed hst
    · cases h
  | probe session uuid version productId name => exact probe_cases h
  | lock =>
    simp only [step, HubManager.lock] at h
    split at h
    · next a hst =>
      split at h
      · next hl =>
        cases h
        exact .lock hst hl
      · cases h
    · cases h
  | merge =>
    simp only [step, HubManager.merge] at h
    split at h
    · next a hst =>
      split at h
      · next k hk =>
        cases h
        exact .merge hst hk
      · cases h
    · cases h
  | spawn =>
    simp only [step, HubManager.spawn] at h
    split at h
    · next a hst =>
      split at h
      · cases h
      · next hk =>
        cases h
        exact .spawn hst hk
    · cases h
  | insert =>
    simp only [step, HubManager.insert] at h
    split at h
    · next a k hst =>
      split at h
      · next hl =>
        cases h
        exact .insert hst hl
      · cases h
    · cases h
  | connect =>
    simp only [step, HubManager.connect] at h
    split at h
    · next a k hst =>
      cases h
      exact .connect hst
    · cases h
  | queue =>
    simp only [step, HubManager.queue] at h
    split at h
    · next a k hst =>
      cases h
      exact .queue hst
    · cases h
  | removed order =>
    simp only [step, HubManager.removed] at h
    split at h
    · next newSet hst =>
      split at h
      · next hg =>
        cases h
        exact .removed hst hg.1 hg.2
      · cases h
    · cases h
  | untrack =>
    simp only [step, HubManager.untrack] at h
    split at h
    · next addr rest hst =>
      cases h
      exact .untrack hst
    · cases h
  | removeEvents =>
    simp only [step, HubManager.removeEvents] at h
    split at h
    · next rest addr u hst =>
      split at h
      · next hl =>
        cases h
        exact .removeEvents hst hl
      · cases h
    · cases h
  | rebond bonds =>
    simp only [step, rebond] at h
    split at h
    · next hst =>
      split at h
      · next bonds hsup =>
        cases h
        exact .rebonded hst hsup
      · next bonds _ _ hno =>
        cases h
        exact .unrebonded hst (unsupported_or_unanswered hno)
    · cases h
  | update connected =>
    simp only [step, HubManager.update] at h
    split at h
    · next bonded hst =>
      split at h
      · next hg =>
        cases h
        exact .update hst hg.1 hg.2
      · cases h
    · cases h
  | unregister order =>
    simp only [step, HubManager.unregister] at h
    split at h
    · next hst =>
      split at h
      · next hg =>
        cases h
        exact .unregister hst hg.1 hg.2
      · cases h
    · cases h
  | clean =>
    simp only [step, HubManager.clean] at h
    split at h
    · next addr rest hst =>
      split at h
      · next hl =>
        cases h
        exact .clean hst hl
      · cases h
    · cases h
  | finish =>
    simp only [step, HubManager.finish] at h
    split at h
    · next hst =>
      cases h
      exact .finish hst
    · cases h
  | abort =>
    simp only [step, HubManager.abort] at h
    split at h
    · next hg =>
      cases h
      exact .abort hg.1 (by simpa using hg.2)
    · cases h

/-- A `RemoveEventsDevice` changes the handlers only. -/
theorem sendRemoval_eq (s : Sys) (u : Uuid) :
    sendRemoval s u = { s with handlers := (sendRemoval s u).handlers } := by
  unfold sendRemoval
  split
  · rfl
  · rfl

@[simp] theorem sendRemoval_managers (s : Sys) (u : Uuid) : (sendRemoval s u).managers = s.managers := by
  rw [sendRemoval_eq]

@[simp] theorem sendRemoval_messageChannel (s : Sys) (u : Uuid) :
    (sendRemoval s u).messageChannel = s.messageChannel := by
  rw [sendRemoval_eq]

@[simp] theorem sendRemoval_deviceList (s : Sys) (u : Uuid) : (sendRemoval s u).deviceList = s.deviceList := by
  rw [sendRemoval_eq]

@[simp] theorem sendRemoval_dongleList (s : Sys) (u : Uuid) : (sendRemoval s u).dongleList = s.dongleList := by
  rw [sendRemoval_eq]

@[simp] theorem sendRemoval_bondNames (s : Sys) (u : Uuid) : (sendRemoval s u).bondNames = s.bondNames := by
  rw [sendRemoval_eq]

@[simp] theorem sendRemoval_calls (s : Sys) (u : Uuid) : (sendRemoval s u).calls = s.calls := by
  rw [sendRemoval_eq]

end HubManager

namespace Sys

variable {s s' : Sys}

/-- A manager touches neither the two lists nor the RPCs. -/
structure ManagerFrame (s s' : Sys) : Prop where
  dongleList : s'.dongleList = s.dongleList
  deviceList : s'.deviceList = s.deviceList
  calls : s'.calls = s.calls

theorem managerStep_stepped {m : ManagerId} {e : ManagerEvent} (h : s.managerStep m e = some s') :
    ∃ t, s.managers[m]? = some t ∧ HubManager.Stepped s m t e s' := by
  unfold managerStep at h
  split at h
  · next t ht => exact ⟨t, ht, HubManager.step_cases h⟩
  · cases h

theorem manager_frame {m : ManagerId} {e : ManagerEvent} (h : s.managerStep m e = some s') :
    ManagerFrame s s' := by
  obtain ⟨t, -, h⟩ := managerStep_stepped h
  cases h with
  | removeEvents hst hl =>
    exact ⟨HubManager.sendRemoval_dongleList _ _, HubManager.sendRemoval_deviceList _ _,
      HubManager.sendRemoval_calls _ _⟩
  | clean hst hl =>
    exact ⟨HubManager.sendRemoval_dongleList _ _, HubManager.sendRemoval_deviceList _ _,
      HubManager.sendRemoval_calls _ _⟩
  | _ => exact ⟨rfl, rfl, rfl⟩

/-! ## The scan loop -/

/-- The scan loop spawns managers and posts about devices, and touches neither the names nor the
two lists nor the RPCs. -/
structure ScanFrame (s s' : Sys) : Prop where
  messages : ∃ ms, s'.messageChannel = s.messageChannel ++ ms ∧
    ∀ msg ∈ ms, (∃ d commands, msg = .connect d commands) ∨ ∃ d, msg = .disconnect d
  managers : s'.managers = s.managers ∨ ∃ d, s'.managers = s.managers ++ [.spawned d]
  bondNames : s'.bondNames = s.bondNames
  dongleList : s'.dongleList = s.dongleList
  deviceList : s'.deviceList = s.deviceList
  calls : s'.calls = s.calls

theorem scan_frame {e : ScanEvent} (h : s.scanStep e = some s') : ScanFrame s s' := by
  have silent : ∃ ms, s.messageChannel = s.messageChannel ++ ms ∧
      ∀ msg ∈ ms, (∃ d commands, msg = Message.connect d commands) ∨ ∃ d, msg = .disconnect d :=
    ⟨[], (List.append_nil _).symm, by simp⟩
  cases e <;>
    simp only [scanStep, Scan.enumerate, Scan.cleanup, Scan.skip, Scan.hub, Scan.connectHub,
      Scan.unreachable, Scan.surface, Scan.announceDfu, Scan.unread, Scan.probe, Scan.lock,
      Scan.merge, Scan.spawn, Scan.insert, Scan.insertDirect, Scan.connect, Scan.missing,
      Scan.unplug, Scan.unplugged, Scan.retire, Scan.sleep] at h
  all_goals
    repeat' split at h
    all_goals
      cases h <;> first
        | exact ⟨silent, .inl rfl, rfl, rfl, rfl, rfl⟩
        | exact ⟨silent, .inr ⟨_, rfl⟩, rfl, rfl, rfl, rfl⟩
        | exact ⟨⟨_, rfl, by simp⟩, .inl rfl, rfl, rfl, rfl, rfl⟩

/-! ## A handler -/

/-- A step of a handler performs an effect, leaves the task, or is the handler's own. -/
inductive HandlerStepped (s : Sys) (h : HandlerId) (t : HandlerTask) : HandlerEvent → Sys → Prop
  | perform {t' : HandlerTask} {eff : Effect} : t.next .perform = some t' → t.todo.head? = some eff →
      HandlerStepped s h t .perform ((s.setHandler h t').perform eff)
  | exit {t' : HandlerTask} : t.next .exit = some t' →
      HandlerStepped s h t .exit ((s.setHandler h t').post (.disconnect t.handler.device))
  | own {e : HandlerEvent} {t' : HandlerTask} : t.next e = some t' → e ≠ .perform → e ≠ .exit →
      (e = .closed → s.senderHeld h = false) → HandlerStepped s h t e (s.setHandler h t')

theorem handlerStep_stepped {h : HandlerId} {e : HandlerEvent} (hs : s.handlerStep h e = some s') :
    ∃ t, s.handlers[h]? = some t ∧ HandlerStepped s h t e s' := by
  unfold handlerStep at hs
  split at hs
  · cases hs
  · next t ht =>
    refine ⟨t, ht, ?_⟩
    split at hs
    · cases hs
    · next hn =>
      split at hs
      · cases hs
      · next hheld =>
        cases hs
        exact .own hn (by simp) (by simp) fun _ => by simpa using hheld
    · next hn =>
      obtain ⟨eff, heff, rfl⟩ := Option.map_eq_some_iff.mp hs
      exact .perform hn heff
    · next hn =>
      cases hs
      exact .exit hn
    · next hcl hpf hex hn =>
      cases hs
      exact .own hn hpf hex fun he => absurd he hcl

/-- A handler touches neither the managers nor the two lists nor the RPCs. -/
structure HandlerFrame (s s' : Sys) : Prop where
  managers : s'.managers = s.managers
  dongleList : s'.dongleList = s.dongleList
  deviceList : s'.deviceList = s.deviceList
  calls : s'.calls = s.calls

theorem handler_frame {h : HandlerId} {e : HandlerEvent} (hs : s.handlerStep h e = some s') :
    HandlerFrame s s' := by
  obtain ⟨t, -, hs⟩ := handlerStep_stepped hs
  cases hs with
  | @perform t' eff hn heff => cases eff <;> exact ⟨rfl, rfl, rfl, rfl⟩
  | exit hn => exact ⟨rfl, rfl, rfl, rfl⟩
  | own hn hpf hex hcl => exact ⟨rfl, rfl, rfl, rfl⟩

/-! ## The forwarding loop and the RPCs -/

theorem forward_stepped (h : s.forward = some s') :
    ∃ msg rest, s.messageChannel = msg :: rest ∧
      s' = { s with
        messageChannel := rest
        deviceList := s.deviceList.forward msg
        dongleList := forwardDongle s.dongleList msg } := by
  unfold forward at h
  split at h
  · next msg rest hch => exact ⟨msg, rest, hch, (Option.some.inj h).symm⟩
  · cases h

end Sys

/-- A step of an RPC, or of what answers one. -/
def Event.isClient : Event → Bool
  | .request .. | .deliver _ | .cancel _ | .rename .. | .paired .. => true
  | _ => false

namespace Sys

variable {s s' : Sys}

/-- The RPCs touch neither the managers nor the messages nor the dongle list. -/
structure ClientFrame (s s' : Sys) : Prop where
  managers : s'.managers = s.managers
  messageChannel : s'.messageChannel = s.messageChannel
  dongleList : s'.dongleList = s.dongleList

theorem client_frame {e : Event} (he : e.isClient = true) (h : s.Step e s') : ClientFrame s s' := by
  cases e with
  | request u msg =>
    have hf : s.request u msg = some s' := h
    unfold request at hf
    split at hf
    · cases hf
      exact ⟨rfl, rfl, rfl⟩
    · cases hf
  | deliver i =>
    obtain ⟨c, -, rfl⟩ := Option.map_eq_some_iff.mp (h : s.deliver i = some s')
    exact ⟨rfl, rfl, rfl⟩
  | cancel i =>
    cases h
    exact ⟨rfl, rfl, rfl⟩
  | rename u name =>
    cases h
    exact ⟨rfl, rfl, rfl⟩
  | paired addr name =>
    cases h
    unfold paired
    split
    · exact ⟨rfl, rfl, rfl⟩
    · exact ⟨rfl, rfl, rfl⟩
  | _ => cases he

end Sys

end OdysseyHub
