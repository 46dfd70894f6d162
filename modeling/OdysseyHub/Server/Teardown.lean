import OdysseyHub.Server.RegistryRun

/-!
# Teardown of a hub manager

A hub manager whose dongle is gone leaves its loop on the receive error and sends
`RemoveEventsDevice` for each of its addresses; or the scan aborts it, and it does
nothing more.  `Teardown` is a history of the run: what each manager owed when its
teardown began, and what its cleanup has sent since.

**Sys.tornDown_iff**: in every run, each stopped manager has sent one
`RemoveEventsDevice` for every address it owed whose handler still runs, exactly when
no manager is aborted that still owes one to a running handler.
-/

namespace OdysseyHub

open HandlerTask Slots Transition

/-! ## The history -/

/-- The UUID of an address whose handler is still to get its `RemoveEventsDevice`. -/
def ManagerTask.owes (t : ManagerTask) (addr : Uuid) : Option Uuid :=
  let held := if addr ∈ t.hubDevices then some (t.uuidOf addr) else none
  match t.state with
  | .unlinked _ a u => if addr = a then some u else held
  | .cleaning rest => if addr ∈ rest then some (t.uuidOf addr) else none
  | .done | .aborted => none
  | _ => held

structure Teardown where
  /-- UUID and handler of each address a manager owed at the start of its teardown -/
  owed : ManagerId → Uuid → Option (Uuid × HandlerId)
  /-- what the cleanups have sent -/
  sent : List (ManagerId × Uuid × HandlerId)

namespace Sys

/-- The manager has not begun its teardown. -/
def looping (s : Sys) (m : ManagerId) : Bool :=
  match s.managers[m]? with
  | some t => t.state.inLoop
  | none => true

/-- What a manager owes, and to which handlers. -/
def obligations (s : Sys) (m : ManagerId) (addr : Uuid) : Option (Uuid × HandlerId) :=
  match s.managers[m]? with
  | some t => (t.owes addr).bind fun u => (s.deviceHandles.lookup u).map fun h => (u, h)
  | none => none

/-- The send of the next cleanup step. -/
def cleaned (s : Sys) (m : ManagerId) : List (ManagerId × Uuid × HandlerId) :=
  match s.managers[m]? with
  | some t =>
    match t.state with
    | .cleaning (addr :: _) =>
      ((s.deviceHandles.lookup (t.uuidOf addr)).map fun h => (m, addr, h)).toList
    | _ => []
  | none => []

end Sys

namespace Teardown

def empty : Teardown := { owed := fun _ _ => none, sent := [] }

def start (g : Teardown) (s : Sys) (m : ManagerId) : Teardown :=
  { g with owed := Function.update g.owed m (s.obligations m) }

/-- A teardown begins with the receive error, or with an abort before it. -/
def next (s : Sys) (e : Event) (_ : Sys) (g : Teardown) : Teardown :=
  match e with
  | .manager m .receiveError => g.start s m
  | .manager m .abort => if s.looping m then g.start s m else g
  | .manager m .clean => { g with sent := g.sent ++ s.cleaned m }
  | _ => g

/-- What a manager owes from the start of its teardown, were it to begin now. -/
def due (g : Teardown) (s : Sys) (m : ManagerId) : Uuid → Option (Uuid × HandlerId) :=
  if s.looping m then s.obligations m else g.owed m

end Teardown

/-- Stopped managers have sent one `RemoveEventsDevice` for each address they owed whose
handler is still there. -/
def TornDown (x : Sys × Teardown) : Prop :=
  ∀ (m : ManagerId) (t : ManagerTask), x.1.managers[m]? = some t → t.isFinished = true →
  ∀ (addr u : Uuid) (h : HandlerId), x.2.owed m addr = some (u, h) → x.1.registry.Live u h →
    x.2.sent.count (m, addr, h) = 1

/-- No manager is aborted that still owes a `RemoveEventsDevice` to a running handler. -/
def AbortsClean (x : Sys × Teardown) : Event → Prop
  | .manager m .abort => ∀ (t : ManagerTask) (addr u : Uuid) (h : HandlerId),
      x.1.managers[m]? = some t → (t.owes addr).isSome = true → x.2.due x.1 m addr = some (u, h) →
      ¬ x.1.registry.Live u h
  | _ => True

/-- An entry of the history is a `RemoveEventsDevice` sent to the handler. -/
theorem Sys.clean_sends {s s' : Sys} {m : ManagerId} {addr : Uuid} {h : HandlerId}
    (hs : s.managerStep m .clean = some s') (hmem : (m, addr, h) ∈ s.cleaned m) :
    s'.handlers = s.handlers.modify h (·.receive .removeEventsDevice) := by
  obtain ⟨t, ht, h'⟩ := Sys.managerStep_stepped hs
  cases h' with
  | @clean a rest hst =>
    simp only [Sys.cleaned, ht, hst] at hmem
    obtain ⟨j, hj, he⟩ := Option.map_eq_some_iff.mp (Option.mem_toList.mp hmem)
    cases he
    have hj' : (HubManager.goto s m t (.cleaning rest)).deviceHandles.lookup (t.uuidOf addr) = some h := hj
    rw [HubManager.sendRemoval_of_some hj']
    rfl

/-! ## How managers change -/

namespace Sys

variable {s s' : Sys}

/-- A cleanup step sends to the handler of its own address. -/
theorem count_cleaned {m : ManagerId} {t : ManagerTask} {a addr : Uuid} {rest : List Uuid} {h : HandlerId}
    (hm : s.managers[m]? = some t) (hst : t.state = .cleaning (a :: rest))
    (hh : s.deviceHandles.lookup (t.uuidOf addr) = some h) :
    (s.cleaned m).count (m, addr, h) = if addr = a then 1 else 0 := by
  simp only [cleaned, hm, hst]
  split
  · next ha =>
    rw [← ha, hh]
    simp
  · next ha =>
    rw [List.count_eq_zero]
    intro hmem
    obtain ⟨j, -, hj⟩ := Option.map_eq_some_iff.mp (Option.mem_toList.mp hmem)
    cases hj
    exact ha rfl

/-- The steps of a teardown. -/
inductive TeardownStep (t : ManagerTask) : ManagerEvent → ManagerTask → Prop
  | receiveError : t.state = .waiting none →
      TeardownStep t .receiveError { t with state := .unregistering }
  | unregister {order : List Uuid} : t.state = .unregistering → order.Nodup →
      order.toFinset = t.hubDevices →
      TeardownStep t (.unregister order) { t with state := .cleaning order }
  | clean {addr : Uuid} {rest : List Uuid} : t.state = .cleaning (addr :: rest) →
      TeardownStep t .clean { t with state := .cleaning rest }
  | finish : t.state = .cleaning [] → TeardownStep t .finish { t with state := .done }
  | abort : t.isFinished = false → TeardownStep t .abort { t with state := .aborted }

/-- A step of a manager stays in its loop, or is one of its teardown. -/
theorem manager_cases {m : ManagerId} {t : ManagerTask} {e : ManagerEvent}
    (hm : s.managers[m]? = some t) (h : HubManager.Stepped s m t e s') :
    ∃ t', s'.managers = s.managers.set m t' ∧
      ((t.state.inLoop = true ∧ t'.state.inLoop = true ∧ e ≠ .receiveError ∧ e ≠ .clean ∧ e ≠ .abort) ∨
        TeardownStep t e t') := by
  cases h with
  | receiveError hst => exact ⟨_, rfl, .inr (.receiveError hst)⟩
  | unregister hst hnodup horder => exact ⟨_, rfl, .inr (.unregister hst hnodup horder)⟩
  | clean hst => exact ⟨_, HubManager.sendRemoval_managers _ _, .inr (.clean hst)⟩
  | finish hst => exact ⟨_, rfl, .inr (.finish hst)⟩
  | abort _ hfin => exact ⟨_, rfl, .inr (.abort hfin)⟩
  | clearBonds hst =>
    have hloop : t.state.inLoop = true := by rw [hst]; rfl
    exact ⟨t, (put_self hm).symm, .inl ⟨hloop, hloop, by simp, by simp, by simp⟩⟩
  | removeEvents hst =>
    exact ⟨_, HubManager.sendRemoval_managers _ _, .inl ⟨by rw [hst]; rfl, rfl, by simp, by simp, by simp⟩⟩
  | listed hst | unlisted hst | register hst | initial hst | refreshing hst | adding hst | refreshed hst
  | unrefreshed hst | connectFailed hst | probe hst | lock hst | merge hst | spawn hst | insert hst
  | connect hst | queue hst | removed hst | untrack hst | rebonded hst | unrebonded hst | update hst =>
    exact ⟨_, rfl, .inl ⟨by rw [hst]; rfl, rfl, by simp, by simp, by simp⟩⟩

theorem managerStep_cases {m : ManagerId} {e : ManagerEvent} (h : s.managerStep m e = some s') :
    ∃ t t', s.managers[m]? = some t ∧ s'.managers = s.managers.set m t' ∧
      ((t.state.inLoop = true ∧ t'.state.inLoop = true ∧ e ≠ .receiveError ∧ e ≠ .clean ∧ e ≠ .abort) ∨
        TeardownStep t e t') := by
  obtain ⟨t, hm, hs⟩ := managerStep_stepped h
  obtain ⟨t', ht', hc⟩ := manager_cases hm hs
  exact ⟨t, t', hm, ht', hc⟩

/-- A manager changes in its own steps only. -/
theorem step_managers {e : Event} (h : s.Step e s') {k : ManagerId} (hk : ∀ me, e ≠ .manager k me) :
    s'.managers[k]? = s.managers[k]? ∨
    (s.managers[k]? = none ∧ ∃ d, s'.managers[k]? = some (.spawned d)) := by
  cases e with
  | scan e =>
    obtain hm | ⟨d, hm⟩ := (scan_frame h).managers
    · exact .inl (by rw [hm])
    · cases hk : s.managers[k]? with
      | some t =>
        exact .inl (by rw [hm, List.getElem?_append_left (List.getElem?_eq_some_iff.mp hk).1, hk])
      | none =>
        cases hk' : s'.managers[k]? with
        | none => exact .inl rfl
        | some t' =>
          rw [hm, getElem?_concat_some] at hk'
          obtain hk' | ⟨-, rfl⟩ := hk'
          · rw [hk] at hk'
            cases hk'
          · exact .inr ⟨rfl, d, rfl⟩
  | manager m me =>
    have hne : m ≠ k := fun he => hk me (he ▸ rfl)
    obtain ⟨t, t', hm, ht', -⟩ := managerStep_cases h
    exact .inl (by rw [ht', getElem?_set_of_some hm, if_neg hne])
  | handler j e => exact .inl (by rw [(handler_frame h).managers])
  | forward =>
    obtain ⟨msg, rest, -, rfl⟩ := forward_stepped h
    exact .inl rfl
  | request | deliver | cancel | rename | paired => exact .inl (by rw [(client_frame rfl h).managers])

end Sys

/-! ## The invariant -/

/-- How far the cleanup has got with an address of a live handler. -/
def Teardown.Progress (g : Teardown) (m : ManagerId) (t : ManagerTask) (addr u : Uuid)
    (h : HandlerId) : Prop :=
  match t.state with
  | .unregistering => addr ∈ t.hubDevices ∧ t.uuidOf addr = u ∧ g.sent.count (m, addr, h) = 0
  | .cleaning rest =>
    t.uuidOf addr = u ∧ g.sent.count (m, addr, h) = if addr ∈ rest then 0 else 1
  | .done | .aborted => g.sent.count (m, addr, h) = 1
  | _ => True

/-- The history of one manager. -/
structure Teardown.Tracks (g : Teardown) (R : Registry) (m : ManagerId) (t : ManagerTask) : Prop where
  unsent : t.state.inLoop = true → ∀ addr h, g.sent.count (m, addr, h) = 0
  settled : ∀ {addr u h}, g.owed m addr = some (u, h) → R.Settled h
  progress : ∀ {addr u h}, g.owed m addr = some (u, h) → R.Live u h → g.Progress m t addr u h
  nodup : ∀ {rest}, t.state = .cleaning rest → rest.Nodup

/-- The histories of all managers; those to come have none. -/
structure Teardown.Inv (x : Sys × Teardown) : Prop where
  sys : x.1.Inv
  tracks : ∀ {m : ManagerId} {t : ManagerTask}, x.1.managers[m]? = some t →
    x.2.Tracks x.1.registry m t
  unsent : ∀ {m : ManagerId}, x.1.managers[m]? = none → ∀ addr h, x.2.sent.count (m, addr, h) = 0
  unowed : ∀ {m : ManagerId}, x.1.managers[m]? = none → ∀ addr, x.2.owed m addr = none

namespace Teardown

variable {s s' : Sys} {g g' : Teardown}

/-- What a step adds to the history of another manager: nothing. -/
theorem next_other (s s' : Sys) (g : Teardown) {e : Event} {k : ManagerId} (hk : ∀ me, e ≠ .manager k me) :
    (next s e s' g).owed k = g.owed k ∧
    ∀ addr h, (next s e s' g).sent.count (k, addr, h) = g.sent.count (k, addr, h) := by
  have started : ∀ {m : ManagerId}, k ≠ m → (g.start s m).owed k = g.owed k := fun hne =>
    Function.update_of_ne hne ..
  cases e with
  | manager m me =>
    have hne : k ≠ m := fun he => hk me (he ▸ rfl)
    cases me with
    | receiveError => exact ⟨started hne, fun _ _ => rfl⟩
    | abort =>
      simp only [next]
      split
      · exact ⟨started hne, fun _ _ => rfl⟩
      · exact ⟨rfl, fun _ _ => rfl⟩
    | clean =>
      refine ⟨rfl, fun addr h => ?_⟩
      show (g.sent ++ s.cleaned m).count _ = _
      have hmem : (k, addr, h) ∉ s.cleaned m := fun hmem => by
        unfold Sys.cleaned at hmem
        repeat' split at hmem
        · obtain ⟨j, -, hj⟩ := Option.map_eq_some_iff.mp (Option.mem_toList.mp hmem)
          cases hj
          exact hne rfl
        · cases hmem
        · cases hmem
      rw [List.count_append, List.count_eq_zero_of_not_mem hmem, Nat.add_zero]
    | _ => exact ⟨rfl, fun _ _ => rfl⟩
  | _ => exact ⟨rfl, fun _ _ => rfl⟩

/-- Registered handlers are settled, also those a manager owes something. -/
theorem settled_obligations (I : s.Inv) {m : ManagerId} {addr u : Uuid} {h : HandlerId}
    (ho : s.obligations m addr = some (u, h)) : s.registry.Settled h ∧
      ∃ t, s.managers[m]? = some t ∧ t.owes addr = some u ∧ s.deviceHandles.lookup u = some h := by
  unfold Sys.obligations at ho
  split at ho
  · next t ht =>
    obtain ⟨v, hv, ho⟩ := Option.bind_eq_some_iff.mp ho
    obtain ⟨j, hj, he⟩ := Option.map_eq_some_iff.mp ho
    cases he
    exact ⟨I.registry.settled hj, t, ht, hv, hj⟩
  · cases ho

/-- A manager that does not move keeps its history, as handlers do not come back. -/
theorem Tracks.keep {R R' : Registry} {m : ManagerId} {t : ManagerTask} {op : Op}
    (T : g.Tracks R m t) (I : R.Inv) (hs : R.Step op R') (ho : g'.owed m = g.owed m)
    (hc : ∀ addr h, g'.sent.count (m, addr, h) = g.sent.count (m, addr, h)) : g'.Tracks R' m t where
  unsent hl addr h := (hc addr h).trans (T.unsent hl addr h)
  settled h := (T.settled (ho ▸ h)).step hs
  progress {addr u h} hw hl := by
    have hp := T.progress (ho ▸ hw) ((T.settled (ho ▸ hw)).live I hs hl)
    simpa only [Progress, hc] using hp
  nodup := T.nodup

/-! ## What a step keeps -/

/-- The manager's own steps in its loop. -/
theorem next_looping {e : ManagerEvent} {m : ManagerId} (h₁ : e ≠ .receiveError) (h₂ : e ≠ .clean)
    (h₃ : e ≠ .abort) : next s (.manager m e) s' g = g := by
  cases e <;> first | rfl | contradiction

theorem Tracks.looping {R R' : Registry} {m : ManagerId} {t t' : ManagerTask} {op : Op}
    (T : g.Tracks R m t) (hs : R.Step op R') (hl : t.state.inLoop = true)
    (hl' : t'.state.inLoop = true) : g.Tracks R' m t' where
  unsent _ := T.unsent hl
  settled h := (T.settled h).step hs
  progress {addr u h} _ _ := by
    unfold Progress
    split <;> first | trivial | (next hst => rw [hst] at hl'; cases hl')
  nodup hst := by rw [hst] at hl'; cases hl'

section
variable {m : ManagerId} {t t' : ManagerTask} (I : s.Inv) (hm : s.managers[m]? = some t)
  (T : g.Tracks s.registry m t) {op : Op} (hs : s.registry.Step op s'.registry)
include I hm T hs

omit hm T in
/-- A teardown begins. -/
theorem Tracks.start (hl' : t'.state.inLoop = false)
    (hp : ∀ {addr u h}, s.obligations m addr = some (u, h) → s'.registry.Live u h →
      (g.start s m).Progress m t' addr u h) (hnd : ∀ {rest}, t'.state = .cleaning rest → rest.Nodup) :
    (g.start s m).Tracks s'.registry m t' where
  unsent h := by rw [hl'] at h; cases h
  settled {addr u h} hw := by
    rw [show (g.start s m).owed m = s.obligations m from Function.update_self ..] at hw
    exact (settled_obligations I hw).1.step hs
  progress {addr u h} hw hl := by
    rw [show (g.start s m).owed m = s.obligations m from Function.update_self ..] at hw
    exact hp hw hl
  nodup := hnd

omit hm in
/-- A teardown goes on with what is owed to the handlers that still run. -/
theorem Tracks.proceed (ho : g'.owed m = g.owed m) (hl' : t'.state.inLoop = false)
    (hp : ∀ {addr u h}, g.owed m addr = some (u, h) → s.registry.Live u h →
      g.Progress m t addr u h → g'.Progress m t' addr u h)
    (hnd : ∀ {rest}, t'.state = .cleaning rest → rest.Nodup) : g'.Tracks s'.registry m t' where
  unsent h := by rw [hl'] at h; cases h
  settled hw := (T.settled (ho ▸ hw)).step hs
  progress {addr u h} hw hl := by
    rw [ho] at hw
    have hl₀ := (T.settled hw).live I.registry hs hl
    exact hp hw hl₀ (T.progress hw hl₀)
  nodup := hnd

omit hm in
theorem Tracks.unregister {order : List Uuid} (hst : t.state = .unregistering) (hnd : order.Nodup)
    (hset : order.toFinset = t.hubDevices) :
    g.Tracks s'.registry m { t with state := .cleaning order } := by
  refine T.proceed I hs rfl rfl (fun {addr u h} _ _ hp => ?_) fun h => (by cases h; exact hnd)
  simp only [Progress, hst] at hp
  have hmem : addr ∈ order := by
    rw [← List.mem_toFinset, hset]
    exact hp.1
  exact ⟨hp.2.1, hp.2.2.trans (if_pos hmem).symm⟩

theorem Tracks.clean {a : Uuid} {rest : List Uuid} (hst : t.state = .cleaning (a :: rest)) :
    Tracks { g with sent := g.sent ++ s.cleaned m } s'.registry m { t with state := .cleaning rest } := by
  have hnd := List.nodup_cons.mp (T.nodup hst)
  refine T.proceed I hs rfl rfl (fun {addr u h} _ hl hp => ?_) fun h => (by cases h; exact hnd.2)
  simp only [Progress, hst] at hp
  obtain ⟨hu, hc⟩ := hp
  have hh : s.deviceHandles.lookup (t.uuidOf addr) = some h := hu ▸ hl.1
  refine ⟨hu, ?_⟩
  show (g.sent ++ s.cleaned m).count _ = _
  rw [List.count_append, hc, Sys.count_cleaned hm hst hh]
  by_cases ha : addr = a
  · rw [if_pos ha, ha, if_pos List.mem_cons_self, if_neg hnd.1]
  · simp [ha]

omit hm in
theorem Tracks.finish (hst : t.state = .cleaning []) :
    g.Tracks s'.registry m { t with state := .done } := by
  refine T.proceed I hs rfl rfl (fun {addr u h} _ _ hp => ?_) fun h => by cases h
  simp only [Progress, hst] at hp
  simpa [Progress] using hp.2

/-- An abort is the end of a teardown that has nothing left to send. -/
theorem Tracks.abort (ok : AbortsClean (s, g) (.manager m .abort)) (hfin : t.isFinished = false) :
    (next s (.manager m .abort) s' g).Tracks s'.registry m { t with state := .aborted } := by
  have hloop : s.looping m = t.state.inLoop := by simp only [Sys.looping, hm]
  have hlive : ∀ {addr u h}, g.due s m addr = some (u, h) → s.registry.Live u h →
      t.owes addr = none := fun {addr u h} hd hl => by
    cases ho : t.owes addr with
    | none => rfl
    | some v => exact absurd hl (ok t addr u h hm (by rw [ho]; rfl) hd)
  simp only [next, hloop]
  cases hl : t.state.inLoop with
  | true =>
    refine .start I hs rfl (fun {addr u h} hw hl' => ?_) fun h => by cases h
    obtain ⟨hset, t₀, ht₀, hu, -⟩ := settled_obligations I hw
    rw [hm] at ht₀
    cases ht₀
    rw [hlive (by rw [due, hloop, hl]; exact hw) (hset.live I.registry hs hl')] at hu
    cases hu
  | false =>
    refine T.proceed I hs rfl rfl (fun {addr u h} hw hl' hp => ?_) fun h => by cases h
    have ho := hlive (by rw [due, hloop, hl]; exact hw) hl'
    cases hst : t.state <;> rw [hst] at hl <;> cases hl <;>
      simp only [Progress, hst, ManagerTask.owes] at hp ho
    · simp [hp.1] at ho
    · next rest =>
      have hmem : addr ∉ rest := fun hmem => by simp [hmem] at ho
      simpa [Progress, hmem] using hp.2
    · simp [ManagerTask.isFinished, hst] at hfin
    · simp [ManagerTask.isFinished, hst] at hfin

theorem Tracks.teardown {e : ManagerEvent} (ok : AbortsClean (s, g) (.manager m e))
    (ht : Sys.TeardownStep t e t') : (next s (.manager m e) s' g).Tracks s'.registry m t' := by
  cases ht with
  | receiveError hst =>
    refine .start I hs rfl (fun hw hl => ?_) fun h => by cases h
    obtain ⟨-, t₀, ht₀, hu, -⟩ := settled_obligations I hw
    rw [hm] at ht₀
    cases ht₀
    simp only [ManagerTask.owes, hst, Option.ite_none_right_eq_some, Option.some.injEq] at hu
    exact ⟨hu.1, hu.2, T.unsent (by rw [hst]; rfl) _ _⟩
  | unregister hst hnd hset => exact T.unregister I hs hst hnd hset
  | clean hst => exact T.clean I hm hs hst
  | finish hst => exact T.finish I hs hst
  | abort hfin => exact T.abort I hm hs ok hfin

end

theorem Inv.step {e : Event} (V : Inv (s, g)) (ok : AbortsClean (s, g) e) (h : s.Step e s') :
    Inv (s', next s e s' g) := by
  have I := V.sys
  have hs := (I.simulates h).2.2
  refine ⟨I.step h, fun {k t'} hk => ?_, fun {k} hk addr j => ?_, fun {k} hk addr => ?_⟩
  · by_cases hown : ∃ me, e = .manager k me
    · obtain ⟨me, rfl⟩ := hown
      obtain ⟨t, t₁, hm, ht₁, hcase⟩ := Sys.managerStep_cases h
      have hk₁ : s'.managers[k]? = some t₁ := by rw [ht₁, getElem?_set_same hm]
      obtain rfl : t' = t₁ := Option.some.inj (hk.symm.trans hk₁)
      obtain ⟨hl, hl', h₁, h₂, h₃⟩ | ht := hcase
      · rw [next_looping h₁ h₂ h₃]
        exact (V.tracks hm).looping hs hl hl'
      · exact (V.tracks hm).teardown I hm hs ok ht
    · have hown' : ∀ me, e ≠ .manager k me := fun me hme => hown ⟨me, hme⟩
      obtain ⟨howed, hsent⟩ := next_other s s' g hown'
      obtain he | ⟨hnone, d, hd⟩ := Sys.step_managers h hown'
      · exact (V.tracks (he.symm.trans hk)).keep I.registry hs howed hsent
      · obtain rfl : t' = .spawned d := Option.some.inj (hk.symm.trans hd)
        have unowed : ∀ addr, (next s e s' g).owed k addr = none := fun addr => by
          rw [howed]
          exact V.unowed hnone addr
        refine ⟨fun _ addr j => (hsent addr j).trans (V.unsent hnone addr j), fun hw => ?_,
          fun hw => ?_, fun hst => by cases hst⟩
        · rw [unowed] at hw
          cases hw
        · rw [unowed] at hw
          cases hw
  all_goals
    have hnone : s.managers[k]? = none ∧ ∀ me, e ≠ .manager k me := by
      by_cases hown : ∃ me, e = .manager k me
      · obtain ⟨me, rfl⟩ := hown
        obtain ⟨t, t₁, hm, ht₁, -⟩ := Sys.managerStep_cases h
        rw [ht₁, getElem?_set_same hm] at hk
        cases hk
      · have hown' : ∀ me, e ≠ .manager k me := fun me hme => hown ⟨me, hme⟩
        obtain he | ⟨hnone, -⟩ := Sys.step_managers h hown'
        · exact ⟨he.symm.trans hk, hown'⟩
        · exact ⟨hnone, hown'⟩
    obtain ⟨howed, hsent⟩ := next_other s s' g hnone.2
  · exact (hsent addr j).trans (V.unsent hnone.1 addr j)
  · rw [howed]
    exact V.unowed hnone.1 addr

theorem Inv.init : Inv (Sys.init, empty) where
  sys := Sys.Inv.init
  tracks h := by cases h
  unsent _ _ _ := rfl
  unowed _ _ := rfl

theorem Inv.tornDown {x : Sys × Teardown} (V : Inv x) : TornDown x := by
  intro m t hm hf addr u h hw hl
  have hp := (V.tracks hm).progress hw hl
  cases hst : t.state <;> simp only [ManagerTask.isFinished, hst, Bool.false_eq_true] at hf <;>
    simpa only [Progress, hst] using hp

/-! ## The exact condition -/

/-- A manager that owes an address has not sent for it since its teardown began. -/
theorem Tracks.unsent_of_owes {R : Registry} {m : ManagerId} {t : ManagerTask} (T : g.Tracks R m t)
    {addr u : Uuid} {h : HandlerId} (ho : (t.owes addr).isSome = true)
    (hw : t.state.inLoop = false → g.owed m addr = some (u, h)) (hl : R.Live u h) :
    g.sent.count (m, addr, h) = 0 := by
  cases hin : t.state.inLoop with
  | true => exact T.unsent hin addr h
  | false =>
    have hp := T.progress (hw hin) hl
    cases hst : t.state <;> rw [hst] at hin <;> cases hin <;>
      simp only [Progress, hst, ManagerTask.owes] at hp ho
    · exact hp.2.2
    · next rest =>
      have hmem : addr ∈ rest := by simpa using ho
      simpa [hmem] using hp.2
    · cases ho
    · cases ho

/-- A manager aborted with an address still to release never sends for it. -/
theorem Inv.abortsClean {e : Event} (V : Inv (s, g)) (h : s.Step e s')
    (hP : TornDown (s', next s e s' g)) : AbortsClean (s, g) e := by
  cases e with
  | manager m me =>
    cases me with
    | abort =>
      intro t addr u j hm ho hd hl
      have hloop : s.looping m = t.state.inLoop := by
        change s.managers[m]? = some t at hm
        simp only [Sys.looping, hm]
      -- the abort itself touches neither the table nor the handlers
      have hl' : s'.registry.Live u j := by
        have hs := (V.sys.simulates h).2.2
        change s.managers[m]? = some t at hm
        simp only [Sys.op, hm, Sys.managerOp] at hs
        obtain ⟨R₁, hc, q⟩ := hs
        cases hc with
        | abort =>
          unfold Registry.Live
          rw [q.handles, q.tasks]
          exact hl
      obtain ⟨t₀, t', hm₀, ht', hcase⟩ := Sys.managerStep_cases h
      obtain rfl : t = t₀ := Option.some.inj (hm.symm.trans hm₀)
      obtain ⟨-, -, -, -, hne⟩ | ht := hcase
      · exact absurd rfl hne
      · cases ht with
        | abort hfin =>
          have howed : (next s (.manager m .abort) s' g).owed m addr = some (u, j) := by
            simp only [due] at hd
            simp only [next]
            split
            · next hlp => rw [if_pos hlp] at hd; simpa only [start, Function.update_self] using hd
            · next hlp => rw [if_neg hlp] at hd; exact hd
          have hsent : (next s (.manager m .abort) s' g).sent = g.sent := by
            simp only [next]
            split <;> rfl
          have hone := hP m _ (by rw [ht', getElem?_set_same hm]) rfl addr u j
            howed hl'
          have hzero := (V.tracks hm).unsent_of_owes ho (fun hf => by
            rw [← hloop] at hf
            change g.due s m addr = _ at hd
            rwa [due, if_neg (by simp [hf])] at hd) hl
          change (next s (.manager m .abort) s' g).sent.count _ = 1 at hone
          rw [hsent, hzero] at hone
          cases hone
    | _ => trivial
  | _ => trivial

end Teardown

/-- **Teardown is complete** unless an abort cuts it short. -/
theorem Sys.tornDown_iff {tr : List (Event × (Sys × Teardown))}
    (hrun : Exec (ghost Sys.Step Teardown.next) (Sys.init, .empty) tr) :
    Always TornDown (Sys.init, Teardown.empty) tr ↔
      StepsOk AbortsClean (Sys.init, Teardown.empty) tr := by
  refine hrun.always_iff (I := Teardown.Inv) (fun x V => V.tornDown) ?_ ?_ Teardown.Inv.init
  · rintro ⟨s, g⟩ e ⟨s', g'⟩ V ok ⟨h, hg⟩
    obtain rfl : g' = Teardown.next s e s' g := hg
    exact V.step ok h
  · rintro ⟨s, g⟩ e ⟨s', g'⟩ V ⟨h, hg⟩ hP
    obtain rfl : g' = Teardown.next s e s' g := hg
    exact V.abortsClean h hP

namespace Teardown

/-- The run of a list of events, with the history of the teardowns. -/
def run (events : List Event) : List (Event × (Sys × Teardown)) :=
  trace (ghostStep Sys.step next) (Sys.init, empty) events

theorem exec_run (events : List Event) :
    Exec (ghost Sys.Step next) (Sys.init, empty) (run events) :=
  exec_ghostStep (fun _ _ _ h => h) next (Sys.init, empty) events

/-- The dongle is unplugged and the manager sees it first. -/
def receiveError : List Event :=
  muxed.append [.manager 0 .receiveError, .manager 0 (.unregister [sampleUuid]), .manager 0 .clean,
    .manager 0 .finish]

/-- The dongle is unplugged and the scan sees it first. -/
def aborted : List Event :=
  muxed.append [.scan (.enumerate []), .manager 0 .abort]

theorem tornDown_iff_receiveError : Always TornDown (Sys.init, empty) (run receiveError) :=
  (Sys.tornDown_iff (exec_run receiveError)).mpr ⟨trivial, trivial, trivial, trivial, trivial, trivial,
    trivial, trivial, trivial, trivial, trivial, trivial, trivial, trivial, trivial, trivial, trivial,
    trivial, trivial, trivial, trivial, trivial, trivial, trivial⟩

theorem aborted_sends_nothing :
    Exec (ghost Sys.Step next) (Sys.init, empty) (run aborted) ∧
      ¬ Always TornDown (Sys.init, empty) (run aborted) := by
  refine ⟨exec_run aborted, fun h => ?_⟩
  have hm : (last (Sys.init, empty) (run aborted)).1.managers.map (·.isFinished) = [true] := by
    decide +kernel
  have ht : (last (Sys.init, empty) (run aborted)).1.handlers.map (·.isFinished) = [false] := by
    decide +kernel
  have hu : (last (Sys.init, empty) (run aborted)).1.deviceHandles.lookup sampleUuid = some 0 := by
    decide +kernel
  have hw : (last (Sys.init, empty) (run aborted)).2.owed 0 sampleUuid = some (sampleUuid, 0) := by
    decide +kernel
  have hs : (last (Sys.init, empty) (run aborted)).2.sent = [] := by decide +kernel
  have hP := h.last
  generalize last (Sys.init, empty) (run aborted) = x at *
  obtain ⟨t, l, hl, hf, -⟩ := List.map_eq_cons_iff.mp hm
  obtain ⟨k, l', hl', hk, -⟩ := List.map_eq_cons_iff.mp ht
  have hr : k.Running := fun hf => by simp [HandlerTask.isFinished, hf] at hk
  have := hP 0 t (by rw [hl]; rfl) hf sampleUuid sampleUuid 0 hw
    ⟨hu, k, by change x.1.handlers[0]? = _; rw [hl']; rfl, hr⟩
  rw [hs] at this
  cases this

end Teardown

end OdysseyHub
