import OdysseyHub.Server.Frames

/-!
# The names of bonded devices (device_tasks.rs, bond_names)

Six places write `bond_names`; `NameWrite` lists them and `Sys.step_bondNames` says that
nothing else does.  Two write only what is missing (`refreshBonds`); a rename writes under
the UUID of the device, all others under a BLE address.

A rename of the device with address `a` and UUID `u` stands until the device reports
another name or a pairing of `a` brings one (`standing`).

    Always (NameStands a) … tr ↔ StepsOk (KeepsName a u) … tr        (Sys.nameStands_iff)
-/

namespace OdysseyHub

open Transition

/-! ## The writers -/

inductive NameWrite
  /-- `SetDeviceName` has succeeded, under the UUID -/
  | rename (u : Uuid) (name : String)
  /-- the device at `addr` has told its name -/
  | report (addr : Uuid) (name : String)
  /-- a pairing has brought a name -/
  | pair (addr : Uuid) (name : String)
  /-- `list_bonds` at the start of a manager -/
  | startup (bonds : List (Uuid × String))
  /-- `list_bonds` at a snapshot -/
  | refresh (bonds : List (Uuid × String))
  deriving DecidableEq, Repr

def NameWrite.apply (names : Table Uuid String) : NameWrite → Table Uuid String
  | .rename u name => names.insert u name
  | .report addr name => names.insert addr name
  | .pair addr name => names.insert addr name
  | .startup bonds => Sys.insertBonds names bonds
  | .refresh bonds => Sys.refreshBonds names bonds

namespace Sys

/-- The write of a manager's step. -/
def managerWrite (t : ManagerTask) : ManagerEvent → Option NameWrite
  | .readVersions _ control bonds =>
    if semverAtLeast (control.getD (Version.of 0 0 0)) (Version.of 0 1 1) then bonds.map .startup else none
  | .refresh bonds => bonds.map .refresh
  | .rebond bonds => if t.supportsListBonds then bonds.map .refresh else none
  | .probe _ _ _ _ name =>
    match t.state with
    | .adding _ (addr :: _) => (name.filter fun n => n ≠ "").map (.report addr)
    | _ => none
  | _ => none

/-- The write of a step. -/
def nameWrite (s : Sys) : Event → Option NameWrite
  | .manager m e => (s.managers[m]?).bind fun t => managerWrite t e
  | .handler h .perform =>
    match (s.handlers[h]?).bind (·.todo.head?) with
    | some (.bondName u name) => some (.rename u name)
    | _ => none
  | .paired addr name => if name = "" then none else some (.pair addr name)
  | _ => none

/-- `bond_names` after an optional write. -/
def written (names : Table Uuid String) : Option NameWrite → Table Uuid String
  | some w => w.apply names
  | none => names

variable {s s' : Sys}

theorem manager_bondNames {m : ManagerId} {t : ManagerTask} {e : ManagerEvent}
    (h : HubManager.Stepped s m t e s') : s'.bondNames = written s.bondNames (managerWrite t e) := by
  cases h with
  | listed hst hsup =>
    rw [HubManager.versioned_supportsListBonds] at hsup
    simp only [managerWrite]
    rw [if_pos hsup]
    rfl
  | unlisted hst hno =>
    simp only [managerWrite]
    obtain hsup | rfl := hno
    · rw [HubManager.versioned_supportsListBonds] at hsup
      rw [hsup]
      rfl
    · split <;> rfl
  | rebonded hst hsup =>
    simp only [managerWrite]
    rw [if_pos hsup]
    rfl
  | unrebonded hst hno =>
    simp only [managerWrite]
    obtain hsup | rfl := hno
    · rw [hsup]
      rfl
    · split <;> rfl
  | @probe newSet addr rest session uuid version productId name hst =>
    simp only [managerWrite, hst]
    cases name.filter fun n => n ≠ "" <;> rfl
  | removeEvents | clean => exact HubManager.sendRemoval_bondNames _ _
  | _ => rfl

theorem handler_bondNames {h : HandlerId} {e : HandlerEvent} (hs : s.handlerStep h e = some s') :
    s'.bondNames = written s.bondNames (s.nameWrite (.handler h e)) := by
  obtain ⟨t, ht, hs⟩ := handlerStep_stepped hs
  cases hs with
  | @perform t' eff hn heff =>
    simp only [nameWrite, ht, Option.bind_some, heff]
    cases eff <;> rfl
  | exit => rfl
  | @own e t' hn hpf =>
    have hsilent : s.nameWrite (.handler h e) = none := by
      cases e with
      | perform => exact absurd rfl hpf
      | _ => rfl
    rw [hsilent]
    rfl

/-- **Nothing else writes `bond_names`.** -/
theorem step_bondNames {e : Event} (h : s.Step e s') :
    s'.bondNames = written s.bondNames (s.nameWrite e) := by
  cases e with
  | scan e => exact (scan_frame h).bondNames
  | manager m e =>
    obtain ⟨t, hm, hs⟩ := managerStep_stepped h
    simp only [nameWrite, hm, Option.bind_some]
    exact manager_bondNames hs
  | handler k e => exact handler_bondNames h
  | forward =>
    obtain ⟨msg, rest, -, rfl⟩ := forward_stepped h
    rfl
  | request u msg =>
    have hf : s.request u msg = some s' := h
    unfold request at hf
    split at hf <;> cases hf
    rfl
  | deliver i =>
    obtain ⟨c, -, rfl⟩ := Option.map_eq_some_iff.mp (h : s.deliver i = some s')
    rfl
  | cancel i => cases h; rfl
  | rename u name => cases h; rfl
  | paired addr name =>
    cases h
    simp only [nameWrite, paired]
    split <;> rfl

end Sys

/-! ## Reading the table after a write -/

/-- The last name a list of bonds has for an address. -/
def bondNameOf (bonds : List (Uuid × String)) (a : Uuid) : Option String :=
  ((bonds.filter fun b => b.2 ≠ "" ∧ b.1 = a).getLast?).map (·.2)

namespace Sys

variable {names : Table Uuid String} {bonds : List (Uuid × String)} {a : Uuid}

/-- The startup answer overwrites. -/
theorem lookup_insertBonds :
    (insertBonds names bonds).lookup a = (bondNameOf bonds a).or (names.lookup a) := by
  unfold insertBonds bondNameOf
  induction bonds using List.reverseRecOn with
  | nil => rfl
  | append_singleton bonds b ih =>
    rw [List.foldl_append, List.foldl_cons, List.foldl_nil, List.filter_append]
    by_cases hn : b.2 = ""
    · rw [if_pos hn, ih]
      simp [hn]
    · rw [if_neg hn]
      by_cases ha : b.1 = a
      · subst ha
        simp [hn, Finmap.lookup_insert]
      · rw [Finmap.lookup_insert_of_ne _ (Ne.symm ha), ih]
        simp [ha]

/-- The answers at snapshots do not. -/
theorem lookup_refreshBonds {name : String} (h : names.lookup a = some name) :
    (refreshBonds names bonds).lookup a = some name := by
  unfold refreshBonds
  induction bonds generalizing names with
  | nil => exact h
  | cons b bonds ih =>
    rw [List.foldl_cons]
    apply ih
    split
    · exact h
    · split
      · exact h
      · next hb =>
        rw [Finmap.lookup_insert_of_ne _ ?_, h]
        rintro rfl
        exact hb (Finmap.mem_of_lookup_eq_some h)

end Sys

/-! ## A rename and what ends it -/

/-- The name a device with address `a` and UUID `u` was renamed to, until it reports another
one or a pairing of `a` brings one. -/
def standing (a u : Uuid) (st : Option String) : Option NameWrite → Option String
  | some (.rename w name) => if w = u then some name else st
  | some (.report addr name) => if addr = a ∧ st ≠ some name then none else st
  | some (.pair addr _) => if addr = a then none else st
  | _ => st

/-- While a rename stands, `bond_names` has its name for the address. -/
def NameStands (a : Uuid) (x : Sys × Option String) : Prop :=
  ∀ name, x.2 = some name → x.1.bondNames.lookup a = some name

/-- The device is renamed under its address or to the name the table has for it, no other
device is renamed under its address to another name, and no startup answer of a dongle has
another name for it. -/
def KeepsName (a u : Uuid) (x : Sys × Option String) (e : Event) : Prop :=
  (∀ name, x.1.nameWrite e = some (.rename u name) → u = a ∨ x.1.bondNames.lookup a = some name) ∧
  (∀ name w, x.1.nameWrite e = some (.rename w name) → w ≠ u → w = a → x.2 = none ∨ x.2 = some name) ∧
  ∀ bonds, x.1.nameWrite e = some (.startup bonds) →
    x.2 = none ∨ bondNameOf bonds a = none ∨ bondNameOf bonds a = x.2

def standingAfter (a u : Uuid) (s : Sys) (e : Event) (_ : Sys) (st : Option String) : Option String :=
  standing a u st (s.nameWrite e)

section
variable {a u : Uuid} {s s' : Sys} {st : Option String} {e : Event}

theorem nameStands_step (h : s.Step e s') (I : NameStands a (s, st)) (ok : KeepsName a u (s, st) e) :
    NameStands a (s', standingAfter a u s e s' st) := by
  intro name hst
  have hw := Sys.step_bondNames h
  obtain ⟨hren, hoth, hstart⟩ := ok
  change s'.bondNames.lookup a = some name
  rw [hw]
  simp only [standingAfter] at hst
  generalize hn : s.nameWrite e = w at *
  cases w with
  | none => exact I name hst
  | some w =>
    cases w with
    | rename v n =>
      simp only [standing] at hst
      simp only [Sys.written, NameWrite.apply]
      split at hst
      · next hv =>
        obtain rfl : n = name := Option.some.inj hst
        obtain rfl | hold := hren n (by rw [← hv])
        · rw [hv]
          exact Finmap.lookup_insert _
        · by_cases hav : a = v
          · rw [hav]
            exact Finmap.lookup_insert _
          · rw [Finmap.lookup_insert_of_ne _ hav]
            exact hold
      · next hv =>
        by_cases hav : v = a
        · obtain hno | hsame := hoth n v rfl hv hav
          · exact absurd (hno.symm.trans hst) (by simp)
          · rw [← hav, Finmap.lookup_insert]
            exact hsame.symm.trans hst
        · rw [Finmap.lookup_insert_of_ne _ (Ne.symm hav)]
          exact I name hst
    | report addr n =>
      simp only [standing] at hst
      simp only [Sys.written, NameWrite.apply]
      split at hst
      · cases hst
      · next hne =>
        by_cases haddr : addr = a
        · have hsame : st = some n := by
            by_contra hdiff
            exact hne ⟨haddr, hdiff⟩
          rw [← haddr, Finmap.lookup_insert]
          exact hsame.symm.trans hst
        · rw [Finmap.lookup_insert_of_ne _ (Ne.symm haddr)]
          exact I name hst
    | pair addr n =>
      simp only [standing] at hst
      simp only [Sys.written, NameWrite.apply]
      split at hst
      · cases hst
      · next haddr =>
        rw [Finmap.lookup_insert_of_ne _ (Ne.symm haddr)]
        exact I name hst
    | startup bonds =>
      simp only [Sys.written, NameWrite.apply, Sys.lookup_insertBonds]
      obtain hno | hno | hsame := hstart bonds rfl
      · exact absurd (hno.symm.trans hst) (by simp)
      · rw [hno]
        exact I name hst
      · rw [hsame]
        change (st.or _) = some name
        rw [show st = some name from hst]
        rfl
    | refresh bonds => exact Sys.lookup_refreshBonds (I name hst)

/-- A step outside the condition ends with another name in the table, or none. -/
theorem keepsName_of_stands (h : s.Step e s')
    (hP : NameStands a (s', standingAfter a u s e s' st)) : KeepsName a u (s, st) e := by
  have hw := Sys.step_bondNames h
  refine ⟨fun name hn => ?_, fun name w hn hwu hwa => ?_, fun bonds hn => ?_⟩
  · by_cases hua : u = a
    · exact .inl hua
    · refine .inr ?_
      have hP' := hP name (by simp [standingAfter, hn, standing])
      simp only [hw, hn, Sys.written, NameWrite.apply] at hP'
      rwa [Finmap.lookup_insert_of_ne _ (Ne.symm hua)] at hP'
  · cases hst : st with
    | none => exact .inl rfl
    | some n =>
      have hP' := hP n (by simp [standingAfter, hn, standing, hwu, hst])
      simp only [hw, hn, Sys.written, NameWrite.apply, hwa, Finmap.lookup_insert] at hP'
      exact .inr hP'.symm
  · cases hst : st with
    | none => exact .inl rfl
    | some n =>
      have hP' := hP n (by simp [standingAfter, hn, standing, hst])
      simp only [hw, hn, Sys.written, NameWrite.apply, Sys.lookup_insertBonds] at hP'
      cases hb : bondNameOf bonds a with
      | none => exact .inr (.inl rfl)
      | some n' =>
        rw [hb] at hP'
        exact .inr (.inr hP')

end

/-- **A rename stands** throughout a run exactly when the run renames the device under its
own address (or to the name already there), renames no other device under it, and starts
no manager whose dongle has another name for it. -/
theorem Sys.nameStands_iff (a u : Uuid) {tr : List (Event × (Sys × Option String))}
    (hrun : Exec (ghost Sys.Step (standingAfter a u)) (Sys.init, none) tr) :
    Always (NameStands a) (Sys.init, none) tr ↔ StepsOk (KeepsName a u) (Sys.init, none) tr := by
  refine hrun.always_iff (I := NameStands a) (fun _ I => I) ?_ ?_ (by simp [NameStands])
  · rintro ⟨s, st⟩ e ⟨s', st'⟩ I ok ⟨h, hst⟩
    obtain rfl : st' = standingAfter a u s e s' st := hst
    exact nameStands_step h I ok
  · rintro ⟨s, st⟩ e ⟨s', st'⟩ - ⟨h, hst⟩ hP
    obtain rfl : st' = standingAfter a u s e s' st := hst
    exact keepsName_of_stands h hP

/-- The gun behind the dongle is renamed over BLE. -/
def renamed : List Event :=
  muxed ++ [.forward, .forward, .handler 0 (.start 0 {}), .handler 0 (.recv {})]
    ++ List.replicate 7 (.handler 0 .perform)
    ++ [.request sampleUuid (.setDeviceName "New"), .deliver 0,
      .handler 0 (.recv { requestSetDeviceName := some (.ok true) })]
    ++ List.replicate 5 (.handler 0 .perform)

/-- The dongle is plugged in again, and its flash has the old name. -/
def replugged : List Event :=
  renamed ++ [.manager 0 .receiveError, .manager 0 (.unregister [sampleUuid]), .manager 0 .clean,
    .manager 0 .finish, .scan (.enumerate [{ sampleDongle with id := 7 }]), .scan (.cleanup []),
    .scan (.hub true),
    .manager 1 (.readVersions none (some (Version.of 0 1 1)) (some [(sampleUuid, "Old")]))]

/-- A run with the standing name of the gun, whose UUID is its address. -/
def nameRun (events : List Event) : List (Event × (Sys × Option String)) :=
  trace (ghostStep Sys.step (standingAfter sampleUuid sampleUuid)) (Sys.init, none) events

theorem nameRun_exec (events : List Event) :
    Exec (ghost Sys.Step (standingAfter sampleUuid sampleUuid)) (Sys.init, none) (nameRun events) :=
  exec_ghostStep (fun _ _ _ h => h) _ _ events

theorem Sys.nameStands_iff_renamed :
    (last (Sys.init, none) (nameRun renamed)).2 = some "New" ∧
      (Always (NameStands sampleUuid) (Sys.init, none) (nameRun renamed) ↔
        StepsOk (KeepsName sampleUuid sampleUuid) (Sys.init, none) (nameRun renamed)) :=
  ⟨by decide +kernel, Sys.nameStands_iff sampleUuid sampleUuid (nameRun_exec renamed)⟩

/-- The new manager's `list_bonds` puts the old name back. -/
theorem startup_undoes_rename :
    ¬ ∀ (a u : Uuid) (tr : List (Event × (Sys × Option String))),
      Exec (ghost Sys.Step (standingAfter a u)) (Sys.init, none) tr →
        Always (NameStands a) (Sys.init, none) tr := by
  intro hall
  have hfin := (hall sampleUuid sampleUuid _ (nameRun_exec replugged)).last
  have hst : (last (Sys.init, none) (nameRun replugged)).2 = some "New" := by decide +kernel
  have hold : (last (Sys.init, none) (nameRun replugged)).1.bondNames.lookup sampleUuid = some "Old" := by
    decide +kernel
  exact absurd (hold.symm.trans (hfin "New" hst)) (by decide)

end OdysseyHub
