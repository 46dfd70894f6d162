import OdysseyHub.Interface.AccessoryWire
import OdysseyHub.Server.AccessoryManager
import OdysseyHub.Server.DeviceList

/-!
# Accessory links (accessories.rs)

A scan spawns a notification task only where it connects an accessory itself and every step
of the set-up succeeds; the status it records is what `is_connected` says at the end.  The
history variable `listening` holds the types of the tasks spawned in the connection of an
accessory.  A connected accessory is heard in exactly the runs in which every scan that
sets up nothing finds the task of an earlier one, or records no connection
(`connected_heard_iff`).
-/

namespace OdysseyHub

open Transition

/-! ## The notification task -/

/-- The value of a notification is a shot. -/
def AccessoryType.isShot : AccessoryType → List UInt8 → Bool
  | .dryFireMag, _ => true
  | .mantisX, value => value == [0x01]

/-- The device an accessory is assigned to, if it is listed. -/
def assignedDevice (info : AccessoryInfoMap) (dl : DeviceList) (id : Uuid) : Option Device :=
  ((info.lookup id).bind (·.assignment)).bind fun assignment =>
    (dl.find? fun d => d.1.uuid == Proto.key6 assignment.val).map (·.1)

/-- The device for which the task of a type forwards an impact. -/
def AccessoryType.forward (ty : AccessoryType) (info : AccessoryInfoMap) (dl : DeviceList) (id : Uuid)
    (uuid : BitVec 128) (value : List UInt8) : Option Device :=
  if uuid == targetCharUuid ty && ty.isShot value then assignedDevice info dl id else none

/-! ## One peripheral -/

/-- A peripheral, with whether the connection it was left in is still the current one. -/
structure LinkedPeripheral extends Peripheral where
  linkKept : Bool := true
  deriving DecidableEq, Repr

namespace LinkedPeripheral

/-- The scan connects the accessory and spawns a task. -/
def setsUp (p : LinkedPeripheral) (ty : AccessoryType) : Bool :=
  !p.isConnected && p.connect && p.discoverServices && p.characteristics.contains (targetCharUuid ty)
    && p.subscribe && p.notifications

/-- The tasks of the connection the scan starts with. -/
def kept (p : LinkedPeripheral) (listening : Finset AccessoryType) : Finset AccessoryType :=
  if p.linkKept then listening else ∅

/-- … and of the one it ends with. -/
def listening (p : LinkedPeripheral) (ty : AccessoryType) (old : Finset AccessoryType) : Finset AccessoryType :=
  if p.setsUp ty then insert ty (p.kept old) else p.kept old

end LinkedPeripheral

/-! ## The manager with its links -/

structure AccessoryLinks where
  manager : AccessoryManager
  /-- the types of the tasks spawned in the connection of each accessory -/
  listening : Uuid → Finset AccessoryType

inductive AccessoryLinkEvent
  | infoChanged (info : AccessoryInfoMap)
  | scanComplete (byMac : HashMap Uuid LinkedPeripheral)

namespace AccessoryLinks

def start (info : AccessoryInfoMap) : AccessoryLinks :=
  { manager := .start info, listening := fun _ => ∅ }

/-- The peripherals as the manager sees them. -/
def peripherals (byMac : HashMap Uuid LinkedPeripheral) : HashMap Uuid Peripheral :=
  byMac.mapValues fun _ p => p.toPeripheral

/-- The tasks of an accessory after a scan. -/
def listeningAfter (s : AccessoryLinks) (byMac : HashMap Uuid LinkedPeripheral) (id : Uuid) : Finset AccessoryType :=
  match s.manager.infoMap.lookup id, byMac.lookup id with
  | some info, some p => p.listening info.ty (s.listening id)
  | _, _ => s.listening id

def next (s : AccessoryLinks) : AccessoryLinkEvent → AccessoryLinks
  | .infoChanged info => { s with manager := s.manager.infoChanged info }
  | .scanComplete byMac =>
    { manager := s.manager.scanComplete (peripherals byMac), listening := s.listeningAfter byMac }

def Step (s : AccessoryLinks) (e : AccessoryLinkEvent) (s' : AccessoryLinks) : Prop := s.next e = s'

/-- The tasks `listening` forward every shot of an accessory of type `ty`. -/
def Forwarded (listening : Finset AccessoryType) (id : Uuid) (ty : AccessoryType) : Prop :=
  ∀ (info : AccessoryInfoMap) (dl : DeviceList) (value : List UInt8) (device : Device),
    ty.isShot value = true → assignedDevice info dl id = some device →
    ∃ t ∈ listening, t.forward info dl id (targetCharUuid ty) value = some device

/-- An accessory recorded connected has a task for its target characteristic, spawned in the
current connection, and its shots are forwarded. -/
def Heard (s : AccessoryLinks) : Prop :=
  ∀ id, s.manager.lastStatuses.lookup id = some true → ∃ info, s.manager.infoMap.lookup id = some info ∧
    info.ty ∈ s.listening id ∧ Forwarded (s.listening id) id info.ty

/-- What a scan of one accessory must not do: find it in a connection without a task of its
type, leave it in one after a failed set-up, or keep its status so. -/
structure ScanSound (p : LinkedPeripheral) (ty : AccessoryType) (listening : Finset AccessoryType)
    (status : Option Bool) : Prop where
  found : p.isConnected = true → ty ∈ p.kept listening
  failed : p.isConnected = false → p.setsUp ty = false → p.streamFails ty = false → p.connectedAfter = true →
    ty ∈ p.kept listening
  skipped : p.isConnected = false → p.streamFails ty = true → status = some true → ty ∈ p.kept listening

/-- No accessory recorded connected changes to a type without a task. -/
def Sound (s : AccessoryLinks) : AccessoryLinkEvent → Prop
  | .infoChanged info => ∀ id i, info.lookup id = some i → s.manager.lastStatuses.lookup id = some true →
      i.ty ∈ s.listening id
  | .scanComplete byMac => ∀ id info p, s.manager.infoMap.lookup id = some info → byMac.lookup id = some p →
      ScanSound p info.ty (s.listening id) (s.manager.lastStatuses.lookup id)

/-! ## A task forwards the shots of its type -/

theorem forwarded_of_mem {listening : Finset AccessoryType} {id : Uuid} {ty : AccessoryType} (h : ty ∈ listening) :
    Forwarded listening id ty := by
  intro info dl value device hshot hdev
  refine ⟨ty, h, ?_⟩
  unfold AccessoryType.forward
  rw [hshot, beq_self_eq_true]
  exact hdev

/-- `Heard` for one accessory, from its task alone. -/
theorem heard_of_task {s : AccessoryLinks} (h : ∀ id, s.manager.lastStatuses.lookup id = some true →
    ∃ info, s.manager.infoMap.lookup id = some info ∧ info.ty ∈ s.listening id) : s.Heard := by
  intro id hid
  obtain ⟨info, hinfo, hty⟩ := h id hid
  exact ⟨info, hinfo, hty, forwarded_of_mem hty⟩

/-! ## One accessory -/

section
variable {p : LinkedPeripheral} {ty : AccessoryType} {listening : Finset AccessoryType} {status : Option Bool}

theorem listening_of_not_setsUp (h : p.setsUp ty = false) : p.listening ty listening = p.kept listening := by
  unfold LinkedPeripheral.listening
  rw [h, if_neg Bool.false_ne_true]

/-- A set-up that succeeds has a notification stream. -/
theorem streamFails_of_setsUp (h : p.setsUp ty = true) : p.streamFails ty = false := by
  unfold LinkedPeripheral.setsUp at h
  unfold Peripheral.streamFails
  rw [(Bool.and_eq_true_iff.mp h).2, Bool.not_true, Bool.and_false]

/-- The status a scan leaves comes with a task exactly if the scan is sound. -/
theorem scanned_heard_iff :
    ((p.status ty).or status = some true → ty ∈ p.listening ty listening) ↔ ScanSound p ty listening status := by
  unfold Peripheral.status
  by_cases hc : p.isConnected = true
  · have hnot : p.setsUp ty = false := by simp [LinkedPeripheral.setsUp, hc]
    rw [if_pos hc, listening_of_not_setsUp hnot]
    constructor
    · intro h
      refine ⟨fun _ => h rfl, fun hf => ?_, fun hf => ?_⟩
      · exact absurd hc (hf ▸ Bool.false_ne_true)
      · exact absurd hc (hf ▸ Bool.false_ne_true)
    · intro h _
      exact h.found hc
  · have hnc : p.isConnected = false := Bool.eq_false_iff.mpr hc
    rw [if_neg hc]
    by_cases hup : p.setsUp ty = true
    · have hmem : ty ∈ p.listening ty listening := by
        unfold LinkedPeripheral.listening
        rw [if_pos hup]
        exact Finset.mem_insert_self ty _
      have hstream := streamFails_of_setsUp hup
      refine iff_of_true (fun _ => hmem) ⟨fun h => absurd h hc, fun _ h => ?_, fun _ h => ?_⟩
      · exact absurd hup (h ▸ Bool.false_ne_true)
      · exact absurd h (hstream ▸ Bool.false_ne_true)
    · have hdown : p.setsUp ty = false := Bool.eq_false_iff.mpr hup
      rw [listening_of_not_setsUp hdown]
      by_cases hst : p.streamFails ty = true
      · rw [if_pos hst, Option.none_or]
        constructor
        · intro h
          exact ⟨fun h => absurd h hc, fun _ _ hf => absurd hst (hf ▸ Bool.false_ne_true), fun _ _ => h⟩
        · intro h
          exact h.skipped hnc hst
      · rw [if_neg hst, Option.some_or]
        constructor
        · intro h
          exact ⟨fun h => absurd h hc, fun _ _ _ hafter => h (congrArg some hafter), fun _ h => absurd h hst⟩
        · intro h hafter
          exact h.failed hnc hdown (Bool.eq_false_iff.mpr hst) (Option.some.inj hafter)

end

/-! ## Steps and runs -/

variable {s s' : AccessoryLinks}

theorem lookup_peripherals (byMac : HashMap Uuid LinkedPeripheral) (id : Uuid) :
    (peripherals byMac).lookup id = (byMac.lookup id).map fun p => p.toPeripheral :=
  HashMap.lookup_mapValues _ byMac id

/-- A scan that finds an accessory. -/
theorem scan_found {byMac : HashMap Uuid LinkedPeripheral} {id : Uuid} {info : AccessoryInfo} {p : LinkedPeripheral}
    (hinfo : s.manager.infoMap.lookup id = some info) (hp : byMac.lookup id = some p) :
    (s.next (.scanComplete byMac)).manager.lastStatuses.lookup id =
        (p.status info.ty).or (s.manager.lastStatuses.lookup id) ∧
      (s.next (.scanComplete byMac)).listening id = p.listening info.ty (s.listening id) := by
  constructor
  · show (s.manager.scanComplete (peripherals byMac)).lastStatuses.lookup id = _
    rw [AccessoryManager.lookup_scanComplete]
    unfold AccessoryManager.scanned
    rw [hinfo, lookup_peripherals, hp]
    rfl
  · show s.listeningAfter byMac id = _
    unfold listeningAfter
    rw [hinfo, hp]

/-- An accessory connected after a scan has been found, or is none of the manager's. -/
theorem found_of_connected {byMac : HashMap Uuid LinkedPeripheral} {id : Uuid}
    (h : (s.next (.scanComplete byMac)).manager.lastStatuses.lookup id = some true) :
    (s.manager.infoMap.lookup id = none ∧ s.manager.lastStatuses.lookup id = some true) ∨
      ∃ info p, s.manager.infoMap.lookup id = some info ∧ byMac.lookup id = some p := by
  replace h : (s.manager.scanComplete (peripherals byMac)).lastStatuses.lookup id = some true := h
  rw [AccessoryManager.lookup_scanComplete] at h
  unfold AccessoryManager.scanned at h
  rw [lookup_peripherals] at h
  cases hinfo : s.manager.infoMap.lookup id with
  | none =>
    rw [hinfo] at h
    exact .inl ⟨rfl, h⟩
  | some info =>
    cases hp : byMac.lookup id with
    | none =>
      rw [hinfo, hp] at h
      cases h
    | some p => exact .inr ⟨info, p, rfl, rfl⟩

theorem scan_heard_iff (h : s.Heard) (byMac : HashMap Uuid LinkedPeripheral) :
    (s.next (.scanComplete byMac)).Heard ↔ s.Sound (.scanComplete byMac) := by
  constructor
  · intro h' id info p hinfo hp
    obtain ⟨hstatus, hlistening⟩ := scan_found hinfo hp
    refine scanned_heard_iff.mp fun hst => ?_
    obtain ⟨info', hinfo', hty, -⟩ := h' id (hstatus.trans hst)
    obtain rfl : info' = info := Option.some.inj (hinfo'.symm.trans hinfo)
    exact hlistening ▸ hty
  · intro hsound
    refine heard_of_task fun id hst => ?_
    rcases found_of_connected hst with ⟨hnone, hold⟩ | ⟨info, p, hinfo, hp⟩
    · -- nobody else has a status
      obtain ⟨info, hinfo, -⟩ := h id hold
      rw [hnone] at hinfo
      cases hinfo
    · obtain ⟨hstatus, hlistening⟩ := scan_found hinfo hp
      refine ⟨info, hinfo, ?_⟩
      rw [hlistening]
      exact scanned_heard_iff.mpr (hsound id info p hinfo hp) (hstatus.symm.trans hst)

theorem info_heard_iff (info : AccessoryInfoMap) :
    (s.next (.infoChanged info)).Heard ↔ s.Sound (.infoChanged info) := by
  have hstatus : ∀ id, (s.next (.infoChanged info)).manager.lastStatuses.lookup id = some true ↔
      id ∈ info ∧ s.manager.lastStatuses.lookup id = some true := by
    intro id
    show (s.manager.infoChanged info).lastStatuses.lookup id = some true ↔ _
    rw [AccessoryManager.lookup_infoChanged]
    by_cases hid : id ∈ info
    · rw [if_pos hid]
      cases s.manager.lastStatuses.lookup id with
      | none => simp
      | some b => simp [hid]
    · rw [if_neg hid]
      simp [hid]
  constructor
  · intro h id i hi hst
    obtain ⟨i', hi', hty, -⟩ := h id ((hstatus id).mpr ⟨(info.mem_iff_lookup id).mpr ⟨i, hi⟩, hst⟩)
    obtain rfl : i' = i := Option.some.inj (hi'.symm.trans hi)
    exact hty
  · intro hsound
    refine heard_of_task fun id hst => ?_
    obtain ⟨hid, hold⟩ := (hstatus id).mp hst
    obtain ⟨i, hi⟩ := (info.mem_iff_lookup id).mp hid
    exact ⟨i, hi, hsound id i hi hold⟩

/-- **One step.** -/
theorem next_heard_iff (h : s.Heard) (e : AccessoryLinkEvent) : (s.next e).Heard ↔ s.Sound e := by
  cases e with
  | infoChanged info => exact info_heard_iff info
  | scanComplete byMac => exact scan_heard_iff h byMac

theorem heard_start (info : AccessoryInfoMap) : (start info).Heard :=
  fun id hst => absurd hst (AccessorySys.statuses_start info id)

/-- **Accessory links.**  Throughout a run of the manager every accessory recorded connected is
heard exactly when all steps are sound. -/
theorem connected_heard_iff {info : AccessoryInfoMap} {tr : List (AccessoryLinkEvent × AccessoryLinks)}
    (hrun : Exec Step (start info) tr) : Always Heard (start info) tr ↔ StepsOk Sound (start info) tr := by
  refine hrun.always_iff (fun s h => h) ?_ ?_ (heard_start info)
  · rintro s e _ h hok rfl
    exact (next_heard_iff h e).mpr hok
  · rintro s e _ h rfl h'
    exact (next_heard_iff h e).mp h'

/-! ## A magazine in two scans -/

/-- The magazine is in reach, not connected, and offers its characteristic. -/
def magInReach : LinkedPeripheral :=
  { characteristics := [targetCharUuid .dryFireMag], connectedAfter := true, linkKept := false }

def scanOf (p : LinkedPeripheral) : AccessoryLinkEvent := .scanComplete (AList.singleton Accessories.sampleKey p)

def magLinks (es : List AccessoryLinkEvent) : List (AccessoryLinkEvent × AccessoryLinks) :=
  trace (fun s e => some (s.next e)) (start AccessorySys.oneMag) es

theorem magLinks_exec (es : List AccessoryLinkEvent) : Exec Step (start AccessorySys.oneMag) (magLinks es) := by
  have hstep : ∀ s e s', some (next s e) = some s' → Step s e s' := fun _ _ _ h => Option.some.inj h
  exact exec_trace hstep _ es

/-- A scan of the magazine alone. -/
theorem sound_scanOf {p : LinkedPeripheral}
    (h : ScanSound p .dryFireMag (s.listening Accessories.sampleKey)
      (s.manager.lastStatuses.lookup Accessories.sampleKey))
    (hs : s.manager.infoMap = AccessorySys.oneMag) : s.Sound (scanOf p) := by
  intro id info q hinfo hq
  obtain ⟨rfl, rfl⟩ := HashMap.eq_of_lookup_singleton hq
  rw [hs] at hinfo
  obtain ⟨-, rfl⟩ := HashMap.eq_of_lookup_singleton hinfo
  exact h

/-- The first scan sets the magazine up, the second finds it connected. -/
theorem connected_heard_iff_setUp :
    Always Heard (start AccessorySys.oneMag) (magLinks [scanOf magInReach, scanOf { isConnected := true }]) := by
  refine (connected_heard_iff (magLinks_exec _)).mpr ⟨sound_scanOf ?_ rfl, sound_scanOf ?_ rfl, trivial⟩
  · exact ⟨by decide +kernel, by decide +kernel, by decide +kernel⟩
  · exact ⟨by decide +kernel, by decide +kernel, by decide +kernel⟩

/-- The services are not discovered, and the link stays up. -/
theorem undiscovered_mag_unheard :
    ¬ ∀ (info : AccessoryInfoMap) (tr : List (AccessoryLinkEvent × AccessoryLinks)),
      Exec Step (start info) tr → Always Heard (start info) tr := by
  intro hall
  have hheard := (hall _ _ (magLinks_exec [scanOf { magInReach with discoverServices := false }])).last
  obtain ⟨info, hinfo, hty, -⟩ := hheard Accessories.sampleKey (by decide +kernel)
  cases hty

end AccessoryLinks

end OdysseyHub
