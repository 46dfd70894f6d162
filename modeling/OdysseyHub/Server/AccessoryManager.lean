import OdysseyHub.Lib.Slots
import OdysseyHub.Server.Accessories

/-!
# Accessory manager (accessories.rs)

The manager scans the peripherals, keeps the connection of every configured accessory in
`last_statuses` and broadcasts it with the infos.  The RPCs answer from `accessory_map`,
whose flags no scan writes.  The two agree in runs in which no scan leaves an
accessory connected (`agrees_of_noneConnected`).
-/

namespace OdysseyHub

open Slots Transition

/-! ## One peripheral -/

def nusTxUuid : BitVec 128 := 0x6e400003b5a3f393e0a9e50e24dcca9e#128

def mantisShotCharUuid : BitVec 128 := 0x6e40000e204d616e7469732054656368#128

def targetCharUuid : AccessoryType → BitVec 128
  | .dryFireMag => nusTxUuid
  | .mantisX => mantisShotCharUuid

/-- What a peripheral answers during one scan: each `Bool` is an `Ok`, or the value of
`is_connected` (an error counts as `false`). -/
structure Peripheral where
  isConnected : Bool := false
  connect : Bool := true
  discoverServices : Bool := true
  characteristics : List (BitVec 128) := []
  subscribe : Bool := true
  notifications : Bool := true
  /-- `is_connected` again, after the attempt -/
  connectedAfter : Bool := false
  deriving DecidableEq, Repr

/-- The attempt gets as far as the notification stream, and not further. -/
def Peripheral.streamFails (p : Peripheral) (ty : AccessoryType) : Bool :=
  p.connect && p.discoverServices && p.characteristics.contains (targetCharUuid ty)
    && p.subscribe && !p.notifications

/-- The status a scan records; without a notification stream it goes on to the next
accessory and records nothing. -/
def Peripheral.status (p : Peripheral) (ty : AccessoryType) : Option Bool :=
  if p.isConnected then some true
  else if p.streamFails ty then none
  else some p.connectedAfter

/-! ## The task -/

structure AccessoryManager where
  infoMap : AccessoryInfoMap
  lastStatuses : HashMap Uuid Bool

namespace AccessoryManager

/-- The state the loop is entered in. -/
def start (info : AccessoryInfoMap) : AccessoryManager :=
  { infoMap := info, lastStatuses := info.mapValues fun _ _ => false }

/-- `AccessoryEvent::InfoChanged` -/
def infoChanged (m : AccessoryManager) (info : AccessoryInfoMap) : AccessoryManager :=
  { infoMap := info
    lastStatuses := (m.lastStatuses.retainKeys fun id => decide (id ∈ info)).orInsertKeys false info }

/-- `AccessoryEvent::ScanComplete`, with the peripherals that were found. -/
def scanComplete (m : AccessoryManager) (byMac : HashMap Uuid Peripheral) : AccessoryManager :=
  { m with
    lastStatuses := m.lastStatuses.visit
      (fun id info _ =>
        match byMac.lookup id with
        | some p => p.status info.ty
        | none => some false) m.infoMap.entries }

/-- `send_if_changed` -/
def sendIfChanged (m : AccessoryManager) : AccessoryMap :=
  m.infoMap.mapValues fun id info => (info, (m.lastStatuses.lookup id).getD false)

end AccessoryManager

/-! ## The task and the RPCs -/

/-- A call of `update_accessory_info_map` that has saved its map and read back `fresh`: it
has told the watchers, or also merged. -/
inductive AccessoryUpdate
  | informed (fresh : AccessoryInfoMap)
  | merged

inductive AccessoryCaster
  | manager | update
  deriving DecidableEq, Repr

structure AccessorySys where
  /-- the `accessory_info` watch channel, and whether the manager has a value to see -/
  info : AccessoryInfoMap
  unseen : Bool
  /-- `Server::accessory_map` -/
  map : AccessoryMap
  updates : List AccessoryUpdate
  manager : Option AccessoryManager
  /-- what `accessory_map_sender` sent, latest first -/
  broadcasts : List (AccessoryCaster × AccessoryMap)

inductive AccessoryEvent
  | start
  | infoChanged
  | scanComplete (byMac : HashMap Uuid Peripheral)
  | inform (fresh : AccessoryInfoMap)
  | merge (i : Nat)
  | broadcast (i : Nat)

namespace AccessorySys

/-- `run_server` -/
def init (info : AccessoryInfoMap) : AccessorySys :=
  { info := info, unseen := false, map := info.mapValues fun _ v => (v, false), updates := []
    manager := none, broadcasts := [] }

/-- `accessory_map_snapshot()`, for `get_accessory_map` and `subscribe_accessory_map`. -/
def snapshot (s : AccessorySys) : AccessoryMap := s.map

/-- The manager takes on a state and broadcasts it. -/
def manage (s : AccessorySys) (m : AccessoryManager) : AccessorySys :=
  { s with manager := some m, broadcasts := (.manager, m.sendIfChanged) :: s.broadcasts }

/-- The last map the manager broadcast. -/
def sent (s : AccessorySys) : Option AccessoryMap :=
  (s.broadcasts.find? fun b => b.1 = .manager).map (·.2)

def next (s : AccessorySys) : AccessoryEvent → Option AccessorySys
  | .start =>
    match s.manager with
    -- the `WatchStream` gives the value it starts with once more
    | none => some { s.manage (.start s.info) with unseen := true }
    | some _ => none
  | .infoChanged =>
    match s.manager, s.unseen with
    | some m, true => some { s.manage (m.infoChanged s.info) with unseen := false }
    | _, _ => none
  | .scanComplete byMac => s.manager.map fun m => s.manage (m.scanComplete byMac)
  | .inform fresh =>
    some { s with info := fresh, unseen := true, updates := s.updates ++ [.informed fresh] }
  | .merge i =>
    match s.updates[i]? with
    | some (.informed fresh) =>
      some { s with map := s.map.merge Accessories.keepFlag fresh, updates := s.updates.set i .merged }
    | _ => none
  | .broadcast i =>
    match s.updates[i]? with
    | some .merged =>
      some { s with updates := s.updates.eraseIdx i, broadcasts := (.update, s.snapshot) :: s.broadcasts }
    | _ => none

def Step (s : AccessorySys) (e : AccessoryEvent) (s' : AccessorySys) : Prop := s.next e = some s'

end AccessorySys

/-! ## What the operations do to one accessory -/

/-- The connected flag of an accessory. -/
def AccessoryMap.flag (m : AccessoryMap) (id : Uuid) : Option Bool := (m.lookup id).map (·.2)

namespace AccessoryManager

variable {m : AccessoryManager} {id : Uuid}

theorem lookup_infoChanged (info : AccessoryInfoMap) :
    (m.infoChanged info).lastStatuses.lookup id =
      if id ∈ info then some ((m.lastStatuses.lookup id).getD false) else none := by
  show (HashMap.orInsertKeys false _ info).lookup id = _
  rw [HashMap.lookup_orInsertKeys, HashMap.lookup_retainKeys]
  by_cases hid : id ∈ info
  · simp [hid]
  · simp [hid]

/-- The status a scan gives to an accessory, if it records one. -/
def scanned (m : AccessoryManager) (byMac : HashMap Uuid Peripheral) (id : Uuid) : Option Bool :=
  (m.infoMap.lookup id).bind fun info =>
    match byMac.lookup id with
    | some p => p.status info.ty
    | none => some false

theorem lookup_scanComplete (byMac : HashMap Uuid Peripheral) :
    (m.scanComplete byMac).lastStatuses.lookup id =
      (m.scanned byMac id).or (m.lastStatuses.lookup id) :=
  HashMap.lookup_visit _ _ m.infoMap.nodupKeys id

theorem flag_sendIfChanged :
    m.sendIfChanged.flag id =
      if id ∈ m.infoMap then some ((m.lastStatuses.lookup id).getD false) else none := by
  unfold AccessoryMap.flag sendIfChanged
  rw [HashMap.lookup_mapValues]
  by_cases hid : id ∈ m.infoMap
  · obtain ⟨info, hi⟩ := (m.infoMap.mem_iff_lookup id).mp hid
    rw [hi, if_pos hid]
    rfl
  · rw [AList.lookup_eq_none.mpr hid, if_neg hid]
    rfl

end AccessoryManager

/-! ## Agreement -/

/-- The scan finds the peripheral connected, or connects it. -/
def Peripheral.EndsConnected (p : Peripheral) (ty : AccessoryType) : Prop :=
  p.isConnected = true ∨ (p.streamFails ty = false ∧ p.connectedAfter = true)

theorem Peripheral.status_eq_true_iff {p : Peripheral} {ty : AccessoryType} :
    p.status ty = some true ↔ p.EndsConnected ty := by
  unfold status EndsConnected
  by_cases hc : p.isConnected = true
  · simp [hc]
  · by_cases hs : p.streamFails ty = true
    · simp [hc, hs]
    · simp [hc, hs]

/-- An update that is still to merge the accessory. -/
def AccessoryUpdate.Brings (id : Uuid) : AccessoryUpdate → Prop
  | .informed fresh => id ∈ fresh
  | .merged => False

namespace AccessorySys

variable {s s' : AccessorySys}

/-- No broadcast is in flight: every update is through, and the manager has seen the infos. -/
def Quiet (s : AccessorySys) : Prop := s.updates = [] ∧ s.unseen = false

/-- In a quiet state the two report one flag for every configured accessory. -/
def Agrees (s : AccessorySys) : Prop :=
  s.Quiet → ∀ sent, s.sent = some sent → ∀ id ∈ s.info, s.snapshot.flag id = sent.flag id

/-- A scan leaves no accessory of the manager connected. -/
def NoneConnected (s : AccessorySys) : AccessoryEvent → Prop
  | .scanComplete byMac =>
    ∀ m, s.manager = some m → ∀ id info p, m.infoMap.lookup id = some info →
      byMac.lookup id = some p → ¬ p.EndsConnected info.ty
  | _ => True

/-- What every run keeps. -/
structure Wf (s : AccessorySys) : Prop where
  flags : ∀ id, s.map.flag id ≠ some true
  merged : ∀ id ∈ s.info, id ∈ s.map ∨ ∃ u ∈ s.updates, u.Brings id
  seen : s.unseen = false → ∀ m, s.manager = some m → m.infoMap = s.info
  sent : s.sent = s.manager.map AccessoryManager.sendIfChanged

/-- … and, while nothing connects, no status is `true`. -/
structure Inv (s : AccessorySys) : Prop extends Wf s where
  statuses : ∀ m, s.manager = some m → ∀ id, m.lastStatuses.lookup id ≠ some true

@[simp] theorem sent_manage (m : AccessoryManager) : (s.manage m).sent = some m.sendIfChanged := rfl

theorem Wf.manage (hs : s.Wf) {m : AccessoryManager} {b : Bool}
    (hseen : b = false → m.infoMap = s.info) : Wf { s.manage m with unseen := b } where
  flags := hs.flags
  merged := hs.merged
  seen hb m' hm := by
    cases hm
    exact hseen hb
  sent := rfl

theorem flag_merge (m : AccessoryMap) (fresh : AccessoryInfoMap) (id : Uuid) :
    AccessoryMap.flag (m.merge Accessories.keepFlag fresh) id =
      if id ∈ fresh then some ((m.flag id).getD false) else m.flag id := by
  unfold AccessoryMap.flag
  rw [Accessories.lookup_keepFlag]
  by_cases hid : id ∈ fresh
  · obtain ⟨info, hi⟩ := (fresh.mem_iff_lookup id).mp hid
    rw [hi, if_pos hid]
    rfl
  · rw [AList.lookup_eq_none.mpr hid, if_neg hid]
    rfl

theorem mem_iff_flag (m : AccessoryMap) (id : Uuid) : id ∈ m ↔ (m.flag id).isSome := by
  rw [AccessoryMap.flag, Option.isSome_map, AList.lookup_isSome]

/-- The accessories of an update in flight are those of the map it has read back. -/
theorem Wf.inform (hs : s.Wf) (fresh : AccessoryInfoMap) :
    Wf { s with info := fresh, unseen := true, updates := s.updates ++ [.informed fresh] } where
  flags := hs.flags
  merged id hid := .inr ⟨.informed fresh, by simp, hid⟩
  seen hb := by cases hb
  sent := hs.sent

theorem Wf.merge (hs : s.Wf) {i : Nat} {fresh : AccessoryInfoMap}
    (hi : s.updates[i]? = some (.informed fresh)) :
    Wf { s with map := s.map.merge Accessories.keepFlag fresh, updates := s.updates.set i .merged } where
  flags id := by
    show AccessoryMap.flag (s.map.merge Accessories.keepFlag fresh) id ≠ some true
    have hflag := hs.flags id
    rw [flag_merge]
    split
    · cases hc : s.map.flag id with
      | none => simp
      | some c =>
        rw [hc] at hflag
        simpa using hflag
    · exact hflag
  merged id hid := by
    show id ∈ s.map.merge Accessories.keepFlag fresh ∨ ∃ u ∈ s.updates.set i .merged, u.Brings id
    rw [mem_iff_flag, flag_merge]
    by_cases hf : id ∈ fresh
    · left
      rw [if_pos hf]
      rfl
    · rw [if_neg hf, ← mem_iff_flag]
      -- the update that merges does not bring `id`
      exact (hs.merged id hid).imp_right fun h =>
        exists_mem_set_of_eraseIdx (exists_mem_eraseIdx hi hf h)
  seen := hs.seen
  sent := hs.sent

theorem Wf.broadcast (hs : s.Wf) {i : Nat} (hi : s.updates[i]? = some .merged) (m : AccessoryMap) :
    Wf { s with updates := s.updates.eraseIdx i, broadcasts := (.update, m) :: s.broadcasts } where
  flags := hs.flags
  merged id hid := (hs.merged id hid).imp_right fun h =>
    exists_mem_eraseIdx hi (fun hb => hb) h
  seen := hs.seen
  sent := hs.sent

/-- `next`, with the guards of each case. -/
inductive Moved (s : AccessorySys) : AccessoryEvent → AccessorySys → Prop
  | start (hm : s.manager = none) : Moved s .start { s.manage (.start s.info) with unseen := true }
  | infoChanged {m : AccessoryManager} (hm : s.manager = some m) :
      Moved s .infoChanged { s.manage (m.infoChanged s.info) with unseen := false }
  | scanComplete {m : AccessoryManager} (hm : s.manager = some m) (byMac : HashMap Uuid Peripheral) :
      Moved s (.scanComplete byMac) (s.manage (m.scanComplete byMac))
  | inform (fresh : AccessoryInfoMap) :
      Moved s (.inform fresh) { s with info := fresh, unseen := true, updates := s.updates ++ [.informed fresh] }
  | merge {i : Nat} {fresh : AccessoryInfoMap} (hi : s.updates[i]? = some (.informed fresh)) :
      Moved s (.merge i) { s with map := s.map.merge Accessories.keepFlag fresh, updates := s.updates.set i .merged }
  | broadcast {i : Nat} (hi : s.updates[i]? = some .merged) :
      Moved s (.broadcast i)
        { s with updates := s.updates.eraseIdx i, broadcasts := (.update, s.snapshot) :: s.broadcasts }

theorem step_cases {e : AccessoryEvent} (h : Step s e s') : Moved s e s' := by
  unfold Step next at h
  cases e with
  | start =>
    dsimp only at h
    split at h
    · next hm =>
      cases h
      exact .start hm
    · cases h
  | infoChanged =>
    dsimp only at h
    split at h
    · next m hm _ =>
      cases h
      exact .infoChanged hm
    · cases h
  | scanComplete byMac =>
    obtain ⟨m, hm, rfl⟩ := Option.map_eq_some_iff.mp h
    exact .scanComplete hm byMac
  | inform fresh =>
    cases h
    exact .inform fresh
  | merge i =>
    dsimp only at h
    split at h
    · next fresh hi =>
      cases h
      exact .merge hi
    · cases h
  | broadcast i =>
    dsimp only at h
    split at h
    · next hi =>
      cases h
      exact .broadcast hi
    · cases h

theorem Wf.step (hs : s.Wf) {e : AccessoryEvent} (h : Step s e s') : s'.Wf := by
  cases step_cases h with
  | start hm => exact hs.manage fun hb => by cases hb
  | infoChanged hm => exact hs.manage fun _ => rfl
  | @scanComplete m hm byMac => exact hs.manage fun hb => hs.seen hb m hm
  | inform fresh => exact hs.inform fresh
  | merge hi => exact hs.merge hi
  | broadcast hi => exact hs.broadcast hi s.snapshot

theorem wf_init (info : AccessoryInfoMap) : (init info).Wf where
  flags id := by
    show AccessoryMap.flag (info.mapValues fun _ v => (v, false)) id ≠ some true
    unfold AccessoryMap.flag
    rw [HashMap.lookup_mapValues]
    cases info.lookup id with
    | none => simp
    | some i => simp
  merged id hid := by
    left
    show id ∈ HashMap.mapValues (fun _ v => (v, false)) info
    obtain ⟨i, hi⟩ := (info.mem_iff_lookup id).mp hid
    rw [HashMap.mem_iff_lookup]
    exact ⟨(i, false), by rw [HashMap.lookup_mapValues, hi]; rfl⟩
  seen _ m hm := by cases hm
  sent := rfl

/-! ## Statuses -/

section
variable {m : AccessoryManager}

theorem statuses_start (info : AccessoryInfoMap) (id : Uuid) :
    (AccessoryManager.start info).lastStatuses.lookup id ≠ some true := by
  show (HashMap.mapValues (fun _ _ => false) info).lookup id ≠ some true
  rw [HashMap.lookup_mapValues]
  cases info.lookup id with
  | none => simp
  | some i => simp

theorem statuses_infoChanged (info : AccessoryInfoMap)
    (hm : ∀ id, m.lastStatuses.lookup id ≠ some true) (id : Uuid) :
    (m.infoChanged info).lastStatuses.lookup id ≠ some true := by
  have hid := hm id
  rw [AccessoryManager.lookup_infoChanged]
  split
  · cases hc : m.lastStatuses.lookup id with
    | none => simp
    | some c =>
      rw [hc] at hid
      simpa using hid
  · simp

/-- A scan records `true` exactly for the peripherals that end connected. -/
theorem scanned_eq_true_iff {byMac : HashMap Uuid Peripheral} {id : Uuid} :
    m.scanned byMac id = some true ↔ ∃ info p, m.infoMap.lookup id = some info ∧
      byMac.lookup id = some p ∧ p.EndsConnected info.ty := by
  unfold AccessoryManager.scanned
  constructor
  · intro h
    obtain ⟨info, hi, hst⟩ := Option.bind_eq_some_iff.mp h
    split at hst
    · next p hp => exact ⟨info, p, hi, hp, Peripheral.status_eq_true_iff.mp hst⟩
    · cases hst
  · rintro ⟨info, p, hi, hp, hc⟩
    rw [hi, hp]
    exact Peripheral.status_eq_true_iff.mpr hc

theorem statuses_scanComplete {byMac : HashMap Uuid Peripheral}
    (hm : ∀ id, m.lastStatuses.lookup id ≠ some true)
    (hnone : ∀ id info p, m.infoMap.lookup id = some info → byMac.lookup id = some p →
      ¬ p.EndsConnected info.ty) (id : Uuid) :
    (m.scanComplete byMac).lastStatuses.lookup id ≠ some true := by
  rw [AccessoryManager.lookup_scanComplete]
  intro h
  rcases Option.or_eq_some_iff.mp h with hscan | ⟨-, hold⟩
  · obtain ⟨info, p, hi, hp, hc⟩ := scanned_eq_true_iff.mp hscan
    exact hnone id info p hi hp hc
  · exact hm id hold

end

theorem Inv.step (hs : s.Inv) {e : AccessoryEvent} (hok : NoneConnected s e) (h : Step s e s') :
    s'.Inv := by
  refine { toWf := hs.toWf.step h, statuses := fun m hm => ?_ }
  cases step_cases h with
  | start _ =>
    cases hm
    exact statuses_start s.info
  | @infoChanged m₀ hm₀ =>
    cases hm
    exact statuses_infoChanged s.info (hs.statuses m₀ hm₀)
  | @scanComplete m₀ hm₀ byMac =>
    cases hm
    exact statuses_scanComplete (hs.statuses m₀ hm₀) (hok m₀ hm₀)
  | inform _ | merge _ | broadcast _ => exact hs.statuses m hm

/-! ## Snapshot and stream -/

/-- In a quiet state the snapshot says `false` of a configured accessory. -/
theorem Wf.flag_snapshot (hs : s.Wf) (hq : s.Quiet) {id : Uuid} (hid : id ∈ s.info) :
    s.snapshot.flag id = some false := by
  have hmem : id ∈ s.map := by
    rcases hs.merged id hid with hmap | ⟨u, hu, -⟩
    · exact hmap
    · rw [hq.1] at hu
      cases hu
  obtain ⟨c, hc⟩ := Option.isSome_iff_exists.mp ((mem_iff_flag s.map id).mp hmem)
  have hflag := hs.flags id
  show s.map.flag id = some false
  rw [hc] at hflag ⊢
  simpa using hflag

/-- … and the last broadcast says what the manager has recorded. -/
theorem Wf.flag_sent (hs : s.Wf) (hq : s.Quiet) {sent : AccessoryMap} (hsent : s.sent = some sent)
    {id : Uuid} (hid : id ∈ s.info) :
    ∃ m, s.manager = some m ∧ sent.flag id = some ((m.lastStatuses.lookup id).getD false) := by
  rw [hs.sent] at hsent
  obtain ⟨m, hm, rfl⟩ := Option.map_eq_some_iff.mp hsent
  refine ⟨m, hm, ?_⟩
  rw [AccessoryManager.flag_sendIfChanged, hs.seen hq.2 m hm, if_pos hid]

theorem Inv.agrees (hs : s.Inv) : s.Agrees := by
  intro hq sent hsent id hid
  obtain ⟨m, hm, hflag⟩ := hs.toWf.flag_sent hq hsent hid
  have hst := hs.statuses m hm id
  rw [hs.toWf.flag_snapshot hq hid, hflag]
  cases hc : m.lastStatuses.lookup id with
  | none => rfl
  | some c =>
    rw [hc] at hst
    have hfalse : c = false := by simpa using hst
    rw [hfalse]
    rfl

/-- **Snapshot and stream.**  In runs in which no scan leaves an accessory connected they
agree. -/
theorem agrees_of_noneConnected (info : AccessoryInfoMap) {tr : List (AccessoryEvent × AccessorySys)}
    (hrun : Exec Step (init info) tr) (hok : StepsOk NoneConnected (init info) tr) :
    Always Agrees (init info) tr := by
  have hinit : (init info).Inv := { toWf := wf_init info, statuses := fun m hm => by cases hm }
  exact (hrun.always (fun _ _ _ hi hok h => hi.step hok h) hinit hok).imp fun _ hi => hi.agrees

/-- After a scan of a quiet state they agree only if it left none connected. -/
theorem noneConnected_of_agrees (hs : s.Wf) (hq : s.Quiet) {byMac : HashMap Uuid Peripheral}
    (h : Step s (.scanComplete byMac) s') (ha : s'.Agrees) : NoneConnected s (.scanComplete byMac) := by
  intro m hm id info p hi hp hc
  obtain ⟨m', hm', rfl⟩ := Option.map_eq_some_iff.mp h
  obtain rfl : m = m' := Option.some.inj (hm.symm.trans hm')
  have hs' := hs.step h
  have hid : id ∈ s.info := by
    rw [← hs.seen hq.2 m hm]
    exact (m.infoMap.mem_iff_lookup id).mpr ⟨info, hi⟩
  have hid' : id ∈ (s.manage (m.scanComplete byMac)).info := hid
  obtain ⟨m', hm', hflag⟩ := hs'.flag_sent hq rfl hid'
  cases hm'
  have hagree := ha hq _ rfl id hid
  rw [hs'.flag_snapshot hq hid', hflag, AccessoryManager.lookup_scanComplete,
    scanned_eq_true_iff.mpr ⟨info, p, hi, hp, hc⟩] at hagree
  cases hagree

/-! ## A scan that finds the magazine connected -/

def oneMag : AccessoryInfoMap := AList.singleton Accessories.sampleKey Accessories.sampleMag

def connectedMag : HashMap Uuid Peripheral := AList.singleton Accessories.sampleKey { isConnected := true }

/-- The magazine is out of reach in the first scan, and connected in the second. -/
def magRun (es : List AccessoryEvent) : List (AccessoryEvent × AccessorySys) :=
  trace next (init oneMag) ([.start, .infoChanged, .scanComplete ∅] ++ es)

theorem magRun_exec (es : List AccessoryEvent) : Exec Step (init oneMag) (magRun es) :=
  exec_trace (fun _ _ _ h => h) _ _

theorem agrees_of_noneConnected_outOfReach :
    (magRun []).length = 3 ∧ Always Agrees (init oneMag) (magRun []) := by
  refine ⟨by decide +kernel, agrees_of_noneConnected oneMag (magRun_exec []) ?_⟩
  show True ∧ True ∧ NoneConnected _ (.scanComplete ∅) ∧ True
  refine ⟨trivial, trivial, ?_, trivial⟩
  intro m _ id info p _ hp
  cases hp

/-- The stream then says `true` where the snapshot says `false`. -/
theorem connected_mag_disagrees :
    ¬ ∀ (info : AccessoryInfoMap) (tr : List (AccessoryEvent × AccessorySys)),
      Exec Step (init info) tr → Always Agrees (init info) tr := by
  intro hall
  have hagree : (last (init oneMag) (magRun [.scanComplete connectedMag])).Agrees :=
    (hall oneMag _ (magRun_exec _)).last
  exact absurd (hagree ⟨rfl, rfl⟩ _ rfl Accessories.sampleKey (by decide +kernel)) (by decide +kernel)

end AccessorySys

end OdysseyHub
