import OdysseyHub.Common.Numbers
import OdysseyHub.Desktop.AccessoryBoards
import OdysseyHub.Server.AccessoryLinks
import OdysseyHub.Server.AccessoryStream

/-!
# Shots of accessories, from the page to the event (accessories.rs)

The page keeps `info_map`, changes a copy of it at a click and sends the copy with
`update_accessory_info_map`; the server saves it, reads it back and tells the
notification tasks, which credit a shot to the listed device that is assigned.  On the
way an accessory and its device are map keys of the wire, numbers in an option of a
`select`, hex keys of a file and a `NonZeroU64`.  Calls overlap: the server goes on with
any of them, one step between its save, its reload, the watch, the map and the broadcast,
and their connections may break.

    s.Fresh → Exec (Desk.Step json5) s tr → Exec Boards.Step s.boards (image … tr)      (desk_refines)
-/

namespace OdysseyHub

open Transition

/-! ## The page (views/accessories.rs) -/

/-- `uuid_u64` of an option for a device, which has none for a UUID of zeros. -/
def deviceChoice (d : Device) : Option { n : UInt64 // n ≠ 0 } :=
  if h : Proto.key64 d.uuid ≠ 0 then some ⟨Proto.key64 d.uuid, h⟩ else none

/-- The value of the option for a device, or of `(Unassigned)`. -/
def optionValue : Option Device → Option String
  | none => some ""
  | some d => (deviceChoice d).map fun nz => decimal nz.val.toNat

/-- `onchange` of the `select`: what it assigns, if it does. -/
def onChange (value : String) : Option (Option { n : UInt64 // n ≠ 0 }) :=
  if value.isEmpty then some none
  else (parseU64 value).bind fun v => if h : v ≠ 0 then some (some ⟨v, h⟩) else none

namespace AccessoryInfoMap

def add (m : AccessoryInfoMap) (id : Uuid) (name : String) (ty : AccessoryType) : AccessoryInfoMap :=
  m.insert id (.withDefaults name ty)

def remove (m : AccessoryInfoMap) (id : Uuid) : AccessoryInfoMap := m.erase id

def assign (m : AccessoryInfoMap) (id : Uuid) (assignUuid : Option { n : UInt64 // n ≠ 0 }) : AccessoryInfoMap :=
  match m.lookup id with
  | some info => m.insert id { info with assignment := assignUuid }
  | none => m

end AccessoryInfoMap

/-- The infos of a map that the page reads. -/
def infosOf (m : AccessoryMap) : AccessoryInfoMap := m.mapValues fun _ v => v.1

/-- A task of the page: it calls the server, and then shows what it sent. -/
structure AccessoryCall where
  next : AccessoryInfoMap
  /-- history: the click that spawned it -/
  click : BoardClick
  /-- how far the server has got with it -/
  stage : Serving AccessoryInfoMap AccessoryMap
  /-- its connection broke, and the page no longer waits for it -/
  lost : Bool

structure Desk where
  server : Accessories
  manager : AccessoryManager
  /-- the maps `get_accessory_map` has had and `accessory_map_sender` has sent -/
  past : List AccessoryMap
  /-- `info_map` of the page -/
  infoMap : AccessoryInfoMap
  calls : List AccessoryCall
  devices : DeviceList
  /-- the devices of the impact events that were sent -/
  shots : List Device
  /-- history: the click whose map the file has, and the map -/
  saver : Option (BoardClick × AccessoryInfoMap)
  /-- history: the click whose map the server has -/
  last : Option BoardClick

inductive DeskEvent
  | add (id : Uuid) (name : String) (ty : AccessoryType)
  | remove (id : Uuid)
  | assign (id : Uuid) (choice : Option Device)
  /-- the server goes on with a call -/
  | serve (n : Nat) (a : UpdateAnswers)
  | finish (n : Nat)
  /-- the connection of a call breaks -/
  | lose (n : Nat)
  /-- the server drops the future of a call that is lost -/
  | drop (n : Nat)
  | infoChanged
  | scanComplete (byMac : HashMap Uuid Peripheral)
  /-- the page reads a map of the server -/
  | read (i : Nat)
  | devices (dl : DeviceList)
  | notify (id : Uuid) (ty : AccessoryType) (uuid : BitVec 128) (value : List UInt8)

/-- A map that a request for `m` is read as. -/
def ReceivedInfos (m m' : AccessoryInfoMap) : Prop :=
  ∃ (order : SetOrder AccessoryFeature) (request : Proto.AccessoryInfoMap),
    request.accessoryInfoMap.Same (Proto.AccessoryInfoMap.ofMap order m).accessoryInfoMap ∧ request.toMap = some m'

/-- A map that a reply with `m` is read as. -/
def ReceivedMap (m m' : AccessoryMap) : Prop :=
  ∃ (order : SetOrder AccessoryFeature) (reply : Proto.AccessoryMapReply),
    reply.accessoryMap.Same (Proto.AccessoryMapReply.ofMap order m).accessoryMap ∧ reply.toMap = some m'

namespace Desk

/-- The page spawns a task. -/
def spawn (s : Desk) (click : BoardClick) (next : AccessoryInfoMap) : Desk :=
  { s with calls := s.calls ++ [⟨next, click, .sent, false⟩] }

def advance (s : Desk) (n : Nat) (c : AccessoryCall) (stage : Serving AccessoryInfoMap AccessoryMap) : Desk :=
  { s with calls := s.calls.set n { c with stage := stage } }

/-- The click that has sent what a reload of the call `c` is taken for. -/
def origin (s : Desk) (c : AccessoryCall) : ConfigLoadResult AccessoryInfoMap → Option BoardClick
  | .success _ => s.saver.map (·.1)
  | .corruptedUsingDefault _ _ => some c.click
  | .notFoundUsingDefault => none

/-- The manager takes on a state and sends it. -/
def manage (s : Desk) (m : AccessoryManager) : Desk :=
  { s with manager := m, past := s.past ++ [m.sendIfChanged] }

variable (json5 : Json5 AccessoryInfo)

/-- The next step of `update_accessory_info_map`, which has received `incoming`. -/
def serve (s : Desk) (n : Nat) (c : AccessoryCall) (incoming : AccessoryInfoMap) (a : UpdateAnswers) : Option Desk :=
  match c.stage with
  | .sent =>
    match Accessories.save json5 incoming a with
    | .error _ => some (s.advance n c .answered)
    | .ok file =>
      some
        { s.advance n c (.saved incoming) with
          server := { s.server with file := file }
          saver := some (c.click, incoming) }
  | .saved own =>
    -- a file that another call is writing is cut, so this reload cannot read it: `a.reload.readError`
    (accessoryMapAsync json5 s.server.file a.reload).map fun freshResult =>
      let fresh := if freshResult.isCorrupted then own else freshResult.intoValue ∅
      s.advance n c (.loaded fresh (s.origin c freshResult))
  | .loaded fresh origin =>
    some { s.advance n c (.told fresh) with server := { s.server with info := fresh }, last := origin }
  | .told fresh =>
    let map := s.server.map.merge Accessories.keepFlag fresh
    some { s.advance n c .merged with server := { s.server with map := map }, past := s.past ++ [map] }
  | .merged => some (s.advance n c (.snapped s.server.snapshot))
  | .snapped sent => some { s.advance n c .answered with past := s.past ++ [sent] }
  | .answered => none

inductive Step : Desk → DeskEvent → Desk → Prop
  | add (s : Desk) (id : Uuid) (name : String) (ty : AccessoryType) :
      Step s (.add id name ty) (s.spawn (.add id) (AccessoryInfoMap.add s.infoMap id name ty))
  | remove (s : Desk) (id : Uuid) : Step s (.remove id) (s.spawn (.remove id) (AccessoryInfoMap.remove s.infoMap id))
  | assign (s : Desk) (id : Uuid) (choice : Option Device) {value : String}
      {assignUuid : Option { n : UInt64 // n ≠ 0 }} (hvalue : optionValue choice = some value)
      (hassign : onChange value = some assignUuid) :
      Step s (.assign id choice)
        (s.spawn (.assign id (choice.map (·.uuid))) (AccessoryInfoMap.assign s.infoMap id assignUuid))
  | serve {s s' : Desk} {n : Nat} {c : AccessoryCall} {a : UpdateAnswers} {incoming : AccessoryInfoMap}
      (hc : s.calls[n]? = some c) (hwire : ReceivedInfos c.next incoming)
      (hserve : s.serve json5 n c incoming a = some s') : Step s (.serve n a) s'
  | finish (s : Desk) {n : Nat} {c : AccessoryCall} (hc : s.calls[n]? = some c) (hanswered : c.stage = .answered) :
      Step s (.finish n)
        { s with infoMap := if c.lost then s.infoMap else c.next, calls := s.calls.eraseIdx n }
  -- the page sets what it sent after an error, too
  | lose (s : Desk) {n : Nat} {c : AccessoryCall} (hc : s.calls[n]? = some c) (hlost : c.lost = false) :
      Step s (.lose n) { s with infoMap := c.next, calls := s.calls.set n { c with lost := true } }
  | drop (s : Desk) {n : Nat} {c : AccessoryCall} (hc : s.calls[n]? = some c) (hlost : c.lost = true)
      (hwaits : c.stage.waits = true) : Step s (.drop n) { s with calls := s.calls.eraseIdx n }
  | infoChanged (s : Desk) : Step s .infoChanged (s.manage (s.manager.infoChanged s.server.info))
  | scanComplete (s : Desk) (byMac : HashMap Uuid Peripheral) :
      Step s (.scanComplete byMac) (s.manage (s.manager.scanComplete byMac))
  | read (s : Desk) {i : Nat} {m m' : AccessoryMap} (hi : s.past[i]? = some m) (hwire : ReceivedMap m m') :
      Step s (.read i) { s with infoMap := infosOf m' }
  | devices (s : Desk) (dl : DeviceList) : Step s (.devices dl) { s with devices := dl }
  | notify (s : Desk) (id : Uuid) (ty : AccessoryType) (uuid : BitVec 128) (value : List UInt8) :
      Step s (.notify id ty uuid value)
        { s with shots := s.shots ++ (ty.forward s.server.info s.devices id uuid value).toList }

/-- The file has the map of its click, and a call that is to read it has saved one. -/
structure Kept (s : Desk) : Prop where
  file : ∀ c m, s.saver = some (c, m) →
    ∃ text, Config.contents json5 m = .ok text ∧ s.server.file = some text.toUTF8.data.toList
  saved : ∀ c ∈ s.calls, ∀ own, c.stage = .saved own → s.saver.isSome = true

end Desk

/-! ## The boards -/

/-- The device an accessory is assigned to. -/
def AccessoryInfo.device (info : AccessoryInfo) : Option Uuid := info.assignment.map fun n => Proto.key6 n.val

def AccessoryInfoMap.board (m : AccessoryInfoMap) : Board := fun id => (m.lookup id).map (·.device)

def AccessoryMap.board (m : AccessoryMap) : Board := fun id => (m.lookup id).map (·.1.device)

/-- The call, by its boards. -/
def AccessoryCall.toBoard (c : AccessoryCall) : BoardCall :=
  ⟨c.click, AccessoryInfoMap.board c.next, c.stage.map AccessoryInfoMap.board AccessoryMap.board, c.lost⟩

namespace Desk

def boards (s : Desk) : Boards where
  server := AccessoryInfoMap.board s.server.info
  known := AccessoryMap.board s.server.map
  manager := AccessoryInfoMap.board s.manager.infoMap
  past := s.past.map AccessoryMap.board
  page := AccessoryInfoMap.board s.infoMap
  file := s.saver.map fun e => (e.1, AccessoryInfoMap.board e.2)
  calls := s.calls.map AccessoryCall.toBoard
  last := s.last
  devices := s.devices.map (·.1)
  shots := s.shots

/-- What a reload finds. -/
def reloaded (a : UpdateAnswers) : Reloaded :=
  if Accessories.UpdateAnswers.missed a then .missed else if a.reload.readError.isSome then .own else .file

def boardEvent : DeskEvent → BoardEvent
  | .add id _ _ => .click (.add id)
  | .remove id => .click (.remove id)
  | .assign id choice => .click (.assign id (choice.map (·.uuid)))
  | .serve n a => .serve n a.saveError.isSome (reloaded a)
  | .finish n => .finish n
  | .lose n => .lose n
  | .drop n => .drop n
  | .infoChanged => .informed
  | .scanComplete _ => .broadcast
  | .read i => .read i
  | .devices dl => .devices (dl.map (·.1))
  | .notify id ty uuid value => if uuid == targetCharUuid ty && ty.isShot value then .shot id else .quiet

end Desk

/-! ## What a number of the page stands for -/

theorem isEmpty_decimal (n : Nat) : (decimal n).isEmpty = false := by
  obtain ⟨c, cs, hcs⟩ := List.exists_cons_of_length_pos (Nat.length_toDigits_pos (b := 10) (n := n))
  simp [decimal, hcs]

/-- The option for a device assigns the device. -/
theorem device_of_option {choice : Option Device} {value : String} {assignUuid : Option { n : UInt64 // n ≠ 0 }}
    (hvalue : optionValue choice = some value) (hassign : onChange value = some assignUuid) :
    (assignUuid.map fun n => Proto.key6 n.val) = choice.map (·.uuid) := by
  cases choice with
  | none =>
    cases hvalue
    cases hassign
    rfl
  | some d =>
    obtain ⟨nz, hnz, rfl⟩ := Option.map_eq_some_iff.mp hvalue
    have hval : nz.val = Proto.key64 d.uuid := by
      unfold deviceChoice at hnz
      split at hnz
      · cases hnz
        rfl
      · cases hnz
    unfold onChange at hassign
    rw [isEmpty_decimal, if_neg Bool.false_ne_true, parseU64_decimal, Option.bind_some, dif_pos nz.property] at hassign
    cases hassign
    show some (Proto.key6 nz.val) = some d.uuid
    rw [hval, Proto.key6_key64 d.uuid]

/-! ## Boards of maps -/

theorem board_congr {m m' : AccessoryInfoMap} (h : ∀ id, m.lookup id = m'.lookup id) :
    AccessoryInfoMap.board m = AccessoryInfoMap.board m' := by
  funext id
  unfold AccessoryInfoMap.board
  rw [h]

theorem board_add (m : AccessoryInfoMap) (id : Uuid) (name : String) (ty : AccessoryType) :
    AccessoryInfoMap.board (AccessoryInfoMap.add m id name ty) = (BoardClick.add id).apply m.board := by
  funext k
  unfold AccessoryInfoMap.board AccessoryInfoMap.add BoardClick.apply
  dsimp only
  by_cases hk : k = id
  · subst hk
    rw [AList.lookup_insert, Function.update_self]
    rfl
  · rw [AList.lookup_insert_ne hk, Function.update_of_ne hk]

theorem board_remove (m : AccessoryInfoMap) (id : Uuid) :
    AccessoryInfoMap.board (AccessoryInfoMap.remove m id) = (BoardClick.remove id).apply m.board := by
  funext k
  unfold AccessoryInfoMap.board AccessoryInfoMap.remove BoardClick.apply
  dsimp only
  by_cases hk : k = id
  · subst hk
    rw [AList.lookup_erase, Function.update_self]
    rfl
  · rw [AList.lookup_erase_ne hk, Function.update_of_ne hk]

theorem board_assign (m : AccessoryInfoMap) (id : Uuid) (assignUuid : Option { n : UInt64 // n ≠ 0 }) :
    AccessoryInfoMap.board (AccessoryInfoMap.assign m id assignUuid) =
      (BoardClick.assign id (assignUuid.map fun n => Proto.key6 n.val)).apply m.board := by
  funext k
  unfold AccessoryInfoMap.assign BoardClick.apply
  dsimp only
  cases hid : m.lookup id with
  | none =>
    have hnone : m.board id = none := by
      unfold AccessoryInfoMap.board
      rw [hid]
      rfl
    rw [hnone]
    rfl
  | some info =>
    have hsome : m.board id = some info.device := by
      unfold AccessoryInfoMap.board
      rw [hid]
      rfl
    rw [hsome, Option.isSome_some, if_pos rfl]
    unfold AccessoryInfoMap.board
    dsimp only
    by_cases hk : k = id
    · subst hk
      rw [AList.lookup_insert, Function.update_self]
      rfl
    · rw [AList.lookup_insert_ne hk, Function.update_of_ne hk]

theorem board_received {m m' : AccessoryInfoMap} (h : ReceivedInfos m m') :
    AccessoryInfoMap.board m' = AccessoryInfoMap.board m := by
  obtain ⟨order, request, hrequest, hread⟩ := h
  obtain ⟨m'', hm'', hsame⟩ := HashMap.collect_rekey Proto.key6_key64 (Proto.toInfo_ofInfo order) m hrequest
  obtain rfl := Option.some.inj (hread.symm.trans hm'')
  exact board_congr hsame

theorem board_infosOf (m : AccessoryMap) : AccessoryInfoMap.board (infosOf m) = AccessoryMap.board m := by
  funext id
  unfold AccessoryInfoMap.board AccessoryMap.board infosOf
  rw [HashMap.lookup_mapValues, Option.map_map]
  rfl

theorem board_read {m m' : AccessoryMap} (h : ReceivedMap m m') :
    AccessoryInfoMap.board (infosOf m') = AccessoryMap.board m := by
  obtain ⟨order, reply, hreply, hread⟩ := h
  obtain ⟨m'', hm'', hsame⟩ := HashMap.collect_rekey Proto.key6_key64 (Proto.toPair_ofPair order) m hreply
  obtain rfl := Option.some.inj (hread.symm.trans hm'')
  rw [board_infosOf]
  funext id
  unfold AccessoryMap.board
  rw [hsame]

theorem board_sendIfChanged (m : AccessoryManager) :
    AccessoryMap.board m.sendIfChanged = AccessoryInfoMap.board m.infoMap := by
  funext id
  unfold AccessoryInfoMap.board AccessoryMap.board AccessoryManager.sendIfChanged
  rw [HashMap.lookup_mapValues, Option.map_map]
  rfl

theorem board_merge (m : AccessoryMap) (fresh : AccessoryInfoMap) :
    AccessoryMap.board (m.merge Accessories.keepFlag fresh) =
      fun id => (AccessoryInfoMap.board fresh id).or (AccessoryMap.board m id) := by
  funext id
  unfold AccessoryInfoMap.board AccessoryMap.board
  rw [Accessories.lookup_keepFlag]
  cases fresh.lookup id with
  | none => rfl
  | some info => rfl

/-! ## The calls -/

section
variable {json5 : Json5 AccessoryInfo} {incoming : AccessoryInfoMap} {a : UpdateAnswers}

/-- A save fails only where the system does. -/
theorem saveError_of_failed (hj : json5.Lossless) {err : String}
    (h : Accessories.save json5 incoming a = .error err) : a.saveError.isSome = true := by
  cases herr : a.saveError with
  | some e => rfl
  | none =>
    obtain ⟨text, htext, -⟩ := hj (HexKeyMapN.serialize incoming)
    unfold Accessories.save Config.contents at h
    rw [herr] at h
    dsimp only at h
    rw [htext] at h
    cases h

theorem saveError_of_saved {file : ConfigFile} (h : Accessories.save json5 incoming a = .ok file) :
    a.saveError.isSome = false := by
  cases herr : a.saveError with
  | none => rfl
  | some e =>
    rw [Accessories.save, herr] at h
    cases h

/-- A reload of a saved map finds nothing, what cannot be read, or the map. -/
theorem reload_cases (hj : json5.Lossless) {m : AccessoryInfoMap} {text : String}
    (htext : Config.contents json5 m = .ok text) {r : ConfigLoadResult AccessoryInfoMap}
    (h : accessoryMapAsync json5 (some text.toUTF8.data.toList) a.reload = some r) :
    (Desk.reloaded a = .missed ∧ r = .notFoundUsingDefault) ∨
    (Desk.reloaded a = .own ∧ ∃ path e, r = .corruptedUsingDefault path e) ∨
    Desk.reloaded a = .file ∧ ∃ m', r = .success m' ∧ AccessoryInfoMap.board m' = AccessoryInfoMap.board m := by
  unfold accessoryMapAsync at h
  unfold Desk.reloaded Accessories.UpdateAnswers.missed
  cases hdir : a.reload.configDir with
  | none =>
    simp only [Config.load, hdir] at h
    cases h
    exact .inl ⟨rfl, rfl⟩
  | some dir =>
    cases hexists : a.reload.existsOk with
    | false =>
      simp only [Config.load, hdir, hexists] at h
      cases h
      exact .inl ⟨rfl, rfl⟩
    | true =>
      cases hread : a.reload.readError with
      | some e =>
        simp only [Config.load, hdir, hexists, hread] at h
        cases h
        exact .inr (.inl ⟨rfl, _, _, rfl⟩)
      | none =>
        obtain ⟨m', hm', hlookup⟩ := Config.load_contents hj m htext "accessory_map.json" dir hdir hexists hread
        rw [hm'] at h
        cases h
        exact .inr (.inr ⟨rfl, m', rfl, board_congr hlookup⟩)

end

/-- The notification tasks credit by the board. -/
theorem forward_eq_credited (s : Desk) (id : Uuid) (ty : AccessoryType) (uuid : BitVec 128) (value : List UInt8) :
    ty.forward s.server.info s.devices id uuid value =
      if uuid == targetCharUuid ty && ty.isShot value then s.boards.credited id else none := by
  unfold AccessoryType.forward
  congr 1
  unfold assignedDevice Boards.credited Desk.boards AccessoryInfoMap.board
  dsimp only
  cases s.server.info.lookup id with
  | none => rfl
  | some info =>
    show (info.assignment.bind _) = (info.assignment.map _).bind _
    cases info.assignment with
    | none => rfl
    | some n =>
      simp only [Option.bind_some, Option.map_some, List.find?_map]
      rfl

namespace Desk

variable {json5 : Json5 AccessoryInfo} {s s' : Desk} {e : DeskEvent}

theorem boards_spawn (s : Desk) (click : BoardClick) (next : AccessoryInfoMap) :
    (s.spawn click next).boards =
      { s.boards with calls := s.boards.calls ++ [⟨click, AccessoryInfoMap.board next, .sent, false⟩] } := by
  unfold spawn boards
  simp [AccessoryCall.toBoard, Serving.map]

theorem boards_advance (s : Desk) (n : Nat) (c : AccessoryCall) (stage : Serving AccessoryInfoMap AccessoryMap) :
    (s.advance n c stage).boards =
      s.boards.advance n c.toBoard (stage.map AccessoryInfoMap.board AccessoryMap.board) := by
  unfold advance boards Boards.advance
  dsimp only
  rw [List.map_set]
  rfl

theorem boards_manage (s : Desk) (m : AccessoryManager) :
    (s.manage m).boards =
      { s.boards with
        manager := AccessoryInfoMap.board m.infoMap
        past := s.boards.past ++ [AccessoryInfoMap.board m.infoMap] } := by
  unfold manage boards
  simp [board_sendIfChanged]

@[simp] theorem waits_map (stage : Serving AccessoryInfoMap AccessoryMap) :
    (stage.map AccessoryInfoMap.board AccessoryMap.board).waits = stage.waits := by cases stage <;> rfl

/-- The board of a call. -/
theorem boards_call {n : Nat} {c : AccessoryCall} (hc : s.calls[n]? = some c) :
    s.boards.calls[n]? = some c.toBoard := by
  unfold boards
  rw [List.getElem?_map, hc]
  rfl

/-- A reload gives the board that the abstract one gives. -/
theorem boards_reload (hj : json5.Lossless) (hk : s.Kept json5) {n : Nat} {c : AccessoryCall}
    {own : AccessoryInfoMap} {a : UpdateAnswers} {r : ConfigLoadResult AccessoryInfoMap}
    (hstage : c.stage = .saved own) (hmem : c ∈ s.calls)
    (hload : accessoryMapAsync json5 s.server.file a.reload = some r) :
    s.boards.serve n c.toBoard a.saveError.isSome (reloaded a) =
      some (s.advance n c (.loaded (if r.isCorrupted then own else r.intoValue ∅) (s.origin c r))).boards := by
  obtain ⟨⟨click, m⟩, hsaver⟩ := Option.isSome_iff_exists.mp (hk.saved c hmem own hstage)
  obtain ⟨text, htext, hfile⟩ := hk.file click m hsaver
  rw [hfile] at hload
  have hboard : c.toBoard.stage = .saved (AccessoryInfoMap.board own) := by
    unfold AccessoryCall.toBoard
    rw [hstage]
    rfl
  have hsaved : s.boards.file = some (click, AccessoryInfoMap.board m) := by
    unfold boards
    rw [hsaver]
    rfl
  unfold Boards.serve
  rw [hboard, hsaved, boards_advance]
  obtain ⟨hr, rfl⟩ | ⟨hr, path, e, rfl⟩ | ⟨hr, m', rfl, hm'⟩ := reload_cases hj htext hload
  · rw [hr]
    rfl
  · rw [hr]
    rfl
  · rw [hr]
    unfold origin
    rw [hsaver]
    show some (s.boards.advance n c.toBoard (.loaded (AccessoryInfoMap.board m) (some click))) =
      some (s.boards.advance n c.toBoard (.loaded (AccessoryInfoMap.board m') (some click)))
    rw [hm']

/-- The server goes on with a call as with its boards. -/
theorem boards_serve (hj : json5.Lossless) (hk : s.Kept json5) {n : Nat} {c : AccessoryCall} {a : UpdateAnswers}
    {incoming : AccessoryInfoMap} (hc : s.calls[n]? = some c) (hwire : ReceivedInfos c.next incoming)
    (h : s.serve json5 n c incoming a = some s') :
    s.boards.serve n c.toBoard a.saveError.isSome (reloaded a) = some s'.boards := by
  have hmem := List.mem_of_getElem? hc
  obtain ⟨next, click, stage, lost⟩ := c
  cases stage with
  | sent =>
    simp only [serve] at h
    unfold Boards.serve
    split at h
    · next hsave =>
      cases h
      rw [saveError_of_failed hj hsave, boards_advance]
      rfl
    · next file hsave =>
      cases h
      rw [saveError_of_saved hsave]
      show _ = some { (s.advance n ⟨next, click, .sent, lost⟩ (.saved incoming)).boards with
        file := some (click, AccessoryInfoMap.board incoming) }
      rw [boards_advance]
      simp only [Serving.map, board_received hwire]
      rfl
  | saved own =>
    obtain ⟨r, hload, hs⟩ := Option.map_eq_some_iff.mp h
    cases hs
    exact boards_reload hj hk rfl hmem hload
  | loaded fresh origin =>
    cases h
    show _ = some { (s.advance n ⟨next, click, .loaded fresh origin, lost⟩ (.told fresh)).boards with
      server := AccessoryInfoMap.board fresh, last := origin }
    rw [boards_advance]
    rfl
  | told fresh =>
    cases h
    show _ = some { (s.advance n ⟨next, click, .told fresh, lost⟩ .merged).boards with
      known := AccessoryMap.board (s.server.map.merge Accessories.keepFlag fresh)
      past := (s.past ++ [s.server.map.merge Accessories.keepFlag fresh]).map AccessoryMap.board }
    rw [boards_advance, List.map_append, List.map_singleton, board_merge]
    rfl
  | merged =>
    cases h
    rw [boards_advance]
    rfl
  | snapped known =>
    cases h
    show _ = some { (s.advance n ⟨next, click, .snapped known, lost⟩ .answered).boards with
      past := (s.past ++ [known]).map AccessoryMap.board }
    rw [boards_advance, List.map_append, List.map_singleton]
    rfl
  | answered => cases h

/-- A step of the desk is one of its boards. -/
theorem boards_step (hj : json5.Lossless) (hk : s.Kept json5) (h : Step json5 s e s') :
    Boards.Step s.boards (boardEvent e) s'.boards := by
  unfold Boards.Step
  cases h with
  | add id name ty =>
    rw [boards_spawn, board_add]
    rfl
  | remove id =>
    rw [boards_spawn, board_remove]
    rfl
  | assign id choice hvalue hassign =>
    rw [boards_spawn, board_assign, device_of_option hvalue hassign]
    rfl
  | serve hc hwire hserve =>
    unfold boardEvent Boards.next
    dsimp only
    rw [boards_call hc, Option.bind_some]
    exact boards_serve hj hk hc hwire hserve
  | @finish n c hc hanswered =>
    have hcall := boards_call hc
    unfold AccessoryCall.toBoard at hcall
    rw [hanswered] at hcall
    unfold boardEvent Boards.next
    dsimp only
    rw [hcall]
    unfold boards Serving.map
    dsimp only
    rw [List.eraseIdx_map]
    cases c.lost <;> rfl
  | @lose n c hc hlost =>
    have hcall := boards_call hc
    unfold AccessoryCall.toBoard at hcall
    rw [hlost] at hcall
    unfold boardEvent Boards.next
    dsimp only
    rw [hcall]
    unfold boards
    dsimp only
    rw [List.map_set]
    rfl
  | @drop n c hc hlost hwaits =>
    have hcall := boards_call hc
    unfold AccessoryCall.toBoard at hcall
    rw [hlost] at hcall
    unfold boardEvent Boards.next
    dsimp only
    rw [hcall]
    dsimp only
    rw [waits_map, hwaits, if_pos rfl]
    unfold boards
    dsimp only
    rw [List.eraseIdx_map]
  | infoChanged =>
    rw [boards_manage]
    rfl
  | scanComplete byMac =>
    rw [boards_manage]
    rfl
  | @read i m m' hi hwire =>
    have hpast : s.boards.past[i]? = some (AccessoryMap.board m) := by
      unfold boards
      rw [List.getElem?_map, hi]
      rfl
    unfold boardEvent Boards.next
    dsimp only
    rw [hpast, Option.map_some, ← board_read hwire]
    rfl
  | devices dl => rfl
  | notify id ty uuid value =>
    have hshots : Boards.next s.boards (boardEvent (.notify id ty uuid value)) =
        some { s.boards with
          shots := s.boards.shots ++ (ty.forward s.server.info s.devices id uuid value).toList } := by
      rw [forward_eq_credited]
      unfold boardEvent
      dsimp only
      split
      · rfl
      · simp [Boards.next]
    rw [hshots]
    rfl

/-! ## What is in the file -/

/-- A call that goes on without a save. -/
theorem Kept.advance (hk : s.Kept json5) {n : Nat} {c : AccessoryCall}
    {stage : Serving AccessoryInfoMap AccessoryMap} (hstage : ∀ own, stage ≠ .saved own) :
    ∀ c' ∈ (s.advance n c stage).calls, ∀ own, c'.stage = .saved own → s.saver.isSome = true := by
  intro c' hmem own hown
  rcases List.mem_or_eq_of_mem_set hmem with hmem | rfl
  · exact hk.saved c' hmem own hown
  · exact absurd hown (hstage own)

theorem Kept.serve (hk : s.Kept json5) {n : Nat} {c : AccessoryCall} {a : UpdateAnswers}
    {incoming : AccessoryInfoMap} (h : s.serve json5 n c incoming a = some s') : s'.Kept json5 := by
  unfold Desk.serve at h
  split at h
  · split at h
    · cases h
      exact ⟨hk.file, hk.advance (by simp)⟩
    · next file hsave =>
      cases h
      refine ⟨fun click m hm => ?_, fun _ _ _ _ => rfl⟩
      cases hm
      exact Accessories.save_ok hsave
  · obtain ⟨r, hload, hs⟩ := Option.map_eq_some_iff.mp h
    cases hs
    exact ⟨hk.file, hk.advance (by simp)⟩
  · cases h
    exact ⟨hk.file, hk.advance (by simp)⟩
  · cases h
    exact ⟨hk.file, hk.advance (by simp)⟩
  · cases h
    exact ⟨hk.file, hk.advance (by simp)⟩
  · cases h
    exact ⟨hk.file, hk.advance (by simp)⟩
  · cases h

theorem Kept.spawn (hk : s.Kept json5) (click : BoardClick) (next : AccessoryInfoMap) :
    (s.spawn click next).Kept json5 := by
  refine ⟨hk.file, fun c hmem own hown => ?_⟩
  rcases List.mem_append.mp hmem with hmem | hmem
  · exact hk.saved c hmem own hown
  · obtain rfl := List.mem_singleton.mp hmem
    cases hown

theorem Kept.step (s : Desk) (e : DeskEvent) (s' : Desk) (hk : s.Kept json5) (h : Step json5 s e s') :
    s'.Kept json5 := by
  cases h with
  | add id name ty => exact hk.spawn _ _
  | remove id => exact hk.spawn _ _
  | assign id choice hvalue hassign => exact hk.spawn _ _
  | serve hc hwire hserve => exact hk.serve hserve
  | finish hc hanswered => exact ⟨hk.file, fun c hmem => hk.saved c (List.mem_of_mem_eraseIdx hmem)⟩
  | lose hc hlost =>
    refine ⟨hk.file, fun c' hmem own hown => ?_⟩
    rcases List.mem_or_eq_of_mem_set hmem with hmem | rfl
    · exact hk.saved c' hmem own hown
    · exact hk.saved _ (List.mem_of_getElem? hc) own hown
  | drop hc hlost hwaits => exact ⟨hk.file, fun c hmem => hk.saved c (List.mem_of_mem_eraseIdx hmem)⟩
  | infoChanged => exact ⟨hk.file, hk.saved⟩
  | scanComplete byMac => exact ⟨hk.file, hk.saved⟩
  | read hi hwire => exact ⟨hk.file, hk.saved⟩
  | devices dl => exact ⟨hk.file, hk.saved⟩
  | notify id ty uuid value => exact ⟨hk.file, hk.saved⟩

/-- A page without calls, of which nothing has been saved yet. -/
structure Fresh (s : Desk) : Prop where
  calls : s.calls = []
  saver : s.saver = none

theorem Fresh.kept (hf : s.Fresh) : s.Kept json5 := by
  refine ⟨fun click m hm => ?_, fun c hmem => ?_⟩
  · rw [hf.saver] at hm
    cases hm
  · rw [hf.calls] at hmem
    cases hmem

/-- **The page, the server and the notification tasks are an accessory board.** -/
theorem desk_refines (hj : json5.Lossless) {tr : List (DeskEvent × Desk)} (hrun : Exec (Step json5) s tr)
    (hf : s.Fresh) : Exec Boards.Step s.boards (image boards boardEvent tr) :=
  hrun.refines_of Kept.step (fun _ _ _ hk h => boards_step hj hk h) hf.kept

/-! ## A call alone -/

@[simp] theorem advance_server (s : Desk) (n : Nat) (c : AccessoryCall)
    (stage : Serving AccessoryInfoMap AccessoryMap) : (s.advance n c stage).server = s.server := rfl

@[simp] theorem advance_past (s : Desk) (n : Nat) (c : AccessoryCall)
    (stage : Serving AccessoryInfoMap AccessoryMap) : (s.advance n c stage).past = s.past := rfl

theorem getElem?_advance {n : Nat} {c : AccessoryCall} (hc : s.calls[n]? = some c)
    (stage : Serving AccessoryInfoMap AccessoryMap) :
    (s.advance n c stage).calls[n]? = some { c with stage := stage } :=
  List.getElem?_set_self (List.getElem?_eq_some_iff.mp hc).1

/-- What has been read back is put in place and told to everyone. -/
theorem exec_loaded (json5 : Json5 AccessoryInfo) {n : Nat} {c : AccessoryCall} {incoming fresh : AccessoryInfoMap}
    {origin : Option BoardClick} (a : UpdateAnswers) (hc : s.calls[n]? = some c)
    (hstage : c.stage = .loaded fresh origin) (hwire : ReceivedInfos c.next incoming) :
    ∃ tr, Exec (Step json5) s tr ∧ tr.map (·.1) = List.replicate 4 (.serve n a) ∧
      (Transition.last s tr).server =
        { s.server with info := fresh, map := s.server.map.merge Accessories.keepFlag fresh } ∧
      (Transition.last s tr).past = s.past ++ List.replicate 2 (s.server.map.merge Accessories.keepFlag fresh) := by
  obtain ⟨next, click, stage, lost⟩ := c
  obtain rfl : stage = .loaded fresh origin := hstage
  have htold := getElem?_advance hc (.told fresh)
  have hmerged := getElem?_advance htold .merged
  have hsnapped := getElem?_advance hmerged (.snapped (s.server.map.merge Accessories.keepFlag fresh))
  refine ⟨_, .cons (.serve hc hwire rfl) (.cons (.serve htold hwire rfl) (.cons (.serve hmerged hwire rfl)
    (.cons (.serve hsnapped hwire rfl) (.nil _)))), rfl, rfl, ?_⟩
  show (s.past ++ [_]) ++ [_] = _
  rw [List.append_assoc]
  rfl

/-- A call that nothing comes between is `updateAccessoryInfoMap`. -/
theorem exec_alone {n : Nat} {c : AccessoryCall} {incoming : AccessoryInfoMap} {a : UpdateAnswers}
    {server : Accessories} {sent : AccessoryMap} (hc : s.calls[n]? = some c) (hsent : c.stage = .sent)
    (hwire : ReceivedInfos c.next incoming)
    (h : s.server.updateAccessoryInfoMap json5 incoming a = some (.ok (server, sent))) :
    ∃ tr, Exec (Step json5) s tr ∧ tr.map (·.1) = List.replicate 6 (.serve n a) ∧
      (Transition.last s tr).server = server ∧ (Transition.last s tr).past = s.past ++ [server.map, sent] := by
  obtain ⟨next, click, stage, lost⟩ := c
  obtain rfl : stage = .sent := hsent
  unfold Accessories.updateAccessoryInfoMap at h
  split at h
  · cases h
  · next file hsave =>
    obtain ⟨r, hload, h⟩ := Option.bind_eq_some_iff.mp h
    cases h
    obtain ⟨t, hsaved, hat, hserver, hpast⟩ : ∃ t : Desk,
        s.serve json5 n ⟨next, click, .sent, lost⟩ incoming a = some t ∧
          t.calls[n]? = some ⟨next, click, .saved incoming, lost⟩ ∧ t.server = { s.server with file := file } ∧
          t.past = s.past := by
      refine ⟨{ s.advance n ⟨next, click, .sent, lost⟩ (.saved incoming) with
        server := { s.server with file := file }, saver := some (click, incoming) }, ?_,
        getElem?_advance hc (.saved incoming), rfl, rfl⟩
      unfold serve
      rw [hsave]
    have hloaded : t.serve json5 n ⟨next, click, .saved incoming, lost⟩ incoming a =
        some (t.advance n ⟨next, click, .saved incoming, lost⟩
          (.loaded (if r.isCorrupted then incoming else r.intoValue ∅)
            (t.origin ⟨next, click, .saved incoming, lost⟩ r))) := by
      unfold serve
      dsimp only
      rw [hserver, hload]
      rfl
    obtain ⟨tr, hrun, hevents, hserver', hpast'⟩ :=
      exec_loaded json5 a (getElem?_advance hat (.loaded _ _)) rfl hwire
    refine ⟨_, .cons (.serve hc hwire hsaved) (.cons (.serve hat hwire hloaded) hrun),
      congrArg (DeskEvent.serve n a :: DeskEvent.serve n a :: ·) hevents, hserver'.trans ?_, hpast'.trans ?_⟩
    · simp only [advance_server, hserver]
    · simp only [advance_server, advance_past, hserver, hpast]
      rfl

/-! ## The last click -/

/-- A shot of the accessory of the last click goes to the device of the click, if that is
listed and the accessory is configured. -/
def LastFollowed (s : Desk) : Prop :=
  ∀ c, s.last = some c → ∀ (ty : AccessoryType) (uuid : BitVec 128) (value : List UInt8),
    ty.forward s.server.info s.devices c.id uuid value =
      if (uuid == targetCharUuid ty && ty.isShot value) = true ∧ c.id ∈ s.server.info then
        c.device.bind fun u => (s.devices.find? fun d => d.1.uuid == u).map (·.1)
      else none

theorem lastFollowed_of_boards (h : s.boards.LastDecides) : s.LastFollowed := by
  intro c hlast ty uuid value
  rw [forward_eq_credited, h c hlast]
  have hmem : (s.boards.server c.id).isSome = true ↔ c.id ∈ s.server.info := by
    show ((s.server.info.lookup c.id).map _).isSome = true ↔ _
    rw [Option.isSome_map, AList.lookup_isSome]
  have hdevices : (c.device.bind fun u => s.boards.devices.find? fun d => d.uuid == u) =
      c.device.bind fun u => (s.devices.find? fun d => d.1.uuid == u).map (·.1) := by
    unfold boards
    simp only [List.find?_map]
    rfl
  by_cases hshot : (uuid == targetCharUuid ty && ty.isShot value) = true
  · rw [if_pos hshot, hdevices]
    simp only [hmem, hshot, true_and]
  · rw [if_neg hshot, if_neg fun hc => hshot hc.1]

/-- **The last click decides** which device its accessory shoots for. -/
theorem shots_followLast (hj : json5.Lossless) {tr : List (DeskEvent × Desk)} (hrun : Exec (Step json5) s tr)
    (hf : s.Fresh) (hlast : s.last = none) : Always LastFollowed s tr := by
  have hclicked : s.boards.Clicked := by
    unfold boards
    refine ⟨fun call hc => ?_, fun c b hc => ?_, fun c hc => ?_⟩
    · dsimp only at hc
      rw [hf.calls] at hc
      cases hc
    · dsimp only at hc
      rw [hf.saver] at hc
      cases hc
    · dsimp only at hc
      rw [hlast] at hc
      cases hc
  have hrefines := hrun.refines_of Kept.step (fun _ _ _ hk h => boards_step hj hk h) hf.kept
  have hboards := Boards.lastClick_decides hrefines hclicked
  exact (always_image.mp hboards).imp fun _ ht => lastFollowed_of_boards ht

/-! ## All clicks -/

/-- The clicks whose call has told the notification tasks of a map. -/
def served (s : Desk) (e : DeskEvent) (_ : Desk) (done : List BoardClick) : List BoardClick :=
  match e with
  | .serve n _ =>
    match s.calls[n]? with
    | some ⟨_, click, .loaded _ _, _⟩ => done ++ [click]
    | _ => done
  | _ => done

/-- A click waits for the last one, and for the page to show what the server has; and the
server saves the map and reads it back. -/
def Waits (s : Desk) : DeskEvent → Prop
  | .add .. | .remove _ | .assign .. =>
    s.calls = [] ∧ AccessoryInfoMap.board s.infoMap = AccessoryInfoMap.board s.server.info
  | .serve _ a => a.saveError = none ∧ Accessories.UpdateAnswers.missed a = false
  | _ => True

theorem waits_boards (h : s.Waits e) : s.boards.Waits (boardEvent e) := by
  have hclick : ∀ c, s.calls = [] ∧ AccessoryInfoMap.board s.infoMap = AccessoryInfoMap.board s.server.info →
      s.boards.Waits (.click c) := by
    rintro c ⟨hcalls, hpage⟩
    refine ⟨?_, hpage⟩
    unfold boards
    rw [hcalls]
    rfl
  cases e with
  | add id name ty => exact hclick _ h
  | remove id => exact hclick _ h
  | assign id choice => exact hclick _ h
  | serve n a =>
    refine ⟨?_, ?_⟩
    · rw [h.1]
      rfl
    · unfold reloaded
      rw [h.2, if_neg Bool.false_ne_true]
      split <;> simp
  | notify id ty uuid value =>
    unfold boardEvent
    dsimp only
    split
    · trivial
    · trivial
  | finish n => trivial
  | lose n => trivial
  | drop n => trivial
  | infoChanged => trivial
  | scanComplete byMac => trivial
  | read i => trivial
  | devices dl => trivial

/-- The server has the accessories of the start, after all clicks that were served. -/
def Counted (start : AccessoryInfoMap) (s : Desk × List BoardClick) : Prop :=
  AccessoryInfoMap.board s.1.server.info = s.2.foldl BoardClick.apply (AccessoryInfoMap.board start)

theorem served_boards (done : List BoardClick) :
    Boards.served s.boards (boardEvent e) s'.boards done = served s e s' done := by
  cases e with
  | serve n a =>
    unfold Boards.served boardEvent served boards
    dsimp only
    rw [List.getElem?_map]
    cases s.calls[n]? with
    | none => rfl
    | some c =>
      obtain ⟨next, click, stage, lost⟩ := c
      cases stage <;> rfl
  | notify id ty uuid value =>
    unfold boardEvent
    dsimp only
    split
    · rfl
    · rfl
  | add id name ty => rfl
  | remove id => rfl
  | assign id choice => rfl
  | finish n => rfl
  | lose n => rfl
  | drop n => rfl
  | infoChanged => rfl
  | scanComplete byMac => rfl
  | read i => rfl
  | devices dl => rfl

/-- The boards of a desk whose served clicks are counted. -/
def counting (p : Desk × List BoardClick) : Boards × List BoardClick := (p.1.boards, p.2)

theorem counting_step (hj : json5.Lossless) (p : Desk × List BoardClick) (e : DeskEvent)
    (p' : Desk × List BoardClick) (hk : p.1.Kept json5) (h : ghost (Step json5) served p e p') :
    ghost Boards.Step Boards.served (counting p) (boardEvent e) (counting p') := by
  refine ⟨boards_step hj hk h.1, ?_⟩
  show p'.2 = Boards.served p.1.boards (boardEvent e) p'.1.boards p.2
  rw [served_boards]
  exact h.2

/-- **Clicks that wait for each other all count.** -/
theorem clicks_counted (hj : json5.Lossless) {tr : List (DeskEvent × Desk)} (hrun : Exec (Step json5) s tr)
    (hf : s.Fresh) (hw : StepsOk Waits s tr) : Always (Counted s.server.info) (s, []) (history served s [] tr) := by
  have hboards : Exec (ghost Boards.Step Boards.served) (counting (s, []))
      (image counting boardEvent (history served s [] tr)) :=
    (hrun.history []).refines_of (fun p e p' hk h => Kept.step p.1 e p'.1 hk h.1) (counting_step hj) hf.kept
  have hnone : (counting (s, [])).1.calls = [] := by
    unfold counting boards
    dsimp only
    rw [hf.calls]
    rfl
  have hwaits : StepsOk (fun s e => s.boards.Waits (boardEvent e)) s tr :=
    hrun.stepsOk (fun _ _ _ _ _ _ => trivial) (fun _ _ _ (_ : True) h _ => waits_boards h) trivial hw
  have hturn : StepsOk (fun p e => Boards.Waits p.1 e) (counting (s, []))
      (image counting boardEvent (history served s [] tr)) := stepsOk_image.mpr (hwaits.history [])
  have hcount : Always (Boards.Counted (AccessoryInfoMap.board s.server.info)) (counting (s, []))
      (image counting boardEvent (history served s [] tr)) := Boards.clicks_count hboards rfl hnone hturn
  have hcounting := always_image.mp hcount
  exact hcounting

/-! ## Desks that compute their steps -/

theorem board_eq_iff {m m' : AccessoryInfoMap} : AccessoryInfoMap.board m = AccessoryInfoMap.board m' ↔
    ∀ k ∈ m.keys ++ m'.keys, AccessoryInfoMap.board m k = AccessoryInfoMap.board m' k := by
  refine ⟨fun h k _ => congrFun h k, fun h => funext fun k => ?_⟩
  by_cases hk : k ∈ m.keys ++ m'.keys
  · exact h k hk
  · rw [List.mem_append, not_or] at hk
    unfold AccessoryInfoMap.board
    rw [AList.lookup_eq_none.mpr hk.1, AList.lookup_eq_none.mpr hk.2]

instance (m m' : AccessoryInfoMap) : Decidable (AccessoryInfoMap.board m = AccessoryInfoMap.board m') :=
  @decidable_of_iff' _ _ board_eq_iff (List.decidableBAll _ _)

instance (s : Desk) : ∀ e : DeskEvent, Decidable (s.Waits e)
  | .add .. | .remove _ | .assign .. => inferInstanceAs (Decidable (s.calls = [] ∧ _))
  | .serve _ a => inferInstanceAs (Decidable (a.saveError = none ∧ Accessories.UpdateAnswers.missed a = false))
  | .finish _ | .lose _ | .drop _ | .infoChanged | .scanComplete _ | .read _ | .devices _ | .notify .. => isTrue trivial

/-- `Step` as a function; maps go over the wire in the order of their entries. -/
def next (json5 : Json5 AccessoryInfo) (order : SetOrder AccessoryFeature) (s : Desk) : DeskEvent → Option Desk
  | .add id name ty => some (s.spawn (.add id) (AccessoryInfoMap.add s.infoMap id name ty))
  | .remove id => some (s.spawn (.remove id) (AccessoryInfoMap.remove s.infoMap id))
  | .assign id choice =>
    (optionValue choice).bind fun value =>
      (onChange value).map fun assignUuid =>
        s.spawn (.assign id (choice.map (·.uuid))) (AccessoryInfoMap.assign s.infoMap id assignUuid)
  | .serve n a =>
    (s.calls[n]?).bind fun c =>
      (Proto.AccessoryInfoMap.ofMap order c.next).toMap.bind fun incoming => s.serve json5 n c incoming a
  | .finish n =>
    match s.calls[n]? with
    | some ⟨next, _, .answered, lost⟩ =>
      some { s with infoMap := if lost then s.infoMap else next, calls := s.calls.eraseIdx n }
    | _ => none
  | .lose n =>
    match s.calls[n]? with
    | some ⟨next, click, stage, false⟩ =>
      some { s with infoMap := next, calls := s.calls.set n ⟨next, click, stage, true⟩ }
    | _ => none
  | .drop n =>
    match s.calls[n]? with
    | some ⟨_, _, stage, true⟩ => if stage.waits then some { s with calls := s.calls.eraseIdx n } else none
    | _ => none
  | .infoChanged => some (s.manage (s.manager.infoChanged s.server.info))
  | .scanComplete byMac => some (s.manage (s.manager.scanComplete byMac))
  | .read i =>
    (s.past[i]?).bind fun m =>
      (Proto.AccessoryMapReply.ofMap order m).toMap.map fun m' => { s with infoMap := infosOf m' }
  | .devices dl => some { s with devices := dl }
  | .notify id ty uuid value =>
    some { s with shots := s.shots ++ (ty.forward s.server.info s.devices id uuid value).toList }

theorem step_of_next (order : SetOrder AccessoryFeature) (s : Desk) (e : DeskEvent) (s' : Desk)
    (h : s.next json5 order e = some s') : Step json5 s e s' := by
  cases e with
  | add id name ty =>
    cases h
    exact .add s id name ty
  | remove id =>
    cases h
    exact .remove s id
  | assign id choice =>
    obtain ⟨value, hvalue, h⟩ := Option.bind_eq_some_iff.mp h
    obtain ⟨assignUuid, hassign, rfl⟩ := Option.map_eq_some_iff.mp h
    exact .assign s id choice hvalue hassign
  | serve n a =>
    obtain ⟨c, hc, h⟩ := Option.bind_eq_some_iff.mp h
    obtain ⟨incoming, hincoming, hserve⟩ := Option.bind_eq_some_iff.mp h
    exact .serve hc ⟨order, .ofMap order c.next, fun _ => rfl, hincoming⟩ hserve
  | finish n =>
    simp only [next] at h
    split at h
    · next hc =>
      cases h
      exact .finish s hc rfl
    · cases h
  | lose n =>
    simp only [next] at h
    split at h
    · next hc =>
      cases h
      exact .lose s hc rfl
    · cases h
  | drop n =>
    simp only [next] at h
    split at h
    · next hc =>
      split at h
      · next hwaits =>
        cases h
        exact .drop s hc rfl hwaits
      · cases h
    · cases h
  | infoChanged =>
    cases h
    exact .infoChanged s
  | scanComplete byMac =>
    cases h
    exact .scanComplete s byMac
  | read i =>
    obtain ⟨m, hm, h⟩ := Option.bind_eq_some_iff.mp h
    obtain ⟨m', hm', rfl⟩ := Option.map_eq_some_iff.mp h
    exact .read s hm ⟨order, .ofMap order m, fun _ => rfl, hm'⟩
  | devices dl =>
    cases h
    exact .devices s dl
  | notify id ty uuid value =>
    cases h
    exact .notify s id ty uuid value

/-! ## A magazine is assigned and fires -/

open Accessories (sampleKey sampleMag)

def pistol : Device :=
  { uuid := Uuid.of 1 0 0 0 0 0
    transport := .usbMux
    capabilities := ⟨DeviceCapabilities.EVENTS⟩
    firmwareVersion := Version.of 1 0 0
    eventsTransport := .bluetooth
    eventsConnected := true
    productId := 0x5210
    name := Device.nameBytes "" }

def assignedMag : AccessoryInfo := { sampleMag with assignment := some ⟨1, by decide⟩ }

/-- The files of the magazine, assigned and not. -/
def magJson : Json5 AccessoryInfo :=
  Json5.ofTable
    [([("0x010203040506", assignedMag)],
      "\x7b\"0x010203040506\":\x7b\"name\":\"mag\",\"ty\":\"DryFireMag\",\"assignment\":1,\"features\":[\"impact\"]\x7d\x7d"),
     ([("0x010203040506", sampleMag)],
      "\x7b\"0x010203040506\":\x7b\"name\":\"mag\",\"ty\":\"DryFireMag\",\"assignment\":null,\"features\":[\"impact\"]\x7d\x7d")]

theorem magJson_lossless : magJson.Lossless := Json5.ofTable_lossless (by decide) (by decide)

/-- The magazine is listed for no device, and the pistol is connected. -/
def unassignedDesk : Desk :=
  { server := { file := none, info := AccessorySys.oneMag, map := AList.singleton sampleKey (sampleMag, true) }
    manager := .start AccessorySys.oneMag
    past := []
    infoMap := AccessorySys.oneMag
    calls := []
    devices := [(pistol, none)]
    shots := []
    saver := none
    last := none }

/-- A click with a call that is alone, and a shot behind it. -/
def clickAndFire (choice : Option Device) : List DeskEvent :=
  .assign sampleKey choice :: List.append (List.replicate 6 (.serve 0 {}))
    [.finish 0, .notify sampleKey .dryFireMag nusTxUuid []]

/-- The magazine is assigned to the pistol and fires, and is assigned to none and fires. -/
def assignAndFire : List (DeskEvent × Desk) :=
  trace (next magJson AccessoryStream.oneFeature) unassignedDesk
    (List.append (clickAndFire (some pistol)) (clickAndFire none))

theorem assignAndFire_exec : Exec (Step magJson) unassignedDesk assignAndFire :=
  exec_trace (step_of_next AccessoryStream.oneFeature) _ _

/-- Both clicks are on their way; the call of the first reads back what the second has saved, and the
connection of the second breaks. -/
def overlapping : List (DeskEvent × Desk) :=
  trace (next magJson AccessoryStream.oneFeature) unassignedDesk
    [.assign sampleKey none, .assign sampleKey (some pistol), .serve 0 {}, .serve 1 {}, .lose 1, .serve 0 {},
      .serve 0 {}, .drop 1, .notify sampleKey .dryFireMag nusTxUuid []]

theorem overlapping_exec : Exec (Step magJson) unassignedDesk overlapping :=
  exec_trace (step_of_next AccessoryStream.oneFeature) _ _

theorem desk_refines_overlapping : overlapping.length = 9 ∧
    Exec Boards.Step unassignedDesk.boards (image boards boardEvent overlapping) :=
  ⟨by decide +kernel, desk_refines magJson_lossless overlapping_exec ⟨rfl, rfl⟩⟩

theorem shots_followLast_overlapping :
    Always LastFollowed unassignedDesk overlapping ∧
      (Transition.last unassignedDesk overlapping).shots = [pistol] :=
  ⟨shots_followLast magJson_lossless overlapping_exec ⟨rfl, rfl⟩ rfl, by decide +kernel⟩

theorem clicks_counted_assignAndFire :
    (Transition.last (unassignedDesk, []) (history served unassignedDesk [] assignAndFire)).2 =
        [.assign sampleKey (some pistol.uuid), .assign sampleKey none] ∧
      Always (Counted unassignedDesk.server.info) (unassignedDesk, [])
        (history served unassignedDesk [] assignAndFire) :=
  ⟨by decide +kernel, clicks_counted magJson_lossless assignAndFire_exec ⟨rfl, rfl⟩ (by decide +kernel)⟩

end Desk

end OdysseyHub
