import OdysseyHub.Server.AccessoryStream

/-!
# Accessories of the uniffi client (odyssey_hub_client_uniffi)

A foreign program reads the accessory map, edits names and assignments and sends the entries
back.  Its records have no features: the way back fills them in with the defaults of the
type, so an edit leaves the features alone exactly where they are these defaults.

    Preserves before after ↔ the reload of the saved map is missed, or all features are default ones
                                                                        (edit_preserves_iff)
-/

namespace OdysseyHub

namespace Uniffi

/-! ## Records (ffi_common.rs) -/

inductive AccessoryType
  | dryFireMag
  | mantisX
  deriving DecidableEq, Repr

structure AccessoryInfo where
  name : String
  ty : AccessoryType
  assignment : Option UInt64
  deriving DecidableEq, Repr

structure AccessoryStatus where
  info : AccessoryInfo
  connected : Bool
  deriving DecidableEq, Repr

structure AccessoryMapEntry where
  key : UInt64
  status : AccessoryStatus
  deriving DecidableEq, Repr

structure AccessoryInfoMapEntry where
  key : UInt64
  info : AccessoryInfo
  deriving DecidableEq, Repr

/-- `From<common::accessory::AccessoryType> for AccessoryType` -/
def AccessoryType.ofCommon : OdysseyHub.AccessoryType → AccessoryType
  | .dryFireMag => .dryFireMag
  | .mantisX => .mantisX

/-- `From<AccessoryType> for common::accessory::AccessoryType` -/
def AccessoryType.toCommon : AccessoryType → OdysseyHub.AccessoryType
  | .dryFireMag => .dryFireMag
  | .mantisX => .mantisX

/-- `From<common::accessory::AccessoryInfo> for AccessoryInfo` -/
def AccessoryInfo.ofCommon (info : OdysseyHub.AccessoryInfo) : AccessoryInfo :=
  { name := info.name, ty := .ofCommon info.ty, assignment := info.assignment.map Subtype.val }

/-- `From<AccessoryInfo> for common::accessory::AccessoryInfo` -/
def AccessoryInfo.toCommon (info : AccessoryInfo) : OdysseyHub.AccessoryInfo :=
  { OdysseyHub.AccessoryInfo.withDefaults info.name info.ty.toCommon with
    assignment := info.assignment.bind fun v => if h : v ≠ 0 then some ⟨v, h⟩ else none }

/-! ## Calls (client.rs) -/

/-- The entries of `get_accessory_map`, in the order of the map. -/
def getAccessoryMap (map : AccessoryMap) : List AccessoryMapEntry :=
  map.entries.map fun e =>
    { key := Proto.key64 e.1, status := { info := .ofCommon e.2.1, connected := e.2.2 } }

/-- An entry that is sent back, as one of the common map. -/
def AccessoryInfoMapEntry.toCommon (e : AccessoryInfoMapEntry) : Sigma fun _ : Uuid => OdysseyHub.AccessoryInfo :=
  ⟨Proto.key6 e.key, e.info.toCommon⟩

/-- The map that `update_accessory_info_map` sends for its entries. -/
def infoMapOf (entries : List AccessoryInfoMapEntry) : AccessoryInfoMap :=
  HashMap.insertAll (fun _ info => info) ∅ (entries.map (·.toCommon))

/-- The entries of the map in any order, with any names and assignments. -/
def Edits (map : AccessoryMap) (edited : List AccessoryInfoMapEntry) : Prop :=
  (edited.map fun e => (e.key, e.info.ty)).Perm ((getAccessoryMap map).map fun e => (e.key, e.status.info.ty))

/-- The map is read and sent back once, with names and assignments edited, and nothing else
happens to the accessories. -/
structure Edit (json5 : Json5 OdysseyHub.AccessoryInfo) (s s' : Accessories) where
  serverOrder : SetOrder AccessoryFeature
  reply : Proto.AccessoryMapReply
  reply_same : reply.accessoryMap.Same (Proto.AccessoryMapReply.ofMap serverOrder s.snapshot).accessoryMap
  read : AccessoryMap
  toMap_reply : reply.toMap = some read
  edited : List AccessoryInfoMapEntry
  edits : Edits read edited
  clientOrder : SetOrder AccessoryFeature
  request : Proto.AccessoryInfoMap
  request_same :
    request.accessoryInfoMap.Same (Proto.AccessoryInfoMap.ofMap clientOrder (infoMapOf edited)).accessoryInfoMap
  incoming : AccessoryInfoMap
  toMap_request : request.toMap = some incoming
  answers : UpdateAnswers
  updated : Accessories.Step json5 s (incoming, answers) s'

/-- The keys are as before, and every entry has its type and features. -/
structure Preserves (before after : AccessoryMap) : Prop where
  keys : ∀ k, k ∈ after ↔ k ∈ before
  entries : ∀ k info c, before.lookup k = some (info, c) →
    ∃ info' c', after.lookup k = some (info', c') ∧ info'.ty = info.ty ∧ info'.features = info.features

/-- Every entry has the features that its type comes with. -/
def DefaultFeatures (map : AccessoryMap) : Prop :=
  ∀ k info c, map.lookup k = some (info, c) →
    info.features = (OdysseyHub.AccessoryInfo.withDefaults info.name info.ty).features

/-! ## There and back -/

theorem toCommon_ofCommon (ty : OdysseyHub.AccessoryType) : (AccessoryType.ofCommon ty).toCommon = ty := by
  cases ty with
  | dryFireMag => rfl
  | mantisX => rfl

/-- Features are always the same ones. -/
theorem features_withDefaults (name : String) (ty : OdysseyHub.AccessoryType) :
    (OdysseyHub.AccessoryInfo.withDefaults name ty).features = {.impact} := by
  cases ty with
  | dryFireMag => rfl
  | mantisX => rfl

/-- An info that is not edited loses its features alone. -/
theorem info_toCommon_ofCommon (info : OdysseyHub.AccessoryInfo) :
    (AccessoryInfo.ofCommon info).toCommon = { info with features := {.impact} } := by
  obtain ⟨name, ty, assignment, features⟩ := info
  have hassignment : ((assignment.map Subtype.val).bind fun v =>
      if h : v ≠ 0 then some (⟨v, h⟩ : { n : UInt64 // n ≠ 0 }) else none) = assignment := by
    cases assignment with
    | none => rfl
    | some n => exact dif_pos n.property
  unfold AccessoryInfo.toCommon AccessoryInfo.ofCommon
  rw [OdysseyHub.AccessoryInfo.mk.injEq]
  exact ⟨rfl, toCommon_ofCommon ty, hassignment, features_withDefaults name _⟩

/-! ## The entries that are sent back -/

section
variable {m : AccessoryMap} {edited : List AccessoryInfoMapEntry}

theorem keys_getAccessoryMap (m : AccessoryMap) :
    (getAccessoryMap m).map (fun e => Proto.key6 e.key) = m.entries.keys := by
  unfold getAccessoryMap List.keys
  rw [List.map_map]
  exact List.map_congr_left fun e _ => Proto.key6_key64 e.1

/-- No entry is missing, doubled or made up. -/
theorem Edits.keys (h : Edits m edited) : (edited.map (·.toCommon)).keys.Perm m.entries.keys := by
  have hkeys := h.map fun p => Proto.key6 p.1
  rw [List.map_map, List.map_map] at hkeys
  rw [← keys_getAccessoryMap]
  unfold List.keys
  rw [List.map_map]
  exact hkeys

theorem Edits.nodupKeys (h : Edits m edited) : (edited.map (·.toCommon)).NodupKeys :=
  h.keys.nodup_iff.mpr m.nodupKeys

theorem Edits.lookup (h : Edits m edited) (k : Uuid) :
    (infoMapOf edited).lookup k = (edited.map (·.toCommon)).dlookup k := by
  unfold infoMapOf
  rw [HashMap.lookup_insertAll _ _ h.nodupKeys]
  cases (edited.map (·.toCommon)).dlookup k with
  | none => rfl
  | some info => rfl

/-- Every entry of the map is sent with its type, whatever else has been edited. -/
theorem Edits.lookup_of_some (h : Edits m edited) {k : Uuid} {info : OdysseyHub.AccessoryInfo} {c : Bool}
    (hk : m.lookup k = some (info, c)) :
    ∃ e ∈ edited, e.key = Proto.key64 k ∧ e.info.ty.toCommon = info.ty ∧
      (infoMapOf edited).lookup k = some e.info.toCommon := by
  have hentry : (⟨k, info, c⟩ : Sigma fun _ : Uuid => OdysseyHub.AccessoryInfo × Bool) ∈ m.entries :=
    AList.mem_lookup_iff.mp hk
  have hmem : (Proto.key64 k, AccessoryType.ofCommon info.ty) ∈
      (getAccessoryMap m).map fun e => (e.key, e.status.info.ty) :=
    List.mem_map.mpr ⟨_, List.mem_map_of_mem hentry, rfl⟩
  obtain ⟨e, he, heq⟩ := List.mem_map.mp (List.Perm.mem_iff h |>.mpr hmem)
  obtain ⟨hkey, hty⟩ := Prod.mk.inj heq
  refine ⟨e, he, hkey, ?_, ?_⟩
  · rw [hty, toCommon_ofCommon]
  · have hsent : e.toCommon = ⟨k, e.info.toCommon⟩ := by
      unfold AccessoryInfoMapEntry.toCommon
      rw [hkey, Proto.key6_key64]
    rw [h.lookup]
    exact List.mem_dlookup h.nodupKeys (hsent ▸ List.mem_map_of_mem he)

/-- … and no other. -/
theorem Edits.lookup_of_none (h : Edits m edited) {k : Uuid} (hk : m.lookup k = none) :
    (infoMapOf edited).lookup k = none := by
  rw [h.lookup, List.dlookup_eq_none, h.keys.mem_iff]
  exact AList.lookup_eq_none.mp hk

end

/-! ## The map on the server -/

section
variable {json5 : Json5 OdysseyHub.AccessoryInfo} {s s' : Accessories}

theorem Edit.read_same (e : Edit json5 s s') : e.read.Same s.map := by
  obtain ⟨read, hread, hsame⟩ :=
    HashMap.collect_rekey Proto.key6_key64 (Proto.toPair_ofPair e.serverOrder) s.snapshot e.reply_same
  obtain rfl := Option.some.inj (hread.symm.trans e.toMap_reply)
  exact hsame

theorem Edit.incoming_same (e : Edit json5 s s') : e.incoming.Same (infoMapOf e.edited) := by
  obtain ⟨incoming, hincoming, hsame⟩ :=
    HashMap.collect_rekey Proto.key6_key64 (Proto.toInfo_ofInfo e.clientOrder) (infoMapOf e.edited) e.request_same
  obtain rfl := Option.some.inj (hincoming.symm.trans e.toMap_request)
  exact hsame

/-- Where the reload misses the file, the map stays as it was. -/
theorem Edit.lookup_missed (hj : json5.Lossless) (e : Edit json5 s s')
    (hmissed : Accessories.UpdateAnswers.missed e.answers = true) (k : Uuid) :
    s'.map.lookup k = s.map.lookup k := by
  obtain ⟨sent, hsent⟩ := e.updated
  obtain ⟨fresh, hmap, -, ⟨-, rfl⟩ | ⟨hno, -⟩⟩ := Accessories.update_cases hj hsent
  · rw [hmap, Accessories.lookup_keepFlag]
    rfl
  · rw [hmissed] at hno
    cases hno

/-- Otherwise the server has the entries as they were edited, with their flags … -/
theorem Edit.lookup_some (hj : json5.Lossless) (e : Edit json5 s s')
    (hmissed : Accessories.UpdateAnswers.missed e.answers = false) {k : Uuid} {info : OdysseyHub.AccessoryInfo}
    {c : Bool} (hk : s.map.lookup k = some (info, c)) :
    ∃ entry ∈ e.edited, entry.key = Proto.key64 k ∧ entry.info.ty.toCommon = info.ty ∧
      s'.map.lookup k = some (entry.info.toCommon, c) := by
  obtain ⟨sent, hupdated⟩ := e.updated
  obtain ⟨fresh, hmap, -, ⟨hyes, -⟩ | ⟨-, hfresh⟩⟩ := Accessories.update_cases hj hupdated
  · rw [hmissed] at hyes
    cases hyes
  · obtain ⟨entry, hentry, hkey, hty, hsent⟩ := e.edits.lookup_of_some ((e.read_same k).trans hk)
    refine ⟨entry, hentry, hkey, hty, ?_⟩
    rw [hmap, Accessories.lookup_keepFlag, hfresh, e.incoming_same, hsent, hk]
    rfl

/-- … and no others. -/
theorem Edit.lookup_none (hj : json5.Lossless) (e : Edit json5 s s') {k : Uuid} (hk : s.map.lookup k = none) :
    s'.map.lookup k = none := by
  obtain ⟨sent, hsent⟩ := e.updated
  obtain ⟨fresh, hmap, -, ⟨-, rfl⟩ | ⟨-, hfresh⟩⟩ := Accessories.update_cases hj hsent
  · rw [hmap, Accessories.lookup_keepFlag, hk]
    rfl
  · rw [hmap, Accessories.lookup_keepFlag, hfresh, e.incoming_same,
      e.edits.lookup_of_none ((e.read_same k).trans hk), hk]
    rfl

/-- Keys and types are left alone by every edit. -/
theorem Edit.keys_types (hj : json5.Lossless) (e : Edit json5 s s') :
    (∀ k, k ∈ s'.map ↔ k ∈ s.map) ∧
      ∀ k info c, s.map.lookup k = some (info, c) →
        ∃ info', s'.map.lookup k = some (info', c) ∧ info'.ty = info.ty ∧
          info'.features = if Accessories.UpdateAnswers.missed e.answers then info.features else {.impact} := by
  have hentries : ∀ k info c, s.map.lookup k = some (info, c) →
      ∃ info', s'.map.lookup k = some (info', c) ∧ info'.ty = info.ty ∧
        info'.features = if Accessories.UpdateAnswers.missed e.answers then info.features else {.impact} := by
    intro k info c hk
    cases hmissed : Accessories.UpdateAnswers.missed e.answers with
    | true => exact ⟨info, (e.lookup_missed hj hmissed k).trans hk, rfl, rfl⟩
    | false =>
      obtain ⟨entry, -, -, hty, hk'⟩ := e.lookup_some hj hmissed hk
      exact ⟨_, hk', hty, features_withDefaults entry.info.name entry.info.ty.toCommon⟩
  refine ⟨fun k => ?_, hentries⟩
  rw [HashMap.mem_iff_lookup, HashMap.mem_iff_lookup]
  cases hk : s.map.lookup k with
  | none => rw [e.lookup_none hj hk]
  | some p =>
    obtain ⟨info', hk', -⟩ := hentries k p.1 p.2 hk
    rw [hk']
    exact ⟨fun _ => ⟨_, rfl⟩, fun _ => ⟨_, rfl⟩⟩

/-- **Editing.**  Names and assignments are edited through the client, and everything else is left
as it was, exactly when the reload of the saved map is missed or all features are the default ones. -/
theorem edit_preserves_iff (hj : json5.Lossless) (e : Edit json5 s s') :
    Preserves s.map s'.map ↔ Accessories.UpdateAnswers.missed e.answers = true ∨ DefaultFeatures s.map := by
  obtain ⟨hkeys, hentries⟩ := e.keys_types hj
  constructor
  · intro hp
    cases hmissed : Accessories.UpdateAnswers.missed e.answers with
    | true => exact Or.inl rfl
    | false =>
      refine Or.inr fun k info c hk => ?_
      obtain ⟨info', c', hk', -, hfeatures⟩ := hp.entries k info c hk
      obtain ⟨info'', hk'', -, hdefault⟩ := hentries k info c hk
      rw [hk', Option.some.injEq, Prod.mk.injEq] at hk''
      rw [hmissed, ← hk''.1, hfeatures] at hdefault
      rw [features_withDefaults]
      exact hdefault
  · intro h
    refine ⟨hkeys, fun k info c hk => ?_⟩
    obtain ⟨info', hk', hty, hfeatures⟩ := hentries k info c hk
    refine ⟨info', c, hk', hty, ?_⟩
    rw [hfeatures]
    split
    · rfl
    · next hno =>
      rw [h.resolve_left hno k info c hk, features_withDefaults]

end

/-! ## An accessory is renamed -/

open Accessories (sampleKey sampleMag)

def leftMag : OdysseyHub.AccessoryInfo := { sampleMag with name := "left" }

/-- The file of the renamed accessory. -/
def leftJson : Json5 OdysseyHub.AccessoryInfo :=
  Json5.ofTable
    [([("0x010203040506", leftMag)],
      "\x7b\"0x010203040506\":\x7b\"name\":\"left\",\"ty\":\"DryFireMag\",\"assignment\":null,\"features\":[\"impact\"]\x7d\x7d")]

theorem leftJson_lossless : leftJson.Lossless := Json5.ofTable_lossless (by decide) (by decide)

/-- The accessory with its feature, or without. -/
def withMag (impact : Bool) : Accessories :=
  { file := none
    info := ∅
    map := AList.singleton sampleKey ({ sampleMag with features := if impact then {.impact} else ∅ }, true) }

def renamed (impact : Bool) : Accessories :=
  (Accessories.next leftJson (withMag impact) (AList.singleton sampleKey leftMag, {})).getD (withMag impact)

theorem step_renamed (impact : Bool) :
    Accessories.Step leftJson (withMag impact) (AList.singleton sampleKey leftMag, {}) (renamed impact) := by
  have hsome : ∀ impact,
      (Accessories.next leftJson (withMag impact) (AList.singleton sampleKey leftMag, {})).isSome = true := by
    decide +kernel
  obtain ⟨s', hs'⟩ := Option.isSome_iff_exists.mp (hsome impact)
  refine Accessories.step_of_next leftJson _ _ _ ?_
  rw [renamed, hs']
  rfl

def rename (impact : Bool) : Edit leftJson (withMag impact) (renamed impact) where
  serverOrder := AccessoryStream.oneFeature
  reply := .ofMap AccessoryStream.oneFeature (withMag impact).map
  reply_same _ := rfl
  read := (withMag impact).map
  toMap_reply := by
    cases impact with
    | true => rfl
    | false => rfl
  edited := [{ key := Proto.key64 sampleKey, info := { name := "left", ty := .dryFireMag, assignment := none } }]
  edits := List.Perm.refl _
  clientOrder := AccessoryStream.oneFeature
  request := .ofMap AccessoryStream.oneFeature (AList.singleton sampleKey leftMag)
  request_same _ := rfl
  incoming := AList.singleton sampleKey leftMag
  toMap_request := rfl
  answers := {}
  updated := step_renamed impact

theorem edit_preserves_iff_rename :
    Preserves (withMag true).map (renamed true).map ↔
      Accessories.UpdateAnswers.missed (rename true).answers = true ∨ DefaultFeatures (withMag true).map :=
  edit_preserves_iff leftJson_lossless (rename true)

/-- An accessory without features has one after it has been renamed. -/
theorem rename_adds_feature :
    ¬ ∀ (json5 : Json5 OdysseyHub.AccessoryInfo) (s s' : Accessories),
      json5.Lossless → Edit json5 s s' → Preserves s.map s'.map := by
  intro hall
  obtain ⟨-, hentries⟩ := (rename false).keys_types leftJson_lossless
  obtain ⟨info, hk, -, hfeatures⟩ := hentries sampleKey _ true rfl
  obtain ⟨info', c', hk', -, hkept⟩ := (hall _ _ _ leftJson_lossless (rename false)).entries sampleKey _ true rfl
  rw [hk, Option.some.injEq, Prod.mk.injEq] at hk'
  rw [← hk'.1, hfeatures] at hkept
  exact absurd hkept (by decide)

end Uniffi

end OdysseyHub
