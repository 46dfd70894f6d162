import OdysseyHub.Interface.Proto
import OdysseyHub.Common.Accessory
import OdysseyHub.Lib.LittleEndian
import Mathlib.Data.Finset.Dedup
import Mathlib.Tactic.Common

/-!
# Accessories on the wire (service_interface.proto, odyssey_hub_server_interface)

The accessory messages as prost generates them, and the conversions to and from the common
maps.  What is sent is read back, whatever the order in which the maps and the feature sets
are gone through (`accessory_wire_lossless`).  A message from elsewhere can hold any
numbers; `toMap` unwraps the enum fields, `none` standing for the panic.
-/

namespace OdysseyHub

/-- The order in which the elements of a hash set come. -/
structure SetOrder (α : Type) [DecidableEq α] where
  toList : Finset α → List α
  nodup : ∀ s, (toList s).Nodup
  toFinset_toList : ∀ s, (toList s).toFinset = s

namespace Proto

/-! ## Messages -/

structure AccessoryInfo where
  name : String
  ty : Int32
  /-- 0 means none -/
  assignment : UInt64
  features : List Int32
  deriving DecidableEq, Repr

structure AccessoryStatus where
  accessory : Option AccessoryInfo
  connected : Bool
  deriving DecidableEq, Repr

structure AccessoryMapReply where
  accessoryMap : HashMap UInt64 AccessoryStatus

structure AccessoryInfoMap where
  accessoryInfoMap : HashMap UInt64 AccessoryInfo

/-! ## Conversions -/

def accessoryTypeToI32 : AccessoryType → Int32
  | .dryFireMag => 0
  | .mantisX => 1

/-- `proto::AccessoryType::try_from` -/
def accessoryTypeOfI32 (i : Int32) : Option AccessoryType :=
  if i = 0 then some .dryFireMag else if i = 1 then some .mantisX else none

def accessoryFeatureToI32 : AccessoryFeature → Int32
  | .impact => 0

/-- `proto::AccessoryFeature::try_from` -/
def accessoryFeatureOfI32 (i : Int32) : Option AccessoryFeature :=
  if i = 0 then some .impact else none

/-- `From<AccessoryInfo> for proto::AccessoryInfo` -/
def AccessoryInfo.ofInfo (order : SetOrder AccessoryFeature) (info : OdysseyHub.AccessoryInfo) : AccessoryInfo :=
  { name := info.name
    ty := accessoryTypeToI32 info.ty
    assignment := (info.assignment.map Subtype.val).getD 0
    features := (order.toList info.features).map accessoryFeatureToI32 }

/-- `From<proto::AccessoryInfo> for AccessoryInfo`: the enum fields are unwrapped. -/
def AccessoryInfo.toInfo (v : AccessoryInfo) : Option OdysseyHub.AccessoryInfo := do
  some
    { name := v.name
      ty := ← accessoryTypeOfI32 v.ty
      assignment := if h : v.assignment ≠ 0 then some ⟨v.assignment, h⟩ else none
      features := (← v.features.mapM accessoryFeatureOfI32).toFinset }

/-- An address as a map key of the wire: two zero bytes, then little endian. -/
def key64 (k6 : Uuid) : UInt64 := LittleEndian.u64OfBytes (k6.toList ++ [0, 0])

/-- The first six bytes. -/
def key6 (k64 : UInt64) : Uuid := uuidOfBytes ((LittleEndian.bytesOfU64 k64).take 6)

def AccessoryStatus.ofPair (order : SetOrder AccessoryFeature) (v : OdysseyHub.AccessoryInfo × Bool) :
    AccessoryStatus :=
  { accessory := some (.ofInfo order v.1), connected := v.2 }

def AccessoryStatus.toPair (status : AccessoryStatus) : Option (OdysseyHub.AccessoryInfo × Bool) := do
  some (← (← status.accessory).toInfo, status.connected)

/-- `From<AccessoryMap> for proto::AccessoryMapReply` -/
def AccessoryMapReply.ofMap (order : SetOrder AccessoryFeature) (map : AccessoryMap) : AccessoryMapReply :=
  ⟨map.rekey key64 (.ofPair order)⟩

/-- `From<proto::AccessoryMapReply> for AccessoryMap` -/
def AccessoryMapReply.toMap (v : AccessoryMapReply) : Option AccessoryMap :=
  v.accessoryMap.collect key6 (·.toPair)

/-- `From<AccessoryInfoMap> for proto::AccessoryInfoMap` -/
def AccessoryInfoMap.ofMap (order : SetOrder AccessoryFeature) (map : OdysseyHub.AccessoryInfoMap) :
    AccessoryInfoMap :=
  ⟨map.rekey key64 (.ofInfo order)⟩

/-- `From<proto::AccessoryInfoMap> for AccessoryInfoMap` -/
def AccessoryInfoMap.toMap (v : AccessoryInfoMap) : Option OdysseyHub.AccessoryInfoMap :=
  v.accessoryInfoMap.collect key6 (·.toInfo)

/-! ## Reading back what was sent -/

theorem key6_key64 : Function.LeftInverse key6 key64 := by
  intro k6
  have hlen : k6.toList.length = 6 := Vector.length_toList
  have hshort : k6.toList.length ≤ 8 := by omega
  have htake := LittleEndian.take_bytesOfU64 hshort
  rw [hlen] at htake
  unfold key6 key64
  exact (congrArg uuidOfBytes htake).trans (uuidOfBytes_toList k6)

theorem accessoryTypeOfI32_toI32 (ty : AccessoryType) : accessoryTypeOfI32 (accessoryTypeToI32 ty) = some ty := by
  cases ty with
  | dryFireMag => rfl
  | mantisX => rfl

theorem mapM_features (l : List AccessoryFeature) :
    (l.map accessoryFeatureToI32).mapM accessoryFeatureOfI32 = some l := by
  induction l with
  | nil => rfl
  | cons f l ih =>
    have hf : accessoryFeatureOfI32 (accessoryFeatureToI32 f) = some f := by
      cases f with
      | impact => rfl
    rw [List.map_cons, List.mapM_cons, hf, ih]
    rfl

theorem assignment_ofInfo (order : SetOrder AccessoryFeature) (info : OdysseyHub.AccessoryInfo) :
    (AccessoryInfo.ofInfo order info).assignment = 0 ↔ info.assignment = none := by
  unfold AccessoryInfo.ofInfo
  dsimp only
  cases info.assignment with
  | none => exact ⟨fun _ => rfl, fun _ => rfl⟩
  | some n => exact ⟨fun h => absurd h n.property, fun h => (by cases h)⟩

theorem toInfo_ofInfo (order : SetOrder AccessoryFeature) (info : OdysseyHub.AccessoryInfo) :
    (AccessoryInfo.ofInfo order info).toInfo = some info := by
  obtain ⟨name, ty, assignment, features⟩ := info
  unfold AccessoryInfo.toInfo AccessoryInfo.ofInfo
  dsimp only
  rw [accessoryTypeOfI32_toI32, mapM_features]
  have hassignment : (if h : (assignment.map Subtype.val).getD 0 ≠ 0 then
      some (⟨(assignment.map Subtype.val).getD 0, h⟩ : { n : UInt64 // n ≠ 0 }) else none) = assignment := by
    cases assignment with
    | none => rfl
    | some n => exact dif_pos n.property
  show some (OdysseyHub.AccessoryInfo.mk name ty _ (order.toList features).toFinset) = _
  rw [hassignment, order.toFinset_toList]

theorem toPair_ofPair (order : SetOrder AccessoryFeature) (v : OdysseyHub.AccessoryInfo × Bool) :
    (AccessoryStatus.ofPair order v).toPair = some v := by
  show ((AccessoryInfo.ofInfo order v.1).toInfo.bind fun info => some (info, v.2)) = some v
  rw [toInfo_ofInfo]
  rfl

/-- **Accessories on the wire.**  Both maps are read back as they were sent, from the message
in any order; no two addresses share a key, and 0 stands for no assignment alone. -/
theorem accessory_wire_lossless (order : SetOrder AccessoryFeature) :
    (∀ (map : AccessoryMap) (wire : AccessoryMapReply),
      wire.accessoryMap.Same (AccessoryMapReply.ofMap order map).accessoryMap →
      ∃ map', wire.toMap = some map' ∧ map'.Same map) ∧
    (∀ (map : OdysseyHub.AccessoryInfoMap) (wire : AccessoryInfoMap),
      wire.accessoryInfoMap.Same (AccessoryInfoMap.ofMap order map).accessoryInfoMap →
      ∃ map', wire.toMap = some map' ∧ map'.Same map) ∧
    Function.Injective key64 ∧
    ∀ info, (AccessoryInfo.ofInfo order info).assignment = 0 ↔ info.assignment = none := by
  refine ⟨fun map wire hw => ?_, fun map wire hw => ?_, key6_key64.injective, assignment_ofInfo order⟩
  · exact HashMap.collect_rekey key6_key64 (toPair_ofPair order) map hw
  · exact HashMap.collect_rekey key6_key64 (toInfo_ofInfo order) map hw

end Proto

end OdysseyHub
