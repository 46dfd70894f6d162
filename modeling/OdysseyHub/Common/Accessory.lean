import OdysseyHub.Common.Config
import Mathlib.Data.Finset.Insert

/-!
# Accessories (odyssey_hub_common::accessory)
-/

namespace OdysseyHub

inductive AccessoryType
  | dryFireMag
  | mantisX
  deriving DecidableEq, Repr

inductive AccessoryFeature
  | impact
  deriving DecidableEq, Repr

structure AccessoryInfo where
  name : String
  ty : AccessoryType
  /-- `Option<NonZeroU64>` -/
  assignment : Option { n : UInt64 // n ≠ 0 }
  features : Finset AccessoryFeature
  deriving DecidableEq

/-- The configured accessories, by address. -/
abbrev AccessoryInfoMap := HashMap Uuid AccessoryInfo

/-- … each with its connected flag. -/
abbrev AccessoryMap := HashMap Uuid (AccessoryInfo × Bool)

def accessoryMapAsync (json5 : Json5 AccessoryInfo) (file : ConfigFile) (a : LoadAnswers) :
    Option (ConfigLoadResult AccessoryInfoMap) :=
  Config.load json5 "accessory_map.json" file a

namespace AccessoryInfo

/-- `with_defaults` -/
def withDefaults (name : String) (ty : AccessoryType) : AccessoryInfo :=
  { name := name
    ty := ty
    assignment := none
    features :=
      match ty with
      | .dryFireMag => {.impact}
      | .mantisX => {.impact} }

/-- An info as numbers, for a sample codec. -/
def code (info : AccessoryInfo) : List Nat × Bool × Option Nat × Bool :=
  (info.name.toList.map Char.toNat, decide (info.ty = .mantisX),
    info.assignment.map fun n => n.val.toNat, decide (.impact ∈ info.features))

def ofCode (c : List Nat × Bool × Option Nat × Bool) : AccessoryInfo :=
  { name := String.ofList (c.1.map Char.ofNat)
    ty := if c.2.1 then .mantisX else .dryFireMag
    assignment := c.2.2.1.bind fun n =>
      if h : UInt64.ofNat n ≠ 0 then some ⟨UInt64.ofNat n, h⟩ else none
    features := if c.2.2.2 then {.impact} else ∅ }

theorem ofCode_code (info : AccessoryInfo) : ofCode (code info) = info := by
  obtain ⟨name, ty, assignment, features⟩ := info
  have hname : String.ofList ((name.toList.map Char.toNat).map Char.ofNat) = name := by
    simp [Function.comp_def]
  have hty : (if decide (ty = .mantisX) = true then AccessoryType.mantisX else .dryFireMag) = ty := by
    cases ty <;> rfl
  have hassignment : ((assignment.map fun n => n.val.toNat).bind fun n =>
      if h : UInt64.ofNat n ≠ 0 then some (⟨UInt64.ofNat n, h⟩ : { n : UInt64 // n ≠ 0 }) else none)
        = assignment := by
    cases assignment with
    | none => rfl
    | some n => simp [n.property]
  have hfeatures : (if decide (AccessoryFeature.impact ∈ features) = true then
      ({.impact} : Finset AccessoryFeature) else ∅) = features := by
    ext f
    cases f
    by_cases h : AccessoryFeature.impact ∈ features
    · simp [h]
    · simp [h]
  rw [AccessoryInfo.mk.injEq]
  exact ⟨hname, hty, hassignment, hfeatures⟩

instance : Encodable AccessoryInfo := Encodable.ofLeftInverse code ofCode ofCode_code

end AccessoryInfo

end OdysseyHub
