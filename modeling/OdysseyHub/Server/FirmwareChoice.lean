import OdysseyHub.Server.Firmware
import Mathlib.Data.Prod.Lex
import Mathlib.Order.Bounds.Basic

/-!
# The choice of a firmware (firmware.rs)

`find_compatible_firmware` takes the first listed version that is compatible with the
device's and newer.  Versions are ordered by major, minor and patch in turn, and
compatible ones are those of one class; so in a list that is sorted newest-first the
choice is the greatest upgrade of the class, and leaves nothing to upgrade to.
-/

namespace OdysseyHub

/-! ## Sorted lists -/

/-- The first match in a list sorted downwards is the greatest. -/
theorem key_le_of_find? {α κ : Type} [Preorder κ] {key : α → κ} {l : List α} {p : α → Bool} {a : α}
    (hsorted : l.Pairwise fun a b => key b ≤ key a) (h : l.find? p = some a) :
    ∀ b ∈ l, p b = true → key b ≤ key a := by
  induction l with
  | nil => cases h
  | cons c l ih =>
    obtain ⟨hhead, htail⟩ := List.pairwise_cons.mp hsorted
    intro b hb hp
    by_cases hc : p c = true
    · rw [List.find?_cons_of_pos hc] at h
      obtain rfl := Option.some.inj h
      rcases List.mem_cons.mp hb with rfl | hb
      · exact le_refl _
      · exact hhead b hb
    · rw [List.find?_cons_of_neg hc] at h
      rcases List.mem_cons.mp hb with rfl | hb
      · exact absurd hp hc
      · exact ih htail h b hb hp

/-! ## Versions -/

namespace Version

/-- The order of versions: by major, then by minor, then by patch. -/
def key (v : Version) : Nat ×ₗ Nat ×ₗ Nat :=
  toLex (v.major.toNat, toLex (v.minor.toNat, v.patch.toNat))

theorem key_lt_key (v w : Version) :
    v.key < w.key ↔ v.major < w.major ∨
      v.major = w.major ∧ (v.minor < w.minor ∨ v.minor = w.minor ∧ v.patch < w.patch) := by
  simp only [key, Prod.Lex.toLex_lt_toLex, UInt16.lt_iff_toNat_lt, UInt16.toNat_inj]

/-- The versions that can replace each other: of one minor version of 0, or of one major version. -/
def compatClass (v : Version) : UInt16 × UInt16 := if v.major = 0 then (0, v.minor) else (v.major, 0)

end Version

theorem versionNewer_iff (device manifest : Version) :
    versionNewer device manifest = true ↔ device.key < manifest.key := by
  rw [Version.key_lt_key, versionNewer]
  by_cases hmajor : manifest.major = device.major
  · by_cases hminor : manifest.minor = device.minor
    · simp [hmajor, hminor]
    · simp [hmajor, hminor, Ne.symm hminor]
  · simp [hmajor, Ne.symm hmajor]

theorem versionsCompatible_iff (device manifest : Version) :
    versionsCompatible device manifest = true ↔ device.compatClass = manifest.compatClass := by
  rw [versionsCompatible]
  unfold Version.compatClass
  by_cases hd : device.major = 0
  · by_cases hm : manifest.major = 0
    · simp [hd, hm]
    · simp [hd, hm, Ne.symm hm]
  · by_cases hm : manifest.major = 0
    · simp [hd, hm]
    · simp [hd, hm]

/-! ## The choice -/

/-- The versions listed for a type of device, those that parse. -/
def FirmwareManifest.versions (manifest : FirmwareManifest) (deviceType : String) : List Version :=
  ((manifest.devices.lookup deviceType).map fun d => d.firmwares.filterMap FirmwareEntry.versionParts).getD []

/-- The versions of the class of `device` above it. -/
def Upgrades (manifest : FirmwareManifest) (deviceType : String) (device : Version) : Set Version :=
  {v | v ∈ manifest.versions deviceType ∧ versionsCompatible device v = true ∧ versionNewer device v = true}

section
variable {manifest : FirmwareManifest} {deviceType : String} {device : Version}

def upgrade (device v : Version) : Bool := versionsCompatible device v && versionNewer device v

theorem mem_upgrades (v : Version) :
    v ∈ Upgrades manifest deviceType device ↔ v ∈ manifest.versions deviceType ∧ upgrade device v = true := by
  simp [Upgrades, upgrade]

/-- The loop is a search in the versions that parse. -/
theorem find?_versions (manifest : FirmwareManifest) (deviceType : String) (device : Version) :
    (manifest.versions deviceType).find? (upgrade device) =
      (findCompatibleFirmware manifest deviceType device).bind FirmwareEntry.versionParts := by
  unfold FirmwareManifest.versions findCompatibleFirmware
  cases manifest.devices.lookup deviceType with
  | none => rfl
  | some d =>
    show (d.firmwares.filterMap FirmwareEntry.versionParts).find? (upgrade device) = _
    rw [List.find?_filterMap]
    congr 2
    funext fw
    cases fw.versionParts with
    | none => rfl
    | some v => rfl

/-- What is found has a version. -/
theorem versionParts_of_find {f : FirmwareEntry} (h : findCompatibleFirmware manifest deviceType device = some f) :
    ∃ v, f.versionParts = some v := by
  unfold findCompatibleFirmware at h
  obtain ⟨d, -, hfind⟩ := Option.bind_eq_some_iff.mp h
  have hmatch := List.find?_some hfind
  cases hv : f.versionParts with
  | none => simp [hv] at hmatch
  | some v => exact ⟨v, rfl⟩

theorem findCompatibleFirmware_eq_none_iff :
    findCompatibleFirmware manifest deviceType device = none ↔ Upgrades manifest deviceType device = ∅ := by
  have hfind := find?_versions manifest deviceType device
  constructor
  · intro h
    rw [h, Option.bind_none, List.find?_eq_none] at hfind
    ext v
    rw [mem_upgrades]
    exact iff_of_false (fun hv => hfind v hv.1 hv.2) (Set.notMem_empty v)
  · intro hempty
    cases h : findCompatibleFirmware manifest deviceType device with
    | none => rfl
    | some f =>
      obtain ⟨v, hv⟩ := versionParts_of_find h
      rw [h, Option.bind_some, hv] at hfind
      have hmem : v ∈ Upgrades manifest deviceType device :=
        (mem_upgrades v).mpr ⟨List.mem_of_find?_eq_some hfind, List.find?_some hfind⟩
      rw [hempty] at hmem
      exact hmem.elim

/-- An upgrade of an upgrade is one of the device. -/
theorem mem_upgrades_trans {v w : Version} (hv : v ∈ Upgrades manifest deviceType device)
    (hw : w ∈ Upgrades manifest deviceType v) : w ∈ Upgrades manifest deviceType device := by
  obtain ⟨-, hcompat, hnewer⟩ := hv
  obtain ⟨hlisted, hcompat', hnewer'⟩ := hw
  rw [versionsCompatible_iff] at hcompat hcompat'
  rw [versionNewer_iff] at hnewer hnewer'
  exact ⟨hlisted, (versionsCompatible_iff device w).mpr (hcompat.trans hcompat'),
    (versionNewer_iff device w).mpr (hnewer.trans hnewer')⟩

/-- What is chosen for a device: the greatest upgrade, after which there is no other. -/
structure GreatestUpgrade (manifest : FirmwareManifest) (deviceType : String) (device : Version)
    (f : FirmwareEntry) (v : Version) : Prop where
  version : f.versionParts = some v
  greatest : IsGreatest (Version.key '' Upgrades manifest deviceType device) v.key
  listed : v ∈ Upgrades manifest deviceType device
  sameClass : v.compatClass = device.compatClass
  last : findCompatibleFirmware manifest deviceType v = none

/-- **Choice.**  In a manifest sorted newest-first a firmware is found iff there is an
upgrade, and then it is the greatest one of the class. -/
theorem findCompatibleFirmware_greatest (manifest : FirmwareManifest) (deviceType : String) (device : Version)
    (hsorted : (manifest.versions deviceType).Pairwise fun v w => w.key ≤ v.key) :
    ((findCompatibleFirmware manifest deviceType device).isSome = true ↔
        ∃ v, v ∈ Upgrades manifest deviceType device) ∧
      ∀ f, findCompatibleFirmware manifest deviceType device = some f →
        ∃ v, GreatestUpgrade manifest deviceType device f v := by
  constructor
  · rw [Option.isSome_iff_ne_none, ne_eq, findCompatibleFirmware_eq_none_iff, ← ne_eq,
      ← Set.nonempty_iff_ne_empty]
    rfl
  · intro f hf
    obtain ⟨v, hv⟩ := versionParts_of_find hf
    have hfind : (manifest.versions deviceType).find? (upgrade device) = some v := by
      rw [find?_versions, hf, Option.bind_some, hv]
    have hmem : v ∈ Upgrades manifest deviceType device :=
      (mem_upgrades v).mpr ⟨List.mem_of_find?_eq_some hfind, List.find?_some hfind⟩
    have hmax : ∀ w ∈ Upgrades manifest deviceType device, w.key ≤ v.key := by
      intro w hw
      obtain ⟨hlisted, hup⟩ := (mem_upgrades w).mp hw
      exact key_le_of_find? hsorted hfind w hlisted hup
    refine ⟨v, hv, ⟨⟨v, hmem, rfl⟩, ?_⟩, hmem, ?_, ?_⟩
    · rintro _ ⟨w, hw, rfl⟩
      exact hmax w hw
    · exact ((versionsCompatible_iff device v).mp hmem.2.1).symm
    · rw [findCompatibleFirmware_eq_none_iff, Set.eq_empty_iff_forall_notMem]
      intro w hw
      have hlt : v.key < w.key := (versionNewer_iff v w).mp hw.2.2
      exact absurd (hmax w (mem_upgrades_trans hmem hw)) (not_le_of_gt hlt)

end

def sampleEntry (version : String) : FirmwareEntry := { version := version, files := ∅, released := "2025-01-01" }

/-- Three versions, newest first, and an entry without one. -/
def sampleVersions : FirmwareManifest :=
  { version := 1
    devices := Finmap.singleton "lite"
      { firmwares := [sampleEntry "1.2.0", sampleEntry "beta", sampleEntry "1.1.7", sampleEntry "0.9.0"] } }

theorem versions_sample :
    sampleVersions.versions "lite" = [Version.of 1 2 0, Version.of 1 1 7, Version.of 0 9 0] := by
  decide +kernel

theorem findCompatibleFirmware_greatest_sample :
    ((findCompatibleFirmware sampleVersions "lite" (Version.of 1 0 3)).isSome = true ↔
        ∃ v, v ∈ Upgrades sampleVersions "lite" (Version.of 1 0 3)) ∧
      ∀ f, findCompatibleFirmware sampleVersions "lite" (Version.of 1 0 3) = some f →
        ∃ v, GreatestUpgrade sampleVersions "lite" (Version.of 1 0 3) f v :=
  findCompatibleFirmware_greatest sampleVersions "lite" (Version.of 1 0 3) (by
    rw [versions_sample]
    refine .cons ?_ (.cons ?_ (.cons ?_ .nil))
    · rintro w (_ | ⟨_, _ | ⟨_, _ | _⟩⟩) <;> exact le_of_lt ((Version.key_lt_key _ _).mpr (by decide))
    · rintro w (_ | ⟨_, _ | _⟩)
      exact le_of_lt ((Version.key_lt_key _ _).mpr (by decide))
    · rintro w (_ | _))

end OdysseyHub
