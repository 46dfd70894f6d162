import OdysseyHub.Desktop.FirmwareUpdate

/-!
# The firmware a device is offered (firmware_update.rs, DeviceFirmwareUpdate)

The render step decides what to show for a device, `chooseFirmware` what its update
installs.  The first looks at the newest firmware of the device type, the second, for
a device that is not in DFU mode, at the newest one compatible with the device.

    OffersInstalled manifest device ↔ NewestInstallable manifest device   (offersInstalled_iff)
-/

namespace OdysseyHub

open DeviceCapabilities (CONTROL DFU)

/-! ## The render step -/

/-- Get device type name and VID/PID from product ID alone. -/
def deviceInfoFromPid (pid : UInt16) : Option (UInt16 × UInt16 × String) :=
  deviceMap.find? fun e => e.2.1 == pid

/-- State for a single device's firmware update. -/
inductive FirmwareUpdateState
  | idle
  /-- the device lacks USB control and needs to be plugged in -/
  | needsUsbConnection (current : Version) (available : String)
  | available (current : Version) (available deviceType : String) (vid pid : UInt16)
  | downloading
  | detaching
  | waitingForDfu
  | flashing (progress total : Nat)
  | rebooting
  | verifying
  | complete
  | failed (error : String)
  deriving DecidableEq, Repr

/-- True only when the device is stuck in DFU bootloader. -/
def isDfuBootloader (device : Device) : Bool :=
  device.capabilities.contains DFU && !device.capabilities.contains CONTROL

/-- The firmware worth showing: the latest, for a running device only if it is newer. -/
def offeredFirmware (manifest : FirmwareManifest) (device : Device) (deviceType : String) :
    Option FirmwareEntry :=
  if isDfuBootloader device then findLatestFirmware manifest deviceType
  else (findLatestFirmware manifest deviceType).filter fun fw =>
    (fw.versionParts.map (versionNewer device.firmwareVersion ·)).getD false

/-- `next_state` of a render. -/
def nextUpdateState (manifest : Option FirmwareManifest) (device : Device) : FirmwareUpdateState :=
  match manifest with
  | none => .idle
  | some manifest =>
    if device.productId == 0 || (device.firmwareVersion == Version.of 0 0 0 && !isDfuBootloader device) then
      .idle
    else
      match deviceInfoFromPid device.productId with
      | none => .idle
      | some (vid, pid, deviceType) =>
        match offeredFirmware manifest device deviceType with
        | none => .idle
        | some fw =>
          if isDfuBootloader device || device.capabilities.contains CONTROL then
            .available device.firmwareVersion fw.version deviceType vid pid
          else .needsUsbConnection device.firmwareVersion fw.version

/-- The render step: it leaves an update in progress alone. -/
def renderUpdateState (current : FirmwareUpdateState) (manifest : Option FirmwareManifest)
    (device : Device) : FirmwareUpdateState :=
  match current with
  | .idle | .available .. | .needsUsbConnection .. => nextUpdateState manifest device
  | current => current

/-! ## What is offered and what is installed -/

section
variable {manifest : FirmwareManifest} {device : Device} {deviceType version : String}
  {current : Version} {vid pid : UInt16} {fw : FirmwareEntry}

/-- **Inversion of the render step** at an offer. -/
theorem nextUpdateState_available
    (h : nextUpdateState (some manifest) device = .available current version deviceType vid pid) :
    device.firmwareVersion = current ∧ deviceInfoFromPid device.productId = some (vid, pid, deviceType) ∧
      (∃ fw, offeredFirmware manifest device deviceType = some fw ∧ fw.version = version) ∧
      (isDfuBootloader device = true ∨
        device.capabilities.contains CONTROL = true ∧ device.firmwareVersion ≠ Version.of 0 0 0) := by
  unfold nextUpdateState at h
  dsimp only at h
  split at h
  · cases h
  · next hknown =>
    split at h
    · cases h
    · next info hinfo =>
      split at h
      · cases h
      · next fw hfw =>
        split at h
        · next hcap =>
          cases h
          refine ⟨rfl, hinfo, ⟨fw, hfw, rfl⟩, ?_⟩
          cases hboot : isDfuBootloader device with
          | true => exact .inl rfl
          | false =>
            rw [hboot, Bool.false_or] at hcap
            refine .inr ⟨hcap, fun hzero => hknown ?_⟩
            simp [hboot, hzero]
        · cases h

theorem offeredFirmware_latest (h : offeredFirmware manifest device deviceType = some fw) :
    findLatestFirmware manifest deviceType = some fw := by
  unfold offeredFirmware at h
  split at h
  · exact h
  · exact (Option.filter_eq_some_iff.mp h).1

theorem offeredFirmware_newer (hboot : isDfuBootloader device = false) :
    offeredFirmware manifest device deviceType = some fw ↔
      findLatestFirmware manifest deviceType = some fw ∧
        ∃ v, fw.versionParts = some v ∧ versionNewer device.firmwareVersion v = true := by
  rw [offeredFirmware, hboot, if_neg Bool.false_ne_true, Option.filter_eq_some_iff]
  refine and_congr_right fun _ => ?_
  cases fw.versionParts with
  | none => simp
  | some v => simp

theorem versionParts_congr {f g : FirmwareEntry} (h : f.version = g.version) :
    f.versionParts = g.versionParts := by
  simp only [FirmwareEntry.versionParts, h]

theorem findLatestFirmware_eq_some : findLatestFirmware manifest deviceType = some fw ↔
    ∃ listed, manifest.devices.lookup deviceType = some listed ∧ listed.firmwares.head? = some fw :=
  Option.bind_eq_some_iff

/-- The firmware an update picks is compatible with the device. -/
theorem findCompatibleFirmware_compatible {v : Version}
    (h : findCompatibleFirmware manifest deviceType current = some fw) (hv : fw.versionParts = some v) :
    versionsCompatible current v = true := by
  obtain ⟨listed, -, hfind⟩ := Option.bind_eq_some_iff.mp h
  have hmatch := List.find?_some hfind
  rw [hv, Bool.and_eq_true] at hmatch
  exact hmatch.1

/-- The newest firmware is picked if it is newer and compatible. -/
theorem findCompatibleFirmware_head {v : Version} (h : findLatestFirmware manifest deviceType = some fw)
    (hv : fw.versionParts = some v) (hnew : versionNewer current v = true)
    (hcompat : versionsCompatible current v = true) :
    findCompatibleFirmware manifest deviceType current = some fw := by
  obtain ⟨listed, hlisted, hhead⟩ := findLatestFirmware_eq_some.mp h
  obtain ⟨rest, hrest⟩ := List.head?_eq_some_iff.mp hhead
  refine Option.bind_eq_some_iff.mpr ⟨listed, hlisted, ?_⟩
  rw [hrest, List.find?_cons_of_pos]
  simp [hv, hnew, hcompat]

end

/-- What the render step offers is what the update installs. -/
def OffersInstalled (manifest : FirmwareManifest) (device : Device) : Prop :=
  ∀ (shown : FirmwareUpdateState) (current : Version) (version deviceType : String) (vid pid : UInt16),
    renderUpdateState shown (some manifest) device = .available current version deviceType vid pid →
    ∃ entry, chooseFirmware manifest device deviceType = .ok entry ∧ entry.version = version

/-- The device gets the newest firmware anyway, or is offered none, or the newest firmware
of its type is compatible with it unless it is no newer. -/
def NewestInstallable (manifest : FirmwareManifest) (device : Device) : Prop :=
  device.capabilities.contains DFU = true ∨ device.capabilities.contains CONTROL = false ∨
  device.firmwareVersion = Version.of 0 0 0 ∨
  ∀ (vid pid : UInt16) (deviceType : String) (listed : DeviceManifest) (fw : FirmwareEntry) (v : Version),
    deviceInfoFromPid device.productId = some (vid, pid, deviceType) →
    manifest.devices.lookup deviceType = some listed → listed.firmwares.head? = some fw →
    fw.versionParts = some v → versionNewer device.firmwareVersion v = true →
    versionsCompatible device.firmwareVersion v = true

section
variable {manifest : FirmwareManifest} {device : Device}

theorem renderUpdateState_available {shown : FirmwareUpdateState} {current : Version}
    {version deviceType : String} {vid pid : UInt16}
    (h : renderUpdateState shown (some manifest) device = .available current version deviceType vid pid) :
    nextUpdateState (some manifest) device = .available current version deviceType vid pid := by
  cases shown with
  | idle | available | needsUsbConnection => exact h
  | downloading | detaching | waitingForDfu | flashing | rebooting | verifying | complete | failed => cases h

/-- A running device with control is offered the newest firmware of its type. -/
theorem nextUpdateState_of_newer (hcontrol : device.capabilities.contains CONTROL = true)
    (hversion : device.firmwareVersion ≠ Version.of 0 0 0) {vid pid : UInt16} {deviceType : String}
    (hinfo : deviceInfoFromPid device.productId = some (vid, pid, deviceType)) {fw : FirmwareEntry}
    (hfw : offeredFirmware manifest device deviceType = some fw) :
    nextUpdateState (some manifest) device =
      .available device.firmwareVersion fw.version deviceType vid pid := by
  have hpid : device.productId ≠ 0 := by
    intro h0
    rw [h0] at hinfo
    cases hinfo
  have hknown : (device.productId == 0 ||
      (device.firmwareVersion == Version.of 0 0 0 && !isDfuBootloader device)) = false := by
    simp [hpid, hversion]
  simp only [nextUpdateState, hknown, hinfo, hfw, hcontrol, Bool.or_true, Bool.false_eq_true, if_false,
    if_true]

theorem newestInstallable_of_offersInstalled (h : OffersInstalled manifest device) :
    NewestInstallable manifest device := by
  by_cases hdfu : device.capabilities.contains DFU = true
  · exact .inl hdfu
  by_cases hcontrol : device.capabilities.contains CONTROL = false
  · exact .inr (.inl hcontrol)
  by_cases hversion : device.firmwareVersion = Version.of 0 0 0
  · exact .inr (.inr (.inl hversion))
  refine .inr (.inr (.inr fun vid pid deviceType listed fw v hinfo hlisted hhead hv hnew => ?_))
  rw [Bool.not_eq_true] at hdfu
  rw [Bool.not_eq_false] at hcontrol
  have hboot : isDfuBootloader device = false := by simp [isDfuBootloader, hdfu]
  have hoffer : offeredFirmware manifest device deviceType = some fw :=
    (offeredFirmware_newer hboot).mpr ⟨findLatestFirmware_eq_some.mpr ⟨listed, hlisted, hhead⟩, v, hv, hnew⟩
  obtain ⟨entry, hchosen, hentry⟩ := h .idle _ _ _ _ _ (nextUpdateState_of_newer hcontrol hversion hinfo hoffer)
  unfold chooseFirmware at hchosen
  rw [if_neg (by simp [hdfu]), if_neg hversion] at hchosen
  cases hfind : findCompatibleFirmware manifest deviceType device.firmwareVersion with
  | none =>
    rw [hfind] at hchosen
    cases hchosen
  | some found =>
    rw [hfind] at hchosen
    cases hchosen
    exact findCompatibleFirmware_compatible hfind ((versionParts_congr hentry).trans hv)

theorem offersInstalled_of_newestInstallable (h : NewestInstallable manifest device) :
    OffersInstalled manifest device := by
  intro shown current version deviceType vid pid hrender
  obtain ⟨rfl, hinfo, ⟨fw, hfw, rfl⟩, hoffered⟩ :=
    nextUpdateState_available (renderUpdateState_available hrender)
  have hlatest := offeredFirmware_latest hfw
  refine ⟨fw, ?_, rfl⟩
  unfold chooseFirmware
  by_cases hdfu : device.capabilities.contains DFU = true
  · rw [if_pos hdfu, hlatest]
    rfl
  -- not in DFU mode: the render step took a newer firmware
  have hboot : isDfuBootloader device = false := by
    rw [Bool.not_eq_true] at hdfu
    simp [isDfuBootloader, hdfu]
  obtain hb | ⟨hcontrol, hversion⟩ := hoffered
  · rw [hboot] at hb
    cases hb
  obtain ⟨-, v, hv, hnew⟩ := (offeredFirmware_newer hboot).mp hfw
  obtain hd | hc | hz | hcompat := h
  · exact absurd hd hdfu
  · rw [hcontrol] at hc
    cases hc
  · exact absurd hz hversion
  · obtain ⟨listed, hlisted, hhead⟩ := findLatestFirmware_eq_some.mp hlatest
    have hpick := findCompatibleFirmware_head hlatest hv hnew
      (hcompat vid pid deviceType listed fw v hinfo hlisted hhead hv hnew)
    rw [if_neg hdfu, if_neg hversion, hpick]
    rfl

/-- **The offered firmware is the installed one** exactly when the newest one can be. -/
theorem offersInstalled_iff : OffersInstalled manifest device ↔ NewestInstallable manifest device :=
  ⟨newestInstallable_of_offersInstalled, offersInstalled_of_newestInstallable⟩

end

/-! ## A major version ahead -/

/-- A running device on 1.0.0, plugged in. -/
def samplePlugged : Device :=
  { sampleDfuDevice with
    capabilities := ⟨CONTROL⟩
    firmwareVersion := Version.of 1 0 0 }

/-- The manifest lists 2.0.0 over 1.1.0. -/
def sampleAhead : FirmwareManifest :=
  { version := 1
    devices := Finmap.singleton "atslite1" ⟨[⟨"2.0.0", ∅, "2025-06-01"⟩, ⟨"1.1.0", ∅, "2025-01-01"⟩]⟩ }

/-- The device is offered 2.0.0 and gets 1.1.0. -/
theorem samplePlugged_gets_other : ¬ OffersInstalled sampleAhead samplePlugged := by
  intro h
  obtain ⟨entry, hchosen, hversion⟩ := h .idle (Version.of 1 0 0) "2.0.0" "atslite1" 0x1915 0x5211
    (by decide +kernel)
  have hother : (chooseFirmware sampleAhead samplePlugged "atslite1").toOption.map (·.version)
      = some "1.1.0" := by decide +kernel
  rw [hchosen] at hother
  have : entry.version = "1.1.0" := Option.some.inj hother
  rw [hversion] at this
  revert this
  decide

end OdysseyHub
