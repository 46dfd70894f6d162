import OdysseyHub.Desktop.FirmwareUpdate
import OdysseyHub.Server.FirmwareChoice

/-!
# The image an update flashes (firmware.rs, firmware_update.rs)

`downloadFirmware` checks what a server sent against the hash of the manifest.  What an
update writes to a device has passed that check, for the bank that was exposed when the
slot was determined and for a firmware the device is offered; and an update that
succeeds has one device that read all of it.

The server and the hash function are parameters.
-/

namespace OdysseyHub

/-- GitHub releases download base URL. -/
def RELEASES_BASE_URL : String := "https://github.com/odysseyarm/donger/releases/download"

/-- Build the download URL for a firmware file. -/
def buildDownloadUrl (deviceType version filename : String) : String :=
  s!"{RELEASES_BASE_URL}/{deviceType}-v{version}/{filename}.bin"

structure HttpResponse where
  status : UInt16
  /-- how the status is displayed -/
  statusText : String
  /-- `bytes()`, which can fail after the status was read -/
  bytes : Except String (List UInt8)

/-- `StatusCode::is_success` -/
def HttpResponse.isSuccess (r : HttpResponse) : Bool := decide (200 ≤ r.status ∧ r.status < 300)

/-- `client.get(url).send()` -/
abbrev HttpServer := String → Except String HttpResponse

/-- Download a firmware file and verify its SHA256 hash; `sha256` gives the hash as hex. -/
def downloadFirmware (http : HttpServer) (sha256 : List UInt8 → String) : Fetch :=
  fun deviceType version filename expectedSha256 => do
    let response ← http (buildDownloadUrl deviceType version filename)
    if response.isSuccess then
      let data ← response.bytes
      if sha256 data = expectedSha256 then .ok data
      else .error s!"SHA256 mismatch: expected {expectedSha256}, got {sha256 data}"
    else .error s!"Failed to download firmware: HTTP {response.statusText}"

/-- A download succeeds with what the server sent for the file, with the expected hash. -/
theorem downloadFirmware_eq_ok_iff {http : HttpServer} {sha256 : List UInt8 → String}
    {deviceType version filename expectedSha256 : String} {data : List UInt8} :
    downloadFirmware http sha256 deviceType version filename expectedSha256 = .ok data ↔
      (∃ response, http (buildDownloadUrl deviceType version filename) = .ok response ∧
        response.isSuccess = true ∧ response.bytes = .ok data) ∧ sha256 data = expectedSha256 := by
  unfold downloadFirmware
  cases http (buildDownloadUrl deviceType version filename) with
  | error err => simp [bind, Except.bind]
  | ok response =>
    cases hs : response.isSuccess with
    | false => simp [bind, Except.bind, hs]
    | true =>
      cases hb : response.bytes with
      | error err => simp [bind, Except.bind, hs, hb]
      | ok sent =>
        by_cases hsum : sha256 sent = expectedSha256
        · simp [bind, Except.bind, hs, hb, hsum]
          rintro rfl
          exact hsum
        · simp [bind, Except.bind, hs, hb, hsum]
          rintro rfl
          exact hsum

/-! ## What an update may write -/

/-- The firmware offered for the device: the first listed for one in DFU mode, else one
that upgrades its version. -/
def Offered (manifest : FirmwareManifest) (device : Device) (deviceType : String)
    (entry : FirmwareEntry) : Prop :=
  ∃ d, manifest.devices.lookup deviceType = some d ∧
    if device.capabilities.contains DeviceCapabilities.DFU then d.firmwares.head? = some entry
    else entry ∈ d.firmwares ∧ ∃ v, entry.versionParts = some v ∧
      v ∈ Upgrades manifest deviceType device.firmwareVersion

/-- The alt setting of a DFU interface whose description names the bank. -/
def ExposesBank (device : UsbDevice) (alt : UInt8) (slotName : String) : Prop :=
  ∃ interfaceNum, findDfuInterface device = .ok interfaceNum ∧
    ∃ a ∈ altSettingsOf device interfaceNum, a.isDfu = true ∧ a.alternateSetting = alt ∧
      a.description.any (containsStr · slotName) = true

/-- The bank to flash is one a listed device exposes; bank A goes first. -/
def ExposedSlot (listing : Listing) (vid pid : UInt16) (target : TargetSlot) : Prop :=
  ∃ info device, findDevice listing vid pid = .ok info ∧ info.opened = .ok device ∧
    ExposesBank device target.alt target.slotName ∧
    ((target.slotName, target.slotFile) = ("APP_A", "app-a") ∨
      (target.slotName, target.slotFile) = ("APP_B", "app-b") ∧
        ∀ alt, ¬ ExposesBank device alt "APP_A")

section
variable (e : Enumerations) (manifest : Option FirmwareManifest) (device : Device) (deviceType : String)
  (vid pid : UInt16) (http : HttpServer) (sha256 : List UInt8 → String)

/-- The image is the file of an offered firmware for the bank exposed where the slot was
determined: what the server sent under its URL, with the hash the manifest gives. -/
def Verified (alt : UInt8) (firmware : List UInt8) : Prop :=
  ∃ m entry target file, manifest = some m ∧ Offered m device deviceType entry ∧
    ExposedSlot e.slot vid pid target ∧ target.alt = alt ∧
    entry.files.lookup target.slotFile = some file ∧
    (∃ response, http (buildDownloadUrl deviceType entry.version target.slotFile) = .ok response ∧
      response.isSuccess = true ∧ response.bytes = .ok firmware) ∧
    sha256 firmware = file.sha256

/-- A contact that writes nothing, or a verified image. -/
def WritesVerified (c : Contact) : Prop :=
  ∀ alt firmware, c.kind = .download alt firmware →
    Verified e manifest device deviceType vid pid http sha256 alt firmware

end

/-- One image was written, and the device that got it has read all of it. -/
def WroteOnce (log : List Contact) : Prop :=
  ∃ before slot alt firmware info device, log = before ++
    [⟨.slot, slot⟩, ⟨.download alt firmware, info⟩, ⟨.flashDetach, info⟩, ⟨.flashReset, info⟩] ∧
    (before = [] ∨ Detached before) ∧
    info.opened = .ok device ∧ firmware.length ≤ device.bytesRead

/-! ## The choices -/

/-- `ok_or(err)` -/
theorem some_of_elim {ε α : Type} {o : Option α} {err : ε} {a : α}
    (h : o.elim (.error err) Except.ok = .ok a) : o = some a := by
  cases o with
  | none => cases h
  | some b =>
    cases h
    rfl

theorem offered_of_chooseFirmware {manifest : FirmwareManifest} {device : Device} {deviceType : String}
    {entry : FirmwareEntry} (h : chooseFirmware manifest device deviceType = .ok entry) :
    Offered manifest device deviceType entry := by
  unfold chooseFirmware at h
  split at h
  case isTrue hdfu =>
    obtain ⟨d, hd, hhead⟩ := Option.bind_eq_some_iff.mp (some_of_elim h)
    refine ⟨d, hd, ?_⟩
    rw [if_pos hdfu]
    exact hhead
  case isFalse hdfu =>
    split at h
    · cases h
    · have hcompat := some_of_elim h
      obtain ⟨d, hd, hfind⟩ := Option.bind_eq_some_iff.mp hcompat
      obtain ⟨v, hv⟩ := versionParts_of_find hcompat
      have hversions := find?_versions manifest deviceType device.firmwareVersion
      rw [hcompat, Option.bind_some, hv] at hversions
      refine ⟨d, hd, ?_⟩
      rw [if_neg hdfu]
      exact ⟨List.mem_of_find?_eq_some hfind, v, hv,
        (mem_upgrades v).mpr ⟨List.mem_of_find?_eq_some hversions, List.find?_some hversions⟩⟩

theorem exposesBank_of_findAlt {device : UsbDevice} {interfaceNum alt : UInt8} {slot : String}
    (hi : findDfuInterface device = .ok interfaceNum)
    (h : findAltForSlot device interfaceNum slot = .ok alt) : ExposesBank device alt slot := by
  unfold findAltForSlot at h
  split at h
  · next a hfind =>
    cases h
    have hmatch := List.find?_some hfind
    rw [Bool.and_eq_true] at hmatch
    exact ⟨interfaceNum, hi, a, List.mem_of_find?_eq_some hfind, hmatch.1, rfl, hmatch.2⟩
  · cases h

/-- A bank that is not found is not exposed under any number. -/
theorem not_exposesBank_of_findAlt {device : UsbDevice} {interfaceNum : UInt8} {slot : String} {err : DfuError}
    (hi : findDfuInterface device = .ok interfaceNum)
    (h : findAltForSlot device interfaceNum slot = .error err) (alt : UInt8) :
    ¬ ExposesBank device alt slot := by
  rintro ⟨i, hi', a, ha, hdfu, -, hdesc⟩
  rw [hi] at hi'
  cases hi'
  unfold findAltForSlot at h
  split at h
  · cases h
  · next hfind => exact List.find?_eq_none.mp hfind a ha (by rw [hdfu, hdesc]; rfl)

theorem exposed_of_determineTargetSlot {listing : Listing} {vid pid : UInt16} {info : DeviceInfo}
    {device : UsbDevice} {interfaceNum : UInt8} {target : TargetSlot}
    (hinfo : findDevice listing vid pid = .ok info) (hopen : info.opened = .ok device)
    (hi : findDfuInterface device = .ok interfaceNum)
    (h : determineTargetSlot device interfaceNum = .ok target) : ExposedSlot listing vid pid target := by
  refine ⟨info, device, hinfo, hopen, ?_⟩
  unfold determineTargetSlot at h
  split at h
  · next alt ha =>
    cases h
    exact ⟨exposesBank_of_findAlt hi ha, .inl rfl⟩
  · next alt hb hnone =>
    cases h
    refine ⟨exposesBank_of_findAlt hi hb, .inr ⟨rfl, ?_⟩⟩
    cases ha : findAltForSlot device interfaceNum "APP_A" with
    | ok alt' => exact absurd ha (hnone alt')
    | error err => exact not_exposesBank_of_findAlt hi ha
  · cases h

/-! ## The update -/

section
variable {e : Enumerations} {manifest : Option FirmwareManifest} {device : Device} {deviceType : String}
  {vid pid : UInt16} {http : HttpServer} {sha256 : List UInt8 → String}

open Logged

theorem writesVerified_of_ne {kind : ContactKind} (h : ∀ alt firmware, kind ≠ .download alt firmware)
    (d : DeviceInfo) : WritesVerified e manifest device deviceType vid pid http sha256 ⟨kind, d⟩ :=
  fun alt firmware hc => absurd hc (h alt firmware)

theorem image_flashTarget {m : FirmwareManifest} {entry : FirmwareEntry} (hm : manifest = some m)
    (hoffered : Offered m device deviceType entry) :
    Spec (flashTarget e entry deviceType vid pid (downloadFirmware http sha256))
      (WritesVerified e manifest device deviceType vid pid http sha256)
      (fun l _ => ∃ slot alt firmware info dev,
        l = [⟨.slot, slot⟩, ⟨.download alt firmware, info⟩, ⟨.flashDetach, info⟩, ⟨.flashReset, info⟩] ∧
        info.opened = .ok dev ∧ firmware.length ≤ dev.bytesRead) := by
  refine ((spec_determineTargetSlotForDevice fun d _ => writesVerified_of_ne (by simp) d).mapError _).bind ?_
  rintro l target ⟨slot, opened, i, rfl, hslot, hopened, hi, htarget⟩
  have hexposed := exposed_of_determineTargetSlot hslot hopened hi htarget
  refine Spec.read fun file hfile => Spec.read fun firmware hfetch => ?_
  have hsent := downloadFirmware_eq_ok_iff.mp (ok_of_mapError hfetch)
  refine ((spec_flashFirmwareWithProgress fun kind hk d _ alt fw hc => ?_).mapError _).bind ?_
  · rcases hk with rfl | rfl | rfl
    · cases hc
      exact ⟨m, entry, target, file, hm, hoffered, hexposed, rfl, some_of_elim hfile, hsent.1, hsent.2⟩
    · cases hc
    · cases hc
  rintro l progress ⟨info, dev, rfl, hopen, rfl⟩
  split
  · exact .throw _
  · next hread => exact .pure ⟨slot, target.alt, firmware, info, dev, rfl, hopen, Nat.not_lt.mp hread⟩

/-- **What an update writes is verified**, whatever is plugged in, listed and sent; and
after an update that succeeds it is in a device. -/
theorem update_writesVerified (e : Enumerations) (manifest : Option FirmwareManifest) (device : Device)
    (deviceType : String) (vid pid : UInt16) (http : HttpServer) (sha256 : List UInt8 → String) :
    (∀ c ∈ (runFirmwareUpdate e manifest device deviceType vid pid (downloadFirmware http sha256)).log,
      WritesVerified e manifest device deviceType vid pid http sha256 c) ∧
    ((runFirmwareUpdate e manifest device deviceType vid pid (downloadFirmware http sha256)).result = .ok () →
      WroteOnce (runFirmwareUpdate e manifest device deviceType vid pid (downloadFirmware http sha256)).log) := by
  have hspec : Spec (runFirmwareUpdate e manifest device deviceType vid pid (downloadFirmware http sha256))
      (WritesVerified e manifest device deviceType vid pid http sha256) (fun l _ => WroteOnce l) := by
    refine Spec.read fun m hm => Spec.read fun entry hentry =>
      (spec_enterDfuMode fun kind hk d _ => writesVerified_of_ne ?_ d).bind ?_
    · rcases hk with rfl | rfl <;> simp
    intro before _ hbefore
    refine (image_flashTarget (some_of_elim hm) (offered_of_chooseFirmware hentry)).imp ?_
    rintro l _ ⟨slot, alt, firmware, info, dev, rfl, hopen, hread⟩
    exact ⟨before, slot, alt, firmware, info, dev, rfl, hbefore, hopen, hread⟩
  exact ⟨hspec.actions, hspec.value ()⟩

end

end OdysseyHub
