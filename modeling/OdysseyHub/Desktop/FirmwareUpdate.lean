import OdysseyHub.Server.Firmware

/-!
# Firmware updates of the desktop application (firmware_update.rs)

`runFirmwareUpdate` is the update the application starts for a device, with the texts
of its errors; the states it shows meanwhile are left out, and so is the last wait,
which only logs whether the device came back.

`updates_keepToListed` is what both updates keep to, whatever the enumerations show: a
device they touch is listed under the ids of the update, the detach that enters
DFU mode goes to the device with the UUID if that is listed, and the one behind a
download to the device that received it.
-/

namespace OdysseyHub

/-- `firmware::download_firmware`: device type, version, file and its hash. -/
abbrev Fetch := String → String → String → String → Except String (List UInt8)

/-- The firmware to flash.  DFU devices have unknown firmware version and get the latest. -/
def chooseFirmware (manifest : FirmwareManifest) (device : Device) (deviceType : String) :
    Except String FirmwareEntry :=
  if device.capabilities.contains DeviceCapabilities.DFU then
    (findLatestFirmware manifest deviceType).elim
      (.error "No firmware available for this device type") .ok
  else if device.firmwareVersion = Version.of 0 0 0 then .error "No firmware version"
  else
    (findCompatibleFirmware manifest deviceType device.firmwareVersion).elim
      (.error "No compatible firmware found") .ok

/-- The device has no vendor interface: it is already waiting for a download. -/
def alreadyInDfu (e : Enumerations) (uuid : Uuid) (vid pid : UInt16) : Bool :=
  match findDeviceByUuid e.mode uuid vid pid with
  | .ok info => !info.interfaceClasses.any (· == 0xFF)
  | .error _ => false

/-- Detach the device and wait, unless it is in DFU mode. -/
def enterDfuMode (e : Enumerations) (uuid : Uuid) (vid pid : UInt16) : Logged Contact String Unit :=
  if alreadyInDfu e uuid vid pid then pure ()
  else do
    (sendDfuDetach e.detach uuid vid pid).mapError fun err => s!"DFU detach failed: {err.toString}"
    (waitForDfuDevice e.polls vid pid).mapError fun err =>
      s!"Device did not enter DFU mode: {err.toString}"

/-- Determine the slot, download the firmware for it and flash it. -/
def flashTarget (e : Enumerations) (firmwareEntry : FirmwareEntry) (deviceType : String)
    (vid pid : UInt16) (fetch : Fetch) : Logged Contact String Unit := do
  let target ← (determineTargetSlotForDevice e.slot vid pid).mapError fun err =>
    s!"Failed to determine target slot: {err.toString}"
  let fileEntry ← .ofExcept <| (firmwareEntry.files.lookup target.slotFile).elim
    (.error s!"Firmware file {target.slotFile} not found in manifest") .ok
  let firmwareData ← .ofExcept <|
    (fetch deviceType firmwareEntry.version target.slotFile fileEntry.sha256).mapError fun err =>
      s!"Download failed: {err}"
  let finalProgress ← (flashFirmwareWithProgress e.flash vid pid target.alt firmwareData).mapError
    fun err => s!"Flash failed: {err.toString}"
  if finalProgress < firmwareData.length then
    .throw s!"Flash incomplete: {finalProgress}/{firmwareData.length} bytes written"
  else pure ()

/-- Run the actual firmware update sequence. -/
def runFirmwareUpdate (e : Enumerations) (manifest : Option FirmwareManifest) (device : Device)
    (deviceType : String) (vid pid : UInt16) (fetch : Fetch) : Logged Contact String Unit := do
  let manifest ← .ofExcept (manifest.elim (.error "No manifest available") .ok)
  let firmwareEntry ← .ofExcept (chooseFirmware manifest device deviceType)
  enterDfuMode e device.uuid vid pid
  flashTarget e firmwareEntry deviceType vid pid fetch

section
variable {e : Enumerations} {uuid : Uuid} {vid pid : UInt16} {P : Contact → Prop}

open Logged

theorem spec_enterDfuMode
    (hP : ∀ kind : ContactKind, kind.Detaches → ∀ d, findDeviceByUuid e.detach uuid vid pid = .ok d → P ⟨kind, d⟩) :
    Spec (enterDfuMode e uuid vid pid) P (fun l _ => l = [] ∨ Detached l) := by
  unfold enterDfuMode
  split
  · exact .pure (.inl rfl)
  · refine ((spec_sendDfuDetach hP).mapError _).bind ?_
    intro l _ hl
    refine ((spec_waitForDfuDevice e.polls).mapError _).imp ?_
    rintro l' _ rfl
    exact .inr (by rwa [List.append_nil])

theorem spec_flashTarget (entry : FirmwareEntry) (deviceType : String) (fetch : Fetch)
    (hP : ∀ c, c.LookedUp e uuid vid pid → P c) :
    Spec (flashTarget e entry deviceType vid pid fetch) P
      (fun l _ => ∃ s f alt firmware, l =
        [⟨.slot, s⟩, ⟨.download alt firmware, f⟩, ⟨.flashDetach, f⟩, ⟨.flashReset, f⟩]) := by
  refine ((spec_determineTargetSlotForDevice fun d hd => hP ⟨.slot, d⟩ hd).mapError _).bind ?_
  rintro l target ⟨s, -, -, rfl, -⟩
  refine Spec.read fun file _ => Spec.read fun firmware _ => ?_
  refine ((spec_flashFirmwareWithProgress fun kind hk d hd => hP ⟨kind, d⟩ ?_).mapError _).bind ?_
  · rcases hk with rfl | rfl | rfl <;> exact hd
  rintro l progress ⟨f, -, rfl, -⟩
  split
  · exact .throw _
  · exact .pure ⟨s, f, target.alt, firmware, rfl⟩

theorem spec_runFirmwareUpdate (manifest : Option FirmwareManifest) (device : Device)
    (deviceType : String) (fetch : Fetch) :
    Spec (runFirmwareUpdate e manifest device deviceType vid pid fetch)
      (Contact.LookedUp e device.uuid vid pid) (fun l _ => Complete l) := by
  refine Spec.read fun m _ => Spec.read fun entry _ => (spec_enterDfuMode fun kind hk d hd => ?_).bind ?_
  · rcases hk with rfl | rfl <;> exact hd
  intro detached _ hdet
  refine (spec_flashTarget entry deviceType fetch fun _ hc => hc).imp ?_
  rintro l _ ⟨s, f, alt, firmware, rfl⟩
  exact ⟨detached, s, f, alt, firmware, rfl, hdet⟩

theorem restartsBehind_enterDfuMode : RestartsBehind (enterDfuMode e uuid vid pid).log := by
  refine .of_spec (spec_enterDfuMode fun kind hk d _ => ?_)
  rcases hk with rfl | rfl <;> simp [ContactKind.Restarts]

theorem restartsBehind_runFirmwareUpdate (manifest : Option FirmwareManifest) (device : Device)
    (deviceType : String) (fetch : Fetch) :
    RestartsBehind (runFirmwareUpdate e manifest device deviceType vid pid fetch).log := by
  refine .read fun m => .read fun entry => restartsBehind_enterDfuMode.bind fun _ => ?_
  refine RestartsBehind.bind restartsBehind_determineTargetSlot fun target => .read fun file =>
    .read fun firmware => .bind (restartsBehind_flashFirmware target.alt firmware) fun progress => ?_
  refine .of_spec (Q := fun _ _ => True) ?_
  split
  · exact .throw _
  · exact .pure trivial

end

/-- What an update keeps to, whatever the enumerations show: it touches only devices
listed under its ids, detaches the device with the UUID if that is listed, restarts the
device that received the download, touches no other device while no other is listed
under the ids, and succeeds only with a slot and a download, so not when an enumeration
it needs lists no device under the ids. -/
structure KeepsToListed {ε : Type} (e : Enumerations) (uuid : Uuid) (vid pid : UInt16)
    (x : Logged Contact ε Unit) : Prop where
  contacts : ∀ c ∈ x.log, c.Allowed e uuid vid pid
  restarts : ∀ c ∈ x.log, c.kind.Restarts →
    (∃ alt firmware, ⟨.download alt firmware, c.device⟩ ∈ x.log) ∧
      ∀ alt firmware d, ⟨.download alt firmware, d⟩ ∈ x.log → d = c.device
  alone : (∀ k ds, e.of k = .ok ds → ∀ d ∈ ds, d.hasIds vid pid = true → d.hasUuid uuid = true) →
    ∀ c ∈ x.log, c.device.hasUuid uuid = true
  complete : x.result = .ok () → Complete x.log
  fails : (∀ ds, e.slot = .ok ds → ∀ d ∈ ds, d.hasIds vid pid = false) ∨
    (∀ ds, e.flash = .ok ds → ∀ d ∈ ds, d.hasIds vid pid = false) → ∃ err, x.result = .error err

theorem keepsToListed_of_spec {ε : Type} {e : Enumerations} {uuid : Uuid} {vid pid : UInt16}
    {x : Logged Contact ε Unit} (h : x.Spec (Contact.LookedUp e uuid vid pid) (fun l _ => Complete l))
    (hbehind : RestartsBehind x.log) : KeepsToListed e uuid vid pid x where
  contacts c hc := (h.actions c hc).allowed
  restarts c hc hk := by
    refine ⟨hbehind c hc hk, fun alt firmware d hd => ?_⟩
    have hflash : findDevice e.flash vid pid = .ok d := h.actions _ hd
    have hrestart : c.kind.lookup e uuid vid pid = findDevice e.flash vid pid := by
      rcases hk with hk | hk <;> rw [hk] <;> rfl
    have hfound : findDevice e.flash vid pid = .ok c.device := by
      rw [← hrestart]
      exact h.actions c hc
    exact Except.ok.inj (hflash.symm.trans hfound)
  alone hal c hc := by
    have hallowed := (h.actions c hc).allowed
    obtain ⟨ds, hds, hd⟩ := hallowed.listed
    exact hal c.kind ds hds c.device hd hallowed.ids
  complete := h.value ()
  fails hnone := by
    cases hr : x.result with
    | error err => exact ⟨err, rfl⟩
    | ok =>
      exfalso
      obtain ⟨detached, s, f, alt, firmware, hlog, -⟩ := h.value () hr
      have hs := (h.actions ⟨.slot, s⟩ (by simp [hlog])).allowed
      have hf := (h.actions ⟨.download alt firmware, f⟩ (by simp [hlog])).allowed
      obtain hnone | hnone := hnone
      · obtain ⟨ds, hds, hd⟩ := hs.listed
        have hids : s.hasIds vid pid = true := hs.ids
        rw [hnone ds hds s hd] at hids
        cases hids
      · obtain ⟨ds, hds, hd⟩ := hf.listed
        have hids : f.hasIds vid pid = true := hf.ids
        rw [hnone ds hds f hd] at hids
        cases hids

/-- **Both updates keep to the devices listed under their ids.** -/
theorem updates_keepToListed (e : Enumerations) (vid pid : UInt16) :
    (∀ uuid firmware, KeepsToListed e uuid vid pid (updateFirmware e uuid vid pid firmware)) ∧
    (∀ manifest device deviceType fetch, KeepsToListed e device.uuid vid pid
      (runFirmwareUpdate e manifest device deviceType vid pid fetch)) :=
  ⟨fun _ firmware => keepsToListed_of_spec (spec_updateFirmware firmware fun _ hc => hc)
      (restartsBehind_updateFirmware firmware),
    fun manifest device deviceType fetch =>
      keepsToListed_of_spec (spec_runFirmwareUpdate manifest device deviceType fetch)
        (restartsBehind_runFirmwareUpdate manifest device deviceType fetch)⟩

/-! ## A device that is not listed -/

/-- A device with a vendor interface, or only the DFU interface of its bootloader, which
exposes bank A. -/
def sampleTarget (serialNumber : String) (bootloader : Bool) : DeviceInfo :=
  { vendorId := 0x1915
    productId := 0x5211
    serialNumber := some serialNumber
    interfaceClasses := if bootloader then [0xFE] else [0xFF, 0xFE]
    opened := .ok
      { configurations :=
          [[⟨0, [⟨0, 0xFE, 1, if bootloader then 2 else 1, if bootloader then some "APP_A" else none⟩]⟩]]
        claimInterface := .ok ()
        openDfu := fun _ => .ok ()
        detach := .ok ()
        download := .ok ()
        bytesRead := 4 } }

/-- The device is unplugged before the update looks for it; another one of its type stays
and answers the detach. -/
def otherListed : Enumerations :=
  { mode := .ok [sampleTarget "C0AAAAAAAAAA" false]
    detach := .ok [sampleTarget "C0AAAAAAAAAA" false]
    polls := [.ok [], .ok [sampleTarget "C0AAAAAAAAAA" true]]
    slot := .ok [sampleTarget "C0AAAAAAAAAA" true]
    flash := .ok [sampleTarget "C0AAAAAAAAAA" true] }

def sampleManifest : FirmwareManifest :=
  { version := 1
    devices := Finmap.singleton "atslite1"
      ⟨[⟨"1.2.0", Finmap.singleton "app-a" ⟨"00", 4⟩, "2025-01-01"⟩]⟩ }

def sampleDfuDevice : Device :=
  { uuid := Uuid.of 0xC0 1 2 3 4 5
    transport := .usb
    capabilities := ⟨DeviceCapabilities.DFU⟩
    firmwareVersion := Version.of 0 0 0
    eventsTransport := .wired
    eventsConnected := false
    productId := 0x5211
    name := Device.nameBytes "" }

/-- The update of the absent device. -/
def updateOfAbsent : Logged Contact String Unit :=
  runFirmwareUpdate otherListed (some sampleManifest) sampleDfuDevice "atslite1" 0x1915 0x5211
    fun _ _ _ _ => .ok [1, 2, 3, 4]

/-- It detaches and flashes the other one, and succeeds. -/
theorem updateOfAbsent_flashes_other :
    ¬ ((∀ c ∈ updateOfAbsent.log, c.device.hasUuid sampleDfuDevice.uuid = true) ∨
      ∃ err, updateOfAbsent.result = .error err) := by
  have hdetach : updateOfAbsent.log[0]? = some ⟨.detach, sampleTarget "C0AAAAAAAAAA" false⟩ := rfl
  have hresult : updateOfAbsent.result = .ok () := rfl
  rintro (h | ⟨err, herr⟩)
  · have hc := h _ (List.mem_of_getElem? hdetach)
    cases hc
  · rw [hresult] at herr
    cases herr

end OdysseyHub
