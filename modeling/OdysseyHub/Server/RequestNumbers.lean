import OdysseyHub.Server.Requests
import OdysseyHub.Server.ShotDelay

/-!
# The numbers of a request (server.rs)

The fields of a message are `u32`; commands, the shot delay and the screen ids are `u8` and
`u16`, and the RPCs narrow with `as`.  A request acts on the numbers it names exactly when
they fit, or when it is not acted on at all (`actsAsNamed_iff`).
-/

namespace OdysseyHub

namespace Proto

structure SetShotDelayRequest where
  device : Option Device
  delayMs : UInt32

structure ScreenInfoByIdRequest where
  id : UInt32

structure ScreenBounds where
  tl : Option Vector2
  tr : Option Vector2
  bl : Option Vector2
  br : Option Vector2

structure ScreenInfoReply where
  id : UInt32
  bounds : Option ScreenBounds

end Proto

/-- What `set_shot_delay` does: `set_shot_delay_live`, and the message to the task. -/
structure ShotDelaySet where
  live : Uuid × UInt16
  sent : Option (HandlerId × DeviceTaskMessage)

namespace Requests

variable {C : Type} (l : DeviceList) (a : TaskAnswers)

/-- The device is taken as its uuid; a task that cannot be told is no error. -/
def setShotDelay (r : Proto.SetShotDelayRequest) : Except Status ShotDelaySet := do
  let device ← orInvalid r.device "device missing"
  let uuid := Proto.uuidOfBytes device.uuid
  let ms := r.delayMs.toUInt16
  .ok { live := (uuid, ms), sent := (trySend l a uuid (.setShotDelay ms)).sent }

/-- The loop of `get_screen_info_by_id` over the calibrations. -/
def findScreen (calibrations : List (UInt8 × C)) (id : UInt8) : Option (UInt8 × C) :=
  calibrations.find? fun c => c.1 == id

/-- `bounds` are the corners of a calibration. -/
def getScreenInfoById (bounds : C → Vector (Vector F32 2) 4) (calibrations : List (UInt8 × C))
    (r : Proto.ScreenInfoByIdRequest) : Except Status Proto.ScreenInfoReply :=
  let id := r.id.toUInt8
  match findScreen calibrations id with
  | some (_, cal) =>
    let b := bounds cal
    .ok
      { id := id.toUInt32
        bounds := some
          { tl := some (.ofVector (b.get 0))
            tr := some (.ofVector (b.get 1))
            bl := some (.ofVector (b.get 2))
            br := some (.ofVector (b.get 3)) } }
  | none => .error (.notFound "screen id")

theorem setShotDelay_ok_iff {r : Proto.SetShotDelayRequest} {d : ShotDelaySet} :
    setShotDelay l a r = .ok d ↔ ∃ device, r.device = some device ∧
      d.live = (Proto.uuidOfBytes device.uuid, r.delayMs.toUInt16) ∧
      d.sent = (trySend l a (Proto.uuidOfBytes device.uuid) (.setShotDelay r.delayMs.toUInt16)).sent := by
  unfold setShotDelay
  cases hd : r.device with
  | none =>
    constructor
    · intro h
      cases h
    · rintro ⟨device, h, -⟩
      cases h
  | some device =>
    constructor
    · intro h
      cases h
      exact ⟨device, rfl, rfl, rfl⟩
    · rintro ⟨device', hdev, hlive, hsent⟩
      cases hdev
      obtain ⟨live, sent⟩ := d
      cases hlive
      cases hsent
      rfl

/-- The live part is the `set` of the shot-delay tables. -/
theorem setShotDelay_live {r : Proto.SetShotDelayRequest} {d : ShotDelaySet} (h : setShotDelay l a r = .ok d)
    {s : ShotDelays} (hs : s.rpc = .idle) :
    s.request (.set r.delayMs) = some { s with deviceShotDelay := some d.live.2, rpc := .watching d.live.2 } := by
  obtain ⟨device, -, hlive, -⟩ := (setShotDelay_ok_iff l a).mp h
  rw [hlive]
  unfold ShotDelays.request
  exact if_pos hs

/-! ## Reaching a task -/

/-- A task of the device is listed, and its channel takes the command. -/
def Reaches (device : Option Proto.Device) (k : HandlerId) : Prop :=
  ∃ d dev, device = some d ∧ d.toDevice = some dev ∧ l.senderForUuid dev.uuid = some (some k) ∧ a.accepts = true

variable {l a} {α : Type} {k : HandlerId} {m m' : DeviceTaskMessage}

theorem sent_trySend {uuid : Uuid} : (trySend l a uuid m).sent = some (k, m') ↔
    l.senderForUuid uuid = some (some k) ∧ a.accepts = true ∧ m' = m := by
  unfold trySend
  split
  · next k' hk =>
    rw [hk]
    split
    · next hacc => simp [hacc, eq_comm]
    · next hacc => simp [hacc, reject]
  · next hk => simp [hk, reject]
  · next hk => simp [hk, reject]

theorem sent_ask {uuid : Uuid} {reply : Option (Except String α)} :
    (ask l a uuid m reply).sent = (trySend l a uuid m).sent := by
  unfold ask trySend
  split
  · split
    · rfl
    · rfl
  · rfl
  · rfl

theorem sent_withDevice {device : Option Proto.Device} {f : Device → Served α}
    (hf : ∀ dev, (f dev).sent = (trySend l a dev.uuid m).sent) :
    (withDevice device f).bind (·.sent) = some (k, m') ↔ Reaches l a device k ∧ m' = m := by
  unfold Reaches withDevice
  cases device with
  | none => simp [reject]
  | some d =>
    show (d.toDevice.map f).bind (·.sent) = some (k, m') ↔ _
    cases hd : d.toDevice with
    | none => simp [hd]
    | some dev =>
      rw [Option.map_some, Option.bind_some, hf, sent_trySend]
      simp [hd, and_assoc]

end Requests

/-- The numbers of a command. -/
def DeviceTaskMessage.numbers : DeviceTaskMessage → List Nat
  | .writeVendor tag _ => [tag.toNat]
  | .setShotDelay ms => [ms.toNat]
  | .readRegister port bank address => [port.toNat, bank.toNat, address.toNat]
  | .writeRegister port bank address data => [port.toNat, bank.toNat, address.toNat, data.toNat]
  | .readConfig kind => [kind.toNat]
  | .writeConfig kind value => [kind.toNat, value.toNat]
  | _ => []

/-- The requests that are narrowed. -/
inductive NumberedRequest
  | writeVendor (r : Proto.WriteVendorRequest)
  | readRegister (r : Proto.ReadRegisterRequest)
  | writeRegister (r : Proto.WriteRegisterRequest)
  | readConfig (r : Proto.ReadConfigRequest)
  | writeConfig (r : Proto.WriteConfigRequest)
  | setShotDelay (r : Proto.SetShotDelayRequest)
  | getScreenInfoById (r : Proto.ScreenInfoByIdRequest)

namespace NumberedRequest

open Requests

/-- The numbers it names. -/
def numbers : NumberedRequest → List UInt32
  | .writeVendor r => [r.tag]
  | .readRegister r => [r.port, r.bank, r.address]
  | .writeRegister r => [r.port, r.bank, r.address, r.data]
  | .readConfig r => [r.kind]
  | .writeConfig r => [r.kind, r.value]
  | .setShotDelay r => [r.delayMs]
  | .getScreenInfoById r => [r.id]

/-- The numbers a command or an id can hold. -/
def bound : NumberedRequest → Nat
  | .setShotDelay _ => 65536
  | _ => 256

/-- Every number fits. -/
def Fits (req : NumberedRequest) : Prop := ∀ x ∈ req.numbers, x.toNat < req.bound

variable {C : Type} (l : DeviceList) (a : TaskAnswers) (calibrations : List (UInt8 × C))

/-- The request acts on the numbers `ns`: they reach the task of a device, are set as its
shot delay, or are the id of the screen found. -/
def ActsOn (ns : List Nat) : NumberedRequest → Prop
  | .writeVendor r => ∃ k m, (Requests.writeVendor l a r).bind (·.sent) = some (k, m) ∧ m.numbers = ns
  | .readRegister r => ∃ k m, (Requests.readRegister l a r).bind (·.sent) = some (k, m) ∧ m.numbers = ns
  | .writeRegister r => ∃ k m, (Requests.writeRegister l a r).bind (·.sent) = some (k, m) ∧ m.numbers = ns
  | .readConfig r => ∃ k m, (Requests.readConfig l a r).bind (·.sent) = some (k, m) ∧ m.numbers = ns
  | .writeConfig r => ∃ k m, (Requests.writeConfig l a r).bind (·.sent) = some (k, m) ∧ m.numbers = ns
  | .setShotDelay r => ∃ d, Requests.setShotDelay l a r = .ok d ∧
      ([d.live.2.toNat] = ns ∨ ∃ k m, d.sent = some (k, m) ∧ m.numbers = ns)
  | .getScreenInfoById r => ∃ c, findScreen calibrations r.id.toUInt8 = some c ∧ [c.1.toNat] = ns

/-- It acts on the numbers it names, or not at all. -/
def ActsAsNamed (req : NumberedRequest) : Prop :=
  ∀ ns, req.ActsOn l a calibrations ns → ns = req.numbers.map UInt32.toNat

/-- There is something to act on. -/
def Reached : NumberedRequest → Prop
  | .writeVendor r => ∃ k, Reaches l a r.device k
  | .readRegister r => ∃ k, Reaches l a r.device k
  | .writeRegister r => ∃ k, Reaches l a r.device k
  | .readConfig r => ∃ k, Reaches l a r.device k
  | .writeConfig r => ∃ k, Reaches l a r.device k
  | .setShotDelay r => ∃ d, r.device = some d
  | .getScreenInfoById r => ∃ c ∈ calibrations, c.1 = r.id.toUInt8

/-- The numbers as they are narrowed. -/
def narrowed (req : NumberedRequest) : List Nat := req.numbers.map fun x => x.toNat % req.bound

theorem narrowed_eq_iff (req : NumberedRequest) : req.narrowed = req.numbers.map UInt32.toNat ↔ req.Fits := by
  have hpos : 0 < req.bound := by
    unfold bound
    split <;> decide
  unfold narrowed Fits
  rw [List.map_inj_left]
  refine forall_congr' fun x => imp_congr_right fun _ => ?_
  exact ⟨fun h => h ▸ Nat.mod_lt _ hpos, fun h => Nat.mod_eq_of_lt h⟩

variable {l a calibrations}

/-- A command is sent exactly if the task is reached. -/
theorem sent_numbers_iff {device : Option Proto.Device} {α : Type} {f : Device → Served α} {m : DeviceTaskMessage}
    (hf : ∀ dev, (f dev).sent = (trySend l a dev.uuid m).sent) {ns : List Nat} :
    (∃ k m', (withDevice device f).bind (·.sent) = some (k, m') ∧ m'.numbers = ns) ↔
      (∃ k, Reaches l a device k) ∧ ns = m.numbers := by
  constructor
  · rintro ⟨k, m', hs, rfl⟩
    obtain ⟨hr, rfl⟩ := (sent_withDevice hf).mp hs
    exact ⟨⟨k, hr⟩, rfl⟩
  · rintro ⟨⟨k, hr⟩, rfl⟩
    exact ⟨k, m, (sent_withDevice hf).mpr ⟨hr, rfl⟩, rfl⟩

theorem setShotDelay_actsOn_iff {r : Proto.SetShotDelayRequest} {ns : List Nat} :
    (NumberedRequest.setShotDelay r).ActsOn l a calibrations ns ↔
      (∃ d, r.device = some d) ∧ ns = [r.delayMs.toUInt16.toNat] := by
  constructor
  · rintro ⟨d, hd, hns⟩
    obtain ⟨device, hdev, hlive, hsent⟩ := (setShotDelay_ok_iff l a).mp hd
    refine ⟨⟨device, hdev⟩, ?_⟩
    rcases hns with rfl | ⟨k, m, hs, rfl⟩
    · rw [hlive]
    · obtain ⟨-, -, rfl⟩ := sent_trySend.mp (hsent ▸ hs)
      rfl
  · rintro ⟨⟨device, hdev⟩, rfl⟩
    let uuid := Proto.uuidOfBytes device.uuid
    let d : ShotDelaySet :=
      { live := (uuid, r.delayMs.toUInt16), sent := (trySend l a uuid (.setShotDelay r.delayMs.toUInt16)).sent }
    exact ⟨d, (setShotDelay_ok_iff l a).mpr ⟨device, hdev, rfl, rfl⟩, Or.inl rfl⟩

theorem getScreenInfoById_actsOn_iff {r : Proto.ScreenInfoByIdRequest} {ns : List Nat} :
    (NumberedRequest.getScreenInfoById r).ActsOn l a calibrations ns ↔
      (∃ c ∈ calibrations, c.1 = r.id.toUInt8) ∧ ns = [r.id.toUInt8.toNat] := by
  unfold ActsOn findScreen
  dsimp only
  constructor
  · rintro ⟨c, hc, rfl⟩
    have hid : c.1 = r.id.toUInt8 := by simpa using List.find?_some hc
    exact ⟨⟨c, List.mem_of_find?_eq_some hc, hid⟩, by rw [hid]⟩
  · rintro ⟨⟨c, hc, hid⟩, rfl⟩
    have hfound : (calibrations.find? fun c => c.1 == r.id.toUInt8).isSome := by
      rw [List.find?_isSome]
      exact ⟨c, hc, by simpa using hid⟩
    obtain ⟨c', hc'⟩ := Option.isSome_iff_exists.mp hfound
    have hid' : c'.1 = r.id.toUInt8 := by simpa using List.find?_some hc'
    exact ⟨c', hc', by rw [hid']⟩

/-- What a request acts on. -/
theorem actsOn_iff (req : NumberedRequest) (ns : List Nat) :
    req.ActsOn l a calibrations ns ↔ req.Reached l a calibrations ∧ ns = req.narrowed := by
  cases req with
  | writeVendor r =>
    refine (sent_numbers_iff fun dev => rfl).trans (and_congr_right fun _ => ?_)
    simp [narrowed, numbers, bound, DeviceTaskMessage.numbers]
  | readRegister r =>
    refine (sent_numbers_iff fun dev => sent_ask).trans (and_congr_right fun _ => ?_)
    simp [narrowed, numbers, bound, DeviceTaskMessage.numbers]
  | writeRegister r =>
    refine (sent_numbers_iff fun dev => sent_ask).trans (and_congr_right fun _ => ?_)
    simp [narrowed, numbers, bound, DeviceTaskMessage.numbers]
  | readConfig r =>
    refine (sent_numbers_iff fun dev => sent_ask).trans (and_congr_right fun _ => ?_)
    simp [narrowed, numbers, bound, DeviceTaskMessage.numbers]
  | writeConfig r =>
    refine (sent_numbers_iff fun dev => sent_ask).trans (and_congr_right fun _ => ?_)
    simp [narrowed, numbers, bound, DeviceTaskMessage.numbers]
  | setShotDelay r =>
    refine setShotDelay_actsOn_iff.trans (and_congr_right fun _ => ?_)
    simp [narrowed, numbers, bound]
  | getScreenInfoById r =>
    refine getScreenInfoById_actsOn_iff.trans (and_congr_right fun _ => ?_)
    simp [narrowed, numbers, bound]

/-- **The numbers of a request.**  It acts on the numbers it names exactly when they fit, or
there is nothing to act on. -/
theorem actsAsNamed_iff (l : DeviceList) (a : TaskAnswers) (calibrations : List (UInt8 × C))
    (req : NumberedRequest) :
    req.ActsAsNamed l a calibrations ↔ req.Fits ∨ ¬ req.Reached l a calibrations := by
  unfold ActsAsNamed
  constructor
  · intro h
    by_cases hr : req.Reached l a calibrations
    · have hns := h req.narrowed ((actsOn_iff req _).mpr ⟨hr, rfl⟩)
      exact Or.inl ((narrowed_eq_iff req).mp hns)
    · exact Or.inr hr
  · rintro (hfits | hnot) ns hacts
    · obtain ⟨-, rfl⟩ := (actsOn_iff req ns).mp hacts
      exact (narrowed_eq_iff req).mpr hfits
    · exact absurd ((actsOn_iff req ns).mp hacts).1 hnot

/-- Register 0x105 of the request is register 0x05 of the command. -/
theorem register_wrapped :
    ¬ ∀ (l : DeviceList) (a : TaskAnswers) (calibrations : List (UInt8 × Unit)) (req : NumberedRequest),
      req.ActsAsNamed l a calibrations := by
  intro hall
  obtain ⟨dev, hdev⟩ : ∃ dev, (Request.wireDevice 0).toDevice = some dev := ⟨_, rfl⟩
  rcases (actsAsNamed_iff [(dev, some 0)] Request.noAnswers [] (.readRegister ⟨some (Request.wireDevice 0), 0, 0, 0x105⟩)).mp
    (hall _ _ _ _) with hfits | hnot
  · have hlt : (0x105 : UInt32).toNat < 256 := hfits 0x105 (by simp [numbers])
    exact absurd hlt (by decide)
  · have hlisted : DeviceList.senderForUuid [(dev, some 0)] dev.uuid = some (some 0) := by
      simp [DeviceList.senderForUuid]
    exact hnot ⟨0, Request.wireDevice 0, dev, rfl, hdev, hlisted, rfl⟩

end NumberedRequest

end OdysseyHub
