import OdysseyHub.Interface.Proto
import Mathlib.Tactic.Common

/-!
# Events on the wire

What `From<Event> for proto::Event` sends, `TryFrom<proto::Event>` reads back
(`tryInto_ofEvent`), and the messages that `TryFrom` can read without a panic
(`tryInto_ne_none_iff`).
-/

namespace OdysseyHub

/-! ## Name buffers -/

/-- Valid UTF-8 of at most 32 bytes without NUL, zero padded. -/
def CanonicalName (name : Vector UInt8 33) : Prop :=
  ∃ bytes : ByteArray, bytes.IsValidUTF8 ∧ bytes.size ≤ 32 ∧ 0 ∉ bytes.data.toList ∧
    name.toList = bytes.data.toList ++ List.replicate (33 - bytes.size) 0

theorem nameStr_eq {d : Device} {bytes : ByteArray} (hv : bytes.IsValidUTF8) (hlen : bytes.size ≤ 32)
    (h0 : 0 ∉ bytes.data.toList)
    (hn : d.name.toList = bytes.data.toList ++ List.replicate (33 - bytes.size) 0) :
    d.nameStr = String.fromUTF8 bytes hv := by
  have hnul : d.name.toList.idxOf 0 = bytes.data.toList.length := by
    obtain ⟨k, hk⟩ : ∃ k, 33 - bytes.size = k + 1 := ⟨32 - bytes.size, by omega⟩
    rw [hn, hk, List.idxOf_append_of_notMem h0, List.replicate_succ]
    simp
  have htake : d.name.toList.take (d.name.toList.idxOf 0) = bytes.data.toList := by
    rw [hnul, hn, List.take_left']
    rfl
  unfold Device.nameStr
  simp only [htake, Array.toArray_toList]
  rw [String.fromUTF8?, dif_pos hv]
  rfl

theorem nameBytes_fromUTF8 {name : Vector UInt8 33} {bytes : ByteArray} (hv : bytes.IsValidUTF8)
    (hlen : bytes.size ≤ 32)
    (hn : name.toList = bytes.data.toList ++ List.replicate (33 - bytes.size) 0) :
    Device.nameBytes (String.fromUTF8 bytes hv) = name := by
  have hb : (String.fromUTF8 bytes hv).toUTF8 = bytes := rfl
  have hsize : bytes.data.toList.length = bytes.size := rfl
  ext i hi
  have hbound : i < name.toList.length := by simpa using hi
  have hi' : name[i] = name.toList[i] := by simp
  unfold Device.nameBytes
  simp only [hb, Vector.getElem_ofFn, Nat.min_eq_left hlen]
  rw [hi']
  simp only [hn, List.getElem_append, hsize]
  split
  · rename_i h
    simp [ByteArray.get!, h]
  · simp

/-- A canonical name is read from its string as it was. -/
theorem nameBytes_nameStr (d : Device) (h : CanonicalName d.name) :
    Device.nameBytes d.nameStr = d.name := by
  obtain ⟨bytes, hv, hlen, h0, hn⟩ := h
  rw [nameStr_eq hv hlen h0 hn, nameBytes_fromUTF8 hv hlen hn]

/-- Names are cut off at the first NUL on their way. -/
def Device.renamed (d : Device) : Device := { d with name := Device.nameBytes d.nameStr }

@[simp] theorem Device.renamed_uuid (d : Device) : d.renamed.uuid = d.uuid := by
  unfold renamed
  rfl

namespace Proto

/-! ## Reading back what was sent -/

@[simp] theorem Vector2.toVector_ofVector (v : Vector F32 2) :
    (Vector2.ofVector v).toVector = v := vector2_get v

@[simp] theorem Vector3.toVector_ofVector (v : Vector F32 3) :
    (Vector3.ofVector v).toVector = v := vector3_get v

@[simp] theorem Matrix3x1.toVector_ofVector (v : Vector F32 3) :
    (Matrix3x1.ofVector v).toVector = v := vector3_get v

@[simp] theorem Matrix3x3.toMatrix_ofMatrix (m : Vector F32 9) :
    (Matrix3x3.ofMatrix m).toMatrix = m := matrix3_get m

@[simp] theorem transportOfI32_toI32 (t : Transport) :
    transportOfI32 (transportToI32 t) = some t := by
  cases t <;> rfl

@[simp] theorem eventsTransportOfI32_toI32 (t : EventsTransport) :
    eventsTransportOfI32 (eventsTransportToI32 t) = some t := by
  cases t <;> rfl

/-- The absent version stands for `[0, 0, 0]`. -/
@[simp] theorem FirmwareVersion.toVersion_ofVersion (v : Version) :
    FirmwareVersion.toVersion (FirmwareVersion.ofVersion v) = v := by
  unfold FirmwareVersion.ofVersion
  split
  · rename_i h
    rw [h]
    rfl
  · simp only [FirmwareVersion.toVersion, Option.map_some, Option.getD_some,
      UInt16.toUInt16_toUInt32]
    ext i hi
    obtain rfl | rfl | rfl : i = 0 ∨ i = 1 ∨ i = 2 := by omega
    · rfl
    · rfl
    · rfl

theorem Device.toDevice_ofDevice_renamed (d : OdysseyHub.Device) : (Device.ofDevice d).toDevice = some d.renamed := by
  simp [Device.toDevice, Device.ofDevice, OdysseyHub.Device.renamed]

section
variable {P : Type} {postcard : Postcard P}

theorem DeviceEventOneof.toKind_ofKind (hp : postcard.Lossless) (kind : Events.DeviceEventKind P) :
    (DeviceEventOneof.ofKind postcard kind).bind (DeviceEventOneof.toKind postcard) = some kind := by
  cases kind with
  | packetEvent pkt =>
    obtain ⟨bytes, hto, hfrom⟩ := hp pkt
    simp [DeviceEventOneof.ofKind, DeviceEventOneof.toKind, hto, hfrom]
  | accelerometerEvent e => simp [DeviceEventOneof.ofKind, DeviceEventOneof.toKind]
  | trackingEvent e => simp [DeviceEventOneof.ofKind, DeviceEventOneof.toKind]
  | impactEvent e => rfl
  | zeroResult success => rfl
  | saveZeroResult success => rfl
  | capabilitiesChanged => rfl
  | pairingResult success address name error =>
    simp [DeviceEventOneof.ofKind, DeviceEventOneof.toKind]
  | batteryEvent e => simp [DeviceEventOneof.ofKind, DeviceEventOneof.toKind]

end

end Proto

/-! ## Whole events -/

namespace Events.Event

variable {P : Type}

/-- The event's device, if it has one, has a canonical name. -/
def Canonical : Event P → Prop
  | .deviceEvent device _ => CanonicalName device.name
  | .donglePairingResult .. => True

/-- What arrives of an event: the name of its device goes through a string. -/
def renamed : Event P → Event P
  | .deviceEvent device kind => .deviceEvent device.renamed kind
  | .donglePairingResult dongleId success address name error =>
    .donglePairingResult dongleId success address name error

theorem renamed_of_canonical {e : Event P} (h : e.Canonical) : e.renamed = e := by
  cases e with
  | donglePairingResult dongleId success address name error => rfl
  | deviceEvent device kind =>
    have hdevice : device.renamed = device := by
      unfold Device.renamed
      rw [nameBytes_nameStr device h]
    show Event.deviceEvent device.renamed kind = _
    rw [hdevice]

end Events.Event

namespace Proto

section
variable {P : Type} {postcard : Postcard P}

/-- Of any event only the name of its device can change on the way. -/
theorem tryInto_renamed (hp : postcard.Lossless) (e : Events.Event P) :
    ∃ pb, Event.ofEvent postcard e = some pb ∧ Event.tryInto postcard pb = some (.ok e.renamed) := by
  cases e with
  | donglePairingResult dongleId success address name error =>
    exact ⟨_, rfl, by simp [Event.tryInto, Events.Event.renamed]⟩
  | deviceEvent device kind =>
    obtain ⟨oneof, ho, hk⟩ := Option.bind_eq_some_iff.1 (DeviceEventOneof.toKind_ofKind hp kind)
    refine ⟨⟨some (.device ⟨some (Device.ofDevice device), some oneof⟩)⟩, ?_, ?_⟩
    · simp [Event.ofEvent, ho]
    · simp [Event.tryInto, Device.toDevice_ofDevice_renamed, hk, Events.Event.renamed]

end

/-- **Lossless.**  Encoding and decoding an event yields `Ok` of that event. -/
theorem tryInto_ofEvent {P : Type} (postcard : Postcard P) (hp : postcard.Lossless)
    (e : Events.Event P) (h : e.Canonical) :
    (Event.ofEvent postcard e).bind (Event.tryInto postcard) = some (.ok e) := by
  obtain ⟨pb, hpb, hdecoded⟩ := tryInto_renamed hp e
  rw [hpb, Option.bind_some, hdecoded, Events.Event.renamed_of_canonical h]

/-- A byte is serialized as itself; further bytes are not read. -/
def bytePostcard : Postcard UInt8 where
  toAllocvec b := some [b]
  fromBytes := List.head?

def unnamedDevice : OdysseyHub.Device :=
  { uuid := Uuid.of 1 2 3 4 5 6
    transport := .usbMux
    capabilities := .empty
    firmwareVersion := Version.of 0 0 0
    eventsTransport := .bluetooth
    eventsConnected := true
    productId := 0x5210
    name := Vector.ofFn fun _ => 0 }

def namedDevice : OdysseyHub.Device := unnamedDevice.setName "gun"

theorem tryInto_ofEvent_packet :
    (Event.ofEvent bytePostcard (.deviceEvent namedDevice (.packetEvent 7))).bind
        (Event.tryInto bytePostcard)
      = some (.ok (.deviceEvent namedDevice (.packetEvent 7))) :=
  tryInto_ofEvent bytePostcard (fun b => ⟨[b], rfl, rfl⟩) _
    ⟨"gun".toUTF8, "gun".isValidUTF8, by decide, by decide, by decide⟩

/-! ## Panics -/

/-- The sub-messages every `expect` names, and a payload that postcard reads. -/
def DeviceEventOneof.Complete {P : Type} (postcard : Postcard P) : DeviceEventOneof → Prop
  | .accelerometer e => e.acceleration ≠ none ∧ e.angularVelocity ≠ none ∧ e.eulerAngles ≠ none
  | .tracking e =>
    e.aimpoint ≠ none ∧ ∃ p, e.pose = some p ∧ p.rotation ≠ none ∧ p.translation ≠ none
  | .packet bytes => postcard.fromBytes bytes ≠ none
  | _ => True

/-- The enum fields hold values of their enums. -/
def Device.EnumsKnown (d : Device) : Prop :=
  (d.transport = 0 ∨ d.transport = 1 ∨ d.transport = 2) ∧
    (d.eventsTransport = 0 ∨ d.eventsTransport = 1)

/-- An event whose device, if there is one, can be converted, and so can its kind. -/
def Event.Readable {P : Type} (postcard : Postcard P) (event : Event) : Prop :=
  ∀ d dev, event.eventOneof = some (.device d) → d.device = some dev →
    dev.EnumsKnown ∧ ∀ oneof, d.deviceEventOneof = some oneof → oneof.Complete postcard

theorem transportOfI32_ne_none (i : Int32) :
    transportOfI32 i ≠ none ↔ i = 0 ∨ i = 1 ∨ i = 2 := by
  unfold transportOfI32
  split_ifs with h0 h1 h2
  · simp [h0]
  · simp [h1]
  · simp [h2]
  · simp [h0, h1, h2]

theorem eventsTransportOfI32_ne_none (i : Int32) :
    eventsTransportOfI32 i ≠ none ↔ i = 0 ∨ i = 1 := by
  unfold eventsTransportOfI32
  split_ifs with h0 h1
  · simp [h0]
  · simp [h1]
  · simp [h0, h1]

theorem Device.toDevice_ne_none (d : Device) : d.toDevice ≠ none ↔ d.EnumsKnown := by
  rw [EnumsKnown, ← transportOfI32_ne_none, ← eventsTransportOfI32_ne_none]
  cases ht : transportOfI32 d.transport with
  | none => simp [toDevice, ht]
  | some t =>
    cases he : eventsTransportOfI32 d.eventsTransport with
    | none => simp [toDevice, he]
    | some e => simp [toDevice, ht, he]

theorem DeviceEventOneof.toKind_ne_none {P : Type} (postcard : Postcard P)
    (oneof : DeviceEventOneof) : oneof.toKind postcard ≠ none ↔ oneof.Complete postcard := by
  cases oneof with
  | accelerometer e =>
    obtain ⟨t, _ | a, _ | v, _ | r⟩ := e <;> simp [toKind, Complete]
  | tracking e =>
    obtain ⟨t, _ | a, _ | ⟨_ | r, _ | tr⟩, _, _⟩ := e <;> simp [toKind, Complete]
  | packet bytes => simp [toKind, Complete]
  | impact t => simp [toKind, Complete]
  | zeroResult b => simp [toKind, Complete]
  | saveZeroResult b => simp [toKind, Complete]
  | capabilitiesChanged => simp [toKind, Complete]
  | pairingResult b a e n => simp [toKind, Complete]
  | battery p c => simp [toKind, Complete]

/-- **Panics.**  Decoding returns exactly at the readable messages; elsewhere it panics, on
an unknown enum value, an absent sub-message or a packet that postcard rejects. -/
theorem tryInto_ne_none_iff {P : Type} (postcard : Postcard P) (event : Event) :
    Event.tryInto postcard event ≠ none ↔ event.Readable postcard := by
  obtain ⟨_ | ⟨⟨_ | dev, oneof⟩⟩ | _⟩ := event
  · simp [Event.tryInto, Event.Readable]
  · have hreadable : Event.Readable postcard ⟨some (.device ⟨none, oneof⟩)⟩ := by
      rintro d dev ⟨rfl⟩ ⟨⟩
    simp [Event.tryInto, hreadable]
  · have hreadable : Event.Readable postcard ⟨some (.device ⟨some dev, oneof⟩)⟩ ↔
        dev.toDevice ≠ none ∧ ∀ o, oneof = some o → o.toKind postcard ≠ none := by
      simp only [Device.toDevice_ne_none, DeviceEventOneof.toKind_ne_none]
      constructor
      · intro h
        exact h _ _ rfl rfl
      · rintro h d dev' ⟨rfl⟩ ⟨rfl⟩
        exact h
    rw [hreadable]
    cases hd : dev.toDevice with
    | none => simp [Event.tryInto, hd]
    | some device =>
      cases oneof with
      | none => simp [Event.tryInto, hd]
      | some o =>
        cases hk : o.toKind postcard with
        | none => simp [Event.tryInto, hd, hk]
        | some kind => simp [Event.tryInto, hd, hk]
  · simp [Event.tryInto, Event.Readable]

/-- An accelerometer event of a good device, whose `acceleration` is absent. -/
def noAcceleration : Event :=
  ⟨some (.device
    ⟨some (Device.ofDevice unnamedDevice),
      some (.accelerometer ⟨0, none, some ⟨0, 0, 0⟩, some ⟨0, 0, 0⟩⟩)⟩)⟩

theorem tryInto_noAcceleration : Event.tryInto bytePostcard noAcceleration = none := by
  decide

end Proto

end OdysseyHub
