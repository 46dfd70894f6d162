import OdysseyHub.Client.Calls
import OdysseyHub.Client.FfiEvents
import OdysseyHub.Server.ListStream

/-!
# Calls from other languages (client.rs of odyssey_hub_client_uniffi and odyssey_hub_client_ffi)

The bindings hand a program the devices the server lists, as records of their own, and take a
record back with every call.  A call with a listed record is the call of the Rust client with
the device of the server, its errors all made one, though the device may have lost its name on
the way.  Of a record that the program makes up only the UUID matters, and a Uniffi call
panics exactly where a list in it has the wrong length.

    c.perform l a d = ((c.native e.1).perform l a).map returned      (perform_listed)
-/

namespace OdysseyHub

/-- `<[T; n]>::try_from(vec)` -/
def arrayOfVec {α : Type} (n : Nat) (v : List α) : Option (Vector α n) :=
  if h : v.length = n then some ⟨v.toArray, h⟩ else none

theorem arrayOfVec_toList {α : Type} {n : Nat} (v : Vector α n) : arrayOfVec n v.toList = some v := by
  unfold arrayOfVec
  rw [dif_pos v.length_toList]
  rfl

theorem arrayOfVec_isSome {α : Type} {n : Nat} (v : List α) : (arrayOfVec n v).isSome = true ↔ v.length = n := by
  unfold arrayOfVec
  split
  · next h => exact iff_of_true rfl h
  · next h => exact iff_of_false Bool.false_ne_true h

/-! ## Uniffi records (ffi_common.rs) -/

namespace Uniffi

structure Device where
  uuid : List UInt8
  transport : Transport
  capabilities : UInt8
  firmwareVersion : Option (List UInt16)
  eventsTransport : EventsTransport
  eventsConnected : Bool
  productId : Option UInt16
  name : String
  deriving DecidableEq, Repr

/-- `From<common::device::Device> for Device` -/
def Device.ofCommon (d : OdysseyHub.Device) : Device :=
  { uuid := d.uuid.toList
    transport := d.transport
    capabilities := d.capabilities.bits
    firmwareVersion := if d.firmwareVersion = Version.of 0 0 0 then none else some d.firmwareVersion.toList
    eventsTransport := d.eventsTransport
    eventsConnected := d.eventsConnected
    productId := if d.productId = 0 then none else some d.productId
    name := d.nameStr }

/-- The version of a record, where `none` is a panic. -/
def Device.version (d : Device) : Option Version :=
  match d.firmwareVersion with
  | some v => arrayOfVec 3 v
  | none => some (Version.of 0 0 0)

/-- `From<Device> for common::device::Device`: both `try_into` are unwrapped. -/
def Device.toCommon (d : Device) : Option OdysseyHub.Device := do
  some
    { uuid := ← arrayOfVec 6 d.uuid
      transport := d.transport
      capabilities := ⟨d.capabilities⟩
      firmwareVersion := ← d.version
      eventsTransport := d.eventsTransport
      eventsConnected := d.eventsConnected
      productId := d.productId.getD 0
      name := OdysseyHub.Device.nameBytes d.name }

/-- The lists of the record have the lengths of the arrays they go into. -/
def Device.Readable (d : Device) : Prop := d.uuid.length = 6 ∧ ∀ v ∈ d.firmwareVersion, v.length = 3

/-- Of a device only the name can change on the way through a record. -/
theorem Device.toCommon_ofCommon (d : OdysseyHub.Device) : (Device.ofCommon d).toCommon = some d.renamed := by
  have hversion : (Device.ofCommon d).version = some d.firmwareVersion := by
    unfold Device.version Device.ofCommon
    dsimp only
    by_cases hv : d.firmwareVersion = Version.of 0 0 0
    · rw [if_pos hv, hv]
    · rw [if_neg hv]
      exact arrayOfVec_toList d.firmwareVersion
  have hproduct : (Device.ofCommon d).productId.getD 0 = d.productId := by
    unfold Device.ofCommon
    dsimp only
    by_cases hp : d.productId = 0
    · rw [if_pos hp, hp]
      rfl
    · rw [if_neg hp]
      rfl
  have huuid : arrayOfVec 6 (Device.ofCommon d).uuid = some d.uuid := arrayOfVec_toList d.uuid
  unfold Device.toCommon
  rw [hversion, hproduct, huuid]
  rfl

theorem Device.version_isSome (d : Device) : d.version.isSome = true ↔ ∀ v ∈ d.firmwareVersion, v.length = 3 := by
  unfold Device.version
  split
  · next v hv =>
    rw [arrayOfVec_isSome, hv]
    simp
  · next hv =>
    rw [hv]
    simp

/-- A record is read exactly if its lists have the right lengths, and has the UUID of its list. -/
theorem Device.toCommon_isSome (d : Device) : d.toCommon.isSome = true ↔ d.Readable := by
  unfold Device.Readable
  rw [← arrayOfVec_isSome, ← d.version_isSome]
  unfold Device.toCommon
  cases arrayOfVec 6 d.uuid with
  | none => simp
  | some uuid =>
    cases d.version with
    | none => simp
    | some version => simp

theorem Device.uuid_toCommon {d : Device} {d' : OdysseyHub.Device} (h : d.toCommon = some d') :
    arrayOfVec 6 d.uuid = some d'.uuid := by
  unfold Device.toCommon at h
  obtain ⟨uuid, huuid, h⟩ := Option.bind_eq_some_iff.mp h
  obtain ⟨version, -, h⟩ := Option.bind_eq_some_iff.mp h
  cases h
  exact huuid

/-! ## Uniffi calls (client.rs) -/

/-- `funny.rs` is that of the C client. -/
abbrev Vector3f32 := ClientFfi.Vector3f32

abbrev Vector2f32 := ClientFfi.Vector2f32

inductive ClientError
  | notConnected
  | streamEnd
  deriving DecidableEq, Repr

/-- A call: what the server has sent to a task for it, and what the caller gets. -/
structure Returned (α : Type) where
  sent : Option (HandlerId × DeviceTaskMessage)
  result : Except ClientError α

/-- `.map_err(|_| ClientError::NotConnected)` -/
def returned {α : Type} (s : Served α) : Returned α :=
  { sent := s.sent, result := s.result.mapError fun _ => .notConnected }

namespace Client

variable (l : DeviceList) (a : TaskAnswers) (device : Device)

def writeVendor (tag : UInt8) (data : List UInt8) : Option (Returned Unit) := do
  let device ← device.toCommon
  (OdysseyHub.Client.writeVendor l a device tag data).map returned

def resetZero : Option (Returned Unit) := do
  let device ← device.toCommon
  (OdysseyHub.Client.resetZero l a device).map returned

def zero (translation : Vector3f32) (target : Vector2f32) : Option (Returned Unit) := do
  let translation : Proto.Vector3 := { x := translation.x, y := translation.y, z := translation.z }
  let target : Proto.Vector2 := { x := target.x, y := target.y }
  let device ← device.toCommon
  (OdysseyHub.Client.zero l a device translation target none).map returned

def readRegister (port bank address : UInt8) : Option (Returned UInt8) := do
  let device ← device.toCommon
  (OdysseyHub.Client.readRegister l a device port bank address).map returned

def writeRegister (port bank address data : UInt8) : Option (Returned Unit) := do
  let device ← device.toCommon
  (OdysseyHub.Client.writeRegister l a device port bank address data).map returned

def flashSettings : Option (Returned Unit) := do
  let device ← device.toCommon
  (OdysseyHub.Client.flashSettings l a device).map returned

end Client

end Uniffi

/-- `get_device_list` of the Rust client. -/
def Client.getDeviceList (l : DeviceList) : Option (List Device) :=
  (deviceListStream.reply l).mapM Proto.Device.toDevice

def Uniffi.Client.getDeviceList (l : DeviceList) : Option (List Uniffi.Device) :=
  (OdysseyHub.Client.getDeviceList l).map (List.map Uniffi.Device.ofCommon)

theorem Client.getDeviceList_eq (l : DeviceList) : getDeviceList l = some (l.map fun e => e.1.renamed) := by
  show (l.map fun e => Proto.Device.ofDevice e.1).mapM Proto.Device.toDevice = _
  induction l with
  | nil => rfl
  | cons e l ih =>
    rw [List.map_cons, List.mapM_cons, Proto.Device.toDevice_ofDevice_renamed, ih]
    rfl

namespace Uniffi

/-- A call of a device. -/
inductive Call
  | writeVendor (tag : UInt8) (data : List UInt8)
  | readRegister (port bank address : UInt8)
  | writeRegister (port bank address data : UInt8)
  | flashSettings
  | resetZero
  | zero (translation : Vector3f32) (target : Vector2f32)

def Returned.map {α β : Type} (f : α → β) (r : Returned α) : Returned β :=
  { sent := r.sent, result := r.result.map f }

namespace Call

/-- The call of the Rust client with the same arguments. -/
def native (device : OdysseyHub.Device) : Call → OdysseyHub.Call
  | .writeVendor tag data => .writeVendor device tag data
  | .readRegister port bank address => .readRegister device port bank address
  | .writeRegister port bank address data => .writeRegister device port bank address data
  | .flashSettings => .flashSettings device
  | .resetZero => .resetZero device
  | .zero translation target =>
    .zero device ⟨translation.x, translation.y, translation.z⟩ ⟨target.x, target.y⟩ none

variable (l : DeviceList) (a : TaskAnswers)

def perform (device : Device) : Call → Option (Returned CallValue)
  | .writeVendor tag data => (Client.writeVendor l a device tag data).map (Returned.map fun _ => .unit)
  | .readRegister port bank address => (Client.readRegister l a device port bank address).map (Returned.map .byte)
  | .writeRegister port bank address data =>
    (Client.writeRegister l a device port bank address data).map (Returned.map fun _ => .unit)
  | .flashSettings => (Client.flashSettings l a device).map (Returned.map fun _ => .unit)
  | .resetZero => (Client.resetZero l a device).map (Returned.map fun _ => .unit)
  | .zero translation target => (Client.zero l a device translation target).map (Returned.map fun _ => .unit)

variable {l a} {d d' : Device}

/-- What a caller is given can be named before or after its errors are made one. -/
theorem map_returned {α β : Type} (f : α → β) (s : Option (Served α)) :
    (s.map returned).map (Returned.map f) = (s.map (Served.map f)).map returned := by
  rw [Option.map_map, Option.map_map]
  congr 1
  funext s
  cases s with
  | mk sent result => cases result <;> rfl

/-- With a record that can be read. -/
theorem perform_some {device : OdysseyHub.Device} (h : d.toCommon = some device) (c : Call) :
    c.perform l a d = ((c.native device).perform l a).map returned := by
  cases c with
  | writeVendor tag data =>
    simp only [perform, Client.writeVendor, h, Option.bind_eq_bind, Option.bind_some, map_returned]
    rfl
  | readRegister port bank address =>
    simp only [perform, Client.readRegister, h, Option.bind_eq_bind, Option.bind_some, map_returned]
    rfl
  | writeRegister port bank address data =>
    simp only [perform, Client.writeRegister, h, Option.bind_eq_bind, Option.bind_some, map_returned]
    rfl
  | flashSettings =>
    simp only [perform, Client.flashSettings, h, Option.bind_eq_bind, Option.bind_some, map_returned]
    rfl
  | resetZero =>
    simp only [perform, Client.resetZero, h, Option.bind_eq_bind, Option.bind_some, map_returned]
    rfl
  | zero translation target =>
    simp only [perform, Client.zero, h, Option.bind_eq_bind, Option.bind_some, map_returned]
    rfl

/-- With one that cannot. -/
theorem perform_none (h : d.toCommon = none) (c : Call) : c.perform l a d = none := by
  cases c with
  | writeVendor tag data => simp [perform, Client.writeVendor, h]
  | readRegister port bank address => simp [perform, Client.readRegister, h]
  | writeRegister port bank address data => simp [perform, Client.writeRegister, h]
  | flashSettings => simp [perform, Client.flashSettings, h]
  | resetZero => simp [perform, Client.resetZero, h]
  | zero translation target => simp [perform, Client.zero, h]

/-- Only the UUID of the device matters. -/
theorem native_congr {e e' : OdysseyHub.Device} (h : e.uuid = e'.uuid) (c : Call) :
    (c.native e).perform l a = (c.native e').perform l a := by
  rw [OdysseyHub.Call.perform_eq, OdysseyHub.Call.perform_eq]
  cases c with
  | writeVendor | readRegister | writeRegister | flashSettings | resetZero | zero =>
    simp only [native, OdysseyHub.Call.direct, OdysseyHub.Call.message, h]

theorem perform_listed (e : OdysseyHub.Device) (c : Call) :
    c.perform l a (.ofCommon e.renamed) = ((c.native e).perform l a).map returned := by
  have huuid : e.renamed.renamed.uuid = e.uuid := e.renamed.renamed_uuid.trans e.renamed_uuid
  rw [perform_some (Device.toCommon_ofCommon e.renamed), native_congr huuid]

theorem perform_eq_none_iff (c : Call) : c.perform l a d = none ↔ ¬ d.Readable := by
  rw [← Device.toCommon_isSome]
  cases h : d.toCommon with
  | none => exact iff_of_true (perform_none h c) Bool.false_ne_true
  | some device =>
    rw [perform_some h, OdysseyHub.Call.perform_eq]
    exact iff_of_false (Option.some_ne_none _) fun hn => hn rfl

theorem perform_congr (hd : d.Readable) (hd' : d'.Readable) (h : d.uuid = d'.uuid) (c : Call) :
    c.perform l a d = c.perform l a d' := by
  obtain ⟨e, he⟩ := Option.isSome_iff_exists.mp (d.toCommon_isSome.mpr hd)
  obtain ⟨e', he'⟩ := Option.isSome_iff_exists.mp (d'.toCommon_isSome.mpr hd')
  have huuid : e.uuid = e'.uuid := by
    have heq := (Device.uuid_toCommon he).symm.trans ((congrArg (arrayOfVec 6) h).trans (Device.uuid_toCommon he'))
    exact Option.some.inj heq
  rw [perform_some he, perform_some he', native_congr huuid]

end Call

end Uniffi

/-! ## C calls (client.rs) -/

namespace ClientFfi

/-- A call: what the server has sent to a task for it, and the arguments of the callback. -/
structure Called (α : Type) where
  sent : Option (HandlerId × DeviceTaskMessage)
  error : ClientError
  data : α

/-- The callback of a result, with the data that stands in where there is none. -/
def called {α : Type} (dummy : α) (s : Served α) : Called α :=
  match s.result with
  | .ok v => { sent := s.sent, error := .none, data := v }
  | .error _ => { sent := s.sent, error := .notConnected, data := dummy }

def clientGetDeviceList (l : DeviceList) : Option (List Device) := Client.getDeviceList l

section
variable (l : DeviceList) (a : TaskAnswers) (device : Device)

def clientReadRegister (port bank address : UInt8) : Option (Called UInt8) :=
  (Client.readRegister l a device port bank address).map (called 0)

def clientWriteRegister (port bank address data : UInt8) : Option (Called Unit) :=
  (Client.writeRegister l a device port bank address data).map (called ())

def clientFlashSettings : Option (Called Unit) := (Client.flashSettings l a device).map (called ())

def clientResetZero : Option (Called Unit) := (Client.resetZero l a device).map (called ())

def clientZero (translation : Vector3f32) (target : Vector2f32) : Option (Called Unit) :=
  let translation : Proto.Vector3 := { x := translation.x, y := translation.y, z := translation.z }
  let target : Proto.Vector2 := { x := target.x, y := target.y }
  (Client.zero l a device translation target none).map (called ())

end

/-- A call of a device. -/
inductive Call
  | readRegister (port bank address : UInt8)
  | writeRegister (port bank address data : UInt8)
  | flashSettings
  | resetZero
  | zero (translation : Vector3f32) (target : Vector2f32)

def Called.map {α β : Type} (f : α → β) (r : Called α) : Called β :=
  { sent := r.sent, error := r.error, data := f r.data }

namespace Call

/-- The call of the Rust client with the same arguments. -/
def native (device : Device) : Call → OdysseyHub.Call
  | .readRegister port bank address => .readRegister device port bank address
  | .writeRegister port bank address data => .writeRegister device port bank address data
  | .flashSettings => .flashSettings device
  | .resetZero => .resetZero device
  | .zero translation target =>
    .zero device ⟨translation.x, translation.y, translation.z⟩ ⟨target.x, target.y⟩ none

/-- What the callback gets of a call that fails. -/
def dummy : Call → CallValue
  | .readRegister _ _ _ => .byte 0
  | _ => .unit

variable (l : DeviceList) (a : TaskAnswers)

def perform (device : Device) : Call → Option (Called CallValue)
  | .readRegister port bank address => (clientReadRegister l a device port bank address).map (Called.map .byte)
  | .writeRegister port bank address data =>
    (clientWriteRegister l a device port bank address data).map (Called.map fun _ => .unit)
  | .flashSettings => (clientFlashSettings l a device).map (Called.map fun _ => .unit)
  | .resetZero => (clientResetZero l a device).map (Called.map fun _ => .unit)
  | .zero translation target => (clientZero l a device translation target).map (Called.map fun _ => .unit)

variable {l a}

theorem map_called {α β : Type} (f : α → β) (dummy : α) (s : Option (Served α)) :
    (s.map (called dummy)).map (Called.map f) = (s.map (Served.map f)).map (called (f dummy)) := by
  rw [Option.map_map, Option.map_map]
  congr 1
  funext s
  cases s with
  | mk sent result => cases result <;> rfl

theorem perform_eq (device : Device) (c : Call) :
    c.perform l a device = ((c.native device).perform l a).map (called c.dummy) := by
  cases c with
  | readRegister port bank address => exact map_called CallValue.byte 0 (Client.readRegister l a device ..)
  | writeRegister port bank address data =>
    exact map_called (fun _ => CallValue.unit) () (Client.writeRegister l a device ..)
  | flashSettings => exact map_called (fun _ => CallValue.unit) () (Client.flashSettings l a device)
  | resetZero => exact map_called (fun _ => CallValue.unit) () (Client.resetZero l a device)
  | zero translation target => exact map_called (fun _ => CallValue.unit) () (Client.zero l a device ..)

theorem native_congr {e e' : Device} (h : e.uuid = e'.uuid) (c : Call) :
    (c.native e).perform l a = (c.native e').perform l a := by
  rw [OdysseyHub.Call.perform_eq, OdysseyHub.Call.perform_eq]
  cases c with
  | readRegister | writeRegister | flashSettings | resetZero | zero =>
    simp only [native, OdysseyHub.Call.direct, OdysseyHub.Call.message, h]

end Call

end ClientFfi

/-! ## Listed devices -/

/-- What the bindings promise of their calls. -/
structure SdkCalls (l : DeviceList) (a : TaskAnswers) : Prop where
  /-- a call with a listed record is the call with the device of the server -/
  uniffi : ∃ ds, Uniffi.Client.getDeviceList l = some ds ∧ ds.Forall₂
    (fun d e => ∀ c : Uniffi.Call, c.perform l a d = ((c.native e.1).perform l a).map Uniffi.returned) l
  c : ∃ ds, ClientFfi.clientGetDeviceList l = some ds ∧ ds.Forall₂
    (fun d e => ∀ c : ClientFfi.Call, c.perform l a d = ((c.native e.1).perform l a).map (ClientFfi.called c.dummy)) l
  /-- any other record panics, or is as good as its UUID -/
  panics : ∀ (d : Uniffi.Device) (c : Uniffi.Call), c.perform l a d = none ↔ ¬ d.Readable
  uuid : ∀ (d d' : Uniffi.Device) (c : Uniffi.Call), d.Readable → d'.Readable → d.uuid = d'.uuid →
    c.perform l a d = c.perform l a d'

/-- **Calls from other languages** are those of the Rust client, for every list of devices and whatever
their tasks answer. -/
theorem sdkCalls_native (l : DeviceList) (a : TaskAnswers) : SdkCalls l a where
  uniffi := by
    refine ⟨(l.map fun e => e.1.renamed).map .ofCommon, ?_, ?_⟩
    · unfold Uniffi.Client.getDeviceList
      rw [Client.getDeviceList_eq]
      rfl
    · rw [List.map_map, List.forall₂_map_left_iff]
      exact List.forall₂_same.mpr fun e _ c => Uniffi.Call.perform_listed e.1 c
  c := by
    have hlist : ClientFfi.clientGetDeviceList l = some (l.map fun e => e.1.renamed) := Client.getDeviceList_eq l
    refine ⟨_, hlist, ?_⟩
    rw [List.forall₂_map_left_iff]
    refine List.forall₂_same.mpr fun e _ c => ?_
    rw [ClientFfi.Call.perform_eq, ClientFfi.Call.native_congr e.1.renamed_uuid]
  panics _ c := c.perform_eq_none_iff
  uuid _ _ c hd hd' h := c.perform_congr hd hd' h

end OdysseyHub
