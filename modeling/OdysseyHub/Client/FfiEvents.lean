import OdysseyHub.Interface.EventWire
import Mathlib.Data.List.Forall2

/-!
# Events of the C client (odyssey_hub_client_ffi)

`client_start_stream` hands every event of the stream to a callback, as a C event.  Two kinds
that were added to the server later fall into a catch-all and arrive as `CapabilitiesChanged`,
and a third one is left as a `todo!`, which ends the stream.

    Faithful (clientStartStream …) … ↔
      every message is readable and every event is one the C interface has    (faithful_iff)

A packet is a parameter, as far as its conversion reads it.
-/

namespace OdysseyHub

namespace ClientFfi

/-! ## The C types (funny.rs, packet.rs, event.rs) -/

structure Vector2f32 where
  x : F32
  y : F32
  deriving DecidableEq, Repr

structure Vector3f32 where
  x : F32
  y : F32
  z : F32
  deriving DecidableEq, Repr

structure Matrix3x1f32 where
  x : F32
  y : F32
  z : F32
  deriving DecidableEq, Repr

structure Matrix3f32 where
  m11 : F32
  m12 : F32
  m13 : F32
  m21 : F32
  m22 : F32
  m23 : F32
  m31 : F32
  m32 : F32
  m33 : F32
  deriving DecidableEq, Repr

/-- The numerals that index vectors and matrices. -/
local instance neZero_two : NeZero 2 := inferInstance

local instance neZero_three : NeZero 3 := inferInstance

local instance neZero_nine : NeZero 9 := inferInstance

def Vector2f32.ofVector (v : Vector F32 2) : Vector2f32 := ⟨v.get 0, v.get 1⟩
def Vector2f32.toVector (v : Vector2f32) : Vector F32 2 := vector2 v.x v.y

def Vector3f32.ofVector (v : Vector F32 3) : Vector3f32 := ⟨v.get 0, v.get 1, v.get 2⟩
def Vector3f32.toVector (v : Vector3f32) : Vector F32 3 := vector3 v.x v.y v.z

def Matrix3x1f32.ofVector (v : Vector F32 3) : Matrix3x1f32 := ⟨v.get 0, v.get 1, v.get 2⟩
def Matrix3x1f32.toVector (v : Matrix3x1f32) : Vector F32 3 := vector3 v.x v.y v.z

def Matrix3f32.ofMatrix (m : Vector F32 9) : Matrix3f32 :=
  ⟨m.get 0, m.get 1, m.get 2, m.get 3, m.get 4, m.get 5, m.get 6, m.get 7, m.get 8⟩

def Matrix3f32.toMatrix (m : Matrix3f32) : Vector F32 9 :=
  matrix3 m.m11 m.m12 m.m13 m.m21 m.m22 m.m23 m.m31 m.m32 m.m33

@[simp] theorem Vector2f32.toVector_ofVector (v : Vector F32 2) :
    (Vector2f32.ofVector v).toVector = v := vector2_get v

@[simp] theorem Vector3f32.toVector_ofVector (v : Vector F32 3) :
    (Vector3f32.ofVector v).toVector = v := vector3_get v

@[simp] theorem Matrix3x1f32.toVector_ofVector (v : Vector F32 3) :
    (Matrix3x1f32.ofVector v).toVector = v := vector3_get v

@[simp] theorem Matrix3f32.toMatrix_ofMatrix (m : Vector F32 9) :
    (Matrix3f32.ofMatrix m).toMatrix = m := matrix3_get m

structure AccelerometerEvent where
  timestamp : UInt32
  accel : Vector3f32
  gyro : Vector3f32
  eulerAngles : Vector3f32
  deriving DecidableEq, Repr

structure Pose where
  rotation : Matrix3f32
  translation : Matrix3x1f32
  deriving DecidableEq, Repr

structure TrackingEvent where
  timestamp : UInt32
  aimpoint : Vector2f32
  pose : Pose
  distance : F32
  screenId : UInt32
  deriving DecidableEq, Repr

structure ImpactEvent where
  timestamp : UInt32
  deriving DecidableEq, Repr

structure VendorEventPacketData where
  len : UInt8
  data : Vector UInt8 98
  deriving DecidableEq, Repr

inductive PacketData
  | unsupported
  | vendorEvent (data : VendorEventPacketData)
  deriving DecidableEq, Repr

structure PacketEvent where
  ty : UInt8
  data : PacketData
  deriving DecidableEq, Repr

inductive DeviceEventKind
  | accelerometerEvent (e : AccelerometerEvent)
  | trackingEvent (e : TrackingEvent)
  | impactEvent (e : ImpactEvent)
  | zeroResult (ok : Bool)
  | saveZeroResult (ok : Bool)
  | packetEvent (p : PacketEvent)
  | capabilitiesChanged
  deriving DecidableEq, Repr

inductive Event
  | deviceEvent (device : Device) (kind : DeviceEventKind)
  deriving DecidableEq, Repr

/-! ## Conversions -/

/-- What the conversion reads of an `ats_usb` packet: the number of its type, and the data
if it is a vendor's. -/
structure Packets (P : Type) where
  ty : P → UInt8
  vendor : P → Option VendorEventPacketData

def AccelerometerEvent.ofEvent (e : OdysseyHub.AccelerometerEvent) : AccelerometerEvent :=
  { timestamp := e.timestamp
    accel := .ofVector e.accel
    gyro := .ofVector e.gyro
    eulerAngles := .ofVector e.eulerAngles }

def Pose.ofPose (p : OdysseyHub.Pose) : Pose :=
  { rotation := .ofMatrix p.rotation, translation := .ofVector p.translation }

def TrackingEvent.ofEvent (e : OdysseyHub.TrackingEvent) : TrackingEvent :=
  { timestamp := e.timestamp
    aimpoint := .ofVector e.aimpoint
    pose := .ofPose e.pose
    distance := e.distance
    screenId := e.screenId }

/-- `From<TrackingEvent> for common::events::TrackingEvent` -/
def TrackingEvent.toEvent (e : TrackingEvent) : OdysseyHub.TrackingEvent :=
  { timestamp := e.timestamp
    aimpoint := e.aimpoint.toVector
    pose := { rotation := e.pose.rotation.toMatrix, translation := e.pose.translation.toVector }
    distance := e.distance
    screenId := e.screenId }

def ImpactEvent.ofEvent (e : OdysseyHub.ImpactEvent) : ImpactEvent := { timestamp := e.timestamp }

section
variable {P : Type} (packets : Packets P)

def PacketEvent.ofPacket (p : P) : PacketEvent :=
  { ty := packets.ty p
    data := (packets.vendor p).elim .unsupported .vendorEvent }

def DeviceEventKind.ofKind : Events.DeviceEventKind P → DeviceEventKind
  | .accelerometerEvent e => .accelerometerEvent (.ofEvent e)
  | .trackingEvent e => .trackingEvent (.ofEvent e)
  | .impactEvent e => .impactEvent (.ofEvent e)
  | .zeroResult ok => .zeroResult ok
  | .saveZeroResult ok => .saveZeroResult ok
  | .packetEvent p => .packetEvent (.ofPacket packets p)
  | .capabilitiesChanged => .capabilitiesChanged
  | _ => .capabilitiesChanged

/-- `From<Event>`; `none` is the panic of the `todo!`. -/
def Event.ofEvent : Events.Event P → Option Event
  | .deviceEvent device kind => some (.deviceEvent device (.ofKind packets kind))
  | _ => none

end

/-! ## The stream (client.rs) -/

inductive ClientError
  | none
  | notConnected
  | streamEnd
  | connectFailure
  deriving DecidableEq, Repr

/-- What the stream of the service yields next. -/
inductive Polled
  | message (msg : Proto.Event)
  /-- a `tonic::Status` -/
  | failed
  | ended
  deriving DecidableEq, Repr

/-- The arguments of a call of the callback. -/
structure Callback where
  error : ClientError
  event : Option Event
  deriving DecidableEq, Repr

inductive Ending
  /-- the stream has yielded nothing more yet -/
  | waiting
  | returned
  | panicked
  deriving DecidableEq, Repr

structure Delivery where
  callbacks : List Callback
  ending : Ending
  deriving DecidableEq, Repr

section
variable {P : Type} (postcard : Postcard P) (packets : Packets P)

/-- The loop of `client_start_stream` over what the stream yields.  `subscribe_events` has
converted the messages, and dropped those it could not; the second `try_into` is the identity. -/
def deliver : List Polled → Delivery
  | [] => { callbacks := [], ending := .waiting }
  | .message msg :: rest =>
    match msg.tryInto postcard with
    | none => { callbacks := [], ending := .panicked }
    | some (.error _) => deliver rest
    | some (.ok event) =>
      match Event.ofEvent packets event with
      | none => { callbacks := [], ending := .panicked }
      | some event =>
        let d := deliver rest
        { d with callbacks := { error := .none, event := some event } :: d.callbacks }
  | .ended :: _ | .failed :: _ =>
    { callbacks := [{ error := .streamEnd, event := none }], ending := .returned }

/-- `none` is a subscription that fails. -/
def clientStartStream : Option (List Polled) → Delivery
  | some items => deliver postcard packets items
  | none => { callbacks := [{ error := .notConnected, event := none }], ending := .returned }

end

/-! ## What is claimed, and of which events -/

/-- The messages before the stream ends. -/
def received : List Polled → List Proto.Event
  | .message msg :: rest => msg :: received rest
  | _ => []

/-- The event of a message, if it has one. -/
def eventOf {P : Type} (postcard : Postcard P) (msg : Proto.Event) : Option (Events.Event P) :=
  (msg.tryInto postcard).bind Except.toOption

section
variable {P : Type} (packets : Packets P)

/-- The same kind with the same payload. -/
def DeviceEventKind.Reports : DeviceEventKind → Events.DeviceEventKind P → Prop
  | .accelerometerEvent a, .accelerometerEvent e =>
    a.timestamp = e.timestamp ∧ a.accel.toVector = e.accel ∧ a.gyro.toVector = e.gyro ∧
      a.eulerAngles.toVector = e.eulerAngles
  | .trackingEvent a, .trackingEvent e => a.toEvent = e
  | .impactEvent a, .impactEvent e => a.timestamp = e.timestamp
  | .zeroResult ok, .zeroResult ok' => ok = ok'
  | .saveZeroResult ok, .saveZeroResult ok' => ok = ok'
  | .packetEvent a, .packetEvent p =>
    a.ty = packets.ty p ∧ ∃ data, a.data = .vendorEvent data ∧ packets.vendor p = some data
  | .capabilitiesChanged, .capabilitiesChanged => True
  | _, _ => False

def Event.Reports : Event → Events.Event P → Prop
  | .deviceEvent device kind, .deviceEvent device' kind' => device = device' ∧ kind.Reports packets kind'
  | _, _ => False

/-- No event ends the stream by a panic, and the callbacks report events of the stream, in
their order; others are skipped. -/
structure Faithful (d : Delivery) (events : List (Events.Event P)) : Prop where
  noPanic : d.ending ≠ .panicked
  reports : List.SublistForall₂ (Event.Reports packets) (d.callbacks.filterMap (·.event)) events

/-- The C interface has the kind and, of a packet, the data. -/
def Expressible : Events.Event P → Prop
  | .deviceEvent _ (.packetEvent p) => (packets.vendor p).isSome = true
  | .deviceEvent _ (.pairingResult ..) | .deviceEvent _ (.batteryEvent _) => False
  | .deviceEvent _ _ => True
  | .donglePairingResult .. => False

/-! ## One event -/

theorem TrackingEvent.toEvent_ofEvent (e : OdysseyHub.TrackingEvent) : (ofEvent e).toEvent = e := by
  simp [toEvent, ofEvent, Pose.ofPose]

theorem ofKind_reports (device : Device) (kind : Events.DeviceEventKind P) :
    (DeviceEventKind.ofKind packets kind).Reports packets kind ↔
      Expressible packets (.deviceEvent device kind) := by
  cases kind with
  | accelerometerEvent e =>
    refine iff_of_true ⟨rfl, ?_, ?_, ?_⟩ trivial
    · exact Vector3f32.toVector_ofVector e.accel
    · exact Vector3f32.toVector_ofVector e.gyro
    · exact Vector3f32.toVector_ofVector e.eulerAngles
  | trackingEvent e => exact iff_of_true (TrackingEvent.toEvent_ofEvent e) trivial
  | impactEvent e => exact iff_of_true rfl trivial
  | zeroResult ok => exact iff_of_true rfl trivial
  | saveZeroResult ok => exact iff_of_true rfl trivial
  | capabilitiesChanged => exact Iff.rfl
  | packetEvent p =>
    simp only [DeviceEventKind.ofKind, DeviceEventKind.Reports, PacketEvent.ofPacket, Expressible, true_and]
    cases packets.vendor p with
    | none => simp
    | some data => simp
  | pairingResult success address name error => exact Iff.rfl
  | batteryEvent e => exact Iff.rfl

/-- The event a callback gets is the server's exactly if the C interface has it. -/
theorem ofEvent_reports {event : Events.Event P} {e : Event} (h : Event.ofEvent packets event = some e) :
    e.Reports packets event ↔ Expressible packets event := by
  cases event with
  | donglePairingResult => cases h
  | deviceEvent device kind =>
    obtain rfl := Option.some.inj h
    rw [← ofKind_reports]
    exact and_iff_right rfl

theorem ofEvent_ne_none {event : Events.Event P} (h : Expressible packets event) :
    Event.ofEvent packets event ≠ none := by
  cases event with
  | donglePairingResult => exact h.elim
  | deviceEvent device kind => exact nofun

end

/-! ## The stream -/

section
variable {P : Type} (postcard : Postcard P) (packets : Packets P)

def served (items : List Polled) : List (Events.Event P) := (received items).filterMap (eventOf postcard)

variable {postcard packets}

theorem served_cons (msg : Proto.Event) (items : List Polled) :
    served postcard (.message msg :: items) =
      (eventOf postcard msg).elim (served postcard items) (· :: served postcard items) := by
  simp only [served, received, List.filterMap_cons]
  cases eventOf postcard msg <;> rfl

theorem eventOf_of_read {msg : Proto.Event} {result : Except Unit (Events.Event P)}
    (h : msg.tryInto postcard = some result) : eventOf postcard msg = result.toOption := by
  rw [eventOf, h]
  rfl

/-- A stream with no panic: every message was read, and of every event the callback got the
conversion. -/
theorem deliver_inv (items : List Polled) (h : (deliver postcard packets items).ending ≠ .panicked) :
    (∀ msg ∈ received items, msg.tryInto postcard ≠ none) ∧
      List.Forall₂ (fun event e => Event.ofEvent packets event = some e) (served postcard items)
        ((deliver postcard packets items).callbacks.filterMap (·.event)) := by
  induction items with
  | nil => exact ⟨by simp [received], .nil⟩
  | cons item rest ih =>
    cases item with
    | failed => exact ⟨by simp [received], .nil⟩
    | ended => exact ⟨by simp [received], .nil⟩
    | message msg =>
      unfold deliver at h ⊢
      cases hread : msg.tryInto postcard with
      | none => simp [hread] at h
      | some result =>
        have hmsg : msg.tryInto postcard ≠ none := by simp [hread]
        simp only [hread] at h ⊢
        rw [served_cons, eventOf_of_read hread]
        cases result with
        | error => exact ⟨List.forall_mem_cons.mpr ⟨hmsg, (ih h).1⟩, (ih h).2⟩
        | ok event =>
          cases hconv : Event.ofEvent packets event with
          | none => simp [hconv] at h
          | some e =>
            simp only [hconv] at h ⊢
            exact ⟨List.forall_mem_cons.mpr ⟨hmsg, (ih h).1⟩, .cons hconv (ih h).2⟩

/-- Nothing panics while messages can be read and events converted. -/
theorem deliver_noPanic (items : List Polled) (hread : ∀ msg ∈ received items, msg.tryInto postcard ≠ none)
    (hconv : ∀ event ∈ served postcard items, Event.ofEvent packets event ≠ none) :
    (deliver postcard packets items).ending ≠ .panicked := by
  induction items with
  | nil => exact nofun
  | cons item rest ih =>
    cases item with
    | failed => exact nofun
    | ended => exact nofun
    | message msg =>
      obtain ⟨hmsg, hrest⟩ := List.forall_mem_cons.mp hread
      obtain ⟨result, hresult⟩ := Option.ne_none_iff_exists'.mp hmsg
      rw [served_cons, eventOf_of_read hresult] at hconv
      unfold deliver
      cases result with
      | error =>
        simp only [hresult]
        exact ih hrest hconv
      | ok event =>
        obtain ⟨hevent, hconv⟩ := List.forall_mem_cons.mp hconv
        obtain ⟨e, he⟩ := Option.ne_none_iff_exists'.mp hevent
        simp only [hresult, he]
        exact ih hrest hconv

/-- As many callbacks report events as there are events, so none was skipped. -/
theorem pointwise_of_faithful {d : Delivery} {events : List (Events.Event P)} (F : Faithful packets d events)
    (hlen : events.length = (d.callbacks.filterMap (·.event)).length) :
    List.Forall₂ (fun event e => e.Reports packets event) events (d.callbacks.filterMap (·.event)) := by
  obtain ⟨sub, hreports, hsub⟩ := List.sublistForall₂_iff.mp F.reports
  obtain rfl : sub = events := hsub.eq_of_length (hreports.length_eq.symm.trans hlen.symm)
  exact hreports.flip

theorem faithful_deliver_iff (items : List Polled) :
    Faithful packets (deliver postcard packets items) (served postcard items) ↔
      (∀ msg ∈ received items, msg.Readable postcard) ∧
        ∀ event ∈ served postcard items, Expressible packets event := by
  constructor
  · intro F
    obtain ⟨hread, hconv⟩ := deliver_inv items F.noPanic
    have hreports := pointwise_of_faithful F hconv.length_eq
    have hexpr : List.Forall₂ (fun event e => Expressible packets event ∧ Event.ofEvent packets event = some e)
        (served postcard items) ((deliver postcard packets items).callbacks.filterMap (·.event)) :=
      hconv.mp (fun event e hc hr => ⟨(ofEvent_reports packets hc).mp hr, hc⟩) hreports
    exact ⟨fun msg hm => (Proto.tryInto_ne_none_iff postcard msg).mp (hread msg hm),
      ((List.forall₂_and_left _ _).mp hexpr).1⟩
  · rintro ⟨hread, hexpr⟩
    have hpanic : (deliver postcard packets items).ending ≠ .panicked :=
      deliver_noPanic items (fun msg hm => (Proto.tryInto_ne_none_iff postcard msg).mpr (hread msg hm))
        fun event he => ofEvent_ne_none packets (hexpr event he)
    have hconv := (List.forall₂_and_left _ _).mpr ⟨hexpr, (deliver_inv items hpanic).2⟩
    refine ⟨hpanic, List.sublistForall₂_iff.mpr ⟨_, ?_, List.Sublist.refl _⟩⟩
    exact (hconv.imp fun event e h => (ofEvent_reports packets h.2).mpr h.1).flip

/-- **The events of the C client.**  They are reported faithfully exactly if every message
before the end of the stream can be read and the C interface has every event. -/
theorem faithful_iff (postcard : Postcard P) (packets : Packets P) (subscription : Option (List Polled)) :
    Faithful packets (clientStartStream postcard packets subscription)
        (served postcard (subscription.getD [])) ↔
      (∀ msg ∈ received (subscription.getD []), msg.Readable postcard) ∧
        ∀ event ∈ served postcard (subscription.getD []), Expressible packets event := by
  cases subscription with
  | some items => exact faithful_deliver_iff items
  | none =>
    refine iff_of_true ⟨nofun, .nil⟩ ⟨?_, ?_⟩
    · simp [received]
    · simp [served, received]

theorem received_messages (msgs : List Proto.Event) : received (msgs.map .message) = msgs := by
  induction msgs with
  | nil => rfl
  | cons msg msgs ih => exact congrArg (msg :: ·) ih

/-- What the server sends can always be read. -/
theorem faithful_sent_iff (hp : postcard.Lossless) {events : List (Events.Event P)} {msgs : List Proto.Event}
    (hc : ∀ event ∈ events, event.Canonical)
    (hm : List.Forall₂ (fun event msg => Proto.Event.ofEvent postcard event = some msg) events msgs) :
    Faithful packets (deliver postcard packets (msgs.map .message)) events ↔
      ∀ event ∈ events, Expressible packets event := by
  have hread : List.Forall₂ (fun event msg => msg.tryInto postcard = some (.ok event)) events msgs := by
    refine ((List.forall₂_and_left _ _).mpr ⟨hc, hm⟩).imp fun event msg ⟨hcanon, hsent⟩ => ?_
    have hlossless := Proto.tryInto_ofEvent postcard hp event hcanon
    rwa [hsent] at hlossless
  have hserved : served postcard (msgs.map .message) = events := by
    rw [served, received_messages]
    clear hc hm
    induction hread with
    | nil => rfl
    | @cons event msg _ _ h _ ih =>
      rw [List.filterMap_cons_some (eventOf_of_read h), ih]
  have hall : ∀ msg ∈ msgs, msg.Readable postcard := by
    have hflip : List.Forall₂ (fun msg _ => msg.Readable postcard ∧ True) msgs events :=
      hread.flip.imp fun msg event h => ⟨(Proto.tryInto_ne_none_iff postcard msg).mp (by simp [h]), trivial⟩
    exact ((List.forall₂_and_left _ _).mp hflip).1
  have hiff : Faithful packets (deliver postcard packets (msgs.map .message))
      (served postcard (msgs.map .message)) ↔ _ := faithful_deliver_iff (msgs.map .message)
  rw [hserved, received_messages] at hiff
  rw [hiff]
  exact and_iff_right hall

end

/-! ## Events that arrive as others -/

/-- Packets of a byte: no vendor's. -/
def bytePackets : Packets UInt8 where
  ty p := p
  vendor _ := none

def batteryMessage : Proto.Event :=
  ⟨some (.device ⟨some (Proto.Device.ofDevice Proto.unnamedDevice), some (.battery 80 true)⟩)⟩

def dongleMessage : Proto.Event := ⟨some (.donglePairingResult "" true [] "" "")⟩

theorem battery_misreported :
    ¬ ∀ (P : Type) (postcard : Postcard P) (packets : Packets P) (subscription : Option (List Polled)),
      Faithful packets (clientStartStream postcard packets subscription)
        (served postcard (subscription.getD [])) := by
  intro hall
  have F := hall UInt8 Proto.bytePostcard bytePackets (some [.message batteryMessage])
  have hserved : .deviceEvent Proto.unnamedDevice (.batteryEvent ⟨80, true⟩) ∈
      served Proto.bytePostcard [.message batteryMessage] := by decide +kernel
  exact ((faithful_deliver_iff _).mp F).2 _ hserved

example : deliver Proto.bytePostcard bytePackets [.message batteryMessage, .ended] =
    { callbacks := [⟨.none, some (.deviceEvent Proto.unnamedDevice .capabilitiesChanged)⟩, ⟨.streamEnd, none⟩]
      ending := .returned } := by
  decide +kernel

example : deliver Proto.bytePostcard bytePackets [.message dongleMessage, .message batteryMessage] =
    { callbacks := [], ending := .panicked } := by
  decide +kernel

end ClientFfi

end OdysseyHub
