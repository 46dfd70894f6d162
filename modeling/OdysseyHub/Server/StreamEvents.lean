import OdysseyHub.Server.Handler

/-!
# Reports of the sensor streams (device_tasks.rs, handle_stream_event)

What the handler makes of a report: its filters move on and events go to the clients.
The filters, the camera models and the float arithmetic are a parameter (`Vision`);
timestamps are wrapping `u32` microseconds of the device clock.
-/

namespace OdysseyHub

/-- An image point of a marker; both coordinates are zero where there is none. -/
structure MarkerPoint where
  x : UInt16
  y : UInt16
  deriving DecidableEq, Repr

/-- `DeviceStreamEvent` -/
inductive DeviceStreamEvent
  | accel (timestamp : UInt32) (accel gyro : Vector F32 3)
  | impact (timestamp : UInt32)
  | battery (percent : UInt8) (charging : Bool)
  | combinedMarkers (nfPoints wfPoints : List MarkerPoint)
  | pocMarkers (points : List MarkerPoint)
  | vendor (tag : UInt8) (vendor : List UInt8)
  deriving DecidableEq, Repr

/-- The libraries behind the handler: `ats_cv`, `ahrs` and the camera models. -/
structure Vision where
  /-- `FoveatedAimpointState` -/
  Foveated : Type
  Madgwick : Type
  Orientation : Type
  /-- the calibrations of the screens -/
  Calibrations : Type
  /-- a camera model, for the wide field with the stereo isometry -/
  Camera : Type
  Marker : Type
  Packet : Type
  /-- with the time step in microseconds -/
  predict : Foveated → Vector F32 3 → Vector F32 3 → Nat → Foveated
  observeMarkers : Foveated → List Marker → List Marker → Vector F32 3 → Calibrations → Foveated
  /-- a pose, and an aim point with its distance -/
  raycastUpdate : Calibrations → Foveated → Option Isometry →
    Foveated × Option (Vector F32 9 × Vector F32 3) × Option (Vector F32 2 × F32)
  screenId : Foveated → UInt8
  /-- `*madgwick.sample_period_mut() = elapsed_us as f32 / 1_000_000.0` -/
  setSamplePeriod : Madgwick → Nat → Madgwick
  updateImu : Madgwick → Vector F32 3 → Vector F32 3 → Madgwick
  toRotationMatrix : Madgwick → Orientation
  gravity : Orientation → Vector F32 3
  buildMarkersFromPoints : Camera → List MarkerPoint → List Marker
  transformPoseForClient : Vector F32 9 → Vector F32 3 → Pose
  vendorPacket : UInt8 → List UInt8 → Packet

variable {V : Vision}

/-- The locals of the handler that `handle_stream_event` moves on. -/
structure StreamState (V : Vision) where
  fvState : V.Foveated
  prevAccelTimestamp : Option UInt32
  madgwick : V.Madgwick
  orientation : V.Orientation

/-- What a report finds: the calibrations at its two loads, the offset of the device and the
camera models. -/
structure StreamEnv (V : Vision) where
  observing : V.Calibrations
  casting : V.Calibrations
  offset : Option Isometry
  cameraNf : V.Camera
  cameraWf : V.Camera

/-- `-v.xzy()` -/
def negXzy (v : Vector F32 3) : Vector F32 3 :=
  (v.swapIfInBounds 1 2).map fun x => x ^^^ 0x80000000

namespace StreamState

/-- An `Accel` report: the IMU goes into both filters, and a prediction with a pose and an aim
point is sent. -/
def accel (st : StreamState V) (env : StreamEnv V) (timestamp : UInt32) (accel gyro : Vector F32 3) :
    StreamState V × List (Events.DeviceEventKind V.Packet) :=
  let elapsed := (st.prevAccelTimestamp.map fun p => (timestamp - p).toNat).getD 0
  let dt := if elapsed = 0 then 10000 else elapsed
  let fv := V.predict st.fvState (negXzy accel) (negXzy gyro) dt
  let period := if elapsed ≠ 0 then V.setSamplePeriod st.madgwick elapsed else st.madgwick
  let madgwick := V.updateImu period gyro accel
  let (fv', pose, aim) := V.raycastUpdate env.casting fv env.offset
  let tracking : List (Events.DeviceEventKind V.Packet) :=
    match pose, aim with
    | some (rotmat, transvec), some (pt, d) =>
      [.trackingEvent
        { timestamp := timestamp
          aimpoint := pt
          pose := V.transformPoseForClient rotmat transvec
          distance := d
          screenId := (V.screenId fv').toUInt32 }]
    | _, _ => []
  ({ fvState := fv'
     prevAccelTimestamp := some timestamp
     madgwick := madgwick
     orientation := V.toRotationMatrix madgwick },
    .accelerometerEvent
      { timestamp := timestamp, accel := accel, gyro := gyro, eulerAngles := vector3 0 0 0 } :: tracking)

/-- The points that are there. -/
def seenPoints (points : List MarkerPoint) : List MarkerPoint := points.filter fun p => p.x ≠ 0 || p.y ≠ 0

/-- The markers are observed and the ray is cast. -/
def cast (st : StreamState V) (env : StreamEnv V) (nf wf : List V.Marker) :
    V.Foveated × Option (Vector F32 9 × Vector F32 3) × Option (Vector F32 2 × F32) :=
  V.raycastUpdate env.casting
    (V.observeMarkers st.fvState nf wf (V.gravity st.orientation) env.observing) env.offset

/-- What the two marker reports do with their markers: a pose is sent, with or without an aim
point, and with the timestamp 0. -/
def markers (st : StreamState V) (env : StreamEnv V) (nf wf : List V.Marker) :
    StreamState V × List (Events.DeviceEventKind V.Packet) :=
  let (fv, pose, aim) := st.cast env nf wf
  let st' := { st with fvState := fv }
  match pose with
  | none => (st', [])
  | some (rotmat, transvec) =>
    (st', [.trackingEvent
      { timestamp := 0
        aimpoint := (aim.map (·.1)).getD (vector2 0 0)
        pose := V.transformPoseForClient rotmat transvec
        distance := (aim.map (·.2)).getD 0
        screenId := (V.screenId fv).toUInt32 }])

/-- The markers a report brings. -/
def markersOf (env : StreamEnv V) : DeviceStreamEvent → Option (List V.Marker × List V.Marker)
  | .combinedMarkers nf wf =>
    some (V.buildMarkersFromPoints env.cameraNf (seenPoints nf),
      V.buildMarkersFromPoints env.cameraWf (seenPoints wf))
  | .pocMarkers points => some (V.buildMarkersFromPoints env.cameraNf (seenPoints points), [])
  | _ => none

/-- `handle_stream_event`: the locals after a report, and the events it sends. -/
def handleStreamEvent (st : StreamState V) (env : StreamEnv V) (event : DeviceStreamEvent) :
    StreamState V × List (Events.DeviceEventKind V.Packet) :=
  match event with
  | .accel timestamp a gyro => st.accel env timestamp a gyro
  | .impact timestamp => (st, [.impactEvent { timestamp := timestamp }])
  | .battery percent charging => (st, [.batteryEvent { percent := percent, charging := charging }])
  | .combinedMarkers nf wf =>
    st.markers env (V.buildMarkersFromPoints env.cameraNf (seenPoints nf))
      (V.buildMarkersFromPoints env.cameraWf (seenPoints wf))
  | .pocMarkers points => st.markers env (V.buildMarkersFromPoints env.cameraNf (seenPoints points)) []
  | .vendor tag vendor => (st, [.packetEvent (V.vendorPacket tag vendor)])

/-- A marker report yields a pose. -/
def Solves (st : StreamState V) (env : StreamEnv V) (event : DeviceStreamEvent) : Prop :=
  ∃ m ∈ markersOf env event, (st.cast env m.1 m.2).2.1.isSome = true

/-! ## The timestamps of tracking events -/

/-- The timestamp of the most recent `Accel` report after one more report. -/
def clockAfter (clock : Option UInt32) : DeviceStreamEvent → Option UInt32
  | .accel timestamp _ _ => some timestamp
  | _ => clock

section
variable (st : StreamState V) (env : StreamEnv V)

theorem markers_timestamp {nf wf : List V.Marker} {te : TrackingEvent}
    (h : .trackingEvent te ∈ (st.markers env nf wf).2) :
    (st.cast env nf wf).2.1.isSome = true ∧ te.timestamp = 0 := by
  unfold markers at h
  dsimp only at h
  split at h
  · cases h
  · next rotmat transvec hp =>
    rw [hp]
    obtain rfl := Events.DeviceEventKind.trackingEvent.inj (List.mem_singleton.mp h)
    exact ⟨rfl, rfl⟩

/-- A pose of the markers is always sent. -/
theorem markers_sends {nf wf : List V.Marker} (h : (st.cast env nf wf).2.1.isSome = true) :
    ∃ te, .trackingEvent te ∈ (st.markers env nf wf).2 := by
  obtain ⟨p, hp⟩ := Option.isSome_iff_exists.mp h
  unfold markers
  dsimp only
  rw [hp]
  exact ⟨_, List.mem_singleton_self _⟩

/-- A tracking event has the timestamp of the `Accel` report it comes from, or, from a marker
report that yields a pose, the timestamp 0. -/
theorem tracking_timestamp {event : DeviceStreamEvent} {te : TrackingEvent}
    (h : .trackingEvent te ∈ (st.handleStreamEvent env event).2) :
    (∃ t a g, event = .accel t a g ∧ te.timestamp = t) ∨ (st.Solves env event ∧ te.timestamp = 0) := by
  cases event with
  | accel t a g =>
    refine .inl ⟨t, a, g, rfl, ?_⟩
    change _ ∈ (st.accel env t a g).2 at h
    unfold accel at h
    dsimp only at h
    obtain h | h := List.mem_cons.mp h
    · cases h
    · split at h
      · obtain rfl := Events.DeviceEventKind.trackingEvent.inj (List.mem_singleton.mp h)
        rfl
      · cases h
  | combinedMarkers nf wf =>
    obtain ⟨hs, ht⟩ := markers_timestamp st env h
    exact .inr ⟨⟨_, rfl, hs⟩, ht⟩
  | pocMarkers points =>
    obtain ⟨hs, ht⟩ := markers_timestamp st env h
    exact .inr ⟨⟨_, rfl, hs⟩, ht⟩
  | impact t => cases List.mem_singleton.mp h
  | battery p c => cases List.mem_singleton.mp h
  | vendor tag v => cases List.mem_singleton.mp h

/-- A marker report that yields a pose sends a tracking event. -/
theorem Solves.sends {event : DeviceStreamEvent} (h : st.Solves env event) :
    ∃ te, .trackingEvent te ∈ (st.handleStreamEvent env event).2 := by
  obtain ⟨m, hm, hs⟩ := h
  cases event with
  | combinedMarkers nf wf =>
    cases hm
    exact markers_sends st env hs
  | pocMarkers points =>
    cases hm
    exact markers_sends st env hs
  | accel | impact | battery | vendor => cases hm

theorem Solves.clockAfter {event : DeviceStreamEvent} (h : st.Solves env event) (clock : Option UInt32) :
    clockAfter clock event = clock := by
  obtain ⟨m, hm, -⟩ := h
  cases event with
  | accel => cases hm
  | _ => rfl

/-- **Timestamps.**  The tracking events of a report have the timestamp of the most recent
`Accel` report exactly when the report is no marker report with a pose, or that timestamp is 0. -/
theorem tracking_clocked_iff (clock : Option UInt32) (event : DeviceStreamEvent) :
    (∀ te, .trackingEvent te ∈ (st.handleStreamEvent env event).2 →
        ∀ t ∈ StreamState.clockAfter clock event, te.timestamp = t) ↔
      (st.Solves env event → ∀ t ∈ clock, t = 0) := by
  constructor
  · intro h hs t ht
    obtain ⟨te, hte⟩ := Solves.sends st env hs
    have hstamp := h te hte t ((Solves.clockAfter st env hs clock).symm ▸ ht)
    obtain ⟨t', a, g, rfl, -⟩ | ⟨-, hzero⟩ := tracking_timestamp st env hte
    · obtain ⟨m, hm, -⟩ := hs
      cases hm
    · exact hstamp.symm.trans hzero
  · intro h te hte t ht
    obtain ⟨t', a, g, rfl, hte'⟩ | ⟨hs, hzero⟩ := tracking_timestamp st env hte
    · cases ht
      exact hte'
    · rw [Solves.clockAfter st env hs clock] at ht
      exact hzero.trans (h hs t ht).symm

end

end StreamState

end OdysseyHub
