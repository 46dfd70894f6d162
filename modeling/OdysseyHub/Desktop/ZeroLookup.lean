import OdysseyHub.Client.TrackingHistory
import OdysseyHub.Lib.Slots
import OdysseyHub.Lib.Transition
import OdysseyHub.Server.StreamEvents

/-!
# Looking up the pose of a shot (views/zero.rs)

The Zero view keeps the last tracking events of a device and, for a zero that comes from an
accessory or from the key, takes the shot delay off the timestamp of the latest one.  The
system is one device from its reports to the view; events can be lost on the way.  With
every event goes the device time at which it was produced, the timestamp of the most recent
`Accel` report: the lookups are right exactly in runs whose tracking events carry it.

    StepsOk Timely … tr ↔ StepsOk Clocked … tr       (lookups_timely_iff)
-/

namespace OdysseyHub

open Slots Transition

/-- `TRACKING_HISTORY_CAP` -/
def trackingHistoryCap : Nat := 200

namespace ZeroView

/-- `shot_delay_ms as u32 * 1000` -/
def shotDelayUs (shotDelayMs : UInt16) : UInt32 := shotDelayMs.toUInt32 * 1000

/-- What starts a zero. -/
inductive Trigger
  /-- an `ImpactEvent`, with the timestamp `u32::MAX` from an accessory -/
  | impact (timestamp : UInt32)
  | key
  deriving DecidableEq, Repr

/-- The impact of an accessory, or the key. -/
def Trigger.untimed : Trigger → Bool
  | .impact timestamp => timestamp == 0xFFFFFFFF
  | .key => true

/-- The shot delay before the latest event, or `u32::MAX` without one. -/
def latestLookup (h : TrackingHistory) (shotDelayMs : UInt16) : Option UInt32 :=
  h.latest.map fun te => (te.map fun te => te.timestamp - shotDelayUs shotDelayMs).getD 0xFFFFFFFF

/-- The timestamp that is looked up; `none` is a panic. -/
def lookupTs (history : Option TrackingHistory) (shotDelayMs : UInt16) : Trigger → Option UInt32
  | .impact timestamp =>
    if timestamp = 0xFFFFFFFF then
      match history with
      | some h => latestLookup h shotDelayMs
      | none => some 0xFFFFFFFF
    else some (timestamp - shotDelayUs shotDelayMs)
  | .key =>
    match history with
    | some h => latestLookup h shotDelayMs
    -- no lookup, and no event
    | none => some 0xFFFFFFFF

/-- The event that goes into the zero request. -/
def historicalTe (history : Option TrackingHistory) (shotDelayMs : UInt16) (trigger : Trigger) :
    Option (Option TrackingEvent) := do
  let lookup ← lookupTs history shotDelayMs trigger
  match history with
  | some h => h.getClosest lookup
  | none => some none

/-- The subscription to tracking events: an event of the device goes into its history. -/
def record (history : Option TrackingHistory) (te : TrackingEvent) : Option TrackingHistory :=
  (history.getD (.new trackingHistoryCap)).push te

/-! ## From the reports to the view -/

/-- A tracking event, with the device time at which it was produced. -/
structure Produced where
  event : TrackingEvent
  clock : Option UInt32
  deriving DecidableEq, Repr

variable {V : Vision}

structure Aiming (V : Vision) where
  stream : StreamState V
  /-- the timestamp of the most recent `Accel` report -/
  clock : Option UInt32
  /-- between the handler and the view -/
  flight : List Produced
  history : Option TrackingHistory
  /-- the event recorded last -/
  latest : Option Produced

inductive AimingEvent (V : Vision)
  | report (event : DeviceStreamEvent) (env : StreamEnv V)
  | deliver
  /-- a receiver has lagged, or a stream was down -/
  | lose (i : Nat)
  /-- a zero for the device, with the shot delay of its slot -/
  | zero (trigger : Trigger) (shotDelayMs : UInt16)

def tracked : Events.DeviceEventKind V.Packet → Option TrackingEvent
  | .trackingEvent te => some te
  | _ => none

/-- The tracking events that a report sends. -/
def sends (st : StreamState V) (env : StreamEnv V) (event : DeviceStreamEvent) : List TrackingEvent :=
  (st.handleStreamEvent env event).2.filterMap tracked

namespace Aiming

def init (stream : StreamState V) : Aiming V :=
  { stream := stream, clock := none, flight := [], history := none, latest := none }

def next (s : Aiming V) : AimingEvent V → Option (Aiming V)
  | .report event env =>
    let clock := StreamState.clockAfter s.clock event
    some
      { s with
        stream := (s.stream.handleStreamEvent env event).1
        clock := clock
        flight := s.flight ++ (sends s.stream env event).map fun te => ⟨te, clock⟩ }
  | .deliver =>
    match s.flight with
    | p :: rest =>
      (record s.history p.event).map fun h => { s with flight := rest, history := some h, latest := some p }
    | [] => none
  | .lose i => some { s with flight := s.flight.eraseIdx i }
  | .zero trigger shotDelayMs => (historicalTe s.history shotDelayMs trigger).map fun _ => s

def Step (s : Aiming V) (e : AimingEvent V) (s' : Aiming V) : Prop := s.next e = some s'

/-- Tracking events carry the time of the most recent `Accel` report, and a zero without a
time of its own looks up the shot delay before the time the latest event was produced at. -/
def Timely (s : Aiming V) : AimingEvent V → Prop
  | .report event env =>
    ∀ te ∈ sends s.stream env event, ∀ t ∈ StreamState.clockAfter s.clock event, te.timestamp = t
  | .zero trigger shotDelayMs =>
    trigger.untimed = true → ∀ p ∈ s.latest, ∀ t ∈ p.clock,
      lookupTs s.history shotDelayMs trigger = some (t - shotDelayUs shotDelayMs)
  | .deliver | .lose _ => True

-- `∀ t ∈ o` is decided by the option, never by going through all of `UInt32`
instance (s : Aiming V) : ∀ e, Decidable (Timely s e)
  | .report event env =>
    letI (te : TrackingEvent) : Decidable (∀ t ∈ StreamState.clockAfter s.clock event, te.timestamp = t) :=
      Option.decidableForallMem _
    inferInstanceAs (Decidable (∀ te ∈ sends s.stream env event,
      ∀ t ∈ StreamState.clockAfter s.clock event, te.timestamp = t))
  | .zero trigger ms =>
    letI (p : Produced) : Decidable (∀ t ∈ p.clock,
        lookupTs s.history ms trigger = some (t - shotDelayUs ms)) := Option.decidableForallMem _
    inferInstanceAs (Decidable (trigger.untimed = true → ∀ p ∈ s.latest, ∀ t ∈ p.clock,
      lookupTs s.history ms trigger = some (t - shotDelayUs ms)))
  | .deliver | .lose _ => isTrue trivial

/-- A marker report yields a pose only before the first `Accel` report, or when the most recent
one has the timestamp 0. -/
def Clocked (s : Aiming V) : AimingEvent V → Prop
  | .report event env => s.stream.Solves env event → ∀ t ∈ s.clock, t = 0
  | _ => True

theorem mem_sends {st : StreamState V} {env : StreamEnv V} {event : DeviceStreamEvent} {te : TrackingEvent} :
    te ∈ sends st env event ↔ .trackingEvent te ∈ (st.handleStreamEvent env event).2 := by
  unfold sends
  rw [List.mem_filterMap]
  constructor
  · rintro ⟨k, hk, hte⟩
    cases k with
    | trackingEvent te' =>
      cases hte
      exact hk
    | _ => cases hte
  · exact fun h => ⟨_, h, rfl⟩

/-- A report is timely exactly when it is clocked. -/
theorem timely_report_iff {s : Aiming V} {event : DeviceStreamEvent} {env : StreamEnv V} :
    Timely s (.report event env) ↔ Clocked s (.report event env) := by
  refine Iff.trans ?_ (StreamState.tracking_clocked_iff s.stream env s.clock event)
  exact forall_congr' fun te => by rw [mem_sends]

/-- The event has the timestamp of the time it was produced at. -/
def Stamped (p : Produced) : Prop := ∀ t ∈ p.clock, p.event.timestamp = t

/-- All events are stamped, and the history has the one recorded last. -/
structure Inv (s : Aiming V) : Prop where
  flight : ∀ p ∈ s.flight, Stamped p
  latest : ∀ p ∈ s.latest, Stamped p
  history : ∀ h ∈ s.history, h.WellFormed ∧ h.latest = some (s.latest.map (·.event))
  recorded : s.history = none → s.latest = none

theorem inv_init (stream : StreamState V) : Inv (init stream) := by
  refine ⟨by simp [init], by simp [init], by simp [init], fun _ => rfl⟩

variable {s s' : Aiming V}

theorem Inv.step (I : Inv s) {e : AimingEvent V} (hok : Clocked s e) (h : Step s e s') : Inv s' := by
  have h : s.next e = some s' := h
  cases e with
  | report event env =>
    cases h
    refine ⟨fun p hp => ?_, I.latest, I.history, I.recorded⟩
    obtain hp | hp := List.mem_append.mp hp
    · exact I.flight p hp
    · obtain ⟨te, hte, rfl⟩ := List.mem_map.mp hp
      exact timely_report_iff.mpr hok te hte
  | deliver =>
    simp only [next] at h
    split at h
    · next p rest hfl =>
      obtain ⟨hist, hrec, rfl⟩ := Option.map_eq_some_iff.mp h
      have hw : (s.history.getD (.new trackingHistoryCap)).WellFormed := by
        cases hh : s.history with
        | none => exact TrackingHistory.wellFormed_new (by decide)
        | some h₀ => exact (I.history h₀ hh).1
      have hp : Stamped p := I.flight p (hfl ▸ List.mem_cons_self)
      refine ⟨fun q hq => I.flight q (hfl ▸ List.mem_cons_of_mem _ hq), ?_, ?_, fun hn => by cases hn⟩
      · rintro q ⟨⟩
        exact hp
      · rintro _ ⟨⟩
        exact ⟨hw.push hrec, hw.latest_push hrec⟩
    · cases h
  | lose i =>
    cases h
    exact ⟨fun p hp => I.flight p (List.mem_of_mem_eraseIdx hp), I.latest, I.history, I.recorded⟩
  | zero trigger ms =>
    obtain ⟨_, -, rfl⟩ := Option.map_eq_some_iff.mp h
    exact I

/-- A lookup starts at the time the latest event was produced at. -/
theorem Inv.lookup (I : Inv s) {trigger : Trigger} (ht : trigger.untimed = true) {p : Produced}
    (hp : s.latest = some p) {t : UInt32} (hc : p.clock = some t) (ms : UInt16) :
    lookupTs s.history ms trigger = some (t - shotDelayUs ms) := by
  have hstamp : p.event.timestamp = t := I.latest p hp t hc
  cases hh : s.history with
  | none => exact absurd ((I.recorded hh).symm.trans hp) (by simp)
  | some h =>
    have hlatest : latestLookup h ms = some (t - shotDelayUs ms) := by
      rw [latestLookup, (I.history h hh).2, hp]
      simp [hstamp]
    cases trigger with
    | impact ts =>
      have hts : ts = 0xFFFFFFFF := by simpa [Trigger.untimed] using ht
      simpa only [lookupTs, hts, if_true] using hlatest
    | key => exact hlatest

theorem Inv.timely (I : Inv s) {e : AimingEvent V} (hok : Clocked s e) : Timely s e := by
  cases e with
  | report event env => exact timely_report_iff.mpr hok
  | zero trigger ms => exact fun ht p hp t hc => I.lookup ht hp hc ms
  | deliver => trivial
  | lose i => trivial

/-- **Lookups.**  In a run all tracking events carry the time of the most recent `Accel`
report, and all lookups without a time of their own start at the time their event was
produced at, exactly when no marker report yields a pose while that time is not 0. -/
theorem lookups_timely_iff (stream : StreamState V) {tr : List (AimingEvent V × Aiming V)}
    (hrun : Exec Step (init stream) tr) :
    StepsOk Timely (init stream) tr ↔ StepsOk Clocked (init stream) tr := by
  constructor
  · refine hrun.stepsOk (I := fun _ => True) (fun _ _ _ _ _ _ => trivial) (fun s e _ _ ht _ => ?_) trivial
    cases e with
    | report event env => exact timely_report_iff.mp ht
    | _ => trivial
  · exact hrun.stepsOk (fun _ _ _ I hok h => I.step hok h) (fun _ _ _ I hok _ => I.timely hok)
      (inv_init stream)

/-! ## A gun that sees its markers -/

/-- There is a pose while the last markers were seen. -/
def sampleVision : Vision where
  Foveated := Bool
  Madgwick := Unit
  Orientation := Unit
  Calibrations := Unit
  Camera := Unit
  Marker := MarkerPoint
  Packet := Unit
  predict fv _ _ _ := fv
  observeMarkers _ nf _ _ _ := !nf.isEmpty
  raycastUpdate _ fv _ :=
    if fv then (fv, some (matrix3 0 0 0 0 0 0 0 0 0, vector3 0 0 0), some (vector2 0 0, 0)) else (fv, none, none)
  screenId _ := 0
  setSamplePeriod m _ := m
  updateImu m _ _ := m
  toRotationMatrix _ := ()
  gravity _ := vector3 0 0 0
  buildMarkersFromPoints _ points := points
  transformPoseForClient r t := ⟨r, t⟩
  vendorPacket _ _ := ()

def sampleStream : StreamState sampleVision :=
  { fvState := false, prevAccelTimestamp := none, madgwick := (), orientation := () }

def sampleEnv : StreamEnv sampleVision :=
  { observing := (), casting := (), offset := none, cameraNf := (), cameraWf := () }

def aimRun (events : List (AimingEvent sampleVision)) : List (AimingEvent sampleVision × Aiming sampleVision) :=
  trace next (init sampleStream) events

theorem aimRun_exec (events : List (AimingEvent sampleVision)) :
    Exec Step (init sampleStream) (aimRun events) :=
  exec_trace (fun _ _ _ h => h) _ _

def seesMarkers : AimingEvent sampleVision := .report (.pocMarkers [⟨1, 1⟩]) sampleEnv

def moves (timestamp : UInt32) : AimingEvent sampleVision :=
  .report (.accel timestamp (vector3 0 0 0) (vector3 0 0 0)) sampleEnv

/-- Markers come before the first `Accel` report only. -/
def clockedShot : List (AimingEvent sampleVision) :=
  [seesMarkers, moves 500000, moves 510000, .deliver, .deliver, .deliver, .zero (.impact 0xFFFFFFFF) 20]

/-- Markers come behind an `Accel` report too. -/
def unclockedShot : List (AimingEvent sampleVision) :=
  [seesMarkers, moves 500000, seesMarkers, .deliver, .deliver, .deliver, .zero (.impact 0xFFFFFFFF) 20]

theorem lookups_timely_iff_clocked :
    (aimRun clockedShot).length = 7 ∧
      (StepsOk Timely (init sampleStream) (aimRun clockedShot) ↔
        StepsOk Clocked (init sampleStream) (aimRun clockedShot)) :=
  ⟨by decide +kernel, lookups_timely_iff sampleStream (aimRun_exec clockedShot)⟩

/-- The latest event has the timestamp 0, and the lookup starts there. -/
theorem lookup_untimely :
    ¬ ∀ (V : Vision) (stream : StreamState V) (tr : List (AimingEvent V × Aiming V)),
      Exec Step (init stream) tr → StepsOk Timely (init stream) tr := by
  intro hall
  exact absurd (hall _ _ _ (aimRun_exec unclockedShot)) (by decide +kernel)

end Aiming

end ZeroView

end OdysseyHub
