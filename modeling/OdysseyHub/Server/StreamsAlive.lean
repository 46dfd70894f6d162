import OdysseyHub.Server.HandlerEvents
import OdysseyHub.Server.StreamTurn

/-!
# The sensor streams of a handler never get stuck

From what a turn does to the streams (`turn_streams`) come the invariant of the loop
(`StreamsAlive`), that some arm brings stopped streams back (`StreamsAlive.restarts`)
and that no access finds a stream in the stream set of the host (`StreamsAlive.quiet`).
The streams the device runs are replayed beside it (`deviceStreams`): they are those of
the host as long as every `clear_all_streams` is acknowledged, and an access made after
one that is not finds them running.

    AtEntry h → Exec Step h tr →
      Always (… of h) h tr ∧ (every access finds the device quiet ↔ StepsOk Acknowledged h tr)
-/

namespace OdysseyHub

open Transition

/-- The running streams after one more effect; `stops` tells whether `clear_all_streams`
stops them. -/
def streamsAfter (stops : Bool) (a : Answers) (running : List SensorStream) : Effect → List SensorStream
  | .call _ (.startStream kind) => if a.streamsStarted kind then running ++ [kind] else running
  | .call _ .clearAllStreams => if stops then [] else running
  | _ => running

/-- The effect is an access that must not meet a running stream. -/
def Effect.isAccess : Effect → Bool
  | .call _ request => request.isAccess
  | _ => false

/-- Replayed in order from the streams `running`, every access finds none. -/
def QuietAccesses (stops : Bool) (a : Answers) : List SensorStream → List Effect → Prop
  | _, [] => True
  | running, e :: es =>
    (e.isAccess = true → running = []) ∧ QuietAccesses stops a (streamsAfter stops a running e) es

theorem isAccess_of_silent {e : Effect} (he : e.onStreams = false) : e.isAccess = false := by
  cases e with
  | call dev request => cases request <;> first | rfl | cases he
  | _ => rfl

section
variable {stops : Bool} {a : Answers} {running : List SensorStream}

theorem streamsAfter_silent {e : Effect} (he : e.onStreams = false) :
    streamsAfter stops a running e = running := by
  cases e with
  | call dev request => cases request <;> first | rfl | cases he
  | _ => rfl

theorem streamsAfter_access (dev : VmDevice) {request : DeviceCall} (hr : request.isAccess = true) :
    streamsAfter stops a running (.call dev request) = running := by
  cases request <;> first | rfl | cases hr

theorem replay_silent {es : List Effect} (hes : ∀ e ∈ es, e.onStreams = false) :
    es.foldl (streamsAfter stops a) running = running := by
  induction es with
  | nil => rfl
  | cons e es ih =>
    rw [List.foldl_cons, streamsAfter_silent (hes e List.mem_cons_self)]
    exact ih fun e he => hes e (List.mem_cons_of_mem _ he)

theorem replay_startCalls (dev : VmDevice) (v : Version) :
    (startCalls dev v).foldl (streamsAfter stops a) running = running ++ startSensorStreams v a := by
  unfold startCalls startSensorStreams
  generalize wantedStreams v = kinds
  induction kinds generalizing running with
  | nil => simp
  | cons k kinds ih =>
    rw [List.map_cons, List.foldl_cons, ih, List.filter_cons]
    by_cases hk : a.streamsStarted k = true
    · simp [streamsAfter, hk]
    · simp [streamsAfter, hk]

theorem quiet_silent {es : List Effect} (hes : ∀ e ∈ es, e.onStreams = false) :
    QuietAccesses stops a running es := by
  induction es with
  | nil => trivial
  | cons e es ih =>
    have he := hes e List.mem_cons_self
    refine ⟨fun hr => absurd (hr.symm.trans (isAccess_of_silent he)) Bool.false_ne_true.symm, ?_⟩
    rw [streamsAfter_silent he]
    exact ih fun e he => hes e (List.mem_cons_of_mem _ he)

theorem quiet_startCalls (dev : VmDevice) (v : Version) {es : List Effect}
    (hes : ∀ e ∈ es, e.onStreams = false) :
    QuietAccesses stops a running (startCalls dev v ++ es) := by
  unfold startCalls
  generalize wantedStreams v = kinds
  induction kinds generalizing running with
  | nil => exact quiet_silent hes
  | cons k kinds ih => exact ⟨fun hr => (by cases hr), ih⟩

end

namespace Handler

/-! ## The invariant -/

/-- Streams run on an events device, the flag says whether there are any, and a pause has
its resume timer armed. -/
structure StreamsAlive (h : Handler) : Prop where
  backed : StreamsBacked h
  flag : h.hasSensorStreams = !h.sensorStreams.isEmpty
  armed : h.streamsPaused = true → h.streamsResumeArmed = true

theorem StreamsAlive.idle {h : Handler} (s : StreamsAlive h) (hi : h.hasSensorStreams = false) :
    h.sensorStreams = [] := by
  have hf := s.flag
  rw [hi] at hf
  simpa using hf.symm

theorem AtEntry.streamsAlive {h : Handler} (he : AtEntry h) : StreamsAlive h := by
  have start : ∀ (h : Handler) (a : Answers), h.streamsPaused = false →
      StreamsAlive (h.start a).handler := by
    intro h a hp
    refine ⟨start_streamsBacked h a, ?_, ?_⟩
    · unfold Handler.start
      split <;> rfl
    · intro hp'
      unfold Handler.start at hp'
      split at hp' <;> exact absurd (hp.symm.trans hp') Bool.false_ne_true
  cases he with
  | usb p ms a => exact start _ a rfl
  | mux p hub ms a => exact start _ a rfl

theorem Step.streamsAlive (h : Handler) (l : Arm × Answers) (h' : Handler) (s : StreamsAlive h)
    (hs : Step h l h') : StreamsAlive h' := by
  obtain ⟨o, ht, hl, rfl⟩ := hs
  refine ⟨s.backed.turn ht hl, ?_, ?_⟩
  · cases turn_streams ht with
    | kept same => rw [same.hasSensorStreams, same.sensorStreams]; exact s.flag
    | access dev request r _ _ _ eq =>
      obtain ⟨hhas, hstr, -⟩ := batchAccess_streams h dev request r
      rw [eq, hhas, hstr]
      cases hi : h.hasSensorStreams with
      | true => rfl
      | false => simp [s.idle hi]
    | started dev v rest _ _ _ flag => exact flag
    | resumed eq => rw [eq]; exact s.flag
    | dropped _ streams flag => rw [streams, flag]; rfl
    | left leave => exact absurd (hl.symm.trans leave) Bool.false_ne_true
  · intro hp
    cases turn_streams ht with
    | kept same =>
      rw [same.streamsResumeArmed]
      exact s.armed (same.streamsPaused ▸ hp)
    | access dev request r _ _ _ eq =>
      subst eq
      exact (batchAccess_streams h dev request r).2.2 hp
    | started dev v rest _ _ _ _ paused =>
      obtain ⟨hp', ha⟩ := paused hp
      rw [ha]
      exact s.armed hp'
    | resumed eq => rw [eq] at hp; cases hp
    | dropped _ _ _ paused armed =>
      rw [armed]
      exact s.armed (paused ▸ hp)
    | left leave => exact absurd (hl.symm.trans leave) Bool.false_ne_true

/-! ## What the invariant gives -/

/-- An events device without streams: the resume timer is armed, or the retry arm enabled. -/
theorem StreamsAlive.restarts {h : Handler} (s : StreamsAlive h)
    (hd : h.connections.eventsDevice.isSome = true) (hi : h.hasSensorStreams = false) :
    h.streamsResumeArmed = true ∨ ∀ a, (h.turn .retry a).isSome = true := by
  cases hp : h.streamsPaused with
  | true => exact .inl (s.armed hp)
  | false =>
    obtain ⟨dev, hdev⟩ := Option.isSome_iff_exists.mp hd
    exact .inr fun a => by simp [turn, hi, hp, hdev]

/-- An access finds no stream, unless one runs whose stop is not acknowledged. -/
theorem batchAccess_quiet_iff {h : Handler} (s : StreamsAlive h) (stops : Bool) (a : Answers)
    (dev : VmDevice) {request : DeviceCall} (hr : request.isAccess = true) (r : Reply) :
    QuietAccesses stops a h.sensorStreams (h.batchAccess dev request r).effects ↔
      (h.hasSensorStreams = true → stops = true) := by
  simp only [batchAccess, pauseStreams]
  cases hhas : h.hasSensorStreams with
  | true =>
    -- the pause comes first
    have hne : h.sensorStreams ≠ [] := by
      have hflag := s.flag
      rw [hhas] at hflag
      simpa using hflag
    cases stops with
    | true => simp [QuietAccesses, streamsAfter, Effect.isAccess, DeviceCall.isAccess]
    | false => simp [QuietAccesses, streamsAfter, Effect.isAccess, hr, hne]
  | false => simp [QuietAccesses, Effect.isAccess, s.idle hhas]

/-- No access of a turn meets a stream that the host has. -/
theorem StreamsAlive.quiet {h : Handler} (s : StreamsAlive h) {arm : Arm} {a : Answers} {o : Outcome}
    (ht : h.turn arm a = some o) : QuietAccesses true a h.sensorStreams o.effects := by
  cases turn_streams ht with
  | kept _ silent => exact quiet_silent silent
  | access dev request r _ hr _ eq =>
    rw [eq, batchAccess_quiet_iff s true a dev hr r]
    exact fun _ => rfl
  | started dev v rest _ _ _ _ _ effects silent =>
    rw [effects]
    exact quiet_startCalls dev v silent
  | resumed eq => rw [eq]; trivial
  | dropped _ _ _ _ _ silent => exact quiet_silent silent
  | left _ silent => exact quiet_silent silent

/-! ## The streams on the device -/

/-- The streams running on the device after a turn: `clear_all_streams` stops them where it is
acknowledged, and they are gone when all of them ended or the events device is. -/
def deviceStreams (h : Handler) (l : Arm × Answers) (_ : Handler) (running : List SensorStream) :
    List SensorStream :=
  if l.1.dropsStreams then []
  else match h.turn l.1 l.2 with
    | some o => o.effects.foldl (streamsAfter l.2.clearAllStreams.isOk l.2) running
    | none => running

/-- The accesses of the turn find no stream running on the device. -/
def DeviceQuiet (s : Handler × List SensorStream) (l : Arm × Answers) : Prop :=
  ∀ o, s.1.turn l.1 l.2 = some o → QuietAccesses l.2.clearAllStreams.isOk l.2 s.2 o.effects

/-- A `clear_all_streams` that the turn sends is acknowledged. -/
def Acknowledged (h : Handler) (l : Arm × Answers) : Prop :=
  l.1.accesses h = true → h.hasSensorStreams = true → l.2.clearAllStreams.isOk = true

instance (h : Handler) (l : Arm × Answers) : Decidable (Acknowledged h l) :=
  inferInstanceAs (Decidable (_ → _))

section
variable {h : Handler} {arm : Arm} {a : Answers} {o : Outcome}

theorem turn_accesses (ht : h.turn arm a = some o) (hacc : arm.accesses h = true) :
    ∃ dev request r, request.isAccess = true ∧ o = h.batchAccess dev request r := by
  cases arm with
  | control m =>
    have hm : m.asksOnce = true := by cases m <;> first | rfl | cases hacc
    have hq := control_asked h a hm
    rw [show m.accesses h = true from hacc] at hq
    cases ht
    generalize h.control a m = o at hq ⊢
    cases hq with
    | batched r hdev hr => exact ⟨_, _, r, hr, rfl⟩
  | closed | shotDelay | resume | retry | stream | streamsEnded => cases hacc

theorem turn_drops (ht : h.turn arm a = some o) (hdrops : arm.dropsStreams = true) :
    o.handler.sensorStreams = [] := by
  cases arm with
  | control m =>
    cases m with
    | removeEventsDevice =>
      cases ht
      simp only [control, removeEventsDevice]
      split <;> rfl
    | _ => cases hdrops
  | streamsEnded =>
    simp only [turn] at ht
    split at ht
    · cases ht
      rfl
    · cases ht
  | closed | shotDelay | resume | retry | stream => cases hdrops

end

/-- **One turn.**  While the device runs the streams the host has, an access finds it quiet
exactly when the stop before it is acknowledged. -/
theorem StreamsAlive.deviceQuiet_iff {h : Handler} (s : StreamsAlive h) {l : Arm × Answers} {o : Outcome}
    (ht : h.turn l.1 l.2 = some o) : DeviceQuiet (h, h.sensorStreams) l ↔ Acknowledged h l := by
  have hturn : DeviceQuiet (h, h.sensorStreams) l ↔
      QuietAccesses l.2.clearAllStreams.isOk l.2 h.sensorStreams o.effects := by
    simp [DeviceQuiet, ht]
  rw [hturn]
  cases hacc : l.1.accesses h with
  | true =>
    obtain ⟨dev, request, r, hr, rfl⟩ := turn_accesses ht hacc
    rw [batchAccess_quiet_iff s _ l.2 dev hr r, Acknowledged, hacc]
    exact ⟨fun hq _ => hq, fun hq => hq rfl⟩
  | false =>
    refine iff_of_true ?_ (fun hacc' => absurd (hacc.symm.trans hacc') Bool.false_ne_true)
    cases turn_streams ht with
    | kept _ silent => exact quiet_silent silent
    | access _ _ _ _ _ hacc' => exact absurd (hacc.symm.trans hacc') Bool.false_ne_true
    | started dev v rest _ _ _ _ _ effects silent =>
      rw [effects]
      exact quiet_startCalls dev v silent
    | resumed eq => rw [eq]; trivial
    | dropped _ _ _ _ _ silent => exact quiet_silent silent
    | left _ silent => exact quiet_silent silent

/-- After an acknowledged stop the device again runs the streams the host has. -/
theorem StreamsAlive.deviceStreams_eq {h h' : Handler} (s : StreamsAlive h) {l : Arm × Answers}
    (hs : Step h l h') (hack : Acknowledged h l) :
    deviceStreams h l h' h.sensorStreams = h'.sensorStreams := by
  obtain ⟨o, ht, hl, rfl⟩ := hs
  unfold deviceStreams
  split
  · next hdrops => exact (turn_drops ht hdrops).symm
  · next hdrops =>
    rw [ht]
    dsimp only
    cases turn_streams ht with
    | kept same silent => rw [replay_silent silent, same.sensorStreams]
    | access dev request r _ hr hacc eq =>
      obtain ⟨-, hstr, -⟩ := batchAccess_streams h dev request r
      rw [eq, hstr]
      cases hhas : h.hasSensorStreams with
      | true =>
        have hok := hack hacc hhas
        simp only [batchAccess, pauseStreams, hhas, if_true, List.cons_append, List.nil_append, List.foldl_cons,
          List.foldl_nil, streamsAfter_access dev hr]
        simp only [streamsAfter, hok, if_true]
      | false =>
        simp only [batchAccess, pauseStreams, hhas, Bool.false_eq_true, if_false, List.nil_append,
          List.foldl_cons, List.foldl_nil, streamsAfter_access dev hr]
        rfl
    | started dev v rest idle _ streams _ _ effects silent =>
      rw [effects, List.foldl_append, replay_startCalls, replay_silent silent, s.idle idle, streams]
      rfl
    | resumed eq => rw [eq]; rfl
    | dropped drops => exact absurd drops hdrops
    | left leave => exact absurd (hl.symm.trans leave) Bool.false_ne_true

/-- **A run.**  Its accesses find the device quiet exactly when its stops are acknowledged. -/
theorem StreamsAlive.deviceQuiet_run {h : Handler} {tr : List ((Arm × Answers) × Handler)}
    (s : StreamsAlive h) (hrun : Exec Step h tr) :
    StepsOk DeviceQuiet (h, h.sensorStreams) (history deviceStreams h h.sensorStreams tr) ↔
      StepsOk Acknowledged h tr := by
  induction hrun with
  | nil h => exact Iff.rfl
  | cons hs _ ih =>
    have halive := Step.streamsAlive _ _ _ s hs
    obtain ⟨o, ht, -⟩ := id hs
    refine (and_congr_left' (s.deviceQuiet_iff ht)).trans (and_congr_right fun hack => ?_)
    have hrest := ih halive
    rwa [← s.deviceStreams_eq hs hack] at hrest

/-- A device that streams over USB. -/
def streamingUsb : Handler := ((usbHandler (sampleUsb .usb) 0).start streaming).handler

/-- Two register reads in a batch with answered stops, the dongle's `AddEventsDevice` before
the timer fires, and the timer. -/
def pausedBatch : List ((Arm × Answers) × Handler) :=
  trace next streamingUsb [(.control (.readRegister 0 1 2), {}), (.control (.readRegister 0 1 3), {}),
    joinBle, (.resume, streaming)]

/-- The device does not acknowledge the `DisableAll` that precedes a register read. -/
def unacknowledged : List ((Arm × Answers) × Handler) :=
  trace next streamingUsb [(.control (.readRegister 0 1 2), { clearAllStreams := .error "timed out" })]

end Handler

end OdysseyHub
