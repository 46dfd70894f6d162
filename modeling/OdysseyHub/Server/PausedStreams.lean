import OdysseyHub.Server.StreamsAlive

/-!
# Paused streams (device_tasks.rs)

The first access of a batch pauses the streams and every access arms the resume timer.
While the pause stands no stream runs and the events device is the one it was taken on,
unless the events device is attached or detached in between:

    AtEntry h → Exec … tr →
      (Always PauseStands … tr ∧ StepsOk Undisturbed … tr ↔ StepsOk SparesEvents … tr)    (pauseStands_iff)

`AddEventsDevice` is not taken for redundant then, since a pause also clears
`has_sensor_streams`.
-/

namespace OdysseyHub

open Transition

/-! ## Effects on the streams -/

namespace Effect

def starts : Effect → Bool
  | .call _ (.startStream _) => true
  | _ => false

/-- The device on which a pause is taken. -/
def pausesOn : Effect → Option VmDevice
  | .call dev .clearAllStreams => some dev
  | _ => none

theorem pausesOn_of_silent {e : Effect} (he : e.onStreams = false) : e.pausesOn = none := by
  cases e with
  | call dev request => cases request <;> first | rfl | cases he
  | _ => rfl

theorem starts_of_isAccess {request : DeviceCall} (hr : request.isAccess = true) (dev : VmDevice) :
    (Effect.call dev request).starts = false ∧ (Effect.call dev request).pausesOn = none := by
  cases request <;> first | exact ⟨rfl, rfl⟩ | cases hr

end Effect

namespace Handler

section
variable {h : Handler} {a : Answers} {o : Outcome}

theorem pausesOn_silent {es : List Effect} (hes : ∀ e ∈ es, e.onStreams = false) :
    es.findSome? Effect.pausesOn = none :=
  List.findSome?_eq_none_iff.mpr fun e he => Effect.pausesOn_of_silent (hes e he)

/-- Some stream is always asked for. -/
theorem starts_startCalls (dev : VmDevice) (v : Version) : ∃ e ∈ startCalls dev v, e.starts = true :=
  ⟨.call dev (.startStream .combinedMarkers), List.mem_map.mpr ⟨_, by simp [wantedStreams], rfl⟩, rfl⟩

/-- An access pauses the streams if they run, and starts none. -/
theorem batchAccess_effects {dev : VmDevice} {request : DeviceCall} (hr : request.isAccess = true) (r : Reply) :
    (∀ e ∈ (h.batchAccess dev request r).effects, e.starts = false) ∧
      (h.batchAccess dev request r).effects.findSome? Effect.pausesOn =
        if h.hasSensorStreams then some dev else none := by
  obtain ⟨hstarts, hpause⟩ := Effect.starts_of_isAccess hr dev
  simp only [batchAccess, pauseStreams]
  split
  · refine ⟨?_, rfl⟩
    intro e he
    rcases List.mem_cons.mp he with rfl | he
    · rfl
    · rcases List.mem_pair.mp he with rfl | rfl
      · exact hstarts
      · rfl
  · refine ⟨?_, ?_⟩
    · intro e he
      rcases List.mem_pair.mp he with rfl | rfl
      · exact hstarts
      · rfl
    · show [Effect.call dev request, .reply r].findSome? Effect.pausesOn = none
      rw [List.findSome?_cons, hpause]
      rfl

/-- Without streams an access is no pause. -/
theorem batchAccess_paused {dev : VmDevice} {request : DeviceCall} {r : Reply} (hidle : h.hasSensorStreams = false)
    (hpaused : (h.batchAccess dev request r).handler.streamsPaused = true) : h.streamsPaused = true := by
  simp only [batchAccess, pauseStreams, hidle, Bool.false_eq_true, if_false, armResume] at hpaused
  split at hpaused
  · exact hpaused
  · exact hpaused

theorem Asked.starts {b : Bool} (hq : Asked h b o) : ∀ e ∈ o.effects, e.starts = false := by
  cases hq with
  | replied r => simp [replyOnly, Effect.starts]
  | batched r hdev hr => exact (batchAccess_effects hr r).1
  | @plain dev request r hr =>
    intro e he
    rcases List.mem_pair.mp he with rfl | rfl
    · cases request <;> first | rfl | cases hr
    · rfl

theorem setDeviceName_starts (name : String) : ∀ e ∈ (h.setDeviceName name a).effects, e.starts = false := by
  simp only [setDeviceName]
  cases h.connections.controlDevice with
  | some dev =>
    dsimp only
    split
    · cases h.hubDevice <;> simp [Effect.starts]
    · simp [Effect.starts]
  | none =>
    cases h.connections.eventsDevice with
    | some dev =>
      dsimp only
      split
      · cases h.hubDevice <;> simp [Effect.starts]
      · simp [Effect.starts]
    | none => simp [Effect.starts]

/-- Of the messages only `AddEventsDevice` starts streams. -/
theorem control_starts {m : DeviceTaskMessage} (hm : ∀ dev v, m ≠ .addEventsDevice dev v) :
    ∀ e ∈ (h.control a m).effects, e.starts = false := by
  cases m with
  | resetZero | saveZero | clearZero | setShotDelay ms =>
    simp [control, resetZero, saveZero, clearZero, setShotDelay, shotDelayWrites, Effect.starts]
  | writeVendor tag data =>
    simp only [control, writeVendor]
    split <;> simp [Effect.starts]
  | zero t p te =>
    simp only [control, zero]
    split <;> simp [Effect.starts]
  | readRegister | writeRegister | readConfig | writeConfig | flashSettings | cancelPairing | clearBond =>
    exact (control_asked h a rfl).starts
  | startPairing t =>
    simp only [control, startPairing]
    split
    · split <;> simp [Effect.starts]
    · simp [replyOnly, Effect.starts]
  | setTransportMode u =>
    simp only [control, setTransportMode]
    split <;> simp [replyOnly, Effect.starts]
  | setDeviceName name => exact setDeviceName_starts name
  | addEventsDevice dev v => exact absurd rfl (hm dev v)
  | addControlDevice dev => simp [control, addControlDevice, announce, Effect.starts]
  | removeControlDevice =>
    simp only [control, removeControlDevice]
    split <;> simp [announce, Effect.starts]
  | removeEventsDevice =>
    simp only [control, removeEventsDevice]
    split <;> simp [announce, Effect.starts]

/-! ## What disturbs a pause -/

theorem resume_unpauses (ht : h.turn .resume a = some o) : o.handler.streamsPaused = false := by
  simp only [turn] at ht
  split at ht
  · split at ht
    · cases ht
      rfl
    · cases ht
      rfl
  · cases ht

/-- The step leaves the events link of a paused handler alone. -/
def SparesEvents (h : Handler) (l : Arm × Answers) : Prop :=
  h.streamsPaused = true →
    (∀ dev v, l.1 ≠ .control (.addEventsDevice dev v)) ∧ l.1 ≠ .control .removeEventsDevice

/-- Unless the timer expires, the step starts no streams of a paused handler and keeps its
events device. -/
def Undisturbed (h : Handler) (l : Arm × Answers) : Prop :=
  h.streamsPaused = true → l.1 ≠ .resume → ∀ o, h.turn l.1 l.2 = some o →
    (∀ e ∈ o.effects, e.starts = false) ∧
      o.handler.connections.eventsDevice = h.connections.eventsDevice

/-- The retry arm is disabled while paused, and the stream arms without streams. -/
theorem turn_paused_starts {arm : Arm} (hpaused : h.streamsPaused = true) (hidle : h.hasSensorStreams = false)
    (harm : arm ≠ .resume) (hadd : ∀ dev v, arm ≠ .control (.addEventsDevice dev v))
    (ht : h.turn arm a = some o) : ∀ e ∈ o.effects, e.starts = false := by
  cases arm with
  | control m =>
    obtain rfl := Option.some.inj ht
    exact control_starts fun dev v hm => hadd dev v (congrArg Arm.control hm)
  | closed =>
    obtain rfl := Option.some.inj ht
    exact fun e he => by cases he
  | shotDelay ms =>
    obtain rfl := Option.some.inj ht
    simp [Effect.starts]
  | resume => exact absurd rfl harm
  | retry =>
    simp only [turn, hpaused, hidle] at ht
    cases ht
  | stream kind =>
    simp only [turn, hidle, Bool.false_eq_true, if_false] at ht
    cases ht
  | streamsEnded =>
    simp only [turn, hidle, Bool.false_eq_true, if_false] at ht
    cases ht

/-- Only two messages change the events device of a handler that stays. -/
theorem turn_eventsDevice {arm : Arm} (hadd : ∀ dev v, arm ≠ .control (.addEventsDevice dev v))
    (hremove : arm ≠ .control .removeEventsDevice) (ht : h.turn arm a = some o) (hl : o.leave = false) :
    o.handler.connections.eventsDevice = h.connections.eventsDevice := by
  rcases turn_cases ht with ⟨dev, v, rfl, -⟩ | ⟨dev, rfl, rfl⟩ | ⟨rfl, rfl⟩ | ⟨rfl, -⟩ | ⟨-, hsame⟩
  · exact absurd rfl (hadd dev v)
  · rfl
  · rw [removeControlDevice_leave, Bool.not_eq_false'] at hl
    rw [(removeControlDevice_stay hl).2.1]
  · exact absurd rfl hremove
  · rw [hsame.connections]

/-- Attaching an events device asks for streams that are stopped. -/
theorem addEventsDevice_starts (h : Handler) (dev : VmDevice) (v : Version) (a : Answers)
    (hidle : h.hasSensorStreams = false) : ∃ e ∈ (h.addEventsDevice dev v a).effects, e.starts = true := by
  have hcalls : ∀ w (rest : List Effect), ∃ e ∈ startCalls dev w ++ rest, e.starts = true := by
    intro w rest
    obtain ⟨e, he, hstarts⟩ := starts_startCalls dev w
    exact ⟨e, List.mem_append_left rest he, hstarts⟩
  unfold addEventsDevice
  dsimp only
  split <;> simp only [hidle, Bool.false_eq_true, if_false, restartStreams]
  · exact hcalls v _
  · exact hcalls h.protocolVersion _

/-! ## The invariant of a pause -/

/-- The device a step pauses the streams on, if it does. -/
def takesPause (h : Handler) (l : Arm × Answers) : Option VmDevice :=
  (h.turn l.1 l.2).bind fun o => o.effects.findSome? Effect.pausesOn

/-- The device of the last pause, as a history variable. -/
def pausedOn (h : Handler) (l : Arm × Answers) (_ : Handler) (dev : Option VmDevice) : Option VmDevice :=
  (takesPause h l).or dev

/-- While paused no stream runs, and the events device is the one the pause was taken on. -/
structure PauseStands (s : Handler × Option VmDevice) : Prop where
  idle : s.1.streamsPaused = true → s.1.sensorStreams = [] ∧ s.1.hasSensorStreams = false
  device : s.1.streamsPaused = true → s.2.isSome = true ∧ s.1.connections.eventsDevice = s.2

theorem PauseStands.of_unpaused {s : Handler × Option VmDevice} (h : s.1.streamsPaused = false) :
    PauseStands s :=
  ⟨fun hpaused => absurd (h.symm.trans hpaused) Bool.false_ne_true,
    fun hpaused => absurd (h.symm.trans hpaused) Bool.false_ne_true⟩

theorem takesPause_of_silent {l : Arm × Answers} (ht : h.turn l.1 l.2 = some o)
    (hsilent : ∀ e ∈ o.effects, e.onStreams = false) : takesPause h l = none := by
  rw [takesPause, ht]
  exact pausesOn_silent hsilent

/-- A step in a pause that spares the events link leaves it undisturbed. -/
theorem PauseStands.undisturbed {s : Handler × Option VmDevice} {l : Arm × Answers} {h' : Handler}
    (hp : PauseStands s) (hspares : SparesEvents s.1 l) (hs : Step s.1 l h') : Undisturbed s.1 l := by
  intro hpaused harm o ht
  obtain ⟨o', ht', hl, -⟩ := hs
  obtain rfl : o' = o := Option.some.inj (ht'.symm.trans ht)
  obtain ⟨hadd, hremove⟩ := hspares hpaused
  exact ⟨turn_paused_starts hpaused (hp.idle hpaused).2 harm hadd ht, turn_eventsDevice hadd hremove ht hl⟩

/-- A step that disturbs no pause keeps what a pause promises. -/
theorem PauseStands.step {s s' : Handler × Option VmDevice} {l : Arm × Answers} (hp : PauseStands s)
    (halive : StreamsAlive s.1) (hquiet : Undisturbed s.1 l) (hs : ghost Step pausedOn s l s') :
    PauseStands s' := by
  obtain ⟨h, dev⟩ := s
  obtain ⟨_, dev'⟩ := s'
  obtain ⟨⟨o, ht, hl, rfl⟩, hdev'⟩ := hs
  have hdev : dev' = (takesPause h l).or dev := hdev'
  have halive' : StreamsAlive o.handler := Step.streamsAlive h l o.handler halive ⟨o, ht, hl, rfl⟩
  have harm : o.handler.streamsPaused = true → l.1 ≠ .resume := by
    intro hpaused harm
    rw [harm] at ht
    rw [resume_unpauses ht] at hpaused
    cases hpaused
  -- what is left of a pause that stood before
  have hkept : h.streamsPaused = true → o.handler.streamsPaused = true → takesPause h l = none →
      dev'.isSome = true ∧ o.handler.connections.eventsDevice = dev' := by
    intro hpaused hpaused' hnone
    rw [hdev, hnone, Option.none_or, (hquiet hpaused (harm hpaused') o ht).2]
    exact hp.device hpaused
  have hidle : o.handler.streamsPaused = true → o.handler.hasSensorStreams = false →
      o.handler.sensorStreams = [] ∧ o.handler.hasSensorStreams = false :=
    fun _ hhas => ⟨halive'.idle hhas, hhas⟩
  cases turn_streams ht with
  | kept same silent =>
    have hsame := same.streamsPaused
    refine ⟨fun hpaused => hidle hpaused ?_, fun hpaused => ?_⟩
    · show o.handler.hasSensorStreams = false
      rw [same.hasSensorStreams]
      exact (hp.idle (hsame ▸ hpaused)).2
    · exact hkept (hsame ▸ hpaused) hpaused (takesPause_of_silent ht silent)
  | access pdev request r present isAccess _ eq =>
    obtain ⟨hhas, -, -⟩ := batchAccess_streams h pdev request r
    rw [← eq] at hhas
    refine ⟨fun hpaused => hidle hpaused hhas, fun hpaused => ?_⟩
    have hpause : takesPause h l = if h.hasSensorStreams then some pdev else none := by
      rw [takesPause, ht, eq]
      exact (batchAccess_effects isAccess r).2
    cases hrunning : h.hasSensorStreams with
    | true =>
      rw [hrunning, if_pos rfl] at hpause
      rw [hdev, hpause, Option.some_or]
      refine ⟨rfl, ?_⟩
      show o.handler.connections.eventsDevice = some pdev
      rw [eq, (batchAccess_sameLinks h pdev request r).connections, present]
    | false =>
      rw [hrunning, if_neg Bool.false_ne_true] at hpause
      have hpaused' : (h.batchAccess pdev request r).handler.streamsPaused = true := eq ▸ hpaused
      exact hkept (batchAccess_paused hrunning hpaused') hpaused hpause
  | started sdev v rest idle present streams flag paused effects silent =>
    have hunpaused : o.handler.streamsPaused = false := by
      rw [Bool.eq_false_iff]
      intro hpaused
      obtain ⟨e, he, hstarts⟩ := starts_startCalls sdev v
      have hquiet' := (hquiet (paused hpaused).1 (harm hpaused) o ht).1 e
        (effects ▸ List.mem_append_left rest he)
      rw [hstarts] at hquiet'
      cases hquiet'
    exact .of_unpaused hunpaused
  | resumed eq =>
    have hunpaused : o.handler.streamsPaused = false := by rw [eq]
    exact .of_unpaused hunpaused
  | dropped _ streams flag paused armed silent =>
    refine ⟨fun _ => ⟨streams, flag⟩, fun hpaused => ?_⟩
    exact hkept (paused ▸ hpaused) hpaused (takesPause_of_silent ht silent)
  | left leave => exact absurd (hl.symm.trans leave) Bool.false_ne_true

/-- What disturbs a pause is one of the two messages about the events link. -/
theorem PauseStands.spares {s s' : Handler × Option VmDevice} {l : Arm × Answers} (hp : PauseStands s)
    (hquiet : Undisturbed s.1 l) (hs : ghost Step pausedOn s l s') : SparesEvents s.1 l := by
  obtain ⟨arm, a⟩ := l
  intro hpaused
  obtain ⟨-, hidle⟩ := hp.idle hpaused
  refine ⟨?_, ?_⟩
  · rintro dev v rfl
    obtain ⟨hstarts, -⟩ := hquiet hpaused (by simp) _ rfl
    obtain ⟨e, he, hstart⟩ := addEventsDevice_starts s.1 dev v a hidle
    rw [hstarts e he] at hstart
    cases hstart
  · rintro rfl
    obtain ⟨-, hsame⟩ := hquiet hpaused (by simp) _ rfl
    obtain ⟨hsome, hdevice⟩ := hp.device hpaused
    have hnone : (s.1.control a .removeEventsDevice).handler.connections.eventsDevice = none :=
      removeEventsDevice_eventsDevice s.1
    rw [hnone, hdevice] at hsame
    rw [← hsame] at hsome
    cases hsome

theorem AtEntry.pauseStands (he : AtEntry h) : PauseStands (h, none) := by
  have hunpaused : h.streamsPaused = false := by
    have hstart : ∀ (h : Handler) (a : Answers), h.streamsPaused = false →
        (h.start a).handler.streamsPaused = false := by
      intro h a hp
      unfold Handler.start
      split <;> exact hp
    cases he with
    | usb p ms a => exact hstart _ a rfl
    | mux p hub ms a => exact hstart _ a rfl
  exact .of_unpaused hunpaused

end

/-- **Pauses.**  From either construction the streams stay paused, on the device of the
pause, until the timer expires iff no events device is attached or detached meanwhile. -/
theorem pauseStands_iff {h : Handler} {tr : List ((Arm × Answers) × (Handler × Option VmDevice))}
    (he : AtEntry h) (hrun : Exec (ghost Step pausedOn) (h, none) tr) :
    (Always PauseStands (h, none) tr ∧ StepsOk (fun s l => Undisturbed s.1 l) (h, none) tr) ↔
      StepsOk (fun s l => SparesEvents s.1 l) (h, none) tr := by
  constructor
  · rintro ⟨hstands, hquiet⟩
    exact (hrun.restrict hstands).stepsOk (I := PauseStands) (fun _ _ _ _ _ hs => hs.2)
      (fun s l s' hp hq hs => hp.spares hq hs.1) he.pauseStands hquiet
  · intro hspares
    have hstep : ∀ s l s', PauseStands s ∧ StreamsAlive s.1 → SparesEvents s.1 l →
        ghost Step pausedOn s l s' → PauseStands s' ∧ StreamsAlive s'.1 := by
      rintro s l s' ⟨hp, halive⟩ hok hs
      exact ⟨hp.step halive (hp.undisturbed hok hs.1) hs, Step.streamsAlive _ _ _ halive hs.1⟩
    refine ⟨?_, ?_⟩
    · exact (hrun.always hstep ⟨he.pauseStands, he.streamsAlive⟩ hspares).imp fun _ hp => hp.1
    · exact hrun.stepsOk hstep (fun s l s' hp hok hs => hp.1.undisturbed hok hs.1)
        ⟨he.pauseStands, he.streamsAlive⟩ hspares

/-- A device on a cable, its streams running. -/
def samplePaused : Handler × Option VmDevice := (((usbHandler (sampleUsb .usb) 0).start streaming).handler, none)

/-- A register is read, and the dongle's snapshot arrives before the timer expires. -/
def snapshotInPause : List ((Arm × Answers) × (Handler × Option VmDevice)) :=
  trace (ghostStep next pausedOn) samplePaused [(.control (.readRegister 0 1 2), {}), joinBle]

/-- The snapshot starts the streams on the dongle, and the pause on the cable still stands. -/
theorem snapshot_restarts :
    snapshotInPause.length = 2 ∧ (last samplePaused snapshotInPause).2 = some ⟨.usb, 2⟩ ∧
      (last samplePaused snapshotInPause).1.connections.eventsDevice = some ⟨.mux, 1⟩ ∧
      ¬ (Always PauseStands samplePaused snapshotInPause ∧
        StepsOk (fun s l => Undisturbed s.1 l) samplePaused snapshotInPause) := by
  refine ⟨by decide, by decide, by decide, fun h => ?_⟩
  obtain ⟨hidle, -⟩ := h.1.last
  have hpaused : (last samplePaused snapshotInPause).1.streamsPaused = true := by decide
  have hrunning : (last samplePaused snapshotInPause).1.hasSensorStreams = true := by decide
  rw [(hidle hpaused).2] at hrunning
  cases hrunning

/-- Two reads and the timer. -/
theorem pauseStands_iff_reads :
    let tr := trace (ghostStep next pausedOn) samplePaused
      [(.control (.readRegister 0 1 2), {}), (.control (.readRegister 0 1 3), {}), (.resume, streaming)]
    tr.length = 3 ∧
      ((Always PauseStands samplePaused tr ∧ StepsOk (fun s l => Undisturbed s.1 l) samplePaused tr) ↔
        StepsOk (fun s l => SparesEvents s.1 l) samplePaused tr) :=
  ⟨by decide, pauseStands_iff (.usb (sampleUsb .usb) 0 streaming) (exec_ghostStep step_of_next pausedOn _ _)⟩

end Handler

end OdysseyHub
