import OdysseyHub.Server.HandlerTurn

/-!
# What a turn of the handler does to its streams

The inversion of a turn as far as the sensor streams go (`turn_streams`): it leaves them
alone, makes an access between a pause and the arming of the resume timer, starts them,
only disarms the timer, drops them, or leaves the loop.  Streams then run on an events
device as long as the handler stays (`StreamsBacked.turn`).
-/

namespace OdysseyHub

/-- A request that starts or stops streams, or must not meet one. -/
def Effect.onStreams : Effect → Bool
  | .call _ (.startStream _) | .call _ .clearAllStreams => true
  | .call _ request => request.isAccess
  | _ => false

/-- The arm reaches an access of the events device. -/
def Arm.accesses (h : Handler) : Arm → Bool
  | .control m => m.accesses h
  | _ => false

/-- The arms that drop the streams: their ends, or their device is gone. -/
def Arm.dropsStreams : Arm → Bool
  | .streamsEnded | .control .removeEventsDevice => true
  | _ => false

namespace Handler

/-! ## What a turn does to the streams -/

/-- `h'` has the events device, the streams and the flags of `h`. -/
structure SameStreams (h h' : Handler) : Prop where
  eventsDevice : h'.connections.eventsDevice = h.connections.eventsDevice
  sensorStreams : h'.sensorStreams = h.sensorStreams
  hasSensorStreams : h'.hasSensorStreams = h.hasSensorStreams
  streamsPaused : h'.streamsPaused = h.streamsPaused
  streamsResumeArmed : h'.streamsResumeArmed = h.streamsResumeArmed

theorem SameStreams.refl (h : Handler) : SameStreams h h := ⟨rfl, rfl, rfl, rfl, rfl⟩

inductive StreamTurn (h : Handler) (arm : Arm) (a : Answers) (o : Outcome) : Prop
  /-- the streams are not touched -/
  | kept (same : SameStreams h o.handler) (silent : ∀ e ∈ o.effects, e.onStreams = false)
  /-- one access of a batch -/
  | access (dev : VmDevice) (request : DeviceCall) (r : Reply)
      (present : h.connections.eventsDevice = some dev) (isAccess : request.isAccess = true)
      (accesses : arm.accesses h = true) (eq : o = h.batchAccess dev request r)
  /-- stopped streams are started; the flags of a pause stay, or both are cleared -/
  | started (dev : VmDevice) (v : Version) (rest : List Effect)
      (idle : h.hasSensorStreams = false)
      (present : o.handler.connections.eventsDevice = some dev)
      (streams : o.handler.sensorStreams = startSensorStreams v a)
      (flag : o.handler.hasSensorStreams = !o.handler.sensorStreams.isEmpty)
      (paused : o.handler.streamsPaused = true → h.streamsPaused = true ∧
        o.handler.streamsResumeArmed = h.streamsResumeArmed)
      (effects : o.effects = startCalls dev v ++ rest)
      (silent : ∀ e ∈ rest, e.onStreams = false)
  /-- the resume timer fires and finds nothing to start -/
  | resumed (eq : o =
      { handler := { h with streamsResumeArmed := false, streamsPaused := false }, effects := [] })
  /-- the streams ended, or their device is gone -/
  | dropped (drops : arm.dropsStreams = true) (streams : o.handler.sensorStreams = [])
      (flag : o.handler.hasSensorStreams = false) (paused : o.handler.streamsPaused = h.streamsPaused)
      (armed : o.handler.streamsResumeArmed = h.streamsResumeArmed)
      (silent : ∀ e ∈ o.effects, e.onStreams = false)
  /-- the loop is left -/
  | left (leave : o.leave = true) (silent : ∀ e ∈ o.effects, e.onStreams = false)

section
variable {h : Handler} {arm : Arm} {a : Answers}

theorem StreamTurn.ofEffects {effects : List Effect}
    (silent : ∀ e ∈ effects, e.onStreams = false) :
    StreamTurn h arm a { handler := h, effects := effects } :=
  .kept (.refl h) silent

theorem Asked.streams {b : Bool} {o : Outcome} (hq : Asked h b o) (hb : arm.accesses h = b) :
    StreamTurn h arm a o := by
  cases hq with
  | replied r => exact .ofEffects (by simp [Effect.onStreams])
  | batched r hdev hr => exact .access _ _ r hdev hr hb rfl
  | @plain dev request r hr =>
    refine .ofEffects fun e he => ?_
    rcases List.mem_pair.mp he with rfl | rfl
    · cases request <;> first | rfl | cases hr
    · rfl

theorem setDeviceName_streams (name : String) : StreamTurn h arm a (h.setDeviceName name a) := by
  have hs : ∀ n : Device, SameStreams h { h with device := n } := fun _ => ⟨rfl, rfl, rfl, rfl, rfl⟩
  unfold setDeviceName
  cases h.connections.controlDevice with
  | some dev =>
    dsimp only
    split
    · exact .kept (hs _) (by cases h.hubDevice <;> simp [Effect.onStreams, DeviceCall.isAccess])
    · exact .ofEffects (by simp [Effect.onStreams, DeviceCall.isAccess])
  | none =>
    cases h.connections.eventsDevice with
    | some dev =>
      dsimp only
      split
      · exact .kept (hs _) (by cases h.hubDevice <;> simp [Effect.onStreams, DeviceCall.isAccess])
      · exact .ofEffects (by simp [Effect.onStreams, DeviceCall.isAccess])
    | none => exact .ofEffects (by simp [Effect.onStreams])

theorem addEventsDevice_streams (dev : VmDevice) (v : Version) :
    StreamTurn h arm a (h.addEventsDevice dev v a) := by
  cases hs : h.hasSensorStreams with
  | true =>
    refine .kept ?_ (by rw [addEventsDevice_effects_streaming h dev v a hs]; simp)
    unfold addEventsDevice
    dsimp only
    split <;> exact ⟨by simp, by simp, by simp [hs], by simp, by simp⟩
  | false =>
    unfold addEventsDevice
    dsimp only
    split <;> simp only [hs, Bool.false_eq_true, if_false]
    · exact .started dev v _ hs rfl rfl rfl (fun hp => ⟨hp, rfl⟩) rfl
        (by simp [Effect.onStreams, DeviceCall.isAccess])
    · exact .started dev h.protocolVersion _ hs rfl rfl rfl (fun hp => ⟨hp, rfl⟩) rfl
        (by simp [Effect.onStreams, DeviceCall.isAccess])

theorem addControlDevice_streams (dev : VmDevice) :
    StreamTurn h arm a (h.addControlDevice dev a) :=
  .kept ⟨rfl, rfl, rfl, rfl, rfl⟩
    (by simp [addControlDevice, announce, Effect.onStreams, DeviceCall.isAccess])

theorem removeControlDevice_streams : StreamTurn h arm a h.removeControlDevice := by
  unfold removeControlDevice
  dsimp only
  split
  · exact .kept ⟨rfl, rfl, rfl, rfl, rfl⟩ (by simp [announce, Effect.onStreams])
  · exact .left rfl (by simp)

theorem removeEventsDevice_streams :
    StreamTurn h (.control .removeEventsDevice) a h.removeEventsDevice := by
  unfold removeEventsDevice
  dsimp only
  split
  · exact .dropped rfl rfl rfl rfl rfl (by simp [announce, Effect.onStreams])
  · exact .left rfl (by simp)

theorem setTransportMode_streams (usbMode : Bool) :
    StreamTurn h arm a (h.setTransportMode usbMode a) := by
  unfold setTransportMode
  split
  · exact .left rfl (by simp [Effect.onStreams, DeviceCall.isAccess])
  · exact .ofEffects (by simp [Effect.onStreams])

theorem control_streams (m : DeviceTaskMessage) : StreamTurn h (.control m) a (h.control a m) := by
  cases m with
  | resetZero => exact .ofEffects (by simp [Effect.onStreams])
  | saveZero => exact .ofEffects (by simp [Effect.onStreams])
  | setShotDelay ms => exact .ofEffects (by simp [shotDelayWrites, Effect.onStreams])
  | clearZero => exact .ofEffects (by simp [Effect.onStreams])
  | writeVendor tag data =>
    simp only [control, writeVendor]
    split <;> exact .ofEffects (by simp [Effect.onStreams, DeviceCall.isAccess])
  | zero t p te =>
    simp only [control, zero]
    split <;> exact .ofEffects (by simp [Effect.onStreams])
  | readRegister | writeRegister | readConfig | writeConfig | flashSettings | cancelPairing | clearBond =>
    exact (control_asked h a rfl).streams rfl
  | startPairing t =>
    simp only [control, startPairing]
    split
    · refine .ofEffects ?_
      split <;> simp [Effect.onStreams, DeviceCall.isAccess]
    · exact .ofEffects (by simp [Effect.onStreams])
  | setTransportMode u => exact setTransportMode_streams u
  | setDeviceName name => exact setDeviceName_streams name
  | addEventsDevice dev v => exact addEventsDevice_streams dev v
  | addControlDevice dev => exact addControlDevice_streams dev
  | removeControlDevice => exact removeControlDevice_streams
  | removeEventsDevice => exact removeEventsDevice_streams

end

/-- **What a turn can do to the streams.** -/
theorem turn_streams {h : Handler} {arm : Arm} {a : Answers} {o : Outcome}
    (ht : h.turn arm a = some o) : StreamTurn h arm a o := by
  cases arm with
  | control m =>
    cases ht
    exact control_streams m
  | closed =>
    cases ht
    exact .left rfl (by simp)
  | shotDelay ms =>
    cases ht
    exact .kept ⟨rfl, rfl, rfl, rfl, rfl⟩ (by simp [Effect.onStreams])
  | resume =>
    simp only [turn] at ht
    split at ht
    · split at ht
      · next dev hhas hdev =>
        cases ht
        exact .started dev h.protocolVersion [] hhas hdev rfl rfl (fun hp => by cases hp)
          (List.append_nil _).symm (by simp)
      · cases ht
        exact .resumed rfl
    · cases ht
  | retry =>
    simp only [turn] at ht
    split at ht
    · next dev hhas _ hdev =>
      cases ht
      exact .started dev h.protocolVersion [] hhas hdev rfl rfl (fun hp => ⟨hp, rfl⟩)
        (List.append_nil _).symm (by simp)
    · cases ht
  | stream kind =>
    simp only [turn] at ht
    split at ht
    · cases ht
      exact .ofEffects (by simp [Effect.onStreams])
    · cases ht
  | streamsEnded =>
    simp only [turn] at ht
    split at ht
    · cases ht
      exact .dropped rfl rfl rfl rfl rfl (by simp)
    · cases ht

/-- An access of a batch pauses running streams and arms the timer. -/
theorem batchAccess_streams (h : Handler) (dev : VmDevice) (request : DeviceCall) (r : Reply) :
    let h' := (h.batchAccess dev request r).handler
    h'.hasSensorStreams = false ∧
      h'.sensorStreams = (if h.hasSensorStreams then [] else h.sensorStreams) ∧
      (h'.streamsPaused = true → h'.streamsResumeArmed = true) := by
  simp only [batchAccess, pauseStreams]
  split
  · simp [armResume]
  · next hs =>
    refine ⟨?_, ?_, ?_⟩
    · unfold armResume
      split <;> exact Bool.eq_false_iff.mpr hs
    · unfold armResume
      split <;> rfl
    · unfold armResume
      split
      · exact fun _ => rfl
      · next hp => exact fun h' => absurd h' hp

/-! ## Streams on an events device -/

/-- Sensor streams run on an events device. -/
def StreamsBacked (h : Handler) : Prop :=
  h.hasSensorStreams = true → h.connections.eventsDevice.isSome = true

/-- A handler keeps its streams backed as long as it stays in the loop. -/
theorem StreamsBacked.turn {h : Handler} (hb : StreamsBacked h) {arm : Arm} {a : Answers}
    {o : Outcome} (ht : h.turn arm a = some o) (hl : o.leave = false) : StreamsBacked o.handler := by
  intro hs
  cases turn_streams ht with
  | kept same =>
    rw [same.eventsDevice]
    exact hb (same.hasSensorStreams ▸ hs)
  | access dev request r _ _ _ eq =>
    rw [eq, (batchAccess_streams h dev request r).1] at hs
    cases hs
  | started dev v rest _ present =>
    rw [present]
    rfl
  | resumed eq =>
    subst eq
    exact hb hs
  | dropped _ _ flag =>
    rw [flag] at hs
    cases hs
  | left leave => exact absurd (hl.symm.trans leave) Bool.false_ne_true

theorem start_streamsBacked (h : Handler) (a : Answers) : StreamsBacked (h.start a).handler := by
  unfold start
  split
  · next dev hdev =>
    intro _
    show h.connections.eventsDevice.isSome = true
    rw [hdev]
    rfl
  · intro hs
    cases hs

end Handler

end OdysseyHub
