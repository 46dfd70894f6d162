import OdysseyHub.Server.ShotDelay

/-!
# What a handler does to the shot delay

Of the arms of the loop two touch it: the message `SetShotDelay`, which writes the
map and the watch, and a value of `shot_delay_stream`, which writes the map
(`turn_shotDelay`).  `Listener` is then seen through its writes still to do, the
values queued and its phase; `next_view` says how an event of the task moves these.
-/

namespace OdysseyHub

namespace Handler

/-- The turn ends with the shot delay it began with and writes none. -/
structure KeepsShotDelay (h : Handler) (o : Outcome) : Prop where
  current : o.handler.currentShotDelay = h.currentShotDelay
  writes : ∀ u, ∀ e ∈ o.effects, e.shotWrite u = none

theorem keepsShotDelay_replyOnly (h : Handler) (r : Reply) : KeepsShotDelay h (h.replyOnly r) :=
  ⟨rfl, by simp [replyOnly, Effect.shotWrite]⟩

theorem keepsShotDelay_batchAccess (h : Handler) (dev : VmDevice) (request : DeviceCall) (r : Reply) :
    KeepsShotDelay h (h.batchAccess dev request r) := by
  constructor
  · simp only [batchAccess, pauseStreams, armResume]
    split <;> split <;> rfl
  · intro u
    simp only [batchAccess, pauseStreams]
    split <;> simp [Effect.shotWrite]

theorem shotWrite_startCalls (u : Uuid) (dev : VmDevice) (v : Version) :
    ∀ e ∈ startCalls dev v, e.shotWrite u = none := by
  intro e he
  obtain ⟨k, -, rfl⟩ := List.mem_map.mp he
  rfl

theorem shotWrite_announce (u : Uuid) (d : Device) : ∀ e ∈ announce d, e.shotWrite u = none := by
  simp [announce, Effect.shotWrite]

theorem keepsShotDelay_restartStreams (h : Handler) (dev : VmDevice) (a : Answers) :
    KeepsShotDelay h (h.restartStreams dev a) :=
  ⟨rfl, fun u => shotWrite_startCalls u dev h.protocolVersion⟩

theorem Asked.keepsShotDelay {h : Handler} {b : Bool} {o : Outcome} (hq : Asked h b o) :
    KeepsShotDelay h o := by
  cases hq with
  | replied r => exact keepsShotDelay_replyOnly h r
  | batched r hdev hr => exact keepsShotDelay_batchAccess h _ _ r
  | plain dev r hr => exact ⟨rfl, by simp [Effect.shotWrite]⟩

theorem keepsShotDelay_startPairing (h : Handler) (timeoutMs : UInt32) (a : Answers) :
    KeepsShotDelay h (h.startPairing timeoutMs a) := by
  unfold startPairing
  split
  · refine ⟨rfl, fun u => ?_⟩
    dsimp only
    split <;> simp [Effect.shotWrite]
  · exact keepsShotDelay_replyOnly h _

theorem keepsShotDelay_setTransportMode (h : Handler) (usbMode : Bool) (a : Answers) :
    KeepsShotDelay h (h.setTransportMode usbMode a) := by
  unfold setTransportMode
  split
  · exact ⟨rfl, by simp [Effect.shotWrite]⟩
  · exact keepsShotDelay_replyOnly h _

theorem keepsShotDelay_setDeviceName (h : Handler) (name : String) (a : Answers) :
    KeepsShotDelay h (h.setDeviceName name a) := by
  unfold setDeviceName
  cases h.connections.controlDevice with
  | some dev =>
    dsimp only
    split
    · exact ⟨rfl, by cases h.hubDevice <;> simp [Effect.shotWrite]⟩
    · exact ⟨rfl, by simp [Effect.shotWrite]⟩
  | none =>
    cases h.connections.eventsDevice with
    | some dev =>
      dsimp only
      split
      · exact ⟨rfl, by cases h.hubDevice <;> simp [Effect.shotWrite]⟩
      · exact ⟨rfl, by simp [Effect.shotWrite]⟩
    | none => exact ⟨rfl, by simp [Effect.shotWrite]⟩

theorem keepsShotDelay_addEventsDevice (h : Handler) (dev : VmDevice) (v : Version) (a : Answers) :
    KeepsShotDelay h (h.addEventsDevice dev v a) := by
  unfold addEventsDevice
  extract_lets h1 h2 o device
  have hcur : h1.currentShotDelay = h.currentShotDelay := by
    unfold h1
    split <;> rfl
  split
  · exact ⟨hcur, by simp⟩
  · refine ⟨hcur, fun u e he => ?_⟩
    rcases List.mem_append.mp he with he | he
    · exact shotWrite_startCalls u dev _ e he
    · simp only [List.mem_cons, List.not_mem_nil, or_false] at he
      rcases he with rfl | rfl | rfl <;> rfl

theorem keepsShotDelay_addControlDevice (h : Handler) (dev : VmDevice) (a : Answers) :
    KeepsShotDelay h (h.addControlDevice dev a) := by
  refine ⟨rfl, fun u e he => ?_⟩
  rcases List.mem_append.mp he with he | he
  · simp only [List.mem_cons, List.not_mem_nil, or_false] at he
    rcases he with rfl | rfl <;> rfl
  · exact shotWrite_announce u _ e he

theorem keepsShotDelay_removeControlDevice (h : Handler) :
    KeepsShotDelay h h.removeControlDevice := by
  unfold removeControlDevice
  dsimp only
  split
  · exact ⟨rfl, by simp [announce, Effect.shotWrite]⟩
  · exact ⟨rfl, by simp⟩

theorem keepsShotDelay_removeEventsDevice (h : Handler) :
    KeepsShotDelay h h.removeEventsDevice := by
  unfold removeEventsDevice
  dsimp only
  split
  · exact ⟨rfl, by simp [announce, Effect.shotWrite]⟩
  · exact ⟨rfl, by simp⟩

theorem control_keepsShotDelay (h : Handler) (a : Answers) {m : DeviceTaskMessage}
    (hm : ∀ ms, m ≠ .setShotDelay ms) : KeepsShotDelay h (h.control a m) := by
  cases m with
  | setShotDelay ms => exact absurd rfl (hm ms)
  | resetZero | saveZero | clearZero => exact ⟨rfl, by simp [control, resetZero, saveZero, clearZero, Effect.shotWrite]⟩
  | writeVendor tag data =>
    simp only [control, writeVendor]
    split <;> exact ⟨rfl, by simp [Effect.shotWrite]⟩
  | zero t p te =>
    simp only [control, zero]
    split <;> exact ⟨rfl, by simp [Effect.shotWrite]⟩
  | readRegister | writeRegister | readConfig | writeConfig | flashSettings | cancelPairing | clearBond =>
    exact (control_asked h a rfl).keepsShotDelay
  | startPairing t => exact keepsShotDelay_startPairing h t a
  | setTransportMode u => exact keepsShotDelay_setTransportMode h u a
  | setDeviceName name => exact keepsShotDelay_setDeviceName h name a
  | addEventsDevice dev v => exact keepsShotDelay_addEventsDevice h dev v a
  | addControlDevice dev => exact keepsShotDelay_addControlDevice h dev a
  | removeControlDevice => exact keepsShotDelay_removeControlDevice h
  | removeEventsDevice => exact keepsShotDelay_removeEventsDevice h

theorem turn_timer_keepsShotDelay {h : Handler} {arm : Arm} {a : Answers} {o : Outcome}
    (ht : h.turn arm a = some o) (hc : ∀ m, arm ≠ .control m) (hs : ∀ ms, arm ≠ .shotDelay ms) :
    KeepsShotDelay h o := by
  cases arm with
  | control m => exact absurd rfl (hc m)
  | shotDelay ms => exact absurd rfl (hs ms)
  | closed =>
    cases ht
    exact ⟨rfl, by simp⟩
  | resume =>
    simp only [turn] at ht
    split at ht
    · split at ht
      · cases ht
        exact ⟨rfl, fun u => shotWrite_startCalls u _ _⟩
      · cases ht
        exact ⟨rfl, by simp⟩
    · cases ht
  | retry =>
    simp only [turn] at ht
    split at ht
    · cases ht
      exact keepsShotDelay_restartStreams h _ a
    · cases ht
  | stream kind =>
    simp only [turn] at ht
    split at ht
    · cases ht
      exact ⟨rfl, by simp [Effect.shotWrite]⟩
    · cases ht
  | streamsEnded =>
    simp only [turn] at ht
    split at ht
    · cases ht
      exact ⟨rfl, by simp⟩
    · cases ht

/-- **What a turn does to the shot delay.** -/
theorem turn_shotDelay {h : Handler} {arm : Arm} {a : Answers} {o : Outcome}
    (ht : h.turn arm a = some o) :
    (∃ ms, arm = .control (.setShotDelay ms) ∧ o = h.setShotDelay ms) ∨
    (∃ ms, arm = .shotDelay ms ∧
      o = { handler := { h with currentShotDelay := ms }
            effects := [.shotDelay h.device.uuid (.delay ms.toUInt16)] }) ∨
    ((∀ ms, arm ≠ .control (.setShotDelay ms)) ∧ (∀ ms, arm ≠ .shotDelay ms) ∧ KeepsShotDelay h o) := by
  cases arm with
  | control m =>
    have ho : o = h.control a m := (Option.some.inj ht).symm
    by_cases hm : ∃ ms, m = .setShotDelay ms
    · obtain ⟨ms, rfl⟩ := hm
      exact .inl ⟨ms, rfl, ho⟩
    · refine .inr (.inr ⟨?_, ?_, ?_⟩)
      · rintro ms ⟨⟩
        exact hm ⟨ms, rfl⟩
      · rintro ms ⟨⟩
      · rw [ho]
        exact control_keepsShotDelay h a fun ms hms => hm ⟨ms, hms⟩
  | shotDelay ms => exact .inr (.inl ⟨ms, rfl, (Option.some.inj ht).symm⟩)
  | closed | resume | retry | stream | streamsEnded =>
    refine .inr (.inr ⟨by rintro ms ⟨⟩, by rintro ms ⟨⟩, turn_timer_keepsShotDelay ht ?_ ?_⟩)
    · rintro m ⟨⟩
    · rintro ms ⟨⟩

theorem start_keepsShotDelay (h : Handler) (a : Answers) : KeepsShotDelay h (h.start a) := by
  unfold start
  split
  · refine ⟨rfl, fun u e he => ?_⟩
    rcases List.mem_cons.mp he with rfl | he
    · rfl
    · exact shotWrite_startCalls u _ _ e he
  · refine ⟨rfl, fun u => ?_⟩
    dsimp only
    split <;> simp [Effect.shotWrite]

end Handler

/-! ## The task as the tables see it -/

namespace HandlerTask

variable {u : Uuid} {t t' : HandlerTask}

instance : DecidablePred InLoop := fun t => inferInstanceAs (Decidable (t.phase = .prelude ∨ t.phase = .loop))

/-- What the current arm has still to write at `u`. -/
def shotWrites (u : Uuid) (t : HandlerTask) : List StoreWrite := t.todo.filterMap (·.shotWrite u)

/-- The values in the command queue. -/
def shotSets (t : HandlerTask) : List UInt16 := t.queue.filterMap (·.shotDelayMs)

def shotDelay (t : HandlerTask) : UInt32 := t.handler.currentShotDelay

theorem receive_shotWrites (m : DeviceTaskMessage) : (t.receive m).shotWrites u = t.shotWrites u := by
  simp [shotWrites]

theorem receive_shotSets {m : DeviceTaskMessage} (hm : m.shotDelayMs = none) :
    (t.receive m).shotSets = t.shotSets := by
  unfold receive
  split
  · rfl
  · simp [shotSets, hm]

theorem receive_shotSets_set (ht : t.Running) (ms : UInt16) :
    (t.receive (.setShotDelay ms)).shotSets = t.shotSets ++ [ms] := by
  simp [shotSets, receive_queue t _ ht, DeviceTaskMessage.shotDelayMs]

/-- The events the tables take no part in. -/
def Plain (e : HandlerEvent) : Prop :=
  (∀ ms a, e ≠ .start ms a) ∧ (∀ ms a, e ≠ .arm (.shotDelay ms) a) ∧ e ≠ .perform

/-- How an event moves what the tables see of a task. -/
inductive Moves (u : Uuid) (t t' : HandlerTask) : HandlerEvent → Prop
  | start {ms a} : t.phase = .prelude → t'.phase = .loop → t'.shotDelay = ms →
      t'.shotWrites u = [] → t'.shotSets = t.shotSets → Moves u t t' (.start ms a)
  | take {a} (ms) : t.phase = .loop → t'.phase = .loop → t'.shotDelay = t.shotDelay →
      t.shotWrites u = [] → t'.shotWrites u = [.delay ms, .watch ms.toUInt32] →
      t.shotSets = ms :: t'.shotSets → Moves u t t' (.recv a)
  | yield {ms a} : t.phase = .loop → t'.phase = .loop → t'.shotDelay = ms →
      t.shotWrites u = [] → t'.shotWrites u = [.delay ms.toUInt16] →
      t.shotSets = [] → t'.shotSets = [] → Moves u t t' (.arm (.shotDelay ms) a)
  | stay {e} : Plain e → t.phase = .loop → t'.phase = .loop → t'.shotDelay = t.shotDelay →
      t.shotWrites u = [] → t'.shotWrites u = [] → t'.shotSets = t.shotSets → Moves u t t' e
  | leave {e} : Plain e → Leaves t e → t.phase = .loop → t'.phase = .left →
      t'.shotWrites u = [] → Moves u t t' e
  | perform (eff rest) : t.todo = eff :: rest → t' = { t with todo := rest } → Moves u t t' .perform
  | exit : t.phase = .left → t'.phase = .finished → t'.shotWrites u = [] → Moves u t t' .exit

theorem shotWrites_of_todo (h : t.todo = []) : t.shotWrites u = [] := by
  simp [shotWrites, h]

theorem shotSets_of_queue (h : t.queue = []) : t.shotSets = [] := by
  simp [shotSets, h]

theorem shotWrites_turned {o : Outcome} (h : ∀ e ∈ o.effects, e.shotWrite u = none) :
    (t.turned o).shotWrites u = [] :=
  List.filterMap_eq_nil_iff.mpr h

/-- A turn that keeps the shot delay, in the loop or out of it. -/
theorem moves_turned {t₀ : HandlerTask} {e : HandlerEvent} {o : Outcome} (he : Plain e)
    (hn : t.next e = some (t₀.turned o)) (hp : t.phase = .loop) (htd : t.todo = [])
    (hs : t₀.shotSets = t.shotSets)
    (hk : Handler.KeepsShotDelay t.handler o) : Moves u t (t₀.turned o) e := by
  cases hl : o.leave with
  | false =>
    refine .stay he hp ?_ hk.current (shotWrites_of_todo htd) (shotWrites_turned (hk.writes u)) hs
    rw [turned_phase, hl]
    rfl
  | true =>
    refine .leave he ?_ hp ?_ (shotWrites_turned (hk.writes u))
    · exact next_leaves hn (.inr hp) (by simp [InLoop, hl])
    · rw [turned_phase, hl]
      rfl

/-- **What an event does to the task as the tables see it.** -/
theorem next_moves {e : HandlerEvent} (hu : t.uuid = u) (h : t.next e = some t') : Moves u t t' e := by
  obtain ⟨ms, a, rfl, hp, rfl⟩ | ⟨a, m, q, o, rfl, hp, htd, hq, ho, rfl⟩ |
    ⟨arm, a, o, he, hp, htd, hq, harm, hcl, ho, rfl⟩ | ⟨eff, rest, rfl, htd, rfl⟩ |
      ⟨rfl, hp, htd, rfl⟩ := next_cases h
  · have hk := Handler.start_keepsShotDelay { t.handler with currentShotDelay := ms } a
    refine .start hp ?_ hk.current (shotWrites_turned (hk.writes u)) rfl
    rw [turned_phase]
    unfold Handler.start
    split <;> rfl
  · obtain ⟨ms, hm, rfl⟩ | ⟨ms, hm, -⟩ | ⟨hm, -, hk⟩ := Handler.turn_shotDelay ho
    · cases hm
      refine .take ms hp rfl rfl (shotWrites_of_todo htd) ?_ ?_
      · have hu' : t.handler.device.uuid = u := hu
        simp [shotWrites, Handler.setShotDelay, Handler.shotDelayWrites, Effect.shotWrite, hu']
      · simp [shotSets, hq, DeviceTaskMessage.shotDelayMs]
    · cases hm
    · refine moves_turned ⟨by simp, by simp, by simp⟩ h hp htd ?_ hk
      have hmn : m.shotDelayMs = none := by
        cases m with
        | setShotDelay ms => exact absurd rfl (hm ms)
        | _ => rfl
      simp [shotSets, hq, hmn]
  · obtain ⟨ms, rfl, -⟩ | ⟨ms, rfl, rfl⟩ | ⟨-, hs, hk⟩ := Handler.turn_shotDelay ho
    · exact absurd rfl (harm _)
    · obtain rfl | rfl := he
      · exact absurd (hcl.mpr rfl) (by simp)
      · have hu' : t.handler.device.uuid = u := hu
        refine .yield hp rfl rfl (shotWrites_of_todo htd) ?_ (shotSets_of_queue hq)
          (shotSets_of_queue hq)
        simp [shotWrites, Effect.shotWrite, hu']
    · refine moves_turned ?_ h hp htd rfl hk
      obtain rfl | rfl := he
      · exact ⟨by simp, by simp, by simp⟩
      · refine ⟨by simp, ?_, by simp⟩
        rintro ms a ⟨⟩
        exact hs ms rfl
  · exact .perform eff rest htd rfl
  · exact .exit hp rfl (shotWrites_of_todo htd)

end HandlerTask

end OdysseyHub
