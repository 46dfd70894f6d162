import OdysseyHub.Server.StreamTurn
import OdysseyHub.Server.System

/-!
# What a handler task can do

`next_cases` inverts `HandlerTask.next`: an event is the prelude, a turn of the loop
on a queued message or on another arm, an effect carried out, or the end.  From it,
what every event keeps (`next_uuid`, `WellFormed.next`), how the queue moves, and
the four ways out of the loop (`next_leaves`).
-/

namespace OdysseyHub

open Handler (StreamsBacked Concerns)

namespace HandlerTask

variable {t t' : HandlerTask}

@[simp] theorem turned_handler (t : HandlerTask) (o : Outcome) : (t.turned o).handler = o.handler := rfl
@[simp] theorem turned_todo (t : HandlerTask) (o : Outcome) : (t.turned o).todo = o.effects := rfl
@[simp] theorem turned_queue (t : HandlerTask) (o : Outcome) : (t.turned o).queue = t.queue := rfl
@[simp] theorem turned_phase (t : HandlerTask) (o : Outcome) :
    (t.turned o).phase = if o.leave then .left else .loop := rfl

/-- The task has not ended. -/
def Running (t : HandlerTask) : Prop := t.phase ≠ .finished

/-- The task is before or in its loop. -/
def InLoop (t : HandlerTask) : Prop := t.phase = .prelude ∨ t.phase = .loop

theorem isFinished_iff (t : HandlerTask) : t.isFinished = true ↔ t.phase = .finished := by
  simp [isFinished]

theorem isFinished_of_running (h : t.Running) : t.isFinished = false := by
  simpa [isFinished, Running] using h

theorem InLoop.running (h : t.InLoop) : t.Running := by
  rcases h with h | h <;> simp [Running, h]

theorem not_inLoop_of_left (h : t.phase = .left) : ¬ t.InLoop := by
  simp [InLoop, h]

/-! ## Receiving -/

section
variable (t : HandlerTask) (m : DeviceTaskMessage)

@[simp] theorem receive_handler : (t.receive m).handler = t.handler := by
  unfold receive; split <;> rfl

@[simp] theorem receive_phase : (t.receive m).phase = t.phase := by
  unfold receive; split <;> rfl

@[simp] theorem receive_todo : (t.receive m).todo = t.todo := by
  unfold receive; split <;> rfl

@[simp] theorem receive_uuid : (t.receive m).uuid = t.uuid := by
  simp [uuid]

@[simp] theorem receive_running : (t.receive m).Running ↔ t.Running := by
  simp [Running]

@[simp] theorem receive_inLoop : (t.receive m).InLoop ↔ t.InLoop := by
  simp [InLoop]

theorem receive_queue (h : t.Running) : (t.receive m).queue = t.queue ++ [m] := by
  rw [receive, isFinished_of_running h]
  rfl

theorem mem_receive_queue {m' : DeviceTaskMessage} (h : m' ∈ (t.receive m).queue) :
    m' ∈ t.queue ∨ m' = m := by
  unfold receive at h
  split at h
  · exact .inl h
  · simpa using h

end

/-! ## The events -/

/-- **Inversion of `next`.** -/
theorem next_cases {e : HandlerEvent} (h : t.next e = some t') :
    (∃ ms a, e = .start ms a ∧ t.phase = .prelude ∧
      t' = t.turned ({ t.handler with currentShotDelay := ms }.start a)) ∨
    (∃ a m q o, e = .recv a ∧ t.phase = .loop ∧ t.todo = [] ∧ t.queue = m :: q ∧
      t.handler.turn (.control m) a = some o ∧ t' = { t with queue := q }.turned o) ∨
    (∃ arm a o, (e = .closed ∨ e = .arm arm a) ∧ t.phase = .loop ∧ t.todo = [] ∧ t.queue = [] ∧
      (∀ m, arm ≠ .control m) ∧ (arm = .closed ↔ e = .closed) ∧
      t.handler.turn arm a = some o ∧ t' = t.turned o) ∨
    (∃ eff rest, e = .perform ∧ t.todo = eff :: rest ∧ t' = { t with todo := rest }) ∨
    (e = .exit ∧ t.phase = .left ∧ t.todo = [] ∧ t' = { t with phase := .finished, queue := [] }) := by
  cases e with
  | start ms a =>
    simp only [next] at h
    split at h
    · next hp => exact .inl ⟨ms, a, rfl, hp, (Option.some.inj h).symm⟩
    · cases h
  | recv a =>
    simp only [next] at h
    split at h
    · next m q hp htd hq =>
      obtain ⟨o, ho, rfl⟩ := Option.map_eq_some_iff.mp h
      exact .inr (.inl ⟨a, m, q, o, rfl, hp, htd, hq, ho, rfl⟩)
    · cases h
  | arm ar a =>
    simp only [next] at h
    split at h
    · cases h
    · cases h
    · next ar _ _ _ _ hp htd hq hnc hncl =>
      obtain ⟨o, ho, rfl⟩ := Option.map_eq_some_iff.mp h
      refine .inr (.inr (.inl ⟨ar, a, o, .inr rfl, hp, htd, hq, fun m hm => ?_, ⟨fun hc => ?_, ?_⟩,
        ho, rfl⟩))
      · exact hnc m hm
      · exact absurd hc hncl
      · rintro ⟨⟩
    · cases h
  | closed =>
    simp only [next] at h
    split at h
    · next hp htd hq =>
      obtain ⟨o, ho, rfl⟩ := Option.map_eq_some_iff.mp h
      refine .inr (.inr (.inl ⟨.closed, {}, o, .inl rfl, hp, htd, hq, ?_, ⟨fun _ => rfl, fun _ => rfl⟩,
        ho, rfl⟩))
      rintro m ⟨⟩
    · cases h
  | perform =>
    simp only [next] at h
    split at h
    · next eff rest htd =>
      exact .inr (.inr (.inr (.inl ⟨eff, rest, rfl, htd, (Option.some.inj h).symm⟩)))
    · cases h
  | exit =>
    simp only [next] at h
    split at h
    · next hp htd => exact .inr (.inr (.inr (.inr ⟨rfl, hp, htd, (Option.some.inj h).symm⟩)))
    · cases h

theorem next_exit (h : t.next .exit = some t') : t'.phase = .finished := by
  simp only [next] at h
  split at h
  · cases h
    rfl
  · cases h

/-- A task ends behind its loop, with nothing left to do. -/
theorem next_exit_left (h : t.next .exit = some t') : t.phase = .left ∧ t.todo = [] ∧ t'.todo = [] := by
  simp only [next] at h
  split at h
  · next hp htd =>
    cases h
    exact ⟨hp, htd, htd⟩
  · cases h

theorem next_uuid {e : HandlerEvent} (h : t.next e = some t') : t'.uuid = t.uuid := by
  obtain ⟨ms, a, -, -, rfl⟩ | ⟨a, m, q, o, -, -, -, -, ho, rfl⟩ |
    ⟨arm, a, o, -, -, -, -, -, -, ho, rfl⟩ | ⟨eff, rest, -, -, rfl⟩ | ⟨-, -, -, rfl⟩ := next_cases h
  · exact Handler.start_uuid _ a
  · exact Handler.turn_uuid ho
  · exact Handler.turn_uuid ho
  · rfl
  · rfl

/-- Events only take messages out of the queue. -/
theorem next_queue {e : HandlerEvent} (h : t.next e = some t') : ∀ m ∈ t'.queue, m ∈ t.queue := by
  obtain ⟨ms, a, -, -, rfl⟩ | ⟨a, m, q, o, -, -, -, hq, ho, rfl⟩ |
    ⟨arm, a, o, -, -, -, -, -, -, ho, rfl⟩ | ⟨eff, rest, -, -, rfl⟩ | ⟨-, -, -, rfl⟩ := next_cases h
  · exact fun m hm => hm
  · intro m' hm'
    rw [hq]
    exact List.mem_cons_of_mem _ hm'
  · exact fun m hm => hm
  · exact fun m hm => hm
  · exact fun m hm => absurd hm List.not_mem_nil

/-- Streams run on an events device while the task is in its loop, and what it has
still to do concerns its own device. -/
structure WellFormed (t : HandlerTask) : Prop where
  streams : t.InLoop → StreamsBacked t.handler
  todo : ∀ e ∈ t.todo, Concerns t.uuid e

theorem WellFormed.receive (w : t.WellFormed) (m : DeviceTaskMessage) : (t.receive m).WellFormed :=
  ⟨by simpa using w.streams, by simpa using w.todo⟩

theorem wellFormed_spawned {h : Handler} (hs : h.hasSensorStreams = false) :
    (spawned h).WellFormed := by
  refine ⟨fun _ hc => ?_, by simp [spawned]⟩
  change h.hasSensorStreams = true at hc
  rw [hs] at hc
  cases hc

theorem WellFormed.turned (w : t.WellFormed) (hp : t.phase = .loop) {arm : Arm} {a : Answers}
    {o : Outcome} (ho : t.handler.turn arm a = some o) : (t.turned o).WellFormed := by
  refine ⟨fun hl => (w.streams (.inr hp)).turn ho ?_, fun e he => ?_⟩
  · cases hlv : o.leave with
    | false => rfl
    | true => simp [InLoop, hlv] at hl
  · have hu : (t.turned o).uuid = t.handler.device.uuid := Handler.turn_uuid ho
    rw [hu]
    exact Handler.turn_concerns ho e he

theorem WellFormed.next (w : t.WellFormed) {e : HandlerEvent} (h : t.next e = some t') :
    t'.WellFormed := by
  obtain ⟨ms, a, -, -, rfl⟩ | ⟨a, m, q, o, -, hp, -, -, ho, rfl⟩ |
    ⟨arm, a, o, -, hp, -, -, -, -, ho, rfl⟩ | ⟨eff, rest, -, htd, rfl⟩ | ⟨-, -, -, rfl⟩ := next_cases h
  · exact ⟨fun _ => Handler.start_streamsBacked _ a, Handler.start_concerns _ _ a⟩
  · exact WellFormed.turned (t := { t with queue := q }) ⟨w.streams, w.todo⟩ hp ho
  · exact w.turned hp ho
  · refine ⟨w.streams, fun e he => w.todo e ?_⟩
    rw [htd]
    exact List.mem_cons_of_mem _ he
  · refine ⟨fun hl => ?_, w.todo⟩
    simp [InLoop] at hl

/-! ## Leaving the loop -/

/-- The message `m` makes the handler `h` leave its loop. -/
def Dismisses (h : Handler) (m : DeviceTaskMessage) : Prop :=
  (m = .removeControlDevice ∧ h.hasIndependentBleEvents = false) ∨
  (m = .removeEventsDevice ∧ h.connections.controlDevice = none) ∨
  ((∃ usbMode, m = .setTransportMode usbMode) ∧ h.connections.controlDevice.isSome = true)

theorem control_dismisses {h : Handler} {a : Answers} {m : DeviceTaskMessage}
    (hl : (h.control a m).leave = true) : Dismisses h m := by
  cases hm : m.isLink with
  | false => exact .inr (.inr (Handler.control_leave h a hm hl))
  | true =>
    cases m with
    | addEventsDevice dev v => exact absurd hl (by simp [Handler.control])
    | addControlDevice dev => exact absurd hl (by simp [Handler.control])
    | removeControlDevice =>
      change h.removeControlDevice.leave = true at hl
      rw [Handler.removeControlDevice_leave, Bool.not_eq_true'] at hl
      exact .inl ⟨rfl, hl⟩
    | removeEventsDevice =>
      change h.removeEventsDevice.leave = true at hl
      rw [Handler.removeEventsDevice_leave, Option.isNone_iff_eq_none] at hl
      exact .inr (.inl ⟨rfl, hl⟩)
    | _ => cases hm

/-- The event takes the task out of its loop. -/
def Leaves (t : HandlerTask) : HandlerEvent → Prop
  | .closed => True
  | .recv _ => ∃ m ∈ t.queue.head?, Dismisses t.handler m
  | _ => False

/-- **Ways out of the loop**: a dismissing message, or the end of all senders. -/
theorem next_leaves {e : HandlerEvent} (h : t.next e = some t') (hin : t.InLoop)
    (hout : ¬ t'.InLoop) : t.Leaves e := by
  obtain ⟨ms, a, -, -, rfl⟩ | ⟨a, m, q, o, rfl, hp, -, hq, ho, rfl⟩ |
    ⟨arm, a, o, he, hp, -, -, harm, hcl, ho, rfl⟩ | ⟨eff, rest, -, htd, rfl⟩ | ⟨-, hp, -, rfl⟩ :=
      next_cases h
  · refine absurd (.inr ?_) hout
    rw [turned_phase]
    unfold Handler.start
    split <;> rfl
  · refine ⟨m, by simp [hq], control_dismisses (a := a) ?_⟩
    cases ho
    cases hl : (t.handler.control a m).leave with
    | true => rfl
    | false => exact absurd (.inr (by rw [turned_phase, hl]; rfl)) hout
  · cases hl : o.leave with
    | true =>
      rw [hcl.mp ((Handler.turn_timer ho harm).2 hl)]
      trivial
    | false => exact absurd (.inr (by rw [turned_phase, hl]; rfl)) hout
  · exact absurd hin hout
  · rcases hin with hin | hin <;> rw [hp] at hin <;> cases hin

/-- A task that has ended and has nothing left to do does nothing. -/
theorem next_of_finished {e : HandlerEvent} (hp : t.phase = .finished) (htd : t.todo = []) :
    t.next e = none := by
  cases h : t.next e with
  | none => rfl
  | some t' =>
    obtain ⟨ms, a, -, hp', -⟩ | ⟨a, m, q, o, -, hp', -⟩ | ⟨arm, a, o, -, hp', -⟩ |
      ⟨eff, rest, -, htd', -⟩ | ⟨-, hp', -⟩ := next_cases h
    · rw [hp] at hp'; cases hp'
    · rw [hp] at hp'; cases hp'
    · rw [hp] at hp'; cases hp'
    · rw [htd] at htd'; cases htd'
    · rw [hp] at hp'; cases hp'

theorem leave_of_dismisses {h : Handler} {m : DeviceTaskMessage} (a : Answers) (hd : Dismisses h m) :
    (h.control a m).leave = true := by
  obtain ⟨rfl, hi⟩ | ⟨rfl, hc⟩ | ⟨⟨u, rfl⟩, hc⟩ := hd
  · show h.removeControlDevice.leave = true
    rw [Handler.removeControlDevice_leave, hi]
    rfl
  · show h.removeEventsDevice.leave = true
    rw [Handler.removeEventsDevice_leave, hc]
    rfl
  · obtain ⟨dev, hdev⟩ := Option.isSome_iff_exists.mp hc
    simp [Handler.control, Handler.setTransportMode, hdev]

/-- Such an event does take the task out of its loop. -/
theorem next_left {e : HandlerEvent} (h : t.next e = some t') (hl : t.Leaves e) :
    t'.phase = .left := by
  obtain ⟨ms, a, rfl, -, -⟩ | ⟨a, m, q, o, rfl, -, -, hq, ho, rfl⟩ |
    ⟨arm, a, o, he, -, -, -, -, hcl, ho, rfl⟩ | ⟨eff, rest, rfl, -, -⟩ | ⟨rfl, -, -, -⟩ := next_cases h
  · exact hl.elim
  · obtain ⟨m', hm', hd⟩ := hl
    rw [hq] at hm'
    cases hm'
    obtain rfl : t.handler.control a m = o := Option.some.inj ho
    rw [turned_phase, leave_of_dismisses a hd]
    rfl
  · obtain rfl | rfl := he
    · rw [hcl.mpr rfl] at ho
      cases ho
      rfl
    · exact hl.elim
  · exact hl.elim
  · exact hl.elim

/-- Only a task in its loop leaves it. -/
theorem inLoop_of_leaves {e : HandlerEvent} (h : t.next e = some t') (hl : t.Leaves e) : t.InLoop := by
  obtain ⟨ms, a, rfl, -, -⟩ | ⟨a, m, q, o, rfl, hp, -⟩ | ⟨arm, a, o, -, hp, -⟩ | ⟨eff, rest, rfl, -, -⟩ |
    ⟨rfl, -, -, -⟩ := next_cases h
  · exact hl.elim
  · exact .inr hp
  · exact .inr hp
  · exact hl.elim
  · exact hl.elim

/-- Before `exit` a task does not end, and behind its loop it does not come back. -/
theorem next_phase {e : HandlerEvent} (h : t.next e = some t') :
    (t.phase = .finished → t'.phase = .finished) ∧
    (t'.phase = .finished → t.phase = .finished ∨ e = .exit) ∧
    (t'.InLoop → t.InLoop) := by
  obtain ⟨ms, a, -, hp, rfl⟩ | ⟨a, m, q, o, rfl, hp, -, hq, ho, rfl⟩ |
    ⟨arm, a, o, he, hp, -, -, harm, hcl, ho, rfl⟩ | ⟨eff, rest, -, htd, rfl⟩ | ⟨rfl, hp, -, rfl⟩ :=
      next_cases h
  · refine ⟨fun hf => (by rw [hp] at hf; cases hf), fun hf => ?_, fun _ => .inl hp⟩
    rw [turned_phase] at hf
    split at hf <;> cases hf
  · refine ⟨fun hf => (by rw [hp] at hf; cases hf), fun hf => ?_, fun _ => .inr hp⟩
    rw [turned_phase] at hf
    split at hf <;> cases hf
  · refine ⟨fun hf => (by rw [hp] at hf; cases hf), fun hf => ?_, fun _ => .inr hp⟩
    rw [turned_phase] at hf
    split at hf <;> cases hf
  · exact ⟨id, .inl, id⟩
  · refine ⟨fun _ => rfl, fun _ => .inr rfl, fun hl => ?_⟩
    simp [InLoop] at hl

/-! ## Messages to the server -/

/-- The task has no message of its own to send. -/
def Silent (t : HandlerTask) : Prop := ∀ m, Effect.message m ∉ t.todo

/-- The message the task takes next is an `AddEventsDevice` for streams that run already. -/
def Redundant (t : HandlerTask) : Prop :=
  t.handler.hasSensorStreams = true ∧ ∃ dev v, t.queue.head? = some (.addEventsDevice dev v)

/-- A silent task stays silent until it takes a control message. -/
theorem Silent.next (hs : t.Silent) {e : HandlerEvent} (h : t.next e = some t')
    (hr : ∀ a, e = .recv a → t.Redundant) : t'.Silent := by
  obtain ⟨ms, a, -, -, rfl⟩ | ⟨a, m, q, o, rfl, -, -, hq, ho, rfl⟩ |
    ⟨arm, a, o, -, -, -, -, harm, -, ho, rfl⟩ | ⟨eff, rest, -, htd, rfl⟩ | ⟨-, -, -, rfl⟩ := next_cases h
  · exact Handler.start_silent _ a
  · obtain ⟨hstr, dev, v, hhd⟩ := hr a rfl
    rw [hq] at hhd
    cases hhd
    cases ho
    intro m' hm'
    rw [turned_todo] at hm'
    have he : (t.handler.control a (.addEventsDevice dev v)).effects = [] :=
      Handler.addEventsDevice_effects_streaming _ dev v a hstr
    rw [he] at hm'
    cases hm'
  · exact Handler.turn_silent ho harm
  · intro m hm
    apply hs m
    rw [htd]
    exact List.mem_cons_of_mem _ hm
  · exact hs

end HandlerTask

end OdysseyHub
