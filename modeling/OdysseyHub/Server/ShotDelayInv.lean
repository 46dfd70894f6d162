import OdysseyHub.Lib.Slots
import OdysseyHub.Server.Listener

/-!
# The invariant of the shot delay

`Listener.Wf` is what holds of a handler whatever happens: the writes of its arm are
those of one of two arms, and a value it has read from the watch and not read again
is the one the watch holds.  `Inv` adds the value `requested` last: either a table
holds it, or a handler is still to write it there (`MapCovered`, `WatchCovered`).
-/

namespace OdysseyHub

open Slots Transition

/-- The list is empty or ends in `v`. -/
def EndsIn (v : UInt32) (vs : List UInt32) : Prop := ∀ x ∈ vs.getLast?, x = v

theorem endsIn_nil (v : UInt32) : EndsIn v [] := by
  simp [EndsIn]

theorem endsIn_append_self (v : UInt32) (vs : List UInt32) : EndsIn v (vs ++ [v]) := by
  simp [EndsIn]

theorem EndsIn.tail {v w : UInt32} {vs : List UInt32} (h : EndsIn v (w :: vs)) : EndsIn v vs := by
  cases vs with
  | nil => exact endsIn_nil v
  | cons x xs => simpa [EndsIn] using h

theorem EndsIn.eq_of_singleton {v w : UInt32} (h : EndsIn v [w]) : w = v := h w (by simp)

/-! ## What the tables expect of a handler -/

def StoreWrite.watched : StoreWrite → Option UInt32
  | .watch v => some v
  | .delay _ => none

namespace Listener

/-- The values the handler is still to write to the watch, in order. -/
def pending (u : Uuid) (l : Listener) : List UInt32 :=
  if l.task.InLoop then
    (l.task.shotWrites u).filterMap (·.watched) ++ l.task.shotSets.map (·.toUInt32)
  else []

/-- The handler has still to do with the shot delay. -/
def Busy (u : Uuid) (l : Listener) : Prop :=
  l.task.InLoop ∧ (l.fresh = true ∨ l.task.shotWrites u ≠ [] ∨ l.task.shotSets ≠ [])

/-- The handler has ended, or nothing is left for it to do. -/
def Quiet (l : Listener) : Prop :=
  l.task.phase = .finished ∨
    (l.task.InLoop ∧ l.task.todo = [] ∧ l.task.queue = [] ∧ l.fresh = false)

/-- The writes of the two arms, as far as they are not done. -/
inductive Shape : List StoreWrite → Prop
  | nil : Shape []
  | set (v : UInt16) : Shape [.delay v, .watch v.toUInt32]
  | watch (v : UInt16) : Shape [.watch v.toUInt32]
  | delay (v : UInt16) : Shape [.delay v]

/-- What holds of a handler of `u` while the watch holds `watch`. -/
structure Wf (u : Uuid) (watch : Option UInt32) (l : Listener) : Prop where
  uuid : l.task.uuid = u
  shape : Shape (l.task.shotWrites u)
  loop : l.task.shotWrites u ≠ [] → l.task.phase = .loop
  stream : ∀ v, l.task.shotWrites u = [.delay v] → l.fresh = true ∨ watch = some v.toUInt32
  current : l.task.phase = .loop → l.fresh = true ∨ watch = some l.task.shotDelay
  channel : l.receiving = true → watch ≠ none

variable {u : Uuid} {watch : Option UInt32} {l l' : Listener}

theorem receiving_of_loop (h : l.task.phase = .loop) : l.receiving = true := by
  simp [receiving, h]

theorem pending_of_inLoop (h : l.task.InLoop) :
    l.pending u = (l.task.shotWrites u).filterMap (·.watched) ++ l.task.shotSets.map (·.toUInt32) := by
  rw [pending, if_pos h]

theorem pending_of_not_inLoop (h : ¬ l.task.InLoop) : l.pending u = [] := by
  rw [pending, if_neg h]

theorem busy_of_pending (h : l.pending u ≠ []) : l.Busy u := by
  by_cases hin : l.task.InLoop
  · refine ⟨hin, .inr ?_⟩
    by_cases hw : l.task.shotWrites u = []
    · right
      intro hs
      rw [pending_of_inLoop hin, hw, hs] at h
      exact h rfl
    · exact .inl hw
  · exact absurd (pending_of_not_inLoop hin) h

theorem Quiet.pending (h : l.Quiet) : l.pending u = [] := by
  obtain hf | ⟨hin, htd, hq, -⟩ := h
  · exact pending_of_not_inLoop (by simp [HandlerTask.InLoop, hf])
  · rw [pending_of_inLoop hin, HandlerTask.shotWrites_of_todo htd, HandlerTask.shotSets_of_queue hq]
    rfl

theorem Quiet.not_busy (h : l.Quiet) : ¬ l.Busy u := by
  rintro ⟨hin, hb⟩
  obtain hf | ⟨-, htd, hq, hfr⟩ := h
  · rcases hin with hin | hin <;> rw [hf] at hin <;> cases hin
  · rcases hb with hb | hb | hb
    · rw [hfr] at hb
      cases hb
    · exact hb (HandlerTask.shotWrites_of_todo htd)
    · exact hb (HandlerTask.shotSets_of_queue hq)

/-! ### A message -/

theorem Wf.receive (w : l.Wf u watch) (m : DeviceTaskMessage) : (l.receive m).Wf u watch where
  uuid := by simpa [Listener.receive] using w.uuid
  shape := by simpa [Listener.receive, HandlerTask.receive_shotWrites] using w.shape
  loop := by simpa [Listener.receive, HandlerTask.receive_shotWrites] using w.loop
  stream := by simpa [Listener.receive, HandlerTask.receive_shotWrites] using w.stream
  current := by simpa [Listener.receive, HandlerTask.shotDelay] using w.current
  channel := by simpa [Listener.receive, receiving] using w.channel

theorem pending_receive_set (h : l.task.InLoop) (ms : UInt16) :
    (l.receive (.setShotDelay ms)).pending u = l.pending u ++ [ms.toUInt32] := by
  have h' : (l.receive (.setShotDelay ms)).task.InLoop := by
    simpa [receive] using h
  rw [pending_of_inLoop h, pending_of_inLoop h']
  simp [receive, HandlerTask.receive_shotWrites, HandlerTask.receive_shotSets_set h.running]

theorem endsIn_receive_set (ms : UInt16) :
    EndsIn ms.toUInt32 ((l.receive (.setShotDelay ms)).pending u) := by
  by_cases hin : l.task.InLoop
  · rw [pending_receive_set hin]
    exact endsIn_append_self _ _
  · rw [pending_of_not_inLoop (by simpa [receive] using hin)]
    exact endsIn_nil _

/-! ### A send -/

@[simp] theorem changed_task (l : Listener) : l.changed.task = l.task := by
  unfold changed
  split <;> rfl

@[simp] theorem changed_pending (l : Listener) : l.changed.pending u = l.pending u := by
  simp [pending]

theorem changed_fresh (h : l.receiving = true) : l.changed.fresh = true := by
  simp [changed, h]

theorem Busy.changed (h : l.Busy u) : l.changed.Busy u := by
  refine ⟨by simpa using h.1, ?_⟩
  rw [changed_task]
  rcases h.2 with hf | h
  · left
    unfold Listener.changed
    split
    · rfl
    · exact hf
  · exact .inr h

theorem Wf.changed (w : l.Wf u watch) (v : UInt32) : l.changed.Wf u (some v) where
  uuid := by simpa using w.uuid
  shape := by simpa using w.shape
  loop := by simpa using w.loop
  stream x hx := by
    rw [changed_task] at hx
    exact .inl (changed_fresh (receiving_of_loop (w.loop (by simp [hx]))))
  current hp := by
    rw [changed_task] at hp
    exact .inl (changed_fresh (receiving_of_loop hp))
  channel _ := by simp

theorem wf_spawned {h : Handler} (hu : h.device.uuid = u) : Wf u watch ⟨.spawned h, false⟩ := by
  refine ⟨hu, .nil, ?_, ?_, ?_, ?_⟩
  · intro hw
    exact absurd rfl hw
  · rintro v ⟨⟩
  · rintro ⟨⟩
  · rintro ⟨⟩

/-- Nobody receives from a channel that is not there yet. -/
theorem Wf.opened (w : l.Wf u none) (v : UInt32) : l.Wf u (some v) where
  uuid := w.uuid
  shape := w.shape
  loop := w.loop
  stream x hx := absurd rfl (w.channel (receiving_of_loop (w.loop (by simp [hx]))))
  current hp := absurd rfl (w.channel (receiving_of_loop hp))
  channel _ := by simp

/-- Replacing `l` by `l'` leaves nothing behind that `l` had still to do. -/
structure Keeps (u : Uuid) (l l' : Listener) : Prop where
  pending : ∀ v, EndsIn v (l.pending u) → EndsIn v (l'.pending u)
  owes : l.pending u ≠ [] → l'.pending u ≠ []
  busy : l.Busy u → l'.Busy u
  loop : l.task.phase = .loop → l'.task.phase = .loop

/-- A task that was behind its loop has nothing to keep. -/
theorem keeps_of_not_inLoop (h : ¬ l.task.InLoop) (h' : l'.pending u = []) : Keeps u l l' where
  pending v _ := h' ▸ endsIn_nil v
  owes hp := absurd (pending_of_not_inLoop h) hp
  busy hb := absurd hb.1 h
  loop hl := absurd (.inr hl) h

theorem keeps_of_pending_eq (hp : l'.pending u = l.pending u) (hb : l.Busy u → l'.Busy u)
    (hl : l.task.phase = .loop → l'.task.phase = .loop) : Keeps u l l' where
  pending v h := by rwa [hp]
  owes h := by rwa [hp]
  busy := hb
  loop := hl

/-! ### The events of the task -/

section
variable {t' : HandlerTask} {ms : UInt16} (w : l.Wf u watch)
include w

theorem Wf.no_writes (hp : l.task.phase ≠ .loop) : l.task.shotWrites u = [] :=
  Decidable.byContradiction fun h => hp (w.loop h)

theorem Wf.start {v : UInt32} (hu : t'.uuid = u) (hp : l.task.phase = .prelude)
    (hp' : t'.phase = .loop) (hw' : t'.shotWrites u = []) (hs : t'.shotSets = l.task.shotSets) :
    Wf u (some v) ⟨t', true⟩ ∧ Keeps u l ⟨t', true⟩ := by
  have hw : l.task.shotWrites u = [] := w.no_writes (by simp [hp])
  refine ⟨⟨hu, ?_, fun _ => hp', fun _ _ => .inl rfl, fun _ => .inl rfl, by simp⟩, ?_⟩
  · rw [hw']
    exact .nil
  · refine keeps_of_pending_eq ?_ (fun _ => ⟨.inr hp', .inl rfl⟩) (fun _ => hp')
    rw [pending_of_inLoop (.inl hp), pending_of_inLoop (.inr hp'), hw, hw', hs]

theorem Wf.take (hu : t'.uuid = u) (hp : l.task.phase = .loop) (hp' : t'.phase = .loop)
    (hd : t'.shotDelay = l.task.shotDelay) (hw : l.task.shotWrites u = [])
    (hw' : t'.shotWrites u = [.delay ms, .watch ms.toUInt32])
    (hs : l.task.shotSets = ms :: t'.shotSets) :
    Wf u watch ⟨t', l.fresh⟩ ∧ Keeps u l ⟨t', l.fresh⟩ := by
  refine ⟨⟨hu, ?_, fun _ => hp', ?_, ?_, fun _ => w.channel (receiving_of_loop hp)⟩, ?_⟩
  · rw [hw']
    exact .set ms
  · intro v hv
    rw [hw'] at hv
    cases hv
  · intro _
    rw [hd]
    exact w.current hp
  · refine keeps_of_pending_eq ?_ (fun _ => ⟨.inr hp', .inr (.inl (by simp [hw']))⟩) (fun _ => hp')
    rw [pending_of_inLoop (.inr hp), pending_of_inLoop (.inr hp'), hw, hw', hs]
    rfl

theorem Wf.yield (hu : t'.uuid = u) (hp : l.task.phase = .loop) (hp' : t'.phase = .loop)
    {v : UInt32} (hwatch : watch = some v) (hnarrow : v.toUInt16.toUInt32 = v)
    (hd : t'.shotDelay = v) (hw : l.task.shotWrites u = [])
    (hw' : t'.shotWrites u = [.delay v.toUInt16]) (hs : l.task.shotSets = [])
    (hs' : t'.shotSets = []) : Wf u watch ⟨t', false⟩ ∧ Keeps u l ⟨t', false⟩ := by
  refine ⟨⟨hu, ?_, fun _ => hp', ?_, ?_, fun _ => w.channel (receiving_of_loop hp)⟩, ?_⟩
  · rw [hw']
    exact .delay _
  · intro x hx
    rw [hw'] at hx
    cases hx
    exact .inr (by rw [hwatch, hnarrow])
  · intro _
    exact .inr (by rw [hwatch, hd])
  · refine keeps_of_pending_eq ?_ (fun _ => ⟨.inr hp', .inr (.inl (by simp [hw']))⟩) (fun _ => hp')
    rw [pending_of_inLoop (.inr hp), pending_of_inLoop (.inr hp'), hw, hw', hs, hs']
    rfl

theorem Wf.stay (hu : t'.uuid = u) (hp : l.task.phase = .loop) (hp' : t'.phase = .loop)
    (hd : t'.shotDelay = l.task.shotDelay) (hw : l.task.shotWrites u = [])
    (hw' : t'.shotWrites u = []) (hs : t'.shotSets = l.task.shotSets) :
    Wf u watch ⟨t', l.fresh⟩ ∧ Keeps u l ⟨t', l.fresh⟩ := by
  refine ⟨⟨hu, ?_, fun _ => hp', ?_, ?_, fun _ => w.channel (receiving_of_loop hp)⟩, ?_⟩
  · rw [hw']
    exact .nil
  · intro v hv
    rw [hw'] at hv
    cases hv
  · intro _
    rw [hd]
    exact w.current hp
  · refine keeps_of_pending_eq ?_ ?_ (fun _ => hp')
    · rw [pending_of_inLoop (.inr hp), pending_of_inLoop (.inr hp'), hw, hw', hs]
    · rintro ⟨-, hb⟩
      refine ⟨.inr hp', ?_⟩
      show l.fresh = true ∨ t'.shotWrites u ≠ [] ∨ t'.shotSets ≠ []
      rw [hw', hs]
      rwa [hw] at hb

/-- The first of two writes, or the write of a yielded value. -/
theorem Wf.performDelay {v : UInt16} (hu : t'.uuid = u) (hp : t'.phase = l.task.phase)
    (hd : t'.shotDelay = l.task.shotDelay)
    (hw : l.task.shotWrites u = .delay v :: t'.shotWrites u) : Wf u watch ⟨t', l.fresh⟩ := by
  have hloop : l.task.phase = .loop := w.loop (by simp [hw])
  have hsh := w.shape
  rw [hw] at hsh
  refine ⟨hu, ?_, fun _ => hp.trans hloop, ?_, ?_, fun _ => w.channel (receiving_of_loop hloop)⟩
  · show Shape (t'.shotWrites u)
    generalize t'.shotWrites u = ws at hsh ⊢
    cases hsh with
    | set => exact .watch _
    | delay => exact .nil
  · intro x hx
    change t'.shotWrites u = [.delay x] at hx
    rw [hx] at hsh
    cases hsh
  · intro _
    show l.fresh = true ∨ watch = some t'.shotDelay
    rw [hd]
    exact w.current hloop

/-- The last write of a `SetShotDelay`. -/
theorem Wf.performWatch {x : UInt32} (hu : t'.uuid = u) (hp : t'.phase = l.task.phase)
    (hd : t'.shotDelay = l.task.shotDelay)
    (hw : l.task.shotWrites u = .watch x :: t'.shotWrites u) :
    (∃ v : UInt16, x = v.toUInt32) ∧ Wf u watch ⟨t', l.fresh⟩ := by
  have hloop : l.task.phase = .loop := w.loop (by simp [hw])
  obtain ⟨hx, hw'⟩ : (∃ v : UInt16, x = v.toUInt32) ∧ t'.shotWrites u = [] := by
    have hsh := w.shape
    rw [hw] at hsh
    generalize t'.shotWrites u = ws at hsh ⊢
    cases hsh with
    | watch v => exact ⟨⟨v, rfl⟩, rfl⟩
  refine ⟨hx, hu, ?_, fun _ => hp.trans hloop, ?_, ?_, fun _ => w.channel (receiving_of_loop hloop)⟩
  · show Shape (t'.shotWrites u)
    rw [hw']
    exact .nil
  · intro y hy
    change t'.shotWrites u = [.delay y] at hy
    rw [hw'] at hy
    cases hy
  · intro _
    show l.fresh = true ∨ watch = some t'.shotDelay
    rw [hd]
    exact w.current hloop

/-- Behind the loop only the receiver is left. -/
theorem Wf.gone (hu : t'.uuid = u) (hp' : t'.phase = .left ∨ t'.phase = .finished)
    (hl : t'.phase = .left → l.task.phase = .loop) (hw' : t'.shotWrites u = []) :
    Wf u watch ⟨t', l.fresh⟩ ∧ Listener.pending u ⟨t', l.fresh⟩ = [] := by
  have hne : t'.phase ≠ .loop := by
    rcases hp' with h | h <;> simp [h]
  have hnin : ¬ t'.InLoop := by
    rintro (h | h) <;> rcases hp' with h' | h' <;> rw [h] at h' <;> cases h'
  refine ⟨⟨hu, ?_, ?_, ?_, fun h => absurd h hne, ?_⟩, pending_of_not_inLoop hnin⟩
  · rw [hw']
    exact .nil
  · intro h
    exact absurd hw' h
  · intro v hv
    rw [hw'] at hv
    cases hv
  · intro hr
    rcases hp' with h | h
    · exact w.channel (receiving_of_loop (hl h))
    · simp [receiving, h] at hr

/-- A message that is not a `SetShotDelay`, or an effect that writes nothing here. -/
theorem Wf.same (hu : t'.uuid = u) (hp : t'.phase = l.task.phase)
    (hd : t'.shotDelay = l.task.shotDelay) (hw : t'.shotWrites u = l.task.shotWrites u)
    (hs : t'.shotSets = l.task.shotSets) :
    Wf u watch ⟨t', l.fresh⟩ ∧ Keeps u l ⟨t', l.fresh⟩ := by
  have hin : t'.InLoop ↔ l.task.InLoop := by
    simp [HandlerTask.InLoop, hp]
  refine ⟨⟨hu, ?_, ?_, ?_, ?_, ?_⟩, ?_⟩
  · simpa only [hw] using w.shape
  · simpa only [hw, hp] using w.loop
  · simpa only [hw] using w.stream
  · simpa only [hp, hd] using w.current
  · simpa only [receiving, hp] using w.channel
  · refine keeps_of_pending_eq ?_ ?_ (fun h => hp.trans h)
    · simp only [Listener.pending, hin, hw, hs]
    · simp only [Busy, hin, hw, hs, imp_self]

end

end Listener

/-- A subscriber whose task runs has forwarded what the watch holds, or is still to. -/
def Subscriber.Wf (watch : Option UInt32) (b : Subscriber) : Prop :=
  b.running = true → ∃ v, watch = some v ∧ (b.fresh = true ∨ b.seen = v)

theorem Subscriber.wf_changed (b : Subscriber) (v : UInt32) :
    b.changed.Wf (some v) := by
  intro hr
  refine ⟨v, rfl, .inl ?_⟩
  unfold Subscriber.changed at hr ⊢
  split at hr
  · next h => rw [if_pos h]
  · next h => exact absurd hr h

theorem Subscriber.Wf.opened {b : Subscriber} (w : b.Wf none) (v : UInt32) : b.Wf (some v) := by
  intro hr
  obtain ⟨x, hx, -⟩ := w hr
  cases hx

/-- No set is between its write to the map and its message to the handler. -/
def ShotDelayRpc.settled : ShotDelayRpc → Bool
  | .watching _ | .telling _ => false
  | _ => true

def ShotDelayRpc.isWatching : ShotDelayRpc → Bool
  | .watching _ => true
  | _ => false

def ShotDelayRpc.isTelling : ShotDelayRpc → Bool
  | .telling _ => true
  | _ => false

theorem ShotDelayRpc.of_settled {r : ShotDelayRpc} (h : r.settled = true) :
    r.isWatching = false ∧ r.isTelling = false := by
  cases r with
  | idle | subscribing => exact ⟨rfl, rfl⟩
  | watching | telling => cases h

namespace ShotDelays

/-- The value asked for last: by the set that runs, by the last one acknowledged, or
by the configuration file. -/
def requested (s : ShotDelays) (acked : Option UInt16) : UInt16 :=
  match s.rpc with
  | .watching ms | .telling ms => ms
  | _ => acked.getD (s.config.getD 0)

/-- The map holds `v`, or one of the handlers `hs`, or the set that runs, is still to
bring it there. -/
def MapCovered (s : ShotDelays) (v : UInt16) (hs : List Listener) : Prop :=
  s.getOrDefaultShotDelay = v ∨ (∃ l ∈ hs, l.Busy s.uuid) ∨
  (s.rpc.isWatching = true ∧ ∃ l ∈ hs, l.task.phase = .loop) ∨
  (s.rpc.isTelling = true ∧ s.shotDelayWatch ≠ some v.toUInt32)

/-- The watch holds `v`, or one of the handlers `hs` is still to write it there, once
no set runs. -/
def WatchCovered (s : ShotDelays) (v : UInt16) (hs : List Listener) : Prop :=
  s.rpc.settled = true → s.shotDelayWatch = none ∨ s.shotDelayWatch = some v.toUInt32 ∨
    ∃ l ∈ hs, l.pending s.uuid ≠ []

structure Inv (s : ShotDelays) (acked : Option UInt16) : Prop where
  handlers : ∀ l ∈ s.handlers, l.Wf s.uuid s.shotDelayWatch
  subscribers : ∀ b ∈ s.subscribers, b.Wf s.shotDelayWatch
  narrow : ∀ v, s.shotDelayWatch = some v → v.toUInt16.toUInt32 = v
  seeded : s.deviceShotDelay = none → s.config = none ∧ acked = none ∧ s.rpc.settled = true
  opened : s.shotDelayWatch = none →
    s.getOrDefaultShotDelay = s.requested acked ∧ acked = none ∧ s.rpc.isTelling = false
  reading : ∀ cur, s.rpc = .subscribing cur → s.shotDelayWatch = none →
    cur = (s.requested acked).toUInt32
  pending : s.rpc.settled = true →
    ∀ l ∈ s.handlers, EndsIn (s.requested acked).toUInt32 (l.pending s.uuid)
  map : s.MapCovered (s.requested acked) s.handlers
  watch : s.WatchCovered (s.requested acked) s.handlers

variable {s : ShotDelays} {acked : Option UInt16} {v : UInt16} {k : HandlerId} {l l' : Listener}

theorem MapCovered.set (hk : s.handlers[k]? = some l) (hl : l.Keeps s.uuid l')
    (h : s.MapCovered v s.handlers) : s.MapCovered v (s.handlers.set k l') := by
  obtain h | h | ⟨hr, h⟩ | h := h
  · exact .inl h
  · exact .inr (.inl (exists_mem_set hk hl.busy h))
  · exact .inr (.inr (.inl ⟨hr, exists_mem_set hk hl.loop h⟩))
  · exact .inr (.inr (.inr h))

theorem MapCovered.set_of_eraseIdx (h : s.MapCovered v (s.handlers.eraseIdx k)) :
    s.MapCovered v (s.handlers.set k l') := by
  obtain h | h | ⟨hr, h⟩ | h := h
  · exact .inl h
  · exact .inr (.inl (exists_mem_set_of_eraseIdx h))
  · exact .inr (.inr (.inl ⟨hr, exists_mem_set_of_eraseIdx h⟩))
  · exact .inr (.inr (.inr h))

theorem WatchCovered.set (hk : s.handlers[k]? = some l) (hl : l.Keeps s.uuid l')
    (h : s.WatchCovered v s.handlers) : s.WatchCovered v (s.handlers.set k l') := by
  intro hr
  obtain h | h | h := h hr
  · exact .inl h
  · exact .inr (.inl h)
  · exact .inr (.inr (exists_mem_set hk hl.owes h))

theorem WatchCovered.set_of_eraseIdx (h : s.WatchCovered v (s.handlers.eraseIdx k)) :
    s.WatchCovered v (s.handlers.set k l') := by
  intro hr
  obtain h | h | h := h hr
  · exact .inl h
  · exact .inr (.inl h)
  · exact .inr (.inr (exists_mem_set_of_eraseIdx h))

namespace Inv

theorem wf (inv : s.Inv acked) (hk : s.handlers[k]? = some l) : l.Wf s.uuid s.shotDelayWatch :=
  inv.handlers l (List.mem_of_getElem? hk)

/-- Replacing a handler by one that keeps what it had to do. -/
theorem put (inv : s.Inv acked) (hk : s.handlers[k]? = some l)
    (hw : l'.Wf s.uuid s.shotDelayWatch ∧ l.Keeps s.uuid l') : (s.put k l').Inv acked where
  handlers := forall_mem_set inv.handlers hw.1
  subscribers := inv.subscribers
  narrow := inv.narrow
  seeded := inv.seeded
  opened := inv.opened
  reading := inv.reading
  pending hr := forall_mem_set (inv.pending hr)
    (hw.2.pending _ (inv.pending hr l (List.mem_of_getElem? hk)))
  map := inv.map.set hk hw.2
  watch := inv.watch.set hk hw.2

/-- Replacing a handler by one with nothing to do, while others cover the tables. -/
theorem put_covered (inv : s.Inv acked) (hw : l'.Wf s.uuid s.shotDelayWatch)
    (hp : l'.pending s.uuid = [])
    (hm : s.MapCovered (s.requested acked) (s.handlers.eraseIdx k))
    (hc : s.WatchCovered (s.requested acked) (s.handlers.eraseIdx k)) : (s.put k l').Inv acked where
  handlers := forall_mem_set inv.handlers hw
  subscribers := inv.subscribers
  narrow := inv.narrow
  seeded := inv.seeded
  opened := inv.opened
  reading := inv.reading
  pending hr := forall_mem_set (inv.pending hr) (hp ▸ endsIn_nil _)
  map := hm.set_of_eraseIdx
  watch := hc.set_of_eraseIdx

/-- The channel is created with the value asked for last. -/
theorem openWatch (inv : s.Inv acked) (hn : s.shotDelayWatch = none) :
    Inv { s with shotDelayWatch := some (s.requested acked).toUInt32 } acked where
  handlers l hl := ((hn ▸ inv.handlers l hl : l.Wf s.uuid none)).opened _
  subscribers b hb := ((hn ▸ inv.subscribers b hb : b.Wf none)).opened _
  narrow v hv := by
    cases hv
    simp
  seeded := inv.seeded
  opened h := by cases h
  reading cur _ h := by cases h
  pending := inv.pending
  map := .inl (inv.opened hn).1
  watch _ := .inr (.inl rfl)

/-- A write to the map together with the handler that makes it. -/
theorem put_stored (inv : s.Inv acked) (hk : s.handlers[k]? = some l)
    (hw : l'.Wf s.uuid s.shotDelayWatch) (hp : l'.pending s.uuid = l.pending s.uuid)
    (hne : s.shotDelayWatch ≠ none)
    (hm : MapCovered { s with deviceShotDelay := some v } (s.requested acked) (s.handlers.set k l')) :
    Inv ({ s with deviceShotDelay := some v }.put k l') acked where
  handlers := forall_mem_set inv.handlers hw
  subscribers := inv.subscribers
  narrow := inv.narrow
  seeded h := by cases h
  opened h := absurd h hne
  reading cur _ h := absurd h hne
  pending hr := forall_mem_set (inv.pending hr)
    (hp ▸ inv.pending hr l (List.mem_of_getElem? hk))
  map := hm
  watch hr := by
    obtain h | h | h := inv.watch hr
    · exact absurd h hne
    · exact .inr (.inl h)
    · exact .inr (.inr (exists_mem_set hk (fun hl => hp ▸ hl) h))

/-- A write to the watch together with the handler that makes it. -/
theorem put_sent (inv : s.Inv acked) (hk : s.handlers[k]? = some l)
    (hw : l'.Wf s.uuid s.shotDelayWatch) (hl' : l'.task.phase = .loop)
    (hp : l.pending s.uuid = v.toUInt32 :: l'.pending s.uuid) :
    Inv ((s.put k l').sent v.toUInt32) acked where
  handlers := by
    intro y hy
    obtain ⟨x, hx, rfl⟩ := List.mem_map.mp hy
    exact (forall_mem_set inv.handlers hw x hx).changed _
  subscribers := by
    intro y hy
    obtain ⟨x, hx, rfl⟩ := List.mem_map.mp hy
    exact x.wf_changed _
  narrow x hx := by
    cases hx
    simp
  seeded := inv.seeded
  opened h := by cases h
  reading cur _ h := by cases h
  pending hr := by
    intro y hy
    obtain ⟨x, hx, rfl⟩ := List.mem_map.mp hy
    rw [Listener.changed_pending]
    refine forall_mem_set (inv.pending hr) ?_ x hx
    have hl := inv.pending hr l (List.mem_of_getElem? hk)
    rw [hp] at hl
    exact hl.tail
  map := by
    -- the handler receives its own value, and writes it to the map again
    refine .inr (.inl ⟨l'.changed, List.mem_map_of_mem (mem_set_self hk), ?_, .inl ?_⟩)
    · rw [Listener.changed_task]
      exact .inr hl'
    · exact Listener.changed_fresh (Listener.receiving_of_loop hl')
  watch hr := by
    by_cases hlast : l'.pending s.uuid = []
    · have hl := inv.pending hr l (List.mem_of_getElem? hk)
      rw [hp, hlast] at hl
      right
      left
      show some v.toUInt32 = some (s.requested acked).toUInt32
      rw [hl.eq_of_singleton]
    · refine .inr (.inr ⟨l'.changed, List.mem_map_of_mem (mem_set_self hk), ?_⟩)
      rwa [Listener.changed_pending]

end Inv

end ShotDelays

end OdysseyHub
