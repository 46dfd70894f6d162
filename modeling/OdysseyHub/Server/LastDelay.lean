import OdysseyHub.Server.ShotDelaySync

/-!
# The last shot delay of a client

A device with one handler that does not leave its loop, whatever handlers it had before,
and one client that sets and resets its shot delay.  The run starts in any state the server can be in (`Sound` holds
there); an acknowledged value is then the one both tables settle on, as long as a
`try_send` misses the handler only where the watch settles on the value of the call
without it (`lastDelay_of_settlesWithout`).
-/

namespace OdysseyHub

open Slots Transition

namespace ShotDelays

variable {s s' : ShotDelays} {acked : Option UInt16} {k : HandlerId} {l l' : Listener}

/-! ## What holds of the tables whatever happens -/

structure Sound (s : ShotDelays) : Prop where
  handlers : ∀ l ∈ s.handlers, l.Wf s.uuid s.shotDelayWatch
  subscribers : ∀ b ∈ s.subscribers, b.Wf s.shotDelayWatch
  narrow : ∀ v, s.shotDelayWatch = some v → v.toUInt16.toUInt32 = v
  reading : ∀ cur, s.rpc = .subscribing cur → cur.toUInt16.toUInt32 = cur

namespace Sound

theorem wf (hs : s.Sound) (hk : s.handlers[k]? = some l) : l.Wf s.uuid s.shotDelayWatch :=
  hs.handlers l (List.mem_of_getElem? hk)

theorem put (hs : s.Sound) (hw : l'.Wf s.uuid s.shotDelayWatch) : (s.put k l').Sound :=
  ⟨forall_mem_set hs.handlers hw, hs.subscribers, hs.narrow, hs.reading⟩

/-- The map is not looked at. -/
theorem withDelay (hs : s.Sound) (d : Option UInt16) : Sound { s with deviceShotDelay := d } :=
  ⟨hs.handlers, hs.subscribers, hs.narrow, hs.reading⟩

theorem withRpc (hs : s.Sound) (r : ShotDelayRpc) (hr : ∀ cur, r ≠ .subscribing cur) :
    Sound { s with rpc := r } :=
  ⟨hs.handlers, hs.subscribers, hs.narrow, fun cur h => absurd h (hr cur)⟩

theorem openWatch (hs : s.Sound) (hn : s.shotDelayWatch = none) {v : UInt32}
    (hv : v.toUInt16.toUInt32 = v) : Sound { s with shotDelayWatch := some v } where
  handlers l hl := ((hn ▸ hs.handlers l hl : l.Wf s.uuid none)).opened v
  subscribers b hb := ((hn ▸ hs.subscribers b hb : b.Wf none)).opened v
  narrow x hx := by
    cases hx
    exact hv
  reading := hs.reading

theorem sent (hs : s.Sound) {v : UInt32} (hv : v.toUInt16.toUInt32 = v) : (s.sent v).Sound where
  handlers := by
    intro y hy
    obtain ⟨x, hx, rfl⟩ := List.mem_map.mp hy
    exact (hs.handlers x hx).changed v
  subscribers := by
    intro y hy
    obtain ⟨x, -, rfl⟩ := List.mem_map.mp hy
    exact x.wf_changed v
  narrow x hx := by
    cases hx
    exact hv
  reading := hs.reading

theorem setWatch (hs : s.Sound) {v : UInt32} (hv : v.toUInt16.toUInt32 = v) : (s.setWatch v).Sound := by
  unfold ShotDelays.setWatch
  split
  · unfold send
    split
    · exact hs.sent hv
    · exact hs
  · next hn => exact hs.openWatch hn hv

/-- A handler that starts finds the watch, or opens it. -/
theorem handler_start (hs : s.Sound) (hk : s.handlers[k]? = some l) {t : HandlerTask}
    (hu : t.uuid = s.uuid) (hp : l.task.phase = .prelude) (hp' : t.phase = .loop)
    (hw : t.shotWrites s.uuid = []) (hq : t.shotSets = l.task.shotSets) :
    Sound ({ s with shotDelayWatch := some s.initialShotDelay }.put k ⟨t, true⟩) := by
  have hwf := ((hs.wf hk).start (v := s.initialShotDelay) hu hp hp' hw hq).1
  cases hv : s.shotDelayWatch with
  | some x =>
    have hx : s.initialShotDelay = x := by
      rw [initialShotDelay, hv]
      rfl
    have hsame : { s with shotDelayWatch := some s.initialShotDelay } = s := by
      rw [hx, ← hv]
    rw [hsame]
    refine hs.put ?_
    rw [hv, ← hx]
    exact hwf
  | none =>
    refine (hs.openWatch hv ?_).put hwf
    simp [initialShotDelay, hv]

theorem handler_perform (hs : s.Sound) (hk : s.handlers[k]? = some l) {eff : Effect}
    {rest : List Effect} (htd : l.task.todo = eff :: rest)
    (h : s.handlerStep k l .perform = some s') : s'.Sound := by
  have ht : l.task.next .perform = some { l.task with todo := rest } := by
    simp only [HandlerTask.next, htd]
  have wf := hs.wf hk
  have hu : HandlerTask.uuid { l.task with todo := rest } = s.uuid := wf.uuid
  simp only [handlerStep, ht, Option.map_some, htd, List.head?_cons, Option.bind_some,
    Option.some.injEq] at h
  subst h
  cases hw : eff.shotWrite s.uuid with
  | none =>
    refine hs.put (wf.same hu rfl rfl ?_ rfl).1
    simp [HandlerTask.shotWrites, htd, hw]
  | some w =>
    have hws : l.task.shotWrites s.uuid = w :: HandlerTask.shotWrites s.uuid { l.task with todo := rest } := by
      simp [HandlerTask.shotWrites, htd, hw]
    cases w with
    | delay v => exact (hs.put (wf.performDelay hu rfl rfl hws)).withDelay (some v)
    | watch x =>
      obtain ⟨⟨v, rfl⟩, hwf⟩ := wf.performWatch hu rfl rfl hws
      exact (hs.put hwf).setWatch (by simp)

theorem handler (hs : s.Sound) (hk : s.handlers[k]? = some l) {e : HandlerEvent}
    (h : s.handlerStep k l e = some s') : s'.Sound := by
  have wf := hs.wf hk
  obtain ⟨t, ht⟩ := handlerStep_next h
  have hu : t.uuid = s.uuid := (HandlerTask.next_uuid ht).trans wf.uuid
  cases HandlerTask.next_moves wf.uuid ht with
  | @start ms a hp hp' hd hw hq =>
    simp only [handlerStep, ht, Option.map_some] at h
    split at h
    · next hms =>
      cases h
      rw [hms]
      exact hs.handler_start hk hu hp hp' hw hq
    · cases h
  | take ms hp hp' hd hw hw' hq =>
    rw [handlerStep_plain ⟨by simp, by simp, by simp⟩ ht h]
    exact hs.put (wf.take hu hp hp' hd hw hw' hq).1
  | @yield ms a hp hp' hd hw hw' hq hq' =>
    simp only [handlerStep, ht, Option.map_some] at h
    split at h
    · next hf =>
      cases h
      exact hs.put (wf.yield hu hp hp' hf.2 (hs.narrow _ hf.2) hd hw hw' hq hq').1
    · cases h
  | stay he hp hp' hd hw hw' hq =>
    rw [handlerStep_plain he ht h]
    exact hs.put (wf.stay hu hp hp' hd hw hw' hq).1
  | leave he hl hp hp' hw' =>
    rw [handlerStep_plain he ht h]
    exact hs.put (wf.gone hu (.inl hp') (fun _ => hp) hw').1
  | perform eff rest htd => exact hs.handler_perform hk htd h
  | exit hp hp' hw' =>
    rw [handlerStep_plain ⟨by simp, by simp, by simp⟩ ht h]
    exact hs.put (wf.gone hu (.inr hp') (fun hx => by rw [hp'] at hx; cases hx) hw').1

theorem subscribed (hs : s.Sound) {w : UInt32} (hw : s.shotDelayWatch = some w) {b : Subscriber}
    (hb : b.seen = w) : Sound { s with subscribers := s.subscribers ++ [b], rpc := .idle } := by
  refine ⟨hs.handlers, forall_mem_concat hs.subscribers ?_, hs.narrow, by rintro cur ⟨⟩⟩
  exact fun _ => ⟨w, hw, .inr hb⟩

theorem subscribe (hs : s.Sound) (h : s.subscribe = some s') : s'.Sound := by
  unfold ShotDelays.subscribe at h
  split at h
  · next cur hr =>
    cases h
    cases hw : s.shotDelayWatch with
    | some w =>
      have hsame : { s with shotDelayWatch := some w } = s := by rw [← hw]
      have hsub := hs.subscribed hw (b := ⟨true, true, false, w⟩) rfl
      rw [← hsame] at hsub
      exact hsub
    | none => exact (hs.openWatch hw (hs.reading cur hr)).subscribed rfl rfl
  · cases h

theorem setSubscriber (hs : s.Sound) {i : Nat} {b : Subscriber} (hb : b.Wf s.shotDelayWatch) :
    Sound { s with subscribers := s.subscribers.set i b } :=
  ⟨hs.handlers, forall_mem_set hs.subscribers hb, hs.narrow, hs.reading⟩

/-- A message to a handler, `SetShotDelay` among them. -/
theorem received (hs : s.Sound) (hk : s.handlers[k]? = some l) (m : DeviceTaskMessage) :
    (s.put k (l.receive m)).Sound :=
  hs.put ((hs.wf hk).receive m)

theorem spawn (hs : s.Sound) {h : Handler} (hu : h.device.uuid = s.uuid) :
    Sound { s with handlers := s.handlers ++ [⟨.spawned h, false⟩] } :=
  ⟨forall_mem_concat hs.handlers (Listener.wf_spawned hu), hs.subscribers, hs.narrow, hs.reading⟩

theorem step {e : ShotDelayEvent} (hs : s.Sound) (h : s.step e = some s') : s'.Sound := by
  cases step_moves h with
  | spawn hu => exact hs.spawn hu
  | @message k m l hm hk => exact hs.received hk m
  | handler hk hl => exact hs.handler hk hl
  | set ms hr => exact (hs.withDelay (some ms.toUInt16)).withRpc (.watching ms.toUInt16) (by simp)
  | reset hr => exact (hs.withDelay (some 0)).withRpc (.watching 0) (by simp)
  | ask hr =>
    refine ⟨hs.handlers, hs.subscribers, hs.narrow, ?_⟩
    rintro cur ⟨⟩
    simp
  | @watch ms hr => exact (hs.setWatch (by simp)).withRpc (.telling ms) (by simp)
  | tellNobody hr => exact hs.withRpc .idle (by simp)
  | @tell ms k l hr hk => exact (hs.received hk (.setShotDelay ms)).withRpc .idle (by simp)
  | subscribe hr h' => exact hs.subscribe h'
  | @forward i b v hb hv =>
    refine hs.setSubscriber ?_
    split
    · exact fun _ => ⟨v, hv, .inr rfl⟩
    · rintro ⟨⟩
  | @hangUp i b hb => exact hs.setSubscriber (hs.subscribers b (List.mem_of_getElem? hb))

theorem init (uuid : Uuid) (config : Option UInt16) : (init uuid config).Sound where
  handlers l hl := by cases hl
  subscribers b hb := by cases hb
  narrow v hv := by cases hv
  reading cur h := by cases h

/-- The first set puts sound tables in order. -/
theorem inv_of_request (hs : s.Sound) (ms : UInt16) :
    Inv { s with deviceShotDelay := some ms, rpc := .watching ms } none where
  handlers := hs.handlers
  subscribers := hs.subscribers
  narrow := hs.narrow
  seeded h := by cases h
  opened _ := ⟨rfl, rfl, rfl⟩
  reading cur h := by cases h
  pending hr := by cases hr
  map := .inl rfl
  watch hr := by cases hr

end Sound

/-! ## One handler -/

/-- The handler `k` has not left its loop, and every other one has. -/
def Alive (k : HandlerId) (s : ShotDelays) : Prop :=
  (∃ l ∈ s.handlers[k]?, l.task.InLoop) ∧ ∀ l ∈ s.handlers.eraseIdx k, ¬ l.task.InLoop

instance (k : HandlerId) : DecidablePred (Alive k) := fun s =>
  inferInstanceAs (Decidable
    ((∃ l ∈ s.handlers[k]?, l.task.InLoop) ∧ ∀ l ∈ s.handlers.eraseIdx k, ¬ l.task.InLoop))

/-- Whoever has not left its loop is the handler `k`. -/
theorem Alive.eq {j : HandlerId} (ha : s.Alive k) (hj : s.handlers[j]? = some l) (hin : l.task.InLoop) : j = k := by
  by_contra hne
  exact ha.2 l (List.mem_eraseIdx_iff_getElem?.mpr ⟨j, hne, hj⟩) hin

/-- What the watch holds once `l` has written what it has still to write. -/
def settlesOn (s : ShotDelays) (l : Listener) : Option UInt32 :=
  (l.pending s.uuid).getLast?.or s.shotDelayWatch

/-- A `try_send` does not reach the handler that is alive only where the watch settles on
the value of the call without it. -/
def SettlesWithout (x : ShotDelays × Option UInt16) : ShotDelayEvent → Prop
  | .tell target => x.1.takes target ∨ ∀ ms, x.1.rpc = .telling ms →
      ∀ l ∈ x.1.handlers, l.task.InLoop → x.1.settlesOn l = some ms.toUInt32
  | _ => True

theorem endsIn_of_settlesOn {v : UInt32} (h : s.settlesOn l = some v) :
    EndsIn v (l.pending s.uuid) ∧ (s.shotDelayWatch = some v ∨ l.pending s.uuid ≠ []) := by
  unfold settlesOn at h
  cases hp : (l.pending s.uuid).getLast? with
  | none =>
    rw [hp] at h
    rw [List.getLast?_eq_none_iff.mp hp]
    exact ⟨endsIn_nil v, .inl h⟩
  | some w =>
    rw [hp] at h
    cases h
    refine ⟨?_, .inr ?_⟩
    · rintro x hx
      rw [hp] at hx
      exact (Option.some.inj hx).symm
    · intro hnil
      rw [hnil] at hp
      cases hp

/-- The handler that is alive stays in its loop. -/
theorem handlerStep_phase {j : HandlerId} {e : HandlerEvent} (hj : s.handlers[j]? = some l) (ha : s.Alive k)
    (ha' : s'.Alive k) (h : s.handlerStep j l e = some s') : ¬ l.task.Leaves e := by
  intro hl
  obtain ⟨t, ht⟩ := handlerStep_next h
  obtain rfl : j = k := ha.eq hj (HandlerTask.inLoop_of_leaves ht hl)
  have hplain : HandlerTask.Plain e := by
    cases e with
    | recv | closed => exact ⟨by simp, by simp, by simp⟩
    | start | arm | perform | exit => exact hl.elim
  have hs' := handlerStep_plain hplain ht h
  obtain ⟨l', hl', hp⟩ := ha'.1
  have hleft : l'.task.phase = .left := by
    rw [hs'] at hl'
    obtain rfl : (⟨t, l.fresh⟩ : Listener) = l' := Option.some.inj ((getElem?_set_same hj _).symm.trans hl')
    exact HandlerTask.next_left ht hl
  obtain hp | hp := hp
  · rw [hleft] at hp
    cases hp
  · rw [hleft] at hp
    cases hp

/-- While the handler does not leave, only a `try_send` that does not reach it can lose a value. -/
theorem delivers_of_alive {e : ShotDelayEvent} (ha : s.Alive k) (ha' : s'.Alive k)
    (hok : SettlesWithout (s, acked) e) (h : s.step e = some s') : Delivers (s, acked) e := by
  cases e with
  | tell target =>
    change s.tell target = some s' at h
    cases hr : s.rpc with
    | telling ms =>
      have hreq : (s, acked).1.requested (s, acked).2 = ms := by
        rw [requested, hr]
      rcases hok with htakes | hsettles
      · refine ⟨?_, .inl htakes⟩
        obtain ⟨j, l, rfl, hj, hin⟩ := htakes
        obtain rfl : j = k := ha.eq hj hin
        intro x hx
        rw [Listener.pending_of_not_inLoop (ha.2 x hx)]
        exact endsIn_nil _
      · change DeliversDelay (s, acked) (.tell target)
        rw [DeliversDelay, hreq]
        constructor
        · intro x hx
          have hmem : x ∈ s.handlers := by
            cases target with
            | none => exact hx
            | some j => exact List.mem_of_mem_eraseIdx hx
          by_cases hin : x.task.InLoop
          · exact (endsIn_of_settlesOn (hsettles ms hr x hmem hin)).1
          · rw [Listener.pending_of_not_inLoop hin]
            exact endsIn_nil _
        · obtain ⟨l, hl, hin⟩ := ha.1
          have hmem : l ∈ s.handlers := List.mem_of_getElem? hl
          exact .inr ((endsIn_of_settlesOn (hsettles ms hr l hmem hin)).2.imp_right fun hp => ⟨l, hmem, hp⟩)
    | idle | watching | subscribing => simp [ShotDelays.tell, hr] at h
  | handler j e =>
    intro l hj hleaves
    obtain ⟨l', hj', hstep⟩ := Option.bind_eq_some_iff.mp h
    rw [hj] at hj'
    cases hj'
    exact absurd hleaves (handlerStep_phase hj ha ha' hstep)
  | spawn | message | request | setWatch | subscribe | forward | hangUp => trivial

/-! ## Before the first call -/

@[simp] theorem setWatch_rpc (s : ShotDelays) (v : UInt32) : (s.setWatch v).rpc = s.rpc := by
  unfold ShotDelays.setWatch
  split
  · unfold send
    split <;> rfl
  · rfl

theorem handlerStep_rpc {e : HandlerEvent} (h : s.handlerStep k l e = some s') : s'.rpc = s.rpc := by
  unfold handlerStep at h
  split at h
  · split at h
    · obtain ⟨t, -, rfl⟩ := Option.map_eq_some_iff.mp h
      rfl
    · cases h
  · split at h
    · obtain ⟨t, -, rfl⟩ := Option.map_eq_some_iff.mp h
      rfl
    · cases h
  · obtain ⟨t, -, rfl⟩ := Option.map_eq_some_iff.mp h
    dsimp only
    split
    · next w _ =>
      cases w with
      | delay ms => rfl
      | watch v => exact setWatch_rpc _ v
    · rfl
  · obtain ⟨t, -, rfl⟩ := Option.map_eq_some_iff.mp h
    rfl

/-- Where no set runs, none is acknowledged. -/
theorem acknowledge_of_settled (e : ShotDelayEvent) (hr : s.rpc.settled = true) :
    acknowledge s e s' acked = acked := by
  cases e with
  | tell target =>
    cases hrpc : s.rpc with
    | watching ms | telling ms =>
      rw [hrpc] at hr
      cases hr
    | idle | subscribing cur => simp [acknowledge, hrpc]
  | _ => rfl

/-- Where no set runs, a step is the start of one, or none runs after it. -/
theorem step_of_settled {e : ShotDelayEvent} (hr : s.rpc.settled = true) (h : s.step e = some s') :
    (∃ ms, s' = { s with deviceShotDelay := some ms, rpc := .watching ms }) ∨
    s'.rpc.settled = true := by
  cases step_moves h with
  | set ms => exact .inl ⟨ms.toUInt16, rfl⟩
  | reset => exact .inl ⟨0, rfl⟩
  | ask => exact .inr rfl
  | watch hw | tellNobody hw | tell hw =>
    rw [hw] at hr
    cases hr
  | handler hk hl =>
    right
    rw [handlerStep_rpc hl]
    exact hr
  | subscribe hs hs' =>
    simp only [ShotDelays.subscribe, hs] at hs'
    cases hs'
    exact .inr rfl
  | _ => exact .inr hr

/-! ## Runs -/

/-- Sound tables with one live handler; from the first call on the invariant of the shot delay. -/
structure LastInv (k : HandlerId) (x : ShotDelays × Option UInt16) : Prop where
  sound : x.1.Sound
  alive : x.1.Alive k
  called : x.1.Inv x.2 ∨ (x.2 = none ∧ x.1.rpc.settled = true)

theorem LastInv.step (x : ShotDelays × Option UInt16) (e : ShotDelayEvent)
    (y : ShotDelays × Option UInt16) (hi : LastInv k x) (hok : SettlesWithout x e)
    (hs : ghost Step acknowledge x e y ∧ y.1.Alive k) : LastInv k y := by
  obtain ⟨⟨hs, hacked⟩, ha'⟩ := hs
  refine ⟨hi.sound.step hs, ha', ?_⟩
  rw [hacked]
  obtain inv | ⟨hnone, hr⟩ := hi.called
  · exact .inl (inv.step (delivers_of_alive hi.alive ha' hok hs) hs)
  · rw [acknowledge_of_settled e hr, hnone]
    obtain ⟨ms, hy⟩ | hr' := step_of_settled hr hs
    · rw [hy]
      exact .inl (hi.sound.inv_of_request ms)
    · exact .inr ⟨rfl, hr'⟩

/-- No call runs and the handlers have nothing left to do. -/
def Drained (s : ShotDelays) : Prop := s.rpc = .idle ∧ ∀ l ∈ s.handlers, l.Quiet

instance : DecidablePred Drained := fun s =>
  inferInstanceAs (Decidable (s.rpc = .idle ∧ ∀ l ∈ s.handlers, l.Quiet))

/-- Once everything is drained both tables hold the value acknowledged last. -/
def KeepsLast (x : ShotDelays × Option UInt16) : Prop :=
  x.1.Drained → ∀ ms, x.2 = some ms →
    x.1.deviceShotDelay = some ms ∧ x.1.shotDelayWatch = some ms.toUInt32

/-- **The last acknowledged delay.**  While one handler is alive, from any state of the server
on, the tables settle on the value of the last acknowledged call, if a `try_send` does not
reach it only where they settle on the value without the message. -/
theorem lastDelay_of_settlesWithout {uuid : Uuid} {config : Option UInt16} {k : HandlerId}
    {pre : List (ShotDelayEvent × ShotDelays)}
    {tr : List (ShotDelayEvent × (ShotDelays × Option UInt16))}
    (hpre : Exec Step (init uuid config) pre) (hidle : (last (init uuid config) pre).rpc = .idle)
    (hrun : Exec (ghost Step acknowledge) (last (init uuid config) pre, none) tr)
    (halive : Always (fun x => x.1.Alive k) (last (init uuid config) pre, none) tr)
    (hok : StepsOk SettlesWithout (last (init uuid config) pre, none) tr) :
    Always KeepsLast (last (init uuid config) pre, none) tr := by
  have hsound : (last (init uuid config) pre).Sound :=
    (hpre.invariant (fun _ _ _ hs h => Sound.step hs h) (Sound.init uuid config)).last
  have hstart : LastInv k (last (init uuid config) pre, none) :=
    ⟨hsound, halive.1, .inr ⟨rfl, by rw [hidle]; rfl⟩⟩
  refine ((hrun.restrict halive).always LastInv.step hstart hok).imp fun x hx hd ms hms => ?_
  obtain inv | ⟨hnone, -⟩ := hx.called
  · exact inv.acknowledged hd.1 hd.2 hms
  · rw [hnone] at hms
    cases hms

/-! ## A full queue -/

/-- A handler that has started and taken the value of its watch. -/
def startedEvents : List ShotDelayEvent :=
  [.spawn (muxHandler sampleDevice 0 0), .handler 0 (.start 0 {}), .handler 0 (.arm (.shotDelay 0) {}),
    .handler 0 .perform]

def started : List (ShotDelayEvent × ShotDelays) := trace step (init sampleDevice.uuid none) startedEvents

/-- A set to 5 is queued, 31 vendor packets fill the queue, and the message of a set to 7
does not fit.  The handler then works the queue off. -/
def fullQueue : List ShotDelayEvent :=
  List.flatten
    [setEvents 5 (some 0), List.replicate 31 (.message 0 (.writeVendor 1 [])), setEvents 7 none,
      [.handler 0 (.recv {}), .handler 0 .perform, .handler 0 .perform],
      List.replicate 31 (.handler 0 (.recv {})),
      [.handler 0 (.arm (.shotDelay 5) {}), .handler 0 .perform]]

/-- The run of `es` from there, with the acknowledged value. -/
def runStarted (es : List ShotDelayEvent) : List (ShotDelayEvent × (ShotDelays × Option UInt16)) :=
  trace (ghostStep step acknowledge) (last (init sampleDevice.uuid none) started, none) es

theorem fullQueue_lose_delay :
    Exec Step (init sampleDevice.uuid none) started ∧
    Exec (ghost Step acknowledge) (last (init sampleDevice.uuid none) started, none)
      (runStarted fullQueue) ∧
    Always (fun x => x.1.Alive 0) (last (init sampleDevice.uuid none) started, none)
      (runStarted fullQueue) ∧
    ¬ Always KeepsLast (last (init sampleDevice.uuid none) started, none) (runStarted fullQueue) := by
  refine ⟨exec_trace (fun _ _ _ h => h) _ _, exec_ghostStep (fun _ _ _ h => h) _ _ _,
    ⟨by decide +kernel, by decide +kernel⟩, fun h => ?_⟩
  have hd : (last (last (init sampleDevice.uuid none) started, none)
      (runStarted fullQueue)).1.deviceShotDelay = some 5 := by decide +kernel
  have h7 := (h.last (by decide +kernel) 7 (by decide +kernel)).1
  rw [hd] at h7
  cases h7

/-- The handler has ended, and the device has got another one. -/
def restartedEvents : List ShotDelayEvent :=
  List.append startedEvents
    [.handler 0 .closed, .handler 0 .exit, .spawn (muxHandler sampleDevice 0 0), .handler 1 (.start 0 {}),
      .handler 1 (.arm (.shotDelay 0) {}), .handler 1 .perform]

def restarted : List (ShotDelayEvent × ShotDelays) := trace step (init sampleDevice.uuid none) restartedEvents

/-- Two sets in a row, both told, before the handler takes the first. -/
def twoSets : List ShotDelayEvent :=
  List.flatten
    [setEvents 5 (some 1), setEvents 7 (some 1),
      [.handler 1 (.recv {}), .handler 1 .perform, .handler 1 .perform],
      [.handler 1 (.recv {}), .handler 1 .perform, .handler 1 .perform],
      [.handler 1 (.arm (.shotDelay 7) {}), .handler 1 .perform]]

/-- The run of the two sets, with the acknowledged value. -/
def twoSetsRun : List (ShotDelayEvent × (ShotDelays × Option UInt16)) :=
  trace (ghostStep step acknowledge) (last (init sampleDevice.uuid none) restarted, none) twoSets

theorem twoSets_keep_delay :
    (last (last (init sampleDevice.uuid none) restarted, none) twoSetsRun).1.deviceShotDelay = some 7 := by
  have hall := lastDelay_of_settlesWithout (k := 1) (exec_trace (fun _ _ _ h => h) (init sampleDevice.uuid none)
    restartedEvents) (by decide +kernel) (exec_ghostStep (fun _ _ _ h => h) acknowledge
      (last (init sampleDevice.uuid none) restarted, none) twoSets)
    ⟨by decide +kernel, by decide +kernel⟩
    ⟨trivial, trivial, .inl ⟨1, _, rfl, rfl, .inr rfl⟩, trivial, trivial, .inl ⟨1, _, rfl, rfl, .inr rfl⟩,
      trivial, trivial, trivial, trivial, trivial, trivial, trivial, trivial, trivial⟩
  exact (hall.last (by decide +kernel) 7 (by decide +kernel)).1

end ShotDelays

end OdysseyHub
