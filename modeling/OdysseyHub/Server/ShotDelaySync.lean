import OdysseyHub.Server.ShotDelayInv

/-!
# The copies of the shot delay agree

`Quiescent` states have no message and no change of the watch in flight.  `Agrees`
says that the map, the watch and everybody who reads it hold one value there, the
last one acknowledged.
-/

namespace OdysseyHub

open Slots Transition

namespace ShotDelays

variable {s s' : ShotDelays} {acked : Option UInt16} {v : UInt16} {k : HandlerId} {l l' : Listener}

theorem hasReceiver_of_mem (hl : l ∈ s.handlers) (hr : l.receiving = true) :
    s.hasReceiver = true := by
  rw [hasReceiver, List.any_eq_true.mpr ⟨l, hl, hr⟩, Bool.true_or]

/-! ## Steps of a handler -/

theorem handlerStep_next {e : HandlerEvent} (h : s.handlerStep k l e = some s') :
    ∃ t, l.task.next e = some t := by
  unfold handlerStep at h
  split at h
  · split at h
    · exact (Option.map_eq_some_iff.mp h).imp fun _ ht => ht.1
    · cases h
  · split at h
    · exact (Option.map_eq_some_iff.mp h).imp fun _ ht => ht.1
    · cases h
  · exact (Option.map_eq_some_iff.mp h).imp fun _ ht => ht.1
  · exact (Option.map_eq_some_iff.mp h).imp fun _ ht => ht.1

theorem handlerStep_plain {e : HandlerEvent} {t : HandlerTask} (he : HandlerTask.Plain e)
    (ht : l.task.next e = some t) (h : s.handlerStep k l e = some s') : s' = s.put k ⟨t, l.fresh⟩ := by
  unfold handlerStep at h
  split at h
  · exact absurd rfl (he.1 _ _)
  · exact absurd rfl (he.2.1 _ _)
  · exact absurd rfl he.2.2
  · rw [ht] at h
    exact (Option.some.inj h).symm

theorem Inv.handler_start (inv : s.Inv acked) (hk : s.handlers[k]? = some l) {ms : UInt32} {a : Answers}
    {t : HandlerTask} (hu : t.uuid = s.uuid) (hp : l.task.phase = .prelude) (hp' : t.phase = .loop)
    (hw : t.shotWrites s.uuid = []) (hs : t.shotSets = l.task.shotSets)
    (ht : l.task.next (.start ms a) = some t)
    (h : s.handlerStep k l (.start ms a) = some s') : s'.Inv acked := by
  simp only [handlerStep, ht, Option.map_some] at h
  split at h
  · next hms =>
    cases h
    have hwk := (inv.wf hk).start (v := ms) hu hp hp' hw hs
    cases hv : s.shotDelayWatch with
    | some x =>
      have hmx : ms = x := by
        rw [hms, initialShotDelay, hv]
        rfl
      have hsame : { s with shotDelayWatch := some ms } = s := by
        rw [hmx, ← hv]
      rw [hsame]
      refine inv.put hk ⟨?_, hwk.2⟩
      rw [hv, ← hmx]
      exact hwk.1
    | none =>
      have hmx : ms = (s.requested acked).toUInt32 := by
        rw [hms, initialShotDelay, hv, ← (inv.opened hv).1, getOrDefaultShotDelay]
        cases hd : s.deviceShotDelay with
        | some d => rfl
        | none =>
          rw [(inv.seeded hd).1]
          rfl
      rw [hmx] at hwk ⊢
      exact (inv.openWatch hv).put hk hwk
  · cases h

/-- The first of two writes, or the write of a yielded value. -/
theorem Inv.perform_delay (inv : s.Inv acked) (hk : s.handlers[k]? = some l) {t : HandlerTask}
    (hu : t.uuid = s.uuid) (hp : t.phase = l.task.phase) (hd : t.shotDelay = l.task.shotDelay)
    (hs : t.shotSets = l.task.shotSets)
    (hw : l.task.shotWrites s.uuid = .delay v :: t.shotWrites s.uuid) :
    Inv ({ s with deviceShotDelay := some v }.put k ⟨t, l.fresh⟩) acked := by
  have wf := inv.wf hk
  have hloop : l.task.phase = .loop := wf.loop (by simp [hw])
  have hloop' : t.phase = .loop := hp.trans hloop
  have hne : s.shotDelayWatch ≠ none := wf.channel (Listener.receiving_of_loop hloop)
  have hpend : Listener.pending s.uuid ⟨t, l.fresh⟩ = l.pending s.uuid := by
    rw [Listener.pending_of_inLoop (.inr hloop), Listener.pending_of_inLoop (.inr hloop'), hw, hs]
    rfl
  have hself : ⟨t, l.fresh⟩ ∈ s.handlers.set k ⟨t, l.fresh⟩ := mem_set_self hk
  refine inv.put_stored hk (wf.performDelay hu hp hd hw) hpend hne ?_
  by_cases hb : Listener.Busy s.uuid ⟨t, l.fresh⟩
  · exact .inr (.inl ⟨_, hself, hb⟩)
  · -- nothing is left to the handler, so the value is the one the watch holds
    have hfresh : l.fresh ≠ true := fun hf => hb ⟨.inr hloop', .inl hf⟩
    have hwrites : t.shotWrites s.uuid = [] :=
      Decidable.byContradiction fun hx => hb ⟨.inr hloop', .inr (.inl hx)⟩
    have hsets : t.shotSets = [] :=
      Decidable.byContradiction fun hx => hb ⟨.inr hloop', .inr (.inr hx)⟩
    rw [hwrites] at hw
    have hwatch : s.shotDelayWatch = some v.toUInt32 := (wf.stream v hw).resolve_left hfresh
    have hlp : l.pending s.uuid = [] := by
      rw [Listener.pending_of_inLoop (.inr hloop), hw, ← hs, hsets]
      rfl
    by_cases hv : v = s.requested acked
    · exact .inl hv
    · have hother : s.shotDelayWatch ≠ some (s.requested acked).toUInt32 := by
        rw [hwatch]
        intro hx
        exact hv (UInt16.toUInt32_inj.mp (Option.some.inj hx))
      cases hr : s.rpc with
      | watching ms => exact .inr (.inr (.inl ⟨rfl, _, hself, hloop'⟩))
      | telling ms => exact .inr (.inr (.inr ⟨rfl, hother⟩))
      | idle | subscribing cur =>
        obtain h | h | h := inv.watch (by rw [hr]; rfl)
        · exact absurd h hne
        · exact absurd h hother
        · have hset : ∃ y ∈ s.handlers.set k ⟨t, l.fresh⟩, y.pending s.uuid ≠ [] :=
            exists_mem_set hk (fun hx => absurd hlp hx) h
          exact .inr (.inl (hset.imp fun y hy => ⟨hy.1, Listener.busy_of_pending hy.2⟩))

theorem Inv.perform_watch (inv : s.Inv acked) (hk : s.handlers[k]? = some l) {t : HandlerTask} {w : UInt32}
    (hu : t.uuid = s.uuid) (hp : t.phase = l.task.phase) (hd : t.shotDelay = l.task.shotDelay)
    (hs : t.shotSets = l.task.shotSets)
    (hw : l.task.shotWrites s.uuid = .watch w :: t.shotWrites s.uuid) :
    Inv ((s.put k ⟨t, l.fresh⟩).setWatch w) acked := by
  have wf := inv.wf hk
  have hloop : l.task.phase = .loop := wf.loop (by simp [hw])
  have hloop' : t.phase = .loop := hp.trans hloop
  have hne : s.shotDelayWatch ≠ none := wf.channel (Listener.receiving_of_loop hloop)
  obtain ⟨⟨v, rfl⟩, hwf⟩ := wf.performWatch hu hp hd hw
  -- the handler itself receives, so the send succeeds
  have hrecv : (s.put k ⟨t, l.fresh⟩).hasReceiver = true :=
    hasReceiver_of_mem (mem_set_self hk) (Listener.receiving_of_loop hloop')
  have hsend : (s.put k ⟨t, l.fresh⟩).setWatch v.toUInt32 = (s.put k ⟨t, l.fresh⟩).sent v.toUInt32 := by
    obtain ⟨x, hx⟩ := Option.ne_none_iff_exists'.mp hne
    have hx' : (s.put k ⟨t, l.fresh⟩).shotDelayWatch = some x := hx
    rw [setWatch, hx']
    exact if_pos hrecv
  rw [hsend]
  refine inv.put_sent hk hwf hloop' ?_
  rw [Listener.pending_of_inLoop (.inr hloop), Listener.pending_of_inLoop (.inr hloop'), hw, hs]
  rfl

theorem Inv.perform (inv : s.Inv acked) (hk : s.handlers[k]? = some l) {eff : Effect} {rest : List Effect}
    (htd : l.task.todo = eff :: rest)
    (h : s.handlerStep k l .perform = some s') : s'.Inv acked := by
  have ht : l.task.next .perform = some { l.task with todo := rest } := by
    simp only [HandlerTask.next, htd]
  have hu : l.task.uuid = s.uuid := (inv.wf hk).uuid
  simp only [handlerStep, ht, Option.map_some, htd, List.head?_cons, Option.bind_some, Option.some.injEq] at h
  subst h
  cases hw : eff.shotWrite s.uuid with
  | none =>
    refine inv.put hk ((inv.wf hk).same hu rfl rfl ?_ rfl)
    simp [HandlerTask.shotWrites, htd, hw]
  | some w =>
    have hws : l.task.shotWrites s.uuid = w :: HandlerTask.shotWrites s.uuid { l.task with todo := rest } := by
      simp [HandlerTask.shotWrites, htd, hw]
    cases w with
    | delay v => exact inv.perform_delay hk hu rfl rfl rfl hws
    | watch v => exact inv.perform_watch hk hu rfl rfl rfl hws

/-- **A step of a handler.**  When it leaves its loop, others must cover the tables. -/
theorem Inv.handler (inv : s.Inv acked) (hk : s.handlers[k]? = some l) {e : HandlerEvent}
    (hok : HandlerTask.Leaves l.task e →
      s.MapCovered (s.requested acked) (s.handlers.eraseIdx k) ∧
      s.WatchCovered (s.requested acked) (s.handlers.eraseIdx k))
    (h : s.handlerStep k l e = some s') : s'.Inv acked := by
  have wf := inv.wf hk
  obtain ⟨t, ht⟩ := handlerStep_next h
  have hu : t.uuid = s.uuid := (HandlerTask.next_uuid ht).trans wf.uuid
  cases HandlerTask.next_moves wf.uuid ht with
  | start hp hp' hd hw hs => exact inv.handler_start hk hu hp hp' hw hs ht h
  | take ms hp hp' hd hw hw' hs =>
    rw [handlerStep_plain ⟨by simp, by simp, by simp⟩ ht h]
    exact inv.put hk (wf.take hu hp hp' hd hw hw' hs)
  | @yield ms a hp hp' hd hw hw' hs hs' =>
    simp only [handlerStep, ht, Option.map_some] at h
    split at h
    · next hf =>
      cases h
      exact inv.put hk (wf.yield hu hp hp' hf.2 (inv.narrow _ hf.2) hd hw hw' hs hs')
    · cases h
  | stay he hp hp' hd hw hw' hs =>
    rw [handlerStep_plain he ht h]
    exact inv.put hk (wf.stay hu hp hp' hd hw hw' hs)
  | leave he hl hp hp' hw' =>
    rw [handlerStep_plain he ht h]
    have hg := wf.gone hu (.inl hp') (fun _ => hp) hw'
    exact inv.put_covered hg.1 hg.2 (hok hl).1 (hok hl).2
  | perform eff rest htd => exact inv.perform hk htd h
  | exit hp hp' hw' =>
    rw [handlerStep_plain ⟨by simp, by simp, by simp⟩ ht h]
    have hg := wf.gone hu (.inr hp') (fun hx => by rw [hp'] at hx; cases hx) hw'
    exact inv.put hk ⟨hg.1, Listener.keeps_of_not_inLoop (by simp [HandlerTask.InLoop, hp]) hg.2⟩

/-! ## Steps of the RPCs -/

theorem Inv.not_watching_loop (inv : s.Inv acked) (hn : s.shotDelayWatch = none) :
    ∀ l ∈ s.handlers, l.task.phase ≠ .loop :=
  fun l hl hp => (inv.handlers l hl).channel (Listener.receiving_of_loop hp) hn

theorem MapCovered.of_settled {hs : List Listener} (h : s.MapCovered v hs) (hr : s.rpc.settled = true) :
    s.getOrDefaultShotDelay = v ∨ ∃ l ∈ hs, l.Busy s.uuid := by
  obtain h | h | ⟨hw, -⟩ | ⟨ht, -⟩ := h
  · exact .inl h
  · exact .inr h
  · rw [(ShotDelayRpc.of_settled hr).1] at hw
    cases hw
  · rw [(ShotDelayRpc.of_settled hr).2] at ht
    cases ht

theorem Inv.spawn (inv : s.Inv acked) {h : Handler} (hu : h.device.uuid = s.uuid) :
    Inv { s with handlers := s.handlers ++ [⟨.spawned h, false⟩] } acked := by
  constructor
  · exact forall_mem_concat inv.handlers (Listener.wf_spawned hu)
  · exact inv.subscribers
  · exact inv.narrow
  · exact inv.seeded
  · exact inv.opened
  · exact inv.reading
  · exact fun hr => forall_mem_concat (inv.pending hr) (endsIn_nil _)
  · obtain h | h | ⟨hr, h⟩ | h := inv.map
    · exact .inl h
    · exact .inr (.inl (exists_mem_concat _ h))
    · exact .inr (.inr (.inl ⟨hr, exists_mem_concat _ h⟩))
    · exact .inr (.inr (.inr h))
  · intro hr
    obtain h | h | h := inv.watch hr
    · exact .inl h
    · exact .inr (.inl h)
    · exact .inr (.inr (exists_mem_concat _ h))

theorem Inv.request_set (inv : s.Inv acked) (ms : UInt16) :
    Inv { s with deviceShotDelay := some ms, rpc := .watching ms } acked where
  handlers := inv.handlers
  subscribers := inv.subscribers
  narrow := inv.narrow
  seeded h := by cases h
  opened h := ⟨rfl, (inv.opened h).2.1, rfl⟩
  reading cur h := by cases h
  pending hr := by cases hr
  map := .inl rfl
  watch hr := by cases hr

theorem Inv.request_subscribe (inv : s.Inv acked) (hr : s.rpc = .idle) :
    Inv { s with rpc := .subscribing s.getOrDefaultShotDelay.toUInt32 } acked := by
  have hset : s.rpc.settled = true := by
    rw [hr]
    rfl
  have hreq : s.requested acked = acked.getD (s.config.getD 0) := by
    rw [requested, hr]
  constructor
  · exact inv.handlers
  · exact inv.subscribers
  · exact inv.narrow
  · exact fun h => ⟨(inv.seeded h).1, (inv.seeded h).2.1, rfl⟩
  · exact fun h => ⟨(inv.opened h).1.trans hreq, (inv.opened h).2.1, rfl⟩
  · rintro cur ⟨⟩ h
    exact congrArg _ ((inv.opened h).1.trans hreq)
  · intro _ l hl
    have hp := inv.pending hset l hl
    rwa [hreq] at hp
  · have hm := inv.map.of_settled hset
    rw [hreq] at hm
    exact hm.imp_right .inl
  · intro _
    have hw := inv.watch hset
    rwa [hreq] at hw

/-- The set that runs is done with the watch. -/
theorem Inv.advance (inv : s.Inv acked) {ms : UInt16} (hr : s.rpc = .watching ms)
    (hne : s.shotDelayWatch ≠ none)
    (hloop : ∀ l ∈ s.handlers, l.task.phase = .loop → l.Busy s.uuid) :
    Inv { s with rpc := .telling ms } acked := by
  have hreq : s.requested acked = ms := by
    rw [requested, hr]
  constructor
  · exact inv.handlers
  · exact inv.subscribers
  · exact inv.narrow
  · intro h
    have hset := (inv.seeded h).2.2
    rw [hr] at hset
    cases hset
  · exact fun h => absurd h hne
  · rintro cur ⟨⟩
  · rintro ⟨⟩
  · obtain h | h | ⟨-, l, hl, hp⟩ | ⟨h, -⟩ := inv.map
    · exact .inl (h.trans hreq)
    · exact .inr (.inl h)
    · exact .inr (.inl ⟨l, hl, hloop l hl hp⟩)
    · rw [hr] at h
      cases h
  · rintro ⟨⟩

theorem Inv.sent (inv : s.Inv acked) {ms : UInt16} (hr : s.rpc = .watching ms) :
    Inv (s.sent ms.toUInt32) acked := by
  constructor
  · intro y hy
    obtain ⟨x, hx, rfl⟩ := List.mem_map.mp hy
    exact (inv.handlers x hx).changed _
  · intro y hy
    obtain ⟨x, hx, rfl⟩ := List.mem_map.mp hy
    exact x.wf_changed _
  · intro x hx
    cases hx
    simp
  · exact inv.seeded
  · rintro ⟨⟩
  · rintro cur - ⟨⟩
  · intro h
    change s.rpc.settled = true at h
    rw [hr] at h
    cases h
  · obtain h | ⟨l, hl, hb⟩ | ⟨hw, l, hl, hp⟩ | ⟨h, -⟩ := inv.map
    · exact .inl h
    · exact .inr (.inl ⟨l.changed, List.mem_map_of_mem hl, hb.changed⟩)
    · exact .inr (.inr (.inl ⟨hw, l.changed, List.mem_map_of_mem hl, by rwa [Listener.changed_task]⟩))
    · rw [hr] at h
      cases h
  · intro h
    change s.rpc.settled = true at h
    rw [hr] at h
    cases h

/-- The watch takes the value of the set, or keeps its own without a receiver. -/
theorem Inv.setWatch (inv : s.Inv acked) {ms : UInt16} (hr : s.rpc = .watching ms) :
    Inv { s.setWatch ms.toUInt32 with rpc := .telling ms } acked := by
  have hreq : s.requested acked = ms := by
    rw [requested, hr]
  cases hw : s.shotDelayWatch with
  | none =>
    have hopen := inv.openWatch hw
    rw [hreq] at hopen
    have hset : s.setWatch ms.toUInt32 = { s with shotDelayWatch := some ms.toUInt32 } := by
      rw [ShotDelays.setWatch, hw]
    rw [hset]
    exact hopen.advance hr (by simp) fun l hl hp => absurd hp (inv.not_watching_loop hw l hl)
  | some x =>
    have hset : s.setWatch ms.toUInt32 = s.send ms.toUInt32 := by
      rw [ShotDelays.setWatch, hw]
    rw [hset]
    by_cases hrec : s.hasReceiver = true
    · rw [send, if_pos hrec]
      refine (inv.sent hr).advance hr (by simp [ShotDelays.sent]) fun l hl hp => ?_
      obtain ⟨y, -, rfl⟩ := List.mem_map.mp hl
      rw [Listener.changed_task] at hp
      refine ⟨by rw [Listener.changed_task]; exact .inr hp, .inl ?_⟩
      exact Listener.changed_fresh (Listener.receiving_of_loop hp)
    · rw [send, if_neg hrec]
      exact inv.advance hr (by simp [hw]) fun l hl hp =>
        absurd (hasReceiver_of_mem hl (Listener.receiving_of_loop hp)) hrec

/-- The handlers other than the one that is told. -/
def others (s : ShotDelays) : Option HandlerId → List Listener
  | some k => s.handlers.eraseIdx k
  | none => s.handlers

/-- The handler `target` is there to take a message. -/
def takes (s : ShotDelays) (target : Option HandlerId) : Prop :=
  ∃ k l, target = some k ∧ s.handlers[k]? = some l ∧ l.task.InLoop

/-- The set is done: nobody has an older value to write, and what the watch lacks is pending. -/
theorem Inv.told (inv : s.Inv acked) {ms : UInt16} (hr : s.rpc = .telling ms) {hs : List Listener}
    (hwf : ∀ l ∈ hs, l.Wf s.uuid s.shotDelayWatch)
    (hends : ∀ l ∈ hs, EndsIn ms.toUInt32 (l.pending s.uuid))
    (hbusy : (∃ l ∈ s.handlers, l.Busy s.uuid) → ∃ l ∈ hs, l.Busy s.uuid)
    (hcov : s.shotDelayWatch = some ms.toUInt32 ∨ ∃ l ∈ hs, l.pending s.uuid ≠ []) :
    Inv { s with handlers := hs, rpc := .idle } (some ms) := by
  constructor
  · exact hwf
  · exact inv.subscribers
  · exact inv.narrow
  · intro hd
    have hset := (inv.seeded hd).2.2
    rw [hr] at hset
    cases hset
  · intro hw
    have ht := (inv.opened hw).2.2
    rw [hr] at ht
    cases ht
  · rintro cur ⟨⟩
  · exact fun _ => hends
  · have hreq : s.requested acked = ms := by
      rw [requested, hr]
    obtain h | h | ⟨h, -⟩ | ⟨-, h⟩ := inv.map
    · exact .inl (h.trans hreq)
    · exact .inr (.inl (hbusy h))
    · rw [hr] at h
      cases h
    · rw [hreq] at h
      obtain ⟨l, hl, hp⟩ := hcov.resolve_left h
      exact .inr (.inl ⟨l, hl, Listener.busy_of_pending hp⟩)
  · exact fun _ => .inr hcov

theorem Inv.tell (inv : s.Inv acked) {ms : UInt16} (hr : s.rpc = .telling ms) {target : Option HandlerId}
    (hothers : ∀ l ∈ s.others target, EndsIn ms.toUInt32 (l.pending s.uuid))
    (hcov : s.takes target ∨ s.shotDelayWatch = some ms.toUInt32 ∨ ∃ l ∈ s.handlers, l.pending s.uuid ≠ [])
    (h : s.tell target = some s') : s'.Inv (some ms) := by
  cases target with
  | none =>
    simp only [ShotDelays.tell, hr, Option.some.injEq] at h
    subst h
    have hcov' : s.shotDelayWatch = some ms.toUInt32 ∨ ∃ l ∈ s.handlers, l.pending s.uuid ≠ [] :=
      hcov.resolve_left (by rintro ⟨k, l, ⟨⟩, -⟩)
    exact inv.told hr inv.handlers hothers id hcov'
  | some k =>
    simp only [ShotDelays.tell, hr] at h
    obtain ⟨l, hk, rfl⟩ := Option.map_eq_some_iff.mp h
    have htaken : l.task.InLoop → (l.receive (.setShotDelay ms)).pending s.uuid ≠ [] := by
      intro hin
      rw [Listener.pending_receive_set hin]
      exact List.append_ne_nil_of_right_ne_nil _ (List.cons_ne_nil _ _)
    have hcov' : s.shotDelayWatch = some ms.toUInt32 ∨
        ∃ y ∈ s.handlers.set k (l.receive (.setShotDelay ms)), y.pending s.uuid ≠ [] := by
      obtain ⟨k', l', hk', hl', hin⟩ | h | h := hcov
      · cases hk'
        rw [hk] at hl'
        cases hl'
        exact .inr ⟨_, mem_set_self hk, htaken hin⟩
      · exact .inl h
      · exact .inr (exists_mem_set hk (fun hp => htaken (Listener.busy_of_pending hp).1) h)
    refine inv.told hr (forall_mem_set inv.handlers ((inv.wf hk).receive _))
      (forall_mem_set_of_eraseIdx hothers (Listener.endsIn_receive_set ms)) ?_ hcov'
    exact exists_mem_set hk fun hb => Listener.busy_of_pending (htaken hb.1)

/-- A subscriber is added once the channel holds `v`. -/
theorem Inv.subscribed (inv : s.Inv acked) {cur w : UInt32} (hr : s.rpc = .subscribing cur)
    (hw : s.shotDelayWatch = some w) {b : Subscriber} (hb : b.seen = w) :
    Inv { s with subscribers := s.subscribers ++ [b], rpc := .idle } acked := by
  have hset : s.rpc.settled = true := by
    rw [hr]
    rfl
  have hreq : s.requested acked = acked.getD (s.config.getD 0) := by
    rw [requested, hr]
  have hne : s.shotDelayWatch ≠ none := by simp [hw]
  constructor
  · exact inv.handlers
  · exact forall_mem_concat inv.subscribers fun _ => ⟨w, hw, .inr hb⟩
  · exact inv.narrow
  · exact fun h => ⟨(inv.seeded h).1, (inv.seeded h).2.1, rfl⟩
  · exact fun h => absurd h hne
  · rintro cur' ⟨⟩
  · intro _ l hl
    have hp := inv.pending hset l hl
    rwa [hreq] at hp
  · have hm := inv.map.of_settled hset
    rw [hreq] at hm
    exact hm.imp_right .inl
  · intro _
    have h := inv.watch hset
    rwa [hreq] at h

theorem Inv.subscribe (inv : s.Inv acked) (h : s.subscribe = some s') : s'.Inv acked := by
  cases hr : s.rpc with
  | subscribing cur =>
    simp only [ShotDelays.subscribe, hr, Option.some.injEq] at h
    subst h
    cases hw : s.shotDelayWatch with
    | some w =>
      have hsame : { s with shotDelayWatch := some w } = s := by rw [← hw]
      have hsub := inv.subscribed hr hw (b := ⟨true, true, false, w⟩) rfl
      rw [← hsame] at hsub
      exact hsub
    | none =>
      have hopen := inv.openWatch hw
      rw [← inv.reading cur hr hw] at hopen
      exact hopen.subscribed hr rfl rfl
  | idle | watching | telling => simp [ShotDelays.subscribe, hr] at h

theorem Inv.setSubscriber (inv : s.Inv acked) {i : Nat} {b : Subscriber} (hb : b.Wf s.shotDelayWatch) :
    Inv { s with subscribers := s.subscribers.set i b } acked where
  handlers := inv.handlers
  subscribers := forall_mem_set inv.subscribers hb
  narrow := inv.narrow
  seeded := inv.seeded
  opened := inv.opened
  reading := inv.reading
  pending := inv.pending
  map := inv.map
  watch := inv.watch

/-! ## Runs -/

/-- **What a run must not do.**  The value of a set reaches the watch, or is there
already.  The handler that is told is the only one with an older value to write,
and if none takes the message the watch has not lost the value.  A handler leaves
its loop only if the others still cover both tables. -/
def DeliversDelay (x : ShotDelays × Option UInt16) : ShotDelayEvent → Prop
  | .setWatch =>
    x.1.hasReceiver = true ∨ x.1.shotDelayWatch = none ∨
      x.1.shotDelayWatch = some (x.1.requested x.2).toUInt32
  | .tell target =>
    (∀ l ∈ x.1.others target, EndsIn (x.1.requested x.2).toUInt32 (l.pending x.1.uuid)) ∧
    (x.1.takes target ∨ x.1.shotDelayWatch = some (x.1.requested x.2).toUInt32 ∨
      ∃ l ∈ x.1.handlers, l.pending x.1.uuid ≠ [])
  | .handler k e =>
    ∀ l, x.1.handlers[k]? = some l → HandlerTask.Leaves l.task e →
      x.1.MapCovered (x.1.requested x.2) (x.1.handlers.eraseIdx k) ∧
      x.1.WatchCovered (x.1.requested x.2) (x.1.handlers.eraseIdx k)
  | _ => True

/-- What the invariant needs of a step: a value that misses the watch can still be told. -/
def Delivers (x : ShotDelays × Option UInt16) : ShotDelayEvent → Prop
  | .setWatch => True
  | e => DeliversDelay x e

theorem DeliversDelay.delivers {x : ShotDelays × Option UInt16} {e : ShotDelayEvent}
    (h : DeliversDelay x e) : Delivers x e := by
  cases e with
  | setWatch => trivial
  | _ => exact h

/-- **A step keeps the invariant**, the acknowledged value moving with it. -/
theorem Inv.step {e : ShotDelayEvent} (inv : s.Inv acked) (hok : Delivers (s, acked) e)
    (h : s.step e = some s') : s'.Inv (acknowledge s e s' acked) := by
  cases step_moves h with
  | spawn hu => exact inv.spawn hu
  | @message k m l hm hk =>
    refine inv.put hk ((inv.wf hk).same ?_ ?_ ?_ (HandlerTask.receive_shotWrites _) ?_)
    · simpa using (inv.wf hk).uuid
    · simp
    · simp [HandlerTask.shotDelay]
    · exact HandlerTask.receive_shotSets hm
  | @handler k e l s' hk hl => exact inv.handler hk (hok l hk) hl
  | set ms hr => exact inv.request_set _
  | reset hr => exact inv.request_set 0
  | ask hr => exact inv.request_subscribe hr
  | watch hr => exact inv.setWatch hr
  | tellNobody hr | tell hr =>
    simp only [Delivers, DeliversDelay, requested, hr] at hok
    simp only [acknowledge, hr]
    exact inv.tell hr hok.1 hok.2 h
  | subscribe hr hs => exact inv.subscribe hs
  | @forward i b v hb hv =>
    refine inv.setSubscriber ?_
    split
    · exact fun _ => ⟨v, hv, .inr rfl⟩
    · rintro ⟨⟩
  | @hangUp i b hb => exact inv.setSubscriber (inv.subscribers b (List.mem_of_getElem? hb))

theorem Inv.init (uuid : Uuid) (config : Option UInt16) : (init uuid config).Inv none where
  handlers l hl := by cases hl
  subscribers b hb := by cases hb
  narrow v hv := by cases hv
  seeded h := ⟨h, rfl, rfl⟩
  opened _ := ⟨by cases config <;> rfl, rfl, rfl⟩
  reading cur h := by cases h
  pending _ l hl := by cases hl
  map := .inl (by cases config <;> rfl)
  watch _ := .inl rfl

/-- No message and no change of the watch is in flight, and no RPC runs. -/
structure Quiescent (s : ShotDelays) : Prop where
  rpc : s.rpc = .idle
  handlers : ∀ l ∈ s.handlers, l.Quiet
  subscribers : ∀ b ∈ s.subscribers, b.running = true → b.fresh = false

/-- The copies of the delay are one value, and it is the last one acknowledged. -/
structure Agrees (s : ShotDelays) (acked : Option UInt16) : Prop where
  tables : ∀ v, s.shotDelayWatch = some v → s.getOrDefaultShotDelay.toUInt32 = v
  acknowledged : ∀ ms, acked = some ms →
    s.deviceShotDelay = some ms ∧ s.shotDelayWatch = some ms.toUInt32
  handlers : ∀ l ∈ s.handlers, l.task.phase = .loop → s.shotDelayWatch = some l.task.shotDelay
  subscribers : ∀ b ∈ s.subscribers, b.running = true → s.shotDelayWatch = some b.seen

section
variable (inv : s.Inv acked) (hr : s.rpc = .idle) (hq : ∀ l ∈ s.handlers, l.Quiet)
include inv hr hq

/-- With nothing left to the handlers the map holds the value asked for last. -/
theorem Inv.map_of_quiet : s.getOrDefaultShotDelay = s.requested acked := by
  refine (inv.map.of_settled (by rw [hr]; rfl)).resolve_right ?_
  rintro ⟨l, hl, hb⟩
  exact (hq l hl).not_busy hb

/-- And so does the watch, if it is open. -/
theorem Inv.watch_of_quiet (hne : s.shotDelayWatch ≠ none) :
    s.shotDelayWatch = some (s.requested acked).toUInt32 := by
  obtain h | h | ⟨l, hl, hp⟩ := inv.watch (by rw [hr]; rfl)
  · exact absurd h hne
  · exact h
  · exact absurd (hq l hl).pending hp

theorem Inv.acknowledged {ms : UInt16} (hms : acked = some ms) :
    s.deviceShotDelay = some ms ∧ s.shotDelayWatch = some ms.toUInt32 := by
  have hreq : s.requested acked = ms := by
    rw [requested, hr, hms]
    rfl
  have hmap := inv.map_of_quiet hr hq
  have hwatch := inv.watch_of_quiet hr hq fun hw => by
    have hnone := (inv.opened hw).2.1
    rw [hms] at hnone
    cases hnone
  rw [hreq] at hmap hwatch
  refine ⟨?_, hwatch⟩
  cases hd : s.deviceShotDelay with
  | none =>
    have hnone := (inv.seeded hd).2.1
    rw [hms] at hnone
    cases hnone
  | some d =>
    rw [getOrDefaultShotDelay, hd] at hmap
    rw [← hmap]

end

theorem Inv.agrees (inv : s.Inv acked) (hq : s.Quiescent) : s.Agrees acked := by
  constructor
  · intro v hv
    have hw := inv.watch_of_quiet hq.rpc hq.handlers (by simp [hv])
    rw [hv] at hw
    rw [inv.map_of_quiet hq.rpc hq.handlers, Option.some.inj hw]
  · exact fun ms hms => inv.acknowledged hq.rpc hq.handlers hms
  · intro l hl hp
    refine ((inv.handlers l hl).current hp).resolve_left ?_
    obtain hf | ⟨-, -, -, hf⟩ := hq.handlers l hl
    · rw [hp] at hf
      cases hf
    · simp [hf]
  · intro b hb hrun
    obtain ⟨v, hv, hf | hs⟩ := inv.subscribers b hb hrun
    · rw [hq.subscribers b hb hrun] at hf
      cases hf
    · rw [hv, hs]

/-- The state agrees with the acknowledged value whenever it is quiescent. -/
def AgreesWhenQuiescent (x : ShotDelays × Option UInt16) : Prop := x.1.Quiescent → x.1.Agrees x.2

/-- **Agreement.**  In a run that delivers every value it sets, the map, the watch and
everybody who reads it agree in every quiescent state, on the last value that was
acknowledged. -/
theorem agrees_of_deliversDelay {uuid : Uuid} {config : Option UInt16}
    {tr : List (ShotDelayEvent × (ShotDelays × Option UInt16))}
    (hrun : Exec (ghost Step acknowledge) (init uuid config, none) tr)
    (hok : StepsOk DeliversDelay (init uuid config, none) tr) :
    Always AgreesWhenQuiescent (init uuid config, none) tr := by
  have hstep : ∀ (x : ShotDelays × Option UInt16) e y, x.1.Inv x.2 → DeliversDelay x e →
      ghost Step acknowledge x e y → y.1.Inv y.2 := by
    rintro x e y inv hk ⟨hs, hacked⟩
    rw [hacked]
    exact inv.step hk.delivers hs
  exact (hrun.always hstep (Inv.init uuid config) hok).imp fun x inv hq => inv.agrees hq

/-! ## Two runs -/

instance : DecidablePred Listener.Quiet := fun l =>
  decidable_of_iff
    (l.task.phase = .finished ∨
      (l.task.InLoop ∧ l.task.todo.isEmpty = true ∧ l.task.queue.isEmpty = true ∧ l.fresh = false))
    (by simp [Listener.Quiet])

instance (s : ShotDelays) : Decidable s.Quiescent :=
  decidable_of_iff
    (s.rpc = .idle ∧ (∀ l ∈ s.handlers, l.Quiet) ∧ ∀ b ∈ s.subscribers, b.running = true → b.fresh = false)
    ⟨fun h => ⟨h.1, h.2.1, h.2.2⟩, fun h => ⟨h.rpc, h.handlers, h.subscribers⟩⟩

/-- The run on a list of events, with the acknowledged value. -/
def run (uuid : Uuid) (config : Option UInt16) (es : List ShotDelayEvent) :
    List (ShotDelayEvent × (ShotDelays × Option UInt16)) :=
  trace (ghostStep step acknowledge) (init uuid config, none) es

theorem exec_run (uuid : Uuid) (config : Option UInt16) (es : List ShotDelayEvent) :
    Exec (ghost Step acknowledge) (init uuid config, none) (run uuid config es) :=
  exec_ghostStep (fun _ _ _ h => h) acknowledge (init uuid config, none) es

def sampleDevice : MuxProbe :=
  { uuid := Uuid.of 1 2 3 4 5 6, version := Version.of 1 0 0, eventsVersion := Version.of 0 1 1
    productId := 0x5210, name := "gun", device := ⟨.mux, 0⟩ }

/-- A whole `set_shot_delay`. -/
def setEvents (ms : UInt32) (target : Option HandlerId) : List ShotDelayEvent :=
  [.request (.set ms), .setWatch, .tell target]

/-- A handler starts and its stream yields what the watch holds. -/
def startEvents (v : UInt32) : List ShotDelayEvent :=
  [.spawn (muxHandler sampleDevice 0 0), .handler 0 (.start v {}), .handler 0 (.arm (.shotDelay v) {}),
    .handler 0 .perform]

/-- Two sets while the device is offline: the first creates the watch, the second does
not reach it.  The handler that then starts overwrites the second in the map. -/
def offlineSets : List ShotDelayEvent :=
  (setEvents 5 none).append <| (setEvents 7 none).append <| startEvents 5

/-- The delay acknowledged last is lost from both tables. -/
theorem offlineSets_lose_delay :
    Exec (ghost Step acknowledge) (init sampleDevice.uuid none, none)
      (run sampleDevice.uuid none offlineSets) ∧
    (last (init sampleDevice.uuid none, none) (run sampleDevice.uuid none offlineSets)).2 = some 7 ∧
    (last (init sampleDevice.uuid none, none) (run sampleDevice.uuid none offlineSets)).1.deviceShotDelay
      = some 5 ∧
    ¬ Always AgreesWhenQuiescent (init sampleDevice.uuid none, none)
        (run sampleDevice.uuid none offlineSets) := by
  refine ⟨exec_run _ _ _, by decide +kernel, by decide +kernel, fun h => ?_⟩
  have hlast := h.last
  have hd : (last (init sampleDevice.uuid none, none)
      (run sampleDevice.uuid none offlineSets)).1.deviceShotDelay = some 5 := by decide +kernel
  have h7 := ((hlast (by decide +kernel)).acknowledged 7 (by decide +kernel)).1
  rw [hd] at h7
  cases h7

/-- A set while the device is offline, a subscriber, the start of the handler, a set it
takes, and its end. -/
def onlineSet : List ShotDelayEvent :=
  (setEvents 5 none).append <| List.append [.request .subscribe, .subscribe] <|
    (startEvents 5).append <| (setEvents 7 (some 0)).append
      [.forward 0, .handler 0 (.recv {}), .handler 0 .perform, .handler 0 .perform, .forward 0,
        .handler 0 (.arm (.shotDelay 7) {}), .handler 0 .perform, .handler 0 .closed, .handler 0 .exit]

theorem agrees_of_deliversDelay_onlineSet :
    (last (init sampleDevice.uuid (some 3), none) (run sampleDevice.uuid (some 3) onlineSet)).1.Agrees
      (some 7) := by
  have hacked : (last (init sampleDevice.uuid (some 3), none)
      (run sampleDevice.uuid (some 3) onlineSet)).2 = some 7 := by decide +kernel
  have hall := agrees_of_deliversDelay (exec_run sampleDevice.uuid (some 3) onlineSet)
    ⟨trivial, .inr (.inl rfl), ⟨by rintro l ⟨⟩, .inr (.inl rfl)⟩, trivial, trivial, trivial,
      fun _ _ hl => hl.elim, fun _ _ hl => hl.elim, fun _ _ hl => hl.elim, trivial,
      -- the second set: the handler and the subscriber receive it, and the handler is told
      .inl rfl, ⟨by rintro l ⟨⟩, .inl ⟨0, _, rfl, rfl, .inr rfl⟩⟩, trivial,
      (by
        rintro l ⟨⟩ ⟨m, ⟨⟩, hd⟩
        obtain ⟨⟨⟩, -⟩ | ⟨⟨⟩, -⟩ | ⟨⟨u, ⟨⟩⟩, -⟩ := hd),
      fun _ _ hl => hl.elim, fun _ _ hl => hl.elim, trivial, fun _ _ hl => hl.elim,
      fun _ _ hl => hl.elim,
      -- it leaves its loop with both tables at the value
      fun _ _ _ => ⟨.inl rfl, fun _ => .inr (.inl rfl)⟩, fun _ _ hl => hl.elim, trivial⟩
  rw [← hacked]
  exact hall.last (by decide +kernel)

end ShotDelays

end OdysseyHub
