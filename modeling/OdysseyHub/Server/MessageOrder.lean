import OdysseyHub.Server.MessageChannel

/-!
# The messages about one handler

The creator of a handler sends its `Connect`, the handler its updates and, behind its
loop, its `Disconnect`.  A hub manager sends the `Connect` under the lock under which
it has entered the handler; the scan lets the lock go first, and meanwhile a hub
manager can find the handler in the table and send to it.

`MessageLog` is what has entered the channel, with the handler each message is about.
**Ordered.core**: as long as a handler does not take such a message before its
`Connect` is sent, and no hub manager is aborted in between, its messages are the
`Connect`, then updates, then one `Disconnect`.
-/

namespace OdysseyHub

open HandlerTask Slots Transition
open Handler (Concerns)

/-- What has been sent about handlers, in order. -/
abbrev MessageLog := List (HandlerId × Message)

namespace MessageLog

/-- The messages about one handler. -/
def said (log : MessageLog) (h : HandlerId) : List Message := (log.filter (·.1 == h)).map (·.2)

/-- The log after an operation that comes with `ms`. -/
def told (log : MessageLog) (op : Op) (ms : List Message) : MessageLog :=
  match op.author with
  | some h => log ++ ms.map (h, ·)
  | none => log

variable {log : MessageLog} {op : Op} {ms : List Message} {h : HandlerId}

theorem said_append (log log' : MessageLog) (h : HandlerId) :
    said (log ++ log') h = log.said h ++ log'.said h := by
  unfold said
  rw [List.filter_append, List.map_append]

theorem said_map_self (ms : List Message) (h : HandlerId) : said (ms.map (h, ·)) h = ms := by
  induction ms with
  | nil => rfl
  | cons m ms ih => simpa [said] using ih

theorem said_map_of_ne (ms : List Message) {h k : HandlerId} (hne : k ≠ h) :
    said (ms.map (k, ·)) h = [] := by
  induction ms with
  | nil => rfl
  | cons m ms ih => simp [said, hne]

theorem said_told_author (ha : op.author = some h) : (log.told op ms).said h = log.said h ++ ms := by
  unfold told
  rw [ha]
  show said (log ++ ms.map (h, ·)) h = _
  rw [said_append, said_map_self]

theorem said_told_other (ha : op.author ≠ some h) : (log.told op ms).said h = log.said h := by
  unfold told
  split
  · next k hk =>
    have hne : k ≠ h := fun he => ha (he ▸ hk)
    rw [said_append, said_map_of_ne ms hne, List.append_nil]
  · rfl

/-- An operation that says nothing about the handler. -/
theorem said_told_nil (ha : op.author = some h → ms = []) : (log.told op ms).said h = log.said h := by
  by_cases hop : op.author = some h
  · rw [said_told_author hop, ha hop, List.append_nil]
  · exact said_told_other hop

end MessageLog

/-! ## The order -/

def Message.isUpdate : Message → Bool
  | .updateDevice _ | .updateName .. => true
  | _ => false

/-- The `Connect` of the handler, then updates. -/
def Opened (h : HandlerId) (ms : List Message) : Prop :=
  ∃ d us, ms = .connect d (some h) :: us ∧ ∀ m ∈ us, m.isUpdate = true

/-- … and one `Disconnect`. -/
def Closed (h : HandlerId) (ms : List Message) : Prop :=
  ∃ us d, Opened h us ∧ ms = us ++ [.disconnect d]

/-- Every handler's messages are `Connect`, updates and `Disconnect`, as far as it has come. -/
def MessagesInOrder (log : MessageLog) : Prop :=
  ∀ h, log.said h = [] ∨ Opened h (log.said h) ∨ Closed h (log.said h)

theorem Opened.update {h : HandlerId} {ms : List Message} (ho : Opened h ms) {m : Message}
    (hm : m.isUpdate = true) : Opened h (ms ++ [m]) := by
  obtain ⟨d, us, rfl, hus⟩ := ho
  exact ⟨d, us ++ [m], rfl, forall_mem_concat hus hm⟩

theorem isUpdate_of_concerns {u : Uuid} {m : Message} (hc : Concerns u (.message m)) :
    m.isUpdate = true := by
  cases m with
  | updateDevice d => rfl
  | updateName v name => rfl
  | _ => exact hc.elim

namespace Registry

/-- The handler `h` runs as `t`, and its `Connect` is sent. -/
structure Speaks (R : Registry) (h : HandlerId) (t : HandlerTask) : Prop where
  task : R.tasks[h]? = some t
  running : t.Running
  announced : ∀ c, (R.stage c).unannounced ≠ some h

/-- No handler takes a message that has it publish its device while its `Connect` is
still to send, and no hub manager is aborted there. -/
def KeepsOrder (R : Registry) : Op → Prop
  | .work h (.recv _) =>
    ∀ c t, (R.stage c).unannounced = some h → R.tasks[h]? = some t → t.Redundant
  | .abort m => (R.stage (.manager m)).unannounced = none
  | _ => True

/-- What has been said about each handler, from where it is in its life. -/
structure Ordered (R : Registry) (log : MessageLog) : Prop where
  unknown : ∀ {h}, R.tasks.length ≤ h → log.said h = []
  secluded : ∀ {c h}, (R.stage c).unannounced = some h →
    log.said h = [] ∧ ∀ t, R.tasks[h]? = some t → t.Silent
  speaking : ∀ {h t}, R.Speaks h t → Opened h (log.said h)
  finished : ∀ {h : HandlerId} {t : HandlerTask}, R.tasks[h]? = some t → ¬ t.Running →
    t.todo = [] ∧ Closed h (log.said h)

variable {R R' : Registry} {op : Op} {ms : List Message} {log : MessageLog}

theorem Ordered.inOrder (O : R.Ordered log) : MessagesInOrder log := by
  intro h
  by_cases hlt : h < R.tasks.length
  · have ht : R.tasks[h]? = some R.tasks[h] := List.getElem?_eq_getElem hlt
    by_cases hr : (R.tasks[h]).Running
    · by_cases hun : ∃ c, (R.stage c).unannounced = some h
      · obtain ⟨c, hc⟩ := hun
        exact .inl (O.secluded hc).1
      · exact .inr (.inl (O.speaking ⟨ht, hr, fun c hc => hun ⟨c, hc⟩⟩))
    · exact .inr (.inr (O.finished ht hr).2)
  · exact .inl (O.unknown (Nat.le_of_not_lt hlt))

/-! ## The steps -/

theorem Core.author_lt (I : R.Inv) (hs : Core R op R') {h : HandlerId} (ha : op.author = some h) :
    h < R.tasks.length := by
  cases hs with
  | announce hc =>
    cases ha
    exact I.own_lt (by rw [hc]; rfl)
  | work ht => cases ha; exact (List.getElem?_eq_some_iff.mp ht).1
  | forget ht => cases ha; exact (List.getElem?_eq_some_iff.mp ht).1
  | exit x ht => cases ha; exact (List.getElem?_eq_some_iff.mp ht).1
  | _ => cases ha

theorem Core.exit_task (hs : Core R (.work h .exit) R') :
    ∃ t t', R.tasks[h]? = some t ∧ t.next .exit = some t' ∧ R'.tasks[h]? = some t' := by
  cases hs with
  | work ht hn hx => exact absurd rfl hx
  | @exit _ t t' x ht hn =>
    refine ⟨t, t', ht, hn, ?_⟩
    exact (setTask_tasks_some (R := R) ht).mpr (.inl ⟨rfl, rfl⟩)

theorem Core.announces_task (I : R.Inv) {c : Creator} {h : HandlerId} {t' : HandlerTask}
    (hs : Core R (.announce c h) R') (ht : R'.tasks[h]? = some t') :
    R.stage c = .announcing h t'.uuid := by
  cases hs with
  | announce hc =>
    obtain ⟨t, ht₀, hu⟩ := I.own (c := c) (h := h) (by rw [hc]; rfl)
    obtain rfl : t = t' := Option.some.inj (ht₀.symm.trans ht)
    rw [hc] at hu ⊢
    cases hu
    rfl

/-- A handler that speaks after a step has spoken before, or its `Connect` is sent now. -/
theorem Speaks.core (I : R.Inv) (ok : R.KeepsOrder op) (hs : Core R op R') {h : HandlerId}
    {t' : HandlerTask} (sp : R'.Speaks h t') :
    (∃ t, R.Speaks h t ∧ Moved op h t t') ∨
      ∃ c, op = .announce c h ∧ R.stage c = .announcing h t'.uuid := by
  obtain ⟨t, ht, hm⟩ | ⟨c, rfl, rfl⟩ := hs.moved sp.task
  · by_cases hun : ∃ c, (R.stage c).unannounced = some h
    · obtain ⟨c, hc⟩ := hun
      obtain hc' | hop | ⟨m, rfl, rfl⟩ := hs.unannounced hc
      · exact absurd hc' (sp.announced c)
      · subst hop
        exact .inr ⟨c, rfl, hs.announces_task I sp.task⟩
      · rw [show (R.stage (.manager m)).unannounced = none from ok] at hc
        cases hc
    · exact .inl ⟨t, ⟨ht, hm.before.running sp.running, fun c hc => hun ⟨c, hc⟩⟩, hm⟩
  · cases hs with
    | spawn hc => exact absurd (by rw [setStage_self]; rfl) (sp.announced c)

section
variable (I : R.Inv) (O : R.Ordered log) (ok : R.KeepsOrder op) (hs : Core R op R') (hm : Mail R op ms)
include I O ok hs hm

theorem Ordered.secluded_core {c : Creator} {h : HandlerId} (hc' : (R'.stage c).unannounced = some h) :
    (log.told op ms).said h = [] ∧ ∀ t', R'.tasks[h]? = some t' → t'.Silent := by
  obtain hc | ⟨t, rfl, rfl⟩ := hs.unannounced_of hc'
  · obtain ⟨hsaid, hsilent⟩ := O.secluded hc
    have hlt := I.own_lt (Stage.handler_of_unannounced hc)
    refine ⟨?_, fun t' ht' => ?_⟩
    · rw [MessageLog.said_told_nil (fun ha => ?_), hsaid]
      cases hm with
      | connect => cases ha; exact absurd hc' (hs.announces I)
      | publish ht hhd => cases ha; exact absurd (List.mem_of_head? hhd) (hsilent _ ht _)
      | exit =>
        cases ha
        obtain ⟨t, t', ht, hn, -⟩ := hs.exit_task
        exact absurd (I.secluded hc ht).inLoop (not_inLoop_of_left (next_exit_left hn).1)
      | perform => rfl
      | silent => rfl
      | _ => cases ha
    · obtain ⟨t, ht, hmv⟩ | ⟨c', -, hk⟩ := hs.moved ht'
      · cases hmv with
        | same => exact hsilent _ ht
        | received hop =>
          intro m hm'
          rw [receive_todo] at hm'
          exact hsilent _ ht m hm'
        | worked hop hn =>
          refine (hsilent _ ht).next hn fun a he => ?_
          subst hop he
          exact ok c _ hc ht
      · exact absurd hk (Nat.ne_of_lt hlt)
  · refine ⟨?_, fun t' ht' => ?_⟩
    · rw [MessageLog.said_told_other (by simp [Op.author]), O.unknown (Nat.le_refl _)]
    · obtain ⟨t₀, ht₀, -⟩ | ⟨c', hop, -⟩ := hs.moved ht'
      · exact absurd (List.getElem?_eq_some_iff.mp ht₀).1 (Nat.lt_irrefl _)
      · cases hop
        cases hm with
        | silent htd =>
          intro m hm'
          change _ ∈ t.todo at hm'
          rw [show t.todo = [] from htd] at hm'
          cases hm'

theorem Ordered.speaking_core {h : HandlerId} {t' : HandlerTask} (sp' : R'.Speaks h t') :
    Opened h ((log.told op ms).said h) := by
  obtain ⟨t, sp, hmv⟩ | ⟨c, rfl, -⟩ := sp'.core I ok hs
  · have ho := O.speaking sp
    by_cases ha : op.author = some h
    · rw [MessageLog.said_told_author ha]
      cases hm with
      | connect hc =>
        cases ha
        exact absurd (by rw [hc]; rfl) (sp.announced _)
      | publish ht hhd =>
        cases ha
        exact ho.update (isUpdate_of_concerns ((I.wellFormed ht).todo _ (List.mem_of_head? hhd)))
      | exit =>
        cases ha
        obtain ⟨t₀, t₁, -, hn, ht₁⟩ := hs.exit_task
        rw [sp'.task] at ht₁
        cases ht₁
        exact absurd (next_exit hn) sp'.running
      | perform => rwa [List.append_nil]
      | silent => rwa [List.append_nil]
      | _ => cases ha
    · rwa [MessageLog.said_told_other ha]
  · cases hm with
    | silent hsil => exact hsil.elim
    | connect hc =>
      rw [MessageLog.said_told_author rfl, (O.secluded (c := c) (by rw [hc]; rfl)).1]
      exact ⟨_, [], rfl, by simp⟩

/-- A task that has ended has nothing more to say. -/
theorem Ordered.finished_core {h : HandlerId} {t' : HandlerTask} (ht' : R'.tasks[h]? = some t')
    (hf : ¬ t'.Running) : t'.todo = [] ∧ Closed h ((log.told op ms).said h) := by
  obtain ⟨t, ht, hmv⟩ | ⟨c, rfl, -⟩ := hs.moved ht'
  · have running_of : ∀ {c}, (R.stage c).unannounced = some h → t.Running := fun hc =>
      (I.secluded hc ht).inLoop.running
    by_cases hr : t.Running
    · -- it ends now
      have hop : op = .work h .exit := hmv.exits hr hf
      subst hop
      obtain ⟨t₀, t₁, ht₀, hn, ht₁⟩ := hs.exit_task
      rw [ht] at ht₀
      rw [ht'] at ht₁
      cases ht₀
      cases ht₁
      have hleft := next_exit_left hn
      have sp : R.Speaks h t := ⟨ht, hr, fun c hc =>
        not_inLoop_of_left hleft.1 (I.secluded hc ht).inLoop⟩
      refine ⟨hleft.2.2, ?_⟩
      rw [MessageLog.said_told_author rfl]
      cases hm with
      | exit => exact ⟨_, _, O.speaking sp, rfl⟩
      | silent hsil => exact absurd rfl hsil.2
    · obtain ⟨htd, hcl⟩ := O.finished ht hr
      have hnone : ∀ {e : HandlerEvent} {t₁ : HandlerTask}, t.next e ≠ some t₁ := fun hn => by
        rw [next_of_finished (not_not.mp hr) htd] at hn
        cases hn
      refine ⟨?_, ?_⟩
      · cases hmv with
        | same => exact htd
        | received hop => rwa [receive_todo]
        | worked hop hn => exact absurd hn hnone
      rwa [MessageLog.said_told_nil fun ha => ?_]
      cases hm with
      | connect hc =>
        cases ha
        exact absurd (running_of (by rw [hc]; rfl)) hr
      | publish ht₀ hhd =>
        cases ha
        rw [ht] at ht₀
        cases ht₀
        rw [htd] at hhd
        cases hhd
      | exit =>
        cases ha
        obtain ⟨t₀, t₁, ht₀, hn, -⟩ := hs.exit_task
        rw [ht] at ht₀
        cases ht₀
        exact absurd hn hnone
      | perform => rfl
      | silent => rfl
      | _ => cases ha
  · cases hs with
    | spawn hc hu hfr => exact absurd (InLoop.running (.inl hfr.phase)) hf

/-- **What has been said stays in order.** -/
theorem Ordered.core : R'.Ordered (log.told op ms) where
  unknown {h} hle := by
    have hle' : R.tasks.length ≤ h := Nat.le_trans hs.length_le hle
    rw [MessageLog.said_told_other fun ha => absurd (hs.author_lt I ha) (Nat.not_lt.mpr hle')]
    exact O.unknown hle'
  secluded := O.secluded_core I ok hs hm
  speaking := O.speaking_core I ok hs hm
  finished := O.finished_core I ok hs hm

end

theorem Quiet.speaks (q : Quiet R R') {h : HandlerId} {t : HandlerTask} :
    R'.Speaks h t ↔ R.Speaks h t := by
  constructor
  · intro sp
    exact ⟨q.tasks ▸ sp.task, sp.running, fun c => q.stage ▸ sp.announced c⟩
  · intro sp
    exact ⟨q.tasks ▸ sp.task, sp.running, fun c => q.stage ▸ sp.announced c⟩

theorem Quiet.ordered (q : Quiet R R') (O : R.Ordered log) : R'.Ordered log where
  unknown hle := O.unknown (q.tasks ▸ hle)
  secluded hc := by
    rw [q.stage] at hc
    rw [q.tasks]
    exact O.secluded hc
  speaking sp := O.speaking (q.speaks.mp sp)
  finished ht := O.finished (q.tasks ▸ ht)

end Registry

namespace Sys

open Registry

/-- The log after a step: what it appends to the channel, under the handler it is about. -/
def record (s : Sys) (e : Event) (s' : Sys) (log : MessageLog) : MessageLog :=
  log.told (s.op e) (s'.messageChannel.drop s.messageChannel.length)

variable {s s' : Sys} {log : MessageLog}

theorem Sends.record {ms : List Message} (h : Sends s ms s') (e : Event) :
    record s e s' log = log.told (s.op e) ms := by
  unfold Sys.record
  rw [h.channel, List.drop_left]

/-- The step as the log and the list to come see it. -/
theorem recorded (log : MessageLog) {e : Event} (h : s.Step e s') : ∃ ms, Mail s.registry (s.op e) ms ∧
    record s e s' log = log.told (s.op e) ms ∧
    (s'.drained = ms.foldl DeviceList.forward s.drained ∨
      ∃ u name, e = .rename u name ∧ s' = s.rename u name) := by
  obtain ⟨ms, hm, hs⟩ | ⟨rfl, hd⟩ | ⟨u, name, rfl, rfl⟩ := mail h
  · exact ⟨ms, hm, hs.record e, .inl hs.drained⟩
  · exact ⟨[], .silent trivial, rfl, .inl hd⟩
  · exact ⟨[], .silent trivial, rfl, .inr ⟨u, name, rfl, rfl⟩⟩

theorem ordered_step (I : s.Inv) (O : s.registry.Ordered log) {e : Event}
    (ok : s.registry.KeepsOrder (s.op e)) (h : s.Step e s') :
    s'.registry.Ordered (record s e s' log) := by
  obtain ⟨ms, hm, hrec, -⟩ := recorded log h
  obtain ⟨R₁, hs, q⟩ := (I.simulates h).2.2
  rw [hrec]
  exact q.ordered (O.core I.registry ok hs hm)

theorem ordered_init : Sys.init.registry.Ordered [] where
  unknown _ := rfl
  secluded {c} _ hc := by cases c <;> cases hc
  speaking sp := by cases sp.task
  finished ht := by cases ht

end Sys

end OdysseyHub
