import OdysseyHub.Server.MessageOrder

/-!
# The metadata in the device list

What a handler has `published` is the device of its last `UpdateDevice`, or the one
its `Connect` came with, under the name of its last `UpdateName`.  The list, once the
queued messages are forwarded, has it under the UUID as long as the messages are in
order and nobody else speaks for the UUID (`Agreed.core`).

**Sys.messagesInOrder_of_keepsOrder** puts the two together.  `overtaken` is a run
in which a hub manager reaches the handler of the scan before its `Connect`.
-/

namespace OdysseyHub

open HandlerTask Transition
open Handler (Concerns)

/-- The published device after one more message.  A `Connect` behind an update is the
creator's, and older. -/
def publishedAfter (p : Option Device) : Message → Option Device
  | .connect d _ => p.or (some d)
  | .updateDevice d => some d
  | .updateName _ name => p.map (·.setName name)
  | .disconnect _ => none
  | .dongleConnect .. | .dongleUpdate _ | .dongleDisconnect _ => p

/-- The latest device a handler has published, by its messages. -/
def published (ms : List Message) : Option Device := ms.foldl publishedAfter none

theorem published_concat (ms : List Message) (m : Message) :
    published (ms ++ [m]) = publishedAfter (published ms) m := by
  unfold published
  rw [List.foldl_append]
  rfl

theorem Closed.published {h : HandlerId} {ms : List Message} (hc : Closed h ms) : published ms = none := by
  obtain ⟨us, d, -, rfl⟩ := hc
  rw [published_concat]
  rfl

namespace DeviceList

variable {l : DeviceList} {u v : Uuid}

/-- An update of one device leaves the others alone. -/
theorem deviceForUuid_forward_of_concerns {m : Message} (hc : Concerns v (.message m)) (hne : u ≠ v) :
    (l.forward m).deviceForUuid u = l.deviceForUuid u := by
  cases m with
  | updateDevice d =>
    have hd : d.uuid = v := hc
    rw [deviceForUuid_updateDevice, if_neg (hd ▸ hne)]
  | updateName w name =>
    have hw : w = v := hc
    rw [deviceForUuid_updateName, if_neg (hw ▸ hne)]
  | _ => exact hc.elim

/-- An update changes the list as it changes what is published. -/
theorem deviceForUuid_forward_update {m : Message} {d : Device} (hc : Concerns u (.message m))
    (hd : d.uuid = u) (hl : l.deviceForUuid u = some d) :
    ∃ d', publishedAfter (some d) m = some d' ∧ d'.uuid = u ∧ (l.forward m).deviceForUuid u = some d' := by
  cases m with
  | updateDevice d' =>
    have hu : d'.uuid = u := hc
    refine ⟨d', rfl, hu, ?_⟩
    rw [deviceForUuid_updateDevice, if_pos hu.symm, hu, hl]
    rfl
  | updateName w name =>
    obtain rfl : w = u := hc
    refine ⟨d.setName name, rfl, (d.setName_uuid name).trans hd, ?_⟩
    rw [deviceForUuid_updateName, if_pos rfl, hl, Option.map_some]
  | _ => exact hc.elim

/-! ## Renaming an entry -/

/-- The entry of the UUID may have the new name. -/
def Renamed (u : Uuid) (name : String) (e e' : Device × Option HandlerId) : Prop :=
  e'.2 = e.2 ∧ (e'.1 = e.1 ∨ e.1.uuid = u ∧ e'.1 = e.1.setName name)

theorem renamed_kept (u : Uuid) (name : String) : Kept (Renamed u name) where
  refl _ := ⟨rfl, .inl rfl⟩
  uuid h := by
    obtain ⟨-, h | ⟨-, h⟩⟩ := h
    · rw [h]
    · rw [h, Device.setName_uuid]
  device h _ := ⟨h.1, .inl rfl⟩
  name h name' := by
    obtain ⟨h₁, h | ⟨-, h⟩⟩ := h
    · exact ⟨h₁, .inl (by rw [h])⟩
    · exact ⟨h₁, .inl (by rw [h, Device.setName_setName])⟩

theorem renamed_update (l : DeviceList) (u : Uuid) (name : String) :
    List.Forall₂ (Renamed u name) l (l.update u fun e => (e.1.setName name, e.2)) := by
  induction l with
  | nil => exact .nil
  | cons e l ih =>
    unfold update
    split
    · next h => exact .cons ⟨rfl, .inr ⟨h, rfl⟩⟩ (List.forall₂_same.mpr fun _ _ => ⟨rfl, .inl rfl⟩)
    · exact .cons ⟨rfl, .inl rfl⟩ ih

/-- A name that the list has already changes nothing. -/
theorem deviceForUuid_renamed {l' : DeviceList} {name : String} (h : List.Forall₂ (Renamed u name) l l')
    (hn : ∀ d, l.deviceForUuid u = some d → d.setName name = d) (v : Uuid) :
    l'.deviceForUuid v = l.deviceForUuid v := by
  unfold deviceForUuid at *
  generalize hx : (l.find? fun e => e.1.uuid == v) = x
  generalize hx' : (l'.find? fun e => e.1.uuid == v) = x'
  have hr := (renamed_kept u name).find h v
  rw [hx, hx'] at hr
  cases hr with
  | none => rfl
  | @some e e' he =>
    obtain ⟨-, hd | ⟨hu, hd⟩⟩ := he
    · exact congrArg some hd
    · have huv : e.1.uuid = v := by simpa using List.find?_some hx
      obtain rfl : v = u := huv.symm.trans hu
      exact congrArg some (hd.trans (hn e.1 (by rw [hx]; rfl)))

end DeviceList

namespace Registry

/-- No handler of the UUID runs that is announced. -/
def NobodySpeaks (R : Registry) (u : Uuid) : Prop := ∀ h t, R.Speaks h t → t.uuid ≠ u

/-- A `Connect`, and a message that no handler sends, is for a UUID nobody speaks for. -/
def SpeaksAlone (R : Registry) : Op → Prop
  | .announce c h => ∀ u, R.stage c = .announcing h u → R.NobodySpeaks u
  | .surface u | .retire u => R.NobodySpeaks u
  | _ => True

/-- One handler speaks for a UUID, and the list `l` has what it has published. -/
structure Agreed (R : Registry) (l : DeviceList) (log : MessageLog) : Prop where
  alone : ∀ {h k t t'}, R.Speaks h t → R.Speaks k t' → t.uuid = t'.uuid → h = k
  current : ∀ {h t}, R.Speaks h t → ∃ d, published (log.said h) = some d ∧ d.uuid = t.uuid ∧
    l.deviceForUuid t.uuid = some d

variable {R R' : Registry} {op : Op} {ms : List Message} {log : MessageLog} {l : DeviceList}

/-- A handler with something to say has sent its `Connect`. -/
theorem Ordered.speaks_of_todo (O : R.Ordered log) {h : HandlerId} {t : HandlerTask} {m : Message}
    (ht : R.tasks[h]? = some t) (hm : Effect.message m ∈ t.todo) : R.Speaks h t where
  task := ht
  running hf := by
    rw [(O.finished ht (not_not.mpr hf)).1] at hm
    cases hm
  announced _ hc := (O.secluded hc).2 t ht m hm

/-- A handler that has left its loop has sent its `Connect`. -/
theorem Inv.speaks_of_left (I : R.Inv) {h : HandlerId} {t : HandlerTask} (ht : R.tasks[h]? = some t)
    (hp : t.phase = .left) : R.Speaks h t where
  task := ht
  running := by simp [Running, hp]
  announced _ hc := not_inLoop_of_left hp (I.secluded hc ht).inLoop

section
variable (I : R.Inv) (O : R.Ordered log) (A : R.Agreed l log) (ok : R.KeepsOrder op)
  (alone : R.SpeaksAlone op) (hs : Core R op R') (hm : Mail R op ms)
include I A ok alone hs

theorem Agreed.alone_core {h k : HandlerId} {t t' : HandlerTask} (sp : R'.Speaks h t)
    (sp' : R'.Speaks k t') (hu : t.uuid = t'.uuid) : h = k := by
  obtain ⟨a, spa, ha⟩ | ⟨c, hop, hc⟩ := sp.core I ok hs <;>
    obtain ⟨a', spa', ha'⟩ | ⟨c', hop', hc'⟩ := sp'.core I ok hs
  · exact A.alone spa spa' (ha.before.uuid.symm.trans (hu.trans ha'.before.uuid))
  · subst hop'
    exact absurd (ha.before.uuid.symm.trans hu) (alone _ hc' h a spa)
  · subst hop
    exact absurd (ha'.before.uuid.symm.trans hu.symm) (alone _ hc k a' spa')
  · rw [hop] at hop'
    cases hop'
    rfl

include O hm

theorem Agreed.current_core {h : HandlerId} {t' : HandlerTask} (sp' : R'.Speaks h t') :
    ∃ d, published ((log.told op ms).said h) = some d ∧ d.uuid = t'.uuid ∧
      (ms.foldl DeviceList.forward l).deviceForUuid t'.uuid = some d := by
  obtain ⟨t, sp, hmv⟩ | ⟨c, rfl, hc⟩ := sp'.core I ok hs
  · obtain ⟨d, hp, hu, hl⟩ := A.current sp
    rw [hmv.before.uuid]
    -- a message about another UUID
    have other : op.author ≠ some h →
        (ms.foldl DeviceList.forward l).deviceForUuid t.uuid = l.deviceForUuid t.uuid →
        ∃ d, published ((log.told op ms).said h) = some d ∧ d.uuid = t.uuid ∧
          (ms.foldl DeviceList.forward l).deviceForUuid t.uuid = some d := by
      intro ha hl'
      exact ⟨d, by rw [MessageLog.said_told_other ha, hp], hu, hl'.trans hl⟩
    cases hm with
    | @connect c k d' hc =>
      have hk : k ≠ h := fun he => sp.announced c (by rw [hc, he]; rfl)
      refine other (fun ha => hk (Option.some.inj ha)) ?_
      exact (DeviceList.deviceForUuid_connect d' (some k)).trans (if_neg (alone _ hc h t sp))
    | surface d' =>
      refine other (by simp [Op.author]) ?_
      exact (DeviceList.deviceForUuid_connect d' none).trans (if_neg (alone h t sp))
    | retire d' =>
      refine other (by simp [Op.author]) ?_
      exact DeviceList.deviceForUuid_disconnect d' (alone h t sp)
    | @publish k t₀ m ht₀ hhd =>
      have hcon : Concerns t₀.uuid (.message m) := (I.wellFormed ht₀).todo _ (List.mem_of_head? hhd)
      have sp₀ : R.Speaks k t₀ := O.speaks_of_todo ht₀ (List.mem_of_head? hhd)
      rcases eq_or_ne k h with rfl | hk
      · obtain rfl : t₀ = t := Option.some.inj (ht₀.symm.trans sp.task)
        obtain ⟨d', hp', hu', hl'⟩ := DeviceList.deviceForUuid_forward_update hcon hu hl
        refine ⟨d', ?_, hu', hl'⟩
        rw [MessageLog.said_told_author rfl, published_concat, hp, hp']
      · refine other (fun ha => hk (Option.some.inj ha)) ?_
        exact DeviceList.deviceForUuid_forward_of_concerns hcon fun he =>
          hk (A.alone sp₀ sp he.symm)
    | @exit k t₀ ht₀ =>
      obtain ⟨t₁, t₂, ht₁, hn, ht₂⟩ := hs.exit_task
      obtain rfl : t₀ = t₁ := Option.some.inj (ht₀.symm.trans ht₁)
      have hk : k ≠ h := by
        rintro rfl
        obtain rfl : t₂ = t' := Option.some.inj (ht₂.symm.trans sp'.task)
        exact sp'.running (next_exit hn)
      refine other (fun ha => hk (Option.some.inj ha)) ?_
      exact DeviceList.deviceForUuid_disconnect _ fun he =>
        hk (A.alone (I.speaks_of_left ht₀ (next_exit_left hn).1) sp he.symm)
    | dongle hd =>
      refine other (by simp [Op.author]) ?_
      cases hd <;> rfl
    | perform => exact ⟨d, by rw [MessageLog.said_told_nil fun _ => rfl, hp], hu, hl⟩
    | silent => exact ⟨d, by rw [MessageLog.said_told_nil fun _ => rfl, hp], hu, hl⟩
  · cases hm with
    | silent hsil => exact hsil.elim
    | @connect _ _ d hc₀ =>
      have hu : d.uuid = t'.uuid := (Stage.announcing.inj (hc₀.symm.trans hc)).2
      refine ⟨d, ?_, hu, ?_⟩
      · rw [MessageLog.said_told_author rfl, (O.secluded (c := c) (by rw [hc]; rfl)).1]
        rfl
      · exact (DeviceList.deviceForUuid_connect d (some h)).trans (if_pos hu.symm)

/-- **The list keeps up with what is published.** -/
theorem Agreed.core : R'.Agreed (ms.foldl DeviceList.forward l) (log.told op ms) where
  alone := A.alone_core I ok alone hs
  current := A.current_core I O ok alone hs hm

end

theorem Quiet.agreed (q : Quiet R R') (A : R.Agreed l log) : R'.Agreed l log where
  alone sp sp' := A.alone (q.speaks.mp sp) (q.speaks.mp sp')
  current sp := A.current (q.speaks.mp sp)

/-- Only what the list says of each UUID matters. -/
theorem Agreed.list (A : R.Agreed l log) {l' : DeviceList}
    (hl : ∀ u, l'.deviceForUuid u = l.deviceForUuid u) : R.Agreed l' log where
  alone := A.alone
  current sp := by
    rw [hl]
    exact A.current sp

end Registry

namespace Sys

open Registry

/-- Nobody but its handler speaks for a UUID, and the name an RPC gives an entry of the
list is the one the list comes to anyway. -/
def KeepsDevice (s : Sys) : Event → Prop
  | .rename u name => ∀ d, s.drained.deviceForUuid u = some d → d.setName name = d
  | e => s.registry.SpeaksAlone (s.op e)

/-- With the queued messages forwarded, the list has the device that each handler has
published last. -/
def MetadataCurrent (s : Sys) (log : MessageLog) : Prop :=
  ∀ h d, published (log.said h) = some d → s.drained.deviceForUuid d.uuid = some d

variable {s s' : Sys} {log : MessageLog}

theorem agreed_step (I : s.Inv) (O : s.registry.Ordered log) (A : s.registry.Agreed s.drained log)
    {e : Event} (ok : s.registry.KeepsOrder (s.op e)) (okd : s.KeepsDevice e) (h : s.Step e s') :
    s'.registry.Agreed s'.drained (record s e s' log) := by
  obtain ⟨R₁, hs, q⟩ := (I.simulates h).2.2
  obtain ⟨ms, hm, hrec, hl | ⟨u, name, rfl, rfl⟩⟩ := recorded log h
  · have alone : s.registry.SpeaksAlone (s.op e) := by
      cases e with
      | rename u name => trivial
      | _ => exact okd
    rw [hrec, hl]
    exact q.agreed (A.core I.registry O ok alone hs hm)
  · have A' := A.core I.registry O ok trivial hs (.silent trivial)
    refine (q.agreed A').list fun v => ?_
    exact DeviceList.deviceForUuid_renamed ((DeviceList.renamed_kept u name).foldl
      (DeviceList.renamed_update s.deviceList u name) s.messageChannel) okd v

theorem agreed_init : Sys.init.registry.Agreed Sys.init.drained [] where
  alone sp := by cases sp.task
  current sp := by cases sp.task

theorem metadataCurrent_of_agreed (O : s.registry.Ordered log) (A : s.registry.Agreed s.drained log) :
    s.MetadataCurrent log := by
  intro h d hp
  by_cases hlt : h < s.handlers.length
  · have ht : s.registry.tasks[h]? = some s.handlers[h] := List.getElem?_eq_getElem hlt
    by_cases hr : (s.handlers[h]).Running
    · by_cases hun : ∃ c, (s.registry.stage c).unannounced = some h
      · obtain ⟨c, hc⟩ := hun
        rw [(O.secluded hc).1] at hp
        cases hp
      · obtain ⟨d', hp', hu, hl⟩ := A.current ⟨ht, hr, fun c hc => hun ⟨c, hc⟩⟩
        obtain rfl : d' = d := Option.some.inj (hp'.symm.trans hp)
        rw [hu, hl]
    · rw [(O.finished ht hr).2.published] at hp
      cases hp
  · rw [O.unknown (Nat.le_of_not_lt hlt)] at hp
    cases hp

/-- **The messages about a handler are in order**, and the list follows what it publishes. -/
theorem messagesInOrder_of_keepsOrder {tr : List (Event × (Sys × MessageLog))}
    (hrun : Exec (ghost Sys.Step record) (Sys.init, []) tr)
    (hok : StepsOk (fun s e => s.1.registry.KeepsOrder (s.1.op e)) (Sys.init, []) tr) :
    Always (fun s => MessagesInOrder s.2) (Sys.init, []) tr ∧
    (StepsOk (fun s e => s.1.KeepsDevice e) (Sys.init, []) tr →
      Always (fun s => s.1.MetadataCurrent s.2) (Sys.init, []) tr) := by
  constructor
  · refine (hrun.always (I := fun s => s.1.Inv ∧ s.1.registry.Ordered s.2) ?_
      ⟨Inv.init, ordered_init⟩ hok).imp fun s I => I.2.inOrder
    rintro ⟨s, log⟩ e ⟨s', log'⟩ ⟨I, O⟩ ok ⟨h, hlog⟩
    obtain rfl : log' = record s e s' log := hlog
    exact ⟨I.step h, ordered_step I O ok h⟩
  · intro hokd
    refine (hrun.always (I := fun s => s.1.Inv ∧ s.1.registry.Ordered s.2 ∧
      s.1.registry.Agreed s.1.drained s.2) ?_ ⟨Inv.init, ordered_init, agreed_init⟩
      (hok.and hokd)).imp fun s I => metadataCurrent_of_agreed I.2.1 I.2.2
    rintro ⟨s, log⟩ e ⟨s', log'⟩ ⟨I, O, A⟩ ⟨ok, okd⟩ ⟨h, hlog⟩
    obtain rfl : log' = record s e s' log := hlog
    exact ⟨I.step h, ordered_step I O ok h, agreed_step I O A ok okd h⟩

/-- The run that a list of events makes, with its log. -/
def recordedRun (events : List Event) : List (Event × (Sys × MessageLog)) :=
  trace (ghostStep Sys.step record) (Sys.init, []) events

theorem exec_recordedRun (events : List Event) :
    Exec (ghost Sys.Step record) (Sys.init, []) (recordedRun events) :=
  exec_ghostStep (fun _ _ _ h => h) record (Sys.init, []) events

set_option maxRecDepth 4000 in
theorem messagesInOrder_of_keepsOrder_plugIn :
    Always (fun s => MessagesInOrder s.2) (Sys.init, []) (recordedRun plugIn) ∧
      Always (fun s => s.1.MetadataCurrent s.2) (Sys.init, []) (recordedRun plugIn) := by
  obtain ⟨hord, hcur⟩ := messagesInOrder_of_keepsOrder (exec_recordedRun plugIn)
    ⟨trivial, trivial, trivial, trivial, trivial, trivial, trivial, trivial, trivial, trivial, trivial,
      trivial, trivial⟩
  refine ⟨hord, hcur ⟨trivial, trivial, trivial, trivial, trivial, trivial, trivial, ?_, trivial,
    trivial, trivial, trivial, trivial⟩⟩
  -- the `Connect`: the only handler is the one it announces
  rintro u - h t sp
  have hlt : h < 1 := (List.getElem?_eq_some_iff.mp sp.task).1
  obtain rfl : h = 0 := Nat.lt_one_iff.mp hlt
  exact absurd rfl (sp.announced .scan)

/-- The scan has entered the gun, which is in BLE mode, and not announced it yet; the
manager of a dongle finds the entry and attaches the events device. -/
def overtaken : List Event :=
  [.scan (.enumerate [sampleDongle, sampleGun]), .scan (.cleanup []), .scan (.hub true),
    .manager 0 (.readVersions none none none), .manager 0 .register,
    .manager 0 (.initial (some [sampleUuid])), .manager 0 (.snapshot [sampleUuid] [sampleUuid]),
    .manager 0 (.probe 1 (some sampleUuid) none none none),
    .scan (.probe 2 sampleUuid none (some .ble) none), .scan .lock, .scan .spawn, .scan .insert,
    .scan .insertDirect, .manager 0 .lock, .manager 0 .merge, .handler 0 (.start 0 {}),
    .handler 0 .perform, .handler 0 (.recv {}), .handler 0 .perform, .handler 0 .perform,
    .handler 0 .perform, .handler 0 .perform, .handler 0 .perform, .handler 0 .perform,
    .handler 0 .perform, .scan .connect]

set_option maxRecDepth 4000 in
theorem overtaken_out_of_order : Exec (ghost Sys.Step record) (Sys.init, []) (recordedRun overtaken) ∧
    ¬ Always (fun s => MessagesInOrder s.2) (Sys.init, []) (recordedRun overtaken) ∧
    ¬ Always (fun s => s.1.MetadataCurrent s.2) (Sys.init, []) (recordedRun overtaken) := by
  refine ⟨exec_recordedRun overtaken, fun hord => ?_, fun hcur => ?_⟩
  · -- the first message about the handler is its update
    have hfirst : (MessageLog.said (last (Sys.init, []) (recordedRun overtaken)).2 0).head?.map
        (·.isUpdate) = some true := by decide
    have hord' : MessagesInOrder (last (Sys.init, []) (recordedRun overtaken)).2 := hord.last
    obtain hnil | ⟨d, us, ho, -⟩ | ⟨us, d, ⟨d', us', rfl, -⟩, hc⟩ := hord' 0
    · rw [hnil] at hfirst
      cases hfirst
    · rw [ho] at hfirst
      cases hfirst
    · rw [hc] at hfirst
      cases hfirst
  · -- the `Connect` has put the older device over it
    have hstale : (published (MessageLog.said (last (Sys.init, []) (recordedRun overtaken)).2 0)).any
        (fun d => decide ((last (Sys.init, []) (recordedRun overtaken)).1.drained.deviceForUuid d.uuid ≠
          some d)) = true := by decide
    obtain ⟨d, hd, hne⟩ := (Option.any_eq_true ..).mp hstale
    exact of_decide_eq_true hne (hcur.last 0 d hd)

end Sys

end OdysseyHub
