import OdysseyHub.Server.RegistryRun

/-!
# direct_usb_handler_uuids

The set says which entries of `device_handles` need no `AddControlDevice`.  A handler
that loses its USB control takes its UUID out itself, or leaves its loop; the scan
takes out the UUIDs of the entries it evicts.  A hub manager that evicts an entry
does not, and enters its own handler, which has no control device.

**Sys.directAccurate_of_entersBeside**: in every run in which the hub managers enter
handlers only for UUIDs outside the set, the set tells the truth whenever all
handlers are idle.
-/

namespace OdysseyHub

open HandlerTask Transition

namespace Handler

/-- A handler in its loop loses its control device only together with its place in the set. -/
theorem turn_control {h : Handler} {arm : Arm} {a : Answers} {o : Outcome}
    (ht : h.turn arm a = some o) (hl : o.leave = false)
    (hc : h.connections.controlDevice.isSome = true) :
    o.handler.connections.controlDevice.isSome = true ∨
      Effect.removeDirect h.device.uuid ∈ o.effects := by
  obtain ⟨dev, v, -, rfl⟩ | ⟨dev, -, rfl⟩ | ⟨-, rfl⟩ | ⟨-, rfl⟩ | ⟨-, hs⟩ := turn_cases ht
  · left
    rw [addEventsDevice_controlDevice]
    exact hc
  · left
    rw [addControlDevice_controlDevice]
    rfl
  · right
    rw [removeControlDevice_leave, Bool.not_eq_false'] at hl
    simp [removeControlDevice, hl]
  · left
    rw [removeEventsDevice_controlDevice]
    exact hc
  · left
    rw [hs.connections]
    exact hc

end Handler

namespace HandlerTask

/-- The task has a control device, or is about to leave the set. -/
def Controlled (t : HandlerTask) : Prop :=
  t.handler.connections.controlDevice.isSome = true ∨
    (t.phase = .loop ∧ Effect.removeDirect t.uuid ∈ t.todo)

theorem Controlled.receive {t : HandlerTask} (h : t.Controlled) (m : DeviceTaskMessage) :
    (t.receive m).Controlled := by
  simpa [Controlled] using h

theorem Controlled.turned {t : HandlerTask} (h : t.Controlled) (htd : t.todo = []) {arm : Arm}
    {a : Answers} {o : Outcome} (ho : t.handler.turn arm a = some o) (hin : (t.turned o).InLoop) :
    (t.turned o).Controlled := by
  have hl : o.leave = false := by
    cases hl : o.leave with
    | false => rfl
    | true => simp [InLoop, hl] at hin
  have hu : (t.turned o).uuid = t.handler.device.uuid := Handler.turn_uuid ho
  obtain hc | hc := Handler.turn_control ho hl (h.resolve_right (by simp [htd]))
  · exact .inl hc
  · exact .inr ⟨by simp [hl], hu ▸ hc⟩

theorem Controlled.next {t t' : HandlerTask} (h : t.Controlled) {e : HandlerEvent}
    (hn : t.next e = some t') (hin : t'.InLoop)
    (hp : e = .perform → t.todo.head? ≠ some (.removeDirect t.uuid)) : t'.Controlled := by
  obtain ⟨ms, a, -, hph, rfl⟩ | ⟨a, m, q, o, -, -, htd, -, ho, rfl⟩ |
    ⟨arm, a, o, -, -, htd, -, -, -, ho, rfl⟩ | ⟨eff, rest, he, htd, rfl⟩ | ⟨-, -, -, rfl⟩ :=
      next_cases hn
  · left
    have hc := h.resolve_right (by simp [hph])
    rw [turned_handler]
    unfold Handler.start
    split <;> exact hc
  · exact Controlled.turned (t := { t with queue := q }) h htd ho hin
  · exact h.turned htd ho hin
  · obtain h | ⟨hl, h⟩ := h
    · exact .inl h
    · rw [htd, List.mem_cons] at h
      refine .inr ⟨hl, h.resolve_left fun heff => hp he ?_⟩
      rw [htd, ← heff]
      rfl
  · simp [InLoop] at hin

end HandlerTask

namespace Registry

/-- Entries of the set have a control device, as long as they are in their loop. -/
def DirectControlled (R : Registry) : Prop :=
  ∀ (u : Uuid) (h : HandlerId) (t : HandlerTask), u ∈ R.direct → R.handles u = some h →
    R.tasks[h]? = some t → t.InLoop → t.Controlled

/-- A hub manager enters no handler for a UUID in the set. -/
def EntersBeside (R : Registry) : Op → Prop
  | .insertHub m _ h => ∀ u, R.stage (.manager m) = .spawned h u → u ∉ R.direct
  | _ => True

variable {R R' : Registry} {op : Op}

/-- The entry was controlled before the operation, or the scan has just made it. -/
theorem DirectControlled.before (I : R.Inv) (D : R.DirectControlled) (ok : R.EntersBeside op)
    (hs : Core R op R') {u : Uuid} {h : HandlerId} {t : HandlerTask} (hd : u ∈ R'.direct)
    (hu : R'.handles u = some h) (ht : R.tasks[h]? = some t) (hin : t.InLoop) : t.Controlled := by
  have controlled : (R.stage .scan).unannounced = some h → t.Controlled :=
    fun hc => .inl ((I.secluded hc ht).control rfl)
  obtain hd | ⟨k, rfl, hk⟩ := hs.direct hd
  · obtain hu | ⟨c, hc, ⟨-, rfl⟩ | ⟨m, addr, rfl, rfl⟩⟩ := hs.handles hu
    · exact D u h t hd hu ht hin
    · exact controlled (by rw [hc]; rfl)
    · exact absurd hd (ok u hc)
  · have hu₀ : R.handles u = some k :=
      I.locked (c := .scan) (by rw [hk]; rfl) (by rw [hk]; rfl) (by rw [hk]; rfl)
    obtain hu | ⟨c, -, ⟨hop, -⟩ | ⟨m, addr, hop, -⟩⟩ := hs.handles hu
    · obtain rfl : h = k := Option.some.inj (hu.symm.trans hu₀)
      exact controlled (by rw [hk]; rfl)
    · cases hop
    · cases hop

theorem DirectControlled.core (I : R.Inv) (D : R.DirectControlled) (ok : R.EntersBeside op)
    (hs : Core R op R') : R'.DirectControlled := by
  intro u h t' hd hu ht' hin
  obtain ⟨t, ht, hm⟩ | ⟨c, rfl, rfl⟩ := hs.moved ht'
  · have hc := D.before I ok hs hd hu ht (hm.before.inLoop hin)
    cases hm with
    | same => exact hc
    | received => exact hc.receive _
    | worked hop hn =>
      refine hc.next hn hin fun he hhd => ?_
      subst hop he
      obtain ⟨t₀, ht₀, hu₀⟩ := I.entry_core hs hu
      rw [ht'] at ht₀
      cases ht₀
      rw [← next_uuid hn, hu₀] at hhd
      exact hs.forgets ht hhd hd
  · obtain hu | ⟨c', -, ⟨hop, -⟩ | ⟨m, addr, hop, -⟩⟩ := hs.handles hu
    · obtain ⟨t, ht, -⟩ := I.entry hu
      exact absurd (List.getElem?_eq_some_iff.mp ht).1 (Nat.lt_irrefl _)
    · cases hop
    · cases hop

theorem Quiet.directControlled (q : Quiet R R') (D : R.DirectControlled) : R'.DirectControlled := by
  simpa only [DirectControlled, q.handles, q.tasks, q.direct] using D

end Registry

namespace Sys

/-- With all queues drained, running handlers in the set have a control device. -/
def DirectAccurate (s : Sys) : Prop :=
  s.Drained → ∀ (u : Uuid) (h : HandlerId) (t : HandlerTask), u ∈ s.directUsbHandlerUuids →
    s.deviceHandles.lookup u = some h → s.handlers[h]? = some t → t.Running →
    t.handler.connections.controlDevice.isSome = true

/-- **The set of direct handlers tells the truth.** -/
theorem directAccurate_of_entersBeside {tr : List (Event × Sys)}
    (hrun : Exec Sys.Step Sys.init tr)
    (hok : StepsOk (fun s e => s.registry.EntersBeside (s.op e)) Sys.init tr) :
    Always DirectAccurate Sys.init tr := by
  have hinit : Sys.init.registry.DirectControlled := by
    intro u h t hd
    cases hd
  have hstep : ∀ (R : Registry) (op : Op) (R' : Registry), R.Inv → R.DirectControlled →
      R.EntersBeside op → R.Step op R' → R'.DirectControlled := by
    rintro R op R' I D ok ⟨R₁, hs, q⟩
    exact q.directControlled (D.core I ok hs)
  refine (registry_always hinit hstep hrun hok).imp fun s ⟨_, D⟩ hdr u h t hd hu ht hr => ?_
  obtain ⟨hin, -, htd⟩ := hdr h t ht hr
  exact (D u h t hd hu ht hin).resolve_right (by simp [htd])

set_option maxRecDepth 4000 in
theorem directAccurate_of_entersBeside_plugIn : Always DirectAccurate Sys.init (run plugIn) :=
  directAccurate_of_entersBeside (exec_run plugIn) ⟨trivial, trivial, trivial, trivial, trivial,
    trivial, trivial, trivial, trivial, trivial, trivial, trivial, trivial⟩

/-- The gun is unplugged and its handler ends; before the next scan its dongle finds
it, evicts the entry and enters a handler of its own.  Plugged in again, the gun gets
no `AddControlDevice`. -/
def replacedByHub : List Event :=
  List.append [.scan (.enumerate [sampleDongle, sampleGun]), .scan (.cleanup []), .scan (.hub true),
    .scan (.probe 1 sampleUuid none (some .ble) none), .scan .lock, .scan .spawn, .scan .insert,
    .scan .insertDirect, .scan .connect, .scan (.missing []), .scan (.unplugged []), .scan .sleep,
    .handler 0 (.start 0 {}), .handler 0 .perform, .scan (.enumerate [sampleDongle]),
    .scan (.cleanup []), .scan (.hub true), .scan (.missing [2]), .scan .unplug,
    .scan (.unplugged []), .scan .sleep, .handler 0 (.recv {}), .handler 0 .exit,
    .manager 0 (.readVersions none none none), .manager 0 .register,
    .manager 0 (.initial (some [sampleUuid])), .manager 0 (.snapshot [sampleUuid] [sampleUuid]),
    .manager 0 (.probe 2 (some sampleUuid) none none none), .manager 0 .lock, .manager 0 .spawn,
    .manager 0 .insert, .manager 0 .connect, .manager 0 .queue, .manager 0 (.removed []),
    .manager 0 (.rebond none), .manager 0 (.update [sampleUuid]), .handler 1 (.start 0 {}),
    .handler 1 (.recv {})] <| List.append (List.replicate 7 (.handler 1 .perform))
  [.scan (.enumerate [sampleDongle, sampleGun]), .scan (.cleanup []), .scan (.hub true),
    .scan (.probe 3 sampleUuid none (some .ble) none), .scan .lock, .scan .merge,
    .scan (.missing []), .scan (.unplugged []), .scan .sleep]

/-- What the counterexample needs to know of a handler. -/
def summary (t : HandlerTask) : Phase × Bool × Bool × Bool :=
  (t.phase, t.queue.isEmpty, t.todo.isEmpty, t.handler.connections.controlDevice.isSome)

theorem replacedByHub_no_control : Exec Sys.Step Sys.init (run replacedByHub) ∧
    ¬ Always DirectAccurate Sys.init (run replacedByHub) := by
  refine ⟨exec_run replacedByHub, fun h => ?_⟩
  have two : (last Sys.init (run replacedByHub)).handlers.map summary =
      [(.finished, true, true, false), (.loop, true, true, false)] := by decide +kernel
  obtain ⟨t, l, hl, ht, two⟩ := List.map_eq_cons_iff.mp two
  obtain ⟨t', l', rfl, ht', hl'⟩ := List.map_eq_cons_iff.mp two
  obtain rfl := List.map_eq_nil_iff.mp hl'
  simp only [summary, Prod.mk.injEq, List.isEmpty_iff] at ht ht'
  have hdr : (last Sys.init (run replacedByHub)).Drained := by
    intro k s hs hr
    rw [hl] at hs
    match k, hs with
    | 0, hs => cases hs; exact absurd ht.1 hr
    | 1, hs => cases hs; exact ⟨.inr ht'.1, ht'.2.1, ht'.2.2.1⟩
  have hd : sampleUuid ∈ (last Sys.init (run replacedByHub)).directUsbHandlerUuids := by
    decide +kernel
  have hu : (last Sys.init (run replacedByHub)).deviceHandles.lookup sampleUuid = some 1 := by
    decide +kernel
  have hacc := h.last
  generalize last Sys.init (run replacedByHub) = s at *
  have := hacc hdr sampleUuid 1 t' hd hu (by rw [hl]; rfl) (by simp [HandlerTask.Running, ht'.1])
  rw [ht'.2.2.2] at this
  cases this

end Sys

end OdysseyHub
