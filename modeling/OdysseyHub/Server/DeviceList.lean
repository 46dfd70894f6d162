import OdysseyHub.Server.System

/-!
# The device list (lib.rs, event_fwd_stream; server.rs)

`device_list` as the forwarding loop changes it and as `sender_for_uuid` reads it.
The lemmas say what a message does to the sender of each UUID: `Connect` sets it,
`Disconnect` takes an entry of its own UUID only, updates leave every sender alone.
-/

namespace OdysseyHub

namespace DeviceList

/-- `sender_for_uuid`. -/
def senderForUuid (l : DeviceList) (u : Uuid) : Option (Option HandlerId) :=
  (l.find? fun e => e.1.uuid == u).map (·.2)

/-- Change the first entry with the given UUID. -/
def update (l : DeviceList) (u : Uuid) (f : Device × Option HandlerId → Device × Option HandlerId) :
    DeviceList :=
  match l with
  | [] => []
  | e :: l => if e.1.uuid = u then f e :: l else e :: update l u f

def hasUuid (l : DeviceList) (u : Uuid) : Bool := l.any fun e => e.1.uuid == u

/-- `event_fwd_stream` on the messages about devices. -/
def forward (l : DeviceList) : Message → DeviceList
  | .connect d commands =>
    if l.hasUuid d.uuid then
      match commands with
      | some h => l.update d.uuid fun _ => (d, some h)
      | none => l.update d.uuid fun e => (d, e.2)
    else l ++ [(d, commands)]
  | .disconnect d => l.eraseP fun e => e.1.uuid == d.uuid
  | .updateDevice d => l.update d.uuid fun e => (d, e.2)
  | .updateName u name => l.update u fun e => (e.1.setName name, e.2)
  | .dongleConnect .. | .dongleUpdate _ | .dongleDisconnect _ => l

/-! ## Reading an updated list -/

variable {l : DeviceList} {u v : Uuid}

theorem find_update {f : Device × Option HandlerId → Device × Option HandlerId}
    (hf : ∀ e, e.1.uuid = u → (f e).1.uuid = u) :
    (l.update u f).find? (fun e => e.1.uuid == v) =
      if v = u then (l.find? fun e => e.1.uuid == u).map f else l.find? fun e => e.1.uuid == v := by
  induction l with
  | nil => split <;> rfl
  | cons e l ih =>
    unfold update
    by_cases he : e.1.uuid = u
    · rw [if_pos he]
      have hfe := hf e he
      by_cases hv : v = u
      · simp [hv, he, hfe]
      · simp [hv, he, hfe, Ne.symm hv]
    · rw [if_neg he]
      by_cases hv : v = u
      · subst hv
        simpa [he] using ih
      · by_cases hev : e.1.uuid = v
        · simp [hv, hev]
        · simpa [hv, hev] using ih

theorem find_eraseP (h : v ≠ u) :
    (l.eraseP fun e => e.1.uuid == u).find? (fun e => e.1.uuid == v) =
      l.find? fun e => e.1.uuid == v := by
  induction l with
  | nil => rfl
  | cons e l ih =>
    by_cases he : e.1.uuid = u
    · simp [he, Ne.symm h]
    · by_cases hev : e.1.uuid = v
      · simp [hev, h]
      · simpa [he, hev] using ih

theorem hasUuid_eq : l.hasUuid u = (l.senderForUuid u).isSome := by
  rw [senderForUuid, Option.isSome_map, List.isSome_find?, hasUuid]

/-! ## Senders -/

theorem senderForUuid_update {f : Device × Option HandlerId → Device × Option HandlerId}
    (hf : ∀ e, e.1.uuid = u → (f e).1.uuid = u) (hs : ∀ e, (f e).2 = e.2) :
    (l.update u f).senderForUuid v = l.senderForUuid v := by
  unfold senderForUuid
  rw [find_update hf]
  split
  · next h =>
    subst h
    simp [Function.comp_def, hs]
  · rfl

theorem senderForUuid_append {d : Device} {commands : Option HandlerId}
    (h : l.senderForUuid d.uuid = none) :
    DeviceList.senderForUuid (l ++ [(d, commands)]) v =
      if v = d.uuid then some commands else l.senderForUuid v := by
  unfold senderForUuid at *
  rw [List.find?_append, Option.map_or]
  split
  · next hv => simp [hv, h]
  · next hv => simp [Ne.symm hv]

theorem senderForUuid_connect_some (d : Device) (h : HandlerId) :
    (l.forward (.connect d (some h))).senderForUuid v =
      if v = d.uuid then some (some h) else l.senderForUuid v := by
  simp only [forward]
  split
  · next hu =>
    rw [hasUuid_eq, Option.isSome_iff_exists] at hu
    obtain ⟨x, hx⟩ := hu
    obtain ⟨e, he, -⟩ := Option.map_eq_some_iff.mp hx
    have hf : ∀ e : Device × Option HandlerId, e.1.uuid = d.uuid →
        ((d, some h) : Device × Option HandlerId).1.uuid = d.uuid := fun _ _ => rfl
    rw [senderForUuid, find_update hf, he]
    split <;> rfl
  · next hu =>
    rw [Bool.not_eq_true, hasUuid_eq, Option.isSome_eq_false_iff, Option.isNone_iff_eq_none] at hu
    exact senderForUuid_append hu

theorem senderForUuid_connect_none (d : Device) :
    (l.forward (.connect d none)).senderForUuid v =
      if v = d.uuid then some ((l.senderForUuid v).getD none) else l.senderForUuid v := by
  simp only [forward]
  split
  · next hu =>
    rw [hasUuid_eq, Option.isSome_iff_exists] at hu
    obtain ⟨x, hx⟩ := hu
    have hf : ∀ e : Device × Option HandlerId, e.1.uuid = d.uuid →
        ((d, e.2) : Device × Option HandlerId).1.uuid = d.uuid := fun _ _ => rfl
    rw [senderForUuid_update hf fun _ => rfl]
    split
    · next hv => rw [hv, hx]; rfl
    · rfl
  · next hu =>
    rw [Bool.not_eq_true, hasUuid_eq, Option.isSome_eq_false_iff, Option.isNone_iff_eq_none] at hu
    rw [senderForUuid_append hu]
    split
    · next hv => rw [hv, hu]; rfl
    · rfl

theorem senderForUuid_disconnect (d : Device) (h : v ≠ d.uuid) :
    (l.forward (.disconnect d)).senderForUuid v = l.senderForUuid v := by
  simp only [forward, senderForUuid, find_eraseP h]

theorem senderForUuid_updateDevice (d : Device) :
    (l.forward (.updateDevice d)).senderForUuid v = l.senderForUuid v :=
  senderForUuid_update (fun _ _ => rfl) fun _ => rfl

theorem senderForUuid_updateName (name : String) :
    (l.forward (.updateName u name)).senderForUuid v = l.senderForUuid v :=
  senderForUuid_update (fun e h => (e.1.setName_uuid name).trans h) fun _ => rfl

/-! ## Devices -/

/-- What the list says of a UUID. -/
def deviceForUuid (l : DeviceList) (u : Uuid) : Option Device := (l.find? fun e => e.1.uuid == u).map (·.1)

theorem deviceForUuid_update {f : Device × Option HandlerId → Device × Option HandlerId}
    (hf : ∀ e, e.1.uuid = u → (f e).1.uuid = u) (g : Device → Device) (hg : ∀ e, (f e).1 = g e.1) :
    (l.update u f).deviceForUuid v =
      if v = u then (l.deviceForUuid u).map g else l.deviceForUuid v := by
  unfold deviceForUuid
  rw [find_update hf]
  split
  · rw [Option.map_map, Option.map_map]
    congr 1
    funext e
    exact hg e
  · rfl

theorem deviceForUuid_append {d : Device} {commands : Option HandlerId} (h : l.hasUuid d.uuid = false) :
    DeviceList.deviceForUuid (l ++ [(d, commands)]) v =
      if v = d.uuid then some d else l.deviceForUuid v := by
  have hnone : l.find? (fun e => e.1.uuid == d.uuid) = none := by
    rw [hasUuid_eq, senderForUuid, Option.isSome_map] at h
    simpa using h
  unfold deviceForUuid
  rw [List.find?_append, Option.map_or]
  split
  · next hv => simp [hv, hnone]
  · next hv => simp [Ne.symm hv]

/-- A `Connect` sets the device of its UUID, and no other. -/
theorem deviceForUuid_connect (d : Device) (commands : Option HandlerId) :
    (l.forward (.connect d commands)).deviceForUuid v =
      if v = d.uuid then some d else l.deviceForUuid v := by
  by_cases hu : l.hasUuid d.uuid = true
  · have hsome : ∃ d', l.deviceForUuid d.uuid = some d' := by
      rw [hasUuid_eq, senderForUuid, Option.isSome_map] at hu
      obtain ⟨e, he⟩ := Option.isSome_iff_exists.mp hu
      exact ⟨e.1, by rw [deviceForUuid, he]; rfl⟩
    obtain ⟨d', hd'⟩ := hsome
    have hset : ∀ f : Device × Option HandlerId → Device × Option HandlerId, (∀ e, (f e).1 = d) →
        (l.update d.uuid f).deviceForUuid v = if v = d.uuid then some d else l.deviceForUuid v := by
      intro f hf
      rw [deviceForUuid_update (fun e _ => by rw [hf e]) (fun _ => d) hf, hd']
      rfl
    simp only [forward, hu, if_true]
    cases commands with
    | some h => exact hset _ fun _ => rfl
    | none => exact hset _ fun _ => rfl
  · have hu' : l.hasUuid d.uuid = false := by simpa using hu
    simp only [forward, hu', Bool.false_eq_true, if_false]
    exact deviceForUuid_append hu'

theorem deviceForUuid_disconnect (d : Device) (h : v ≠ d.uuid) :
    (l.forward (.disconnect d)).deviceForUuid v = l.deviceForUuid v := by
  simp only [forward, deviceForUuid, find_eraseP h]

theorem deviceForUuid_updateDevice (d : Device) :
    (l.forward (.updateDevice d)).deviceForUuid v =
      if v = d.uuid then (l.deviceForUuid d.uuid).map fun _ => d else l.deviceForUuid v :=
  deviceForUuid_update (f := fun e => (d, e.2)) (fun _ _ => rfl) (fun _ => d) fun _ => rfl

theorem deviceForUuid_updateName (name : String) :
    (l.forward (.updateName u name)).deviceForUuid v =
      if v = u then (l.deviceForUuid u).map (·.setName name) else l.deviceForUuid v :=
  deviceForUuid_update (f := fun e => (e.1.setName name, e.2))
    (fun e h => (e.1.setName_uuid name).trans h) (·.setName name) fun _ => rfl

/-! ## Lists that agree entry by entry -/

/-- A relation between entries that the messages keep. -/
structure Kept (r : Device × Option HandlerId → Device × Option HandlerId → Prop) : Prop where
  refl : ∀ e, r e e
  uuid : ∀ {e e'}, r e e' → e.1.uuid = e'.1.uuid
  device : ∀ {e e'}, r e e' → ∀ d, r (d, e.2) (d, e'.2)
  name : ∀ {e e'}, r e e' → ∀ name, r (e.1.setName name, e.2) (e'.1.setName name, e'.2)

section
variable {r : Device × Option HandlerId → Device × Option HandlerId → Prop} {l' : DeviceList}

theorem Kept.update (hr : Kept r) (h : List.Forall₂ r l l') {u : Uuid}
    {f f' : Device × Option HandlerId → Device × Option HandlerId}
    (hf : ∀ e e', r e e' → r (f e) (f' e')) : List.Forall₂ r (l.update u f) (l'.update u f') := by
  induction h with
  | nil => exact .nil
  | @cons e e' l l' he hl ih =>
    unfold DeviceList.update
    rw [← hr.uuid he]
    split
    · exact .cons (hf e e' he) hl
    · exact .cons he ih

theorem Kept.eraseP (hr : Kept r) (h : List.Forall₂ r l l') (u : Uuid) :
    List.Forall₂ r (l.eraseP fun e => e.1.uuid == u) (l'.eraseP fun e => e.1.uuid == u) := by
  induction h with
  | nil => exact .nil
  | @cons e e' l l' he hl ih =>
    by_cases hu : e.1.uuid = u
    · have hu' : e'.1.uuid = u := (hr.uuid he).symm.trans hu
      rw [List.eraseP_cons_of_pos (by simpa using hu), List.eraseP_cons_of_pos (by simpa using hu')]
      exact hl
    · have hu' : ¬ e'.1.uuid = u := fun h => hu ((hr.uuid he).trans h)
      rw [List.eraseP_cons_of_neg (by simpa using hu), List.eraseP_cons_of_neg (by simpa using hu')]
      exact .cons he ih

theorem Kept.hasUuid (hr : Kept r) (h : List.Forall₂ r l l') (u : Uuid) :
    l.hasUuid u = l'.hasUuid u := by
  induction h with
  | nil => rfl
  | cons he _ ih =>
    unfold DeviceList.hasUuid at *
    rw [List.any_cons, List.any_cons, hr.uuid he, ih]

theorem Kept.find (hr : Kept r) (h : List.Forall₂ r l l') (u : Uuid) :
    Option.Rel r (l.find? fun e => e.1.uuid == u) (l'.find? fun e => e.1.uuid == u) := by
  induction h with
  | nil => exact .none
  | @cons e e' l l' he _ ih =>
    rw [List.find?_cons, List.find?_cons, hr.uuid he]
    split
    · exact .some he
    · exact ih

theorem Kept.forward (hr : Kept r) (h : List.Forall₂ r l l') (m : Message) :
    List.Forall₂ r (l.forward m) (l'.forward m) := by
  cases m with
  | connect d commands =>
    simp only [DeviceList.forward, hr.hasUuid h]
    split
    · cases commands with
      | some k => exact hr.update h fun _ _ _ => hr.refl _
      | none => exact hr.update h fun _ _ he => hr.device he d
    · exact List.rel_append h (.cons (hr.refl _) .nil)
  | disconnect d => exact hr.eraseP h d.uuid
  | updateDevice d => exact hr.update h fun _ _ he => hr.device he d
  | updateName u name => exact hr.update h fun _ _ he => hr.name he name
  | dongleConnect info commands => exact h
  | dongleUpdate info => exact h
  | dongleDisconnect id => exact h

theorem Kept.foldl (hr : Kept r) (h : List.Forall₂ r l l') (ms : List Message) :
    List.Forall₂ r (ms.foldl DeviceList.forward l) (ms.foldl DeviceList.forward l') := by
  induction ms generalizing l l' with
  | nil => exact h
  | cons m ms ih => exact ih (hr.forward h m)

end

/-- The lists differ in the devices' other fields only. -/
def SameKeys : DeviceList → DeviceList → Prop :=
  List.Forall₂ fun e e' => e.1.uuid = e'.1.uuid ∧ e.2 = e'.2

theorem sameKeys_kept :
    Kept fun e e' : Device × Option HandlerId => e.1.uuid = e'.1.uuid ∧ e.2 = e'.2 where
  refl _ := ⟨rfl, rfl⟩
  uuid h := h.1
  device h _ := ⟨rfl, h.2⟩
  name h name := ⟨by rw [Device.setName_uuid, Device.setName_uuid, h.1], h.2⟩

theorem SameKeys.refl (l : DeviceList) : SameKeys l l :=
  List.forall₂_same.mpr fun _ _ => ⟨rfl, rfl⟩

theorem SameKeys.senderForUuid {l l' : DeviceList} (h : SameKeys l l') (u : Uuid) :
    l.senderForUuid u = l'.senderForUuid u := by
  unfold DeviceList.senderForUuid
  generalize hf : (l.find? fun e => e.1.uuid == u) = x
  generalize hf' : (l'.find? fun e => e.1.uuid == u) = x'
  have hr := sameKeys_kept.find h u
  rw [hf, hf'] at hr
  cases hr with
  | none => rfl
  | some he => exact congrArg some he.2

/-- Renaming entries does not change what becomes of the senders. -/
theorem SameKeys.foldl {l l' : DeviceList} (h : SameKeys l l') (ms : List Message) :
    SameKeys (ms.foldl DeviceList.forward l) (ms.foldl DeviceList.forward l') :=
  sameKeys_kept.foldl h ms

theorem sameKeys_rename (l : DeviceList) (u : Uuid) (name : String) :
    SameKeys (l.update u fun e => (e.1.setName name, e.2)) l := by
  induction l with
  | nil => exact .nil
  | cons e l ih =>
    unfold DeviceList.update
    split
    · exact .cons ⟨e.1.setName_uuid name, rfl⟩ (SameKeys.refl l)
    · exact .cons ⟨rfl, rfl⟩ ih

/-! ## Where senders come from -/

theorem mem_update {f : Device × Option HandlerId → Device × Option HandlerId}
    {e : Device × Option HandlerId} (he : e ∈ l.update u f) : ∃ e' ∈ l, e = e' ∨ e = f e' := by
  induction l with
  | nil => cases he
  | cons a l ih =>
    unfold update at he
    split at he
    · obtain rfl | he := List.mem_cons.mp he
      · exact ⟨a, List.mem_cons_self, .inr rfl⟩
      · exact ⟨e, List.mem_cons_of_mem _ he, .inl rfl⟩
    · obtain rfl | he := List.mem_cons.mp he
      · exact ⟨e, List.mem_cons_self, .inl rfl⟩
      · obtain ⟨e', he', h⟩ := ih he
        exact ⟨e', List.mem_cons_of_mem _ he', h⟩

/-- An update that keeps senders adds none. -/
theorem sender_of_mem_update {f : Device × Option HandlerId → Device × Option HandlerId}
    {e : Device × Option HandlerId} (he : e ∈ l.update u f) (hs : ∀ e, (f e).2 = e.2) :
    ∃ e' ∈ l, e'.2 = e.2 := by
  obtain ⟨e', he', rfl | rfl⟩ := mem_update he
  · exact ⟨e, he', rfl⟩
  · exact ⟨e', he', (hs e').symm⟩

/-- Forwarding adds no sender but that of a `Connect`. -/
theorem mem_forward {m : Message} {e : Device × Option HandlerId} (he : e ∈ l.forward m) :
    (∃ e' ∈ l, e'.2 = e.2) ∨ ∃ d, m = .connect d e.2 := by
  cases m with
  | connect d commands =>
    simp only [forward] at he
    split at he
    · cases commands with
      | some k =>
        obtain ⟨e', he', rfl | rfl⟩ := mem_update he
        · exact .inl ⟨e, he', rfl⟩
        · exact .inr ⟨d, rfl⟩
      | none =>
        have he' : e ∈ l.update d.uuid fun a => (d, a.2) := he
        exact .inl (sender_of_mem_update he' fun _ => rfl)
    · obtain he | he := List.mem_append.mp he
      · exact .inl ⟨e, he, rfl⟩
      · rw [List.mem_singleton] at he
        subst he
        exact .inr ⟨d, rfl⟩
  | disconnect d => exact .inl ⟨e, List.mem_of_mem_eraseP he, rfl⟩
  | updateDevice d =>
    have he' : e ∈ l.update d.uuid fun a => (d, a.2) := he
    exact .inl (sender_of_mem_update he' fun _ => rfl)
  | updateName u name =>
    have he' : e ∈ l.update u fun a => (a.1.setName name, a.2) := he
    exact .inl (sender_of_mem_update he' fun _ => rfl)
  | dongleConnect | dongleUpdate | dongleDisconnect => exact .inl ⟨e, he, rfl⟩

end DeviceList

end OdysseyHub
