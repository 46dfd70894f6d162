import OdysseyHub.Lib.KeyedList
import OdysseyHub.Server.MessageChannel

/-!
# The two lists are maps (lib.rs, event_fwd_stream; server.rs)

`device_list` and `dongle_list` are plain vectors.  Whatever messages the forwarding
loop takes, with `set_device_name` between them, no two devices of the one share a
UUID, no two dongles of the other an id, and the sender a UUID has is that of its last
`Connect` since its last `Disconnect` that came with one:

    (Lists.after inputs).devices.senderForUuid u = senderSince u inputs      (lists_are_maps)

The server edits its lists by these inputs only (`Sys.step_lists`).
-/

namespace OdysseyHub

open KeyedList

/-- What edits the lists: a message to the forwarding loop, of which an `Event` is only
passed on, or the answer to `set_device_name`. -/
inductive ListInput
  | message (m : Message)
  | event
  | rename (u : Uuid) (name : String)
  deriving DecidableEq, Repr

structure Lists where
  devices : DeviceList
  dongles : List (DongleInfo × ManagerId)

namespace Lists

def next (l : Lists) : ListInput → Lists
  | .message m => { devices := l.devices.forward m, dongles := forwardDongle l.dongles m }
  | .event => l
  | .rename u name => { l with devices := l.devices.update u fun e => (e.1.setName name, e.2) }

/-- The lists of a server that has processed `inputs`, from empty ones. -/
def after (inputs : List ListInput) : Lists := inputs.foldl next ⟨[], []⟩

theorem after_concat (inputs : List ListInput) (i : ListInput) :
    after (inputs ++ [i]) = (after inputs).next i := by
  simp [after, List.foldl_append]

end Lists

/-! ## The history of a UUID -/

namespace ListInput

/-- A `Connect` for `u`. -/
def connects (u : Uuid) : ListInput → Bool
  | .message (.connect d _) => d.uuid == u
  | _ => false

/-- The commands sender a `Connect` for `u` carries. -/
def carries (u : Uuid) : ListInput → Option HandlerId
  | .message (.connect d commands) => if d.uuid = u then commands else none
  | _ => none

/-- A `Disconnect` for `u`. -/
def disconnects (u : Uuid) : ListInput → Bool
  | .message (.disconnect d) => d.uuid == u
  | _ => false

/-- The inputs since the last `Disconnect` for `u`, the latest first. -/
def span (u : Uuid) (inputs : List ListInput) : List ListInput :=
  inputs.reverse.takeWhile fun i => !i.disconnects u

/-- The sender the history leaves to `u`: that of the latest `Connect` of the span that
carries one, the dummy `none` if none does, no entry without a `Connect`. -/
def senderSince (u : Uuid) (inputs : List ListInput) : Option (Option HandlerId) :=
  if (span u inputs).any (·.connects u) then some ((span u inputs).findSome? (·.carries u)) else none

variable {u : Uuid} {inputs : List ListInput} {i : ListInput}

theorem span_concat (hi : i.disconnects u = false) :
    span u (inputs ++ [i]) = i :: span u inputs := by
  simp [span, hi]

theorem senderSince_disconnect (hi : i.disconnects u = true) :
    senderSince u (inputs ++ [i]) = none := by
  simp [senderSince, span, hi]

/-- An input that neither connects nor disconnects `u`. -/
theorem senderSince_other (hd : i.disconnects u = false) (hc : i.connects u = false)
    (hs : i.carries u = none) : senderSince u (inputs ++ [i]) = senderSince u inputs := by
  simp [senderSince, span_concat hd, hc, hs]

/-- What is carried, a `Connect` carries. -/
theorem findSome?_carries {l : List ListInput} (hl : l.any (·.connects u) = false) :
    l.findSome? (·.carries u) = none := by
  rw [List.findSome?_eq_none_iff]
  intro x hx
  have hxc := List.any_eq_false.mp hl x hx
  unfold carries
  split
  · next d' c => rw [if_neg (by simpa [connects] using hxc)]
  · rfl

theorem senderSince_connect {d : Device} (hd : d.uuid = u) (commands : Option HandlerId) :
    senderSince u (inputs ++ [.message (.connect d commands)]) =
      some (commands.or ((senderSince u inputs).getD none)) := by
  have hc : connects u (.message (.connect d commands)) = true := by simp [connects, hd]
  have hs : carries u (.message (.connect d commands)) = commands := by simp [carries, hd]
  unfold senderSince
  rw [span_concat rfl, List.any_cons, List.findSome?_cons, hc, hs, Bool.true_or, if_pos rfl]
  cases commands with
  | some h => rfl
  | none =>
    cases ha : (span u inputs).any (·.connects u) with
    | true => rfl
    | false => exact congrArg some (findSome?_carries ha)

end ListInput

/-! ## Distinct keys -/

/-- The UUIDs of the devices are distinct, and the ids of the dongles. -/
structure Lists.Maps (l : Lists) : Prop where
  devices : Distinct (fun e : Device × Option HandlerId => e.1.uuid) l.devices
  dongles : Distinct (fun e : DongleInfo × ManagerId => e.1.id) l.dongles

namespace DeviceList

variable {l : DeviceList} {u : Uuid}

theorem map_update {f : Device × Option HandlerId → Device × Option HandlerId}
    (hf : ∀ e, e.1.uuid = u → (f e).1.uuid = u) :
    (l.update u f).map (fun e => e.1.uuid) = l.map fun e => e.1.uuid := by
  induction l with
  | nil => rfl
  | cons e l ih =>
    unfold update
    split
    · next he => rw [List.map_cons, List.map_cons, hf e he, he]
    · rw [List.map_cons, List.map_cons, ih]

theorem distinct_update (h : Distinct (fun e : Device × Option HandlerId => e.1.uuid) l)
    {f : Device × Option HandlerId → Device × Option HandlerId}
    (hf : ∀ e, e.1.uuid = u → (f e).1.uuid = u) :
    Distinct (fun e : Device × Option HandlerId => e.1.uuid) (l.update u f) :=
  h.of_map_eq (map_update hf)

theorem distinct_forward (h : Distinct (fun e : Device × Option HandlerId => e.1.uuid) l)
    (m : Message) : Distinct (fun e : Device × Option HandlerId => e.1.uuid) (l.forward m) := by
  cases m with
  | connect d commands =>
    simp only [forward]
    split
    · cases commands with
      | some k => exact distinct_update h fun _ _ => rfl
      | none => exact distinct_update h fun _ _ => rfl
    · next hu =>
      refine h.concat fun e he hk => hu ?_
      rw [hasUuid, List.any_eq_true]
      exact ⟨e, he, by simpa using hk⟩
  | disconnect d => exact h.eraseP _
  | updateDevice d => exact distinct_update h fun _ _ => rfl
  | updateName u name => exact distinct_update h fun e he => (e.1.setName_uuid name).trans he
  | dongleConnect | dongleUpdate | dongleDisconnect => exact h

/-- With distinct UUIDs a `Disconnect` leaves its UUID without sender. -/
theorem senderForUuid_disconnect_self (h : Distinct (fun e : Device × Option HandlerId => e.1.uuid) l)
    (d : Device) : (l.forward (.disconnect d)).senderForUuid d.uuid = none := by
  rw [senderForUuid, forward, h.find?_eraseP]
  rfl

end DeviceList

theorem distinct_forwardDongle {l : List (DongleInfo × ManagerId)}
    (h : Distinct (fun e : DongleInfo × ManagerId => e.1.id) l) (m : Message) :
    Distinct (fun e : DongleInfo × ManagerId => e.1.id) (forwardDongle l m) := by
  cases m with
  | dongleConnect info commands =>
    simp only [forwardDongle]
    split
    · next i hi =>
      obtain ⟨y, hy, hk⟩ := exists_of_findIdx?_some hi
      exact h.set hy hk.symm
    · next hi => exact h.concat (forall_of_findIdx?_none hi)
  | dongleUpdate info =>
    simp only [forwardDongle]
    split
    · next i hi =>
      obtain ⟨y, hy, hk⟩ := exists_of_findIdx?_some hi
      rw [KeyedList.modify_eq_set hy]
      exact h.set hy hk.symm
    · exact h
  | dongleDisconnect id => exact h.eraseP _
  | connect | disconnect | updateDevice | updateName => exact h

theorem Lists.Maps.next {l : Lists} (h : l.Maps) (i : ListInput) : (l.next i).Maps := by
  cases i with
  | message m => exact ⟨DeviceList.distinct_forward h.devices m, distinct_forwardDongle h.dongles m⟩
  | event => exact h
  | rename u name =>
    exact ⟨DeviceList.distinct_update h.devices fun e he => (e.1.setName_uuid name).trans he, h.dongles⟩

/-! ## The sender of a UUID -/

/-- One more input changes the sender of `u` as its history says. -/
theorem senderForUuid_next {l : Lists} (hl : l.Maps) {u : Uuid} {inputs : List ListInput}
    (h : l.devices.senderForUuid u = ListInput.senderSince u inputs) (i : ListInput) :
    (l.next i).devices.senderForUuid u = ListInput.senderSince u (inputs ++ [i]) := by
  have other : i.disconnects u = false → i.connects u = false → i.carries u = none →
      (l.next i).devices.senderForUuid u = l.devices.senderForUuid u →
      (l.next i).devices.senderForUuid u = ListInput.senderSince u (inputs ++ [i]) := by
    intro hd hc hs he
    rw [he, h, ListInput.senderSince_other hd hc hs]
  cases i with
  | event => exact other rfl rfl rfl rfl
  | rename v name => exact other rfl rfl rfl (DeviceList.senderForUuid_updateName name)
  | message m =>
    cases m with
    | connect d commands =>
      by_cases hd : d.uuid = u
      · cases commands with
        | some k =>
          rw [ListInput.senderSince_connect hd]
          exact (DeviceList.senderForUuid_connect_some d k).trans (if_pos hd.symm)
        | none =>
          rw [ListInput.senderSince_connect hd, ← h]
          exact (DeviceList.senderForUuid_connect_none d).trans (if_pos hd.symm)
      · refine other rfl (by simp [ListInput.connects, hd]) (by simp [ListInput.carries, hd]) ?_
        cases commands with
        | some k => exact (DeviceList.senderForUuid_connect_some d k).trans (if_neg (Ne.symm hd))
        | none => exact (DeviceList.senderForUuid_connect_none d).trans (if_neg (Ne.symm hd))
    | disconnect d =>
      by_cases hd : d.uuid = u
      · rw [ListInput.senderSince_disconnect (by simp [ListInput.disconnects, hd])]
        subst hd
        exact DeviceList.senderForUuid_disconnect_self hl.devices d
      · exact other (by simp [ListInput.disconnects, hd]) rfl rfl
          (DeviceList.senderForUuid_disconnect d (Ne.symm hd))
    | updateDevice d => exact other rfl rfl rfl (DeviceList.senderForUuid_updateDevice d)
    | updateName v name => exact other rfl rfl rfl (DeviceList.senderForUuid_updateName name)
    | dongleConnect | dongleUpdate | dongleDisconnect => exact other rfl rfl rfl rfl

/-- **The lists are maps.**  After every sequence of messages and renames the UUIDs of the
one list and the ids of the other are distinct, and `sender_for_uuid` finds what the
history of the UUID leaves: the sender of its last `Connect` since its last `Disconnect`
that carried one. -/
theorem lists_are_maps (inputs : List ListInput) :
    (Lists.after inputs).Maps ∧
      ∀ u, (Lists.after inputs).devices.senderForUuid u = ListInput.senderSince u inputs := by
  induction inputs using List.reverseRecOn with
  | nil => exact ⟨⟨distinct_nil _, distinct_nil _⟩, fun _ => rfl⟩
  | append_singleton inputs i ih =>
    rw [Lists.after_concat]
    exact ⟨ih.1.next i, fun u => senderForUuid_next ih.1 (ih.2 u) i⟩

/-! ## The lists of the server -/

namespace Sys

variable {s s' : Sys}

def lists (s : Sys) : Lists := ⟨s.deviceList, s.dongleList⟩

/-- `dongle_list` changes in the forwarding loop only. -/
theorem step_dongleList {e : Event} (h : s.Step e s') (he : e ≠ .forward) :
    s'.dongleList = s.dongleList := by
  cases e with
  | scan e => exact (scan_frame h).dongleList
  | manager m e => exact (manager_frame h).dongleList
  | handler k e => exact (handler_frame h).dongleList
  | forward => exact absurd rfl he
  | request | deliver | cancel | rename | paired => exact (client_frame rfl h).dongleList

/-- A step of the server leaves its lists, or processes one input. -/
theorem step_lists {e : Event} (h : s.Step e s') :
    s'.lists = s.lists ∨ ∃ i, s'.lists = s.lists.next i := by
  by_cases he : e = .forward
  · subst he
    have hf : s.forward = some s' := h
    unfold forward at hf
    split at hf
    · next m rest _ =>
      cases hf
      exact .inr ⟨.message m, rfl⟩
    · cases hf
  · have hd := step_dongleList h he
    obtain ⟨ms, -, hs⟩ | ⟨rfl, -⟩ | ⟨u, name, rfl, rfl⟩ := mail h
    · exact .inl (by rw [lists, lists, hs.list, hd])
    · exact absurd rfl he
    · exact .inr ⟨.rename u name, rfl⟩

end Sys

end OdysseyHub
