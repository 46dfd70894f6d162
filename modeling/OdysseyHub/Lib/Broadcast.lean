import Mathlib.Data.List.Basic

/-!
# Receivers of broadcast channels

A sender of a broadcast channel never waits.  Of what a receiver has not read yet the channel
keeps the last `capacity` values, and a receiver that has fallen further behind is told so.  It
can give up there, and then all it has read is a prefix of what was sent (`Complete`), or go on
with the values that are left, and then it reads them in order, the last `capacity` of them for
certain (`Recent`).
-/

namespace Broadcast

variable {α β : Type*}

/-- A receiver, with all values sent since it was made. -/
structure Receiver (α : Type*) where
  sent : List α
  unread : List α
  received : List α

namespace Receiver

def new : Receiver α := ⟨[], [], []⟩

def send (r : Receiver α) (v : α) : Receiver α := { r with sent := r.sent ++ [v], unread := r.unread ++ [v] }

/-- The first unread value is read. -/
def take (r : Receiver α) (v : α) (rest : List α) : Receiver α :=
  { r with unread := rest, received := r.received ++ [v] }

/-- All but the last `capacity` unread values are overwritten. -/
def skip (capacity : Nat) (r : Receiver α) : Receiver α :=
  { r with unread := r.unread.drop (r.unread.length - capacity) }

/-! ## Nothing is missing -/

def Complete (r : Receiver α) : Prop := r.received ++ r.unread = r.sent

theorem complete_new : (new : Receiver α).Complete := rfl

variable {r : Receiver α} {v : α} {rest : List α}

theorem Complete.send (h : r.Complete) (v : α) : (r.send v).Complete := by
  unfold Complete Receiver.send
  rw [← List.append_assoc, show r.received ++ r.unread = r.sent from h]

theorem Complete.take (h : r.Complete) (hr : r.unread = v :: rest) : (r.take v rest).Complete := by
  have hsent : r.received ++ r.unread = r.sent := h
  unfold Complete Receiver.take
  rw [← hsent, hr, List.append_assoc, List.singleton_append]

theorem Complete.isPrefix (h : r.Complete) : r.received <+: r.sent := ⟨r.unread, h⟩

/-! ## The last values are there -/

/-- In order, and with the last `capacity` values. -/
structure Recent (capacity : Nat) (r : Receiver α) : Prop where
  sublist : (r.received ++ r.unread).Sublist r.sent
  last : r.sent.drop (r.sent.length - capacity) <:+ r.received ++ r.unread

variable {capacity : Nat}

/-- A receiver that has not missed anything. -/
theorem Complete.recent (h : r.Complete) (capacity : Nat) : r.Recent capacity := by
  have hsent : r.received ++ r.unread = r.sent := h
  exact ⟨hsent ▸ List.Sublist.refl _, hsent ▸ List.drop_suffix _ _⟩

theorem recent_new (capacity : Nat) : (new : Receiver α).Recent capacity := complete_new.recent capacity

theorem Recent.send (h : r.Recent capacity) (v : α) : (r.send v).Recent capacity := by
  refine ⟨?_, ?_⟩
  · show (r.received ++ (r.unread ++ [v])).Sublist (r.sent ++ [v])
    rw [← List.append_assoc]
    exact h.sublist.append (List.Sublist.refl _)
  · show (r.sent ++ [v]).drop ((r.sent ++ [v]).length - capacity) <:+ r.received ++ (r.unread ++ [v])
    cases capacity with
    | zero =>
      rw [Nat.sub_zero, List.drop_length]
      exact List.nil_suffix
    | succ c =>
      have hle : r.sent.length - c ≤ r.sent.length := Nat.sub_le _ _
      have hfewer : r.sent.drop (r.sent.length - c) <:+ r.sent.drop (r.sent.length - (c + 1)) :=
        List.drop_suffix_drop_left _ (by omega)
      rw [List.length_append, List.length_singleton, Nat.add_sub_add_right, List.drop_append_of_le_length hle,
        ← List.append_assoc]
      exact List.suffix_append_self_iff.mpr (hfewer.trans h.last)

theorem Recent.take (h : r.Recent capacity) (hr : r.unread = v :: rest) : (r.take v rest).Recent capacity := by
  have hsame : (r.take v rest).received ++ (r.take v rest).unread = r.received ++ r.unread := by
    show r.received ++ [v] ++ rest = _
    rw [hr, List.append_assoc, List.singleton_append]
  exact ⟨hsame ▸ h.sublist, hsame ▸ h.last⟩

/-- What is overwritten is older than the last `capacity` values. -/
theorem Recent.skip (h : r.Recent capacity) (hlag : capacity < r.unread.length) :
    (r.skip capacity).Recent capacity := by
  have hkept : r.unread.drop (r.unread.length - capacity) <:+ r.received ++ r.unread :=
    (List.drop_suffix _ _).trans (List.suffix_append _ _)
  refine ⟨?_, ?_⟩
  · exact ((List.Sublist.refl _).append (List.drop_sublist _ _)).trans h.sublist
  · refine (List.suffix_of_suffix_length_le h.last hkept ?_).trans (List.suffix_append _ _)
    simp only [List.length_drop]
    omega

/-! ## The last value of a kind -/

/-- Where the last value of a kind is among the last `capacity`, a receiver that has read
everything has it as its last of this kind. -/
theorem Recent.getLast?_filterMap (h : r.Recent capacity) (hread : r.unread = []) (f : α → Option β)
    (hf : (r.sent.drop (r.sent.length - capacity)).filterMap f ≠ []) :
    (r.received.filterMap f).getLast? = (r.sent.filterMap f).getLast? := by
  obtain ⟨older, holder⟩ := h.last
  rw [hread, List.append_nil] at holder
  rw [← holder, List.filterMap_append, List.getLast?_append_of_ne_nil _ hf]
  conv => rhs; rw [← List.take_append_drop (r.sent.length - capacity) r.sent]
  rw [List.filterMap_append, List.getLast?_append_of_ne_nil _ hf]

end Receiver

end Broadcast
