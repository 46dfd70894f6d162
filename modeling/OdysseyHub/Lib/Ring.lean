import Mathlib.Data.List.DropRight

/-!
# Ring buffers

A bounded queue keeps the last `c` values put in.  A ring of `c` cells holds such a queue:
the next value goes to the cell `head`, and once `full` is set the oldest value is the one
it replaces.

    Holds cells head full q → Holds … (enqueue cells.length q x)     (Holds.write)
    the cells in use are a permutation of `q`                        (Holds.perm)
-/

namespace Ring

variable {α : Type*}

/-! ## Bounded queues -/

/-- Put a value behind the queue `q`; the oldest goes when there are more than `c`. -/
def enqueue (c : Nat) (q : List α) (x : α) : List α := (q ++ [x]).rtake c

theorem length_rtake (c : Nat) (l : List α) : (l.rtake c).length = min l.length c := by
  unfold List.rtake
  rw [List.length_drop]
  omega

theorem map_rtake {β : Type*} (f : α → β) (c : Nat) (l : List α) : (l.map f).rtake c = (l.rtake c).map f := by
  unfold List.rtake
  rw [List.length_map, List.map_drop]

/-- The queue of the last `c` of `l`, after one more. -/
theorem enqueue_rtake (c : Nat) (l : List α) (x : α) : enqueue c (l.rtake c) x = (l ++ [x]).rtake c := by
  unfold enqueue
  cases c with
  | zero => rw [List.rtake_zero, List.rtake_zero]
  | succ c =>
    rw [List.rtake_concat_succ, List.rtake_concat_succ]
    congr 1
    unfold List.rtake
    rw [List.drop_drop, List.length_drop]
    congr 1
    omega

/-- **Queues.**  A queue that was empty has the last `c` values. -/
theorem foldl_enqueue (c : Nat) (l : List α) : l.foldl (enqueue c) [] = l.rtake c := by
  induction l using List.reverseRecOn with
  | nil => rw [List.foldl_nil, List.rtake_nil]
  | append_singleton l x ih => rw [List.foldl_concat, ih, enqueue_rtake]

/-! ## Rings -/

/-- The cells hold the queue `q`, oldest first: from the start as long as they have not
gone round, and from `head` on, round the end, afterwards. -/
def Holds (cells : List (Option α)) (head : Nat) (full : Bool) (q : List α) : Prop :=
  if full then cells.drop head ++ cells.take head = q.map some else cells.take head = q.map some

/-- The cells in use. -/
def used (cells : List (Option α)) (head : Nat) (full : Bool) : List (Option α) :=
  cells.take (if full then cells.length else head)

variable {cells : List (Option α)} {head : Nat} {full : Bool} {q : List α}

theorem holds_new (c : Nat) : Holds (List.replicate c (none : Option α)) 0 false [] := by
  simp [Holds]

theorem Holds.perm (h : Holds cells head full q) : (used cells head full).Perm (q.map some) := by
  unfold Holds at h
  unfold used
  cases full with
  | true =>
    rw [if_pos rfl] at h
    rw [if_pos rfl, List.take_length, ← h]
    have hsplit : (cells.take head ++ cells.drop head).Perm (cells.drop head ++ cells.take head) :=
      List.perm_append_comm
    rwa [List.take_append_drop] at hsplit
  | false =>
    rw [if_neg Bool.false_ne_true] at h
    rw [if_neg Bool.false_ne_true, h]

/-- The cells behind the one written, round the end to it. -/
theorem rotate_set (hh : head < cells.length) (x : α) :
    (cells.set head (some x)).drop (head + 1) ++ (cells.set head (some x)).take (head + 1) =
      cells.drop (head + 1) ++ cells.take head ++ [some x] := by
  rw [List.drop_set_of_lt (Nat.lt_succ_self head), List.take_add_one, List.take_set_of_le (Nat.le_refl head),
    List.getElem?_set_self hh, List.append_assoc]
  rfl

/-- The values older than the one written: all of a ring that has not gone round, all but
the oldest of one that has. -/
theorem Holds.kept (h : Holds cells head full q) (hh : head < cells.length) (x : α) :
    (if full then cells.drop (head + 1) ++ cells.take head else cells.take head) ++ [some x] =
      (enqueue cells.length q x).map some := by
  have hlen := h.perm.length_eq
  unfold Holds at h
  unfold used at hlen
  unfold enqueue List.rtake
  rw [List.length_map] at hlen
  rw [List.length_append, List.length_singleton, List.map_drop, List.map_append, List.map_singleton]
  cases full with
  | true =>
    rw [if_pos rfl] at h hlen
    rw [List.take_length] at hlen
    rw [if_pos rfl, ← h, ← hlen, Nat.add_sub_cancel_left, List.drop_eq_getElem_cons hh]
    rfl
  | false =>
    rw [if_neg Bool.false_ne_true] at h hlen
    rw [List.length_take_of_le (Nat.le_of_lt hh)] at hlen
    rw [if_neg Bool.false_ne_true, ← h, ← hlen, Nat.sub_eq_zero_of_le hh, List.drop_zero]

/-- **Writing.**  A value written at the head is put behind the queue; the ring has gone
round when the head comes back to the first cell. -/
theorem Holds.write (h : Holds cells head full q) (hh : head < cells.length) (x : α) :
    Holds (cells.set head (some x)) ((head + 1) % cells.length)
      (full || (head + 1) % cells.length == 0) (enqueue cells.length q x) := by
  have hkept := h.kept hh x
  have hrot := rotate_set hh x
  rcases Nat.lt_or_ge (head + 1) cells.length with hlt | hge
  · have hne : (head + 1 == 0) = false := rfl
    unfold Holds
    rw [Nat.mod_eq_of_lt hlt, hne, Bool.or_false, ← hkept]
    cases full with
    | true => exact hrot
    | false =>
      rw [if_neg Bool.false_ne_true, if_neg Bool.false_ne_true, List.take_add_one, List.take_set_of_le (Nat.le_refl head),
        List.getElem?_set_self hh]
      rfl
  · have heq : head + 1 = cells.length := Nat.le_antisymm hh hge
    have hset : (cells.set head (some x)).length = head + 1 := by rw [List.length_set, heq]
    have hold : cells.drop (head + 1) = [] := List.drop_eq_nil_of_le hge
    unfold Holds
    rw [List.drop_eq_nil_of_le (Nat.le_of_eq hset), List.take_of_length_le (Nat.le_of_eq hset), hold,
      List.nil_append, List.nil_append] at hrot
    rw [hold, List.nil_append, ite_self] at hkept
    rw [← heq, Nat.mod_self, beq_self_eq_true, Bool.or_true, if_pos rfl, List.drop_zero, List.take_zero,
      List.append_nil, hrot, hkept, heq]

end Ring
