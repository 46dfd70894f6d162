import Mathlib.Logic.Basic

/-!
# Integer parsing

`char::to_digit`, `char::is_ascii_hexdigit` and `from_str_radix` of the unsigned
integer types, as the Rust standard library documents them: an optional leading
`+`, at least one digit, no overflow.  A number is read back from its decimal
digits (`fromStrRadix_toDigits`).
-/

namespace Parse

/-- `c.to_digit(radix)`, for a radix of at most 36. -/
def toDigit (radix : Nat) (c : Char) : Option Nat :=
  let n := c.toNat
  let d : Option Nat :=
    if 48 ≤ n ∧ n ≤ 57 then some (n - 48)
    else if 97 ≤ n ∧ n ≤ 122 then some (n - 87)
    else if 65 ≤ n ∧ n ≤ 90 then some (n - 55)
    else none
  d.filter (· < radix)

/-- `c.is_ascii_hexdigit()`. -/
def isAsciiHexdigit (c : Char) : Bool := (toDigit 16 c).isSome

/-- The digits of a number below `bound`, read from the left. -/
def digits (radix bound : Nat) : Nat → List Char → Option Nat
  | acc, [] => some acc
  | acc, c :: cs =>
    match toDigit radix c with
    | some d =>
      if acc * radix + d < bound then digits radix bound (acc * radix + d) cs else none
    | none => none

/-- `from_str_radix` of the unsigned type with `bound` values. -/
def fromStrRadix (radix bound : Nat) (s : List Char) : Option Nat :=
  let ds := match s with
    | '+' :: rest => rest
    | _ => s
  match ds with
  | [] => none
  | _ => digits radix bound 0 ds

/-- One more digit that keeps the number below the bound. -/
theorem digits_cons {radix bound acc d : Nat} {c : Char} (h : toDigit radix c = some d)
    (hlt : acc * radix + d < bound) (cs : List Char) :
    digits radix bound acc (c :: cs) = digits radix bound (acc * radix + d) cs := by
  rw [digits, h]
  exact if_pos hlt

theorem fromStrRadix_of_ne_plus {radix bound : Nat} {c : Char} {cs : List Char} (h : c ≠ '+') :
    fromStrRadix radix bound (c :: cs) = digits radix bound 0 (c :: cs) := by
  unfold fromStrRadix
  split
  · next hplus => exact absurd (List.cons.inj hplus).1 h
  · rfl

example : fromStrRadix 16 256 ['f', 'F'] = some 255 := by decide

/-! ## Decimal digits -/

theorem digits_append {radix bound acc : Nat} (cs ds : List Char) :
    digits radix bound acc (cs ++ ds) =
      (digits radix bound acc cs).bind fun acc => digits radix bound acc ds := by
  induction cs generalizing acc with
  | nil => rfl
  | cons c cs ih =>
    rw [List.cons_append, digits, digits]
    cases toDigit radix c with
    | none => rfl
    | some d =>
      dsimp only
      split
      · exact ih
      · rfl

theorem toDigit_digitChar : ∀ n < 10, toDigit 10 (Nat.digitChar n) = some n := by decide

theorem digits_toDigits {bound n : Nat} (h : n < bound) : digits 10 bound 0 (Nat.toDigits 10 n) = some n := by
  induction n using Nat.strongRecOn with
  | _ n ih =>
    rcases Nat.lt_or_ge n 10 with hlt | hge
    · have hacc : 0 * 10 + n < bound := by omega
      rw [Nat.toDigits_of_lt_base hlt, digits_cons (toDigit_digitChar n hlt) hacc, digits, Nat.zero_mul, Nat.zero_add]
    · have hacc : n / 10 * 10 + n % 10 = n := by omega
      have hmod : n % 10 < 10 := Nat.mod_lt n (by decide)
      rw [Nat.toDigits_of_base_le (by decide) hge, digits_append, ih (n / 10) (by omega) (by omega), Option.bind_some,
        digits_cons (toDigit_digitChar _ hmod) (by omega), digits, hacc]

/-- A number is read back from its decimal digits. -/
theorem fromStrRadix_toDigits {bound n : Nat} (h : n < bound) :
    fromStrRadix 10 bound (Nat.toDigits 10 n) = some n := by
  obtain ⟨c, cs, hcs⟩ := List.exists_cons_of_length_pos (Nat.length_toDigits_pos (b := 10) (n := n))
  have hdigit : c.isDigit = true :=
    Nat.isDigit_of_mem_toDigits (by decide) (by decide) (hcs ▸ List.mem_cons_self)
  have hplus : c ≠ '+' := by
    rintro rfl
    cases hdigit
  rw [hcs, fromStrRadix_of_ne_plus hplus, ← hcs, digits_toDigits h]

end Parse
