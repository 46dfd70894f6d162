import OdysseyHub.Common.HexKeyMap
import OdysseyHub.Lib.Utf8
import Mathlib.Data.List.GetD

/-!
# The keys that are read

Which strings `HexKeyMapN` reads as keys, against the format it writes them in: "0x"
and two hex digits a byte.  `u8::from_str_radix` takes a plus sign for a leading digit,
so some strings outside the format are read too (`parsedExactly_iff`); and a slice
of two bytes that ends inside a character panics (`deserialize_isSome_iff`).
-/

namespace OdysseyHub

namespace HexKeyMapN

open Utf8

variable {N : Nat} {V : Type}

/-! ## The format -/

def IsHexDigit (c : Char) : Prop :=
  ('0' ≤ c ∧ c ≤ '9') ∨ ('a' ≤ c ∧ c ≤ 'f') ∨ ('A' ≤ c ∧ c ≤ 'F')

instance (c : Char) : Decidable (IsHexDigit c) := by
  unfold IsHexDigit
  infer_instance

/-- The value of a hex digit. -/
def digitValue (c : Char) : Nat :=
  if c ≤ '9' then c.toNat - '0'.toNat
  else if c ≤ 'F' then c.toNat - 'A'.toNat + 10
  else c.toNat - 'a'.toNat + 10

/-- "0x" and `2 * N` characters, all of them hex digits. -/
structure IsKey (N : Nat) (keyString : String) (digits : List Char) : Prop where
  text : keyString.toList = '0' :: 'x' :: digits
  count : digits.length = 2 * N
  hex : ∀ c ∈ digits, IsHexDigit c

/-- The bytes that digits denote, the first of a pair being the upper half. -/
def denoted (N : Nat) (digits : List Char) : Vector UInt8 N :=
  Vector.ofFn fun i =>
    UInt8.ofNat (16 * digitValue (digits.getD (2 * i) '0') + digitValue (digits.getD (2 * i + 1) '0'))

/-- Pairs of a digit or a plus sign, and a digit. -/
def HalvesOk (n : Nat) (digits : List Char) : Prop :=
  ∀ i < n, (IsHexDigit (digits.getD (2 * i) '0') ∨ digits.getD (2 * i) '0' = '+') ∧
    IsHexDigit (digits.getD (2 * i + 1) '0')

/-- What from_str_radix reads beyond the format: a plus sign for an upper half. -/
structure IsSignedKey (N : Nat) (keyString : String) (digits : List Char) : Prop where
  text : keyString.toList = '0' :: 'x' :: digits
  count : digits.length = 2 * N
  pairs : HalvesOk N digits
  signed : '+' ∈ digits

/-- A key is read as the bytes it denotes if it has the format, and refused with an error
otherwise, whatever was read before it and comes after it. -/
structure ParsedExactly (N : Nat) (v : V) (keyString : String) : Prop where
  accepts : ∀ digits, IsKey N keyString digits → ∀ values rest,
    visitMap values ((keyString, v) :: rest) = visitMap (values.insert (denoted N digits) v) rest
  rejects : (∀ digits, ¬ IsKey N keyString digits) → ∀ (values : HashMap (Vector UInt8 N) V) rest,
    ∃ e, visitMap values ((keyString, v) :: rest) = some (.error e)

/-! ## Pairs of digits -/

/-- Characters that the loop reads two by two, and the bytes it makes of them. -/
inductive Pairs : List Char → List UInt8 → Prop
  | nil : Pairs [] []
  | cons {c d cs b bs} : c.toNat < 128 → d.toNat < 128 →
      fromStrRadix c.toNat.toUInt8 d.toNat.toUInt8 = some b → Pairs cs bs → Pairs (c :: d :: cs) (b :: bs)

/-- Something stands where a pair should that is none. -/
def Stuck : List Char → Prop
  | [] => False
  | [_] => True
  | c :: d :: _ => ¬ (c.toNat < 128 ∧ d.toNat < 128 ∧ (fromStrRadix c.toNat.toUInt8 d.toNat.toUInt8).isSome)

/-- A text is pairs up to its end, or up to something that is no pair. -/
theorem exists_pairs : ∀ cs : List Char, ∃ pre t bs, cs = pre ++ t ∧ Pairs pre bs ∧ (t = [] ∨ Stuck t)
  | [] => ⟨[], [], [], rfl, .nil, Or.inl rfl⟩
  | [c] => ⟨[], [c], [], rfl, .nil, Or.inr trivial⟩
  | c :: d :: cs => by
    by_cases h : c.toNat < 128 ∧ d.toNat < 128 ∧ (fromStrRadix c.toNat.toUInt8 d.toNat.toUInt8).isSome
    · obtain ⟨hc, hd, hb⟩ := h
      obtain ⟨b, hb⟩ := Option.isSome_iff_exists.mp hb
      obtain ⟨pre, t, bs, rfl, hpairs, ht⟩ := exists_pairs cs
      exact ⟨c :: d :: pre, t, b :: bs, rfl, .cons hc hd hb hpairs, ht⟩
    · exact ⟨[], c :: d :: cs, [], rfl, .nil, Or.inr h⟩

theorem any_isContinuation (n : Nat) (cs : List Char) :
    ((bytes cs).drop n).head?.any isContinuation = true ↔ Straddles n cs := by
  rw [← isTail_head_drop]
  simp only [Option.any_eq_true_iff_get, isContinuation, IsTail, beq_iff_eq]
  constructor
  · rintro ⟨h, hb⟩
    exact ⟨_, Option.get_mem h, hb⟩
  · rintro ⟨b, hmem, hb⟩
    have h : ((bytes cs).drop n).head? = some b := hmem
    exact ⟨by rw [h]; rfl, by simpa [h] using hb⟩

/-- The slices of pairs panic nowhere. -/
theorem decodeBytes_pairs {pre : List Char} {bs : List UInt8} (h : Pairs pre bs) (t : List Char) :
    decodeBytes (bytes (pre ++ t)) = (decodeBytes (bytes t)).map fun r => r.map fun rest => bs ++ rest := by
  induction h with
  | nil =>
    rw [List.nil_append]
    cases decodeBytes (bytes t) with
    | none => rfl
    | some r => cases r <;> rfl
  | @cons c d cs b bs hc hd hb hpairs ih =>
    have hbytes : bytes (c :: d :: cs ++ t) = c.toNat.toUInt8 :: d.toNat.toUInt8 :: bytes (cs ++ t) := by
      simp [encode_ascii hc, encode_ascii hd]
    have hhead : ¬ (bytes (cs ++ t)).head?.any isContinuation = true := by
      intro hany
      obtain ⟨pre, c', post, -, hlo, -⟩ := (any_isContinuation 0 (cs ++ t)).mp hany
      omega
    rw [hbytes, decodeBytes, if_neg hhead, hb, ih]
    cases decodeBytes (bytes t) with
    | none => rfl
    | some r => cases r <;> rfl

/-- A slice that ends inside a character. -/
theorem decodeBytes_straddles {t : List Char} (h : Straddles 2 t) : decodeBytes (bytes t) = none := by
  obtain ⟨pre, c, post, ht, hlo, hhi⟩ := id h
  have hlen : 2 < (bytes t).length := by
    rw [length_bytes, ht, size_append, size_cons]
    omega
  obtain ⟨b₀, b₁, rest, hbytes⟩ : ∃ b₀ b₁ rest, bytes t = b₀ :: b₁ :: rest := by
    match hb : bytes t with
    | [] => simp [hb] at hlen
    | [_] => simp [hb] at hlen
    | b₀ :: b₁ :: rest => exact ⟨b₀, b₁, rest, rfl⟩
  have hany : rest.head?.any isContinuation = true := by
    have := (any_isContinuation 2 t).mpr h
    rwa [hbytes] at this
  rw [hbytes, decodeBytes, if_pos hany]

theorem fromStrRadix_large {b : UInt8} (hb : 0xC0 ≤ b) (b' : UInt8) : fromStrRadix b b' = none := by
  have hfacts : ∀ b : UInt8, 0xC0 ≤ b → hexValue b = none ∧ b ≠ 43 := forall_byte (by decide +kernel)
  obtain ⟨hvalue, hplus⟩ := hfacts b hb
  unfold fromStrRadix
  rw [hvalue]
  cases hexValue b' with
  | none => rfl
  | some lo => exact if_neg hplus

/-- It is an error that the first two bytes are no number. -/
theorem decodeBytes_noNumber {t : List Char} (hcut : ¬ Straddles 2 t) {b₀ b₁ : UInt8} (rest : List UInt8)
    (hbytes : bytes t = b₀ :: b₁ :: rest) (hnone : fromStrRadix b₀ b₁ = none) :
    ∃ e, decodeBytes (bytes t) = some (.error e) := by
  have hany : ¬ rest.head?.any isContinuation = true := by
    intro hany
    apply hcut
    rw [← any_isContinuation, hbytes]
    exact hany
  rw [hbytes, decodeBytes, if_neg hany, hnone]
  exact ⟨_, rfl⟩

/-- Any other end of the pairs is an error. -/
theorem decodeBytes_stuck {t : List Char} (hstuck : Stuck t) (heven : size t % 2 = 0)
    (hcut : ¬ Straddles 2 t) : ∃ e, decodeBytes (bytes t) = some (.error e) := by
  cases t with
  | nil => exact hstuck.elim
  | cons c t =>
    have hnot := hcut
    rw [straddles_cons] at hnot
    push Not at hnot
    obtain ⟨hshort, hnext⟩ := hnot
    have hpos := c.utf8Size_pos
    have hle := hshort (by omega)
    rw [size_cons] at heven
    by_cases h1 : c.utf8Size = 1
    · have hc := ascii_of_utf8Size h1
      cases t with
      | nil =>
        rw [size_nil] at heven
        omega
      | cons d t =>
        have hd : d.toNat < 128 := by
          by_cases h1' : d.utf8Size = 1
          · exact ascii_of_utf8Size h1'
          · have := d.utf8Size_pos
            exact absurd ((straddles_cons _ d t).mpr (Or.inl ⟨by omega, by omega⟩)) (hnext hle)
        have hnone : fromStrRadix c.toNat.toUInt8 d.toNat.toUInt8 = none := by
          cases hb : fromStrRadix c.toNat.toUInt8 d.toNat.toUInt8 with
          | none => rfl
          | some b => exact absurd ⟨hc, hd, by rw [hb]; rfl⟩ hstuck
        refine decodeBytes_noNumber hcut (bytes t) ?_ hnone
        rw [bytes_cons, bytes_cons, encode_ascii hc, encode_ascii hd]
        rfl
    · -- a character of two bytes, the first of which is no digit
      obtain ⟨b, rest, henc, hlead, -⟩ := encode_long h1
      have hlen := String.length_utf8EncodeChar c
      rw [henc, List.length_cons] at hlen
      obtain ⟨b', rfl⟩ : ∃ b', rest = [b'] := List.length_eq_one_iff.mp (by omega)
      refine decodeBytes_noNumber hcut (bytes t) ?_ (fromStrRadix_large hlead b')
      rw [bytes_cons, henc]
      rfl

theorem Pairs.size_eq {cs : List Char} {bs : List UInt8} (h : Pairs cs bs) : size cs = 2 * bs.length := by
  induction h with
  | nil => rfl
  | cons hc hd _ _ ih =>
    rw [size_cons, size_cons, utf8Size_of_ascii hc, utf8Size_of_ascii hd, ih, List.length_cons]
    omega

/-- A slice of the loop ends inside a character: behind pairs, one lies across offset 2. -/
def Cuts (cs : List Char) : Prop := ∃ pre t bs, cs = pre ++ t ∧ Pairs pre bs ∧ Straddles 2 t

theorem decodeBytes_of_pairs {cs : List Char} {bs : List UInt8} (h : Pairs cs bs) :
    decodeBytes (bytes cs) = some (.ok bs) := by
  have := decodeBytes_pairs h []
  rw [List.append_nil] at this
  rw [this]
  show some (Except.ok (bs ++ [])) = _
  rw [List.append_nil]

theorem decodeBytes_of_cuts {cs : List Char} (h : Cuts cs) : decodeBytes (bytes cs) = none := by
  obtain ⟨pre, t, bs, rfl, hpairs, hcut⟩ := h
  rw [decodeBytes_pairs hpairs, decodeBytes_straddles hcut, Option.map_none]

/-- The loop reads pairs to the end, panics at a cut, or fails. -/
theorem decodeBytes_error {cs : List Char} (heven : size cs % 2 = 0) (hpairs : ∀ bs, ¬ Pairs cs bs)
    (hcuts : ¬ Cuts cs) : ∃ e, decodeBytes (bytes cs) = some (.error e) := by
  obtain ⟨pre, t, bs, rfl, hpre, ht⟩ := exists_pairs cs
  rcases ht with rfl | hstuck
  · rw [List.append_nil] at hpairs
    exact absurd hpre (hpairs bs)
  · have hsize : size t % 2 = 0 := by
      rw [size_append, hpre.size_eq] at heven
      omega
    obtain ⟨e, he⟩ := decodeBytes_stuck hstuck hsize fun hcut => hcuts ⟨pre, t, bs, rfl, hpre, hcut⟩
    exact ⟨e, by rw [decodeBytes_pairs hpre, he]; rfl⟩

/-! ## Keys -/

/-- A byte of ASCII at the front is a character. -/
theorem eq_cons_of_bytes {cs : List Char} {b : UInt8} {s : List UInt8} (h : bytes cs = b :: s) (hb : b < 128) :
    ∃ c t, cs = c :: t ∧ c.toNat < 128 ∧ c.toNat.toUInt8 = b ∧ s = bytes t := by
  cases cs with
  | nil => cases h
  | cons c t =>
    rw [bytes_cons] at h
    by_cases h1 : c.utf8Size = 1
    · have hc := ascii_of_utf8Size h1
      rw [encode_ascii hc] at h
      obtain ⟨hhead, htail⟩ := List.cons.inj h
      exact ⟨c, t, rfl, hc, hhead, htail.symm⟩
    · obtain ⟨b', rest, henc, hlead, -⟩ := encode_long h1
      rw [henc] at h
      obtain ⟨rfl, -⟩ := List.cons.inj h
      have hfalse : ∀ b : UInt8, 0xC0 ≤ b → ¬ b < 128 := forall_byte (by decide +kernel)
      exact absurd hb (hfalse b' hlead)

/-- What stands behind the prefix, if it has the right number of bytes. -/
def Digits (N : Nat) (keyString : String) (digits : List Char) : Prop :=
  keyString.toList = '0' :: 'x' :: digits ∧ size digits = 2 * N

theorem decodeKey_of_digits {keyString : String} {digits : List Char} (h : Digits N keyString digits) :
    decodeKey N keyString =
      (decodeBytes (bytes digits)).map fun r => r.map fun bs => Vector.ofFn fun i => bs.getD i.val 0 := by
  have hbytes : keyString.toUTF8.data.toList = 48 :: 120 :: bytes digits := by
    rw [data_toUTF8, h.1]
    rfl
  unfold decodeKey
  rw [hbytes]
  exact if_neg fun hne => hne (by rw [length_bytes, h.2])

theorem decodeKey_refuses {keyString : String} (h : ∀ digits, ¬ Digits N keyString digits) :
    ∃ e, decodeKey N keyString = some (.error e) := by
  unfold decodeKey
  split
  · next s hs =>
    rw [data_toUTF8] at hs
    obtain ⟨c, t, hc, hascii, h0, ht⟩ := eq_cons_of_bytes hs (by decide)
    obtain ⟨d, digits, rfl, hascii', hx, rfl⟩ := eq_cons_of_bytes ht.symm (by decide)
    obtain rfl : c = '0' :=
      forall_ascii (p := fun c => c.toNat.toUInt8 = 48 → c = '0') (by decide +kernel) hascii h0
    obtain rfl : d = 'x' :=
      forall_ascii (p := fun c => c.toNat.toUInt8 = 120 → c = 'x') (by decide +kernel) hascii' hx
    have hlen : (bytes digits).length ≠ 2 * N := fun hlen => h digits ⟨hc, by rwa [length_bytes] at hlen⟩
    rw [if_pos hlen]
    exact ⟨_, rfl⟩
  · exact ⟨_, rfl⟩

/-- The keys that are read. -/
def Accepted (N : Nat) (keyString : String) (bs : List UInt8) : Prop :=
  ∃ digits, Digits N keyString digits ∧ Pairs digits bs

/-- The keys that panic. -/
def CutsKey (N : Nat) (keyString : String) : Prop := ∃ digits, Digits N keyString digits ∧ Cuts digits

theorem decodeKey_of_accepted {keyString : String} {bs : List UInt8} (h : Accepted N keyString bs) :
    decodeKey N keyString = some (.ok (Vector.ofFn fun i => bs.getD i.val 0)) := by
  obtain ⟨digits, hdigits, hpairs⟩ := h
  rw [decodeKey_of_digits hdigits, decodeBytes_of_pairs hpairs]
  rfl

theorem decodeKey_of_cuts {keyString : String} (h : CutsKey N keyString) : decodeKey N keyString = none := by
  obtain ⟨digits, hdigits, hcuts⟩ := h
  rw [decodeKey_of_digits hdigits, decodeBytes_of_cuts hcuts, Option.map_none]

theorem decodeKey_error {keyString : String} (haccept : ∀ bs, ¬ Accepted N keyString bs)
    (hcuts : ¬ CutsKey N keyString) : ∃ e, decodeKey N keyString = some (.error e) := by
  by_cases h : ∃ digits, Digits N keyString digits
  · obtain ⟨digits, hdigits⟩ := h
    have heven : size digits % 2 = 0 := by
      rw [hdigits.2]
      omega
    obtain ⟨e, he⟩ := decodeBytes_error heven (fun bs hpairs => haccept bs ⟨digits, hdigits, hpairs⟩)
      fun hcut => hcuts ⟨digits, hdigits, hcut⟩
    exact ⟨e, by rw [decodeKey_of_digits hdigits, he]; rfl⟩
  · exact decodeKey_refuses fun digits hdigits => h ⟨digits, hdigits⟩

/-! ## Keys of ASCII against the format -/

theorem hexValue_ascii {c : Char} (hc : c.toNat < 128) :
    (IsHexDigit c → hexValue c.toNat.toUInt8 = some (digitValue c)) ∧
      (¬ IsHexDigit c → hexValue c.toNat.toUInt8 = none) ∧ (c.toNat.toUInt8 = 43 ↔ c = '+') :=
  forall_ascii (p := fun c => (IsHexDigit c → hexValue c.toNat.toUInt8 = some (digitValue c)) ∧
    (¬ IsHexDigit c → hexValue c.toNat.toUInt8 = none) ∧ (c.toNat.toUInt8 = 43 ↔ c = '+'))
    (by decide +kernel) hc

theorem ascii_of_hexDigit {c : Char} (h : IsHexDigit c) : c.toNat < 128 := by
  rcases h with ⟨-, h⟩ | ⟨-, h⟩ | ⟨-, h⟩ <;>
    exact Nat.lt_of_le_of_lt (UInt32.le_iff_toNat_le.mp h) (by decide)

theorem not_hexDigit_plus : ¬ IsHexDigit '+' := by decide

/-- A pair that is read: its lower half is a digit, its upper half a digit or a plus sign. -/
theorem fromStrRadix_ascii {c d : Char} (hc : c.toNat < 128) (hd : d.toNat < 128) :
    fromStrRadix c.toNat.toUInt8 d.toNat.toUInt8 =
      if IsHexDigit d then
        if IsHexDigit c then some (UInt8.ofNat (16 * digitValue c + digitValue d))
        else if c = '+' then some (UInt8.ofNat (digitValue d)) else none
      else none := by
  obtain ⟨hcdigit, hcnone, hplus⟩ := hexValue_ascii hc
  obtain ⟨hddigit, hdnone, -⟩ := hexValue_ascii hd
  unfold fromStrRadix
  by_cases hhex : IsHexDigit d
  · rw [if_pos hhex, hddigit hhex]
    by_cases hhex' : IsHexDigit c
    · rw [if_pos hhex', hcdigit hhex']
    · rw [if_neg hhex', hcnone hhex']
      by_cases hc' : c = '+'
      · rw [if_pos hc']
        exact if_pos (hplus.mpr hc')
      · rw [if_neg hc']
        exact if_neg fun h => hc' (hplus.mp h)
  · rw [if_neg hhex, hdnone hhex]
    cases hexValue c.toNat.toUInt8 with
    | none => rfl
    | some hi => rfl

theorem halvesOk_cons {n : Nat} {c d : Char} {cs : List Char} :
    HalvesOk (n + 1) (c :: d :: cs) ↔ ((IsHexDigit c ∨ c = '+') ∧ IsHexDigit d) ∧ HalvesOk n cs := by
  constructor
  · intro h
    exact ⟨h 0 (Nat.succ_pos n), fun i hi => h (i + 1) (Nat.succ_lt_succ hi)⟩
  · rintro ⟨hfirst, hrest⟩ i hi
    cases i with
    | zero => exact hfirst
    | succ i => exact hrest i (Nat.lt_of_succ_lt_succ hi)

theorem Pairs.halves {cs : List Char} {bs : List UInt8} (h : Pairs cs bs) : HalvesOk bs.length cs := by
  induction h with
  | nil =>
    intro i hi
    exact absurd hi (Nat.not_lt_zero i)
  | @cons c d cs b bs hc hd hb _ ih =>
    rw [List.length_cons, halvesOk_cons]
    refine ⟨?_, ih⟩
    rw [fromStrRadix_ascii hc hd] at hb
    split at hb
    · next hhex =>
      split at hb
      · next hhex' => exact ⟨Or.inl hhex', hhex⟩
      · split at hb
        · next hplus => exact ⟨Or.inr hplus, hhex⟩
        · cases hb
    · cases hb

theorem exists_pairs_of_halves {n : Nat} {cs : List Char} (hlen : cs.length = 2 * n) (h : HalvesOk n cs) :
    ∃ bs, Pairs cs bs ∧ bs.length = n := by
  induction n generalizing cs with
  | zero =>
    obtain rfl := List.length_eq_zero_iff.mp hlen
    exact ⟨[], .nil, rfl⟩
  | succ n ih =>
    obtain ⟨c, d, cs, rfl⟩ : ∃ c d cs', cs = c :: d :: cs' := by
      match cs, hlen with
      | c :: d :: cs, _ => exact ⟨c, d, cs, rfl⟩
    obtain ⟨⟨hupper, hd⟩, hrest⟩ := halvesOk_cons.mp h
    obtain ⟨bs, hpairs, hbs⟩ := ih (by simp only [List.length_cons] at hlen; omega) hrest
    have hc : c.toNat < 128 := by
      rcases hupper with hc | rfl
      · exact ascii_of_hexDigit hc
      · decide
    have hd' := ascii_of_hexDigit hd
    obtain ⟨b, hb⟩ : ∃ b, fromStrRadix c.toNat.toUInt8 d.toNat.toUInt8 = some b := by
      rw [fromStrRadix_ascii hc hd', if_pos hd]
      rcases hupper with hc | rfl
      · exact ⟨_, if_pos hc⟩
      · exact ⟨_, by rw [if_neg not_hexDigit_plus, if_pos rfl]⟩
    exact ⟨b :: bs, .cons hc hd' hb hpairs, by rw [List.length_cons, hbs]⟩

/-- Pairs of digits alone are the bytes that they denote. -/
theorem Pairs.denoted {cs : List Char} {bs : List UInt8} (h : Pairs cs bs) (hhex : ∀ c ∈ cs, IsHexDigit c) :
    ∀ i < bs.length, bs.getD i 0 =
      UInt8.ofNat (16 * digitValue (cs.getD (2 * i) '0') + digitValue (cs.getD (2 * i + 1) '0')) := by
  induction h with
  | nil =>
    intro i hi
    exact absurd hi (Nat.not_lt_zero i)
  | @cons c d cs b bs hc hd hb _ ih =>
    intro i hi
    cases i with
    | zero =>
      rw [fromStrRadix_ascii hc hd, if_pos (hhex d (by simp)), if_pos (hhex c (by simp))] at hb
      exact (Option.some.inj hb).symm
    | succ i =>
      exact ih (fun c hc => hhex c (by simp [hc])) i (Nat.lt_of_succ_lt_succ hi)

theorem size_of_ascii {cs : List Char} (h : ∀ c ∈ cs, c.toNat < 128) : size cs = cs.length := by
  induction cs with
  | nil => rfl
  | cons c cs ih =>
    rw [size_cons, utf8Size_of_ascii (h c (by simp)), ih fun d hd => h d (by simp [hd]), List.length_cons]
    omega

theorem not_straddles_of_ascii {cs : List Char} (h : ∀ c ∈ cs, c.toNat < 128) (n : Nat) :
    ¬ Straddles n cs := by
  rintro ⟨pre, c, post, rfl, hlo, hhi⟩
  rw [utf8Size_of_ascii (h c (by simp))] at hhi
  omega

/-- A key of the format is read as its bytes. -/
theorem decodeKey_isKey {keyString : String} {digits : List Char} (h : IsKey N keyString digits) :
    decodeKey N keyString = some (.ok (denoted N digits)) := by
  have hascii : ∀ c ∈ digits, c.toNat < 128 := fun c hc => ascii_of_hexDigit (h.hex c hc)
  have hhalves : HalvesOk N digits := by
    intro i hi
    have hmem : ∀ j < 2 * N, IsHexDigit (digits.getD j '0') := by
      intro j hj
      have hj' : j < digits.length := by rw [h.count]; exact hj
      rw [List.getD_eq_getElem _ _ hj']
      exact h.hex _ (List.getElem_mem hj')
    exact ⟨Or.inl (hmem _ (by omega)), hmem _ (by omega)⟩
  obtain ⟨bs, hpairs, hlen⟩ := exists_pairs_of_halves h.count hhalves
  have hdigits : Digits N keyString digits := ⟨h.text, by rw [size_of_ascii hascii, h.count]⟩
  have hbytes := hpairs.denoted h.hex
  rw [decodeKey_of_accepted ⟨digits, hdigits, hpairs⟩]
  congr 2
  ext i hi
  simp only [Vector.getElem_ofFn, HexKeyMapN.denoted]
  rw [hbytes i (by rw [hlen]; exact hi)]

/-- … so is one with a plus sign. -/
theorem decodeKey_isSignedKey {keyString : String} {digits : List Char} (h : IsSignedKey N keyString digits) :
    ∃ key, decodeKey N keyString = some (.ok key) := by
  obtain ⟨bs, hpairs, hlen⟩ := exists_pairs_of_halves h.count h.pairs
  have hsize : size digits = 2 * N := by rw [hpairs.size_eq, hlen]
  exact ⟨_, decodeKey_of_accepted ⟨digits, ⟨h.text, hsize⟩, hpairs⟩⟩

/-- A key of ASCII that is read is of one of the two kinds. -/
theorem isKey_or_signed_of_accepted {keyString : String} (hascii : ∀ c ∈ keyString.toList, c.toNat < 128)
    {bs : List UInt8} (h : Accepted N keyString bs) :
    ∃ digits, IsKey N keyString digits ∨ IsSignedKey N keyString digits := by
  obtain ⟨digits, ⟨htext, hsize⟩, hpairs⟩ := h
  have hdigits : ∀ c ∈ digits, c.toNat < 128 := fun c hc => hascii c (by rw [htext]; simp [hc])
  have hcount : digits.length = 2 * N := by rw [← size_of_ascii hdigits, hsize]
  have hlen : bs.length = N := by
    have := hpairs.size_eq
    omega
  have hhalves : HalvesOk N digits := hlen ▸ hpairs.halves
  refine ⟨digits, ?_⟩
  by_cases hplus : '+' ∈ digits
  · exact Or.inr ⟨htext, hcount, hhalves, hplus⟩
  · refine Or.inl ⟨htext, hcount, fun c hc => ?_⟩
    obtain ⟨j, hj, rfl⟩ := List.getElem_of_mem hc
    have hdigit : IsHexDigit (digits.getD j '0') := by
      obtain ⟨i, hi | hi⟩ : ∃ i, j = 2 * i ∨ j = 2 * i + 1 := ⟨j / 2, by omega⟩
      · rcases (hhalves i (by omega)).1 with h | h
        · rwa [hi]
        · rw [← hi, List.getD_eq_getElem _ _ hj] at h
          exact absurd (h ▸ List.getElem_mem hj) hplus
      · rw [hi]
        exact (hhalves i (by omega)).2
    rwa [List.getD_eq_getElem _ _ hj] at hdigit

/-- **Keys.**  A key of ASCII is parsed exactly by the format unless it is one with a plus sign
for the upper half of a byte. -/
theorem parsedExactly_iff (v : V) (keyString : String) (hascii : ∀ c ∈ keyString.toList, c.toNat < 128) :
    ParsedExactly N v keyString ↔ ∀ digits, ¬ IsSignedKey N keyString digits := by
  constructor
  · intro h digits hsigned
    have hformat : ∀ digits', ¬ IsKey N keyString digits' := by
      intro digits' hkey
      have htext : '0' :: 'x' :: digits = '0' :: 'x' :: digits' := hsigned.text.symm.trans hkey.text
      obtain rfl : digits = digits' := by simpa using htext
      exact not_hexDigit_plus (hkey.hex '+' hsigned.signed)
    obtain ⟨e, he⟩ := h.rejects hformat ∅ []
    obtain ⟨key, hkey⟩ := decodeKey_isSignedKey hsigned
    rw [visitMap, hkey] at he
    cases he
  · intro hsigned
    constructor
    · intro digits hkey values rest
      rw [visitMap, decodeKey_isKey hkey]
    · intro hformat values rest
      have haccept : ∀ bs, ¬ Accepted N keyString bs := by
        intro bs hbs
        obtain ⟨digits, hkey | hkey⟩ := isKey_or_signed_of_accepted hascii hbs
        · exact hformat digits hkey
        · exact hsigned digits hkey
      have hcuts : ¬ CutsKey N keyString := by
        rintro ⟨digits, ⟨htext, -⟩, pre, t, bs, rfl, -, hcut⟩
        exact not_straddles_of_ascii (fun c hc => hascii c (by rw [htext]; simp [hc])) 2 hcut
      obtain ⟨e, he⟩ := decodeKey_error haccept hcuts
      exact ⟨e, by rw [visitMap, he]⟩

/-- "0x+a" is read as the byte 10. -/
theorem plus_accepted :
    (∀ digits, ¬ IsKey 1 "0x+a" digits) ∧ ¬ ParsedExactly 1 (0 : Nat) "0x+a" := by
  have hformat : ∀ digits, ¬ IsKey 1 "0x+a" digits := by
    rintro digits ⟨htext, -, hhex⟩
    obtain rfl : ['+', 'a'] = digits := by simpa using htext
    exact absurd (hhex '+' (by decide)) (by decide)
  refine ⟨hformat, fun h => ?_⟩
  obtain ⟨e, he⟩ := h.rejects hformat ∅ []
  have hread : decodeKey 1 "0x+a" = some (.ok #v[10]) := by decide +kernel
  rw [visitMap, hread] at he
  cases he

theorem parsedExactly_iff_key :
    ParsedExactly 2 (0 : Nat) "0xab09" ↔ ∀ digits, ¬ IsSignedKey 2 "0xab09" digits :=
  parsedExactly_iff 0 "0xab09" (by simp)

/-! ## Lists of entries -/

/-- The first key that is not read is one that panics. -/
def Fatal (N : Nat) (entries : List (String × V)) : Prop :=
  ∃ pre key v post, entries = pre ++ (key, v) :: post ∧ (∀ e ∈ pre, ∃ bs, Accepted N e.1 bs) ∧ CutsKey N key

theorem not_accepted_of_cuts {keyString : String} (h : CutsKey N keyString) (bs : List UInt8) :
    ¬ Accepted N keyString bs := by
  intro haccept
  have hnone := decodeKey_of_cuts h
  rw [decodeKey_of_accepted haccept] at hnone
  cases hnone

theorem fatal_cons_of_accepted {keyString : String} {v : V} {rest : List (String × V)} {bs : List UInt8}
    (h : Accepted N keyString bs) : Fatal N ((keyString, v) :: rest) ↔ Fatal N rest := by
  constructor
  · rintro ⟨pre, key, w, post, heq, hpre, hcut⟩
    cases pre with
    | nil =>
      obtain ⟨hentry, -⟩ := List.cons.inj heq
      obtain ⟨rfl, -⟩ := Prod.mk.inj hentry
      exact absurd h (not_accepted_of_cuts hcut bs)
    | cons e pre =>
      obtain ⟨-, rfl⟩ := List.cons.inj heq
      exact ⟨pre, key, w, post, rfl, fun e he => hpre e (List.mem_cons_of_mem _ he), hcut⟩
  · rintro ⟨pre, key, w, post, rfl, hpre, hcut⟩
    refine ⟨(keyString, v) :: pre, key, w, post, rfl, ?_, hcut⟩
    intro e he
    rcases List.mem_cons.mp he with rfl | he
    · exact ⟨bs, h⟩
    · exact hpre e he

/-- **Entries.**  Reading them panics iff the first key that is not read does. -/
theorem visitMap_eq_none_iff (values : HashMap (Vector UInt8 N) V) (entries : List (String × V)) :
    visitMap values entries = none ↔ Fatal N entries := by
  induction entries generalizing values with
  | nil =>
    constructor
    · intro h
      cases h
    · rintro ⟨pre, key, v, post, heq, -⟩
      cases pre <;> cases heq
  | cons e rest ih =>
    obtain ⟨keyString, v⟩ := e
    rw [visitMap]
    by_cases haccept : ∃ bs, Accepted N keyString bs
    · obtain ⟨bs, hbs⟩ := haccept
      rw [decodeKey_of_accepted hbs, fatal_cons_of_accepted hbs]
      exact ih _
    · push Not at haccept
      by_cases hcut : CutsKey N keyString
      · rw [decodeKey_of_cuts hcut]
        exact iff_of_true rfl ⟨[], keyString, v, rest, rfl, by simp, hcut⟩
      · obtain ⟨e, he⟩ := decodeKey_error haccept hcut
        rw [he]
        refine iff_of_false (by simp) ?_
        rintro ⟨pre, key, w, post, heq, hpre, hcut'⟩
        cases pre with
        | nil =>
          obtain ⟨hentry, -⟩ := List.cons.inj heq
          obtain ⟨rfl, -⟩ := Prod.mk.inj hentry
          exact hcut hcut'
        | cons e pre =>
          obtain ⟨rfl, -⟩ := List.cons.inj heq
          obtain ⟨bs, hbs⟩ := hpre _ List.mem_cons_self
          exact haccept bs hbs

/-- A map is only made of keys that are read. -/
theorem accepted_of_visitMap {values m : HashMap (Vector UInt8 N) V} {entries : List (String × V)}
    (h : visitMap values entries = some (.ok m)) : ∀ e ∈ entries, ∃ bs, Accepted N e.1 bs := by
  induction entries generalizing values with
  | nil =>
    intro e he
    cases he
  | cons e rest ih =>
    obtain ⟨keyString, v⟩ := e
    rw [visitMap] at h
    by_cases haccept : ∃ bs, Accepted N keyString bs
    · obtain ⟨bs, hbs⟩ := haccept
      rw [decodeKey_of_accepted hbs] at h
      intro e he
      rcases List.mem_cons.mp he with rfl | he
      · exact ⟨bs, hbs⟩
      · exact ih h e he
    · push Not at haccept
      by_cases hcut : CutsKey N keyString
      · rw [decodeKey_of_cuts hcut] at h
        cases h
      · obtain ⟨e, he⟩ := decodeKey_error haccept hcut
        rw [he] at h
        cases h

end HexKeyMapN

end OdysseyHub
