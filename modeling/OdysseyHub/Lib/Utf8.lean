import Mathlib.Data.List.Basic
import Mathlib.Data.UInt
import Mathlib.Tactic.Common

/-!
# UTF-8

A text is a list of characters beside the bytes they are encoded as.  A byte offset
either falls between two characters or inside one (`Straddles`); a cut of the bytes
is UTF-8 exactly in the first case, and a text cut to a number of bytes keeps its
longest prefix of characters that fits (`LongestPrefix`).
-/

namespace Utf8

/-! ## Bytes of a text -/

def bytes (cs : List Char) : List UInt8 := cs.flatMap String.utf8EncodeChar

/-- The number of bytes. -/
def size (cs : List Char) : Nat := (cs.map Char.utf8Size).sum

@[simp] theorem bytes_nil : bytes [] = [] := rfl

@[simp] theorem bytes_cons (c : Char) (cs : List Char) :
    bytes (c :: cs) = String.utf8EncodeChar c ++ bytes cs := rfl

@[simp] theorem size_nil : size [] = 0 := rfl

@[simp] theorem size_cons (c : Char) (cs : List Char) : size (c :: cs) = c.utf8Size + size cs := by
  simp [size]

@[simp] theorem bytes_append (cs ds : List Char) : bytes (cs ++ ds) = bytes cs ++ bytes ds := by
  simp [bytes]

@[simp] theorem size_append (cs ds : List Char) : size (cs ++ ds) = size cs + size ds := by
  simp [size]

@[simp] theorem length_bytes (cs : List Char) : (bytes cs).length = size cs := by
  induction cs with
  | nil => rfl
  | cons c cs ih => simp [ih]

theorem toByteArray_bytes (cs : List Char) : (bytes cs).toByteArray = cs.utf8Encode := rfl

theorem data_toUTF8 (s : String) : s.toUTF8.data.toList = bytes s.toList := by
  have h : s.toUTF8 = s.toList.utf8Encode := String.utf8Encode_toList.symm
  rw [h, ← toByteArray_bytes, List.data_toByteArray]

theorem size_le_of_prefix {p cs : List Char} (h : p <+: cs) : size p ≤ size cs := by
  obtain ⟨t, rfl⟩ := h
  rw [size_append]
  omega

/-- A fact about all bytes, checked number by number. -/
theorem forall_byte {p : UInt8 → Prop} (h : ∀ n < 256, p (UInt8.ofNat n)) (b : UInt8) : p b := by
  have hb := h b.toNat b.toNat_lt
  rwa [UInt8.ofNat_toNat] at hb

/-- … and about the characters of ASCII. -/
theorem forall_ascii {p : Char → Prop} (h : ∀ n < 128, p (Char.ofNat n)) {c : Char} (hc : c.toNat < 128) : p c := by
  have hp := h c.toNat hc
  rwa [Char.ofNat_toNat] at hp

theorem utf8Size_of_ascii {c : Char} (hc : c.toNat < 128) : c.utf8Size = 1 := by
  rw [Char.utf8Size_eq_one_iff, UInt32.le_iff_toNat_le]
  exact Nat.le_of_lt_succ hc

theorem ascii_of_utf8Size {c : Char} (h : c.utf8Size = 1) : c.toNat < 128 := by
  rw [Char.utf8Size_eq_one_iff, UInt32.le_iff_toNat_le] at h
  exact Nat.lt_succ_of_le h

theorem encode_ascii {c : Char} (hc : c.toNat < 128) : String.utf8EncodeChar c = [c.toNat.toUInt8] :=
  String.utf8EncodeChar_eq_singleton (utf8Size_of_ascii hc)

/-- The encodings of more than one byte: what their first byte is, and the form of the others. -/
theorem encode_long {c : Char} (h : c.utf8Size ≠ 1) :
    ∃ b rest, String.utf8EncodeChar c = b :: rest ∧ 0xC0 ≤ b ∧ ∀ b' ∈ rest, b' &&& 0xC0 = 0x80 := by
  have hlead : ∀ b : UInt8, 0xC0 ≤ b &&& 0x1F ||| 0xC0 ∧ 0xC0 ≤ b &&& 0x0F ||| 0xE0 ∧
      0xC0 ≤ b &&& 0x07 ||| 0xF0 := forall_byte (by decide +kernel)
  have htail : ∀ b : UInt8, (b &&& 0x3F ||| 0x80) &&& 0xC0 = 0x80 := forall_byte (by decide +kernel)
  have hle := c.utf8Size_le_four
  have hpos := c.utf8Size_pos
  obtain h2 | h3 | h4 : c.utf8Size = 2 ∨ c.utf8Size = 3 ∨ c.utf8Size = 4 := by omega
  · rw [String.utf8EncodeChar_eq_cons_cons h2]
    exact ⟨_, _, rfl, (hlead _).1, by simp [htail]⟩
  · rw [String.utf8EncodeChar_eq_cons_cons_cons h3]
    exact ⟨_, _, rfl, (hlead _).2.1, by simp [htail]⟩
  · rw [String.utf8EncodeChar_eq_cons_cons_cons_cons h4]
    exact ⟨_, _, rfl, (hlead _).2.2, by simp [htail]⟩

/-- Only the NUL character has a NUL byte. -/
theorem zero_notMem_bytes {cs : List Char} (h : Char.ofNat 0 ∉ cs) : 0 ∉ bytes cs := by
  have hlarge : ∀ b : UInt8, 0xC0 ≤ b → b ≠ 0 := forall_byte (by decide +kernel)
  have htail : ∀ b : UInt8, b &&& 0xC0 = 0x80 → b ≠ 0 := forall_byte (by decide +kernel)
  intro hmem
  obtain ⟨c, hc, hb⟩ := List.mem_flatMap.mp hmem
  by_cases h1 : c.utf8Size = 1
  · have hascii := ascii_of_utf8Size h1
    rw [encode_ascii hascii, List.mem_singleton] at hb
    have hzero : c = Char.ofNat 0 := forall_ascii
      (p := fun c => (0 : UInt8) = c.toNat.toUInt8 → c = Char.ofNat 0) (by decide) hascii hb
    exact h (hzero ▸ hc)
  · obtain ⟨b, rest, henc, hlead, hrest⟩ := encode_long h1
    rw [henc] at hb
    rcases List.mem_cons.mp hb with rfl | hb
    · exact hlarge 0 hlead rfl
    · exact htail 0 (hrest 0 hb) rfl

/-! ## Offsets -/

/-- A byte that continues a character. -/
def IsTail (b : UInt8) : Prop := b &&& 0xC0 = 0x80

/-- A character of the text lies across the offset. -/
def Straddles (n : Nat) (cs : List Char) : Prop :=
  ∃ pre c post, cs = pre ++ c :: post ∧ size pre < n ∧ n < size pre + c.utf8Size

theorem not_straddles_nil (n : Nat) : ¬ Straddles n [] := by
  rintro ⟨pre, c, post, h, -⟩
  cases pre <;> cases h

theorem straddles_cons (n : Nat) (c : Char) (cs : List Char) :
    Straddles n (c :: cs) ↔
      (0 < n ∧ n < c.utf8Size) ∨ (c.utf8Size ≤ n ∧ Straddles (n - c.utf8Size) cs) := by
  constructor
  · rintro ⟨pre, d, post, h, hlo, hhi⟩
    cases pre with
    | nil =>
      obtain ⟨rfl, rfl⟩ := List.cons.inj h
      rw [size_nil] at hlo hhi
      left
      omega
    | cons c' pre =>
      obtain ⟨rfl, rfl⟩ := List.cons.inj h
      rw [size_cons] at hlo hhi
      refine Or.inr ⟨by omega, pre, d, post, rfl, by omega, by omega⟩
  · rintro (⟨hlo, hhi⟩ | ⟨hle, pre, d, post, rfl, hlo, hhi⟩)
    · exact ⟨[], c, cs, rfl, hlo, by simpa using hhi⟩
    · refine ⟨c :: pre, d, post, rfl, ?_, ?_⟩
      · rw [size_cons]
        omega
      · rw [size_cons]
        omega

instance decidableStraddles : ∀ (n : Nat) (cs : List Char), Decidable (Straddles n cs)
  | n, [] => isFalse (not_straddles_nil n)
  | n, c :: cs =>
    have := decidableStraddles (n - c.utf8Size) cs
    decidable_of_iff _ (straddles_cons n c cs).symm

/-- Past the end no character is cut. -/
theorem not_straddles_of_size_le {n : Nat} {cs : List Char} (h : size cs ≤ n) : ¬ Straddles n cs := by
  rintro ⟨pre, c, post, rfl, -, hhi⟩
  rw [size_append, size_cons] at h
  omega

/-- The first byte of a character begins it, the later ones continue it. -/
theorem isTail_encode {c : Char} {n : Nat} (hn : n < c.utf8Size) :
    (∃ b ∈ (String.utf8EncodeChar c)[n]?, IsTail b) ↔ 0 < n := by
  have hlead : ∀ b : UInt8, 0xC0 ≤ b → b &&& 0xC0 ≠ 0x80 := forall_byte (by decide +kernel)
  have hlen := String.length_utf8EncodeChar c
  by_cases h1 : c.utf8Size = 1
  · have hascii : ∀ {d : Char}, d.toNat < 128 → d.toNat.toUInt8 &&& 0xC0 ≠ 0x80 :=
      fun {d} => forall_ascii (p := fun d => d.toNat.toUInt8 &&& 0xC0 ≠ 0x80) (by decide +kernel)
    obtain rfl : n = 0 := by omega
    simp [encode_ascii (ascii_of_utf8Size h1), IsTail, hascii (ascii_of_utf8Size h1)]
  · obtain ⟨b, rest, henc, hb, hrest⟩ := encode_long h1
    rw [henc, List.length_cons] at hlen
    cases n with
    | zero => simp [henc, IsTail, hlead b hb]
    | succ n =>
      have hlt : n < rest.length := by omega
      simp [henc, IsTail, List.getElem?_eq_getElem hlt, hrest _ (List.getElem_mem hlt)]

/-- The byte at an offset continues a character iff one lies across the offset. -/
theorem isTail_head_drop (n : Nat) (cs : List Char) :
    (∃ b ∈ ((bytes cs).drop n).head?, IsTail b) ↔ Straddles n cs := by
  induction cs generalizing n with
  | nil =>
    simp only [bytes_nil, List.drop_nil, List.head?_nil]
    constructor
    · rintro ⟨b, hb, -⟩
      cases hb
    · intro h
      exact absurd h (not_straddles_nil n)
  | cons c cs ih =>
    rw [straddles_cons, bytes_cons]
    have hlen := String.length_utf8EncodeChar c
    by_cases hn : c.utf8Size ≤ n
    · have hdrop : (String.utf8EncodeChar c ++ bytes cs).drop n = (bytes cs).drop (n - c.utf8Size) := by
        rw [List.drop_append, List.drop_eq_nil_of_le (by omega), List.nil_append, hlen]
      have htail := ih (n - c.utf8Size)
      rw [hdrop]
      constructor
      · intro h
        exact Or.inr ⟨hn, htail.mp h⟩
      · rintro (⟨-, h⟩ | ⟨-, h⟩)
        · omega
        · exact htail.mpr h
    · have hhead : ((String.utf8EncodeChar c ++ bytes cs).drop n).head? = (String.utf8EncodeChar c)[n]? := by
        rw [List.head?_drop, List.getElem?_append_left (by omega)]
      rw [hhead, isTail_encode (by omega)]
      constructor
      · intro h
        exact Or.inl ⟨h, by omega⟩
      · rintro (⟨h, -⟩ | ⟨h, -⟩)
        · exact h
        · omega

/-- Where no character is cut, a prefix of characters ends. -/
theorem exists_prefix {n : Nat} {cs : List Char} (h : ¬ Straddles n cs) (hn : n ≤ size cs) :
    ∃ p, p <+: cs ∧ size p = n := by
  induction cs generalizing n with
  | nil =>
    rw [size_nil] at hn
    exact ⟨[], List.prefix_refl [], by rw [size_nil]; omega⟩
  | cons c cs ih =>
    rw [straddles_cons] at h
    push Not at h
    rw [size_cons] at hn
    by_cases h0 : n = 0
    · exact ⟨[], List.nil_prefix, h0.symm⟩
    · have hle : c.utf8Size ≤ n := h.1 (by omega)
      obtain ⟨p, hp, hsize⟩ := ih (h.2 hle) (by omega)
      refine ⟨c :: p, by simpa using hp, ?_⟩
      rw [size_cons, hsize]
      omega

theorem not_straddles_of_prefix {p cs : List Char} (h : p <+: cs) : ¬ Straddles (size p) cs := by
  obtain ⟨t, rfl⟩ := h
  induction p with
  | nil =>
    rintro ⟨pre, c, post, -, hlo, -⟩
    rw [size_nil] at hlo
    omega
  | cons c p ih =>
    rw [List.cons_append, straddles_cons, size_cons]
    rintro (⟨-, h⟩ | ⟨-, h⟩)
    · omega
    · rw [Nat.add_sub_cancel_left] at h
      exact ih h

/-- **Cuts.**  A cut of the bytes is UTF-8 iff no character lies across it. -/
theorem valid_take (n : Nat) (cs : List Char) :
    ((bytes cs).take n).toByteArray.IsValidUTF8 ↔ ¬ Straddles n cs := by
  constructor
  · rintro ⟨p, hp⟩
    have hbytes : (bytes cs).take n = bytes p := by
      have := congrArg (fun b : ByteArray => b.data.toList) hp
      rwa [← toByteArray_bytes, List.data_toByteArray, List.data_toByteArray] at this
    by_cases hn : size cs ≤ n
    · exact not_straddles_of_size_le hn
    · have hpre : p <+: cs := by
        apply List.isPrefix_of_utf8Encode_append_eq_utf8Encode ((bytes cs).drop n).toByteArray
        rw [← toByteArray_bytes, ← hbytes, ← List.toByteArray_append, List.take_append_drop,
          toByteArray_bytes]
      have hsize : size p = n := by
        rw [← length_bytes, ← hbytes, List.length_take, length_bytes]
        omega
      exact hsize ▸ not_straddles_of_prefix hpre
  · intro h
    by_cases hn : size cs ≤ n
    · rw [List.take_of_length_le (by rw [length_bytes]; exact hn)]
      exact ⟨cs, rfl⟩
    · obtain ⟨p, ⟨t, rfl⟩, hsize⟩ := exists_prefix h (by omega)
      rw [bytes_append, ← hsize, ← length_bytes, List.take_left]
      exact ⟨p, rfl⟩

/-! ## The longest prefix that fits -/

/-- The longest prefix of whole characters in `n` bytes. -/
structure LongestPrefix (n : Nat) (cs p : List Char) : Prop where
  isPrefix : p <+: cs
  fits : size p ≤ n
  longest : ∀ q, q <+: cs → size q ≤ n → q <+: p

namespace LongestPrefix

theorem unique {n : Nat} {cs p p' : List Char} (h : LongestPrefix n cs p) (h' : LongestPrefix n cs p') :
    p = p' :=
  (h'.longest p h.isPrefix h.fits).eq_of_length_le (h.longest p' h'.isPrefix h'.fits).length_le

/-- The characters in front of a cut that splits none. -/
theorem of_take {n : Nat} {cs p : List Char} (hp : bytes p = (bytes cs).take n) (hpre : p <+: cs) :
    LongestPrefix n cs p := by
  have hsize : size p = min n (size cs) := by
    rw [← length_bytes, hp, List.length_take, length_bytes]
  refine ⟨hpre, by omega, fun q hq hfit => ?_⟩
  -- of two prefixes the one with fewer bytes is a prefix of the other
  rcases List.prefix_or_prefix_of_prefix hq hpre with h | ⟨t, rfl⟩
  · exact h
  · have hle := size_le_of_prefix hq
    have ht : size t = 0 := by
      rw [size_append] at hfit hle
      omega
    have hnil : t = [] := by
      cases t with
      | nil => rfl
      | cons c t =>
        have := c.utf8Size_pos
        rw [size_cons] at ht
        omega
    rw [hnil, List.append_nil]

end LongestPrefix

end Utf8
