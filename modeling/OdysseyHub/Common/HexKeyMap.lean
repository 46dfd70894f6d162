import OdysseyHub.Lib.HashMap
import Mathlib.Data.UInt
import Mathlib.Tactic.Common

/-!
# Maps with hex keys (odyssey_hub_common::hexkeymap)

`HexKeyMapN` serializes a map from `N`-byte keys as entries with string keys
`"0x…"`, and reads such entries back.  Strings are taken as their UTF-8 bytes, which
is how the source slices them; a slice off a character boundary panics, and stands
as `none`.
-/

namespace OdysseyHub

namespace HexKeyMapN

variable {N : Nat} {V : Type}

/-! ## Serialize -/

/-- `format!("{:02x}", b)` -/
def hexByte (b : UInt8) : List Char := [Nat.digitChar (b.toNat / 16), Nat.digitChar (b.toNat % 16)]

def hexChars (bytes : List UInt8) : List Char := bytes.flatMap hexByte

def keyStr (key : Vector UInt8 N) : String := String.ofList ('0' :: 'x' :: hexChars key.toList)

/-- The entries in the order of the iteration. -/
def serialize (m : HashMap (Vector UInt8 N) V) : List (String × V) :=
  m.entries.map fun e => (keyStr e.1, e.2)

/-! ## Deserialize -/

/-- The value of an ASCII hex digit, in either case. -/
def hexValue (b : UInt8) : Option Nat :=
  if 48 ≤ b ∧ b ≤ 57 then some (b.toNat - 48)
  else if 97 ≤ b ∧ b ≤ 102 then some (b.toNat - 87)
  else if 65 ≤ b ∧ b ≤ 70 then some (b.toNat - 55)
  else none

/-- `u8::from_str_radix(s, 16)` on two bytes: a plus sign may stand before the digit. -/
def fromStrRadix (b₀ b₁ : UInt8) : Option UInt8 :=
  match hexValue b₀, hexValue b₁ with
  | some hi, some lo => some (UInt8.ofNat (16 * hi + lo))
  | none, some lo => if b₀ = 43 then some (UInt8.ofNat lo) else none
  | _, none => none

/-- A byte that continues a UTF-8 sequence: no character begins at it. -/
def isContinuation (b : UInt8) : Bool := b &&& 0xC0 == 0x80

/-- The bytes of two digits each; `none` is the panic of a slice. -/
def decodeBytes : List UInt8 → Option (Except String (List UInt8))
  | b₀ :: b₁ :: rest =>
    if rest.head?.any isContinuation then none
    else
      match fromStrRadix b₀ b₁ with
      | none =>
        let byteStr := (String.fromUTF8? [b₀, b₁].toByteArray).getD ""
        some (.error s!"Invalid hex byte: {byteStr}")
      | some b => (decodeBytes rest).map fun r => r.map (b :: ·)
  | _ => some (.ok [])

/-- One key: the prefix, the number of digits, the digits. -/
def decodeKey (N : Nat) (keyString : String) : Option (Except String (Vector UInt8 N)) :=
  match keyString.toUTF8.data.toList with
  | 48 :: 120 :: s =>
    if s.length ≠ 2 * N then
      let digits := 2 * N
      let len := s.length
      some (.error s!"Expected {digits} hex digits ({N} bytes), got {len}: {keyString}")
    else (decodeBytes s).map fun r => r.map fun bytes => Vector.ofFn fun i => bytes.getD i.val 0
  | _ => some (.error s!"Missing 0x prefix: {keyString}")

/-- `visit_map` on the entries still to come. -/
def visitMap (values : HashMap (Vector UInt8 N) V) :
    List (String × V) → Option (Except String (HashMap (Vector UInt8 N) V))
  | [] => some (.ok values)
  | (keyString, value) :: rest =>
    match decodeKey N keyString with
    | none => none
    | some (.error e) => some (.error e)
    | some (.ok key) => visitMap (values.insert key value) rest

def deserialize (entries : List (String × V)) :
    Option (Except String (HashMap (Vector UInt8 N) V)) :=
  visitMap ∅ entries

/-! ## Reading back what was serialized -/

/-- A digit is one byte of ASCII, and reads as its value. -/
theorem digit_facts : ∀ n < 16,
    String.utf8EncodeChar (Nat.digitChar n) = [(Nat.digitChar n).toNat.toUInt8] ∧
      hexValue (Nat.digitChar n).toNat.toUInt8 = some n ∧
      isContinuation (Nat.digitChar n).toNat.toUInt8 = false := by
  decide

/-- The ASCII bytes of two digits. -/
def hexBytes (b : UInt8) : List UInt8 := (hexByte b).map fun c => c.toNat.toUInt8

theorem toNat_halves (b : UInt8) : b.toNat / 16 < 16 ∧ b.toNat % 16 < 16 := by
  have := b.toNat_lt
  omega

theorem utf8_hexByte (b : UInt8) : (hexByte b).flatMap String.utf8EncodeChar = hexBytes b := by
  obtain ⟨hhi, hlo⟩ := toNat_halves b
  simp [hexByte, hexBytes, (digit_facts _ hhi).1, (digit_facts _ hlo).1]

theorem fromStrRadix_hexByte (b : UInt8) :
    fromStrRadix (Nat.digitChar (b.toNat / 16)).toNat.toUInt8
      (Nat.digitChar (b.toNat % 16)).toNat.toUInt8 = some b := by
  obtain ⟨hhi, hlo⟩ := toNat_halves b
  have hb : 16 * (b.toNat / 16) + b.toNat % 16 = b.toNat := by omega
  simp only [fromStrRadix, (digit_facts _ hhi).2.1, (digit_facts _ hlo).2.1, hb]
  simp

/-- A digit never continues a sequence, so no slice panics. -/
theorem head_hexBytes (bytes : List UInt8) :
    (bytes.flatMap hexBytes).head?.any isContinuation = false := by
  cases bytes with
  | nil => rfl
  | cons b bytes => simp [hexBytes, hexByte, (digit_facts _ (toNat_halves b).1).2.2]

theorem decodeBytes_hexBytes (bytes : List UInt8) :
    decodeBytes (bytes.flatMap hexBytes) = some (.ok bytes) := by
  induction bytes with
  | nil => rfl
  | cons b bytes ih =>
    show decodeBytes ((Nat.digitChar (b.toNat / 16)).toNat.toUInt8 ::
      (Nat.digitChar (b.toNat % 16)).toNat.toUInt8 :: bytes.flatMap hexBytes) = _
    rw [decodeBytes, head_hexBytes, if_neg Bool.false_ne_true, fromStrRadix_hexByte, ih]
    rfl

theorem utf8_keyStr (key : Vector UInt8 N) :
    (keyStr key).toUTF8.data.toList = 48 :: 120 :: key.toList.flatMap hexBytes := by
  have hflat : (hexChars key.toList).flatMap String.utf8EncodeChar = key.toList.flatMap hexBytes := by
    rw [hexChars, List.flatMap_assoc]
    congr 1
    funext b
    exact utf8_hexByte b
  show (List.utf8Encode ('0' :: 'x' :: hexChars key.toList)).data.toList = _
  rw [List.utf8Encode, List.data_toByteArray]
  simp only [List.flatMap_cons, hflat]
  rfl

/-- **Keys.**  A key reads back from its string. -/
theorem decodeKey_keyStr (key : Vector UInt8 N) : decodeKey N (keyStr key) = some (.ok key) := by
  have hlen : (key.toList.flatMap hexBytes).length = 2 * N := by
    have h : ∀ bytes : List UInt8, (bytes.flatMap hexBytes).length = 2 * bytes.length := by
      intro bytes
      induction bytes with
      | nil => rfl
      | cons b bytes ih =>
        rw [List.flatMap_cons, List.length_append, ih, List.length_cons]
        have hb : (hexBytes b).length = 2 := rfl
        omega
    rw [h, Vector.length_toList]
  unfold decodeKey
  rw [utf8_keyStr]
  simp only [hlen, ne_eq, not_true_eq_false, if_false, decodeBytes_hexBytes, Option.map_some,
    Except.map]
  congr 2
  ext i hi
  simp [List.getD_eq_getElem?_getD]

theorem visitMap_serialize (values : HashMap (Vector UInt8 N) V)
    (entries : List (Sigma fun _ : Vector UInt8 N => V)) :
    visitMap values (entries.map fun e => (keyStr e.1, e.2)) =
      some (.ok (HashMap.insertAll (fun _ v => v) values entries)) := by
  induction entries generalizing values with
  | nil => rfl
  | cons e entries ih =>
    rw [List.map_cons, visitMap, decodeKey_keyStr]
    exact ih (values.insert e.1 e.2)

/-- The entries of a map, in any order of iteration, read back as that map. -/
theorem deserialize_order (m : HashMap (Vector UInt8 N) V)
    {order : List (Sigma fun _ : Vector UInt8 N => V)} (hperm : order.Perm m.entries) :
    ∃ m', deserialize (order.map fun e => (keyStr e.1, e.2)) = some (.ok m') ∧ HashMap.Same m' m := by
  have hnodup : order.NodupKeys := (List.perm_nodupKeys hperm).mpr m.nodupKeys
  refine ⟨_, visitMap_serialize ∅ order, fun key => ?_⟩
  rw [HashMap.lookup_insertAll _ _ hnodup, AList.lookup_empty, Option.or_none, Option.map_id',
    List.perm_dlookup key hnodup hperm]
  rfl

/-- **Maps.**  A map reads back from what it was serialized to. -/
theorem deserialize_serialize (m : HashMap (Vector UInt8 N) V) :
    ∃ m', deserialize (serialize m) = some (.ok m') ∧ ∀ key, m'.lookup key = m.lookup key :=
  deserialize_order m (List.Perm.refl m.entries)

theorem keyStr_injective : Function.Injective (keyStr : Vector UInt8 N → String) := by
  intro key key' h
  have hdecode := decodeKey_keyStr key
  rw [h, decodeKey_keyStr] at hdecode
  exact (Except.ok.inj (Option.some.inj hdecode)).symm

/-- Entries in another order are those of the same map, iterated otherwise. -/
theorem entries_of_perm {m : HashMap (Vector UInt8 N) V} {entries : List (String × V)}
    (h : entries.Perm (serialize m)) :
    ∃ order : List (Sigma fun _ : Vector UInt8 N => V),
      order.Perm m.entries ∧ entries = order.map fun e => (keyStr e.1, e.2) := by
  let entryStr : (Sigma fun _ : Vector UInt8 N => V) → String × V := fun e => (keyStr e.1, e.2)
  have hinj : Function.Injective entryStr := by
    rintro ⟨key, v⟩ ⟨key', v'⟩ heq
    obtain ⟨hkey, hv⟩ := Prod.mk.inj heq
    obtain rfl := keyStr_injective hkey
    obtain rfl : v = v' := hv
    rfl
  have hrange : ∀ x ∈ entries, ∃ e, entryStr e = x := by
    intro x hx
    obtain ⟨e, -, he⟩ := List.mem_map.mp (h.mem_iff.mp hx)
    exact ⟨e, he⟩
  obtain ⟨order, rfl⟩ : entries ∈ Set.range (List.map entryStr) := by
    rw [Set.range_list_map]
    exact hrange
  exact ⟨order, (List.map_perm_map_iff hinj).mp h, rfl⟩

/-- **Any order.**  The entries of a map read back as that map in whatever order they come,
and no two keys share a string. -/
theorem deserialize_perm (m : HashMap (Vector UInt8 N) V) {entries : List (String × V)}
    (h : entries.Perm (serialize m)) :
    (∃ m', deserialize entries = some (.ok m') ∧ HashMap.Same m' m) ∧
      Function.Injective (keyStr : Vector UInt8 N → String) := by
  refine ⟨?_, keyStr_injective⟩
  obtain ⟨order, hperm, rfl⟩ := entries_of_perm h
  exact deserialize_order m hperm

def sampleMap : HashMap (Vector UInt8 2) Nat := (AList.singleton #v[0, 1] 5).insert #v[0xAB, 0xFF] 7

/-- The two entries of the sample, the later one first. -/
theorem deserialize_perm_sample :
    (∃ m', deserialize [("0x0001", 5), ("0xabff", 7)] = some (.ok m') ∧ HashMap.Same m' sampleMap) ∧
      Function.Injective (keyStr : Vector UInt8 2 → String) :=
  deserialize_perm sampleMap (by decide)

end HexKeyMapN

end OdysseyHub
