import OdysseyHub.Lib.Utf8
import OdysseyHub.Server.Firmware

/-!
# Serial numbers read and compared (device_tasks.rs, firmware.rs)

The server reads the UUID of a device off its USB serial number, two hex digits a byte; the
firmware update looks for the serial number whose digits are those of a UUID, in either
case.  Digit by digit the one undoes the other (`serialByte_iff`), so a device that is
found for a UUID is a device of this UUID (`uuidFromUsbSerial_agrees`).
-/

namespace OdysseyHub

open Parse (toDigit fromStrRadix isAsciiHexdigit)

/-! ## One byte -/

theorem ascii_of_toDigit {radix n : Nat} {c : Char} (h : toDigit radix c = some n) : c.toNat < 128 := by
  unfold toDigit at h
  have hd := (Option.filter_eq_some_iff.mp h).1
  split at hd
  · omega
  · split at hd
    · omega
    · split at hd
      · omega
      · cases hd

/-- A hex digit: its value, and the digit it is in lower case. -/
theorem hexdigit_facts {c : Char} (h : isAsciiHexdigit c = true) :
    ∃ n < 16, toDigit 16 c = some n ∧ c.toLower = Nat.digitChar n ∧ c ≠ '+' := by
  have hall : ∀ n < 128, isAsciiHexdigit (Char.ofNat n) = true →
      ∃ v < 16, toDigit 16 (Char.ofNat n) = some v ∧ (Char.ofNat n).toLower = Nat.digitChar v ∧
        Char.ofNat n ≠ '+' := by
    decide +kernel
  obtain ⟨v, hv⟩ := Option.isSome_iff_exists.mp h
  exact Utf8.forall_ascii (p := fun c => isAsciiHexdigit c = true →
    ∃ v < 16, toDigit 16 c = some v ∧ c.toLower = Nat.digitChar v ∧ c ≠ '+') hall (ascii_of_toDigit hv) h

theorem digitChar_inj {m n : Nat} (hm : m < 16) (hn : n < 16) : Nat.digitChar m = Nat.digitChar n ↔ m = n := by
  have hall : ∀ m < 16, ∀ n < 16, Nat.digitChar m = Nat.digitChar n → m = n := by decide
  exact ⟨hall m hm n hn, congrArg Nat.digitChar⟩

theorem lower_upperHex (b : UInt8) :
    (upperHex b).map Char.toLower = [Nat.digitChar (b.toNat / 16), Nat.digitChar (b.toNat % 16)] := by
  have hall : ∀ n < 16, (Nat.digitChar n).toUpper.toLower = Nat.digitChar n := by decide
  have hb := b.toNat_lt
  have hhi := hall (b.toNat / 16) (by omega)
  have hlo := hall (b.toNat % 16) (by omega)
  simp only [upperHex, List.map_cons, List.map_nil, hhi, hlo]

/-- Two hex digits are a number below 256. -/
theorem fromStrRadix_pair {c d : Char} {m n : Nat} (hc : toDigit 16 c = some m) (hm : m < 16) (hplus : c ≠ '+')
    (hd : toDigit 16 d = some n) (hn : n < 16) : fromStrRadix 16 256 [c, d] = some (m * 16 + n) := by
  have hfirst : 0 * 16 + m < 256 := by omega
  have hboth : (0 * 16 + m) * 16 + n < 256 := by omega
  rw [Parse.fromStrRadix_of_ne_plus hplus, Parse.digits_cons hc hfirst, Parse.digits_cons hd hboth,
    Parse.digits, Nat.zero_mul, Nat.zero_add]

/-- **One byte.**  Two hex digits are read as the byte that they spell, in either case. -/
theorem fromStrRadix_iff_upperHex {c d : Char} (hc : isAsciiHexdigit c = true) (hd : isAsciiHexdigit d = true)
    (b : UInt8) :
    (fromStrRadix 16 256 [c, d]).map UInt8.ofNat = some b ↔
      [c, d].map Char.toLower = (upperHex b).map Char.toLower := by
  obtain ⟨m, hm, hcm, hclow, hplus⟩ := hexdigit_facts hc
  obtain ⟨n, hn, hdn, hdlow, -⟩ := hexdigit_facts hd
  have hb := b.toNat_lt
  have hlt : m * 16 + n < 256 := by omega
  have hhi : b.toNat / 16 < 16 := by omega
  have hlo : b.toNat % 16 < 16 := by omega
  rw [fromStrRadix_pair hcm hm hplus hdn hn, Option.map_some, Option.some.injEq, lower_upperHex, ← UInt8.toNat_inj,
    UInt8.toNat_ofNat_of_lt' hlt]
  simp only [List.map_cons, List.map_nil, hclow, hdlow, List.cons.injEq, and_true, digitChar_inj hm hhi,
    digitChar_inj hn hlo]
  constructor
  · intro h
    omega
  · intro h
    omega

/-! ## Six bytes -/

theorem length_upperHex (b : UInt8) : (upperHex b).length = 2 := rfl

theorem exists_cons_cons {α : Type} {l : List α} (h : 2 ≤ l.length) : ∃ a b l', l = a :: b :: l' := by
  match l, h with
  | a :: b :: l', _ => exact ⟨a, b, l', rfl⟩

/-- A text of hex digits spells some bytes in any case, pair by pair. -/
theorem lower_eq_flatMap_iff {clean : List Char} {bytes : List UInt8} :
    clean.map Char.toLower = (bytes.flatMap upperHex).map Char.toLower ↔
      clean.length = 2 * bytes.length ∧
        ∀ i (h : i < bytes.length),
          ((clean.drop (i * 2)).take 2).map Char.toLower = (upperHex bytes[i]).map Char.toLower := by
  induction bytes generalizing clean with
  | nil => simp
  | cons b bytes ih =>
    rw [List.flatMap_cons, List.map_append]
    constructor
    · intro h
      have hlen := congrArg List.length h
      simp only [List.length_map, List.length_append, length_upperHex] at hlen
      obtain ⟨c, d, clean, rfl⟩ := exists_cons_cons (l := clean) (by omega)
      obtain ⟨hb, hrest⟩ := @List.append_inj _ ([c, d].map Char.toLower) _ _ _ h rfl
      obtain ⟨hlen, hpairs⟩ := ih.mp hrest
      refine ⟨?_, fun i hi => ?_⟩
      · simp only [List.length_cons, hlen]
        omega
      · cases i with
        | zero => exact hb
        | succ i =>
          rw [Nat.succ_mul]
          exact hpairs i (Nat.lt_of_succ_lt_succ hi)
    · rintro ⟨hlen, hpairs⟩
      rw [List.length_cons] at hlen
      obtain ⟨c, d, clean, rfl⟩ := exists_cons_cons (l := clean) (by omega)
      have hlen' : clean.length = 2 * bytes.length := by
        simp only [List.length_cons] at hlen
        omega
      have hpairs' : ∀ i (h : i < bytes.length),
          ((clean.drop (i * 2)).take 2).map Char.toLower = (upperHex bytes[i]).map Char.toLower := by
        intro i hi
        have hpair := hpairs (i + 1) (Nat.succ_lt_succ hi)
        rw [Nat.succ_mul] at hpair
        exact hpair
      exact congrArg₂ (· ++ ·) (hpairs 0 (Nat.succ_pos _)) (ih.mpr ⟨hlen', hpairs'⟩)

theorem eqIgnoreAsciiCase_uuidHex_iff {clean : List Char} {uuid : Uuid} :
    eqIgnoreAsciiCase clean (uuidHex uuid) = true ↔
      clean.length = 12 ∧
        ∀ i (h : i < 6), ((clean.drop (i * 2)).take 2).map Char.toLower = (upperHex uuid[i]).map Char.toLower := by
  unfold eqIgnoreAsciiCase uuidHex
  rw [beq_iff_eq, lower_eq_flatMap_iff]
  simp only [Vector.length_toList, Vector.getElem_toList]

/-- The digits of a serial number are hex digits. -/
theorem isAsciiHexdigit_serialDigits {serial : String} {c : Char} (h : c ∈ serialDigits serial) :
    isAsciiHexdigit c = true :=
  (List.mem_filter.mp h).2

/-- A pair of digits. -/
theorem exists_pair {serial : String} (hlen : (serialDigits serial).length = 12) {i : Nat} (hi : i < 6) :
    ∃ c d, isAsciiHexdigit c = true ∧ isAsciiHexdigit d = true ∧
      ((serialDigits serial).drop (i * 2)).take 2 = [c, d] := by
  have hpair : (((serialDigits serial).drop (i * 2)).take 2).length = 2 := by
    simp only [List.length_take, List.length_drop]
    omega
  obtain ⟨c, d, hcd⟩ := List.length_eq_two.mp hpair
  have hmem : ∀ e ∈ [c, d], isAsciiHexdigit e = true := by
    intro e he
    rw [← hcd] at he
    exact isAsciiHexdigit_serialDigits (List.mem_of_mem_drop (List.mem_of_mem_take he))
  exact ⟨c, d, hmem c (by simp), hmem d (by simp), hcd⟩

theorem serialByte_iff {serial : String} (hlen : (serialDigits serial).length = 12) {i : Nat} (hi : i < 6)
    (b : UInt8) :
    serialByte (serialDigits serial) i = some b ↔
      (((serialDigits serial).drop (i * 2)).take 2).map Char.toLower = (upperHex b).map Char.toLower := by
  obtain ⟨c, d, hc, hd, hcd⟩ := exists_pair hlen hi
  rw [serialByte, hcd]
  exact fromStrRadix_iff_upperHex hc hd b

/-- The loop over the digits does not fail. -/
theorem serialByte_isSome {serial : String} (hlen : (serialDigits serial).length = 12) {i : Nat} (hi : i < 6) :
    ∃ b, serialByte (serialDigits serial) i = some b := by
  obtain ⟨c, d, hc, hd, hcd⟩ := exists_pair hlen hi
  obtain ⟨m, hm, hcm, -, hplus⟩ := hexdigit_facts hc
  obtain ⟨n, hn, hdn, -⟩ := hexdigit_facts hd
  rw [serialByte, hcd, fromStrRadix_pair hcm hm hplus hdn hn]
  exact ⟨_, rfl⟩

/-- What twelve digits are read as, byte by byte. -/
theorem uuidFromUsbSerial_digits {serial : String} (hlen : (serialDigits serial).length = 12) :
    ∃ uuid : Uuid, uuidFromUsbSerial (some serial) = some uuid ∧
      ∀ i (h : i < 6), serialByte (serialDigits serial) i = some uuid[i] := by
  obtain ⟨b0, h0⟩ := serialByte_isSome hlen (i := 0) (by decide)
  obtain ⟨b1, h1⟩ := serialByte_isSome hlen (i := 1) (by decide)
  obtain ⟨b2, h2⟩ := serialByte_isSome hlen (i := 2) (by decide)
  obtain ⟨b3, h3⟩ := serialByte_isSome hlen (i := 3) (by decide)
  obtain ⟨b4, h4⟩ := serialByte_isSome hlen (i := 4) (by decide)
  obtain ⟨b5, h5⟩ := serialByte_isSome hlen (i := 5) (by decide)
  refine ⟨.of b0 b1 b2 b3 b4 b5, ?_, fun i hi => ?_⟩
  · simp [uuidFromUsbSerial, hlen, h0, h1, h2, h3, h4, h5]
  · match i, hi with
    | 0, _ => exact h0
    | 1, _ => exact h1
    | 2, _ => exact h2
    | 3, _ => exact h3
    | 4, _ => exact h4
    | 5, _ => exact h5

theorem uuidFromUsbSerial_short {serial : String} (hlen : (serialDigits serial).length ≠ 12) :
    uuidFromUsbSerial (some serial) = none := by
  simp [uuidFromUsbSerial, hlen]

/-- **Reading against comparing**, for one serial number. -/
theorem uuidFromUsbSerial_iff (serial : String) (uuid : Uuid) :
    uuidFromUsbSerial (some serial) = some uuid ↔
      eqIgnoreAsciiCase (serialDigits serial) (uuidHex uuid) = true := by
  rw [eqIgnoreAsciiCase_uuidHex_iff]
  by_cases hlen : (serialDigits serial).length = 12
  · obtain ⟨read, hread, hbytes⟩ := uuidFromUsbSerial_digits hlen
    rw [hread, Option.some.injEq]
    constructor
    · rintro rfl
      exact ⟨hlen, fun i hi => (serialByte_iff hlen hi _).mp (hbytes i hi)⟩
    · rintro ⟨-, hpairs⟩
      ext i hi
      have hpair := hpairs i hi
      rw [← serialByte_iff hlen hi, hbytes i hi] at hpair
      exact congrArg UInt8.toNat (Option.some.inj hpair)
  · rw [uuidFromUsbSerial_short hlen]
    constructor
    · intro h
      cases h
    · intro h
      exact absurd h.1 hlen

/-! ## The lookups -/

/-- The comparison of both lookups: the UUID of the device is this one. -/
theorem hasUuid_iff (d : DeviceInfo) (uuid : Uuid) :
    d.hasUuid uuid = true ↔ uuidFromUsbSerial d.serialNumber = some uuid := by
  unfold DeviceInfo.hasUuid
  cases d.serialNumber with
  | some serial => exact (uuidFromUsbSerial_iff serial uuid).symm
  | none => exact ⟨fun h => (by cases h), fun h => (by cases h)⟩

/-- A device that the scan knows by a UUID is there to be updated: what the lookup finds has this
UUID too. -/
theorem findDeviceByUuid_of_mem {devices : List DeviceInfo} {d : DeviceInfo} {uuid : Uuid} {vid pid : UInt16}
    (hd : d ∈ devices) (hids : d.hasIds vid pid = true) (hread : uuidFromUsbSerial d.serialNumber = some uuid) :
    ∃ found ∈ devices, findDeviceByUuid (.ok devices) uuid vid pid = .ok found ∧
      found.hasIds vid pid = true ∧ uuidFromUsbSerial found.serialNumber = some uuid := by
  have hmem : d ∈ devices.filter (·.hasIds vid pid) := List.mem_filter.mpr ⟨hd, hids⟩
  obtain ⟨found, hfound⟩ : ∃ found, (devices.filter (·.hasIds vid pid)).find? (·.hasUuid uuid) = some found :=
    Option.isSome_iff_exists.mp (List.find?_isSome.mpr ⟨d, hmem, (hasUuid_iff d uuid).mpr hread⟩)
  obtain ⟨hin, hids'⟩ := List.mem_filter.mp (List.mem_of_find?_eq_some hfound)
  refine ⟨found, hin, ?_, hids', (hasUuid_iff found uuid).mp (List.find?_some hfound)⟩
  simp only [findDeviceByUuid, Except.mapError, bind, Except.bind, hfound]

/-- The ids that are found are those of a device of a known type with this UUID. -/
theorem findDeviceVidPidByUuid_isSome_iff (devices : List DeviceInfo) (uuid : Uuid) :
    (findDeviceVidPidByUuid (.ok devices) uuid).isSome = true ↔
      ∃ d ∈ devices, (∃ e ∈ deviceMap, d.hasIds e.1 e.2.1 = true) ∧
        uuidFromUsbSerial d.serialNumber = some uuid := by
  show (devices.findSome? _).isSome = true ↔ _
  rw [List.findSome?_isSome_iff]
  refine exists_congr fun d => and_congr_right fun _ => ?_
  rw [List.findSome?_isSome_iff, ← hasUuid_iff]
  constructor
  · rintro ⟨e, he, hsome⟩
    split at hsome
    · next h =>
      rw [Bool.and_eq_true] at h
      exact ⟨⟨e, he, h.1⟩, h.2⟩
    · cases hsome
  · rintro ⟨⟨e, he, hids⟩, huuid⟩
    refine ⟨e, he, ?_⟩
    rw [hids, huuid]
    rfl

/-- **Serial numbers.**  A serial number is read as a UUID exactly when the lookups compare a
device with this serial number as equal to it, and twelve digits are always read. -/
theorem uuidFromUsbSerial_agrees (serial : String) :
    (∀ (uuid : Uuid) (d : DeviceInfo), d.serialNumber = some serial →
      (uuidFromUsbSerial (some serial) = some uuid ↔ d.hasUuid uuid = true)) ∧
    (∀ uuid : Uuid, uuidFromUsbSerial (some serial) = some uuid ↔
      eqIgnoreAsciiCase (serialDigits serial) (uuidHex uuid) = true) ∧
    ((serialDigits serial).length = 12 →
      (∀ i < 6, ∃ b, serialByte (serialDigits serial) i = some b) ∧
        ∃ uuid, uuidFromUsbSerial (some serial) = some uuid) := by
  refine ⟨fun uuid d hd => ?_, uuidFromUsbSerial_iff serial, fun hlen => ⟨fun i hi => serialByte_isSome hlen hi, ?_⟩⟩
  · rw [hasUuid_iff, hd]
  · obtain ⟨uuid, hread, -⟩ := uuidFromUsbSerial_digits hlen
    exact ⟨uuid, hread⟩

example : eqIgnoreAsciiCase (serialDigits "c0:01-02 0a:04:FF") (uuidHex (Uuid.of 0xC0 1 2 10 4 255)) = true := by
  decide

end OdysseyHub
