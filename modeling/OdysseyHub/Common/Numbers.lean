import OdysseyHub.Lib.Parse

/-!
# Numbers as texts

`parse` and `to_string` of the integer types, the second undone by the first.
-/

namespace OdysseyHub

/-- `parse::<u8>()` -/
def parseU8 (s : String) : Option UInt8 := (Parse.fromStrRadix 10 256 s.toList).map UInt8.ofNat

/-- `parse::<u16>()` -/
def parseU16 (s : String) : Option UInt16 := (Parse.fromStrRadix 10 65536 s.toList).map UInt16.ofNat

/-- `parse::<u64>()` -/
def parseU64 (s : String) : Option UInt64 :=
  (Parse.fromStrRadix 10 18446744073709551616 s.toList).map UInt64.ofNat

/-- `to_string` -/
def decimal (n : Nat) : String := String.ofList (Nat.toDigits 10 n)

theorem parseU8_decimal (v : UInt8) : parseU8 (decimal v.toNat) = some v := by
  rw [parseU8, decimal, String.toList_ofList, Parse.fromStrRadix_toDigits v.toNat_lt, Option.map_some,
    UInt8.ofNat_toNat]

theorem parseU16_decimal (v : UInt16) : parseU16 (decimal v.toNat) = some v := by
  rw [parseU16, decimal, String.toList_ofList, Parse.fromStrRadix_toDigits v.toNat_lt, Option.map_some,
    UInt16.ofNat_toNat]

theorem parseU64_decimal (v : UInt64) : parseU64 (decimal v.toNat) = some v := by
  rw [parseU64, decimal, String.toList_ofList, Parse.fromStrRadix_toDigits v.toNat_lt, Option.map_some,
    UInt64.ofNat_toNat]

end OdysseyHub
