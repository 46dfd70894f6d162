import OdysseyHub.Lib.Parse
import OdysseyHub.Common.Device

/-!
# USB serial numbers (device_tasks.rs, uuid_from_usb_serial)

A serial number carries the UUID as twelve hex digits, with or without separators.
-/

namespace OdysseyHub

/-- The hex digits of a serial number. -/
def serialDigits (serial : String) : List Char := serial.toList.filter Parse.isAsciiHexdigit

/-- `u8::from_str_radix(&clean[i * 2..i * 2 + 2], 16)`. -/
def serialByte (clean : List Char) (i : Nat) : Option UInt8 :=
  (Parse.fromStrRadix 16 256 ((clean.drop (i * 2)).take 2)).map UInt8.ofNat

/-- Parse a UUID from a USB serial number string (e.g. "AABBCCDDEEFF" or "AA:BB:CC:DD:EE:FF"). -/
def uuidFromUsbSerial (serial : Option String) : Option Uuid := do
  let clean := serialDigits (← serial)
  if clean.length ≠ 12 then none
  else
    some (.of (← serialByte clean 0) (← serialByte clean 1) (← serialByte clean 2)
      (← serialByte clean 3) (← serialByte clean 4) (← serialByte clean 5))

example : uuidFromUsbSerial (some "C0:01:02:03:04:05") = some (Uuid.of 0xC0 1 2 3 4 5) := by decide

end OdysseyHub
