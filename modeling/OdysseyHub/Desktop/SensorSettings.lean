import OdysseyHub.Common.Numbers
import OdysseyHub.Lib.LittleEndian
import OdysseyHub.Lib.Memory
import OdysseyHub.Lib.Utf8

/-!
# Sensor settings (sensor_settings.rs)

The panel of the PAG7665 sensor: six texts, applied as numbers to eight registers of a
device and loaded from them again.  The exposure goes into seven bits in units of 100 us, beside the
flag of the LED, and is cut to a byte without a check:

    what is loaded is what was applied ↔ exposure_us < 12800    (pag_readsBack_iff)
-/

namespace OdysseyHub

open Memory

/-- A register of a device. -/
structure Register where
  port : UInt8
  bank : UInt8
  addr : UInt8
  deriving DecidableEq, Repr

/-! ## Multi-byte registers -/

section
variable {ε σ : Type} (hub : Memory Register UInt8 ε σ)

def readU16Reg (port bank : UInt8) (addrs : UInt8 × UInt8) : Requests ε σ UInt16 := do
  let lo ← hub.read ⟨port, bank, addrs.1⟩
  let hi ← hub.read ⟨port, bank, addrs.2⟩
  pure (LittleEndian.u16OfBytes lo hi)

def writeU16Reg (port bank : UInt8) (addrs : UInt8 × UInt8) (val : UInt16) : Requests ε σ Unit := do
  let bytes := LittleEndian.bytesOfU16 val
  hub.write ⟨port, bank, addrs.1⟩ bytes.1
  hub.write ⟨port, bank, addrs.2⟩ bytes.2

end

/-! ## The PAG panel -/

/-- The texts of the panel. -/
structure PagState where
  fps : String
  exposureUs : String
  gain : String
  lightThreshold : String
  areaLower : String
  areaUpper : String
  deriving DecidableEq, Repr

/-- The numbers that they stand for. -/
structure PagNumbers where
  fps : UInt8
  exposureUs : UInt16
  gain : UInt8
  lightThreshold : UInt8
  areaLower : UInt16
  areaUpper : UInt16
  deriving DecidableEq, Repr

/-- All fields parse as their types. -/
def PagState.parsed (state : PagState) : Option PagNumbers := do
  some
    { fps := ← parseU8 state.fps
      exposureUs := ← parseU16 state.exposureUs
      gain := ← parseU8 state.gain
      lightThreshold := ← parseU8 state.lightThreshold
      areaLower := ← parseU16 state.areaLower
      areaUpper := ← parseU16 state.areaUpper }

/-- What is applied: a field that does not parse stands for its default. -/
def PagState.applied (state : PagState) : PagNumbers :=
  { fps := (parseU8 state.fps).getD 180
    exposureUs := (parseU16 state.exposureUs).getD 2000
    gain := (parseU8 state.gain).getD 2
    lightThreshold := (parseU8 state.lightThreshold).getD 120
    areaLower := (parseU16 state.areaLower).getD 10
    areaUpper := (parseU16 state.areaUpper).getD 65535 }

/-- `to_string` of every number -/
def PagNumbers.toState (n : PagNumbers) : PagState :=
  { fps := decimal n.fps.toNat
    exposureUs := decimal n.exposureUs.toNat
    gain := decimal n.gain.toNat
    lightThreshold := decimal n.lightThreshold.toNat
    areaLower := decimal n.areaLower.toNat
    areaUpper := decimal n.areaUpper.toNat }

def pagLoadDefaults : PagState :=
  { fps := "180"
    exposureUs := "2000"
    gain := "2"
    lightThreshold := "120"
    areaLower := "10"
    areaUpper := "65535" }

/-- Units of 100 us, and the flag of the LED in the highest bit. -/
def expoReg (exposureUs : UInt16) (ledAlwaysOn : Bool) : UInt8 :=
  (exposureUs / 100).toUInt8 ||| ledAlwaysOn.toUInt8 <<< 7

def exposureOfReg (expoRaw : UInt8) : UInt16 := (expoRaw &&& 0x7F).toUInt16 * 100

section
variable {ε σ : Type} (hub : Memory Register UInt8 ε σ)

-- PAG always uses the NF port, 0
def pagLoadFromDevice : Requests ε σ PagState := do
  let fps ← hub.read ⟨0, 0x00, 0x13⟩
  let expoRaw ← hub.read ⟨0, 0x00, 0x67⟩
  let gain ← hub.read ⟨0, 0x00, 0x68⟩
  let lightThreshold ← hub.read ⟨0, 0x00, 0x6D⟩
  let areaLower ← readU16Reg hub 0 0x00 (0x6E, 0x6F)
  let areaUpper ← readU16Reg hub 0 0x00 (0x70, 0x71)
  pure (PagNumbers.toState
    { fps := fps
      exposureUs := exposureOfReg expoRaw
      gain := gain
      lightThreshold := lightThreshold
      areaLower := areaLower
      areaUpper := areaUpper })

def pagApplyToDevice (state : PagState) : Requests ε σ Unit := do
  let n := state.applied
  let ledAlwaysOn := true
  hub.write ⟨0, 0x00, 0x13⟩ n.fps
  hub.write ⟨0, 0x00, 0x67⟩ (expoReg n.exposureUs ledAlwaysOn)
  hub.write ⟨0, 0x00, 0x68⟩ n.gain
  hub.write ⟨0, 0x00, 0x6D⟩ n.lightThreshold
  writeU16Reg hub 0 0x00 (0x6E, 0x6F) n.areaLower
  writeU16Reg hub 0 0x00 (0x70, 0x71) n.areaUpper

end

/-! ## Texts and numbers -/

theorem parsed_toState (n : PagNumbers) : n.toState.parsed = some n := by
  simp only [PagState.parsed, PagNumbers.toState, parseU8_decimal, parseU16_decimal]
  rfl

/-- Fields that parse are applied as they are. -/
theorem applied_of_parsed {state : PagState} {n : PagNumbers} (h : state.parsed = some n) : state.applied = n := by
  simp only [PagState.parsed, Option.bind_eq_bind, Option.bind_eq_some_iff, Option.some.injEq] at h
  obtain ⟨fps, hfps, exposureUs, hexposure, gain, hgain, light, hlight, lower, hlower, upper, hupper, rfl⟩ := h
  simp only [PagState.applied, hfps, hexposure, hgain, hlight, hlower, hupper, Option.getD_some]

/-- The defaults of the panel are the numbers that a field without a number stands for. -/
theorem pagLoadDefaults_parsed : pagLoadDefaults.parsed = some (PagState.applied ⟨"", "", "", "", "", ""⟩) := by
  decide

/-! ## The exposure -/

theorem led_masked (b : UInt8) : ((b ||| (1 : UInt8) <<< 7) &&& 0x7F).toNat = b.toNat % 128 :=
  Utf8.forall_byte (p := fun b => ((b ||| (1 : UInt8) <<< 7) &&& 0x7F).toNat = b.toNat % 128) (by decide +kernel) b

/-- What is read of an exposure: seven bits of its hundreds. -/
theorem toNat_exposureOfReg (exposureUs : UInt16) :
    (exposureOfReg (expoReg exposureUs true)).toNat = exposureUs.toNat / 100 % 128 * 100 := by
  have hbyte : ((exposureUs / 100).toUInt8).toNat % 128 = exposureUs.toNat / 100 % 128 := by
    rw [UInt16.toNat_toUInt8, UInt16.toNat_div]
    show exposureUs.toNat / 100 % 256 % 128 = _
    omega
  have hbits := led_masked (exposureUs / 100).toUInt8
  rw [hbyte] at hbits
  have hlt : exposureUs.toNat / 100 % 128 < 128 := Nat.mod_lt _ (by decide)
  unfold exposureOfReg expoReg
  rw [UInt16.toNat_mul, UInt8.toNat_toUInt16]
  show ((_ ||| (1 : UInt8) <<< 7) &&& 0x7F).toNat * 100 % 65536 = _
  rw [hbits]
  omega

/-- The exposure is rounded down to hundreds, if these fit beside the flag. -/
theorem exposureOfReg_iff (exposureUs : UInt16) :
    exposureOfReg (expoReg exposureUs true) = exposureUs / 100 * 100 ↔ exposureUs < 12800 := by
  have hlt : exposureUs.toNat < 65536 := exposureUs.toNat_lt
  have hround : (exposureUs / 100 * 100).toNat = exposureUs.toNat / 100 * 100 := by
    rw [UInt16.toNat_mul, UInt16.toNat_div]
    show exposureUs.toNat / 100 * 100 % 65536 = _
    omega
  rw [← UInt16.toNat_inj, toNat_exposureOfReg, hround, UInt16.lt_iff_toNat_lt]
  show _ ↔ exposureUs.toNat < 12800
  omega

/-! ## What is stored, and what is loaded -/

/-- The numbers in the registers. -/
def loadedNumbers (c : Register → UInt8) : PagNumbers :=
  { fps := c ⟨0, 0x00, 0x13⟩
    exposureUs := exposureOfReg (c ⟨0, 0x00, 0x67⟩)
    gain := c ⟨0, 0x00, 0x68⟩
    lightThreshold := c ⟨0, 0x00, 0x6D⟩
    areaLower := LittleEndian.u16OfBytes (c ⟨0, 0x00, 0x6E⟩) (c ⟨0, 0x00, 0x6F⟩)
    areaUpper := LittleEndian.u16OfBytes (c ⟨0, 0x00, 0x70⟩) (c ⟨0, 0x00, 0x71⟩) }

/-- A register of two bytes. -/
def storeU16 (port bank : UInt8) (addrs : UInt8 × UInt8) (val : UInt16) (c : Register → UInt8) : Register → UInt8 :=
  Function.update (Function.update c ⟨port, bank, addrs.1⟩ (LittleEndian.bytesOfU16 val).1) ⟨port, bank, addrs.2⟩
    (LittleEndian.bytesOfU16 val).2

/-- The registers with the numbers applied. -/
def storedNumbers (n : PagNumbers) (c : Register → UInt8) : Register → UInt8 :=
  let c := Function.update c ⟨0, 0x00, 0x13⟩ n.fps
  let c := Function.update c ⟨0, 0x00, 0x67⟩ (expoReg n.exposureUs true)
  let c := Function.update c ⟨0, 0x00, 0x68⟩ n.gain
  let c := Function.update c ⟨0, 0x00, 0x6D⟩ n.lightThreshold
  storeU16 0 0x00 (0x70, 0x71) n.areaUpper (storeU16 0 0x00 (0x6E, 0x6F) n.areaLower c)

section
variable {ε σ : Type} {hub : Memory Register UInt8 ε σ}

theorem reads_readU16Reg (port bank : UInt8) (addrs : UInt8 × UInt8) :
    hub.Reads (readU16Reg hub port bank addrs) fun c =>
      LittleEndian.u16OfBytes (c ⟨port, bank, addrs.1⟩) (c ⟨port, bank, addrs.2⟩) :=
  (reads_read _).bind fun _ => (reads_read _).bind fun _ => reads_pure _

theorem reads_pagLoadFromDevice : hub.Reads (pagLoadFromDevice hub) fun c => (loadedNumbers c).toState :=
  (reads_read _).bind fun _ => (reads_read _).bind fun _ => (reads_read _).bind fun _ => (reads_read _).bind fun _ =>
    (reads_readU16Reg 0 0x00 (0x6E, 0x6F)).bind fun _ =>
      (reads_readU16Reg 0 0x00 (0x70, 0x71)).bind fun _ => reads_pure _

theorem writes_writeU16Reg (port bank : UInt8) (addrs : UInt8 × UInt8) (val : UInt16) :
    hub.Writes (writeU16Reg hub port bank addrs val) (storeU16 port bank addrs val) :=
  (writes_write _ _).bind (writes_write _ _)

theorem writes_pagApplyToDevice (state : PagState) :
    hub.Writes (pagApplyToDevice hub state) (storedNumbers state.applied) :=
  (writes_write _ _).bind <| (writes_write _ _).bind <| (writes_write _ _).bind <| (writes_write _ _).bind <|
    (writes_writeU16Reg 0 0x00 (0x6E, 0x6F) _).bind (writes_writeU16Reg 0 0x00 (0x70, 0x71) _)

end

/-- Every field is found in its own register; the exposure loses what does not fit beside the
flag of the LED. -/
theorem loadedNumbers_storedNumbers (n : PagNumbers) (c : Register → UInt8) :
    loadedNumbers (storedNumbers n c) = { n with exposureUs := exposureOfReg (expoReg n.exposureUs true) } := by
  simp [loadedNumbers, storedNumbers, storeU16, LittleEndian.u16OfBytes_bytesOfU16]

/-- The numbers with the exposure rounded down to a multiple of 100 us. -/
def PagNumbers.rounded (n : PagNumbers) : PagNumbers := { n with exposureUs := n.exposureUs / 100 * 100 }

/-- A load returns the numbers that were applied, the exposure rounded down. -/
def LoadsApplied {ε σ : Type} (hub : Memory Register UInt8 ε σ) (n : PagNumbers) (s : σ) : Prop :=
  ∃ loaded s', (pagLoadFromDevice hub).run s = .ok (loaded, s') ∧ loaded.parsed = some n.rounded

theorem loadsApplied_iff {ε σ : Type} {hub : Memory Register UInt8 ε σ} {state : PagState} {s s' : σ}
    (happly : (pagApplyToDevice hub state).run s = .ok ((), s')) :
    LoadsApplied hub state.applied s' ↔
      exposureOfReg (expoReg state.applied.exposureUs true) = state.applied.exposureUs / 100 * 100 := by
  have hreads : hub.Reads (pagLoadFromDevice hub) fun c => (loadedNumbers c).toState := reads_pagLoadFromDevice
  obtain ⟨s'', hload, -⟩ := hreads s'
  dsimp only at hload
  rw [writes_pagApplyToDevice state s s' happly, loadedNumbers_storedNumbers] at hload
  constructor
  · rintro ⟨loaded, t, hrun, hparsed⟩
    obtain ⟨rfl, -⟩ := Prod.mk.inj (Except.ok.inj (hload.symm.trans hrun))
    rw [parsed_toState, Option.some.injEq] at hparsed
    exact congrArg PagNumbers.exposureUs hparsed
  · intro hexposure
    refine ⟨_, s'', hload, ?_⟩
    rw [parsed_toState, hexposure]
    rfl

/-- **Reading back.**  After settings that parse have been applied, whatever the registers held,
the numbers that were applied are loaded exactly when the exposure is below 12800 us. -/
theorem pag_readsBack_iff {ε σ : Type} (hub : Memory Register UInt8 ε σ) {state : PagState} {n : PagNumbers}
    (hparsed : state.parsed = some n) {s s' : σ} (happly : (pagApplyToDevice hub state).run s = .ok ((), s')) :
    LoadsApplied hub n s' ↔ n.exposureUs < 12800 := by
  obtain rfl := applied_of_parsed hparsed
  exact (loadsApplied_iff happly).trans (exposureOfReg_iff _)

/-- Registers of which none is broken. -/
def sampleRegisters : Memory Register UInt8 String (Register → UInt8) := .plain Register UInt8 String fun _ => none

theorem pag_readsBack_iff_defaults :
    LoadsApplied sampleRegisters pagLoadDefaults.applied (storedNumbers pagLoadDefaults.applied fun _ => 0) ↔
      pagLoadDefaults.applied.exposureUs < 12800 :=
  @pag_readsBack_iff _ _ sampleRegisters pagLoadDefaults _ (by decide) (fun _ => 0) _ rfl

/-- An exposure of 20 ms comes back as one of 7.2 ms. -/
theorem exposure_cut :
    ¬ ∀ (hub : Memory Register UInt8 String (Register → UInt8)) (state : PagState) (n : PagNumbers)
      (s s' : Register → UInt8), state.parsed = some n → (pagApplyToDevice hub state).run s = .ok ((), s') →
      LoadsApplied hub n s' := by
  intro hall
  let long : PagState := { pagLoadDefaults with exposureUs := "20000" }
  have hparsed : long.parsed = some long.applied := by decide
  have hloads := hall sampleRegisters long long.applied (fun _ => 0) _ hparsed rfl
  exact absurd ((loadsApplied_iff rfl).mp hloads) (by decide)

end OdysseyHub
