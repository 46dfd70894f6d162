import OdysseyHub.Desktop.SensorSettings

/-!
# The PAJ panels (sensor_settings.rs)

A PAJ device has a near field and a wide field sensor, behind ports 0 and 1, with a panel each.
`Save` applies both panels and flashes.  What is flashed is loaded again as it was applied, but for
the exposure and the gain, which are loaded from other registers than they are applied to
(`paj_saved`); and saving what was loaded leaves every other register alone (`paj_resaved`).
-/

namespace OdysseyHub

open Memory

/-- `parse::<u32>()` -/
def parseU32 (s : String) : Option UInt32 := (Parse.fromStrRadix 10 4294967296 s.toList).map UInt32.ofNat

/-- `parse::<usize>()`, of 64 bits -/
def parseUsize (s : String) : Option Nat := Parse.fromStrRadix 10 18446744073709551616 s.toList

theorem parseU32_decimal (v : UInt32) : parseU32 (decimal v.toNat) = some v := by
  rw [parseU32, decimal, String.toList_ofList, Parse.fromStrRadix_toDigits v.toNat_lt, Option.map_some,
    UInt32.ofNat_toNat]

theorem parseUsize_decimal {n : Nat} (h : n < 18446744073709551616) : parseUsize (decimal n) = some n := by
  rw [parseUsize, decimal, String.toList_ofList, Parse.fromStrRadix_toDigits h]

/-! ## Gains -/

structure GainEntry where
  label : String
  bGlobal : UInt8
  bGgh : UInt8
  deriving DecidableEq, Repr

def gainIndexFromReg (bGlobal bGgh : UInt8) : Nat :=
  let bGgh := if bGgh > 0 then bGgh - 1 else bGgh
  bGgh.toNat * 16 + bGlobal.toNat

/-- `GAIN_TABLE` -/
def gainTable : List GainEntry :=
  [
    ⟨"1.0000", 0, 0⟩, ⟨"1.0625", 1, 0⟩, ⟨"1.1250", 2, 0⟩, ⟨"1.1875", 3, 0⟩, ⟨"1.2500", 4, 0⟩,
    ⟨"1.3125", 5, 0⟩, ⟨"1.3750", 6, 0⟩, ⟨"1.4375", 7, 0⟩, ⟨"1.5000", 8, 0⟩, ⟨"1.5625", 9, 0⟩,
    ⟨"1.6250", 10, 0⟩, ⟨"1.6875", 11, 0⟩, ⟨"1.7500", 12, 0⟩, ⟨"1.8125", 13, 0⟩, ⟨"1.8750", 14, 0⟩,
    ⟨"1.9375", 15, 0⟩, ⟨"2.0000", 0, 2⟩, ⟨"2.1250", 1, 2⟩, ⟨"2.2500", 2, 2⟩, ⟨"2.3750", 3, 2⟩,
    ⟨"2.5000", 4, 2⟩, ⟨"2.6250", 5, 2⟩, ⟨"2.7500", 6, 2⟩, ⟨"2.8750", 7, 2⟩, ⟨"3.0000", 8, 2⟩,
    ⟨"3.1250", 9, 2⟩, ⟨"3.2500", 10, 2⟩, ⟨"3.3750", 11, 2⟩, ⟨"3.5000", 12, 2⟩, ⟨"3.6250", 13, 2⟩,
    ⟨"3.7500", 14, 2⟩, ⟨"3.8750", 15, 2⟩, ⟨"4.0000", 0, 3⟩, ⟨"4.2500", 1, 3⟩, ⟨"4.5000", 2, 3⟩,
    ⟨"4.7500", 3, 3⟩, ⟨"5.0000", 4, 3⟩, ⟨"5.2500", 5, 3⟩, ⟨"5.5000", 6, 3⟩, ⟨"5.7500", 7, 3⟩,
    ⟨"6.0000", 8, 3⟩, ⟨"6.2500", 9, 3⟩, ⟨"6.5000", 10, 3⟩, ⟨"6.7500", 11, 3⟩, ⟨"7.0000", 12, 3⟩,
    ⟨"7.2500", 13, 3⟩, ⟨"7.5000", 14, 3⟩, ⟨"7.7500", 15, 3⟩, ⟨"8.0000", 16, 3⟩
  ]

/-- The entry of an index, or the last one. -/
def gainEntry (index : Nat) : GainEntry := gainTable.getD (min index (gainTable.length - 1)) ⟨"", 0, 0⟩

/-! ## The panel -/

/-- The texts of a panel. -/
structure PajState where
  brightnessThreshold : String
  noiseThreshold : String
  areaThresholdMin : String
  areaThresholdMax : String
  maxObjectCnt : String
  operationMode : String
  exposureTime : String
  framePeriod : String
  frameSubtraction : String
  gainIndex : String
  resolutionX : String
  resolutionY : String
  deriving DecidableEq, Repr

/-- The numbers that they stand for. -/
structure PajNumbers where
  brightnessThreshold : UInt8
  noiseThreshold : UInt8
  areaThresholdMin : UInt8
  areaThresholdMax : UInt16
  maxObjectCnt : UInt8
  operationMode : UInt8
  exposureTime : UInt16
  framePeriod : UInt32
  frameSubtraction : UInt8
  gainIndex : Nat
  resolutionX : UInt16
  resolutionY : UInt16
  deriving DecidableEq, Repr

/-- What is applied: a field that does not parse stands for its default. -/
def PajState.applied (state : PajState) : PajNumbers :=
  { brightnessThreshold := (parseU8 state.brightnessThreshold).getD 0
    noiseThreshold := (parseU8 state.noiseThreshold).getD 0
    areaThresholdMin := (parseU8 state.areaThresholdMin).getD 0
    areaThresholdMax := (parseU16 state.areaThresholdMax).getD 0
    maxObjectCnt := (parseU8 state.maxObjectCnt).getD 16
    operationMode := (parseU8 state.operationMode).getD 0
    exposureTime := (parseU16 state.exposureTime).getD 0
    framePeriod := (parseU32 state.framePeriod).getD 49780
    frameSubtraction := (parseU8 state.frameSubtraction).getD 0
    gainIndex := (parseUsize state.gainIndex).getD 0
    resolutionX := (parseU16 state.resolutionX).getD 4095
    resolutionY := (parseU16 state.resolutionY).getD 4095 }

/-- `to_string` of every number -/
def PajNumbers.toState (n : PajNumbers) : PajState :=
  { brightnessThreshold := decimal n.brightnessThreshold.toNat
    noiseThreshold := decimal n.noiseThreshold.toNat
    areaThresholdMin := decimal n.areaThresholdMin.toNat
    areaThresholdMax := decimal n.areaThresholdMax.toNat
    maxObjectCnt := decimal n.maxObjectCnt.toNat
    operationMode := decimal n.operationMode.toNat
    exposureTime := decimal n.exposureTime.toNat
    framePeriod := decimal n.framePeriod.toNat
    frameSubtraction := decimal n.frameSubtraction.toNat
    gainIndex := decimal n.gainIndex
    resolutionX := decimal n.resolutionX.toNat
    resolutionY := decimal n.resolutionY.toNat }

def pajLoadDefaults (port : UInt8) : PajState :=
  let isNf := port == 0
  { brightnessThreshold := "110"
    noiseThreshold := "15"
    areaThresholdMin := if isNf then "10" else "5"
    areaThresholdMax := "9605"
    maxObjectCnt := "16"
    operationMode := "0"
    exposureTime := if isNf then "8192" else "11365"
    framePeriod := "49780"
    frameSubtraction := "0"
    gainIndex := if isNf then decimal (gainIndexFromReg 16 0) else decimal (gainIndexFromReg 8 3)
    resolutionX := "4095"
    resolutionY := "4095" }

section
variable {ε σ : Type} (hub : Memory Register UInt8 ε σ)

def readU32Reg3Byte (port bank : UInt8) (addrs : UInt8 × UInt8 × UInt8) : Requests ε σ UInt32 := do
  let b0 ← hub.read ⟨port, bank, addrs.1⟩
  let b1 ← hub.read ⟨port, bank, addrs.2.1⟩
  let b2 ← hub.read ⟨port, bank, addrs.2.2⟩
  pure (LittleEndian.u24OfBytes b0 b1 b2)

def writeU32Reg3Byte (port bank : UInt8) (addrs : UInt8 × UInt8 × UInt8) (val : UInt32) : Requests ε σ Unit := do
  let bytes := LittleEndian.bytesOfU24 val
  hub.write ⟨port, bank, addrs.1⟩ bytes.1
  hub.write ⟨port, bank, addrs.2.1⟩ bytes.2.1
  hub.write ⟨port, bank, addrs.2.2⟩ bytes.2.2

def pajLoadFromDevice (port : UInt8) : Requests ε σ PajState := do
  let brightnessThreshold ← hub.read ⟨port, 0x0C, 0x47⟩
  let noiseThreshold ← hub.read ⟨port, 0x00, 0x0F⟩
  let areaThresholdMin ← hub.read ⟨port, 0x0C, 0x46⟩
  let areaThresholdMax ← readU16Reg hub port 0x00 (0x0B, 0x0C)
  let maxObjectCnt ← hub.read ⟨port, 0x00, 0x19⟩
  let operationMode ← hub.read ⟨port, 0x00, 0x12⟩
  let exposureTime ← readU16Reg hub port 0x01 (0x0E, 0x0F)
  let framePeriod ← readU32Reg3Byte hub port 0x0C (0x07, 0x08, 0x09)
  let frameSubtraction ← hub.read ⟨port, 0x00, 0x28⟩
  let gain1 ← hub.read ⟨port, 0x01, 0x05⟩
  let gain2 ← hub.read ⟨port, 0x01, 0x06⟩
  let resolutionX ← readU16Reg hub port 0x0C (0x60, 0x61)
  let resolutionY ← readU16Reg hub port 0x0C (0x62, 0x63)
  pure (PajNumbers.toState
    { brightnessThreshold := brightnessThreshold
      noiseThreshold := noiseThreshold
      areaThresholdMin := areaThresholdMin
      areaThresholdMax := areaThresholdMax
      maxObjectCnt := maxObjectCnt
      operationMode := operationMode
      exposureTime := exposureTime
      framePeriod := framePeriod
      frameSubtraction := frameSubtraction
      gainIndex := gainIndexFromReg gain1 gain2
      resolutionX := resolutionX
      resolutionY := resolutionY })

def pajApplyToDevice (port : UInt8) (state : PajState) : Requests ε σ Unit := do
  let n := state.applied
  let gain := gainEntry n.gainIndex
  hub.write ⟨port, 0x0C, 0x47⟩ n.brightnessThreshold
  hub.write ⟨port, 0x00, 0x0F⟩ n.noiseThreshold
  hub.write ⟨port, 0x0C, 0x46⟩ n.areaThresholdMin
  writeU16Reg hub port 0x00 (0x0B, 0x0C) n.areaThresholdMax
  hub.write ⟨port, 0x00, 0x19⟩ n.maxObjectCnt
  hub.write ⟨port, 0x00, 0x12⟩ n.operationMode
  writeU16Reg hub port 0x0C (0x0F, 0x10) n.exposureTime
  writeU32Reg3Byte hub port 0x0C (0x07, 0x08, 0x09) n.framePeriod
  hub.write ⟨port, 0x00, 0x28⟩ n.frameSubtraction
  hub.write ⟨port, 0x0C, 0x0B⟩ gain.bGlobal
  hub.write ⟨port, 0x0C, 0x0C⟩ gain.bGgh
  writeU16Reg hub port 0x0C (0x60, 0x61) n.resolutionX
  writeU16Reg hub port 0x0C (0x62, 0x63) n.resolutionY
  -- Sync
  hub.write ⟨port, 0x01, 0x01⟩ 1
  hub.write ⟨port, 0x00, 0x01⟩ 1

/-- `Reload`, of the near field and the wide field. -/
def pajLoadBoth : Requests ε σ (PajState × PajState) := do
  let nf ← pajLoadFromDevice hub 0
  let wf ← pajLoadFromDevice hub 1
  pure (nf, wf)

/-- `Apply`.  The wide field is tried even if the near field has failed, which is an error all the same. -/
def pajApplyBoth (panels : PajState × PajState) : Requests ε σ Unit := do
  pajApplyToDevice hub 0 panels.1
  pajApplyToDevice hub 1 panels.2

end

/-- `Save`: the settings are flashed only if both panels were applied. -/
def pajSave {ε σ : Type} (hub : FlashMemory Register UInt8 ε σ) (panels : PajState × PajState) :
    Requests ε σ Unit := do
  pajApplyBoth hub.toMemory panels
  hub.flash

/-! ## Texts and numbers -/

theorem gainIndexFromReg_lt (bGlobal bGgh : UInt8) : gainIndexFromReg bGlobal bGgh < 4336 := by
  have hglobal : bGlobal.toNat < 256 := bGlobal.toNat_lt
  have hggh : bGgh.toNat < 256 := bGgh.toNat_lt
  unfold gainIndexFromReg
  dsimp only
  split
  · next hpos =>
    have hpos' : (1 : UInt8).toNat ≤ bGgh.toNat := hpos
    have hpred : (bGgh - 1).toNat = bGgh.toNat - 1 := UInt8.toNat_sub_of_le _ _ (UInt8.le_iff_toNat_le.mpr hpos')
    rw [hpred]
    omega
  · next hzero =>
    have hzero' : ¬ 0 < bGgh.toNat := hzero
    omega

/-- A number is applied as it was printed. -/
theorem applied_toState {n : PajNumbers} (h : n.gainIndex < 18446744073709551616) : n.toState.applied = n := by
  simp only [PajState.applied, PajNumbers.toState, parseU8_decimal, parseU16_decimal, parseU32_decimal,
    parseUsize_decimal h, Option.getD_some]

/-- The registers of an entry are those of its index. -/
theorem gainIndexFromReg_gainEntry : ∀ i < 49, gainIndexFromReg (gainEntry i).bGlobal (gainEntry i).bGgh = i := by
  decide +kernel

/-- An entry is labelled with its gain, in ten-thousandths: sixteenths above 1, doubled by every step. -/
theorem gainTable_labels : ∀ e ∈ gainTable,
    e.label.toList.filter (· ≠ '.') = Nat.toDigits 10 (625 * (16 + e.bGlobal.toNat) * 2 ^ (e.bGgh.toNat - 1)) := by
  decide +kernel

/-- The defaults of both ports are in the range of their fields. -/
theorem pajLoadDefaults_applied (port : UInt8) : (pajLoadDefaults port).applied.toState = pajLoadDefaults port := by
  unfold pajLoadDefaults
  cases port == 0 <;> decide +kernel

/-! ## What is stored, and what is loaded -/

namespace Paj

/-- The numbers in the registers of a port. -/
def loaded (port : UInt8) (c : Register → UInt8) : PajNumbers :=
  { brightnessThreshold := c ⟨port, 0x0C, 0x47⟩
    noiseThreshold := c ⟨port, 0x00, 0x0F⟩
    areaThresholdMin := c ⟨port, 0x0C, 0x46⟩
    areaThresholdMax := LittleEndian.u16OfBytes (c ⟨port, 0x00, 0x0B⟩) (c ⟨port, 0x00, 0x0C⟩)
    maxObjectCnt := c ⟨port, 0x00, 0x19⟩
    operationMode := c ⟨port, 0x00, 0x12⟩
    exposureTime := LittleEndian.u16OfBytes (c ⟨port, 0x01, 0x0E⟩) (c ⟨port, 0x01, 0x0F⟩)
    framePeriod := LittleEndian.u24OfBytes (c ⟨port, 0x0C, 0x07⟩) (c ⟨port, 0x0C, 0x08⟩) (c ⟨port, 0x0C, 0x09⟩)
    frameSubtraction := c ⟨port, 0x00, 0x28⟩
    gainIndex := gainIndexFromReg (c ⟨port, 0x01, 0x05⟩) (c ⟨port, 0x01, 0x06⟩)
    resolutionX := LittleEndian.u16OfBytes (c ⟨port, 0x0C, 0x60⟩) (c ⟨port, 0x0C, 0x61⟩)
    resolutionY := LittleEndian.u16OfBytes (c ⟨port, 0x0C, 0x62⟩) (c ⟨port, 0x0C, 0x63⟩) }

def storeU24 (port bank : UInt8) (addrs : UInt8 × UInt8 × UInt8) (val : UInt32) (c : Register → UInt8) :
    Register → UInt8 :=
  let bytes := LittleEndian.bytesOfU24 val
  Function.update (Function.update (Function.update c ⟨port, bank, addrs.1⟩ bytes.1) ⟨port, bank, addrs.2.1⟩ bytes.2.1)
    ⟨port, bank, addrs.2.2⟩ bytes.2.2

/-- The registers with the numbers applied. -/
def stored (port : UInt8) (n : PajNumbers) (c : Register → UInt8) : Register → UInt8 :=
  let gain := gainEntry n.gainIndex
  let c := Function.update c ⟨port, 0x0C, 0x47⟩ n.brightnessThreshold
  let c := Function.update c ⟨port, 0x00, 0x0F⟩ n.noiseThreshold
  let c := Function.update c ⟨port, 0x0C, 0x46⟩ n.areaThresholdMin
  let c := storeU16 port 0x00 (0x0B, 0x0C) n.areaThresholdMax c
  let c := Function.update c ⟨port, 0x00, 0x19⟩ n.maxObjectCnt
  let c := Function.update c ⟨port, 0x00, 0x12⟩ n.operationMode
  let c := storeU16 port 0x0C (0x0F, 0x10) n.exposureTime c
  let c := storeU24 port 0x0C (0x07, 0x08, 0x09) n.framePeriod c
  let c := Function.update c ⟨port, 0x00, 0x28⟩ n.frameSubtraction
  let c := Function.update c ⟨port, 0x0C, 0x0B⟩ gain.bGlobal
  let c := Function.update c ⟨port, 0x0C, 0x0C⟩ gain.bGgh
  let c := storeU16 port 0x0C (0x60, 0x61) n.resolutionX c
  let c := storeU16 port 0x0C (0x62, 0x63) n.resolutionY c
  let c := Function.update c ⟨port, 0x01, 0x01⟩ 1
  Function.update c ⟨port, 0x00, 0x01⟩ 1

section
variable {ε σ : Type} {hub : Memory Register UInt8 ε σ}

theorem reads_pajLoadFromDevice (port : UInt8) :
    hub.Reads (pajLoadFromDevice hub port) fun c => (loaded port c).toState :=
  (reads_read _).bind fun _ => (reads_read _).bind fun _ => (reads_read _).bind fun _ =>
    (reads_readU16Reg port 0x00 (0x0B, 0x0C)).bind fun _ => (reads_read _).bind fun _ => (reads_read _).bind fun _ =>
      (reads_readU16Reg port 0x01 (0x0E, 0x0F)).bind fun _ =>
        ((reads_read _).bind fun _ => (reads_read _).bind fun _ => (reads_read _).bind fun _ => reads_pure _).bind fun _ =>
          (reads_read _).bind fun _ => (reads_read _).bind fun _ => (reads_read _).bind fun _ =>
            (reads_readU16Reg port 0x0C (0x60, 0x61)).bind fun _ =>
              (reads_readU16Reg port 0x0C (0x62, 0x63)).bind fun _ => reads_pure _

theorem writes_writeU32Reg3Byte (port bank : UInt8) (addrs : UInt8 × UInt8 × UInt8) (val : UInt32) :
    hub.Writes (writeU32Reg3Byte hub port bank addrs val) (storeU24 port bank addrs val) :=
  (writes_write _ _).bind ((writes_write _ _).bind (writes_write _ _))

theorem writes_pajApplyToDevice (port : UInt8) (state : PajState) :
    hub.Writes (pajApplyToDevice hub port state) (stored port state.applied) :=
  (writes_write _ _).bind <| (writes_write _ _).bind <| (writes_write _ _).bind <|
    (writes_writeU16Reg port 0x00 (0x0B, 0x0C) _).bind <| (writes_write _ _).bind <| (writes_write _ _).bind <|
      (writes_writeU16Reg port 0x0C (0x0F, 0x10) _).bind <|
        (writes_writeU32Reg3Byte port 0x0C (0x07, 0x08, 0x09) _).bind <| (writes_write _ _).bind <|
          (writes_write _ _).bind <| (writes_write _ _).bind <| (writes_writeU16Reg port 0x0C (0x60, 0x61) _).bind <|
            (writes_writeU16Reg port 0x0C (0x62, 0x63) _).bind <| (writes_write _ _).bind (writes_write _ _)

end

/-- What is loaded after numbers were applied: the exposure and the gain come from other registers. -/
def readBack (port : UInt8) (n : PajNumbers) (c : Register → UInt8) : PajNumbers :=
  { n with
    exposureTime := (loaded port c).exposureTime
    framePeriod := n.framePeriod % 0x1000000
    gainIndex := (loaded port c).gainIndex }

theorem loaded_stored (port : UInt8) (n : PajNumbers) (c : Register → UInt8) :
    loaded port (stored port n c) = readBack port n c := by
  simp [loaded, stored, readBack, storeU16, storeU24, LittleEndian.u16OfBytes_bytesOfU16,
    LittleEndian.u24OfBytes_bytesOfU24]

/-- The two ports have nothing in common. -/
theorem stored_other {port other : UInt8} (h : other ≠ port) (n : PajNumbers) (c : Register → UInt8) (bank addr : UInt8) :
    stored port n c ⟨other, bank, addr⟩ = c ⟨other, bank, addr⟩ := by
  simp [stored, storeU16, storeU24, h]

theorem loaded_congr {port : UInt8} {c c' : Register → UInt8}
    (h : ∀ bank addr, c ⟨port, bank, addr⟩ = c' ⟨port, bank, addr⟩) :
    loaded port c = loaded port c' := by
  simp only [loaded, h]

/-- The registers that are written and not read. -/
def unread (port : UInt8) : List Register :=
  [⟨port, 0x0C, 0x0F⟩, ⟨port, 0x0C, 0x10⟩, ⟨port, 0x0C, 0x0B⟩, ⟨port, 0x0C, 0x0C⟩, ⟨port, 0x01, 0x01⟩,
    ⟨port, 0x00, 0x01⟩]

section
variable {cells : List Register} {c c' : Register → UInt8} {port bank : UInt8}

theorem unchanged_storeU16 (h : Unchanged cells c c') {addrs : UInt8 × UInt8} {val : UInt16}
    (hv : (⟨port, bank, addrs.1⟩ ∈ cells ∧ ⟨port, bank, addrs.2⟩ ∈ cells) ∨
      val = LittleEndian.u16OfBytes (c ⟨port, bank, addrs.1⟩) (c ⟨port, bank, addrs.2⟩)) :
    Unchanged cells c (storeU16 port bank addrs val c') := by
  rcases hv with ⟨hlo, hhi⟩ | rfl
  · exact (h.update (.inl hlo)).update (.inl hhi)
  · unfold storeU16
    rw [LittleEndian.bytesOfU16_u16OfBytes]
    exact (h.update (.inr rfl)).update (.inr rfl)

theorem unchanged_storeU24 (h : Unchanged cells c c') {addrs : UInt8 × UInt8 × UInt8} :
    Unchanged cells c
      (storeU24 port bank addrs
        (LittleEndian.u24OfBytes (c ⟨port, bank, addrs.1⟩) (c ⟨port, bank, addrs.2.1⟩) (c ⟨port, bank, addrs.2.2⟩)) c') := by
  unfold storeU24
  rw [LittleEndian.bytesOfU24_u24OfBytes]
  exact ((h.update (.inr rfl)).update (.inr rfl)).update (.inr rfl)

end

/-- What was loaded is applied to where it came from. -/
theorem unchanged_stored_loaded (port : UInt8) (c : Register → UInt8) :
    Unchanged (unread port) c (stored port (loaded port c) c) := by
  unfold stored loaded
  dsimp only
  -- from the last write to the first
  refine .update ?_ (.inl (by simp [unread]))
  refine .update ?_ (.inl (by simp [unread]))
  refine unchanged_storeU16 ?_ (.inr rfl)
  refine unchanged_storeU16 ?_ (.inr rfl)
  refine .update ?_ (.inl (by simp [unread]))
  refine .update ?_ (.inl (by simp [unread]))
  refine .update ?_ (.inr rfl)
  refine unchanged_storeU24 ?_
  refine unchanged_storeU16 ?_ (.inl (by simp [unread]))
  refine .update ?_ (.inr rfl)
  refine .update ?_ (.inr rfl)
  refine unchanged_storeU16 ?_ (.inr rfl)
  refine .update ?_ (.inr rfl)
  refine .update ?_ (.inr rfl)
  refine .update ?_ (.inr rfl)
  exact unchanged_refl _ c

/-! ## Both panels -/

section
variable {ε σ : Type} {hub : Memory Register UInt8 ε σ}

theorem reads_pajLoadBoth (hub : Memory Register UInt8 ε σ) :
    hub.Reads (pajLoadBoth hub) fun c => ((loaded 0 c).toState, (loaded 1 c).toState) :=
  (reads_pajLoadFromDevice 0).pair (reads_pajLoadFromDevice 1)

theorem writes_pajApplyBoth (panels : PajState × PajState) :
    hub.Writes (pajApplyBoth hub panels) (stored 1 panels.2.applied ∘ stored 0 panels.1.applied) :=
  (writes_pajApplyToDevice 0 panels.1).bind (writes_pajApplyToDevice 1 panels.2)

end

/-- Each port is read back as if it alone had been written. -/
theorem loaded_both (nf wf : PajNumbers) (c : Register → UInt8) :
    loaded 0 (stored 1 wf (stored 0 nf c)) = readBack 0 nf c ∧
      loaded 1 (stored 1 wf (stored 0 nf c)) = readBack 1 wf c := by
  constructor
  · rw [← loaded_stored 0 nf c]
    exact loaded_congr fun bank addr => stored_other (by decide) wf _ bank addr
  · rw [loaded_stored 1 wf]
    have hsame : loaded 1 (stored 0 nf c) = loaded 1 c :=
      loaded_congr fun bank addr => stored_other (by decide) nf c bank addr
    unfold readBack
    rw [hsame]

theorem unchanged_both (c : Register → UInt8) :
    Unchanged (unread 0 ++ unread 1) c (stored 1 (loaded 1 c) (stored 0 (loaded 0 c) c)) := by
  have hnf := (unchanged_stored_loaded 0 c).mono (List.subset_append_left (unread 0) (unread 1))
  have hsame : loaded 1 (stored 0 (loaded 0 c) c) = loaded 1 c :=
    loaded_congr fun bank addr => stored_other (by decide) _ c bank addr
  have hwf := (unchanged_stored_loaded 1 (stored 0 (loaded 0 c) c)).mono (List.subset_append_right (unread 0) (unread 1))
  rw [hsame] at hwf
  exact hnf.trans hwf

end Paj

open Paj

/-- **What is saved is loaded again.**  Whatever the texts of the panels and whatever the registers held,
once `Save` has succeeded and the device has come back from a power cycle with what was flashed, both
panels show what was applied: the frame period in its lower three bytes, and the exposure and the gain as
they were before, which are not loaded from where they are applied. -/
theorem paj_saved {ε σ : Type} (hub : FlashMemory Register UInt8 ε σ) (panels : PajState × PajState) {s s' back : σ}
    (hsave : (pajSave hub panels).run s = .ok ((), s')) (hback : hub.content back = hub.flashed s') :
    ∃ t, (pajLoadBoth hub.toMemory).run back =
      .ok (((readBack 0 panels.1.applied (hub.content s)).toState, (readBack 1 panels.2.applied (hub.content s)).toState),
        t) := by
  have hflashed := FlashMemory.flashed_bind (writes_pajApplyBoth panels) hsave
  obtain ⟨t, hload, -⟩ := reads_pajLoadBoth hub.toMemory back
  obtain ⟨hnf, hwf⟩ := loaded_both panels.1.applied panels.2.applied (hub.content s)
  refine ⟨t, ?_⟩
  rw [hload, hback, hflashed]
  dsimp only [Function.comp_apply]
  rw [hnf, hwf]

/-- **Saving what was loaded.**  Settings that are loaded and saved without a change are flashed as the
registers were; only those that are applied and not loaded, the exposure, the gain and the sync of each
port, can change. -/
theorem paj_resaved {ε σ : Type} (hub : FlashMemory Register UInt8 ε σ) {panels : PajState × PajState} {s t s' : σ}
    (hload : (pajLoadBoth hub.toMemory).run s = .ok (panels, t)) (hsave : (pajSave hub panels).run t = .ok ((), s')) :
    Unchanged (unread 0 ++ unread 1) (hub.content s) (hub.flashed s') := by
  obtain ⟨t', hload', hcontent⟩ := reads_pajLoadBoth hub.toMemory s
  obtain ⟨rfl, rfl⟩ := Prod.mk.inj (Except.ok.inj (hload.symm.trans hload'))
  have hflashed := FlashMemory.flashed_bind (writes_pajApplyBoth _) hsave
  have happlied : ∀ port c, (loaded port c).toState.applied = loaded port c := fun port c =>
    applied_toState (Nat.lt_trans (gainIndexFromReg_lt _ _) (by decide))
  rw [hflashed, hcontent]
  dsimp only [Function.comp_apply]
  rw [happlied, happlied]
  exact unchanged_both (hub.content s)

/-- Registers that can be flashed, of which none is broken. -/
def sampleFlash : FlashMemory Register UInt8 String ((Register → UInt8) × (Register → UInt8)) :=
  .plain Register UInt8 String

/-- The defaults of both panels. -/
def pajDefaults : PajState × PajState := (pajLoadDefaults 0, pajLoadDefaults 1)

set_option maxRecDepth 4000 in
theorem paj_saved_defaults : ∃ t, (pajLoadBoth sampleFlash.toMemory).run
      (stored 1 pajDefaults.2.applied (stored 0 pajDefaults.1.applied fun _ => 0), fun _ => 0) =
    .ok (((readBack 0 pajDefaults.1.applied fun _ => 0).toState, (readBack 1 pajDefaults.2.applied fun _ => 0).toState),
      t) :=
  @paj_saved _ _ sampleFlash pajDefaults (fun _ => 0, fun _ => 0) _ _ rfl rfl

set_option maxRecDepth 4000 in
theorem paj_resaved_blank :
    Unchanged (unread 0 ++ unread 1) (fun _ => 0)
      (stored 1 (loaded 1 fun _ => 0).toState.applied (stored 0 (loaded 0 fun _ => 0).toState.applied fun _ => 0)) :=
  @paj_resaved _ _ sampleFlash _ (fun _ => 0, fun _ => 0) _ _ rfl rfl

end OdysseyHub
