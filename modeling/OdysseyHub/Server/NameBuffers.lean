import OdysseyHub.Lib.Utf8
import OdysseyHub.Server.Handler

/-!
# The two truncations of a name

A device record keeps the first 32 bytes of a name and shows them if they are UTF-8
(`Device.nameBytes`, `Device.nameStr`); the device itself and the dongle are sent the
characters that fit in 32 bytes (`Handler.heaplessName`).  The two agree iff no
character lies across byte 32.
-/

namespace OdysseyHub

open Utf8

/-! ## What is sent -/

theorem push_longestPrefix (room : Nat) (cs : List Char) :
    LongestPrefix room cs (Handler.heaplessName.push room cs) := by
  induction cs generalizing room with
  | nil => exact ⟨List.prefix_refl [], by simp [Handler.heaplessName.push], fun q hq _ => hq⟩
  | cons c cs ih =>
    rw [Handler.heaplessName.push]
    by_cases hc : c.utf8Size ≤ room
    · rw [if_pos hc]
      obtain ⟨hpre, hfit, hlongest⟩ := ih (room - c.utf8Size)
      refine ⟨by simpa using hpre, ?_, fun q hq hqfit => ?_⟩
      · rw [size_cons]
        omega
      · rcases List.prefix_cons_iff.mp hq with rfl | ⟨t, rfl, ht⟩
        · exact List.nil_prefix
        · rw [size_cons] at hqfit
          simpa using hlongest t ht (by omega)
    · rw [if_neg hc]
      refine ⟨List.nil_prefix, Nat.zero_le room, fun q hq hqfit => ?_⟩
      -- the first character does not fit, so neither does any prefix that has it
      rcases List.prefix_cons_iff.mp hq with rfl | ⟨t, rfl, -⟩
      · exact List.prefix_refl []
      · rw [size_cons] at hqfit
        omega

theorem heaplessName_longestPrefix (s : String) :
    LongestPrefix 32 s.toList (Handler.heaplessName s).toList := by
  rw [Handler.heaplessName, String.toList_ofList]
  exact push_longestPrefix 32 s.toList

/-- A character has at most four bytes, so a first one always fits. -/
theorem heaplessName_ne_empty {s : String} (h : s ≠ "") : Handler.heaplessName s ≠ "" := by
  intro hempty
  have hlongest := heaplessName_longestPrefix s
  rw [hempty] at hlongest
  cases hcs : s.toList with
  | nil => exact h (String.toList_eq_nil_iff.mp hcs)
  | cons c cs =>
    have hfit : size [c] ≤ 32 := by
      have := c.utf8Size_le_four
      rw [size_cons, size_nil]
      omega
    have hpre := hlongest.longest [c] (by simp [hcs]) hfit
    simp at hpre

/-! ## What is shown -/

/-- The buffer of a name: its first 32 bytes and NULs. -/
theorem toList_nameBytes (s : String) :
    (Device.nameBytes s).toList =
      (bytes s.toList).take 32 ++ List.replicate (33 - min (size s.toList) 32) 0 := by
  have hdata : s.toUTF8.data.toList = bytes s.toList := data_toUTF8 s
  have hsize : s.toUTF8.size = size s.toList := by
    rw [← length_bytes, ← hdata]
    rfl
  apply List.ext_getElem
  · simp only [Vector.length_toList, List.length_append, List.length_take, length_bytes,
      List.length_replicate]
    omega
  · intro i hi _
    have hi' : i < 33 := by simpa using hi
    simp only [Vector.getElem_toList, Device.nameBytes, Vector.getElem_ofFn, hsize, List.getElem_append,
      List.length_take, length_bytes]
    by_cases hlt : i < min (size s.toList) 32
    · rw [if_pos hlt, dif_pos (by omega), List.getElem_take]
      have hget : s.toUTF8.get! i = s.toUTF8.data[i]! := rfl
      rw [hget, getElem!_pos s.toUTF8.data i (by
        have : s.toUTF8.data.size = s.toUTF8.size := rfl
        omega), ← Array.getElem_toList]
      simp only [hdata]
    · rw [if_neg hlt, dif_neg (by omega), List.getElem_replicate]

/-- A NUL-free name is read back up to the end of its 32 bytes, if they are UTF-8. -/
theorem nameStr_nameBytes (d : Device) {s : String} (h0 : Char.ofNat 0 ∉ s.toList) :
    ({ d with name := Device.nameBytes s }).nameStr =
      (String.fromUTF8? ((bytes s.toList).take 32).toByteArray).getD "" := by
  have hnotMem : 0 ∉ (bytes s.toList).take 32 := fun hmem =>
    zero_notMem_bytes h0 (List.mem_of_mem_take hmem)
  have hnul : (Device.nameBytes s).toList.idxOf 0 = ((bytes s.toList).take 32).length := by
    obtain ⟨k, hk⟩ : ∃ k, 33 - min (size s.toList) 32 = k + 1 := ⟨32 - min (size s.toList) 32, by omega⟩
    rw [toList_nameBytes, hk, List.idxOf_append_of_notMem hnotMem, List.replicate_succ]
    simp
  have hread : (⟨((bytes s.toList).take 32).toArray⟩ : ByteArray) = ((bytes s.toList).take 32).toByteArray := by
    ext1
    rw [List.data_toByteArray]
  unfold Device.nameStr
  simp only [hnul]
  rw [toList_nameBytes, List.take_left, hread]

/-- Where byte 32 is between characters, exactly the characters before it are shown … -/
theorem nameStr_of_boundary (d : Device) {s : String} (h0 : Char.ofNat 0 ∉ s.toList)
    (hcut : ¬ Straddles 32 s.toList) :
    ({ d with name := Device.nameBytes s }).nameStr = Handler.heaplessName s := by
  have hvalid := (valid_take 32 s.toList).mpr hcut
  obtain ⟨p, hp⟩ := id hvalid
  have hread : String.fromUTF8? ((bytes s.toList).take 32).toByteArray = some (String.ofList p) := by
    rw [String.fromUTF8?, dif_pos hvalid]
    apply congrArg
    apply String.toByteArray_inj.mp
    rw [String.toByteArray_ofList]
    exact hp
  have hbytes : bytes p = (bytes s.toList).take 32 := by
    have := congrArg (fun b : ByteArray => b.data.toList) hp
    rw [← toByteArray_bytes, List.data_toByteArray, List.data_toByteArray] at this
    exact this.symm
  have hpre : p <+: s.toList := by
    apply List.isPrefix_of_utf8Encode_append_eq_utf8Encode ((bytes s.toList).drop 32).toByteArray
    rw [← toByteArray_bytes, hbytes, ← List.toByteArray_append, List.take_append_drop, toByteArray_bytes]
  rw [nameStr_nameBytes d h0, hread, Option.getD_some,
    (LongestPrefix.of_take hbytes hpre).unique (heaplessName_longestPrefix s), String.ofList_toList]

/-- … and elsewhere nothing at all. -/
theorem nameStr_of_straddles (d : Device) {s : String} (h0 : Char.ofNat 0 ∉ s.toList)
    (hcut : Straddles 32 s.toList) : ({ d with name := Device.nameBytes s }).nameStr = "" := by
  have hinvalid : ¬ ((bytes s.toList).take 32).toByteArray.IsValidUTF8 := fun hvalid =>
    (valid_take 32 s.toList).mp hvalid hcut
  rw [nameStr_nameBytes d h0, String.fromUTF8?, dif_neg hinvalid, Option.getD_none]

/-! ## The two together -/

/-- The name shown is the name sent, the longest prefix of the one asked for; a name stays a name. -/
structure NameAgrees (d : Device) (s : String) : Prop where
  same : ({ d with name := Device.nameBytes s }).nameStr = Handler.heaplessName s
  longest : LongestPrefix 32 s.toList ({ d with name := Device.nameBytes s }).nameStr.toList
  nonempty : s ≠ "" → ({ d with name := Device.nameBytes s }).nameStr ≠ ""

theorem not_straddles_of_empty {s : String} (h : s = "") (n : Nat) : ¬ Straddles n s.toList := by
  subst h
  exact not_straddles_nil n

/-- **Names.**  The truncations agree on a NUL-free name iff no character lies across byte 32. -/
theorem nameAgrees_iff (d : Device) (s : String) (h0 : Char.ofNat 0 ∉ s.toList) :
    NameAgrees d s ↔ ¬ Straddles 32 s.toList := by
  constructor
  · intro h hcut
    have hne : s ≠ "" := fun hs => not_straddles_of_empty hs 32 hcut
    exact h.nonempty hne (nameStr_of_straddles d h0 hcut)
  · intro hcut
    have hsame := nameStr_of_boundary d h0 hcut
    refine ⟨hsame, ?_, ?_⟩
    · rw [hsame]
      exact heaplessName_longestPrefix s
    · rw [hsame]
      exact heaplessName_ne_empty

def sampleNamed : Device where
  uuid := #v[1, 2, 3, 4, 5, 6]
  transport := .usbMux
  capabilities := ⟨DeviceCapabilities.EVENTS⟩
  firmwareVersion := #v[1, 0, 0]
  eventsTransport := .bluetooth
  eventsConnected := true
  productId := 0x5210
  name := Device.nameBytes "gun"

/-- 31 characters of one byte, and one of two. -/
def sampleLongName : String := "long name of a wireless device é"

/-- The long name is sent without its last letter, and shown as nothing. -/
theorem longName_lost :
    Char.ofNat 0 ∉ sampleLongName.toList ∧
      Handler.heaplessName sampleLongName = "long name of a wireless device " ∧
      ({ sampleNamed with name := Device.nameBytes sampleLongName }).nameStr = "" ∧
      ¬ NameAgrees sampleNamed sampleLongName := by
  have hshown : ({ sampleNamed with name := Device.nameBytes sampleLongName }).nameStr = "" :=
    nameStr_of_straddles sampleNamed (by decide) (by decide)
  exact ⟨by decide, by decide, hshown, fun h => h.nonempty (by decide) hshown⟩

/-- A shorter name with the same letter. -/
theorem nameAgrees_iff_short : NameAgrees sampleNamed "device é" ↔ ¬ Straddles 32 "device é".toList :=
  nameAgrees_iff sampleNamed "device é" (by decide)

end OdysseyHub
