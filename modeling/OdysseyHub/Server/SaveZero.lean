import OdysseyHub.Server.OffsetSaves
import OdysseyHub.Server.ShotDelayFile

/-!
# One save of the zero offsets (device_tasks.rs, odyssey_hub_common::config)

`SaveZero` of a device writes the whole map in memory.  The entries of the other devices
stay as they were in the file exactly when memory has them as the file does
(`savesOnly_iff`); `device_shot_delay_save_async` loads the file and changes one entry.
-/

namespace OdysseyHub

namespace OffsetSaves

section
variable (json5 : Json5 Isometry)

/-- `device_offsets_save_async`, as one call; OffsetSaves.lean takes it apart. -/
def deviceOffsetsSaveAsync (deviceOffsets : HashMap Uuid Isometry) (file : ConfigFile) (w : SaveAnswers) :
    Except String Unit × ConfigFile :=
  match w.appRootError with
  | some e => (.error e, file)
  | none =>
    match Config.contents json5 deviceOffsets with
    | .error e => (.error e, file)
    | .ok text => file.write text.toUTF8.data.toList w.write

/-- The entry of a device in the file; a file that is no map has none. -/
def persisted (file : ConfigFile) (u : Uuid) : Option Isometry := (reloaded json5 file u).join

/-- The entry of `d` is as in memory, and every other one as it was. -/
structure SavesOnly (deviceOffsets : HashMap Uuid Isometry) (d : Uuid) (before after : ConfigFile) : Prop where
  own : persisted json5 after d = deviceOffsets.lookup d
  others : ∀ u, u ≠ d → persisted json5 after u = persisted json5 before u

end

section
variable {json5 : Json5 Isometry} {deviceOffsets : HashMap Uuid Isometry} {file after : ConfigFile} {w : SaveAnswers}

/-- A save that succeeds leaves the text of the whole map. -/
theorem save_ok (h : deviceOffsetsSaveAsync json5 deviceOffsets file w = (.ok (), after)) :
    ∃ text, Config.contents json5 deviceOffsets = .ok text ∧ after = some text.toUTF8.data.toList := by
  unfold deviceOffsetsSaveAsync at h
  split at h
  · cases (Prod.mk.inj h).1
  · split at h
    · cases (Prod.mk.inj h).1
    · next text htext =>
      refine ⟨text, htext, ?_⟩
      unfold ConfigFile.write at h
      split at h
      · cases (Prod.mk.inj h).1
      · cases (Prod.mk.inj h).1
      · exact (Prod.mk.inj h).2.symm

theorem persisted_save (hj : json5.Lossless)
    (h : deviceOffsetsSaveAsync json5 deviceOffsets file w = (.ok (), after)) (u : Uuid) :
    persisted json5 after u = deviceOffsets.lookup u := by
  obtain ⟨text, htext, rfl⟩ := save_ok h
  rw [persisted, reloaded_contents hj htext u]
  rfl

/-- The save of a handler of the server, once it is through, is that call. -/
theorem Writing.saveAsync {s : OffsetSaves} {c : OffsetsSave} (hw : Writing json5 s c)
    (hc : c.text.length ≤ c.written) (before : ConfigFile) :
    deviceOffsetsSaveAsync json5 s.offsets before {} = (.ok (), s.file) := by
  obtain ⟨text, htext, hctext, -, hfile⟩ := hw
  rw [hfile, List.take_of_length_le hc, hctext]
  simp only [deviceOffsetsSaveAsync, htext]
  rfl

/-- **Frame.**  A save for one device keeps the entries of the others iff they are the same in
memory and in the file. -/
theorem savesOnly_iff (hj : json5.Lossless) (d : Uuid)
    (h : deviceOffsetsSaveAsync json5 deviceOffsets file w = (.ok (), after)) :
    SavesOnly json5 deviceOffsets d file after ↔
      ∀ u, u ≠ d → deviceOffsets.lookup u = persisted json5 file u := by
  have hsaved := persisted_save hj h
  constructor
  · intro hs u hu
    rw [← hsaved u]
    exact hs.others u hu
  · intro hsame
    refine ⟨hsaved d, fun u hu => ?_⟩
    rw [hsaved u]
    exact hsame u hu

end

/-- Device 1 is zeroed and not saved, and device 2 is saved. -/
def unsavedZero : HashMap Uuid Isometry := AList.singleton (Uuid.of 0xC0 1 2 3 4 5) sampleIsometry

def unsavedText : String := "\x7b\"0xc00102030405\":[[1,2,3],[0,0,0,1]]\x7d"

theorem contents_unsavedZero : Config.contents sampleOffsetsJson unsavedZero = .ok unsavedText := by
  decide +kernel

theorem save_unsavedZero :
    deviceOffsetsSaveAsync sampleOffsetsJson unsavedZero none {} =
      (.ok (), some unsavedText.toUTF8.data.toList) := by
  simp only [deviceOffsetsSaveAsync, contents_unsavedZero]
  rfl

/-- The save of device 2 writes the entry of device 1. -/
theorem unsaved_persisted :
    (deviceOffsetsSaveAsync sampleOffsetsJson unsavedZero none {}).1 = .ok () ∧
      ¬ SavesOnly sampleOffsetsJson unsavedZero (Uuid.of 0xC0 1 2 3 4 6) none
        (deviceOffsetsSaveAsync sampleOffsetsJson unsavedZero none {}).2 := by
  rw [save_unsavedZero]
  refine ⟨rfl, fun h => ?_⟩
  have hothers := h.others (Uuid.of 0xC0 1 2 3 4 5) (by decide)
  have hbefore : persisted sampleOffsetsJson none (Uuid.of 0xC0 1 2 3 4 5) = none := by
    rw [persisted, reloaded, Config.deviceOffsetsAsync, Config.load_none]
    rfl
  have hmemory : unsavedZero.lookup (Uuid.of 0xC0 1 2 3 4 5) = some sampleIsometry := by decide +kernel
  rw [persisted_save sampleOffsetsJson_lossless save_unsavedZero, hmemory, hbefore] at hothers
  cases hothers

/-- Device 1 is saved, and device 2 is zeroed and saved as well. -/
def secondZero : HashMap Uuid Isometry := unsavedZero.insert (Uuid.of 0xC0 1 2 3 4 6) sampleIsometry

theorem savesOnly_iff_second :
    ∃ after, deviceOffsetsSaveAsync sampleOffsetsJson secondZero (some unsavedText.toUTF8.data.toList) {} =
        (.ok (), after) ∧
      SavesOnly sampleOffsetsJson secondZero (Uuid.of 0xC0 1 2 3 4 6) (some unsavedText.toUTF8.data.toList) after := by
  obtain ⟨text, htext, -⟩ := sampleOffsetsJson_lossless (HexKeyMapN.serialize secondZero)
  have hsave : deviceOffsetsSaveAsync sampleOffsetsJson secondZero (some unsavedText.toUTF8.data.toList) {} =
      (.ok (), some text.toUTF8.data.toList) := by
    simp only [deviceOffsetsSaveAsync, Config.contents, htext]
    rfl
  refine ⟨_, hsave, (savesOnly_iff sampleOffsetsJson_lossless (Uuid.of 0xC0 1 2 3 4 6) hsave).mpr fun u hu => ?_⟩
  rw [persisted, reloaded_contents sampleOffsetsJson_lossless contents_unsavedZero u, secondZero,
    AList.lookup_insert_ne hu]
  rfl

end OffsetSaves

end OdysseyHub
