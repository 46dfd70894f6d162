import OdysseyHub.Server.ShotDelaySave

/-!
# One save of a shot delay (odyssey_hub_common::config)

`device_shot_delay_save_async` loads the file, inserts the delay and writes the whole map.
The load makes a default of a file it cannot read or parse, and `fs::write` truncates the
file before it writes.  The other entries are kept exactly when neither happens to a file
that is there (`keepsOthers_iff`).  What the operating system answers is an input;
ShotDelaySave.lean takes the same call apart into its system calls.
-/

namespace OdysseyHub

inductive WriteAnswer
  /-- the file does not open, and stays -/
  | openError (error : String)
  /-- the file is truncated, and a part of the text is written -/
  | writeError (written : Nat) (error : String)
  | done
  deriving DecidableEq, Repr

/-- What a save is answered: the config directory and `fs::write`. -/
structure SaveAnswers where
  appRootError : Option String := none
  write : WriteAnswer := .done
  deriving DecidableEq, Repr

/-- `fs::write`, with the bytes it leaves. -/
def ConfigFile.write (file : ConfigFile) (bytes : List UInt8) : WriteAnswer → Except String Unit × ConfigFile
  | .openError e => (.error e, file)
  | .writeError written e => (.error e, some (bytes.take written))
  | .done => (.ok (), some bytes)

namespace ShotDelayFile

section
variable (json5 : Json5 UInt16)

def deviceShotDelaysSaveAsync (map : HashMap Uuid UInt16) (file : ConfigFile) (w : SaveAnswers) :
    Except String Unit × ConfigFile :=
  match w.appRootError with
  | some e => (.error e, file)
  | none =>
    match Config.contents json5 map with
    | .error e => (.error e, file)
    | .ok text => file.write text.toUTF8.data.toList w.write

/-- `none` is a panic of the load. -/
def deviceShotDelaySaveAsync (uuid : Uuid) (delay : UInt16) (file : ConfigFile) (a : LoadAnswers)
    (w : SaveAnswers) : Option (Except String Unit × ConfigFile) :=
  (Config.deviceShotDelaysAsync json5 file a).map fun r =>
    deviceShotDelaysSaveAsync json5 ((r.intoValue ∅).insert uuid delay) file w

/-! ## What a file encodes -/

/-- The map that the bytes of a file encode, if they do. -/
def decoded (file : ConfigFile) : Option (HashMap Uuid UInt16) :=
  match Config.deviceShotDelaysAsync json5 file {} with
  | some (.success map) => some map
  | _ => none

/-- The file is there, and the load does not get its map. -/
def Unusable (file : ConfigFile) (a : LoadAnswers) : Prop :=
  file ≠ none ∧ ∀ map, Config.deviceShotDelaysAsync json5 file a ≠ some (.success map)

/-- Saved: the file has the delay, and every other entry that the old bytes encoded. -/
def Saved (uuid : Uuid) (delay : UInt16) (before after : ConfigFile) : Prop :=
  ∃ map, decoded json5 after = some map ∧ map.lookup uuid = some delay ∧
    ∀ old, decoded json5 before = some old → ∀ k ms, old.lookup k = some ms → k ≠ uuid → map.lookup k = some ms

/-- The file has the delay and nothing else. -/
def OneEntry (uuid : Uuid) (delay : UInt16) (file : ConfigFile) : Prop :=
  ∃ map, decoded json5 file = some map ∧ ∀ k, map.lookup k = if k = uuid then some delay else none

/-- The save succeeds with the other entries, or fails and leaves a file that is there; it
replaces no unusable file by one entry. -/
def KeepsOthers (uuid : Uuid) (delay : UInt16) (file : ConfigFile) (a : LoadAnswers) (w : SaveAnswers) : Prop :=
  ∃ r after, deviceShotDelaySaveAsync json5 uuid delay file a w = some (r, after) ∧
    ((r = .ok () ∧ Saved json5 uuid delay file after) ∨ (r ≠ .ok () ∧ (file = none ∨ after = file))) ∧
    (Unusable json5 file a → OneEntry json5 uuid delay after → after = file)

/-- The save fails before it truncates the file. -/
def FailsEarly (w : SaveAnswers) : Prop := (∃ e, w.appRootError = some e) ∨ ∃ e, w.write = .openError e

/-- The load does not panic, and the file is not opened for writing, or was not there, or is
read and then written as a whole, or is left with the bytes it had. -/
def Harmless (uuid : Uuid) (delay : UInt16) (file : ConfigFile) (a : LoadAnswers) (w : SaveAnswers) : Prop :=
  ∃ r, Config.deviceShotDelaysAsync json5 file a = some r ∧
    (FailsEarly w ∨ file = none ∨ ((∃ map, r = .success map) ∧ w.write = .done) ∨
      ∃ text, Config.contents json5 ((r.intoValue ∅).insert uuid delay) = .ok text ∧
        (file.write text.toUTF8.data.toList w.write).2 = file)

end

section
variable {json5 : Json5 UInt16} {uuid : Uuid} {delay : UInt16} {file : ConfigFile} {a : LoadAnswers}
  {w : SaveAnswers} {r : ConfigLoadResult (HashMap Uuid UInt16)} {map : HashMap Uuid UInt16}

/-! ## Loads and saves -/

/-- A load that succeeds gets what the bytes encode. -/
theorem decoded_of_success (h : Config.deviceShotDelaysAsync json5 file a = some (.success map)) :
    decoded json5 file = some map := by
  have hload : Config.deviceShotDelaysAsync json5 file {} = some (.success map) :=
    Config.load_of_success h rfl rfl rfl
  unfold decoded
  rw [hload]

/-- A map that was written is what the bytes encode. -/
theorem decoded_contents (hj : json5.Lossless) {text : String} (ht : Config.contents json5 map = .ok text) :
    ∃ map', decoded json5 (some text.toUTF8.data.toList) = some map' ∧ ∀ k, map'.lookup k = map.lookup k := by
  obtain ⟨map', hload, hlookup⟩ :=
    Config.load_contents hj map ht "device_shot_delays.json" "" (a := {}) rfl rfl rfl
  exact ⟨map', decoded_of_success hload, hlookup⟩

theorem save_early (hw : FailsEarly w) :
    ∃ e, deviceShotDelaysSaveAsync json5 map file w = (.error e, file) := by
  unfold deviceShotDelaysSaveAsync
  rcases hw with ⟨e, he⟩ | ⟨e, he⟩
  · exact ⟨e, by rw [he]⟩
  · split
    · exact ⟨_, rfl⟩
    · split
      · exact ⟨_, rfl⟩
      · exact ⟨e, by rw [he]; rfl⟩

theorem save_late (hw : ¬ FailsEarly w) {text : String} (ht : Config.contents json5 map = .ok text) :
    deviceShotDelaysSaveAsync json5 map file w = file.write text.toUTF8.data.toList w.write := by
  unfold deviceShotDelaysSaveAsync
  split
  · next e he => exact absurd (Or.inl ⟨e, he⟩) hw
  · rw [ht]

/-- A late failure is one in the middle of the write. -/
theorem write_error (hw : ¬ FailsEarly w) (hdone : w.write ≠ .done) : ∃ n e, w.write = .writeError n e := by
  cases hwr : w.write with
  | openError e => exact absurd (Or.inr ⟨e, hwr⟩) hw
  | writeError n e => exact ⟨n, e, rfl⟩
  | done => exact absurd hwr hdone

theorem decoded_none : decoded json5 none = none := by
  have hload : Config.deviceShotDelaysAsync json5 none {} = some .notFoundUsingDefault := Config.load_none _ _
  unfold decoded
  rw [hload]

theorem intoValue_of_ne (h : ∀ map, r ≠ .success map) : r.intoValue ∅ = ∅ := by
  cases r with
  | success map => exact absurd rfl (h map)
  | corruptedUsingDefault path error => rfl
  | notFoundUsingDefault => rfl

/-! ## The other entries -/

/-- The text of a map with the new delay has it, and the entries of the map. -/
theorem saved_contents (hj : json5.Lossless) {text : String}
    (ht : Config.contents json5 (map.insert uuid delay) = .ok text)
    (hold : ∀ old, decoded json5 file = some old → ∀ k ms, old.lookup k = some ms → k ≠ uuid →
      map.lookup k = some ms) : Saved json5 uuid delay file (some text.toUTF8.data.toList) := by
  obtain ⟨map', hdec, hlookup⟩ := decoded_contents hj ht
  refine ⟨map', hdec, ?_, fun old ho k ms hk hne => ?_⟩
  · rw [hlookup, AList.lookup_insert]
  · rw [hlookup, AList.lookup_insert_ne hne]
    exact hold old ho k ms hk hne

theorem oneEntry_contents (hj : json5.Lossless) {text : String}
    (ht : Config.contents json5 ((∅ : HashMap Uuid UInt16).insert uuid delay) = .ok text) :
    OneEntry json5 uuid delay (some text.toUTF8.data.toList) := by
  obtain ⟨map', hdec, hlookup⟩ := decoded_contents hj ht
  refine ⟨map', hdec, fun k => ?_⟩
  rw [hlookup]
  by_cases hk : k = uuid
  · rw [if_pos hk, hk, AList.lookup_insert]
  · rw [if_neg hk, AList.lookup_insert_ne hk, AList.lookup_empty]

theorem harmless_of_keepsOthers (hj : json5.Lossless) (h : KeepsOthers json5 uuid delay file a w) :
    Harmless json5 uuid delay file a w := by
  obtain ⟨res, after, hsave, hkept, hone⟩ := h
  obtain ⟨r, hload, hout⟩ := Option.map_eq_some_iff.mp hsave
  refine ⟨r, hload, ?_⟩
  by_cases hearly : FailsEarly w
  · exact Or.inl hearly
  by_cases hfile : file = none
  · exact Or.inr (Or.inl hfile)
  obtain ⟨text, ht, -⟩ := hj (HexKeyMapN.serialize ((r.intoValue ∅).insert uuid delay))
  rw [save_late hearly ht] at hout
  by_cases hdone : w.write = .done
  · by_cases hs : ∃ map, r = .success map
    · exact Or.inr (Or.inr (Or.inl ⟨hs, hdone⟩))
    · -- a default takes the place of the file
      have hne : ∀ map, r ≠ .success map := fun map hr => hs ⟨map, hr⟩
      have hunusable : Unusable json5 file a := by
        refine ⟨hfile, fun map hm => hne map ?_⟩
        rw [hload] at hm
        exact Option.some.inj hm
      have hafter : after = some text.toUTF8.data.toList := by
        rw [hdone] at hout
        exact (congrArg Prod.snd hout).symm
      rw [intoValue_of_ne hne] at ht
      have heq := hone hunusable (hafter ▸ oneEntry_contents hj ht)
      refine Or.inr (Or.inr (Or.inr ⟨text, (intoValue_of_ne hne).symm ▸ ht, ?_⟩))
      rw [hout]
      exact heq
  · obtain ⟨n, e, hwrite⟩ := write_error hearly hdone
    refine Or.inr (Or.inr (Or.inr ⟨text, ht, ?_⟩))
    have herror : res = .error e := by
      rw [hwrite] at hout
      exact (congrArg Prod.fst hout).symm
    rw [hout]
    rcases hkept with ⟨hok, -⟩ | ⟨-, hnone | heq⟩
    · rw [herror] at hok
      cases hok
    · exact absurd hnone hfile
    · exact heq

theorem keepsOthers_of_harmless (hj : json5.Lossless) (h : Harmless json5 uuid delay file a w) :
    KeepsOthers json5 uuid delay file a w := by
  obtain ⟨r, hload, hcase⟩ := h
  have hsave : ∀ out, deviceShotDelaysSaveAsync json5 ((r.intoValue ∅).insert uuid delay) file w = out →
      deviceShotDelaySaveAsync json5 uuid delay file a w = some out := by
    rintro out rfl
    unfold deviceShotDelaySaveAsync
    rw [hload]
    rfl
  by_cases hearly : FailsEarly w
  · obtain ⟨e, he⟩ : ∃ e, deviceShotDelaysSaveAsync json5 ((r.intoValue ∅).insert uuid delay) file w = (.error e, file) :=
      save_early hearly
    exact ⟨.error e, file, hsave _ he, Or.inr ⟨by simp, Or.inr rfl⟩, fun _ _ => rfl⟩
  obtain ⟨text, ht, -⟩ := hj (HexKeyMapN.serialize ((r.intoValue ∅).insert uuid delay))
  have hlate := hsave _ (save_late hearly ht)
  rcases hcase with hw | rfl | ⟨⟨map, rfl⟩, hdone⟩ | ⟨text', ht', heq⟩
  · exact absurd hw hearly
  · -- nothing to lose
    refine ⟨_, _, hlate, ?_, fun hu => absurd rfl hu.1⟩
    by_cases hdone : w.write = .done
    · rw [hdone]
      refine Or.inl ⟨rfl, saved_contents hj ht fun old ho => ?_⟩
      rw [decoded_none] at ho
      cases ho
    · obtain ⟨n, e, hwrite⟩ := write_error hearly hdone
      rw [hwrite]
      exact Or.inr ⟨fun hr => (by cases hr), Or.inl rfl⟩
  · refine ⟨_, _, hlate, ?_, fun hu => absurd hload (hu.2 map)⟩
    rw [hdone]
    refine Or.inl ⟨rfl, saved_contents hj ht fun old ho k ms hk _ => ?_⟩
    rw [decoded_of_success hload] at ho
    cases ho
    exact hk
  · obtain rfl : text' = text := Except.ok.inj (ht'.symm.trans ht)
    refine ⟨_, _, hlate, ?_, fun _ _ => heq⟩
    by_cases hdone : w.write = .done
    · rw [hdone] at heq ⊢
      have hbytes : some text'.toUTF8.data.toList = file := heq
      obtain ⟨map', hdec, hlookup⟩ := decoded_contents hj ht
      refine Or.inl ⟨rfl, map', hdec, by rw [hlookup, AList.lookup_insert], fun old ho k ms hk _ => ?_⟩
      rw [← hbytes, hdec] at ho
      cases ho
      exact hk
    · obtain ⟨n, e, hwrite⟩ := write_error hearly hdone
      rw [hwrite] at heq ⊢
      exact Or.inr ⟨fun hr => (by cases hr), Or.inr heq⟩

/-- **One save.**  It keeps the other entries exactly when it is harmless. -/
theorem keepsOthers_iff (hj : json5.Lossless) (uuid : Uuid) (delay : UInt16) (file : ConfigFile) (a : LoadAnswers)
    (w : SaveAnswers) : KeepsOthers json5 uuid delay file a w ↔ Harmless json5 uuid delay file a w :=
  ⟨harmless_of_keepsOthers hj, keepsOthers_of_harmless hj⟩

end

theorem keepsOthers_iff_absent :
    KeepsOthers DelaySaves.sampleJson DelaySaves.firstKey 10 none {} {} ↔
      Harmless DelaySaves.sampleJson DelaySaves.firstKey 10 none {} {} :=
  keepsOthers_iff DelaySaves.sampleJson_lossless DelaySaves.firstKey 10 none {} {}

/-- A file that is no text is replaced by one entry. -/
theorem others_discarded :
    ¬ ∀ (json5 : Json5 UInt16) (uuid : Uuid) (delay : UInt16) (file : ConfigFile) (a : LoadAnswers) (w : SaveAnswers),
      json5.Lossless → KeepsOthers json5 uuid delay file a w := by
  intro hall
  obtain ⟨r, hload, hcase⟩ := harmless_of_keepsOthers DelaySaves.sampleJson_lossless
    (hall DelaySaves.sampleJson DelaySaves.firstKey 10 (some [0xFF]) {} {} DelaySaves.sampleJson_lossless)
  have hcorrupted : Config.deviceShotDelaysAsync DelaySaves.sampleJson (some [0xFF]) {} =
      some (.corruptedUsingDefault "/device_shot_delays.json" "stream did not contain valid UTF-8") := rfl
  obtain rfl := Option.some.inj (hcorrupted.symm.trans hload)
  have hcontents : Config.contents DelaySaves.sampleJson ((∅ : HashMap Uuid UInt16).insert DelaySaves.firstKey 10) =
      .ok "\x7b\"0x010203040506\":10\x7d" := rfl
  rcases hcase with (⟨e, he⟩ | ⟨e, he⟩) | hfile | ⟨⟨map, hr⟩, -⟩ | ⟨text, ht, heq⟩
  · cases he
  · cases he
  · cases hfile
  · cases hr
  · obtain rfl := Except.ok.inj (hcontents.symm.trans ht)
    have hbytes : some ("\x7b\"0x010203040506\":10\x7d").toUTF8.data.toList = some [0xFF] := heq
    exact absurd hbytes (by decide)

end ShotDelayFile

end OdysseyHub
