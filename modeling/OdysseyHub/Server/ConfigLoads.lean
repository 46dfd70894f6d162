import OdysseyHub.Common.Accessory
import OdysseyHub.Common.ConfigKeys
import OdysseyHub.Server.OffsetSaves

/-!
# Loading corrupt files (odyssey_hub_common::config)

The three files of a map are loaded alike (`Config.load`).  A file that is there but is no
map is reported as `CorruptedUsingDefault`, unless the first of its keys that is not read
makes the slices of `HexKeyMapN` panic (`neverCrashes_iff`).
-/

namespace OdysseyHub

open HexKeyMapN

namespace Config

section
variable {V : Type} (json5 : Json5 V)

/-- The file is there and this is read of its text. -/
structure ReadsAs (file : ConfigFile) (a : LoadAnswers) (read : MapText V) : Prop where
  dir : a.configDir.isSome = true
  found : a.existsOk = true
  readOk : a.readError = none
  text : ∃ bytes text, file = some bytes ∧ String.fromUTF8? bytes.toByteArray = some text ∧
    json5.fromStr text = read

/-- The file is there, but is not the text of a map. -/
structure Corrupt (file : ConfigFile) (a : LoadAnswers) : Prop where
  dir : a.configDir.isSome = true
  found : a.existsOk = true
  present : file.isSome = true
  noMap : ∀ read, ReadsAs json5 file a read →
    read.error.isSome = true ∨ ∃ e ∈ read.entries, ∀ bs, ¬ Accepted 6 e.1 bs

/-- The entries read of the file panic. -/
def FatalFile (file : ConfigFile) (a : LoadAnswers) : Prop :=
  ∃ read, ReadsAs json5 file a read ∧ Fatal 6 read.entries

/-- The load of a file returns, and reports the file if it is corrupt. -/
structure NeverCrashes (r : Option (ConfigLoadResult (HashMap Uuid V))) (file : ConfigFile) (a : LoadAnswers) :
    Prop where
  returns : r.isSome = true
  reports : Corrupt json5 file a → ∃ path e, r = some (.corruptedUsingDefault path e)

end

section
variable {V : Type} {json5 : Json5 V} {file : ConfigFile} {a : LoadAnswers}

theorem load_of_readsAs {read : MapText V} (h : ReadsAs json5 file a read) (name : String) :
    ∃ path text, json5.fromStr text = read ∧ load json5 name file a = parse json5 path text := by
  obtain ⟨hdir, hexists, hread, bytes, text, rfl, htext, hentries⟩ := h
  obtain ⟨dir, hdir⟩ := Option.isSome_iff_exists.mp hdir
  refine ⟨s!"{dir}/{name}", text, hentries, ?_⟩
  simp only [load, hdir, hexists, hread, htext]

/-- A file whose text is not read is reported, if it is there. -/
theorem load_of_not_readsAs (h : ∀ read, ¬ ReadsAs json5 file a read) (name : String) :
    ∃ r, load json5 name file a = some r ∧
      (a.configDir.isSome = true → a.existsOk = true → file.isSome = true →
        ∃ path e, r = .corruptedUsingDefault path e) := by
  unfold load
  split
  · next dir bytes hdir hexists =>
    dsimp only
    split
    · exact ⟨_, rfl, fun _ _ _ => ⟨_, _, rfl⟩⟩
    · next hread =>
      split
      · exact ⟨_, rfl, fun _ _ _ => ⟨_, _, rfl⟩⟩
      · next text htext =>
        exact absurd ⟨by rw [hdir]; rfl, hexists, hread, bytes, text, rfl, htext, rfl⟩ (h (json5.fromStr text))
  · next hnot =>
    refine ⟨_, rfl, fun hdir hexists hfile => ?_⟩
    obtain ⟨dir, hdir⟩ := Option.isSome_iff_exists.mp hdir
    obtain ⟨bytes, rfl⟩ := Option.isSome_iff_exists.mp hfile
    exact (hnot dir bytes hdir hexists rfl).elim

theorem parse_eq_none_iff {path text : String} :
    parse json5 path text = none ↔ Fatal 6 (json5.fromStr text).entries := by
  rw [← visitMap_eq_none_iff ∅ (json5.fromStr text).entries, parse, Option.map_eq_none_iff]
  rfl

/-- What the three loads share. -/
theorem neverCrashes_load_iff (name : String) :
    NeverCrashes json5 (load json5 name file a) file a ↔ ¬ FatalFile json5 file a := by
  constructor
  · rintro ⟨hreturns, -⟩ ⟨read, hreads, hfatal⟩
    obtain ⟨path, text, rfl, hload⟩ := load_of_readsAs hreads name
    rw [hload, parse_eq_none_iff.mpr hfatal] at hreturns
    cases hreturns
  · intro hfatal
    by_cases h : ∃ read, ReadsAs json5 file a read
    · obtain ⟨read, hreads⟩ := h
      obtain ⟨path, text, rfl, hload⟩ := load_of_readsAs hreads name
      cases hr : parse json5 path text with
      | none => exact absurd ⟨_, hreads, parse_eq_none_iff.mp hr⟩ hfatal
      | some r =>
        rw [hr] at hload
        refine ⟨by rw [hload]; rfl, fun hcorrupt => ?_⟩
        rcases parse_cases hr with ⟨m, hm, hend, rfl⟩ | ⟨e, -, rfl⟩
        · rcases hcorrupt.noMap _ hreads with herror | ⟨e, he, hnot⟩
          · rw [hend] at herror
            cases herror
          · obtain ⟨bs, hbs⟩ := accepted_of_visitMap hm e he
            exact absurd hbs (hnot bs)
        · exact ⟨path, e, hload⟩
    · obtain ⟨r, hr, hcorrupt⟩ := load_of_not_readsAs (fun read hreads => h ⟨read, hreads⟩) name
      refine ⟨by rw [hr]; rfl, fun hc => ?_⟩
      obtain ⟨path, e, rfl⟩ := hcorrupt hc.dir hc.found hc.present
      exact ⟨path, e, hr⟩

end

/-- **Corrupt files.**  Reading entries returns iff the first key that is not read does not
panic, and so do the loads of the three files. -/
theorem neverCrashes_iff (N : Nat) {V : Type} (entries : List (String × V)) (delays : Json5 UInt16)
    (offsets : Json5 Isometry) (accessories : Json5 AccessoryInfo) (file : ConfigFile) (a : LoadAnswers) :
    ((deserialize entries : Option (Except String (HashMap (Vector UInt8 N) V))).isSome = true ↔
        ¬ Fatal N entries) ∧
      (NeverCrashes delays (deviceShotDelaysAsync delays file a) file a ↔ ¬ FatalFile delays file a) ∧
      (NeverCrashes offsets (deviceOffsetsAsync offsets file a) file a ↔ ¬ FatalFile offsets file a) ∧
      (NeverCrashes accessories (accessoryMapAsync accessories file a) file a ↔
        ¬ FatalFile accessories file a) := by
  refine ⟨?_, neverCrashes_load_iff _, neverCrashes_load_iff _, neverCrashes_load_iff _⟩
  rw [← visitMap_eq_none_iff ∅ entries, ← ne_eq, ← Option.isSome_iff_ne_none]
  rfl

/-- A key of twelve bytes, the third of which is inside a character. -/
def cutKey : String := "0xaé000000000"

theorem fatal_cutKey {V : Type} (v : V) : Fatal 6 [(cutKey, v)] := by
  refine ⟨[], cutKey, v, [], rfl, by simp, "aé000000000".toList, ⟨by decide, by decide⟩, ?_⟩
  exact ⟨[], "aé000000000".toList, [], rfl, .nil, by decide⟩

-- a value behind the key that json5 does not read comes too late
example (path text : String) :
    parse ⟨fun _ => .error "", fun _ => ⟨[(cutKey, (5 : UInt16))], some "invalid type"⟩⟩ path text = none :=
  parse_eq_none_iff.mpr (fatal_cutKey 5)

/-- Shot delays with that key, and their text. -/
def cutText : String := "\x7b\"0xaé000000000\":5\x7d"

def cutJson : Json5 UInt16 := Json5.ofTable [([(cutKey, 5)], cutText)]

/-- The key panics, and so does the load of a file with it. -/
theorem cutKey_crashes :
    (deserialize [(cutKey, 5)] : Option (Except String (HashMap Uuid UInt16))) = none ∧
      ¬ NeverCrashes cutJson (deviceShotDelaysAsync cutJson (some cutText.toUTF8.data.toList) {})
        (some cutText.toUTF8.data.toList) {} := by
  refine ⟨(visitMap_eq_none_iff ∅ _).mpr (fatal_cutKey 5), fun h => ?_⟩
  refine (neverCrashes_load_iff _).mp h
    ⟨⟨[(cutKey, 5)], none⟩, ⟨rfl, rfl, rfl, _, cutText, rfl, ?_, ?_⟩, fatal_cutKey 5⟩
  · rw [toByteArray_toList, fromUTF8_toUTF8]
  · rfl

end Config

end OdysseyHub
