import OdysseyHub.Server.ConfigLoads
import OdysseyHub.Lib.Parse

/-!
# Starting with corrupt files (lib.rs, config.rs, main.rs)

`run_server` loads its files before it serves.  It starts with a default in place of a
corrupt one and reports it, and the application offers to delete what was reported.

A start that returns reports the corrupt files and no others, each once; after "Delete
Files" the next start loads the same, and reports those that could not be deleted
(`startup_recovers`).

The texts of the screen calibrations are a parameter, as json5 is.
-/

namespace OdysseyHub

inductive ConfigFileType
  | deviceShotDelays
  | deviceOffsets
  | screenCalibration
  | accessoryMap
  deriving DecidableEq, Repr

structure ConfigCorruptionEvent where
  fileType : ConfigFileType
  filePath : String
  errorMessage : String
  usingDefault : Bool
  deriving DecidableEq, Repr

/-- `corruption_info()` -/
def ConfigLoadResult.corruptionInfo {T : Type} : ConfigLoadResult T → Option (String × String)
  | .corruptedUsingDefault path error => some (path, error)
  | _ => none

/-- The configuration directory, and what the operating system answers about its files. -/
structure ConfigDisk where
  /-- `get_app_root` -/
  dir : Option String
  file : String → ConfigFile
  /-- `try_exists` does not fail -/
  existsOk : String → Bool
  readError : String → Option String

namespace ConfigDisk

/-- `config_dir.join(name)` -/
def join (dir name : String) : String := s!"{dir}/{name}"

def fileAt (d : ConfigDisk) (name : String) : ConfigFile := d.dir.bind fun dir => d.file (join dir name)

def answers (d : ConfigDisk) (name : String) : LoadAnswers :=
  match d.dir with
  | none => { configDir := none }
  | some dir =>
    { configDir := some dir, existsOk := d.existsOk (join dir name), readError := d.readError (join dir name) }

/-- `remove_file` -/
def removeFile (d : ConfigDisk) (path : String) : ConfigDisk := { d with file := Function.update d.file path none }

/-- "Delete Files": the removals that succeed. -/
def deleteFiles (d : ConfigDisk) (removable : String → Bool) (corruptions : List ConfigCorruptionEvent) :
    ConfigDisk :=
  corruptions.foldl (fun d c => if removable c.filePath then d.removeFile c.filePath else d) d

end ConfigDisk

open ConfigDisk HexKeyMapN

/-! ## Loading -/

structure ScreenCalibrationsResult (C : Type) where
  calibrations : List (UInt8 × C)
  corruptedScreens : List (UInt8 × String × String)

def screenFile (i : Nat) : String := s!"screens/screen_{i}.json"

section
variable {C : Type} (fromStr : String → Except String C)

/-- One file of a screen: nothing, a calibration, or its path and an error. -/
def readScreen (d : ConfigDisk) (path : String) : Option (Except (String × String) C) :=
  match d.existsOk path, d.file path with
  | true, some bytes =>
    match d.readError path with
    | some e => some (.error (path, e))
    | none =>
      match String.fromUTF8? bytes.toByteArray with
      | none => some (.error (path, "stream did not contain valid UTF-8"))
      | some txt => some ((fromStr txt).mapError fun e => (path, e))
  | _, _ => none

def loadScreen (d : ConfigDisk) (i : Nat) : Option (Except (String × String) C) := do
  let dir ← d.dir
  readScreen fromStr d (join dir (screenFile i))

def calibrationOf (d : ConfigDisk) (i : Nat) : Option (UInt8 × C) :=
  match loadScreen fromStr d i with
  | some (.ok cal) => some (UInt8.ofNat i, cal)
  | _ => none

def corruptionOf (d : ConfigDisk) (i : Nat) : Option (UInt8 × String × String) :=
  match loadScreen fromStr d i with
  | some (.error e) => some (UInt8.ofNat i, e)
  | _ => none

/-- The files of the screens in turn; there is room for all of them. -/
def screenCalibrationsAsync (screens : Nat) (d : ConfigDisk) : ScreenCalibrationsResult C where
  calibrations := (List.range screens).filterMap (calibrationOf fromStr d)
  corruptedScreens := (List.range screens).filterMap (corruptionOf fromStr d)

end

/-- json5 at the four types of files. -/
structure ConfigParsers (C : Type) where
  screen : String → Except String C
  offsets : Json5 Isometry
  delays : Json5 UInt16
  accessories : Json5 AccessoryInfo

/-- What the server starts with. -/
structure LoadedConfig (C : Type) where
  screenCalibrations : List (UInt8 × C)
  deviceOffsets : HashMap Uuid Isometry
  deviceShotDelays : HashMap Uuid UInt16
  accessoryInfoMap : AccessoryInfoMap

/-- What a load adds to `startup_corruptions`. -/
def corruption (fileType : ConfigFileType) (info : Option (String × String)) : List ConfigCorruptionEvent :=
  match info with
  | some (path, error) => [⟨fileType, path, error, true⟩]
  | none => []

section
variable {C : Type} (p : ConfigParsers C) (screens : Nat) (d : ConfigDisk)

/-- What the loads leave in the server, and the corruptions of `ServerInit`. -/
def started (offsets : ConfigLoadResult (HashMap Uuid Isometry)) (delays : ConfigLoadResult (HashMap Uuid UInt16))
    (accessories : ConfigLoadResult AccessoryInfoMap) : LoadedConfig C × List ConfigCorruptionEvent :=
  let screenResult := screenCalibrationsAsync p.screen screens d
  ({ screenCalibrations := screenResult.calibrations
     deviceOffsets := offsets.intoValue ∅
     deviceShotDelays := delays.intoValue ∅
     accessoryInfoMap := accessories.intoValue ∅ },
    screenResult.corruptedScreens.map (fun e => ⟨.screenCalibration, e.2.1, e.2.2, true⟩) ++
      corruption .deviceOffsets offsets.corruptionInfo ++ corruption .deviceShotDelays delays.corruptionInfo ++
      corruption .accessoryMap accessories.corruptionInfo)

/-- The loads of `run_server`; `none` is a panic. -/
def startup : Option (LoadedConfig C × List ConfigCorruptionEvent) := do
  let offsets ← Config.deviceOffsetsAsync p.offsets (d.fileAt "device_offsets.json") (d.answers "device_offsets.json")
  let delays ← Config.deviceShotDelaysAsync p.delays (d.fileAt "device_shot_delays.json")
    (d.answers "device_shot_delays.json")
  let accessories ← accessoryMapAsync p.accessories (d.fileAt "accessory_map.json") (d.answers "accessory_map.json")
  some (started p screens d offsets delays accessories)

end

/-! ## Paths -/

theorem join_injective (dir : String) : Function.Injective (join dir) := by
  intro a b h
  have hlist := congrArg String.toList h
  simp only [join, String.toList_append, List.append_assoc] at hlist
  exact String.toList_inj.mp (List.append_cancel_left (List.append_cancel_left hlist))

theorem toList_screenFile (i : Nat) :
    (screenFile i).toList = "screens/screen_".toList ++ (Nat.repr i).toList ++ ".json".toList := by
  show ("" ++ "screens/screen_" ++ Nat.repr i ++ ".json").toList = _
  rw [String.toList_append, String.toList_append, String.toList_append, String.toList_empty, List.nil_append]

theorem screenFile_injective : Function.Injective screenFile := by
  intro i j h
  have hlist := congrArg String.toList h
  rw [toList_screenFile, toList_screenFile] at hlist
  have hdigits : (Nat.repr i).toList = (Nat.repr j).toList :=
    List.append_cancel_left (List.append_cancel_right hlist)
  rw [Nat.toList_repr, Nat.toList_repr] at hdigits
  have hi := Parse.digits_toDigits (Nat.lt_succ_of_le (Nat.le_max_left i j))
  rw [hdigits, Parse.digits_toDigits (Nat.lt_succ_of_le (Nat.le_max_right i j))] at hi
  exact (Option.some.inj hi).symm

theorem screenFile_ne (name : String) (h : name.toList.head? ≠ some 's') (i : Nat) : screenFile i ≠ name := by
  rintro rfl
  refine h ?_
  rw [toList_screenFile]
  rfl

/-! ## Deleting -/

/-- The files that are gone. -/
def Deleted (removable : String → Bool) (corruptions : List ConfigCorruptionEvent) (path : String) : Prop :=
  path ∈ corruptions.map (·.filePath) ∧ removable path = true

theorem deleteFiles_eq (d : ConfigDisk) (removable : String → Bool) (corruptions : List ConfigCorruptionEvent) :
    ∃ file, d.deleteFiles removable corruptions = { d with file := file } ∧
      (∀ path, Deleted removable corruptions path → file path = none) ∧
      ∀ path, ¬ Deleted removable corruptions path → file path = d.file path := by
  induction corruptions generalizing d with
  | nil => exact ⟨d.file, rfl, fun _ h => absurd h.1 List.not_mem_nil, fun _ _ => rfl⟩
  | cons c rest ih =>
    have hcons : d.deleteFiles removable (c :: rest) =
        (if removable c.filePath then d.removeFile c.filePath else d).deleteFiles removable rest := rfl
    rw [hcons]
    cases hr : removable c.filePath with
    | true =>
      obtain ⟨file, heq, hgone, hkept⟩ := ih (d.removeFile c.filePath)
      refine ⟨file, heq, fun path hpath => ?_, fun path hpath => ?_⟩
      · by_cases hrest : Deleted removable rest path
        · exact hgone path hrest
        · rw [hkept path hrest]
          rcases List.mem_cons.mp hpath.1 with rfl | hmem
          · exact Function.update_self ..
          · exact absurd ⟨hmem, hpath.2⟩ hrest
      · rw [hkept path fun hrest => hpath ⟨List.mem_cons_of_mem _ hrest.1, hrest.2⟩]
        refine Function.update_of_ne ?_ ..
        rintro rfl
        exact hpath ⟨List.mem_cons_self, hr⟩
    | false =>
      obtain ⟨file, heq, hgone, hkept⟩ := ih d
      refine ⟨file, heq, fun path hpath => hgone path ⟨?_, hpath.2⟩, fun path hpath =>
        hkept path fun hrest => hpath ⟨List.mem_cons_of_mem _ hrest.1, hrest.2⟩⟩
      rcases List.mem_cons.mp hpath.1 with rfl | hmem
      · rw [hpath.2] at hr
        cases hr
      · exact hmem

/-- What the deletions leave of a file. -/
theorem fileAt_deleteFiles (d : ConfigDisk) (removable : String → Bool)
    (corruptions : List ConfigCorruptionEvent) (name : String) :
    (∀ dir, d.dir = some dir → Deleted removable corruptions (join dir name) →
        (d.deleteFiles removable corruptions).fileAt name = none) ∧
      ((∀ dir, d.dir = some dir → ¬ Deleted removable corruptions (join dir name)) →
        (d.deleteFiles removable corruptions).fileAt name = d.fileAt name) := by
  obtain ⟨file, heq, hgone, hkept⟩ := deleteFiles_eq d removable corruptions
  rw [heq]
  unfold fileAt
  refine ⟨fun dir hdir hdel => ?_, fun hnot => ?_⟩
  · rw [hdir]
    exact hgone _ hdel
  · cases hdir : d.dir with
    | none => rfl
    | some dir => exact hkept _ (hnot dir hdir)

theorem configDir_answers (d : ConfigDisk) (name : String) : (d.answers name).configDir = d.dir := by
  unfold answers
  cases d.dir <;> rfl

theorem answers_deleteFiles (d : ConfigDisk) (removable : String → Bool)
    (corruptions : List ConfigCorruptionEvent) (name : String) :
    (d.deleteFiles removable corruptions).answers name = d.answers name := by
  obtain ⟨file, heq, -⟩ := deleteFiles_eq d removable corruptions
  rw [heq]
  rfl

/-- The corruptions of a part of the loads that are left. -/
def kept (removable : String → Bool) (c : ConfigCorruptionEvent) : Bool := !removable c.filePath

/-! ## The loads of a map -/

namespace Config

section
variable {V : Type} {json5 : Json5 V} {d : ConfigDisk} {name : String} {r : ConfigLoadResult (HashMap Uuid V)}

/-- A load reports its own file. -/
theorem load_cases {file : ConfigFile} {a : LoadAnswers} (h : load json5 name file a = some r) :
    r.corruptionInfo = none ∨ ∃ dir e, a.configDir = some dir ∧ r.corruptionInfo = some (join dir name, e) := by
  unfold load at h
  split at h
  · next dir bytes hdir _ =>
    dsimp only at h
    split at h
    · next e _ =>
      cases h
      exact .inr ⟨dir, e, hdir, rfl⟩
    · split at h
      · cases h
        exact .inr ⟨dir, _, hdir, rfl⟩
      · rcases parse_cases h with ⟨m, -, -, rfl⟩ | ⟨e, -, rfl⟩
        · exact .inl rfl
        · exact .inr ⟨dir, e, hdir, rfl⟩
  · cases h
    exact .inl rfl

/-- A load of a text that returns. -/
theorem load_readsAs_cases {file : ConfigFile} {a : LoadAnswers} {read : MapText V}
    (h : load json5 name file a = some r) (hreads : ReadsAs json5 file a read) :
    (∃ m : HashMap Uuid V, deserialize read.entries = some (.ok m) ∧ read.error = none ∧ r.corruptionInfo = none) ∨
      (read.error.isSome = true ∨
          ∃ e, deserialize read.entries = some (.error e : Except String (HashMap Uuid V))) ∧
        r.corruptionInfo.isSome = true := by
  obtain ⟨path, text, rfl, hload⟩ := load_of_readsAs hreads name
  rw [h] at hload
  rcases parse_cases hload.symm with ⟨m, hm, herror, rfl⟩ | ⟨e, hfailed, rfl⟩
  · exact .inl ⟨m, hm, herror, rfl⟩
  · exact .inr ⟨hfailed, rfl⟩

/-- Entries with keys that are read make a map. -/
theorem visitMap_of_accepted (values : HashMap Uuid V) {entries : List (String × V)}
    (h : ∀ e ∈ entries, ∃ bs, Accepted 6 e.1 bs) : ∃ m, visitMap values entries = some (.ok m) := by
  induction entries generalizing values with
  | nil => exact ⟨values, rfl⟩
  | cons e rest ih =>
    obtain ⟨bs, hbs⟩ := h e List.mem_cons_self
    obtain ⟨keyString, v⟩ := e
    rw [visitMap, decodeKey_of_accepted hbs]
    exact ih _ fun e he => h e (List.mem_cons_of_mem _ he)

/-- A load that returns reports the file if it is corrupt, and only then. -/
theorem isSome_corruptionInfo_iff {file : ConfigFile} {a : LoadAnswers} (h : load json5 name file a = some r) :
    r.corruptionInfo.isSome = true ↔ Corrupt json5 file a := by
  constructor
  · intro hinfo
    have hthere : a.configDir.isSome = true ∧ a.existsOk = true ∧ file.isSome = true := by
      unfold load at h
      split at h
      · next hdir hexists => exact ⟨by rw [hdir]; rfl, hexists, rfl⟩
      · cases h
        cases hinfo
    refine ⟨hthere.1, hthere.2.1, hthere.2.2, fun read hreads => ?_⟩
    rcases load_readsAs_cases h hreads with ⟨_, -, -, hnone⟩ | ⟨herror | ⟨e, he⟩, -⟩
    · rw [hnone] at hinfo
      cases hinfo
    · exact .inl herror
    · refine .inr ?_
      by_contra hall
      push Not at hall
      obtain ⟨m, hm⟩ := visitMap_of_accepted ∅ hall
      rw [deserialize, hm] at he
      cases he
  · intro hcorrupt
    by_cases hreads : ∃ read, ReadsAs json5 file a read
    · obtain ⟨read, hreads⟩ := hreads
      rcases load_readsAs_cases h hreads with ⟨m, hm, hend, -⟩ | ⟨-, hsome⟩
      · rcases hcorrupt.noMap read hreads with herror | ⟨entry, hentry, hnot⟩
        · rw [hend] at herror
          cases herror
        · obtain ⟨bs, hbs⟩ := accepted_of_visitMap hm entry hentry
          exact absurd hbs (hnot bs)
      · exact hsome
    · obtain ⟨r', hr', hreport⟩ := load_of_not_readsAs (fun read h => hreads ⟨read, h⟩) name
      obtain ⟨path, err, rfl⟩ := hreport hcorrupt.dir hcorrupt.found hcorrupt.present
      rw [h] at hr'
      cases hr'
      rfl

/-- Once the files are deleted, a load finds the same, and reports itself again if its file
is still there. -/
theorem load_deleteFiles (removable : String → Bool) {corruptions : List ConfigCorruptionEvent}
    (h : load json5 name (d.fileAt name) (d.answers name) = some r)
    (hmem : ∀ dir, d.dir = some dir →
      (join dir name ∈ corruptions.map (·.filePath) ↔ r.corruptionInfo.isSome = true))
    (ty : ConfigFileType) :
    ∃ r', load json5 name ((d.deleteFiles removable corruptions).fileAt name)
        ((d.deleteFiles removable corruptions).answers name) = some r' ∧
      r'.intoValue ∅ = r.intoValue ∅ ∧
      corruption ty r'.corruptionInfo = (corruption ty r.corruptionInfo).filter (kept removable) := by
  obtain ⟨hgone, hkept⟩ := fileAt_deleteFiles d removable corruptions name
  rw [answers_deleteFiles]
  rcases load_cases h with hnone | ⟨dir, e, hdir, hsome⟩
  · have hnot : ∀ dir, d.dir = some dir → ¬ Deleted removable corruptions (join dir name) := by
      intro dir hdir hdel
      have hinfo := (hmem dir hdir).mp hdel.1
      rw [hnone] at hinfo
      cases hinfo
    refine ⟨r, by rw [hkept hnot]; exact h, rfl, ?_⟩
    rw [hnone]
    rfl
  · have hdir' : d.dir = some dir := by
      unfold answers at hdir
      split at hdir
      · cases hdir
      · next dir' hd =>
        cases hdir
        exact hd
    have hreported : join dir name ∈ corruptions.map (·.filePath) := (hmem dir hdir').mpr (by rw [hsome]; rfl)
    cases hr : removable (join dir name) with
    | true =>
      refine ⟨.notFoundUsingDefault, by rw [hgone dir hdir' ⟨hreported, hr⟩]; exact load_none .., ?_, ?_⟩
      · cases r with
        | corruptedUsingDefault path err => rfl
        | success m => cases hsome
        | notFoundUsingDefault => cases hsome
      · rw [hsome]
        simp [corruption, kept, hr, ConfigLoadResult.corruptionInfo]
    | false =>
      have hnot : ∀ dir', d.dir = some dir' → ¬ Deleted removable corruptions (join dir' name) := by
        intro dir' hd hdel
        rw [hdir'] at hd
        cases hd
        rw [hdel.2] at hr
        cases hr
      refine ⟨r, by rw [hkept hnot]; exact h, rfl, ?_⟩
      rw [hsome]
      simp [corruption, kept, hr]

/-- The path a load reports. -/
theorem reported_path {path e dir : String} (h : load json5 name (d.fileAt name) (d.answers name) = some r)
    (hinfo : r.corruptionInfo = some (path, e)) (hdir : d.dir = some dir) : path = join dir name := by
  rcases load_cases h with hnone | ⟨dir', e', hdir', hsome⟩
  · rw [hnone] at hinfo
    cases hinfo
  · rw [configDir_answers, hdir] at hdir'
    cases hdir'
    rw [hsome] at hinfo
    cases hinfo
    rfl

end

end Config

/-! ## The screens -/

section
variable {C : Type} {fromStr : String → Except String C} {d : ConfigDisk} {i : Nat}

theorem readScreen_error {path p e : String} (h : readScreen fromStr d path = some (.error (p, e))) : p = path := by
  unfold readScreen at h
  split at h
  · split at h
    · cases h
      rfl
    · split at h
      · cases h
        rfl
      · next txt _ =>
        cases hparse : fromStr txt with
        | ok cal =>
          rw [hparse] at h
          cases h
        | error err =>
          rw [hparse] at h
          cases h
          rfl
  · cases h

theorem loadScreen_error {path e : String} (h : loadScreen fromStr d i = some (.error (path, e))) :
    ∃ dir, d.dir = some dir ∧ path = join dir (screenFile i) := by
  obtain ⟨dir, hdir, h⟩ := Option.bind_eq_some_iff.mp h
  exact ⟨dir, hdir, readScreen_error h⟩

/-- The load of a screen fails iff its file is there and has no calibration. -/
theorem loadScreen_error_iff {dir : String} (hdir : d.dir = some dir) :
    (∃ e, loadScreen fromStr d i = some (.error (join dir (screenFile i), e))) ↔
      d.existsOk (join dir (screenFile i)) = true ∧ ∃ bytes, d.file (join dir (screenFile i)) = some bytes ∧
        ∀ txt cal, d.readError (join dir (screenFile i)) = none →
          String.fromUTF8? bytes.toByteArray = some txt → fromStr txt ≠ .ok cal := by
  have hload : loadScreen fromStr d i = readScreen fromStr d (join dir (screenFile i)) := by
    rw [loadScreen, hdir]
    rfl
  rw [hload, readScreen]
  cases d.existsOk (join dir (screenFile i)) with
  | false => simp
  | true =>
    cases d.file (join dir (screenFile i)) with
    | none => simp
    | some bytes =>
      cases d.readError (join dir (screenFile i)) with
      | some e => simp
      | none =>
        cases htxt : String.fromUTF8? bytes.toByteArray with
        | none => simp [htxt]
        | some txt =>
          cases hparse : fromStr txt with
          | ok cal => simp [htxt, hparse, Except.mapError]
          | error e =>
            refine iff_of_true ⟨e, by simp [htxt, hparse, Except.mapError]⟩ ⟨rfl, bytes, rfl, ?_⟩
            intro txt' cal _ htxt' hok
            obtain rfl := Option.some.inj (htxt.symm.trans htxt')
            rw [hparse] at hok
            cases hok

/-- The deletions change nothing for a screen whose file they leave. -/
theorem loadScreen_deleteFiles {removable : String → Bool} {corruptions : List ConfigCorruptionEvent}
    (h : ∀ dir, d.dir = some dir → ¬ Deleted removable corruptions (join dir (screenFile i))) :
    loadScreen fromStr (d.deleteFiles removable corruptions) i = loadScreen fromStr d i := by
  obtain ⟨file, heq, -, hkept⟩ := deleteFiles_eq d removable corruptions
  rw [heq]
  unfold loadScreen
  cases hdir : d.dir with
  | none => rfl
  | some dir =>
    have hsame := hkept _ (h dir hdir)
    simp [readScreen, hsame]

theorem loadScreen_deleted {removable : String → Bool} {corruptions : List ConfigCorruptionEvent} {dir : String}
    (hdir : d.dir = some dir) (h : Deleted removable corruptions (join dir (screenFile i))) :
    loadScreen fromStr (d.deleteFiles removable corruptions) i = none := by
  obtain ⟨file, heq, hgone, -⟩ := deleteFiles_eq d removable corruptions
  rw [heq]
  unfold loadScreen
  simp [readScreen, hdir, hgone _ h]

/-- Once the files are deleted, a screen has the same calibration, and is reported again if
its file is still there. -/
theorem screen_deleteFiles (removable : String → Bool) {corruptions : List ConfigCorruptionEvent}
    (hmem : ∀ dir, d.dir = some dir → (join dir (screenFile i) ∈ corruptions.map (·.filePath) ↔
      ∃ e, loadScreen fromStr d i = some (.error (join dir (screenFile i), e)))) :
    calibrationOf fromStr (d.deleteFiles removable corruptions) i = calibrationOf fromStr d i ∧
      corruptionOf fromStr (d.deleteFiles removable corruptions) i =
        (corruptionOf fromStr d i).filter fun e => !removable e.2.1 := by
  unfold calibrationOf corruptionOf
  by_cases herr : ∃ path e, loadScreen fromStr d i = some (.error (path, e))
  · obtain ⟨path, e, hload⟩ := herr
    obtain ⟨dir, hdir, rfl⟩ := loadScreen_error hload
    cases hr : removable (join dir (screenFile i)) with
    | true =>
      rw [loadScreen_deleted hdir ⟨(hmem dir hdir).mpr ⟨e, hload⟩, hr⟩, hload]
      exact ⟨rfl, by simp [Option.filter_some, hr]⟩
    | false =>
      have hleft : ∀ dir', d.dir = some dir' → ¬ Deleted removable corruptions (join dir' (screenFile i)) := by
        intro dir' hdir' hdel
        rw [hdir] at hdir'
        cases hdir'
        rw [hdel.2] at hr
        cases hr
      rw [loadScreen_deleteFiles hleft, hload]
      exact ⟨rfl, by simp [Option.filter_some, hr]⟩
  · have hleft : ∀ dir, d.dir = some dir → ¬ Deleted removable corruptions (join dir (screenFile i)) := by
      intro dir hdir hdel
      obtain ⟨e, he⟩ := (hmem dir hdir).mp hdel.1
      exact herr ⟨_, e, he⟩
    rw [loadScreen_deleteFiles hleft]
    refine ⟨rfl, ?_⟩
    split
    · next e hload => exact absurd ⟨e.1, e.2, hload⟩ herr
    · rfl

end

/-! ## What is reported -/

/-- A file of the configuration that is there and cannot be loaded. -/
inductive CorruptAt {C : Type} (p : ConfigParsers C) (screens : Nat) (d : ConfigDisk) :
    ConfigFileType → String → Prop
  | screen {dir : String} {i : Nat} {bytes : List UInt8} (hdir : d.dir = some dir) (hi : i < screens)
      (hexists : d.existsOk (join dir (screenFile i)) = true)
      (hfile : d.file (join dir (screenFile i)) = some bytes)
      (hnot : ∀ txt cal, d.readError (join dir (screenFile i)) = none →
        String.fromUTF8? bytes.toByteArray = some txt → p.screen txt ≠ .ok cal) :
      CorruptAt p screens d .screenCalibration (join dir (screenFile i))
  | offsets {dir : String} (hdir : d.dir = some dir)
      (h : Config.Corrupt p.offsets (d.fileAt "device_offsets.json") (d.answers "device_offsets.json")) :
      CorruptAt p screens d .deviceOffsets (join dir "device_offsets.json")
  | delays {dir : String} (hdir : d.dir = some dir)
      (h : Config.Corrupt p.delays (d.fileAt "device_shot_delays.json") (d.answers "device_shot_delays.json")) :
      CorruptAt p screens d .deviceShotDelays (join dir "device_shot_delays.json")
  | accessories {dir : String} (hdir : d.dir = some dir)
      (h : Config.Corrupt p.accessories (d.fileAt "accessory_map.json") (d.answers "accessory_map.json")) :
      CorruptAt p screens d .accessoryMap (join dir "accessory_map.json")

section
variable {C : Type} {p : ConfigParsers C} {screens : Nat} {d : ConfigDisk} {loaded : LoadedConfig C}
  {events : List ConfigCorruptionEvent}

theorem CorruptAt.dir {ty : ConfigFileType} {path : String} (h : CorruptAt p screens d ty path) :
    ∃ dir, d.dir = some dir := by
  cases h with
  | screen hdir | offsets hdir | delays hdir | accessories hdir => exact ⟨_, hdir⟩

/-- The loads of a start that returns. -/
structure Loads (p : ConfigParsers C) (d : ConfigDisk)
    (offsets : ConfigLoadResult (HashMap Uuid Isometry)) (delays : ConfigLoadResult (HashMap Uuid UInt16))
    (accessories : ConfigLoadResult AccessoryInfoMap) : Prop where
  offsets : Config.load p.offsets "device_offsets.json" (d.fileAt "device_offsets.json")
    (d.answers "device_offsets.json") = some offsets
  delays : Config.load p.delays "device_shot_delays.json" (d.fileAt "device_shot_delays.json")
    (d.answers "device_shot_delays.json") = some delays
  accessories : Config.load p.accessories "accessory_map.json" (d.fileAt "accessory_map.json")
    (d.answers "accessory_map.json") = some accessories

theorem startup_eq_some_iff {r : LoadedConfig C × List ConfigCorruptionEvent} :
    startup p screens d = some r ↔ ∃ offsets delays accessories,
      Loads p d offsets delays accessories ∧ r = started p screens d offsets delays accessories := by
  unfold startup
  constructor
  · intro h
    obtain ⟨offsets, hoffsets, h⟩ := Option.bind_eq_some_iff.mp h
    obtain ⟨delays, hdelays, h⟩ := Option.bind_eq_some_iff.mp h
    obtain ⟨accessories, haccessories, h⟩ := Option.bind_eq_some_iff.mp h
    exact ⟨offsets, delays, accessories, ⟨hoffsets, hdelays, haccessories⟩, (Option.some.inj h).symm⟩
  · rintro ⟨offsets, delays, accessories, ⟨hoffsets, hdelays, haccessories⟩, rfl⟩
    refine Option.bind_eq_some_iff.mpr ⟨offsets, hoffsets, ?_⟩
    refine Option.bind_eq_some_iff.mpr ⟨delays, hdelays, ?_⟩
    exact Option.bind_eq_some_iff.mpr ⟨accessories, haccessories, rfl⟩

/-- What is reported of a map. -/
theorem exists_mem_corruption {V : Type} {json5 : Json5 V} {name dir : String}
    {r : ConfigLoadResult (HashMap Uuid V)} (h : Config.load json5 name (d.fileAt name) (d.answers name) = some r)
    (hdir : d.dir = some dir) (ty ty' : ConfigFileType) (path : String) :
    (∃ c ∈ corruption ty r.corruptionInfo, c.fileType = ty' ∧ c.filePath = path) ↔
      ty' = ty ∧ path = join dir name ∧ r.corruptionInfo.isSome = true := by
  cases hinfo : r.corruptionInfo with
  | none => simp [corruption]
  | some info =>
    have hpath : info.1 = join dir name := Config.reported_path (e := info.2) h hinfo hdir
    simp [corruption, hpath, eq_comm]

/-- What is reported of the screens. -/
theorem exists_mem_screenCorruptions {fromStr : String → Except String C} {dir : String} (hdir : d.dir = some dir)
    (ty : ConfigFileType) (path : String) :
    (∃ c ∈ (screenCalibrationsAsync fromStr screens d).corruptedScreens.map
        (fun e => (⟨.screenCalibration, e.2.1, e.2.2, true⟩ : ConfigCorruptionEvent)),
      c.fileType = ty ∧ c.filePath = path) ↔
      ty = .screenCalibration ∧ ∃ i < screens, path = join dir (screenFile i) ∧
        ∃ e, loadScreen fromStr d i = some (.error (join dir (screenFile i), e)) := by
  constructor
  · rintro ⟨c, hc, rfl, rfl⟩
    obtain ⟨e, he, rfl⟩ := List.mem_map.mp hc
    obtain ⟨i, hi, hcorrupt⟩ := List.mem_filterMap.mp he
    unfold corruptionOf at hcorrupt
    split at hcorrupt
    · next e' hload =>
      cases hcorrupt
      obtain ⟨dir', hdir', hpath⟩ := loadScreen_error hload
      rw [hdir] at hdir'
      cases hdir'
      exact ⟨rfl, i, List.mem_range.mp hi, hpath, e'.2, hpath ▸ hload⟩
    · cases hcorrupt
  · rintro ⟨rfl, i, hi, rfl, e, hload⟩
    refine ⟨_, List.mem_map_of_mem (List.mem_filterMap.mpr
      ⟨i, List.mem_range.mpr hi, (?_ : _ = some (UInt8.ofNat i, join dir (screenFile i), e))⟩), rfl, rfl⟩
    rw [corruptionOf, hload]

/-- What is reported. -/
theorem exists_mem_started {offsets : ConfigLoadResult (HashMap Uuid Isometry)}
    {delays : ConfigLoadResult (HashMap Uuid UInt16)} {accessories : ConfigLoadResult AccessoryInfoMap}
    (h : Loads p d offsets delays accessories) {dir : String} (hdir : d.dir = some dir) (ty : ConfigFileType)
    (path : String) :
    (∃ c ∈ (started p screens d offsets delays accessories).2, c.fileType = ty ∧ c.filePath = path) ↔
      ((ty = .screenCalibration ∧ ∃ i < screens, path = join dir (screenFile i) ∧
          ∃ e, loadScreen p.screen d i = some (.error (join dir (screenFile i), e))) ∨
        ty = .deviceOffsets ∧ path = join dir "device_offsets.json" ∧ offsets.corruptionInfo.isSome = true) ∨
      ty = .deviceShotDelays ∧ path = join dir "device_shot_delays.json" ∧ delays.corruptionInfo.isSome = true ∨
      ty = .accessoryMap ∧ path = join dir "accessory_map.json" ∧ accessories.corruptionInfo.isSome = true := by
  unfold started
  dsimp only
  simp only [List.mem_append, or_and_right, exists_or]
  rw [exists_mem_screenCorruptions hdir, exists_mem_corruption h.offsets hdir, exists_mem_corruption h.delays hdir,
    exists_mem_corruption h.accessories hdir, or_assoc]

/-- The reported paths. -/
theorem mem_paths {offsets : ConfigLoadResult (HashMap Uuid Isometry)}
    {delays : ConfigLoadResult (HashMap Uuid UInt16)} {accessories : ConfigLoadResult AccessoryInfoMap}
    (h : Loads p d offsets delays accessories) {dir : String} (hdir : d.dir = some dir) (path : String) :
    path ∈ (started p screens d offsets delays accessories).2.map (·.filePath) ↔
      ((∃ i < screens, path = join dir (screenFile i) ∧
          ∃ e, loadScreen p.screen d i = some (.error (join dir (screenFile i), e))) ∨
        path = join dir "device_offsets.json" ∧ offsets.corruptionInfo.isSome = true) ∨
      path = join dir "device_shot_delays.json" ∧ delays.corruptionInfo.isSome = true ∨
      path = join dir "accessory_map.json" ∧ accessories.corruptionInfo.isSome = true := by
  have hsome : path ∈ (started p screens d offsets delays accessories).2.map (·.filePath) ↔
      ∃ ty, ∃ c ∈ (started p screens d offsets delays accessories).2, c.fileType = ty ∧ c.filePath = path := by
    rw [List.mem_map]
    exact ⟨fun ⟨c, hc, hpath⟩ => ⟨c.fileType, c, hc, rfl, hpath⟩, fun ⟨_, c, hc, _, hpath⟩ => ⟨c, hc, hpath⟩⟩
  simp only [hsome, exists_mem_started h hdir, exists_or, exists_eq_left]

/-- Every file has its own path, so whether it is reported is up to its own load. -/
theorem reported_iff {offsets : ConfigLoadResult (HashMap Uuid Isometry)}
    {delays : ConfigLoadResult (HashMap Uuid UInt16)} {accessories : ConfigLoadResult AccessoryInfoMap}
    (h : Loads p d offsets delays accessories)
    (hevents : events = (started p screens d offsets delays accessories).2) {dir : String} (hdir : d.dir = some dir) :
    (∀ i < screens, (join dir (screenFile i) ∈ events.map (·.filePath) ↔
        ∃ e, loadScreen p.screen d i = some (.error (join dir (screenFile i), e)))) ∧
      (join dir "device_offsets.json" ∈ events.map (·.filePath) ↔ offsets.corruptionInfo.isSome = true) ∧
      (join dir "device_shot_delays.json" ∈ events.map (·.filePath) ↔ delays.corruptionInfo.isSome = true) ∧
      (join dir "accessory_map.json" ∈ events.map (·.filePath) ↔ accessories.corruptionInfo.isSome = true) := by
  rw [hevents]
  have hoffsets := screenFile_ne "device_offsets.json" (by decide)
  have hdelays := screenFile_ne "device_shot_delays.json" (by decide)
  have haccessories := screenFile_ne "accessory_map.json" (by decide)
  refine ⟨fun i hi => ?_, ?_, ?_, ?_⟩
  · rw [mem_paths h hdir]
    simp only [(join_injective dir).eq_iff, screenFile_injective.eq_iff, hoffsets, hdelays, haccessories]
    simp [hi]
  · rw [mem_paths h hdir]
    simp [(join_injective dir).eq_iff, (hoffsets _).symm]
  · rw [mem_paths h hdir]
    simp [(join_injective dir).eq_iff, (hdelays _).symm]
  · rw [mem_paths h hdir]
    simp [(join_injective dir).eq_iff, (haccessories _).symm]

/-! ## Each file once -/

/-- The paths of all files that are loaded. -/
def configPaths (screens : Nat) (dir : String) : List String :=
  (List.range screens).map (fun i => join dir (screenFile i)) ++ [join dir "device_offsets.json"] ++
    [join dir "device_shot_delays.json"] ++ [join dir "accessory_map.json"]

theorem nodup_configPaths (screens : Nat) (dir : String) : (configPaths screens dir).Nodup := by
  have hoffsets := screenFile_ne "device_offsets.json" (by decide)
  have hdelays := screenFile_ne "device_shot_delays.json" (by decide)
  have haccessories := screenFile_ne "accessory_map.json" (by decide)
  have hscreens : ((List.range screens).map fun i => join dir (screenFile i)).Nodup :=
    List.nodup_range.map ((join_injective dir).comp screenFile_injective)
  unfold configPaths
  simp [List.nodup_append, hscreens, (join_injective dir).eq_iff, hoffsets, hdelays, haccessories]

theorem corruption_sublist {ty : ConfigFileType} {info : Option (String × String)} {path : String}
    (h : ∀ p e, info = some (p, e) → p = path) : ((corruption ty info).map (·.filePath)).Sublist [path] := by
  cases info with
  | none => exact List.nil_sublist _
  | some info =>
    obtain ⟨p, e⟩ := info
    obtain rfl := h p e rfl
    exact List.Sublist.refl _

theorem screens_sublist {fromStr : String → Except String C} {dir : String} (hdir : d.dir = some dir)
    (is : List Nat) :
    ((is.filterMap (corruptionOf fromStr d)).map (·.2.1)).Sublist
      (is.map fun i => join dir (screenFile i)) := by
  induction is with
  | nil => exact List.Sublist.refl _
  | cons i is ih =>
    cases hc : corruptionOf fromStr d i with
    | none =>
      rw [List.filterMap_cons_none hc]
      exact ih.cons _
    | some c =>
      rw [List.filterMap_cons_some hc]
      unfold corruptionOf at hc
      split at hc
      · next e hload =>
        cases hc
        obtain ⟨dir', hdir', hpath⟩ := loadScreen_error hload
        rw [hdir] at hdir'
        cases hdir'
        rw [List.map_cons, List.map_cons, ← hpath]
        exact ih.cons_cons _
      · cases hc

theorem nodup_paths {offsets : ConfigLoadResult (HashMap Uuid Isometry)}
    {delays : ConfigLoadResult (HashMap Uuid UInt16)} {accessories : ConfigLoadResult AccessoryInfoMap}
    (h : Loads p d offsets delays accessories) {dir : String} (hdir : d.dir = some dir) :
    ((started p screens d offsets delays accessories).2.map (·.filePath)).Nodup := by
  refine (nodup_configPaths screens dir).sublist ?_
  unfold started configPaths
  dsimp only
  rw [List.map_append, List.map_append, List.map_append, List.map_map]
  refine ((List.Sublist.append ?_ ?_).append ?_).append ?_
  · exact screens_sublist hdir (List.range screens)
  · exact corruption_sublist fun _ _ hinfo => Config.reported_path h.offsets hinfo hdir
  · exact corruption_sublist fun _ _ hinfo => Config.reported_path h.delays hinfo hdir
  · exact corruption_sublist fun _ _ hinfo => Config.reported_path h.accessories hinfo hdir

/-! ## The next start -/

theorem started_of_dir_none {offsets : ConfigLoadResult (HashMap Uuid Isometry)}
    {delays : ConfigLoadResult (HashMap Uuid UInt16)} {accessories : ConfigLoadResult AccessoryInfoMap}
    (h : Loads p d offsets delays accessories) (hdir : d.dir = none) :
    (started p screens d offsets delays accessories).2 = [] := by
  have hload : ∀ {V : Type} {json5 : Json5 V} {name : String} {r : ConfigLoadResult (HashMap Uuid V)},
      Config.load json5 name (d.fileAt name) (d.answers name) = some r → r.corruptionInfo = none := by
    intro V json5 name r hr
    rcases Config.load_cases hr with hnone | ⟨dir, e', hdir', -⟩
    · exact hnone
    · rw [configDir_answers, hdir] at hdir'
      cases hdir'
  have hscreens : (screenCalibrationsAsync p.screen screens d).corruptedScreens = [] := by
    refine List.filterMap_eq_nil_iff.mpr fun i _ => ?_
    simp [corruptionOf, loadScreen, hdir]
  unfold started
  dsimp only
  rw [hscreens, hload h.offsets, hload h.delays, hload h.accessories]
  rfl

/-- The corruptions of the screens whose files are left. -/
theorem screenCorruptions_deleteFiles (removable : String → Bool) {fromStr : String → Except String C}
    (hmem : ∀ dir, d.dir = some dir → ∀ i < screens,
      (join dir (screenFile i) ∈ events.map (·.filePath) ↔
        ∃ e, loadScreen fromStr d i = some (.error (join dir (screenFile i), e)))) :
    (screenCalibrationsAsync fromStr screens (d.deleteFiles removable events)).calibrations =
        (screenCalibrationsAsync fromStr screens d).calibrations ∧
      (screenCalibrationsAsync fromStr screens (d.deleteFiles removable events)).corruptedScreens =
        (screenCalibrationsAsync fromStr screens d).corruptedScreens.filter fun e => !removable e.2.1 := by
  have hscreen := fun i (hi : i ∈ List.range screens) =>
    screen_deleteFiles removable fun dir hdir => hmem dir hdir i (List.mem_range.mp hi)
  unfold screenCalibrationsAsync
  refine ⟨List.filterMap_congr fun i hi => (hscreen i hi).1, ?_⟩
  rw [List.filter_filterMap]
  exact List.filterMap_congr fun i hi => (hscreen i hi).2

/-- The next start loads the same, and reports what is left. -/
theorem startup_deleteFiles (h : startup p screens d = some (loaded, events)) (removable : String → Bool) :
    startup p screens (d.deleteFiles removable events) = some (loaded, events.filter (kept removable)) := by
  obtain ⟨offsets, delays, accessories, hloads, hr⟩ := startup_eq_some_iff.mp h
  have hloaded : loaded = (started p screens d offsets delays accessories).1 := congrArg Prod.fst hr
  have hevents : events = (started p screens d offsets delays accessories).2 := congrArg Prod.snd hr
  have hreported := fun dir (hdir : d.dir = some dir) => reported_iff hloads hevents hdir
  obtain ⟨offsets', hoffsets, hoffsetsValue, hoffsetsLeft⟩ := Config.load_deleteFiles removable
    hloads.offsets (fun dir hdir => (hreported dir hdir).2.1) .deviceOffsets
  obtain ⟨delays', hdelays, hdelaysValue, hdelaysLeft⟩ := Config.load_deleteFiles removable
    hloads.delays (fun dir hdir => (hreported dir hdir).2.2.1) .deviceShotDelays
  obtain ⟨accessories', haccessories, haccessoriesValue, haccessoriesLeft⟩ := Config.load_deleteFiles removable
    hloads.accessories (fun dir hdir => (hreported dir hdir).2.2.2) .accessoryMap
  obtain ⟨hcalibrations, hscreensLeft⟩ :=
    screenCorruptions_deleteFiles removable fun dir hdir => (hreported dir hdir).1
  refine startup_eq_some_iff.mpr ⟨offsets', delays', accessories', ⟨hoffsets, hdelays, haccessories⟩, ?_⟩
  refine Prod.ext ?_ ?_
  · rw [hloaded]
    unfold started
    dsimp only
    rw [hcalibrations, hoffsetsValue, hdelaysValue, haccessoriesValue]
  · have hleft : events.filter (kept removable) =
        (started p screens d offsets delays accessories).2.filter (kept removable) := by rw [hevents]
    rw [hleft]
    unfold started
    dsimp only
    rw [hscreensLeft, hoffsetsLeft, hdelaysLeft, haccessoriesLeft, List.filter_append, List.filter_append,
      List.filter_append, List.filter_map]
    rfl

/-! ## Starting again -/

/-- A start reports exactly the corrupt files, each once, and after "Delete Files" the next
one loads the same and reports those that are still there. -/
structure Recovers (p : ConfigParsers C) (screens : Nat) (d : ConfigDisk) (loaded : LoadedConfig C)
    (events : List ConfigCorruptionEvent) : Prop where
  exact : ∀ ty path, (∃ c ∈ events, c.fileType = ty ∧ c.filePath = path) ↔ CorruptAt p screens d ty path
  once : (events.map (·.filePath)).Nodup
  again : ∀ removable, startup p screens (d.deleteFiles removable events) =
    some (loaded, events.filter (kept removable))

/-- **Corrupt files** are reported by the start and gone after "Delete Files". -/
theorem startup_recovers (p : ConfigParsers C) (screens : Nat) (d : ConfigDisk) {loaded : LoadedConfig C}
    {events : List ConfigCorruptionEvent} (h : startup p screens d = some (loaded, events)) :
    Recovers p screens d loaded events := by
  obtain ⟨offsets, delays, accessories, hloads, hr⟩ := startup_eq_some_iff.mp h
  have hevents : events = (started p screens d offsets delays accessories).2 := congrArg Prod.snd hr
  refine ⟨fun ty path => ?_, ?_, startup_deleteFiles h⟩
  · cases hdir : d.dir with
    | none =>
      rw [hevents, started_of_dir_none hloads hdir]
      refine iff_of_false (fun ⟨c, hc, _⟩ => List.not_mem_nil hc) fun hcorrupt => ?_
      obtain ⟨dir, hdir'⟩ := hcorrupt.dir
      rw [hdir] at hdir'
      cases hdir'
    | some dir =>
      rw [hevents, exists_mem_started hloads hdir, Config.isSome_corruptionInfo_iff hloads.offsets,
        Config.isSome_corruptionInfo_iff hloads.delays, Config.isSome_corruptionInfo_iff hloads.accessories]
      constructor
      · rintro ((⟨rfl, i, hi, rfl, e, hload⟩ | ⟨rfl, rfl, hc⟩) | ⟨rfl, rfl, hc⟩ | ⟨rfl, rfl, hc⟩)
        · obtain ⟨hexists, bytes, hfile, hnot⟩ := (loadScreen_error_iff hdir).mp ⟨e, hload⟩
          exact .screen hdir hi hexists hfile hnot
        · exact .offsets hdir hc
        · exact .delays hdir hc
        · exact .accessories hdir hc
      · intro hcorrupt
        have hsame : ∀ dir', d.dir = some dir' → dir' = dir := fun dir' h' => Option.some.inj (h'.symm.trans hdir)
        cases hcorrupt with
        | screen hdir' hi hexists hfile hnot =>
          cases hsame _ hdir'
          exact .inl (.inl ⟨rfl, _, hi, rfl, (loadScreen_error_iff hdir).mpr ⟨hexists, _, hfile, hnot⟩⟩)
        | offsets hdir' hc =>
          cases hsame _ hdir'
          exact .inl (.inr ⟨rfl, rfl, hc⟩)
        | delays hdir' hc =>
          cases hsame _ hdir'
          exact .inr (.inl ⟨rfl, rfl, hc⟩)
        | accessories hdir' hc =>
          cases hsame _ hdir'
          exact .inr (.inr ⟨rfl, rfl, hc⟩)
  · rw [hevents]
    cases hdir : d.dir with
    | none =>
      rw [started_of_dir_none hloads hdir]
      exact List.nodup_nil
    | some dir => exact nodup_paths hloads hdir

/-- A shot delay file that may not be read, and nothing else. -/
def lockedDisk : ConfigDisk where
  dir := some "c"
  file path := if path = "c/device_shot_delays.json" then some [] else none
  existsOk _ := true
  readError _ := some "Permission denied (os error 13)"

def sampleParsers : ConfigParsers Unit where
  screen _ := .error "expected a calibration"
  offsets := OffsetSaves.sampleOffsetsJson
  delays := Json5.ofTable []
  accessories := Json5.ofTable []

/-- The server starts without shot delays and reports the file. -/
theorem startup_recovers_locked :
    Recovers sampleParsers 1 lockedDisk ⟨[], ∅, ∅, ∅⟩
      [⟨.deviceShotDelays, "c/device_shot_delays.json", "Permission denied (os error 13)", true⟩] :=
  startup_recovers sampleParsers 1 lockedDisk rfl

end

end OdysseyHub
