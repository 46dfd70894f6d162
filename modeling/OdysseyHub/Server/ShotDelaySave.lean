import OdysseyHub.Common.Config
import OdysseyHub.Lib.Slots
import OdysseyHub.Lib.Transition

/-!
# Saving shot delays (server.rs, odyssey_hub_common::config)

`save_shot_delay` takes the current delay of a device, loads `device_shot_delays.json`, inserts
the delay and writes the whole file.  Calls run side by side and nothing locks the file:
they are kept apart as tasks with one stage for each system call on it.  No delay is lost
in runs in which a save opens the file for writing only while no other save is
writing, with a map that lacks nothing the file holds (`delays_kept`).
-/

namespace OdysseyHub

open Slots Transition

/-! ## System calls on the file -/

/-- One `read` of at most `n` bytes, behind those already seen. -/
def ConfigFile.readAt (file : ConfigFile) (seen n : Nat) : List UInt8 := ((file.getD []).drop seen).take n

/-- One `write` of `chunk` at an offset; a hole is filled with zeros. -/
def ConfigFile.writeAt (file : ConfigFile) (offset : Nat) (chunk : List UInt8) : ConfigFile :=
  let bytes := file.getD []
  some (bytes.take offset ++ List.replicate (offset - bytes.length) 0 ++ chunk
    ++ bytes.drop (offset + chunk.length))

/-- The next chunk of a text lands behind the part already written. -/
theorem ConfigFile.writeAt_take {text : List UInt8} {written : Nat} (h : written ≤ text.length) (n : Nat) :
    ConfigFile.writeAt (some (text.take written)) written ((text.drop written).take n) =
      some (text.take (written + n)) := by
  have hlen : (text.take written).length = written := List.length_take_of_le h
  have hhole : written - (text.take written).length = 0 := by rw [hlen, Nat.sub_self]
  have htail : (text.take written).drop (written + ((text.drop written).take n).length) = [] := by
    rw [List.drop_eq_nil_iff, hlen]
    exact Nat.le_add_right _ _
  show some ((text.take written).take written ++ List.replicate (written - (text.take written).length) 0 ++
    (text.drop written).take n ++ (text.take written).drop (written + ((text.drop written).take n).length)) = _
  rw [hhole, htail, List.take_take, Nat.min_self, List.replicate_zero, List.append_nil, List.append_nil,
    List.take_add]

/-! ## One call -/

/-- What a load is for: the value to save, or the map to save it in. -/
inductive DelayLoad
  | value
  | map (ms : UInt16)
  deriving DecidableEq, Repr

inductive DelaySaveStage
  | asked
  | opening (l : DelayLoad)
  | reading (l : DelayLoad) (a : LoadAnswers) (seen : List UInt8)
  | loaded (ms : UInt16) (map : HashMap Uuid UInt16)
  | writing (ms : UInt16) (text : List UInt8) (written : Nat)
  | done (ms : UInt16)
  | failed

structure DelaySave where
  uuid : Uuid
  stage : DelaySaveStage

inductive DelaySaveAction
  /-- `device_shot_delays.read()` -/
  | current
  /-- `get_app_root`, `try_exists` and the `open` for reading -/
  | open (a : LoadAnswers)
  | read (n : Nat)
  /-- the `open` for writing, which truncates -/
  | create
  | write (n : Nat)
  /-- an error, or the client has gone -/
  | fail

namespace DelaySave

section
variable (json5 : Json5 UInt16)

/-- A load is over with `map`. -/
def load (uuid : Uuid) (map : HashMap Uuid UInt16) : DelayLoad → DelaySaveStage
  | .value => .opening (.map ((map.lookup uuid).getD 0))
  | .map ms => .loaded ms (map.insert uuid ms)

/-- What one action makes of the call and the file. -/
def advance (c : DelaySave) (shotDelays : HashMap Uuid UInt16) (file : ConfigFile) :
    DelaySaveAction → Option (DelaySaveStage × ConfigFile)
  | .current =>
    match c.stage with
    | .asked =>
      match shotDelays.lookup c.uuid with
      | some ms => some (.opening (.map ms), file)
      | none => some (.opening .value, file)
    | _ => none
  | .open a =>
    match c.stage with
    | .opening l =>
      match a.configDir, a.existsOk, file with
      | some _, true, some _ => some (.reading l a [], file)
      | _, _, _ => some (load c.uuid ∅ l, file)
    | _ => none
  | .read n =>
    match c.stage with
    | .reading l a seen =>
      let chunk := file.readAt seen.length (n + 1)
      if a.readError.isNone && !chunk.isEmpty then some (.reading l a (seen ++ chunk), file)
      else
        match Config.deviceShotDelaysAsync json5 (some seen) a with
        | some r => some (load c.uuid (r.intoValue ∅) l, file)
        -- a slice of a key panics
        | none => some (.failed, file)
    | _ => none
  | .create =>
    match c.stage with
    | .loaded ms map =>
      match Config.contents json5 map with
      | .ok text => some (.writing ms text.toUTF8.data.toList 0, some [])
      | .error _ => some (.failed, file)
    | _ => none
  | .write n =>
    match c.stage with
    | .writing ms text written =>
      let chunk := (text.drop written).take (n + 1)
      let file' := file.writeAt written chunk
      if text.length ≤ written + (n + 1) then some (.done ms, file')
      else some (.writing ms text (written + (n + 1)), file')
    | _ => none
  | .fail =>
    match c.stage with
    | .done _ => none
    | _ => some (.failed, file)

/-- The stages that one action leads to, and the file it leaves. -/
inductive Advance (uuid : Uuid) (file : ConfigFile) :
    DelaySaveStage → DelaySaveAction → DelaySaveStage → ConfigFile → Prop
  | current (l) : Advance uuid file .asked .current (.opening l) file
  | «open» {l} (a) : Advance uuid file (.opening l) (.open a) (.reading l a []) file
  | absent {l} (a) : Advance uuid file (.opening l) (.open a) (load uuid ∅ l) file
  | chunk {l a seen} (n) :
      Advance uuid file (.reading l a seen) (.read n)
        (.reading l a (seen ++ file.readAt seen.length (n + 1))) file
  | loaded {l a seen} (n map) : Advance uuid file (.reading l a seen) (.read n) (load uuid map l) file
  | create {ms map t} : Config.contents json5 map = .ok t →
      Advance uuid file (.loaded ms map) .create (.writing ms t.toUTF8.data.toList 0) (some [])
  | write {ms text written} (n) : written + (n + 1) < text.length →
      Advance uuid file (.writing ms text written) (.write n) (.writing ms text (written + (n + 1)))
        (file.writeAt written ((text.drop written).take (n + 1)))
  | done {ms text written} (n) : text.length ≤ written + (n + 1) →
      Advance uuid file (.writing ms text written) (.write n) (.done ms)
        (file.writeAt written ((text.drop written).take (n + 1)))
  | fail {st} (a) : (∀ ms, st ≠ .done ms) → Advance uuid file st a .failed file

theorem advance_cases {c : DelaySave} {shotDelays : HashMap Uuid UInt16} {file : ConfigFile}
    {a : DelaySaveAction} {r : DelaySaveStage × ConfigFile}
    (h : c.advance json5 shotDelays file a = some r) :
    Advance json5 c.uuid file c.stage a r.1 r.2 := by
  obtain ⟨uuid, stage⟩ := c
  unfold advance at h
  cases a with
  | current =>
    cases stage with
    | asked =>
      dsimp only at h
      split at h
      · cases h
        exact .current _
      · cases h
        exact .current _
    | _ => cases h
  | «open» b =>
    cases stage with
    | opening l =>
      dsimp only at h
      split at h
      · cases h
        exact .open _
      · cases h
        exact .absent _
    | _ => cases h
  | read n =>
    cases stage with
    | reading l b seen =>
      dsimp only at h
      split at h
      · cases h
        exact .chunk n
      · split at h
        · cases h
          exact .loaded n _
        · cases h
          exact .fail _ (by simp)
    | _ => cases h
  | create =>
    cases stage with
    | loaded ms map =>
      dsimp only at h
      split at h
      · next t ht =>
        cases h
        exact .create ht
      · cases h
        exact .fail _ (by simp)
    | _ => cases h
  | write n =>
    cases stage with
    | writing ms text written =>
      dsimp only at h
      split at h
      · next hlen =>
        cases h
        exact .done n hlen
      · next hlen =>
        cases h
        exact .write n (Nat.lt_of_not_le hlen)
    | _ => cases h
  | fail =>
    cases stage with
    | done ms => cases h
    | _ =>
      cases h
      exact .fail _ (by simp)

end

end DelaySave

/-! ## All calls -/

structure DelaySaves where
  /-- `Server::device_shot_delays` -/
  shotDelays : HashMap Uuid UInt16
  file : ConfigFile
  saves : List DelaySave
  /-- the saves that have returned `Ok`, latest first -/
  completed : List (Uuid × UInt16)

inductive DelaySavesEvent
  /-- another request sets the delay -/
  | set (uuid : Uuid) (ms : UInt16)
  | save (uuid : Uuid)
  | act (i : Nat) (a : DelaySaveAction)

def DelaySaveStage.returned : DelaySaveStage → Option UInt16
  | .done ms => some ms
  | _ => none

namespace DelaySaves

section
variable (json5 : Json5 UInt16)

def init (shotDelays : HashMap Uuid UInt16) (file : ConfigFile) : DelaySaves :=
  { shotDelays := shotDelays, file := file, saves := [], completed := [] }

/-- Call `i` is at `stage`, the file is `file`. -/
def advanced (s : DelaySaves) (i : Nat) (uuid : Uuid) (stage : DelaySaveStage) (file : ConfigFile) :
    DelaySaves :=
  { s with
    file := file
    saves := s.saves.set i ⟨uuid, stage⟩
    completed := (stage.returned.map fun ms => (uuid, ms)).toList ++ s.completed }

def next (s : DelaySaves) : DelaySavesEvent → Option DelaySaves
  | .set uuid ms => some { s with shotDelays := s.shotDelays.insert uuid ms }
  | .save uuid => some { s with saves := s.saves ++ [⟨uuid, .asked⟩] }
  | .act i a => do
    let c ← s.saves[i]?
    let r ← c.advance json5 s.shotDelays s.file a
    some (s.advanced i c.uuid r.1 r.2)

def Step (s : DelaySaves) (e : DelaySavesEvent) (s' : DelaySaves) : Prop := next json5 s e = some s'

/-! ## Nothing is lost -/

/-- What the file holds. -/
def entries (file : ConfigFile) : HashMap Uuid UInt16 :=
  ((Config.deviceShotDelaysAsync json5 file {}).map fun r => r.intoValue ∅).getD ∅

/-- The last completed save of a device, or what the file held before. -/
def expected (before : ConfigFile) (completed : List (Uuid × UInt16)) (u : Uuid) : Option UInt16 :=
  (completed.lookup u).or ((entries json5 before).lookup u)

/-- Once all calls have returned `Ok`, the file has every delay saved, and every other entry. -/
def Kept (before : ConfigFile) (s : DelaySaves) : Prop :=
  (∀ c ∈ s.saves, c.stage.returned.isSome) →
    ∀ u ms, expected json5 before s.completed u = some ms → (entries json5 s.file).lookup u = some ms

end

end DelaySaves

def DelaySaveStage.isWriting : DelaySaveStage → Bool
  | .writing _ _ _ => true
  | _ => false

/-- The map a call is about to write. -/
def DelaySaveStage.map? : DelaySaveStage → Option (HashMap Uuid UInt16)
  | .loaded _ map => some map
  | _ => none

namespace DelaySaves

section
variable (json5 : Json5 UInt16)

/-- A save opens the file while no other is writing, with a map that has all its other entries. -/
def Undisturbed (s : DelaySaves) : DelaySavesEvent → Prop
  | .act i .create =>
    (∀ c ∈ s.saves, c.stage.isWriting = false) ∧
      ∀ c ∈ s.saves[i]?, ∀ map ∈ c.stage.map?,
        ∀ e ∈ (entries json5 s.file).entries, e.1 ≠ c.uuid → map.lookup e.1 = some e.2
  | _ => True

instance (s : DelaySaves) : ∀ e, Decidable (Undisturbed json5 s e)
  | .act _ .create => inferInstanceAs (Decidable (_ ∧ _))
  | .act _ .current => isTrue trivial
  | .act _ (.open _) => isTrue trivial
  | .act _ (.read _) => isTrue trivial
  | .act _ (.write _) => isTrue trivial
  | .act _ .fail => isTrue trivial
  | .set _ _ => isTrue trivial
  | .save _ => isTrue trivial

end

/-! ## Calls that write -/

section
variable {saves : List DelaySave} {i : Nat} {x : DelaySave}

/-- The call that is writing can only be `w`. -/
def Writer (w : Option Nat) (saves : List DelaySave) : Prop :=
  ∀ j c, saves[j]? = some c → c.stage.isWriting = true → w = some j

/-- Call `i` becomes the one that writes, or goes on. -/
theorem Writer.write {w : Option Nat} (h : Writer w saves) (hw : w = none ∨ w = some i) :
    Writer (some i) (saves.set i x) := by
  intro j c hc hwriting
  rcases getElem?_set_cases hc with ⟨rfl, -⟩ | ⟨-, hold⟩
  · rfl
  · have hj := h j c hold hwriting
    rcases hw with rfl | rfl
    · cases hj
    · exact hj

/-- A call that does not write changes nothing. -/
theorem Writer.quiet {w : Option Nat} (h : Writer w saves) (hx : x.stage.isWriting = false) :
    Writer w (saves.set i x) := by
  intro j c hc hwriting
  rcases getElem?_set_cases hc with ⟨-, rfl⟩ | ⟨-, hold⟩
  · rw [hx] at hwriting
    cases hwriting
  · exact h j c hold hwriting

/-- The call that was writing is through. -/
theorem Writer.through (h : Writer (some i) saves) (hx : x.stage.isWriting = false) :
    Writer none (saves.set i x) := by
  intro j c hc hwriting
  rcases getElem?_set_cases hc with ⟨-, rfl⟩ | ⟨hne, hold⟩
  · rw [hx] at hwriting
    cases hwriting
  · have hj := h j c hold hwriting
    cases hj
    exact absurd rfl hne

theorem Writer.append {w : Option Nat} (h : Writer w saves) (hx : x.stage.isWriting = false) :
    Writer w (saves ++ [x]) := by
  intro j c hc hwriting
  rcases getElem?_concat_some.mp hc with hold | ⟨-, rfl⟩
  · exact h j c hold hwriting
  · rw [hx] at hwriting
    cases hwriting

end

/-! ## The invariant -/

section
variable {json5 : Json5 UInt16} {before : ConfigFile} {s s' : DelaySaves}

/-- No call is writing, and the file holds what it should. -/
structure Idle (json5 : Json5 UInt16) (before : ConfigFile) (s : DelaySaves) : Prop where
  writer : Writer none s.saves
  holds : ∀ u v, expected json5 before s.completed u = some v →
    (entries json5 s.file).lookup u = some v

/-- Call `i` has written a part of `map`, and `map` holds what the file should once it is through. -/
structure Busy (json5 : Json5 UInt16) (before : ConfigFile) (s : DelaySaves) (i : Nat) (uuid : Uuid)
    (ms : UInt16) (text : List UInt8) (written : Nat) (map : HashMap Uuid UInt16) : Prop where
  writer : Writer (some i) s.saves
  call : s.saves[i]? = some ⟨uuid, .writing ms text written⟩
  le : written ≤ text.length
  file : s.file = some (text.take written)
  text : ∃ t, Config.contents json5 map = .ok t ∧ text = t.toUTF8.data.toList
  own : map.lookup uuid = some ms
  others : ∀ u v, u ≠ uuid → expected json5 before s.completed u = some v → map.lookup u = some v

/-- A map that is to be written holds the delay it is written for. -/
def Inserted (s : DelaySaves) : Prop :=
  ∀ c ∈ s.saves, ∀ ms map, c.stage = .loaded ms map → map.lookup c.uuid = some ms

structure Inv (json5 : Json5 UInt16) (before : ConfigFile) (s : DelaySaves) : Prop where
  inserted : s.Inserted
  file : Idle json5 before s ∨ ∃ i uuid ms text written map, Busy json5 before s i uuid ms text written map

/-- A file that was written as a whole holds its map. -/
theorem lookup_entries (hj : json5.Lossless) {map : HashMap Uuid UInt16} {t : String}
    (ht : Config.contents json5 map = .ok t) (u : Uuid) :
    (entries json5 (some t.toUTF8.data.toList)).lookup u = map.lookup u := by
  obtain ⟨map', hload, hlookup⟩ :=
    Config.load_contents hj map ht "device_shot_delays.json" "" (a := {}) rfl rfl rfl
  rw [entries, Config.deviceShotDelaysAsync, hload]
  exact hlookup u

theorem expected_completed (uuid : Uuid) (ms : UInt16) (completed : List (Uuid × UInt16)) (u : Uuid) :
    expected json5 before ((uuid, ms) :: completed) u =
      if u = uuid then some ms else expected json5 before completed u := by
  unfold expected
  rw [List.lookup_cons]
  by_cases hu : u = uuid
  · simp [hu]
  · have hne : (u == uuid) = false := by simpa using hu
    simp [hu, hne]

theorem Inserted.advanced (hs : s.Inserted) {i : Nat} {uuid : Uuid} {stage : DelaySaveStage}
    (file : ConfigFile) (hstage : ∀ ms map, stage = .loaded ms map → map.lookup uuid = some ms) :
    (s.advanced i uuid stage file).Inserted := by
  exact forall_mem_set hs hstage

/-- A call that neither writes nor ends leaves the file as it is. -/
theorem Inv.quiet (hs : Inv json5 before s) {i : Nat} {c : DelaySave} {stage : DelaySaveStage}
    (hi : s.saves[i]? = some c) (hc : c.stage.isWriting = false) (hw : stage.isWriting = false)
    (hr : stage.returned = none) (hstage : ∀ ms map, stage = .loaded ms map → map.lookup c.uuid = some ms) :
    Inv json5 before (s.advanced i c.uuid stage s.file) := by
  have hcompleted : (s.advanced i c.uuid stage s.file).completed = s.completed := by
    simp [advanced, hr]
  refine ⟨hs.inserted.advanced s.file hstage, ?_⟩
  rcases hs.file with hidle | ⟨j, uuid, ms, text, written, map, hbusy⟩
  · left
    refine ⟨hidle.writer.quiet hw, ?_⟩
    rw [hcompleted]
    exact hidle.holds
  · right
    have hne : i ≠ j := by
      rintro rfl
      rw [hbusy.call] at hi
      cases hi
      cases hc
    refine ⟨j, uuid, ms, text, written, map, hbusy.writer.quiet hw, ?_, hbusy.le, hbusy.file,
      hbusy.text, hbusy.own, ?_⟩
    · show (s.saves.set i _)[j]? = _
      rw [List.getElem?_set_ne hne]
      exact hbusy.call
    · rw [hcompleted]
      exact hbusy.others

/-- The file is opened for writing while nothing else writes. -/
theorem Inv.create (hs : Inv json5 before s) {i : Nat} {uuid : Uuid} {ms : UInt16}
    {map : HashMap Uuid UInt16} {t : String} (hi : s.saves[i]? = some ⟨uuid, .loaded ms map⟩)
    (ht : Config.contents json5 map = .ok t) (hquiet : ∀ c ∈ s.saves, c.stage.isWriting = false)
    (hkeeps : ∀ e ∈ (entries json5 s.file).entries, e.1 ≠ uuid → map.lookup e.1 = some e.2) :
    Inv json5 before (s.advanced i uuid (.writing ms t.toUTF8.data.toList 0) (some [])) := by
  refine ⟨hs.inserted.advanced _ (by simp), .inr ?_⟩
  rcases hs.file with hidle | ⟨j, u, ms', text, written, map', hbusy⟩
  · refine ⟨i, uuid, ms, t.toUTF8.data.toList, 0, map, hidle.writer.write (.inl rfl), ?_, Nat.zero_le _,
      rfl, ⟨t, ht, rfl⟩, hs.inserted _ (List.mem_of_getElem? hi) ms map rfl, ?_⟩
    · exact getElem?_set_same hi _
    · intro u v hu hv
      have hmem := AList.mem_lookup_iff.mp (hidle.holds u v hv)
      exact hkeeps ⟨u, v⟩ hmem hu
  · have hw := hquiet _ (List.mem_of_getElem? hbusy.call)
    cases hw

/-- A chunk is written, and is not the last. -/
theorem Busy.chunk {i : Nat} {uuid : Uuid} {ms : UInt16} {text : List UInt8} {written n : Nat}
    {map : HashMap Uuid UInt16} (hs : Busy json5 before s i uuid ms text written map)
    (hn : written + n ≤ text.length) :
    Busy json5 before
      (s.advanced i uuid (.writing ms text (written + n))
        (s.file.writeAt written ((text.drop written).take n)))
      i uuid ms text (written + n) map where
  writer := hs.writer.write (.inr rfl)
  call := getElem?_set_same hs.call _
  le := hn
  file := by
    show s.file.writeAt written ((text.drop written).take n) = _
    rw [hs.file]
    exact ConfigFile.writeAt_take hs.le n
  text := hs.text
  own := hs.own
  others := hs.others

/-- The last chunk is written: the file holds the map. -/
theorem Busy.done (hj : json5.Lossless) {i : Nat} {uuid : Uuid} {ms : UInt16} {text : List UInt8}
    {written n : Nat} {map : HashMap Uuid UInt16} (hs : Busy json5 before s i uuid ms text written map)
    (hn : text.length ≤ written + n) :
    Idle json5 before
      (s.advanced i uuid (.done ms) (s.file.writeAt written ((text.drop written).take n))) where
  writer := hs.writer.through rfl
  holds := by
    intro u v hv
    obtain ⟨t, ht, htext⟩ := hs.text
    have hfile : s.file.writeAt written ((text.drop written).take n) = some t.toUTF8.data.toList := by
      rw [hs.file, ConfigFile.writeAt_take hs.le, List.take_of_length_le hn, htext]
    show (entries json5 (s.file.writeAt written ((text.drop written).take n))).lookup u = some v
    rw [hfile, lookup_entries hj ht]
    have hexp : expected json5 before ((uuid, ms) :: s.completed) u = some v := hv
    rw [expected_completed] at hexp
    split at hexp
    · next hu =>
      rw [hu, hs.own]
      exact hexp
    · next hu => exact hs.others u v hu hexp

/-! ## Steps -/

/-- A call has failed. -/
def Failed (s : DelaySaves) : Prop := ∃ c ∈ s.saves, c.stage = .failed

theorem failed_of_advanced {i : Nat} {c : DelaySave} (hi : s.saves[i]? = some c) (file : ConfigFile) :
    (s.advanced i c.uuid .failed file).Failed := by
  exact ⟨⟨c.uuid, .failed⟩, mem_set_self hi, rfl⟩

/-- A load ends in a stage that does not write. -/
theorem Inv.load (hs : Inv json5 before s) {i : Nat} {c : DelaySave} (hi : s.saves[i]? = some c)
    (hc : c.stage.isWriting = false) (map : HashMap Uuid UInt16) (l : DelayLoad) :
    Inv json5 before (s.advanced i c.uuid (DelaySave.load c.uuid map l) s.file) := by
  cases l with
  | value =>
    refine hs.quiet hi hc rfl rfl ?_
    intro ms map h
    cases h
  | map ms =>
    refine hs.quiet hi hc rfl rfl ?_
    intro ms' map' h
    cases h
    exact AList.lookup_insert _

/-- The call that writes is the one that the invariant knows. -/
theorem Inv.busy (hs : Inv json5 before s) {i : Nat} {uuid : Uuid} {ms : UInt16} {text : List UInt8}
    {written : Nat} (hi : s.saves[i]? = some ⟨uuid, .writing ms text written⟩) :
    ∃ map, Busy json5 before s i uuid ms text written map := by
  rcases hs.file with hidle | ⟨j, u, ms', text', written', map, hbusy⟩
  · cases hidle.writer i _ hi rfl
  · obtain rfl : j = i := Option.some.inj (hbusy.writer i _ hi rfl)
    cases Option.some.inj (hi.symm.trans hbusy.call)
    exact ⟨map, hbusy⟩

/-- An action of one call keeps the invariant, or the call fails. -/
theorem Inv.act (hj : json5.Lossless) (hs : Inv json5 before s) {i : Nat} {a : DelaySaveAction}
    {c : DelaySave} {r : DelaySaveStage × ConfigFile} (hi : s.saves[i]? = some c)
    (hr : c.advance json5 s.shotDelays s.file a = some r) (hok : Undisturbed json5 s (.act i a)) :
    (s.advanced i c.uuid r.1 r.2).Failed ∨ Inv json5 before (s.advanced i c.uuid r.1 r.2) := by
  have hadv := DelaySave.advance_cases json5 hr
  obtain ⟨uuid, stage⟩ := c
  obtain ⟨stage', file'⟩ := r
  dsimp only at hadv ⊢
  cases hadv with
  | current | «open» | chunk => exact .inr (hs.quiet hi rfl rfl rfl (by simp))
  | absent | loaded => exact .inr (hs.load hi rfl _ _)
  | create ht => exact .inr (hs.create hi ht hok.1 (hok.2 _ hi _ rfl))
  | write n hlen =>
    obtain ⟨map, hbusy⟩ := hs.busy hi
    exact .inr ⟨hs.inserted.advanced _ (by simp), .inr ⟨_, _, _, _, _, _, hbusy.chunk hlen.le⟩⟩
  | done n hlen =>
    obtain ⟨map, hbusy⟩ := hs.busy hi
    exact .inr ⟨hs.inserted.advanced _ (by simp), .inl (hbusy.done hj hlen)⟩
  | fail => exact .inl (failed_of_advanced hi s.file)

/-- A call that has failed does nothing more. -/
theorem Failed.step {e : DelaySavesEvent} (hs : s.Failed) (h : Step json5 s e s') : s'.Failed := by
  cases e with
  | set uuid ms =>
    cases h
    exact hs
  | save uuid =>
    cases h
    exact exists_mem_concat _ hs
  | act i a =>
    obtain ⟨c, hi, h⟩ := Option.bind_eq_some_iff.mp h
    obtain ⟨r, hr, h⟩ := Option.bind_eq_some_iff.mp h
    cases h
    refine exists_mem_set hi (fun hfailed => ?_) hs
    have hadv := DelaySave.advance_cases json5 hr
    rw [hfailed] at hadv
    generalize r.1 = stage, r.2 = file at hadv ⊢
    cases hadv
    rfl

theorem Inv.step (hj : json5.Lossless) (hs : Inv json5 before s) {e : DelaySavesEvent}
    (hok : Undisturbed json5 s e) (h : Step json5 s e s') : s'.Failed ∨ Inv json5 before s' := by
  cases e with
  | set uuid ms =>
    cases h
    exact .inr ⟨hs.inserted, hs.file.imp (fun hi => ⟨hi.writer, hi.holds⟩)
      fun ⟨i, u, ms, text, written, map, hb⟩ => ⟨i, u, ms, text, written, map,
        ⟨hb.writer, hb.call, hb.le, hb.file, hb.text, hb.own, hb.others⟩⟩⟩
  | save uuid =>
    cases h
    right
    constructor
    · exact forall_mem_concat hs.inserted fun ms map hmap => by cases hmap
    · rcases hs.file with hi | ⟨i, u, ms, text, written, map, hb⟩
      · exact .inl ⟨hi.writer.append rfl, hi.holds⟩
      · have hcall : (s.saves ++ [⟨uuid, .asked⟩])[i]? = some ⟨u, .writing ms text written⟩ := by
          exact getElem?_concat_some.mpr (.inl hb.call)
        exact .inr ⟨i, u, ms, text, written, map, hb.writer.append rfl, hcall, hb.le, hb.file, hb.text,
          hb.own, hb.others⟩
  | act i a =>
    obtain ⟨c, hi, h⟩ := Option.bind_eq_some_iff.mp h
    obtain ⟨r, hr, h⟩ := Option.bind_eq_some_iff.mp h
    cases h
    exact hs.act hj hi hr hok

/-- Once every call has returned, none writes. -/
theorem Inv.kept (hs : Inv json5 before s) : Kept json5 before s := by
  intro hall
  rcases hs.file with hidle | ⟨i, u, ms, text, written, map, hb⟩
  · exact hidle.holds
  · cases hall _ (List.mem_of_getElem? hb.call)

theorem inv_init (shotDelays : HashMap Uuid UInt16) : Inv json5 before (init shotDelays before) where
  inserted c hc := by cases hc
  file := .inl
    { writer := fun j c hc => by cases hc
      holds := fun u v h => h }

/-- **Saves.**  In runs of undisturbed saves no delay is lost. -/
theorem delays_kept (hj : json5.Lossless) (before : ConfigFile) (shotDelays : HashMap Uuid UInt16)
    {tr : List (DelaySavesEvent × DelaySaves)}
    (hrun : Exec (Step json5) (init shotDelays before) tr)
    (hok : StepsOk (Undisturbed json5) (init shotDelays before) tr) :
    Always (Kept json5 before) (init shotDelays before) tr := by
  have hstep : ∀ s e s', (Failed s ∨ Inv json5 before s) → Undisturbed json5 s e → Step json5 s e s' →
      (Failed s' ∨ Inv json5 before s') := by
    rintro s e s' (hf | hs) hok h
    · exact .inl (hf.step h)
    · exact hs.step hj hok h
  refine (hrun.always hstep (.inr (inv_init shotDelays)) hok).imp ?_
  rintro s (⟨c, hc, hfailed⟩ | hs)
  · intro hall
    have hret := hall c hc
    rw [hfailed] at hret
    cases hret
  · exact hs.kept

end

/-! ## Two saves -/

instance : Encodable UInt16 := Encodable.ofLeftInverse UInt16.toNat UInt16.ofNat fun _ => UInt16.ofNat_toNat

def firstKey : Uuid := Uuid.of 1 2 3 4 5 6

def secondKey : Uuid := Uuid.of 6 5 4 3 2 1

/-- The files the two saves can write. -/
def sampleJson : Json5 UInt16 :=
  Json5.ofTable
    [([("0x010203040506", 10)], "\x7b\"0x010203040506\":10\x7d"),
      ([("0x060504030201", 20)], "\x7b\"0x060504030201\":20\x7d"),
      ([("0x060504030201", 20), ("0x010203040506", 10)],
        "\x7b\"0x060504030201\":20,\"0x010203040506\":10\x7d")]

theorem sampleJson_lossless : sampleJson.Lossless := Json5.ofTable_lossless (by decide) (by decide)

def sampleDelays : HashMap Uuid UInt16 := (AList.singleton firstKey 10).insert secondKey 20

/-- The saves of two devices, without a file at first. -/
def saveRun (es : List DelaySavesEvent) : List (DelaySavesEvent × DelaySaves) :=
  trace (next sampleJson) (init sampleDelays none) es

theorem saveRun_exec (es : List DelaySavesEvent) :
    Exec (Step sampleJson) (init sampleDelays none) (saveRun es) :=
  exec_trace (fun _ _ _ h => h) _ _

def oneByOne : List DelaySavesEvent :=
  [.save firstKey, .act 0 .current, .act 0 (.open {}), .act 0 .create, .act 0 (.write 99),
    .save secondKey, .act 1 .current, .act 1 (.open {}), .act 1 (.read 99), .act 1 (.read 99),
    .act 1 .create, .act 1 (.write 99)]

/-- Both load before either writes. -/
def sideBySide : List DelaySavesEvent :=
  [.save firstKey, .save secondKey, .act 0 .current, .act 1 .current, .act 0 (.open {}), .act 1 (.open {}),
    .act 0 .create, .act 0 (.write 99), .act 1 .create, .act 1 (.write 99)]

theorem delays_kept_oneByOne :
    (saveRun oneByOne).length = 12 ∧
      Always (Kept sampleJson none) (init sampleDelays none) (saveRun oneByOne) :=
  ⟨by decide +kernel,
    delays_kept sampleJson_lossless none sampleDelays (saveRun_exec oneByOne) (by decide +kernel)⟩

/-- The second save writes over the first. -/
theorem delay_lost_sideBySide :
    ¬ ∀ (json5 : Json5 UInt16) (before : ConfigFile) (shotDelays : HashMap Uuid UInt16)
        (tr : List (DelaySavesEvent × DelaySaves)),
      json5.Lossless → Exec (Step json5) (init shotDelays before) tr →
        Always (Kept json5 before) (init shotDelays before) tr := by
  intro hall
  have hkept : Kept sampleJson none (last (init sampleDelays none) (saveRun sideBySide)) :=
    (hall _ _ _ _ sampleJson_lossless (saveRun_exec sideBySide)).last
  have hfirst := hkept (by decide +kernel) firstKey 10 (by decide +kernel)
  exact absurd hfirst (by decide +kernel)

end DelaySaves

end OdysseyHub
