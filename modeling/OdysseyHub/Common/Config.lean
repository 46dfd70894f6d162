import OdysseyHub.Common.Device
import OdysseyHub.Common.HexKeyMap
import Mathlib.Logic.Encodable.Basic
import Mathlib.Logic.Equiv.List

/-!
# Configuration files (odyssey_hub_common::config)

The two files that hold a map from UUIDs: `device_shot_delays.json` and
`accessory_map.json`.  A file is its bytes, or nothing while it does not exist.  What
the operating system answers is an input of each operation; json5 is a parameter, at
the entries `HexKeyMapN` hands it.
-/

namespace OdysseyHub

inductive ConfigLoadResult (T : Type)
  | success (value : T)
  | corruptedUsingDefault (path error : String)
  | notFoundUsingDefault

namespace ConfigLoadResult

variable {T : Type}

/-- `into_value()`; `default` is `T::default()`. -/
def intoValue (default : T) : ConfigLoadResult T → T
  | .success value => value
  | .corruptedUsingDefault _ _ => default
  | .notFoundUsingDefault => default

def isCorrupted : ConfigLoadResult T → Bool
  | .corruptedUsingDefault _ _ => true
  | _ => false

end ConfigLoadResult

/-- What `next_entry` hands out of a text: entries, until the end or an error. -/
structure MapText (V : Type) where
  entries : List (String × V)
  error : Option String := none

/-- `json5::to_string` and `json5::from_str` at a map from strings to `V`, as its entries. -/
structure Json5 (V : Type) where
  toString : List (String × V) → Except String String
  fromStr : String → MapText V

/-- What json5 promises: entries are written, and are read back in order. -/
def Json5.Lossless {V : Type} (json5 : Json5 V) : Prop :=
  ∀ entries, ∃ text, json5.toString entries = .ok text ∧ json5.fromStr text = ⟨entries, none⟩

/-- The bytes of a file, or `none` without one. -/
abbrev ConfigFile := Option (List UInt8)

/-- What a load is answered: the config directory, `try_exists` and `read_to_string`. -/
structure LoadAnswers where
  configDir : Option String := some ""
  existsOk : Bool := true
  readError : Option String := none
  deriving DecidableEq, Repr

namespace Config

section
variable {V : Type} (json5 : Json5 V)

/-- `json5::from_str::<HexKeyMapN<V, 6>>`; `none` is a panic. -/
def parse (path text : String) : Option (ConfigLoadResult (HashMap Uuid V)) :=
  let read := json5.fromStr text
  -- a key is decoded before the next entry is read
  (HexKeyMapN.deserialize read.entries).map fun r =>
    match r, read.error with
    | .ok m, none => .success m
    | .ok _, some e => .corruptedUsingDefault path e
    | .error e, _ => .corruptedUsingDefault path e

/-- What the loads of the two files share. -/
def load (name : String) (file : ConfigFile) (a : LoadAnswers) :
    Option (ConfigLoadResult (HashMap Uuid V)) :=
  match a.configDir, a.existsOk, file with
  | some dir, true, some bytes =>
    let path := s!"{dir}/{name}"
    match a.readError with
    | some e => some (.corruptedUsingDefault path e)
    | none =>
      match String.fromUTF8? bytes.toByteArray with
      | none => some (.corruptedUsingDefault path "stream did not contain valid UTF-8")
      | some text => parse json5 path text
  | _, _, _ => some .notFoundUsingDefault

/-- The text of a map. -/
def contents (m : HashMap Uuid V) : Except String String := json5.toString (HexKeyMapN.serialize m)

end

def deviceShotDelaysAsync (json5 : Json5 UInt16) (file : ConfigFile) (a : LoadAnswers) :
    Option (ConfigLoadResult (HashMap Uuid UInt16)) :=
  load json5 "device_shot_delays.json" file a

/-! ## Reading back what was written -/

theorem toByteArray_toList (bytes : ByteArray) : bytes.data.toList.toByteArray = bytes := by
  ext1
  rw [List.data_toByteArray, Array.toArray_toList]

theorem fromUTF8_toUTF8 (s : String) : String.fromUTF8? s.toUTF8 = some s := by
  have hv : s.toUTF8.IsValidUTF8 := s.isValidUTF8
  rw [String.fromUTF8?, dif_pos hv]
  rfl

section
variable {V : Type} {json5 : Json5 V}

/-- A parse succeeds on keys that are read and no error behind them, and else reports its file. -/
theorem parse_cases {path text : String} {r : ConfigLoadResult (HashMap Uuid V)} (h : parse json5 path text = some r) :
    (∃ m, HexKeyMapN.deserialize (json5.fromStr text).entries = some (.ok m) ∧ (json5.fromStr text).error = none ∧
        r = .success m) ∨
      ∃ e, ((json5.fromStr text).error.isSome = true ∨
          ∃ e', HexKeyMapN.deserialize (json5.fromStr text).entries =
            some (.error e' : Except String (HashMap Uuid V))) ∧
        r = .corruptedUsingDefault path e := by
  obtain ⟨result, hresult, hr⟩ := Option.map_eq_some_iff.mp h
  cases result with
  | error e => exact .inr ⟨e, .inr ⟨e, hresult⟩, hr.symm⟩
  | ok m =>
    cases herror : (json5.fromStr text).error with
    | none =>
      rw [herror] at hr
      exact .inl ⟨m, hresult, rfl, hr.symm⟩
    | some e =>
      rw [herror] at hr
      exact .inr ⟨e, .inl rfl, hr.symm⟩

/-- A map that was written as a whole is read back, if nothing fails. -/
theorem load_contents (hj : json5.Lossless) (m : HashMap Uuid V) {text : String}
    (ht : contents json5 m = .ok text) (name dir : String) {a : LoadAnswers}
    (hdir : a.configDir = some dir) (hexists : a.existsOk = true) (hread : a.readError = none) :
    ∃ m', load json5 name (some text.toUTF8.data.toList) a = some (.success m') ∧
      ∀ u, m'.lookup u = m.lookup u := by
  obtain ⟨m', hm', hlookup⟩ := HexKeyMapN.deserialize_serialize m
  obtain ⟨text', hto, hfrom⟩ := hj (HexKeyMapN.serialize m)
  obtain rfl : text' = text := by
    rw [contents, hto] at ht
    exact Except.ok.inj ht
  refine ⟨m', ?_, hlookup⟩
  simp only [load, hdir, hexists, hread, toByteArray_toList, fromUTF8_toUTF8, parse, hfrom, hm',
    Option.map_some]

/-- … and the load does not panic on it, whatever fails. -/
theorem load_contents_answers (hj : json5.Lossless) (m : HashMap Uuid V) {text : String}
    (ht : contents json5 m = .ok text) (name : String) (a : LoadAnswers) :
    ∃ r, load json5 name (some text.toUTF8.data.toList) a = some r := by
  cases hdir : a.configDir with
  | none => exact ⟨.notFoundUsingDefault, by simp only [load, hdir]⟩
  | some dir =>
    cases hexists : a.existsOk with
    | false => exact ⟨.notFoundUsingDefault, by simp only [load, hdir, hexists]⟩
    | true =>
      cases hread : a.readError with
      | some e =>
        simp only [load, hdir, hexists, hread]
        exact ⟨_, rfl⟩
      | none =>
        obtain ⟨m', hm', -⟩ := load_contents hj m ht name dir hdir hexists hread
        exact ⟨.success m', hm'⟩

/-- A load that succeeds does not depend on the answers. -/
theorem load_of_success {name : String} {file : ConfigFile} {a b : LoadAnswers} {m : HashMap Uuid V}
    (h : load json5 name file a = some (.success m)) {dir : String} (hdir : b.configDir = some dir)
    (hexists : b.existsOk = true) (hread : b.readError = none) :
    load json5 name file b = some (.success m) := by
  unfold load at h
  split at h
  · next bytes _ _ =>
    dsimp only at h
    split at h
    · cases h
    · split at h
      · cases h
      · next text htext =>
        simp only [load, hdir, hexists, hread, htext]
        rcases parse_cases h with ⟨m', hm', herror, hs⟩ | ⟨e, -, hs⟩
        · cases hs
          simp only [parse, hm', herror, Option.map_some]
        · cases hs
  · cases h

/-- Without a file there is nothing to load. -/
theorem load_none (name : String) (a : LoadAnswers) : load json5 name none a = some .notFoundUsingDefault := by
  unfold load
  split
  · next h => cases h
  · rfl

end

end Config

/-! ## A codec for samples -/

namespace Json5

variable {V : Type} [Encodable V]

/-- Entries as numbers. -/
def code (entries : List (String × V)) : Nat :=
  Encodable.encode (entries.map fun e => (e.1.toList.map Char.toNat, e.2))

def decode (n : Nat) : Option (List (String × V)) :=
  (Encodable.decode n : Option (List (List Nat × V))).map fun entries =>
    entries.map fun e => (String.ofList (e.1.map Char.ofNat), e.2)

theorem decode_code (entries : List (String × V)) : decode (code entries) = some entries := by
  simp [decode, code, Function.comp_def]

variable [DecidableEq V]

/-- The texts of a table for its entries, and for any others their number in unary. -/
def ofTable (table : List (List (String × V) × String)) : Json5 V where
  toString entries :=
    match table.find? fun e => decide (e.1 = entries) with
    | some e => .ok e.2
    | none => .ok (String.ofList (List.replicate (code entries) '1'))
  fromStr text :=
    match table.find? fun e => decide (e.2 = text) with
    | some e => ⟨e.1, none⟩
    | none =>
      match decode text.toList.length with
      | some entries => ⟨entries, none⟩
      | none => ⟨[], some "expected an object"⟩

/-- The table must give distinct texts, all of them objects. -/
theorem ofTable_lossless {table : List (List (String × V) × String)}
    (hdistinct : ∀ e ∈ table, table.find? (fun e' => decide (e'.2 = e.2)) = some e)
    (hobject : ∀ e ∈ table, e.2.toList.head? = some '{') : (ofTable table).Lossless := by
  intro entries
  unfold ofTable
  dsimp only
  cases hfind : table.find? fun e => decide (e.1 = entries) with
  | some e =>
    obtain rfl : e.1 = entries := by simpa using List.find?_some hfind
    refine ⟨e.2, rfl, ?_⟩
    rw [hdistinct e (List.mem_of_find?_eq_some hfind)]
  | none =>
    refine ⟨_, rfl, ?_⟩
    have hnone : table.find? (fun e => decide (e.2 = String.ofList (List.replicate (code entries) '1')))
        = none := by
      rw [List.find?_eq_none]
      intro e he htext
      have hhead := hobject e he
      have htext' : e.2 = String.ofList (List.replicate (code entries) '1') := by simpa using htext
      rw [htext', String.toList_ofList, List.head?_replicate] at hhead
      split at hhead
      · cases hhead
      · cases hhead
    rw [hnone, String.toList_ofList, List.length_replicate, decode_code]

end Json5

end OdysseyHub
