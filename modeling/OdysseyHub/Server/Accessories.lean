import OdysseyHub.Common.Accessory
import OdysseyHub.Lib.Transition

/-!
# Accessory updates (server.rs)

`update_accessory_info_map` saves the map of a client, reads it back, tells the
watchers and merges it into `accessory_map`, keeping the connected flags.  The merge
inserts and never removes, so a call takes effect exactly when no key is to go
(`updates_takeEffect_iff`).
-/

namespace OdysseyHub

open Transition

/-- What the server keeps of the accessories: `accessory_map.json`, the value of the
`accessory_info` watch channel and `accessory_map`. -/
structure Accessories where
  file : ConfigFile
  info : AccessoryInfoMap
  map : AccessoryMap

/-- What a call is answered: the save fails, or not, and the reload finds what it finds. -/
structure UpdateAnswers where
  saveError : Option String := none
  reload : LoadAnswers := {}
  deriving DecidableEq, Repr

namespace Accessories

/-- The merge of one entry: the info is taken, the flag kept. -/
def keepFlag (old : Option (AccessoryInfo × Bool)) (info : AccessoryInfo) : AccessoryInfo × Bool :=
  (info, (old.map (·.2)).getD false)

/-- `accessory_map_snapshot()`, what `get_accessory_map` returns. -/
def snapshot (s : Accessories) : AccessoryMap := s.map

section
variable (json5 : Json5 AccessoryInfo)

/-- `accessory_map_save_async` -/
def save (incoming : AccessoryInfoMap) (a : UpdateAnswers) : Except String ConfigFile :=
  match a.saveError with
  | some e => .error e
  | none => (Config.contents json5 incoming).map fun text => some text.toUTF8.data.toList

/-- `update_accessory_info_map`, with the map it broadcasts; `none` is a panic. -/
def updateAccessoryInfoMap (s : Accessories) (incoming : AccessoryInfoMap) (a : UpdateAnswers) :
    Option (Except String (Accessories × AccessoryMap)) :=
  match save json5 incoming a with
  | .error e => some (.error s!"failed to save accessory info map: {e}")
  | .ok file => do
    let freshResult ← accessoryMapAsync json5 file a.reload
    let fresh := if freshResult.isCorrupted then incoming else freshResult.intoValue ∅
    let s' : Accessories := { file := file, info := fresh, map := s.map.merge keepFlag fresh }
    some (.ok (s', s'.snapshot))

/-- A call that succeeds. -/
def Step (s : Accessories) (l : AccessoryInfoMap × UpdateAnswers) (s' : Accessories) : Prop :=
  ∃ sent, s.updateAccessoryInfoMap json5 l.1 l.2 = some (.ok (s', sent))

/-- `Step` as a function. -/
def next (s : Accessories) (l : AccessoryInfoMap × UpdateAnswers) : Option Accessories :=
  match s.updateAccessoryInfoMap json5 l.1 l.2 with
  | some (.ok (s', _)) => some s'
  | _ => none

theorem step_of_next (s : Accessories) (l : AccessoryInfoMap × UpdateAnswers) (s' : Accessories)
    (h : next json5 s l = some s') : Step json5 s l s' := by
  unfold next at h
  split at h
  · next s'' sent hs =>
    cases h
    exact ⟨sent, hs⟩
  · cases h

/-! ## What a call does -/

/-- The reload looks for the file in vain. -/
def UpdateAnswers.missed (a : UpdateAnswers) : Bool := a.reload.configDir.isNone || !a.reload.existsOk

/-- `after` has the keys and infos of `saved`, and the flags of `before`. -/
structure Reflects (saved : AccessoryInfoMap) (before after : AccessoryMap) : Prop where
  keys : ∀ k, k ∈ after ↔ k ∈ saved
  infos : ∀ k info c, after.lookup k = some (info, c) → saved.lookup k = some info
  connected : ∀ k info c info' c', before.lookup k = some (info, c) →
    after.lookup k = some (info', c') → c' = c

/-- A call that succeeds leaves the saved map in `accessory_map`, and broadcasts it. -/
def TakesEffect (s : Accessories) (l : AccessoryInfoMap × UpdateAnswers) : Prop :=
  ∀ s' sent, s.updateAccessoryInfoMap json5 l.1 l.2 = some (.ok (s', sent)) →
    Reflects l.1 s.map s'.snapshot ∧ Reflects l.1 s.map sent

end

/-- The call removes no key; where the reload misses the file, it changes none either. -/
def NothingRemoved (s : Accessories) (l : AccessoryInfoMap × UpdateAnswers) : Prop :=
  (∀ k ∈ s.map, k ∈ l.1) ∧
    (UpdateAnswers.missed l.2 = true →
      ∀ k info, l.1.lookup k = some info → ∃ c, s.map.lookup k = some (info, c))

section
variable {json5 : Json5 AccessoryInfo} {s s' : Accessories} {incoming : AccessoryInfoMap}
  {a : UpdateAnswers} {sent : AccessoryMap}

theorem save_ok {file : ConfigFile} (h : save json5 incoming a = .ok file) :
    ∃ text, Config.contents json5 incoming = .ok text ∧ file = some text.toUTF8.data.toList := by
  unfold save at h
  split at h
  · cases h
  · cases htext : Config.contents json5 incoming with
    | error e =>
      rw [htext] at h
      cases h
    | ok text =>
      rw [htext] at h
      cases h
      exact ⟨text, rfl, rfl⟩

/-- The reload of a file just saved gives the saved map, unless it misses the file. -/
theorem reload_saved (hj : json5.Lossless) {text : String}
    (htext : Config.contents json5 incoming = .ok text) {r : ConfigLoadResult AccessoryInfoMap}
    (h : accessoryMapAsync json5 (some text.toUTF8.data.toList) a.reload = some r) :
    (UpdateAnswers.missed a = true ∧ (if r.isCorrupted then incoming else r.intoValue ∅) = ∅) ∨
      (UpdateAnswers.missed a = false ∧
        ∀ k, (if r.isCorrupted then incoming else r.intoValue ∅).lookup k = incoming.lookup k) := by
  unfold accessoryMapAsync at h
  cases hdir : a.reload.configDir with
  | none =>
    left
    simp only [Config.load, hdir] at h
    cases h
    exact ⟨by simp [UpdateAnswers.missed, hdir], rfl⟩
  | some dir =>
    cases hexists : a.reload.existsOk with
    | false =>
      left
      simp only [Config.load, hdir, hexists] at h
      cases h
      exact ⟨by simp [UpdateAnswers.missed, hexists], rfl⟩
    | true =>
      right
      refine ⟨by simp [UpdateAnswers.missed, hdir, hexists], fun k => ?_⟩
      cases hread : a.reload.readError with
      | some e =>
        simp only [Config.load, hdir, hexists, hread] at h
        cases h
        rfl
      | none =>
        obtain ⟨m', hm', hlookup⟩ :=
          Config.load_contents hj incoming htext "accessory_map.json" dir hdir hexists hread
        rw [hm'] at h
        cases h
        exact hlookup k

/-- **What a successful call does**: it merges the saved map, or nothing if the reload
misses the file. -/
theorem update_cases (hj : json5.Lossless)
    (h : s.updateAccessoryInfoMap json5 incoming a = some (.ok (s', sent))) :
    ∃ fresh, s'.map = s.map.merge keepFlag fresh ∧ sent = s'.map ∧
      ((UpdateAnswers.missed a = true ∧ fresh = ∅) ∨
        (UpdateAnswers.missed a = false ∧ ∀ k, fresh.lookup k = incoming.lookup k)) := by
  unfold updateAccessoryInfoMap at h
  split at h
  · cases h
  · next file hsave =>
    obtain ⟨freshResult, hload, hs⟩ := Option.bind_eq_some_iff.mp h
    cases hs
    obtain ⟨text, htext, rfl⟩ := save_ok hsave
    exact ⟨_, rfl, rfl, reload_saved hj htext hload⟩

theorem lookup_keepFlag (m : AccessoryMap) (fresh : AccessoryInfoMap) (k : Uuid) :
    (m.merge keepFlag fresh).lookup k =
      ((fresh.lookup k).map (keepFlag (m.lookup k))).or (m.lookup k) :=
  HashMap.lookup_merge keepFlag m fresh k

/-- The flag of a key that was there is kept, whatever is merged. -/
theorem merge_connected {m : AccessoryMap} {fresh : AccessoryInfoMap} {k : Uuid} {info info' : AccessoryInfo}
    {c c' : Bool} (h : m.lookup k = some (info, c))
    (h' : (m.merge keepFlag fresh).lookup k = some (info', c')) : c' = c := by
  rw [lookup_keepFlag, h] at h'
  cases hf : fresh.lookup k with
  | none =>
    rw [hf] at h'
    cases h'
    rfl
  | some i =>
    rw [hf] at h'
    cases h'
    rfl

/-- A merge of the whole saved map reflects it if no key is to go. -/
theorem reflects_merge_iff {m : AccessoryMap} {fresh saved : AccessoryInfoMap}
    (hfresh : ∀ k, fresh.lookup k = saved.lookup k) :
    Reflects saved m (m.merge keepFlag fresh) ↔ ∀ k ∈ m, k ∈ saved := by
  constructor
  · intro h k hk
    rw [← h.keys, ← AList.lookup_isSome, lookup_keepFlag]
    rw [← AList.lookup_isSome] at hk
    simp [hk]
  · intro h
    refine ⟨fun k => ?_, fun k info c hk => ?_, fun k info c info' c' => merge_connected⟩
    · rw [← AList.lookup_isSome, lookup_keepFlag, hfresh, Option.isSome_or, Option.isSome_map,
        Bool.or_eq_true, AList.lookup_isSome, AList.lookup_isSome]
      exact ⟨fun hk => hk.elim id (h k), .inl⟩
    · rw [lookup_keepFlag, hfresh] at hk
      cases hs : saved.lookup k with
      | some i =>
        rw [hs] at hk
        cases hk
        rfl
      | none =>
        rw [hs] at hk
        have hmem : k ∈ m := (m.mem_iff_lookup k).mpr ⟨_, hk⟩
        exact absurd (h k hmem) (AList.lookup_eq_none.mp hs)

/-- A merge of nothing reflects the saved map if that changes nothing. -/
theorem reflects_self_iff {m : AccessoryMap} {saved : AccessoryInfoMap} :
    Reflects saved m (m.merge keepFlag ∅) ↔
      (∀ k ∈ m, k ∈ saved) ∧ ∀ k info, saved.lookup k = some info → ∃ c, m.lookup k = some (info, c) := by
  have hself : ∀ k, (m.merge keepFlag ∅).lookup k = m.lookup k := fun k => by
    rw [lookup_keepFlag]
    rfl
  constructor
  · intro h
    have hkeys : ∀ k, k ∈ m ↔ k ∈ saved := fun k => by
      rw [← h.keys, ← AList.lookup_isSome, ← AList.lookup_isSome, hself]
    refine ⟨fun k hk => (hkeys k).mp hk, fun k info hk => ?_⟩
    obtain ⟨⟨info', c⟩, hm⟩ := (m.mem_iff_lookup k).mp
      ((hkeys k).mpr ((saved.mem_iff_lookup k).mpr ⟨info, hk⟩))
    have hi := h.infos k info' c ((hself k).trans hm)
    rw [hk] at hi
    cases hi
    exact ⟨c, hm⟩
  · rintro ⟨hkeys, hinfos⟩
    refine ⟨fun k => ?_, fun k info c hk => ?_, fun k info c info' c' => merge_connected⟩
    · rw [← AList.lookup_isSome, hself, AList.lookup_isSome]
      refine ⟨hkeys k, fun hk => ?_⟩
      obtain ⟨info, hi⟩ := (saved.mem_iff_lookup k).mp hk
      obtain ⟨c, hc⟩ := hinfos k info hi
      exact (m.mem_iff_lookup k).mpr ⟨_, hc⟩
    · rw [hself] at hk
      obtain ⟨info', hi⟩ := (saved.mem_iff_lookup k).mp (hkeys k ((m.mem_iff_lookup k).mpr ⟨_, hk⟩))
      obtain ⟨c', hc⟩ := hinfos k info' hi
      rw [hk] at hc
      cases hc
      exact hi

/-- One successful call takes effect exactly when it removes nothing. -/
theorem takesEffect_iff (hj : json5.Lossless) {l : AccessoryInfoMap × UpdateAnswers}
    (hstep : Step json5 s l s') : TakesEffect json5 s l ↔ NothingRemoved s l := by
  obtain ⟨sent, h⟩ := hstep
  have hdet : TakesEffect json5 s l ↔ Reflects l.1 s.map s'.map := by
    obtain ⟨fresh, -, hsent, -⟩ := update_cases hj h
    constructor
    · intro ht
      exact (ht s' sent h).1
    · intro hr t sent' ht
      rw [h] at ht
      cases ht
      exact ⟨hr, hsent ▸ hr⟩
  rw [hdet]
  obtain ⟨fresh, hmap, -, ⟨hmissed, rfl⟩ | ⟨hmissed, hfresh⟩⟩ := update_cases hj h
  · rw [hmap, reflects_self_iff, NothingRemoved]
    simp only [hmissed, forall_const]
  · rw [hmap, reflects_merge_iff hfresh, NothingRemoved]
    simp [hmissed]

/-- **Updates.**  In a sequence of successful calls every call takes effect exactly when none
removes a key. -/
theorem updates_takeEffect_iff (hj : json5.Lossless)
    {tr : List ((AccessoryInfoMap × UpdateAnswers) × Accessories)} (hrun : Exec (Step json5) s tr) :
    StepsOk (TakesEffect json5) s tr ↔ StepsOk NothingRemoved s tr :=
  hrun.stepsOk_iff fun _ _ _ h => takesEffect_iff hj h

end

/-! ## Adding and removing an accessory -/

def sampleMag : AccessoryInfo :=
  { name := "mag", ty := .dryFireMag, assignment := none, features := {.impact} }

def sampleKey : Uuid := Uuid.of 1 2 3 4 5 6

/-- The files of the two calls below. -/
def sampleJson : Json5 AccessoryInfo :=
  Json5.ofTable
    [([], "\x7b\x7d"),
      ([("0x010203040506", sampleMag)],
        "\x7b\"0x010203040506\":\x7b\"name\":\"mag\",\"ty\":\"DryFireMag\",\"assignment\":null,\"features\":[\"impact\"]\x7d\x7d")]

theorem sampleJson_lossless : sampleJson.Lossless := Json5.ofTable_lossless (by decide) (by decide)

def noAccessories : Accessories := { file := none, info := ∅, map := ∅ }

/-- The accessory is added, and then removed. -/
def addThenRemove : List ((AccessoryInfoMap × UpdateAnswers) × Accessories) :=
  trace (next sampleJson) noAccessories [(AList.singleton sampleKey sampleMag, {}), (∅, {})]

theorem updates_takeEffect_iff_addThenRemove :
    addThenRemove.length = 2 ∧ (StepsOk (TakesEffect sampleJson) noAccessories addThenRemove ↔
      StepsOk NothingRemoved noAccessories addThenRemove) :=
  ⟨by decide +kernel,
    updates_takeEffect_iff sampleJson_lossless (exec_trace (step_of_next sampleJson) _ _)⟩

/-- The removed accessory stays in `accessory_map`. -/
theorem removed_accessory_stays :
    ¬ ∀ (json5 : Json5 AccessoryInfo) (s : Accessories)
        (tr : List ((AccessoryInfoMap × UpdateAnswers) × Accessories)),
      json5.Lossless → Exec (Step json5) s tr → StepsOk (TakesEffect json5) s tr := by
  intro hall
  have hrun : Exec (Step sampleJson) noAccessories addThenRemove :=
    exec_trace (step_of_next sampleJson) _ _
  have hok := (hrun.stepsOk_iff fun _ _ _ h => takesEffect_iff sampleJson_lossless h).mp
    (hall _ _ _ sampleJson_lossless hrun)
  exact absurd (hok.2.1.1 sampleKey (by decide +kernel)) (by decide +kernel)

end Accessories

end OdysseyHub
