import OdysseyHub.Server.MessageChannel
import OdysseyHub.Server.ShotDelaySave

/-!
# Saved zero offsets (device_tasks.rs, odyssey_hub_common::config)

The handlers share the map `device_offsets`.  `SaveZero` writes it to
`device_offsets.json` under its lock, the other three commands change the map alone, and
`SaveZero` and `ClearZero` both end in `SaveZeroResult(true)`.  The system here is the
server with the map, the file and the one save that can be writing it.

A report is untrue when its save failed, when `ClearZero` leaves the entry in the file,
or when somebody writes in between:

    StepsOk (Sound json5) … tr → StepsOk (Truthful json5) … tr      (saveZeroResult_truthful)
-/

namespace OdysseyHub

open Slots Transition

/-! ## The file -/

namespace Config

def deviceOffsetsAsync (json5 : Json5 Isometry) (file : ConfigFile) (a : LoadAnswers) :
    Option (ConfigLoadResult (HashMap Uuid Isometry)) :=
  load json5 "device_offsets.json" file a

end Config

/-- A call of `device_offsets_save_async` that has opened the file. -/
structure OffsetsSave where
  handler : HandlerId
  text : List UInt8
  written : Nat

structure OffsetSaves where
  sys : Sys
  /-- `device_offsets` -/
  offsets : HashMap Uuid Isometry
  file : ConfigFile
  /-- the save that is writing; it holds the lock of `device_offsets` -/
  save : Option OffsetsSave

inductive OffsetEvent
  | sys (e : Event)
  /-- the save of a handler opens the file, which truncates -/
  | create (h : HandlerId)
  | write (n : Nat)

/-- The device a handler reports as saved by the next thing it does. -/
def reported : List Effect → Option Device
  | .event d (.saveZeroResult true) :: _ => some d
  | _ => none

namespace OffsetSaves

/-- The server has loaded the file. -/
def start (json5 : Json5 Isometry) (file : ConfigFile) (a : LoadAnswers) : Option OffsetSaves :=
  (Config.deviceOffsetsAsync json5 file a).map fun r =>
    { sys := Sys.init, offsets := r.intoValue ∅, file := file, save := none }

def todo (s : OffsetSaves) (h : HandlerId) : List Effect := ((s.sys.handlers[h]?).map (·.todo)).getD []

/-- What the next effect of handler `h` does to the map and the lock. -/
def perform (s : OffsetSaves) (h : HandlerId) : Option OffsetSaves :=
  match s.todo h, s.save with
  | .offsetInsert u iso :: _, none => some { s with offsets := s.offsets.insert u iso }
  | .offsetRemove u :: _, none => some { s with offsets := s.offsets.erase u }
  | .offsetInsert _ _ :: _, some _ | .offsetRemove _ :: _, some _ => none
  | .offsetsSave (.ok _) :: _, some c =>
    if c.handler = h ∧ c.text.length ≤ c.written then some { s with save := none } else none
  | .offsetsSave (.ok _) :: _, none => none
  | .offsetsSave (.error _) :: _, some c => if c.handler = h then some { s with save := none } else none
  -- no directory, no text, or the file does not open
  | .offsetsSave (.error _) :: _, none => some s
  | _, _ => some s

section
variable (json5 : Json5 Isometry)

def next (s : OffsetSaves) : OffsetEvent → Option OffsetSaves
  | .sys (.handler h .perform) => do
    let sys' ← s.sys.step (.handler h .perform)
    let s' ← s.perform h
    some { s' with sys := sys' }
  | .sys e => (s.sys.step e).map fun sys' => { s with sys := sys' }
  | .create h =>
    match s.todo h, s.save with
    | .offsetsSave _ :: _, none =>
      match Config.contents json5 s.offsets with
      | .ok text => some { s with file := some [], save := some ⟨h, text.toUTF8.data.toList, 0⟩ }
      | .error _ => none
    | _, _ => none
  | .write n =>
    s.save.map fun c =>
      let chunk := (c.text.drop c.written).take n
      { s with
        file := s.file.writeAt c.written chunk
        save := some { c with written := c.written + chunk.length } }

def Step (s : OffsetSaves) (e : OffsetEvent) (s' : OffsetSaves) : Prop := next json5 s e = some s'

/-- What reloading the file gives for a device; `none` is a panic. -/
def reloaded (file : ConfigFile) (u : Uuid) : Option (Option Isometry) :=
  (Config.deviceOffsetsAsync json5 file {}).map fun r => (r.intoValue ∅).lookup u

/-- Reloading the file gives the offset in memory, or none if there is none. -/
def Synced (s : OffsetSaves) (u : Uuid) : Prop := reloaded json5 s.file u = some (s.offsets.lookup u)

instance (s : OffsetSaves) (u : Uuid) : Decidable (s.Synced json5 u) :=
  inferInstanceAs (Decidable (_ = _))

/-- An event that emits `SaveZeroResult(true)` finds the offset of the device in the file. -/
def Truthful (s : OffsetSaves) : OffsetEvent → Prop
  | .sys (.handler h .perform) => ∀ d ∈ reported (s.todo h), s.Synced json5 d.uuid
  | _ => True

/-- The devices that handlers are about to report as saved. -/
def reporting (s : OffsetSaves) : List Uuid :=
  s.sys.handlers.filterMap fun t => (reported t.todo).map (·.uuid)

/-- A save that fails leaves a file that is right for every device about to be reported, its
own first; an offset that changes when its device is about to be reported, as by
`ClearZero`, changes to what the file has; and nothing is reported while a save is writing. -/
def Sound (s : OffsetSaves) : OffsetEvent → Prop
  | .sys (.handler h .perform) =>
    match s.todo h with
    | .offsetsSave (.error _) :: rest =>
      ∀ u ∈ ((reported rest).map (·.uuid)).toList ++ s.reporting, s.Synced json5 u
    | .offsetInsert u iso :: _ => u ∈ s.reporting → reloaded json5 s.file u = some (some iso)
    | .offsetRemove u :: rest =>
      u ∈ ((reported rest).map (·.uuid)).toList ++ s.reporting → reloaded json5 s.file u = some none
    | .event _ (.saveZeroResult true) :: _ => s.save = none
    | _ => True
  | _ => True

instance (s : OffsetSaves) (e : OffsetEvent) : Decidable (Truthful json5 s e) := by
  unfold Truthful
  split <;> infer_instance

instance (s : OffsetSaves) (e : OffsetEvent) : Decidable (Sound json5 s e) := by
  unfold Sound
  split
  · split
    · exact List.decidableBAll _ _
    all_goals infer_instance
  · infer_instance

end

end OffsetSaves

/-! ## What a handler has to do around a report -/

/-- The effect reports a save. -/
def Effect.isReport : Effect → Bool
  | .event _ (.saveZeroResult true) => true
  | _ => false

/-- What a turn has to do: a report comes last, behind a save or the removal of the offset. -/
inductive SaveTurn : List Effect → Prop
  | quiet {todo : List Effect} : (∀ e ∈ todo, e.isReport = false) → SaveTurn todo
  | saved (r : Except String Unit) (d : Device) :
      SaveTurn [.offsetsSave r, .event d (.saveZeroResult true)]
  | cleared (d : Device) : SaveTurn [.offsetRemove d.uuid, .event d (.saveZeroResult true)]

/-- What a handler has still to do of a turn. -/
inductive SaveOrder (todo : List Effect) : Prop
  | turn (h : SaveTurn todo)
  | report (d : Device) (h : todo = [.event d (.saveZeroResult true)])

theorem reported_quiet {todo : List Effect} (h : ∀ e ∈ todo, e.isReport = false) : reported todo = none := by
  unfold reported
  split
  · exact absurd (h _ List.mem_cons_self) Bool.false_ne_true.symm
  · rfl

theorem SaveTurn.reported {todo : List Effect} (h : SaveTurn todo) : reported todo = none := by
  cases h with
  | quiet h => exact reported_quiet h
  | saved r d => rfl
  | cleared d => rfl

theorem saveOrder_nil : SaveOrder [] := .turn (.quiet (by simp))

theorem SaveOrder.tail {e : Effect} {rest : List Effect} (h : SaveOrder (e :: rest)) : SaveOrder rest := by
  obtain h | ⟨d, h⟩ := h
  · cases h with
    | quiet h => exact .turn (.quiet fun e' he' => h e' (List.mem_cons_of_mem _ he'))
    | saved r d => exact .report d rfl
    | cleared d => exact .report d rfl
  · cases h
    exact saveOrder_nil

namespace Handler

variable {h : Handler} {a : Answers}

theorem noReport_of_isLocal {e : Effect} (he : isLocal e = true) : e.isReport = false := by
  unfold Effect.isReport
  split
  · cases he
  · rfl

theorem start_saveTurn : SaveTurn (h.start a).effects :=
  .quiet fun e he => noReport_of_isLocal (start_local h a e he)

/-- Only `SaveZero` and `ClearZero` report. -/
theorem turn_saveTurn {arm : Arm} {o : Outcome} (ht : h.turn arm a = some o) : SaveTurn o.effects := by
  by_cases hs : arm = .control .saveZero
  · subst hs
    cases ht
    exact .saved a.saveOffsets h.device
  · by_cases hc : arm = .control .clearZero
    · subst hc
      cases ht
      exact .cleared h.device
    · refine .quiet fun e he => ?_
      cases turn_emits ht e he with
      | own hl => exact noReport_of_isLocal hl
      | saved => exact absurd rfl hs
      | cleared => exact absurd rfl hc
      | message | direct => rfl

end Handler

/-! ## The handlers of the server -/

namespace Sys

variable {s s' : Sys}

/-- What a handler has to do after a step is still in order, and it is about to report only
what it was about to report before, or behind the effect it has just carried out. -/
theorem step_todo (I : s.Inv) (hord : ∀ t ∈ s.handlers, SaveOrder t.todo) {e : Event} (h : s.Step e s')
    {k : HandlerId} {t' : HandlerTask} (ht' : s'.handlers[k]? = some t') :
    SaveOrder t'.todo ∧
      (reported t'.todo = none ∨ ∃ t, s.handlers[k]? = some t ∧
        (t'.todo = t.todo ∨ e = .handler k .perform ∧ t'.todo = t.todo.tail)) := by
  obtain ⟨-, -, R, hcore, hquiet⟩ := I.simulates h
  have htR : R.tasks[k]? = some t' := by
    rw [← hquiet.tasks]
    exact ht'
  obtain ⟨t, ht, hm⟩ | ⟨c, hop, -⟩ := hcore.moved htR
  · have hold : SaveOrder t.todo := hord t (List.mem_of_getElem? ht)
    cases hm with
    | same => exact ⟨hold, .inr ⟨_, ht, .inl rfl⟩⟩
    | received _ =>
      rw [HandlerTask.receive_todo]
      exact ⟨hold, .inr ⟨_, ht, .inl rfl⟩⟩
    | worked hop hn =>
      have hturn : ∀ {todo}, SaveTurn todo → SaveOrder todo ∧ reported todo = none :=
        fun ho => ⟨.turn ho, ho.reported⟩
      obtain ⟨ms, a, -, -, rfl⟩ | ⟨a, m, q, o, -, -, -, -, ho, rfl⟩ |
        ⟨arm, a, o, -, -, -, -, -, -, ho, rfl⟩ | ⟨eff, rest, rfl, htd, rfl⟩ | ⟨-, -, -, rfl⟩ :=
          HandlerTask.next_cases hn
      · exact (hturn Handler.start_saveTurn).imp id .inl
      · exact (hturn (Handler.turn_saveTurn ho)).imp id .inl
      · exact (hturn (Handler.turn_saveTurn ho)).imp id .inl
      · refine ⟨?_, .inr ⟨t, ht, .inr ⟨op_work hop, ?_⟩⟩⟩
        · rw [htd] at hold
          exact hold.tail
        · rw [htd]
          rfl
      · exact ⟨hold, .inr ⟨t, ht, .inl rfl⟩⟩
  · rw [op_spawn hop]
    exact ⟨saveOrder_nil, .inl rfl⟩

end Sys

namespace OffsetSaves

section
variable {json5 : Json5 Isometry} {s s' : OffsetSaves} {h : HandlerId}

theorem todo_of {t : HandlerTask} (ht : s.sys.handlers[h]? = some t) : s.todo h = t.todo := by
  rw [todo, ht]
  rfl

theorem mem_reporting {u : Uuid} :
    u ∈ s.reporting ↔
      ∃ (k : HandlerId) (t : HandlerTask), s.sys.handlers[k]? = some t ∧
        (reported t.todo).map (·.uuid) = some u := by
  rw [reporting, List.mem_filterMap]
  constructor
  · rintro ⟨t, ht, hu⟩
    obtain ⟨k, hk⟩ := List.mem_iff_getElem?.mp ht
    exact ⟨k, t, hk, hu⟩
  · rintro ⟨k, t, hk, hu⟩
    exact ⟨t, List.mem_of_getElem? hk, hu⟩

/-! ## The effects on the map and the lock -/

inductive Performed (s : OffsetSaves) (h : HandlerId) : OffsetSaves → Prop
  | insert {u : Uuid} {iso : Isometry} {rest : List Effect} :
      s.todo h = .offsetInsert u iso :: rest → s.save = none →
      Performed s h { s with offsets := s.offsets.insert u iso }
  | remove {u : Uuid} {rest : List Effect} : s.todo h = .offsetRemove u :: rest → s.save = none →
      Performed s h { s with offsets := s.offsets.erase u }
  | saved {c : OffsetsSave} : s.save = some c → c.text.length ≤ c.written →
      Performed s h { s with save := none }
  | failed {e : String} {rest : List Effect} : s.todo h = .offsetsSave (.error e) :: rest →
      Performed s h { s with save := none }
  | other : (∀ u rest, s.todo h ≠ .offsetRemove u :: rest) →
      (∀ r rest, s.todo h ≠ .offsetsSave r :: rest) → Performed s h s

theorem perform_cases (hp : s.perform h = some s') : Performed s h s' := by
  unfold perform at hp
  split at hp
  · next u iso rest htd hsv =>
    cases hp
    exact .insert htd hsv
  · next u rest htd hsv =>
    cases hp
    exact .remove htd hsv
  · cases hp
  · cases hp
  · next c htd hsv =>
    split at hp
    · next hc =>
      cases hp
      exact .saved hsv hc.2
    · cases hp
  · cases hp
  · next e rest c htd hsv =>
    split at hp
    · cases hp
      exact .failed htd
    · cases hp
  · next e rest htd hsv =>
    cases hp
    have hs : s = { s with save := none } := by rw [← hsv]
    rw [hs]
    exact .failed htd
  · next _ hrem _ hrem' hok hok' herr herr' =>
    cases hp
    refine .other (fun u rest htd => ?_) fun r rest htd => ?_
    · cases hsv : s.save with
      | none => exact hrem u rest htd hsv
      | some c => exact hrem' u rest c htd hsv
    · cases r with
      | ok x =>
        cases hsv : s.save with
        | none => exact hok' x rest htd hsv
        | some c => exact hok x rest c htd hsv
      | error e =>
        cases hsv : s.save with
        | none => exact herr' e rest htd hsv
        | some c => exact herr e rest c htd hsv

/-! ## The invariant -/

/-- The file holds what the save has written of the map so far. -/
def Writing (json5 : Json5 Isometry) (s : OffsetSaves) (c : OffsetsSave) : Prop :=
  ∃ text, Config.contents json5 s.offsets = .ok text ∧ c.text = text.toUTF8.data.toList ∧
    c.written ≤ c.text.length ∧ s.file = some (c.text.take c.written)

structure Inv (json5 : Json5 Isometry) (s : OffsetSaves) : Prop where
  sys : s.sys.Inv
  order : ∀ t ∈ s.sys.handlers, SaveOrder t.todo
  writing : ∀ c, s.save = some c → Writing json5 s c
  synced : s.save = none → ∀ u ∈ s.reporting, s.Synced json5 u

theorem reloaded_contents (hj : json5.Lossless) {offsets : HashMap Uuid Isometry} {text : String}
    (ht : Config.contents json5 offsets = .ok text) (u : Uuid) :
    reloaded json5 (some text.toUTF8.data.toList) u = some (offsets.lookup u) := by
  obtain ⟨m, hload, hlookup⟩ :=
    Config.load_contents hj offsets ht "device_offsets.json" "" (a := {}) rfl rfl rfl
  rw [reloaded, Config.deviceOffsetsAsync, hload, ← hlookup u]
  rfl

/-- A file that was written as a whole holds the map. -/
theorem synced_of_contents (hj : json5.Lossless) {text : String}
    (ht : Config.contents json5 s.offsets = .ok text) (hfile : s.file = some text.toUTF8.data.toList)
    (u : Uuid) : s.Synced json5 u := by
  rw [Synced, hfile]
  exact reloaded_contents hj ht u

theorem Writing.synced (hj : json5.Lossless) {c : OffsetsSave} (w : Writing json5 s c)
    (hc : c.text.length ≤ c.written) (u : Uuid) : s.Synced json5 u := by
  obtain ⟨text, ht, htext, -, hfile⟩ := w
  refine synced_of_contents hj ht ?_ u
  rw [hfile, List.take_of_length_le hc, htext]

theorem Writing.write {c : OffsetsSave} (w : Writing json5 s c) (n : Nat) :
    let chunk := (c.text.drop c.written).take n
    let c' := { c with written := c.written + chunk.length }
    Writing json5 { s with file := s.file.writeAt c.written chunk, save := some c' } c' := by
  intro chunk c'
  obtain ⟨text, ht, htext, hle, hfile⟩ := w
  have hlen : chunk.length = min n (c.text.length - c.written) := by
    rw [List.length_take, List.length_drop]
  refine ⟨text, ht, htext, ?_, ?_⟩
  · show c.written + chunk.length ≤ c.text.length
    omega
  · show s.file.writeAt c.written chunk = some (c.text.take (c.written + chunk.length))
    rw [hfile, ConfigFile.writeAt_take hle n, hlen]
    congr 1
    rcases Nat.le_total n (c.text.length - c.written) with hn | hn
    · rw [Nat.min_eq_left hn]
    · rw [Nat.min_eq_right hn, List.take_of_length_le (by omega), List.take_of_length_le (by omega)]

/-- The next report of a handler is behind a save, or behind the removal of the offset of the
device it reports. -/
theorem report_behind {u : Uuid} (hord : SaveOrder (s.todo h))
    (hu : (reported (s.todo h).tail).map (·.uuid) = some u) :
    (∃ r rest, s.todo h = .offsetsSave r :: rest) ∨ ∃ rest, s.todo h = .offsetRemove u :: rest := by
  obtain ht | ⟨d, hd⟩ := hord
  · generalize s.todo h = todo at *
    cases ht with
    | quiet hq =>
      rw [reported_quiet fun e he => hq e (List.mem_of_mem_tail he)] at hu
      cases hu
    | saved r d => exact .inl ⟨_, _, rfl⟩
    | cleared d =>
      cases hu
      exact .inr ⟨_, rfl⟩
  · rw [hd] at hu
    cases hu

theorem todo_order (I : Inv json5 s) (h : HandlerId) : SaveOrder (s.todo h) := by
  unfold todo
  cases ht : s.sys.handlers[h]? with
  | none => exact saveOrder_nil
  | some t => exact I.order t (List.mem_of_getElem? ht)

/-- After a step of the server the order is kept, and a device about to be reported was so
before, or is behind the effect just carried out. -/
theorem Inv.sys_step (I : Inv json5 s) {e : Event} (s' : OffsetSaves) (hs : s.sys.Step e s'.sys) :
    s'.sys.Inv ∧ (∀ t ∈ s'.sys.handlers, SaveOrder t.todo) ∧
      ∀ u ∈ s'.reporting, u ∈ s.reporting ∨
        ∃ k, e = .handler k .perform ∧ (reported (s.todo k).tail).map (·.uuid) = some u := by
  refine ⟨I.sys.step hs, fun t' ht' => ?_, fun u hu => ?_⟩
  · obtain ⟨k, hk⟩ := List.mem_iff_getElem?.mp ht'
    exact (Sys.step_todo I.sys I.order hs hk).1
  · obtain ⟨k, t', hk, hu⟩ := mem_reporting.mp hu
    obtain ⟨-, hnone | ⟨t, ht, hsame | ⟨rfl, htail⟩⟩⟩ := Sys.step_todo I.sys I.order hs hk
    · rw [hnone] at hu
      cases hu
    · rw [hsame] at hu
      exact .inl (mem_reporting.mpr ⟨k, t, ht, hu⟩)
    · rw [htail, ← todo_of ht] at hu
      exact .inr ⟨k, rfl, hu⟩

/-- An effect of a handler keeps the invariant. -/
theorem Inv.perform (hj : json5.Lossless) (I : Inv json5 s) {sys' : Sys} {s₁ : OffsetSaves}
    (hok : Sound json5 s (.sys (.handler h .perform))) (hs : s.sys.Step (.handler h .perform) sys')
    (hp : s.perform h = some s₁) : Inv json5 { s₁ with sys := sys' } := by
  obtain ⟨hsys, hord, hrep⟩ := I.sys_step { s₁ with sys := sys' } hs
  have hrep : ∀ u ∈ reporting { s₁ with sys := sys' },
      u ∈ s.reporting ∨ (reported (s.todo h).tail).map (·.uuid) = some u := by
    intro u hu
    obtain hu | ⟨k, hk, hu⟩ := hrep u hu
    · exact .inl hu
    · cases hk
      exact .inr hu
  have hbehind := fun u => report_behind (u := u) (todo_order I h)
  simp only [Sound] at hok
  cases perform_cases hp with
  | @insert u iso rest htd hsv =>
    refine ⟨hsys, hord, fun c hc => ?_, fun _ v hv => ?_⟩
    · rw [hsv] at hc
      cases hc
    · have hold : v ∈ s.reporting := by
        obtain hv | hv := hrep v hv
        · exact hv
        · obtain ⟨r, rest', heq⟩ | ⟨rest', heq⟩ := hbehind v hv <;> rw [htd] at heq <;> cases heq
      rw [htd] at hok
      by_cases hvu : v = u
      · subst hvu
        have hnew : (s.offsets.insert v iso).lookup v = some iso := AList.lookup_insert _
        exact (hok hold).trans (congrArg some hnew.symm)
      · have hsame : (s.offsets.insert u iso).lookup v = s.offsets.lookup v := AList.lookup_insert_ne hvu
        exact (I.synced hsv v hold).trans (congrArg some hsame.symm)
  | @remove u rest htd hsv =>
    refine ⟨hsys, hord, fun c hc => ?_, fun _ v hv => ?_⟩
    · rw [hsv] at hc
      cases hc
    · rw [htd] at hok
      by_cases hvu : v = u
      · subst hvu
        have hmem : v ∈ ((reported rest).map (·.uuid)).toList ++ s.reporting := by
          obtain hv | hv := hrep v hv
          · exact List.mem_append_right _ hv
          · rw [htd] at hv
            exact List.mem_append_left _ (Option.mem_toList.mpr hv)
        have hnew : (s.offsets.erase v).lookup v = none := AList.lookup_erase _ _
        exact (hok hmem).trans (congrArg some hnew.symm)
      · have hold : v ∈ s.reporting := by
          obtain hv | hv := hrep v hv
          · exact hv
          · obtain ⟨r, rest', heq⟩ | ⟨rest', heq⟩ := hbehind v hv <;> rw [htd] at heq <;> cases heq
            exact absurd rfl hvu
        have hsame : (s.offsets.erase u).lookup v = s.offsets.lookup v := AList.lookup_erase_ne hvu
        exact (I.synced hsv v hold).trans (congrArg some hsame.symm)
  | @saved c hsv hlen =>
    refine ⟨hsys, hord, fun c hc => ?_, fun _ v _ => (I.writing c hsv).synced hj hlen v⟩
    cases hc
  | @failed e rest htd =>
    refine ⟨hsys, hord, fun c hc => ?_, fun _ v hv => ?_⟩
    · cases hc
    · rw [htd] at hok
      refine hok v ?_
      obtain hv | hv := hrep v hv
      · exact List.mem_append_right _ hv
      · rw [htd] at hv
        exact List.mem_append_left _ (Option.mem_toList.mpr hv)
  | other hrem hsave =>
    refine ⟨hsys, hord, I.writing, fun hsv v hv => I.synced hsv v ?_⟩
    obtain hv | hv := hrep v hv
    · exact hv
    · obtain ⟨r, rest, heq⟩ | ⟨rest, heq⟩ := hbehind v hv
      · exact absurd heq (hsave r rest)
      · exact absurd heq (hrem v rest)

theorem Inv.step (hj : json5.Lossless) (I : Inv json5 s) {e : OffsetEvent} (hok : Sound json5 s e)
    (hs : Step json5 s e s') : Inv json5 s' := by
  have hs : next json5 s e = some s' := hs
  unfold next at hs
  split at hs
  · next h =>
    obtain ⟨sys', hsys, hs⟩ := Option.bind_eq_some_iff.mp hs
    obtain ⟨s₁, hp, hs⟩ := Option.bind_eq_some_iff.mp hs
    cases hs
    exact I.perform hj hok hsys hp
  · next e hne _ =>
    obtain ⟨sys', hsys, rfl⟩ := Option.map_eq_some_iff.mp hs
    obtain ⟨hsi, hord, hrep⟩ := I.sys_step { s with sys := sys' } hsys
    refine ⟨hsi, hord, I.writing, fun hsv v hv => I.synced hsv v ?_⟩
    obtain hv | ⟨k, rfl, -⟩ := hrep v hv
    · exact hv
    · exact absurd rfl (hne k)
  · split at hs
    · next h r rest htd hsv =>
      split at hs
      · next text htext =>
        cases hs
        refine ⟨I.sys, I.order, fun c hc => ?_, fun hn => ?_⟩
        · cases hc
          exact ⟨text, htext, rfl, Nat.zero_le _, rfl⟩
        · cases hn
      · cases hs
    · cases hs
  · obtain ⟨c, hc, rfl⟩ := Option.map_eq_some_iff.mp hs
    refine ⟨I.sys, I.order, fun c' hc' => ?_, fun hn => ?_⟩
    · cases hc'
      exact (I.writing c hc).write _
    · cases hn

theorem Inv.truthful (I : Inv json5 s) {e : OffsetEvent} (hok : Sound json5 s e) :
    Truthful json5 s e := by
  unfold Truthful
  split
  · next h =>
    intro d hd
    have hpend : d.uuid ∈ s.reporting := by
      unfold todo at hd
      cases ht : s.sys.handlers[h]? with
      | none =>
        rw [ht] at hd
        cases hd
      | some t =>
        rw [ht] at hd
        exact mem_reporting.mpr ⟨h, t, ht, congrArg (Option.map (·.uuid)) hd⟩
    refine I.synced ?_ _ hpend
    simp only [Sound] at hok
    unfold reported at hd
    split at hd
    · next heq =>
      rw [heq] at hok
      exact hok
    · cases hd
  · trivial

theorem inv_start {file : ConfigFile} {a : LoadAnswers} (hs : start json5 file a = some s) : Inv json5 s := by
  obtain ⟨r, -, rfl⟩ := Option.map_eq_some_iff.mp hs
  refine ⟨Sys.Inv.init, by simp [Sys.init], fun c hc => ?_, by simp [reporting, Sys.init]⟩
  cases hc

/-- **Reports.**  In runs of sound steps every `SaveZeroResult(true)` is true when it is sent:
reloading the file gives the offset of the device that is in memory, or none. -/
theorem saveZeroResult_truthful (hj : json5.Lossless) {file : ConfigFile} {a : LoadAnswers}
    (hs : start json5 file a = some s) {tr : List (OffsetEvent × OffsetSaves)}
    (hrun : Exec (Step json5) s tr) (hok : StepsOk (Sound json5) s tr) : StepsOk (Truthful json5) s tr :=
  hrun.stepsOk (fun _ _ _ I ho h => I.step hj ho h) (fun _ _ _ I ho _ => I.truthful ho)
    (inv_start hs) hok

end

/-! ## A gun that is zeroed, saved and cleared -/

instance : Encodable F32 := Encodable.ofLeftInverse UInt32.toNat UInt32.ofNat fun _ => UInt32.ofNat_toNat

instance {n : Nat} {α : Type} [Encodable α] : Encodable (Vector α n) :=
  Encodable.ofLeftInjection (fun v => v.toList)
    (fun l => if h : l.length = n then some ⟨l.toArray, by simpa using h⟩ else none)
    fun v => by simp [Vector.toList]

instance : Encodable Isometry :=
  Encodable.ofLeftInverse (fun iso => (iso.translation, iso.rotation)) (fun p => ⟨p.1, p.2⟩) fun _ => rfl

def sampleIsometry : Isometry := ⟨vector3 1 2 3, #v[0, 0, 0, 1]⟩

def sampleOffsetsJson : Json5 Isometry :=
  Json5.ofTable [([("0xc00102030405", sampleIsometry)], "\x7b\"0xc00102030405\":[[1,2,3],[0,0,0,1]]\x7d")]

theorem sampleOffsetsJson_lossless : sampleOffsetsJson.Lossless := Json5.ofTable_lossless (by decide) (by decide)

/-- The server starts without a file. -/
def sampleStart : OffsetSaves := { sys := Sys.init, offsets := ∅, file := none, save := none }

theorem start_sampleStart : start sampleOffsetsJson none {} = some sampleStart := rfl

/-- Handler 0 gets a message and acts on it, with `between` before its first effect. -/
def ask (m : DeviceTaskMessage) (a : Answers) (between : List OffsetEvent) : List OffsetEvent :=
  [.sys (.request sampleUuid m), .sys (.deliver 0), .sys (.handler 0 (.recv a))] ++ between
    ++ List.replicate 2 (.sys (.handler 0 .perform))

/-- The gun is plugged in and zeroed. -/
def zeroed : List OffsetEvent :=
  plugIn.map .sys ++ [.sys (.handler 0 (.start 0 {}))] ++ List.replicate 5 (.sys (.handler 0 .perform))
    ++ ask (.zero (vector3 1 2 3) (vector2 0 0) none) { zeroQuat := some #v[0, 0, 0, 1] } []

def savedZero : List OffsetEvent := zeroed ++ ask .saveZero {} [.create 0, .write 99]

/-- The saved zero is cleared. -/
def clearedZero : List OffsetEvent := savedZero ++ ask .clearZero {} []

def offsetRun (events : List OffsetEvent) : List (OffsetEvent × OffsetSaves) :=
  trace (next sampleOffsetsJson) sampleStart events

theorem offsetRun_exec (events : List OffsetEvent) :
    Exec (Step sampleOffsetsJson) sampleStart (offsetRun events) :=
  exec_trace (fun _ _ _ h => h) _ _

theorem saveZeroResult_truthful_saved :
    (offsetRun savedZero).length = 30 ∧ StepsOk (Truthful sampleOffsetsJson) sampleStart (offsetRun savedZero) :=
  ⟨by decide +kernel,
    saveZeroResult_truthful sampleOffsetsJson_lossless start_sampleStart (offsetRun_exec savedZero)
      (by decide +kernel)⟩

/-- `ClearZero` leaves the entry in the file. -/
theorem report_untrue :
    ¬ ∀ (json5 : Json5 Isometry) (file : ConfigFile) (a : LoadAnswers) (s : OffsetSaves)
        (tr : List (OffsetEvent × OffsetSaves)),
      json5.Lossless → start json5 file a = some s → Exec (Step json5) s tr → StepsOk (Truthful json5) s tr := by
  intro hall
  have hok : StepsOk (Truthful sampleOffsetsJson) sampleStart (offsetRun clearedZero) :=
    hall _ _ _ _ _ sampleOffsetsJson_lossless start_sampleStart (offsetRun_exec clearedZero)
  exact absurd hok (by decide +kernel)

end OffsetSaves

end OdysseyHub
