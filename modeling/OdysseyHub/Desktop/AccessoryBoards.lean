import OdysseyHub.Lib.Transition
import OdysseyHub.Common.Device
import Mathlib.Logic.Function.Basic

/-!
# What the accessories page is for

A `Board` says which accessories there are, and for which device each of them shoots.
The page has a board, a click changes it and sends it to the server, and the server
credits shots by the board it has.  A call saves its board, reads back what is saved by
then, puts that in place, and tells the page: calls overlap, so one can put the board of
another in place, and the page reads older boards at any time, so a click can undo
another one.  But the click whose board the server has is always the one its accessory
follows (`lastClick_decides`), and clicks that wait for each other, with the page up to
date, all count (`clicks_count`).
-/

namespace OdysseyHub

open Transition

/-- The accessories there are, each with the device it is assigned to. -/
abbrev Board := Uuid → Option (Option Uuid)

inductive BoardClick
  | add (id : Uuid)
  | remove (id : Uuid)
  | assign (id : Uuid) (device : Option Uuid)
  deriving DecidableEq, Repr

namespace BoardClick

def id : BoardClick → Uuid
  | .add id | .remove id | .assign id _ => id

/-- The device its accessory is for afterwards. -/
def device : BoardClick → Option Uuid
  | .add _ | .remove _ => none
  | .assign _ device => device

def apply (b : Board) : BoardClick → Board
  | .add id => Function.update b id (some none)
  | .remove id => Function.update b id none
  | .assign id device => if (b id).isSome then Function.update b id (some device) else b

/-- The accessory is for the device of the click, if it is on the board. -/
def Shown (c : BoardClick) (b : Board) : Prop := ∀ device, b c.id = some device → device = c.device

theorem shown_apply (c : BoardClick) (b : Board) : c.Shown (apply b c) := by
  intro device h
  cases c with
  | add id =>
    simp only [apply, BoardClick.id, Function.update_self] at h
    cases h
    rfl
  | remove id =>
    simp only [apply, BoardClick.id, Function.update_self] at h
    cases h
  | assign id d =>
    simp only [apply, BoardClick.id] at h
    split at h
    · rw [Function.update_self] at h
      cases h
      rfl
    · next hnot =>
      rw [h] at hnot
      exact absurd rfl hnot

end BoardClick

/-- How far the server has got with a call; `B` is what it puts in place, `K` what it
tells the page. -/
inductive Serving (B K : Type)
  | sent
  /-- what came in is saved -/
  | saved (own : B)
  /-- the reload found `fresh`, which the click `origin` has sent -/
  | loaded (fresh : B) (origin : Option BoardClick)
  /-- the notification tasks are told -/
  | told (fresh : B)
  | merged
  | snapped (known : K)
  | answered

/-- What waits for the file is given up when the connection breaks. -/
def Serving.waits {B K : Type} : Serving B K → Bool
  | .sent | .saved _ => true
  | _ => false

def Serving.map {B B' K K' : Type} (f : B → B') (g : K → K') : Serving B K → Serving B' K'
  | .sent => .sent
  | .saved own => .saved (f own)
  | .loaded fresh origin => .loaded (f fresh) origin
  | .told fresh => .told (f fresh)
  | .merged => .merged
  | .snapped known => .snapped (g known)
  | .answered => .answered

/-- A click on its way: the board it sends. -/
structure BoardCall where
  click : BoardClick
  board : Board
  stage : Serving Board Board
  /-- its connection broke, and the page no longer waits for it -/
  lost : Bool

structure Boards where
  /-- by which the server credits shots -/
  server : Board
  /-- all accessories the server has known -/
  known : Board
  /-- what was saved last, and for which click -/
  file : Option (BoardClick × Board)
  /-- the copy of the accessory manager -/
  manager : Board
  /-- the boards the page can read -/
  past : List Board
  page : Board
  calls : List BoardCall
  /-- the click whose board the server has -/
  last : Option BoardClick
  devices : List Device
  /-- the devices that were credited with a shot -/
  shots : List Device

/-- What a reload finds: nothing, what cannot be read, so that the call takes its own
board, or what is saved. -/
inductive Reloaded
  | missed
  | own
  | file
  deriving DecidableEq, Repr

inductive BoardEvent
  | click (c : BoardClick)
  /-- the server goes on with a call; a save fails or not, a reload finds what it finds -/
  | serve (n : Nat) (fails : Bool) (r : Reloaded)
  | finish (n : Nat)
  /-- the connection of a call breaks -/
  | lose (n : Nat)
  /-- the server gives up a call that is lost -/
  | drop (n : Nat)
  | informed
  | broadcast
  | read (i : Nat)
  | devices (ds : List Device)
  | shot (id : Uuid)
  | quiet

namespace Boards

/-- The device that is credited with a shot of the accessory. -/
def credited (s : Boards) (id : Uuid) : Option Device :=
  (s.server id).join.bind fun uuid => s.devices.find? fun d => d.uuid == uuid

def advance (s : Boards) (n : Nat) (call : BoardCall) (stage : Serving Board Board) : Boards :=
  { s with calls := s.calls.set n { call with stage := stage } }

/-- The accessories of `fresh`, and of those known before. -/
def learn (s : Boards) (fresh : Board) : Board := fun id => (fresh id).or (s.known id)

/-- The next step of a call. -/
def serve (s : Boards) (n : Nat) (call : BoardCall) (fails : Bool) (r : Reloaded) : Option Boards :=
  match call.stage with
  | .sent =>
    if fails then some (s.advance n call .answered)
    else some { s.advance n call (.saved call.board) with file := some (call.click, call.board) }
  | .saved own =>
    match r, s.file with
    | .missed, _ => some (s.advance n call (.loaded (fun _ => none) none))
    | .own, _ => some (s.advance n call (.loaded own (some call.click)))
    | .file, some (c, b) => some (s.advance n call (.loaded b (some c)))
    | .file, none => none
  | .loaded fresh origin => some { s.advance n call (.told fresh) with server := fresh, last := origin }
  | .told fresh =>
    some { s.advance n call .merged with known := s.learn fresh, past := s.past ++ [s.learn fresh] }
  | .merged => some (s.advance n call (.snapped s.known))
  | .snapped known => some { s.advance n call .answered with past := s.past ++ [known] }
  | .answered => none

def next (s : Boards) : BoardEvent → Option Boards
  | .click c => some { s with calls := s.calls ++ [⟨c, c.apply s.page, .sent, false⟩] }
  | .serve n fails r => (s.calls[n]?).bind fun call => s.serve n call fails r
  | .finish n =>
    match s.calls[n]? with
    | some ⟨_, b, .answered, lost⟩ =>
      some { s with page := if lost then s.page else b, calls := s.calls.eraseIdx n }
    | _ => none
  | .lose n =>
    match s.calls[n]? with
    | some ⟨c, b, stage, false⟩ => some { s with page := b, calls := s.calls.set n ⟨c, b, stage, true⟩ }
    | _ => none
  | .drop n =>
    match s.calls[n]? with
    | some ⟨_, _, stage, true⟩ => if stage.waits then some { s with calls := s.calls.eraseIdx n } else none
    | _ => none
  | .informed => some { s with manager := s.server, past := s.past ++ [s.server] }
  | .broadcast => some { s with past := s.past ++ [s.manager] }
  | .read i => s.past[i]?.map fun b => { s with page := b }
  | .devices ds => some { s with devices := ds }
  | .shot id => some { s with shots := s.shots ++ (s.credited id).toList }
  | .quiet => some s

def Step (s : Boards) (e : BoardEvent) (s' : Boards) : Prop := s.next e = some s'

/-! ## The steps of a call -/

/-- `serve`, one stage after the other. -/
inductive Served (s : Boards) (n : Nat) (call : BoardCall) : Bool → Reloaded → Boards → Prop
  | failed {r : Reloaded} (hstage : call.stage = .sent) : Served s n call true r (s.advance n call .answered)
  | saved {r : Reloaded} (hstage : call.stage = .sent) :
      Served s n call false r
        { s.advance n call (.saved call.board) with file := some (call.click, call.board) }
  | missed {own : Board} {fails : Bool} (hstage : call.stage = .saved own) :
      Served s n call fails .missed (s.advance n call (.loaded (fun _ => none) none))
  | own {own : Board} {fails : Bool} (hstage : call.stage = .saved own) :
      Served s n call fails .own (s.advance n call (.loaded own (some call.click)))
  | file {own b : Board} {c : BoardClick} {fails : Bool} (hstage : call.stage = .saved own)
      (hfile : s.file = some (c, b)) : Served s n call fails .file (s.advance n call (.loaded b (some c)))
  | told {fresh : Board} {origin : Option BoardClick} {fails : Bool} {r : Reloaded}
      (hstage : call.stage = .loaded fresh origin) :
      Served s n call fails r { s.advance n call (.told fresh) with server := fresh, last := origin }
  | merged {fresh : Board} {fails : Bool} {r : Reloaded} (hstage : call.stage = .told fresh) :
      Served s n call fails r
        { s.advance n call .merged with known := s.learn fresh, past := s.past ++ [s.learn fresh] }
  | snapped {fails : Bool} {r : Reloaded} (hstage : call.stage = .merged) :
      Served s n call fails r (s.advance n call (.snapped s.known))
  | answered {known : Board} {fails : Bool} {r : Reloaded} (hstage : call.stage = .snapped known) :
      Served s n call fails r { s.advance n call .answered with past := s.past ++ [known] }

theorem serve_served {s s' : Boards} {n : Nat} {call : BoardCall} {fails : Bool} {r : Reloaded}
    (h : s.serve n call fails r = some s') : Served s n call fails r s' := by
  unfold serve at h
  split at h
  · next hstage =>
    split at h
    · next hfails =>
      cases h
      subst hfails
      exact .failed hstage
    · next hfails =>
      cases h
      obtain rfl := Bool.eq_false_iff.mpr hfails
      exact .saved hstage
  · next own hstage =>
    split at h
    · cases h
      exact .missed hstage
    · cases h
      exact .own hstage
    · next hfile =>
      cases h
      exact .file hstage hfile
    · cases h
  · next hstage =>
    cases h
    exact .told hstage
  · next hstage =>
    cases h
    exact .merged hstage
  · next hstage =>
    cases h
    exact .snapped hstage
  · next hstage =>
    cases h
    exact .answered hstage
  · cases h

/-- `next`, with the guards of each case. -/
inductive Moved (s : Boards) : BoardEvent → Boards → Prop
  | click (c : BoardClick) : Moved s (.click c) { s with calls := s.calls ++ [⟨c, c.apply s.page, .sent, false⟩] }
  | serve {n : Nat} {call : BoardCall} {fails : Bool} {r : Reloaded} {s' : Boards} (hc : s.calls[n]? = some call)
      (hserved : Served s n call fails r s') : Moved s (.serve n fails r) s'
  | finish {n : Nat} {c : BoardClick} {b : Board} {lost : Bool}
      (hc : s.calls[n]? = some ⟨c, b, .answered, lost⟩) :
      Moved s (.finish n) { s with page := if lost then s.page else b, calls := s.calls.eraseIdx n }
  | lose {n : Nat} {c : BoardClick} {b : Board} {stage : Serving Board Board}
      (hc : s.calls[n]? = some ⟨c, b, stage, false⟩) :
      Moved s (.lose n) { s with page := b, calls := s.calls.set n ⟨c, b, stage, true⟩ }
  | drop {n : Nat} {c : BoardClick} {b : Board} {stage : Serving Board Board}
      (hc : s.calls[n]? = some ⟨c, b, stage, true⟩) (hwaits : stage.waits = true) :
      Moved s (.drop n) { s with calls := s.calls.eraseIdx n }
  | informed : Moved s .informed { s with manager := s.server, past := s.past ++ [s.server] }
  | broadcast : Moved s .broadcast { s with past := s.past ++ [s.manager] }
  | read {i : Nat} {b : Board} (hi : s.past[i]? = some b) : Moved s (.read i) { s with page := b }
  | devices (ds : List Device) : Moved s (.devices ds) { s with devices := ds }
  | shot (id : Uuid) : Moved s (.shot id) { s with shots := s.shots ++ (s.credited id).toList }
  | quiet : Moved s .quiet s

theorem step_moved {s s' : Boards} {e : BoardEvent} (h : Step s e s') : Moved s e s' := by
  unfold Step next at h
  split at h
  · cases h
    exact .click _
  · obtain ⟨call, hc, hserve⟩ := Option.bind_eq_some_iff.mp h
    exact .serve hc (serve_served hserve)
  · split at h
    · next hc =>
      cases h
      exact .finish hc
    · cases h
  · split at h
    · next hc =>
      cases h
      exact .lose hc
    · cases h
  · split at h
    · next hc =>
      split at h
      · next hwaits =>
        cases h
        exact .drop hc hwaits
      · cases h
    · cases h
  · cases h
    exact .informed
  · cases h
    exact .broadcast
  · obtain ⟨b, hb, rfl⟩ := Option.map_eq_some_iff.mp h
    exact .read hb
  · cases h
    exact .devices _
  · cases h
    exact .shot _
  · cases h
    exact .quiet

/-! ## The last click -/

variable {s s' : Boards} {e : BoardEvent}

/-- The boards of a call are those of their clicks. -/
structure CallClicked (call : BoardCall) : Prop where
  sent : call.click.Shown call.board
  saved : ∀ own, call.stage = .saved own → call.click.Shown own
  loaded : ∀ fresh c, call.stage = .loaded fresh (some c) → c.Shown fresh

/-- The boards on their way are those their clicks made, and so are the saved one and that
of the server. -/
structure Clicked (s : Boards) : Prop where
  calls : ∀ call ∈ s.calls, CallClicked call
  file : ∀ c b, s.file = some (c, b) → c.Shown b
  last : ∀ c, s.last = some c → c.Shown s.server

/-- A call that has gone on is as good as it was. -/
theorem Clicked.advance (hs : s.Clicked) {n : Nat} {call : BoardCall} {stage : Serving Board Board}
    (hcall : CallClicked { call with stage := stage }) :
    ∀ call' ∈ (s.advance n call stage).calls, CallClicked call' := by
  intro call' hmem
  rcases List.mem_or_eq_of_mem_set hmem with hmem | rfl
  · exact hs.calls call' hmem
  · exact hcall

/-- A stage without a board of its own. -/
theorem CallClicked.bare {call : BoardCall} (h : CallClicked call) {stage : Serving Board Board}
    (hsaved : ∀ own, stage ≠ .saved own) (hloaded : ∀ fresh c, stage ≠ .loaded fresh (some c)) :
    CallClicked { call with stage := stage } :=
  ⟨h.sent, fun own ho => absurd ho (hsaved own), fun fresh c hl => absurd hl (hloaded fresh c)⟩

theorem CallClicked.load {call : BoardCall} (h : CallClicked call) {fresh : Board} {c : BoardClick}
    (hshown : c.Shown fresh) : CallClicked { call with stage := .loaded fresh (some c) } := by
  refine ⟨h.sent, fun own ho => (by cases ho), fun fresh' c' hl => ?_⟩
  cases hl
  exact hshown

theorem Clicked.serve (hs : s.Clicked) {n : Nat} {call : BoardCall} {fails : Bool} {r : Reloaded}
    (hc : s.calls[n]? = some call) (h : Served s n call fails r s') : s'.Clicked := by
  have hcall := hs.calls call (List.mem_of_getElem? hc)
  cases h with
  | failed => exact ⟨hs.advance (hcall.bare (by simp) (by simp)), hs.file, hs.last⟩
  | saved hstage =>
    refine ⟨hs.advance ⟨hcall.sent, fun own ho => ?_, fun fresh c hl => (by cases hl)⟩, fun c b hb => ?_,
      hs.last⟩
    · cases ho
      exact hcall.sent
    · cases hb
      exact hcall.sent
  | missed => exact ⟨hs.advance (hcall.bare (by simp) (by simp)), hs.file, hs.last⟩
  | own hstage => exact ⟨hs.advance (hcall.load (hcall.saved _ hstage)), hs.file, hs.last⟩
  | file hstage hfile => exact ⟨hs.advance (hcall.load (hs.file _ _ hfile)), hs.file, hs.last⟩
  | told hstage =>
    refine ⟨hs.advance (hcall.bare (by simp) (by simp)), hs.file, fun c hlast => ?_⟩
    subst hlast
    exact hcall.loaded _ c hstage
  | merged => exact ⟨hs.advance (hcall.bare (by simp) (by simp)), hs.file, hs.last⟩
  | snapped => exact ⟨hs.advance (hcall.bare (by simp) (by simp)), hs.file, hs.last⟩
  | answered => exact ⟨hs.advance (hcall.bare (by simp) (by simp)), hs.file, hs.last⟩

theorem Clicked.step (hs : s.Clicked) (h : Step s e s') : s'.Clicked := by
  cases step_moved h with
  | click c =>
    refine ⟨fun call hmem => ?_, hs.file, hs.last⟩
    rcases List.mem_append.mp hmem with hmem | hmem
    · exact hs.calls call hmem
    · obtain rfl := List.mem_singleton.mp hmem
      exact ⟨c.shown_apply s.page, fun own ho => (by cases ho), fun fresh c' hl => (by cases hl)⟩
  | serve hc hserved => exact hs.serve hc hserved
  | finish hc => exact ⟨fun call hmem => hs.calls call (List.mem_of_mem_eraseIdx hmem), hs.file, hs.last⟩
  | lose hc =>
    refine ⟨fun call hmem => ?_, hs.file, hs.last⟩
    have hcall := hs.calls _ (List.mem_of_getElem? hc)
    rcases List.mem_or_eq_of_mem_set hmem with hmem | rfl
    · exact hs.calls call hmem
    · exact ⟨hcall.sent, hcall.saved, hcall.loaded⟩
  | drop hc _ => exact ⟨fun call hmem => hs.calls call (List.mem_of_mem_eraseIdx hmem), hs.file, hs.last⟩
  | informed => exact ⟨hs.calls, hs.file, hs.last⟩
  | broadcast => exact ⟨hs.calls, hs.file, hs.last⟩
  | read _ => exact ⟨hs.calls, hs.file, hs.last⟩
  | devices ds => exact ⟨hs.calls, hs.file, hs.last⟩
  | shot id => exact ⟨hs.calls, hs.file, hs.last⟩
  | quiet => exact hs

/-- The shots of the accessory of the last click go to the device of that click. -/
def LastDecides (s : Boards) : Prop :=
  ∀ c, s.last = some c → s.credited c.id =
    if (s.server c.id).isSome then c.device.bind fun uuid => s.devices.find? fun d => d.uuid == uuid else none

theorem Clicked.lastDecides (hs : s.Clicked) : s.LastDecides := by
  intro c hlast
  unfold credited
  cases hb : s.server c.id with
  | none => rfl
  | some device =>
    obtain rfl := hs.last c hlast device hb
    rfl

/-- **The last click decides.** -/
theorem lastClick_decides {tr : List (BoardEvent × Boards)} (hrun : Exec Step s tr) (hs : s.Clicked) :
    Always LastDecides s tr :=
  (hrun.invariant (fun _ _ _ hi h => Clicked.step hi h) hs).imp fun _ ht => ht.lastDecides

/-! ## All clicks -/

/-- The clicks whose call has put a board in place. -/
def served (s : Boards) (e : BoardEvent) (_ : Boards) (done : List BoardClick) : List BoardClick :=
  match e with
  | .serve n _ _ =>
    match s.calls[n]? with
    | some ⟨c, _, .loaded _ _, _⟩ => done ++ [c]
    | _ => done
  | _ => done

/-- A click waits for the last one, and for the page to show what the server has; and the
server saves its board and finds it again. -/
def Waits (s : Boards) : BoardEvent → Prop
  | .click _ => s.calls = [] ∧ s.page = s.server
  | .serve _ fails r => fails = false ∧ r ≠ .missed
  | _ => True

/-- All clicks count. -/
def Counted (start : Board) (s : Boards × List BoardClick) : Prop :=
  s.1.server = s.2.foldl BoardClick.apply start

/-- A call that is alone: the board it sends is that of the server, changed by its click,
and so is what it saves and reads back. -/
structure Alone (s : Boards) (call : BoardCall) : Prop where
  sent : call.stage = .sent → call.board = call.click.apply s.server
  saved : ∀ own, call.stage = .saved own →
    own = call.click.apply s.server ∧ ∃ c, s.file = some (c, call.click.apply s.server)
  loaded : ∀ fresh origin, call.stage = .loaded fresh origin → fresh = call.click.apply s.server

/-- … while at most one is on its way. -/
structure InTurn (start : Board) (s : Boards × List BoardClick) : Prop where
  counted : Counted start s
  one : s.1.calls = [] ∨ ∃ call, s.1.calls = [call] ∧ Alone s.1 call

/-- With one call on its way, it is the one that is served or finished. -/
theorem InTurn.only {start : Board} {s : Boards × List BoardClick} (hs : InTurn start s) {n : Nat} {call : BoardCall}
    (hc : s.1.calls[n]? = some call) : n = 0 ∧ s.1.calls = [call] ∧ Alone s.1 call := by
  rcases hs.one with hnil | ⟨call', hone, halone⟩
  · rw [hnil] at hc
    cases hc
  · rw [hone] at hc
    cases n with
    | zero =>
      cases hc
      exact ⟨rfl, hone, halone⟩
    | succ n => cases hc

/-- A stage behind the one at which the board is put in place. -/
theorem Alone.of_behind {call : BoardCall} (hsent : call.stage ≠ .sent) (hsaved : ∀ own, call.stage ≠ .saved own)
    (hloaded : ∀ fresh origin, call.stage ≠ .loaded fresh origin) : Alone s call :=
  ⟨fun h => absurd h hsent, fun own h => absurd h (hsaved own),
    fun fresh origin h => absurd h (hloaded fresh origin)⟩

theorem Alone.of_loaded {call : BoardCall} {fresh : Board} {origin : Option BoardClick}
    (hstage : call.stage = .loaded fresh origin) (hfresh : fresh = call.click.apply s.server) : Alone s call := by
  refine ⟨fun h => ?_, fun own h => ?_, fun fresh' origin' h => ?_⟩
  · rw [hstage] at h
    cases h
  · rw [hstage] at h
    cases h
  · rw [hstage] at h
    cases h
    exact hfresh

/-- What leaves the calls, the file and the server alone. -/
theorem InTurn.frame {start : Board} {s : Boards × List BoardClick} (hs : InTurn start s) {s' : Boards}
    (hserver : s'.server = s.1.server) (hcalls : s'.calls = s.1.calls) (hfile : s'.file = s.1.file) :
    InTurn start (s', s.2) := by
  refine ⟨hserver.trans hs.counted, ?_⟩
  rcases hs.one with hnil | ⟨call, hone, halone⟩
  · exact .inl (hcalls.trans hnil)
  · refine .inr ⟨call, hcalls.trans hone, ?_⟩
    constructor <;> rw [hserver]
    · exact halone.sent
    · rw [hfile]
      exact halone.saved
    · exact halone.loaded

theorem InTurn.removed {start : Board} {s : Boards × List BoardClick} (hs : InTurn start s) {n : Nat}
    {call : BoardCall} (hc : s.1.calls[n]? = some call) {s' : Boards} (hserver : s'.server = s.1.server)
    (hcalls : s'.calls = s.1.calls.eraseIdx n) : InTurn start (s', s.2) := by
  obtain ⟨rfl, hone, -⟩ := hs.only hc
  refine ⟨hserver.trans hs.counted, .inl ?_⟩
  show s'.calls = []
  rw [hcalls, hone]
  rfl

/-- A call alone goes on, and its board is counted when it is put in place. -/
theorem InTurn.serve {start : Board} {s : Boards × List BoardClick} {s' : Boards} (hs : InTurn start s) {n : Nat}
    {call : BoardCall} {fails : Bool} {r : Reloaded} (hw : Waits s.1 (.serve n fails r))
    (hc : s.1.calls[n]? = some call) (h : Served s.1 n call fails r s') :
    InTurn start (s', served s.1 (.serve n fails r) s' s.2) := by
  obtain ⟨rfl, hcalls, halone⟩ := hs.only hc
  obtain ⟨c, b, stage, lost⟩ := call
  have hone : ∀ stage', (s.1.advance 0 ⟨c, b, stage, lost⟩ stage').calls = [⟨c, b, stage', lost⟩] := fun stage' => by
    show s.1.calls.set 0 _ = _
    rw [hcalls]
    rfl
  have hserved : (∀ fresh origin, stage ≠ .loaded fresh origin) → ∀ t,
      served s.1 (.serve 0 fails r) t s.2 = s.2 := fun hl t => by
    unfold served
    dsimp only
    rw [hc]
    cases stage with
    | loaded fresh origin => exact absurd rfl (hl fresh origin)
    | _ => rfl
  cases h with
  | failed => cases hw.1
  | saved hstage =>
    cases hstage
    rw [hserved (by simp)]
    have hb : b = c.apply s.1.server := halone.sent rfl
    refine ⟨hs.counted, .inr ⟨_, hone _, fun h => (by cases h), fun own ho => ?_,
      fun fresh origin hl => (by cases hl)⟩⟩
    cases ho
    refine ⟨hb, c, ?_⟩
    show some (c, b) = some (c, c.apply s.1.server)
    rw [hb]
  | missed => exact absurd rfl hw.2
  | own hstage =>
    cases hstage
    rw [hserved (by simp)]
    exact ⟨hs.counted, .inr ⟨_, hone _, .of_loaded rfl (halone.saved _ rfl).1⟩⟩
  | file hstage hfile =>
    cases hstage
    rw [hserved (by simp)]
    obtain ⟨-, c', hc'⟩ := halone.saved _ rfl
    rw [hfile] at hc'
    cases hc'
    exact ⟨hs.counted, .inr ⟨_, hone _, .of_loaded rfl rfl⟩⟩
  | @told fresh origin _ _ hstage =>
    cases hstage
    have hfresh : fresh = c.apply s.1.server := halone.loaded _ _ rfl
    have hdone : ∀ t, served s.1 (.serve 0 fails r) t s.2 = s.2 ++ [c] := fun t => by
      unfold served
      dsimp only
      rw [hc]
    have hcounted : s.1.server = s.2.foldl BoardClick.apply start := hs.counted
    rw [hdone]
    refine ⟨?_, .inr ⟨_, hone _, .of_behind (by simp) (by simp) (by simp)⟩⟩
    show fresh = (s.2 ++ [c]).foldl BoardClick.apply start
    rw [List.foldl_append, ← hcounted, hfresh]
    rfl
  | merged hstage =>
    cases hstage
    rw [hserved (by simp)]
    exact ⟨hs.counted, .inr ⟨_, hone _, .of_behind (by simp) (by simp) (by simp)⟩⟩
  | snapped hstage =>
    cases hstage
    rw [hserved (by simp)]
    exact ⟨hs.counted, .inr ⟨_, hone _, .of_behind (by simp) (by simp) (by simp)⟩⟩
  | answered hstage =>
    cases hstage
    rw [hserved (by simp)]
    exact ⟨hs.counted, .inr ⟨_, hone _, .of_behind (by simp) (by simp) (by simp)⟩⟩

theorem InTurn.step {start : Board} (s : Boards × List BoardClick) (e : BoardEvent) (s' : Boards × List BoardClick)
    (hs : InTurn start s) (hw : Waits s.1 e) (h : ghost Step served s e s') : InTurn start s' := by
  obtain ⟨s, done⟩ := s
  obtain ⟨s', done'⟩ := s'
  obtain ⟨hstep, hdone⟩ := h
  dsimp only at hstep hdone hw
  cases step_moved hstep with
  | click c =>
    cases hdone
    refine ⟨hs.counted, .inr ⟨⟨c, c.apply s.page, .sent, false⟩, ?_, fun _ => ?_, fun own ho => (by cases ho),
      fun fresh origin hl => (by cases hl)⟩⟩
    · show s.calls ++ [_] = _
      rw [hw.1, List.nil_append]
    · show c.apply s.page = c.apply s.server
      rw [hw.2]
  | serve hc hserved =>
    cases hdone
    exact hs.serve hw hc hserved
  | finish hc =>
    cases hdone
    exact hs.removed hc rfl rfl
  | @lose n c b stage hc =>
    obtain ⟨rfl, hcalls, halone⟩ := hs.only hc
    cases hdone
    refine ⟨hs.counted, .inr ⟨⟨c, b, stage, true⟩, ?_, halone.sent, halone.saved, halone.loaded⟩⟩
    have hcalls' : s.calls = _ := hcalls
    show s.calls.set 0 _ = _
    rw [hcalls']
    rfl
  | drop hc _ =>
    cases hdone
    exact hs.removed hc rfl rfl
  | informed =>
    cases hdone
    exact hs.frame rfl rfl rfl
  | broadcast =>
    cases hdone
    exact hs.frame rfl rfl rfl
  | read _ =>
    cases hdone
    exact hs.frame rfl rfl rfl
  | devices ds =>
    cases hdone
    exact hs.frame rfl rfl rfl
  | shot id =>
    cases hdone
    exact hs.frame rfl rfl rfl
  | quiet =>
    cases hdone
    exact hs

/-- **Clicks that wait all count.** -/
theorem clicks_count {tr : List (BoardEvent × (Boards × List BoardClick))} {start : Board}
    (hrun : Exec (ghost Step served) (s, []) tr) (hs : s.server = start) (hcalls : s.calls = [])
    (hw : StepsOk (fun s e => Waits s.1 e) (s, []) tr) : Always (Counted start) (s, []) tr :=
  (hrun.always InTurn.step ⟨hs, .inl hcalls⟩ hw).imp fun _ ht => ht.counted

end Boards

end OdysseyHub
