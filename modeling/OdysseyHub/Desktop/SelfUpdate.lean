import OdysseyHub.Lib.Transition

/-!
# The updater of the application (odyssey_desktop, components/update.rs and the effect of main.rs)

An effect of the root checks the selected channel, in a task of its own and again whenever the
channel changes or a check is asked for.  A click on the banner starts another task: it checks
again, downloads what it finds, stops the server and hands the release to velopack.  Tasks cross in
any order, and the channel may change while an update is under way.

    what reaches velopack is one attempt after another, each in the order of the source and from
    the feed of the channel selected at its click                              (attempts_inTurn)
    a banner is that of the selected channel, unless a check was overtaken     (banner_selected)

velopack and the file system are outside: a step carries what they answered.
-/

namespace OdysseyHub

open Transition

/-! ## Channels -/

inductive UpdateChannel
  | stable
  | beta
  | nightly
  deriving DecidableEq, Repr

namespace UpdateChannel

def asStr : UpdateChannel → String
  | .stable => "stable"
  | .beta => "beta"
  | .nightly => "nightly"

def parse (s : String) : Option UpdateChannel :=
  if s = "stable" then some .stable
  else if s = "beta" then some .beta
  else if s = "nightly" then some .nightly
  else none

def velopackChannel (channel : UpdateChannel) : String := s!"win-x64-{channel.asStr}"

/-- Beta and nightly packages live on releases marked as prereleases. -/
def includesPrereleases (channel : UpdateChannel) : Bool := channel ≠ .stable

end UpdateChannel

/-- The characters `str::trim` drops: the `White_Space` of Unicode. -/
def isWhiteSpace (c : Char) : Bool :=
  let n := c.toNat
  9 ≤ n ∧ n ≤ 13 ∨ 0x2000 ≤ n ∧ n ≤ 0x200A ∨
    n ∈ [0x20, 0x85, 0xA0, 0x1680, 0x2028, 0x2029, 0x202F, 0x205F, 0x3000]

def trim (s : String) : String :=
  String.ofList ((s.toList.dropWhile isWhiteSpace).reverse.dropWhile isWhiteSpace).reverse

/-- `load_channel`, on what `read_to_string` gives of `update_channel.txt`. -/
def loadChannel (file : Option String) : UpdateChannel :=
  (file.bind fun s => UpdateChannel.parse (trim s)).getD .stable

/-- The file after `save_channel`; a write that fails leaves whatever it leaves. -/
def saveChannel (channel : UpdateChannel) : Except (Option String) Unit → Option String
  | .ok () => some channel.asStr
  | .error left => left

/-- What `update_manager` asks velopack for. -/
structure UpdateManager where
  repoUrl : String
  prerelease : Bool
  explicitChannel : String
  allowVersionDowngrade : Bool
  deriving DecidableEq, Repr

def updateManager (channel : UpdateChannel) : UpdateManager :=
  { repoUrl := "https://github.com/odysseyarm/odyssey-desktop"
    prerelease := channel.includesPrereleases
    explicitChannel := channel.velopackChannel
    allowVersionDowngrade := true }

/-- A manager is of one channel. -/
theorem updateManager_injective : Function.Injective updateManager := by
  intro c c' h
  have hch := congrArg UpdateManager.explicitChannel h
  revert hch
  cases c <;> cases c' <;> decide

theorem loadChannel_saved (channel : UpdateChannel) : loadChannel (saveChannel channel (.ok ())) = channel := by
  cases channel <;> decide

/-! ## Tasks -/

/-- `velopack::UpdateCheck`, with releases of type `R` -/
inductive UpdateCheck (R : Type)
  | updateAvailable (info : R)
  | remoteIsEmpty
  | noUpdateAvailable

/-- Where the closure of a click is. -/
inductive UpdatePhase (R : Type)
  | checking
  | downloading (info : R)
  /-- downloaded: `cancel_token.cancel()` comes next -/
  | stopping (info : R)
  | applying (info : R)
  /-- back with the task, a panic as an error -/
  | returned (result : Except String Bool)

/-- What a closure does next, and what velopack answers. -/
inductive UpdateCall (R : Type)
  | checkForUpdates (result : Except String (UpdateCheck R))
  | downloadUpdates (result : Except String Unit)
  | cancel
  | applyUpdates (result : Except String Unit)
  | panic (e : String)

def UpdatePhase.next {R : Type} : UpdatePhase R → UpdateCall R → Option (UpdatePhase R)
  | .checking, .checkForUpdates (.ok (.updateAvailable info)) => some (.downloading info)
  | .checking, .checkForUpdates (.ok _) => some (.returned (.ok false))
  | .checking, .checkForUpdates (.error e) => some (.returned (.error e))
  | .downloading info, .downloadUpdates (.ok ()) => some (.stopping info)
  | .downloading _, .downloadUpdates (.error e) => some (.returned (.error e))
  | .stopping info, .cancel => some (.applying info)
  | .applying _, .applyUpdates (.ok ()) => some (.returned (.ok true))
  | .applying _, .applyUpdates (.error e) => some (.returned (.error e))
  | .returned _, .panic _ => none
  | _, .panic e => some (.returned (.error e))
  | _, _ => none

def UpdateCall.cancels {R : Type} : UpdateCall R → Bool
  | .cancel => true
  | _ => false

/-- The task of a click, with the channel it peeked. -/
structure BannerTask (R : Type) where
  channel : UpdateChannel
  phase : UpdatePhase R

/-! ## The application -/

structure Updater (R : Type) where
  channel : UpdateChannel
  available : Bool
  busy : Bool
  error : Option String
  checking : Bool
  /-- the channel or the tick was set, and the effect has not run since -/
  triggered : Bool
  /-- the checks of the effect, in the order they were started; `none` once one has returned -/
  checks : List (Option UpdateChannel)
  updates : List (BannerTask R)
  /-- the token of the server -/
  cancelled : Bool
  /-- `update_channel.txt` -/
  file : Option String

inductive UpdaterStep (R : Type)
  /-- `onchange` of the picker -/
  | pick (value : String) (saved : Except (Option String) Unit)
  | requestCheck
  | effect
  /-- a check returns to its task, an error of the manager and a panic as errors -/
  | checked (i : Nat) (result : Except String (UpdateCheck R))
  /-- "Update & Restart" -/
  | click
  | later
  | call (i : Nat) (call : UpdateCall R)
  /-- the task of a click has its result -/
  | finish (i : Nat)

namespace Updater

variable {R : Type}

/-- The application has started, and the effect has yet to run. -/
def start (file : Option String) : Updater R :=
  { channel := loadChannel file, available := false, busy := false, error := none, checking := false
    triggered := true, checks := [], updates := [], cancelled := false, file := file }

def checkedWith (s : Updater R) : Except String (UpdateCheck R) → Updater R
  | .ok (.updateAvailable _) => { s with available := true }
  | .ok _ => s
  | .error e => { s with error := some e }

def finishedWith (s : Updater R) : Except String Bool → Updater R
  | .ok true => s
  | .ok false => { s with available := false, busy := false }
  | .error e => { s with error := some e, busy := false }

/-- The `disabled` of the buttons is not relied on: a click may arrive after all. -/
def next (s : Updater R) : UpdaterStep R → Option (Updater R)
  | .pick value saved =>
    some <| match UpdateChannel.parse value with
      | some channel => { s with channel := channel, triggered := true, file := saveChannel channel saved }
      | none => s
  | .requestCheck => some { s with triggered := true }
  | .effect =>
    if s.triggered then
      some { s with available := false, error := none, checking := true, triggered := false
                    checks := s.checks ++ [some s.channel] }
    else none
  | .checked i result =>
    match s.checks[i]? with
    | some (some _) => some { s.checkedWith result with checking := false, checks := s.checks.set i none }
    | _ => none
  | .click =>
    -- no banner, no button
    if s.available then
      if s.busy then some s
      else some { s with busy := true, error := none, updates := s.updates ++ [⟨s.channel, .checking⟩] }
    else none
  | .later => if s.available then some { s with available := false } else none
  | .call i call =>
    (s.updates[i]?).bind fun task =>
      (task.phase.next call).map fun phase =>
        { s with updates := s.updates.set i { task with phase := phase }, cancelled := s.cancelled || call.cancels }
  | .finish i =>
    match s.updates[i]? with
    | some ⟨_, .returned result⟩ => some { s.finishedWith result with updates := s.updates.eraseIdx i }
    | _ => none

def Step (s : Updater R) (l : UpdaterStep R) (s' : Updater R) : Prop := next s l = some s'

end Updater

/-! ## The log of the updates -/

/-- What the clicks lead to, in the order it happens. -/
inductive UpdateEntry (R : Type)
  | clicked (channel : UpdateChannel)
  | offered (um : UpdateManager) (info : R)
  | downloaded (um : UpdateManager) (info : R)
  | cancelled
  | applied (um : UpdateManager) (info : R)

/-- What a call of a closure adds. -/
def BannerTask.entries {R : Type} (task : BannerTask R) : UpdateCall R → List (UpdateEntry R)
  | .checkForUpdates (.ok (.updateAvailable info)) => [.offered (updateManager task.channel) info]
  | .downloadUpdates (.ok ()) =>
    match task.phase with
    | .downloading info => [.downloaded (updateManager task.channel) info]
    | _ => []
  | .cancel => [.cancelled]
  | .applyUpdates (.ok ()) =>
    match task.phase with
    | .applying info => [.applied (updateManager task.channel) info]
    | _ => []
  | _ => []

/-- How far an attempt has come. -/
inductive UpdateProgress (R : Type)
  | clicked
  | offered (info : R)
  | downloaded (info : R)
  | cancelled (info : R)
  | applied (info : R)

/-- An update as the user sees it: the channel at the click, and how far it came. -/
structure UpdateAttempt (R : Type) where
  channel : UpdateChannel
  progress : UpdateProgress R

namespace UpdateAttempt

variable {R : Type}

def log (a : UpdateAttempt R) : List (UpdateEntry R) :=
  let um := updateManager a.channel
  match a.progress with
  | .clicked => [.clicked a.channel]
  | .offered info => [.clicked a.channel, .offered um info]
  | .downloaded info => [.clicked a.channel, .offered um info, .downloaded um info]
  | .cancelled info => [.clicked a.channel, .offered um info, .downloaded um info, .cancelled]
  | .applied info => [.clicked a.channel, .offered um info, .downloaded um info, .cancelled, .applied um info]

def Applied (a : UpdateAttempt R) : Prop :=
  match a.progress with
  | .applied _ => True
  | _ => False

/-- The closure that makes the attempt. -/
def MadeBy (a : UpdateAttempt R) (task : BannerTask R) : Prop :=
  task.channel = a.channel ∧
    match task.phase with
    | .checking => a.progress = .clicked
    | .downloading info => a.progress = .offered info
    | .stopping info => a.progress = .downloaded info
    | .applying info => a.progress = .cancelled info
    | .returned (.ok true) => a.Applied
    | .returned _ => ¬ a.Applied

end UpdateAttempt

namespace Updater

variable {R : Type}

def logged (s : Updater R) (l : UpdaterStep R) (_ : Updater R) (log : List (UpdateEntry R)) : List (UpdateEntry R) :=
  match l with
  | .click => if s.busy then log else log ++ [.clicked s.channel]
  | .call i call => log ++ (s.updates[i]?).elim [] fun task => task.entries call
  | _ => log

/-- The attempts that are over, none of which has applied its release. -/
def Over (past : List (UpdateAttempt R)) : Prop := ∀ a ∈ past, ¬ a.Applied

/-- One attempt after another: none is under way, or one is, or one has been applied and no other
can be made. -/
inductive InTurn (s : Updater R) (log : List (UpdateEntry R)) : Prop
  | idle (past : List (UpdateAttempt R)) (ended : Over past) (free : s.busy = false) (updates : s.updates = [])
      (log_eq : log = past.flatMap UpdateAttempt.log)
  | underWay (past : List (UpdateAttempt R)) (a : UpdateAttempt R) (task : BannerTask R) (ended : Over past)
      (busy : s.busy = true) (updates : s.updates = [task]) (made : a.MadeBy task)
      (log_eq : log = past.flatMap UpdateAttempt.log ++ a.log)
  | applied (past : List (UpdateAttempt R)) (a : UpdateAttempt R) (ended : Over past) (done : a.Applied)
      (busy : s.busy = true) (updates : s.updates = []) (log_eq : log = past.flatMap UpdateAttempt.log ++ a.log)

/-- What holds of the updater at any time: attempts in turn, the server stopped by one that has
downloaded its release and by nothing else, and no spinner without a check. -/
structure Sound (s : Updater R × List (UpdateEntry R)) : Prop where
  inTurn : InTurn s.1 s.2
  cancelled : s.1.cancelled = true ↔ .cancelled ∈ s.2
  checking : s.1.checking = true → ∃ channel, some channel ∈ s.1.checks

variable {s s' : Updater R} {log : List (UpdateEntry R)}

end Updater

/-! ## One attempt after another -/

section
variable {R : Type}

/-- A call takes its attempt one step on, and writes that in the log. -/
theorem UpdateAttempt.MadeBy.call {a : UpdateAttempt R} {task : BannerTask R} (h : a.MadeBy task)
    {call : UpdateCall R} {phase : UpdatePhase R} (hp : task.phase.next call = some phase) :
    ∃ a' : UpdateAttempt R, a'.MadeBy { task with phase := phase } ∧ a'.log = a.log ++ task.entries call := by
  obtain ⟨channel, phase₀⟩ := task
  obtain ⟨c, progress⟩ := a
  obtain ⟨hc, hprogress⟩ := h
  dsimp only at hc hprogress hp
  subst hc
  cases phase₀ with
  | checking =>
    dsimp only at hprogress
    subst hprogress
    cases call with
    | checkForUpdates result =>
      rcases result with e | ⟨info⟩ | _ | _ <;> cases hp
      · exact ⟨⟨channel, .clicked⟩, ⟨rfl, id⟩, rfl⟩
      · exact ⟨⟨channel, .offered info⟩, ⟨rfl, rfl⟩, rfl⟩
      · exact ⟨⟨channel, .clicked⟩, ⟨rfl, id⟩, rfl⟩
      · exact ⟨⟨channel, .clicked⟩, ⟨rfl, id⟩, rfl⟩
    | panic e =>
      cases hp
      exact ⟨⟨channel, .clicked⟩, ⟨rfl, id⟩, rfl⟩
    | downloadUpdates result | cancel | applyUpdates result => cases hp
  | downloading info =>
    dsimp only at hprogress
    subst hprogress
    cases call with
    | downloadUpdates result =>
      rcases result with e | _ <;> cases hp
      · exact ⟨⟨channel, .offered info⟩, ⟨rfl, id⟩, rfl⟩
      · exact ⟨⟨channel, .downloaded info⟩, ⟨rfl, rfl⟩, rfl⟩
    | panic e =>
      cases hp
      exact ⟨⟨channel, .offered info⟩, ⟨rfl, id⟩, rfl⟩
    | checkForUpdates result | cancel | applyUpdates result => cases hp
  | stopping info =>
    dsimp only at hprogress
    subst hprogress
    cases call with
    | cancel =>
      cases hp
      exact ⟨⟨channel, .cancelled info⟩, ⟨rfl, rfl⟩, rfl⟩
    | panic e =>
      cases hp
      exact ⟨⟨channel, .downloaded info⟩, ⟨rfl, id⟩, rfl⟩
    | checkForUpdates result | downloadUpdates result | applyUpdates result => cases hp
  | applying info =>
    dsimp only at hprogress
    subst hprogress
    cases call with
    | applyUpdates result =>
      rcases result with e | _ <;> cases hp
      · exact ⟨⟨channel, .cancelled info⟩, ⟨rfl, id⟩, rfl⟩
      · exact ⟨⟨channel, .applied info⟩, ⟨rfl, trivial⟩, rfl⟩
    | panic e =>
      cases hp
      exact ⟨⟨channel, .cancelled info⟩, ⟨rfl, id⟩, rfl⟩
    | checkForUpdates result | downloadUpdates result | cancel => cases hp
  | returned result => cases call <;> cases hp

end

namespace Updater

variable {R : Type} {s s' : Updater R} {log : List (UpdateEntry R)}

theorem InTurn.frame (h : InTurn s log) (hbusy : s'.busy = s.busy) (hupdates : s'.updates = s.updates) :
    InTurn s' log := by
  cases h with
  | idle past ended free updates log_eq => exact .idle past ended (hbusy.trans free) (hupdates.trans updates) log_eq
  | underWay past a task ended busy updates made log_eq =>
    exact .underWay past a task ended (hbusy.trans busy) (hupdates.trans updates) made log_eq
  | applied past a ended done busy updates log_eq =>
    exact .applied past a ended done (hbusy.trans busy) (hupdates.trans updates) log_eq

theorem InTurn.click (h : InTurn s log) (hfree : s.busy = false) (updates : List (BannerTask R)) (e : Option String)
    (hupdates : updates = s.updates ++ [⟨s.channel, .checking⟩]) :
    InTurn { s with busy := true, error := e, updates := updates } (log ++ [.clicked s.channel]) := by
  cases h with
  | idle past ended free hnone hlog =>
    rw [hnone, List.nil_append] at hupdates
    exact .underWay past ⟨s.channel, .clicked⟩ ⟨s.channel, .checking⟩ ended rfl hupdates ⟨rfl, rfl⟩
      (by rw [hlog]; rfl)
  | underWay past a task ended busy => rw [busy] at hfree; cases hfree
  | applied past a ended done busy => rw [busy] at hfree; cases hfree

/-- A task that is there is the only one, and makes the last attempt. -/
theorem InTurn.running (h : InTurn s log) {i : Nat} {task : BannerTask R} (ht : s.updates[i]? = some task) :
    i = 0 ∧ s.updates = [task] ∧ s.busy = true ∧ ∃ (past : List (UpdateAttempt R)) (a : UpdateAttempt R),
      Over past ∧ a.MadeBy task ∧ log = past.flatMap UpdateAttempt.log ++ a.log := by
  cases h with
  | idle past ended free updates => rw [updates, List.getElem?_nil] at ht; cases ht
  | applied past a ended done busy updates => rw [updates, List.getElem?_nil] at ht; cases ht
  | underWay past a task' ended busy updates made log_eq =>
    rw [updates] at ht
    cases i with
    | zero =>
      obtain rfl : task' = task := Option.some.inj ht
      exact ⟨rfl, updates, busy, past, a, ended, made, log_eq⟩
    | succ i => rw [List.getElem?_cons_succ, List.getElem?_nil] at ht; cases ht

theorem InTurn.call (h : InTurn s log) {i : Nat} {task : BannerTask R} (ht : s.updates[i]? = some task)
    {call : UpdateCall R} {phase : UpdatePhase R} (hp : task.phase.next call = some phase) (c : Bool) :
    InTurn { s with updates := s.updates.set i { task with phase := phase }, cancelled := c }
      (log ++ task.entries call) := by
  obtain ⟨rfl, hupdates, hbusy, past, a, hover, hmade, hlog⟩ := h.running ht
  obtain ⟨a', hmade', hlog'⟩ := hmade.call hp
  refine .underWay past a' { task with phase := phase } hover hbusy ?_ hmade' ?_
  · show s.updates.set 0 _ = _
    rw [hupdates, List.set_cons_zero]
  · rw [hlog, hlog', List.append_assoc]

theorem InTurn.finish (h : InTurn s log) {i : Nat} {channel : UpdateChannel} {result : Except String Bool}
    (ht : s.updates[i]? = some ⟨channel, .returned result⟩) :
    InTurn { s.finishedWith result with updates := s.updates.eraseIdx i } log := by
  obtain ⟨rfl, hupdates, hbusy, past, a, hover, ⟨-, hmade⟩, hlog⟩ := h.running ht
  have hnone : s.updates.eraseIdx 0 = [] := by rw [hupdates]; rfl
  have hover' : ¬ a.Applied → Over (past ++ [a]) := by
    intro ha b hb
    rcases List.mem_append.mp hb with hb | hb
    · exact hover b hb
    · rwa [List.mem_singleton.mp hb]
  have hlog' : log = (past ++ [a]).flatMap UpdateAttempt.log := by
    rw [List.flatMap_append, List.flatMap_singleton, hlog]
  rcases result with e | _ | _
  · exact .idle (past ++ [a]) (hover' hmade) rfl hnone hlog'
  · exact .idle (past ++ [a]) (hover' hmade) rfl hnone hlog'
  · exact .applied past a hover hmade hbusy hnone hlog

/-! ## The invariant -/

theorem mem_entries_cancelled (task : BannerTask R) (call : UpdateCall R) :
    .cancelled ∈ task.entries call ↔ call.cancels = true := by
  obtain ⟨channel, phase⟩ := task
  cases call with
  | checkForUpdates result => rcases result with e | ⟨info⟩ | _ | _ <;> simp [BannerTask.entries, UpdateCall.cancels]
  | downloadUpdates result =>
    rcases result with e | _ <;> cases phase <;> simp [BannerTask.entries, UpdateCall.cancels]
  | cancel => exact iff_of_true List.mem_cons_self rfl
  | applyUpdates result =>
    rcases result with e | _ <;> cases phase <;> simp [BannerTask.entries, UpdateCall.cancels]
  | panic e => exact iff_of_false List.not_mem_nil Bool.false_ne_true

theorem checkedWith_frame (s : Updater R) (result : Except String (UpdateCheck R)) :
    (s.checkedWith result).busy = s.busy ∧ (s.checkedWith result).updates = s.updates ∧
      (s.checkedWith result).cancelled = s.cancelled := by
  rcases result with e | ⟨info⟩ | _ | _ <;> exact ⟨rfl, rfl, rfl⟩

theorem finishedWith_frame (s : Updater R) (result : Except String Bool) :
    (s.finishedWith result).cancelled = s.cancelled ∧ (s.finishedWith result).checking = s.checking ∧
      (s.finishedWith result).checks = s.checks := by
  rcases result with e | _ | _ <;> exact ⟨rfl, rfl, rfl⟩

theorem Sound.frame (h : Sound (s, log)) (hbusy : s'.busy = s.busy) (hupdates : s'.updates = s.updates)
    (hcancelled : s'.cancelled = s.cancelled)
    (hchecking : s'.checking = true → ∃ channel, some channel ∈ s'.checks) : Sound (s', log) :=
  ⟨h.inTurn.frame hbusy hupdates, by rw [hcancelled]; exact h.cancelled, hchecking⟩

theorem Sound.click (h : Sound (s, log)) (hfree : s.busy = false) :
    Sound ({ s with busy := true, error := none, updates := s.updates ++ [⟨s.channel, .checking⟩] },
      log ++ [.clicked s.channel]) where
  inTurn := h.inTurn.click hfree _ _ rfl
  cancelled := by
    rw [List.mem_append, List.mem_singleton]
    exact h.cancelled.trans ⟨Or.inl, fun h => h.elim id fun h => by cases h⟩
  checking := h.checking

theorem Sound.call (h : Sound (s, log)) {i : Nat} {task : BannerTask R} (ht : s.updates[i]? = some task)
    {call : UpdateCall R} {phase : UpdatePhase R} (hp : task.phase.next call = some phase) :
    Sound ({ s with updates := s.updates.set i { task with phase := phase }, cancelled := s.cancelled || call.cancels },
      log ++ task.entries call) where
  inTurn := h.inTurn.call ht hp _
  cancelled := by
    rw [List.mem_append, mem_entries_cancelled, Bool.or_eq_true]
    exact or_congr h.cancelled Iff.rfl
  checking := h.checking

/-- **Step lemma.** -/
theorem Sound.step (h : Sound (s, log)) {l : UpdaterStep R} (hstep : Step s l s') :
    Sound (s', logged s l s' log) := by
  unfold Step next at hstep
  unfold logged
  cases l with
  | pick value saved =>
    dsimp only at hstep ⊢
    cases hparse : UpdateChannel.parse value with
    | none =>
      rw [hparse] at hstep
      cases hstep
      exact h
    | some channel =>
      rw [hparse] at hstep
      cases hstep
      exact h.frame rfl rfl rfl h.checking
  | requestCheck =>
    cases hstep
    exact h.frame rfl rfl rfl h.checking
  | effect =>
    dsimp only at hstep ⊢
    split at hstep
    · cases hstep
      exact h.frame rfl rfl rfl fun _ => ⟨s.channel, List.mem_append_right _ List.mem_cons_self⟩
    · cases hstep
  | checked i result =>
    dsimp only at hstep ⊢
    split at hstep
    · cases hstep
      obtain ⟨hbusy, hupdates, hcancelled⟩ := checkedWith_frame s result
      exact h.frame hbusy hupdates hcancelled (by intro h; cases h)
    · cases hstep
  | click =>
    dsimp only at hstep ⊢
    cases hbusy : s.busy with
    | true =>
      rw [hbusy] at hstep
      split at hstep
      · cases hstep
        exact h
      · cases hstep
    | false =>
      rw [hbusy] at hstep
      split at hstep
      · cases hstep
        exact h.click hbusy
      · cases hstep
  | later =>
    dsimp only at hstep ⊢
    split at hstep
    · cases hstep
      exact h.frame rfl rfl rfl h.checking
    · cases hstep
  | call i call =>
    dsimp only at hstep ⊢
    obtain ⟨task, ht, hmap⟩ := Option.bind_eq_some_iff.mp hstep
    obtain ⟨phase, hp, rfl⟩ := Option.map_eq_some_iff.mp hmap
    rw [ht]
    exact h.call ht hp
  | finish i =>
    dsimp only at hstep ⊢
    split at hstep
    · next channel result ht =>
      cases hstep
      obtain ⟨hcancelled, hchecking, hchecks⟩ := finishedWith_frame s result
      refine ⟨h.inTurn.finish ht, ?_, ?_⟩
      · show (s.finishedWith result).cancelled = true ↔ _
        rw [hcancelled]
        exact h.cancelled
      · show (s.finishedWith result).checking = true → ∃ channel, _ ∈ (s.finishedWith result).checks
        rw [hchecking, hchecks]
        exact h.checking
    · cases hstep

theorem start_sound (file : Option String) : Sound (start (R := R) file, []) where
  inTurn := .idle [] (by intro _ h; cases h) rfl rfl rfl
  cancelled := iff_of_false Bool.false_ne_true List.not_mem_nil
  checking h := by cases h

/-- **Updates in turn.**  However clicks, checks, channels picked and the tasks of the clicks cross,
what reaches velopack and the server is one attempt after another. -/
theorem attempts_inTurn (file : Option String)
    {tr : List (UpdaterStep R × (Updater R × List (UpdateEntry R)))}
    (hrun : Exec (ghost Step logged) (start file, []) tr) : Always Sound (start file, []) tr := by
  refine hrun.invariant ?_ (start_sound file)
  rintro ⟨s, log⟩ l ⟨s', log'⟩ hs ⟨hstep, hlog⟩
  dsimp only at hstep hlog
  rw [hlog]
  exact hs.step hstep

/-- The click of the beta user, who goes back to stable while the update runs. -/
def switched : List (UpdaterStep Nat) :=
  [.pick "beta" (.ok ()), .effect, .checked 0 (.ok (.updateAvailable 7)), .click, .pick "stable" (.ok ()), .click,
    .call 0 (.checkForUpdates (.ok (.updateAvailable 8))), .effect, .call 0 (.downloadUpdates (.ok ())),
    .checked 1 (.error "offline"), .call 0 .cancel, .call 0 (.applyUpdates (.ok ())), .finish 0]

def switchedRun : List (UpdaterStep Nat × (Updater Nat × List (UpdateEntry Nat))) :=
  trace (ghostStep next logged) (start none, []) switched

theorem attempts_inTurn_switched :
    Always Sound (start none, []) switchedRun ∧
      (last (start none, []) switchedRun).2 =
        [.clicked .beta, .offered (updateManager .beta) 8, .downloaded (updateManager .beta) 8, .cancelled,
          .applied (updateManager .beta) 8] :=
  ⟨attempts_inTurn none (exec_ghostStep (fun _ _ _ h => h) _ _ switched), rfl⟩

/-! ## The selected channel -/

/-- The channel of the check that last found an update. -/
def found (s : Updater R) (l : UpdaterStep R) (_ : Updater R) (channel : Option UpdateChannel) :
    Option UpdateChannel :=
  match l with
  | .checked i (.ok (.updateAvailable _)) => (s.checks[i]?).join
  | _ => channel

/-- A banner is that of the selected channel once the effect has seen it, and a restart selects the
same channel again. -/
structure Selected (s : Updater R × Option UpdateChannel) : Prop where
  banner : s.1.available = true → s.1.triggered = false → s.2 = some s.1.channel
  restart : loadChannel s.1.file = s.1.channel

/-- No check that finds an update was overtaken by a later one, and no write fails. -/
def Prompt (s : Updater R × Option UpdateChannel) : UpdaterStep R → Prop
  | .checked i (.ok (.updateAvailable _)) => i + 1 = s.1.checks.length
  | .pick _ saved => saved = .ok ()
  | _ => True

/-- The last check that was started is for the selected channel. -/
def LastChecked (s : Updater R) : Prop :=
  s.triggered = false → ∀ channel, s.checks.getLast? = some (some channel) → channel = s.channel

/-- A banner of the selected channel, with what the next result needs. -/
structure Aimed (s : Updater R × Option UpdateChannel) : Prop where
  selected : Selected s
  last : LastChecked s.1

variable {shown : Option UpdateChannel}

/-- A step that starts and ends no check, and shows no banner. -/
theorem Aimed.frame (h : Aimed (s, shown)) (hchannel : s'.channel = s.channel) (hfile : s'.file = s.file)
    (hchecks : s'.checks = s.checks) (htriggered : s'.triggered = false → s.triggered = false)
    (havailable : s'.available = true → s.available = true) : Aimed (s', shown) where
  selected :=
    { banner := fun ha ht => (h.selected.banner (havailable ha) (htriggered ht)).trans (congrArg some hchannel.symm)
      restart := by
        show loadChannel s'.file = s'.channel
        rw [hfile, hchannel]
        exact h.selected.restart }
  last ht channel hlast := by
    dsimp only at hlast ⊢
    rw [hchecks] at hlast
    exact (h.last (htriggered ht) channel hlast).trans hchannel.symm

theorem Aimed.checked (h : Aimed (s, shown)) {i : Nat} {channel : UpdateChannel}
    (hi : s.checks[i]? = some (some channel)) (result : Except String (UpdateCheck R))
    (hprompt : Prompt (s, shown) (.checked i result)) :
    Aimed ({ s.checkedWith result with checking := false, checks := s.checks.set i none },
      found s (.checked i result) s' shown) := by
  have hset : ∀ c, (s.checks.set i none).getLast? = some (some c) → s.checks.getLast? = some (some c) := by
    intro c hc
    rw [List.getLast?_eq_getElem?, List.length_set] at hc
    rw [List.getLast?_eq_getElem?]
    by_cases hlast : i = s.checks.length - 1
    · rw [← hlast, List.getElem?_set_self (List.getElem?_eq_some_iff.mp hi).1] at hc
      cases hc
    · rwa [List.getElem?_set_ne hlast] at hc
  rcases result with e | ⟨info⟩ | _ | _
  · exact ⟨⟨h.selected.banner, h.selected.restart⟩, fun ht c hc => h.last ht c (hset c hc)⟩
  · refine ⟨⟨fun _ ht => ?_, h.selected.restart⟩, fun ht c hc => h.last ht c (hset c hc)⟩
    have hlast : s.checks.getLast? = some (some channel) := by
      rw [List.getLast?_eq_getElem?, ← hi]
      congr 1
      unfold Prompt at hprompt
      dsimp only at hprompt
      omega
    show (s.checks[i]?).join = some s.channel
    rw [hi, ← h.last ht channel hlast]
    rfl
  · exact ⟨⟨h.selected.banner, h.selected.restart⟩, fun ht c hc => h.last ht c (hset c hc)⟩
  · exact ⟨⟨h.selected.banner, h.selected.restart⟩, fun ht c hc => h.last ht c (hset c hc)⟩

/-- **Step lemma.** -/
theorem Aimed.step (h : Aimed (s, shown)) {l : UpdaterStep R} (hprompt : Prompt (s, shown) l) (hstep : Step s l s') :
    Aimed (s', found s l s' shown) := by
  unfold Step next at hstep
  cases l with
  | pick value saved =>
    obtain rfl : saved = .ok () := hprompt
    dsimp only at hstep
    cases hparse : UpdateChannel.parse value with
    | none =>
      rw [hparse] at hstep
      cases hstep
      exact h
    | some channel =>
      rw [hparse] at hstep
      cases hstep
      exact ⟨⟨fun _ ht => (by cases ht), loadChannel_saved channel⟩, fun ht => by cases ht⟩
  | requestCheck =>
    cases hstep
    exact ⟨⟨fun _ ht => (by cases ht), h.selected.restart⟩, fun ht => by cases ht⟩
  | effect =>
    dsimp only at hstep
    split at hstep
    · cases hstep
      refine ⟨⟨fun ha => (by cases ha), h.selected.restart⟩, fun _ channel hlast => ?_⟩
      dsimp only at hlast
      rw [List.getLast?_append] at hlast
      exact (Option.some.inj (Option.some.inj hlast)).symm
    · cases hstep
  | checked i result =>
    dsimp only at hstep
    split at hstep
    · next channel hi =>
      cases hstep
      exact h.checked hi result hprompt
    · cases hstep
  | click =>
    dsimp only at hstep
    split at hstep
    · split at hstep
      · cases hstep
        exact h
      · cases hstep
        exact h.frame rfl rfl rfl id id
    · cases hstep
  | later =>
    dsimp only at hstep
    split at hstep
    · cases hstep
      exact h.frame rfl rfl rfl id fun ha => by cases ha
    · cases hstep
  | call i call =>
    dsimp only at hstep
    obtain ⟨task, -, hmap⟩ := Option.bind_eq_some_iff.mp hstep
    obtain ⟨phase, -, rfl⟩ := Option.map_eq_some_iff.mp hmap
    exact h.frame rfl rfl rfl id id
  | finish i =>
    dsimp only at hstep
    split at hstep
    · next channel result ht =>
      cases hstep
      rcases result with e | _ | _
      · exact h.frame rfl rfl rfl id id
      · exact h.frame rfl rfl rfl id fun ha => by cases ha
      · exact h.frame rfl rfl rfl id id
    · cases hstep

theorem start_aimed (file : Option String) : Aimed (start (R := R) file, none) :=
  ⟨⟨fun h => (by cases h), rfl⟩, fun h => by cases h⟩

/-- **The banner is for the selected channel.**  In every run in which no write fails and no check
that finds an update was overtaken. -/
theorem banner_selected (file : Option String) {tr : List (UpdaterStep R × (Updater R × Option UpdateChannel))}
    (hrun : Exec (ghost Step found) (start file, none) tr) (hprompt : StepsOk Prompt (start file, none) tr) :
    Always Selected (start file, none) tr := by
  have hstep : ∀ (t : Updater R × Option UpdateChannel) l t', Aimed t → Prompt t l → ghost Step found t l t' →
      Aimed t' := by
    rintro ⟨s, shown⟩ l ⟨s', shown'⟩ ht hl ⟨hnext, hshown⟩
    dsimp only at hnext hshown
    rw [hshown]
    exact ht.step hl hnext
  exact (hrun.always hstep (start_aimed file) hprompt).imp fun t ht => ht.selected

/-- A check of beta finds an update, and the one of stable that it overtook finds none. -/
def promptly : List (UpdaterStep Nat) :=
  [.effect, .pick "beta" (.ok ()), .effect, .checked 1 (.ok (.updateAvailable 7)), .checked 0 (.ok .noUpdateAvailable)]

def promptRun : List (UpdaterStep Nat × (Updater Nat × Option UpdateChannel)) :=
  trace (ghostStep next found) (start (some "stable\n"), none) promptly

theorem banner_selected_prompt :
    Always Selected (start (some "stable\n"), none) promptRun ∧
      (last (start (some "stable\n"), none) promptRun).1.available = true ∧
      (last (start (some "stable\n"), none) promptRun).2 = some .beta :=
  ⟨banner_selected _ (exec_ghostStep (fun _ _ _ h => h) _ _ promptly)
      ⟨trivial, rfl, trivial, rfl, trivial, trivial⟩, rfl, rfl⟩

/-- An overtaken check that finds an update leaves its banner under another channel. -/
example :
    let s := last (start none, none) (trace (ghostStep next found) (start none, none)
      [.effect, .pick "beta" (.ok ()), .effect, .checked 1 (.ok .noUpdateAvailable),
        .checked 0 (.ok (.updateAvailable 7))])
    s.1.available = true ∧ s.1.triggered = false ∧ s.1.channel = .beta ∧ s.2 = some .stable :=
  ⟨rfl, rfl, rfl, rfl⟩

end Updater

end OdysseyHub
