import OdysseyHub.Common.HexKeyMap
import OdysseyHub.Desktop.HubEvents

/-!
# Pairing (odyssey_desktop, views/pairing.rs)

A row of the pairing view starts a pairing with a request, and is told the outcome by an event:
the task that is asked spawns a waiter that emits the result, the event goes through the
subscription of the hub into its latest event, and an effect of the row looks at that.  A row
shows a pairing as long as one is on, so it must not outlive the last thing that can end it
(`pairing_settles`).

The latest event holds one event, so a result is missed when the next one arrives before the
effect has run.  The handlers of a row are tasks of their own, and any number may be under way.
-/

namespace OdysseyHub

open Transition Slots

/-! ## Rows -/

/-- A result, as a row finds it in an event. -/
structure PairingResult where
  success : Bool
  pairedAddress : Uuid
  pairedName : String
  error : String
  deriving DecidableEq, Repr

def formatUuid (uuid : Uuid) : String :=
  ":".intercalate (uuid.toList.map fun b => String.ofList ((HexKeyMapN.hexByte b).map Char.toUpper))

/-- The status after a result. -/
def PairingResult.status (r : PairingResult) : String :=
  if r.success then
    let label :=
      if r.pairedName = "" then formatUuid r.pairedAddress else s!"{r.pairedName} ({formatUuid r.pairedAddress})"
    s!"Paired with {label}. Please unplug and replug the dongle."
  else r.error

/-- What tells the two kinds of rows apart. -/
structure PairingRowKind (P : Type) where
  /-- the result for this row in an event -/
  result : Events.Event P → Option PairingResult
  /-- it does not depend on the name of the device -/
  result_renamed : ∀ ev, result ev.renamed = result ev
  cleared : String

/-- `DongleRow` -/
def dongleRow {P : Type} (dongleId : String) : PairingRowKind P :=
  { result := fun
      | .donglePairingResult eventId success pairedAddress pairedName error =>
        if eventId = dongleId then some ⟨success, pairedAddress, pairedName, error⟩ else none
      | _ => none
    result_renamed := fun ev => by cases ev <;> rfl
    cleared := "Bonds cleared" }

/-- `DeviceRow` -/
def deviceRow {P : Type} (uuid : Uuid) : PairingRowKind P :=
  { result := fun
      | .deviceEvent dev (.pairingResult success pairedAddress pairedName error) =>
        if dev.uuid = uuid then some ⟨success, pairedAddress, pairedName, error⟩ else none
      | _ => none
    result_renamed := fun ev => by
      cases ev with
      | donglePairingResult dongleId success address name error => rfl
      | deviceEvent dev kind => cases kind <;> simp [Events.Event.renamed]
    cleared := "Bond cleared" }

/-- The signals of a row. -/
structure PairingRow where
  status : String
  pairing : Bool
  deriving DecidableEq, Repr

namespace PairingRow

def new : PairingRow := { status := "", pairing := false }

def failed (row : PairingRow) (e : String) : PairingRow := { row with status := s!"Error: {e}" }

/-- The effect, on the latest event. -/
def look {P : Type} (kind : PairingRowKind P) (row : PairingRow) (latest : Option (Events.Event P)) : PairingRow :=
  match latest.bind kind.result with
  | some r => { status := r.status, pairing := false }
  | none => row

end PairingRow

/-- Where a handler of the row is. -/
inductive Click
  /-- `start_pairing` is on its way, or the server has answered -/
  | starting
  | started (r : Except String Unit)
  | cancelling
  /-- `on_clear` cancels first -/
  | cancelFirst
  | clearing
  | done

/-- A pairing was asked for, and it has not been started. -/
def Click.Open : Click → Prop
  | .starting | .started (.error _) => True
  | _ => False

/-! ## The row with the server and the hub -/

structure PairingView (P : Type) where
  path : EventPath P
  row : PairingRow
  clicks : List Click
  /-- tasks in `wait_pairing_event` -/
  waiters : Nat
  /-- the latest event was written and the effect has not run since -/
  unread : Bool

inductive PairingStep (P : Type)
  | path (e : EventPathEvent P)
  | clickPair
  | clickCancel
  | clickClear
  /-- the task of the device or dongle answers a `StartPairing` -/
  | serve (i : Nat) (r : Except String Unit)
  /-- it answers somebody else's -/
  | serveOther
  /-- the request, or the reply to it, is lost with the connection -/
  | lose (i : Nat) (e : String)
  /-- the reply to a `start_pairing` arrives -/
  | arrive (i : Nat)
  /-- the reply to another request arrives, or an error in its place -/
  | reply (i : Nat) (r : Except String Unit)
  /-- a waiter has its result and emits it -/
  | finish (ev : Events.Event P)
  | effect

namespace PairingView

variable {P : Type} (postcard : Postcard P) (kind : PairingRowKind P)

/-- A row just shown: its effect has not run. -/
def shown (path : EventPath P) (waiters : Nat) : PairingView P :=
  { path := path, row := .new, clicks := [], waiters := waiters, unread := true }

/-- The reply to a request other than `start_pairing`. -/
def replied (s : PairingView P) (i : Nat) (r : Except String Unit) : Click → Option (PairingView P)
  | .cancelling =>
    some <| match r with
      | .ok () => { s with row := { status := "Cancelled", pairing := false }, clicks := s.clicks.set i .done }
      | .error e => { s with row := s.row.failed e, clicks := s.clicks.set i .done }
  | .cancelFirst => some { s with row := { s.row with pairing := false }, clicks := s.clicks.set i .clearing }
  | .clearing =>
    some <| match r with
      | .ok () => { s with row := { s.row with status := kind.cleared }, clicks := s.clicks.set i .done }
      | .error e => { s with row := s.row.failed e, clicks := s.clicks.set i .done }
  | _ => none

/-- `run` writes the latest event with every event it reads. -/
def writes (s : PairingView P) : EventPathEvent P → Bool
  | .next => (EventPath.upcoming postcard s.path).isSome
  | _ => false

def next (s : PairingView P) : PairingStep P → Option (PairingView P)
  | .path e =>
    (EventPath.next postcard s.path e).map fun path =>
      { s with path := path, unread := s.unread || s.writes postcard e }
  | .clickPair => some { s with row := { status := "Pairing...", pairing := true }, clicks := s.clicks ++ [.starting] }
  | .clickCancel => some { s with clicks := s.clicks ++ [.cancelling] }
  | .clickClear =>
    some { s with clicks := s.clicks ++ [if s.row.pairing then .cancelFirst else .clearing] }
  | .serve i r =>
    match s.clicks[i]?, r with
    | some .starting, .ok () => some { s with clicks := s.clicks.set i (.started r), waiters := s.waiters + 1 }
    | some .starting, .error _ => some { s with clicks := s.clicks.set i (.started r) }
    | _, _ => none
  | .serveOther => some { s with waiters := s.waiters + 1 }
  | .lose i e =>
    match s.clicks[i]? with
    | some .starting | some (.started _) => some { s with clicks := s.clicks.set i (.started (.error e)) }
    | _ => none
  | .arrive i =>
    match s.clicks[i]? with
    | some (.started (.ok ())) => some { s with clicks := s.clicks.set i .done }
    | some (.started (.error e)) =>
      some { s with row := { s.row.failed e with pairing := false }, clicks := s.clicks.set i .done }
    | _ => none
  | .reply i r => s.clicks[i]?.bind (s.replied kind i r)
  | .finish ev =>
    if s.waiters = 0 ∨ kind.result ev = none then none
    else
      (EventPath.next postcard s.path (.emit ev)).map fun path => { s with path := path, waiters := s.waiters - 1 }
  | .effect =>
    if s.unread then some { s with row := s.row.look kind s.path.hub.latestEvent, unread := false } else none

def Step (s : PairingView P) (l : PairingStep P) (s' : PairingView P) : Prop := next postcard kind s l = some s'

/-- The step of the event path in a step of the view. -/
def pathEvent : PairingStep P → Option (EventPathEvent P)
  | .path e => some e
  | .finish ev => some (.emit ev)
  | _ => none

def logged (s : PairingView P) (l : PairingStep P) (s' : PairingView P) (log : EventLog P) : EventLog P :=
  match pathEvent l with
  | some e => EventPath.logged postcard s.path e s'.path log
  | none => log

/-- Emitted since the hub subscribed, and not read by it. -/
def onTheWay (log : EventLog P) : List (Events.Event P) := log.since.drop log.got.length

/-- A result for the row is on its way to the hub, or the row has not looked at it. -/
def Coming (s : PairingView P) (log : EventLog P) : Prop :=
  (∃ ev ∈ onTheWay log, kind.result ev ≠ none) ∨ (s.unread = true ∧ s.path.hub.latestEvent.bind kind.result ≠ none)

/-- Something is under way that ends the pairing: a request that has not started one, a waiter, or
a result. -/
def Ends (s : PairingView P) (log : EventLog P) : Prop :=
  (∃ c ∈ s.clicks, c.Open) ∨ 0 < s.waiters ∨ s.Coming kind log

/-- Nothing is under way any more. -/
structure Settled (s : PairingView P) : Prop where
  clicks : ∀ c ∈ s.clicks, ¬ c.Open
  waiters : s.waiters = 0
  drained : ∀ stream ∈ s.path.stream, stream.task ≠ .ended ∧ stream.Drained
  looked : s.unread = false

/-- A row shows a pairing only while one can end, and shows none once all has settled. -/
structure Answers (s : PairingView P × EventLog P) : Prop where
  ends : s.1.row.pairing = true → s.1.Ends kind s.2
  settles : s.1.Settled → s.1.row.pairing = false

/-- While a pairing is shown no result for the row is lost: the hub is subscribed when one is
emitted and reads it before it loses the subscription, and the effect runs before the latest event is
overwritten. -/
def Kept (s : PairingView P × EventLog P) : PairingStep P → Prop
  | .path .disconnect => s.1.row.pairing = true → ∀ ev ∈ onTheWay s.2, kind.result ev = none
  | .path .next => s.1.row.pairing = true → s.1.unread = true → s.1.path.hub.latestEvent.bind kind.result = none
  | .finish _ => s.1.row.pairing = true → s.1.path.stream.isSome = true
  | _ => True

variable {postcard} {kind} {s s' : PairingView P} {log : EventLog P}

/-! ## Results on their way -/

theorem upcoming_onTheWay {evt : Events.Event P} (h : log.got ++ [evt] <+: log.since.map Events.Event.renamed) :
    ∃ ev, ev.renamed = evt ∧ onTheWay log = ev :: onTheWay { log with got := log.got ++ [evt] } := by
  obtain ⟨rest, hrest⟩ := h
  have hdrop : (onTheWay log).map Events.Event.renamed = evt :: rest := by
    unfold onTheWay
    rw [List.map_drop, ← hrest, List.append_assoc, List.drop_left]
    rfl
  obtain ⟨ev, more, hway, rfl, -⟩ := List.map_eq_cons_iff.mp hdrop
  refine ⟨ev, rfl, ?_⟩
  unfold onTheWay at hway ⊢
  dsimp only
  rw [List.length_append, List.length_singleton, ← List.drop_drop, hway]
  rfl

/-- `run` reads the next event, and it is the latest. -/
theorem next_latest {path path' : EventPath P} (h : EventPath.Step postcard path .next path') :
    path'.hub.latestEvent = (EventPath.upcoming postcard path).or path.hub.latestEvent := by
  unfold EventPath.Step EventPath.next at h
  dsimp only at h
  split at h
  · cases h
  · obtain ⟨stream, hs, pb, hpb, t, ht, rfl⟩ : ∃ stream, path.stream = some stream ∧
        ∃ pb, stream.replies.head? = some pb ∧ ∃ t, path.stepStream postcard .deliver = some t ∧
          t.took (EventPath.decoded postcard pb) = path' := by
      simpa only [Option.bind_eq_bind, Option.bind_eq_some_iff, Option.some.injEq] using h
    obtain ⟨-, -, -, -, rfl⟩ := EventPath.stepStream_cases ht
    have hup : EventPath.upcoming postcard path = (EventPath.decoded postcard pb).join := by
      unfold EventPath.upcoming
      simp only [hs, hpb, Option.bind_eq_bind, Option.bind_some]
    rw [hup]
    cases EventPath.decoded postcard pb with
    | none => rfl
    | some evt => cases evt <;> rfl

/-- The other steps leave the latest event alone. -/
theorem latest_frame {path path' : EventPath P} {e : EventPathEvent P} (he : e ≠ .next)
    (h : EventPath.Step postcard path e path') : path'.hub.latestEvent = path.hub.latestEvent := by
  have hstream : ∀ ev, path.stepStream postcard ev = some path' → path'.hub = path.hub := by
    intro ev hev
    obtain ⟨-, -, -, -, rfl⟩ := EventPath.stepStream_cases hev
    rfl
  unfold EventPath.Step EventPath.next at h
  cases e with
  | next => exact absurd rfl he
  | emit ev =>
    dsimp only at h
    split at h
    · rw [hstream _ h]
    · cases h
      rfl
  | recv | send => rw [hstream _ h]
  | connect | disconnect =>
    dsimp only at h
    split at h
    · cases h
    · cases h
      rfl
  | subscribeTracking | subscribeImpact =>
    cases h
    rfl
  | listenTracking i | listenImpact i =>
    obtain ⟨receivers, -, rfl⟩ := Option.map_eq_some_iff.mp h
    rfl

/-- Only an event read leaves the way, and none does while the subscription stands. -/
theorem onTheWay_logged {path path' : EventPath P} {e : EventPathEvent P} (hn : e ≠ .next) (hd : e ≠ .disconnect)
    {ev : Events.Event P} (h : ev ∈ onTheWay log) : ev ∈ onTheWay (EventPath.logged postcard path e path' log) := by
  cases e with
  | emit ev' =>
    unfold EventPath.logged
    dsimp only
    split
    · show ev ∈ (log.since ++ [ev']).drop log.got.length
      rw [List.drop_append]
      exact List.mem_append_left _ h
    · exact h
  | next => exact absurd rfl hn
  | disconnect => exact absurd rfl hd
  | recv | send | connect | subscribeTracking | subscribeImpact | listenTracking | listenImpact => exact h

/-- **A step of the event path.**  A result keeps coming unless it is lost. -/
theorem Coming.path {path' : EventPath P} {e : EventPathEvent P} (h : s.Coming kind log)
    (hinv : EventPath.Inv postcard (path', EventPath.logged postcard s.path e path' log)) (hp : postcard.Lossless)
    (hstep : EventPath.Step postcard s.path e path')
    (hdisconnect : e = .disconnect → ∀ ev ∈ onTheWay log, kind.result ev = none)
    (hnext : e = .next → s.unread = true → s.path.hub.latestEvent.bind kind.result = none) :
    Coming kind { s with path := path', unread := s.unread || s.writes postcard e }
      (EventPath.logged postcard s.path e path' log) := by
  rcases h with ⟨ev, hev, hown⟩ | ⟨hunread, hlatest⟩
  · by_cases hn : e = .next
    · subst hn
      have hlatest := next_latest hstep
      have hprefix := hinv.unbroken hp
      unfold EventPath.logged at hprefix ⊢
      dsimp only at hprefix ⊢
      cases hup : EventPath.upcoming postcard s.path with
      | none =>
        rw [Option.toList_none, List.append_nil]
        exact .inl ⟨ev, hev, hown⟩
      | some evt =>
        rw [hup] at hlatest hprefix
        obtain ⟨ev', rfl, hway⟩ := upcoming_onTheWay hprefix
        rw [hway] at hev
        rcases List.mem_cons.mp hev with rfl | hev
        · refine .inr ⟨?_, ?_⟩
          · show (s.unread || (EventPath.upcoming postcard s.path).isSome) = true
            rw [hup, Option.isSome_some, Bool.or_true]
          · show path'.hub.latestEvent.bind kind.result ≠ none
            rw [hlatest]
            show kind.result ev.renamed ≠ none
            rw [kind.result_renamed]
            exact hown
        · exact .inl ⟨ev, hev, hown⟩
    · have hd : e ≠ .disconnect := fun hd => absurd (hdisconnect hd ev hev) hown
      exact .inl ⟨ev, onTheWay_logged hn hd hev, hown⟩
  · have hn : e ≠ .next := fun hn => absurd (hnext hn hunread) hlatest
    refine .inr ⟨?_, ?_⟩
    · show (s.unread || s.writes postcard e) = true
      rw [hunread, Bool.true_or]
    · show path'.hub.latestEvent.bind kind.result ≠ none
      rw [latest_frame hn hstep]
      exact hlatest

/-! ## Steps of the row -/

variable (postcard kind) in
structure Inv (s : PairingView P × EventLog P) : Prop where
  path : EventPath.Inv postcard (s.1.path, s.2)
  ends : s.1.row.pairing = true → s.1.Ends kind s.2

/-- A step beside the event path: the row or its handlers move. -/
theorem Inv.beside (h : Inv postcard kind (s, log)) (hpath : s'.path = s.path)
    (hends : s'.row.pairing = true → s'.Ends kind log) : Inv postcard kind (s', log) :=
  ⟨by rw [hpath]; exact h.path, hends⟩

theorem Coming.frame (h : s.Coming kind log) (hpath : s'.path = s.path) (hunread : s'.unread = s.unread) :
    s'.Coming kind log := by
  unfold Coming at h ⊢
  rw [hpath, hunread]
  exact h

/-- A handler takes a step that leaves no pairing open, or the row shows none any more. -/
theorem Ends.set (h : s.Ends kind log) {i : Nat} {c : Click} (hc : s.clicks[i]? = some c) (c' : Click)
    (hopen : c.Open → c'.Open) (hpath : s'.path = s.path) (hunread : s'.unread = s.unread)
    (hclicks : s'.clicks = s.clicks.set i c') (hwaiters : s'.waiters = s.waiters) : s'.Ends kind log := by
  unfold Ends at h ⊢
  rw [hclicks, hwaiters]
  rcases h with h | h | h
  · exact .inl (exists_mem_set hc hopen h)
  · exact .inr (.inl h)
  · exact .inr (.inr (h.frame hpath hunread))

theorem Ends.concat (h : s.Ends kind log) (c : Click) : Ends kind { s with clicks := s.clicks ++ [c] } log := by
  rcases h with h | h | h
  · exact .inl (exists_mem_concat c h)
  · exact .inr (.inl h)
  · exact .inr (.inr (h.frame rfl rfl))

theorem Inv.reply (h : Inv postcard kind (s, log)) {i : Nat} {r : Except String Unit}
    (hstep : s.clicks[i]?.bind (s.replied kind i r) = some s') : Inv postcard kind (s', log) := by
  obtain ⟨c, hc, hr⟩ := Option.bind_eq_some_iff.mp hstep
  cases c with
  | cancelling =>
    cases hr
    cases r with
    | ok u => exact h.beside rfl fun hp => by cases hp
    | error e => exact h.beside rfl fun hp => (h.ends hp).set hc .done False.elim rfl rfl rfl rfl
  | cancelFirst =>
    cases hr
    exact h.beside rfl fun hp => by cases hp
  | clearing =>
    cases hr
    cases r with
    | ok u => exact h.beside rfl fun hp => (h.ends hp).set hc .done False.elim rfl rfl rfl rfl
    | error e => exact h.beside rfl fun hp => (h.ends hp).set hc .done False.elim rfl rfl rfl rfl
  | starting | started | done => cases hr

theorem Inv.step (hp : postcard.Lossless) {l : PairingStep P} (h : Inv postcard kind (s, log))
    (hkept : Kept kind (s, log) l) (hstep : Step postcard kind s l s') :
    Inv postcard kind (s', logged postcard s l s' log) := by
  unfold Step next at hstep
  cases l with
  | path e =>
    obtain ⟨path', hpath, rfl⟩ := Option.map_eq_some_iff.mp hstep
    have hinv := h.path.step hp hpath
    refine ⟨hinv, fun hshown => ?_⟩
    rcases h.ends hshown with hends | hends | hends
    · exact .inl hends
    · exact .inr (.inl hends)
    · refine .inr (.inr (hends.path hinv hp hpath ?_ ?_))
      · rintro rfl
        exact hkept hshown
      · rintro rfl
        exact hkept hshown
  | clickPair =>
    cases hstep
    exact h.beside rfl fun _ => .inl ⟨.starting, List.mem_append_right _ List.mem_cons_self, trivial⟩
  | clickCancel =>
    cases hstep
    exact h.beside rfl fun hshown => (h.ends hshown).concat _
  | clickClear =>
    cases hstep
    exact h.beside rfl fun hshown => (h.ends hshown).concat _
  | serve i r =>
    dsimp only at hstep
    split at hstep
    · cases hstep
      exact h.beside rfl fun _ => .inr (.inl (Nat.succ_pos _))
    · next e hc =>
      cases hstep
      exact h.beside rfl fun hshown => (h.ends hshown).set hc (.started (.error e)) (fun _ => trivial) rfl rfl rfl rfl
    · cases hstep
  | serveOther =>
    cases hstep
    exact h.beside rfl fun _ => .inr (.inl (Nat.succ_pos _))
  | lose i e =>
    dsimp only at hstep
    split at hstep
    · next hc =>
      cases hstep
      exact h.beside rfl fun hshown => (h.ends hshown).set hc (.started (.error e)) (fun _ => trivial) rfl rfl rfl rfl
    · next hc =>
      cases hstep
      exact h.beside rfl fun hshown => (h.ends hshown).set hc (.started (.error e)) (fun _ => trivial) rfl rfl rfl rfl
    · cases hstep
  | arrive i =>
    dsimp only at hstep
    split at hstep
    · next hc =>
      cases hstep
      exact h.beside rfl fun hshown => (h.ends hshown).set hc .done False.elim rfl rfl rfl rfl
    · cases hstep
      exact h.beside rfl fun hshown => by cases hshown
    · cases hstep
  | reply i r => exact h.reply hstep
  | finish ev =>
    dsimp only at hstep
    split at hstep
    · cases hstep
    · next hready =>
      obtain ⟨path', hpath, rfl⟩ := Option.map_eq_some_iff.mp hstep
      refine ⟨h.path.step hp hpath, fun hshown => ?_⟩
      have hown : kind.result ev ≠ none := fun hnone => hready (.inr hnone)
      have hlogged : logged postcard s (.finish ev) { s with path := path', waiters := s.waiters - 1 } log =
          { log with since := log.since ++ [ev] } := if_pos (hkept hshown)
      rw [hlogged]
      refine .inr (.inr (.inl ⟨ev, ?_, hown⟩))
      have hread : log.got.length ≤ log.since.length := by
        have hle := (h.path.unbroken hp).length_le
        rwa [List.length_map] at hle
      show ev ∈ (log.since ++ [ev]).drop log.got.length
      rw [List.drop_append_of_le_length hread]
      exact List.mem_append_right _ (List.mem_singleton.mpr rfl)
  | effect =>
    dsimp only at hstep
    split at hstep
    · cases hstep
      refine h.beside rfl fun hshown => ?_
      cases hlatest : s.path.hub.latestEvent.bind kind.result with
      | some r =>
        simp [PairingRow.look, hlatest] at hshown
      | none =>
        rw [show s.row.look kind s.path.hub.latestEvent = s.row by simp [PairingRow.look, hlatest]] at hshown
        rcases h.ends hshown with hends | hends | hends | ⟨-, hends⟩
        · exact .inl hends
        · exact .inr (.inl hends)
        · exact .inr (.inr (.inl hends))
        · exact absurd hlatest hends
    · cases hstep

theorem onTheWay_of_drained (hp : postcard.Lossless) (h : Inv postcard kind (s, log)) (hs : s.Settled) :
    onTheWay log = [] := by
  have hall : log.got.length = log.since.length := by
    cases hstream : s.path.stream with
    | none =>
      have hok := h.path.stream
      rw [hstream] at hok
      rw [show log.got = [] from hok.2, show log.since = [] from hok.1]
    | some stream =>
      obtain ⟨hlive, hdrained⟩ := hs.drained stream hstream
      rw [show log.got = _ from h.path.current hp hstream hlive hdrained, List.length_map]
  unfold onTheWay
  rw [hall, List.drop_length]

theorem Inv.answers (hp : postcard.Lossless) (h : Inv postcard kind (s, log)) : Answers kind (s, log) where
  ends := h.ends
  settles hs := by
    rw [← Bool.not_eq_true]
    intro hshown
    rcases h.ends hshown with ⟨c, hc, hopen⟩ | hwaiters | ⟨ev, hev, -⟩ | ⟨hunread, -⟩
    · exact hs.clicks c hc hopen
    · exact absurd hs.waiters (Nat.pos_iff_ne_zero.mp hwaiters)
    · rw [onTheWay_of_drained hp h hs] at hev
      cases hev
    · rw [show s.unread = false from hs.looked] at hunread
      cases hunread

/-- **Pairing settles.**  In every run in which no result is lost while the row shows a pairing,
whatever is clicked and however replies and results cross, the row shows a pairing only while
something is under way that ends it; once everything has settled it shows none. -/
theorem pairing_settles (hp : postcard.Lossless) {path : EventPath P} {log : EventLog P} {waiters : Nat}
    {tr : List (PairingStep P × (PairingView P × EventLog P))} (hpath : EventPath.Inv postcard (path, log))
    (hrun : Exec (ghost (Step postcard kind) (logged postcard)) (shown path waiters, log) tr)
    (hkept : StepsOk (Kept kind) (shown path waiters, log) tr) :
    Always (Answers kind) (shown path waiters, log) tr := by
  have hstep : ∀ t l t', Inv postcard kind t → Kept kind t l →
      ghost (Step postcard kind) (logged postcard) t l t' → Inv postcard kind t' := by
    rintro ⟨s, log⟩ l ⟨s', log'⟩ ht hk ⟨hnext, hlog⟩
    dsimp only at hnext hlog
    rw [hlog]
    exact ht.step hp hk hnext
  have hinit : Inv postcard kind (shown path waiters, log) := ⟨hpath, fun h => by cases h⟩
  exact (hrun.always hstep hinit hkept).imp fun t ht => ht.answers hp

/-- The dongle "D" pairs, and the row hears of it. -/
def paired : List (PairingStep UInt8) :=
  [.path .connect, .clickPair, .serve 0 (.ok ()), .arrive 0,
    .finish (.donglePairingResult "D" true (Uuid.of 1 2 3 4 5 6) "" ""), .path .recv, .path .send, .path .next, .effect]

def pairedRun : List (PairingStep UInt8 × (PairingView UInt8 × EventLog UInt8)) :=
  trace (ghostStep (next Proto.bytePostcard (dongleRow "D")) (logged Proto.bytePostcard)) (shown .init 0, .empty) paired

theorem pairing_settles_paired :
    Always (Answers (dongleRow "D")) (shown .init 0, .empty) pairedRun ∧
      (last (shown .init 0, .empty) pairedRun).1.row =
        { status := "Paired with 01:02:03:04:05:06. Please unplug and replug the dongle.", pairing := false } := by
  refine ⟨?_, by decide⟩
  exact pairing_settles (fun b => ⟨[b], rfl, rfl⟩) (EventPath.inv_init Proto.bytePostcard)
    (exec_ghostStep (fun _ _ _ h => h) _ _ paired)
    ⟨trivial, trivial, trivial, trivial, fun _ => rfl, trivial, trivial, fun _ _ => rfl, trivial, trivial⟩

end PairingView

end OdysseyHub
