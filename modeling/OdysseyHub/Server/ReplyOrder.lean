import OdysseyHub.Server.ErrorReplies

/-!
# The replies of a handler task (device_tasks.rs, device_handler_task)

A command comes with a reply channel, and the task that takes it owes exactly one reply.  The
log of what a task takes from its queue and does is read by a small automaton, `ReplyProtocol`,
that stops at a command taken while a reply is owed, at a reply nobody waits for, at a reply of
the wrong type, and at an `Ok` for which the device was never asked.

    run none (.taken m :: effects of the turn) = some none      (Handler.control_serves)
    Always RepliesOk … tr                                       (replies_inOrder)
-/

namespace OdysseyHub

open Transition

inductive ReplyKind
  | byte
  | unit
  | mode
  deriving DecidableEq, Repr

def Reply.kind : Reply → ReplyKind
  | .byte _ => .byte
  | .unit _ => .unit
  | .mode _ => .mode

namespace DeviceTaskMessage

/-- The type of the reply channel a command comes with. -/
def replyKind : DeviceTaskMessage → Option ReplyKind
  | .readRegister _ _ _ | .readConfig _ => some .byte
  | .writeRegister _ _ _ _ | .writeConfig _ _ | .flashSettings | .startPairing _ | .cancelPairing | .clearBond
  | .setDeviceName _ => some .unit
  | .setTransportMode _ => some .mode
  | .resetZero | .saveZero | .clearZero | .setShotDelay _ | .writeVendor _ _ | .zero _ _ _
  | .addEventsDevice _ _ | .addControlDevice _ | .removeControlDevice | .removeEventsDevice => none

/-- The request to the device that carries the command out. -/
def makes : DeviceTaskMessage → DeviceCall → Bool
  | .readRegister port bank address, c => c == .readRegister (Handler.portOf port) bank address
  | .writeRegister port bank address data, c => c == .writeRegister (Handler.portOf port) bank address data
  | .readConfig kind, .readConfig ck | .readConfig kind, .readConfigCtrl ck =>
    kind == 0 && ck == .impactThreshold || kind == 1 && ck == .suppressMs
  | .writeConfig kind value, .writeConfig gc | .writeConfig kind value, .writeConfigCtrl gc =>
    kind == 0 && gc == .impactThreshold value || kind == 1 && gc == .suppressMs value
  | .flashSettings, c => c == .flashSettings || c == .flashSettingsCtrl
  | .startPairing timeoutMs, c => c == .startPairing timeoutMs
  | .cancelPairing, c => c == .cancelPairing
  | .clearBond, c => c == .clearBond
  | .setTransportMode usbMode, c => c == .setTransportMode usbMode
  | .setDeviceName name, c => c == .setName name || c == .requestSetDeviceName (Handler.heaplessName name)
  | _, _ => false

end DeviceTaskMessage

/-- The reply has the type of the command, and an `Ok` comes after a request that carries the
command out. -/
def Reply.fits (r : Reply) (m : DeviceTaskMessage) (calls : List DeviceCall) : Bool :=
  m.replyKind == some r.kind && (r.isError || calls.any m.makes)

/-- What a task has taken from its queue and done. -/
inductive TaskEntry
  | taken (m : DeviceTaskMessage)
  | done (e : Effect)

def TaskEntry.command : TaskEntry → Option DeviceTaskMessage
  | .taken m => some m
  | .done _ => none

namespace ReplyProtocol

/-- The command whose reply is owed, with the requests made for it. -/
abbrev Owed := Option (DeviceTaskMessage × List DeviceCall)

def step : Owed → TaskEntry → Option Owed
  | none, .taken m => if m.replyKind.isSome then some (some (m, [])) else some none
  | some _, .taken _ => none
  | some (m, calls), .done (.call _ request) => some (some (m, calls ++ [request]))
  | some (m, calls), .done (.reply r) => if r.fits m calls then some none else none
  | none, .done (.reply _) => none
  | owed, .done _ => some owed

def run (owed : Owed) (log : List TaskEntry) : Option Owed := log.foldlM step owed

theorem run_append (owed : Owed) (log log' : List TaskEntry) :
    run owed (log ++ log') = (run owed log).bind fun o => run o log' :=
  List.foldlM_append

theorem run_cons (owed : Owed) (e : TaskEntry) (log : List TaskEntry) :
    run owed (e :: log) = (step owed e).bind fun o => run o log :=
  List.foldlM_cons

/-- No reply among the effects. -/
def Quiet (es : List Effect) : Prop := ∀ r, .reply r ∉ es

def requests (es : List Effect) : List DeviceCall :=
  es.filterMap fun
    | .call _ request => some request
    | _ => none

theorem Quiet.append {es es' : List Effect} (h : Quiet es) (h' : Quiet es') : Quiet (es ++ es') := by
  intro r hr
  rcases List.mem_append.mp hr with hr | hr
  · exact h r hr
  · exact h' r hr

/-- Quiet effects owe nobody a reply. -/
theorem run_quiet {es : List Effect} (hq : Quiet es) : run none (es.map .done) = some none := by
  induction es with
  | nil => rfl
  | cons e es ih =>
    have ih := ih fun r hr => hq r (List.mem_cons_of_mem e hr)
    have hstep : step none (.done e) = some none := by
      cases e with
      | reply r => exact absurd List.mem_cons_self (hq r)
      | _ => rfl
    rw [List.map_cons, run_cons, hstep]
    exact ih

/-- On the way to the reply, the requests are remembered. -/
theorem run_owed {es : List Effect} (hq : Quiet es) (m : DeviceTaskMessage) (calls : List DeviceCall) :
    run (some (m, calls)) (es.map .done) = some (some (m, calls ++ requests es)) := by
  induction es generalizing calls with
  | nil =>
    rw [show requests [] = [] from rfl, List.append_nil]
    rfl
  | cons e es ih =>
    have ih := ih fun r hr => hq r (List.mem_cons_of_mem e hr)
    rw [List.map_cons, run_cons]
    cases e with
    | reply r => exact absurd List.mem_cons_self (hq r)
    | call dev request =>
      show run (some (m, calls ++ [request])) _ = _
      rw [ih, List.append_assoc]
      rfl
    | _ => exact ih calls

/-- The effects hold one reply, which fits the command and the requests before it. -/
def Serves (m : DeviceTaskMessage) (es : List Effect) : Prop :=
  ∃ before r after, es = before ++ .reply r :: after ∧ Quiet before ∧ Quiet after ∧
    r.fits m (requests before) = true

theorem Serves.run {m : DeviceTaskMessage} {es : List Effect} (hs : Serves m es) :
    run none (.taken m :: es.map .done) = some none := by
  obtain ⟨before, r, after, rfl, hbefore, hafter, hfits⟩ := hs
  have hkind : m.replyKind.isSome = true := by
    have hk := (Bool.and_eq_true _ _ ▸ hfits).1
    rw [beq_iff_eq.mp hk]
    rfl
  have htaken : step none (.taken m) = some (some (m, [])) := if_pos hkind
  have hreply : step (some (m, requests before)) (.done (.reply r)) = some none := if_pos hfits
  rw [run_cons, htaken, List.map_append, List.map_cons]
  show ReplyProtocol.run (some (m, [])) _ = _
  rw [run_append, run_owed hbefore, List.nil_append]
  show ReplyProtocol.run (some (m, requests before)) _ = _
  rw [run_cons, hreply]
  exact run_quiet hafter

/-- A command without a reply channel. -/
theorem run_unasked {m : DeviceTaskMessage} {es : List Effect} (hm : m.replyKind = none) (hq : Quiet es) :
    run none (.taken m :: es.map .done) = some none := by
  have htaken : step none (.taken m) = some none := by
    show (if m.replyKind.isSome then _ else _) = _
    rw [hm]
    rfl
  rw [run_cons, htaken]
  exact run_quiet hq

end ReplyProtocol

namespace Handler

open ReplyProtocol

variable {h : Handler} {m : DeviceTaskMessage} {a : Answers}

/-! ## Turns with a reply -/

theorem quiet_nil : Quiet [] := fun _ hr => absurd hr List.not_mem_nil

theorem quiet_call (dev : VmDevice) (request : DeviceCall) : Quiet [.call dev request] := by
  intro r hr
  cases List.mem_singleton.mp hr

/-- A request was made, so the type is all that counts. -/
theorem fits_of_makes {r : Reply} {calls : List DeviceCall} (request : DeviceCall)
    (hk : m.replyKind = some r.kind) (hreq : request ∈ calls) (hmakes : m.makes request = true) :
    r.fits m calls = true := by
  unfold Reply.fits
  rw [hk, beq_self_eq_true, Bool.true_and, Bool.or_eq_true]
  exact .inr (List.any_eq_true.mpr ⟨request, hreq, hmakes⟩)

theorem fits_of_isError {r : Reply} {calls : List DeviceCall} (hk : m.replyKind = some r.kind)
    (herr : r.isError = true) : r.fits m calls = true := by
  unfold Reply.fits
  rw [hk, herr]
  simp

/-- A command that cannot be carried out gets an error. -/
theorem replyOnly_serves {r : Reply} (hk : m.replyKind = some r.kind) (herr : r.isError = true) :
    Serves m (h.replyOnly r).effects :=
  ⟨[], r, [], rfl, quiet_nil, quiet_nil, fits_of_isError hk herr⟩

/-- One request, then the reply, then nothing that replies. -/
theorem request_serves {dev : VmDevice} {request : DeviceCall} {r : Reply} {rest : List Effect}
    (hk : m.replyKind = some r.kind) (hmakes : m.makes request = true) (hrest : Quiet rest) :
    Serves m (.call dev request :: .reply r :: rest) :=
  ⟨[.call dev request], r, rest, rfl, quiet_call dev request, hrest,
    fits_of_makes request hk List.mem_cons_self hmakes⟩

theorem batchAccess_serves {dev : VmDevice} {request : DeviceCall} {r : Reply}
    (hk : m.replyKind = some r.kind) (hmakes : m.makes request = true) :
    Serves m (h.batchAccess dev request r).effects := by
  have hpause : Quiet (h.pauseStreams dev).2 := by
    unfold pauseStreams
    split
    · exact quiet_call dev .clearAllStreams
    · exact quiet_nil
  refine ⟨(h.pauseStreams dev).2 ++ [.call dev request], r, [], ?_, hpause.append (quiet_call dev request),
    quiet_nil, fits_of_makes request hk ?_ hmakes⟩
  · show (h.pauseStreams dev).2 ++ [.call dev request, .reply r] = _
    rw [List.append_assoc]
    rfl
  · unfold requests
    rw [List.filterMap_append]
    exact List.mem_append_right _ List.mem_cons_self

theorem registerAccess_serves {request : DeviceCall} {ok : Reply} {err : String → Reply}
    (hk : m.replyKind = some ok.kind) (hmakes : m.makes request = true)
    (herr : ∀ e, m.replyKind = some (err e).kind ∧ (err e).isError = true) :
    Serves m (h.registerAccess request ok err).effects := by
  unfold registerAccess
  split
  · exact replyOnly_serves (herr _).1 (herr _).2
  · split
    · exact replyOnly_serves (herr _).1 (herr _).2
    · exact batchAccess_serves hk hmakes

theorem readConfig_serves (kind : UInt8) : Serves (.readConfig kind) (h.readConfig kind a).effects := by
  unfold readConfig
  dsimp only
  split
  · exact replyOnly_serves rfl rfl
  · next ck hck =>
    have hmakes : (kind == 0 && ck == .impactThreshold || kind == 1 && ck == .suppressMs) = true := by
      split at hck
      · next h0 =>
        cases hck
        rw [h0]
        rfl
      · split at hck
        · next h1 =>
          cases hck
          rw [h1]
          simp
        · cases hck
    split
    · exact batchAccess_serves rfl hmakes
    · exact request_serves rfl hmakes quiet_nil
    · exact replyOnly_serves rfl rfl

theorem writeConfig_serves (kind value : UInt8) :
    Serves (.writeConfig kind value) (h.writeConfig kind value a).effects := by
  unfold writeConfig
  dsimp only
  split
  · exact replyOnly_serves rfl rfl
  · next gc hgc =>
    have hmakes : (kind == 0 && gc == .impactThreshold value || kind == 1 && gc == .suppressMs value) = true := by
      split at hgc
      · next h0 =>
        cases hgc
        rw [h0]
        simp
      · split at hgc
        · next h1 =>
          cases hgc
          rw [h1]
          simp
        · cases hgc
    split
    · exact batchAccess_serves rfl hmakes
    · exact request_serves rfl hmakes quiet_nil
    · exact replyOnly_serves rfl rfl

theorem flashSettings_serves : Serves .flashSettings (h.flashSettings a).effects := by
  unfold flashSettings
  split
  · exact request_serves rfl rfl quiet_nil
  · exact request_serves rfl rfl quiet_nil
  · exact replyOnly_serves rfl rfl

/-- The wait for the result of the pairing starts before the reply. -/
theorem startPairing_serves (timeoutMs : UInt32) :
    Serves (.startPairing timeoutMs) (h.startPairing timeoutMs a).effects := by
  unfold startPairing
  split
  · next dev _ =>
    refine ⟨_, _, [], rfl, (quiet_call dev (.startPairing timeoutMs)).append ?_, quiet_nil,
      fits_of_makes (.startPairing timeoutMs) rfl ?_ (beq_self_eq_true _)⟩
    · intro r hr
      split at hr
      · cases List.mem_singleton.mp hr
      · cases hr
    · unfold requests
      rw [List.filterMap_append]
      exact List.mem_append_left _ List.mem_cons_self
  · exact replyOnly_serves rfl rfl

theorem controlRequest_serves {request : DeviceCall} (r : Except String Unit)
    (hk : m.replyKind = some .unit) (hmakes : m.makes request = true) :
    Serves m (h.controlRequest request r).effects := by
  unfold controlRequest
  split
  · exact request_serves hk hmakes quiet_nil
  · exact replyOnly_serves hk rfl

/-- The reboot comes after the reply. -/
theorem setTransportMode_serves (usbMode : Bool) :
    Serves (.setTransportMode usbMode) (h.setTransportMode usbMode a).effects := by
  unfold setTransportMode
  split
  · next dev _ => exact request_serves rfl (beq_self_eq_true _) (quiet_call dev .reboot)
  · exact replyOnly_serves rfl rfl

/-- After the request the tables are written, and the reply is the last thing done. -/
theorem written_serves {dev : VmDevice} {request : DeviceCall} {push : List Effect} {uuid : Uuid} {name : String}
    {r : Reply} (hk : m.replyKind = some r.kind) (hmakes : m.makes request = true) (hpush : Quiet push) :
    Serves m ([.call dev request] ++ [.bondName uuid name] ++ push
      ++ [.message (.updateName uuid name), .reply r]) := by
  refine ⟨[.call dev request] ++ [.bondName uuid name] ++ push ++ [.message (.updateName uuid name)], r, [],
    by simp, ?_, quiet_nil, fits_of_makes request hk (by simp [requests]) hmakes⟩
  refine (Quiet.append ?_ hpush).append ?_
  · intro r hr
    rcases List.mem_pair.mp hr with hr | hr <;> cases hr
  · intro r hr
    cases List.mem_singleton.mp hr

theorem setDeviceName_serves (name : String) :
    Serves (.setDeviceName name) (h.setDeviceName name a).effects := by
  unfold setDeviceName
  cases hc : h.connections.controlDevice with
  | some dev =>
    have hmakes : (DeviceTaskMessage.setDeviceName name).makes (.setName name) = true := by
      show (DeviceCall.setName name == .setName name || _) = true
      rw [beq_self_eq_true, Bool.true_or]
    dsimp only
    split
    · refine written_serves rfl hmakes ?_
      cases h.hubDevice <;> simp [Quiet]
    · exact request_serves rfl hmakes quiet_nil
  | none =>
    cases hev : h.connections.eventsDevice with
    | some dev =>
      have hmakes :
          (DeviceTaskMessage.setDeviceName name).makes (.requestSetDeviceName (heaplessName name)) = true := by
        show (DeviceCall.requestSetDeviceName (heaplessName name) == .setName name ||
          DeviceCall.requestSetDeviceName (heaplessName name) == .requestSetDeviceName (heaplessName name)) = true
        rw [beq_self_eq_true, Bool.or_true]
      dsimp only
      split
      · refine written_serves rfl hmakes ?_
        cases h.hubDevice <;> simp [Quiet]
      · exact request_serves rfl hmakes quiet_nil
    | none => exact replyOnly_serves rfl rfl

/-! ## Turns without -/

theorem quiet_announce (d : Device) : Quiet (announce d) := by
  intro r hr
  rcases List.mem_pair.mp hr with hr | hr <;> cases hr

theorem quiet_startCalls (dev : VmDevice) (v : Version) : Quiet (startCalls dev v) := by
  intro r hr
  obtain ⟨k, -, hk⟩ := List.mem_map.mp hr
  cases hk

theorem quiet_start (h : Handler) (a : Answers) : Quiet (h.start a).effects := by
  unfold start
  split
  · next dev _ =>
    intro r hr
    rcases List.mem_cons.mp hr with hr | hr
    · cases hr
    · exact quiet_startCalls dev _ r hr
  · dsimp only
    split
    · exact quiet_call _ _
    · exact quiet_nil

theorem addEventsDevice_quiet (dev : VmDevice) (v : Version) : Quiet (h.addEventsDevice dev v a).effects := by
  cases hs : h.hasSensorStreams with
  | true =>
    rw [addEventsDevice_effects_streaming h dev v a hs]
    exact quiet_nil
  | false =>
    unfold addEventsDevice
    dsimp only
    split <;> simp only [hs, Bool.false_eq_true, if_false, restartStreams] <;>
      exact (quiet_startCalls dev _).append fun r hr => by simp at hr

theorem addControlDevice_quiet (dev : VmDevice) : Quiet (h.addControlDevice dev a).effects := by
  refine Quiet.append (fun r hr => ?_) (quiet_announce _)
  rcases List.mem_pair.mp hr with hr | hr <;> cases hr

theorem removeControlDevice_quiet : Quiet h.removeControlDevice.effects := by
  unfold removeControlDevice
  split
  · intro r hr
    rcases List.mem_cons.mp hr with hr | hr
    · cases hr
    · exact quiet_announce _ r hr
  · exact quiet_nil

theorem removeEventsDevice_quiet : Quiet h.removeEventsDevice.effects := by
  unfold removeEventsDevice
  dsimp only
  split
  · exact quiet_announce _
  · exact quiet_nil

theorem control_quiet (h : Handler) (a : Answers) (hm : m.replyKind = none) : Quiet (h.control a m).effects := by
  cases m with
  | resetZero | saveZero | clearZero | setShotDelay =>
    intro r hr
    rcases List.mem_pair.mp hr with hr | hr <;> cases hr
  | writeVendor tag data =>
    simp only [control, writeVendor]
    split
    · exact quiet_call _ _
    · exact quiet_nil
  | zero trans point te =>
    simp only [control, zero]
    split <;> simp [Quiet]
  | addEventsDevice dev v => exact addEventsDevice_quiet dev v
  | addControlDevice dev => exact addControlDevice_quiet dev
  | removeControlDevice => exact removeControlDevice_quiet
  | removeEventsDevice => exact removeEventsDevice_quiet
  | readRegister | writeRegister | readConfig | writeConfig | flashSettings | startPairing | cancelPairing | clearBond
  | setTransportMode | setDeviceName => cases hm

/-- The other arms of the loop. -/
theorem turn_quiet {arm : Arm} {o : Outcome} (harm : ∀ m, arm ≠ .control m) (ht : h.turn arm a = some o) :
    Quiet o.effects := by
  cases arm with
  | control m => exact absurd rfl (harm m)
  | closed =>
    cases ht
    exact quiet_nil
  | shotDelay ms =>
    cases ht
    simp [Quiet]
  | resume =>
    simp only [turn] at ht
    split at ht
    · split at ht
      · cases ht
        exact quiet_startCalls _ _
      · cases ht
        exact quiet_nil
    · cases ht
  | retry =>
    simp only [turn] at ht
    split at ht
    · cases ht
      exact quiet_startCalls _ _
    · cases ht
  | stream kind =>
    simp only [turn] at ht
    split at ht
    · cases ht
      simp [Quiet]
    · cases ht
  | streamsEnded =>
    simp only [turn] at ht
    split at ht
    · cases ht
      exact quiet_nil
    · cases ht

/-- A command with a reply channel gets one reply. -/
theorem control_replies (h : Handler) (a : Answers) (hm : m.replyKind.isSome = true) :
    Serves m (h.control a m).effects := by
  cases m with
  | readRegister port bank address => exact registerAccess_serves rfl (beq_self_eq_true _) fun _ => ⟨rfl, rfl⟩
  | writeRegister port bank address data => exact registerAccess_serves rfl (beq_self_eq_true _) fun _ => ⟨rfl, rfl⟩
  | readConfig kind => exact readConfig_serves kind
  | writeConfig kind value => exact writeConfig_serves kind value
  | flashSettings => exact flashSettings_serves
  | startPairing timeoutMs => exact startPairing_serves timeoutMs
  | cancelPairing => exact controlRequest_serves _ rfl (beq_self_eq_true _)
  | clearBond => exact controlRequest_serves _ rfl (beq_self_eq_true _)
  | setTransportMode usbMode => exact setTransportMode_serves usbMode
  | setDeviceName name => exact setDeviceName_serves name
  | resetZero | saveZero | clearZero | setShotDelay | writeVendor | zero | addEventsDevice | addControlDevice
  | removeControlDevice | removeEventsDevice => cases hm

/-- **One command.**  It gets its reply, if it has a reply channel, and there is no other. -/
theorem control_serves (h : Handler) (a : Answers) (m : DeviceTaskMessage) :
    run none (.taken m :: (h.control a m).effects.map .done) = some none := by
  cases hm : m.replyKind with
  | none => exact run_unasked hm (control_quiet h a hm)
  | some kind => exact (control_replies h a (by rw [hm]; rfl)).run

end Handler

namespace HandlerTask

open ReplyProtocol

/-! ## Runs of the task -/

/-- What has arrived in the queue, and what was taken and done. -/
structure ReplyLog where
  received : List DeviceTaskMessage := []
  entries : List TaskEntry := []

/-- The log after a step from `t`.  A message for a task that has ended does not arrive. -/
def ReplyLog.next (t : HandlerTask) (l : TaskLabel) (_ : HandlerTask) (log : ReplyLog) : ReplyLog :=
  match l with
  | .receive m => if t.isFinished then log else { log with received := log.received ++ [m] }
  | .event (.recv _) => { log with entries := log.entries ++ (t.queue.take 1).map .taken }
  | .event .perform => { log with entries := log.entries ++ (t.todo.take 1).map .done }
  | .event _ => log

abbrev LoggedStep : HandlerTask × ReplyLog → TaskLabel → HandlerTask × ReplyLog → Prop :=
  ghost TaskStep ReplyLog.next

/-- The commands are taken in the order in which they arrived, and each is answered as the protocol
says before the next is taken. -/
structure RepliesOk (s : HandlerTask × ReplyLog) : Prop where
  protocol : (run none s.2.entries).isSome = true
  answered : s.1.todo = [] → run none s.2.entries = some none
  inOrder : s.2.entries.filterMap TaskEntry.command <+: s.2.received
  kept : s.1.Running → s.2.entries.filterMap TaskEntry.command ++ s.1.queue = s.2.received

/-- What is still to be done settles what is owed. -/
structure RepliesInv (s : HandlerTask × ReplyLog) : Prop where
  settled : run none (s.2.entries ++ s.1.todo.map .done) = some none
  prelude : s.1.phase = .prelude → s.1.todo = []
  inOrder : s.2.entries.filterMap TaskEntry.command <+: s.2.received
  kept : s.1.Running → s.2.entries.filterMap TaskEntry.command ++ s.1.queue = s.2.received

theorem RepliesInv.repliesOk (s : HandlerTask × ReplyLog) (hi : RepliesInv s) : RepliesOk s where
  protocol := by
    have hs := hi.settled
    rw [run_append] at hs
    obtain ⟨owed, howed, -⟩ := Option.bind_eq_some_iff.mp hs
    rw [howed]
    rfl
  answered := fun htd => by
    have hs := hi.settled
    rwa [htd, List.map_nil, List.append_nil] at hs
  inOrder := hi.inOrder
  kept := hi.kept

/-- A turn that takes `taken` from the queue and settles what it owes. -/
theorem RepliesInv.turned {t : HandlerTask} {log : ReplyLog} (hi : RepliesInv (t, log)) (hrun : t.Running)
    (htd : t.todo = []) (taken q : List DeviceTaskMessage) (hq : t.queue = taken ++ q) {o : Outcome}
    (hserves : run none (taken.map .taken ++ o.effects.map .done) = some none) :
    RepliesInv ({ t with queue := q }.turned o, { log with entries := log.entries ++ taken.map .taken }) := by
  have hcommands : (log.entries ++ taken.map TaskEntry.taken).filterMap TaskEntry.command =
      log.entries.filterMap TaskEntry.command ++ taken := by
    rw [List.filterMap_append, List.filterMap_map]
    exact congrArg _ (List.filterMap_some)
  have hkept : log.entries.filterMap TaskEntry.command ++ taken ++ q = log.received := by
    have hk := hi.kept hrun
    rwa [hq, ← List.append_assoc] at hk
  refine ⟨?_, fun hp => ?_, ?_, fun _ => ?_⟩
  · show run none (log.entries ++ taken.map TaskEntry.taken ++ o.effects.map .done) = some none
    have hs := hi.settled
    rw [htd, List.map_nil, List.append_nil] at hs
    rw [List.append_assoc, run_append, hs]
    exact hserves
  · rw [turned_phase] at hp
    split at hp <;> cases hp
  · show (log.entries ++ taken.map TaskEntry.taken).filterMap TaskEntry.command <+: log.received
    rw [hcommands]
    exact ⟨q, hkept⟩
  · show (log.entries ++ taken.map TaskEntry.taken).filterMap TaskEntry.command ++ q = log.received
    rw [hcommands, hkept]

theorem RepliesInv.step (s : HandlerTask × ReplyLog) (l : TaskLabel) (s' : HandlerTask × ReplyLog)
    (hi : RepliesInv s) (hs : LoggedStep s l s') : RepliesInv s' := by
  obtain ⟨t, log⟩ := s
  obtain ⟨t', log'⟩ := s'
  obtain ⟨hstep, hlog⟩ := hs
  dsimp only at hstep hlog
  cases l with
  | receive m =>
    obtain rfl : t.receive m = t' := Option.some.inj hstep
    cases hf : t.isFinished with
    | true =>
      have hsame : t.receive m = t := by simp [receive, hf]
      rw [show log' = log by rw [hlog]; simp [ReplyLog.next, hf], hsame]
      exact hi
    | false =>
      have hrun : t.Running := fun hp => by simp [isFinished, hp] at hf
      rw [show log' = { log with received := log.received ++ [m] } by rw [hlog]; simp [ReplyLog.next, hf]]
      exact
        { settled := by simpa using hi.settled
          prelude := by simpa using hi.prelude
          inOrder := hi.inOrder.trans (List.prefix_append _ _)
          kept := fun _ => by
            show log.entries.filterMap TaskEntry.command ++ (t.receive m).queue = log.received ++ [m]
            rw [receive_queue t m hrun, ← List.append_assoc, hi.kept hrun] }
  | event e =>
    obtain ⟨ms, a, rfl, hp, rfl⟩ | ⟨a, m, q, o, rfl, hp, htd, hq, ho, rfl⟩ |
      ⟨arm, a, o, he, hp, htd, hq, harm, -, ho, rfl⟩ | ⟨eff, rest, rfl, htd, rfl⟩ | ⟨rfl, hp, htd, rfl⟩ :=
        next_cases hstep
    · have hturn := hi.turned (by simp [Running, hp]) (hi.prelude hp) [] t.queue rfl
        (run_quiet (Handler.quiet_start { t.handler with currentShotDelay := ms } a))
      rw [show log' = { log with entries := log.entries ++ [] } by rw [hlog, List.append_nil]; rfl]
      exact hturn
    · cases ho
      have hturn := hi.turned (by simp [Running, hp]) htd [m] q hq (Handler.control_serves t.handler a m)
      rw [show log' = { log with entries := log.entries ++ [.taken m] } by rw [hlog]; simp [ReplyLog.next, hq]]
      exact hturn
    · have hturn := hi.turned (by simp [Running, hp]) htd [] t.queue rfl
        (run_quiet (Handler.turn_quiet harm ho))
      have hsame : log' = { log with entries := log.entries ++ [] } := by
        rw [hlog, List.append_nil]
        rcases he with rfl | rfl <;> rfl
      rw [hsame]
      exact hturn
    · have hentries : log' = { log with entries := log.entries ++ [.done eff] } := by
        rw [hlog]
        simp [ReplyLog.next, htd]
      have hcommands : (log.entries ++ [TaskEntry.done eff]).filterMap TaskEntry.command =
          log.entries.filterMap TaskEntry.command := by
        rw [List.filterMap_append]
        exact List.append_nil _
      rw [hentries]
      refine ⟨?_, fun hp => ?_, ?_, fun hrun => ?_⟩
      · show run none (log.entries ++ [.done eff] ++ rest.map .done) = some none
        have hs := hi.settled
        rw [show t.todo = eff :: rest from htd, List.map_cons] at hs
        rw [List.append_assoc]
        exact hs
      · have htd' := hi.prelude hp
        rw [htd] at htd'
        cases htd'
      · exact hcommands ▸ hi.inOrder
      · show (log.entries ++ [TaskEntry.done eff]).filterMap TaskEntry.command ++ t.queue = log.received
        rw [hcommands]
        exact hi.kept hrun
    · rw [show log' = log from hlog]
      exact ⟨hi.settled, (fun h => by cases h), hi.inOrder, fun hrun => absurd rfl hrun⟩

/-- **The replies of a task.**  In every run of a handler task the commands are taken in the order
in which they arrived, every command with a reply channel that is taken gets one reply of its type
before the next is taken, an `Ok` only after the device was asked for it, and nothing else is
replied. -/
theorem replies_inOrder {h : Handler} {tr : List (TaskLabel × (HandlerTask × ReplyLog))}
    (hrun : Exec LoggedStep (spawned h, {}) tr) : Always RepliesOk (spawned h, {}) tr := by
  have hinit : RepliesInv (spawned h, {}) :=
    { settled := rfl
      prelude := fun _ => rfl
      inOrder := List.nil_prefix
      kept := fun _ => rfl }
  exact (hrun.invariant RepliesInv.step hinit).imp RepliesInv.repliesOk

/-- A bond cleared and a register read on a device without events, the second behind the first. -/
theorem replies_inOrder_twoCommands :
    let t := spawned (usbHandler (Handler.sampleUsb .ble) 0)
    let tr := trace (ghostStep taskNext ReplyLog.next) (t, {}) [.event (.start 0 {}), .receive .clearBond,
      .receive (.readRegister 0 1 2), .event .perform, .event (.recv { clearBond := some (.ok ()) }),
      .event .perform, .event .perform, .event (.recv {}), .event .perform]
    tr.length = 9 ∧ Always RepliesOk (t, {}) tr :=
  ⟨by decide, replies_inOrder (exec_ghostStep (fun _ _ _ h => h) ReplyLog.next _ _)⟩

end HandlerTask

end OdysseyHub
