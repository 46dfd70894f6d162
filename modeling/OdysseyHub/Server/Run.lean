import OdysseyHub.Lib.Transition
import OdysseyHub.Server.DeviceList
import OdysseyHub.Server.Scan
import OdysseyHub.Server.HubManager

/-!
# The server as one transition system

The forwarding loop `event_fwd_stream` and the RPCs (lib.rs, server.rs), and the
step of the whole system: any task that can move does.
-/

namespace OdysseyHub

/-! ## The forwarding loop -/

/-- `event_fwd_stream` on the messages about dongles. -/
def forwardDongle (l : List (DongleInfo × ManagerId)) : Message → List (DongleInfo × ManagerId)
  | .dongleConnect info commands =>
    match l.findIdx? (fun e => e.1.id == info.id) with
    | some i => l.set i (info, commands)
    | none => l ++ [(info, commands)]
  | .dongleUpdate info =>
    match l.findIdx? (fun e => e.1.id == info.id) with
    | some i => l.modify i fun e => (info, e.2)
    | none => l
  | .dongleDisconnect id => l.eraseP fun e => e.1.id == id
  | .connect .. | .disconnect _ | .updateDevice _ | .updateName .. => l

/-! ## Steps -/

inductive Event
  | scan (e : ScanEvent)
  | manager (m : ManagerId) (e : ManagerEvent)
  | handler (h : HandlerId) (e : HandlerEvent)
  /-- the forwarding loop takes a message -/
  | forward
  /-- an RPC looks up the sender of a device -/
  | request (u : Uuid) (m : DeviceTaskMessage)
  /-- a pending RPC sends, or gives up -/
  | deliver (i : Nat)
  | cancel (i : Nat)
  /-- `set_device_name` has had its answer -/
  | rename (u : Uuid) (name : String)
  /-- a dongle reports a successful pairing -/
  | paired (addr : Uuid) (name : String)

namespace Sys

/-- What an effect of a handler does to the shared tables. -/
def perform (s : Sys) : Effect → Sys
  | .message m => s.post m
  | .removeDirect u => { s with directUsbHandlerUuids := s.directUsbHandlerUuids.erase u }
  | .bondName u name => { s with bondNames := s.bondNames.insert u name }
  | _ => s

def setHandler (s : Sys) (h : HandlerId) (t : HandlerTask) : Sys :=
  { s with handlers := s.handlers.set h t }

def handlerStep (s : Sys) (h : HandlerId) (e : HandlerEvent) : Option Sys :=
  match s.handlers[h]? with
  | none => none
  | some t =>
    match e, t.next e with
    | _, none => none
    | .closed, some t' => if s.senderHeld h then none else some (s.setHandler h t')
    | .perform, some t' => (t.todo.head?).map (s.setHandler h t').perform
    | .exit, some t' => some ((s.setHandler h t').post (.disconnect t.handler.device))
    | _, some t' => some (s.setHandler h t')

def forward (s : Sys) : Option Sys :=
  match s.messageChannel with
  | m :: rest =>
    some
      { s with
        messageChannel := rest
        deviceList := s.deviceList.forward m
        dongleList := forwardDongle s.dongleList m }
  | [] => none

def request (s : Sys) (u : Uuid) (m : DeviceTaskMessage) : Option Sys :=
  match m.isLink, s.deviceList.senderForUuid u with
  | false, some (some h) => some { s with calls := s.calls ++ [(h, m)] }
  | _, _ => none

def cancel (s : Sys) (i : Nat) : Sys := { s with calls := s.calls.eraseIdx i }

def deliver (s : Sys) (i : Nat) : Option Sys :=
  (s.calls[i]?).map fun c => (s.cancel i).send c.1 c.2

def rename (s : Sys) (u : Uuid) (name : String) : Sys :=
  { s with deviceList := s.deviceList.update u fun e => (e.1.setName name, e.2) }

def paired (s : Sys) (addr : Uuid) (name : String) : Sys :=
  if name = "" then s else { s with bondNames := s.bondNames.insert addr name }

def step (s : Sys) : Event → Option Sys
  | .scan e => s.scanStep e
  | .manager m e => s.managerStep m e
  | .handler h e => s.handlerStep h e
  | .forward => s.forward
  | .request u m => s.request u m
  | .deliver i => s.deliver i
  | .cancel i => some (s.cancel i)
  | .rename u name => some (s.rename u name)
  | .paired addr name => some (s.paired addr name)

/-- A step of the server. -/
def Step (s : Sys) (e : Event) (s' : Sys) : Prop := s.step e = some s'

/-- The run that a list of events makes. -/
def run (events : List Event) : List (Event × Sys) := Transition.trace step init events

theorem exec_run (events : List Event) : Transition.Exec Step init (run events) :=
  Transition.exec_trace (fun _ _ _ h => h) init events

end Sys

/-! ## A dongle and a gun -/

def sampleDongle : UsbEntry :=
  { id := 1
    vendorId := 0x1915
    productId := 0x5213
    product := some .mux
    serialNumber := some "D0"
    productString := none
    hasDfuInterface := false }

def sampleGun : UsbEntry :=
  { id := 2
    vendorId := 0x1915
    productId := 0x5210
    product := some .atsLite
    serialNumber := some "C00102030405"
    productString := none
    hasDfuInterface := true }

def sampleUuid : Uuid := Uuid.of 0xC0 1 2 3 4 5

/-- A scan finds the gun, in USB mode, and its `Connect` is forwarded. -/
def plugIn : List Event :=
  [.scan (.enumerate [sampleGun]), .scan (.cleanup []),
    .scan (.probe 1 sampleUuid none (some .usb) none), .scan .lock, .scan .spawn, .scan .insert,
    .scan .insertDirect, .scan .connect, .scan (.missing []), .scan (.unplugged []), .scan .sleep,
    .forward]

/-- A dongle brings a gun, which gets a handler. -/
def muxed : List Event :=
  [.scan (.enumerate [sampleDongle]), .scan (.cleanup []), .scan (.hub true), .scan (.missing []),
    .scan (.unplugged []), .scan .sleep, .manager 0 (.readVersions none none none),
    .manager 0 .register, .manager 0 (.initial (some [sampleUuid])),
    .manager 0 (.snapshot [sampleUuid] [sampleUuid]),
    .manager 0 (.probe 1 (some sampleUuid) none none none), .manager 0 .lock, .manager 0 .spawn,
    .manager 0 .insert, .manager 0 .connect, .manager 0 .queue, .manager 0 (.removed []),
    .manager 0 (.rebond none), .manager 0 (.update [sampleUuid])]

example : uuidFromUsbSerial sampleGun.serialNumber = some sampleUuid := by decide

end OdysseyHub
