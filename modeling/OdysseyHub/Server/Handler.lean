import OdysseyHub.Server.Message

/-!
# The device handler (device_tasks.rs, device_handler_task)

The state of one `device_handler_task` and one turn of its select loop.  A turn
takes an arm of the `select!` and the answers the device gives while the arm
runs, and returns the new locals, whether the loop is left, and the list of what
the arm does to the world, in the order of the source (`Effect`): requests to the
device, replies, events, messages, writes to the shared tables.

Not modelled here: logging, the camera models and filters that only
`handle_stream_event` reads (its call is the effect `streamEvent`), and
`pairing_in_progress`, which is written and never read.
-/

namespace OdysseyHub

open DeviceCapabilities (CONTROL EVENTS DFU)

/-- A request answered within its timeout, or not. -/
abbrev Timed (α : Type) := Option (Except String α)

/-- The source's `match timeout(..)`: a late answer is an error with its own text. -/
def Timed.orError {α : Type} (r : Timed α) (late : String) : Except String α :=
  match r with
  | some r => r
  | none => .error late

inductive SensorStream
  | combinedMarkers
  | pocMarkers
  | accel
  | impact
  | battery
  deriving DecidableEq, Repr

inductive Port
  | nf
  | wf
  deriving DecidableEq, Repr

inductive ConfigKind
  | impactThreshold
  | suppressMs
  deriving DecidableEq, Repr

/-- `GeneralConfig`; the values a handler does not read back are `other`. -/
inductive GeneralConfig
  | impactThreshold (v : UInt8)
  | suppressMs (v : UInt8)
  | other
  deriving DecidableEq, Repr

/-- A request to the device behind a `VmDevice`. -/
inductive DeviceCall
  | startStream (kind : SensorStream)
  | readAllConfig
  | readAllConfigCtrl
  | clearAllStreams
  | writeVendor (tag : UInt8) (data : List UInt8)
  | readRegister (port : Port) (bank address : UInt8)
  | writeRegister (port : Port) (bank address data : UInt8)
  | readConfig (kind : ConfigKind)
  | writeConfig (value : GeneralConfig)
  | readConfigCtrl (kind : ConfigKind)
  | writeConfigCtrl (value : GeneralConfig)
  | flashSettings
  | flashSettingsCtrl
  | startPairing (timeoutMs : UInt32)
  | cancelPairing
  | clearBond
  | setTransportMode (usbMode : Bool)
  | reboot
  | setName (name : String)
  | requestSetDeviceName (name : String)
  | readVersion
  | getTransportMode
  deriving DecidableEq, Repr

/-- The accesses that must not meet a running stream on the device. -/
def DeviceCall.isAccess : DeviceCall → Bool
  | .readRegister .. | .writeRegister .. | .readConfig _ | .writeConfig _ => true
  | _ => false

/-- What is sent on the reply channel of a request. -/
inductive Reply
  | byte (r : Except String UInt8)
  | unit (r : Except String Unit)
  | mode (r : Except String Bool)

/-- The `DeviceEventKind`s the select loop itself emits. -/
inductive EventKind
  | zeroResult (ok : Bool)
  | saveZeroResult (ok : Bool)
  | capabilitiesChanged
  deriving DecidableEq, Repr

/-- A write to the shot-delay tables: `device_shot_delays` or the watch channel. -/
inductive StoreWrite
  | delay (ms : UInt16)
  | watch (ms : UInt32)
  deriving DecidableEq, Repr

structure Isometry where
  translation : Vector F32 3
  rotation : Vector F32 4
  deriving DecidableEq, Repr

/-- What an arm of the loop does, apart from its own locals. -/
inductive Effect
  | call (dev : VmDevice) (request : DeviceCall)
  | reply (r : Reply)
  | event (device : Device) (kind : EventKind)
  | message (m : Message)
  | offsetInsert (uuid : Uuid) (iso : Isometry)
  | offsetRemove (uuid : Uuid)
  | offsetsSave (result : Except String Unit)
  | shotDelay (uuid : Uuid) (w : StoreWrite)
  | bondName (uuid : Uuid) (name : String)
  | updateBondName (hub : Nat) (uuid : Uuid) (name : String)
  | removeDirect (uuid : Uuid)
  | awaitPairing (dev : VmDevice) (device : Device)
  | streamEvent (device : Device) (kind : SensorStream)

/-- What the device (and the config directory) answers while one arm runs; an arm
reads only the fields it asks for. -/
structure Answers where
  streamsStarted : SensorStream → Bool := fun _ => false
  saveOffsets : Except String Unit := .ok ()
  zeroQuat : Option (Vector F32 4) := none
  /-- The acknowledgement of `DisableAll`; the loop only warns where it fails. -/
  clearAllStreams : Except String Unit := .ok ()
  readRegister : Timed UInt8 := none
  writeRegister : Timed Unit := none
  readConfig : Timed GeneralConfig := none
  writeConfig : Timed Unit := none
  readConfigCtrl : Timed GeneralConfig := none
  writeConfigCtrl : Timed Unit := none
  flashSettings : Timed Unit := none
  flashSettingsCtrl : Timed Unit := none
  startPairing : Timed Unit := none
  cancelPairing : Timed Unit := none
  clearBond : Timed Unit := none
  setTransportMode : Timed TransportMode := none
  setName : Timed Unit := none
  /-- `true` is `SetDeviceNameResponse(Ok(()))`. -/
  requestSetDeviceName : Timed Bool := none
  readVersion : Timed Version := none
  getTransportMode : Timed TransportMode := none

structure DeviceConnections where
  controlDevice : Option VmDevice
  eventsDevice : Option VmDevice
  transportMode : TransportMode
  deriving DecidableEq, Repr

/-- The locals of `device_handler_task` that its loop reads. -/
structure Handler where
  connections : DeviceConnections
  device : Device
  protocolVersion : Version
  hubDevice : Option Nat
  currentShotDelay : UInt32
  sensorStreams : List SensorStream
  hasSensorStreams : Bool
  streamsPaused : Bool
  streamsResumeArmed : Bool
  deriving DecidableEq, Repr

/-- The end of a turn: the locals, what was done, and whether the loop was left. -/
structure Outcome where
  handler : Handler
  effects : List Effect
  leave : Bool := false

/-- `protocol_version >= [0, 1, 1]` is the order of arrays, component by component. -/
def Version.lt (v w : Version) : Bool := decide (v.toList < w.toList)

/-! ## Construction -/

/-- What the USB scan has read from a directly connected device. -/
structure UsbProbe where
  uuid : Uuid
  version : Option Version
  eventsVersion : Version
  transportMode : TransportMode
  productId : UInt16
  productString : Option String
  hasDfuInterface : Bool
  device : VmDevice
  deriving DecidableEq, Repr

/-- `device_meta` of a direct-USB handler: control always, events only in USB mode. -/
def usbDeviceMeta (p : UsbProbe) : Device :=
  let usbMode := decide (p.transportMode = .usb)
  let c0 : DeviceCapabilities := ⟨CONTROL⟩
  let c1 := if usbMode then c0.insert EVENTS else c0
  { uuid := p.uuid
    transport := .usb
    capabilities := if p.hasDfuInterface then c1.insert DFU else c1
    firmwareVersion := p.version.getD (Version.of 0 0 0)
    eventsTransport := if usbMode then .wired else .bluetooth
    eventsConnected := usbMode
    productId := p.productId
    name := Device.nameBytes ((p.productString.filter fun s => !s.isEmpty).getD "") }

/-- The locals of a direct-USB handler before its prelude. -/
def usbHandler (p : UsbProbe) (shotDelay : UInt32) : Handler :=
  { connections :=
      { controlDevice := some p.device
        eventsDevice := if p.transportMode = .usb then some p.device else none
        transportMode := p.transportMode }
    device := usbDeviceMeta p
    protocolVersion := p.eventsVersion
    hubDevice := none
    currentShotDelay := shotDelay
    sensorStreams := []
    hasSensorStreams := false
    streamsPaused := false
    streamsResumeArmed := false }

/-- What a hub manager has read from a device behind its dongle. -/
structure MuxProbe where
  uuid : Uuid
  version : Version
  eventsVersion : Version
  productId : UInt16
  name : String
  device : VmDevice
  deriving DecidableEq, Repr

/-- `device_meta` of a BLE-mux handler: no capability until `AddEventsDevice`. -/
def muxDeviceMeta (p : MuxProbe) : Device :=
  { uuid := p.uuid
    transport := .usbMux
    capabilities := .empty
    firmwareVersion := p.version
    eventsTransport := .bluetooth
    eventsConnected := false
    productId := p.productId
    name := Device.nameBytes p.name }

/-- The locals of a BLE-mux handler before its prelude. -/
def muxHandler (p : MuxProbe) (hub : Nat) (shotDelay : UInt32) : Handler :=
  { connections := { controlDevice := none, eventsDevice := none, transportMode := .ble }
    device := muxDeviceMeta p
    protocolVersion := p.eventsVersion
    hubDevice := some hub
    currentShotDelay := shotDelay
    sensorStreams := []
    hasSensorStreams := false
    streamsPaused := false
    streamsResumeArmed := false }

/-! ## Sensor streams -/

/-- The streams `start_sensor_streams` asks for, in order; battery needs protocol 0.1.1. -/
def wantedStreams (protocolVersion : Version) : List SensorStream :=
  [.combinedMarkers, .pocMarkers, .accel, .impact]
    ++ if Version.lt protocolVersion (Version.of 0 1 1) then [] else [.battery]

/-- `start_sensor_streams`: the streams that started. -/
def startSensorStreams (protocolVersion : Version) (a : Answers) : List SensorStream :=
  (wantedStreams protocolVersion).filter a.streamsStarted

def startCalls (dev : VmDevice) (protocolVersion : Version) : List Effect :=
  (wantedStreams protocolVersion).map fun k => .call dev (.startStream k)

namespace Handler

/-- The prelude of the task, up to the loop: read the configuration, start the streams. -/
def start (h : Handler) (a : Answers) : Outcome :=
  match h.connections.eventsDevice with
  | some dev =>
    let streams := startSensorStreams h.protocolVersion a
    { handler := { h with sensorStreams := streams, hasSensorStreams := !streams.isEmpty }
      effects := .call dev .readAllConfig :: startCalls dev h.protocolVersion }
  | none =>
    { handler := { h with sensorStreams := [], hasSensorStreams := false }
      effects := match h.connections.controlDevice with
        | some dev => [.call dev .readAllConfigCtrl]
        | none => [] }

/-- Pause the streams for a batch of register or config accesses, once. -/
def pauseStreams (h : Handler) (dev : VmDevice) : Handler × List Effect :=
  if h.hasSensorStreams then
    ({ h with streamsPaused := true, sensorStreams := [], hasSensorStreams := false },
      [.call dev .clearAllStreams])
  else (h, [])

/-- Arm (or re-arm) the 100 ms resume timer after an access of a batch. -/
def armResume (h : Handler) : Handler :=
  if h.streamsPaused then { h with streamsResumeArmed := true } else h

/-- Restart the streams on `dev`. -/
def restartStreams (h : Handler) (dev : VmDevice) (a : Answers) : Outcome :=
  let streams := startSensorStreams h.protocolVersion a
  { handler := { h with sensorStreams := streams, hasSensorStreams := !streams.isEmpty }
    effects := startCalls dev h.protocolVersion }

/-- A turn that only replies. -/
def replyOnly (h : Handler) (r : Reply) : Outcome := { handler := h, effects := [.reply r] }

/-- One access to the events device inside a batch: pause, ask, reply, arm. -/
def batchAccess (h : Handler) (dev : VmDevice) (request : DeviceCall) (r : Reply) : Outcome :=
  let (h', pause) := h.pauseStreams dev
  { handler := h'.armResume, effects := pause ++ [.call dev request, .reply r] }

/-! ## Offsets and shot delay -/

def resetZero (h : Handler) : Outcome :=
  { handler := h
    effects := [.offsetRemove h.device.uuid, .event h.device (.zeroResult true)] }

/-- The result of the write is logged and dropped. -/
def saveZero (h : Handler) (a : Answers) : Outcome :=
  { handler := h
    effects := [.offsetsSave a.saveOffsets, .event h.device (.saveZeroResult true)] }

def clearZero (h : Handler) : Outcome :=
  { handler := h
    effects := [.offsetRemove h.device.uuid, .event h.device (.saveZeroResult true)] }

/-- `zeroQuat` is the offset computed from the tracking event or the filter state. -/
def zero (h : Handler) (translation : Vector F32 3) (a : Answers) : Outcome :=
  match a.zeroQuat with
  | some quat =>
    { handler := h
      effects := [.offsetInsert h.device.uuid ⟨translation, quat⟩, .event h.device (.zeroResult true)] }
  | none => { handler := h, effects := [.event h.device (.zeroResult false)] }

/-- The two writes of a shot delay: the map, then the watch channel. -/
def shotDelayWrites (ms : UInt16) : List StoreWrite := [.delay ms, .watch ms.toUInt32]

def setShotDelay (h : Handler) (ms : UInt16) : Outcome :=
  { handler := h, effects := (shotDelayWrites ms).map (.shotDelay h.device.uuid) }

/-! ## Vendor packets, registers and configuration -/

def writeVendor (h : Handler) (tag : UInt8) (data : List UInt8) : Outcome :=
  match h.connections.eventsDevice with
  | some dev => { handler := h, effects := [.call dev (.writeVendor tag (data.take 98))] }
  | none => { handler := h, effects := [] }

def portOf (port : UInt8) : Port := if port == 0 then .nf else .wf

/-- What `ReadRegister` and `WriteRegister` share: both need connected events. -/
def registerAccess (h : Handler) (request : DeviceCall) (ok : Reply) (err : String → Reply) : Outcome :=
  if !h.device.eventsConnected then h.replyOnly (err "events transport not connected")
  else match h.connections.eventsDevice with
    | none => h.replyOnly (err "events device not available")
    | some dev => h.batchAccess dev request ok

def readRegister (h : Handler) (port bank address : UInt8) (a : Answers) : Outcome :=
  h.registerAccess (.readRegister (portOf port) bank address)
    (.byte (a.readRegister.orError "read_register timed out")) (fun e => .byte (.error e))

def writeRegister (h : Handler) (port bank address data : UInt8) (a : Answers) : Outcome :=
  h.registerAccess (.writeRegister (portOf port) bank address data)
    (.unit (a.writeRegister.orError "write_register timed out")) (fun e => .unit (.error e))

/-- The byte a config answer carries. -/
def configByte : GeneralConfig → UInt8
  | .impactThreshold v => v
  | .suppressMs v => v
  | .other => 0

def readConfig (h : Handler) (kind : UInt8) (a : Answers) : Outcome :=
  let ck : Option ConfigKind :=
    if kind == 0 then some .impactThreshold else if kind == 1 then some .suppressMs else none
  match ck with
  | none => h.replyOnly (.byte (.error s!"unknown config kind: {kind}"))
  | some ck =>
    match h.connections.eventsDevice, h.connections.controlDevice with
    | some dev, _ =>
      h.batchAccess dev (.readConfig ck)
        (.byte ((a.readConfig.orError "read_config timed out").map configByte))
    | none, some dev =>
      { handler := h
        effects := [.call dev (.readConfigCtrl ck),
          .reply (.byte ((a.readConfigCtrl.orError "read_config_ctrl timed out").map configByte))] }
    | none, none => h.replyOnly (.byte (.error "no device available for read_config"))

def writeConfig (h : Handler) (kind value : UInt8) (a : Answers) : Outcome :=
  let gc : Option GeneralConfig :=
    if kind == 0 then some (.impactThreshold value)
    else if kind == 1 then some (.suppressMs value) else none
  match gc with
  | none => h.replyOnly (.unit (.error s!"unknown config kind: {kind}"))
  | some gc =>
    match h.connections.eventsDevice, h.connections.controlDevice with
    | some dev, _ =>
      h.batchAccess dev (.writeConfig gc) (.unit (a.writeConfig.orError "write_config timed out"))
    | none, some dev =>
      { handler := h
        effects := [.call dev (.writeConfigCtrl gc),
          .reply (.unit (a.writeConfigCtrl.orError "write_config_ctrl timed out"))] }
    | none, none => h.replyOnly (.unit (.error "no device available for write_config"))

def flashSettings (h : Handler) (a : Answers) : Outcome :=
  match h.connections.eventsDevice, h.connections.controlDevice with
  | some dev, _ =>
    { handler := h
      effects := [.call dev .flashSettings,
        .reply (.unit (a.flashSettings.orError "flash_settings timed out"))] }
  | none, some dev =>
    { handler := h
      effects := [.call dev .flashSettingsCtrl,
        .reply (.unit (a.flashSettingsCtrl.orError "flash_settings_ctrl timed out"))] }
  | none, none => h.replyOnly (.unit (.error "no device available for flash_settings"))

/-! ## Pairing, transport mode and name -/

def startPairing (h : Handler) (timeoutMs : UInt32) (a : Answers) : Outcome :=
  match h.connections.controlDevice with
  | some dev =>
    let r := a.startPairing.orError "start_pairing timed out"
    let wait : List Effect := match r with
      | .ok _ => [.awaitPairing dev h.device]
      | .error _ => []
    { handler := h
      effects := [.call dev (.startPairing timeoutMs)] ++ wait ++ [.reply (.unit r)] }
  | none => h.replyOnly (.unit (.error "no control device available"))

/-- What `CancelPairing` and `ClearBond` share: one request to the control device. -/
def controlRequest (h : Handler) (request : DeviceCall) (r : Except String Unit) : Outcome :=
  match h.connections.controlDevice with
  | some dev => { handler := h, effects := [.call dev request, .reply (.unit r)] }
  | none => h.replyOnly (.unit (.error "no control device available"))

def cancelPairing (h : Handler) (a : Answers) : Outcome :=
  h.controlRequest .cancelPairing (a.cancelPairing.orError "cancel_pairing timed out")

def clearBond (h : Handler) (a : Answers) : Outcome :=
  h.controlRequest .clearBond (a.clearBond.orError "clear_bond timed out")

/-- The reply is sent, the device rebooted and the loop left whatever the device answered. -/
def setTransportMode (h : Handler) (usbMode : Bool) (a : Answers) : Outcome :=
  match h.connections.controlDevice with
  | some dev =>
    let r := (a.setTransportMode.orError "set_transport_mode timed out").map fun m =>
      decide (m = .usb)
    { handler := h
      effects := [.call dev (.setTransportMode usbMode), .reply (.mode r), .call dev .reboot]
      leave := true }
  | none => h.replyOnly (.mode (.error "no control device available"))

/-- The character-wise push loop into a 32-byte `heapless::String`. -/
def heaplessName (name : String) : String :=
  let rec push (room : Nat) : List Char → List Char
    | [] => []
    | c :: cs => if c.utf8Size ≤ room then c :: push (room - c.utf8Size) cs else []
  String.ofList (push 32 name.toList)

def setDeviceName (h : Handler) (name : String) (a : Answers) : Outcome :=
  let (r, request) : Except String Unit × List Effect :=
    match h.connections.controlDevice, h.connections.eventsDevice with
    | some dev, _ =>
      (a.setName.orError "set_device_name timed out", [.call dev (.setName name)])
    | none, some dev =>
      (match a.requestSetDeviceName.orError "set_device_name timed out" with
        | .ok true => .ok ()
        | .ok false => .error "unexpected response to SetDeviceName"
        | .error e => .error e,
       [.call dev (.requestSetDeviceName (heaplessName name))])
    | none, none => (.error "no device available", [])
  match r with
  | .ok _ =>
    let push : List Effect := match h.hubDevice with
      | some hub => [.updateBondName hub h.device.uuid (heaplessName name)]
      | none => []
    { handler := { h with device := h.device.setName name }
      effects := request ++ [.bondName h.device.uuid name] ++ push
        ++ [.message (.updateName h.device.uuid name), .reply (.unit r)] }
  | .error _ => { handler := h, effects := request ++ [.reply (.unit r)] }

/-! ## Attaching and detaching the two links -/

/-- `UpdateDevice` on the message channel and `CapabilitiesChanged` to the clients. -/
def announce (d : Device) : List Effect :=
  [.message (.updateDevice d), .event d .capabilitiesChanged]

def addEventsDevice (h : Handler) (dev : VmDevice) (bleVersion : Version) (a : Answers) : Outcome :=
  let h1 : Handler :=
    if Version.lt h.protocolVersion bleVersion then { h with protocolVersion := bleVersion } else h
  -- redundant snapshot of a device that is already streaming
  if h1.hasSensorStreams then { handler := h1, effects := [] }
  else
    let h2 : Handler := { h1 with connections := { h1.connections with eventsDevice := some dev } }
    let o := h2.restartStreams dev a
    let device : Device :=
      { h.device with capabilities := h.device.capabilities.insert EVENTS, eventsConnected := true }
    { handler := { o.handler with device := device }
      effects := o.effects ++ [.call dev .readAllConfig, .event device .capabilitiesChanged,
        .message (.updateDevice device)] }

/-- The firmware version read from a newly attached control device, if it answers. -/
def refreshVersion (d : Device) (a : Answers) : Device :=
  match a.readVersion with
  | some (.ok v) => { d with firmwareVersion := v }
  | _ => d

/-- What a transport mode read over USB says about the events of the device. -/
def refreshTransportMode (d : Device) (hasEventsDevice : Bool) : TransportMode → Device
  | .usb =>
    -- events come from USB, BLE not needed
    { d with
      eventsTransport := .wired, eventsConnected := true
      capabilities := d.capabilities.insert EVENTS }
  | .ble =>
    if hasEventsDevice then { d with eventsTransport := .bluetooth }
    else
      { d with
        eventsTransport := .bluetooth, eventsConnected := false
        capabilities := d.capabilities.remove EVENTS }

def addControlDevice (h : Handler) (dev : VmDevice) (a : Answers) : Outcome :=
  let d1 := refreshVersion h.device a
  let d2 := match a.getTransportMode with
    | some (.ok mode) => refreshTransportMode d1 h.connections.eventsDevice.isSome mode
    | _ => d1
  let d3 : Device :=
    { d2 with capabilities := d2.capabilities.insert CONTROL, transport := .usb }
  { handler :=
      { h with connections := { h.connections with controlDevice := some dev }, device := d3 }
    effects := [.call dev .readVersion, .call dev .getTransportMode] ++ announce d3 }

/-- The events of the handler survive the loss of the USB link. -/
def hasIndependentBleEvents (h : Handler) : Bool :=
  h.connections.eventsDevice.isSome && h.device.eventsTransport == .bluetooth
    && h.device.eventsConnected

def removeControlDevice (h : Handler) : Outcome :=
  let d : Device :=
    { h.device with capabilities := (h.device.capabilities.remove CONTROL).remove DFU }
  if h.hasIndependentBleEvents then
    let d' : Device := { d with transport := .usbMux }
    { handler :=
        { h with connections := { h.connections with controlDevice := none }, device := d' }
      effects := .removeDirect d'.uuid :: announce d' }
  else
    { handler :=
        { h with
          connections := { h.connections with controlDevice := none, eventsDevice := none }
          device := d
          sensorStreams := [] }
      effects := []
      leave := true }

def removeEventsDevice (h : Handler) : Outcome :=
  let d : Device :=
    { h.device with capabilities := h.device.capabilities.remove EVENTS, eventsConnected := false }
  let h1 : Handler :=
    { h with
      connections := { h.connections with eventsDevice := none }
      sensorStreams := []
      hasSensorStreams := false
      device := d }
  if h.connections.controlDevice.isSome then
    let d' : Device := if d.transport = .usbMux then { d with transport := .usb } else d
    { handler := { h1 with device := d' }, effects := announce d' }
  else { handler := h1, effects := [], leave := true }

/-! ## The select loop -/

/-- The `control_stream` arm with a message. -/
def control (h : Handler) (a : Answers) : DeviceTaskMessage → Outcome
  | .resetZero => h.resetZero
  | .saveZero => h.saveZero a
  | .writeVendor tag data => h.writeVendor tag data
  | .setShotDelay ms => h.setShotDelay ms
  | .zero translation _ _ => h.zero translation a
  | .clearZero => h.clearZero
  | .readRegister port bank address => h.readRegister port bank address a
  | .writeRegister port bank address data => h.writeRegister port bank address data a
  | .readConfig kind => h.readConfig kind a
  | .writeConfig kind value => h.writeConfig kind value a
  | .flashSettings => h.flashSettings a
  | .startPairing timeoutMs => h.startPairing timeoutMs a
  | .cancelPairing => h.cancelPairing a
  | .clearBond => h.clearBond a
  | .setTransportMode usbMode => h.setTransportMode usbMode a
  | .setDeviceName name => h.setDeviceName name a
  | .addEventsDevice dev version => h.addEventsDevice dev version a
  | .addControlDevice dev => h.addControlDevice dev a
  | .removeControlDevice => h.removeControlDevice
  | .removeEventsDevice => h.removeEventsDevice

end Handler

/-- An arm of the `select!` with what it received. -/
inductive Arm
  | control (m : DeviceTaskMessage)
  | closed
  | shotDelay (ms : UInt32)
  | resume
  | retry
  | stream (kind : SensorStream)
  | streamsEnded
  deriving DecidableEq, Repr

namespace Handler

/-- One turn of the loop; `none` when the `if` guard of the arm disables it. -/
def turn (h : Handler) (arm : Arm) (a : Answers) : Option Outcome :=
  match arm with
  | .control m => some (h.control a m)
  | .closed => some { handler := h, effects := [], leave := true }
  | .shotDelay ms =>
    some { handler := { h with currentShotDelay := ms }
           effects := [.shotDelay h.device.uuid (.delay ms.toUInt16)] }
  | .resume =>
    if h.streamsResumeArmed then
      let h1 : Handler := { h with streamsResumeArmed := false, streamsPaused := false }
      match h1.hasSensorStreams, h1.connections.eventsDevice with
      | false, some dev => some (h1.restartStreams dev a)
      | _, _ => some { handler := h1, effects := [] }
    else none
  | .retry =>
    match h.hasSensorStreams, h.streamsPaused, h.connections.eventsDevice with
    | false, false, some dev => some (h.restartStreams dev a)
    | _, _, _ => none
  | .stream kind =>
    if h.hasSensorStreams then some { handler := h, effects := [.streamEvent h.device kind] }
    else none
  | .streamsEnded =>
    if h.hasSensorStreams then
      some { handler := { h with hasSensorStreams := false, sensorStreams := [] }, effects := [] }
    else none

end Handler

/-! ## Commands that ask the device once -/

/-- Requests of such a command outside a batch. -/
def DeviceCall.isPlain : DeviceCall → Bool
  | .readConfigCtrl _ | .writeConfigCtrl _ | .flashSettings | .flashSettingsCtrl | .cancelPairing | .clearBond => true
  | _ => false

def DeviceTaskMessage.asksOnce : DeviceTaskMessage → Bool
  | .readRegister .. | .writeRegister .. | .readConfig _ | .writeConfig .. | .flashSettings | .cancelPairing
  | .clearBond => true
  | _ => false

/-- The command reaches its access of the events device. -/
def DeviceTaskMessage.accesses (h : Handler) : DeviceTaskMessage → Bool
  | .readRegister .. | .writeRegister .. => h.device.eventsConnected && h.connections.eventsDevice.isSome
  | .readConfig kind | .writeConfig kind _ => (kind == 0 || kind == 1) && h.connections.eventsDevice.isSome
  | _ => false

namespace Handler

/-- A reply alone, one access in a batch, or one request and its reply; `access` says
whether it is the second. -/
inductive Asked (h : Handler) : Bool → Outcome → Prop
  | replied (r : Reply) : Asked h false (h.replyOnly r)
  | batched {dev : VmDevice} {request : DeviceCall} (r : Reply) (hdev : h.connections.eventsDevice = some dev)
      (hr : request.isAccess = true) : Asked h true (h.batchAccess dev request r)
  | plain (dev : VmDevice) {request : DeviceCall} (r : Reply) (hr : request.isPlain = true) :
      Asked h false { handler := h, effects := [.call dev request, .reply r] }

variable {h : Handler} {a : Answers} {m : DeviceTaskMessage}

theorem registerAccess_asked {request : DeviceCall} (hr : request.isAccess = true) (ok : Reply)
    (err : String → Reply) :
    Asked h (h.device.eventsConnected && h.connections.eventsDevice.isSome)
      (h.registerAccess request ok err) := by
  unfold registerAccess
  cases h.device.eventsConnected with
  | false => exact .replied _
  | true =>
    cases hdev : h.connections.eventsDevice with
    | none => exact .replied _
    | some dev => exact .batched ok hdev hr

theorem readConfig_asked (kind : UInt8) :
    Asked h ((kind == 0 || kind == 1) && h.connections.eventsDevice.isSome) (h.readConfig kind a) := by
  unfold readConfig
  dsimp only
  split
  · next hck =>
    have hk : (kind == 0 || kind == 1) = false := by grind
    rw [hk]
    exact .replied _
  · next ck hck =>
    have hk : (kind == 0 || kind == 1) = true := by grind
    rw [hk, Bool.true_and]
    split
    · next dev hdev =>
      rw [hdev]
      exact .batched _ hdev rfl
    · next hdev _ =>
      rw [hdev]
      exact .plain _ _ rfl
    · next hdev _ =>
      rw [hdev]
      exact .replied _

theorem writeConfig_asked (kind value : UInt8) :
    Asked h ((kind == 0 || kind == 1) && h.connections.eventsDevice.isSome) (h.writeConfig kind value a) := by
  unfold writeConfig
  dsimp only
  split
  · next hck =>
    have hk : (kind == 0 || kind == 1) = false := by grind
    rw [hk]
    exact .replied _
  · next ck hck =>
    have hk : (kind == 0 || kind == 1) = true := by grind
    rw [hk, Bool.true_and]
    split
    · next dev hdev =>
      rw [hdev]
      exact .batched _ hdev rfl
    · next hdev _ =>
      rw [hdev]
      exact .plain _ _ rfl
    · next hdev _ =>
      rw [hdev]
      exact .replied _

theorem flashSettings_asked : Asked h false (h.flashSettings a) := by
  unfold flashSettings
  split
  · exact .plain _ _ rfl
  · exact .plain _ _ rfl
  · exact .replied _

theorem controlRequest_asked {request : DeviceCall} (hr : request.isPlain = true) (r : Except String Unit) :
    Asked h false (h.controlRequest request r) := by
  unfold controlRequest
  split
  · exact .plain _ _ hr
  · exact .replied _

theorem control_asked (h : Handler) (a : Answers) (hm : m.asksOnce = true) :
    Asked h (m.accesses h) (h.control a m) := by
  cases m with
  | readRegister port bank address =>
    simp only [control, readRegister]
    exact registerAccess_asked rfl _ _
  | writeRegister port bank address data =>
    simp only [control, writeRegister]
    exact registerAccess_asked rfl _ _
  | readConfig kind => exact readConfig_asked kind
  | writeConfig kind value => exact writeConfig_asked kind value
  | flashSettings => exact flashSettings_asked
  | cancelPairing =>
    simp only [control, cancelPairing]
    exact controlRequest_asked rfl _
  | clearBond =>
    simp only [control, clearBond]
    exact controlRequest_asked rfl _
  | resetZero | saveZero | clearZero | setShotDelay | writeVendor | zero | startPairing | setTransportMode
  | setDeviceName | addEventsDevice | addControlDevice | removeControlDevice | removeEventsDevice => cases hm

end Handler

end OdysseyHub
