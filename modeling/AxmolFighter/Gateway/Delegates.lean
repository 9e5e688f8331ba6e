import AxmolFighter.Gateway.Operations

/-!
# What the gateway does with a frame

The delegates of the two kinds of connection, `client_listener.rs` and `internal_listener.rs`, and
`bind_manager.rs`, as programs over the operations on the shared state. Nothing here waits for anything
else, so a handler is interrupted only by other tasks' operations. Logging is left out.
-/

namespace AxmolFighter.Gateway

/-! ### Clients -/

def gatewayErrInvalidCmd : UInt32 := 1

/-- The route leads to a service without an instance. -/
def gatewayErrServiceUnavailable : UInt32 := 2

def gatewayErrServiceNotBound : UInt32 := 3

/-- No route contains the message id. -/
def gatewayErrUnknownRoute : UInt32 := 4

/-- The client has not asked for the server status yet. -/
def gatewayErrUnauthenticated : UInt32 := 5

structure ClientDelegate where
  sessionId : UInt32 := 0
  tx : Option Tx := none
deriving DecidableEq

namespace ClientDelegate

variable (d : ClientDelegate)

def serviceVisibleToSession (serviceId : UInt8) (instanceId : UInt32) : GatewayM Bool := do
  let unbound ← perform (.serviceHasUnboundRoute serviceId)
  if unbound then pure true
  else
    let bound ← perform (.boundInstance d.sessionId serviceId)
    pure (bound.any (· == instanceId))

def buildStatus : GatewayM Message := do
  let statuses ← perform .serviceStatuses
  let services ← Program.filter (fun status => d.serviceVisibleToSession status.1 status.2) statuses
  pure (.serverStatusPush (services.map fun status =>
    { serviceId := status.1.toUInt32, instanceId := status.2, online := true }))

def encodeStatusFrame (serial : Int32) : GatewayM ToClient := do
  let status ← d.buildStatus
  pure (.gateway status (if serial < 0 then -serial else 0))

def broadcastSessionOnline : GatewayM Unit :=
  perform (.broadcast (.control (.sessionOnlinePush d.sessionId) 0 d.sessionId))

/-- A send on the delegate's own channel, once there is one. -/
def sendOwn (message : WriterMessage) : GatewayM Unit :=
  Program.whenSome d.tx fun tx => do
    let _ ← perform (.send tx message)
    pure ()

/-- The first status request is what makes a connection a game client. -/
def handleServerStatusRequest (serial : Int32) : GatewayM Unit := do
  let first ← perform (.authenticate d.sessionId)
  if first then d.broadcastSessionOnline
  let data ← d.encodeStatusFrame serial
  d.sendOwn (.toClient data)

def replyErrorIfRequest (serial : Int32) (code : UInt32) (message : String) : GatewayM Unit :=
  if serial ≥ 0 then pure ()
  else d.sendOwn (.toClient (.gateway (.gatewayErrorResp code message) (-serial)))

def onSessionStart (sessionId : UInt32) (tx : Tx) : GatewayM ClientDelegate := do
  perform (.addSession sessionId tx)
  pure { sessionId, tx := some tx }

def onSessionClose : GatewayM Unit := do
  let wasAuthenticated ← perform (.removeSession d.sessionId)
  perform (.cleanupSession d.sessionId)
  if wasAuthenticated then
    perform (.broadcast (.control (.sessionOfflinePush d.sessionId) 0 d.sessionId))

/-- A business frame goes to the backend that was found, or the client is told that there is none. -/
def forwardBusiness (frame : ClientFrame) (found : Option Tx) (unavailable : String) : GatewayM Unit :=
  match found with
  | some tx => do
      let _ ← perform (.send tx
        (.toBackend (.business frame.msgId frame.serial d.sessionId frame.payload)))
      pure ()
  | none => d.replyErrorIfRequest frame.serial gatewayErrServiceUnavailable unavailable

/-- The match on the route target of a business frame. -/
def routeBusiness (frame : ClientFrame) : RouteTarget → GatewayM Unit
  | .service serviceId => do
      let found ← perform (.findByService serviceId)
      d.forwardBusiness frame found "target service unavailable"
  | .boundService serviceId instanceId => do
      let found ← perform (.findByInstance serviceId instanceId)
      d.forwardBusiness frame found "bound service instance unavailable"
  | .serviceNotBound _ =>
      d.replyErrorIfRequest frame.serial gatewayErrServiceNotBound
        "session has no bound service instance"
  | .unknown => d.replyErrorIfRequest frame.serial gatewayErrUnknownRoute "unknown route"

/-- What is left of the frame at the head of the buffer without its length, and of the buffer. -/
def onTryExtractFrame (buffer : Bytes) : Except String (Option (Bytes × Bytes)) := do
  let extracted ← tryExtractClientFrame buffer
  pure (extracted.map fun (frame, rest) => (frame.body, rest))

/-- The frame arrives as `onTryExtractFrame` leaves it. -/
def onRecvFrame (m : MessageMap) (frame : Bytes) : GatewayM Unit :=
  if frame.length < 7 then pure ()
  else
    let frame := ClientFrame.ofBody frame
    if frame.msgId = serverStatusReqId then
      if frame.cmd ≠ cmdGatewayMessage then
        d.replyErrorIfRequest frame.serial gatewayErrInvalidCmd "gateway message command is required"
      else match m.decode frame.msgId frame.payload with
        | .ok .serverStatusReq => d.handleServerStatusRequest frame.serial
        | _ => d.replyErrorIfRequest frame.serial gatewayErrUnknownRoute "invalid server status request"
    else if frame.cmd ≠ cmdBusiness then
      d.replyErrorIfRequest frame.serial gatewayErrInvalidCmd "business command is required"
    else do
      let authenticated ← perform (.isAuthenticated d.sessionId)
      if !authenticated then
        d.replyErrorIfRequest frame.serial gatewayErrUnauthenticated "client is not authenticated"
      else
        let target ← perform (.resolve frame.msgId d.sessionId)
        d.routeBusiness frame target

end ClientDelegate

/-! ### Bindings -/

namespace BindManager

def bindOk : UInt32 := 0

def noAvailableService : UInt32 := 1

def targetServiceUnreachable : UInt32 := 2

def requesterServiceNotRegistered : UInt32 := 3

def sendBindResult (tx : Tx) (serial : Int32) (req : BindServiceReq) (instanceId code : UInt32)
    (message : String) : GatewayM Unit :=
  if serial = 0 then pure ()
  else do
    let _ ← perform (.send tx (.toBackend (.control (.bindServiceResp
      { sessionId := req.sessionId, serviceId := req.serviceId, instanceId, code, message })
      (if serial < 0 then -serial else serial) req.sessionId)))
    pure ()

def rejectRequest (tx : Tx) (serial : Int32) (req : BindServiceReq) (code : UInt32) (message : String) :
    GatewayM Unit :=
  sendBindResult tx serial req 0 code message

/-- The instance that a request asks for, or leaves to the gateway. -/
def select (req : BindServiceReq) : GatewayM (Except (UInt32 × String) UInt32) :=
  if req.targetInstanceId ≥ 0 then do
    let found ← perform (.findByInstance req.serviceId.toUInt8 req.targetInstanceId.toUInt32)
    pure (if found.isSome then .ok req.targetInstanceId.toUInt32
      else .error (targetServiceUnreachable, "target service instance unreachable"))
  else do
    let candidate ← perform (.selectLowestLoadInstance req.serviceId.toUInt8)
    pure (match candidate with
      | some candidate => .ok candidate.instanceId
      | none => .error (noAvailableService, "no available service"))

def start (tx : Tx) (serial : Int32) (req : BindServiceReq) :
    GatewayM (Option (UInt32 × UInt8 × UInt32)) := do
  let selected ← select req
  match selected with
  | .ok instanceId =>
      perform (.bindService req.sessionId req.serviceId.toUInt8 instanceId)
      sendBindResult tx serial req instanceId bindOk ""
      pure (some (req.sessionId, req.serviceId.toUInt8, instanceId))
  | .error (code, message) =>
      sendBindResult tx serial req 0 code message
      pure none

end BindManager

/-! ### Backends -/

def serverRegOk : UInt32 := 0

/-- Another connection holds the instance. -/
def serverRegErrInstanceAlreadyRegistered : UInt32 := 1

/-- The connection holds another instance. -/
def serverRegErrSessionAlreadyRegistered : UInt32 := 2

/-- The heartbeat is kept with the shared state, under the session. -/
structure InternalDelegate where
  sessionId : UInt32 := 0
  tx : Option Tx := none
  registered : Option (UInt8 × UInt32) := none
deriving DecidableEq

namespace InternalDelegate

variable (d : InternalDelegate)

def serviceVisibleToSession (sessionId : UInt32) (serviceId : UInt8) (instanceId : UInt32) :
    GatewayM Bool := do
  let unbound ← perform (.serviceHasUnboundRoute serviceId)
  if unbound then pure true
  else
    let bound ← perform (.boundInstance sessionId serviceId)
    pure (bound.any (· == instanceId))

def sendServiceStatusToSession (sessionId : UInt32) (serviceId : UInt8) (instanceId : UInt32)
    (online : Bool) : GatewayM Unit := do
  let authenticated ← perform (.isAuthenticated sessionId)
  if authenticated then
    let _ ← perform (.sendToClient sessionId (.gateway
      (.serverStatusPush [{ serviceId := serviceId.toUInt32, instanceId, online }]) 0))

def pushServiceStatus (serviceId : UInt8) (instanceId : UInt32) (online : Bool) : GatewayM Unit := do
  let sessions ← perform .authenticatedSessions
  Program.forEach (fun sessionId => do
    let visible ← serviceVisibleToSession sessionId serviceId instanceId
    if visible then sendServiceStatusToSession sessionId serviceId instanceId online) sessions

/-- A control message on the delegate's own channel, once there is one. -/
def sendControl (message : Message) (serial : Int32) (sessionId : UInt32) : GatewayM Unit :=
  Program.whenSome d.tx fun tx => do
    let _ ← perform (.send tx (.toBackend (.control message serial sessionId)))
    pure ()

/-- Despite its name this answers every frame with a serial, a reply as well as a request. -/
def replyControlErrorIfRequest (serial : Int32) (code : UInt32) (message : String) : GatewayM Unit :=
  if serial = 0 then pure ()
  else d.sendControl (.gatewayErrorResp code message) (if serial < 0 then -serial else serial) 0

def onSessionStart (sessionId : UInt32) (tx : Tx) : GatewayM InternalDelegate := do
  perform (.startHeartbeat sessionId)
  pure { d with sessionId, tx := some tx }

def onSessionClose : GatewayM Unit := do
  let removed ← perform (.unregister d.sessionId)
  Program.whenSome removed fun (serviceId, instanceId) => do
    perform (.broadcastExcept d.sessionId
      (.control (.serverOfflinePush serviceId.toUInt32 instanceId) 0 0))
    -- The clients are told before their bindings go.
    pushServiceStatus serviceId instanceId false
    perform (.unbindAllByInstance serviceId instanceId)

/-- The effect of a registration on the connection: the code of the answer, whether to announce the
backend, and the delegate. -/
def registerResult (req : ServerRegReq) : RegisterResult → GatewayM (UInt32 × Bool × InternalDelegate)
  | .registered => do
      let _ ← perform (.updateLoad d.sessionId req.serviceId.toUInt8 req.instanceId req.loadScore
        req.acceptingBindings req.loadMessage)
      pure (serverRegOk, true, { d with registered := some (req.serviceId.toUInt8, req.instanceId) })
  | .alreadyRegistered => do
      let _ ← perform (.updateLoad d.sessionId req.serviceId.toUInt8 req.instanceId req.loadScore
        req.acceptingBindings req.loadMessage)
      pure (serverRegOk, false, { d with registered := some (req.serviceId.toUInt8, req.instanceId) })
  | .sessionAlreadyRegistered => pure (serverRegErrSessionAlreadyRegistered, false, d)
  | .instanceAlreadyRegistered => pure (serverRegErrInstanceAlreadyRegistered, false, d)

/-- What a newly registered backend is told, and the others about it. -/
def announce (req : ServerRegReq) : GatewayM Unit := do
  perform (.broadcastExcept d.sessionId (.control (.serverOnlinePush req.serviceId req.instanceId) 0 0))
  pushServiceStatus req.serviceId.toUInt8 req.instanceId true
  let sessions ← perform .authenticatedSessions
  Program.forEach (fun sid => d.sendControl (.sessionOnlinePush sid) 0 sid) sessions

def handleServerRegReq (serial : Int32) (req : ServerRegReq) : GatewayM InternalDelegate :=
  match d.tx with
  | none => pure d
  | some tx => do
      let result ← perform (.register d.sessionId req.serviceId.toUInt8 req.instanceId tx)
      let (code, shouldBroadcastOnline, d') ← d.registerResult req result
      let servers ← perform (.listAllExcept d.sessionId)
      let _ ← perform (.send tx (.toBackend (.control (.serverRegResp code (servers.map fun server =>
        { serviceId := server.1.toUInt32, instanceId := server.2 })) serial 0)))
      if shouldBroadcastOnline then d.announce req
      pure d'

def handleBindServiceReq (serial : Int32) (req : BindServiceReq) : GatewayM Unit :=
  match d.tx with
  | none => pure ()
  | some tx =>
      match d.registered with
      | none => BindManager.rejectRequest tx serial req BindManager.requesterServiceNotRegistered
          "requester not registered"
      | some _ => do
          let bound ← BindManager.start tx serial req
          Program.whenSome bound fun (sessionId, serviceId, instanceId) =>
            sendServiceStatusToSession sessionId serviceId instanceId true

def handleUnbindServiceReq (serial : Int32) (req : UnbindServiceReq) : GatewayM Unit := do
  let removed ← perform (.unbindService req.sessionId req.serviceId.toUInt8)
  Program.whenSome removed fun instanceId =>
    sendServiceStatusToSession req.sessionId req.serviceId.toUInt8 instanceId false
  if serial < 0 then
    d.sendControl (.unbindServiceResp
      { sessionId := req.sessionId, serviceId := req.serviceId, code := 0, message := "" }) (-serial) 0

def handleKickSessionReq (serial : Int32) (sessionId : UInt32) : GatewayM Unit := do
  perform (.kick sessionId)
  perform (.cleanupSession sessionId)
  if serial < 0 then d.sendControl (.kickSessionRsp 0 sessionId) (-serial) 0

/-- The instance that a forwarded frame goes to, and its channel. -/
def selectTarget (req : ForwardToServerReq) : GatewayM (Except (UInt32 × String) (UInt32 × Tx)) :=
  if req.targetInstanceId ≥ 0 then do
    let found ← perform (.findByInstance req.targetServiceId.toUInt8 req.targetInstanceId.toUInt32)
    pure (match found with
      | some tx => .ok (req.targetInstanceId.toUInt32, tx)
      | none => .error (2, "target service instance unreachable"))
  else do
    let candidate ← perform (.selectLowestLoadInstance req.targetServiceId.toUInt8)
    pure (match candidate with
      | some candidate => .ok (candidate.instanceId, candidate.tx)
      | none => .error (1, "no available service"))

def handleServerForward (serial : Int32) (req : ForwardToServerReq) : GatewayM Unit :=
  match d.registered with
  | none => d.replyControlErrorIfRequest serial 3 "requester service not registered"
  | some (sourceServiceId, sourceInstanceId) => do
      let selected ← selectTarget req
      match selected with
      | .ok (instanceId, tx) =>
          -- The source is what the gateway has recorded, whatever the request says.
          let sent ← perform (.send tx (.toBackend (.control (.forwardToServerReq { req with
            targetInstanceId := instanceId.toInt32
            sourceServiceId := sourceServiceId.toUInt32
            sourceInstanceId }) 0 0)))
          if sent then pure ()
          else d.replyControlErrorIfRequest serial 2 "target service instance unreachable"
      | .error (code, message) => d.replyControlErrorIfRequest serial code message

def handleServiceLoadReportPush (report : ServiceLoadReportPush) : GatewayM Unit :=
  Program.whenSome d.registered fun (serviceId, instanceId) => do
    let _ ← perform (.updateLoad d.sessionId serviceId instanceId report.loadScore
      report.acceptingBindings report.message)
    pure ()

def handleServerPongResp (nonce : UInt64) : GatewayM Unit := do
  let latency ← perform (.acknowledge d.sessionId nonce)
  Program.whenSome latency fun latencyMs => do
    let _ ← perform (.updateLatency d.sessionId latencyMs)
    pure ()

/-- The match of `handle_internal` on a decoded control message. -/
def handleMessage (serial : Int32) : Message → GatewayM InternalDelegate
  | .serverRegReq req => d.handleServerRegReq serial req
  | .bindServiceReq req => do
      d.handleBindServiceReq serial req
      pure d
  | .serviceLoadReportPush report => do
      d.handleServiceLoadReportPush report
      pure d
  | .serverPongResp nonce => do
      d.handleServerPongResp nonce
      pure d
  | .unbindServiceReq req => do
      d.handleUnbindServiceReq serial req
      pure d
  | .kickSessionReq sessionId => do
      d.handleKickSessionReq serial sessionId
      pure d
  | .forwardToServerReq req => do
      d.handleServerForward serial req
      pure d
  | _ => pure d

def handleInternal (m : MessageMap) (frame : BackendFrame) : GatewayM InternalDelegate :=
  if frame.cmd ≠ backendCmdControl then pure d
  else match m.decode frame.msgId frame.payload with
    | .ok message => d.handleMessage frame.serial message
    | .error _ => pure d

/-- What is left of the frame at the head of the buffer without its length, and of the buffer. -/
def onTryExtractFrame (buffer : Bytes) : Except String (Option (Bytes × Bytes)) := do
  let extracted ← tryExtractFrame buffer
  pure (extracted.map fun (frame, rest) => (frame.body, rest))

/-- The frame arrives as `onTryExtractFrame` leaves it. -/
def onRecvFrame (m : MessageMap) (frame : Bytes) : GatewayM InternalDelegate :=
  if frame.length < 11 then pure d
  else
    let frame := BackendFrame.ofBody frame
    if frame.cmd = backendCmdBusiness then do
      let _ ← perform (.sendToClient frame.sessionId
        (.business frame.msgId frame.serial frame.payload))
      pure d
    else d.handleInternal m frame

end InternalDelegate

end AxmolFighter.Gateway
