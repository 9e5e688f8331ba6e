import AxmolFighter.Protocol.Codec

/-!
# Messages

The messages of `gateway_client.proto` and `gateway_internal.proto`, and the command bytes of the two
kinds of connection. Every other message is passed on or ignored by the code modelled here, which never
looks inside it.

`message_map` (`encode_message`, `decode_message`) is generated code over a protobuf library and is a
parameter.
-/

namespace AxmolFighter

/-! ### Commands -/

def cmdBusiness : UInt8 := 1

def cmdGatewayMessage : UInt8 := 2

def backendCmdBusiness : UInt8 := 101

def backendCmdControl : UInt8 := 102

/-! ### Messages between the gateway and its peers -/

structure ServiceStatus where
  serviceId : UInt32
  instanceId : UInt32
  online : Bool
deriving DecidableEq

structure ServiceEndpoint where
  serviceId : UInt32
  instanceId : UInt32
deriving DecidableEq

structure ServerRegReq where
  serviceId : UInt32
  instanceId : UInt32
  loadScore : UInt32
  acceptingBindings : Bool
  loadMessage : String
deriving DecidableEq

/-- A negative `targetInstanceId` leaves the choice to the gateway. -/
structure BindServiceReq where
  sessionId : UInt32
  serviceId : UInt32
  targetInstanceId : Int32
deriving DecidableEq

structure BindServiceResp where
  sessionId : UInt32
  serviceId : UInt32
  instanceId : UInt32
  code : UInt32
  message : String
deriving DecidableEq

structure UnbindServiceReq where
  sessionId : UInt32
  serviceId : UInt32
deriving DecidableEq

structure UnbindServiceResp where
  sessionId : UInt32
  serviceId : UInt32
  code : UInt32
  message : String
deriving DecidableEq

/-- `payload` is a whole backend frame; the gateway fills in the target and the source. -/
structure ForwardToServerReq where
  targetServiceId : UInt32
  targetInstanceId : Int32
  payload : Bytes
  sourceServiceId : UInt32
  sourceInstanceId : UInt32
deriving DecidableEq

structure ServiceLoadReportPush where
  loadScore : UInt32
  acceptingBindings : Bool
  message : String
deriving DecidableEq

/-- `MessageType`. -/
inductive Message
  | serverStatusReq
  | serverStatusPush (services : List ServiceStatus)
  | gatewayErrorResp (code : UInt32) (message : String)
  | serverRegReq (req : ServerRegReq)
  | serverRegResp (code : UInt32) (servers : List ServiceEndpoint)
  | bindServiceReq (req : BindServiceReq)
  | bindServiceResp (resp : BindServiceResp)
  | unbindServiceReq (req : UnbindServiceReq)
  | unbindServiceResp (resp : UnbindServiceResp)
  | kickSessionReq (sessionId : UInt32)
  | kickSessionRsp (code : UInt32) (sessionId : UInt32)
  | sessionOnlinePush (sessionId : UInt32)
  | sessionOfflinePush (sessionId : UInt32)
  | serverOnlinePush (serviceId instanceId : UInt32)
  | serverOfflinePush (serviceId instanceId : UInt32)
  | forwardToServerReq (req : ForwardToServerReq)
  | serviceLoadReportPush (report : ServiceLoadReportPush)
  | serverPingReq (nonce : UInt64)
  | serverPongResp (nonce : UInt64)
  | other (msgId : UInt16) (payload : Bytes)
deriving DecidableEq

/-- `ServerStatusReq.MsgId`. -/
def serverStatusReqId : UInt16 := 1

/-- `message_map`: `encode_message` gives a message's id and payload, `decode_message` reads them. -/
structure MessageMap where
  encode : Message → UInt16 × Bytes
  decode : UInt16 → Bytes → Except String Message

/-- The ids of `MsgId`. -/
def Message.msgId : Message → UInt16
  | .serverStatusReq => serverStatusReqId
  | .serverStatusPush _ => 2
  | .gatewayErrorResp _ _ => 3
  | .serverRegReq _ => 100
  | .serverRegResp _ _ => 101
  | .bindServiceReq _ => 102
  | .bindServiceResp _ => 103
  | .unbindServiceReq _ => 104
  | .unbindServiceResp _ => 105
  | .kickSessionReq _ => 106
  | .kickSessionRsp _ _ => 107
  | .sessionOnlinePush _ => 108
  | .sessionOfflinePush _ => 109
  | .serverOnlinePush _ _ => 110
  | .serverOfflinePush _ _ => 111
  | .forwardToServerReq _ => 112
  | .serviceLoadReportPush _ => 113
  | .serverPingReq _ => 114
  | .serverPongResp _ => 115
  | .other msgId _ => msgId

def sessionOnlinePushId : UInt16 := 108

def sessionOfflinePushId : UInt16 := 109

def serverOnlinePushId : UInt16 := 110

def serverOfflinePushId : UInt16 := 111

def forwardToServerReqId : UInt16 := 112

def serverPingReqId : UInt16 := 114

/-- Reading follows the ids: a message is read from payloads under its own id only, and the ids of the
messages listed here are theirs alone. -/
structure MessageMap.Typed (m : MessageMap) : Prop where
  msgId : ∀ msgId payload msg, m.decode msgId payload = .ok msg → msg.msgId = msgId
  other : ∀ msgId payload msgId' payload', m.decode msgId payload = .ok (.other msgId' payload') →
    msgId ∉ [1, 2, 3] ∧ (msgId < 100 ∨ 115 < msgId)

/-! ### What the gateway puts on a connection -/

/-- A backend frame that the gateway builds: a control message, or a client's frame passed on. -/
inductive ToBackend
  | control (message : Message) (serial : Int32) (sessionId : UInt32)
  | business (msgId : UInt16) (serial : Int32) (sessionId : UInt32) (payload : Bytes)
deriving DecidableEq

/-- A client frame that the gateway builds: a message of its own, or a backend's frame passed on. -/
inductive ToClient
  | gateway (message : Message) (serial : Int32)
  | business (msgId : UInt16) (serial : Int32) (payload : Bytes)
deriving DecidableEq

def ToBackend.frame (m : MessageMap) : ToBackend → BackendFrame
  | control message serial sessionId =>
      let (msgId, payload) := m.encode message
      { cmd := backendCmdControl, msgId, serial, sessionId, payload }
  | business msgId serial sessionId payload =>
      { cmd := backendCmdBusiness, msgId, serial, sessionId, payload }

def ToClient.frame (m : MessageMap) : ToClient → ClientFrame
  | gateway message serial =>
      let (msgId, payload) := m.encode message
      { cmd := cmdGatewayMessage, msgId, serial, payload }
  | business msgId serial payload => { cmd := cmdBusiness, msgId, serial, payload }

end AxmolFighter
