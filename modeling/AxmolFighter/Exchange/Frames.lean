import AxmolFighter.Backend.GatewayClient
import AxmolFighter.Protocol.Control
import AxmolFighter.Wrapping

/-!
# The frames between a backend and the gateway

What the framework of `session.rs` and `gateway_client.rs` writes: its registration, messages to other servers
inside a `ForwardToServerReq`, and the answers to pings. A message to another server is a request, a reply or a
push by the sign of its serial, which stands in both headers.
-/

namespace AxmolFighter.Exchange

open Backend (ServerSource)
open Backend.GatewayClient (Fits)

variable (m : MessageMap)

def registerSerial : Int32 := -1

/-- What `register_stream` registers; a backend is given by its service and its instance. -/
def registration (id : UInt32 × UInt32) : ServerRegReq where
  serviceId := id.1
  instanceId := id.2
  loadScore := 0
  acceptingBindings := true
  loadMessage := ""

def controlFrame (msg : Message) (serial : Int32) (sessionId : UInt32) : BackendFrame where
  cmd := backendCmdControl
  msgId := (m.encode msg).1
  serial := serial
  sessionId := sessionId
  payload := (m.encode msg).2

def registrationFrame (id : UInt32 × UInt32) : BackendFrame :=
  controlFrame m (.serverRegReq (registration id)) registerSerial 0

/-- The frame inside the message. -/
def innerFrame (msg : Message) (serial : Int32) : BackendFrame where
  cmd := backendCmdBusiness
  msgId := (m.encode msg).1
  serial := serial
  sessionId := 0
  payload := (m.encode msg).2

/-- `send_server_msg`: the frame that it puts on the connection. -/
def serverFrame (id : UInt32 × UInt32) (target : ServerSource) (msg : Message) (serial : Int32) :
    BackendFrame :=
  controlFrame m (.forwardToServerReq (wrapped id.1 id.2 target (innerFrame m msg serial))) serial 0

def pongFrame (nonce : UInt64) (sessionId : UInt32) : BackendFrame :=
  controlFrame m (.serverPongResp nonce) 0 sessionId

theorem encodeFrame_serverFrame (id : UInt32 × UInt32) (target : ServerSource) (msg : Message) (serial : Int32) :
    encodeFrame (serverFrame m id target msg serial) =
      Backend.sendServerMsg m id.1 id.2 target msg serial := rfl

theorem frame_control (msg : Message) (serial : Int32) (sessionId : UInt32) :
    (ToBackend.control msg serial sessionId).frame m = controlFrame m msg serial sessionId := rfl

/-- What is relied on in the generated code: the ids are those of the messages, and registrations and forwarded
frames are read as they were written, these as long as their payload is one for protocol buffers. -/
structure Faithful : Prop where
  typed : m.Typed
  msgId : ∀ msg, (m.encode msg).1 = msg.msgId
  /-- A message is no shorter than the bytes in it. -/
  contains : ∀ req, req.payload.length ≤ (m.encode (.forwardToServerReq req)).2.length
  forward : ∀ req, req.payload.length < 2 ^ 31 →
    m.decode (m.encode (.forwardToServerReq req)).1 (m.encode (.forwardToServerReq req)).2 =
      .ok (.forwardToServerReq req)
  registration : ∀ id, m.decode (m.encode (.serverRegReq (registration id))).1
    (m.encode (.serverRegReq (registration id))).2 = .ok (.serverRegReq (registration id))

namespace Faithful

variable {m} (hm : Faithful m) {msg : Message} {serial : Int32} {sessionId : UInt32}

include hm

theorem msgId_of_decode {read : Message}
    (h : m.decode (controlFrame m msg serial sessionId).msgId (controlFrame m msg serial sessionId).payload =
      .ok read) : read.msgId = msg.msgId :=
  (hm.typed.msgId _ _ _ h).trans (hm.msgId msg)

theorem payload_le {req : ForwardToServerReq}
    (hfits : Fits (controlFrame m (.forwardToServerReq req) serial sessionId)) :
    req.payload.length + backendHeaderSize ≤ maxPacketSize := by
  have hcontains := hm.contains req
  have hlength : backendHeaderSize + (m.encode (.forwardToServerReq req)).2.length ≤ maxPacketSize := hfits
  omega

theorem decode_forward {req : ForwardToServerReq}
    (hfits : Fits (controlFrame m (.forwardToServerReq req) serial sessionId)) :
    m.decode (controlFrame m (.forwardToServerReq req) serial sessionId).msgId
      (controlFrame m (.forwardToServerReq req) serial sessionId).payload = .ok (.forwardToServerReq req) := by
  have hpayload := hm.payload_le hfits
  refine hm.forward req ?_
  have hmax : maxPacketSize < 2 ^ 31 := by decide
  omega

theorem extract_wrapped {id : UInt32 × UInt32} {target : ServerSource}
    (hfits : Fits (serverFrame m id target msg serial)) :
    tryExtractFrame (encodeFrame (innerFrame m msg serial)) = .ok (some (innerFrame m msg serial, [])) := by
  have hpayload := hm.payload_le hfits
  have hinner : Fits (innerFrame m msg serial) := by
    rw [wrapped, length_encodeFrame] at hpayload
    unfold Fits Backend.GatewayClient.wireSize
    omega
  have hextract := Backend.GatewayClient.extract_encodeFrame hinner []
  rwa [List.append_nil] at hextract

theorem decode_pong {nonce : UInt64} {read : Message}
    (h : m.decode (pongFrame m nonce sessionId).msgId (pongFrame m nonce sessionId).payload = .ok read) :
    ∃ nonce', read = .serverPongResp nonce' := by
  have hid := hm.msgId_of_decode h
  cases read with
  | serverPongResp nonce' => exact ⟨nonce', rfl⟩
  | other msgId payload =>
      obtain ⟨-, hrange⟩ := hm.typed.other _ _ _ _ h
      have hpong : (pongFrame m nonce sessionId).msgId = 115 := hm.msgId _
      rw [hpong] at hrange
      exact absurd hrange (by decide)
  | _ => exact absurd hid (by simp [Message.msgId, serverStatusReqId])

end Faithful

theorem wireMap_faithful : Faithful wireMap where
  typed := wireMap_typed
  msgId := wireMap_msgId
  contains := ForwardToServerReq.length_le_write
  forward req h := congrArg (Except.map Message.forwardToServerReq) (ForwardToServerReq.read_write h)
  registration id := congrArg (Except.map Message.serverRegReq) (ServerRegReq.read_putAll rfl)

end AxmolFighter.Exchange
