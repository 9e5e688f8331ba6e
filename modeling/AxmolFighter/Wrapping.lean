import AxmolFighter.Battle.BackendCodec
import AxmolFighter.Gateway.Replies
import AxmolFighter.Protocol.Forwarding

/-!
# A frame inside a message inside a frame

A backend sends a frame to another inside a `ForwardToServerReq`, in a frame of its own to the gateway. The
gateway writes the message again with the source and the target that it knows, in a third frame. Each time
the whole grows by a header and the message's other fields, and nobody who writes looks at the maximum.
-/

namespace AxmolFighter

open Gateway (InternalDelegate GatewayM signature Tx)
open Backend (ServerSource)

/-! ### The senders -/

/-- `send_server_msg`: what is put on the connection. -/
def Backend.sendServerMsg (m : MessageMap) (serviceId instanceId : UInt32) (target : ServerSource)
    (msg : Message) (serial : Int32) : Bytes :=
  let (msgId, payload) := m.encode msg
  let frame := encodeFrame { cmd := backendCmdBusiness, msgId, serial, sessionId := 0, payload }
  let (forwardId, forwardPayload) := m.encode (.forwardToServerReq {
    targetServiceId := target.serviceId
    targetInstanceId := target.instanceId
    payload := frame
    sourceServiceId := serviceId
    sourceInstanceId := instanceId })
  encodeFrame {
    cmd := backendCmdControl, msgId := forwardId, serial, sessionId := 0, payload := forwardPayload }

/-- `BackendClient::sendServerPayload`; `serialize` is `SerializeToString`. -/
def Battle.sendServerPayload (serialize : ForwardToServerReq → Bytes) (serviceId instanceId : UInt32)
    (target : ServerSource) (msgId : UInt16) (serial : Int32) (sessionId : UInt32) (payload : Battle.Chars) :
    Battle.Chars :=
  let inner := Battle.encodeBackendFrame backendCmdBusiness msgId serial sessionId payload
  let forwardPayload := serialize {
    targetServiceId := target.serviceId
    targetInstanceId := target.instanceId
    payload := inner.map Int8.toUInt8
    sourceServiceId := serviceId
    sourceInstanceId := instanceId }
  Battle.encodeBackendFrame backendCmdControl forwardToServerReqId serial 0 (Battle.chars forwardPayload)

/-- The message that carries a frame. -/
def wrapped (serviceId instanceId : UInt32) (target : ServerSource) (inner : BackendFrame) :
    ForwardToServerReq where
  targetServiceId := target.serviceId
  targetInstanceId := target.instanceId
  payload := encodeFrame inner
  sourceServiceId := serviceId
  sourceInstanceId := instanceId

/-- What either sender emits for an inner frame; the Rust framework leaves its session empty. -/
inductive Emitted (m : MessageMap) (serialize : ForwardToServerReq → Bytes) (serviceId instanceId : UInt32)
    (target : ServerSource) (inner : BackendFrame) : Bytes → Prop
  | rust (msg : Message) (hmsg : m.encode msg = (inner.msgId, inner.payload)) (hsession : inner.sessionId = 0) :
      Emitted m serialize serviceId instanceId target inner
        (Backend.sendServerMsg m serviceId instanceId target msg inner.serial)
  | cpp : Emitted m serialize serviceId instanceId target inner
      ((Battle.sendServerPayload serialize serviceId instanceId target inner.msgId inner.serial inner.sessionId
        (Battle.chars inner.payload)).map Int8.toUInt8)

/-! ### The gateway -/

/-- The message as the gateway passes it on. -/
def calibrated (req : ForwardToServerReq) (instanceId : UInt32) (source : UInt8 × UInt32) :
    ForwardToServerReq :=
  { req with
    targetInstanceId := instanceId.toInt32
    sourceServiceId := source.1.toUInt32
    sourceInstanceId := source.2 }

/-- The look-up has found this instance. -/
inductive Found (instanceId : UInt32) (tx : Tx) : signature.Call → Prop
  | byInstance (serviceId : UInt8) : Found instanceId tx ⟨.findByInstance serviceId instanceId, some tx⟩
  | byLoad (serviceId : UInt8) : Found instanceId tx ⟨.selectLowestLoadInstance serviceId, some ⟨instanceId, tx⟩⟩

/-- The handler of the frame looks an instance up, finds this one, and passes the message on. -/
def Relayed (m : MessageMap) (d : InternalDelegate) (outer : BackendFrame) (instanceId : UInt32)
    (r : ForwardToServerReq) : Prop :=
  ∃ (lookup : signature.Call) (tx : Tx) (sent : Bool) (next : GatewayM InternalDelegate),
    Found instanceId tx lookup ∧ (d.onRecvFrame m outer.body).Path
      [lookup, ⟨.send tx (.toBackend (.control (.forwardToServerReq r) 0 0)), sent⟩] next

/-- The extractor takes the frame out of the bytes, whatever follows. -/
def Accepted (bytes : Bytes) (frame : BackendFrame) : Prop :=
  ∀ rest, tryExtractFrame (bytes ++ rest) = .ok (some (frame, rest))

/-- The way of an inner frame: the gateway's extractor accepts what is emitted, the receiver's extractor what
the gateway makes of it, and what the receiver unwraps is the inner frame. -/
def Wraps (m : MessageMap) (d : InternalDelegate) (bytes : Bytes) (instanceId : UInt32) (inner : BackendFrame) :
    Prop :=
  ∃ outer r frame req, Accepted bytes outer ∧ (∀ r', Relayed m d outer instanceId r' ↔ r' = r) ∧
    Accepted (encodeFrame ((ToBackend.control (.forwardToServerReq r) 0 0).frame m)) frame ∧
      m.decode frame.msgId frame.payload = .ok (.forwardToServerReq req) ∧ Accepted req.payload inner ∧
        Battle.decodeBackendFrame (Battle.chars req.payload) = .ok inner

variable {m : MessageMap} {serialize : ForwardToServerReq → Bytes} {serviceId instanceId : UInt32}
  {target : ServerSource} {inner : BackendFrame}

/-! ### Sizes -/

theorem accepted_encodeFrame {frame : BackendFrame} (h : backendHeaderSize + frame.payload.length ≤ maxPacketSize) :
    Accepted (encodeFrame frame) frame := fun rest => by
  rw [tryExtractFrame_encode frame (h.trans_lt maxPacketSize_lt), if_neg (Nat.not_lt.2 h)]

theorem Accepted.encodeFrame {frame frame' : BackendFrame} (h : Accepted (encodeFrame frame) frame')
    (hlen : backendHeaderSize + frame.payload.length < 2 ^ 32) :
    frame' = frame ∧ backendHeaderSize + frame.payload.length ≤ maxPacketSize := by
  have hextract := h []
  rw [tryExtractFrame_encode frame hlen] at hextract
  split_ifs at hextract with hlarge
  cases hextract
  exact ⟨rfl, Nat.le_of_not_lt hlarge⟩

theorem length_encodeFrame (frame : BackendFrame) :
    (encodeFrame frame).length = backendHeaderSize + frame.payload.length := by
  rw [AxmolFighter.encodeFrame, List.length_append, Bytes.length_putU32, frame.length_body]

/-- A frame that carries a message. -/
def carrier (write : ForwardToServerReq → Bytes) (serial : Int32) (req : ForwardToServerReq) : BackendFrame :=
  { cmd := backendCmdControl, msgId := forwardToServerReqId, serial, sessionId := 0, payload := write req }

theorem payload_lt {req : ForwardToServerReq} (hpayload : req.payload = encodeFrame inner)
    (hinner : backendHeaderSize + inner.payload.length ≤ maxPacketSize) : req.payload.length < 2 ^ 31 := by
  rw [hpayload, length_encodeFrame]
  exact hinner.trans_lt (by decide)

theorem length_carrier {write : ForwardToServerReq → Bytes} (hwrite : m.Forwards write) {serial : Int32}
    {req : ForwardToServerReq} (h : req.payload.length < 2 ^ 31) :
    (carrier write serial req).payload.length = req.wireSize := hwrite.length req h

theorem length_carrier_lt {write : ForwardToServerReq → Bytes} (hwrite : m.Forwards write) {serial : Int32}
    {req : ForwardToServerReq} (h : req.payload.length < 2 ^ 31) :
    backendHeaderSize + (carrier write serial req).payload.length < 2 ^ 32 := by
  rw [length_carrier hwrite h, backendHeaderSize]
  have hbounds := req.wireSize_bounds h
  omega

theorem emitted_eq (hid : ∀ req, (m.encode (.forwardToServerReq req)).1 = forwardToServerReqId)
    (hinner : backendHeaderSize + inner.payload.length ≤ maxPacketSize) (hcmd : inner.cmd = backendCmdBusiness)
    (hserialize : m.Forwards serialize) (hencode : m.Forwards fun req => (m.encode (.forwardToServerReq req)).2)
    {bytes : Bytes} (h : Emitted m serialize serviceId instanceId target inner bytes) :
    ∃ write, m.Forwards write ∧
      bytes = encodeFrame (carrier write inner.serial (wrapped serviceId instanceId target inner)) := by
  cases h with
  | rust msg hmsg hsession =>
      refine ⟨_, hencode, ?_⟩
      have hframe : (⟨backendCmdBusiness, inner.msgId, inner.serial, 0, inner.payload⟩ : BackendFrame) = inner := by
        rw [← hcmd, ← hsession]
      simp only [Backend.sendServerMsg, hmsg, hframe, hid]
      rfl
  | cpp =>
      refine ⟨serialize, hserialize, ?_⟩
      have hfirst : Battle.encodeBackendFrame backendCmdBusiness inner.msgId inner.serial inner.sessionId
          (Battle.chars inner.payload) = Battle.chars (encodeFrame inner) := by
        rw [← hcmd]
        exact Battle.encodeBackendFrame_chars inner (hinner.trans_lt maxPacketSize_lt)
      have hsecond := Battle.encodeBackendFrame_chars
        (carrier serialize inner.serial (wrapped serviceId instanceId target inner))
        (length_carrier_lt hserialize (payload_lt rfl hinner))
      rw [Battle.sendServerPayload, hfirst, Battle.map_chars]
      exact (congrArg (List.map Int8.toUInt8) hsecond).trans (Battle.map_chars _)

/-! ### The relay -/

/-- The gateway relays the message of the frame, calibrated, and nothing else. -/
theorem relayed_iff {d : InternalDelegate} {source : UInt8 × UInt32} (hd : d.registered = some source)
    {outer : BackendFrame} (hcmd : outer.cmd = backendCmdControl) {req : ForwardToServerReq}
    (hdecode : m.decode outer.msgId outer.payload = .ok (.forwardToServerReq req))
    (hchosen : 0 ≤ req.targetInstanceId → instanceId = req.targetInstanceId.toUInt32) (r : ForwardToServerReq) :
    Relayed m d outer instanceId r ↔ r = calibrated req instanceId source := by
  have hprogram : d.onRecvFrame m outer.body = (do
      d.handleServerForward outer.serial req
      pure d) := by
    rw [d.onRecvFrame_control hcmd, hdecode]
    rfl
  rw [Relayed, hprogram, InternalDelegate.handleServerForward, hd]
  dsimp only
  rw [InternalDelegate.selectTarget]
  split_ifs with htarget
  · obtain rfl := hchosen htarget
    constructor
    · rintro ⟨lookup, tx, sent, next, hfound, hpath⟩
      obtain ⟨h, -⟩ | ⟨found, rest, hcons, hpath⟩ := Program.path_call.1 hpath
      · cases h
      · cases hcons
        cases hfound
        obtain ⟨h, -⟩ | ⟨_, _, hcons, -⟩ := Program.path_call.1 hpath
        · cases h
        · cases hcons
          rfl
    · rintro rfl
      exact ⟨⟨.findByInstance req.targetServiceId.toUInt8 req.targetInstanceId.toUInt32, some 0⟩, 0, true, _,
        .byInstance _, .cons (.cons (.nil _))⟩
  · constructor
    · rintro ⟨lookup, tx, sent, next, hfound, hpath⟩
      obtain ⟨h, -⟩ | ⟨found, rest, hcons, hpath⟩ := Program.path_call.1 hpath
      · cases h
      · cases hcons
        cases hfound
        obtain ⟨h, -⟩ | ⟨_, _, hcons, -⟩ := Program.path_call.1 hpath
        · cases h
        · cases hcons
          rfl
    · rintro rfl
      exact ⟨⟨.selectLowestLoadInstance req.targetServiceId.toUInt8, some ⟨instanceId, 0⟩⟩, 0, true, _, .byLoad _,
        .cons (.cons (.nil _))⟩

/-- **Wrapping is not size-closed.** An inner frame that is valid comes through both wrappings unchanged if and
only if the message as its sender writes it, and the message as the gateway writes it again, fit into a frame. -/
theorem wraps_iff {d : InternalDelegate} {source : UInt8 × UInt32} {bytes : Bytes}
    (hid : ∀ req, (m.encode (.forwardToServerReq req)).1 = forwardToServerReqId)
    (hencode : m.Forwards fun req => (m.encode (.forwardToServerReq req)).2) (hserialize : m.Forwards serialize)
    (hinner : backendHeaderSize + inner.payload.length ≤ maxPacketSize) (hcmd : inner.cmd = backendCmdBusiness)
    (hemitted : Emitted m serialize serviceId instanceId target inner bytes)
    (hregistered : d.registered = some source) {chosen : UInt32}
    (hchosen : 0 ≤ target.instanceId → chosen = target.instanceId.toUInt32) :
    Wraps m d bytes chosen inner ↔
      backendHeaderSize + (wrapped serviceId instanceId target inner).wireSize ≤ maxPacketSize ∧
      backendHeaderSize + (calibrated (wrapped serviceId instanceId target inner) chosen source).wireSize ≤
        maxPacketSize := by
  obtain ⟨write, hwrite, rfl⟩ := emitted_eq hid hinner hcmd hserialize hencode hemitted
  generalize hreq : wrapped serviceId instanceId target inner = req
  have hpayload : req.payload = encodeFrame inner := by rw [← hreq, wrapped]
  have hsmall := payload_lt hpayload hinner
  have hsmall' : (calibrated req chosen source).payload.length < 2 ^ 31 := hsmall
  have htarget : 0 ≤ req.targetInstanceId → chosen = req.targetInstanceId.toUInt32 := by
    rw [← hreq]
    exact hchosen
  have hrelayed : ∀ r, Relayed m d (carrier write inner.serial req) chosen r ↔ r = calibrated req chosen source :=
    relayed_iff hregistered rfl (hwrite.decode req hsmall) htarget
  have hframe : (ToBackend.control (.forwardToServerReq (calibrated req chosen source)) 0 0).frame m =
      carrier (fun req => (m.encode (.forwardToServerReq req)).2) 0 (calibrated req chosen source) := by
    simp only [ToBackend.frame, carrier, hid]
  constructor
  · rintro ⟨outer, r, frame, req', houter, hr, hframe', -⟩
    obtain ⟨rfl, hfits⟩ := houter.encodeFrame (length_carrier_lt hwrite hsmall)
    obtain rfl := (hrelayed r).1 ((hr r).2 rfl)
    rw [hframe] at hframe'
    obtain ⟨-, hfits'⟩ := hframe'.encodeFrame (length_carrier_lt hencode hsmall')
    rw [length_carrier hwrite hsmall] at hfits
    rw [length_carrier hencode hsmall'] at hfits'
    exact ⟨hfits, hfits'⟩
  · rintro ⟨hfits, hfits'⟩
    refine ⟨carrier write inner.serial req, calibrated req chosen source,
      carrier (fun req => (m.encode (.forwardToServerReq req)).2) 0 (calibrated req chosen source),
      calibrated req chosen source, accepted_encodeFrame ?_, hrelayed, ?_, ?_, ?_, ?_⟩
    · rwa [length_carrier hwrite hsmall]
    · rw [hframe]
      exact accepted_encodeFrame (by rwa [length_carrier hencode hsmall'])
    · exact hencode.decode _ hsmall'
    · change Accepted req.payload inner
      rw [hpayload]
      exact accepted_encodeFrame hinner
    · change Battle.decodeBackendFrame (Battle.chars req.payload) = .ok inner
      rw [hpayload, Battle.decodeBackendFrame_chars]
      refine ⟨[], ?_⟩
      have h := accepted_encodeFrame hinner []
      rwa [List.append_nil] at h

namespace Sample

/-- The generated code, for this message and those that are not listed. -/
def wireMessages : MessageMap where
  encode
    | .forwardToServerReq req => (forwardToServerReqId, req.write)
    | .other msgId payload => (msgId, payload)
    | message => (message.msgId, [])
  decode := fun msgId payload =>
    if msgId = forwardToServerReqId then (ForwardToServerReq.read payload).map .forwardToServerReq
    else .ok (.other msgId payload)

theorem forwards_write : wireMessages.Forwards ForwardToServerReq.write where
  length _ h := ForwardToServerReq.length_write h
  decode req h := by
    have hread := ForwardToServerReq.read_write h
    simp only [wireMessages, if_pos, hread]
    rfl

def frame (payload : Bytes) : BackendFrame :=
  { cmd := backendCmdBusiness, msgId := 160, serial := -1, sessionId := 0, payload }

/-- A backend that has registered as this. -/
def registered : InternalDelegate := { registered := some (1, 7) }

/-- What the Rust framework emits for the frame. -/
def emitted (payload : Bytes) : Bytes := Backend.sendServerMsg wireMessages 1 7 ⟨2, -1⟩ (.other 160 payload) (-1)

theorem emitted_carrier (payload : Bytes) : emitted payload =
    encodeFrame (carrier ForwardToServerReq.write (-1) (wrapped 1 7 ⟨2, -1⟩ (frame payload))) := by
  rw [emitted, Backend.sendServerMsg]
  simp only [wireMessages]
  rfl

theorem emitted_frame (payload : Bytes) :
    Emitted wireMessages ForwardToServerReq.write 1 7 ⟨2, -1⟩ (frame payload) (emitted payload) :=
  .rust (.other 160 payload) rfl rfl

end Sample

/-- A short frame, to whichever instance has the lowest load. -/
theorem wraps_iff_short : Wraps Sample.wireMessages Sample.registered (Sample.emitted [1, 2, 3]) 3
    (Sample.frame [1, 2, 3]) := by
  refine (wraps_iff (fun _ => rfl) Sample.forwards_write Sample.forwards_write (by decide) rfl
    (Sample.emitted_frame [1, 2, 3]) rfl (by decide)).2 ⟨?_, ?_⟩
  · have hlen : (wrapped 1 7 ⟨2, -1⟩ (Sample.frame [1, 2, 3])).payload.length = 18 := rfl
    have h := ForwardToServerReq.wireSize_bounds (hlen.trans_lt (by decide))
    rw [backendHeaderSize, maxPacketSize]
    omega
  · have hlen : (calibrated (wrapped 1 7 ⟨2, -1⟩ (Sample.frame [1, 2, 3])) 3 (1, 7)).payload.length = 18 := rfl
    have h := ForwardToServerReq.wireSize_bounds (hlen.trans_lt (by decide))
    rw [backendHeaderSize, maxPacketSize]
    omega

/-- A frame of the maximal size is valid, and the gateway refuses what the framework emits for it. -/
theorem maximal_frame_refused : ∃ payload,
    tryExtractFrame (encodeFrame (Sample.frame payload)) = .ok (some (Sample.frame payload, [])) ∧
      Emitted Sample.wireMessages ForwardToServerReq.write 1 7 ⟨2, -1⟩ (Sample.frame payload)
        (Sample.emitted payload) ∧
      (∃ e, tryExtractFrame (Sample.emitted payload) = .error e) ∧
      ∀ chosen, ¬ Wraps Sample.wireMessages Sample.registered (Sample.emitted payload) chosen
        (Sample.frame payload) := by
  obtain ⟨payload, hlength⟩ : ∃ payload : Bytes, backendHeaderSize + payload.length = maxPacketSize := by
    refine ⟨List.replicate (maxPacketSize - backendHeaderSize) 0, ?_⟩
    rw [List.length_replicate]
    exact Nat.add_sub_cancel' (by decide)
  have hinner : backendHeaderSize + (Sample.frame payload).payload.length ≤ maxPacketSize := hlength.le
  have hsmall : (wrapped 1 7 ⟨2, -1⟩ (Sample.frame payload)).payload.length < 2 ^ 31 := payload_lt rfl hinner
  have hsize : maxPacketSize ≤ (wrapped 1 7 ⟨2, -1⟩ (Sample.frame payload)).wireSize := by
    refine le_trans (le_of_eq ?_) (ForwardToServerReq.wireSize_bounds hsmall).1
    rw [wrapped, length_encodeFrame]
    exact hlength.symm
  have herror : ∃ e, tryExtractFrame (Sample.emitted payload) = .error e := by
    have h := tryExtractFrame_encode
      (carrier ForwardToServerReq.write (-1) (wrapped 1 7 ⟨2, -1⟩ (Sample.frame payload)))
      (length_carrier_lt Sample.forwards_write hsmall) []
    rw [length_carrier Sample.forwards_write hsmall, if_pos (by rw [backendHeaderSize]; omega), List.append_nil,
      ← Sample.emitted_carrier] at h
    exact ⟨_, h⟩
  refine ⟨payload, ?_, Sample.emitted_frame payload, herror, ?_⟩
  · have h := accepted_encodeFrame hinner []
    rwa [List.append_nil] at h
  · rintro chosen ⟨outer, r, frame, req, houter, -⟩
    obtain ⟨e, he⟩ := herror
    have h := houter []
    rw [List.append_nil, he] at h
    cases h

end AxmolFighter
