import AxmolFighter.Backend.Dispatch
import AxmolFighter.Battle.BackendCodec
import AxmolFighter.Battle.GatewayInternal

/-!
# The battle server's connection to the gateway

`framework/BackendClient.cpp` decides about the gateway's frames a second time. It looks for a request
that waits before it looks at anything else, and unlike `session.rs` it goes on when there is none, so a
late answer is taken for a push or a request. It also answers for sessions it does not know, gives the
delegate what it has not read, and reads the gateway's messages with a parser of its own.
-/

namespace AxmolFighter.Battle

open Backend (Action Mailbox RpcManager ServerSource)

/-- The callbacks of the requests that wait, and the sessions that are online. -/
structure BackendClient where
  pending : Table Int32 Unit := ∅
  onlineSessions : Table UInt32 Unit := ∅

variable (m : MessageMap)

/-- The payload as the message with the id; `m` is what the battle server reads messages with. -/
def parsePayload (msgId : UInt16) (payload : Bytes) : Option Message := (m.decode msgId payload).toOption

namespace BackendClient

variable (client : BackendClient)

/-- `m_rpc.resolve`. -/
def resolves (frame : BackendFrame) : Bool :=
  if frame.serial ≤ 0 then false else client.pending.contains frame.serial

/-- Only a frame that is not positive, or to no request that waits, comes here with its serial. -/
def processServerFrame (source : ServerSource) (frame : BackendFrame) : Action :=
  if frame.serial = 0 then .serverPush source frame else .serverRequest source frame (-frame.serial)

def routeForwardToServer (req : ForwardToServerReq) : Action :=
  match decodeBackendFrame (chars req.payload) with
  | .error _ => .drop
  | .ok inner =>
      if inner.serial > 0 then
        if client.resolves inner then .completeRpc inner.serial else .drop
      else processServerFrame ⟨req.sourceServiceId, req.sourceInstanceId.toInt32⟩ inner

def handleControlFrame (frame : BackendFrame) : Action :=
  if frame.serial > 0 ∧ client.resolves frame = true then .completeRpc frame.serial
  else if frame.msgId = sessionOnlinePushId then
    match parsePayload m sessionOnlinePushId frame.payload with
    | some (.sessionOnlinePush sessionId) => .sessionOnline sessionId
    | _ => .drop
  else if frame.msgId = sessionOfflinePushId then
    match parsePayload m sessionOfflinePushId frame.payload with
    | some (.sessionOfflinePush sessionId) => .sessionOffline sessionId
    | _ => .drop
  else if frame.msgId = forwardToServerReqId then
    match parsePayload m forwardToServerReqId frame.payload with
    | some (.forwardToServerReq req) => client.routeForwardToServer req
    | _ => .drop
  else if frame.msgId = serverPingReqId then
    match parsePayload m serverPingReqId frame.payload with
    | some (.serverPingReq nonce) => .pong nonce frame.sessionId
    | _ => .drop
  else if frame.msgId = serverOnlinePushId then
    match parsePayload m serverOnlinePushId frame.payload with
    | some (.serverOnlinePush serviceId instanceId) => .serverOnline serviceId instanceId
    | _ => .drop
  else if frame.msgId = serverOfflinePushId then
    match parsePayload m serverOfflinePushId frame.payload with
    | some (.serverOfflinePush serviceId instanceId) => .serverOffline serviceId instanceId
    | _ => .drop
  else .drop

def processClientFrame (frame : BackendFrame) : Action :=
  if frame.serial = 0 then .clientPush frame.sessionId
  else .clientRequest frame.sessionId (-frame.serial)

def handleBusinessFrame (frame : BackendFrame) : Action :=
  if frame.serial > 0 ∧ client.resolves frame = true then .completeRpc frame.serial
  else if !client.onlineSessions.contains frame.sessionId then
    if frame.serial ≠ 0 then .clientError frame.sessionId (-frame.serial) else .drop
  else processClientFrame frame

def onGatewayFrame (frame : BackendFrame) : Action :=
  if frame.cmd = backendCmdControl then client.handleControlFrame m frame
  else if frame.cmd = backendCmdBusiness then client.handleBusinessFrame frame
  else .drop

end BackendClient

/-! ### Where the two frameworks agree -/

/-- The same requests wait and the same sessions are online. -/
structure SameState (rpc : RpcManager) (sessions : Table UInt32 Mailbox) (client : BackendClient) : Prop where
  pending : ∀ id, client.pending.contains id = rpc.pendingRequests.contains id
  online : ∀ sessionId, client.onlineSessions.contains sessionId = sessions.contains sessionId

/-- A backend acts on the message when the gateway sends it unasked. -/
def ActsOn (rpc : RpcManager) : Except String Message → Prop
  | .ok (.sessionOnlinePush _) | .ok (.sessionOfflinePush _) | .ok (.serverOnlinePush _ _)
  | .ok (.serverOfflinePush _ _) | .ok (.serverPingReq _) => True
  | .ok (.forwardToServerReq req) => ∃ inner rest, tryExtractFrame req.payload = .ok (some (inner, rest)) ∧
      (inner.serial > 0 → rpc.pendingRequests.contains inner.serial = true)
  | _ => False

/-- The message is there to be read. -/
def Readable (frame : BackendFrame) : Prop := ∃ msg, m.decode frame.msgId frame.payload = .ok msg

/-- The push or request that is forwarded, if there is one, can be read. -/
def ReadableInside (read : Except String Message) : Prop :=
  ∀ req inner rest, read = .ok (.forwardToServerReq req) →
    tryExtractFrame req.payload = .ok (some (inner, rest)) → inner.serial ≤ 0 → Readable m inner

/-- What `session.rs` acts on: not on a forwarded push that cannot be read. -/
def Handles (rpc : RpcManager) (read : Except String Message) : Prop :=
  ActsOn rpc read ∧ ∀ req inner rest, read = .ok (.forwardToServerReq req) →
    tryExtractFrame req.payload = .ok (some (inner, rest)) → inner.serial = 0 → Readable m inner

/-- Two messages that say the same to a backend. -/
inductive SameContent : Message → Message → Prop
  | same (msg : Message) : SameContent msg msg
  /-- the same frame from the same server -/
  | forwarded {req req' : ForwardToServerReq} {inner : BackendFrame} {rest rest' : Bytes}
      (h : tryExtractFrame req.payload = .ok (some (inner, rest)))
      (h' : tryExtractFrame req'.payload = .ok (some (inner, rest')))
      (hservice : req.sourceServiceId = req'.sourceServiceId)
      (hinstance : req.sourceInstanceId = req'.sourceInstanceId) :
      SameContent (.forwardToServerReq req) (.forwardToServerReq req')
  /-- answers to the same request -/
  | answered {req req' : ForwardToServerReq} {inner inner' : BackendFrame} {rest rest' : Bytes}
      (h : tryExtractFrame req.payload = .ok (some (inner, rest)))
      (h' : tryExtractFrame req'.payload = .ok (some (inner', rest')))
      (hserial : inner.serial > 0) (heq : inner.serial = inner'.serial) :
      SameContent (.forwardToServerReq req) (.forwardToServerReq req')

/-- The frames that mean the same to both; `m` reads for the Rust side and `cpp` for the C++ side. -/
structure Agreed (cpp : MessageMap) (rpc : RpcManager) (sessions : Table UInt32 Mailbox) (frame : BackendFrame) :
    Prop where
  /-- An answer to no request that waits: it holds no message that would be acted on. -/
  late : frame.serial > 0 → rpc.pendingRequests.contains frame.serial = false →
    (frame.cmd = backendCmdControl → ¬ ActsOn rpc (cpp.decode frame.msgId frame.payload)) ∧
      frame.cmd ≠ backendCmdBusiness
  /-- What a client sends can be read and has room in the mailbox of its session, or is a push to none. -/
  client : frame.cmd = backendCmdBusiness → frame.serial ≤ 0 →
    (sessions.get frame.sessionId = some .room ∧ Readable m frame) ∨
      (sessions.get frame.sessionId = none ∧ frame.serial = 0)
  /-- Both read the same, or nothing that they act on; and what another server sends can be read. -/
  control : frame.cmd = backendCmdControl → frame.serial ≤ 0 →
    Handles m rpc (m.decode frame.msgId frame.payload) ∨ ActsOn rpc (cpp.decode frame.msgId frame.payload) →
      ∃ msg msg', m.decode frame.msgId frame.payload = .ok msg ∧ cpp.decode frame.msgId frame.payload = .ok msg' ∧
        SameContent msg msg' ∧ ReadableInside m (.ok msg)

variable {m} {cpp : MessageMap} {rpc : RpcManager} {sessions : Table UInt32 Mailbox} {client : BackendClient} {frame : BackendFrame}

theorem resolves_eq (h : SameState rpc sessions client) (hserial : frame.serial > 0) :
    client.resolves frame = rpc.pendingRequests.contains frame.serial := by
  rw [BackendClient.resolves, if_neg (Int32.not_le.2 hserial), h.pending]

/-- What the C++ framework does with a control message that is no answer. -/
def BackendClient.controlAction (client : BackendClient) (sessionId : UInt32) : Except String Message → Action
  | .ok (.sessionOnlinePush sessionId) => .sessionOnline sessionId
  | .ok (.sessionOfflinePush sessionId) => .sessionOffline sessionId
  | .ok (.serverOnlinePush serviceId instanceId) => .serverOnline serviceId instanceId
  | .ok (.serverOfflinePush serviceId instanceId) => .serverOffline serviceId instanceId
  | .ok (.forwardToServerReq req) => client.routeForwardToServer req
  | .ok (.serverPingReq nonce) => .pong nonce sessionId
  | _ => .drop

/-- The chain of comparisons finds the message's own branch. -/
theorem handleControlFrame_eq (hcpp : cpp.Typed)
    (h : ¬ (frame.serial > 0 ∧ client.resolves frame = true)) :
    client.handleControlFrame cpp frame =
      client.controlAction frame.sessionId (cpp.decode frame.msgId frame.payload) := by
  rw [BackendClient.handleControlFrame, if_neg h]
  unfold BackendClient.controlAction
  rcases hdecode : cpp.decode frame.msgId frame.payload with e | msg
  · -- what cannot be read is dropped in every branch
    have hnone : ∀ id, frame.msgId = id → parsePayload cpp id frame.payload = none := by
      rintro id rfl
      rw [parsePayload, hdecode]
      rfl
    split_ifs with h1 h2 h3 h4 h5 h6
    · rw [hnone _ h1]
    · rw [hnone _ h2]
    · rw [hnone _ h3]
    · rw [hnone _ h4]
    · rw [hnone _ h5]
    · rw [hnone _ h6]
    · rfl
  · have hid := hcpp.msgId _ _ _ hdecode
    have hparse : parsePayload cpp frame.msgId frame.payload = some msg := by
      rw [parsePayload, hdecode]
      rfl
    cases msg with
    | other msgId payload =>
        obtain ⟨-, hrange⟩ := hcpp.other _ _ _ _ hdecode
        have hne : ∀ id : UInt16, 100 ≤ id ∧ id ≤ 115 → frame.msgId ≠ id := by
          rintro id ⟨hlow, hhigh⟩ rfl
          rcases hrange with hlt | hlt
          · exact absurd hlow (UInt16.not_le.2 hlt)
          · exact absurd hhigh (UInt16.not_le.2 hlt)
        rw [if_neg (hne _ (by decide)), if_neg (hne _ (by decide)), if_neg (hne _ (by decide)),
          if_neg (hne _ (by decide)), if_neg (hne _ (by decide)), if_neg (hne _ (by decide))]
    | _ =>
        rw [← hid] at hparse ⊢
        simp [Message.msgId, sessionOnlinePushId, sessionOfflinePushId, serverOnlinePushId,
          serverOfflinePushId, forwardToServerReqId, serverPingReqId, serverStatusReqId] at hparse ⊢
        try rw [hparse]

theorem resolve_eq (hstate : SameState rpc sessions client) (hserial : frame.serial > 0) :
    (Backend.resolve m rpc frame.serial frame.msgId frame.payload).action =
      if client.resolves frame then .completeRpc frame.serial else .drop := by
  rw [Backend.resolve_action hserial, resolves_eq hstate hserial]

theorem processServerFrame_eq_iff (source : ServerSource) (inner : BackendFrame) (h : inner.serial ≤ 0) :
    Backend.processServerMessage m source inner = BackendClient.processServerFrame source inner ↔
      Readable m inner := by
  rw [Backend.processServerMessage, BackendClient.processServerFrame]
  rcases hdecode : m.decode inner.msgId inner.payload with e | msg
  · refine iff_of_false ?_ fun hread => ?_
    · dsimp only
      split_ifs with hzero hzero <;> simp_all
    · obtain ⟨msg, hmsg⟩ := hread
      rw [hdecode] at hmsg
      cases hmsg
  · refine iff_of_true ?_ ⟨msg, hdecode⟩
    dsimp only
    rcases Int32.lt_or_eq_of_le h with hlt | hzero
    · rw [if_pos hlt, if_neg (Int32.ne_of_lt hlt)]
    · rw [hzero]
      rfl

/-! #### Forwarded frames -/

section Forwarded

variable {req : ForwardToServerReq} {inner : BackendFrame} {rest : Bytes}

theorem routeForwardToServer_of_extract (h : tryExtractFrame req.payload = .ok (some (inner, rest))) :
    client.routeForwardToServer req =
      if inner.serial > 0 then if client.resolves inner then .completeRpc inner.serial else .drop
      else BackendClient.processServerFrame ⟨req.sourceServiceId, req.sourceInstanceId.toInt32⟩ inner := by
  rw [BackendClient.routeForwardToServer, (decodeBackendFrame_chars req.payload inner).2 ⟨rest, h⟩]

theorem routeForwardToServer_of_none
    (h : ∀ inner rest, tryExtractFrame req.payload ≠ .ok (some (inner, rest))) :
    client.routeForwardToServer req = .drop := by
  rw [BackendClient.routeForwardToServer]
  rcases hframe : decodeBackendFrame (chars req.payload) with e | inner
  · rfl
  · obtain ⟨rest, hextract⟩ := (decodeBackendFrame_chars req.payload inner).1 hframe
    exact absurd hextract (h inner rest)

theorem routeForwardedFrame_of_none
    (h : ∀ inner rest, tryExtractFrame req.payload ≠ .ok (some (inner, rest))) :
    (Backend.routeForwardedFrame m rpc req).action = .drop := by
  rw [Backend.routeForwardedFrame]
  split
  · exact absurd (by assumption) (h _ _)
  · rfl

theorem actsOn_forward (h : tryExtractFrame req.payload = .ok (some (inner, rest))) :
    ActsOn rpc (.ok (.forwardToServerReq req)) ↔
      (inner.serial > 0 → rpc.pendingRequests.contains inner.serial = true) := by
  refine ⟨?_, fun hpending => ⟨inner, rest, h, hpending⟩⟩
  rintro ⟨inner', rest', h', hpending⟩
  rw [h] at h'
  cases h'
  exact hpending

theorem not_actsOn_of_none (h : ∀ inner rest, tryExtractFrame req.payload ≠ .ok (some (inner, rest))) :
    ¬ ActsOn rpc (.ok (.forwardToServerReq req)) := by
  rintro ⟨inner, rest, hextract, -⟩
  exact h inner rest hextract

theorem readableInside_forward (h : tryExtractFrame req.payload = .ok (some (inner, rest))) :
    ReadableInside m (.ok (.forwardToServerReq req)) ↔ (inner.serial ≤ 0 → Readable m inner) := by
  refine ⟨fun hread => hread req inner rest rfl h, fun hread req' inner' rest' heq h' => ?_⟩
  cases heq
  rw [h] at h'
  cases h'
  exact hread

theorem handles_forward (h : tryExtractFrame req.payload = .ok (some (inner, rest))) :
    Handles m rpc (.ok (.forwardToServerReq req)) ↔
      (inner.serial > 0 → rpc.pendingRequests.contains inner.serial = true) ∧
        (inner.serial = 0 → Readable m inner) := by
  rw [Handles, actsOn_forward h]
  refine and_congr_right fun _ => ⟨fun hread => hread req inner rest rfl h, fun hread req' inner' rest' heq h' => ?_⟩
  cases heq
  rw [h] at h'
  cases h'
  exact hread

/-- What `session.rs` does with a forwarded frame: the same, unless it holds a push or a request that cannot be
read. -/
theorem routeForwardedFrame_eq_iff (hstate : SameState rpc sessions client) (req : ForwardToServerReq) :
    (Backend.routeForwardedFrame m rpc req).action = client.routeForwardToServer req ↔
      ReadableInside m (.ok (.forwardToServerReq req)) := by
  by_cases hframe : ∃ inner rest, tryExtractFrame req.payload = .ok (some (inner, rest))
  · obtain ⟨inner, rest, hextract⟩ := hframe
    rw [readableInside_forward hextract, routeForwardToServer_of_extract hextract, Backend.routeForwardedFrame,
      hextract]
    dsimp only
    by_cases hserial : inner.serial > 0
    · rw [if_pos hserial, if_pos hserial, resolve_eq hstate hserial]
      exact iff_of_true rfl fun hle => absurd hserial (Int32.not_lt.2 hle)
    · rw [if_neg hserial, if_neg hserial, processServerFrame_eq_iff _ _ (Int32.not_lt.1 hserial)]
      exact ⟨fun hread _ => hread, fun hread => hread (Int32.not_lt.1 hserial)⟩
  · have hnone : ∀ inner rest, tryExtractFrame req.payload ≠ .ok (some (inner, rest)) :=
      fun inner rest h => hframe ⟨inner, rest, h⟩
    rw [routeForwardedFrame_of_none hnone, routeForwardToServer_of_none hnone]
    refine iff_of_true rfl fun req' inner rest heq h => ?_
    cases heq
    exact absurd h (hnone inner rest)

theorem routeForwardedFrame_eq_drop_iff (hstate : SameState rpc sessions client) (req : ForwardToServerReq) :
    (Backend.routeForwardedFrame m rpc req).action = .drop ↔
      ¬ Handles m rpc (.ok (.forwardToServerReq req)) := by
  by_cases hframe : ∃ inner rest, tryExtractFrame req.payload = .ok (some (inner, rest))
  · obtain ⟨inner, rest, hextract⟩ := hframe
    rw [handles_forward hextract, Backend.routeForwardedFrame, hextract]
    dsimp only
    by_cases hserial : inner.serial > 0
    · have hne : inner.serial ≠ 0 := (Int32.ne_of_lt hserial).symm
      rw [if_pos hserial, resolve_eq hstate hserial, resolves_eq hstate hserial]
      by_cases hpending : rpc.pendingRequests.contains inner.serial = true <;> simp [hpending, hserial, hne]
    · rw [if_neg hserial, Backend.processServerMessage, Readable]
      rcases m.decode inner.msgId inner.payload with e | msg
      · by_cases hzero : inner.serial = 0 <;> simp [hzero, hserial]
      · by_cases hlt : inner.serial < 0 <;> simp [hlt, hserial]
  · have hnone : ∀ inner rest, tryExtractFrame req.payload ≠ .ok (some (inner, rest)) :=
      fun inner rest h => hframe ⟨inner, rest, h⟩
    exact iff_of_true (routeForwardedFrame_of_none hnone) fun h => not_actsOn_of_none hnone h.1

theorem serverError_of_unreadable (hhandles : Handles m rpc (.ok (.forwardToServerReq req)))
    (hread : ¬ ReadableInside m (.ok (.forwardToServerReq req))) :
    ∃ source reply, (Backend.routeForwardedFrame m rpc req).action = .serverError source reply := by
  obtain ⟨inner, rest, hextract, -⟩ := hhandles.1
  rw [readableInside_forward hextract, Classical.not_imp] at hread
  obtain ⟨hle, hread⟩ := hread
  have hne : inner.serial ≠ 0 := fun hzero => hread (((handles_forward hextract).1 hhandles).2 hzero)
  rw [Backend.routeForwardedFrame, hextract]
  dsimp only
  rw [if_neg (Int32.not_lt.2 hle), Backend.processServerMessage]
  rcases hdecode : m.decode inner.msgId inner.payload with e | msg
  · exact ⟨_, _, if_pos hne⟩
  · exact absurd ⟨msg, hdecode⟩ hread

theorem processServerFrame_inj {source source' : ServerSource} {inner inner' : BackendFrame} :
    BackendClient.processServerFrame source inner = BackendClient.processServerFrame source' inner' ↔
      source = source' ∧ inner = inner' := by
  rw [BackendClient.processServerFrame, BackendClient.processServerFrame]
  constructor
  · split_ifs <;> simp +contextual
  · rintro ⟨rfl, rfl⟩
    rfl

end Forwarded

/-! #### Control frames -/

theorem controlAction_eq_drop_iff (hstate : SameState rpc sessions client) (sessionId : UInt32)
    (read : Except String Message) : client.controlAction sessionId read = .drop ↔ ¬ ActsOn rpc read := by
  rcases read with e | msg
  · simp [ActsOn, BackendClient.controlAction]
  · cases msg with
    | forwardToServerReq req =>
        rw [BackendClient.controlAction]
        by_cases hframe : ∃ inner rest, tryExtractFrame req.payload = .ok (some (inner, rest))
        · obtain ⟨inner, rest, hextract⟩ := hframe
          rw [routeForwardToServer_of_extract hextract, actsOn_forward hextract]
          by_cases hserial : inner.serial > 0
          · rw [resolves_eq hstate hserial]
            simp [hserial]
          · rw [if_neg hserial, BackendClient.processServerFrame]
            split_ifs <;> simp [hserial]
        · have hnone : ∀ inner rest, tryExtractFrame req.payload ≠ .ok (some (inner, rest)) :=
            fun inner rest h => hframe ⟨inner, rest, h⟩
          exact iff_of_true (routeForwardToServer_of_none hnone) (not_actsOn_of_none hnone)
    | _ => simp [ActsOn, BackendClient.controlAction]

theorem controlAction_ne_serverError (sessionId : UInt32) (read : Except String Message) (source : ServerSource)
    (reply : Int32) : client.controlAction sessionId read ≠ .serverError source reply := by
  unfold BackendClient.controlAction
  split
  case h_5 req =>
    unfold BackendClient.routeForwardToServer BackendClient.processServerFrame
    split
    · simp
    · split_ifs <;> simp
  all_goals simp

theorem sameContent_of_route (hstate : SameState rpc sessions client) {req req' : ForwardToServerReq}
    (hacts : ActsOn rpc (.ok (.forwardToServerReq req))) (hacts' : ActsOn rpc (.ok (.forwardToServerReq req')))
    (h : client.routeForwardToServer req = client.routeForwardToServer req') :
    SameContent (.forwardToServerReq req) (.forwardToServerReq req') := by
  obtain ⟨inner, rest, hextract, hpending⟩ := hacts
  obtain ⟨inner', rest', hextract', hpending'⟩ := hacts'
  rw [routeForwardToServer_of_extract hextract, routeForwardToServer_of_extract hextract'] at h
  have hresolves : ∀ {inner : BackendFrame}, (inner.serial > 0 → rpc.pendingRequests.contains inner.serial = true) →
      inner.serial > 0 → client.resolves inner = true := by
    intro inner hpending hserial
    rw [resolves_eq hstate hserial]
    exact hpending hserial
  by_cases hserial : inner.serial > 0
  · rw [if_pos hserial, if_pos (hresolves hpending hserial)] at h
    by_cases hserial' : inner'.serial > 0
    · rw [if_pos hserial', if_pos (hresolves hpending' hserial')] at h
      exact .answered hextract hextract' hserial (Action.completeRpc.inj h)
    · rw [if_neg hserial', BackendClient.processServerFrame] at h
      split_ifs at h
  · rw [if_neg hserial] at h
    by_cases hserial' : inner'.serial > 0
    · rw [if_pos hserial', if_pos (hresolves hpending' hserial'), BackendClient.processServerFrame] at h
      split_ifs at h
    · rw [if_neg hserial', processServerFrame_inj] at h
      obtain ⟨hsource, rfl⟩ := h
      obtain ⟨hservice, hinstance⟩ := ServerSource.mk.inj hsource
      exact .forwarded hextract hextract' hservice (by simpa using congrArg Int32.toUInt32 hinstance)

/-- The message that an action comes from, if it is not a forwarded frame. -/
def notice : Action → Option Message
  | .sessionOnline sessionId => some (.sessionOnlinePush sessionId)
  | .sessionOffline sessionId => some (.sessionOfflinePush sessionId)
  | .serverOnline serviceId instanceId => some (.serverOnlinePush serviceId instanceId)
  | .serverOffline serviceId instanceId => some (.serverOfflinePush serviceId instanceId)
  | .pong nonce _ => some (.serverPingReq nonce)
  | _ => none

theorem notice_controlAction (sessionId : UInt32) {msg : Message} (hacts : ActsOn rpc (.ok msg))
    (h : ∀ req, msg ≠ .forwardToServerReq req) : notice (client.controlAction sessionId (.ok msg)) = some msg := by
  cases msg with
  | forwardToServerReq req => exact absurd rfl (h req)
  | sessionOnlinePush | sessionOfflinePush | serverOnlinePush | serverOfflinePush | serverPingReq => rfl
  | _ => exact absurd hacts (by simp [ActsOn])

theorem notice_route (req : ForwardToServerReq) : notice (client.routeForwardToServer req) = none := by
  unfold BackendClient.routeForwardToServer BackendClient.processServerFrame
  split
  · rfl
  · split_ifs <;> rfl

theorem sameContent_of_controlAction (hstate : SameState rpc sessions client) (sessionId : UInt32)
    {msg msg' : Message} (hacts : ActsOn rpc (.ok msg)) (hacts' : ActsOn rpc (.ok msg'))
    (h : client.controlAction sessionId (.ok msg) = client.controlAction sessionId (.ok msg')) :
    SameContent msg msg' := by
  have hnotice := congrArg notice h
  by_cases hforward : ∃ req, msg = .forwardToServerReq req
  · obtain ⟨req, rfl⟩ := hforward
    by_cases hforward' : ∃ req, msg' = .forwardToServerReq req
    · obtain ⟨req', rfl⟩ := hforward'
      exact sameContent_of_route hstate hacts hacts' h
    · rw [BackendClient.controlAction, notice_route,
        notice_controlAction sessionId hacts' fun req h => hforward' ⟨req, h⟩] at hnotice
      cases hnotice
  · rw [notice_controlAction sessionId hacts fun req h => hforward ⟨req, h⟩] at hnotice
    by_cases hforward' : ∃ req, msg' = .forwardToServerReq req
    · obtain ⟨req', rfl⟩ := hforward'
      rw [BackendClient.controlAction, notice_route] at hnotice
      cases hnotice
    · rw [notice_controlAction sessionId hacts' fun req h => hforward' ⟨req, h⟩] at hnotice
      obtain rfl := Option.some.inj hnotice
      exact .same msg

theorem controlAction_of_sameContent (hstate : SameState rpc sessions client) (sessionId : UInt32)
    {msg msg' : Message} (h : SameContent msg msg') :
    client.controlAction sessionId (.ok msg) = client.controlAction sessionId (.ok msg') := by
  cases h with
  | same => rfl
  | forwarded h h' hservice hinstance =>
      rw [BackendClient.controlAction, BackendClient.controlAction, routeForwardToServer_of_extract h,
        routeForwardToServer_of_extract h', hservice, hinstance]
  | answered h h' hserial hsame =>
      have hserial' := hsame ▸ hserial
      rw [BackendClient.controlAction, BackendClient.controlAction, routeForwardToServer_of_extract h,
        routeForwardToServer_of_extract h', if_pos hserial, if_pos hserial', resolves_eq hstate hserial,
        resolves_eq hstate hserial', hsame]

/-- What `session.rs` does with a control message that is no answer: the same as the C++ framework with the same
message, if what is forwarded can be read. -/
theorem handleControlFrame_eq_iff (hstate : SameState rpc sessions client) (hserial : ¬ frame.serial > 0) :
    (Backend.handleControlFrame m rpc frame).action =
        client.controlAction frame.sessionId (m.decode frame.msgId frame.payload) ↔
      ReadableInside m (m.decode frame.msgId frame.payload) := by
  rw [Backend.handleControlFrame, if_neg hserial]
  rcases m.decode frame.msgId frame.payload with e | msg
  · exact iff_of_true rfl fun _ _ _ heq => by cases heq
  · cases msg with
    | forwardToServerReq req => exact routeForwardedFrame_eq_iff hstate req
    | _ => exact iff_of_true rfl fun _ _ _ heq => by cases heq

theorem handleControlFrame_eq_drop_iff (hstate : SameState rpc sessions client) (hserial : ¬ frame.serial > 0) :
    (Backend.handleControlFrame m rpc frame).action = .drop ↔
      ¬ Handles m rpc (m.decode frame.msgId frame.payload) := by
  rw [Backend.handleControlFrame, if_neg hserial]
  rcases m.decode frame.msgId frame.payload with e | msg
  · simp [Handles, ActsOn]
  · cases msg with
    | forwardToServerReq req => exact routeForwardedFrame_eq_drop_iff hstate req
    | _ => simp [Handles, ActsOn]

theorem handleControlFrame_serverError (hserial : ¬ frame.serial > 0)
    (hhandles : Handles m rpc (m.decode frame.msgId frame.payload))
    (hread : ¬ ReadableInside m (m.decode frame.msgId frame.payload)) :
    ∃ source reply, (Backend.handleControlFrame m rpc frame).action = .serverError source reply := by
  rw [Backend.handleControlFrame, if_neg hserial]
  rcases hdecode : m.decode frame.msgId frame.payload with e | msg
  · rw [hdecode] at hhandles
    exact absurd hhandles.1 (by simp [ActsOn])
  · rw [hdecode] at hhandles hread
    cases msg with
    | forwardToServerReq req => exact serverError_of_unreadable hhandles hread
    | _ => exact absurd (fun _ _ _ heq => by cases heq) hread

/-- A control message that is no answer: they do the same if and only if both read the same, and what is forwarded
can be read, or both read nothing that they act on. -/
theorem control_eq_iff_same (hcpp : cpp.Typed) (hstate : SameState rpc sessions client)
    (hserial : ¬ frame.serial > 0) :
    (Backend.handleControlFrame m rpc frame).action = client.handleControlFrame cpp frame ↔
      (Handles m rpc (m.decode frame.msgId frame.payload) ∨ ActsOn rpc (cpp.decode frame.msgId frame.payload) →
        ∃ msg msg', m.decode frame.msgId frame.payload = .ok msg ∧ cpp.decode frame.msgId frame.payload = .ok msg' ∧
          SameContent msg msg' ∧ ReadableInside m (.ok msg)) := by
  have hsame : (Backend.handleControlFrame m rpc frame).action =
      client.controlAction frame.sessionId (m.decode frame.msgId frame.payload) ↔
        ReadableInside m (m.decode frame.msgId frame.payload) := handleControlFrame_eq_iff hstate hserial
  have hdrop : (Backend.handleControlFrame m rpc frame).action = .drop ↔
      ¬ Handles m rpc (m.decode frame.msgId frame.payload) := handleControlFrame_eq_drop_iff hstate hserial
  rw [handleControlFrame_eq hcpp fun h => hserial h.1]
  have hdrop' := controlAction_eq_drop_iff hstate frame.sessionId (cpp.decode frame.msgId frame.payload)
  constructor
  · intro heq hacts
    have hrust : Handles m rpc (m.decode frame.msgId frame.payload) := by
      by_contra hnone
      refine hacts.elim hnone (hdrop'.1 ?_)
      rw [← heq, hdrop]
      exact hnone
    have hcppActs : ActsOn rpc (cpp.decode frame.msgId frame.payload) := by
      by_contra hnone
      rw [← hdrop', ← heq, hdrop] at hnone
      exact hnone hrust
    have hread : ReadableInside m (m.decode frame.msgId frame.payload) := by
      by_contra hread
      obtain ⟨source, reply, herror⟩ := handleControlFrame_serverError hserial hrust hread
      rw [heq] at herror
      exact controlAction_ne_serverError _ _ _ _ herror
    rw [hsame.2 hread] at heq
    rcases hmsg : m.decode frame.msgId frame.payload with e | msg
    · rw [hmsg] at hrust
      exact absurd hrust.1 (by simp [ActsOn])
    · rcases hmsg' : cpp.decode frame.msgId frame.payload with e | msg'
      · rw [hmsg'] at hcppActs
        exact absurd hcppActs (by simp [ActsOn])
      · rw [hmsg] at hread hrust
        rw [hmsg'] at hcppActs
        rw [hmsg, hmsg'] at heq
        exact ⟨msg, msg', rfl, rfl, sameContent_of_controlAction hstate _ hrust.1 hcppActs heq, hread⟩
  · intro hagree
    by_cases hacts : Handles m rpc (m.decode frame.msgId frame.payload) ∨
        ActsOn rpc (cpp.decode frame.msgId frame.payload)
    · obtain ⟨msg, msg', hmsg, hmsg', hcontent, hread⟩ := hagree hacts
      rw [← hmsg] at hread
      rw [hsame.2 hread, hmsg, hmsg']
      exact controlAction_of_sameContent hstate _ hcontent
    · obtain ⟨hnone, hnone'⟩ := not_or.1 hacts
      rw [hdrop.2 hnone, hdrop'.2 hnone']

theorem control_eq_iff (hcpp : cpp.Typed) (hstate : SameState rpc sessions client)
    (hcmd : frame.cmd = backendCmdControl) :
    (Backend.handleControlFrame m rpc frame).action = client.handleControlFrame cpp frame ↔
      Agreed m cpp rpc sessions frame := by
  have hbusiness : frame.cmd ≠ backendCmdBusiness := by
    rw [hcmd]
    decide
  by_cases hserial : frame.serial > 0
  · have hle : ¬ frame.serial ≤ 0 := Int32.not_le.2 hserial
    rw [Backend.handleControlFrame, if_pos hserial, resolve_eq hstate hserial]
    by_cases hresolves : client.resolves frame = true
    · rw [if_pos hresolves, BackendClient.handleControlFrame, if_pos ⟨hserial, hresolves⟩]
      rw [resolves_eq hstate hserial] at hresolves
      refine iff_of_true rfl ⟨fun _ hlate => ?_, fun h => absurd h hbusiness, fun _ h => absurd h hle⟩
      rw [hresolves] at hlate
      cases hlate
    · rw [if_neg hresolves, handleControlFrame_eq hcpp fun h => hresolves h.2, eq_comm,
        controlAction_eq_drop_iff hstate]
      rw [resolves_eq hstate hserial, Bool.not_eq_true] at hresolves
      constructor
      · exact fun hacts => ⟨fun _ _ => ⟨fun _ => hacts, hbusiness⟩, fun h => absurd h hbusiness,
          fun _ h => absurd h hle⟩
      · exact fun h => (h.late hserial hresolves).1 hcmd
  · rw [control_eq_iff_same hcpp hstate hserial]
    exact ⟨fun h => ⟨fun hpos => absurd hpos hserial, fun h => absurd h hbusiness, fun _ _ => h⟩,
      fun h => h.control hcmd (Int32.not_lt.1 hserial)⟩

theorem business_eq_iff (hstate : SameState rpc sessions client) (hcmd : frame.cmd = backendCmdBusiness) :
    (Backend.dispatchBusinessFrame m rpc sessions frame).action = client.handleBusinessFrame frame ↔
      Agreed m cpp rpc sessions frame := by
  have hcontrol : frame.cmd ≠ backendCmdControl := by
    rw [hcmd]
    decide
  by_cases hserial : frame.serial > 0
  · have hrust := resolve_eq (m := m) hstate hserial
    rw [Backend.dispatchBusinessFrame, if_pos hserial, hrust, BackendClient.handleBusinessFrame]
    by_cases hresolves : client.resolves frame = true
    · rw [if_pos hresolves, if_pos ⟨hserial, hresolves⟩]
      rw [resolves_eq hstate hserial] at hresolves
      refine iff_of_true rfl ⟨fun _ hlate => ?_, fun _ hle => ?_, fun h => absurd h hcontrol⟩
      · rw [hresolves] at hlate
        cases hlate
      · exact absurd hserial (Int32.not_lt.2 hle)
    · rw [if_neg hresolves, if_neg fun h => hresolves h.2]
      rw [resolves_eq hstate hserial, Bool.not_eq_true] at hresolves
      refine iff_of_false ?_ fun h => (h.late hserial hresolves).2 hcmd
      -- an answer or a request, but not nothing
      have hne : frame.serial ≠ 0 := (Int32.ne_of_lt hserial).symm
      rw [BackendClient.processClientFrame, if_neg hne, if_pos hne]
      split_ifs <;> simp
  · have hle := Int32.not_lt.1 hserial
    have hagreed : Agreed m cpp rpc sessions frame ↔
        (sessions.get frame.sessionId = some .room ∧ Readable m frame) ∨
          (sessions.get frame.sessionId = none ∧ frame.serial = 0) :=
      ⟨fun h => h.client hcmd hle, fun h => ⟨fun hpos => absurd hpos hserial, fun _ _ => h,
        fun h => absurd h hcontrol⟩⟩
    have hfall : ¬ (frame.serial > 0 ∧ client.resolves frame = true) := fun h => hserial h.1
    rw [hagreed, Backend.dispatchBusinessFrame, if_neg hserial, BackendClient.handleBusinessFrame,
      if_neg hfall, hstate.online frame.sessionId, Table.contains]
    rcases sessions.get frame.sessionId with _ | _ | _ | _
    · -- the session is unknown
      by_cases hzero : frame.serial = 0 <;> simp [hzero]
    · rw [Backend.processClientFrame, BackendClient.processClientFrame, Readable]
      rcases m.decode frame.msgId frame.payload with e | msg
      · by_cases hzero : frame.serial = 0 <;> simp [hzero]
      · simp
    · by_cases hzero : frame.serial = 0 <;> simp [hzero, BackendClient.processClientFrame]
    · by_cases hzero : frame.serial = 0 <;> simp [hzero, BackendClient.processClientFrame]

theorem handleFrame_late (hserial : frame.serial > 0)
    (hlate : rpc.pendingRequests.contains frame.serial = false) :
    (Backend.handleFrame m rpc sessions frame).action = .drop := by
  have hdrop : (Backend.resolve m rpc frame.serial frame.msgId frame.payload).action = .drop := by
    rw [Backend.resolve_action hserial, hlate]
    rfl
  rw [Backend.handleFrame, Backend.handleControlFrame, Backend.dispatchBusinessFrame, if_pos hserial,
    if_pos hserial]
  split_ifs
  · exact hdrop
  · exact hdrop
  · rfl

/-- **The two frameworks.** On the same requests and sessions they do the same with a frame, and neither
delivers a late answer, if and only if the frame is one of those they agree on. -/
theorem same_meaning (readFields : Bytes → Option (List Wire.Field)) (hstate : SameState rpc sessions client)
    (frame : BackendFrame) :
    ((Backend.handleFrame m rpc sessions frame).action =
        client.onGatewayFrame (GatewayInternal.messageMap readFields m) frame ∧
      (frame.serial > 0 → rpc.pendingRequests.contains frame.serial = false →
        (Backend.handleFrame m rpc sessions frame).action.delivers = false ∧
          (client.onGatewayFrame (GatewayInternal.messageMap readFields m) frame).delivers = false)) ↔
      Agreed m (GatewayInternal.messageMap readFields m) rpc sessions frame := by
  have hcpp := GatewayInternal.typed_messageMap readFields m
  have hiff : (Backend.handleFrame m rpc sessions frame).action =
      client.onGatewayFrame (GatewayInternal.messageMap readFields m) frame ↔
        Agreed m (GatewayInternal.messageMap readFields m) rpc sessions frame := by
    rw [Backend.handleFrame, BackendClient.onGatewayFrame]
    split_ifs with hcontrol hbusiness
    · exact control_eq_iff hcpp hstate hcontrol
    · exact business_eq_iff hstate hbusiness
    · exact iff_of_true rfl ⟨fun _ _ => ⟨fun h => absurd h hcontrol, hbusiness⟩,
        fun h => absurd h hbusiness, fun h => absurd h hcontrol⟩
  rw [← hiff, and_iff_left_iff_imp]
  intro heq hserial hlate
  rw [← heq, handleFrame_late hserial hlate]
  exact ⟨rfl, rfl⟩

namespace Sample

/-- Pushes about session 7, and one message that is not the gateway's. -/
def messages : MessageMap where
  encode msg := (msg.msgId, [])
  decode msgId payload :=
    if msgId = sessionOnlinePushId then
      if payload = [8, 7] then .ok (.sessionOnlinePush 7) else .error "invalid wire type"
    else if msgId = 1000 then .ok (.other 1000 [])
    else .error "unknown message id"

/-- What libprotobuf reads of a payload whose fields have one-byte tags. -/
def readFields (payload : Bytes) : Option (List Wire.Field) := Wire.getAll payload.length payload

/-- What the battle server reads messages with. -/
def battleMessages : MessageMap := GatewayInternal.messageMap readFields messages

def gatewayFrame (cmd : UInt8) (msgId : UInt16) (serial : Int32) (sessionId : UInt32) (payload : Bytes) :
    BackendFrame := { cmd, msgId, serial, sessionId, payload }

theorem same_seven : SameState {} ((∅ : Table UInt32 Mailbox).insert 7 .room)
    { onlineSessions := (∅ : Table UInt32 Unit).insert 7 () } where
  pending _ := rfl
  online sessionId := by
    rw [Table.contains, Table.contains, Table.get_insert, Table.get_insert]
    split_ifs <;> rfl

end Sample

/-- A session that comes online, again. -/
theorem same_meaning_online : (Backend.handleFrame Sample.messages {}
      ((∅ : Table UInt32 Mailbox).insert 7 .room) (Sample.gatewayFrame backendCmdControl 108 0 0 [8, 7])).action =
    BackendClient.onGatewayFrame Sample.battleMessages { onlineSessions := (∅ : Table UInt32 Unit).insert 7 () }
      (Sample.gatewayFrame backendCmdControl 108 0 0 [8, 7]) := by
  refine ((same_meaning Sample.readFields Sample.same_seven _).2
    ⟨fun h => absurd h (by decide), fun h => absurd h (by decide), fun _ _ _ => ?_⟩).1
  exact ⟨.sessionOnlinePush 7, .sessionOnlinePush 7, by decide, by decide, .same _, fun _ _ _ h => by cases h⟩

/-- A session id that is sent as a string: the Rust framework refuses the message, and the C++ framework opens
the session with the default. -/
example : (Backend.handleFrame Sample.messages {} ∅ (Sample.gatewayFrame backendCmdControl 108 0 0 [10, 0])).action =
      .drop ∧
    BackendClient.onGatewayFrame Sample.battleMessages {} (Sample.gatewayFrame backendCmdControl 108 0 0 [10, 0]) =
      .sessionOnline 0 := by decide

/-- An answer with the serial 5, to no request that waits, and from a session that is online: the Rust
framework drops it, and the C++ framework handles it as a request and answers it. -/
theorem late_answer_delivered :
    (Backend.handleFrame Sample.messages {} ((∅ : Table UInt32 Mailbox).insert 7 .room)
      (Sample.gatewayFrame backendCmdBusiness 1000 5 7 [])).action = .drop ∧
    BackendClient.onGatewayFrame Sample.battleMessages { onlineSessions := (∅ : Table UInt32 Unit).insert 7 () }
      (Sample.gatewayFrame backendCmdBusiness 1000 5 7 []) = .clientRequest 7 (-5) ∧
    SameState {} ((∅ : Table UInt32 Mailbox).insert 7 .room)
      { onlineSessions := (∅ : Table UInt32 Unit).insert 7 () } :=
  ⟨by decide, by decide, Sample.same_seven⟩

end AxmolFighter.Battle
