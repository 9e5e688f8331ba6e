import AxmolFighter.Backend.Rpc

/-!
# What a backend does with a frame of the gateway

The read loop of `session.rs` completes requests, starts and stops sessions, answers pings and passes
messages on to the tasks that handle them. A delegate is set, and the tasks run: what a task makes of the
frame it is given is part of what becomes of the frame.
-/

namespace AxmolFighter.Backend

/-- What becomes of a frame. `reply` is the serial of the answer to a request, which the delegate gives, or
which is an error of the framework. -/
inductive Action
  | completeRpc (requestId : Int32)
  | sessionOnline (sessionId : UInt32)
  | sessionOffline (sessionId : UInt32)
  | serverOnline (serviceId instanceId : UInt32)
  | serverOffline (serviceId instanceId : UInt32)
  | pong (nonce : UInt64) (sessionId : UInt32)
  | clientPush (sessionId : UInt32)
  | clientRequest (sessionId : UInt32) (reply : Int32)
  | clientError (sessionId : UInt32) (reply : Int32)
  | serverPush (source : ServerSource) (inner : BackendFrame)
  | serverRequest (source : ServerSource) (inner : BackendFrame) (reply : Int32)
  | serverError (source : ServerSource) (reply : Int32)
  | drop
deriving DecidableEq

/-- The frame is given to the delegate as a push or a request. -/
def Action.delivers : Action → Bool
  | .clientPush _ | .clientRequest _ _ | .serverPush _ _ | .serverRequest _ _ _ => true
  | _ => false

/-- What a `try_send` to a session's mailbox meets. -/
inductive Mailbox
  | room
  | full
  | closed
deriving DecidableEq

/-- What becomes of a frame, the request that it completes, and the requests that wait after it. -/
structure Handled where
  action : Action
  completed : Option (Nat × PendingResponse) := none
  rpc : RpcManager
deriving DecidableEq

variable (m : MessageMap) (rpc : RpcManager) (sessions : Table UInt32 Mailbox)

/-- The frame is taken for a response, whether a request waits for it or not. -/
def resolve (serial : Int32) (msgId : UInt16) (payload : Bytes) : Handled :=
  match rpc.resolvePendingResponse m serial msgId payload with
  | (some completed, rpc) => { action := .completeRpc serial, completed := some completed, rpc }
  | (none, rpc) => { action := .drop, rpc }

def processServerMessage (source : ServerSource) (inner : BackendFrame) : Action :=
  match m.decode inner.msgId inner.payload with
  | .ok _ =>
      if inner.serial < 0 then .serverRequest source inner (-inner.serial)
      else if inner.serial > 0 then .drop
      else .serverPush source inner
  | .error _ => if inner.serial ≠ 0 then .serverError source (-inner.serial) else .drop

def routeForwardedFrame (req : ForwardToServerReq) : Handled :=
  let source : ServerSource := ⟨req.sourceServiceId, req.sourceInstanceId.toInt32⟩
  match tryExtractFrame req.payload with
  | .ok (some (inner, _)) =>
      if inner.serial > 0 then resolve m rpc inner.serial inner.msgId inner.payload
      else { action := processServerMessage m source inner, rpc }
  | _ => { action := .drop, rpc }

def handleControlFrame (frame : BackendFrame) : Handled :=
  if frame.serial > 0 then resolve m rpc frame.serial frame.msgId frame.payload
  else
    match m.decode frame.msgId frame.payload with
    | .error _ => { action := .drop, rpc }
    | .ok (.sessionOnlinePush sessionId) => { action := .sessionOnline sessionId, rpc }
    | .ok (.sessionOfflinePush sessionId) => { action := .sessionOffline sessionId, rpc }
    | .ok (.serverOnlinePush serviceId instanceId) => { action := .serverOnline serviceId instanceId, rpc }
    | .ok (.serverOfflinePush serviceId instanceId) => { action := .serverOffline serviceId instanceId, rpc }
    | .ok (.forwardToServerReq req) => routeForwardedFrame m rpc req
    | .ok (.serverPingReq nonce) => { action := .pong nonce frame.sessionId, rpc }
    | .ok _ => { action := .drop, rpc }

/-- A request whose payload cannot be read is not answered. -/
def processClientFrame (frame : BackendFrame) : Action :=
  match m.decode frame.msgId frame.payload with
  | .ok _ =>
      if frame.serial = 0 then .clientPush frame.sessionId
      else .clientRequest frame.sessionId (-frame.serial)
  | .error _ => .drop

def dispatchBusinessFrame (frame : BackendFrame) : Handled :=
  if frame.serial > 0 then resolve m rpc frame.serial frame.msgId frame.payload
  else
    match sessions.get frame.sessionId with
    | some .room => { action := processClientFrame m frame, rpc }
    | some .full =>
        { action := if frame.serial ≠ 0 then .clientError frame.sessionId (-frame.serial) else .drop, rpc }
    | some .closed => { action := .drop, rpc }
    | none => { action := .drop, rpc }

/-- `dispatch_frame`. -/
def handleFrame (frame : BackendFrame) : Handled :=
  if frame.cmd = backendCmdControl then handleControlFrame m rpc frame
  else if frame.cmd = backendCmdBusiness then dispatchBusinessFrame m rpc sessions frame
  else { action := .drop, rpc }

/-! ### Requests that wait -/

variable {m rpc sessions}

/-- A frame takes at most the request with its serial out of the table, and only with an answer to it. -/
structure Handled.Answers (m : MessageMap) (rpc : RpcManager) (serial : Int32) (msgId : UInt16)
    (payload : Bytes) (handled : Handled) : Prop where
  completed : handled.completed =
    (rpc.pendingRequests.get serial).map fun tx => (tx, decodeResponse m msgId payload)
  removed : handled.rpc.pendingRequests.get serial = none
  kept : ∀ id, id ≠ serial → handled.rpc.pendingRequests.get id = rpc.pendingRequests.get id
  serialSeed : handled.rpc.serialSeed = rpc.serialSeed

/-- The requests that wait are left alone. -/
def Handled.Spares (rpc : RpcManager) (handled : Handled) : Prop :=
  handled.completed = none ∧ handled.rpc = rpc

theorem resolve_answers {serial : Int32} (h : serial > 0) (msgId : UInt16) (payload : Bytes) :
    (resolve m rpc serial msgId payload).Answers m rpc serial msgId payload := by
  rw [resolve, RpcManager.resolvePendingResponse, if_neg (Int32.not_le.2 h)]
  rcases hget : rpc.pendingRequests.get serial with _ | tx
  · exact ⟨by simp [hget], hget, fun _ _ => rfl, rfl⟩
  · refine ⟨by simp [hget], Table.get_remove_self .., fun id hid => ?_, rfl⟩
    exact Table.get_remove_ne _ hid

theorem resolve_action {serial : Int32} (h : serial > 0) (msgId : UInt16) (payload : Bytes) :
    (resolve m rpc serial msgId payload).action =
      if rpc.pendingRequests.contains serial then .completeRpc serial else .drop := by
  rw [resolve, RpcManager.resolvePendingResponse, if_neg (Int32.not_le.2 h), Table.contains]
  rcases rpc.pendingRequests.get serial with _ | tx <;> rfl

theorem routeForwardedFrame_cases (req : ForwardToServerReq) :
    (routeForwardedFrame m rpc req).Spares rpc ∨ ∃ inner rest,
      tryExtractFrame req.payload = .ok (some (inner, rest)) ∧ inner.serial > 0 ∧
        (routeForwardedFrame m rpc req).Answers m rpc inner.serial inner.msgId inner.payload := by
  rw [routeForwardedFrame]
  rcases tryExtractFrame req.payload with e | _ | ⟨inner, rest⟩
  · exact Or.inl ⟨rfl, rfl⟩
  · exact Or.inl ⟨rfl, rfl⟩
  · dsimp only
    split_ifs with hserial
    · exact Or.inr ⟨inner, rest, rfl, hserial, resolve_answers hserial ..⟩
    · exact Or.inl ⟨rfl, rfl⟩

/-- A control frame answers a request with its own serial, or with that of the frame it carries. -/
theorem handleControlFrame_cases (frame : BackendFrame) :
    (handleControlFrame m rpc frame).Spares rpc ∨
      (frame.serial > 0 ∧
        (handleControlFrame m rpc frame).Answers m rpc frame.serial frame.msgId frame.payload) ∨
      ∃ req inner rest, m.decode frame.msgId frame.payload = .ok (.forwardToServerReq req) ∧
        tryExtractFrame req.payload = .ok (some (inner, rest)) ∧ inner.serial > 0 ∧
        (handleControlFrame m rpc frame).Answers m rpc inner.serial inner.msgId inner.payload := by
  rw [handleControlFrame]
  split_ifs with hserial
  · exact Or.inr (Or.inl ⟨hserial, resolve_answers hserial ..⟩)
  · rcases hdecode : m.decode frame.msgId frame.payload with e | msg
    · exact Or.inl ⟨rfl, rfl⟩
    · cases msg with
      | forwardToServerReq req =>
          rcases routeForwardedFrame_cases req with h | ⟨inner, rest, hinner, hpositive, h⟩
          · exact Or.inl h
          · exact Or.inr (Or.inr ⟨req, inner, rest, rfl, hinner, hpositive, h⟩)
      | _ => exact Or.inl ⟨rfl, rfl⟩

variable (m rpc sessions) in
theorem dispatchBusinessFrame_cases (frame : BackendFrame) :
    (frame.serial ≤ 0 ∧ (dispatchBusinessFrame m rpc sessions frame).Spares rpc) ∨
      (frame.serial > 0 ∧
        (dispatchBusinessFrame m rpc sessions frame).Answers m rpc frame.serial frame.msgId frame.payload) := by
  rw [dispatchBusinessFrame]
  by_cases hserial : frame.serial > 0
  · rw [if_pos hserial]
    exact Or.inr ⟨hserial, resolve_answers hserial ..⟩
  · rw [if_neg hserial]
    refine Or.inl ⟨Int32.not_lt.1 hserial, ?_⟩
    split <;> exact ⟨rfl, rfl⟩

end AxmolFighter.Backend
