import AxmolFighter.Battle.BackendClient
import AxmolFighter.Gateway.Calls

/-!
# The serials of replies

A request has a negative serial and its reply the negation of it, which the requester's table of pending
requests takes only if it is positive. The gateway, the framework of the Rust backends and that of the battle
server negate serials that they have read from the network, at a dozen places. The negation of the smallest
32-bit number is that number again.
-/

namespace AxmolFighter

open Gateway (ClientDelegate InternalDelegate GatewayM Op RouteTarget RegisterResult perform signature
  calls_perform)
open Backend (Action Mailbox RpcManager ServerSource)

variable {m : MessageMap}

/-! ### The gateway -/

/-- The serial of a reply that the gateway puts on the requester's connection. -/
def Gateway.Op.replySerial : Op → Option Int32
  | .send _ (.toClient (.gateway _ r)) => some r
  | .send _ (.toBackend (.control (.bindServiceResp _) r _)) => some r
  | .send _ (.toBackend (.control (.unbindServiceResp _) r _)) => some r
  | .send _ (.toBackend (.control (.kickSessionRsp _ _) r _)) => some r
  | .send _ (.toBackend (.control (.gatewayErrorResp _ _) r _)) => some r
  | _ => none

/-- Whatever the program replies has the negated serial. -/
def Negates {α : Type} (s : Int32) (p : GatewayM α) : Prop :=
  p.Calls fun op : Op => ∀ r, op.replySerial = some r → s < 0 → r = -s

variable {s : Int32}

theorem Negates.silent {op : Op} (h : op.replySerial = none) : Negates s (perform op) :=
  .perform fun _ hr => by rw [h] at hr; cases hr

theorem Negates.reply {op : Op} {r : Int32} (h : op.replySerial = some r) (hr : s < 0 → r = -s) :
    Negates s (perform op) := by
  refine .perform fun r' hr' => ?_
  obtain rfl := Option.some.inj (h.symm.trans hr')
  exact hr

theorem Negates.bind {α β : Type} {p : GatewayM α} {f : α → GatewayM β} (hp : Negates s p)
    (hf : ∀ a, Negates s (f a)) : Negates s (p >>= f) := Program.Calls.bind hp hf

theorem Negates.ret {α : Type} (a : α) : Negates s (pure a) := Program.Calls.ret a

namespace Gateway.ClientDelegate

variable (d : ClientDelegate)

theorem negates_buildStatus : Negates s d.buildStatus := by
  refine (Negates.silent rfl).bind fun statuses => Negates.bind ?_ fun _ => .ret _
  refine Program.Calls.filter fun status => ?_
  refine (Negates.silent rfl).bind fun unbound => ?_
  split_ifs
  · exact .ret _
  · exact (Negates.silent rfl).bind fun _ => .ret _

theorem negates_sendOwn (msg : Message) {r : Int32} (hr : s < 0 → r = -s) :
    Negates s (d.sendOwn (.toClient (.gateway msg r))) :=
  .whenSome fun _ => (Negates.reply rfl hr).bind fun _ => .ret _

theorem negates_handleServerStatusRequest : Negates s (d.handleServerStatusRequest s) := by
  have hstatus : Negates s (do
      let data ← d.encodeStatusFrame s
      d.sendOwn (.toClient data)) := by
    rw [encodeStatusFrame, Program.bind_assoc]
    exact d.negates_buildStatus.bind fun status => d.negates_sendOwn status fun h => if_pos h
  refine (Negates.silent rfl).bind fun first => ?_
  cases first with
  | false => exact hstatus
  | true => exact (Negates.silent rfl).bind fun _ => hstatus

theorem negates_replyErrorIfRequest (code : UInt32) (message : String) :
    Negates s (d.replyErrorIfRequest s code message) := by
  unfold replyErrorIfRequest
  split_ifs
  · exact .ret _
  · exact d.negates_sendOwn _ fun _ => rfl

theorem negates_routeBusiness (frame : ClientFrame) (target : RouteTarget) :
    Negates frame.serial (d.routeBusiness frame target) := by
  have hforward : ∀ found unavailable, Negates frame.serial (d.forwardBusiness frame found unavailable) := by
    intro found unavailable
    cases found with
    | none => exact d.negates_replyErrorIfRequest ..
    | some tx => exact (Negates.silent rfl).bind fun _ => .ret _
  cases target with
  | service _ | boundService _ _ => exact (Negates.silent rfl).bind fun _ => hforward ..
  | serviceNotBound _ | unknown => exact d.negates_replyErrorIfRequest ..

theorem negates_onRecvFrame (frame : ClientFrame) : Negates frame.serial (d.onRecvFrame m frame.body) := by
  have hreply : ∀ code message, Negates frame.serial (d.replyErrorIfRequest frame.serial code message) :=
    fun code message => d.negates_replyErrorIfRequest code message
  rw [onRecvFrame, ClientFrame.ofBody_body]
  dsimp only
  split_ifs with hshort hid hcmd hcmd
  · exact .ret _
  · exact hreply ..
  · split
    · exact d.negates_handleServerStatusRequest
    · exact hreply ..
  · exact hreply ..
  · refine (Negates.silent rfl).bind fun authenticated => ?_
    split_ifs
    · exact hreply ..
    · exact (Negates.silent rfl).bind fun target => d.negates_routeBusiness frame target

end Gateway.ClientDelegate

namespace Gateway.BindManager

theorem negates_sendBindResult (tx : Gateway.Tx) (req : BindServiceReq) (instanceId code : UInt32)
    (message : String) : Negates s (sendBindResult tx s req instanceId code message) := by
  unfold sendBindResult
  split
  · exact .ret _
  · exact (Negates.reply rfl fun h => if_pos h).bind fun _ => .ret _

theorem negates_select (req : BindServiceReq) : Negates s (select req) := by
  unfold select
  split_ifs
  · exact (Negates.silent rfl).bind fun _ => .ret _
  · exact (Negates.silent rfl).bind fun _ => .ret _

theorem negates_start (tx : Gateway.Tx) (req : BindServiceReq) : Negates s (start tx s req) := by
  refine (negates_select req).bind fun selected => ?_
  cases selected with
  | ok instanceId =>
      exact (Negates.silent rfl).bind fun _ => (negates_sendBindResult ..).bind fun _ => .ret _
  | error e => exact (negates_sendBindResult ..).bind fun _ => .ret _

end Gateway.BindManager

namespace Gateway.InternalDelegate

variable (d : InternalDelegate)

theorem negates_sendServiceStatusToSession (sessionId : UInt32) (serviceId : UInt8) (instanceId : UInt32)
    (online : Bool) : Negates s (sendServiceStatusToSession sessionId serviceId instanceId online) := by
  refine (Negates.silent rfl).bind fun authenticated => ?_
  split_ifs
  · exact (Negates.silent rfl).bind fun _ => .ret _
  · exact .ret _

theorem negates_pushServiceStatus (serviceId : UInt8) (instanceId : UInt32) (online : Bool) :
    Negates s (pushServiceStatus serviceId instanceId online) := by
  refine (Negates.silent rfl).bind fun sessions => .forEach fun sessionId _ => ?_
  refine Negates.bind ?_ fun visible => ?_
  · refine (Negates.silent rfl).bind fun unbound => ?_
    split_ifs
    · exact .ret _
    · exact (Negates.silent rfl).bind fun _ => .ret _
  · split_ifs
    · exact negates_sendServiceStatusToSession ..
    · exact .ret _

theorem negates_sendControl {message : Message} {r : Int32} {sessionId : UInt32}
    (h : ∀ tx r', (Op.send tx (.toBackend (.control message r sessionId))).replySerial = some r' → s < 0 → r' = -s) :
    Negates s (d.sendControl message r sessionId) :=
  .whenSome fun tx => Negates.bind (.perform (h tx)) fun _ => .ret _

theorem negates_handleServerRegReq (req : ServerRegReq) : Negates s (d.handleServerRegReq s req) := by
  rw [handleServerRegReq]
  split
  · exact .ret _
  · refine (Negates.silent rfl).bind fun result => Negates.bind ?_ fun registered => ?_
    · cases result with
      | registered | alreadyRegistered => exact (Negates.silent rfl).bind fun _ => .ret _
      | sessionAlreadyRegistered | instanceAlreadyRegistered => exact .ret _
    · refine (Negates.silent rfl).bind fun servers => (Negates.silent rfl).bind fun _ => ?_
      split_ifs
      · refine Negates.bind ?_ fun _ => .ret _
        refine (Negates.silent rfl).bind fun _ => (negates_pushServiceStatus ..).bind fun _ => ?_
        exact (Negates.silent rfl).bind fun sessions => .forEach fun _ _ =>
          d.negates_sendControl fun _ _ hserial => by cases hserial
      · exact .ret _

theorem negates_handleBindServiceReq (req : BindServiceReq) : Negates s (d.handleBindServiceReq s req) := by
  unfold handleBindServiceReq
  split
  · exact .ret _
  · split
    · exact BindManager.negates_sendBindResult ..
    · refine (BindManager.negates_start ..).bind fun bound => .whenSome fun _ => ?_
      exact negates_sendServiceStatusToSession ..

theorem negates_handleUnbindServiceReq (req : UnbindServiceReq) : Negates s (d.handleUnbindServiceReq s req) := by
  refine (Negates.silent rfl).bind fun removed => Negates.bind ?_ fun _ => ?_
  · exact .whenSome fun _ => negates_sendServiceStatusToSession ..
  · split_ifs
    · exact d.negates_sendControl fun _ _ h _ => (Option.some.inj h).symm
    · exact .ret _

theorem negates_handleKickSessionReq (sessionId : UInt32) : Negates s (d.handleKickSessionReq s sessionId) := by
  refine (Negates.silent rfl).bind fun _ => (Negates.silent rfl).bind fun _ => ?_
  split_ifs
  · exact d.negates_sendControl fun _ _ h _ => (Option.some.inj h).symm
  · exact .ret _

theorem negates_replyControlErrorIfRequest (code : UInt32) (message : String) :
    Negates s (d.replyControlErrorIfRequest s code message) := by
  unfold replyControlErrorIfRequest
  split_ifs with hzero hneg
  · exact .ret _
  · exact d.negates_sendControl fun _ _ h _ => (Option.some.inj h).symm
  · exact d.negates_sendControl fun _ _ _ h => absurd h hneg

theorem negates_handleServerForward (req : ForwardToServerReq) : Negates s (d.handleServerForward s req) := by
  unfold handleServerForward
  split
  · exact d.negates_replyControlErrorIfRequest ..
  · refine Negates.bind ?_ fun selected => ?_
    · unfold selectTarget
      split_ifs
      · exact (Negates.silent rfl).bind fun _ => .ret _
      · exact (Negates.silent rfl).bind fun _ => .ret _
    · split
      · refine (Negates.silent rfl).bind fun sent => ?_
        split_ifs
        · exact .ret _
        · exact d.negates_replyControlErrorIfRequest ..
      · exact d.negates_replyControlErrorIfRequest ..

theorem negates_onRecvFrame (frame : BackendFrame) : Negates frame.serial (d.onRecvFrame m frame.body) := by
  rw [onRecvFrame, BackendFrame.ofBody_body]
  dsimp only
  split_ifs with hshort hcmd
  · exact .ret _
  · exact (Negates.silent rfl).bind fun _ => .ret _
  · unfold handleInternal
    split_ifs
    · exact .ret _
    · split
      · rename_i message _
        cases message with
        | serverRegReq req => exact d.negates_handleServerRegReq req
        | bindServiceReq req => exact (d.negates_handleBindServiceReq req).bind fun _ => .ret _
        | unbindServiceReq req => exact (d.negates_handleUnbindServiceReq req).bind fun _ => .ret _
        | kickSessionReq sessionId => exact (d.negates_handleKickSessionReq sessionId).bind fun _ => .ret _
        | forwardToServerReq req => exact (d.negates_handleServerForward req).bind fun _ => .ret _
        | serviceLoadReportPush report =>
            refine Negates.bind (.whenSome fun _ => ?_) fun _ => .ret _
            exact (Negates.silent rfl).bind fun _ => .ret _
        | serverPongResp nonce =>
            refine Negates.bind ?_ fun _ => .ret _
            refine (Negates.silent rfl).bind fun latency => .whenSome fun _ => ?_
            exact (Negates.silent rfl).bind fun _ => .ret _
        | _ => exact .ret _
      · exact .ret _

end Gateway.InternalDelegate

/-! ### The frameworks of the backends -/

namespace Backend

/-- The serial of a reply to a client. -/
def Action.clientReply : Action → Option Int32
  | .clientRequest _ r | .clientError _ r => some r
  | _ => none

/-- The serial of a reply to another server. -/
def Action.serverReply : Action → Option Int32
  | .serverRequest _ _ r | .serverError _ r => some r
  | _ => none

variable {rpc : RpcManager} {sessions : Table UInt32 Mailbox} {frame : BackendFrame} {r : Int32}

theorem resolve_clientReply (serial : Int32) (msgId : UInt16) (payload : Bytes) :
    (resolve m rpc serial msgId payload).action.clientReply = none := by
  unfold resolve
  split <;> rfl

theorem processServerMessage_clientReply (source : ServerSource) (inner : BackendFrame) :
    (processServerMessage m source inner).clientReply = none := by
  unfold processServerMessage
  split <;> split_ifs <;> rfl

theorem processServerMessage_serverReply {source : ServerSource} {inner : BackendFrame}
    (h : (processServerMessage m source inner).serverReply = some r) : r = -inner.serial := by
  unfold processServerMessage at h
  split at h <;> split_ifs at h <;> cases h <;> rfl

theorem handleControlFrame_clientReply : (handleControlFrame m rpc frame).action.clientReply = none := by
  unfold handleControlFrame
  split_ifs
  · exact resolve_clientReply ..
  · split
    · rfl
    · rfl
    · rfl
    · rfl
    · rfl
    · rw [routeForwardedFrame]
      split
      · split_ifs
        · exact resolve_clientReply ..
        · exact processServerMessage_clientReply ..
      · rfl
    · rfl
    · rfl

theorem handleFrame_clientReply (h : (handleFrame m rpc sessions frame).action.clientReply = some r) :
    r = -frame.serial := by
  unfold handleFrame at h
  split_ifs at h
  · rw [handleControlFrame_clientReply] at h
    cases h
  · unfold dispatchBusinessFrame at h
    split at h
    · rw [resolve_clientReply] at h
      cases h
    · split at h
      · unfold processClientFrame at h
        split at h
        · split_ifs at h <;> cases h
          rfl
        · cases h
      · dsimp only at h
        split_ifs at h <;> cases h
        rfl
      · cases h
      · cases h
  · cases h

end Backend

namespace Battle.BackendClient

variable {client : BackendClient} {frame : BackendFrame} {r : Int32}

/-- `processClientFrame` of a client without a delegate. -/
def processClientFrameUnattended (frame : BackendFrame) : Action :=
  if frame.serial ≠ 0 then .clientError frame.sessionId (-frame.serial) else .drop

theorem processServerFrame_serverReply {source : ServerSource}
    (h : (processServerFrame source frame).serverReply = some r) : r = -frame.serial := by
  unfold processServerFrame at h
  split_ifs at h <;> cases h
  rfl

theorem processClientFrameUnattended_clientReply
    (h : (processClientFrameUnattended frame).clientReply = some r) : r = -frame.serial := by
  unfold processClientFrameUnattended at h
  split_ifs at h <;> cases h
  rfl

theorem routeForwardToServer_clientReply (req : ForwardToServerReq) :
    (client.routeForwardToServer req).clientReply = none := by
  unfold routeForwardToServer
  split
  · rfl
  · split_ifs
    · rfl
    · rfl
    · unfold processServerFrame
      split_ifs <;> rfl

theorem handleControlFrame_clientReply : (client.handleControlFrame m frame).clientReply = none := by
  unfold handleControlFrame
  split_ifs
  · rfl
  · split <;> rfl
  · split <;> rfl
  · split
    · exact routeForwardToServer_clientReply _
    · rfl
  · split <;> rfl
  · split <;> rfl
  · split <;> rfl
  · rfl

theorem onGatewayFrame_clientReply (h : (client.onGatewayFrame m frame).clientReply = some r) :
    r = -frame.serial := by
  unfold onGatewayFrame at h
  split_ifs at h
  · rw [handleControlFrame_clientReply] at h
    cases h
  · unfold handleBusinessFrame at h
    split_ifs at h
    · cases h
    · cases h
      rfl
    · cases h
    · unfold processClientFrame at h
      split_ifs at h <;> cases h
      rfl
  · cases h

end Battle.BackendClient

/-! ### All places -/

/-- A reply with serial `r` to a request with serial `s`, at one of the places that give one. -/
inductive Replies (m : MessageMap) : Int32 → Int32 → Prop
  /-- `encode_status_frame` and `reply_error_if_request`, on any path of the gateway. -/
  | client (d : ClientDelegate) (frame : ClientFrame) {calls : List signature.Call} {rest : GatewayM Unit}
      {c : signature.Call} {r : Int32} (hpath : (d.onRecvFrame m frame.body).Path calls rest) (hc : c ∈ calls)
      (hr : Gateway.Op.replySerial c.op = some r) : Replies m frame.serial r
  /-- The control requests of a backend: bind, unbind, kick and what cannot be forwarded. -/
  | control (d : InternalDelegate) (frame : BackendFrame) {calls : List signature.Call}
      {rest : GatewayM InternalDelegate} {c : signature.Call} {r : Int32}
      (hpath : (d.onRecvFrame m frame.body).Path calls rest) (hc : c ∈ calls)
      (hr : Gateway.Op.replySerial c.op = some r) : Replies m frame.serial r
  /-- `process_client_frame`, and a mailbox that is full. -/
  | rustClient (rpc : RpcManager) (sessions : Table UInt32 Mailbox) (frame : BackendFrame) {r : Int32}
      (hr : (Backend.handleFrame m rpc sessions frame).action.clientReply = some r) : Replies m frame.serial r
  /-- `process_server_message`. -/
  | rustServer (source : ServerSource) (inner : BackendFrame) {r : Int32}
      (hr : (Backend.processServerMessage m source inner).serverReply = some r) : Replies m inner.serial r
  /-- `processClientFrame`, and a session that is not online. -/
  | cppClient (client : Battle.BackendClient) (frame : BackendFrame) {r : Int32}
      (hr : (client.onGatewayFrame m frame).clientReply = some r) : Replies m frame.serial r
  | cppUnattended (frame : BackendFrame) {r : Int32}
      (hr : (Battle.BackendClient.processClientFrameUnattended frame).clientReply = some r) :
      Replies m frame.serial r
  /-- `processServerFrame`. -/
  | cppServer (source : ServerSource) (frame : BackendFrame) {r : Int32}
      (hr : (Battle.BackendClient.processServerFrame source frame).serverReply = some r) : Replies m frame.serial r

theorem Negates.path {α : Type} {p rest : GatewayM α} {calls : List signature.Call} {c : signature.Call} {r : Int32}
    (h : Negates s p) (hpath : p.Path calls rest) (hc : c ∈ calls) (hr : Gateway.Op.replySerial c.op = some r)
    (hs : s < 0) : r = -s := (Program.Calls.path h hpath).1 c hc r hr hs

theorem Replies.eq_neg {r : Int32} (h : Replies m s r) (hs : s < 0) : r = -s := by
  cases h with
  | client d frame hpath hc hr => exact (d.negates_onRecvFrame frame).path hpath hc hr hs
  | control d frame hpath hc hr => exact (d.negates_onRecvFrame frame).path hpath hc hr hs
  | rustClient rpc sessions frame hr => exact Backend.handleFrame_clientReply hr
  | rustServer source inner hr => exact Backend.processServerMessage_serverReply hr
  | cppClient client frame hr => exact Battle.BackendClient.onGatewayFrame_clientReply hr
  | cppUnattended frame hr => exact Battle.BackendClient.processClientFrameUnattended_clientReply hr
  | cppServer source frame hr => exact Battle.BackendClient.processServerFrame_serverReply hr

theorem neg_serial_iff (hs : s < 0) : ((-s).toInt = -s.toInt ∧ 0 < -s) ↔ s ≠ Int32.minValue := by
  rw [Int32.lt_iff_toInt_lt] at hs ⊢
  rw [ne_eq, ← Int32.toInt_inj, Int32.toInt_neg]
  have hle := Int32.le_toInt s
  have hzero : (0 : Int32).toInt = 0 := rfl
  have hmin : Int32.minValue.toInt = -2 ^ 31 := rfl
  rw [hzero] at hs ⊢
  rw [hmin]
  by_cases hmost : s.toInt = -2 ^ 31
  · rw [hmost]
    decide
  · rw [Int.bmod_eq_of_le (by omega) (by omega)]
    omega

/-- The serial of every reply is the negation of the request's and positive, unless the request has the smallest
serial. -/
theorem replies_iff (r : Int32) (h : Replies m s r) (hs : s < 0) :
    (r.toInt = -s.toInt ∧ 0 < r) ↔ s ≠ Int32.minValue := by
  rw [h.eq_neg hs]
  exact neg_serial_iff hs

/-- A mailbox that is full, and a request for it. -/
theorem replies_iff_mailbox : Replies Battle.Sample.messages (-5) 5 ∧
    (5 : Int32).toInt = -(-5 : Int32).toInt ∧ (0 : Int32) < 5 := by
  have hreplies : Replies Battle.Sample.messages (-5) 5 := .rustClient {} (Table.insert ∅ 7 .full)
    (Battle.Sample.gatewayFrame backendCmdBusiness 1000 (-5) 7 []) rfl
  exact ⟨hreplies, (replies_iff 5 hreplies (by decide)).2 (by decide)⟩

/-- A client whose status request has the wrong command and the smallest serial: the gateway answers with the same
serial. -/
theorem smallest_serial_answered : ∃ s r : Int32, Replies Battle.Sample.messages s r ∧ s < 0 ∧
    ¬ (r.toInt = -s.toInt ∧ 0 < r) := by
  have hpath : ((({ sessionId := 1, tx := some 1 } : ClientDelegate).onRecvFrame Battle.Sample.messages
      (ClientFrame.body { cmd := 0, msgId := serverStatusReqId, serial := Int32.minValue, payload := [] })).Path
        [⟨.send 1 (.toClient (.gateway (.gatewayErrorResp 1 "gateway message command is required") Int32.minValue)),
          true⟩] (.ret ())) := by
    rw [ClientDelegate.onRecvFrame, ClientFrame.ofBody_body]
    exact .cons (.nil _)
  exact ⟨_, _, .client _ _ hpath List.mem_cons_self rfl, by decide, by decide⟩

end AxmolFighter
