import AxmolFighter.Gateway.Effects

/-!
# What one frame forwards

A backend's frame to another server is put on a channel by one call of `handle_server_forward`, with the payload
that it came with. No handler makes a second such call, whatever the answers it gets, and the handlers of all
other inputs make none.
-/

namespace AxmolFighter.Gateway

/-- The message brings a frame of another server. -/
def WriterMessage.passes : WriterMessage → Bool
  | .toBackend (.control message _ _) => message.msgId == forwardToServerReqId
  | _ => false

def Op.passes (op : Op) : Bool := op.message.any WriterMessage.passes

/-- No call of the program forwards a frame. -/
abbrev Withholds {α : Type} (p : GatewayM α) : Prop := p.Calls fun op : Op => op.passes = false

theorem withholds_perform {op : Op} (h : op.passes = false) : Withholds (perform op) := .perform h

/-- The message is a frame of another server with the payload of the one in `frame`. -/
def WriterMessage.Forwards (m : MessageMap) (frame : BackendFrame) (message : WriterMessage) : Prop :=
  ∃ req forwarded : ForwardToServerReq, m.decode frame.msgId frame.payload = .ok (.forwardToServerReq req) ∧
    message = .toBackend (.control (.forwardToServerReq forwarded) 0 0) ∧ forwarded.payload = req.payload

/-- The conduct of a handler that may still forward a frame (`true`) or may not. -/
inductive Passes (forwards : WriterMessage → Prop) : Bool → (op : Op) → op.Answer → Bool → Prop
  | other {b : Bool} {op : Op} {answer : op.Answer} (h : op.passes = false) : Passes forwards b op answer b
  | pass (tx : Tx) {message : WriterMessage} (sent : Bool) (h : forwards message) :
      Passes forwards true (.send tx message) sent false

abbrev PassesOnce {α : Type} (forwards : WriterMessage → Prop) (b : Bool) (p : GatewayM α) : Prop :=
  p.Follows (Passes forwards) (fun _ _ => True) b

variable {α : Type} {forwards : WriterMessage → Prop} {b : Bool} {p : GatewayM α}

theorem Withholds.once (h : Withholds p) (b : Bool) : PassesOnce forwards b p :=
  (Program.Follows.of_calls h fun _ _ => .other).mono fun _ _ _ => trivial

/-! ### The calls of the delegates -/

theorem BindManager.withholds_sendBindResult (tx : Tx) (serial : Int32) (req : BindServiceReq)
    (instanceId code : UInt32) (message : String) :
    Withholds (sendBindResult tx serial req instanceId code message) := by
  unfold sendBindResult
  split
  · exact .ret _
  · exact (withholds_perform rfl).bind fun _ => .ret _

theorem BindManager.withholds_start (tx : Tx) (serial : Int32) (req : BindServiceReq) :
    Withholds (start tx serial req) := by
  have hselect : Withholds (select req) := by
    unfold select
    split
    · exact (withholds_perform rfl).bind fun _ => .ret _
    · exact (withholds_perform rfl).bind fun _ => .ret _
  refine hselect.bind fun selected => ?_
  split
  · exact (withholds_perform rfl).bind fun _ => (withholds_sendBindResult ..).bind fun _ => .ret _
  · exact (withholds_sendBindResult ..).bind fun _ => .ret _

theorem ClientDelegate.withholds_onSessionClose (d : ClientDelegate) : Withholds d.onSessionClose := by
  refine (withholds_perform rfl).bind fun wasAuthenticated => (withholds_perform rfl).bind fun _ => ?_
  split
  · exact withholds_perform rfl
  · exact .ret _

namespace InternalDelegate

variable (d : InternalDelegate)

theorem withholds_sendServiceStatusToSession (sessionId : UInt32) (serviceId : UInt8) (instanceId : UInt32)
    (online : Bool) : Withholds (sendServiceStatusToSession sessionId serviceId instanceId online) := by
  refine (withholds_perform rfl).bind fun authenticated => ?_
  split
  · exact (withholds_perform rfl).bind fun _ => .ret _
  · exact .ret _

theorem withholds_pushServiceStatus (serviceId : UInt8) (instanceId : UInt32) (online : Bool) :
    Withholds (pushServiceStatus serviceId instanceId online) := by
  refine (withholds_perform rfl).bind fun sessions => .forEach fun sessionId _ => ?_
  have hvisible : Withholds (serviceVisibleToSession sessionId serviceId instanceId) := by
    refine (withholds_perform rfl).bind fun unbound => ?_
    split
    · exact .ret _
    · exact (withholds_perform rfl).bind fun _ => .ret _
  refine hvisible.bind fun visible => ?_
  split
  · exact withholds_sendServiceStatusToSession ..
  · exact .ret _

theorem withholds_sendControl {message : Message} (h : message.msgId ≠ forwardToServerReqId) (serial : Int32)
    (sessionId : UInt32) : Withholds (d.sendControl message serial sessionId) := by
  refine .whenSome fun tx => ?_
  have hsend : (Op.send tx (.toBackend (.control message serial sessionId))).passes = false := by
    simpa [Op.passes, Op.message, WriterMessage.passes] using h
  exact (withholds_perform hsend).bind fun _ => .ret _

theorem withholds_replyControlErrorIfRequest (serial : Int32) (code : UInt32) (message : String) :
    Withholds (d.replyControlErrorIfRequest serial code message) := by
  unfold replyControlErrorIfRequest
  split
  · exact .ret _
  · exact d.withholds_sendControl (by simp [Message.msgId, forwardToServerReqId]) ..

theorem withholds_onSessionClose : Withholds d.onSessionClose := by
  refine (withholds_perform rfl).bind fun removed => .whenSome fun server => ?_
  refine (withholds_perform rfl).bind fun _ => ?_
  exact (withholds_pushServiceStatus ..).bind fun _ => withholds_perform rfl

theorem withholds_announce (req : ServerRegReq) : Withholds (d.announce req) := by
  refine (withholds_perform rfl).bind fun _ => (withholds_pushServiceStatus ..).bind fun _ => ?_
  refine (withholds_perform rfl).bind fun sessions => .forEach fun sid _ => ?_
  exact d.withholds_sendControl (by simp [Message.msgId, forwardToServerReqId]) ..

theorem withholds_handleServerRegReq (serial : Int32) (req : ServerRegReq) :
    Withholds (d.handleServerRegReq serial req) := by
  rw [handleServerRegReq]
  split
  · exact .ret _
  · refine (withholds_perform rfl).bind fun result => ?_
    have hresult : Withholds (d.registerResult req result) := by
      cases result with
      | registered | alreadyRegistered => exact (withholds_perform rfl).bind fun _ => .ret _
      | sessionAlreadyRegistered | instanceAlreadyRegistered => exact .ret _
    refine hresult.bind fun registered => (withholds_perform rfl).bind fun servers => ?_
    refine (withholds_perform rfl).bind fun _ => ?_
    split_ifs
    · exact (d.withholds_announce req).bind fun _ => .ret _
    · exact .ret _

theorem withholds_handleBindServiceReq (serial : Int32) (req : BindServiceReq) :
    Withholds (d.handleBindServiceReq serial req) := by
  unfold handleBindServiceReq
  split
  · exact .ret _
  · split
    · exact BindManager.withholds_sendBindResult ..
    · exact (BindManager.withholds_start ..).bind fun bound => .whenSome fun _ =>
        withholds_sendServiceStatusToSession ..

theorem withholds_handleUnbindServiceReq (serial : Int32) (req : UnbindServiceReq) :
    Withholds (d.handleUnbindServiceReq serial req) := by
  refine (withholds_perform rfl).bind fun removed => Program.Calls.bind ?_ fun _ => ?_
  · exact .whenSome fun _ => withholds_sendServiceStatusToSession ..
  · split
    · exact d.withholds_sendControl (by simp [Message.msgId, forwardToServerReqId]) ..
    · exact .ret _

theorem withholds_handleKickSessionReq (serial : Int32) (sessionId : UInt32) :
    Withholds (d.handleKickSessionReq serial sessionId) := by
  refine (withholds_perform rfl).bind fun _ => (withholds_perform rfl).bind fun _ => ?_
  split
  · exact d.withholds_sendControl (by simp [Message.msgId, forwardToServerReqId]) ..
  · exact .ret _

theorem withholds_handleServiceLoadReportPush (report : ServiceLoadReportPush) :
    Withholds (d.handleServiceLoadReportPush report) :=
  .whenSome fun _ => (withholds_perform rfl).bind fun _ => .ret _

theorem withholds_handleServerPongResp (nonce : UInt64) : Withholds (d.handleServerPongResp nonce) := by
  refine (withholds_perform rfl).bind fun latency => .whenSome fun _ => ?_
  exact (withholds_perform rfl).bind fun _ => .ret _

theorem once_handleServerForward (serial : Int32) {req : ForwardToServerReq}
    (h : ∀ forwarded : ForwardToServerReq, forwarded.payload = req.payload →
      forwards (.toBackend (.control (.forwardToServerReq forwarded) 0 0))) :
    PassesOnce forwards true (d.handleServerForward serial req) := by
  rw [handleServerForward]
  split
  · exact (d.withholds_replyControlErrorIfRequest ..).once _
  · have hselect : Withholds (selectTarget req) := by
      unfold selectTarget
      split
      · exact (withholds_perform rfl).bind fun _ => .ret _
      · exact (withholds_perform rfl).bind fun _ => .ret _
    refine Program.Follows.calls_bind hselect (fun _ _ => .other) fun selected => ?_
    split
    · refine .perform_bind (fun _ => false) (fun sent => .pass _ sent (h _ rfl)) fun sent => ?_
      split
      · exact .ret trivial
      · exact (d.withholds_replyControlErrorIfRequest ..).once _
    · exact (d.withholds_replyControlErrorIfRequest ..).once _

theorem once_handleMessage (serial : Int32) {message : Message}
    (h : ∀ req forwarded : ForwardToServerReq, message = .forwardToServerReq req →
      forwarded.payload = req.payload → forwards (.toBackend (.control (.forwardToServerReq forwarded) 0 0))) :
    PassesOnce forwards true (d.handleMessage serial message) := by
  have hthen : ∀ {p : GatewayM Unit}, Withholds p →
      PassesOnce forwards true (do p; pure d : GatewayM InternalDelegate) :=
    fun h => Withholds.once (h.bind fun _ => .ret _) true
  cases message with
  | serverRegReq req => exact (d.withholds_handleServerRegReq ..).once _
  | bindServiceReq req => exact hthen (d.withholds_handleBindServiceReq ..)
  | serviceLoadReportPush report => exact hthen (d.withholds_handleServiceLoadReportPush _)
  | serverPongResp nonce => exact hthen (d.withholds_handleServerPongResp _)
  | unbindServiceReq req => exact hthen (d.withholds_handleUnbindServiceReq ..)
  | kickSessionReq sessionId => exact hthen (d.withholds_handleKickSessionReq ..)
  | forwardToServerReq req =>
      exact (d.once_handleServerForward _ fun forwarded => h req forwarded rfl).bind fun _ _ _ => .ret trivial
  | _ => exact .ret trivial

theorem once_onRecvFrame (m : MessageMap) (frame : BackendFrame) :
    PassesOnce (WriterMessage.Forwards m frame) true (d.onRecvFrame m frame.body) := by
  rw [onRecvFrame]
  split
  · exact .ret trivial
  · dsimp only
    rw [BackendFrame.ofBody_body]
    split
    · exact Withholds.once ((withholds_perform rfl).bind fun _ => .ret _) true
    · rw [handleInternal]
      split
      · exact .ret trivial
      · split
        · rename_i message hdecode
          refine d.once_handleMessage _ fun req forwarded hmessage hpayload => ?_
          exact ⟨req, forwarded, hdecode.trans (congrArg _ hmessage), rfl, hpayload⟩
        · exact .ret trivial

end InternalDelegate

/-! ### The handlers -/

variable {m : MessageMap} {conn : Connection} {p : GatewayM Connection}

theorem once_handle_backendFrame {frame : BackendFrame} (h : conn.handle m (.backendFrame frame) = some p) :
    PassesOnce (WriterMessage.Forwards m frame) true p := by
  simp only [Connection.handle] at h
  split at h
  · rename_i d hstage hdelegate
    obtain rfl := Option.some.inj h
    exact (d.once_onRecvFrame m frame).bind fun _ _ _ => .ret trivial
  · cases h

theorem withholds_handle {e : Input} (he : e = .start ∨ e = .close) (h : conn.handle m e = some p) :
    Withholds p := by
  rcases he with rfl | rfl
  · obtain ⟨-, hp⟩ := Option.ite_none_right_eq_some.1 h
    obtain rfl := Option.some.inj hp
    rw [Connection.onSessionStart]
    split
    · exact Program.Calls.bind ((withholds_perform rfl).bind fun _ => .ret _) fun _ => .ret _
    · exact Program.Calls.bind ((withholds_perform rfl).bind fun _ => .ret _) fun _ => .ret _
  · obtain ⟨-, hp⟩ := Option.ite_none_right_eq_some.1 h
    obtain rfl := Option.some.inj hp
    rw [Connection.onSessionClose]
    split
    · rename_i d hdelegate
      exact d.withholds_onSessionClose.bind fun _ => .ret _
    · rename_i d hdelegate
      exact d.withholds_onSessionClose.bind fun _ => .ret _

end AxmolFighter.Gateway
