import AxmolFighter.Gateway.Conduct

/-!
# What a frame can make the gateway do

Every call that the handler of a client's or a backend's frame can come to, as one rule for each kind of
connection: a property of calls that holds of the routine ones and of the few others is one of the handler.
-/

namespace AxmolFighter.Gateway

variable {m : MessageMap} {P : Op → Prop}

theorem Routine.calls {α : Type} {p : GatewayM α} (h : Routine p)
    (hroutine : ∀ op : Op, op.routine = true → P op) : p.Calls P := h.mono hroutine

theorem Hushed.calls {α : Type} {p : GatewayM α} (h : Hushed p)
    (hhushed : ∀ op : Op, op.routine = true → op.tells = none → P op) : p.Calls P :=
  h.mono fun op hop => hhushed op hop.1 hop.2

/-! ### Clients -/

namespace ClientDelegate

variable (d : ClientDelegate)

theorem onRecvFrame_business (frame : ClientFrame) (hcmd : frame.cmd = cmdBusiness)
    (hid : frame.msgId ≠ serverStatusReqId) : d.onRecvFrame m frame.body = (do
      let authenticated ← perform (.isAuthenticated d.sessionId)
      if !authenticated then
        d.replyErrorIfRequest frame.serial gatewayErrUnauthenticated "client is not authenticated"
      else
        let target ← perform (.resolve frame.msgId d.sessionId)
        d.routeBusiness frame target) := by
  have hlength : ¬ frame.body.length < 7 := by
    have h := frame.length_body
    rw [clientHeaderSize] at h
    omega
  rw [onRecvFrame, if_neg hlength, ClientFrame.ofBody_body]
  dsimp only
  rw [if_neg hid, if_neg (not_not.2 hcmd)]

theorem calls_forwardBusiness (frame : ClientFrame)
    (hhushed : ∀ op : Op, op.routine = true → op.tells = none → P op) (hforward : ∀ tx, P (.send tx
      (.toBackend (.business frame.msgId frame.serial d.sessionId frame.payload))))
    (found : Option Tx) (unavailable : String) : (d.forwardBusiness frame found unavailable).Calls P := by
  cases found with
  | none => exact (d.hushed_replyErrorIfRequest ..).calls hhushed
  | some tx => exact (calls_perform (hforward tx)).bind fun _ => .ret _

theorem calls_routeBusiness (frame : ClientFrame)
    (hhushed : ∀ op : Op, op.routine = true → op.tells = none → P op) (hforward : ∀ tx, P (.send tx
      (.toBackend (.business frame.msgId frame.serial d.sessionId frame.payload))))
    (target : RouteTarget) : (d.routeBusiness frame target).Calls P := by
  cases target with
  | service serviceId =>
      exact (calls_perform (hhushed _ rfl rfl)).bind fun _ => d.calls_forwardBusiness frame hhushed hforward ..
  | boundService serviceId instanceId =>
      exact (calls_perform (hhushed _ rfl rfl)).bind fun _ => d.calls_forwardBusiness frame hhushed hforward ..
  | serviceNotBound _ | unknown => exact (d.hushed_replyErrorIfRequest ..).calls hhushed

theorem calls_handleServerStatusRequest (hroutine : ∀ op : Op, op.routine = true → P op)
    (hauthenticate : P (.authenticate d.sessionId))
    (hannounce : P (.broadcast (.control (.sessionOnlinePush d.sessionId) 0 d.sessionId)))
    (serial : Int32) : (d.handleServerStatusRequest serial).Calls P := by
  have hreply := ((d.routine_encodeStatusFrame serial).bind fun data => d.routine_sendOwn data).mono hroutine
  refine (calls_perform hauthenticate).bind fun first => ?_
  cases first with
  | false => exact hreply
  | true => exact (calls_perform hannounce).bind fun _ => hreply

theorem calls_onRecvFrame (frame : ClientFrame) (hroutine : ∀ op : Op, op.routine = true → P op)
    (hauthenticate : P (.authenticate d.sessionId))
    (hannounce : P (.broadcast (.control (.sessionOnlinePush d.sessionId) 0 d.sessionId)))
    (hforward : ∀ tx, P (.send tx
      (.toBackend (.business frame.msgId frame.serial d.sessionId frame.payload)))) :
    (d.onRecvFrame m frame.body).Calls P := by
  have hreply : ∀ code message, (d.replyErrorIfRequest frame.serial code message).Calls P :=
    fun code message => (d.routine_replyErrorIfRequest ..).calls hroutine
  by_cases hbusiness : frame.cmd = cmdBusiness ∧ frame.msgId ≠ serverStatusReqId
  · rw [d.onRecvFrame_business frame hbusiness.1 hbusiness.2]
    refine (calls_perform (hroutine _ rfl)).bind fun authenticated => ?_
    split
    · exact hreply ..
    · exact (calls_perform (hroutine _ rfl)).bind fun _ =>
        d.calls_routeBusiness frame (fun op h _ => hroutine op h) hforward ..
  · rw [onRecvFrame, ClientFrame.ofBody_body]
    dsimp only
    split_ifs with hshort hid hcmd hcmd
    · exact .ret _
    · exact hreply ..
    · split
      · exact d.calls_handleServerStatusRequest hroutine hauthenticate hannounce _
      · exact hreply ..
    · exact hreply ..
    · exact absurd ⟨not_not.1 hcmd, hid⟩ hbusiness

end ClientDelegate

/-! ### Backends -/

/-- What a registration does beyond routine calls. -/
def Op.registering : Op → Bool
  | .register .. | .authenticatedSessions | .broadcastExcept _ (.control (.serverOnlinePush ..) _ _)
  | .send _ (.toBackend (.control (.sessionOnlinePush _) _ _))
  | .send _ (.toBackend (.control (.serverRegResp ..) _ _)) => true
  | _ => false

namespace InternalDelegate

variable (d : InternalDelegate)

theorem onRecvFrame_control {frame : BackendFrame} (hcmd : frame.cmd = backendCmdControl) :
    d.onRecvFrame m frame.body = match m.decode frame.msgId frame.payload with
      | .ok message => d.handleMessage frame.serial message
      | .error _ => pure d := by
  have hlength : ¬ frame.body.length < 11 := by
    have h := frame.length_body
    rw [backendHeaderSize] at h
    omega
  rw [onRecvFrame, if_neg hlength, BackendFrame.ofBody_body]
  dsimp only
  rw [hcmd, if_neg (by decide), handleInternal]
  exact if_neg (not_not.2 hcmd)

theorem calls_announce (hroutine : ∀ op : Op, op.routine = true → P op)
    (hregister : ∀ op : Op, op.registering = true → P op) (req : ServerRegReq) :
    (d.announce req).Calls P := by
  refine (calls_perform (hregister _ rfl)).bind fun _ => ?_
  refine Program.Calls.bind ?_ fun _ => ?_
  · exact (calls_perform (hregister _ rfl)).bind fun _ =>
      .forEach fun _ _ => (routine_pushOne ..).calls hroutine
  · refine (calls_perform (hregister _ rfl)).bind fun _ => .forEach fun _ _ => ?_
    exact .whenSome fun _ => (calls_perform (hregister _ rfl)).bind fun _ => .ret _

theorem calls_handleServerRegReq (hroutine : ∀ op : Op, op.routine = true → P op)
    (hregister : ∀ op : Op, op.registering = true → P op) (serial : Int32) (req : ServerRegReq) :
    (d.handleServerRegReq serial req).Calls P := by
  rw [handleServerRegReq]
  split
  · exact .ret _
  · refine (calls_perform (hregister _ rfl)).bind fun result => ?_
    refine ((d.routine_registerResult req result).calls hroutine).bind fun registered => ?_
    refine (calls_perform (hroutine _ rfl)).bind fun _ => ?_
    refine (calls_perform (hregister _ rfl)).bind fun _ => ?_
    split_ifs
    · exact (d.calls_announce hroutine hregister req).bind fun _ => .ret _
    · exact .ret _

theorem calls_handleBindServiceReq (hroutine : ∀ op : Op, op.routine = true → P op) (req : BindServiceReq)
    (hbind : ∀ instanceId, P (.bindService req.sessionId req.serviceId.toUInt8 instanceId))
    (serial : Int32) : (d.handleBindServiceReq serial req).Calls P := by
  unfold handleBindServiceReq
  split
  · exact .ret _
  · split
    · exact (BindManager.routine_sendBindResult ..).calls hroutine
    · refine Program.Calls.bind ?_ fun bound => .whenSome fun _ =>
        (routine_sendServiceStatusToSession ..).calls hroutine
      refine ((BindManager.routine_select req).calls hroutine).bind fun selected => ?_
      split
      · exact (calls_perform (hbind _)).bind fun _ =>
          ((BindManager.routine_sendBindResult ..).calls hroutine).bind fun _ => .ret _
      · exact ((BindManager.routine_sendBindResult ..).calls hroutine).bind fun _ => .ret _

theorem calls_handleUnbindServiceReq (hroutine : ∀ op : Op, op.routine = true → P op)
    (hunbind : ∀ sessionId serviceId, P (.unbindService sessionId serviceId)) (serial : Int32)
    (req : UnbindServiceReq) : (d.handleUnbindServiceReq serial req).Calls P := by
  refine (calls_perform (hunbind ..)).bind fun removed => Program.Calls.bind ?_ fun _ => ?_
  · exact .whenSome fun _ => (routine_sendServiceStatusToSession ..).calls hroutine
  · split
    · exact Routine.calls (d.routine_sendControl _ _ fun _ => rfl) hroutine
    · exact .ret _

theorem calls_handleKickSessionReq (hroutine : ∀ op : Op, op.routine = true → P op)
    (hcleanup : ∀ sessionId, P (.cleanupSession sessionId)) (serial : Int32) (sessionId : UInt32) :
    (d.handleKickSessionReq serial sessionId).Calls P := by
  refine (calls_perform (hroutine _ rfl)).bind fun _ => (calls_perform (hcleanup _)).bind fun _ => ?_
  split
  · exact Routine.calls (d.routine_sendControl _ _ fun _ => rfl) hroutine
  · exact .ret _

theorem calls_onRecvFrame (frame : BackendFrame) (hroutine : ∀ op : Op, op.routine = true → P op)
    (hregister : ∀ op : Op, op.registering = true → P op)
    (hunbind : ∀ sessionId serviceId, P (.unbindService sessionId serviceId))
    (hcleanup : ∀ sessionId, P (.cleanupSession sessionId))
    (hbind : frame.cmd = backendCmdControl → ∀ req, m.decode frame.msgId frame.payload = .ok (.bindServiceReq req) →
      ∀ instanceId, P (.bindService req.sessionId req.serviceId.toUInt8 instanceId))
    (hrelay : frame.cmd = backendCmdBusiness → P (.sendToClient frame.sessionId
      (.business frame.msgId frame.serial frame.payload))) : (d.onRecvFrame m frame.body).Calls P := by
  have hthen : ∀ {p : GatewayM Unit}, p.Calls P → (do p; pure d : GatewayM InternalDelegate).Calls P :=
    fun h => h.bind fun _ => .ret _
  by_cases hcontrol : frame.cmd = backendCmdControl
  · rw [d.onRecvFrame_control hcontrol]
    split
    · rename_i message hdecode
      cases message with
      | serverRegReq req => exact d.calls_handleServerRegReq hroutine hregister ..
      | bindServiceReq req =>
          exact hthen (d.calls_handleBindServiceReq hroutine req (hbind hcontrol req hdecode) _)
      | serviceLoadReportPush report =>
          exact hthen ((d.routine_handleServiceLoadReportPush _).calls hroutine)
      | serverPongResp nonce => exact hthen ((d.routine_handleServerPongResp _).calls hroutine)
      | unbindServiceReq req => exact hthen (d.calls_handleUnbindServiceReq hroutine hunbind ..)
      | kickSessionReq sessionId => exact hthen (d.calls_handleKickSessionReq hroutine hcleanup ..)
      | forwardToServerReq req => exact hthen ((d.routine_handleServerForward ..).calls hroutine)
      | _ => exact .ret _
    · exact .ret _
  · rw [onRecvFrame, BackendFrame.ofBody_body]
    dsimp only
    split_ifs with hshort hcmd
    · exact .ret _
    · exact (calls_perform (hrelay hcmd)).bind fun _ => .ret _
    · rw [handleInternal, if_pos hcontrol]
      exact .ret _

end InternalDelegate

end AxmolFighter.Gateway
