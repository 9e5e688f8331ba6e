import AxmolFighter.Exchange.System
import AxmolFighter.Gateway.Replies

/-!
# What the gateway puts on a backend's channel

Every message has a reason: a frame that is forwarded, a frame that is refused, or neither, and then the backend
takes it for no answer. The handler of a connection's frame keeps to this as long as the registry knows every
connection as the server that it is, and finds a target for every reply.
-/

namespace AxmolFighter.Exchange

open Backend (ServerSource)
open Backend.GatewayClient (Fits)
open Gateway (Connection Delegate GatewayM Input InternalDelegate ClientDelegate Op RegisterResult Shared Tx WriterMessage
  perform signature system calls_perform)
open Pool

/-- A frame for the target may go to the server. -/
def Targets (target : ServerSource) (server : UInt8 × UInt32) : Prop :=
  server.1 = target.serviceId.toUInt8 ∧ (0 ≤ target.instanceId → server.2 = target.instanceId.toUInt32)

/-- Why a message is put on channel `tx`: `handled` is the connection and the frame that is handled. -/
inductive Justified (X : Setting) (handled : Option (Nat × BackendFrame)) (tx : Tx) : WriterMessage → Prop
  | client (data : ToClient) : Justified X handled tx (.toClient data)
  | close : Justified X handled tx .close
  | notice {msg : Message} {serial : Int32} {sessionId : UInt32} (hserial : serial ≤ 0)
      (hmsg : msg.msgId ≠ forwardToServerReqId) :
      Justified X handled tx (.toBackend (.control msg serial sessionId))
  | forward {k : Nat} {frame : BackendFrame} {req r : ForwardToServerReq} (hhandled : handled = some (k, frame))
      (hfits : Fits frame)
      (hdecode : X.messages.decode frame.msgId frame.payload = .ok (.forwardToServerReq req))
      (hpayload : r.payload = req.payload) (hservice : r.sourceServiceId = (X.server k).1.toUInt32)
      (hinstance : r.sourceInstanceId = (X.server k).2)
      (htargets : Targets ⟨req.targetServiceId, req.targetInstanceId⟩ (X.server tx)) :
      Justified X handled tx (.toBackend (.control (.forwardToServerReq r) 0 0))
  | refusal {frame : BackendFrame} {req : ForwardToServerReq} {code : UInt32} {text : String}
      (hhandled : handled = some (tx, frame)) (hfits : Fits frame)
      (hdecode : X.messages.decode frame.msgId frame.payload = .ok (.forwardToServerReq req))
      (hserial : frame.serial < 0) :
      Justified X handled tx (.toBackend (.control (.gatewayErrorResp code text) (-frame.serial) 0))

theorem Justified.mono {X : Setting} {handled handled' : Option (Nat × BackendFrame)} {tx : Tx}
    {message : WriterMessage} (h : Justified X handled tx message)
    (hhandled : ∀ x, handled = some x → handled' = some x) : Justified X handled' tx message := by
  cases h with
  | client data => exact .client data
  | close => exact .close
  | notice hserial hmsg => exact .notice hserial hmsg
  | forward hframe hfits hdecode hpayload hservice hinstance htargets =>
      exact .forward (hhandled _ hframe) hfits hdecode hpayload hservice hinstance htargets
  | refusal hframe hfits hdecode hserial => exact .refusal (hhandled _ hframe) hfits hdecode hserial

/-- The frame is a reply. -/
def Positive (frame : Option BackendFrame) : Prop := ∃ f, frame = some f ∧ 0 < f.serial

section Handlers

variable (X : Setting) (k : Nat) (frame : Option BackendFrame)

/-- What the answers of a call say. -/
def Relies : (op : Op) → op.Answer → Prop
  | .findByInstance serviceId instanceId, found =>
      (∀ tx, found = some tx → X.server tx = (serviceId, instanceId)) ∧ (Positive frame → found.isSome = true)
  | .selectLowestLoadInstance serviceId, candidate =>
      (∀ c, candidate = some c → (X.server c.tx).1 = serviceId) ∧ (Positive frame → candidate.isSome = true)
  | .send _ _, sent => Positive frame → sent = true
  | _, _ => True

/-- A call that the handler of connection `k`'s frame may make. -/
def Lawful : Op → Prop
  | .send tx message => Justified X (frame.map fun f => (k, f)) tx message
  | .broadcast data | .broadcastExcept _ data =>
      ∀ tx, Justified X (frame.map fun f => (k, f)) tx (.toBackend data)
  | .register _ serviceId instanceId tx => tx = k ∧ (serviceId, instanceId) = X.server k
  | _ => True

/-- What an internal delegate of connection `k` has noted. -/
structure Knows (d : InternalDelegate) : Prop where
  tx : ∀ tx, d.tx = some tx → tx = k
  registered : ∀ server, d.registered = some server → server = X.server k

/-- What an idle connection has noted. -/
structure Rests (conn : Connection) : Prop where
  tx : conn.tx = k
  knows : ∀ d, conn.delegate = .internal d → Knows X k d

abbrev Keeps {α : Type} (Q : α → Prop) (p : GatewayM α) : Prop :=
  p.Ensures (Relies X frame) (Lawful X k frame) Q

variable {X k frame} {d : InternalDelegate}

theorem lawful_notice {sessionId : UInt32} {msg : Message} {serial : Int32} (hserial : serial ≤ 0)
    (hmsg : msg.msgId ≠ forwardToServerReqId) (tx : Tx) :
    Lawful X k frame (.send tx (.toBackend (.control msg serial sessionId))) := .notice hserial hmsg

theorem calls_sendControl {sessionId : UInt32} {msg : Message} {serial : Int32} (hserial : serial ≤ 0)
    (hmsg : msg.msgId ≠ forwardToServerReqId) :
    (d.sendControl msg serial sessionId).Calls (Lawful X k frame) := by
  refine .whenSome fun tx => ?_
  exact (calls_perform (lawful_notice hserial hmsg tx)).bind fun _ => .ret _

theorem calls_pushServiceStatus (serviceId : UInt8) (instanceId : UInt32) (online : Bool) :
    (InternalDelegate.pushServiceStatus serviceId instanceId online).Calls (Lawful X k frame) := by
  refine (calls_perform trivial).bind fun sessions => .forEach fun sessionId _ => ?_
  have hvisible : (InternalDelegate.serviceVisibleToSession sessionId serviceId instanceId).Calls
      (Lawful X k frame) := by
    refine (calls_perform trivial).bind fun unbound => ?_
    split
    · exact .ret _
    · exact (calls_perform trivial).bind fun _ => .ret _
  refine hvisible.bind fun visible => ?_
  split
  · refine (calls_perform trivial).bind fun authenticated => ?_
    split
    · exact (calls_perform trivial).bind fun _ => .ret _
    · exact .ret _
  · exact .ret _

/-! ### Handlers of a backend's frames -/

theorem keeps_replyControlErrorIfRequest (hd : Knows X k d) {f : BackendFrame} {req : ForwardToServerReq}
    (hfits : Fits f) (hdecode : X.messages.decode f.msgId f.payload = .ok (.forwardToServerReq req)) (hserial : ¬ 0 < f.serial)
    (code : UInt32) (text : String) :
    Keeps X k (some f) (fun _ => True) (d.replyControlErrorIfRequest f.serial code text) := by
  rw [InternalDelegate.replyControlErrorIfRequest]
  split_ifs with hzero hnegative
  · exact .ret trivial
  · rw [InternalDelegate.sendControl]
    rcases htx : d.tx with _ | tx
    · exact .ret trivial
    · obtain rfl := hd.tx tx htx
      exact .call (.refusal rfl hfits hdecode hnegative) fun _ _ => .ret trivial
  · exact absurd (Int32.lt_of_le_of_ne (Int32.not_lt.1 hnegative) (Ne.symm hzero)) hserial

theorem keeps_handleServerForward (hd : Knows X k d) {f : BackendFrame} {req : ForwardToServerReq}
    (hfits : Fits f) (hdecode : X.messages.decode f.msgId f.payload = .ok (.forwardToServerReq req))
    (hregistered : 0 < f.serial → d.registered ≠ none) :
    Keeps X k (some f) (fun _ => True) (d.handleServerForward f.serial req) := by
  rw [InternalDelegate.handleServerForward]
  rcases hsource : d.registered with _ | ⟨serviceId, instanceId⟩
  · exact keeps_replyControlErrorIfRequest hd hfits hdecode (fun hserial => hregistered hserial hsource) ..
  · have hserver := hd.registered _ hsource
    have hsend : ∀ tx (chosen : UInt32), Targets ⟨req.targetServiceId, req.targetInstanceId⟩ (X.server tx) →
        Keeps X k (some f) (fun _ => True) (do
          let sent ← perform (.send tx (.toBackend (.control (.forwardToServerReq { req with
            targetInstanceId := chosen.toInt32
            sourceServiceId := serviceId.toUInt32
            sourceInstanceId := instanceId }) 0 0)))
          if sent then pure ()
          else d.replyControlErrorIfRequest f.serial 2 "target service instance unreachable") := by
      intro tx chosen htargets
      refine .call (.forward rfl hfits hdecode rfl ?_ ?_ htargets) fun sent hsent => ?_
      · rw [← hserver]
      · rw [← hserver]
      · cases sent with
        | true => exact .ret trivial
        | false =>
            refine keeps_replyControlErrorIfRequest hd hfits hdecode (fun hserial => ?_) ..
            exact absurd (hsent ⟨f, rfl, hserial⟩) Bool.false_ne_true
    dsimp only
    rw [InternalDelegate.selectTarget]
    split_ifs with htarget
    · refine .call trivial fun found hfound => ?_
      rcases found with _ | tx
      · refine keeps_replyControlErrorIfRequest hd hfits hdecode (fun hserial => ?_) ..
        exact absurd (hfound.2 ⟨f, rfl, hserial⟩) (by simp)
      · refine hsend tx _ ?_
        rw [hfound.1 tx rfl]
        exact ⟨rfl, fun _ => rfl⟩
    · refine .call trivial fun candidate hcandidate => ?_
      rcases candidate with _ | candidate
      · refine keeps_replyControlErrorIfRequest hd hfits hdecode (fun hserial => ?_) ..
        exact absurd (hcandidate.2 ⟨f, rfl, hserial⟩) (by simp)
      · exact hsend candidate.tx _ ⟨hcandidate.1 _ rfl, fun hpositive => absurd hpositive htarget⟩

theorem keeps_handleServerRegReq (hd : Knows X k d) {req : ServerRegReq} {serial : Int32} (hserial : serial ≤ 0)
    (hserver : (req.serviceId.toUInt8, req.instanceId) = X.server k) :
    Keeps X k frame (Knows X k) (d.handleServerRegReq serial req) := by
  have hregistered : Knows X k { d with registered := some (req.serviceId.toUInt8, req.instanceId) } :=
    ⟨hd.tx, fun server hsome => by rw [← Option.some.inj hsome, hserver]⟩
  rw [InternalDelegate.handleServerRegReq]
  split
  · exact .ret hd
  · rename_i tx htx
    refine .call ⟨hd.tx tx htx, hserver⟩ fun result _ => ?_
    have hresult : Keeps X k frame (fun r => Knows X k r.2.2) (d.registerResult req result) := by
      cases result with
      | registered | alreadyRegistered => exact .call trivial fun _ _ => .ret hregistered
      | sessionAlreadyRegistered | instanceAlreadyRegistered => exact .ret hd
    refine hresult.bind fun r hr => ?_
    refine .call trivial fun servers _ => ?_
    refine .call (lawful_notice hserial (by simp [Message.msgId, forwardToServerReqId]) tx) fun _ _ => ?_
    have hannounce : (d.announce req).Calls (Lawful X k frame) := by
      refine Program.Calls.bind (calls_perform fun tx => .notice (by decide) ?_) fun _ => ?_
      · simp [Message.msgId, forwardToServerReqId]
      · refine (calls_pushServiceStatus ..).bind fun _ => (calls_perform trivial).bind fun sessions => ?_
        exact .forEach fun sid _ => calls_sendControl (by decide) (by simp [Message.msgId, forwardToServerReqId])
    obtain ⟨code, shouldBroadcastOnline, d'⟩ := r
    cases shouldBroadcastOnline with
    | true => exact Program.Ensures.of_calls (f := fun _ => .ret d') hannounce fun _ => .ret hr
    | false => exact .ret hr

/-! ### All handlers -/

/-- What the gateway reads out of a frame of connection `k`. -/
inductive Expected (X : Setting) (k : Nat) (f : BackendFrame) : Message → Prop
  | registration {req : ServerRegReq} (hserial : f.serial ≤ 0)
      (hserver : (req.serviceId.toUInt8, req.instanceId) = X.server k) : Expected X k f (.serverRegReq req)
  | forward (req : ForwardToServerReq) : Expected X k f (.forwardToServerReq req)
  | pong (nonce : UInt64) : Expected X k f (.serverPongResp nonce)

theorem keeps_onRecvFrame (hd : Knows X k d) {f : BackendFrame} (hcmd : f.cmd = backendCmdControl)
    (hfits : Fits f)
    (hexpected : ∀ msg, X.messages.decode f.msgId f.payload = .ok msg → Expected X k f msg)
    (hregistered : 0 < f.serial → d.registered ≠ none) :
    Keeps X k (some f) (Knows X k) (d.onRecvFrame X.messages f.body) := by
  rw [d.onRecvFrame_control hcmd]
  rcases hdecode : X.messages.decode f.msgId f.payload with err | msg
  · exact .ret hd
  · cases hexpected msg hdecode with
    | registration hserial hserver => exact keeps_handleServerRegReq hd hserial hserver
    | forward req => exact (keeps_handleServerForward hd hfits hdecode hregistered).bind fun _ _ => .ret hd
    | pong nonce =>
        have hpong : (d.handleServerPongResp nonce).Calls (Lawful X k (some f)) :=
          (calls_perform trivial).bind fun latency => .whenSome fun _ => (calls_perform trivial).bind fun _ => .ret _
        exact .of_calls hpong fun _ => .ret hd

theorem keeps_onSessionStart {conn : Connection} (hconn : Rests X k conn) :
    Keeps X k frame (Rests X k) conn.onSessionStart := by
  rw [Connection.onSessionStart]
  split
  · exact .call trivial fun _ _ => .ret ⟨hconn.tx, fun _ hd => by cases hd⟩
  · rename_i d hdelegate
    refine .call trivial fun _ _ => .ret ⟨hconn.tx, fun d' hd' => ?_⟩
    obtain rfl := Delegate.internal.inj hd'
    exact ⟨fun tx htx => (Option.some.inj htx).symm.trans hconn.tx, (hconn.knows d hdelegate).registered⟩

theorem keeps_onSessionClose {conn : Connection} (hconn : Rests X k conn) :
    Keeps X k frame (Rests X k) conn.onSessionClose := by
  have hclosed : Rests X k { conn with stage := .closed } := ⟨hconn.tx, hconn.knows⟩
  rw [Connection.onSessionClose]
  split
  · rename_i d hdelegate
    have hclose : (ClientDelegate.onSessionClose d).Calls (Lawful X k frame) := by
      refine (calls_perform trivial).bind fun wasAuthenticated => (calls_perform trivial).bind fun _ => ?_
      split
      · exact calls_perform fun tx => .notice (by decide) (by simp [Message.msgId, forwardToServerReqId])
      · exact .ret _
    exact .of_calls hclose fun _ => .ret hclosed
  · rename_i d hdelegate
    have hclose : (InternalDelegate.onSessionClose d).Calls (Lawful X k frame) := by
      refine (calls_perform trivial).bind fun removed => .whenSome fun server => ?_
      obtain ⟨serviceId, instanceId⟩ := server
      have hoffline : Lawful X k frame (.broadcastExcept d.sessionId
          (.control (.serverOfflinePush serviceId.toUInt32 instanceId) 0 0)) := fun tx =>
        .notice (by decide) (by simp [Message.msgId, forwardToServerReqId])
      have hunbind : Lawful X k frame (.unbindAllByInstance serviceId instanceId) := trivial
      exact (calls_perform hoffline).bind fun _ => (calls_pushServiceStatus ..).bind fun _ => calls_perform hunbind
    exact .of_calls hclose fun _ => .ret hclosed

theorem keeps_handle_silent {conn : Connection} (hconn : Rests X k conn) {e : Input} (he : e = .start ∨ e = .close)
    {p : GatewayM Connection} (hp : conn.handle X.messages e = some p) : Keeps X k frame (Rests X k) p := by
  rcases he with rfl | rfl
  · obtain ⟨-, hp⟩ := Option.ite_none_right_eq_some.1 hp
    obtain rfl := Option.some.inj hp
    exact keeps_onSessionStart hconn
  · obtain ⟨-, hp⟩ := Option.ite_none_right_eq_some.1 hp
    obtain rfl := Option.some.inj hp
    exact keeps_onSessionClose hconn

theorem keeps_handle_backendFrame {conn : Connection} (hconn : Rests X k conn) {f : BackendFrame}
    (hcmd : f.cmd = backendCmdControl) (hfits : Fits f)
    (hexpected : ∀ msg, X.messages.decode f.msgId f.payload = .ok msg → Expected X k f msg)
    (hregistered : 0 < f.serial → ∀ d, conn.delegate = .internal d → d.registered ≠ none)
    {p : GatewayM Connection} (hp : conn.handle X.messages (.backendFrame f) = some p) :
    Keeps X k (some f) (Rests X k) p := by
  simp only [Connection.handle] at hp
  split at hp
  · rename_i d hstage hdelegate
    obtain rfl := Option.some.inj hp
    have hframe := keeps_onRecvFrame (hconn.knows d hdelegate) hcmd hfits hexpected
      fun hserial => hregistered hserial d hdelegate
    refine hframe.bind fun d' hd' => .ret ⟨hconn.tx, fun d'' hd'' => ?_⟩
    obtain rfl := Delegate.internal.inj hd''
    exact hd'
  · cases hp

end Handlers

/-! ### The calls -/

/-- A target is found, and the channel is open. -/
def Admits (s : Shared) : Op → Prop
  | .findByInstance serviceId instanceId => s.serves serviceId instanceId
  | .selectLowestLoadInstance serviceId => s.takesBindings serviceId
  | .send tx _ => tx ∉ s.channels.closed
  | _ => True

/-- The registry knows every connection as the server that it is. -/
def Registered (X : Setting) (s : Shared) : Prop :=
  ∀ x identity, s.backend x = some identity → (identity.serviceId, identity.instanceId) = X.server identity.tx

section Calls

variable {X : Setting} {k : Nat} {frame : Option BackendFrame} {s s' : Shared} {op : Op} {answer : op.Answer}

theorem relies_of_does (hregistered : Registered X s) (hdoes : s.Does op answer s')
    (hadmits : Positive frame → Admits s op) : Relies X frame op answer := by
  cases op with
  | findByInstance serviceId instanceId =>
      refine ⟨fun tx htx => ?_, fun hpositive => hdoes.findByInstance_isSome.2 (hadmits hpositive)⟩
      subst htx
      obtain ⟨x, identity, hx, hservice, hinstance, rfl⟩ := hdoes.findByInstance
      rw [← hregistered x identity hx, hservice, hinstance]
  | selectLowestLoadInstance serviceId =>
      refine ⟨fun c hc => ?_, fun hpositive => hdoes.selectLowestLoadInstance.1.2 (hadmits hpositive)⟩
      subst hc
      obtain ⟨y, conn, hget, rfl, htx, -⟩ := Shared.Does.lightest hdoes rfl
      have hy : s.backend y = some conn.identity := by
        rw [Shared.backend, hget]
        rfl
      have hserver := congrArg Prod.fst (hregistered y _ hy).symm
      rwa [show conn.identity.tx = c.tx from htx] at hserver
  | send tx message =>
      intro hpositive
      have hsend := hdoes.send
      rw [Gateway.Channels.send, if_neg (hadmits hpositive)] at hsend
      exact (congrArg Prod.fst hsend).symm
  | _ => trivial

theorem registered_of_does (hregistered : Registered X s) (hlawful : Lawful X k frame op)
    (hdoes : s.Does op answer s') : Registered X s' := by
  intro x identity hx
  by_cases hop : op.registers = false
  · rw [hdoes.backend hop] at hx
    exact hregistered x identity hx
  · cases op with
    | register x' serviceId instanceId tx =>
        rw [(hdoes.register).2 x] at hx
        split_ifs at hx with hnew
        · cases hx
          obtain ⟨rfl, hserver⟩ := hlawful
          exact hserver
        · exact hregistered x identity hx
    | unregister x' =>
        rw [hdoes.unregister x] at hx
        split_ifs at hx
        exact hregistered x identity hx
    | _ => exact absurd rfl hop

theorem justified_of_does (hlawful : Lawful X k frame op) (hdoes : s.Does op answer s') :
    ∃ posted, s'.channels.sent = s.channels.sent ++ posted ∧
      ∀ e ∈ posted, Justified X (frame.map fun f => (k, f)) e.1 e.2 := by
  obtain ⟨posted, hsent, hposted⟩ := hdoes.posts
  refine ⟨posted, hsent, fun e he => ?_⟩
  have hmessage := hposted e he
  cases op with
  | sendToClient sessionId data =>
      rw [← Option.some.inj hmessage]
      exact .client data
  | kick sessionId =>
      rw [← Option.some.inj hmessage]
      exact .close
  | broadcast data | broadcastExcept _ data =>
      rw [← Option.some.inj hmessage]
      exact hlawful e.1
  | send tx message =>
      obtain ⟨posted', hsent', hposted'⟩ := s.channels.send_posts tx message
      rw [hdoes.send] at hsent'
      obtain rfl := List.append_cancel_left (hsent.symm.trans hsent')
      rw [hposted' e he]
      exact hlawful
  | _ => cases hmessage

theorem justified_of_environment (h : Gateway.Environment s s') :
    s'.backend = s.backend ∧ ∃ posted, s'.channels.sent = s.channels.sent ++ posted ∧
      ∀ e ∈ posted, Justified X none e.1 e.2 := by
  refine ⟨h.untouched.backend, ?_⟩
  have hsend : ∀ tx message, Justified X none tx message → ∃ posted,
      (s.channels.send tx message).2.sent = s.channels.sent ++ posted ∧
        ∀ e ∈ posted, Justified X none e.1 e.2 := by
    intro tx message hmessage
    obtain ⟨posted, hsent, hposted⟩ := s.channels.send_posts tx message
    exact ⟨posted, hsent, fun e he => by rw [hposted e he]; exact hmessage⟩
  cases h with
  | tick | hangUp | markSent => exact ⟨[], by simp⟩
  | authTimeout | heartbeatTimeout => exact hsend _ _ .close
  | ping => exact hsend _ _ (.notice (by decide) (by simp [Message.msgId, forwardToServerReqId]))

end Calls

end AxmolFighter.Exchange
