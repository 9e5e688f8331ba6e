import AxmolFighter.Gateway.Connections

/-!
# The conduct of a connection

What a connection's task does to the tables and the backends' channels, as the states that it goes
through: a client authenticates itself before it is announced, and a business frame goes out only after
three look-ups; a backend that registers is told about the sessions that it finds authenticated. All
other calls are `quiet`. Every handler follows this conduct (`guide`), so the results about runs of the
gateway are invariants of the shared state and the conduct states.
-/

namespace AxmolFighter

/-- What a frame on a backend's channel tells about a session. -/
inductive SessionNews
  | online
  | business
  | offline
deriving DecidableEq

def ToBackend.news : ToBackend → Option (UInt32 × SessionNews)
  | .control (.sessionOnlinePush sessionId) _ _ => some (sessionId, .online)
  | .control (.sessionOfflinePush sessionId) _ _ => some (sessionId, .offline)
  | .control .. => none
  | .business _ _ sessionId _ => some (sessionId, .business)

/-- What a frame on a backend's channel tells about the other backends. -/
inductive ServerNews
  | listed (servers : List ServiceEndpoint)
  | online (server : ServiceEndpoint)
  | offline (server : ServiceEndpoint)
deriving DecidableEq

/-- The list of a refused registration is not one that the backend goes by. -/
def ToBackend.serverNews : ToBackend → Option ServerNews
  | .control (.serverRegResp code servers) _ _ =>
      if code = Gateway.serverRegOk then some (.listed servers) else none
  | .control (.serverOnlinePush serviceId instanceId) _ _ => some (.online { serviceId, instanceId })
  | .control (.serverOfflinePush serviceId instanceId) _ _ => some (.offline { serviceId, instanceId })
  | _ => none

namespace Gateway

/-! ### Quiet calls -/

/-- Neither the sessions nor the registrations nor the bindings change, no backend is told about a
session, and no frame is passed on. -/
def Op.quiet : Op → Bool
  | .addSession .. | .removeSession .. | .authenticate .. | .register .. | .unregister ..
  | .bindService .. | .unbindService .. | .unbindAllByInstance .. | .cleanupSession ..
  | .authenticatedSessions | .sendToClient _ (.business ..) => false
  | .broadcast data | .broadcastExcept _ data | .send _ (.toBackend data) => data.news.isNone
  | _ => true

/-- A change of the bindings. -/
def Op.binds : Op → Bool
  | .bindService .. | .unbindService .. | .unbindAllByInstance .. | .cleanupSession .. => true
  | _ => false

/-- Every call that the program can make is quiet. -/
abbrev Quiet {α : Type} (p : GatewayM α) : Prop := p.Calls fun op : Op => op.quiet = true

theorem quiet_perform {op : Op} (h : op.quiet = true) : Quiet (perform op) := .perform h

/-- A quiet call that does not tell a backend about other backends either. -/
def Op.routine : Op → Bool
  | .broadcast data | .broadcastExcept _ data | .send _ (.toBackend data) =>
      data.news.isNone && data.serverNews.isNone
  | op => op.quiet

theorem Op.quiet_of_routine {op : Op} (h : op.routine = true) : op.quiet = true := by
  cases op with
  | broadcast | broadcastExcept => exact (Bool.and_eq_true_iff.1 h).1
  | send tx message =>
      cases message with
      | toBackend => exact (Bool.and_eq_true_iff.1 h).1
      | _ => rfl
  | _ => exact h

/-- Every call that the program can make is routine. -/
abbrev Routine {α : Type} (p : GatewayM α) : Prop := p.Calls fun op : Op => op.routine = true

theorem routine_perform {op : Op} (h : op.routine = true) : Routine (perform op) := .perform h

/-- The services that a message to a client lists. -/
def WriterMessage.statuses : WriterMessage → Option (List ServiceStatus)
  | .toClient (.gateway (.serverStatusPush services) _) => some services
  | _ => none

/-- What a call may tell a client about services. -/
def Op.tells : Op → Option (List ServiceStatus)
  | .sendToClient _ data => (WriterMessage.toClient data).statuses
  | .send _ message => message.statuses
  | _ => none

/-- Every call that the program can make is routine and tells no client about services. -/
abbrev Hushed {α : Type} (p : GatewayM α) : Prop :=
  p.Calls fun op : Op => op.routine = true ∧ op.tells = none

theorem hushed_perform {op : Op} (h : op.routine = true) (htells : op.tells = none) : Hushed (perform op) :=
  .perform ⟨h, htells⟩

theorem Hushed.routine {α : Type} {p : GatewayM α} (h : Hushed p) : Routine p := h.mono fun _ h => h.1

theorem Routine.quiet {α : Type} {p : GatewayM α} (h : Routine p) : Quiet p :=
  h.mono fun _ => Op.quiet_of_routine

/-- Every call that the program can make is quiet or changes the bindings. -/
abbrev Loose {α : Type} (p : GatewayM α) : Prop :=
  p.Calls fun op : Op => op.quiet = true ∨ op.binds = true

theorem Routine.loose {α : Type} {p : GatewayM α} (h : Routine p) : Loose p :=
  h.quiet.mono fun _ h => Or.inl h

theorem loose_binds {op : Op} (h : op.binds = true) : Loose (perform op) := .perform (Or.inr h)

namespace ClientDelegate

variable (d : ClientDelegate)

theorem hushed_serviceVisibleToSession (serviceId : UInt8) (instanceId : UInt32) :
    Hushed (d.serviceVisibleToSession serviceId instanceId) := by
  refine (hushed_perform rfl rfl).bind fun unbound => ?_
  split
  · exact .ret _
  · exact (hushed_perform rfl rfl).bind fun _ => .ret _

theorem routine_sendOwn (data : ToClient) : Routine (d.sendOwn (.toClient data)) := by
  exact .whenSome fun tx => (routine_perform rfl).bind fun _ => .ret _

theorem hushed_buildStatus : Hushed d.buildStatus := by
  refine (hushed_perform rfl rfl).bind fun statuses => ?_
  exact (Program.Calls.filter fun _ => d.hushed_serviceVisibleToSession _ _).bind fun _ => .ret _

theorem routine_encodeStatusFrame (serial : Int32) : Routine (d.encodeStatusFrame serial) :=
  Hushed.routine (d.hushed_buildStatus.bind fun _ => .ret _)

theorem hushed_replyErrorIfRequest (serial : Int32) (code : UInt32) (message : String) :
    Hushed (d.replyErrorIfRequest serial code message) := by
  unfold replyErrorIfRequest
  split
  · exact .ret _
  · exact .whenSome fun tx => (hushed_perform rfl rfl).bind fun _ => .ret _

theorem routine_replyErrorIfRequest (serial : Int32) (code : UInt32) (message : String) :
    Routine (d.replyErrorIfRequest serial code message) :=
  (d.hushed_replyErrorIfRequest serial code message).routine

end ClientDelegate

theorem BindManager.hushed_sendBindResult (tx : Tx) (serial : Int32) (req : BindServiceReq)
    (instanceId code : UInt32) (message : String) :
    Hushed (sendBindResult tx serial req instanceId code message) := by
  unfold sendBindResult
  split
  · exact .ret _
  · exact (hushed_perform rfl rfl).bind fun _ => .ret _

theorem BindManager.routine_sendBindResult (tx : Tx) (serial : Int32) (req : BindServiceReq)
    (instanceId code : UInt32) (message : String) :
    Routine (sendBindResult tx serial req instanceId code message) :=
  (hushed_sendBindResult tx serial req instanceId code message).routine

theorem BindManager.hushed_select (req : BindServiceReq) : Hushed (select req) := by
  unfold select
  split
  · exact (hushed_perform rfl rfl).bind fun _ => .ret _
  · exact (hushed_perform rfl rfl).bind fun _ => .ret _

theorem BindManager.routine_select (req : BindServiceReq) : Routine (select req) := (hushed_select req).routine

theorem BindManager.loose_start (tx : Tx) (serial : Int32) (req : BindServiceReq) :
    Loose (start tx serial req) := by
  refine (routine_select req).loose.bind fun selected => ?_
  split
  · exact (loose_binds rfl).bind fun _ => (routine_sendBindResult ..).loose.bind fun _ => .ret _
  · exact (routine_sendBindResult ..).loose.bind fun _ => .ret _

namespace InternalDelegate

variable (d : InternalDelegate)

theorem routine_sendServiceStatusToSession (sessionId : UInt32) (serviceId : UInt8) (instanceId : UInt32)
    (online : Bool) : Routine (sendServiceStatusToSession sessionId serviceId instanceId online) := by
  refine (routine_perform rfl).bind fun authenticated => ?_
  split
  · exact (routine_perform rfl).bind fun _ => .ret _
  · exact .ret _

theorem hushed_serviceVisibleToSession (sessionId : UInt32) (serviceId : UInt8) (instanceId : UInt32) :
    Hushed (serviceVisibleToSession sessionId serviceId instanceId) := by
  refine (hushed_perform rfl rfl).bind fun unbound => ?_
  split
  · exact .ret _
  · exact (hushed_perform rfl rfl).bind fun _ => .ret _

theorem routine_pushOne (sessionId : UInt32) (serviceId : UInt8) (instanceId : UInt32) (online : Bool) :
    Routine (do
      let visible ← serviceVisibleToSession sessionId serviceId instanceId
      if visible then sendServiceStatusToSession sessionId serviceId instanceId online) := by
  refine Program.Calls.bind ?_ fun visible => ?_
  · exact (hushed_serviceVisibleToSession ..).routine
  · split
    · exact routine_sendServiceStatusToSession ..
    · exact .ret _

theorem hushed_sendControl {message : Message} (serial : Int32) (sessionId : UInt32)
    (h : ∀ tx, (Op.send tx (.toBackend (.control message serial sessionId))).routine = true) :
    Hushed (d.sendControl message serial sessionId) := by
  exact .whenSome fun tx => (hushed_perform (h tx) rfl).bind fun _ => .ret _

theorem routine_sendControl {message : Message} (serial : Int32) (sessionId : UInt32)
    (h : ∀ tx, (Op.send tx (.toBackend (.control message serial sessionId))).routine = true) :
    Routine (d.sendControl message serial sessionId) :=
  (d.hushed_sendControl serial sessionId h).routine

theorem hushed_replyControlErrorIfRequest (serial : Int32) (code : UInt32) (message : String) :
    Hushed (d.replyControlErrorIfRequest serial code message) := by
  unfold replyControlErrorIfRequest
  split
  · exact .ret _
  · exact d.hushed_sendControl _ _ fun _ => rfl

theorem hushed_registerResult (req : ServerRegReq) (result : RegisterResult) :
    Hushed (d.registerResult req result) := by
  cases result with
  | registered | alreadyRegistered => exact (hushed_perform rfl rfl).bind fun _ => .ret _
  | sessionAlreadyRegistered | instanceAlreadyRegistered => exact .ret _

theorem routine_registerResult (req : ServerRegReq) (result : RegisterResult) :
    Routine (d.registerResult req result) :=
  (d.hushed_registerResult req result).routine

theorem loose_handleBindServiceReq (serial : Int32) (req : BindServiceReq) :
    Loose (d.handleBindServiceReq serial req) := by
  unfold handleBindServiceReq
  split
  · exact .ret _
  · split
    · exact (BindManager.routine_sendBindResult ..).loose
    · exact (BindManager.loose_start ..).bind fun bound =>
        .whenSome fun _ => (routine_sendServiceStatusToSession ..).loose

theorem loose_handleUnbindServiceReq (serial : Int32) (req : UnbindServiceReq) :
    Loose (d.handleUnbindServiceReq serial req) := by
  refine (loose_binds rfl).bind fun removed => Program.Calls.bind ?_ fun _ => ?_
  · exact .whenSome fun _ => (routine_sendServiceStatusToSession ..).loose
  · split
    · exact (d.routine_sendControl _ _ fun _ => rfl).loose
    · exact .ret _

theorem loose_handleKickSessionReq (serial : Int32) (sessionId : UInt32) :
    Loose (d.handleKickSessionReq serial sessionId) := by
  refine (routine_perform rfl).loose.bind fun _ => (loose_binds rfl).bind fun _ => ?_
  split
  · exact (d.routine_sendControl _ _ fun _ => rfl).loose
  · exact .ret _

theorem hushed_handleServerForward (serial : Int32) (req : ForwardToServerReq) :
    Hushed (d.handleServerForward serial req) := by
  unfold handleServerForward
  split
  · exact d.hushed_replyControlErrorIfRequest ..
  · refine Program.Calls.bind ?_ fun selected => ?_
    · unfold selectTarget
      split
      · exact (hushed_perform rfl rfl).bind fun _ => .ret _
      · exact (hushed_perform rfl rfl).bind fun _ => .ret _
    · split
      · refine (hushed_perform rfl rfl).bind fun sent => ?_
        split
        · exact .ret _
        · exact d.hushed_replyControlErrorIfRequest ..
      · exact d.hushed_replyControlErrorIfRequest ..

theorem routine_handleServerForward (serial : Int32) (req : ForwardToServerReq) :
    Routine (d.handleServerForward serial req) :=
  (d.hushed_handleServerForward serial req).routine

theorem hushed_handleServiceLoadReportPush (report : ServiceLoadReportPush) :
    Hushed (d.handleServiceLoadReportPush report) := by
  exact .whenSome fun _ => (hushed_perform rfl rfl).bind fun _ => .ret _

theorem routine_handleServiceLoadReportPush (report : ServiceLoadReportPush) :
    Routine (d.handleServiceLoadReportPush report) :=
  (d.hushed_handleServiceLoadReportPush report).routine

theorem hushed_handleServerPongResp (nonce : UInt64) : Hushed (d.handleServerPongResp nonce) := by
  exact (hushed_perform rfl rfl).bind fun latency =>
    .whenSome fun _ => (hushed_perform rfl rfl).bind fun _ => .ret _

theorem routine_handleServerPongResp (nonce : UInt64) : Routine (d.handleServerPongResp nonce) :=
  (d.hushed_handleServerPongResp nonce).routine

end InternalDelegate

/-! ### The states -/

/-- A client is known once it is authenticated, a backend once it is registered; both are gone when
their close handler has removed them. -/
inductive Status
  | fresh
  | known
  | gone
deriving DecidableEq

/-- Where a task is in its handler. -/
inductive Phase
  | idle
  | starting
  | requested (frame : ClientFrame)
  | announcing
  | received (frame : ClientFrame)
  | checked (frame : ClientFrame)
  | routed (frame : ClientFrame) (target : RouteTarget)
  | found (frame : ClientFrame) (target : RouteTarget) (tx : Tx)
  | forwarded
  | closing
  | departed (wasAuthenticated : Bool)
  | departing
  | enlisted
  | surveyed
  | telling (sessions : List UInt32)

/-- A connection, as far as the conduct goes. -/
structure Member where
  client : Bool
  sessionId : UInt32
  tx : Tx
  status : Status := .fresh
  phase : Phase := .idle

namespace Phase

/-- Quiet calls do not leave these. -/
def passive : Phase → Bool
  | idle | enlisted | surveyed => true
  | _ => false

/-- A handler may end here. -/
def done : Phase → Bool
  | idle | forwarded | telling [] => true
  | _ => false

/-- After the route of a business frame is known. -/
def afterResolve (frame : ClientFrame) : RouteTarget → Phase
  | .service serviceId => routed frame (.service serviceId)
  | .boundService serviceId instanceId => routed frame (.boundService serviceId instanceId)
  | _ => idle

def afterFind (frame : ClientFrame) (target : RouteTarget) : Option Tx → Phase
  | some tx => found frame target tx
  | none => idle

/-- A request that makes the connection a game client. -/
def isStatusReq (m : MessageMap) (frame : ClientFrame) : Bool :=
  frame.msgId = serverStatusReqId && frame.cmd = cmdGatewayMessage &&
    (m.decode frame.msgId frame.payload).toOption = some .serverStatusReq

/-- Where the handler of a client's frame starts. -/
def ofFrame (m : MessageMap) (frame : ClientFrame) : Phase :=
  if isStatusReq m frame then requested frame
  else if frame.msgId ≠ serverStatusReqId ∧ frame.cmd = cmdBusiness then received frame
  else idle

end Phase

/-- The calls of a connection. -/
inductive Moves : Member → (op : Op) → op.Answer → Member → Prop
  | quiet {q : Member} {op : Op} {answer : op.Answer} (h : op.quiet = true)
      (hphase : q.phase.passive = true) : Moves q op answer q
  | survey {q : Member} {sessions : List UInt32} (h : q.phase = .idle) :
      Moves q .authenticatedSessions sessions q
  | binds {q : Member} {op : Op} {answer : op.Answer} (hop : op.binds = true) (hclient : q.client = false)
      (h : q.phase = .idle) : Moves q op answer q
  | relay {q : Member} {S : UInt32} {msgId : UInt16} {serial : Int32} {payload : Bytes} {sent : Bool}
      (hclient : q.client = false) (h : q.phase = .idle) :
      Moves q (.sendToClient S (.business msgId serial payload)) sent q
  | start {q : Member} (h : q.phase = .starting) :
      Moves q (.addSession q.sessionId q.tx) () { q with phase := .idle }
  | authenticate {q : Member} {frame : ClientFrame} {first : Bool} (h : q.phase = .requested frame) :
      Moves q (.authenticate q.sessionId) first
        (if first then { q with status := .known, phase := .announcing } else { q with phase := .idle })
  | announce {q : Member} (h : q.phase = .announcing) :
      Moves q (.broadcast (.control (.sessionOnlinePush q.sessionId) 0 q.sessionId)) ()
        { q with phase := .idle }
  | check {q : Member} {frame : ClientFrame} {authenticated : Bool} (h : q.phase = .received frame) :
      Moves q (.isAuthenticated q.sessionId) authenticated
        { q with phase := if authenticated then .checked frame else .idle }
  | resolve {q : Member} {frame : ClientFrame} {target : RouteTarget} (h : q.phase = .checked frame) :
      Moves q (.resolve frame.msgId q.sessionId) target { q with phase := .afterResolve frame target }
  | findByService {q : Member} {frame : ClientFrame} {serviceId : UInt8} {found : Option Tx}
      (h : q.phase = .routed frame (.service serviceId)) :
      Moves q (.findByService serviceId) found
        { q with phase := .afterFind frame (.service serviceId) found }
  | findByInstance {q : Member} {frame : ClientFrame} {serviceId : UInt8} {instanceId : UInt32}
      {found : Option Tx} (h : q.phase = .routed frame (.boundService serviceId instanceId)) :
      Moves q (.findByInstance serviceId instanceId) found
        { q with phase := .afterFind frame (.boundService serviceId instanceId) found }
  | forward {q : Member} {frame : ClientFrame} {target : RouteTarget} {tx : Tx} {sent : Bool}
      (h : q.phase = .found frame target tx) :
      Moves q (.send tx (.toBackend (.business frame.msgId frame.serial q.sessionId frame.payload))) sent
        { q with phase := .forwarded }
  | remove {q : Member} {wasAuthenticated : Bool} (hclient : q.client = true) (h : q.phase = .closing) :
      Moves q (.removeSession q.sessionId) wasAuthenticated
        { q with status := .gone, phase := .departed wasAuthenticated }
  | cleanup {q : Member} {wasAuthenticated : Bool} (h : q.phase = .departed wasAuthenticated) :
      Moves q (.cleanupSession q.sessionId) ()
        { q with phase := if wasAuthenticated then .departing else .idle }
  | depart {q : Member} (h : q.phase = .departing) :
      Moves q (.broadcast (.control (.sessionOfflinePush q.sessionId) 0 q.sessionId)) ()
        { q with phase := .idle }
  | register {q : Member} {serviceId : UInt8} {instanceId : UInt32} {result : RegisterResult}
      (hclient : q.client = false) (hstatus : q.status ≠ .gone) (h : q.phase = .idle) :
      Moves q (.register q.sessionId serviceId instanceId q.tx) result
        (if result = .registered then { q with status := .known, phase := .enlisted } else q)
  | survey' {q : Member} {sessions : List UInt32} (h : q.phase = .enlisted) :
      Moves q .authenticatedSessions sessions { q with phase := .surveyed }
  | list {q : Member} {sessions : List UInt32} (h : q.phase = .surveyed) :
      Moves q .authenticatedSessions sessions { q with phase := .telling sessions }
  | tell {q : Member} {sid : UInt32} {rest : List UInt32} {sent : Bool}
      (h : q.phase = .telling (sid :: rest)) :
      Moves q (.send q.tx (.toBackend (.control (.sessionOnlinePush sid) 0 sid))) sent
        { q with phase := .telling rest }
  | unregister {q : Member} {removed : Option (UInt8 × UInt32)} (hclient : q.client = false)
      (h : q.phase = .closing) :
      Moves q (.unregister q.sessionId) removed { q with status := .gone, phase := .idle }

/-- The state in which the handler of an input starts. -/
inductive Begins (m : MessageMap) (q : Member) : Input → Member → Prop
  | start : Begins m q .start { q with phase := if q.client then .starting else .idle }
  | clientFrame (frame : ClientFrame) (h : q.client = true) :
      Begins m q (.clientFrame frame) { q with phase := .ofFrame m frame }
  | backendFrame (frame : BackendFrame) (h : q.client = false) :
      Begins m q (.backendFrame frame) { q with phase := .idle }
  | close : Begins m q .close { q with phase := .closing }

/-! ### The handlers follow the conduct -/

/-- What a delegate knows of its connection. -/
def Member.Holds (q : Member) : Delegate → Prop
  | .client d => q.client = true ∧ d.sessionId = q.sessionId ∧ d.tx = some q.tx
  | .internal d => q.client = false ∧ d.sessionId = q.sessionId ∧ d.tx = some q.tx

/-- The state of a connection between two handlers. -/
structure Member.Rests (q : Member) (conn : Connection) : Prop where
  phase : q.phase.done = true
  sessionId : conn.sessionId = q.sessionId
  tx : conn.tx = q.tx
  kind : q.client = conn.delegate.isClient
  fresh : conn.stage = .accepted → q.status = .fresh
  stage : conn.stage = .closed ↔ q.status = .gone
  holds : conn.stage = .running → q.Holds conn.delegate

abbrev Obeys {α : Type} (stops : Member → α → Prop) (q : Member) (p : GatewayM α) : Prop :=
  p.Follows Moves stops q

/-- During a frame's handler a connection stays what it was (`q₀`), except that it may get known. -/
structure Member.Stays (q₀ q : Member) : Prop where
  client : q.client = q₀.client
  sessionId : q.sessionId = q₀.sessionId
  tx : q.tx = q₀.tx
  status : q.status = q₀.status ∨ q.status = .known

theorem Member.Stays.refl (q : Member) : q.Stays q := ⟨rfl, rfl, rfl, Or.inl rfl⟩

theorem Member.Stays.at {q₀ q : Member} (h : q₀.Stays q) (phase : Phase) :
    q₀.Stays { q with phase := phase } := ⟨h.client, h.sessionId, h.tx, h.status⟩

/-- Where a frame's handler ends. -/
def Member.Ends (q₀ q : Member) : Prop := q₀.Stays q ∧ q.phase.done = true

variable {q₀ q : Member}

theorem obeys_routine {α : Type} {p : GatewayM α} (h : Routine p) (hstays : q₀.Stays q)
    (hphase : q.phase = .idle) : Obeys (fun q' _ => q₀.Ends q') q p := by
  have hmoves : ∀ (op : Op) (answer : op.Answer), op.quiet = true → Moves q op answer q :=
    fun op answer hquiet => .quiet hquiet (by rw [hphase]; rfl)
  refine (Program.Follows.of_calls h.quiet hmoves).mono fun q' _ heq => ?_
  subst heq
  exact ⟨hstays, by rw [hphase]; rfl⟩

namespace ClientDelegate

variable {d : ClientDelegate}

theorem obeys_handleServerStatusRequest {frame : ClientFrame} (hstays : q₀.Stays q)
    (hid : d.sessionId = q.sessionId) (hphase : q.phase = .requested frame) (serial : Int32) :
    Obeys (fun q' _ => q₀.Ends q') q (d.handleServerStatusRequest serial) := by
  have hroutine : Routine (do
      let data ← d.encodeStatusFrame serial
      d.sendOwn (.toClient data)) := (d.routine_encodeStatusFrame serial).bind fun _ => d.routine_sendOwn _
  refine .perform_bind (fun first => if first then { q with status := .known, phase := .announcing }
    else { q with phase := .idle }) (fun first => ?_) fun first => ?_
  · rw [hid]
    exact .authenticate hphase
  · cases first with
    | false => exact obeys_routine hroutine (hstays.at .idle) rfl
    | true =>
        refine .perform_bind (fun _ => { q with status := .known, phase := .idle }) (fun _ => ?_) fun _ => ?_
        · rw [hid]
          exact .announce rfl
        · exact obeys_routine hroutine ⟨hstays.client, hstays.sessionId, hstays.tx, Or.inr rfl⟩ rfl

theorem obeys_forwardBusiness {frame : ClientFrame} {target : RouteTarget} {found : Option Tx}
    (hstays : q₀.Stays q) (hid : d.sessionId = q.sessionId)
    (hphase : q.phase = .afterFind frame target found) (unavailable : String) :
    Obeys (fun q' _ => q₀.Ends q') q (d.forwardBusiness frame found unavailable) := by
  cases found with
  | none => exact obeys_routine (d.routine_replyErrorIfRequest ..) hstays hphase
  | some tx =>
      refine .perform_bind (fun _ => { q with phase := .forwarded }) (fun _ => ?_) fun _ => ?_
      · rw [hid]
        exact .forward hphase
      · exact .ret ⟨hstays.at .forwarded, rfl⟩

theorem obeys_routeBusiness {frame : ClientFrame} {target : RouteTarget} (hstays : q₀.Stays q)
    (hid : d.sessionId = q.sessionId) (hphase : q.phase = .afterResolve frame target) :
    Obeys (fun q' _ => q₀.Ends q') q (d.routeBusiness frame target) := by
  cases target with
  | service serviceId =>
      exact .perform_bind _ (fun _ => .findByService hphase) fun found =>
        obeys_forwardBusiness (hstays.at (.afterFind frame (.service serviceId) found)) hid rfl _
  | boundService serviceId instanceId =>
      exact .perform_bind _ (fun _ => .findByInstance hphase) fun found =>
        obeys_forwardBusiness (hstays.at (.afterFind frame (.boundService serviceId instanceId) found))
          hid rfl _
  | serviceNotBound serviceId => exact obeys_routine (d.routine_replyErrorIfRequest ..) hstays hphase
  | unknown => exact obeys_routine (d.routine_replyErrorIfRequest ..) hstays hphase

theorem obeys_onRecvFrame (m : MessageMap) (frame : ClientFrame) (hstays : q₀.Stays q)
    (hid : d.sessionId = q.sessionId) (hphase : q.phase = .ofFrame m frame) :
    Obeys (fun q' _ => q₀.Ends q') q (d.onRecvFrame m frame.body) := by
  have hlength : ¬ frame.body.length < 7 := by
    have h := frame.length_body
    rw [clientHeaderSize] at h
    omega
  rw [onRecvFrame, if_neg hlength, ClientFrame.ofBody_body]
  dsimp only
  rw [Phase.ofFrame, Phase.isStatusReq] at hphase
  by_cases hid' : frame.msgId = serverStatusReqId
  · by_cases hcmd : frame.cmd = cmdGatewayMessage
    · rw [if_pos hid', if_neg (not_not.2 hcmd)]
      split
      · rename_i hdecode
        rw [hdecode] at hphase
        exact obeys_handleServerStatusRequest hstays hid
          (by simpa [hid', hcmd, Except.toOption] using hphase) _
      · rename_i hdecode
        have hother : (m.decode frame.msgId frame.payload).toOption ≠ some .serverStatusReq := by
          cases h : m.decode frame.msgId frame.payload with
          | error _ => simp [Except.toOption]
          | ok message => exact fun heq => hdecode (h.trans (congrArg Except.ok (Option.some.inj heq)))
        refine obeys_routine (d.routine_replyErrorIfRequest ..) hstays ?_
        rw [hphase, if_neg (by simp [hother]), if_neg fun h => h.1 hid']
    · rw [if_pos hid', if_pos hcmd]
      exact obeys_routine (d.routine_replyErrorIfRequest ..) hstays (by simpa [hid', hcmd] using hphase)
  · rw [if_neg hid']
    by_cases hcmd : frame.cmd = cmdBusiness
    · rw [if_neg (not_not.2 hcmd)]
      have hreceived : q.phase = .received frame := by simpa [hid', hcmd] using hphase
      refine .perform_bind (fun authenticated => { q with phase := if authenticated then .checked frame
        else .idle }) (fun authenticated => ?_) fun authenticated => ?_
      · rw [hid]
        exact .check hreceived
      · cases authenticated with
        | false => exact obeys_routine (d.routine_replyErrorIfRequest ..) (hstays.at .idle) rfl
        | true =>
            refine .perform_bind (fun target => { q with phase := .afterResolve frame target })
              (fun target => ?_) fun target =>
                obeys_routeBusiness (hstays.at (.afterResolve frame target)) hid rfl
            rw [hid, if_pos rfl]
            exact Moves.resolve (q := { q with phase := .checked frame }) rfl
    · rw [if_pos hcmd]
      exact obeys_routine (d.routine_replyErrorIfRequest ..) hstays (by simpa [hid', hcmd] using hphase)

end ClientDelegate

namespace InternalDelegate

variable {d : InternalDelegate}

theorem obeys_tell (htx : d.tx = some q.tx) {sessions : List UInt32} (hstays : q₀.Stays q)
    (hphase : q.phase = .telling sessions) :
    Obeys (fun q' _ => q₀.Ends q') q
      (Program.forEach (fun sid => d.sendControl (.sessionOnlinePush sid) 0 sid) sessions) := by
  induction sessions generalizing q with
  | nil => exact .ret ⟨hstays, by rw [hphase]; rfl⟩
  | cons sid rest ih =>
      rw [Program.forEach, sendControl, htx]
      exact .perform_bind (fun _ => { q with phase := .telling rest }) (fun _ => .tell hphase)
        fun _ => ih htx (hstays.at (.telling rest)) rfl

theorem obeys_announce (htx : d.tx = some q.tx) (req : ServerRegReq)
    (hstays : q₀.Stays q) (hphase : q.phase = .enlisted) :
    Obeys (fun q' _ => q₀.Ends q') q (d.announce req) := by
  have hquiet : ∀ (op : Op) (answer : op.Answer), op.quiet = true → Moves q op answer q :=
    fun op answer h => .quiet h (by rw [hphase]; rfl)
  have hquiet' : ∀ (op : Op) (answer : op.Answer), op.quiet = true →
      Moves { q with phase := .surveyed } op answer { q with phase := .surveyed } :=
    fun op answer h => .quiet h rfl
  have hpush : Obeys (fun q' _ => q' = { q with phase := .surveyed }) q
      (pushServiceStatus req.serviceId.toUInt8 req.instanceId true) := by
    refine .perform_bind (fun _ => { q with phase := .surveyed }) (fun _ => .survey' hphase) fun sessions => ?_
    exact .of_calls (.forEach fun _ _ => (routine_pushOne ..).quiet) hquiet'
  refine .calls_bind (quiet_perform rfl) hquiet fun _ => hpush.bind fun q' _ heq => ?_
  subst heq
  refine .perform_bind (fun sessions => { q with phase := .telling sessions })
    (fun _ => Moves.list (q := { q with phase := .surveyed }) rfl) fun sessions => ?_
  exact obeys_tell (q := { q with phase := .telling sessions }) htx (hstays.at (.telling sessions)) rfl

/-- What a delegate knows of its connection. -/
def Knows (q : Member) (d : InternalDelegate) : Prop := d.sessionId = q.sessionId ∧ d.tx = some q.tx

theorem obeys_registerResult (req : ServerRegReq) (result : RegisterResult) (hd : d.Knows q₀)
    (hquiet : ∀ (op : Op) (answer : op.Answer), op.quiet = true → Moves q op answer q) :
    Obeys (fun q' r => q' = q ∧ r.2.1 = decide (result = .registered) ∧ r.2.2.Knows q₀) q
      (d.registerResult req result) := by
  cases result with
  | registered | alreadyRegistered =>
      exact .calls_bind (quiet_perform rfl) hquiet fun _ => .ret ⟨rfl, rfl, hd⟩
  | sessionAlreadyRegistered | instanceAlreadyRegistered => exact .ret ⟨rfl, rfl, hd⟩

theorem obeys_handleServerRegReq (serial : Int32) (req : ServerRegReq) (hd : d.Knows q₀)
    (hstays : q₀.Stays q) (hclient : q.client = false) (hstatus : q.status ≠ .gone)
    (hphase : q.phase = .idle) :
    Obeys (fun q' d' => q₀.Ends q' ∧ d'.Knows q₀) q (d.handleServerRegReq serial req) := by
  have htx : d.tx = some q.tx := hd.2.trans (congrArg some hstays.tx.symm)
  rw [handleServerRegReq, htx]
  refine .perform_bind (fun result => if result = .registered then
    { q with status := .known, phase := .enlisted } else q) (fun result => ?_) fun result => ?_
  · rw [hd.1, ← hstays.sessionId]
    exact .register hclient hstatus hphase
  · dsimp only
    generalize hq₁ : (if result = .registered then { q with status := .known, phase := .enlisted } else q) =
      q₁
    have hquiet : ∀ (op : Op) (answer : op.Answer), op.quiet = true → Moves q₁ op answer q₁ := by
      refine fun op answer h => .quiet h ?_
      rw [← hq₁]
      split_ifs
      · rfl
      · rw [hphase]
        rfl
    refine (obeys_registerResult req result hd hquiet).bind fun q' r hr => ?_
    obtain ⟨code, announce, d'⟩ := r
    obtain ⟨rfl, rfl, hd'⟩ := hr
    refine .calls_bind (quiet_perform rfl) hquiet fun servers => ?_
    refine .calls_bind (quiet_perform rfl) hquiet fun _ => ?_
    by_cases hresult : result = .registered
    · rw [if_pos hresult] at hq₁
      rw [if_pos (decide_eq_true hresult)]
      subst hq₁
      have hstays' : q₀.Stays { q with status := .known, phase := .enlisted } :=
        ⟨hstays.client, hstays.sessionId, hstays.tx, Or.inr rfl⟩
      exact (obeys_announce (q := { q with status := .known, phase := .enlisted }) htx req hstays'
        rfl).bind fun q' _ h => .ret ⟨h, hd'⟩
    · rw [if_neg hresult] at hq₁
      rw [if_neg (by simpa using hresult)]
      subst hq₁
      exact .ret ⟨⟨hstays, by rw [hphase]; rfl⟩, hd'⟩

theorem obeys_loose_bind {p : GatewayM Unit} (h : Loose p) (hd : d.Knows q₀) (hstays : q₀.Stays q)
    (hclient : q.client = false) (hphase : q.phase = .idle) :
    Obeys (fun q' d' => q₀.Ends q' ∧ d'.Knows q₀) q (do
      p
      pure d) := by
  have hmoves : ∀ (op : Op) (answer : op.Answer), op.quiet = true ∨ op.binds = true →
      Moves q op answer q := by
    rintro op answer (hquiet | hbinds)
    · exact .quiet hquiet (by rw [hphase]; rfl)
    · exact .binds hbinds hclient hphase
  exact .calls_bind h hmoves fun _ => .ret ⟨⟨hstays, by rw [hphase]; rfl⟩, hd⟩

theorem obeys_handleMessage (serial : Int32) (message : Message) (hd : d.Knows q₀)
    (hstays : q₀.Stays q) (hclient : q.client = false) (hstatus : q.status ≠ .gone)
    (hphase : q.phase = .idle) :
    Obeys (fun q' d' => q₀.Ends q' ∧ d'.Knows q₀) q (d.handleMessage serial message) := by
  have hret : Obeys (fun q' d' => q₀.Ends q' ∧ d'.Knows q₀) q (pure d) :=
    .ret ⟨⟨hstays, by rw [hphase]; rfl⟩, hd⟩
  cases message with
  | serverRegReq req => exact obeys_handleServerRegReq serial req hd hstays hclient hstatus hphase
  | bindServiceReq req =>
      exact obeys_loose_bind (d.loose_handleBindServiceReq ..) hd hstays hclient hphase
  | serviceLoadReportPush report =>
      exact obeys_loose_bind (d.routine_handleServiceLoadReportPush _).loose hd hstays hclient hphase
  | serverPongResp nonce =>
      exact obeys_loose_bind (d.routine_handleServerPongResp _).loose hd hstays hclient hphase
  | unbindServiceReq req =>
      exact obeys_loose_bind (d.loose_handleUnbindServiceReq ..) hd hstays hclient hphase
  | kickSessionReq sessionId =>
      exact obeys_loose_bind (d.loose_handleKickSessionReq ..) hd hstays hclient hphase
  | forwardToServerReq req =>
      exact obeys_loose_bind (d.routine_handleServerForward ..).loose hd hstays hclient hphase
  | _ => exact hret

theorem obeys_onRecvFrame (m : MessageMap) (frame : BackendFrame) (hd : d.Knows q₀)
    (hstays : q₀.Stays q) (hclient : q.client = false) (hstatus : q.status ≠ .gone)
    (hphase : q.phase = .idle) :
    Obeys (fun q' d' => q₀.Ends q' ∧ d'.Knows q₀) q (d.onRecvFrame m frame.body) := by
  have hret : Obeys (fun q' d' => q₀.Ends q' ∧ d'.Knows q₀) q (pure d) :=
    .ret ⟨⟨hstays, by rw [hphase]; rfl⟩, hd⟩
  have hlength : ¬ frame.body.length < 11 := by
    have h := frame.length_body
    rw [backendHeaderSize] at h
    omega
  rw [onRecvFrame, if_neg hlength, BackendFrame.ofBody_body]
  dsimp only
  split
  · exact .perform_bind (fun _ => q) (fun _ => .relay hclient hphase) fun _ => hret
  · rw [handleInternal]
    split
    · exact hret
    · split
      · exact obeys_handleMessage _ _ hd hstays hclient hstatus hphase
      · exact hret

end InternalDelegate

/-! ### The guide -/

/-- What a closed backend leaves to do, all of it quiet or a look at the sessions. -/
theorem InternalDelegate.obeys_notify (sessionId : UInt32) (removed : Option (UInt8 × UInt32))
    (hclient : q.client = false) (hphase : q.phase = .idle) :
    Obeys (fun q' _ => q' = q) q (Program.whenSome removed fun (serviceId, instanceId) => do
      perform (.broadcastExcept sessionId (.control (.serverOfflinePush serviceId.toUInt32 instanceId) 0 0))
      pushServiceStatus serviceId instanceId false
      perform (.unbindAllByInstance serviceId instanceId)) := by
  have hquiet : ∀ (op : Op) (answer : op.Answer), op.quiet = true → Moves q op answer q :=
    fun op answer h => .quiet h (by rw [hphase]; rfl)
  cases removed with
  | none => exact .ret rfl
  | some identity =>
      refine .calls_bind (quiet_perform rfl) hquiet fun _ => ?_
      refine Program.Follows.bind (?_ : Obeys (fun q' _ => q' = q) q _) fun q' _ heq => ?_
      · exact .perform_bind (fun _ => q) (fun _ => .survey hphase) fun _ =>
          .of_calls (.forEach fun _ _ => (routine_pushOne ..).quiet) hquiet
      · subst heq
        exact .call (fun _ => q') (fun _ => .binds rfl hclient hphase) fun _ => .ret rfl

section Guide

variable {m : MessageMap} {conn : Connection}

theorem Member.Rests.running (h : q.Rests conn) (hstage : conn.stage = .running) : q.status ≠ .gone := by
  intro hgone
  rw [h.stage.2 hgone] at hstage
  cases hstage

theorem Member.Rests.of_ends {q' : Member} (h : q.Rests conn) (hstage : conn.stage = .running)
    (hends : q.Ends q') (delegate : Delegate) (hkind : q.client = delegate.isClient)
    (hholds : q'.Holds delegate) : q'.Rests { conn with delegate } := by
  obtain ⟨hstays, hdone⟩ := hends
  refine ⟨hdone, h.sessionId.trans hstays.sessionId.symm, h.tx.trans hstays.tx.symm,
    hstays.client.trans hkind, ?_, ?_, fun _ => hholds⟩
  · intro haccepted
    rw [hstage] at haccepted
    cases haccepted
  · have hgone := h.running hstage
    constructor
    · intro hclosed
      rw [hstage] at hclosed
      cases hclosed
    · intro hgone'
      rcases hstays.status with h' | h'
      · exact absurd (h'.symm.trans hgone') hgone
      · rw [h'] at hgone'
        cases hgone'

theorem obeys_onSessionStart (h : q.Rests conn) (hstage : conn.stage = .accepted) :
    Obeys Member.Rests { q with phase := if q.client then .starting else .idle } conn.onSessionStart := by
  have hfresh := h.fresh hstage
  have hkind := h.kind
  rw [Connection.onSessionStart]
  cases hdelegate : conn.delegate with
  | client d =>
      rw [hdelegate] at hkind
      refine .perform_bind (fun _ => { q with phase := .idle }) (fun _ => ?_) fun _ => .ret ?_
      · rw [h.sessionId, h.tx, if_pos (show q.client = true from hkind)]
        exact Moves.start (q := { q with phase := .starting }) rfl
      · refine ⟨rfl, h.sessionId, h.tx, hkind, fun haccepted => ?_, ⟨fun hclosed => ?_, fun hgone => ?_⟩,
          fun _ => ⟨hkind, h.sessionId, congrArg some h.tx⟩⟩
        · cases haccepted
        · cases hclosed
        · cases hfresh.symm.trans hgone
  | internal d =>
      rw [hdelegate] at hkind
      rw [if_neg (by rw [hkind]; exact Bool.false_ne_true)]
      refine .perform_bind (fun _ => { q with phase := .idle }) (fun _ => .quiet rfl rfl) fun _ => .ret ?_
      refine ⟨rfl, h.sessionId, h.tx, hkind, fun haccepted => ?_, ⟨fun hclosed => ?_, fun hgone => ?_⟩,
        fun _ => ⟨hkind, h.sessionId, congrArg some h.tx⟩⟩
      · cases haccepted
      · cases hclosed
      · cases hfresh.symm.trans hgone

theorem obeys_onSessionClose (h : q.Rests conn) (hstage : conn.stage = .running) :
    Obeys Member.Rests { q with phase := .closing } conn.onSessionClose := by
  have hkind := h.kind
  have hholds := h.holds hstage
  have hrests : Member.Rests { q with status := .gone, phase := .idle } { conn with stage := .closed } := by
    refine ⟨rfl, h.sessionId, h.tx, hkind, fun haccepted => ?_, ⟨fun _ => rfl, fun _ => rfl⟩, fun hrunning => ?_⟩
    · cases haccepted
    · cases hrunning
  rw [Connection.onSessionClose]
  cases hdelegate : conn.delegate with
  | client d =>
      rw [hdelegate] at hkind hholds hrests
      obtain ⟨-, hid, -⟩ := hholds
      dsimp only
      rw [ClientDelegate.onSessionClose, hid]
      refine .perform_bind (fun was => { q with status := .gone, phase := .departed was })
        (fun _ => Moves.remove (q := { q with phase := .closing }) hkind rfl) fun was => ?_
      refine .perform_bind (fun _ => { q with status := .gone, phase := if was then .departing else .idle })
        (fun _ => Moves.cleanup (q := { q with status := .gone, phase := .departed was }) rfl) fun _ => ?_
      cases was with
      | false => exact .ret hrests
      | true =>
          exact .perform_bind (fun _ => { q with status := .gone, phase := .idle })
            (fun _ => Moves.depart (q := { q with status := .gone, phase := .departing }) rfl)
            fun _ => .ret hrests
  | internal d =>
      rw [hdelegate] at hkind hholds hrests
      obtain ⟨-, hid, -⟩ := hholds
      dsimp only
      rw [InternalDelegate.onSessionClose, hid]
      refine .perform_bind (fun _ => { q with status := .gone, phase := .idle })
        (fun _ => Moves.unregister (q := { q with phase := .closing }) hkind rfl) fun removed => ?_
      refine (InternalDelegate.obeys_notify (q := { q with status := .gone, phase := .idle }) q.sessionId removed
        hkind rfl).bind fun q' _ heq => ?_
      subst heq
      exact .ret hrests

/-- The conduct state of a new connection. -/
def Member.new (conn : Connection) : Member where
  client := conn.delegate.isClient
  sessionId := conn.sessionId
  tx := conn.tx

theorem fresh_rests {s s' : Shared} {k : Nat} (h : opens s k conn s') :
    (Member.new conn).Rests conn := by
  obtain ⟨-, hconn, -⟩ := h
  rw [hconn]
  exact ⟨rfl, rfl, rfl, rfl, fun _ => rfl, ⟨nofun, nofun⟩, nofun⟩

theorem handle_obeys {e : Input} {p : GatewayM Connection} (h : q.Rests conn)
    (hhandle : conn.handle m e = some p) : ∃ q', Begins m q e q' ∧ Obeys Member.Rests q' p := by
  cases e with
  | start =>
      simp only [Connection.handle, Option.ite_none_right_eq_some, Option.some.injEq] at hhandle
      obtain ⟨hstage, rfl⟩ := hhandle
      exact ⟨_, .start, obeys_onSessionStart h hstage⟩
  | close =>
      simp only [Connection.handle, Option.ite_none_right_eq_some, Option.some.injEq] at hhandle
      obtain ⟨hstage, rfl⟩ := hhandle
      exact ⟨_, .close, obeys_onSessionClose h hstage⟩
  | clientFrame frame =>
      cases hstage : conn.stage <;> cases hdelegate : conn.delegate <;>
        simp only [Connection.handle, hstage, hdelegate, Option.some.injEq, reduceCtorEq] at hhandle
      rename_i d
      subst hhandle
      have hkind := h.kind
      have hholds := h.holds hstage
      rw [hdelegate] at hkind hholds
      refine ⟨_, .clientFrame frame hkind, ?_⟩
      refine (ClientDelegate.obeys_onRecvFrame (q := { q with phase := .ofFrame m frame }) m frame
        ((Member.Stays.refl q).at _) hholds.2.1 rfl).bind fun q' _ hends => .ret ?_
      refine h.of_ends hstage hends conn.delegate h.kind ?_
      rw [hdelegate]
      exact ⟨hends.1.client.trans hkind, hholds.2.1.trans hends.1.sessionId.symm,
        hholds.2.2.trans (congrArg some hends.1.tx.symm)⟩
  | backendFrame frame =>
      cases hstage : conn.stage <;> cases hdelegate : conn.delegate <;>
        simp only [Connection.handle, hstage, hdelegate, Option.some.injEq, reduceCtorEq] at hhandle
      rename_i d
      subst hhandle
      have hkind := h.kind
      have hholds := h.holds hstage
      rw [hdelegate] at hkind hholds
      refine ⟨_, .backendFrame frame hkind, ?_⟩
      refine (InternalDelegate.obeys_onRecvFrame (q := { q with phase := .idle }) m frame
        ⟨hholds.2.1, hholds.2.2⟩ ((Member.Stays.refl q).at _) hkind (h.running hstage) rfl).bind
        fun q' d' hends => .ret ?_
      obtain ⟨hends, hd'⟩ := hends
      rw [← hstage]
      exact h.of_ends hstage hends (.internal d') hkind ⟨hends.1.client.trans hkind,
        hd'.1.trans hends.1.sessionId.symm, hd'.2.trans (congrArg some hends.1.tx.symm)⟩

/-- Every handler of the gateway follows the conduct. -/
def guide (m : MessageMap) : Pool.Guide (system m) Member where
  moves := Moves
  stops := Member.Rests
  fresh := fun _ conn => .new conn
  begins := Begins m
  fresh_stops := fun _ _ _ _ h => fresh_rests h
  follows := fun _ _ _ _ h hhandle => handle_obeys h hhandle

end Guide

end Gateway

end AxmolFighter
