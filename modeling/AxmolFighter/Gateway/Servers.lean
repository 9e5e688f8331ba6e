import AxmolFighter.Gateway.Calls
import AxmolFighter.Gateway.Members

/-!
# The conduct of backends towards the registry

A registration is four calls: the entry in the registry, the list of the other backends, the answer, and the
announcement, if the entry is new. The end of a connection is two: the entry goes, and the others are told.
Between them anything can happen. All other calls are `plain`: they leave the registrations alone and tell no
backend about another.
-/

namespace AxmolFighter.Gateway

open Pool

/-- The backend is registered after this, and the answer says so. -/
def RegisterResult.accepted : RegisterResult → Bool
  | .registered | .alreadyRegistered => true
  | _ => false

/-- A call that has to do with neither the registrations nor what backends know of them. -/
def Op.plain : Op → Bool
  | .register .. | .unregister .. => false
  | .broadcast data | .broadcastExcept _ data | .send _ (.toBackend data) => data.serverNews.isNone
  | _ => true

theorem Op.plain_of_routine {op : Op} (h : op.routine = true) : op.plain = true := by
  cases op with
  | register | unregister => cases h
  | broadcast | broadcastExcept => exact (Bool.and_eq_true_iff.1 h).2
  | send tx message =>
      cases message with
      | toBackend => exact (Bool.and_eq_true_iff.1 h).2
      | _ => rfl
  | _ => rfl

abbrev Plain {α : Type} (p : GatewayM α) : Prop := p.Calls fun op : Op => op.plain = true

theorem plain_perform {op : Op} (h : op.plain = true) : Plain (perform op) := .perform h

theorem Routine.plain {α : Type} {p : GatewayM α} (h : Routine p) : Plain p :=
  h.mono fun _ => Op.plain_of_routine

/-! ### The states -/

/-- Where a task is in its handler. -/
inductive ServerPhase
  | idle
  | enrolled (serviceId instanceId : UInt32) (result : RegisterResult)
  | listed (serviceId instanceId : UInt32) (result : RegisterResult) (servers : List ServiceEndpoint)
  | answered (serviceId instanceId : UInt32)
  | closing
  | leaving (serviceId : UInt8) (instanceId : UInt32)

/-- A connection, as far as the registry goes. -/
structure Server where
  internal : Bool
  sessionId : UInt32
  tx : Tx
  registered : Option (UInt8 × UInt32) := none
  closed : Bool := false
  phase : ServerPhase := .idle

namespace Server

/-- Plain calls do not leave these. -/
def passive : ServerPhase → Bool
  | .idle | .enrolled .. => true
  | _ => false

def afterRegister (q : Server) (serviceId instanceId : UInt32) (result : RegisterResult) : Server :=
  { q with
    registered := if result.accepted then some (serviceId.toUInt8, instanceId) else q.registered
    phase := .enrolled serviceId instanceId result }

def endpoint (server : UInt8 × UInt32) : ServiceEndpoint :=
  { serviceId := server.1.toUInt32, instanceId := server.2 }

/-- The calls of a connection. -/
inductive Moves : Server → (op : Op) → op.Answer → Server → Prop
  | plain {q : Server} {op : Op} {answer : op.Answer} (h : op.plain = true) (hphase : passive q.phase = true) :
      Moves q op answer q
  | register {q : Server} {serviceId instanceId : UInt32} {result : RegisterResult} (hinternal : q.internal = true)
      (hopen : q.closed = false) (h : q.phase = .idle) :
      Moves q (.register q.sessionId serviceId.toUInt8 instanceId q.tx) result
        (q.afterRegister serviceId instanceId result)
  | list {q : Server} {serviceId instanceId : UInt32} {result : RegisterResult} {servers : List (UInt8 × UInt32)}
      (h : q.phase = .enrolled serviceId instanceId result) :
      Moves q (.listAllExcept q.sessionId) servers
        { q with phase := .listed serviceId instanceId result (servers.map endpoint) }
  | answer {q : Server} {serviceId instanceId : UInt32} {result : RegisterResult} {servers : List ServiceEndpoint}
      {code : UInt32} {serial : Int32} {sent : Bool} (h : q.phase = .listed serviceId instanceId result servers)
      (hcode : code = serverRegOk ↔ result.accepted = true) :
      Moves q (.send q.tx (.toBackend (.control (.serverRegResp code servers) serial 0))) sent
        { q with phase := if result = .registered then .answered serviceId instanceId else .idle }
  | announce {q : Server} {serviceId instanceId : UInt32} (h : q.phase = .answered serviceId instanceId) :
      Moves q (.broadcastExcept q.sessionId (.control (.serverOnlinePush serviceId instanceId) 0 0)) ()
        { q with phase := .idle }
  | unregister {q : Server} {removed : Option (UInt8 × UInt32)} (hinternal : q.internal = true)
      (h : q.phase = .closing) :
      Moves q (.unregister q.sessionId) removed { q with
        closed := true
        phase := removed.elim .idle fun server => .leaving server.1 server.2 }
  | leave {q : Server} {serviceId : UInt8} {instanceId : UInt32} (h : q.phase = .leaving serviceId instanceId) :
      Moves q (.broadcastExcept q.sessionId (.control (.serverOfflinePush serviceId.toUInt32 instanceId) 0 0)) ()
        { q with phase := .idle }

/-- The state in which the handler of an input starts. -/
inductive Begins (q : Server) : Input → Server → Prop
  | start : Begins q .start q
  | clientFrame (frame : ClientFrame) : Begins q (.clientFrame frame) q
  | backendFrame (frame : BackendFrame) : Begins q (.backendFrame frame) q
  | close : Begins q .close { q with phase := if q.internal then .closing else .idle }

/-- What a delegate knows of its connection. -/
def Knows (q : Server) (d : InternalDelegate) : Prop :=
  d.sessionId = q.sessionId ∧ d.tx = some q.tx ∧ d.registered = q.registered

/-- The state of a connection between two handlers. -/
structure Rests (q : Server) (conn : Connection) : Prop where
  phase : q.phase = .idle
  sessionId : conn.sessionId = q.sessionId
  tx : conn.tx = q.tx
  kind : q.internal = !conn.delegate.isClient
  stage : q.internal = true → (conn.stage = .closed ↔ q.closed = true)
  registered : ∀ d, conn.delegate = .internal d → d.registered = q.registered
  knows : conn.stage = .running → ∀ d, conn.delegate = .internal d → q.Knows d

abbrev Obeys {α : Type} (stops : Server → α → Prop) (q : Server) (p : GatewayM α) : Prop :=
  p.Follows Moves stops q

variable {q : Server}

theorem obeys_plain {α : Type} {p : GatewayM α} (h : Plain p) (hphase : passive q.phase = true) :
    Obeys (fun q' _ => q' = q) q p :=
  Program.Follows.of_calls h fun _ _ hplain => .plain hplain hphase

/-- Where the handler of a frame ends: the connection is what it was, but it may be registered now. -/
structure Ends (q q' : Server) (d : InternalDelegate) : Prop where
  internal : q'.internal = q.internal
  closed : q'.closed = q.closed
  sessionId : q'.sessionId = q.sessionId
  tx : q'.tx = q.tx
  phase : q'.phase = .idle
  knows : q'.Knows d

theorem Ends.refl {d : InternalDelegate} (hphase : q.phase = .idle) (hd : q.Knows d) : q.Ends q d :=
  ⟨rfl, rfl, rfl, rfl, hphase, hd⟩

variable {d : InternalDelegate}

theorem obeys_plain_bind {p : GatewayM Unit} (h : Plain p) (hphase : q.phase = .idle) (hd : q.Knows d) :
    Obeys q.Ends q (do
      p
      pure d) :=
  (obeys_plain h (by rw [hphase]; rfl)).bind fun q' _ heq => .ret (by rw [heq]; exact .refl hphase hd)

theorem obeys_registerResult (req : ServerRegReq) (result : RegisterResult) (hd : q.Knows d) :
    Obeys (fun q' r => q' = q.afterRegister req.serviceId req.instanceId result ∧
        (r.1 = serverRegOk ↔ result.accepted = true) ∧ r.2.1 = decide (result = .registered) ∧ q'.Knows r.2.2)
      (q.afterRegister req.serviceId req.instanceId result) (d.registerResult req result) := by
  cases result with
  | registered | alreadyRegistered =>
      refine .stay (fun _ => .plain rfl rfl) fun _ => .ret ⟨rfl, ?_, rfl, hd.1, hd.2.1, rfl⟩
      exact ⟨fun _ => rfl, fun _ => rfl⟩
  | sessionAlreadyRegistered =>
      exact .ret ⟨rfl, ⟨fun h : serverRegErrSessionAlreadyRegistered = serverRegOk => absurd h (by decide), nofun⟩,
        rfl, hd⟩
  | instanceAlreadyRegistered =>
      exact .ret ⟨rfl, ⟨fun h : serverRegErrInstanceAlreadyRegistered = serverRegOk => absurd h (by decide), nofun⟩,
        rfl, hd⟩

theorem plain_pushServiceStatus (serviceId : UInt8) (instanceId : UInt32) (online : Bool) :
    Plain (InternalDelegate.pushServiceStatus serviceId instanceId online) :=
  (plain_perform rfl).bind fun _ => .forEach fun _ _ => (InternalDelegate.routine_pushOne ..).plain

theorem obeys_announce (req : ServerRegReq) (hphase : q.phase = .answered req.serviceId req.instanceId)
    (hid : d.sessionId = q.sessionId) :
    Obeys (fun q' _ => q' = { q with phase := .idle }) q (d.announce req) := by
  refine .perform_bind (fun _ => { q with phase := .idle }) (fun _ => ?_) fun _ => ?_
  · rw [hid]
    exact .announce hphase
  · refine obeys_plain ((plain_pushServiceStatus ..).bind fun _ => ?_) rfl
    refine (plain_perform rfl).bind fun _ => .forEach fun _ _ => ?_
    exact .whenSome fun _ => (plain_perform rfl).bind fun _ => .ret _

theorem obeys_handleServerRegReq (serial : Int32) (req : ServerRegReq) (hd : q.Knows d)
    (hinternal : q.internal = true) (hopen : q.closed = false) (hphase : q.phase = .idle) :
    Obeys q.Ends q (d.handleServerRegReq serial req) := by
  rw [InternalDelegate.handleServerRegReq, hd.2.1]
  refine .perform_bind (fun result => q.afterRegister req.serviceId req.instanceId result) (fun result => ?_)
    fun result => ?_
  · rw [hd.1]
    exact .register hinternal hopen hphase
  · refine (obeys_registerResult req result hd).bind fun q₁ r hr => ?_
    obtain ⟨code, announce, d'⟩ := r
    obtain ⟨rfl, hcode, rfl, hd'⟩ := hr
    refine .perform_bind (fun servers => { q.afterRegister req.serviceId req.instanceId result with
      phase := .listed req.serviceId req.instanceId result (servers.map endpoint) }) (fun servers => ?_)
      fun servers => ?_
    · rw [hd.1]
      exact .list (q := q.afterRegister req.serviceId req.instanceId result) rfl
    · have hrests : ∀ q', q' = { q.afterRegister req.serviceId req.instanceId result with phase := .idle } →
          q.Ends q' d' := by
        rintro q' rfl
        exact ⟨rfl, rfl, rfl, rfl, rfl, hd'⟩
      refine .perform_bind (fun _ => { q.afterRegister req.serviceId req.instanceId result with
        phase := if result = .registered then .answered req.serviceId req.instanceId else .idle }) (fun _ => ?_)
        fun _ => ?_
      · exact .answer (q := { q.afterRegister req.serviceId req.instanceId result with
          phase := .listed req.serviceId req.instanceId result (servers.map endpoint) }) rfl hcode
      · by_cases hresult : result = .registered
        · rw [if_pos (decide_eq_true hresult), if_pos hresult]
          refine (obeys_announce (q := { q.afterRegister req.serviceId req.instanceId result with
            phase := .answered req.serviceId req.instanceId }) req rfl hd.1).bind fun q' _ heq => .ret ?_
          exact hrests q' heq
        · rw [if_neg hresult, if_neg (by simpa using hresult)]
          exact .ret (hrests _ rfl)

theorem obeys_onRecvFrame (m : MessageMap) (frame : BackendFrame) (hd : q.Knows d)
    (hinternal : q.internal = true) (hopen : q.closed = false) (hphase : q.phase = .idle) :
    Obeys q.Ends q (d.onRecvFrame m frame.body) := by
  have hret : Obeys q.Ends q (pure d) := .ret (.refl hphase hd)
  have hpassive : passive q.phase = true := by rw [hphase]; rfl
  by_cases hcontrol : frame.cmd = backendCmdControl
  · rw [d.onRecvFrame_control hcontrol]
    split
    · rename_i message _
      cases message with
      | serverRegReq req => exact obeys_handleServerRegReq _ req hd hinternal hopen hphase
      | bindServiceReq req =>
          exact obeys_plain_bind (d.calls_handleBindServiceReq (fun _ => Op.plain_of_routine) req (fun _ => rfl) _)
            hphase hd
      | serviceLoadReportPush report =>
          exact obeys_plain_bind (d.routine_handleServiceLoadReportPush _).plain hphase hd
      | serverPongResp nonce => exact obeys_plain_bind (d.routine_handleServerPongResp _).plain hphase hd
      | unbindServiceReq req =>
          exact obeys_plain_bind (d.calls_handleUnbindServiceReq (fun _ => Op.plain_of_routine) (fun _ _ => rfl) _ req)
            hphase hd
      | kickSessionReq sessionId =>
          exact obeys_plain_bind (d.calls_handleKickSessionReq (fun _ => Op.plain_of_routine) (fun _ => rfl) _ sessionId)
            hphase hd
      | forwardToServerReq req => exact obeys_plain_bind (d.routine_handleServerForward ..).plain hphase hd
      | _ => exact hret
    · exact hret
  · rw [InternalDelegate.onRecvFrame, BackendFrame.ofBody_body]
    dsimp only
    split_ifs
    · exact hret
    · exact .stay (fun _ => .plain rfl hpassive) fun _ => hret
    · rw [InternalDelegate.handleInternal, if_pos hcontrol]
      exact hret

/-! ### The guide -/

variable {conn : Connection} {m : MessageMap}

theorem Rests.open (h : q.Rests conn) (hinternal : q.internal = true) (hstage : conn.stage = .running) :
    q.closed = false := by
  rw [← Bool.not_eq_true, ← h.stage hinternal, hstage]
  exact nofun

theorem obeys_onSessionStart (h : q.Rests conn) (hstage : conn.stage = .accepted) :
    Obeys Rests q conn.onSessionStart := by
  have hpassive : passive q.phase = true := by rw [h.phase]; rfl
  have hkind := h.kind
  rw [Connection.onSessionStart]
  cases hdelegate : conn.delegate with
  | client d =>
      rw [hdelegate] at hkind
      refine .stay (fun _ => .plain rfl hpassive) fun _ => .ret ?_
      refine ⟨h.phase, h.sessionId, h.tx, hkind, fun hinternal => ?_, fun _ hd => ?_, fun _ _ hd => ?_⟩
      · rw [hkind] at hinternal
        cases hinternal
      · cases hd
      · cases hd
  | internal d =>
      rw [hdelegate] at hkind
      have hregistered := h.registered d hdelegate
      refine .stay (fun _ => .plain rfl hpassive) fun _ => .ret ?_
      refine ⟨h.phase, h.sessionId, h.tx, hkind, fun hinternal => ?_, ?_, ?_⟩
      · rw [← h.stage hinternal, hstage]
        refine iff_of_false (fun haccepted => ?_) fun hclosed => ?_
        · cases haccepted
        · cases hclosed
      · rintro _ ⟨⟩
        exact hregistered
      · rintro - _ ⟨⟩
        exact ⟨h.sessionId, congrArg some h.tx, hregistered⟩

theorem obeys_onSessionClose (h : q.Rests conn) (hstage : conn.stage = .running) :
    Obeys Rests { q with phase := if q.internal then .closing else .idle } conn.onSessionClose := by
  have hkind := h.kind
  rw [Connection.onSessionClose]
  cases hdelegate : conn.delegate with
  | client d =>
      rw [hdelegate] at hkind
      rw [if_neg (by rw [hkind]; exact Bool.false_ne_true)]
      refine (obeys_plain (q := { q with phase := .idle }) ?_ rfl).bind fun q' _ heq => .ret ?_
      · refine (plain_perform rfl).bind fun was => (plain_perform rfl).bind fun _ => ?_
        split
        · exact plain_perform rfl
        · exact .ret ()
      · subst heq
        refine ⟨rfl, h.sessionId, h.tx, hdelegate ▸ hkind, fun hinternal => ?_, fun _ hd => ?_, fun hrunning => ?_⟩
        · cases hkind.symm.trans hinternal
        · cases hd
        · cases hrunning
  | internal d =>
      rw [hdelegate] at hkind
      obtain ⟨hid, -, hregistered⟩ := h.knows hstage d hdelegate
      have hrests : Rests { q with closed := true, phase := .idle } { conn with stage := .closed } := by
        refine ⟨rfl, h.sessionId, h.tx, hdelegate ▸ hkind, fun _ => ⟨fun _ => rfl, fun _ => rfl⟩, ?_, ?_⟩
        · intro d' hd'
          cases hdelegate.symm.trans hd'
          exact hregistered
        · intro hrunning
          cases hrunning
      rw [if_pos (show q.internal = true from hkind)]
      dsimp only
      rw [InternalDelegate.onSessionClose, hid]
      refine .perform_bind (fun removed => { q with
        closed := true
        phase := removed.elim .idle fun server => .leaving server.1 server.2 })
        (fun removed => .unregister (q := { q with phase := .closing }) hkind rfl) fun removed => ?_
      rcases removed with _ | ⟨serviceId, instanceId⟩
      · exact .ret (hdelegate ▸ hrests)
      · refine (show Obeys (fun q' _ => q' = { q with closed := true, phase := .idle }) _ _ from ?_).bind
          fun q' _ heq => .ret (by rw [heq]; exact hdelegate ▸ hrests)
        refine .perform_bind (fun _ => { q with closed := true, phase := .idle })
          (fun _ => .leave (q := { q with closed := true, phase := .leaving serviceId instanceId }) rfl) fun _ => ?_
        refine obeys_plain ((plain_pushServiceStatus ..).bind fun _ => ?_) rfl
        exact plain_perform rfl

/-- The conduct state of a new connection. -/
def new (conn : Connection) : Server where
  internal := !conn.delegate.isClient
  sessionId := conn.sessionId
  tx := conn.tx

theorem rests_new {s s' : Shared} {k : Nat} (h : opens s k conn s') : (new conn).Rests conn := by
  obtain ⟨hkind, hconn, -⟩ := h
  rw [hconn]
  refine ⟨rfl, rfl, rfl, rfl, fun _ => ⟨nofun, nofun⟩, fun d hd => ?_, nofun⟩
  rcases hkind with hkind | hkind
  · exact nomatch hkind.symm.trans hd
  · cases hkind.symm.trans hd
    rfl

theorem handle_obeys {e : Input} {p : GatewayM Connection} (h : q.Rests conn)
    (hhandle : conn.handle m e = some p) : ∃ q', Begins q e q' ∧ Obeys Rests q' p := by
  have hpassive : passive q.phase = true := by rw [h.phase]; rfl
  cases e with
  | start =>
      simp only [Connection.handle, Option.ite_none_right_eq_some, Option.some.injEq] at hhandle
      obtain ⟨hstage, rfl⟩ := hhandle
      exact ⟨_, .start, obeys_onSessionStart h hstage⟩
  | close =>
      simp only [Connection.handle, Option.ite_none_right_eq_some, Option.some.injEq] at hhandle
      obtain ⟨hstage, rfl⟩ := hhandle
      exact ⟨_, .close, obeys_onSessionClose h hstage⟩
  | clientFrame frame =>
      cases hstage : conn.stage <;> cases hdelegate : conn.delegate <;>
        simp only [Connection.handle, hstage, hdelegate, Option.some.injEq, reduceCtorEq] at hhandle
      rename_i d
      subst hhandle
      refine ⟨_, .clientFrame frame, (obeys_plain (d.calls_onRecvFrame frame (fun _ => Op.plain_of_routine) rfl rfl
        fun _ => rfl) hpassive).bind fun q' _ heq => .ret ?_⟩
      rw [heq]
      exact h
  | backendFrame frame =>
      cases hstage : conn.stage <;> cases hdelegate : conn.delegate <;>
        simp only [Connection.handle, hstage, hdelegate, Option.some.injEq, reduceCtorEq] at hhandle
      rename_i d
      subst hhandle
      have hkind := h.kind
      rw [hdelegate] at hkind
      refine ⟨_, .backendFrame frame, (obeys_onRecvFrame m frame (h.knows hstage d hdelegate) hkind
        (h.open hkind hstage) h.phase).bind fun q' d' hends => .ret ?_⟩
      refine ⟨hends.phase, h.sessionId.trans hends.sessionId.symm, h.tx.trans hends.tx.symm,
        hends.internal.trans hkind, fun _ => ?_, ?_, ?_⟩
      · rw [hends.closed, ← h.stage hkind, hstage]
      · rintro _ ⟨⟩
        exact hends.knows.2.2
      · rintro - _ ⟨⟩
        exact hends.knows

/-- Every handler of the gateway follows the conduct. -/
def guide (m : MessageMap) : Pool.Guide (system m) Server where
  moves := Moves
  stops := Rests
  fresh := fun _ conn => .new conn
  begins := Begins
  fresh_stops := fun _ _ _ _ h => rests_new h
  follows := fun _ _ _ _ h hhandle => handle_obeys h hhandle

end Server

/-! ### What the calls do to the registry -/

/-- The service and the instance of a backend. -/
def Identity.server (identity : Identity) : UInt8 × UInt32 := (identity.serviceId, identity.instanceId)

namespace Shared

variable {s s' : Shared} {op : Op} {answer : op.Answer}

/-- The session that holds an instance. -/
def holder (s : Shared) (server : UInt8 × UInt32) : Option UInt32 := s.registry.instances.get server

theorem Reordered.holder {t : Shared} (h : s.Reordered t) : t.holder = s.holder :=
  funext fun server => (h.instances server).symm

theorem Does.holder (h : s.Does op answer s') (hop : op.registers = false) : s'.holder = s.holder := by
  obtain ⟨t, hsame, hexec⟩ := h
  rw [← hsame.holder]
  have hs' := congrArg Prod.snd hexec
  subst hs'
  funext server
  cases op with
  | register | unregister => cases hop
  | updateLoad =>
      simp only [exec, Shared.holder, ServerRegistry.updateLoad]
      split
      · rfl
      · split_ifs <;> rfl
  | updateLatency =>
      simp only [exec, Shared.holder, ServerRegistry.updateLatency]
      split <;> rfl
  | _ => rfl

/-- What a registration finds and what it leaves. -/
theorem Does.register_holder {x : UInt32} {svc : UInt8} {i : UInt32} {tx : Tx} {result : RegisterResult}
    (h : s.Does (.register x svc i tx) result s') :
    (result = .registered → ∀ y, s.holder (svc, i) = some y → y = x) ∧
    (result = .alreadyRegistered → ∃ identity, s.backend x = some identity ∧ identity.server = (svc, i)) ∧
    ∀ server, s'.holder server = if result = .registered ∧ server = (svc, i) then some x else s.holder server := by
  obtain ⟨t, hsame, hexec⟩ := h
  rw [← hsame.holder, ← hsame.backend]
  have hs' : s'.registry = (t.registry.register x svc i tx).2 := (congrArg (fun r => r.2.registry) hexec).symm
  have hresult : (t.registry.register x svc i tx).1 = result := congrArg Prod.fst hexec
  rw [ServerRegistry.register] at hs' hresult
  cases hget : t.registry.conns.get x with
  | some conn =>
      rw [hget] at hs' hresult
      dsimp only at hs' hresult
      split_ifs at hs' hresult with hsame
      · subst hresult
        refine ⟨fun hnew => ?_, fun _ => ⟨conn.identity, by rw [Shared.backend, hget]; rfl, ?_⟩, fun server => ?_⟩
        · cases hnew
        · simpa [Identity.server, BackendConn.identity] using hsame
        · simp only [reduceCtorEq, false_and, if_false]
          exact congrArg (fun r => r.instances.get server) hs'
      · subst hresult
        refine ⟨fun hnew => ?_, fun hold => ?_, fun server => ?_⟩
        · cases hnew
        · cases hold
        · simp only [reduceCtorEq, false_and, if_false]
          exact congrArg (fun r => r.instances.get server) hs'
  | none =>
      rw [hget] at hs' hresult
      dsimp only at hs' hresult
      split_ifs at hs' hresult with hheld
      · subst hresult
        refine ⟨fun hnew => ?_, fun hold => ?_, fun server => ?_⟩
        · cases hnew
        · cases hold
        · simp only [reduceCtorEq, false_and, if_false]
          exact congrArg (fun r => r.instances.get server) hs'
      · subst hresult
        refine ⟨fun _ y hy => ?_, fun hold => ?_, fun server => ?_⟩
        · rw [Shared.holder] at hy
          simpa [hy] using hheld
        · cases hold
        · rw [Shared.holder, hs', Table.get_insert]
          by_cases hserver : server = (svc, i)
          · rw [if_pos hserver, if_pos ⟨rfl, hserver⟩]
          · rw [if_neg hserver, if_neg fun h => hserver h.2, Shared.holder]

theorem Does.unregister_holder {x : UInt32} {removed : Option (UInt8 × UInt32)}
    (h : s.Does (.unregister x) removed s') : removed = (s.backend x).map Identity.server ∧
      ∀ server, s'.holder server = if removed = some server then none else s.holder server := by
  obtain ⟨t, hsame, hexec⟩ := h
  rw [← hsame.holder, ← hsame.backend]
  have hs' : s'.registry = (t.registry.remove x).2 := (congrArg (fun r => r.2.registry) hexec).symm
  have hremoved : (t.registry.remove x).1 = removed := congrArg Prod.fst hexec
  rw [ServerRegistry.remove] at hs' hremoved
  cases hget : t.registry.conns.get x with
  | some conn =>
      rw [hget] at hs' hremoved
      dsimp only at hs' hremoved
      subst hremoved
      refine ⟨by rw [Shared.backend, hget]; rfl, fun server => ?_⟩
      rw [Shared.holder, hs', Table.get_remove]
      by_cases hserver : server = (conn.serviceId, conn.instanceId)
      · rw [if_pos hserver, if_pos (by rw [hserver])]
      · rw [if_neg hserver, if_neg fun h => hserver (Option.some.inj h).symm, Shared.holder]
  | none =>
      rw [hget] at hs' hremoved
      dsimp only at hs' hremoved
      subst hremoved
      refine ⟨by rw [Shared.backend, hget]; rfl, fun server => ?_⟩
      rw [if_neg (Option.some_ne_none server).symm, Shared.holder, hs', Shared.holder]

end Shared

/-! ### The census -/

namespace Server

/-- Who is registered: the internal connections that have registered and are not closed, each with its own
channel and as what it takes itself for. -/
structure Census (s : Shared) (qs : List Server) : Prop where
  counter : s.sessionCounter.toNat = if qs.length = 0 then 0 else qs.length + 1
  id : ∀ (k : Nat) q, qs[k]? = some q → q.sessionId.toNat = k + 1 ∧ q.tx = k
  backend : ∀ x identity, s.backend x = some identity → ∃ (k : Nat) (q : Server), qs[k]? = some q ∧
    q.internal = true ∧ q.closed = false ∧ q.sessionId = x ∧ identity.sessionId = x ∧ identity.tx = k ∧
      q.registered = some identity.server
  registered : ∀ q ∈ qs, q.internal = true → q.closed = false → ∀ server, q.registered = some server →
    ∃ identity, s.backend q.sessionId = some identity ∧ identity.server = server
  holder : ∀ x identity, s.backend x = some identity → s.holder identity.server = some x

namespace Census

variable {s s' : Shared} {qs : List Server} {q q' : Server} {k : Nat}

theorem init (rules : List RouteRule) : Census (.init rules) [] where
  counter := rfl
  id := nofun
  backend := nofun
  registered := nofun
  holder := nofun

theorem unique (h : Census s qs) {x y : UInt32} {i j : Identity} (hx : s.backend x = some i)
    (hy : s.backend y = some j) (hserver : i.server = j.server) : x = y := by
  have hxy := h.holder x i hx
  rw [hserver, h.holder y j hy] at hxy
  exact (Option.some.inj hxy).symm

theorem sessionId (h : Census s qs) (y : UInt32) (identity : Identity) (hy : s.backend y = some identity) :
    identity.sessionId = y := by
  obtain ⟨_, _, -, -, -, -, hid, -⟩ := h.backend y identity hy
  exact hid

theorem distinctChannels (h : Census s qs) : s.DistinctChannels := by
  intro x y i j hx hy htx
  obtain ⟨k, p, hk, -, -, rfl, -, hi, -⟩ := h.backend x i hx
  obtain ⟨k', p', hk', -, -, rfl, -, hj, -⟩ := h.backend y j hy
  obtain rfl : k = k' := hi.symm.trans (htx.trans hj)
  rw [Option.some.inj (hk.symm.trans hk')]

theorem index_eq (h : Census s qs) {j : Nat} {p : Server} (hk : qs[k]? = some q) (hj : qs[j]? = some p)
    (heq : q.sessionId = p.sessionId) : k = j := by
  have h₁ := (h.id k q hk).1
  have h₂ := (h.id j p hj).1
  rw [heq] at h₁
  omega

theorem update_connection (h : Census s qs) (hk : qs[k]? = some q) (hinternal : q'.internal = q.internal)
    (hid : q'.sessionId = q.sessionId) (htx : q'.tx = q.tx) (hregistered : q'.registered = q.registered)
    (hclosed : q'.closed = q.closed) (hcounter : s'.sessionCounter = s.sessionCounter)
    (hbackend : s'.backend = s.backend) (hholder : s'.holder = s.holder) : Census s' (qs.set k q') := by
  refine ⟨?_, fun j p hj => ?_, fun x identity hx => ?_, fun p hp hi hc server hserver => ?_, ?_⟩
  · rw [hcounter, List.length_set]
    exact h.counter
  · rw [Guide.get_set hk] at hj
    split_ifs at hj with hjk
    · obtain rfl := Option.some.inj hj
      rw [hid, htx, hjk]
      exact h.id k q hk
    · exact h.id j p hj
  · rw [hbackend] at hx
    obtain ⟨j, p, hj, hp⟩ := h.backend x identity hx
    by_cases hjk : j = k
    · rw [hjk, hk] at hj
      obtain rfl := Option.some.inj hj
      refine ⟨k, q', by rw [Guide.get_set hk, if_pos rfl], ?_⟩
      rw [hinternal, hid, hregistered, hclosed]
      exact hjk ▸ hp
    · exact ⟨j, p, by rw [Guide.get_set hk, if_neg hjk, hj], hp⟩
  · rw [hbackend]
    obtain ⟨j, hj⟩ := List.getElem?_of_mem hp
    rw [Guide.get_set hk] at hj
    split_ifs at hj with hjk
    · obtain rfl := Option.some.inj hj
      rw [hid]
      exact h.registered q (List.mem_of_getElem? hk) (hinternal ▸ hi) (hclosed ▸ hc) server (hregistered ▸ hserver)
    · exact h.registered p (List.mem_of_getElem? hj) hi hc server hserver
  · rw [hbackend, hholder]
    exact h.holder

theorem after_register (h : Census s qs) (hk : qs[k]? = some q) {serviceId instanceId : UInt32} {result : RegisterResult}
    (hinternal : q.internal = true) (hopen : q.closed = false)
    (hdoes : s.Does (.register q.sessionId serviceId.toUInt8 instanceId q.tx) result s') :
    Census s' (qs.set k (q.afterRegister serviceId instanceId result)) := by
  obtain ⟨hnone, hafter⟩ := hdoes.register
  obtain ⟨hfree, halready, hholder⟩ := hdoes.register_holder
  have haccepted : result.accepted = true → result = .registered ∨ result = .alreadyRegistered := by
    cases result <;> simp [RegisterResult.accepted]
  refine ⟨?_, fun j p hj => ?_, fun x identity hx => ?_, fun p hp hi hc server hserver => ?_, fun x identity hx => ?_⟩
  · rw [hdoes.sessionCounter, List.length_set]
    exact h.counter
  · rw [Guide.get_set hk] at hj
    split_ifs at hj with hjk
    · obtain rfl := Option.some.inj hj
      exact hjk ▸ h.id k q hk
    · exact h.id j p hj
  · rw [hafter] at hx
    split_ifs at hx with hnew
    · obtain rfl := Option.some.inj hx
      refine ⟨k, q.afterRegister serviceId instanceId result, by rw [Guide.get_set hk, if_pos rfl], hinternal, hopen,
        hnew.2.symm, hnew.2.symm, (h.id k q hk).2, ?_⟩
      rw [afterRegister, hnew.1]
      rfl
    · obtain ⟨j, p, hj, hpi, hpc, hpx, hix, hpt, hpr⟩ := h.backend x identity hx
      by_cases hjk : j = k
      · subst hjk
        obtain rfl := Option.some.inj (hk.symm.trans hj)
        refine ⟨j, q.afterRegister serviceId instanceId result, by rw [Guide.get_set hk, if_pos rfl], hinternal,
          hopen, hpx, hix, hpt, ?_⟩
        rw [afterRegister]
        dsimp only
        split_ifs with hacc
        · obtain ⟨old, hold, hserver⟩ := halready ((haccepted hacc).resolve_left fun h => hnew ⟨h, hpx.symm⟩)
          rw [hpx, hx] at hold
          rw [← hserver, Option.some.inj hold]
        · exact hpr
      · exact ⟨j, p, by rw [Guide.get_set hk, if_neg hjk, hj], hpi, hpc, hpx, hix, hpt, hpr⟩
  · obtain ⟨j, hj⟩ := List.getElem?_of_mem hp
    rw [Guide.get_set hk] at hj
    split_ifs at hj with hjk
    · obtain rfl := Option.some.inj hj
      change ∃ identity, s'.backend q.sessionId = some identity ∧ identity.server = server
      rw [hafter]
      rw [afterRegister] at hserver
      dsimp only at hserver
      split_ifs at hserver with hacc
      · obtain rfl := Option.some.inj hserver
        rcases haccepted hacc with hresult | hresult
        · exact ⟨_, if_pos ⟨hresult, rfl⟩, rfl⟩
        · obtain ⟨old, hold, holds⟩ := halready hresult
          exact ⟨old, by rw [if_neg (by rw [hresult]; exact fun h => nomatch h.1), hold], holds⟩
      · obtain ⟨old, hold, holds⟩ := h.registered q (List.mem_of_getElem? hk) hinternal hopen server hserver
        refine ⟨old, ?_, holds⟩
        rw [if_neg fun h => hacc (by rw [h.1]; rfl), hold]
    · obtain ⟨old, hold, holds⟩ := h.registered p (List.mem_of_getElem? hj) hi hc server hserver
      refine ⟨old, ?_, holds⟩
      rw [hafter, if_neg fun heq => hjk (h.index_eq hj hk heq.2), hold]
  · rw [hafter] at hx
    rw [hholder]
    split_ifs at hx with hnew
    · obtain rfl := Option.some.inj hx
      rw [if_pos ⟨hnew.1, rfl⟩, hnew.2]
    · have hold := h.holder x identity hx
      rw [if_neg ?_, hold]
      rintro ⟨hresult, hserver⟩
      rw [hserver] at hold
      rw [hfree hresult x hold, hnone hresult] at hx
      cases hx

theorem after_unregister (h : Census s qs) (hk : qs[k]? = some q) {removed : Option (UInt8 × UInt32)} {phase : ServerPhase}
    (hdoes : s.Does (.unregister q.sessionId) removed s') : Census s' (qs.set k { q with closed := true, phase }) := by
  have hafter := hdoes.unregister
  obtain ⟨hremoved, hholder⟩ := hdoes.unregister_holder
  refine ⟨?_, fun j p hj => ?_, fun x identity hx => ?_, fun p hp hi hc server hserver => ?_, fun x identity hx => ?_⟩
  · rw [hdoes.sessionCounter, List.length_set]
    exact h.counter
  · rw [Guide.get_set hk] at hj
    split_ifs at hj with hjk
    · obtain rfl := Option.some.inj hj
      exact hjk ▸ h.id k q hk
    · exact h.id j p hj
  · rw [hafter] at hx
    split_ifs at hx with hne
    obtain ⟨j, p, hj, hp⟩ := h.backend x identity hx
    refine ⟨j, p, ?_, hp⟩
    rw [Guide.get_set hk, if_neg ?_, hj]
    rintro rfl
    obtain rfl := Option.some.inj (hk.symm.trans hj)
    exact hne hp.2.2.1.symm
  · obtain ⟨j, hj⟩ := List.getElem?_of_mem hp
    rw [Guide.get_set hk] at hj
    split_ifs at hj with hjk
    · obtain rfl := Option.some.inj hj
      cases hc
    · obtain ⟨old, hold, holds⟩ := h.registered p (List.mem_of_getElem? hj) hi hc server hserver
      refine ⟨old, ?_, holds⟩
      rw [hafter, if_neg fun heq => hjk (h.index_eq hj hk heq), hold]
  · rw [hafter] at hx
    split_ifs at hx with hne
    rw [hholder, if_neg ?_]
    · exact h.holder x identity hx
    · rintro heq
      rw [hremoved, Option.map_eq_some_iff] at heq
      obtain ⟨other, hother, hserver⟩ := heq
      exact hne (h.unique hx hother hserver.symm)

theorem after_call (h : Census s qs) {op : Op} {answer : op.Answer} (hk : qs[k]? = some q)
    (hmoves : Moves q op answer q') (hdoes : s.Does op answer s') : Census s' (qs.set k q') := by
  cases hmoves with
  | plain hplain _ =>
      have hop : op.registers = false := by
        cases op <;> first | rfl | cases hplain
      exact h.update_connection hk rfl rfl rfl rfl rfl hdoes.sessionCounter (hdoes.backend hop) (hdoes.holder hop)
  | list | answer | announce | leave =>
      exact h.update_connection hk rfl rfl rfl rfl rfl hdoes.sessionCounter (hdoes.backend rfl) (hdoes.holder rfl)
  | register hinternal hopen _ => exact h.after_register hk hinternal hopen hdoes
  | unregister _ _ => exact h.after_unregister hk hdoes

theorem after_opens (h : Census s qs) {conn : Connection} (hlen : qs.length + 1 < 2 ^ 32 - 1)
    (hopens : Gateway.opens s qs.length conn s') : Census s' (qs ++ [.new conn]) := by
  obtain ⟨-, hconn, rfl⟩ := hopens
  obtain ⟨hfirst, hsecond⟩ := Members.createSessionId_toNat h.counter hlen
  have hid : (Server.new conn).sessionId.toNat = qs.length + 1 ∧ (Server.new conn).tx = qs.length := by
    rw [hconn]
    exact ⟨hfirst, rfl⟩
  refine ⟨?_, fun k q hk => ?_, fun x identity hx => ?_, fun q hq hi hc server hserver => ?_, h.holder⟩
  · rw [List.length_append, List.length_singleton, if_neg (Nat.succ_ne_zero _)]
    exact hsecond
  · rw [List.getElem?_append] at hk
    split_ifs at hk with hlt
    · exact h.id k q hk
    · obtain ⟨hzero, rfl⟩ := List.getElem?_eq_some_iff.1 hk
      rw [List.length_singleton] at hzero
      obtain rfl : k = qs.length := by omega
      simpa using hid
  · obtain ⟨k, q, hk, hq⟩ := h.backend x identity hx
    exact ⟨k, q, by rw [List.getElem?_append_left (List.getElem?_eq_some_iff.1 hk).1, hk], hq⟩
  · rcases List.mem_append.1 hq with hq | hq
    · exact h.registered q hq hi hc server hserver
    · rw [List.mem_singleton.1 hq] at hserver
      cases hserver

theorem after_environment (h : Census s qs) (hs : s.Untouched s') (hholder : s'.holder = s.holder) : Census s' qs := by
  refine ⟨by rw [hs.sessionCounter]; exact h.counter, h.id, ?_, ?_, ?_⟩ <;> rw [hs.backend]
  · exact h.backend
  · exact h.registered
  · rw [hholder]
    exact h.holder

end Census

theorem holder_of_environment {s s' : Shared} (h : Environment s s') : s'.holder = s.holder := by
  cases h <;> rfl

variable {m : MessageMap} {rules : List RouteRule}

theorem Census.step {s s' : Shared} {qs qs' : List Server} {e : Pool.Event signature Connection Input}
    (hstep : (guide m).Step (s, qs) e (s', qs')) (hlen : qs'.length < 2 ^ 32 - 1) (h : Census s qs) :
    Census s' qs' := by
  cases hstep with
  | opens hopens =>
      rw [List.length_append, List.length_singleton] at hlen
      exact h.after_opens hlen hopens
  | input hk _ _ hbegins =>
      cases hbegins <;> exact h.update_connection hk rfl rfl rfl rfl rfl rfl rfl rfl
  | call hk hmoves hdoes => exact h.after_call hk hmoves hdoes
  | environment henv => exact h.after_environment henv.untouched (holder_of_environment henv)

end Server

end AxmolFighter.Gateway
