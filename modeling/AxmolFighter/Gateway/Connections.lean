import AxmolFighter.Gateway.Delegates

/-!
# Connections as threads

Every accepted connection is served by a task of its own (`net_session.rs`): it takes a session id from
the counter that both listeners share, starts its delegate, hands it one frame after the other, and
closes it when the connection ends for whatever reason. The tasks are the threads of a `ThreadSystem`;
a connection's number is the name of its channel.

The environment is everything else that touches the shared state: the clock, the timers behind the
authentication timeout and the heartbeat, and connections that go away and leave a channel without a
receiver.
-/

namespace AxmolFighter.Gateway

/-- `create_session_id`: the next id from the counter, but not zero, and the counter. -/
def createSessionId (counter : UInt32) : UInt32 × UInt32 :=
  if counter > 0 then (counter, counter + 1) else (counter + 1, counter + 2)

inductive Delegate
  | client (d : ClientDelegate)
  | internal (d : InternalDelegate)
deriving DecidableEq

def Delegate.isClient : Delegate → Bool
  | client _ => true
  | internal _ => false

inductive Stage
  | accepted
  | running
  | closed
deriving DecidableEq

/-- One run of `net_session::run`. -/
structure Connection where
  sessionId : UInt32
  tx : Tx
  stage : Stage
  delegate : Delegate
deriving DecidableEq

inductive Input
  | start
  | clientFrame (frame : ClientFrame)
  | backendFrame (frame : BackendFrame)
  | close
deriving DecidableEq

namespace Connection

variable (m : MessageMap) (conn : Connection)

def accept (sessionId : UInt32) (tx : Tx) (delegate : Delegate) : Connection :=
  { sessionId, tx, stage := .accepted, delegate }

def onSessionStart : GatewayM Connection :=
  match conn.delegate with
  | .client _ => do
      let d ← ClientDelegate.onSessionStart conn.sessionId conn.tx
      pure { conn with stage := .running, delegate := .client d }
  | .internal d => do
      let d ← d.onSessionStart conn.sessionId conn.tx
      pure { conn with stage := .running, delegate := .internal d }

def onSessionClose : GatewayM Connection :=
  match conn.delegate with
  | .client d => do
      d.onSessionClose
      pure { conn with stage := .closed }
  | .internal d => do
      d.onSessionClose
      pure { conn with stage := .closed }

/-- The handler of an input; a delegate gets frames only between its start and its close. -/
def handle : Input → Option (GatewayM Connection)
  | .start => if conn.stage = .accepted then some conn.onSessionStart else none
  | .clientFrame frame =>
      match conn.stage, conn.delegate with
      | .running, .client d => some do
          d.onRecvFrame m frame.body
          pure conn
      | _, _ => none
  | .backendFrame frame =>
      match conn.stage, conn.delegate with
      | .running, .internal d => some do
          let d ← d.onRecvFrame m frame.body
          pure { conn with delegate := .internal d }
      | _, _ => none
  | .close => if conn.stage = .running then some conn.onSessionClose else none

end Connection

/-- A new connection of either kind takes an id. -/
def opens (s : Shared) (k : Nat) (conn : Connection) (s' : Shared) : Prop :=
  (conn.delegate = .client {} ∨ conn.delegate = .internal {}) ∧
    conn = .accept (createSessionId s.sessionCounter).1 k conn.delegate ∧
    s' = { s with sessionCounter := (createSessionId s.sessionCounter).2 }

def heartbeatTimeout : Nat := 15000

inductive Environment (s : Shared) : Shared → Prop
  | tick (ms : Nat) : Environment s { s with clock := s.clock + ms }
  | hangUp (tx : Tx) : Environment s { s with channels := { s.channels with closed := tx :: s.channels.closed } }
  | authTimeout (sessionId : UInt32) (tx : Tx) (h : s.sessions.isAuthenticated sessionId = false) :
      Environment s { s with channels := (s.channels.send tx .close).2 }
  | heartbeatTimeout (sessionId : UInt32) (heartbeat : HeartbeatState) (tx : Tx)
      (h : s.heartbeats.get sessionId = some heartbeat)
      (htimeout : heartbeat.timedOut s.clock heartbeatTimeout = true) :
      Environment s { s with channels := (s.channels.send tx .close).2 }
  | markSent (sessionId : UInt32) (heartbeat : HeartbeatState) (nonce : UInt64)
      (h : s.heartbeats.get sessionId = some heartbeat) (hpending : heartbeat.hasPending = false) :
      Environment s { s with heartbeats := s.heartbeats.insert sessionId (.markSent nonce s.clock) }
  | ping (sessionId : UInt32) (heartbeat : HeartbeatState) (nonce : UInt64) (tx : Tx)
      (h : s.heartbeats.get sessionId = some heartbeat) :
      Environment s { s with
        channels := (s.channels.send tx (.toBackend (.control (.serverPingReq nonce) 0 0))).2 }

/-- The gateway: its connections over the shared state. -/
def system (m : MessageMap) : ThreadSystem signature Shared Connection Input where
  does := Shared.Does
  handle := Connection.handle m
  opens := opens
  environment := Environment

/-- What an input makes of a connection and the shared state, when its handler runs alone. -/
inductive Connection.Takes (m : MessageMap) (s : Shared) (conn : Connection) : Input → Connection → Shared → Prop
  | startClient {d : ClientDelegate} {s' : Shared} (hdelegate : conn.delegate = .client d)
      (hdoes : s.Does (.addSession conn.sessionId conn.tx) () s') : Takes m s conn .start
        { conn with stage := .running, delegate := .client { sessionId := conn.sessionId, tx := some conn.tx } } s'
  | startInternal {d : InternalDelegate} {s' : Shared} (hdelegate : conn.delegate = .internal d)
      (hdoes : s.Does (.startHeartbeat conn.sessionId) () s') : Takes m s conn .start
        { conn with
          stage := .running
          delegate := .internal { d with sessionId := conn.sessionId, tx := some conn.tx } } s'
  | clientFrame {d : ClientDelegate} {frame : ClientFrame} {s' : Shared} (hstage : conn.stage = .running)
      (hdelegate : conn.delegate = .client d) (hruns : (d.onRecvFrame m frame.body).Runs Shared.Does s () s') :
      Takes m s conn (.clientFrame frame) conn s'
  | backendFrame {d d' : InternalDelegate} {frame : BackendFrame} {s' : Shared} (hstage : conn.stage = .running)
      (hdelegate : conn.delegate = .internal d) (hruns : (d.onRecvFrame m frame.body).Runs Shared.Does s d' s') :
      Takes m s conn (.backendFrame frame) { conn with delegate := .internal d' } s'
  | closeClient {d : ClientDelegate} {s' : Shared} (hdelegate : conn.delegate = .client d)
      (hruns : d.onSessionClose.Runs Shared.Does s () s') :
      Takes m s conn .close { conn with stage := .closed } s'
  | closeInternal {d : InternalDelegate} {s' : Shared} (hdelegate : conn.delegate = .internal d)
      (hruns : d.onSessionClose.Runs Shared.Does s () s') :
      Takes m s conn .close { conn with stage := .closed } s'

theorem Connection.takes_of_runs {m : MessageMap} {s s' : Shared} {conn conn' : Connection} {e : Input}
    {p : GatewayM Connection} (hhandle : conn.handle m e = some p) (hruns : p.Runs Shared.Does s conn' s') :
    Takes m s conn e conn' s' := by
  cases e with
  | start =>
      simp only [Connection.handle, Option.ite_none_right_eq_some, Option.some.injEq] at hhandle
      obtain ⟨-, rfl⟩ := hhandle
      rw [Connection.onSessionStart] at hruns
      split at hruns
      · rename_i hdelegate
        obtain ⟨d, s₁, hstart, hret⟩ := Program.runs_bind.1 hruns
        obtain ⟨_, s₂, hadd, hstart⟩ := Program.runs_bind.1 hstart
        obtain ⟨rfl, rfl⟩ := Program.runs_ret.1 hstart
        obtain ⟨rfl, rfl⟩ := Program.runs_ret.1 hret
        exact .startClient hdelegate (Program.runs_perform.1 hadd)
      · rename_i hdelegate
        obtain ⟨d, s₁, hstart, hret⟩ := Program.runs_bind.1 hruns
        obtain ⟨_, s₂, hbeat, hstart⟩ := Program.runs_bind.1 hstart
        obtain ⟨rfl, rfl⟩ := Program.runs_ret.1 hstart
        obtain ⟨rfl, rfl⟩ := Program.runs_ret.1 hret
        exact .startInternal hdelegate (Program.runs_perform.1 hbeat)
  | close =>
      simp only [Connection.handle, Option.ite_none_right_eq_some, Option.some.injEq] at hhandle
      obtain ⟨-, rfl⟩ := hhandle
      rw [Connection.onSessionClose] at hruns
      split at hruns
      · rename_i hdelegate
        obtain ⟨_, s₁, hclose, hret⟩ := Program.runs_bind.1 hruns
        obtain ⟨rfl, rfl⟩ := Program.runs_ret.1 hret
        exact .closeClient hdelegate hclose
      · rename_i hdelegate
        obtain ⟨_, s₁, hclose, hret⟩ := Program.runs_bind.1 hruns
        obtain ⟨rfl, rfl⟩ := Program.runs_ret.1 hret
        exact .closeInternal hdelegate hclose
  | clientFrame frame =>
      cases hstage : conn.stage <;> cases hdelegate : conn.delegate <;>
        simp only [Connection.handle, hstage, hdelegate, Option.some.injEq, reduceCtorEq] at hhandle
      subst hhandle
      obtain ⟨_, s₁, hframe, hret⟩ := Program.runs_bind.1 hruns
      obtain ⟨rfl, rfl⟩ := Program.runs_ret.1 hret
      exact .clientFrame hstage hdelegate hframe
  | backendFrame frame =>
      cases hstage : conn.stage <;> cases hdelegate : conn.delegate <;>
        simp only [Connection.handle, hstage, hdelegate, Option.some.injEq, reduceCtorEq] at hhandle
      subst hhandle
      obtain ⟨d', s₁, hframe, hret⟩ := Program.runs_bind.1 hruns
      obtain ⟨rfl, rfl⟩ := Program.runs_ret.1 hret
      rw [← hstage]
      exact .backendFrame hstage hdelegate hframe

/-- The gateway's operations and new connections, computed. -/
def executor (m : MessageMap) : Pool.Executor (system m) where
  exec := Shared.exec
  opened := fun s k conn =>
    if (conn.delegate = .client {} ∨ conn.delegate = .internal {}) ∧
        conn = .accept (createSessionId s.sessionCounter).1 k conn.delegate then
      some { s with sessionCounter := (createSessionId s.sessionCounter).2 }
    else none
  does_exec := Shared.does_exec
  opens_opened := by
    intro s k conn s' h
    simp only [Option.ite_none_right_eq_some, Option.some.injEq] at h
    exact ⟨h.1.1, h.1.2, h.2.symm⟩

/-- The gateway before the first connection. -/
def initial (rules : List RouteRule) : Pool signature Shared Connection := ⟨.init rules, []⟩

theorem step_call {m : MessageMap} (pool : Pool signature Shared Connection) (k : Nat) (op : Op)
    (next : op.Answer → GatewayM Connection) (h : pool.threads[k]? = some (.call op next)) :
    Pool.Step (system m) pool (.call k ⟨op, (pool.shared.exec op).1⟩)
      ⟨(pool.shared.exec op).2, pool.threads.set k (next (pool.shared.exec op).1)⟩ :=
  .call h (Shared.does_exec _ _)

/-! ### A small gateway

One backend and one client, for concrete runs. -/

namespace Sample

/-- The two messages that the peers send; nothing here reads what the gateway encodes. -/
def messages : MessageMap where
  encode := fun _ => (0, [])
  decode := fun msgId _ =>
    if msgId = serverStatusReqId then .ok .serverStatusReq
    else if msgId = 100 then .ok (.serverRegReq
      { serviceId := 1, instanceId := 7, loadScore := 0, acceptingBindings := true, loadMessage := "" })
    else .error "unknown message"

def rules : List RouteRule := [{ min := 100, max := 200, serviceId := 1, requireBinding := false }]

def register : BackendFrame :=
  { cmd := backendCmdControl, msgId := 100, serial := -1, sessionId := 0, payload := [] }

def statusRequest : ClientFrame :=
  { cmd := cmdGatewayMessage, msgId := serverStatusReqId, serial := -1, payload := [] }

def business : ClientFrame := { cmd := cmdBusiness, msgId := 150, serial := -2, payload := [1] }

/-- A backend registers, a client asks for the status. -/
def turns : List (Pool.Event signature Connection Input) :=
  [.opens (.accept 1 0 (.internal {})), .input 0 .start, .input 0 (.backendFrame register),
    .opens (.accept 2 1 (.client {})), .input 1 .start, .input 1 (.clientFrame statusRequest)]

/-- The turns, with the states before them, and the last state. -/
def played (m : MessageMap) (events : List (Pool.Event signature Connection Input)) :=
  Run.record (executor m).turn (Shared.init rules, []) events

theorem played_run {m : MessageMap} {events : List (Pool.Event signature Connection Input)}
    (h : (played m events).isSome = true) : Run (Pool.Turn (system m)) (Shared.init rules, [])
      ((played m events).get h).1 ((played m events).get h).2 :=
  Run.of_record (executor m).turn_sound (Option.some_get h).symm

/-- After the turns: the backend is registered, and the client authenticated. -/
def ready : Shared × List Connection := ((played messages turns).get rfl).2

end Sample

end AxmolFighter.Gateway
