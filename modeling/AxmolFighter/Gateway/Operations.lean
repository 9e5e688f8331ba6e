import AxmolFighter.Gateway.Tables
import AxmolFighter.Lib.Threads

/-!
# The operations on the shared state

What a connection's task does to the shared state happens in single calls: a method of one of the
tables, or a send on a channel. `exec` computes a call. The iteration order of a `DashMap` is
arbitrary, so `Does` lets every call see the tables in any order.
-/

namespace AxmolFighter.Gateway

/-- What all connections share: the `GatewayContext` (less its configuration), the channels, the
heartbeats of the internal connections, the clock, and the counter of `create_session_id`. -/
structure Shared where
  sessions : SessionManager
  registry : ServerRegistry
  router : Router
  channels : Channels
  heartbeats : Table UInt32 HeartbeatState
  clock : Nat
  sessionCounter : UInt32

namespace Shared

def init (rules : List RouteRule) : Shared where
  sessions := ⟨∅⟩
  registry := ⟨∅, ∅⟩
  router := ⟨rules, ∅⟩
  channels := ⟨[], []⟩
  heartbeats := ∅
  clock := 0
  sessionCounter := 0

end Shared

inductive Op
  | addSession (sessionId : UInt32) (tx : Tx)
  | removeSession (sessionId : UInt32)
  | authenticate (sessionId : UInt32)
  | isAuthenticated (sessionId : UInt32)
  | sendToClient (sessionId : UInt32) (data : ToClient)
  | kick (sessionId : UInt32)
  | authenticatedSessions
  | resolve (msgId : UInt16) (sessionId : UInt32)
  | bindService (sessionId : UInt32) (serviceId : UInt8) (instanceId : UInt32)
  | unbindService (sessionId : UInt32) (serviceId : UInt8)
  | unbindAllByInstance (serviceId : UInt8) (instanceId : UInt32)
  | cleanupSession (sessionId : UInt32)
  | serviceHasUnboundRoute (serviceId : UInt8)
  | boundInstance (sessionId : UInt32) (serviceId : UInt8)
  | register (sessionId : UInt32) (serviceId : UInt8) (instanceId : UInt32) (tx : Tx)
  | unregister (sessionId : UInt32)
  | findByService (serviceId : UInt8)
  | findByInstance (serviceId : UInt8) (instanceId : UInt32)
  | selectLowestLoadInstance (serviceId : UInt8)
  | updateLoad (sessionId : UInt32) (serviceId : UInt8) (instanceId : UInt32) (loadScore : UInt32)
      (acceptingBindings : Bool) (message : String)
  | updateLatency (sessionId latencyMs : UInt32)
  | broadcast (data : ToBackend)
  | broadcastExcept (excludeSessionId : UInt32) (data : ToBackend)
  | listAllExcept (excludeSessionId : UInt32)
  | serviceStatuses
  | send (tx : Tx) (message : WriterMessage)
  | startHeartbeat (sessionId : UInt32)
  | acknowledge (sessionId : UInt32) (nonce : UInt64)

@[reducible] def Op.Answer : Op → Type
  | addSession .. | kick .. | bindService .. | unbindAllByInstance .. | cleanupSession ..
  | broadcast .. | broadcastExcept .. | startHeartbeat .. => Unit
  | removeSession .. | authenticate .. | isAuthenticated .. | sendToClient ..
  | serviceHasUnboundRoute .. | updateLoad .. | updateLatency .. | send .. => Bool
  | authenticatedSessions => List UInt32
  | resolve .. => RouteTarget
  | unbindService .. | boundInstance .. | acknowledge .. => Option UInt32
  | register .. => RegisterResult
  | unregister .. => Option (UInt8 × UInt32)
  | findByService .. | findByInstance .. => Option Tx
  | selectLowestLoadInstance .. => Option BindCandidate
  | listAllExcept .. | serviceStatuses => List (UInt8 × UInt32)

theorem Op.answer_nonempty (op : Op) : Nonempty op.Answer := by
  cases op <;> first
    | exact ⟨()⟩
    | exact ⟨false⟩
    | exact ⟨[]⟩
    | exact ⟨none⟩
    | exact ⟨.unknown⟩
    | exact ⟨.registered⟩

@[reducible] def signature : Signature := ⟨Op, Op.Answer⟩

abbrev GatewayM := Program signature

abbrev perform (op : Op) : GatewayM op.Answer := Program.perform (S := signature) op

theorem calls_perform {P : Op → Prop} {op : Op} (h : P op) : (perform op).Calls P :=
  Program.Calls.perform h

namespace Shared

def exec (s : Shared) : (op : Op) → op.Answer × Shared
  | .addSession sessionId tx => ((), { s with sessions := s.sessions.add sessionId tx })
  | .removeSession sessionId =>
      ((s.sessions.remove sessionId).1, { s with sessions := (s.sessions.remove sessionId).2 })
  | .authenticate sessionId =>
      ((s.sessions.authenticate sessionId).1, { s with sessions := (s.sessions.authenticate sessionId).2 })
  | .isAuthenticated sessionId => (s.sessions.isAuthenticated sessionId, s)
  | .sendToClient sessionId data => ((s.sessions.sendToClient sessionId s.channels data).1,
      { s with channels := (s.sessions.sendToClient sessionId s.channels data).2 })
  | .kick sessionId => ((), { s with channels := s.sessions.kick sessionId s.channels })
  | .authenticatedSessions => (s.sessions.authenticatedSessions, s)
  | .resolve msgId sessionId => (s.router.resolve msgId sessionId, s)
  | .bindService sessionId serviceId instanceId =>
      ((), { s with router := s.router.bindService sessionId serviceId instanceId })
  | .unbindService sessionId serviceId => ((s.router.unbindService sessionId serviceId).1,
      { s with router := (s.router.unbindService sessionId serviceId).2 })
  | .unbindAllByInstance serviceId instanceId =>
      ((), { s with router := s.router.unbindAllByInstance serviceId instanceId })
  | .cleanupSession sessionId => ((), { s with router := s.router.cleanupSession sessionId })
  | .serviceHasUnboundRoute serviceId => (s.router.serviceHasUnboundRoute serviceId, s)
  | .boundInstance sessionId serviceId => (s.router.boundInstance sessionId serviceId, s)
  | .register sessionId serviceId instanceId tx =>
      ((s.registry.register sessionId serviceId instanceId tx).1,
        { s with registry := (s.registry.register sessionId serviceId instanceId tx).2 })
  | .unregister sessionId =>
      ((s.registry.remove sessionId).1, { s with registry := (s.registry.remove sessionId).2 })
  | .findByService serviceId => (s.registry.findByService serviceId, s)
  | .findByInstance serviceId instanceId => (s.registry.findByInstance serviceId instanceId, s)
  | .selectLowestLoadInstance serviceId =>
      (s.registry.selectLowestLoadInstance serviceId s.router.bindingCount, s)
  | .updateLoad sessionId serviceId instanceId loadScore acceptingBindings message =>
      ((s.registry.updateLoad sessionId serviceId instanceId loadScore acceptingBindings message).1,
        { s with registry :=
            (s.registry.updateLoad sessionId serviceId instanceId loadScore acceptingBindings message).2 })
  | .updateLatency sessionId latencyMs => ((s.registry.updateLatency sessionId latencyMs).1,
      { s with registry := (s.registry.updateLatency sessionId latencyMs).2 })
  | .broadcast data =>
      ((), { s with channels := s.channels.sendAll s.registry.txs (.toBackend data) })
  | .broadcastExcept excludeSessionId data => ((), { s with
      channels := s.channels.sendAll (s.registry.txsExcept excludeSessionId) (.toBackend data) })
  | .listAllExcept excludeSessionId => (s.registry.listAllExcept excludeSessionId, s)
  | .serviceStatuses => (s.registry.serviceStatuses, s)
  | .send tx message =>
      ((s.channels.send tx message).1, { s with channels := (s.channels.send tx message).2 })
  | .startHeartbeat sessionId => ((), { s with heartbeats := s.heartbeats.insert sessionId {} })
  | .acknowledge sessionId nonce => ((HeartbeatState.acknowledgeOf s.heartbeats sessionId nonce s.clock).1,
      { s with heartbeats := (HeartbeatState.acknowledgeOf s.heartbeats sessionId nonce s.clock).2 })

/-- The same state, its tables in another order. -/
structure Reordered (s t : Shared) : Prop where
  sessions : s.sessions.sessions.Same t.sessions.sessions
  conns : s.registry.conns.Same t.registry.conns
  instances : s.registry.instances.Same t.registry.instances
  bindings : s.router.bindings.Same t.router.bindings
  heartbeats : s.heartbeats.Same t.heartbeats
  rules : t.router.rules = s.router.rules
  channels : t.channels = s.channels
  clock : t.clock = s.clock
  sessionCounter : t.sessionCounter = s.sessionCounter

theorem Reordered.refl (s : Shared) : s.Reordered s :=
  ⟨.refl _, .refl _, .refl _, .refl _, .refl _, rfl, rfl, rfl, rfl⟩

/-- A call sees the tables in any order. -/
def Does (s : Shared) (op : Op) (answer : op.Answer) (s' : Shared) : Prop :=
  ∃ t, s.Reordered t ∧ t.exec op = (answer, s')

theorem does_exec (s : Shared) (op : Op) : s.Does op (s.exec op).1 (s.exec op).2 :=
  ⟨s, .refl s, rfl⟩

end Shared

end AxmolFighter.Gateway
