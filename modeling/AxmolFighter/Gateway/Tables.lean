import AxmolFighter.Lib.Table
import AxmolFighter.Protocol.Message
import Mathlib.Data.List.Sort

/-!
# The gateway's shared tables

`session.rs`, `router.rs` and `server_registry.rs`: the tables that every connection's task reads and
writes, and the channels to the connections. A connection's channel is named by the number of the
connection; what was put on the channels is kept in the order of the sends.
-/

namespace AxmolFighter.Gateway

/-! ### Channels -/

/-- The sender of a connection's `unbounded_channel`. -/
abbrev Tx := Nat

inductive WriterMessage
  | toBackend (data : ToBackend)
  | toClient (data : ToClient)
  | close
deriving DecidableEq

/-- The channels: what was put on them, and those whose receiver is gone. -/
structure Channels where
  sent : List (Tx × WriterMessage)
  closed : List Tx
deriving DecidableEq

namespace Channels

def send (c : Channels) (tx : Tx) (message : WriterMessage) : Bool × Channels :=
  if tx ∈ c.closed then (false, c) else (true, { c with sent := c.sent ++ [(tx, message)] })

/-- The same message to each; failures are ignored. -/
def sendAll (c : Channels) (txs : List Tx) (message : WriterMessage) : Channels :=
  txs.foldl (fun c tx => (c.send tx message).2) c

end Channels

/-! ### Client sessions -/

structure ClientSession where
  tx : Tx
  authenticated : Bool
deriving DecidableEq

structure SessionManager where
  sessions : Table UInt32 ClientSession

namespace SessionManager

variable (m : SessionManager) (sessionId : UInt32)

def add (tx : Tx) : SessionManager :=
  { m with sessions := m.sessions.insert sessionId { tx, authenticated := false } }

/-- Whether the removed session was authenticated, and the rest. -/
def remove : Bool × SessionManager :=
  (((m.sessions.get sessionId).map (·.authenticated)).getD false,
    { m with sessions := m.sessions.remove sessionId })

/-- Whether this was the first authentication. -/
def authenticate : Bool × SessionManager :=
  match m.sessions.get sessionId with
  | none => (false, m)
  | some session =>
      if session.authenticated then (false, m)
      else (true,
        { m with sessions := m.sessions.insert sessionId { session with authenticated := true } })

def isAuthenticated : Bool := ((m.sessions.get sessionId).map (·.authenticated)).getD false

def sendToClient (c : Channels) (data : ToClient) : Bool × Channels :=
  match m.sessions.get sessionId with
  | some session => c.send session.tx (.toClient data)
  | none => (false, c)

def kick (c : Channels) : Channels :=
  match m.sessions.get sessionId with
  | some session => (c.send session.tx .close).2
  | none => c

def authenticatedSessions : List UInt32 :=
  (m.sessions.toList.filter (·.2.authenticated)).map (·.1)

end SessionManager

/-! ### Routes and bindings -/

structure RouteRule where
  min : UInt16
  max : UInt16
  serviceId : UInt8
  requireBinding : Bool
deriving DecidableEq

inductive RouteTarget
  | service (serviceId : UInt8)
  | boundService (serviceId : UInt8) (instanceId : UInt32)
  | serviceNotBound (serviceId : UInt8)
  | unknown
deriving DecidableEq

structure Router where
  rules : List RouteRule
  bindings : Table (UInt32 × UInt8) UInt32

namespace Router

variable (r : Router)

/-- The rule for a message: the first whose range contains it. -/
def rule (msgId : UInt16) : Option RouteRule :=
  r.rules.find? fun rule => rule.min ≤ msgId && msgId ≤ rule.max

def resolve (msgId : UInt16) (sessionId : UInt32) : RouteTarget :=
  match r.rule msgId with
  | none => .unknown
  | some rule =>
      if !rule.requireBinding then .service rule.serviceId
      else match r.bindings.get (sessionId, rule.serviceId) with
        | some instanceId => .boundService rule.serviceId instanceId
        | none => .serviceNotBound rule.serviceId

def bindService (sessionId : UInt32) (serviceId : UInt8) (instanceId : UInt32) : Router :=
  { r with bindings := r.bindings.insert (sessionId, serviceId) instanceId }

def unbindService (sessionId : UInt32) (serviceId : UInt8) : Option UInt32 × Router :=
  (r.bindings.get (sessionId, serviceId),
    { r with bindings := r.bindings.remove (sessionId, serviceId) })

/-- The sessions that were bound to the instance are returned, but no caller looks at them. -/
def unbindAllByInstance (serviceId : UInt8) (instanceId : UInt32) : Router :=
  { r with bindings := r.bindings.retain fun key bound =>
      !(key.2 == serviceId && bound == instanceId) }

def cleanupSession (sessionId : UInt32) : Router :=
  { r with bindings := r.bindings.retain fun key _ => key.1 != sessionId }

def bindingCount (serviceId : UInt8) (instanceId : UInt32) : Nat :=
  r.bindings.toList.countP fun entry => entry.1.2 == serviceId && entry.2 == instanceId

def serviceHasUnboundRoute (serviceId : UInt8) : Bool :=
  r.rules.any fun rule => rule.serviceId == serviceId && !rule.requireBinding

def boundInstance (sessionId : UInt32) (serviceId : UInt8) : Option UInt32 :=
  r.bindings.get (sessionId, serviceId)

end Router

/-! ### Registered backends -/

structure ServiceLoad where
  loadScore : UInt32 := 100
  acceptingBindings : Bool := false
  message : String := ""
deriving DecidableEq

structure BackendConn where
  serviceId : UInt8
  instanceId : UInt32
  sessionId : UInt32
  tx : Tx
  load : ServiceLoad
  latencyMs : Option UInt32
deriving DecidableEq

inductive RegisterResult
  | registered
  | alreadyRegistered
  | sessionAlreadyRegistered
  | instanceAlreadyRegistered
deriving DecidableEq

structure BindCandidate where
  instanceId : UInt32
  tx : Tx
deriving DecidableEq

structure ServerRegistry where
  conns : Table UInt32 BackendConn
  instances : Table (UInt8 × UInt32) UInt32

namespace ServerRegistry

variable (r : ServerRegistry)

def register (sessionId : UInt32) (serviceId : UInt8) (instanceId : UInt32) (tx : Tx) :
    RegisterResult × ServerRegistry :=
  match r.conns.get sessionId with
  | some conn =>
      if conn.serviceId == serviceId && conn.instanceId == instanceId then (.alreadyRegistered, r)
      else (.sessionAlreadyRegistered, r)
  | none =>
      if (r.instances.get (serviceId, instanceId)).any (· != sessionId) then
        (.instanceAlreadyRegistered, r)
      else (.registered, {
        instances := r.instances.insert (serviceId, instanceId) sessionId
        conns := r.conns.insert sessionId
          { serviceId, instanceId, sessionId, tx, load := {}, latencyMs := none } })

def remove (sessionId : UInt32) : Option (UInt8 × UInt32) × ServerRegistry :=
  match r.conns.get sessionId with
  | some conn => (some (conn.serviceId, conn.instanceId), {
      conns := r.conns.remove sessionId
      instances := r.instances.remove (conn.serviceId, conn.instanceId) })
  | none => (none, r)

def findByService (serviceId : UInt8) : Option Tx :=
  (r.conns.values.find? (·.serviceId == serviceId)).map (·.tx)

def findByInstance (serviceId : UInt8) (instanceId : UInt32) : Option Tx :=
  (r.conns.values.find? fun conn => conn.serviceId == serviceId && conn.instanceId == instanceId).map
    (·.tx)

/-- Whether the first candidate's key is at most the second's: score, bindings, instance. -/
def keyLe (c c' : UInt32 × Nat × UInt32 × Tx) : Bool :=
  c.1 < c'.1 || (c.1 == c'.1 && (c.2.1 < c'.2.1 || (c.2.1 == c'.2.1 && c.2.2.1 ≤ c'.2.2.1)))

def selectLowestLoadInstance (serviceId : UInt8) (bindingCount : UInt8 → UInt32 → Nat) :
    Option BindCandidate :=
  let candidates := ((r.conns.values.filter (·.serviceId == serviceId)).filter fun conn =>
    conn.load.acceptingBindings && conn.load.loadScore < 100).map fun conn =>
      (conn.load.loadScore, bindingCount conn.serviceId conn.instanceId, conn.instanceId, conn.tx)
  (candidates.insertionSort fun c c' => keyLe c c').head?.map fun c =>
    { instanceId := c.2.2.1, tx := c.2.2.2 }

/-- Whether the report was for the identity of the connection. -/
def updateLoad (sessionId : UInt32) (serviceId : UInt8) (instanceId : UInt32) (loadScore : UInt32)
    (acceptingBindings : Bool) (message : String) : Bool × ServerRegistry :=
  match r.conns.get sessionId with
  | none => (false, r)
  | some conn =>
      if conn.serviceId != serviceId || conn.instanceId != instanceId then (false, r)
      else (true, { r with conns := r.conns.insert sessionId { conn with
        load := { loadScore := min loadScore 100, acceptingBindings, message } } })

def updateLatency (sessionId latencyMs : UInt32) : Bool × ServerRegistry :=
  match r.conns.get sessionId with
  | none => (false, r)
  | some conn => (true, { r with conns := r.conns.insert sessionId { conn with
      latencyMs := some latencyMs } })

/-- The channels of a broadcast. -/
def txs : List Tx := r.conns.values.map (·.tx)

def txsExcept (excludeSessionId : UInt32) : List Tx :=
  (r.conns.values.filter (·.sessionId != excludeSessionId)).map (·.tx)

def listAll : List (UInt8 × UInt32) := r.conns.values.map fun conn => (conn.serviceId, conn.instanceId)

def listAllExcept (excludeSessionId : UInt32) : List (UInt8 × UInt32) :=
  (r.conns.values.filter (·.sessionId != excludeSessionId)).map fun conn =>
    (conn.serviceId, conn.instanceId)

def serviceStatuses : List (UInt8 × UInt32) := r.listAll

end ServerRegistry

/-! ### Heartbeats -/

structure PendingPing where
  nonce : UInt64
  sentAt : Nat
deriving DecidableEq

/-- The heartbeat of one internal connection; instants are milliseconds. -/
structure HeartbeatState where
  pending : Option PendingPing := none
deriving DecidableEq

namespace HeartbeatState

def markSent (nonce : UInt64) (sentAt : Nat) : HeartbeatState := { pending := some { nonce, sentAt } }

def acknowledge (h : HeartbeatState) (nonce : UInt64) (now : Nat) : Option UInt32 × HeartbeatState :=
  match h.pending with
  | none => (none, h)
  | some pending =>
      if pending.nonce != nonce then (none, h)
      else (some (UInt32.ofNat (min (now - pending.sentAt) (2 ^ 32 - 1))), { pending := none })

def timedOut (h : HeartbeatState) (now timeout : Nat) : Bool :=
  h.pending.any fun pending => decide (timeout ≤ now - pending.sentAt)

def hasPending (h : HeartbeatState) : Bool := h.pending.isSome

/-- `acknowledge` on the heartbeat of a connection. -/
def acknowledgeOf (heartbeats : Table UInt32 HeartbeatState) (sessionId : UInt32) (nonce : UInt64)
    (now : Nat) : Option UInt32 × Table UInt32 HeartbeatState :=
  match heartbeats.get sessionId with
  | none => (none, heartbeats)
  | some h => ((h.acknowledge nonce now).1, heartbeats.insert sessionId (h.acknowledge nonce now).2)

end HeartbeatState

end AxmolFighter.Gateway
