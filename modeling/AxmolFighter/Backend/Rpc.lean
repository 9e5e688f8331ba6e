import AxmolFighter.Lib.Table
import AxmolFighter.Protocol.Message

/-!
# Requests to other servers
-/

namespace AxmolFighter.Backend

/-- A server as a source or a target; a negative instance is any one of the service. -/
structure ServerSource where
  serviceId : UInt32
  instanceId : Int32
deriving DecidableEq

def ServerSource.anyInstance (serviceId : UInt32) : ServerSource := ⟨serviceId, -1⟩

def serviceIdGame : UInt32 := 0

def serviceIdBattle : UInt32 := 1

def serviceIdTown : UInt32 := 2

inductive RpcError
  | send (message : String)
  | cancelled
  | timeout
  | gateway (code : UInt32) (message : String)
  | decode (msgId : UInt16) (message : String)
deriving DecidableEq

/-- The request came to its end without an answer. -/
def RpcError.unanswered : RpcError → Bool
  | .send _ | .cancelled | .timeout => true
  | .gateway _ _ | .decode _ _ => false

/-! ### Requests that wait -/

/-- What a request that waits is completed with. -/
inductive PendingResponse
  | message (msg : Message)
  | gatewayError (code : UInt32) (message : String)
  | decodeError (msgId : UInt16) (message : String)
deriving DecidableEq

/-- What the caller gets for it. -/
def PendingResponse.result : PendingResponse → Except RpcError Message
  | .message msg => .ok msg
  | .gatewayError code text => .error (.gateway code text)
  | .decodeError msgId text => .error (.decode msgId text)

def decodeResponse (m : MessageMap) (msgId : UInt16) (payload : Bytes) : PendingResponse :=
  match m.decode msgId payload with
  | .ok (.gatewayErrorResp code message) => .gatewayError code message
  | .ok msg => .message msg
  | .error err => .decodeError msgId err

/-- The senders of the requests that wait, by name, and the id that was given out last. -/
structure RpcManager where
  pendingRequests : Table Int32 Nat := ∅
  serialSeed : Int32 := 1
deriving DecidableEq

namespace RpcManager

variable (rpc : RpcManager)

/-- The loop ends with the exchange that succeeds. -/
def nextRequestId : Int32 × RpcManager :=
  let current := rpc.serialSeed
  let next := if current = Int32.maxValue then 1 else current + 1
  (next, { rpc with serialSeed := next })

def insertPending (requestId : Int32) (tx : Nat) : RpcManager :=
  { rpc with pendingRequests := rpc.pendingRequests.insert requestId tx }

def removePending (requestId : Int32) : RpcManager :=
  { rpc with pendingRequests := rpc.pendingRequests.remove requestId }

/-- Whose request the serial completes, with what, and what is left. -/
def resolvePendingResponse (m : MessageMap) (serial : Int32) (msgId : UInt16) (payload : Bytes) :
    Option (Nat × PendingResponse) × RpcManager :=
  if serial ≤ 0 then (none, rpc)
  else
    match rpc.pendingRequests.get serial with
    | some tx => (some (tx, decodeResponse m msgId payload), rpc.removePending serial)
    | none => (none, rpc)

def clearPending : RpcManager := { rpc with pendingRequests := ∅ }

end RpcManager

end AxmolFighter.Backend
