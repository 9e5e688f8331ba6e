import AxmolFighter.Battle.BackendClient
import AxmolFighter.Lib.Run

/-!
# The callbacks of the battle server's requests

`framework/RpcManager.cpp` and the part of `framework/BackendClient.cpp` that issues requests: whoever asks
the gateway or another server passes a callback, which waits in a table for a response, for its time to run
out, or for the end of the connection.

The client runs on one thread, but a callback may issue further requests while others that were taken out of
the table with it have not been called yet. What the client still has to do is therefore a list of its own
(`todo`), and a request may come between any two of its tasks.
-/

namespace AxmolFighter.Battle.Rpc

/-- What `makeRpcCallback` makes of a callback: who passed it, if anyone did, and the response it expects. -/
structure RpcCallback where
  caller : Option Nat
  responseId : UInt16
deriving DecidableEq

/-- What a callback is called with. -/
inductive RpcResult
  | response (frame : BackendFrame)
  | error (message : String)
deriving DecidableEq

/-- `parsePayload` at the types of responses. -/
structure RpcParser where
  response : UInt16 → Bytes → Bool
  gatewayErrorResp : Bytes → Option (UInt32 × String)
  commonErrorResp : Bytes → Option String

def gatewayErrorRespId : UInt16 := 3

def commonErrorRespId : UInt16 := 901

variable (parser : RpcParser) (m : MessageMap)

namespace RpcCallback

variable (callback : RpcCallback)

/-- The message about a response with an unexpected id. -/
def unexpected (frame : BackendFrame) : String :=
  let message := "unexpected rpc response msg_id=" ++ toString frame.msgId.toNat
  if frame.msgId = gatewayErrorRespId then
    match parser.gatewayErrorResp frame.payload with
    | some (code, text) => "gateway error " ++ toString code.toNat ++ ": " ++ text
    | none => message
  else if frame.msgId = commonErrorRespId then (parser.commonErrorResp frame.payload).getD message
  else message

def result (frame : Option BackendFrame) (error : String) : RpcResult :=
  match frame with
  | none => .error error
  | some frame =>
      if frame.msgId ≠ callback.responseId then .error (unexpected parser frame)
      else if parser.response callback.responseId frame.payload then .response frame
      else .error "decode rpc response failed"

end RpcCallback

structure PendingRequest where
  callback : RpcCallback
  timeout : Float32

structure RpcManager where
  nextRequestId : Int32 := 1
  pending : Table Int32 PendingRequest := ∅

namespace RpcManager

variable (rpc : RpcManager)

/-- `nextRequestId`: the id, and the one after it. -/
def takeRequestId : Int32 × RpcManager :=
  let next := rpc.nextRequestId + 1
  (rpc.nextRequestId, { rpc with nextRequestId := if next ≤ 0 then 1 else next })

def addPending (requestId : Int32) (callback : RpcCallback) (timeoutSeconds : Float32) : RpcManager :=
  { rpc with pending := rpc.pending.insert requestId { callback, timeout := timeoutSeconds } }

/-- The callback that the frame is for, which then leaves the table. -/
def resolve (frame : BackendFrame) : Option (RpcCallback × RpcManager) :=
  if frame.serial ≤ 0 then none
  else (rpc.pending.get frame.serial).map fun request =>
    (request.callback, { rpc with pending := rpc.pending.remove frame.serial })

def remove (requestId : Int32) : RpcManager := { rpc with pending := rpc.pending.remove requestId }

/-- The callbacks whose time has run out, in the order of the table. -/
def update (dt : Float32) : List RpcCallback × RpcManager :=
  let aged := rpc.pending.mapValues fun request => { request with timeout := request.timeout - dt }
  ((aged.values.filter fun request => request.timeout ≤ 0).map PendingRequest.callback,
    { rpc with pending := aged.retain fun _ request => !decide (request.timeout ≤ 0) })

def failAll : List RpcCallback × RpcManager :=
  (rpc.pending.values.map PendingRequest.callback, { rpc with pending := ∅ })

end RpcManager

/-! ### The client -/

/-- What the client still has to do before it waits for the next event. -/
inductive Task
  | invoke (callback : RpcCallback) (frame : Option BackendFrame) (error : String)
  | failAll (error : String)
  | connectionFailure
  | closeTransport
  /-- `stop()`, or the handling of a lost connection, returns. -/
  | returned

/-- Who passed the callback that the task calls. -/
def Task.caller : Task → Option Nat
  | .invoke callback _ _ => callback.caller
  | .failAll _ | .connectionFailure | .closeTransport | .returned => none

/-- `requests` counts the calls of `requestGateway` and `requestServer`; `callers` are those that passed a
callback, and `invoked` what their callbacks were called with. -/
structure Client where
  rpc : RpcManager := {}
  registered : Bool := false
  transport : Bool := false
  running : Bool := false
  todo : List Task := []
  requests : Nat := 0
  callers : List Nat := []
  invoked : List (Nat × RpcResult) := []

/-- A call of `requestGateway` or `requestServer`: what it is given, and whether the message, for a server the
message that carries it, and the write succeed. -/
structure Request where
  toServer : Bool
  hasCallback : Bool
  responseId : UInt16
  timeoutSeconds : Float32
  serialized : Bool
  forwarded : Bool
  written : Bool

/-- What the call passes on, when it is the `n`th. -/
def Request.callback (r : Request) (n : Nat) : RpcCallback :=
  { caller := if r.hasCallback then some n else none, responseId := r.responseId }

/-- The order in which a hash table is gone through is not specified. -/
inductive Event
  | start
  | opened (ok : Bool)
  | packet (frame : BackendFrame)
  | closed
  | timer (dt : Float32) (order : List RpcCallback)
  | request (r : Request)
  | stop
  | work (order : List RpcCallback)

namespace Client

variable (s : Client)

/-- A callback is called, if there is one. -/
def call (callback : RpcCallback) (result : RpcResult) : Client :=
  match callback.caller with
  | some n => { s with invoked := s.invoked ++ [(n, result)] }
  | none => s

/-- `sendFrame`, after `sendServerPayload` for a server. -/
def sends (r : Request) : Bool := (!r.toServer || r.forwarded) && s.transport && r.written

/-- `requestFrame` and `requestServerPayload`. -/
def request (r : Request) : Client :=
  let callback := r.callback s.requests
  let s := { s with
    requests := s.requests + 1
    callers := if r.hasCallback then s.callers ++ [s.requests] else s.callers }
  if !r.serialized then s.call callback (.error "serialize request failed")
  else
    let (requestId, rpc) := s.rpc.takeRequestId
    let rpc := rpc.addPending requestId callback r.timeoutSeconds
    { s with rpc := if s.sends r then rpc else rpc.remove requestId }

/-- The frame that `resolve` is asked about: that of the gateway, or the one inside it. -/
def asked (frame : BackendFrame) : Option BackendFrame :=
  if frame.serial > 0 ∧ (s.rpc.resolve frame).isSome ∧
      (frame.cmd = backendCmdControl ∨ frame.cmd = backendCmdBusiness) then some frame
  else if frame.cmd = backendCmdControl ∧ frame.msgId = forwardToServerReqId then
    match parsePayload m forwardToServerReqId frame.payload with
    | some (.forwardToServerReq req) =>
        match decodeBackendFrame (chars req.payload) with
        | .ok inner => if inner.serial > 0 then some inner else none
        | .error _ => none
    | _ => none
  else none

/-- What is of interest here in `onGatewayFrame`. -/
def onGatewayFrame (frame : BackendFrame) : Client :=
  match s.asked m frame with
  | none => s
  | some asked =>
      match s.rpc.resolve asked with
      | none => s
      | some (callback, rpc) => { s with rpc, todo := [.invoke callback (some asked) ""] }

def handleConnectionFailure : Client := { s with todo := [.connectionFailure, .returned] }

/-- `ServerRegResp.MsgId`. -/
def serverRegRespId : UInt16 := 101

def processFrame (frame : BackendFrame) : Client :=
  if !s.registered then
    if frame.cmd ≠ backendCmdControl ∨ frame.msgId ≠ serverRegRespId then s
    else
      match parsePayload m serverRegRespId frame.payload with
      | some (.serverRegResp code _) =>
          if code ≠ 0 then { s with transport := false }.handleConnectionFailure
          else { s with registered := true }
      | _ => { s with transport := false }.handleConnectionFailure
  else s.onGatewayFrame m frame

/-- The next task; `order` is that in which the table is emptied. -/
def work (order : List RpcCallback) : Option Client :=
  match s.todo with
  | [] => none
  | .invoke callback frame error :: rest =>
      some ({ s with todo := rest }.call callback (callback.result parser frame error))
  | .failAll error :: rest =>
      if order.isPerm s.rpc.failAll.1 then
        some { s with rpc := s.rpc.failAll.2, todo := order.map (.invoke · none error) ++ rest }
      else none
  | .connectionFailure :: rest =>
      some (if s.running then { s with running := false, todo := .failAll "gateway disconnected" :: rest }
        else { s with todo := rest })
  | .closeTransport :: rest => some { s with transport := false, registered := false, todo := rest }
  | .returned :: rest => some { s with todo := rest }

/-- The events of the network and the timer come when there is nothing left to do and the client is running;
requests and `stop()` come at any time. -/
def next : Event → Option Client
  | .start => if s.todo.isEmpty then some { s with running := true } else none
  | .opened ok =>
      if s.todo.isEmpty && s.running then
        some (if ok then { s with transport := true }
          else { s with transport := false, registered := false }.handleConnectionFailure)
      else none
  | .packet frame => if s.todo.isEmpty && s.running then some (s.processFrame m frame) else none
  | .closed =>
      if s.todo.isEmpty && s.running then
        some { s with
          transport := false
          registered := false
          todo := [.failAll "gateway disconnected", .connectionFailure, .returned] }
      else none
  | .timer dt order =>
      if s.todo.isEmpty && s.running && order.isPerm (s.rpc.update dt).1 then
        some { s with rpc := (s.rpc.update dt).2, todo := order.map (.invoke · none "request timeout") }
      else none
  | .request r => some (s.request r)
  | .stop =>
      some (if s.running then { s with
          running := false
          todo := .failAll "backend session stopped" :: .closeTransport :: .returned :: s.todo }
        else { s with todo := .returned :: s.todo })
  | .work order => s.work parser order

/-- The transition of a run. -/
def Step (s : Client) (e : Event) (s' : Client) : Prop := s.next parser m e = some s'

/-! ### The frames that complete a request -/

section

variable {s m} {frame : BackendFrame}

theorem isSome_resolve {client : BackendClient}
    (h : ∀ id, client.pending.contains id = s.rpc.pending.contains id) (frame : BackendFrame) :
    (s.rpc.resolve frame).isSome = client.resolves frame := by
  unfold RpcManager.resolve BackendClient.resolves
  split_ifs
  · rfl
  · rw [h, Option.isSome_map, Table.contains]

theorem routeForwardToServer_iff (client : BackendClient) (id : Int32) (req : ForwardToServerReq) :
    client.routeForwardToServer req = .completeRpc id ↔
      ∃ asked, (match decodeBackendFrame (chars req.payload) with
        | .ok inner => if inner.serial > 0 then some inner else none
        | .error _ => none) = some asked ∧ client.resolves asked = true ∧ asked.serial = id := by
  unfold BackendClient.routeForwardToServer BackendClient.processServerFrame
  rcases decodeBackendFrame (chars req.payload) with e | inner
  · simp
  · simp only
    split_ifs with hserial hresolves hzero
    · simp [hresolves]
    · simp [hresolves]
    · simp
    · simp

theorem completeRpc_iff {client : BackendClient}
    (h : ∀ id, client.pending.contains id = s.rpc.pending.contains id) (id : Int32) :
    client.onGatewayFrame m frame = .completeRpc id ↔
      ∃ asked, s.asked m frame = some asked ∧ (s.rpc.resolve asked).isSome = true ∧ asked.serial = id := by
  have hresolve := isSome_resolve h
  unfold BackendClient.onGatewayFrame asked
  simp only [hresolve]
  by_cases hown : frame.serial > 0 ∧ client.resolves frame = true
  · by_cases hcontrol : frame.cmd = backendCmdControl
    · simp [hcontrol, BackendClient.handleControlFrame, hown]
    · by_cases hbusiness : frame.cmd = backendCmdBusiness
      · simp [hbusiness, BackendClient.handleBusinessFrame, hown, show backendCmdBusiness ≠ backendCmdControl by decide]
      · simp [hcontrol, hbusiness]
  · have hnot : ¬ (frame.serial > 0 ∧ client.resolves frame = true ∧
        (frame.cmd = backendCmdControl ∨ frame.cmd = backendCmdBusiness)) := fun h => hown ⟨h.1, h.2.1⟩
    rw [if_neg hnot]
    by_cases hcontrol : frame.cmd = backendCmdControl
    · rw [if_pos hcontrol, BackendClient.handleControlFrame, if_neg hown]
      by_cases hforward : frame.msgId = forwardToServerReqId
      · rw [if_neg (by rw [hforward]; decide), if_neg (by rw [hforward]; decide), if_pos hforward,
          if_pos ⟨hcontrol, hforward⟩]
        rcases parsePayload m forwardToServerReqId frame.payload with _ | message
        · simp
        · cases message
          case forwardToServerReq req => exact routeForwardToServer_iff client id req
          all_goals simp
      · have hnotForward : ¬ (frame.cmd = backendCmdControl ∧ frame.msgId = forwardToServerReqId) :=
          fun h => hforward h.2
        simp only [if_neg hnotForward, if_neg hforward, reduceCtorEq, false_and, exists_false, iff_false]
        split_ifs <;> (try split) <;> simp
    · have hnotForward : ¬ (frame.cmd = backendCmdControl ∧ frame.msgId = forwardToServerReqId) :=
        fun h => hcontrol h.1
      rw [if_neg hcontrol, if_neg hnotForward]
      simp only [reduceCtorEq, false_and, exists_false, iff_false]
      by_cases hbusiness : frame.cmd = backendCmdBusiness
      · rw [if_pos hbusiness, BackendClient.handleBusinessFrame, if_neg hown]
        unfold BackendClient.processClientFrame
        split_ifs <;> simp
      · rw [if_neg hbusiness]
        simp

end

/-! ### When a callback is called exactly once -/

variable (n : Nat)

/-- The callback that caller `n` passed waits in the table. -/
def waiting : Nat := s.rpc.pending.count fun request => decide (request.callback.caller = some n)

/-- The callback has been taken out of the table and is still to be called. -/
def queued (todo : List Task) : Nat := todo.countP fun task => decide (task.caller = some n)

/-- How often the callback has been called. -/
def calls : Nat := s.invoked.countP fun call => decide (call.1 = n)

/-- The table will be emptied before `stop()`, or the handling of a lost connection, returns: by what is still
to do, or by what a client that runs has yet to come to. -/
def sweeps (running : Bool) : List Task → Bool
  | [] => running
  | .failAll _ :: _ => true
  | .connectionFailure :: rest => running || sweeps running rest
  | .returned :: _ => false
  | .invoke _ _ _ :: rest | .closeTransport :: rest => sweeps running rest

/-- No request with a callback fails to be sent, takes the id of one that waits, or comes after the table was
emptied for the last time, and `stop()` is not called by a callback while others are still to be called. -/
def Safe : Event → Prop
  | .request r => r.serialized = true →
      (∀ old, s.rpc.pending.get s.rpc.nextRequestId = some old → old.callback.caller = none) ∧
      (r.hasCallback = true → s.sends r = true ∧ sweeps s.running s.todo = true)
  | .stop => (∀ task ∈ s.todo, task.caller = none) ∧ (s.running = true ∨ ∀ n, s.waiting n = 0)
  | _ => True

/-! ### Where the callbacks are -/

/-- What is known of the callback of caller `n`. -/
def owed : Nat := s.waiting n + queued n s.todo + s.calls n

section

variable (callback : RpcCallback) (result : RpcResult)

@[simp] theorem call_rpc : (s.call callback result).rpc = s.rpc := by
  unfold call; split <;> rfl

@[simp] theorem call_todo : (s.call callback result).todo = s.todo := by
  unfold call; split <;> rfl

@[simp] theorem call_running : (s.call callback result).running = s.running := by
  unfold call; split <;> rfl

@[simp] theorem call_requests : (s.call callback result).requests = s.requests := by
  unfold call; split <;> rfl

@[simp] theorem call_callers : (s.call callback result).callers = s.callers := by
  unfold call; split <;> rfl

theorem call_calls : (s.call callback result).calls n =
    s.calls n + if callback.caller = some n then 1 else 0 := by
  unfold call
  split
  · next caller hcaller => simp [calls, hcaller, List.countP_append, List.countP_cons]
  · next hcaller => simp [calls, hcaller]

end

@[simp] theorem queued_nil : queued n [] = 0 := rfl

@[simp] theorem queued_invoke (callback : RpcCallback) (frame : Option BackendFrame) (error : String)
    (todo : List Task) : queued n (.invoke callback frame error :: todo) =
      queued n todo + if callback.caller = some n then 1 else 0 := by
  rw [queued, List.countP_cons]
  by_cases hcaller : callback.caller = some n
  · simp [queued, Task.caller, hcaller]
  · simp [queued, Task.caller, hcaller]

@[simp] theorem queued_failAll (error : String) (todo : List Task) :
    queued n (.failAll error :: todo) = queued n todo := rfl

@[simp] theorem queued_connectionFailure (todo : List Task) :
    queued n (.connectionFailure :: todo) = queued n todo := rfl

@[simp] theorem queued_closeTransport (todo : List Task) :
    queued n (.closeTransport :: todo) = queued n todo := rfl

@[simp] theorem queued_returned (todo : List Task) : queued n (.returned :: todo) = queued n todo := rfl

theorem queued_eq_zero {todo : List Task} (h : ∀ task ∈ todo, task.caller = none) : queued n todo = 0 := by
  refine List.countP_eq_zero.2 fun task htask => ?_
  simp [h task htask]

theorem queued_order {order taken : List RpcCallback} (h : order.isPerm taken = true) (error : String)
    (todo : List Task) : queued n (order.map (.invoke · none error) ++ todo) =
      taken.countP (fun callback => decide (callback.caller = some n)) + queued n todo := by
  rw [queued, List.countP_append, List.countP_map, (List.isPerm_iff.1 h).countP_eq]
  rfl

theorem waiting_eq (pending : Table Int32 PendingRequest) :
    pending.count (fun request => decide (request.callback.caller = some n)) =
      (pending.values.map PendingRequest.callback).countP fun callback => decide (callback.caller = some n) := by
  rw [Table.count, List.countP_map]
  rfl

variable {s} {parser m} {s' : Client}

theorem owed_work {order : List RpcCallback} (h : s.work parser order = some s') :
    s'.owed n = s.owed n ∧ s'.requests = s.requests ∧ s'.callers = s.callers := by
  unfold work at h
  split at h
  · cases h
  · next callback frame error rest htodo =>
      obtain rfl := Option.some.inj h
      refine ⟨?_, call_requests _ _ _, call_callers _ _ _⟩
      simp only [owed, waiting, call_rpc, call_todo, call_calls, htodo, queued_invoke]
      simp only [calls]
      omega
  · next error rest htodo =>
      split_ifs at h with hperm
      obtain rfl := Option.some.inj h
      refine ⟨?_, rfl, rfl⟩
      have horder := queued_order n hperm error rest
      rw [RpcManager.failAll, ← waiting_eq] at horder
      simp [owed, waiting, calls, htodo, horder, RpcManager.failAll]
  · next rest htodo =>
      obtain rfl := Option.some.inj h
      split_ifs
      · simp [owed, waiting, calls, htodo]
      · simp [owed, waiting, calls, htodo]
  · next rest htodo =>
      obtain rfl := Option.some.inj h
      simp [owed, waiting, calls, htodo]
  · next rest htodo =>
      obtain rfl := Option.some.inj h
      simp [owed, waiting, calls, htodo]

theorem caller_callback (r : Request) (k : Nat) :
    (r.callback k).caller = some n ↔ r.hasCallback = true ∧ n = k := by
  unfold Request.callback
  split_ifs with hcallback <;> simp [hcallback, eq_comm]

theorem request_error {r : Request} (h : r.serialized = false) : s.request r =
    { s with
      requests := s.requests + 1
      callers := if r.hasCallback then s.callers ++ [s.requests] else s.callers }.call
        (r.callback s.requests) (.error "serialize request failed") := by
  simp [request, h]

/-- The table after a request that has been serialised. -/
def asking (r : Request) : RpcManager :=
  let rpc := s.rpc.takeRequestId.2.addPending s.rpc.nextRequestId (r.callback s.requests) r.timeoutSeconds
  if s.sends r then rpc else rpc.remove s.rpc.nextRequestId

theorem request_ok {r : Request} (h : r.serialized = true) : s.request r =
    { s with
      rpc := s.asking r
      requests := s.requests + 1
      callers := if r.hasCallback then s.callers ++ [s.requests] else s.callers } := by
  simp only [request, h, Bool.not_true, Bool.false_eq_true, if_false]
  rfl

theorem asking_count (r : Request) :
    (s.asking r).pending.count (fun request => decide (request.callback.caller = some n)) =
      (s.rpc.pending.remove s.rpc.nextRequestId).count
          (fun request => decide (request.callback.caller = some n)) +
        if s.sends r = true ∧ r.hasCallback = true ∧ n = s.requests then 1 else 0 := by
  unfold asking
  rcases hsends : s.sends r with _ | _
  · simp [RpcManager.remove, RpcManager.addPending, RpcManager.takeRequestId, Table.count_remove_insert]
  · simp [RpcManager.addPending, RpcManager.takeRequestId, Table.count_insert, caller_callback]

theorem owed_request_error {r : Request} (h : r.serialized = false) : (s.request r).owed n =
    s.owed n + if r.hasCallback = true ∧ n = s.requests then 1 else 0 := by
  rw [request_error h]
  simp only [owed, waiting, call_rpc, call_todo, call_calls, caller_callback]
  simp only [calls]
  omega

theorem owed_request_le (r : Request) : (s.request r).owed n ≤
    s.owed n + if r.hasCallback = true ∧ n = s.requests then 1 else 0 := by
  rcases hserialized : r.serialized with _ | _
  · exact (owed_request_error n hserialized).le
  · have hcount := asking_count (s := s) n r
    have hle := s.rpc.pending.count_remove_le s.rpc.nextRequestId
      fun request => decide (request.callback.caller = some n)
    rw [request_ok hserialized]
    simp only [owed, waiting, calls, hcount]
    split_ifs with hsent hcallback hcallback
    · omega
    · exact absurd hsent.2 hcallback
    · omega
    · omega

theorem owed_request {r : Request} (hsafe : s.Safe (.request r)) : (s.request r).owed n =
    s.owed n + if r.hasCallback = true ∧ n = s.requests then 1 else 0 := by
  rcases hserialized : r.serialized with _ | _
  · exact owed_request_error n hserialized
  · obtain ⟨hold, hsends⟩ := hsafe hserialized
    have hremove : (s.rpc.pending.remove s.rpc.nextRequestId).count
        (fun request => decide (request.callback.caller = some n)) = s.waiting n := by
      rcases hget : s.rpc.pending.get s.rpc.nextRequestId with _ | old
      · exact Table.count_remove_of_none _ _ _ hget
      · rw [waiting, Table.count_eq_remove _ _ _ hget]
        simp [hold old hget]
    have hcount := asking_count (s := s) n r
    rw [hremove] at hcount
    rw [request_ok hserialized]
    simp only [owed, waiting, calls] at hcount ⊢
    rw [hcount]
    by_cases hcallback : r.hasCallback = true
    · simp only [(hsends hcallback).1, hcallback, true_and]
      omega
    · simp [hcallback]

theorem update_count (rpc : RpcManager) (dt : Float32) :
    (rpc.update dt).2.pending.count (fun request => decide (request.callback.caller = some n)) +
      (rpc.update dt).1.countP (fun callback => decide (callback.caller = some n)) =
        rpc.pending.count fun request => decide (request.callback.caller = some n) := by
  unfold RpcManager.update
  rw [List.countP_map]
  refine (Table.count_retain_add _ _ _).trans (Table.count_mapValues _ _ _ fun request => rfl)

/-- What `resolve` takes out of the table. -/
theorem resolve_count {rpc rpc' : RpcManager} {frame : BackendFrame} {callback : RpcCallback}
    (h : rpc.resolve frame = some (callback, rpc')) :
    rpc.pending.count (fun request => decide (request.callback.caller = some n)) =
      rpc'.pending.count (fun request => decide (request.callback.caller = some n)) +
        if callback.caller = some n then 1 else 0 := by
  unfold RpcManager.resolve at h
  split_ifs at h with hserial
  obtain ⟨request, hget, heq⟩ := Option.map_eq_some_iff.1 h
  obtain ⟨rfl, rfl⟩ := Prod.mk.inj heq
  rw [Table.count_eq_remove _ _ _ hget]
  simp

/-- What the client does with a frame: nothing to its requests, or it stops, or it takes out one callback. -/
theorem processFrame_cases (s : Client) (frame : BackendFrame) :
    ∃ registered transport rpc todo,
      s.processFrame m frame = { s with registered, transport, rpc, todo } ∧
        ((rpc = s.rpc ∧ (todo = s.todo ∨ todo = [.connectionFailure, .returned])) ∨
          ∃ asked callback, s.rpc.resolve asked = some (callback, rpc) ∧
            todo = [.invoke callback (some asked) ""]) := by
  unfold processFrame onGatewayFrame handleConnectionFailure
  split_ifs with hregistered hmsgId
  · exact ⟨_, _, _, _, rfl, .inl ⟨rfl, .inl rfl⟩⟩
  · split
    · split_ifs with hcode
      · exact ⟨_, _, _, _, rfl, .inl ⟨rfl, .inr rfl⟩⟩
      · exact ⟨_, _, _, _, rfl, .inl ⟨rfl, .inl rfl⟩⟩
    · exact ⟨_, _, _, _, rfl, .inl ⟨rfl, .inr rfl⟩⟩
  · split
    · exact ⟨_, _, _, _, rfl, .inl ⟨rfl, .inl rfl⟩⟩
    · next asked hasked =>
        split
        · exact ⟨_, _, _, _, rfl, .inl ⟨rfl, .inl rfl⟩⟩
        · next callback rpc hresolve => exact ⟨_, _, _, _, rfl, .inr ⟨asked, callback, hresolve, rfl⟩⟩

theorem owed_next {e : Event} (h : s.next parser m e = some s') (he : ∀ r, e ≠ .request r) :
    s'.owed n = s.owed n ∧ s'.requests = s.requests ∧ s'.callers = s.callers := by
  cases e with
  | start =>
      rw [next, Option.ite_none_right_eq_some] at h
      obtain rfl := Option.some.inj h.2
      exact ⟨rfl, rfl, rfl⟩
  | opened ok =>
      rw [next, Option.ite_none_right_eq_some, Bool.and_eq_true, List.isEmpty_iff] at h
      obtain ⟨⟨htodo, -⟩, heq⟩ := h
      obtain rfl := Option.some.inj heq
      split_ifs
      · exact ⟨rfl, rfl, rfl⟩
      · refine ⟨?_, rfl, rfl⟩
        simp [owed, waiting, calls, handleConnectionFailure, htodo]
  | packet frame =>
      rw [next, Option.ite_none_right_eq_some, Bool.and_eq_true, List.isEmpty_iff] at h
      obtain ⟨⟨htodo, -⟩, heq⟩ := h
      obtain rfl := Option.some.inj heq
      obtain ⟨_, _, rpc, todo, hframe, hcases⟩ := processFrame_cases (m := m) s frame
      rw [hframe]
      refine ⟨?_, rfl, rfl⟩
      rcases hcases with ⟨rfl, rfl | rfl⟩ | ⟨asked, callback, hresolve, rfl⟩
      · rfl
      · simp [owed, waiting, calls, htodo]
      · have hcount := resolve_count n hresolve
        simp only [owed, waiting, calls, htodo, queued_invoke, queued_nil, hcount]
        omega
  | closed =>
      rw [next, Option.ite_none_right_eq_some, Bool.and_eq_true, List.isEmpty_iff] at h
      obtain ⟨⟨htodo, -⟩, heq⟩ := h
      obtain rfl := Option.some.inj heq
      refine ⟨?_, rfl, rfl⟩
      simp [owed, waiting, calls, htodo]
  | timer dt order =>
      rw [next, Option.ite_none_right_eq_some, Bool.and_eq_true, Bool.and_eq_true, List.isEmpty_iff] at h
      obtain ⟨⟨⟨htodo, -⟩, hperm⟩, heq⟩ := h
      obtain rfl := Option.some.inj heq
      refine ⟨?_, rfl, rfl⟩
      have horder := queued_order n hperm "request timeout" []
      have hcount := update_count n s.rpc dt
      rw [List.append_nil] at horder
      simp only [owed, waiting, calls, htodo, horder, queued_nil]
      omega
  | request r => exact absurd rfl (he r)
  | stop =>
      obtain rfl := Option.some.inj h
      split_ifs
      · refine ⟨?_, rfl, rfl⟩
        simp [owed, waiting, calls]
      · refine ⟨?_, rfl, rfl⟩
        simp [owed, waiting, calls]
  | work order =>
      exact owed_work n h

theorem call_request (r : Request) :
    (s.request r).requests = s.requests + 1 ∧
      (s.request r).callers = (if r.hasCallback then s.callers ++ [s.requests] else s.callers) ∧
      (s.request r).running = s.running ∧ (s.request r).todo = s.todo := by
  rcases hserialized : r.serialized with _ | _
  · rw [request_error hserialized]
    simp
  · rw [request_ok hserialized]
    simp

/-! ### At most once -/

/-- No callback is known twice, and none of a request still to come. -/
structure Once (s : Client) : Prop where
  fresh : ∀ n, s.requests ≤ n → s.owed n = 0
  once : ∀ n, s.owed n ≤ 1
  callers_lt : ∀ n ∈ s.callers, n < s.requests

theorem Once.next {e : Event} (h : Once s) (hnext : s.next parser m e = some s') : Once s' := by
  by_cases he : ∀ r, e ≠ .request r
  · obtain ⟨howed, hrequests, hcallers⟩ : (∀ n, s'.owed n = s.owed n) ∧ _ :=
      ⟨fun n => (owed_next n hnext he).1, (owed_next 0 hnext he).2⟩
    constructor
    · intro n hn
      rw [howed, h.fresh n (hrequests ▸ hn)]
    · intro n
      rw [howed]
      exact h.once n
    · intro n hn
      rw [hrequests]
      exact h.callers_lt n (hcallers ▸ hn)
  · obtain ⟨r, rfl⟩ := not_forall_not.1 he
    obtain rfl := Option.some.inj hnext
    obtain ⟨hrequests, hcallers, -, -⟩ := call_request (s := s) r
    constructor
    · intro n hn
      have hle := owed_request_le (s := s) n r
      have hfresh := h.fresh n (by omega)
      rw [if_neg (by omega)] at hle
      omega
    · intro n
      have hle := owed_request_le (s := s) n r
      have honce := h.once n
      have hfresh := h.fresh n
      split_ifs at hle with hnew
      · rw [hnew.2, h.fresh _ le_rfl] at hle
        rw [hnew.2]
        exact hle
      · omega
    · intro n hn
      rw [hcallers] at hn
      rw [hrequests]
      split_ifs at hn
      · rcases List.mem_append.1 hn with hn | hn
        · exact Nat.lt_succ_of_lt (h.callers_lt n hn)
        · rw [List.mem_singleton.1 hn]
          exact Nat.lt_succ_self _
      · exact Nat.lt_succ_of_lt (h.callers_lt n hn)

/-! ### Exactly once -/

/-- After every return that is still to come, there is no callback to be called. -/
def Clear : List Task → Prop
  | [] => True
  | .returned :: rest => (∀ task ∈ rest, task.caller = none) ∧ Clear rest
  | .invoke _ _ _ :: rest | .failAll _ :: rest | .connectionFailure :: rest | .closeTransport :: rest => Clear rest

/-- No callback is lost, and none waits for a table that will not be emptied. -/
structure Kept (s : Client) : Prop where
  kept : ∀ n ∈ s.callers, s.owed n = 1
  swept : sweeps s.running s.todo = false → ∀ n, s.waiting n = 0
  clear : Clear s.todo

theorem sweeps_order (running : Bool) (order : List RpcCallback) (error : String) (todo : List Task) :
    sweeps running (order.map (.invoke · none error) ++ todo) = sweeps running todo := by
  induction order with
  | nil => rfl
  | cons callback order ih => exact ih

theorem clear_order (order : List RpcCallback) (error : String) (todo : List Task) :
    Clear (order.map (.invoke · none error) ++ todo) ↔ Clear todo := by
  induction order with
  | nil => rfl
  | cons callback order ih => exact ih

theorem Kept.work {order : List RpcCallback} (h : Kept s) (hwork : s.work parser order = some s') : Kept s' := by
  obtain ⟨howed, hrequests, hcallers⟩ : (∀ n, s'.owed n = s.owed n) ∧ _ :=
    ⟨fun n => (owed_work n hwork).1, (owed_work 0 hwork).2⟩
  have hkept : ∀ n ∈ s'.callers, s'.owed n = 1 := by
    intro n hn
    rw [howed]
    exact h.kept n (hcallers ▸ hn)
  have hswept := h.swept
  have hclear := h.clear
  unfold Client.work at hwork
  split at hwork
  · cases hwork
  · next callback frame error rest htodo =>
      obtain rfl := Option.some.inj hwork
      rw [htodo] at hswept hclear
      refine ⟨hkept, ?_, ?_⟩
      · rw [call_todo, call_running]
        simp only [waiting, call_rpc]
        exact hswept
      · rw [call_todo]
        exact hclear
  · next error rest htodo =>
      split_ifs at hwork with hperm
      obtain rfl := Option.some.inj hwork
      rw [htodo] at hclear
      exact ⟨hkept, fun _ n => rfl, (clear_order _ _ _).2 hclear⟩
  · next rest htodo =>
      obtain rfl := Option.some.inj hwork
      rw [htodo] at hswept hclear
      split_ifs at hkept ⊢ with hrunning
      · refine ⟨hkept, ?_, hclear⟩
        intro hsweeps
        cases hsweeps
      · refine ⟨hkept, ?_, hclear⟩
        intro hsweeps
        refine hswept ?_
        rw [sweeps, Bool.eq_false_iff.2 hrunning]
        simpa [hrunning] using hsweeps
  · next rest htodo =>
      obtain rfl := Option.some.inj hwork
      rw [htodo] at hswept hclear
      exact ⟨hkept, hswept, hclear⟩
  · next rest htodo =>
      obtain rfl := Option.some.inj hwork
      rw [htodo] at hswept hclear
      exact ⟨hkept, fun _ => hswept rfl, hclear.2⟩

theorem Kept.of_sweeps (hkept : ∀ n ∈ s.callers, s.owed n = 1) (hsweeps : sweeps s.running s.todo = true)
    (hclear : Clear s.todo) : Kept s := by
  refine ⟨hkept, ?_, hclear⟩
  intro hnot
  rw [hsweeps] at hnot
  cases hnot

theorem Kept.request {r : Request} (honce : Once s) (h : Kept s) (hsafe : s.Safe (.request r)) :
    Kept (s.request r) := by
  obtain ⟨hrequests, hcallers, hrunning, htodo⟩ := call_request (s := s) r
  constructor
  · intro n hn
    rw [owed_request n hsafe]
    rw [hcallers] at hn
    split_ifs at hn with hcallback
    · rcases List.mem_append.1 hn with hn | hn
      · have hlt := honce.callers_lt n hn
        rw [h.kept n hn, if_neg (by omega)]
      · obtain rfl := List.mem_singleton.1 hn
        rw [honce.fresh _ le_rfl, if_pos ⟨hcallback, rfl⟩]
    · rw [h.kept n hn, if_neg (by simp [hcallback])]
  · rw [hrunning, htodo]
    intro hsweeps n
    have hwaiting := h.swept hsweeps n
    rcases hserialized : r.serialized with _ | _
    · rw [request_error hserialized]
      simpa [waiting] using hwaiting
    · have hcallback : r.hasCallback ≠ true := by
        intro hcallback
        have hsweeps' := ((hsafe hserialized).2 hcallback).2
        rw [hsweeps] at hsweeps'
        cases hsweeps'
      have hcount := asking_count (s := s) n r
      have hle := s.rpc.pending.count_remove_le s.rpc.nextRequestId
        fun request => decide (request.callback.caller = some n)
      rw [waiting] at hwaiting
      rw [request_ok hserialized, waiting, hcount, if_neg (by simp [hcallback])]
      omega
  · rw [htodo]
    exact h.clear

theorem Kept.next {e : Event} (honce : Once s) (h : Kept s) (hsafe : s.Safe e)
    (hnext : s.next parser m e = some s') : Kept s' := by
  by_cases he : ∀ r, e ≠ .request r
  · have hkept : ∀ n ∈ s'.callers, s'.owed n = 1 := by
      intro n hn
      obtain ⟨howed, -, hcallers⟩ := owed_next n hnext he
      rw [howed]
      exact h.kept n (hcallers ▸ hn)
    cases e with
    | start =>
        rw [Client.next, Option.ite_none_right_eq_some, List.isEmpty_iff] at hnext
        obtain ⟨htodo, heq⟩ := hnext
        obtain rfl := Option.some.inj heq
        refine Kept.of_sweeps hkept ?_ ?_
        · simp [htodo, sweeps]
        · simp [htodo, Clear]
    | opened ok =>
        rw [Client.next, Option.ite_none_right_eq_some, Bool.and_eq_true, List.isEmpty_iff] at hnext
        obtain ⟨⟨htodo, hrunning⟩, heq⟩ := hnext
        obtain rfl := Option.some.inj heq
        split_ifs at hkept ⊢
        · refine Kept.of_sweeps hkept ?_ ?_
          · simp [htodo, hrunning, sweeps]
          · simp [htodo, Clear]
        · refine Kept.of_sweeps hkept ?_ ?_
          · simp [hrunning, handleConnectionFailure, sweeps]
          · simp [handleConnectionFailure, Clear]
    | packet frame =>
        rw [Client.next, Option.ite_none_right_eq_some, Bool.and_eq_true, List.isEmpty_iff] at hnext
        obtain ⟨⟨htodo, hrunning⟩, heq⟩ := hnext
        obtain rfl := Option.some.inj heq
        obtain ⟨_, _, rpc, todo, hframe, hcases⟩ := processFrame_cases (m := m) s frame
        rw [hframe] at hkept ⊢
        rcases hcases with ⟨-, rfl | rfl⟩ | ⟨asked, callback, -, rfl⟩
        · refine Kept.of_sweeps hkept ?_ ?_
          · simp [htodo, hrunning, sweeps]
          · simp [htodo, Clear]
        · refine Kept.of_sweeps hkept ?_ ?_
          · simp [hrunning, sweeps]
          · simp [Clear]
        · refine Kept.of_sweeps hkept ?_ ?_
          · simp [hrunning, sweeps]
          · simp [Clear]
    | closed =>
        rw [Client.next, Option.ite_none_right_eq_some, Bool.and_eq_true, List.isEmpty_iff] at hnext
        obtain ⟨⟨htodo, hrunning⟩, heq⟩ := hnext
        obtain rfl := Option.some.inj heq
        refine Kept.of_sweeps hkept rfl ?_
        simp [Clear]
    | timer dt order =>
        rw [Client.next, Option.ite_none_right_eq_some, Bool.and_eq_true, Bool.and_eq_true, List.isEmpty_iff]
          at hnext
        obtain ⟨⟨⟨htodo, hrunning⟩, hperm⟩, heq⟩ := hnext
        obtain rfl := Option.some.inj heq
        have hsweeps := sweeps_order s.running order "request timeout" []
        have hclear := clear_order order "request timeout" []
        rw [List.append_nil] at hsweeps hclear
        exact Kept.of_sweeps hkept (hsweeps.trans hrunning) (hclear.2 trivial)
    | request r => exact absurd rfl (he r)
    | stop =>
        obtain ⟨hnone, hwaiting⟩ := hsafe
        obtain rfl := Option.some.inj hnext
        split_ifs at hkept ⊢ with hrunning
        · exact Kept.of_sweeps hkept rfl ⟨hnone, h.clear⟩
        · exact ⟨hkept, fun _ => hwaiting.resolve_left hrunning, hnone, h.clear⟩
    | work order => exact h.work hnext
  · obtain ⟨r, rfl⟩ := not_forall_not.1 he
    obtain rfl := Option.some.inj hnext
    exact h.request honce hsafe

/-- In every run, a callback is called at most once; and where every step was safe, it has been called when
`stop()`, or the handling of a lost connection, returns. -/
theorem once_of_run {trace : List (Client × Event)} (hrun : Run (Step parser m) {} trace s) :
    (∀ n, s.calls n ≤ 1) ∧
      ((∀ e ∈ trace, e.1.Safe e.2) → ∀ rest, s.todo = .returned :: rest →
        ∀ n ∈ s.callers, s.calls n = 1) := by
  have honce : Once s := by
    refine hrun.invariant Once ⟨fun _ _ => rfl, fun _ => Nat.zero_le 1, ?_⟩ fun _ _ _ h hstep => h.next hstep
    intro n hn
    cases hn
  constructor
  · intro n
    have hle := honce.once n
    unfold owed at hle
    omega
  · intro hsafe rest htodo n hn
    have hkept : Once s ∧ Kept s := by
      refine hrun.invariant_of Safe (fun s => Once s ∧ Kept s) hsafe ?_ ?_
      · refine ⟨⟨fun _ _ => rfl, fun _ => Nat.zero_le 1, ?_⟩, ?_, fun _ _ => rfl, trivial⟩
        · intro n hn
          cases hn
        · intro n hn
          cases hn
      · intro s e s' h hsafe hstep
        exact ⟨h.1.next hstep, h.2.next h.1 hsafe hstep⟩
    have howed := hkept.2.kept n hn
    have hwaiting := hkept.2.swept (by rw [htodo]; rfl) n
    have hclear := hkept.2.clear
    rw [htodo] at hclear
    rw [owed, htodo, queued_returned, queued_eq_zero n hclear.1, hwaiting] at howed
    omega

namespace Sample

/-- Every response is empty. -/
def empty : RpcParser where
  response _ payload := payload.isEmpty
  gatewayErrorResp _ := none
  commonErrorResp _ := none

/-- The registration alone. -/
def registration : MessageMap where
  encode := fun message => (message.msgId, [])
  decode := fun msgId _ =>
    if msgId = serverRegRespId then .ok (.serverRegResp 0 []) else .error "unknown message id"

def control (msgId : UInt16) (serial : Int32) : Event :=
  .packet { cmd := backendCmdControl, msgId, serial, sessionId := 0, payload := [] }

/-- A bind request to the gateway. -/
def bind (written : Bool) : Request where
  toServer := false
  hasCallback := true
  responseId := 103
  timeoutSeconds := 5
  serialized := true
  forwarded := true
  written := written

/-- The client registers and sends a request. -/
def opening (written : Bool) : List Event :=
  [.start, .opened true, control serverRegRespId 0, .request (bind written)]

/-- Its answer comes, and `stop()` finds a second request that waits. -/
def answered : List Event :=
  opening true ++ [control 103 1, .work [], .request (bind true), .stop, .work [(bind true).callback 1], .work [],
    .work []]

end Sample

/-- Both callbacks have been called, with the answer and with the end of the client. -/
theorem once_of_run_answered : ∃ trace s, Run (Step Sample.empty Sample.registration) {} trace s ∧
    s.invoked.length = 2 ∧ s.calls 0 = 1 ∧ s.calls 1 = 1 := by
  obtain ⟨⟨trace, s⟩, hrecord⟩ := Option.isSome_iff_exists.1
    (show (Run.record (next Sample.empty Sample.registration) {} Sample.answered).isSome from rfl)
  have hrun : Run (Step Sample.empty Sample.registration) {} trace s := Run.of_record (fun _ _ _ h => h) hrecord
  have h := (once_of_run hrun).2 ?_
  · have hcalls : ∀ n ∈ s.callers, s.calls n = 1 := by
      cases hrecord
      exact h [] rfl
    cases hrecord
    exact ⟨_, _, hrun, rfl, hcalls 0 (by decide), hcalls 1 (by decide)⟩
  · cases hrecord
    simp only [List.forall_mem_cons]
    refine ⟨trivial, trivial, trivial, ?_, trivial, trivial, ?_, ?_, trivial, trivial, trivial, nofun⟩
    · exact fun _ => ⟨nofun, fun _ => ⟨rfl, rfl⟩⟩
    · exact fun _ => ⟨nofun, fun _ => ⟨rfl, rfl⟩⟩
    · exact ⟨nofun, .inl rfl⟩

/-- The request cannot be written, and nobody hears of its callback again. -/
theorem callback_lost : ∃ trace s rest, Run (Step Sample.empty Sample.registration) {} trace s ∧
    s.todo = .returned :: rest ∧ 0 ∈ s.callers ∧ s.calls 0 = 0 := by
  obtain ⟨⟨trace, s⟩, hrecord⟩ := Option.isSome_iff_exists.1
    (show (Run.record (next Sample.empty Sample.registration) {}
      (Sample.opening false ++ [.stop, .work [], .work []])).isSome from rfl)
  have hrun : Run (Step Sample.empty Sample.registration) {} trace s := Run.of_record (fun _ _ _ h => h) hrecord
  refine ⟨trace, s, [], hrun, ?_⟩
  cases hrecord
  exact ⟨rfl, List.mem_singleton.2 rfl, rfl⟩

end Client

end AxmolFighter.Battle.Rpc
