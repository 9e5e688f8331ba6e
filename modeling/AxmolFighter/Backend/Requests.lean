import AxmolFighter.Backend.Rpc
import AxmolFighter.Lib.Threads

/-!
# Requests at the same time

`request_gateway_timeout` and `request_server_timeout` of many tasks, the answers that the read loop
resolves, and the disconnect interleave: an id is given out, its sender is put into the table, the frame
is sent or fails, and the caller waits until an answer, the loss of its sender or its timeout. Ids come
round again after `i32::MAX`.

While a request is in progress no other has its id. So each caller gets one result, an answer only from a
resolve call with its own id, and leaves no entry behind.
-/

namespace AxmolFighter.Backend.Requests

open Program (perform)

/-! ### Operations -/

/-- What is left in a oneshot channel for its receiver. -/
inductive Oneshot
  | empty
  | sent (response : PendingResponse)
  | closed
deriving DecidableEq

/-- A frame that a request sends. -/
inductive Outgoing
  | control (msg : Message) (serial : Int32)
  | server (target : ServerSource) (msg : Message) (serial : Int32)
deriving DecidableEq

/-- How a wait ends. -/
inductive Received
  | response (response : PendingResponse)
  | closed
  | elapsed
deriving DecidableEq

inductive RpcOp
  | nextRequestId
  | oneshot
  | insertPending (requestId : Int32) (tx : Nat)
  | trySend (frame : Outgoing)
  | removePending (requestId : Int32)
  | receive (rx : Nat)
  | takePending (serial : Int32)
  | send (tx : Nat) (response : PendingResponse)
  | setGatewayTx
  | clearGatewayTx
  | clearPending

def RpcOp.Answer : RpcOp → Type
  | .nextRequestId => Int32
  | .oneshot => Nat
  | .trySend _ => Except String Unit
  | .receive _ => Received
  | .takePending _ => Option Nat
  | _ => Unit

abbrev rpcOps : Signature := ⟨RpcOp, RpcOp.Answer⟩

/-- Whether there is a gateway connection, the table, and the channels by the names of their ends. -/
structure RpcShared where
  gatewayTx : Bool := false
  rpc : RpcManager := {}
  oneshots : List Oneshot := []
deriving DecidableEq

/-- Senders that are dropped close their channels. -/
def dropSenders (oneshots : List Oneshot) (txs : List Nat) : List Oneshot :=
  txs.foldl (fun oneshots tx => oneshots.set tx .closed) oneshots

/-- The atomic operations. A frame may fail to be sent for want of an encoding or of a connection, or
because the connection's channel is closed; a wait elapses only when nothing is there to receive. -/
inductive RpcDoes : RpcShared → (op : RpcOp) → op.Answer → RpcShared → Prop
  | nextRequestId (s : RpcShared) :
      RpcDoes s .nextRequestId s.rpc.nextRequestId.1 { s with rpc := s.rpc.nextRequestId.2 }
  | oneshot (s : RpcShared) :
      RpcDoes s .oneshot s.oneshots.length { s with oneshots := s.oneshots ++ [.empty] }
  | insertPending (s : RpcShared) (requestId : Int32) (tx : Nat) :
      RpcDoes s (.insertPending requestId tx) ()
        { s with
          rpc := s.rpc.insertPending requestId tx
          oneshots := dropSenders s.oneshots (s.rpc.pendingRequests.get requestId).toList }
  | sent {s : RpcShared} (frame : Outgoing) (h : s.gatewayTx = true) :
      RpcDoes s (.trySend frame) (.ok ()) s
  | unsent (s : RpcShared) (frame : Outgoing) (err : String) : RpcDoes s (.trySend frame) (.error err) s
  | removePending (s : RpcShared) (requestId : Int32) :
      RpcDoes s (.removePending requestId) ()
        { s with
          rpc := s.rpc.removePending requestId
          oneshots := dropSenders s.oneshots (s.rpc.pendingRequests.get requestId).toList }
  | received {s : RpcShared} {rx : Nat} {response : PendingResponse}
      (h : s.oneshots[rx]? = some (.sent response)) : RpcDoes s (.receive rx) (.response response) s
  | closed {s : RpcShared} {rx : Nat} (h : s.oneshots[rx]? = some .closed) :
      RpcDoes s (.receive rx) .closed s
  | elapsed {s : RpcShared} {rx : Nat} (h : s.oneshots[rx]? = some .empty) :
      RpcDoes s (.receive rx) .elapsed s
  | takePending (s : RpcShared) (serial : Int32) :
      RpcDoes s (.takePending serial) (s.rpc.pendingRequests.get serial)
        { s with rpc := s.rpc.removePending serial }
  | send (s : RpcShared) (tx : Nat) (response : PendingResponse) :
      RpcDoes s (.send tx response) () { s with oneshots := s.oneshots.set tx (.sent response) }
  | setGatewayTx (s : RpcShared) : RpcDoes s .setGatewayTx () { s with gatewayTx := true }
  | clearGatewayTx (s : RpcShared) : RpcDoes s .clearGatewayTx () { s with gatewayTx := false }
  | clearPending (s : RpcShared) :
      RpcDoes s .clearPending ()
        { s with
          rpc := s.rpc.clearPending
          oneshots := dropSenders s.oneshots s.rpc.pendingRequests.values }

/-! ### The calls -/

def waitPendingResponse (requestId : Int32) (rx : Nat) : Program rpcOps (Except RpcError Message) := do
  match ← (perform (S := rpcOps) (.receive rx) : Program rpcOps Received) with
  | .response response => return response.result
  | .closed => return .error .cancelled
  | .elapsed =>
      perform (S := rpcOps) (.removePending requestId)
      return .error .timeout

/-- A request; the frame it sends carries the id with the sign of a request. -/
def request (frame : Int32 → Outgoing) : Program rpcOps (Except RpcError Message) := do
  let requestId : Int32 ← (perform (S := rpcOps) .nextRequestId : Program rpcOps Int32)
  let tx ← (perform (S := rpcOps) .oneshot : Program rpcOps Nat)
  perform (S := rpcOps) (.insertPending requestId tx)
  match ← (perform (S := rpcOps) (.trySend (frame (-requestId))) : Program rpcOps (Except String Unit)) with
  | .error err =>
      perform (S := rpcOps) (.removePending requestId)
      return .error (.send err)
  | .ok () => waitPendingResponse requestId tx

def requestGatewayTimeout (msg : Message) : Program rpcOps (Except RpcError Message) :=
  request (.control msg)

def requestServerTimeout (target : ServerSource) (msg : Message) :
    Program rpcOps (Except RpcError Message) :=
  request (.server target msg)

def resolvePendingResponse (m : MessageMap) (serial : Int32) (msgId : UInt16) (payload : Bytes) :
    Program rpcOps Bool :=
  if serial ≤ 0 then return false
  else do
    match ← (perform (S := rpcOps) (.takePending serial) : Program rpcOps (Option Nat)) with
    | some tx =>
        perform (S := rpcOps) (.send tx (decodeResponse m msgId payload))
        return true
    | none => return false

def clearGatewayTx : Program rpcOps Unit := do
  perform (S := rpcOps) .clearGatewayTx
  perform (S := rpcOps) .clearPending

/-- A call of one of the methods. -/
inductive RpcCall
  | requestGateway (msg : Message)
  | requestServer (target : ServerSource) (msg : Message)
  | resolve (serial : Int32) (msgId : UInt16) (payload : Bytes)
  | setGatewayTx
  | clearGatewayTx

/-- What a call has returned. -/
inductive Returned
  | result (result : Except RpcError Message)
  | resolved (found : Bool)
  | done

def RpcCall.program (m : MessageMap) : RpcCall → Program rpcOps Returned
  | .requestGateway msg => do return .result (← requestGatewayTimeout msg)
  | .requestServer target msg => do return .result (← requestServerTimeout target msg)
  | .resolve serial msgId payload => do return .resolved (← resolvePendingResponse m serial msgId payload)
  | .setGatewayTx => do
      perform (S := rpcOps) .setGatewayTx
      return .done
  | .clearGatewayTx => do
      Requests.clearGatewayTx
      return .done

/-- Any number of calls at the same time, each by a caller of its own. -/
def rpcSystem (m : MessageMap) : ThreadSystem rpcOps RpcShared (Option Returned) RpcCall where
  does s op answer s' := RpcDoes s op answer s'
  handle
    | none, call => some do return some (← call.program m)
    | some _, _ => none
  opens s _ l s' := l = none ∧ s' = s
  environment _ _ := False

abbrev RpcPool := Pool rpcOps RpcShared (Option Returned)

abbrev RpcEvent := Pool.Event rpcOps (Option Returned) RpcCall

/-! ### What a caller goes through -/

inductive Phase
  | idle
  | allocating
  | opening (requestId : Int32)
  | inserting (requestId : Int32) (tx : Nat)
  | sending (requestId : Int32) (tx : Nat)
  | waiting (requestId : Int32) (tx : Nat)
  | abandoning (requestId : Int32) (tx : Nat) (err : RpcError)
  | answered (requestId : Int32) (tx : Nat) (response : PendingResponse)
  | failed (requestId : Int32) (err : RpcError)
  | taking (serial : Int32) (msgId : UInt16) (payload : Bytes)
  | delivering (tx : Nat) (response : PendingResponse)
  | connecting
  | disconnecting
  | clearing
  | returned

inductive Phase.Moves (m : MessageMap) : Phase → (op : RpcOp) → op.Answer → Phase → Prop
  | nextRequestId (requestId : Int32) :
      Moves m .allocating .nextRequestId requestId (.opening requestId)
  | oneshot (requestId : Int32) (tx : Nat) :
      Moves m (.opening requestId) .oneshot tx (.inserting requestId tx)
  | insertPending (requestId : Int32) (tx : Nat) (answer : Unit) :
      Moves m (.inserting requestId tx) (.insertPending requestId tx) answer (.sending requestId tx)
  | sent (requestId : Int32) (tx : Nat) (frame : Outgoing) :
      Moves m (.sending requestId tx) (.trySend frame) (.ok ()) (.waiting requestId tx)
  | unsent (requestId : Int32) (tx : Nat) (frame : Outgoing) (err : String) :
      Moves m (.sending requestId tx) (.trySend frame) (.error err) (.abandoning requestId tx (.send err))
  | received (requestId : Int32) (tx : Nat) (response : PendingResponse) :
      Moves m (.waiting requestId tx) (.receive tx) (.response response) (.answered requestId tx response)
  | closed (requestId : Int32) (tx : Nat) :
      Moves m (.waiting requestId tx) (.receive tx) .closed (.failed requestId .cancelled)
  | elapsed (requestId : Int32) (tx : Nat) :
      Moves m (.waiting requestId tx) (.receive tx) .elapsed (.abandoning requestId tx .timeout)
  | removePending (requestId : Int32) (tx : Nat) (err : RpcError) (answer : Unit) :
      Moves m (.abandoning requestId tx err) (.removePending requestId) answer (.failed requestId err)
  | found (serial : Int32) (msgId : UInt16) (payload : Bytes) (tx : Nat) :
      Moves m (.taking serial msgId payload) (.takePending serial) (some tx)
        (.delivering tx (decodeResponse m msgId payload))
  | unmatched (serial : Int32) (msgId : UInt16) (payload : Bytes) :
      Moves m (.taking serial msgId payload) (.takePending serial) none .returned
  | send (tx : Nat) (response : PendingResponse) (answer : Unit) :
      Moves m (.delivering tx response) (.send tx response) answer .returned
  | setGatewayTx (answer : Unit) : Moves m .connecting .setGatewayTx answer .returned
  | clearGatewayTx (answer : Unit) : Moves m .disconnecting .clearGatewayTx answer .clearing
  | clearPending (answer : Unit) : Moves m .clearing .clearPending answer .returned

/-- What a caller at rest has in hand. -/
inductive Phase.Stops : Phase → Option Returned → Prop
  | idle : Stops .idle none
  | answered (requestId : Int32) (tx : Nat) (response : PendingResponse) :
      Stops (.answered requestId tx response) (some (.result response.result))
  | failed (requestId : Int32) {err : RpcError} (h : err.unanswered = true) :
      Stops (.failed requestId err) (some (.result (.error err)))
  | resolved (found : Bool) : Stops .returned (some (.resolved found))
  | done : Stops .returned (some .done)

/-- Where a call starts. -/
inductive Phase.Begins : Phase → RpcCall → Phase → Prop
  | requestGateway (msg : Message) : Begins .idle (.requestGateway msg) .allocating
  | requestServer (target : ServerSource) (msg : Message) :
      Begins .idle (.requestServer target msg) .allocating
  | resolve (serial : Int32) (msgId : UInt16) (payload : Bytes) :
      Begins .idle (.resolve serial msgId payload) (.taking serial msgId payload)
  | ignored (serial : Int32) (msgId : UInt16) (payload : Bytes) :
      Begins .idle (.resolve serial msgId payload) .returned
  | setGatewayTx : Begins .idle .setGatewayTx .connecting
  | clearGatewayTx : Begins .idle .clearGatewayTx .disconnecting

theorem follows_waitPendingResponse (m : MessageMap) (requestId : Int32) (tx : Nat) :
    (waitPendingResponse requestId tx).Follows (Phase.Moves m)
      (fun q result => q.Stops (some (.result result))) (.waiting requestId tx) := by
  refine .call (fun received => match received with
    | .response response => .answered requestId tx response
    | .closed => .failed requestId .cancelled
    | .elapsed => .abandoning requestId tx .timeout) (fun received => ?_) fun received => ?_
  · rcases received with response | _ | _
    · exact .received ..
    · exact .closed ..
    · exact .elapsed ..
  · rcases received with response | _ | _
    · exact .ret (.answered ..)
    · exact .ret (.failed _ rfl)
    · exact .call _ (fun answer => .removePending requestId tx .timeout answer) fun _ =>
        .ret (.failed _ rfl)

theorem follows_request (m : MessageMap) (frame : Int32 → Outgoing) :
    (request frame).Follows (Phase.Moves m) (fun q result => q.Stops (some (.result result)))
      .allocating := by
  refine .call _ (fun requestId : Int32 => .nextRequestId requestId) fun requestId => ?_
  refine .call _ (fun tx : Nat => .oneshot requestId tx) fun tx => ?_
  refine .call _ (fun answer : Unit => .insertPending requestId tx answer) fun _ => ?_
  refine .call (fun sent => match sent with
    | .ok () => .waiting requestId tx
    | .error err => .abandoning requestId tx (.send err)) (fun sent => ?_) fun sent => ?_
  · rcases sent with err | _
    · exact .unsent ..
    · exact .sent ..
  · rcases sent with err | _
    · exact .call _ (fun answer => .removePending requestId tx (.send err) answer) fun _ =>
        .ret (.failed _ rfl)
    · exact follows_waitPendingResponse m requestId tx

theorem follows_resolve (m : MessageMap) (serial : Int32) (msgId : UInt16) (payload : Bytes) :
    ∃ q, Phase.Begins .idle (.resolve serial msgId payload) q ∧
      (resolvePendingResponse m serial msgId payload).Follows (Phase.Moves m)
        (fun q found => q.Stops (some (.resolved found))) q := by
  rw [resolvePendingResponse]
  split_ifs
  · exact ⟨_, .ignored .., .ret (.resolved _)⟩
  · refine ⟨_, .resolve .., .call (fun taken => match taken with
      | some tx => .delivering tx (decodeResponse m msgId payload)
      | none => .returned) (fun taken => ?_) fun taken => ?_⟩
    · rcases taken with _ | tx
      · exact .unmatched ..
      · exact .found ..
    · rcases taken with _ | tx
      · exact .ret (.resolved _)
      · exact .call _ (fun answer => .send tx _ answer) fun _ => .ret (.resolved _)

theorem follows_program (m : MessageMap) (call : RpcCall) :
    ∃ q, Phase.Begins .idle call q ∧
      (call.program m).Follows (Phase.Moves m) (fun q returned => q.Stops (some returned)) q := by
  cases call with
  | requestGateway msg =>
      exact ⟨_, .requestGateway msg, (follows_request m _).bind fun q result h => .ret h⟩
  | requestServer target msg =>
      exact ⟨_, .requestServer target msg, (follows_request m _).bind fun q result h => .ret h⟩
  | resolve serial msgId payload =>
      obtain ⟨q, hbegins, hfollows⟩ := follows_resolve m serial msgId payload
      exact ⟨q, hbegins, hfollows.bind fun q found h => .ret h⟩
  | setGatewayTx =>
      exact ⟨_, .setGatewayTx, .call _ (fun answer => .setGatewayTx answer) fun _ => .ret .done⟩
  | clearGatewayTx =>
      refine ⟨_, .clearGatewayTx, .call _ (fun answer => .clearGatewayTx answer) fun _ => ?_⟩
      exact .call _ (fun answer => .clearPending answer) fun _ => .ret .done

open Pool

def rpcGuide (m : MessageMap) : Guide (rpcSystem m) Phase where
  moves := Phase.Moves m
  stops := Phase.Stops
  fresh _ _ := .idle
  begins := Phase.Begins
  fresh_stops _ _ _ _ h := h.1 ▸ .idle
  follows q l e p hstops hp := by
    cases hstops with
    | idle =>
        obtain rfl := Option.some.inj hp
        obtain ⟨q, hbegins, hfollows⟩ := follows_program m e
        exact ⟨q, hbegins, hfollows.bind fun q returned h => .ret h⟩
    | _ => cases hp

/-! ### What is said of a run -/

abbrev RpcTrace := List (RpcPool × RpcEvent)

/-- The call has begun and has not returned. -/
def InProgress (pool : RpcPool) (k : Nat) : Prop :=
  ∃ op next, pool.threads[k]? = some (.call op next)

/-- The call has returned, with this. -/
def HasReturned (pool : RpcPool) (k : Nat) (returned : Returned) : Prop :=
  pool.threads[k]? = some (.ret (some returned))

/-- Caller `k` gets its id. -/
def allocates (k : Nat) (requestId : Int32) : RpcEvent := .call k ⟨.nextRequestId, requestId⟩

/-- Caller `k` registers its sender. -/
def inserts (k : Nat) (requestId : Int32) (tx : Nat) : RpcEvent :=
  .call k ⟨.insertPending requestId tx, ()⟩

/-- A resolve call with this serial finds a sender; it returns true. -/
def takes (j : Nat) (serial : Int32) (tx : Nat) : RpcEvent := .call j ⟨.takePending serial, some tx⟩

/-- Caller `k` gets an answer. -/
def receives (k tx : Nat) (response : PendingResponse) : RpcEvent :=
  .call k ⟨.receive tx, .response response⟩

/-- Whose id, and which, is given out. -/
def issuedId : RpcEvent → Option (Nat × Int32)
  | .call k ⟨.nextRequestId, requestId⟩ => some (k, requestId)
  | _ => none

/-- The ids that were given out, in order. -/
def issued (trace : RpcTrace) : List (Nat × Int32) := trace.filterMap fun e => issuedId e.2

/-- Fewer than `2^31 - 1` requests are issued while one is in progress: whenever an id is given out, so
few follow that of a request in progress, this one included. -/
def FewRequests (trace : RpcTrace) : Prop :=
  ∀ l e l', trace = l ++ e :: l' → (issuedId e.2).isSome → ∀ n k requestId,
    (issued l)[n]? = some (k, requestId) → InProgress e.1 k → (issued l).length - n < 2 ^ 31 - 1

/-- The events happened, in this order. -/
def Happened (events : List RpcEvent) (trace : RpcTrace) : Prop := events.Sublist (trace.map Prod.snd)

/-- What every run keeps to. -/
structure Outcomes (m : MessageMap) (trace : RpcTrace) (pool : RpcPool) : Prop where
  /-- Whatever the others have done, a call in progress can go on. -/
  progress : ∀ k op next, pool.threads[k]? = some (.call op next) →
    ∃ answer pool', Pool.Step (rpcSystem m) pool (.call k ⟨op, answer⟩) pool'
  /-- It returns after six steps at most. -/
  steps : ∀ k, (own k trace).length ≤ 7
  /-- What it has returned, it has returned once. -/
  kept : ∀ e ∈ trace, ∀ k returned, HasReturned e.1 k returned → HasReturned pool k returned
  /-- An answer is what a resolve call with the caller's id took its sender out for. -/
  correlated : ∀ k (response : PendingResponse), HasReturned pool k (.result response.result) →
    ∃ requestId tx j msgId payload, response = decodeResponse m msgId payload ∧
      (.input j (.resolve requestId msgId payload) : RpcEvent) ∈ trace.map Prod.snd ∧
      Happened [allocates k requestId, inserts k requestId tx, takes j requestId tx, receives k tx response]
        trace
  /-- Between two resolve calls that return true for a serial it is given out again. -/
  once : ∀ l l' l'' j j' serial tx tx',
    trace.map Prod.snd = l ++ takes j serial tx :: (l' ++ takes j' serial tx' :: l'') →
      ∃ k, allocates k serial ∈ l'
  /-- A caller that has returned has no entry under its id, unless that was given out again. -/
  removed : ∀ l l' k requestId returned, trace.map Prod.snd = l ++ allocates k requestId :: l' →
    (∀ k', allocates k' requestId ∉ l') → HasReturned pool k returned →
      pool.shared.rpc.pendingRequests.get requestId = none

/-! ### Ids come round -/

/-- The seed after `n` ids. -/
def seedOf (n : Nat) : Int32 := .ofNat (n % (2 ^ 31 - 1) + 1)

theorem toInt_seedOf (n : Nat) : (seedOf n).toInt = n % (2 ^ 31 - 1) + 1 := by
  rw [seedOf, Int32.toInt_ofNat_of_lt (by omega)]
  omega

theorem seedOf_inj {n n' : Nat} (h : seedOf n = seedOf n') : n % (2 ^ 31 - 1) = n' % (2 ^ 31 - 1) := by
  have hint := congrArg Int32.toInt h
  rw [toInt_seedOf, toInt_seedOf] at hint
  omega

theorem nextRequestId_seedOf {rpc : RpcManager} {n : Nat} (h : rpc.serialSeed = seedOf n) :
    rpc.nextRequestId = (seedOf (n + 1), { rpc with serialSeed := seedOf (n + 1) }) := by
  have hmax : Int32.maxValue.toInt = 2 ^ 31 - 1 := rfl
  have hnext : (if seedOf n = Int32.maxValue then 1 else seedOf n + 1) = seedOf (n + 1) := by
    split_ifs with hlast
    · have hint := congrArg Int32.toInt hlast
      rw [toInt_seedOf, hmax] at hint
      rw [← Int32.toInt_inj, toInt_seedOf, show (1 : Int32).toInt = 1 from rfl]
      omega
    · have hne : (seedOf n).toInt ≠ 2 ^ 31 - 1 := fun heq => hlast (Int32.toInt_inj.1 (heq.trans hmax.symm))
      rw [toInt_seedOf] at hne
      rw [← Int32.toInt_inj, Int32.toInt_add, toInt_seedOf, toInt_seedOf, show (1 : Int32).toInt = 1 from rfl,
        Int.bmod_eq_of_le (by omega) (by omega)]
      omega
  rw [RpcManager.nextRequestId, h, hnext]

/-! ### What a step does to the callers -/

namespace Phase

/-- The id of a call in progress. -/
def requestId : Phase → Option Int32
  | .opening id | .inserting id _ | .sending id _ | .waiting id _ | .abandoning id _ _ => some id
  | _ => none

/-- The channel of a call in progress. -/
def channel : Phase → Option Nat
  | .inserting _ tx | .sending _ tx | .waiting _ tx | .abandoning _ tx _ => some tx
  | _ => none

/-- The id and the channel of a call that has registered its sender. -/
def entry : Phase → Option (Int32 × Nat)
  | .sending id tx | .waiting id tx | .abandoning id tx _ => some (id, tx)
  | _ => none

/-- The id that is going to be registered. -/
def unregistered : Phase → Option Int32
  | .opening id | .inserting id _ => some id
  | _ => none

theorem requestId_of_entry {q : Phase} {id : Int32} {tx : Nat} (h : q.entry = some (id, tx)) :
    q.requestId = some id ∧ q.channel = some tx := by
  cases q <;> simp_all [entry, requestId, channel]

theorem unregistered_of_entry {q : Phase} {x : Int32 × Nat} (h : q.entry = some x) :
    q.unregistered = none := by
  cases q <;> simp_all [entry, unregistered]

theorem requestId_of_unregistered {q : Phase} {id : Int32} (h : q.unregistered = some id) :
    q.requestId = some id := by
  cases q <;> simp_all [unregistered, requestId]

end Phase

section Steps

variable {m : MessageMap} {s s' : RpcShared} {qs qs' : List Phase} {e : RpcEvent} {k : Nat} {q : Phase}
  {id : Int32} {tx : Nat} {response : PendingResponse}

theorem step_phase (h : (rpcGuide m).Step (s, qs) e (s', qs')) (hk : qs'[k]? = some q) :
    qs[k]? = some q ∨ q = .idle ∨ (∃ call, e = .input k call ∧ Phase.Begins .idle call q) ∨
      ∃ q₀ op answer, e = .call k ⟨op, answer⟩ ∧ qs[k]? = some q₀ ∧ Phase.Moves m q₀ op answer q ∧
        RpcDoes s op answer s' := by
  cases h with
  | opens h =>
      rw [List.getElem?_append] at hk
      split_ifs at hk with hlt
      · exact Or.inl hk
      · obtain ⟨_, heq⟩ := List.getElem?_eq_some_iff.1 hk
        rw [List.getElem_singleton] at heq
        exact Or.inr (Or.inl heq.symm)
  | @input _ _ j q₀ q' _ call hj hstops _ hbegins =>
      rw [Guide.get_set hj] at hk
      split_ifs at hk with hkj
      · obtain rfl := Option.some.inj hk
        have hidle : q₀ = .idle := by
          cases hbegins <;> rfl
        subst hidle
        exact Or.inr (Or.inr (Or.inl ⟨call, by rw [hkj], hbegins⟩))
      · exact Or.inl hk
  | @call _ _ _ j q₀ q' op answer hj hmoves hdoes =>
      rw [Guide.get_set hj] at hk
      split_ifs at hk with hkj
      · obtain rfl := Option.some.inj hk
        subst hkj
        exact Or.inr (Or.inr (Or.inr ⟨q₀, op, answer, rfl, hj, hmoves, hdoes⟩))
      · exact Or.inl hk
  | environment h => exact h.elim

theorem step_requestId (h : (rpcGuide m).Step (s, qs) e (s', qs')) (hk : qs'[k]? = some q)
    (hid : q.requestId = some id) :
    (∃ q₀, qs[k]? = some q₀ ∧ q₀.requestId = some id) ∨ (e = allocates k id ∧ q = .opening id) := by
  rcases step_phase h hk with hold | rfl | ⟨call, -, hbegins⟩ | ⟨q₀, op, answer, rfl, hold, hmoves, -⟩
  · exact Or.inl ⟨q, hold, hid⟩
  · cases hid
  · cases hbegins <;> cases hid
  · cases hmoves <;> cases hid
    · exact Or.inr ⟨rfl, rfl⟩
    all_goals exact Or.inl ⟨_, hold, rfl⟩

/-- A channel in use was in use, or is new. -/
theorem step_channel (h : (rpcGuide m).Step (s, qs) e (s', qs')) (hk : qs'[k]? = some q)
    (htx : q.channel = some tx) :
    (∃ q₀, qs[k]? = some q₀ ∧ q₀.channel = some tx) ∨
      (tx = s.oneshots.length ∧ ∃ id, e = .call k ⟨.oneshot, tx⟩ ∧ qs[k]? = some (.opening id) ∧
        q = .inserting id tx) := by
  rcases step_phase h hk with hold | rfl | ⟨call, -, hbegins⟩ | ⟨q₀, op, answer, rfl, hold, hmoves, hdoes⟩
  · exact Or.inl ⟨q, hold, htx⟩
  · cases htx
  · cases hbegins <;> cases htx
  · cases hmoves <;> cases htx
    · cases hdoes
      exact Or.inr ⟨rfl, _, rfl, hold, rfl⟩
    all_goals exact Or.inl ⟨_, hold, rfl⟩

theorem step_entry (h : (rpcGuide m).Step (s, qs) e (s', qs')) (hk : qs'[k]? = some q)
    (hentry : q.entry = some (id, tx)) :
    (∃ q₀, qs[k]? = some q₀ ∧ q₀.entry = some (id, tx)) ∨
      (e = inserts k id tx ∧ qs[k]? = some (.inserting id tx)) := by
  rcases step_phase h hk with hold | rfl | ⟨call, -, hbegins⟩ | ⟨q₀, op, answer, rfl, hold, hmoves, -⟩
  · exact Or.inl ⟨q, hold, hentry⟩
  · cases hentry
  · cases hbegins <;> cases hentry
  · cases hmoves <;> cases hentry
    · exact Or.inr ⟨rfl, hold⟩
    all_goals exact Or.inl ⟨_, hold, rfl⟩

theorem step_unregistered (h : (rpcGuide m).Step (s, qs) e (s', qs')) (hk : qs'[k]? = some q)
    (hid : q.unregistered = some id) :
    (∃ q₀, qs[k]? = some q₀ ∧ q₀.unregistered = some id) ∨ e = allocates k id := by
  rcases step_phase h hk with hold | rfl | ⟨call, -, hbegins⟩ | ⟨q₀, op, answer, rfl, hold, hmoves, -⟩
  · exact Or.inl ⟨q, hold, hid⟩
  · cases hid
  · cases hbegins <;> cases hid
  · cases hmoves <;> cases hid
    · exact Or.inr rfl
    · exact Or.inl ⟨_, hold, rfl⟩

theorem step_inserting (h : (rpcGuide m).Step (s, qs) e (s', qs')) (hk : qs'[k]? = some (.inserting id tx)) :
    qs[k]? = some (.inserting id tx) ∨ (tx = s.oneshots.length ∧ s'.oneshots[tx]? = some .empty) := by
  rcases step_phase h hk with hold | hidle | ⟨call, -, hbegins⟩ | ⟨q₀, op, answer, rfl, hold, hmoves, hdoes⟩
  · exact Or.inl hold
  · cases hidle
  · cases hbegins
  · cases hmoves
    cases hdoes
    exact Or.inr ⟨rfl, List.getElem?_concat_length⟩

theorem step_delivering (h : (rpcGuide m).Step (s, qs) e (s', qs'))
    (hk : qs'[k]? = some (.delivering tx response)) :
    qs[k]? = some (.delivering tx response) ∨ ∃ serial msgId payload, e = takes k serial tx ∧
      qs[k]? = some (.taking serial msgId payload) ∧ response = decodeResponse m msgId payload ∧
        s.rpc.pendingRequests.get serial = some tx ∧ s' = { s with rpc := s.rpc.removePending serial } := by
  rcases step_phase h hk with hold | hidle | ⟨call, -, hbegins⟩ | ⟨q₀, op, answer, rfl, hold, hmoves, hdoes⟩
  · exact Or.inl hold
  · cases hidle
  · cases hbegins
  · cases hmoves with
    | found serial msgId payload =>
        refine Or.inr ⟨serial, msgId, payload, rfl, hold, rfl, ?_⟩
        generalize hanswer : some tx = answer at hdoes
        cases hdoes
        exact ⟨rfl, rfl⟩

/-! ### No two calls in progress have one id -/

variable {trace : RpcTrace} {pool : RpcPool}

theorem issued_snoc (trace : RpcTrace) (pool : RpcPool) (e : RpcEvent) :
    issued (trace ++ [(pool, e)]) = issued trace ++ (issuedId e).toList := by
  rw [issued, List.filterMap_append, issued]
  cases h : issuedId e <;> simp [h]

theorem FewRequests.of_append {trace' : RpcTrace} (h : FewRequests (trace ++ trace')) : FewRequests trace := by
  intro l e l' heq
  exact h l e (l' ++ trace') (by rw [heq, List.append_assoc, List.cons_append])

/-- The ids that were given out are those of the seed, and those of calls in progress are recent. -/
structure Numbered (trace : RpcTrace) (s : RpcShared) (qs : List Phase) : Prop where
  seed : s.rpc.serialSeed = seedOf (issued trace).length
  ids : ∀ n k id, (issued trace)[n]? = some (k, id) → id = seedOf (n + 1)
  number : ∀ (k : Nat) q id, qs[k]? = some q → q.requestId = some id →
    ∃ n : Nat, (issued trace)[n]? = some (k, id)
  recent : ∀ n k id q, (issued trace)[n]? = some (k, id) → qs[k]? = some q → q.requestId.isSome →
    (issued trace).length ≤ n + (2 ^ 31 - 1)

theorem step_seed (h : (rpcGuide m).Step (s, qs) e (s', qs')) :
    (issuedId e = none ∧ s'.rpc.serialSeed = s.rpc.serialSeed) ∨
      ∃ k, e = allocates k s.rpc.nextRequestId.1 ∧ s' = { s with rpc := s.rpc.nextRequestId.2 } := by
  cases h with
  | opens h =>
      rw [h.2]
      exact Or.inl ⟨rfl, rfl⟩
  | input => exact Or.inl ⟨rfl, rfl⟩
  | environment h => exact h.elim
  | call hk hmoves hdoes =>
      cases hdoes with
      | nextRequestId => exact Or.inr ⟨_, rfl, rfl⟩
      | _ => exact Or.inl ⟨rfl, rfl⟩

theorem inProgress_of_tracks {threads : List (Program rpcOps (Option Returned))} {shared : RpcShared}
    (h : (rpcGuide m).Tracks qs threads) (hk : qs[k]? = some q) (hid : q.requestId.isSome) :
    InProgress ⟨shared, threads⟩ k := by
  obtain ⟨p, hp, hfollows⟩ := h.get' hk
  cases p with
  | call op next => exact ⟨op, next, hp⟩
  | ret l =>
      have hstops : Phase.Stops q l := hfollows.of_ret
      cases hstops <;> cases hid

theorem Numbered.step (h : Numbered trace pool.shared qs) (htracks : (rpcGuide m).Tracks qs pool.threads)
    (hfew : FewRequests (trace ++ [(pool, e)])) (hstep : (rpcGuide m).Step (pool.shared, qs) e (s', qs')) :
    Numbered (trace ++ [(pool, e)]) s' qs' := by
  rcases step_seed hstep with ⟨hnone, hseed⟩ | ⟨k, rfl, rfl⟩
  · have hissued : issued (trace ++ [(pool, e)]) = issued trace := by
      rw [issued_snoc, hnone, Option.toList_none, List.append_nil]
    have hold : ∀ (k : Nat) q id, qs'[k]? = some q → q.requestId = some id →
        ∃ q₀, qs[k]? = some q₀ ∧ q₀.requestId = some id := by
      intro k q id hk hid
      refine (step_requestId hstep hk hid).resolve_right ?_
      rintro ⟨rfl, -⟩
      cases hnone
    refine ⟨by rw [hseed, hissued, h.seed], by rw [hissued]; exact h.ids, ?_, ?_⟩
    · intro k q id hk hid
      obtain ⟨q₀, hk₀, hid₀⟩ := hold k q id hk hid
      rw [hissued]
      exact h.number k q₀ id hk₀ hid₀
    · intro n k id q hn hk hactive
      obtain ⟨id', hid'⟩ := Option.isSome_iff_exists.1 hactive
      obtain ⟨q₀, hk₀, hid₀⟩ := hold k q id' hk hid'
      rw [hissued] at hn ⊢
      exact h.recent n k id q₀ hn hk₀ (by rw [hid₀]; rfl)
  · have hnext := nextRequestId_seedOf h.seed
    have hissued : issued (trace ++ [(pool, allocates k pool.shared.rpc.nextRequestId.1)]) =
        issued trace ++ [(k, seedOf ((issued trace).length + 1))] := by
      rw [issued_snoc, hnext]
      rfl
    have hget : ∀ n k' id, (issued trace ++ [(k, seedOf ((issued trace).length + 1))])[n]? = some (k', id) →
        (issued trace)[n]? = some (k', id) ∨
          (n = (issued trace).length ∧ k' = k ∧ id = seedOf ((issued trace).length + 1)) := by
      intro n k' id hn
      rw [List.getElem?_append] at hn
      split_ifs at hn with hlt
      · exact Or.inl hn
      · obtain ⟨hlast, heq⟩ := List.getElem?_eq_some_iff.1 hn
        rw [List.length_singleton] at hlast
        rw [List.getElem_singleton] at heq
        cases heq
        exact Or.inr ⟨by omega, rfl, rfl⟩
    refine ⟨?_, ?_, ?_, ?_⟩
    · rw [hissued, List.length_append, List.length_singleton, hnext]
    · intro n k' id hn
      rw [hissued] at hn
      rcases hget n k' id hn with hn | ⟨rfl, -, rfl⟩
      · exact h.ids n k' id hn
      · rfl
    · intro k' q id hk hid
      rw [hissued]
      rcases step_requestId hstep hk hid with ⟨q₀, hk₀, hid₀⟩ | ⟨heq, -⟩
      · obtain ⟨n, hn⟩ := h.number k' q₀ id hk₀ hid₀
        exact ⟨n, List.getElem?_append_left (List.getElem?_eq_some_iff.1 hn).1 ▸ hn⟩
      · refine ⟨(issued trace).length, ?_⟩
        cases heq
        rw [List.getElem?_concat_length, hnext]
    · intro n k' id q hn hk hactive
      rw [hissued] at hn ⊢
      rw [List.length_append, List.length_singleton]
      rcases hget n k' id hn with hn | ⟨rfl, -, -⟩
      · -- a call in progress has not been overtaken by so many
        have hlt := (List.getElem?_eq_some_iff.1 hn).1
        have hprogress : InProgress pool k' := by
          obtain ⟨id', hid'⟩ := Option.isSome_iff_exists.1 hactive
          rcases step_requestId hstep hk hid' with ⟨q₀, hk₀, hid₀⟩ | ⟨heq, -⟩
          · exact inProgress_of_tracks htracks hk₀ (by rw [hid₀]; rfl)
          · cases heq
            cases hstep with
            | call hj hmoves _ =>
                obtain ⟨p, hp, hfollows⟩ := htracks.get' hj
                cases p with
                | call op next => exact ⟨op, next, hp⟩
                | ret l =>
                    have hstops : Phase.Stops _ l := hfollows.of_ret
                    cases hmoves
                    cases hstops
        have hbound := hfew trace _ [] rfl rfl n k' id hn hprogress
        omega
      · omega

theorem Numbered.distinct (h : Numbered trace s qs) {k' : Nat} {q' : Phase} (hk : qs[k]? = some q)
    (hk' : qs[k']? = some q') (hid : q.requestId = some id) (hid' : q'.requestId = some id) : k = k' := by
  obtain ⟨n, hn⟩ := h.number k q id hk hid
  obtain ⟨n', hn'⟩ := h.number k' q' id hk' hid'
  have hmod := seedOf_inj ((h.ids n k id hn).symm.trans (h.ids n' k' id hn'))
  have hrecent := h.recent n k id q hn hk (by rw [hid]; rfl)
  have hrecent' := h.recent n' k' id q' hn' hk' (by rw [hid']; rfl)
  have hlt := (List.getElem?_eq_some_iff.1 hn).1
  have hlt' := (List.getElem?_eq_some_iff.1 hn').1
  obtain rfl : n = n' := by omega
  rw [hn] at hn'
  exact (Prod.mk.inj (Option.some.inj hn')).1

/-! ### Where a sender is -/

theorem getElem?_dropSenders (oneshots : List Oneshot) (txs : List Nat) (i : Nat) :
    (dropSenders oneshots txs)[i]? =
      if i ∈ txs then oneshots[i]?.map (fun _ => .closed) else oneshots[i]? := by
  induction txs generalizing oneshots with
  | nil => rfl
  | cons tx txs ih =>
      rw [dropSenders, List.foldl_cons]
      refine (ih (oneshots.set tx .closed)).trans ?_
      rw [List.getElem?_set']
      by_cases hi : tx = i
      · subst hi
        simp [Function.const_def]
      · simp [hi, Ne.symm hi]

/-- A sender is with its caller, in the table, or with a resolve call, and while it is in one of the first
two its channel is empty. What is in the table belongs to a call in progress. -/
structure Channels (s : RpcShared) (qs : List Phase) : Prop where
  owner : ∀ (k k' : Nat) q q' tx, qs[k]? = some q → qs[k']? = some q' → q.channel = some tx →
    q'.channel = some tx → k = k'
  named : ∀ (k : Nat) q tx, qs[k]? = some q → q.channel = some tx → tx < s.oneshots.length
  taken : ∀ (j : Nat) tx response, qs[j]? = some (.delivering tx response) → tx < s.oneshots.length
  table : ∀ id tx, s.rpc.pendingRequests.get id = some tx →
    ∃ (k : Nat) (q : Phase), qs[k]? = some q ∧ q.entry = some (id, tx)
  empty : ∀ id tx, s.rpc.pendingRequests.get id = some tx → s.oneshots[tx]? = some .empty
  ready : ∀ (k : Nat) id tx, qs[k]? = some (.inserting id tx) → s.oneshots[tx]? = some .empty
  apart : ∀ (j : Nat) tx response, qs[j]? = some (.delivering tx response) →
    (∀ id, s.rpc.pendingRequests.get id ≠ some tx) ∧ ∀ (k : Nat) id, qs[k]? ≠ some (.inserting id tx)

namespace Channels

variable (h : Channels s qs)
include h

theorem not_inserting {id' : Int32} (hget : s.rpc.pendingRequests.get id = some tx) :
    qs[k]? ≠ some (.inserting id' tx) := by
  intro hk
  obtain ⟨k', q, hk', hentry⟩ := h.table id tx hget
  obtain rfl := h.owner k k' _ q tx hk hk' rfl (Phase.requestId_of_entry hentry).2
  rw [hk] at hk'
  cases hk'
  cases hentry

theorem table_inj {id' : Int32} (hget : s.rpc.pendingRequests.get id = some tx)
    (hget' : s.rpc.pendingRequests.get id' = some tx) : id = id' := by
  obtain ⟨k, q, hk, hentry⟩ := h.table id tx hget
  obtain ⟨k', q', hk', hentry'⟩ := h.table id' tx hget'
  obtain rfl := h.owner k k' q q' tx hk hk' (Phase.requestId_of_entry hentry).2
    (Phase.requestId_of_entry hentry').2
  rw [hk] at hk'
  cases hk'
  rw [hentry] at hentry'
  exact (Prod.mk.inj (Option.some.inj hentry')).1

end Channels

theorem step_table (h : (rpcGuide m).Step (s, qs) e (s', qs'))
    (hget : s'.rpc.pendingRequests.get id = some tx) :
    s.rpc.pendingRequests.get id = some tx ∨
      ∃ k : Nat, e = inserts k id tx ∧ qs[k]? = some (.inserting id tx) := by
  cases h with
  | opens h =>
      rw [h.2] at hget
      exact Or.inl hget
  | input => exact Or.inl hget
  | environment h => exact h.elim
  | call hk hmoves hdoes =>
      cases hdoes with
      | insertPending requestId tx' =>
          rw [RpcManager.insertPending, Table.get_insert] at hget
          split_ifs at hget with hid
          · obtain rfl := Option.some.inj hget
            subst hid
            cases hmoves
            exact Or.inr ⟨_, rfl, hk⟩
          · exact Or.inl hget
      | removePending requestId | takePending requestId =>
          rw [RpcManager.removePending, Table.get_remove] at hget
          split_ifs at hget
          exact Or.inl hget
      | clearPending =>
          rw [RpcManager.clearPending, Table.get_empty] at hget
          cases hget
      | _ => exact Or.inl hget

/-- An empty channel stays empty, unless its sender is used, or dropped out of the table. -/
theorem step_empty (h : (rpcGuide m).Step (s, qs) e (s', qs')) (hempty : s.oneshots[tx]? = some .empty) :
    s'.oneshots[tx]? = some .empty ∨
      (∃ (j : Nat) (response : PendingResponse), qs[j]? = some (.delivering tx response)) ∨
      ∃ id, s.rpc.pendingRequests.get id = some tx ∧
        (s'.rpc.pendingRequests.get id = none ∨ ∃ (k tx' : Nat), qs[k]? = some (.inserting id tx') ∧
          s'.rpc.pendingRequests.get id = some tx') := by
  cases h with
  | opens h =>
      rw [h.2]
      exact Or.inl hempty
  | input => exact Or.inl hempty
  | environment h => exact h.elim
  | call hk hmoves hdoes =>
      cases hdoes with
      | oneshot =>
          refine Or.inl ?_
          rw [List.getElem?_append_left (List.getElem?_eq_some_iff.1 hempty).1]
          exact hempty
      | insertPending requestId tx' =>
          dsimp only
          rw [getElem?_dropSenders]
          split_ifs with hdropped
          · cases hmoves
            exact Or.inr (Or.inr ⟨_, Option.mem_toList.1 hdropped, Or.inr ⟨_, _, hk, Table.get_insert_self ..⟩⟩)
          · exact Or.inl hempty
      | removePending requestId =>
          dsimp only
          rw [getElem?_dropSenders]
          split_ifs with hdropped
          · exact Or.inr (Or.inr ⟨_, Option.mem_toList.1 hdropped, Or.inl (Table.get_remove_self ..)⟩)
          · exact Or.inl hempty
      | clearPending =>
          dsimp only
          rw [getElem?_dropSenders]
          split_ifs with hdropped
          · obtain ⟨id, hget⟩ := (Table.mem_values ..).1 hdropped
            exact Or.inr (Or.inr ⟨id, hget, Or.inl (Table.get_empty id)⟩)
          · exact Or.inl hempty
      | send tx' response =>
          dsimp only
          rw [List.getElem?_set]
          split_ifs with htx
          · subst htx
            cases hmoves
            exact Or.inr (Or.inl ⟨_, _, hk⟩)
          · subst htx
            exact absurd (List.getElem?_eq_some_iff.1 hempty).1 (by assumption)
          · exact Or.inl hempty
      | _ => exact Or.inl hempty

theorem step_oneshots_length (h : (rpcGuide m).Step (s, qs) e (s', qs')) :
    s.oneshots.length ≤ s'.oneshots.length := by
  have hdrop : ∀ (oneshots : List Oneshot) txs, (dropSenders oneshots txs).length = oneshots.length := by
    intro oneshots txs
    induction txs generalizing oneshots with
    | nil => rfl
    | cons tx txs ih =>
        rw [dropSenders, List.foldl_cons]
        exact (ih _).trans List.length_set
  cases h with
  | opens h => rw [h.2]
  | input => exact Nat.le_refl _
  | environment h => exact h.elim
  | call hk hmoves hdoes =>
      cases hdoes with
      | oneshot => simp
      | insertPending | removePending | clearPending =>
          dsimp only
          rw [hdrop]
      | send => simp
      | _ => exact Nat.le_refl _

theorem step_entry_lost (h : (rpcGuide m).Step (s, qs) e (s', qs')) (hk : qs[k]? = some q)
    (hentry : q.entry = some (id, tx)) :
    (∃ q', qs'[k]? = some q' ∧ q'.entry = some (id, tx)) ∨ s.oneshots[tx]? ≠ some .empty ∨
      s'.rpc.pendingRequests.get id = none := by
  cases h with
  | opens h =>
      refine Or.inl ⟨q, ?_, hentry⟩
      rw [List.getElem?_append_left (List.getElem?_eq_some_iff.1 hk).1]
      exact hk
  | @input _ _ j q₀ _ _ call hj hstops _ hbegins =>
      have hidle : q₀ = .idle := by
        cases hbegins <;> rfl
      subst hidle
      refine Or.inl ⟨q, ?_, hentry⟩
      rw [Guide.get_set hj, if_neg ?_]
      · exact hk
      · rintro rfl
        rw [hj] at hk
        cases hk
        cases hentry
  | environment h => exact h.elim
  | @call _ _ _ j q₀ q' op answer hj hmoves hdoes =>
      by_cases hkj : k = j
      · subst hkj
        rw [hj] at hk
        obtain rfl := Option.some.inj hk
        have hnew : (qs.set k q')[k]? = some q' := by rw [Guide.get_set hj, if_pos rfl]
        cases hmoves with
        | sent | unsent | elapsed =>
            cases hentry
            exact Or.inl ⟨_, hnew, rfl⟩
        | received =>
            cases hentry
            cases hdoes with
            | received hsent => exact Or.inr (Or.inl (by simp [hsent]))
        | closed =>
            cases hentry
            cases hdoes with
            | closed hclosed => exact Or.inr (Or.inl (by simp [hclosed]))
        | removePending =>
            cases hentry
            cases hdoes
            exact Or.inr (Or.inr (Table.get_remove_self ..))
        | _ => cases hentry
      · refine Or.inl ⟨q, ?_, hentry⟩
        rw [Guide.get_set hj, if_neg hkj]
        exact hk

theorem Channels.step (h : Channels s qs) (hstep : (rpcGuide m).Step (s, qs) e (s', qs')) :
    Channels s' qs' := by
  have hlength := step_oneshots_length hstep
  have hnew : ∀ {k : Nat} {q : Phase} {tx : Nat}, qs'[k]? = some q → q.channel = some tx →
      (∃ q₀, qs[k]? = some q₀ ∧ q₀.channel = some tx) ∨ (tx = s.oneshots.length ∧
        s'.oneshots[tx]? = some .empty ∧ e = .call k ⟨.oneshot, tx⟩) := by
    intro k q tx hk htx
    rcases step_channel hstep hk htx with hold | ⟨rfl, id, rfl, -, -⟩
    · exact Or.inl hold
    · refine Or.inr ⟨rfl, ?_, rfl⟩
      cases hstep with
      | call _ _ hdoes =>
          generalize hanswer : s.oneshots.length = answer at hdoes
          cases hdoes
          exact List.getElem?_concat_length
  refine ⟨?_, ?_, ?_, ?_, ?_, ?_, ?_⟩
  · intro k k' q q' tx hk hk' htx htx'
    rcases hnew hk htx with ⟨q₀, hk₀, htx₀⟩ | ⟨rfl, -, rfl⟩
    · rcases hnew hk' htx' with ⟨q₀', hk₀', htx₀'⟩ | ⟨rfl, -, -⟩
      · exact h.owner k k' q₀ q₀' tx hk₀ hk₀' htx₀ htx₀'
      · exact absurd (h.named k q₀ _ hk₀ htx₀) (by omega)
    · rcases hnew hk' htx' with ⟨q₀', hk₀', htx₀'⟩ | ⟨-, -, heq⟩
      · exact absurd (h.named k' q₀' _ hk₀' htx₀') (by omega)
      · cases heq
        rfl
  · intro k q tx hk htx
    rcases hnew hk htx with ⟨q₀, hk₀, htx₀⟩ | ⟨-, hempty, -⟩
    · exact (h.named k q₀ tx hk₀ htx₀).trans_le hlength
    · exact (List.getElem?_eq_some_iff.1 hempty).1
  · intro j tx response hj
    rcases step_delivering hstep hj with hj | ⟨serial, -, -, -, -, -, hget, -⟩
    · exact (h.taken j tx response hj).trans_le hlength
    · exact (List.getElem?_eq_some_iff.1 (h.empty serial tx hget)).1.trans_le hlength
  · intro id tx hget
    rcases step_table hstep hget with hold | ⟨k, rfl, hk⟩
    · obtain ⟨k, q, hk, hentry⟩ := h.table id tx hold
      rcases step_entry_lost hstep hk hentry with hkept | hfull | hnone
      · exact ⟨k, hkept⟩
      · exact absurd (h.empty id tx hold) hfull
      · rw [hnone] at hget
        cases hget
    · cases hstep with
      | call hj hmoves hdoes =>
          rw [hj] at hk
          cases hk
          cases hmoves
          exact ⟨k, _, (Guide.get_set hj _ _).trans (if_pos rfl), rfl⟩
  · intro id tx hget
    rcases step_table hstep hget with hold | ⟨k, rfl, hk⟩
    · rcases step_empty hstep (h.empty id tx hold) with hempty | ⟨j, response, hj⟩ | ⟨id', hget', hlost⟩
      · exact hempty
      · exact absurd hold ((h.apart j tx response hj).1 id)
      · obtain rfl := h.table_inj hold hget'
        rcases hlost with hnone | ⟨k, tx', hk, hget'⟩
        · rw [hnone] at hget
          cases hget
        · rw [hget] at hget'
          cases hget'
          exact absurd hk (h.not_inserting hold)
    · rcases step_empty hstep (h.ready k id tx hk) with hempty | ⟨j, response, hj⟩ | ⟨id', hget', -⟩
      · exact hempty
      · exact absurd hk ((h.apart j tx response hj).2 k id)
      · exact absurd hk (h.not_inserting hget')
  · intro k id tx hk
    rcases step_inserting hstep hk with hk | ⟨-, hempty⟩
    · rcases step_empty hstep (h.ready k id tx hk) with hempty | ⟨j, response, hj⟩ | ⟨id', hget', -⟩
      · exact hempty
      · exact absurd hk ((h.apart j tx response hj).2 k id)
      · exact absurd hk (h.not_inserting hget')
    · exact hempty
  · intro j tx response hj
    rcases step_delivering hstep hj with hj | ⟨serial, msgId, payload, rfl, hj, -, hget, rfl⟩
    · have htaken := h.taken j tx response hj
      obtain ⟨htable, hinserting⟩ := h.apart j tx response hj
      refine ⟨fun id hget => ?_, fun k id hk => ?_⟩
      · rcases step_table hstep hget with hold | ⟨k, -, hk⟩
        · exact htable id hold
        · exact hinserting k id hk
      · rcases step_inserting hstep hk with hk | ⟨rfl, -⟩
        · exact hinserting k id hk
        · omega
    · -- the sender has left the table
      have htx := (List.getElem?_eq_some_iff.1 (h.empty serial tx hget)).1
      refine ⟨fun id hget' => ?_, fun k id hk => ?_⟩
      · rw [RpcManager.removePending, Table.get_remove] at hget'
        split_ifs at hget' with hid
        exact hid (h.table_inj hget' hget)
      · rcases step_inserting hstep hk with hk | ⟨rfl, -⟩
        · exact h.not_inserting hget hk
        · omega

/-! ### Where an answer comes from -/

theorem Happened.mono {events : List RpcEvent} (h : Happened events trace) :
    Happened events (trace ++ [(pool, e)]) := by
  rw [Happened, List.map_append]
  exact h.trans (List.sublist_append_left ..)

theorem Happened.snoc {events : List RpcEvent} (h : Happened events trace) :
    Happened (events ++ [e]) (trace ++ [(pool, e)]) := by
  rw [Happened, List.map_append]
  exact h.append (List.Sublist.refl _)

theorem mem_events_snoc {e' : RpcEvent} (h : e' ∈ trace.map Prod.snd) :
    e' ∈ (trace ++ [(pool, e)]).map Prod.snd := by
  rw [List.map_append]
  exact List.mem_append_left _ h

/-- The response is what a resolve call made of its message; it took the sender out of the table under the
id of whoever listens. -/
def Resolved (m : MessageMap) (trace : RpcTrace) (qs : List Phase) (tx : Nat) (response : PendingResponse) :
    Prop :=
  ∃ j serial msgId payload, response = decodeResponse m msgId payload ∧
    (.input j (.resolve serial msgId payload) : RpcEvent) ∈ trace.map Prod.snd ∧
    ∀ k q, qs[k]? = some q → q.channel = some tx →
      Happened [allocates k serial, inserts k serial tx, takes j serial tx] trace

theorem Resolved.step (h : Resolved m trace qs tx response) (htx : tx < s.oneshots.length)
    (hstep : (rpcGuide m).Step (s, qs) e (s', qs')) : Resolved m (trace ++ [(pool, e)]) qs' tx response := by
  obtain ⟨j, serial, msgId, payload, hresponse, hinput, hhappened⟩ := h
  refine ⟨j, serial, msgId, payload, hresponse, mem_events_snoc hinput, fun k q hk hchannel => ?_⟩
  rcases step_channel hstep hk hchannel with ⟨q₀, hk₀, hchannel₀⟩ | ⟨rfl, -⟩
  · exact (hhappened k q₀ hk₀ hchannel₀).mono
  · omega

theorem step_sent (h : (rpcGuide m).Step (s, qs) e (s', qs'))
    (hsent : s'.oneshots[tx]? = some (.sent response)) :
    s.oneshots[tx]? = some (.sent response) ∨ ∃ j : Nat, qs[j]? = some (.delivering tx response) := by
  have hdrop : ∀ txs, (dropSenders s.oneshots txs)[tx]? = some (.sent response) →
      s.oneshots[tx]? = some (.sent response) := by
    intro txs hget
    rw [getElem?_dropSenders] at hget
    split_ifs at hget
    · simp at hget
    · exact hget
  cases h with
  | opens h =>
      rw [h.2] at hsent
      exact Or.inl hsent
  | input => exact Or.inl hsent
  | environment h => exact h.elim
  | call hk hmoves hdoes =>
      cases hdoes with
      | oneshot =>
          refine Or.inl ?_
          dsimp only at hsent
          rw [List.getElem?_append] at hsent
          split_ifs at hsent
          · exact hsent
          · obtain ⟨_, heq⟩ := List.getElem?_eq_some_iff.1 hsent
            rw [List.getElem_singleton] at heq
            cases heq
      | insertPending | removePending | clearPending => exact Or.inl (hdrop _ hsent)
      | send tx' response' =>
          dsimp only at hsent
          rw [List.getElem?_set] at hsent
          split_ifs at hsent with htx
          · subst htx
            cases hsent
            cases hmoves
            exact Or.inr ⟨_, hk⟩
          · exact Or.inl hsent
      | _ => exact Or.inl hsent

/-- What has happened to a caller in its phase, and to the channels that carry an answer. -/
structure Journal (m : MessageMap) (trace : RpcTrace) (s : RpcShared) (qs : List Phase) : Prop where
  allocated : ∀ (k : Nat) q id, qs[k]? = some q → q.requestId = some id →
    Happened [allocates k id] trace
  inserted : ∀ (k : Nat) q id tx, qs[k]? = some q → q.entry = some (id, tx) →
    Happened [allocates k id, inserts k id tx] trace
  called : ∀ (j : Nat) serial msgId payload, qs[j]? = some (.taking serial msgId payload) →
    (.input j (.resolve serial msgId payload) : RpcEvent) ∈ trace.map Prod.snd
  delivering : ∀ (j : Nat) tx response, qs[j]? = some (.delivering tx response) →
    Resolved m trace qs tx response
  sent : ∀ (tx : Nat) response, s.oneshots[tx]? = some (.sent response) → Resolved m trace qs tx response
  answered : ∀ (k : Nat) id tx response, qs[k]? = some (.answered id tx response) →
    ∃ requestId tx j msgId payload, response = decodeResponse m msgId payload ∧
      (.input j (.resolve requestId msgId payload) : RpcEvent) ∈ trace.map Prod.snd ∧
      Happened [allocates k requestId, inserts k requestId tx, takes j requestId tx, receives k tx response]
        trace

theorem Journal.step (h : Journal m trace pool.shared qs) (hchannels : Channels pool.shared qs)
    (hstep : (rpcGuide m).Step (pool.shared, qs) e (s', qs')) :
    Journal m (trace ++ [(pool, e)]) s' qs' := by
  have hsent : ∀ tx response, pool.shared.oneshots[tx]? = some (.sent response) →
      Resolved m (trace ++ [(pool, e)]) qs' tx response := fun tx response hsent =>
    (h.sent tx response hsent).step (List.getElem?_eq_some_iff.1 hsent).1 hstep
  have hdelivering : ∀ (j : Nat) tx response, qs[j]? = some (.delivering tx response) →
      Resolved m (trace ++ [(pool, e)]) qs' tx response := fun j tx response hj =>
    (h.delivering j tx response hj).step (hchannels.taken j tx response hj) hstep
  refine ⟨?_, ?_, ?_, ?_, ?_, ?_⟩
  · intro k q id hk hid
    rcases step_requestId hstep hk hid with ⟨q₀, hk₀, hid₀⟩ | ⟨rfl, -⟩
    · exact (h.allocated k q₀ id hk₀ hid₀).mono
    · exact Happened.snoc (List.nil_sublist _)
  · intro k q id tx hk hentry
    rcases step_entry hstep hk hentry with ⟨q₀, hk₀, hentry₀⟩ | ⟨rfl, hk₀⟩
    · exact (h.inserted k q₀ id tx hk₀ hentry₀).mono
    · exact (h.allocated k _ id hk₀ rfl).snoc
  · intro j serial msgId payload hj
    rcases step_phase hstep hj with hj | hidle | ⟨call, rfl, hbegins⟩ | ⟨q₀, op, answer, -, -, hmoves, -⟩
    · exact mem_events_snoc (h.called j serial msgId payload hj)
    · cases hidle
    · cases hbegins
      simp
    · cases hmoves
  · intro j tx response hj
    rcases step_delivering hstep hj with hj | ⟨serial, msgId, payload, rfl, hj₀, rfl, hget, -⟩
    · exact hdelivering j tx response hj
    · refine ⟨j, serial, msgId, payload, rfl, mem_events_snoc (h.called j serial msgId payload hj₀), ?_⟩
      intro k q hk hchannel
      -- the listener is the caller whose entry it is
      obtain ⟨k', q', hk', hentry⟩ := hchannels.table serial tx hget
      have htx := (List.getElem?_eq_some_iff.1 (hchannels.empty serial tx hget)).1
      rcases step_channel hstep hk hchannel with ⟨q₀, hk₀, hchannel₀⟩ | ⟨rfl, -⟩
      · obtain rfl := hchannels.owner k' k q' q₀ tx hk' hk₀ (Phase.requestId_of_entry hentry).2 hchannel₀
        exact (h.inserted k' q' serial tx hk' hentry).snoc
      · omega
  · intro tx response hget
    rcases step_sent hstep hget with hget | ⟨j, hj⟩
    · exact hsent tx response hget
    · exact hdelivering j tx response hj
  · intro k id tx response hk
    rcases step_phase hstep hk with hk | hidle | ⟨call, -, hbegins⟩ | ⟨q₀, op, answer, rfl, hk₀, hmoves, hdoes⟩
    · obtain ⟨requestId, tx, j, msgId, payload, hresponse, hinput, hhappened⟩ := h.answered k id tx response hk
      exact ⟨requestId, tx, j, msgId, payload, hresponse, mem_events_snoc hinput, hhappened.mono⟩
    · cases hidle
    · cases hbegins
    · cases hmoves
      cases hdoes with
      | received hget =>
          obtain ⟨j, serial, msgId, payload, hresponse, hinput, hhappened⟩ := h.sent tx response hget
          exact ⟨serial, tx, j, msgId, payload, hresponse, mem_events_snoc hinput,
            (hhappened k _ hk₀ rfl).snoc⟩

/-! ### A serial is resolved once -/

/-- After a resolve call that returned true, the serial has no entry and nobody is about to make one, until
it is given out again. -/
def Spent (trace : RpcTrace) (s : RpcShared) (qs : List Phase) : Prop :=
  ∀ l l' j serial tx, trace.map Prod.snd = l ++ takes j serial tx :: l' →
    (∀ k, allocates k serial ∉ l') →
    s.rpc.pendingRequests.get serial = none ∧
      ∀ (k : Nat) q, qs[k]? = some q → q.unregistered ≠ some serial

theorem Spent.step (h : Spent trace pool.shared qs) (hnumbered : Numbered trace pool.shared qs)
    (hchannels : Channels pool.shared qs) (hstep : (rpcGuide m).Step (pool.shared, qs) e (s', qs')) :
    Spent (trace ++ [(pool, e)]) s' qs' := by
  intro l l' j serial tx hevents hnone
  rw [List.map_append, List.map_singleton] at hevents
  rcases List.eq_nil_or_concat l' with rfl | ⟨l', last, rfl⟩
  · -- the step itself is the resolve call's
    obtain ⟨-, he⟩ := List.append_inj' hevents rfl
    obtain rfl : e = takes j serial tx := (List.cons.inj he).1
    have htake : pool.shared.rpc.pendingRequests.get serial = some tx ∧
        s' = { pool.shared with rpc := pool.shared.rpc.removePending serial } := by
      cases hstep with
      | call _ _ hdoes =>
          generalize hanswer : some tx = answer at hdoes
          cases hdoes
          exact ⟨rfl, rfl⟩
    obtain ⟨hget, rfl⟩ := htake
    refine ⟨Table.get_remove_self .., fun k q hk hunregistered => ?_⟩
    rcases step_unregistered hstep hk hunregistered with ⟨q₀, hk₀, hunregistered₀⟩ | heq
    · obtain ⟨k', q', hk', hentry⟩ := hchannels.table serial tx hget
      obtain rfl := hnumbered.distinct hk₀ hk' (Phase.requestId_of_unregistered hunregistered₀)
        (Phase.requestId_of_entry hentry).1
      rw [hk₀] at hk'
      obtain rfl := Option.some.inj hk'
      rw [Phase.unregistered_of_entry hentry] at hunregistered₀
      cases hunregistered₀
    · cases heq
  · rw [List.concat_eq_append, ← List.cons_append, ← List.append_assoc] at hevents
    obtain ⟨hbefore, he⟩ := List.append_inj' hevents rfl
    obtain rfl : e = last := (List.cons.inj he).1
    rw [List.concat_eq_append] at hnone
    obtain ⟨hget, hphases⟩ := h l l' j serial tx hbefore fun k hk => hnone k (List.mem_append_left _ hk)
    have hother : ∀ k, e ≠ allocates k serial := by
      rintro k rfl
      exact hnone k (by simp)
    refine ⟨?_, fun k q hk hunregistered => ?_⟩
    · rw [Option.eq_none_iff_forall_ne_some]
      intro tx' hget'
      rcases step_table hstep hget' with hold | ⟨k, -, hk⟩
      · rw [hget] at hold
        cases hold
      · exact hphases k _ hk rfl
    · rcases step_unregistered hstep hk hunregistered with ⟨q₀, hk₀, hunregistered₀⟩ | heq
      · exact hphases k q₀ hk₀ hunregistered₀
      · exact hother k heq

/-! ### How far a call can go -/

/-- The steps that a call has left. -/
def Phase.left : Phase → Nat
  | .idle => 7
  | .allocating => 6
  | .opening _ => 5
  | .inserting _ _ => 4
  | .sending _ _ => 3
  | .waiting _ _ | .taking _ _ _ | .disconnecting => 2
  | .abandoning _ _ _ | .delivering _ _ | .connecting | .clearing => 1
  | .answered _ _ _ | .failed _ _ | .returned => 0

/-- The steps that a caller has done and has left. -/
def Short (trace : RpcTrace) (qs : List Phase) : Prop :=
  ∀ k, (own k trace).length + ((qs[k]?).elim 7 Phase.left) ≤ 7

theorem Phase.Moves.left_lt {op : RpcOp} {answer : op.Answer} {q' : Phase} (h : Phase.Moves m q op answer q') :
    q'.left < q.left := by
  cases h <;> simp [Phase.left]

theorem Short.step (h : Short trace qs) (hstep : (rpcGuide m).Step (s, qs) e (s', qs')) :
    Short (trace ++ [(pool, e)]) qs' := by
  intro k
  have hk := h k
  rw [own_snoc, List.length_append]
  have hset : ∀ {j : Nat} {q q' : Phase}, qs[j]? = some q → q'.left < q.left → ∀ o : Option (Own rpcOps RpcCall),
      (o.isSome → k = j) → (own k trace).length +
        (o.map fun o => (pool.shared, o)).toList.length + ((qs.set j q')[k]?).elim 7 Phase.left ≤ 7 := by
    intro j q q' hj hlt o ho
    rw [Guide.get_set hj]
    split_ifs with hkj
    · subst hkj
      rw [hj, Option.elim_some] at hk
      rw [Option.elim_some]
      have hle : (o.map fun o => (pool.shared, o)).toList.length ≤ 1 := by cases o <;> simp
      omega
    · have hnone : o = none := by
        rw [← Option.not_isSome_iff_eq_none]
        exact fun hsome => hkj (ho hsome)
      subst hnone
      exact hk
  cases hstep with
  | @opens _ _ _ l _ =>
      have hidle : ((qs ++ [(rpcGuide m).fresh qs.length l])[k]?).elim 7 Phase.left =
          (qs[k]?).elim 7 Phase.left := by
        rw [List.getElem?_append]
        split_ifs with hlt
        · rfl
        · rw [List.getElem?_eq_none (Nat.not_lt.1 hlt)]
          rcases hone : ([(rpcGuide m).fresh qs.length l] : List Phase)[k - qs.length]? with _ | q
          · rfl
          · obtain ⟨_, heq⟩ := List.getElem?_eq_some_iff.1 hone
            rw [List.getElem_singleton] at heq
            rw [← heq]
            rfl
      rw [hidle]
      exact hk
  | @input _ _ j q q' _ call hj hstops _ hbegins =>
      have hlt : q'.left < q.left := by cases hbegins <;> simp [Phase.left]
      refine hset hj hlt _ fun hsome => ?_
      rw [Event.own] at hsome
      split_ifs at hsome with hjk
      · exact hjk.symm
      · cases hsome
  | @call _ _ _ j q q' op answer hj hmoves _ =>
      refine hset hj hmoves.left_lt _ fun hsome => ?_
      rw [Event.own] at hsome
      split_ifs at hsome with hjk
      · exact hjk.symm
      · cases hsome
  | environment h => exact h.elim

theorem Channels.enabled (h : Channels s qs) (hk : qs[k]? = some q) {op : RpcOp}
    (hmoves : ∀ answer, ∃ q', Phase.Moves m q op answer q') : ∃ answer s', RpcDoes s op answer s' := by
  cases op with
  | nextRequestId => exact ⟨_, _, .nextRequestId s⟩
  | oneshot => exact ⟨_, _, .oneshot s⟩
  | insertPending requestId tx => exact ⟨_, _, .insertPending s requestId tx⟩
  | trySend frame => exact ⟨_, _, .unsent s frame ""⟩
  | removePending requestId => exact ⟨_, _, .removePending s requestId⟩
  | receive rx =>
      obtain ⟨q', hmove⟩ := hmoves .closed
      cases hmove
      obtain ⟨oneshot, hget⟩ : ∃ oneshot, s.oneshots[rx]? = some oneshot :=
        ⟨_, List.getElem?_eq_getElem (h.named k _ rx hk rfl)⟩
      cases oneshot with
      | empty => exact ⟨_, _, .elapsed hget⟩
      | sent response => exact ⟨_, _, .received hget⟩
      | closed => exact ⟨_, _, .closed hget⟩
  | takePending serial => exact ⟨_, _, .takePending s serial⟩
  | send tx response => exact ⟨_, _, .send s tx response⟩
  | setGatewayTx => exact ⟨_, _, .setGatewayTx s⟩
  | clearGatewayTx => exact ⟨_, _, .clearGatewayTx s⟩
  | clearPending => exact ⟨_, _, .clearPending s⟩

theorem HasReturned.step {pool' : RpcPool} {returned : Returned} (h : HasReturned pool k returned)
    (hstep : Pool.Step (rpcSystem m) pool e pool') : HasReturned pool' k returned := by
  rw [HasReturned] at h ⊢
  cases hstep with
  | opens _ =>
      rw [List.getElem?_append_left (List.getElem?_eq_some_iff.1 h).1]
      exact h
  | input hidle hhandle =>
      rw [List.getElem?_set_ne ?_]
      · exact h
      · rintro rfl
        rw [hidle] at h
        cases h
        cases hhandle
  | call hbusy _ =>
      rw [List.getElem?_set_ne ?_]
      · exact h
      · rintro rfl
        rw [hbusy] at h
        cases h
  | environment h => exact h.elim

theorem result_inj {response' : PendingResponse} (h : response.result = response'.result) :
    response = response' := by
  cases response <;> cases response' <;> simp_all [PendingResponse.result]

/-- Everything that is kept of a run. -/
structure Kept (m : MessageMap) (trace : RpcTrace) (s : RpcShared) (qs : List Phase) : Prop where
  numbered : Numbered trace s qs
  channels : Channels s qs
  journal : Journal m trace s qs
  spent : Spent trace s qs
  short : Short trace qs

theorem Kept.start (m : MessageMap) : Kept m [] {} [] := by
  refine ⟨⟨rfl, ?_, ?_, ?_⟩, ⟨?_, ?_, ?_, ?_, ?_, ?_, ?_⟩, ⟨?_, ?_, ?_, ?_, ?_, ?_⟩, ?_, fun k => by simp [own]⟩
  all_goals simp [issued, Spent]

theorem kept_of_run (hrun : Run (Pool.Step (rpcSystem m)) ⟨{}, []⟩ trace pool) (hfew : FewRequests trace) :
    ∃ qs, (rpcGuide m).Tracks qs pool.threads ∧ Kept m trace pool.shared qs := by
  obtain ⟨qs, htracks, hkept⟩ := (rpcGuide m).invariant rfl hrun (fun _ _ => True) (fun _ _ => trivial)
    (fun trace s qs => FewRequests trace → Kept m trace s qs) (fun _ => .start m)
    fun trace pool qs e s' qs' htracks ih _ hstep hfew => by
      have h := ih hfew.of_append
      exact ⟨h.numbered.step htracks hfew hstep, h.channels.step hstep, h.journal.step h.channels hstep,
        h.spent.step h.numbered h.channels hstep, h.short.step hstep⟩
  exact ⟨qs, htracks, hkept hfew⟩

theorem issued_eq (trace : RpcTrace) : issued trace = (trace.map Prod.snd).filterMap issuedId := by
  rw [List.filterMap_map]
  rfl

theorem eq_allocates (h : issuedId e = some (k, id)) : e = allocates k id := by
  unfold issuedId at h
  split at h
  · cases h
    rfl
  · cases h

theorem requestId_of_hasReturned {returned : Returned} (h : HasReturned pool k returned)
    (htracks : (rpcGuide m).Tracks qs pool.threads) (hk : qs[k]? = some q) : q.requestId = none := by
  obtain ⟨p, hp, hfollows⟩ := htracks.get' hk
  rw [HasReturned, hp] at h
  obtain rfl := Option.some.inj h
  have hstops : Phase.Stops q (some returned) := hfollows.of_ret
  cases hstops <;> rfl

/-- **Requests.** While fewer than `2^31 - 1` requests are issued during one of them, every call returns
one result, an answer is the one to the caller's own id, a serial is resolved once, and a caller that has
returned leaves no entry. -/
theorem outcomes_of_run (hrun : Run (Pool.Step (rpcSystem m)) ⟨{}, []⟩ trace pool)
    (hfew : FewRequests trace) : Outcomes m trace pool := by
  obtain ⟨qs, htracks, hkept⟩ := kept_of_run hrun hfew
  refine ⟨?_, ?_, ?_, ?_, ?_, ?_⟩
  · intro k op next hbusy
    obtain ⟨q, hk, hfollows⟩ := htracks.get hbusy
    obtain ⟨answer, s', hdoes⟩ := hkept.channels.enabled (m := m) hk fun answer => by
      obtain ⟨q', hmoves, -⟩ := hfollows.step answer
      exact ⟨q', hmoves⟩
    exact ⟨answer, _, .call hbusy hdoes⟩
  · exact fun k => Nat.le_of_add_right_le (hkept.short k)
  · apply hrun.invariant_trace
    · simp
    · intro l s a s' _ ih hstep e he k returned h
      rcases List.mem_append.1 he with he | he
      · exact (ih e he k returned h).step hstep
      · rw [List.mem_singleton.1 he] at h
        exact h.step hstep
  · intro k response h
    obtain ⟨q, hk, hfollows⟩ := htracks.get h
    have hstops : Phase.Stops q _ := hfollows.of_ret
    generalize hresult : (some (Returned.result response.result)) = l at hstops
    cases hstops with
    | answered requestId tx response' =>
        obtain rfl := result_inj (Returned.result.inj (Option.some.inj hresult))
        exact hkept.journal.answered k requestId tx response hk
    | failed requestId hunanswered =>
        have herror := Returned.result.inj (Option.some.inj hresult)
        cases response <;> simp [PendingResponse.result] at herror <;> subst herror <;> cases hunanswered
    | _ => cases hresult
  · intro l l' l'' j j' serial tx tx' hevents
    by_contra hnone
    rw [not_exists] at hnone
    obtain ⟨t, t₁, htrace, ht, ht₁⟩ := List.map_eq_append_iff.1 hevents
    obtain ⟨e₁, t₂, rfl, he₁, ht₂⟩ := List.map_eq_cons_iff.1 ht₁
    obtain ⟨t₂, t₃, rfl, ht', ht₃⟩ := List.map_eq_append_iff.1 ht₂
    obtain ⟨e₂, t₄, rfl, he₂, -⟩ := List.map_eq_cons_iff.1 ht₃
    rw [← List.cons_append, ← List.append_assoc] at htrace
    obtain ⟨hbefore, s', hstep⟩ := hrun.split htrace
    rw [htrace] at hfew
    obtain ⟨qs', -, hkept'⟩ := kept_of_run hbefore hfew.of_append
    obtain ⟨hget, -⟩ := hkept'.spent l l' j serial tx (by rw [List.map_append, List.map_cons, ht, ht', he₁]) hnone
    rw [he₂] at hstep
    cases hstep with
    | call _ hdoes =>
        generalize hanswer : some tx' = answer at hdoes
        cases hdoes
        rw [hget] at hanswer
        cases hanswer
  · intro l l' k requestId returned hevents hlast hreturned
    rw [Option.eq_none_iff_forall_ne_some]
    intro tx hget
    obtain ⟨k', q, hk', hentry⟩ := hkept.channels.table requestId tx hget
    have hid := (Phase.requestId_of_entry hentry).1
    obtain ⟨n', hn'⟩ := hkept.numbered.number k' q requestId hk' hid
    have hrecent := hkept.numbered.recent n' k' requestId q hn' hk' (by rw [hid]; rfl)
    have hids := hkept.numbered.ids
    have hissued : issued trace = l.filterMap issuedId ++ (k, requestId) :: l'.filterMap issuedId := by
      rw [issued_eq, hevents, List.filterMap_append]
      rfl
    rw [hissued] at hn' hrecent hids
    have hn := hids (l.filterMap issuedId).length k requestId (by simp)
    have hmod := seedOf_inj ((hids n' k' requestId hn').symm.trans hn)
    rw [List.length_append, List.length_cons] at hrecent
    rcases Nat.lt_trichotomy n' (l.filterMap issuedId).length with hlt | rfl | hlt
    · omega
    · -- it would be the caller's own entry
      rw [List.getElem?_append_right (Nat.le_refl _), Nat.sub_self, List.getElem?_cons_zero] at hn'
      obtain ⟨rfl, -⟩ := Prod.mk.inj (Option.some.inj hn')
      rw [requestId_of_hasReturned hreturned htracks hk'] at hid
      cases hid
    · rw [List.getElem?_append_right hlt.le, List.getElem?_cons, if_neg (by omega)] at hn'
      obtain ⟨e, he, hissue⟩ := List.mem_filterMap.1 (List.mem_of_getElem? hn')
      rw [eq_allocates hissue] at he
      exact hlast k' he

theorem fewRequests_of_length (h : (issued trace).length < 2 ^ 31 - 1) : FewRequests trace := by
  rintro l e l' rfl - n k requestId - -
  rw [issued, List.filterMap_append, List.length_append] at h
  rw [issued]
  omega

end Steps

namespace Sample

/-- Every message is read as a pong. -/
def pongs : MessageMap where
  encode _ := (0, [])
  decode _ _ := .ok (.serverPongResp 1)

end Sample

/-- A request whose answer comes under its id, which is 2. -/
theorem outcomes_of_run_answered : ∃ trace pool, Run (Pool.Step (rpcSystem Sample.pongs)) ⟨{}, []⟩ trace pool ∧
    Outcomes Sample.pongs trace pool ∧ HasReturned pool 0 (.result (.ok (.serverPongResp 1))) := by
  have hopen := ((.start : Run (Pool.Step (rpcSystem Sample.pongs)) ⟨{}, []⟩ [] ⟨{}, []⟩).next
    (.opens (l := none) ⟨rfl, rfl⟩)).next (.opens (l := none) ⟨rfl, rfl⟩) |>.next (.opens (l := none) ⟨rfl, rfl⟩)
  have hconnect := (hopen.next (.input (k := 1) (e := .setGatewayTx) rfl rfl)).next
    (.call (k := 1) rfl (.setGatewayTx _))
  have hrequest := (hconnect.next (.input (k := 0) (e := .requestGateway (.serverPingReq 1)) rfl rfl)).next
    (.call (k := 0) rfl (.nextRequestId _))
  have hregister := (hrequest.next (.call (k := 0) rfl (.oneshot _))).next
    (.call (k := 0) rfl (.insertPending _ _ _))
  have hsend := hregister.next (.call (k := 0) rfl (.sent _ rfl))
  have hresolve := (hsend.next (.input (k := 2) (e := .resolve 2 0 []) rfl rfl)).next
    (.call (k := 2) rfl (.takePending _ _))
  have hanswer := (hresolve.next (.call (k := 2) rfl (.send _ _ _))).next
    (.call (k := 0) rfl (.received rfl))
  exact ⟨_, _, hanswer, outcomes_of_run hanswer (fewRequests_of_length (by decide)), rfl⟩

end AxmolFighter.Backend.Requests
