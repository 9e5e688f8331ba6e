import AxmolFighter.Backend.Dispatch
import AxmolFighter.Exchange.Frames

/-!
# A backend process

The tasks of a process take turns: callers of `request_server_timeout`, of which there may be any number, the
task of the gateway client with its read loop, and the dispatcher of messages from other servers. What is kept
of a process is what they share. Beside it stand a record of what has completed which request, and for what a
frame was written; the process looks at neither.

A request is named by its place among the requests of the process, and so is its oneshot channel. A message of
the gateway is named by its place among all that the gateway has put on its channels.
-/

namespace AxmolFighter.Exchange

open Backend (Action Handled PendingResponse RpcManager ServerSource handleFrame)
open Backend.GatewayClient (Fits registrationAnswer)
open Gateway (WriterMessage)

/-- A call of `request_server_timeout` with the id that it has got. -/
structure Request where
  id : Int32
  target : ServerSource
  msg : Message
deriving DecidableEq

/-- Where a request is. Its caller does nothing more once it has an answer or its sender is lost. -/
inductive Phase
  | allocated
  | inserted
  | waiting
  /-- The frame could not be sent, or the time is over. -/
  | failing
  | done
deriving DecidableEq

/-- Where the task of the gateway client is: on which connection, and how many of its messages it has read. -/
inductive Stage
  | away
  | registering (k read : Nat)
  | connected (k read : Nat)
  | clearing
deriving DecidableEq

/-- What a frame is written for: a request, or a reply to what a message of the gateway has brought. -/
inductive Purpose
  | registration
  | request (request : Nat)
  | reply (message : Nat)
  | push
  | pong
deriving DecidableEq

abbrev Written := BackendFrame × Purpose

/-- A request that is no longer pending, the message that was read, and what the caller is given. -/
structure Completion where
  request : Nat
  message : Nat
  response : PendingResponse
deriving DecidableEq

structure Process where
  stage : Stage := .away
  rpc : RpcManager := {}
  requests : List Request := []
  phases : Nat → Phase := fun _ => .allocated
  /-- `server_dispatch_tx`: what is to become of a frame, and the message that has brought it. -/
  queue : List (Action × Nat) := []
  completions : List Completion := []

inductive Act
  | call (target : ServerSource) (msg : Message)
  | insertPending (request : Nat)
  | send (request : Nat)
  | fail (request : Nat)
  | removePending (request : Nat)
  | push (target : ServerSource) (msg : Message)
  | read
  /-- The dispatcher is done with the head of its queue; the delegate, or the framework for it, gives `resp`. -/
  | answer (resp : Message)
  | disconnect
  | clearPending
deriving DecidableEq

/-- The dispatcher gets it. -/
def dispatched : Action → Bool
  | .serverPush _ _ | .serverRequest _ _ _ | .serverError _ _ => true
  | _ => false

/-- To whom the dispatcher replies, and with which serial. -/
def replyTo : Action → Option (ServerSource × Int32)
  | .serverRequest source _ reply | .serverError source reply => some (source, reply)
  | _ => none

namespace Process

variable (m : MessageMap) (id : UInt32 × UInt32) (inbox : Nat → Nat → Option (Nat × WriterMessage)) (p : Process)

def gatewayTx : Option Nat :=
  match p.stage with
  | .connected k _ => some k
  | _ => none

/-- `try_send_frame_msg`: without a connection nothing is written. -/
def trySend (frame : BackendFrame) (purpose : Purpose) : Option (Nat × Written) :=
  p.gatewayTx.map fun k => (k, frame, purpose)

def call (target : ServerSource) (msg : Message) : Process :=
  { p with
    rpc := p.rpc.nextRequestId.2
    requests := p.requests ++ [{ id := p.rpc.nextRequestId.1, target, msg }] }

def setPhase (request : Nat) (phase : Phase) : Process :=
  { p with phases := Function.update p.phases request phase }

/-- After the read loop has handled the `i`-th message of the gateway. -/
def received (k read i : Nat) (handled : Handled) : Process :=
  { p with
    stage := .connected k read
    rpc := handled.rpc
    queue := if dispatched handled.action then p.queue ++ [(handled.action, i)] else p.queue
    completions := p.completions ++
      (handled.completed.map fun c => { request := c.1, message := i, response := c.2 }).toList }

/-- The answer to a ping. -/
def pong (action : Action) : Option (Nat × Written) :=
  match action with
  | .pong nonce sessionId => p.trySend (pongFrame m nonce sessionId) .pong
  | _ => none

/-- The next message on connection `k`, if it is a frame that can be read. -/
def nextFrame (k read : Nat) : Option (Nat × BackendFrame) :=
  match inbox k read with
  | some (i, .toBackend data) => if Fits (data.frame m) then some (i, data.frame m) else none
  | _ => none

/-- One step of a task, with the frame that it writes. -/
def act : Act → Option (Process × Option (Nat × Written))
  | .call target msg => some (p.call target msg, none)
  | .insertPending c =>
      match p.phases c, p.requests[c]? with
      | .allocated, some request =>
          some ({ p.setPhase c .inserted with rpc := p.rpc.insertPending request.id c }, none)
      | _, _ => none
  | .send c =>
      match p.phases c, p.requests[c]?, p.gatewayTx with
      | .inserted, some request, some k =>
          some (p.setPhase c .waiting,
            some (k, serverFrame m id request.target request.msg (-request.id), .request c))
      | _, _, _ => none
  | .fail c =>
      match p.phases c with
      | .inserted | .waiting => some (p.setPhase c .failing, none)
      | _ => none
  | .removePending c =>
      match p.phases c, p.requests[c]? with
      | .failing, some request =>
          some ({ p.setPhase c .done with rpc := p.rpc.removePending request.id }, none)
      | _, _ => none
  | .push target msg => some (p, p.trySend (serverFrame m id target msg 0) .push)
  | .read =>
      match p.stage with
      | .registering k read =>
          (nextFrame m inbox k read).map fun (_, frame) =>
            match registrationAnswer m frame with
            | .ok (some ()) => ({ p with stage := .connected k (read + 1) }, none)
            | .ok none => ({ p with stage := .registering k (read + 1) }, none)
            | .error _ => ({ p with stage := .away }, none)
      | .connected k read =>
          -- Sessions do not matter: nobody sends a client's frame.
          (nextFrame m inbox k read).map fun (i, frame) =>
            (p.received k (read + 1) i (handleFrame m p.rpc ∅ frame), p.pong m (handleFrame m p.rpc ∅ frame).action)
      | _ => none
  | .answer resp =>
      match p.queue with
      | (action, i) :: queue =>
          some ({ p with queue }, (replyTo action).bind fun (source, serial) =>
            p.trySend (serverFrame m id source resp serial) (.reply i))
      | [] => none
  | .disconnect =>
      match p.stage with
      | .registering _ _ => some ({ p with stage := .away }, none)
      | .connected _ _ => some ({ p with stage := .clearing }, none)
      | _ => none
  | .clearPending =>
      match p.stage with
      | .clearing => some ({ p with stage := .away, rpc := p.rpc.clearPending }, none)
      | _ => none

/-! ### What a step does -/

/-- The steps of a process, by what they change. -/
inductive Acts (p : Process) : Act → Process → Option (Nat × Written) → Prop
  | call (target : ServerSource) (msg : Message) : Acts p (.call target msg) (p.call target msg) none
  | insertPending {c : Nat} {request : Request} (hphase : p.phases c = .allocated)
      (hrequest : p.requests[c]? = some request) : Acts p (.insertPending c)
        { p.setPhase c .inserted with rpc := p.rpc.insertPending request.id c } none
  | send {c k : Nat} {request : Request} (hphase : p.phases c = .inserted)
      (hrequest : p.requests[c]? = some request) (hgateway : p.gatewayTx = some k) :
      Acts p (.send c) (p.setPhase c .waiting)
        (some (k, serverFrame m id request.target request.msg (-request.id), .request c))
  | fail (c : Nat) : Acts p (.fail c) (p.setPhase c .failing) none
  | removePending {c : Nat} {request : Request} (hrequest : p.requests[c]? = some request) :
      Acts p (.removePending c) { p.setPhase c .done with rpc := p.rpc.removePending request.id } none
  | push (target : ServerSource) (msg : Message) :
      Acts p (.push target msg) p (p.trySend (serverFrame m id target msg 0) .push)
  | register {k read : Nat} (hstage : p.stage = .registering k read) (stage : Stage)
      (hafter : ∀ k' read', stage = .registering k' read' ∨ stage = .connected k' read' → k' = k) :
      Acts p .read { p with stage } none
  | read {k n i : Nat} {data : ToBackend} (hstage : p.stage = .connected k n)
      (hmessage : inbox k n = some (i, .toBackend data)) (hfits : Fits (data.frame m)) :
      Acts p .read (p.received k (n + 1) i (handleFrame m p.rpc ∅ (data.frame m)))
        (p.pong m (handleFrame m p.rpc ∅ (data.frame m)).action)
  | answer {action : Action} {i : Nat} {queue : List (Action × Nat)} (hqueue : p.queue = (action, i) :: queue)
      (resp : Message) : Acts p (.answer resp) { p with queue } ((replyTo action).bind fun (source, serial) =>
        p.trySend (serverFrame m id source resp serial) (.reply i))
  | disconnect (stage : Stage) (hafter : stage = .away ∨ stage = .clearing) :
      Acts p .disconnect { p with stage } none
  | clearPending : Acts p .clearPending { p with stage := .away, rpc := p.rpc.clearPending } none

variable {m id inbox p} {p' : Process} {a : Act} {out : Option (Nat × Written)}

theorem nextFrame_eq_some {k read i : Nat} {frame : BackendFrame} (h : nextFrame m inbox k read = some (i, frame)) :
    ∃ data, inbox k read = some (i, .toBackend data) ∧ frame = data.frame m ∧ Fits frame := by
  rw [nextFrame] at h
  split at h
  · rename_i i' data hmessage
    split_ifs at h with hfits
    cases h
    exact ⟨data, hmessage, rfl, hfits⟩
  · cases h

theorem acts_of_act (h : p.act m id inbox a = some (p', out)) : p.Acts m id inbox a p' out := by
  cases a with
  | call target msg =>
      cases h
      exact .call ..
  | insertPending c =>
      simp only [act] at h
      split at h
      · rename_i hphase hrequest
        cases h
        exact .insertPending hphase hrequest
      · cases h
  | send c =>
      simp only [act] at h
      split at h
      · rename_i hphase hrequest hgateway
        cases h
        exact .send hphase hrequest hgateway
      · cases h
  | fail c =>
      simp only [act] at h
      split at h
      · cases h
        exact .fail c
      · cases h
        exact .fail c
      · cases h
  | removePending c =>
      simp only [act] at h
      split at h
      · rename_i hrequest
        cases h
        exact .removePending hrequest
      · cases h
  | push target msg =>
      cases h
      exact .push ..
  | read =>
      simp only [act] at h
      split at h
      · rename_i k read hstage
        obtain ⟨⟨i, frame⟩, hframe, h⟩ := Option.map_eq_some_iff.1 h
        dsimp only at h
        split at h
        all_goals
          cases h
          exact .register hstage _ (by simp)
      · rename_i k read hstage
        obtain ⟨⟨i, frame⟩, hframe, h⟩ := Option.map_eq_some_iff.1 h
        obtain ⟨data, hmessage, rfl, hfits⟩ := nextFrame_eq_some hframe
        cases h
        exact .read hstage hmessage hfits
      · cases h
  | answer resp =>
      simp only [act] at h
      split at h
      · rename_i action i queue hqueue
        cases h
        exact .answer hqueue resp
      · cases h
  | disconnect =>
      simp only [act] at h
      split at h
      · cases h
        exact .disconnect _ (Or.inl rfl)
      · cases h
        exact .disconnect _ (Or.inr rfl)
      · cases h
  | clearPending =>
      simp only [act] at h
      split at h
      · cases h
        exact .clearPending
      · cases h

theorem gatewayTx_eq_some {k : Nat} (h : p.gatewayTx = some k) : ∃ read, p.stage = .connected k read := by
  rw [gatewayTx] at h
  split at h
  · rename_i k' read hstage
    cases h
    exact ⟨read, hstage⟩
  · cases h

theorem trySend_eq_some {k : Nat} {frame : BackendFrame} {purpose : Purpose} {written : Written}
    (h : p.trySend frame purpose = some (k, written)) : p.gatewayTx = some k ∧ written = (frame, purpose) := by
  obtain ⟨k', hk', heq⟩ := Option.map_eq_some_iff.1 h
  obtain ⟨rfl, rfl⟩ := Prod.mk.inj heq
  exact ⟨hk', rfl⟩

theorem pong_eq_some {action : Action} {written : Nat × Written} (h : p.pong m action = some written) :
    ∃ nonce sessionId, p.trySend (pongFrame m nonce sessionId) .pong = some written := by
  cases action with
  | pong nonce sessionId => exact ⟨nonce, sessionId, h⟩
  | _ => cases h

theorem Acts.requests (h : p.Acts m id inbox a p' out) : p.requests <+: p'.requests := by
  cases h with
  | call target msg => exact List.prefix_append ..
  | _ => exact List.prefix_refl _

theorem Acts.length_requests (h : p.Acts m id inbox a p' out) : p'.requests.length ≤ p.requests.length + 1 := by
  cases h with
  | call target msg => exact (List.length_append ..).le
  | _ => exact Nat.le_succ _

end Process

end AxmolFighter.Exchange
