import AxmolFighter.Backend.Dispatch
import AxmolFighter.Gateway.Relay
import AxmolFighter.Lib.Run

/-!
# Who answers a backend's requests

The answers to a backend's requests and the frames of its clients come with serials of one kind. A client's
frame with a positive serial is taken for an answer, by whoever it is meant, so a client that guesses the
number of a request answers it. No other frame of a client comes near a request.
-/

namespace AxmolFighter.Backend

/-- What happens to the requests that wait. The mailboxes are those at the time of the frame. -/
inductive Occurrence
  | request (tx : Nat)
  | withdrawn (requestId : Int32)
  | disconnected
  | frame (sessions : Table UInt32 Mailbox) (frame : BackendFrame)

variable (m : MessageMap)

def RpcManager.next (rpc : RpcManager) : Occurrence → RpcManager
  | .request tx => rpc.nextRequestId.2.insertPending rpc.nextRequestId.1 tx
  | .withdrawn requestId => rpc.removePending requestId
  | .disconnected => rpc.clearPending
  | .frame sessions frame => (handleFrame m rpc sessions frame).rpc

/-- The request that is answered, and with what. -/
def RpcManager.answered (rpc : RpcManager) : Occurrence → Option (Nat × PendingResponse)
  | .frame sessions frame => (handleFrame m rpc sessions frame).completed
  | _ => none

/-- A frame that answers the request `id`: of the gateway, of another server, or of a client. -/
inductive AnswerTo (id : Int32) : BackendFrame → PendingResponse → Prop
  | gateway {frame : BackendFrame} (hcmd : frame.cmd = backendCmdControl) (hserial : frame.serial = id) :
      AnswerTo id frame (decodeResponse m frame.msgId frame.payload)
  | server {frame inner : BackendFrame} {req : ForwardToServerReq} {rest : Bytes}
      (hcmd : frame.cmd = backendCmdControl)
      (hreq : m.decode frame.msgId frame.payload = .ok (.forwardToServerReq req))
      (hinner : tryExtractFrame req.payload = .ok (some (inner, rest))) (hserial : inner.serial = id) :
      AnswerTo id frame (decodeResponse m inner.msgId inner.payload)
  | client {frame : BackendFrame} (hcmd : frame.cmd = backendCmdBusiness) (hserial : frame.serial = id) :
      AnswerTo id frame (decodeResponse m frame.msgId frame.payload)

variable {m} {rpc : RpcManager} {sessions : Table UInt32 Mailbox} {frame : BackendFrame}

theorem handleFrame_business (hcmd : frame.cmd = backendCmdBusiness) :
    handleFrame m rpc sessions frame = dispatchBusinessFrame m rpc sessions frame := by
  rw [handleFrame, hcmd, if_neg (by decide), if_pos rfl]

theorem handleFrame_cases (m : MessageMap) (rpc : RpcManager) (sessions : Table UInt32 Mailbox)
    (frame : BackendFrame) : (handleFrame m rpc sessions frame).Spares rpc ∨
      ∃ id msgId payload, id > 0 ∧ AnswerTo m id frame (decodeResponse m msgId payload) ∧
        (handleFrame m rpc sessions frame).Answers m rpc id msgId payload := by
  rw [handleFrame]
  split_ifs with hcontrol hbusiness
  · rcases handleControlFrame_cases frame with h | ⟨hserial, h⟩ | ⟨req, inner, rest, hreq, hinner, hserial, h⟩
    · exact Or.inl h
    · exact Or.inr ⟨_, _, _, hserial, .gateway hcontrol rfl, h⟩
    · exact Or.inr ⟨_, _, _, hserial, .server hcontrol hreq hinner rfl, h⟩
  · rcases dispatchBusinessFrame_cases m rpc sessions frame with ⟨-, h⟩ | ⟨hserial, h⟩
    · exact Or.inl h
    · exact Or.inr ⟨_, _, _, hserial, .client hbusiness rfl, h⟩
  · exact Or.inl ⟨rfl, rfl⟩

/-- **Who answers.** A client's frame whose serial is not positive touches no request, and one with a
positive serial touches none but the request with that number, which it answers. In every run a request is
answered only by the gateway, by another server, or by a client's frame with its number; and a frame takes
no request out of the table without answering it. -/
theorem who_answers (m : MessageMap) :
    (∀ (rpc : RpcManager) (sessions : Table UInt32 Mailbox) (frame : BackendFrame),
      frame.cmd = backendCmdBusiness →
        (frame.serial ≤ 0 → (handleFrame m rpc sessions frame).Spares rpc) ∧
        (frame.serial > 0 →
          (handleFrame m rpc sessions frame).Answers m rpc frame.serial frame.msgId frame.payload)) ∧
    ∀ (start rpc : RpcManager) (trace : List (RpcManager × Occurrence)),
      Run (fun rpc e rpc' => rpc' = rpc.next m e) start trace rpc → ∀ e ∈ trace,
        (∀ tx response, e.1.answered m e.2 = some (tx, response) → ∃ sessions frame id,
          e.2 = .frame sessions frame ∧ e.1.pendingRequests.get id = some tx ∧
            AnswerTo m id frame response) ∧
        ∀ sessions frame, e.2 = .frame sessions frame → ∀ id tx, e.1.pendingRequests.get id = some tx →
          (e.1.next m e.2).pendingRequests.get id ≠ some tx →
            ∃ response, e.1.answered m e.2 = some (tx, response) := by
  refine ⟨fun rpc sessions frame hcmd => ?_, fun start rpc trace _ ⟨rpc, e⟩ _ => ⟨?_, ?_⟩⟩
  · rw [handleFrame_business hcmd]
    rcases dispatchBusinessFrame_cases m rpc sessions frame with
      ⟨hle, h⟩ | ⟨hserial, h⟩
    · exact ⟨fun _ => h, fun hpos => absurd hpos (Int32.not_lt.2 hle)⟩
    · exact ⟨fun hle => absurd hserial (Int32.not_lt.2 hle), fun _ => h⟩
  · intro tx response hanswered
    cases e with
    | frame sessions frame =>
        rcases handleFrame_cases m rpc sessions frame with h | ⟨id, msgId, payload, -, hto, h⟩
        · cases hanswered.symm.trans h.1
        · have hcompleted := h.completed.symm.trans hanswered
          obtain ⟨tx', hget, heq⟩ := Option.map_eq_some_iff.1 hcompleted
          cases heq
          exact ⟨sessions, frame, id, rfl, hget, hto⟩
    | _ => cases hanswered
  · rintro sessions frame rfl id tx hget hlost
    rcases handleFrame_cases m rpc sessions frame with h | ⟨id', msgId, payload, -, -, h⟩
    · exact absurd ((congrArg (fun rpc : RpcManager => rpc.pendingRequests.get id) h.2).trans hget) hlost
    · by_cases hid : id = id'
      · subst hid
        exact ⟨_, h.completed.trans (by rw [hget]; rfl)⟩
      · exact absurd ((h.kept id hid).trans hget) hlost

/-- A push of a client. -/
theorem who_answers_push :
    (handleFrame Gateway.Sample.messages ({} : RpcManager).nextRequestId.2 ∅
      ((ToBackend.business 150 0 2 [1]).frame Gateway.Sample.messages)).Spares
        ({} : RpcManager).nextRequestId.2 :=
  ((who_answers Gateway.Sample.messages).1 _ _ _ rfl).1 (by decide)

/-- A backend has sent its first request, with the number 2. A client sends a frame with the serial 2, the
gateway puts it on the backend's channel, and the backend takes it for the answer. -/
theorem answered_by_client : ∃ trace pool next,
    Run (Pool.Step (Gateway.system Gateway.Sample.messages)) (Gateway.initial Gateway.Sample.rules) trace pool ∧
      pool.threads[1]? = some (.call (.send 0 (.toBackend (.business 150 2 2 [1]))) next) ∧
      (({} : RpcManager).next Gateway.Sample.messages (.request 0)).pendingRequests.get 2 = some 0 ∧
      (dispatchBusinessFrame Gateway.Sample.messages
        (({} : RpcManager).next Gateway.Sample.messages (.request 0)) ∅
        ((ToBackend.business 150 2 2 [1]).frame Gateway.Sample.messages)).completed =
          some (0, .decodeError 150 "unknown message") ∧
      (dispatchBusinessFrame Gateway.Sample.messages
        (({} : RpcManager).next Gateway.Sample.messages (.request 0)) ∅
        ((ToBackend.business 150 2 2 [1]).frame Gateway.Sample.messages)).rpc.pendingRequests.get 2 = none := by
  obtain ⟨trace, pool, next, hrun, hsend⟩ := Gateway.Sample.forwards 2 [1]
  exact ⟨trace, pool, next, hrun, hsend, by decide, by decide, by decide⟩

end AxmolFighter.Backend
