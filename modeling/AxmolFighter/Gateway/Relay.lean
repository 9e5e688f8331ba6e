import AxmolFighter.Gateway.Calls

/-!
# What becomes of a relayed frame

A business frame is taken out of one connection's buffer, flattened, read again by the delegate and
encoded in the other format. Its fields survive. Its size does not: the header on the backends' side has
four bytes more than the one on the clients' side, and both formats have the same maximum, so the last
four sizes that a client may send are too large for the backend that gets them.
-/

namespace AxmolFighter.Gateway

/-- The client's frame, as a backend should get it. -/
def asBackendFrame (frame : ClientFrame) (sessionId : UInt32) : BackendFrame where
  cmd := backendCmdBusiness
  msgId := frame.msgId
  serial := frame.serial
  sessionId := sessionId
  payload := frame.payload

/-- The backend's frame, as a client should get it. -/
def asClientFrame (frame : BackendFrame) : ClientFrame where
  cmd := cmdBusiness
  msgId := frame.msgId
  serial := frame.serial
  payload := frame.payload

/-- The bytes that the gateway sends are the client's frame to the backend. -/
def ReachesBackend (m : MessageMap) (frame : ClientFrame) (sessionId : UInt32) (data : ToBackend) : Prop :=
  ∀ rest, tryExtractFrame (encodeFrame (data.frame m) ++ rest) =
    .ok (some (asBackendFrame frame sessionId, rest))

def ReachesClient (m : MessageMap) (frame : BackendFrame) (data : ToClient) : Prop :=
  ∀ rest, tryExtractClientFrame (encodeClientFrame (data.frame m) ++ rest) =
    .ok (some (asClientFrame frame, rest))

variable {m : MessageMap}

/-! ### The codecs -/

theorem reachesBackend_iff {buf rest : Bytes} {frame : ClientFrame}
    (h : tryExtractClientFrame buf = .ok (some (frame, rest))) (sessionId : UInt32) :
    ReachesBackend m frame sessionId (.business frame.msgId frame.serial sessionId frame.payload) ↔
      backendHeaderSize + frame.payload.length ≤ maxPacketSize := by
  have hsize := tryExtractClientFrame_payload h
  have hlen : backendHeaderSize + frame.payload.length < 2 ^ 32 := by
    simp only [clientHeaderSize, backendHeaderSize, maxPacketSize] at hsize ⊢
    omega
  have hextract := tryExtractFrame_encode (asBackendFrame frame sessionId) hlen
  constructor
  · intro hreaches
    by_contra hlarge
    have herror := (hextract []).trans (if_pos (Nat.not_le.1 hlarge))
    cases (hreaches []).symm.trans herror
  · intro hfits rest
    exact (hextract rest).trans (if_neg (Nat.not_lt.2 hfits))

theorem reachesClient {buf rest : Bytes} {frame : BackendFrame}
    (h : tryExtractFrame buf = .ok (some (frame, rest))) :
    ReachesClient m frame (.business frame.msgId frame.serial frame.payload) := by
  have hsize := tryExtractFrame_payload h
  refine fun rest => tryExtractClientFrame_encode (asClientFrame frame) ?_ rest
  change clientHeaderSize + frame.payload.length ≤ maxPacketSize
  simp only [clientHeaderSize, backendHeaderSize] at hsize ⊢
  omega

/-! ### The delegates -/

/-- The only business frame that the call puts on a backend's channel is this one. -/
def Forwards (data : ToBackend) (op : Op) : Prop :=
  ∀ tx msgId serial sessionId payload,
    op = .send tx (.toBackend (.business msgId serial sessionId payload)) →
      .business msgId serial sessionId payload = data

/-- The only business frame that the call sends to a client is this one, and it goes to this session. -/
def Returns (session : UInt32) (data : ToClient) (op : Op) : Prop :=
  ∀ sessionId msgId serial payload, op = .sendToClient sessionId (.business msgId serial payload) →
    sessionId = session ∧ .business msgId serial payload = data

theorem ClientDelegate.forwards_onRecvFrame (d : ClientDelegate) (frame : ClientFrame) :
    (d.onRecvFrame m frame.body).Calls
      (Forwards (.business frame.msgId frame.serial d.sessionId frame.payload)) := by
  refine d.calls_onRecvFrame frame (fun op hquiet => ?_) nofun nofun fun tx => ?_
  · rintro tx msgId serial sessionId payload rfl
    cases hquiet
  · rintro _ msgId serial sessionId payload heq
    cases heq
    rfl

theorem InternalDelegate.returns_onRecvFrame (d : InternalDelegate) (frame : BackendFrame) :
    (d.onRecvFrame m frame.body).Calls
      (Returns frame.sessionId (.business frame.msgId frame.serial frame.payload)) := by
  refine d.calls_onRecvFrame frame (fun op hquiet => ?_) (fun op hregisters => ?_) (fun _ _ => nofun)
    (fun _ => nofun) (fun _ _ _ _ => nofun) fun _ => ?_
  · rintro sessionId msgId serial payload rfl
    cases hquiet
  · rintro sessionId msgId serial payload rfl
    cases hregisters
  · rintro sessionId msgId serial payload heq
    cases heq
    exact ⟨rfl, rfl⟩

/-! ### The relay -/

/-- **Relay fidelity.** A frame that is accepted from a client is forwarded with the client's fields, and
the backend reads it back if and only if it still fits under the longer header; a frame that is accepted
from a backend always reaches the client. -/
theorem relay (m : MessageMap) :
    (∀ (d : ClientDelegate) (buf rest : Bytes) (frame : ClientFrame),
      tryExtractClientFrame buf = .ok (some (frame, rest)) →
        ∃ body, ClientDelegate.onTryExtractFrame buf = .ok (some (body, rest)) ∧
          (d.onRecvFrame m body).Calls fun op : Op => ∀ tx msgId serial sessionId payload,
            op = .send tx (.toBackend (.business msgId serial sessionId payload)) →
              (ReachesBackend m frame d.sessionId (.business msgId serial sessionId payload) ↔
                backendHeaderSize + frame.payload.length ≤ maxPacketSize)) ∧
    (∀ (d : InternalDelegate) (buf rest : Bytes) (frame : BackendFrame),
      tryExtractFrame buf = .ok (some (frame, rest)) →
        ∃ body, InternalDelegate.onTryExtractFrame buf = .ok (some (body, rest)) ∧
          (d.onRecvFrame m body).Calls fun op : Op => ∀ sessionId msgId serial payload,
            op = .sendToClient sessionId (.business msgId serial payload) →
              sessionId = frame.sessionId ∧ ReachesClient m frame (.business msgId serial payload)) := by
  constructor
  · intro d buf rest frame haccept
    refine ⟨frame.body, by rw [ClientDelegate.onTryExtractFrame, haccept]; rfl, ?_⟩
    refine (d.forwards_onRecvFrame frame).mono fun op hforwards tx msgId serial sessionId payload heq => ?_
    rw [hforwards tx msgId serial sessionId payload heq]
    exact reachesBackend_iff haccept d.sessionId
  · intro d buf rest frame haccept
    refine ⟨frame.body, by rw [InternalDelegate.onTryExtractFrame, haccept]; rfl, ?_⟩
    refine (d.returns_onRecvFrame frame).mono fun op hreturns sessionId msgId serial payload heq => ?_
    obtain ⟨hsession, hdata⟩ := hreturns sessionId msgId serial payload heq
    rw [hdata]
    exact ⟨hsession, reachesClient haccept⟩

/-- A short frame, both ways. -/
theorem relay_sample :
    (ClientDelegate.onRecvFrame ⟨2, some 1⟩ Sample.messages Sample.business.body).Calls (fun op : Op =>
      ∀ tx msgId serial sessionId payload,
        op = .send tx (.toBackend (.business msgId serial sessionId payload)) →
          ReachesBackend Sample.messages Sample.business 2 (.business msgId serial sessionId payload)) ∧
    (InternalDelegate.onRecvFrame {} Sample.messages Sample.register.body).Calls fun op : Op =>
      ∀ sessionId msgId serial payload, op = .sendToClient sessionId (.business msgId serial payload) →
        ReachesClient Sample.messages Sample.register (.business msgId serial payload) := by
  obtain ⟨hclient, hbackend⟩ := relay Sample.messages
  constructor
  · obtain ⟨body, hbody, hcalls⟩ := hclient ⟨2, some 1⟩ (encodeClientFrame Sample.business) [] _ rfl
    cases hbody
    exact hcalls.mono fun op h tx msgId serial sessionId payload heq =>
      (h tx msgId serial sessionId payload heq).2 (by decide)
  · obtain ⟨body, hbody, hcalls⟩ := hbackend {} (encodeFrame Sample.register) [] _ rfl
    cases hbody
    exact hcalls.mono fun op h sessionId msgId serial payload heq =>
      (h sessionId msgId serial payload heq).2

/-- The client of the small gateway sends a business frame with any serial and payload; its task is about to
put the frame on the backend's channel. -/
theorem Sample.forwards (serial : Int32) (payload : Bytes) : ∃ trace pool next,
    Run (Pool.Step (system Sample.messages)) (initial Sample.rules) trace pool ∧
      pool.threads[1]? = some (.call (.send 0 (.toBackend (.business 150 serial 2 payload))) next) := by
  have hplayed : (Sample.played Sample.messages Sample.turns).isSome = true := rfl
  obtain ⟨trace, hrun, -⟩ := Pool.Turn.runs (Sample.played_run hplayed)
  have hhandle : (system Sample.messages).handle
      { sessionId := 2, tx := 1, stage := .running, delegate := .client ⟨2, some 1⟩ }
      (.clientFrame { Sample.business with serial, payload }) = _ :=
    congrArg (fun p : GatewayM Unit => some (p >>= fun _ => pure _))
      (ClientDelegate.onRecvFrame_business ⟨2, some 1⟩ { Sample.business with serial, payload } rfl
        (show (150 : UInt16) ≠ 1 by decide))
  have hinput := hrun.next (Pool.Step.input (T := system Sample.messages) (k := 1) rfl hhandle)
  have hcheck := hinput.next (step_call _ 1 (.isAuthenticated 2) _ rfl)
  have hresolve := hcheck.next (step_call _ 1 (.resolve 150 2) _ rfl)
  have hfind := hresolve.next (step_call _ 1 (.findByService 1) _ rfl)
  exact ⟨_, _, _, hfind, rfl⟩

/-- A client's frame of the maximal size, as the gateway takes it out of the client's buffer, is on its way
to a backend that cannot read it. -/
theorem maximal_frame_unreadable : ∃ (frame : ClientFrame) (trace : _) (pool : _) (next : _),
    tryExtractClientFrame (encodeClientFrame frame) = .ok (some (frame, [])) ∧
      Run (Pool.Step (system Sample.messages)) (initial Sample.rules) trace pool ∧
      pool.threads[1]? = some (.call
        (.send 0 (.toBackend (.business frame.msgId frame.serial 2 frame.payload))) next) ∧
      tryExtractFrame (encodeFrame
        ((ToBackend.business frame.msgId frame.serial 2 frame.payload).frame Sample.messages)) =
          .error s!"frame too large: {maxPacketSize + 4} bytes" := by
  obtain ⟨payload, hlength⟩ : ∃ payload : Bytes, clientHeaderSize + payload.length = maxPacketSize := by
    refine ⟨List.replicate (maxPacketSize - clientHeaderSize) 0, ?_⟩
    rw [List.length_replicate]
    exact Nat.add_sub_cancel' (by decide)
  obtain ⟨trace, pool, next, hrun, hbusy⟩ := Sample.forwards (-2) payload
  have hlarge : backendHeaderSize + payload.length = maxPacketSize + 4 := by
    rw [← hlength, clientHeaderSize, backendHeaderSize]
    omega
  refine ⟨{ Sample.business with payload }, trace, pool, next, ?_, hrun, hbusy, ?_⟩
  · have h := tryExtractClientFrame_encode { Sample.business with payload } hlength.le []
    rwa [List.append_nil] at h
  · have h := tryExtractFrame_encode ((ToBackend.business 150 (-2) 2 payload).frame Sample.messages)
      (hlarge.trans_lt (by decide)) []
    rw [List.append_nil] at h
    refine h.trans ?_
    change (if backendHeaderSize + payload.length > maxPacketSize then
      Except.error s!"frame too large: {backendHeaderSize + payload.length} bytes" else _) = _
    rw [hlarge, if_pos (Nat.lt_add_of_pos_right (by decide))]

end AxmolFighter.Gateway
