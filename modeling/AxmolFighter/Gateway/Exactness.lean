import AxmolFighter.Gateway.Views

/-!
# Exact views

Handlers run one at a time. A client's view starts with the answer to its latest status request, and every
message about services after it changes it. In runs in which nobody who listens is moved, unbound or kicked
without a push that says so, the view of every client that listens is what it sees.
-/

namespace AxmolFighter.Gateway

open Pool

/-! ### The view -/

/-- The frame asks for the server status. -/
def asksStatus (m : MessageMap) (frame : ClientFrame) : Bool :=
  frame.msgId == serverStatusReqId && frame.cmd == cmdGatewayMessage &&
    match m.decode frame.msgId frame.payload with
    | .ok .serverStatusReq => true
    | _ => false

/-- The connection asks for the server status. -/
def asks (m : MessageMap) (b : Tx) : Event signature Connection Input → Bool
  | .input k (.clientFrame frame) => k == b && asksStatus m frame
  | _ => false

/-- How much a client had been told about services before its latest status request. -/
def toldBefore (m : MessageMap) (trace : List ((Shared × List Connection) × Event signature Connection Input))
    (b : Tx) : Nat :=
  trace.foldl (fun n e => if asks m b e.2 then (e.1.1.statuses b).length else n) 0

/-- What the client makes of the answer to its latest status request and of what it has been told since. -/
def view (m : MessageMap) (trace : List ((Shared × List Connection) × Event signature Connection Input))
    (s : Shared) (b : Tx) : Finset (UInt32 × UInt32) :=
  ((s.statuses b).drop (toldBefore m trace b)).foldl learn ∅

theorem toldBefore_snoc {m : MessageMap}
    (trace : List ((Shared × List Connection) × Event signature Connection Input)) (s : Shared × List Connection)
    (e : Event signature Connection Input) (b : Tx) : toldBefore m (trace ++ [(s, e)]) b =
      if asks m b e then (s.1.statuses b).length else toldBefore m trace b := by
  rw [toldBefore, List.foldl_append]
  rfl

theorem ClientDelegate.onRecvFrame_cases {m : MessageMap} (d : ClientDelegate) (frame : ClientFrame) :
    (asksStatus m frame = true ∧ d.onRecvFrame m frame.body = d.handleServerStatusRequest frame.serial) ∨
      (asksStatus m frame = false ∧ Muted (d.onRecvFrame m frame.body)) := by
  have hreply : ∀ code message, Muted (d.replyErrorIfRequest frame.serial code message) :=
    fun code message => (d.hushed_replyErrorIfRequest ..).muted
  by_cases hbusiness : frame.cmd = cmdBusiness ∧ frame.msgId ≠ serverStatusReqId
  · refine Or.inr ⟨by simp [asksStatus, hbusiness.2], ?_⟩
    rw [d.onRecvFrame_business frame hbusiness.1 hbusiness.2]
    refine (muted_perform rfl).bind fun authenticated => ?_
    split
    · exact hreply ..
    · exact (muted_perform rfl).bind fun _ =>
        d.calls_routeBusiness frame (fun _ => Op.mute_of_hushed) (fun _ => rfl) _
  · rw [onRecvFrame, ClientFrame.ofBody_body]
    dsimp only
    split_ifs with hshort hid hcmd hcmd
    · have hlength := frame.length_body
      rw [clientHeaderSize] at hlength
      omega
    · exact Or.inr ⟨by simp [asksStatus, hcmd], hreply ..⟩
    · rw [not_not] at hcmd
      split
      · rename_i hdecode
        exact Or.inl ⟨by simp [asksStatus, hid, hcmd, hid ▸ hdecode], rfl⟩
      · rename_i hdecode
        refine Or.inr ⟨?_, hreply ..⟩
        unfold asksStatus
        split
        · rename_i hok
          exact absurd hok hdecode
        · simp
    · exact Or.inr ⟨by simp [asksStatus, hid], hreply ..⟩
    · exact absurd ⟨not_not.1 hcmd, hid⟩ hbusiness

/-! ### The condition -/

/-- What the message changes of what a client sees, the client is told. -/
def Shared.Discloses (s : Shared) (d : InternalDelegate) : Message → Prop
  | .bindServiceReq req => d.registered.isSome = true → s.Stays req
  | .unbindServiceReq req => ∀ b, s.Attends req.sessionId b →
      s.router.serviceHasUnboundRoute req.serviceId.toUInt8 = true →
        s.binding (req.sessionId, req.serviceId.toUInt8) = none
  | .kickSessionReq sessionId => ∀ b, s.Attends sessionId b → ∀ svc i, s.binding (sessionId, svc) = some i →
      s.router.serviceHasUnboundRoute svc = true
  | _ => True

/-- A client that asks for the status still has its id to itself, and a backend's message discloses what it
changes. -/
def Disclosed (m : MessageMap) (s : Shared × List Connection) : Event signature Connection Input → Prop
  | .input k (.clientFrame frame) => asksStatus m frame = true → ∀ conn session, s.2[k]? = some conn →
      s.1.session conn.sessionId = some session → session.tx = k
  | .input k (.backendFrame frame) => frame.cmd = backendCmdControl → ∀ conn d message, s.2[k]? = some conn →
      conn.delegate = .internal d → m.decode frame.msgId frame.payload = .ok message → s.1.Discloses d message
  | _ => True

theorem InternalDelegate.informs_onRecvFrame {m : MessageMap} {s s' : Shared} {d d' : InternalDelegate}
    {frame : BackendFrame} (h : (d.onRecvFrame m frame.body).Runs Shared.Does s d' s') (hdistinct : s.DistinctClients)
    (hdiscloses : frame.cmd = backendCmdControl → ∀ message, m.decode frame.msgId frame.payload = .ok message →
      s.Discloses d message) : s.Informs s' := by
  by_cases hcontrol : frame.cmd = backendCmdControl
  · rw [d.onRecvFrame_control hcontrol] at h
    split at h
    · rename_i message hdecode
      have hmessage := hdiscloses hcontrol message hdecode
      cases message with
      | serverRegReq req => exact informs_handleServerRegReq h hdistinct
      | bindServiceReq req =>
          obtain ⟨_, s₁, h, hret⟩ := Program.runs_bind.1 h
          obtain ⟨-, rfl⟩ := Program.runs_ret.1 hret
          exact informs_handleBindServiceReq h hdistinct hmessage
      | unbindServiceReq req =>
          obtain ⟨_, s₁, h, hret⟩ := Program.runs_bind.1 h
          obtain ⟨-, rfl⟩ := Program.runs_ret.1 hret
          exact informs_handleUnbindServiceReq h hdistinct hmessage
      | kickSessionReq sessionId =>
          obtain ⟨_, s₁, h, hret⟩ := Program.runs_bind.1 h
          obtain ⟨-, rfl⟩ := Program.runs_ret.1 hret
          exact informs_handleKickSessionReq h hmessage
      | serviceLoadReportPush report =>
          exact (Shared.Mute.of_runs h ((d.hushed_handleServiceLoadReportPush _).muted.bind fun _ => .ret _)).informs
      | serverPongResp nonce =>
          exact (Shared.Mute.of_runs h ((d.hushed_handleServerPongResp _).muted.bind fun _ => .ret _)).informs
      | forwardToServerReq req =>
          exact (Shared.Mute.of_runs h ((d.hushed_handleServerForward ..).muted.bind fun _ => .ret _)).informs
      | _ => exact (Shared.Mute.of_runs h (.ret _)).informs
    · exact (Shared.Mute.of_runs h (.ret _)).informs
  · rw [onRecvFrame, BackendFrame.ofBody_body] at h
    dsimp only at h
    split_ifs at h with hshort hcmd
    · exact (Shared.Mute.of_runs h (.ret _)).informs
    · exact (Shared.Mute.of_runs h ((muted_perform rfl).bind fun _ => .ret _)).informs
    · rw [handleInternal, if_pos hcontrol] at h
      exact (Shared.Mute.of_runs h (.ret _)).informs

/-! ### Clients and the environment -/

theorem ClientDelegate.informs_onSessionClose {s s' : Shared} {d : ClientDelegate}
    (h : d.onSessionClose.Runs Shared.Does s () s') : s.Informs s' := by
  obtain ⟨was, s₁, hremove, h⟩ := Program.runs_bind.1 h
  obtain ⟨_, s₂, hcleanup, h⟩ := Program.runs_bind.1 h
  have hremove := Program.runs_perform.1 hremove
  have hcleanup := Program.runs_perform.1 hcleanup
  have hattends : ∀ S b, s₂.Attends S b ↔ s₁.Attends S b := fun S b =>
    hcleanup.attends (fun _ => rfl) fun _ _ => rfl
  have hrest : s₂.Mute s' := by
    refine .of_runs h ?_
    split
    · exact muted_perform rfl
    · exact .ret _
  refine (Shared.Informs.trans (hremove.informs (fun _ => rfl) ?_ fun S b _ => hremove.sees_other rfl fun _ => rfl)
    (hcleanup.informs (fun _ => rfl) (fun S b => (hattends S b).1) ?_)).trans hrest.informs
  · rintro S b ⟨hs, hopen⟩
    rw [hremove.session, Op.sessionAfter] at hs
    rw [hremove.channels fun _ => rfl] at hopen
    split_ifs at hs
    exact ⟨hs, hopen⟩
  · intro S b hafter
    refine hcleanup.sees_other rfl fun svc => if_neg ?_
    rintro rfl
    have hs := ((hattends _ b).1 hafter).session
    rw [hremove.session, Op.sessionAfter, if_pos rfl] at hs
    cases hs

theorem Environment.informs {s s' : Shared} (h : Environment s s') : s.Informs s' := by
  have hchannels : ∀ b, s'.statuses b = s.statuses b ∧ (b ∉ s'.channels.closed → b ∉ s.channels.closed) := by
    intro b
    have hsend (tx : Tx) {message : WriterMessage} (hnone : message.statuses = none) :
        (s.channels.send tx message).2.heard WriterMessage.statuses b = s.statuses b ∧
          (b ∉ (s.channels.send tx message).2.closed → b ∉ s.channels.closed) := by
      rw [Channels.send_closed]
      exact ⟨Channels.heard_send_none _ _ _ hnone, id⟩
    cases h with
    | tick | markSent => exact ⟨rfl, id⟩
    | hangUp tx => exact ⟨rfl, fun h hmem => h (List.mem_cons_of_mem _ hmem)⟩
    | authTimeout | heartbeatTimeout | ping => exact hsend _ rfl
  have huntouched := h.untouched
  rintro S b ⟨hs, hopen⟩
  rw [huntouched.session] at hs
  refine ⟨⟨hs, (hchannels b).2 hopen⟩, [], by rw [(hchannels b).1, List.append_nil], fun view hview => ?_⟩
  refine hview.same fun svc i => ?_
  unfold Shared.Sees Shared.Shows Router.serviceHasUnboundRoute Shared.serves
  rw [huntouched.backend, huntouched.rules, h.binding]

/-! ### Connections and sessions -/

/-- Every connection is numbered, a client's delegate knows its session and its channel, and a session leads to
the connection that it belongs to. -/
structure Roster (s : Shared) (conns : List Connection) : Prop where
  tx : ∀ (k : Nat) (conn : Connection), conns[k]? = some conn → conn.tx = k
  client : ∀ (k : Nat) (conn : Connection) (d : ClientDelegate), conns[k]? = some conn → conn.stage = .running →
    conn.delegate = .client d → d = { sessionId := conn.sessionId, tx := some k }
  session : ∀ S session, s.session S = some session →
    ∃ conn : Connection, conns[session.tx]? = some conn ∧ conn.sessionId = S

/-- The sessions of the first state have been in the second with the same channels. -/
def Shared.Remaining (s s' : Shared) : Prop :=
  ∀ S session, s'.session S = some session → ∃ old, s.session S = some old ∧ old.tx = session.tx

theorem Shared.Does.remaining {s s₁ s' : Shared} {op : Op} {answer : op.Answer} (hbefore : s.Remaining s₁)
    (hop : ∀ S tx, op ≠ .addSession S tx) (h : s₁.Does op answer s') : s.Remaining s' := by
  intro S session hs
  rw [h.session] at hs
  cases op with
  | addSession sessionId tx => exact absurd rfl (hop sessionId tx)
  | removeSession sessionId =>
      rw [Op.sessionAfter] at hs
      split_ifs at hs
      exact hbefore S session hs
  | authenticate sessionId =>
      rw [Op.sessionAfter] at hs
      split_ifs at hs
      · obtain ⟨old, hold, rfl⟩ := Option.map_eq_some_iff.1 hs
        exact hbefore S old hold
      · exact hbefore S session hs
  | _ => exact hbefore S session hs

theorem Shared.Remaining.of_runs {s s' : Shared} {α : Type} {p : GatewayM α} {a : α} (h : p.Runs Shared.Does s a s')
    (hcalls : p.Calls fun op => ∀ S tx, op ≠ Op.addSession S tx) : s.Remaining s' :=
  h.keeps hcalls (s.Remaining ·) (fun _ _ _ _ hinv hop hdoes => Shared.Does.remaining hinv hop hdoes)
    fun _ session hs => ⟨session, hs, rfl⟩

namespace Roster

variable {s s' : Shared} {conns : List Connection} {k : Nat} {conn conn' : Connection}

theorem distinctClients (h : Roster s conns) : s.DistinctClients := by
  intro S S' session session' hS hS' htx
  obtain ⟨conn, hconn, rfl⟩ := h.session S session hS
  obtain ⟨conn', hconn', rfl⟩ := h.session S' session' hS'
  rw [htx, hconn'] at hconn
  cases hconn
  rfl

theorem update_connection (h : Roster s conns) (hk : conns[k]? = some conn) (hid : conn'.sessionId = conn.sessionId)
    (htx : conn'.tx = conn.tx)
    (hclient : ∀ d, conn'.stage = .running → conn'.delegate = .client d →
      d = { sessionId := conn.sessionId, tx := some k })
    (hsession : ∀ S session, s'.session S = some session → (S = conn.sessionId ∧ session.tx = k) ∨
      ∃ old, s.session S = some old ∧ old.tx = session.tx) : Roster s' (conns.set k conn') := by
  refine ⟨fun j other hj => ?_, fun j other d hj hstage hdelegate => ?_, fun S session hS => ?_⟩
  · rw [Guide.get_set hk] at hj
    split_ifs at hj with hjk
    · obtain rfl := Option.some.inj hj
      rw [htx, h.tx k conn hk, hjk]
    · exact h.tx j other hj
  · rw [Guide.get_set hk] at hj
    split_ifs at hj with hjk
    · obtain rfl := Option.some.inj hj
      rw [hid, hjk]
      exact hclient d hstage hdelegate
    · exact h.client j other d hj hstage hdelegate
  · obtain ⟨other, hother, rfl⟩ : ∃ other, conns[session.tx]? = some other ∧ other.sessionId = S := by
      rcases hsession S session hS with ⟨rfl, rfl⟩ | ⟨old, hold, htx⟩
      · exact ⟨conn, hk, rfl⟩
      · rw [← htx]
        exact h.session S old hold
    rw [Guide.get_set hk]
    split_ifs with hjk
    · rw [hjk, hk] at hother
      obtain rfl := Option.some.inj hother
      exact ⟨conn', rfl, hid⟩
    · exact ⟨other, hother, rfl⟩

theorem takes {m : MessageMap} {e : Input} (h : Roster s conns) (hk : conns[k]? = some conn)
    (htakes : conn.Takes m s e conn' s') : Roster s' (conns.set k conn') := by
  have htx := h.tx k conn hk
  have hno : ∀ {op : Op}, op.quiet = true → ∀ S tx, op ≠ .addSession S tx := by
    rintro op hop S tx rfl
    cases hop
  have hroutine : ∀ op : Op, op.routine = true → ∀ S tx, op ≠ .addSession S tx :=
    fun op hop => hno (Op.quiet_of_routine hop)
  have hregistering : ∀ op : Op, op.registering = true → ∀ S tx, op ≠ .addSession S tx := by
    rintro op hop S tx rfl
    cases hop
  cases htakes with
  | startClient hdelegate hdoes =>
      refine h.update_connection hk rfl rfl (fun d _ hd => ?_) fun S session hS => ?_
      · cases hd
        rw [htx]
      · rw [hdoes.session, Op.sessionAfter] at hS
        split_ifs at hS with hid
        · obtain rfl := Option.some.inj hS
          exact Or.inl ⟨hid, htx⟩
        · exact Or.inr ⟨session, hS, rfl⟩
  | startInternal hdelegate hdoes =>
      refine h.update_connection hk rfl rfl (fun d _ hd => by cases hd) fun S session hS => Or.inr ⟨session, ?_, rfl⟩
      rwa [hdoes.session_eq fun _ _ => rfl] at hS
  | @clientFrame d frame _ hstage hdelegate hruns =>
      refine h.update_connection hk rfl rfl (fun d' hstage hd => h.client k conn d' hk hstage hd) fun S session hS => Or.inr ?_
      refine Shared.Remaining.of_runs hruns (d.calls_onRecvFrame frame hroutine ?_ ?_ ?_) S session hS
      all_goals simp
  | @backendFrame d d' frame _ hstage hdelegate hruns =>
      refine h.update_connection hk rfl rfl (fun d' _ hd => by cases hd) fun S session hS => Or.inr ?_
      refine Shared.Remaining.of_runs hruns (d.calls_onRecvFrame frame hroutine hregistering ?_ ?_ ?_ ?_) S session hS
      all_goals simp
  | closeClient hdelegate hruns =>
      refine h.update_connection hk rfl rfl (fun d hstage _ => by cases hstage) fun S session hS => Or.inr ?_
      refine Shared.Remaining.of_runs hruns ?_ S session hS
      refine (calls_perform (by simp)).bind fun was => (calls_perform (by simp)).bind fun _ => ?_
      split
      · exact calls_perform (by simp)
      · exact .ret _
  | closeInternal hdelegate hruns =>
      refine h.update_connection hk rfl rfl (fun d hstage _ => by cases hstage) fun S session hS => Or.inr ?_
      refine Shared.Remaining.of_runs hruns ?_ S session hS
      refine (calls_perform (by simp)).bind fun removed => .whenSome fun _ => ?_
      refine (calls_perform (by simp)).bind fun _ => Program.Calls.bind ?_ fun _ => calls_perform (by simp)
      exact (calls_perform (by simp)).bind fun _ => .forEach fun _ _ =>
        (InternalDelegate.routine_pushOne ..).calls hroutine

theorem of_turn {m : MessageMap} {conns' : List Connection} {e : Event signature Connection Input}
    (h : Roster s conns) (hturn : Turn (system m) (s, conns) e (s', conns')) : Roster s' conns' := by
  cases hturn with
  | @opens _ _ _ conn hopens =>
      obtain ⟨hdelegate, hconn, rfl⟩ := hopens
      have hget : ∀ {j other}, (conns ++ [conn])[j]? = some other → conns[j]? = some other ∨
          (j = conns.length ∧ other = conn) := by
        intro j other hj
        rcases lt_or_ge j conns.length with hlt | hge
        · rw [List.getElem?_append_left hlt] at hj
          exact Or.inl hj
        · rw [List.getElem?_append_right hge, List.getElem?_singleton] at hj
          split_ifs at hj with hzero
          exact Or.inr ⟨by omega, (Option.some.inj hj).symm⟩
      refine ⟨fun j other hj => ?_, fun j other d hj hstage hd => ?_, fun S session hS => ?_⟩
      · rcases hget hj with hj | ⟨rfl, rfl⟩
        · exact h.tx j other hj
        · rw [hconn]
          rfl
      · rcases hget hj with hj | ⟨rfl, rfl⟩
        · exact h.client j other d hj hstage hd
        · rw [hconn] at hstage
          cases hstage
      · obtain ⟨other, hother, hid⟩ := h.session S session hS
        exact ⟨other, (List.getElem?_append_left (List.getElem?_eq_some_iff.1 hother).1).trans hother, hid⟩
  | handle hk hhandle hruns => exact h.takes hk (Connection.takes_of_runs hhandle hruns)
  | environment henv =>
      refine ⟨h.tx, h.client, ?_⟩
      rw [(Environment.untouched henv).session]
      exact h.session

end Roster

/-! ### Runs -/

/-- What holds after a run: sessions lead to their connections, backends are filed under their instances, and the
views of the clients that listen are exact. -/
structure Viewed (m : MessageMap) (trace : List ((Shared × List Connection) × Event signature Connection Input))
    (s : Shared × List Connection) : Prop where
  roster : Roster s.1 s.2
  filed : s.1.registry.Filed
  exact : ∀ S b, s.1.Attends S b →
    toldBefore m trace b ≤ (s.1.statuses b).length ∧ s.1.Exact S (view m trace s.1 b)

namespace Viewed

variable {m : MessageMap} {trace : List ((Shared × List Connection) × Event signature Connection Input)}
  {s s' : Shared} {conns : List Connection} {e : Event signature Connection Input} {S : UInt32} {b : Tx}

/-- A client that has not asked again learns what it is told. -/
theorem informed (h : Viewed m trace (s, conns)) (hasks : asks m b e = false) (hattends : s.Attends S b)
    {told : List (List ServiceStatus)} (htold : s'.statuses b = s.statuses b ++ told)
    (hexact : ∀ view, s.Exact S view → s'.Exact S (told.foldl learn view)) :
    toldBefore m (trace ++ [((s, conns), e)]) b ≤ (s'.statuses b).length ∧
      s'.Exact S (view m (trace ++ [((s, conns), e)]) s' b) := by
  obtain ⟨hle, hbefore⟩ := h.exact S b hattends
  have hcount : toldBefore m (trace ++ [((s, conns), e)]) b = toldBefore m trace b := by
    rw [toldBefore_snoc, hasks]
    rfl
  rw [view, hcount, htold, List.length_append]
  refine ⟨Nat.le_add_right_of_le hle, ?_⟩
  rw [List.drop_append_of_le_length hle, List.foldl_append]
  exact hexact _ hbefore

theorem asked {k : Nat} {conn : Connection} {d : ClientDelegate} {serial : Int32} (h : Viewed m trace (s, conns))
    (hk : conns[k]? = some conn) (hd : d = { sessionId := conn.sessionId, tx := some k })
    (hruns : (d.handleServerStatusRequest serial).Runs Shared.Does s () s')
    (hown : ∀ session, s.session conn.sessionId = some session → session.tx = k)
    (hasks : ∀ b, asks m b e = true ↔ k = b) (hattends : s'.Attends S b) :
    toldBefore m (trace ++ [((s, conns), e)]) b ≤ (s'.statuses b).length ∧
      s'.Exact S (view m (trace ++ [((s, conns), e)]) s' b) := by
  subst hd
  obtain ⟨first, s₁, services, hauthenticate, honline, hservices, htells⟩ :=
    ClientDelegate.handleServerStatusRequest_runs rfl hruns
  have hsession : ∀ S, s₁.session S = _ := hauthenticate.session
  have hstatuses : ∀ b, s₁.statuses b = s.statuses b := hauthenticate.statuses fun _ => rfl
  have hmine : ∀ S b, s₁.Attends S b → (k = b ↔ S = conn.sessionId) := by
    intro S b hattends
    have hs := hattends.session
    rw [hsession, Op.sessionAfter] at hs
    split_ifs at hs with hS
    · obtain ⟨old, hold, heq⟩ := Option.map_eq_some_iff.1 hs
      subst hS
      have htx : old.tx = b := congrArg ClientSession.tx heq
      exact iff_of_true ((hown old hold).symm.trans htx) rfl
    · refine iff_of_false ?_ hS
      rintro rfl
      obtain ⟨other, hother, hid⟩ := h.roster.session S _ hs
      obtain rfl := Option.some.inj (hk.symm.trans hother)
      exact hS hid.symm
  have htells := htells hmine
  have hbefore := htells.attends.1 hattends
  have htold := htells.statuses S b hbefore
  rw [hstatuses] at htold
  by_cases hkb : k = b
  · have hS := (hmine S b hbefore).1 hkb
    have hcount : toldBefore m (trace ++ [((s, conns), e)]) b = (s.statuses b).length := by
      rw [toldBefore_snoc, if_pos ((hasks b).2 hkb)]
    rw [if_pos hS] at htold
    rw [view, hcount, htold, List.drop_left]
    refine ⟨by simp, fun p => ?_⟩
    rw [List.foldl_cons, List.foldl_nil, mem_learn honline, hservices, hS, Shared.Visible, Shared.Visible]
    simp only [htells.sees, Finset.notMem_empty, false_or]
  · have hS := mt (hmine S b hbefore).2 hkb
    rw [if_neg hS] at htold
    have hnot : asks m b e = false := Bool.eq_false_iff.2 (mt (hasks b).1 hkb)
    refine h.informed hnot ⟨?_, ?_⟩ htold fun view hview => hview.same fun svc i => ?_
    · rw [← hbefore.session, hsession, Op.sessionAfter, if_neg hS]
    · rw [← hauthenticate.channels fun _ => rfl]
      exact hbefore.listens
    · exact htells.sees.trans (hauthenticate.sees_other rfl (fun _ => rfl) svc i)

theorem next {conns' : List Connection} (h : Viewed m trace (s, conns)) (hdisclosed : Disclosed m (s, conns) e)
    (hturn : Turn (system m) (s, conns) e (s', conns')) : Viewed m (trace ++ [((s, conns), e)]) (s', conns') := by
  have hinformed : s.Informs s' → (∀ b, asks m b e = false) → ∀ S b, s'.Attends S b →
      toldBefore m (trace ++ [((s, conns), e)]) b ≤ (s'.statuses b).length ∧
        s'.Exact S (view m (trace ++ [((s, conns), e)]) s' b) := by
    intro hinforms hasks S b hattends
    obtain ⟨hbefore, told, htold, hexact⟩ := hinforms S b hattends
    exact h.informed (hasks b) hbefore htold hexact
  have hdistinct := h.roster.distinctClients
  refine ⟨h.roster.of_turn hturn, ?_, ?_⟩
  · cases hturn with
    | opens hopens =>
        obtain ⟨-, -, rfl⟩ := hopens
        exact h.filed
    | environment henv =>
        cases henv <;> exact h.filed
    | handle _ _ hruns =>
        exact hruns.invariant (fun t => t.registry.Filed) (fun _ _ _ _ hfiled hdoes => Shared.Does.filed hdoes hfiled)
          h.filed
  · cases hturn with
    | opens hopens =>
        obtain ⟨-, -, rfl⟩ := hopens
        refine hinformed (fun S b hattends => ?_) fun _ => rfl
        exact ⟨⟨hattends.session, hattends.listens⟩, [], (List.append_nil _).symm, fun _ hview => hview⟩
    | environment henv => exact hinformed henv.informs fun _ => rfl
    | handle hk hhandle hruns =>
        cases Connection.takes_of_runs hhandle hruns with
        | startClient hdelegate hdoes =>
            refine hinformed (hdoes.informs (fun _ => rfl) ?_ fun S b _ => hdoes.sees_other rfl fun _ => rfl) fun _ => rfl
            rintro S b ⟨hs, hopen⟩
            rw [hdoes.session, Op.sessionAfter] at hs
            rw [hdoes.channels fun _ => rfl] at hopen
            split_ifs at hs
            · cases hs
            · exact ⟨hs, hopen⟩
        | startInternal hdelegate hdoes => exact hinformed (Shared.Does.mute hdoes rfl).informs fun _ => rfl
        | closeClient hdelegate hclose =>
            exact hinformed (ClientDelegate.informs_onSessionClose hclose) fun _ => rfl
        | closeInternal hdelegate hclose =>
            exact hinformed (InternalDelegate.informs_onSessionClose hclose h.filed hdistinct) fun _ => rfl
        | backendFrame hstage hdelegate hframe =>
            exact hinformed (InternalDelegate.informs_onRecvFrame hframe hdistinct fun hcmd message =>
              hdisclosed hcmd _ _ message hk hdelegate) fun _ => rfl
        | @clientFrame d frame _ hstage hdelegate hframe =>
            rcases d.onRecvFrame_cases (m := m) frame with ⟨hask, heq⟩ | ⟨hask, hmuted⟩
            · rw [heq] at hframe
              intro S b hattends
              refine h.asked hk (h.roster.client _ _ d hk hstage hdelegate) hframe
                (fun session => hdisclosed hask _ session hk) (fun b => ?_) hattends
              rw [asks, hask, Bool.and_true, beq_iff_eq]
            · refine hinformed (Shared.Mute.of_runs hframe hmuted).informs fun b => ?_
              rw [asks, hask, Bool.and_false]

end Viewed

/-- **Views are exact.** In every run of whole handlers in which backends disclose what they change, and no client
asks for the status under an id that another has, the view of every authenticated client that listens is what
it sees. -/
theorem views_exact_of_run {m : MessageMap} {rules : List RouteRule}
    {trace : List ((Shared × List Connection) × Event signature Connection Input)} {s : Shared}
    {conns : List Connection} (hrun : Run (Turn (system m)) (.init rules, []) trace (s, conns))
    (hdisclosed : ∀ e ∈ trace, Disclosed m e.1 e.2) {S : UInt32} {b : Tx} (hattends : s.Attends S b) :
    s.Exact S (view m trace s b) := by
  have h : (∀ e ∈ trace, Disclosed m e.1 e.2) → Viewed m trace (s, conns) := by
    refine @Run.invariant_trace _ _ _ _ _ _ hrun
      (fun trace s => (∀ e ∈ trace, Disclosed m e.1 e.2) → Viewed m trace s)
      (fun _ => ⟨⟨nofun, nofun, nofun⟩, nofun, nofun⟩) ?_
    intro trace s e s' _ ih hturn hdisclosed
    exact (ih fun e he => hdisclosed e (List.mem_append_left _ he)).next
      (hdisclosed _ (List.mem_append_right _ List.mem_cons_self)) hturn
  exact ((h hdisclosed).exact S b hattends).2

/-- The client of the small gateway sees its backend. -/
theorem views_exact_of_run_sample : ∃ trace s conns,
    Run (Turn (system Sample.messages)) (.init Sample.rules, []) trace (s, conns) ∧ s.Attends 2 1 ∧
      s.Visible 2 (1, 7) ∧ s.Exact 2 (view Sample.messages trace s 1) := by
  have hplayed : (Sample.played Sample.messages (Sample.turns.take 5)).isSome = true := rfl
  have hactions := Run.record_actions (Option.some_get hplayed).symm
  have hturn : (executor Sample.messages).turn (Option.get _ hplayed).2
      (.input 1 (.clientFrame Sample.statusRequest)) = some _ := rfl
  have hrun := (Sample.played_run hplayed).next ((executor _).turn_sound _ _ _ hturn)
  refine ⟨_, _, _, hrun, ⟨rfl, List.not_mem_nil⟩, ⟨1, 7, rfl, ⟨1, _, rfl, rfl, rfl⟩, Or.inl rfl⟩,
    views_exact_of_run hrun (fun e he => ?_) ⟨rfl, List.not_mem_nil⟩⟩
  rcases List.mem_append.1 he with he | he
  · have he := hactions ▸ List.mem_map_of_mem (f := Prod.snd) he
    simp only [Sample.turns, List.take_succ_cons, List.take_zero, List.mem_cons, List.not_mem_nil, or_false] at he
    rcases he with he | he | he | he | he
    case inr.inr.inl =>
      rw [he]
      rintro - conn d message - - hdecode
      cases hdecode
      trivial
    all_goals
      rw [he]
      trivial
  · obtain rfl := List.mem_singleton.1 he
    rintro - conn session hconn hsession
    obtain rfl := Option.some.inj hconn
    obtain rfl := Option.some.inj hsession
    rfl

namespace Sample

/-- The messages of the small gateway, and a request to unbind the client. -/
def unbindMessages : MessageMap where
  encode := messages.encode
  decode := fun msgId payload =>
    if msgId = 103 then .ok (.unbindServiceReq { sessionId := 2, serviceId := 1 })
    else (bindMessages 2).decode msgId payload

def unbindRequest : BackendFrame :=
  { cmd := backendCmdControl, msgId := 103, serial := -4, sessionId := 0, payload := [] }

/-- The gateway after the turns of the small gateway, a request to bind the client, and one to unbind it. -/
def unbound := (played unbindMessages (turns ++
  [.input 0 (.backendFrame bindRequest), .input 0 (.backendFrame unbindRequest)])).get rfl

end Sample

/-- The backend binds the client to itself and unbinds it again: the client is told that the instance is offline, which
it still sees by the unbound route. -/
theorem unbound_forgotten : ∃ trace s conns,
    Run (Turn (system Sample.unbindMessages)) (.init Sample.rules, []) trace (s, conns) ∧ s.Attends 2 1 ∧
      s.Visible 2 (1, 7) ∧ ¬ s.Exact 2 (view Sample.unbindMessages trace s 1) := by
  have hrun : Run (Turn (system Sample.unbindMessages)) _ Sample.unbound.1 Sample.unbound.2 := Sample.played_run rfl
  have hvisible : Sample.unbound.2.1.Visible 2 (1, 7) := ⟨1, 7, rfl, ⟨1, _, rfl, rfl, rfl⟩, Or.inl rfl⟩
  have hview : (1, 7) ∉ view Sample.unbindMessages Sample.unbound.1 Sample.unbound.2.1 1 := by decide
  exact ⟨_, _, _, hrun, ⟨rfl, List.not_mem_nil⟩, hvisible, fun hexact => hview ((hexact _).2 hvisible)⟩

end AxmolFighter.Gateway
