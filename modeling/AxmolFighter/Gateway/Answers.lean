import AxmolFighter.Gateway.Calls
import AxmolFighter.Gateway.Effects

/-!
# Clients' requests are passed on or refused

The handler of a client's business frame looks the frame's way up, and then makes one send: of the frame to a
backend, or of an error to its client. It does not look at what becomes of the send. So a request is lost if
and only if the channel that was found has lost its receiver by then.
-/

namespace AxmolFighter.Gateway

open Pool

/-! ### The calls of the handler -/

/-- A call that has found the channel. -/
def Finds (c : signature.Call) (tx : Tx) : Prop :=
  (∃ serviceId, c = ⟨.findByService serviceId, some tx⟩) ∨
    ∃ serviceId instanceId, c = ⟨.findByInstance serviceId instanceId, some tx⟩

/-- What a handler sends, and where to: the frame on a channel that was found, or an error on its own. -/
inductive Outcome (frame : ClientFrame) (sessionId : UInt32) (own : Tx) (found : Tx → Prop) :
    Tx → WriterMessage → Prop
  | forwarded {tx : Tx} (h : found tx) : Outcome frame sessionId own found tx
      (.toBackend (.business frame.msgId frame.serial sessionId frame.payload))
  | refused (code : UInt32) (message : String) : Outcome frame sessionId own found own
      (.toClient (.gateway (.gatewayErrorResp code message) (-frame.serial)))

theorem Outcome.mono {frame : ClientFrame} {sessionId : UInt32} {own tx : Tx} {found found' : Tx → Prop}
    {message : WriterMessage} (h : Outcome frame sessionId own found tx message)
    (hfound : ∀ tx, found tx → found' tx) : Outcome frame sessionId own found' tx message := by
  cases h with
  | forwarded h => exact .forwarded (hfound _ h)
  | refused code message => exact .refused code message

/-- The calls of a handler that has ended: look-ups, and one send. -/
def Settled (frame : ClientFrame) (sessionId : UInt32) (own : Tx) (calls : List signature.Call) : Prop :=
  ∃ lookups tx message sent, calls = lookups ++ [⟨.send tx message, sent⟩] ∧
    (∀ c ∈ lookups, c.op.message = none) ∧
      Outcome frame sessionId own (fun tx => ∃ c ∈ lookups, Finds c tx) tx message

theorem Settled.cons {frame : ClientFrame} {sessionId : UInt32} {own : Tx} {calls : List signature.Call}
    (h : Settled frame sessionId own calls) {c : signature.Call} (hc : c.op.message = none) :
    Settled frame sessionId own (c :: calls) := by
  obtain ⟨lookups, tx, message, sent, rfl, hlookups, houtcome⟩ := h
  refine ⟨c :: lookups, tx, message, sent, rfl, List.forall_mem_cons.2 ⟨hc, hlookups⟩, houtcome.mono ?_⟩
  rintro tx ⟨c', hc', hfinds⟩
  exact ⟨c', List.mem_cons_of_mem _ hc', hfinds⟩

namespace ClientDelegate

variable {d : ClientDelegate} {m : MessageMap} {frame : ClientFrame} {own : Tx} {calls : List signature.Call}

theorem settled_replyErrorIfRequest (htx : d.tx = some own) (hserial : frame.serial < 0) {code : UInt32}
    {message : String}
    (hpath : (d.replyErrorIfRequest frame.serial code message).Path calls (.ret ())) :
    Settled frame d.sessionId own calls := by
  rw [replyErrorIfRequest, if_neg (Int32.not_le.2 hserial), sendOwn, htx] at hpath
  rcases Program.path_call.1 hpath with ⟨-, h⟩ | ⟨sent, rest, rfl, h⟩
  · cases h
  · obtain ⟨rfl, -⟩ := Program.path_ret.1 h
    exact ⟨[], own, _, sent, rfl, nofun, .refused code message⟩

theorem settled_forwardBusiness (htx : d.tx = some own) (hserial : frame.serial < 0) {found : Option Tx}
    {unavailable : String} {c : signature.Call} (hc : c.op.message = none)
    (hfinds : ∀ tx, found = some tx → Finds c tx)
    (hpath : (d.forwardBusiness frame found unavailable).Path calls (.ret ())) :
    Settled frame d.sessionId own (c :: calls) := by
  cases found with
  | none => exact (settled_replyErrorIfRequest htx hserial hpath).cons hc
  | some tx =>
      rcases Program.path_call.1 hpath with ⟨-, h⟩ | ⟨sent, rest, rfl, h⟩
      · cases h
      · obtain ⟨rfl, -⟩ := Program.path_ret.1 h
        exact ⟨[c], tx, _, sent, rfl, List.forall_mem_singleton.2 hc,
          .forwarded ⟨c, List.mem_singleton_self c, hfinds tx rfl⟩⟩

theorem settled_routeBusiness (htx : d.tx = some own) (hserial : frame.serial < 0) {target : RouteTarget}
    (hpath : (d.routeBusiness frame target).Path calls (.ret ())) : Settled frame d.sessionId own calls := by
  cases target with
  | service serviceId =>
      rcases Program.path_call.1 hpath with ⟨-, h⟩ | ⟨found, rest, rfl, h⟩
      · cases h
      · exact settled_forwardBusiness htx hserial rfl (fun tx hfound => Or.inl ⟨serviceId, by rw [hfound]⟩) h
  | boundService serviceId instanceId =>
      rcases Program.path_call.1 hpath with ⟨-, h⟩ | ⟨found, rest, rfl, h⟩
      · cases h
      · exact settled_forwardBusiness htx hserial rfl
          (fun tx hfound => Or.inr ⟨serviceId, instanceId, by rw [hfound]⟩) h
  | serviceNotBound _ | unknown => exact settled_replyErrorIfRequest htx hserial hpath

theorem settled_onRecvFrame (htx : d.tx = some own) (hcmd : frame.cmd = cmdBusiness) (hserial : frame.serial < 0)
    (hpath : (d.onRecvFrame m frame.body).Path calls (.ret ())) : Settled frame d.sessionId own calls := by
  by_cases hid : frame.msgId = serverStatusReqId
  · have hlength : ¬ frame.body.length < 7 := by
      have h := frame.length_body
      rw [clientHeaderSize] at h
      omega
    rw [onRecvFrame, if_neg hlength, ClientFrame.ofBody_body] at hpath
    dsimp only at hpath
    rw [if_pos hid, if_pos (by rw [hcmd]; decide)] at hpath
    exact settled_replyErrorIfRequest htx hserial hpath
  · rw [d.onRecvFrame_business frame hcmd hid] at hpath
    rcases Program.path_call.1 hpath with ⟨-, h⟩ | ⟨authenticated, rest, rfl, h⟩
    · cases h
    · refine Settled.cons ?_ rfl
      cases authenticated with
      | false => exact settled_replyErrorIfRequest htx hserial h
      | true =>
          rcases Program.path_call.1 h with ⟨-, hret⟩ | ⟨target, rest, rfl, hroute⟩
          · cases hret
          · exact (settled_routeBusiness htx hserial hroute).cons rfl

end ClientDelegate

/-! ### The channels of the backends -/

abbrev Trace := List (Pool signature Shared Connection × Event signature Connection Input)

/-- The channel was opened for a backend's connection. -/
def OfBackend (trace : Trace) (tx : Tx) : Prop :=
  ∃ pool sessionId, (pool, .opens (.accept sessionId tx (.internal {}))) ∈ trace

theorem OfBackend.append {trace trace' : Trace} {tx : Tx} (h : OfBackend trace tx) :
    OfBackend (trace ++ trace') tx := by
  obtain ⟨pool, sessionId, h⟩ := h
  exact ⟨pool, sessionId, List.mem_append_left _ h⟩

/-- The connections are numbered by their channels, and the channels of the registered backends are those of
internal connections. -/
structure Channelled (trace : Trace) (s : Shared) (qs : List Member) : Prop where
  tx : ∀ (k : Nat) q, qs[k]? = some q → q.tx = k
  internal : ∀ q ∈ qs, q.client = false → OfBackend trace q.tx
  backend : ∀ x identity, s.backend x = some identity → OfBackend trace identity.tx

theorem Moves.connection {q q' : Member} {op : Op} {answer : op.Answer} (h : Moves q op answer q') :
    q'.client = q.client ∧ q'.tx = q.tx := by
  cases h with
  | authenticate | register => split_ifs <;> exact ⟨rfl, rfl⟩
  | _ => exact ⟨rfl, rfl⟩

theorem Begins.connection {m : MessageMap} {q q' : Member} {e : Input} (h : Begins m q e q') :
    q'.client = q.client ∧ q'.tx = q.tx := by
  cases h <;> exact ⟨rfl, rfl⟩

theorem Moves.backend {q q' : Member} {op : Op} {answer : op.Answer} {s s' : Shared}
    (h : Moves q op answer q') (hdoes : s.Does op answer s') {x : UInt32} {identity : Identity}
    (hx : s'.backend x = some identity) :
    s.backend x = some identity ∨ (identity.tx = q.tx ∧ q.client = false) := by
  by_cases hop : op.registers = false
  · rw [hdoes.backend hop] at hx
    exact Or.inl hx
  · cases h with
    | register hclient _ _ =>
        obtain ⟨-, hafter⟩ := hdoes.register
        rw [hafter] at hx
        split_ifs at hx
        · obtain rfl := Option.some.inj hx
          exact Or.inr ⟨rfl, hclient⟩
        · exact Or.inl hx
    | unregister _ _ =>
        rw [hdoes.unregister] at hx
        split_ifs at hx
        exact Or.inl hx
    | quiet hquiet _ => exact absurd (Op.registers_quiet hquiet) hop
    | binds hbinds _ _ => exact absurd (Op.registers_binds hbinds) hop
    | _ => exact absurd rfl hop

namespace Channelled

variable {trace : Trace} {s : Shared} {qs : List Member}

theorem step {m : MessageMap} {pool : Pool signature Shared Connection} {s' : Shared} {qs' : List Member}
    {e : Event signature Connection Input} (h : Channelled trace pool.shared qs)
    (hstep : (guide m).Step (pool.shared, qs) e (s', qs')) : Channelled (trace ++ [(pool, e)]) s' qs' := by
  have hset : ∀ {k : Nat} {q q' : Member}, qs[k]? = some q → q'.client = q.client ∧ q'.tx = q.tx →
      (∀ (j : Nat) p, (qs.set k q')[j]? = some p → p.tx = j) ∧
        ∀ p ∈ qs.set k q', p.client = false → OfBackend (trace ++ [(pool, e)]) p.tx := by
    intro k q q' hk hsame
    have hget : ∀ (j : Nat) p, (qs.set k q')[j]? = some p → ∃ p₀, qs[j]? = some p₀ ∧ p.client = p₀.client ∧
        p.tx = p₀.tx := by
      intro j p hp
      rw [Guide.get_set hk] at hp
      split_ifs at hp with hj
      · obtain rfl := Option.some.inj hp
        exact ⟨q, hj ▸ hk, hsame⟩
      · exact ⟨p, hp, rfl, rfl⟩
    refine ⟨fun j p hp => ?_, fun p hp hclient => ?_⟩
    · obtain ⟨p₀, hp₀, -, htx⟩ := hget j p hp
      exact htx.trans (h.tx j p₀ hp₀)
    · obtain ⟨j, hj⟩ := List.getElem?_of_mem hp
      obtain ⟨p₀, hp₀, hclient₀, htx⟩ := hget j p hj
      rw [htx]
      exact (h.internal p₀ (List.mem_of_getElem? hp₀) (hclient₀.symm.trans hclient)).append
  cases hstep with
  | @opens _ _ _ conn hopens =>
      obtain ⟨hkind, hconn, rfl⟩ := hopens
      refine ⟨fun k q hk => ?_, fun q hq hclient => ?_, fun x identity hx => (h.backend x identity hx).append⟩
      · rw [List.getElem?_append] at hk
        split_ifs at hk with hlt
        · exact h.tx k q hk
        · obtain ⟨hzero, rfl⟩ := List.getElem?_eq_some_iff.1 hk
          rw [List.length_singleton] at hzero
          have hk : k = qs.length := by omega
          simp only [hk, Nat.sub_self, List.getElem_cons_zero]
          exact congrArg Connection.tx hconn
      · rcases List.mem_append.1 hq with hq | hq
        · exact (h.internal q hq hclient).append
        · obtain rfl := List.mem_singleton.1 hq
          refine ⟨pool, conn.sessionId, List.mem_append_right _ (List.mem_singleton.2 ?_)⟩
          have hinternal : conn.delegate = .internal {} := by
            refine hkind.resolve_left fun hkind => ?_
            change conn.delegate.isClient = false at hclient
            rw [hkind] at hclient
            cases hclient
          have hsame : Connection.accept conn.sessionId conn.tx (.internal {}) = conn := by
            rw [← hinternal, hconn]
            rfl
          exact congrArg (fun conn => (pool, Event.opens conn)) hsame
  | input hk _ _ hbegins =>
      obtain ⟨htx, hinternal⟩ := hset hk hbegins.connection
      exact ⟨htx, hinternal, fun x identity hx => (h.backend x identity hx).append⟩
  | @call _ _ _ k q q' _ _ hk hmoves hdoes =>
      obtain ⟨htx, hinternal⟩ := hset hk hmoves.connection
      refine ⟨htx, hinternal, fun x identity hx => ?_⟩
      rcases hmoves.backend hdoes hx with hold | ⟨hown, hclient⟩
      · exact (h.backend x identity hold).append
      · rw [hown]
        exact (h.internal q (List.mem_of_getElem? hk) hclient).append
  | environment henv =>
      refine ⟨h.tx, fun q hq hclient => (h.internal q hq hclient).append, fun x identity hx => ?_⟩
      rw [henv.untouched.backend] at hx
      exact (h.backend x identity hx).append

end Channelled

theorem channelled_of_run {m : MessageMap} {rules : List RouteRule} {trace : Trace}
    {pool : Pool signature Shared Connection} (hrun : Run (Step (system m)) (initial rules) trace pool) :
    ∃ qs, (guide m).Tracks qs pool.threads ∧ Channelled trace pool.shared qs :=
  (guide m).invariant rfl hrun (fun _ _ => True) (fun _ _ => trivial) Channelled ⟨nofun, nofun, nofun⟩
    fun _ _ _ _ _ _ _ h _ hstep => h.step hstep

/-! ### Runs -/

/-- The handler of a client's frame is one of its delegate, who knows its channel. -/
theorem clientFrame_of_handle {m : MessageMap} {q : Member} {conn : Connection} (hrests : q.Rests conn)
    {frame : ClientFrame} {p : GatewayM Connection} (hp : conn.handle m (.clientFrame frame) = some p) :
    ∃ d : ClientDelegate, d.sessionId = conn.sessionId ∧ d.tx = some q.tx ∧ p = (do
      d.onRecvFrame m frame.body
      pure conn) := by
  cases hstage : conn.stage <;> cases hdelegate : conn.delegate <;>
    simp only [Connection.handle, hstage, hdelegate, Option.some.injEq, reduceCtorEq] at hp
  rename_i d
  have hholds := hrests.holds hstage
  rw [hdelegate] at hholds
  exact ⟨d, hholds.2.1.trans hrests.sessionId.symm, hholds.2.2, hp.symm⟩

theorem Finds.ofBackend {m : MessageMap} {rules : List RouteRule} {trace : Trace}
    {pool : Pool signature Shared Connection} (hrun : Run (Step (system m)) (initial rules) trace pool) {k : Nat}
    {s : Shared} {c : signature.Call} (h : (s, .call c) ∈ own k trace) {tx : Tx} (hfinds : Finds c tx) :
    OfBackend trace tx := by
  obtain ⟨trace₀, pool₀, hrun₀, ⟨rest, rfl⟩, -, rfl, s', hdoes⟩ := does_of_own hrun h
  obtain ⟨qs, -, hchannelled⟩ := channelled_of_run hrun₀
  have hidentity : ∃ x identity, pool₀.shared.backend x = some identity ∧ identity.tx = tx := by
    rcases hfinds with ⟨serviceId, rfl⟩ | ⟨serviceId, instanceId, rfl⟩
    · obtain ⟨x, identity, hx, -, htx⟩ := Shared.Does.findByService hdoes
      exact ⟨x, identity, hx, htx⟩
    · obtain ⟨x, identity, hx, -, -, htx⟩ := Shared.Does.findByInstance hdoes
      exact ⟨x, identity, hx, htx⟩
  obtain ⟨x, identity, hx, rfl⟩ := hidentity
  exact (hchannelled.backend x identity hx).append

theorem sent_of_own {m : MessageMap} {rules : List RouteRule} {trace : Trace}
    {pool : Pool signature Shared Connection} (hrun : Run (Step (system m)) (initial rules) trace pool) {k : Nat}
    {s : Shared} {tx : Tx} {message : WriterMessage} {sent : Bool}
    (h : (s, .call ⟨.send tx message, sent⟩) ∈ own k trace) : sent = true ↔ tx ∉ s.channels.closed := by
  obtain ⟨trace₀, pool₀, -, -, -, rfl, s', hdoes⟩ := does_of_own hrun h
  have hsend := Shared.Does.send hdoes
  rw [Channels.send] at hsend
  split_ifs at hsend with hclosed
  · obtain ⟨rfl, -⟩ := Prod.mk.inj hsend
    simpa using hclosed
  · obtain ⟨rfl, -⟩ := Prod.mk.inj hsend
    simpa using hclosed

/-- Of the calls of a handler one has put something on a channel: the frame on that of a backend, or an error
in answer to it on that of the client, its own. -/
def AnsweredOnce (trace : Trace) (k : Nat) (sessionId : UInt32) (frame : ClientFrame)
    (steps : List (Shared × signature.Call)) : Prop :=
  ∃ s tx message, (steps.filter fun c => c.2.op.message.isSome) = [(s, ⟨.send tx message, true⟩)] ∧
    Outcome frame sessionId k (OfBackend trace) tx message

/-- **A request is lost with its channel.** When the handler of a client's business request has ended, the
request has been put on one backend's channel or been answered with one error, but not both, if and only if
the channel that the handler sent on was open then. -/
theorem answered_of_run {m : MessageMap} {rules : List RouteRule} {trace : Trace}
    {pool : Pool signature Shared Connection} (hrun : Run (Step (system m)) (initial rules) trace pool) {k : Nat}
    {before : List (Shared × Own signature Input)} {s₀ : Shared} {frame : ClientFrame}
    {steps : List (Shared × signature.Call)} {conn : Connection}
    (hown : own k trace = before ++ (s₀, .input (.clientFrame frame)) :: steps.map fun c => (c.1, .call c.2))
    (hidle : pool.threads[k]? = some (.ret conn)) (hcmd : frame.cmd = cmdBusiness) (hserial : frame.serial < 0) :
    AnsweredOnce trace k conn.sessionId frame steps ↔
      ∀ s tx message sent, (s, ⟨.send tx message, sent⟩) ∈ steps → tx ∉ s.channels.closed := by
  obtain ⟨trace₀, pool₀, l, p, rest, hrun₀, -, hl, hp, hrest, hpath⟩ := path_of_run hrun hown
  obtain rfl := Option.some.inj (hidle.symm.trans hrest)
  obtain ⟨qs, htracks, hchannelled⟩ := channelled_of_run hrun₀
  obtain ⟨q, hq, hfollows⟩ := htracks.get hl
  obtain ⟨d, hid, htx, rfl⟩ := clientFrame_of_handle hfollows.of_ret hp
  rw [hchannelled.tx k q hq] at htx
  obtain ⟨_, calls, final, hcalls, hfirst, hfinal⟩ := Program.path_bind hpath
  obtain ⟨rfl, hconn⟩ := Program.path_ret.1 hfinal
  obtain rfl : conn = l := by
    cases hconn
    rfl
  rw [List.append_nil] at hcalls
  obtain ⟨lookups, tx, message, sent, hsplit, hlookups, houtcome⟩ :=
    d.settled_onRecvFrame htx hcmd hserial (hcalls ▸ hfirst)
  obtain ⟨looked, lasts, rfl, hlooked, hlasts⟩ := List.map_eq_append_iff.1 hsplit
  obtain ⟨⟨s, c⟩, rfl, hlast⟩ := List.map_eq_singleton_iff.1 hlasts
  obtain rfl : c = ⟨.send tx message, sent⟩ := hlast
  have hmem : ∀ c ∈ looked ++ [(s, (⟨.send tx message, sent⟩ : signature.Call))],
      (c.1, Own.call c.2) ∈ own k trace := fun c hc => by
    rw [hown]
    exact List.mem_append_right _ (List.mem_cons_of_mem _ (List.mem_map_of_mem hc))
  have hsent := sent_of_own hrun (hmem _ (List.mem_append_right _ (List.mem_singleton_self _)))
  have hfilter : ((looked ++ [(s, (⟨.send tx message, sent⟩ : signature.Call))]).filter fun c =>
      c.2.op.message.isSome) = [(s, ⟨.send tx message, sent⟩)] := by
    rw [List.filter_append, List.filter_eq_nil_iff.2 ?_]
    · rfl
    · intro c hc
      simp [hlookups c.2 (hlooked ▸ List.mem_map_of_mem hc)]
  constructor
  · rintro ⟨s', tx', message', heq, -⟩ s₁ tx₁ message₁ sent₁ hmem₁
    have hone : (s₁, (⟨.send tx₁ message₁, sent₁⟩ : signature.Call)) ∈ [_] := heq ▸ List.mem_filter.2 ⟨hmem₁, rfl⟩
    exact (sent_of_own hrun (hmem _ hmem₁)).1 (by cases List.mem_singleton.1 hone; rfl)
  · intro hopen
    have hclosed := hopen s tx message sent (List.mem_append_right _ (List.mem_singleton_self _))
    obtain rfl := hsent.2 hclosed
    refine ⟨s, tx, message, hfilter, hid ▸ houtcome.mono ?_⟩
    rintro tx' ⟨c, hc, hfinds⟩
    obtain ⟨step, hstep, rfl⟩ := List.mem_map.1 (hlooked ▸ hc)
    exact hfinds.ofBackend hrun (hmem step (List.mem_append_left _ hstep))

namespace Sample

def client : Connection := { sessionId := 2, tx := 1, stage := .running, delegate := .client ⟨2, some 1⟩ }

/-- What the handler of the client's request does in the state `s`. -/
def calls (s : Shared) (sent : Bool) : List (Shared × signature.Call) :=
  [(s, ⟨.isAuthenticated 2, true⟩), (s, ⟨.resolve 150 2, .service 1⟩), (s, ⟨.findByService 1, some 0⟩),
    (s, ⟨.send 0 (.toBackend (.business 150 (-2) 2 [1])), sent⟩)]

/-- The small gateway after the channels `closed` have lost their receivers. -/
def deserted (closed : List Tx) : Shared :=
  { ready.1 with channels := { ready.1.channels with closed } }

theorem request_run (closed : List Tx) {sent : Bool} {trace : Trace}
    (hsent : ((deserted closed).exec (.send 0 (.toBackend (.business 150 (-2) 2 [1])))).1 = sent)
    (hrun : Run (Step (system messages)) (initial rules) trace (idle (deserted closed) ready.2)) :
    ∃ trace' pool, Run (Step (system messages)) (initial rules) trace' pool ∧
      pool.threads[1]? = some (.ret client) ∧ own 1 trace' = own 1 trace ++
        (deserted closed, .input (.clientFrame business)) ::
          (calls (deserted closed) sent).map fun c => (c.1, .call c.2) := by
  have hidle : (idle (S := signature) (deserted closed) ready.2).threads[1]? = some (.ret client) := rfl
  have hinput := hrun.next (Step.input (T := system messages) (e := .clientFrame business) hidle rfl)
  have hcheck := hinput.next (step_call _ 1 (.isAuthenticated 2) _ rfl)
  have hresolve := hcheck.next (step_call _ 1 (.resolve 150 2) _ rfl)
  have hfind := hresolve.next (step_call _ 1 (.findByService 1) _ rfl)
  have hsend := hfind.next (step_call _ 1 (.send 0 (.toBackend (.business 150 (-2) 2 [1]))) _ rfl)
  refine ⟨_, _, hsend, rfl, ?_⟩
  rw [own_snoc, own_snoc, own_snoc, own_snoc, own_snoc]
  simp only [List.append_assoc]
  subst hsent
  rfl

end Sample

/-- The client of the small gateway sends a request, and the backend gets it. -/
theorem answered_of_run_forwarded : ∃ trace pool before,
    Run (Step (system Sample.messages)) (initial Sample.rules) trace pool ∧
      pool.threads[1]? = some (.ret Sample.client) ∧
      own 1 trace = before ++ (Sample.deserted [], .input (.clientFrame Sample.business)) ::
        (Sample.calls (Sample.deserted []) true).map (fun c => (c.1, .call c.2)) ∧
      AnsweredOnce trace 1 2 Sample.business (Sample.calls (Sample.deserted []) true) := by
  have hplayed : (Sample.played Sample.messages Sample.turns).isSome = true := rfl
  obtain ⟨trace, hrun, -⟩ := Turn.runs (Sample.played_run hplayed)
  obtain ⟨trace', pool, hrun', hidle, hown⟩ := Sample.request_run [] rfl hrun
  refine ⟨trace', pool, _, hrun', hidle, hown, ?_⟩
  refine (answered_of_run hrun' hown hidle rfl (by decide)).2 fun s tx message sent hmem => ?_
  simp only [Sample.calls, List.mem_cons, List.not_mem_nil, or_false, Prod.mk.injEq] at hmem
  rcases hmem with ⟨rfl, -⟩ | ⟨rfl, -⟩ | ⟨rfl, -⟩ | ⟨rfl, -⟩ <;> exact List.not_mem_nil

/-- The task of the backend's connection has ended and its close handler has not run yet: the client's
request goes to the backend's channel, and no error goes to the client. -/
theorem request_lost : ∃ trace pool before,
    Run (Step (system Sample.messages)) (initial Sample.rules) trace pool ∧
      pool.threads[1]? = some (.ret Sample.client) ∧
      own 1 trace = before ++ (Sample.deserted [0], .input (.clientFrame Sample.business)) ::
        (Sample.calls (Sample.deserted [0]) false).map (fun c => (c.1, .call c.2)) ∧
      ¬ AnsweredOnce trace 1 2 Sample.business (Sample.calls (Sample.deserted [0]) false) := by
  have hplayed : (Sample.played Sample.messages Sample.turns).isSome = true := rfl
  obtain ⟨trace, hrun, -⟩ := Turn.runs (Sample.played_run hplayed)
  have hgone := hrun.next (Step.environment (T := system Sample.messages) (.hangUp 0))
  obtain ⟨trace', pool, hrun', hidle, hown⟩ := Sample.request_run [0] rfl hgone
  refine ⟨trace', pool, _, hrun', hidle, hown, ?_⟩
  rintro ⟨s, tx, message, heq, -⟩
  change [(Sample.deserted [0], (⟨.send 0 (.toBackend (.business 150 (-2) 2 [1])), false⟩ : signature.Call))] =
    _ at heq
  cases heq

end AxmolFighter.Gateway
