import AxmolFighter.Gateway.Members

/-!
# Business frames reach a backend only along their route

Whatever the connections do in whatever order, a business frame for a session is put on a backend's
channel by the session's own connection, after that connection authenticated itself with a status
request, along the route that was resolved for the frame, and once. The invariant attaches to every
phase of a client's handler the events of its connection that led there.
-/

namespace AxmolFighter.Gateway

open Pool

variable {m : MessageMap} {rules : List RouteRule}

/-- An event of a connection, with the shared state before it. -/
abbrev Past := List (Shared × Own signature Input)

/-- The connection has authenticated itself: a status request was its input, and the next thing it did
was to authenticate `S`. -/
def Authenticated (m : MessageMap) (S : UInt32) (past : Past) : Prop :=
  ∃ before after s s' frame, past = before ++
      (s, .input (.clientFrame frame)) :: (s', .call ⟨.authenticate S, true⟩) :: after ∧
    frame.cmd = cmdGatewayMessage ∧ frame.msgId = serverStatusReqId ∧
    m.decode frame.msgId frame.payload = .ok .serverStatusReq

theorem Authenticated.append {S : UInt32} {past : Past} (h : Authenticated m S past) (rest : Past) :
    Authenticated m S (past ++ rest) := by
  obtain ⟨before, after, s, s', frame, rfl, hframe⟩ := h
  exact ⟨before, after ++ rest, s, s', frame, by simp, hframe⟩

/-- The connection received a business frame, and is authenticated unless the look-up will say so. -/
structure Received (m : MessageMap) (q : Member) (frame : ClientFrame) (before : Past) : Prop where
  cmd : frame.cmd = cmdBusiness
  msgId : frame.msgId ≠ serverStatusReqId
  authenticated : q.status = .known → Authenticated m q.sessionId before

/-- The target of a business frame at the time of its resolution. -/
def Resolved (rules : List RouteRule) (S : UInt32) (frame : ClientFrame) (target : RouteTarget)
    (s : Shared) : Prop :=
  s.router.rules = rules ∧ s.router.resolve frame.msgId S = target

/-- A backend that fits the target, as registered when it was looked up. -/
def Fits (s : Shared) (target : RouteTarget) (tx : Tx) : Prop :=
  ∃ x identity, s.backend x = some identity ∧ identity.tx = tx ∧ x.toNat = tx + 1 ∧
    match target with
    | .service serviceId => identity.serviceId = serviceId
    | .boundService serviceId instanceId =>
        identity.serviceId = serviceId ∧ identity.instanceId = instanceId
    | _ => False

/-- How a connection got where it is. -/
def Evidence (m : MessageMap) (rules : List RouteRule) (q : Member) (past : Past) : Prop :=
  match q.phase with
  | .requested frame => ∃ before s, past = before ++ [(s, .input (.clientFrame frame))] ∧
      Phase.isStatusReq m frame = true
  | .received frame => ∃ before s, past = before ++ [(s, .input (.clientFrame frame))] ∧
      Received m q frame before
  | .checked frame => ∃ before s s₁, past = before ++ [(s, .input (.clientFrame frame)),
        (s₁, .call ⟨.isAuthenticated q.sessionId, true⟩)] ∧ Received m q frame before
  | .routed frame target => ∃ before s s₁ s₂, past = before ++ [(s, .input (.clientFrame frame)),
        (s₁, .call ⟨.isAuthenticated q.sessionId, true⟩),
        (s₂, .call ⟨.resolve frame.msgId q.sessionId, target⟩)] ∧ Received m q frame before ∧
      Resolved rules q.sessionId frame target s₂
  | .found frame target tx => ∃ before s s₁ s₂ s₃ lookup, past = before ++
        [(s, .input (.clientFrame frame)), (s₁, .call ⟨.isAuthenticated q.sessionId, true⟩),
        (s₂, .call ⟨.resolve frame.msgId q.sessionId, target⟩), (s₃, .call lookup)] ∧
      Received m q frame before ∧ Resolved rules q.sessionId frame target s₂ ∧ Fits s₃ target tx
  | _ => True

/-- The invariant of runs, as long as there are fewer than `2 ^ 32 - 1` connections. -/
structure Accounted (m : MessageMap) (rules : List RouteRule)
    (trace : List (Pool signature Shared Connection × Event signature Connection Input)) (s : Shared)
    (qs : List Member) : Prop where
  members : Members s qs
  routes : s.router.rules = rules
  known : ∀ k q, qs[k]? = some q → q.client = true → q.status = .known →
    Authenticated m q.sessionId (own k trace)
  evidence : ∀ k q, qs[k]? = some q → Evidence m rules q (own k trace)

namespace Accounted

variable {trace : List (Pool signature Shared Connection × Event signature Connection Input)}
  {pool : Pool signature Shared Connection} {s' : Shared} {qs : List Member}

/-- A step that adds the event `o` to the past of connection `k`. -/
theorem add_own_event (h : Accounted m rules trace pool.shared qs) {k : Nat} {q q' : Member}
    (hk : qs[k]? = some q) {e : Event signature Connection Input} {o : Own signature Input}
    (hown : e.own k = some o) (hother : ∀ j, j ≠ k → e.own j = none)
    (hmembers : Members s' (qs.set k q')) (hroutes : s'.router.rules = pool.shared.router.rules)
    (hknown : q'.client = true → q'.status = .known →
      Authenticated m q'.sessionId (own k trace ++ [(pool.shared, o)]))
    (hevidence : Evidence m rules q' (own k trace ++ [(pool.shared, o)])) :
    Accounted m rules (trace ++ [(pool, e)]) s' (qs.set k q') := by
  have hlt := (List.getElem?_eq_some_iff.1 hk).1
  have hself : own k (trace ++ [(pool, e)]) = own k trace ++ [(pool.shared, o)] := by
    rw [own_snoc, hown]
    rfl
  have hsame : ∀ j, j ≠ k → own j (trace ++ [(pool, e)]) = own j trace := by
    intro j hj
    rw [own_snoc, hother j hj]
    exact List.append_nil _
  refine ⟨hmembers, hroutes.trans h.routes, fun j p hj => ?_, fun j p hj => ?_⟩
  · by_cases hjk : j = k
    · subst hjk
      rw [List.getElem?_set_self hlt] at hj
      rw [hself, ← Option.some.inj hj]
      exact hknown
    · rw [List.getElem?_set_ne (Ne.symm hjk)] at hj
      rw [hsame j hjk]
      exact h.known j p hj
  · by_cases hjk : j = k
    · subst hjk
      rw [List.getElem?_set_self hlt] at hj
      rw [hself, ← Option.some.inj hj]
      exact hevidence
    · rw [List.getElem?_set_ne (Ne.symm hjk)] at hj
      rw [hsame j hjk]
      exact h.evidence j p hj

theorem add_foreign_event (h : Accounted m rules trace pool.shared qs) {e : Event signature Connection Input}
    (hown : ∀ k, e.own k = none) (hmembers : Members s' qs)
    (hroutes : s'.router.rules = pool.shared.router.rules) :
    Accounted m rules (trace ++ [(pool, e)]) s' qs := by
  have hsame : ∀ k, own k (trace ++ [(pool, e)]) = own k trace := by
    intro k
    rw [own_snoc, hown k]
    exact List.append_nil _
  refine ⟨hmembers, hroutes.trans h.routes, fun k q hk => ?_, fun k q hk => ?_⟩
  · rw [hsame]
    exact h.known k q hk
  · rw [hsame]
    exact h.evidence k q hk

theorem isStatusReq_iff {frame : ClientFrame} (h : Phase.isStatusReq m frame = true) :
    frame.msgId = serverStatusReqId ∧ frame.cmd = cmdGatewayMessage ∧
      m.decode frame.msgId frame.payload = .ok .serverStatusReq := by
  simp only [Phase.isStatusReq, Bool.and_eq_true, decide_eq_true_eq] at h
  refine ⟨h.1.1, h.1.2, ?_⟩
  cases hdecode : m.decode frame.msgId frame.payload with
  | error text => simp [hdecode, Except.toOption] at h
  | ok message =>
      rw [hdecode] at h
      exact congrArg Except.ok (Option.some.inj h.2)

theorem after_input (h : Accounted m rules trace pool.shared qs) {k : Nat} {q q' : Member} {e : Input}
    (hk : qs[k]? = some q) (hbegins : Begins m q e q') (hmembers : Members pool.shared (qs.set k q')) :
    Accounted m rules (trace ++ [(pool, .input k e)]) pool.shared (qs.set k q') := by
  have hold : q.client = true → q.status = .known →
      Authenticated m q.sessionId (own k trace ++ [(pool.shared, .input e)]) :=
    fun hc hs => (h.known k q hk hc hs).append _
  refine h.add_own_event hk (if_pos rfl) (fun j hj => if_neg (Ne.symm hj)) hmembers rfl ?_ ?_
  · cases hbegins <;> exact hold
  · cases hbegins with
    | start => cases hc : q.client <;> trivial
    | clientFrame frame hc =>
        rw [Evidence]
        dsimp only [Phase.ofFrame]
        split_ifs with hreq hbusiness
        · exact ⟨_, _, rfl, hreq⟩
        · exact ⟨_, _, rfl, hbusiness.2, hbusiness.1, h.known k q hk hc⟩
        · trivial
    | backendFrame frame hc => trivial
    | close => trivial

theorem after_call (h : Accounted m rules trace pool.shared qs) {k : Nat} {q q' : Member} {op : Op}
    {answer : op.Answer} (hk : qs[k]? = some q) (hmoves : Moves q op answer q')
    (hdoes : pool.shared.Does op answer s') (hmembers : Members s' (qs.set k q')) :
    Accounted m rules (trace ++ [(pool, .call k ⟨op, answer⟩)]) s' (qs.set k q') := by
  have hold : q.client = true → q.status = .known →
      Authenticated m q.sessionId (own k trace ++ [(pool.shared, .call ⟨op, answer⟩)]) :=
    fun hc hs => (h.known k q hk hc hs).append _
  have hpast := h.evidence k q hk
  refine h.add_own_event hk (if_pos rfl) (fun j hj => if_neg (Ne.symm hj)) hmembers hdoes.rules ?_ ?_
  · cases hmoves with
    | @authenticate frame first hphase =>
        rw [Evidence, hphase] at hpast
        obtain ⟨before, s, hpast, hreq⟩ := hpast
        cases first with
        | false => exact hold
        | true =>
            intro _ _
            obtain ⟨hid, hcmd, hdecode⟩ := isStatusReq_iff hreq
            exact ⟨before, [], s, pool.shared, frame, by rw [hpast]; simp, hcmd, hid, hdecode⟩
    | @register _ _ result hc =>
        intro hclient
        split_ifs at hclient <;> exact nomatch hc.symm.trans hclient
    | remove | unregister => exact fun _ hstatus => nomatch hstatus
    | _ => exact hold
  · rw [Evidence] at hpast
    cases hmoves with
    | quiet hquiet hphase =>
        rw [Evidence]
        cases hq : q.phase <;> first | trivial | (rw [hq] at hphase; cases hphase)
    | survey hphase | relay _ hphase | binds _ _ hphase =>
        rw [Evidence, hphase]
        trivial
    | @authenticate _ first => cases first <;> trivial
    | @check frame authenticated hphase =>
        rw [hphase] at hpast
        obtain ⟨before, s, hpast, hreceived⟩ := hpast
        cases authenticated with
        | false => trivial
        | true =>
            exact ⟨before, s, pool.shared, by rw [hpast]; simp, hreceived.cmd, hreceived.msgId,
              hreceived.authenticated⟩
    | @resolve frame target hphase =>
        rw [hphase] at hpast
        obtain ⟨before, s, s₁, hpast, hreceived⟩ := hpast
        have hresolved : Resolved rules q.sessionId frame target pool.shared :=
          ⟨h.routes, hdoes.resolve.symm⟩
        have hgoal : ∀ target', target' = target → ∃ before s s₁ s₂,
            own k trace ++ [(pool.shared, .call ⟨.resolve frame.msgId q.sessionId, target⟩)] =
              before ++ [(s, .input (.clientFrame frame)),
                (s₁, .call ⟨.isAuthenticated q.sessionId, true⟩),
                (s₂, .call ⟨.resolve frame.msgId q.sessionId, target'⟩)] ∧
              Received m { q with phase := .routed frame target' } frame before ∧
              Resolved rules q.sessionId frame target' s₂ := by
          rintro _ rfl
          exact ⟨before, s, s₁, pool.shared, by rw [hpast]; simp, ⟨hreceived.cmd, hreceived.msgId,
            hreceived.authenticated⟩, hresolved⟩
        cases target with
        | service serviceId => exact hgoal _ rfl
        | boundService serviceId instanceId => exact hgoal _ rfl
        | serviceNotBound serviceId => trivial
        | unknown => trivial
    | @findByService frame serviceId found hphase =>
        rw [hphase] at hpast
        obtain ⟨before, s, s₁, s₂, hpast, hreceived, hresolved⟩ := hpast
        cases found with
        | none => trivial
        | some tx =>
            obtain ⟨x, identity, hx, hservice, htx⟩ := hdoes.findByService
            refine ⟨before, s, s₁, s₂, pool.shared, ⟨.findByService serviceId, some tx⟩,
              by rw [hpast]; simp, ⟨hreceived.cmd, hreceived.msgId, hreceived.authenticated⟩, hresolved, ?_⟩
            exact ⟨x, identity, hx, htx, htx ▸ h.members.channel hx, hservice⟩
    | @findByInstance frame serviceId instanceId found hphase =>
        rw [hphase] at hpast
        obtain ⟨before, s, s₁, s₂, hpast, hreceived, hresolved⟩ := hpast
        cases found with
        | none => trivial
        | some tx =>
            obtain ⟨x, identity, hx, hservice, hinstance, htx⟩ := hdoes.findByInstance
            refine ⟨before, s, s₁, s₂, pool.shared, ⟨.findByInstance serviceId instanceId, some tx⟩,
              by rw [hpast]; simp, ⟨hreceived.cmd, hreceived.msgId, hreceived.authenticated⟩, hresolved, ?_⟩
            exact ⟨x, identity, hx, htx, htx ▸ h.members.channel hx, hservice, hinstance⟩
    | @cleanup was => cases was <;> trivial
    | @register _ _ result _ _ hphase =>
        rw [Evidence]
        split_ifs
        · trivial
        · rw [hphase]
          trivial
    | _ => trivial

theorem step (h : Accounted m rules trace pool.shared qs) {e : Event signature Connection Input}
    {qs' : List Member} (hstep : (guide m).Step (pool.shared, qs) e (s', qs'))
    (hmembers : Members s' qs') : Accounted m rules (trace ++ [(pool, e)]) s' qs' := by
  cases hstep with
  | @opens _ _ _ conn hopens =>
      have hsame : ∀ k, own k (trace ++ [(pool, .opens conn)]) = own k trace := by
        intro k
        rw [own_snoc]
        exact List.append_nil _
      have hget : ∀ (k : Nat) (q : Member), (qs ++ [Member.new conn])[k]? = some q → qs[k]? = some q ∨ q = Member.new conn := by
        intro k q hk
        rw [List.getElem?_append] at hk
        split_ifs at hk with hlt
        · exact Or.inl hk
        · exact Or.inr (List.mem_singleton.1 (List.mem_of_getElem? hk))
      obtain ⟨-, -, rfl⟩ := hopens
      refine ⟨hmembers, h.routes, fun k q hk => ?_, fun k q hk => ?_⟩
      · rw [hsame]
        rcases hget k q hk with hk | rfl
        · exact h.known k q hk
        · exact fun _ hstatus => nomatch hstatus
      · rw [hsame]
        rcases hget k q hk with hk | rfl
        · exact h.evidence k q hk
        · trivial
  | input hk _ _ hbegins => exact h.after_input hk hbegins hmembers
  | call hk hmoves hdoes => exact h.after_call hk hmoves hdoes hmembers
  | environment henv => exact h.add_foreign_event (fun _ => rfl) hmembers henv.untouched.rules

end Accounted

theorem accounted_of_run {trace : List (Pool signature Shared Connection × Event signature Connection Input)}
    {pool : Pool signature Shared Connection}
    (hrun : Run (Step (system m)) (initial rules) trace pool)
    (hconnections : pool.threads.length < 2 ^ 32 - 1) :
    ∃ qs, (guide m).Tracks qs pool.threads ∧ Accounted m rules trace pool.shared qs := by
  obtain ⟨qs, htracks, hinv⟩ := (guide m).invariant rfl hrun (fun _ _ => True) (fun _ _ => trivial)
    (fun trace s qs => qs.length < 2 ^ 32 - 1 → Accounted m rules trace s qs)
    (fun _ => ⟨.init rules, rfl, nofun, nofun⟩) (by
      intro trace pool qs e s' qs' _ hinv _ hstep hlen
      have h := hinv (hstep.length_le.trans_lt hlen)
      exact h.step hstep (Members.step hstep hlen h.members))
  exact ⟨qs, htracks, hinv (htracks.length_eq ▸ hconnections)⟩

/-! ### What puts a business frame on a channel -/

theorem not_moves_forwarded {q q' : Member} {op : Op} {answer : op.Answer}
    (hphase : q.phase = .forwarded) : ¬ Moves q op answer q' := by
  intro h
  cases h with
  | quiet _ hpassive =>
      rw [hphase] at hpassive
      cases hpassive
  | binds _ _ h =>
      rw [hphase] at h
      cases h
  | _ =>
      rename_i h
      rw [hphase] at h
      cases h

theorem ret_of_forwarded {q : Member} {p : GatewayM Connection} (hphase : q.phase = .forwarded)
    (h : p.Follows Moves Member.Rests q) : ∃ conn, p = .ret conn ∧ q.Rests conn := by
  cases h with
  | ret hrests => exact ⟨_, rfl, hrests⟩
  | @call _ op next after hmoves _ =>
      obtain ⟨answer⟩ := Op.answer_nonempty op
      exact absurd (hmoves answer) (not_moves_forwarded hphase)

/-- The only step that puts a business frame on a channel is the send of a connection that has found
the channel, and it is the connection's last. -/
theorem forward_of_posted {pool pool' : Pool signature Shared Connection}
    {e : Event signature Connection Input} {qs : List Member} (htracks : (guide m).Tracks qs pool.threads)
    (hstep : Step (system m) pool e pool') {posted : List (Tx × WriterMessage)}
    (hposted : pool'.shared.channels.sent = pool.shared.channels.sent ++ posted) {tx : Tx} {msgId : UInt16}
    {serial : Int32} {S : UInt32} {payload : Bytes}
    (hmem : (tx, .toBackend (.business msgId serial S payload)) ∈ posted) :
    ∃ k q frame target conn, qs[k]? = some q ∧ q.phase = .found frame target tx ∧ q.sessionId = S ∧
      (frame.msgId, frame.serial, frame.payload) = (msgId, serial, payload) ∧
      e = .call k ⟨.send tx (.toBackend (.business msgId serial S payload)), true⟩ ∧
      posted = [(tx, .toBackend (.business msgId serial S payload))] ∧
      pool'.threads[k]? = some (.ret conn) ∧ conn.sessionId = S ∧ conn.delegate.isClient = q.client := by
  cases hstep with
  | opens hopens =>
      obtain ⟨-, -, rfl⟩ := hopens
      rw [List.self_eq_append_right.1 hposted] at hmem
      cases hmem
  | input =>
      rw [List.self_eq_append_right.1 hposted] at hmem
      cases hmem
  | environment henv =>
      obtain ⟨posted', hposted', hquiet⟩ := henv.posts
      obtain rfl := List.append_cancel_left (hposted.symm.trans hposted')
      cases hquiet _ hmem
  | @call k op next answer s' hbusy hdoes =>
      obtain ⟨q, hk, hfollows⟩ := htracks.get hbusy
      obtain ⟨q', hmoves, hnext⟩ := hfollows.step answer
      obtain ⟨posted', hposted', hmessage⟩ := Shared.Does.posts hdoes
      obtain rfl := List.append_cancel_left (hposted.symm.trans hposted')
      have hop := hmessage _ hmem
      change Moves q op answer q' at hmoves
      cases hmoves with
      | quiet hquiet _ => cases Op.news_of_quiet hquiet hop
      | binds hbinds => rw [Op.message_binds hbinds] at hop; cases hop
      | @forward frame target tx' sent hphase =>
          simp only [Op.message, Option.some.injEq, WriterMessage.toBackend.injEq,
            ToBackend.business.injEq] at hop
          obtain ⟨rfl, rfl, rfl, rfl⟩ := hop
          have hsend := Shared.Does.send hdoes
          rw [Channels.send] at hsend
          obtain ⟨conn, hret, hrests⟩ := ret_of_forwarded rfl hnext
          split_ifs at hsend with hclosed
          · obtain ⟨-, hchannels⟩ := Prod.mk.inj hsend
            rw [← hchannels, List.self_eq_append_right] at hposted'
            rw [hposted'] at hmem
            cases hmem
          · obtain ⟨rfl, hchannels⟩ := Prod.mk.inj hsend
            rw [← hchannels] at hposted'
            obtain rfl := List.append_cancel_left hposted'
            obtain ⟨rfl, -⟩ := Prod.mk.inj (List.mem_singleton.1 hmem)
            refine ⟨k, q, frame, target, conn, hk, hphase, rfl, rfl, rfl, rfl, ?_, hrests.sessionId,
              hrests.kind.symm⟩
            rw [← hret]
            exact List.getElem?_set_self (List.getElem?_eq_some_iff.1 hbusy).1
      | _ => cases hop

/-- Where a business frame of session `S` with this message id goes: along the first rule for the id,
to the backend that was registered on channel `tx` when it was looked up, which is the bound one if the
rule asks for that. -/
def Routed (rules : List RouteRule) (S : UInt32) (msgId : UInt16) (resolved found : Shared) (tx : Tx) :
    Prop :=
  ∃ rule x identity, rules.find? (fun rule => rule.min ≤ msgId && msgId ≤ rule.max) = some rule ∧
    found.backend x = some identity ∧ identity.tx = tx ∧ x.toNat = tx + 1 ∧
    identity.serviceId = rule.serviceId ∧ (rule.requireBinding = true →
      resolved.router.bindings.get (S, rule.serviceId) = some identity.instanceId)

theorem routed_of_resolved {S : UInt32} {frame : ClientFrame} {target : RouteTarget} {tx : Tx}
    {s₂ s₃ : Shared} (hresolved : Resolved rules S frame target s₂) (hfits : Fits s₃ target tx) :
    Routed rules S frame.msgId s₂ s₃ tx := by
  obtain ⟨hrules, hresolve⟩ := hresolved
  obtain ⟨x, identity, hx, htx, hid, htarget⟩ := hfits
  rw [Router.resolve, Router.rule, hrules] at hresolve
  cases hrule : rules.find? fun rule => rule.min ≤ frame.msgId && frame.msgId ≤ rule.max with
  | none =>
      rw [hrule] at hresolve
      subst hresolve
      exact htarget.elim
  | some rule =>
      rw [hrule] at hresolve
      dsimp only at hresolve
      refine ⟨rule, x, identity, hrule, hx, htx, hid, ?_⟩
      split_ifs at hresolve with hbinding
      · subst hresolve
        exact ⟨htarget, fun h => by simp [h] at hbinding⟩
      · cases hbound : s₂.router.bindings.get (S, rule.serviceId) with
        | none =>
            rw [hbound] at hresolve
            subst hresolve
            exact htarget.elim
        | some instanceId =>
            rw [hbound] at hresolve
            subst hresolve
            exact ⟨htarget.1, fun _ => congrArg some htarget.2.symm⟩

/-- **The gate and the routes of the gateway.** Whatever the order in which the connections act: a step
that puts a business frame for session `S` on a channel is the last one of the handler of a client's
frame, on `S`'s own connection, which authenticated itself before; the frame is that client's; it goes
out along its route, to one backend only. -/
theorem business_of_run
    {trace : List (Pool signature Shared Connection × Event signature Connection Input)}
    {pool pool' : Pool signature Shared Connection} {e : Event signature Connection Input}
    (hrun : Run (Step (system m)) (initial rules) trace pool)
    (hconnections : pool.threads.length < 2 ^ 32 - 1) (hstep : Step (system m) pool e pool')
    {posted : List (Tx × WriterMessage)}
    (hposted : pool'.shared.channels.sent = pool.shared.channels.sent ++ posted) {tx : Tx} {msgId : UInt16}
    {serial : Int32} {S : UInt32} {payload : Bytes}
    (hmem : (tx, .toBackend (.business msgId serial S payload)) ∈ posted) :
    posted = [(tx, .toBackend (.business msgId serial S payload))] ∧
    ∃ k conn frame target lookup before s₀ s₁ s₂ s₃,
      S.toNat = k + 1 ∧ pool'.threads[k]? = some (.ret conn) ∧ conn.sessionId = S ∧
      conn.delegate.isClient = true ∧
      own k (trace ++ [(pool, e)]) = before ++ [(s₀, .input (.clientFrame frame)),
        (s₁, .call ⟨.isAuthenticated S, true⟩), (s₂, .call ⟨.resolve msgId S, target⟩),
        (s₃, .call lookup),
        (pool.shared, .call ⟨.send tx (.toBackend (.business msgId serial S payload)), true⟩)] ∧
      Authenticated m S before ∧
      frame = { cmd := cmdBusiness, msgId, serial, payload } ∧ Routed rules S msgId s₂ s₃ tx := by
  obtain ⟨qs, htracks, haccounted⟩ := accounted_of_run hrun hconnections
  obtain ⟨k, q, frame, target, conn, hk, hphase, rfl, hframe, rfl, hone, hret, hid, hclient⟩ :=
    forward_of_posted htracks hstep hposted hmem
  obtain ⟨rfl, rfl, rfl⟩ : frame.msgId = msgId ∧ frame.serial = serial ∧ frame.payload = payload := by
    simpa using hframe
  have hsound := haccounted.members.sound q (Members.mem_of_get hk)
  rw [Member.Sound, hphase] at hsound
  have hevidence := haccounted.evidence k q hk
  rw [Evidence, hphase] at hevidence
  obtain ⟨before, s₀, s₁, s₂, s₃, lookup, hpast, hreceived, hresolved, hfits⟩ := hevidence
  refine ⟨hone, k, conn, frame, target, lookup, before, s₀, s₁, s₂, s₃,
    (haccounted.members.id k q hk).1, hret, hid, hclient.trans hsound.1, ?_, hreceived.authenticated hsound.2, ?_,
    routed_of_resolved hresolved hfits⟩
  · rw [own_snoc, hpast]
    simp [Event.own]
  · rw [← hreceived.cmd]

/-- The client of the small gateway sends a business frame, and it goes to the backend. -/
theorem business_of_run_sample : ∃ trace pool pool' before s₂ s₃,
    Run (Step (system Sample.messages)) (initial Sample.rules) trace pool ∧
      Step (system Sample.messages) pool
        (.call 1 ⟨.send 0 (.toBackend (.business 150 (-2) 2 [1])), true⟩) pool' ∧
      pool'.shared.channels.sent =
        pool.shared.channels.sent ++ [(0, .toBackend (.business 150 (-2) 2 [1]))] ∧
      Authenticated Sample.messages 2 before ∧ Routed Sample.rules 2 150 s₂ s₃ 0 := by
  have hplayed : (Sample.played Sample.messages Sample.turns).isSome = true := rfl
  obtain ⟨trace, hrun, -⟩ := Turn.runs (Sample.played_run hplayed)
  have hidle : (idle (S := signature) Sample.ready.1 Sample.ready.2).threads[1]? =
      some (.ret { sessionId := 2, tx := 1, stage := .running, delegate := .client ⟨2, some 1⟩ }) := rfl
  have hinput := hrun.next (Step.input (T := system Sample.messages) (e := .clientFrame Sample.business)
    hidle rfl)
  have hcheck := hinput.next (step_call _ 1 (.isAuthenticated 2) _ rfl)
  have hresolve := hcheck.next (step_call _ 1 (.resolve 150 2) _ rfl)
  have hfind := hresolve.next (step_call _ 1 (.findByService 1) _ rfl)
  obtain ⟨-, k, conn, frame, target, lookup, before, s₀, s₁, s₂, s₃, -, -, -, -, -, hauth, -, hrouted⟩ :=
    business_of_run hfind (show 2 < 2 ^ 32 - 1 by decide)
      (step_call _ 1 (.send 0 (.toBackend (.business 150 (-2) 2 [1]))) _ rfl) rfl List.mem_cons_self
  exact ⟨_, _, _, before, s₂, s₃, hfind, step_call _ 1 (.send 0 (.toBackend (.business 150 (-2) 2 [1]))) _ rfl,
    rfl, hauth, hrouted⟩

end AxmolFighter.Gateway
