import AxmolFighter.Battle.BackendClient
import AxmolFighter.Gateway.Answers
import AxmolFighter.Gateway.Bindings
import AxmolFighter.Gateway.Selection
import AxmolFighter.Gateway.Servers

/-!
# Replies and their requesters

The gateway writes into a forwarded request who it is from. The target's framework makes that the address of
the reply, and here the instance becomes signed: from `2 ^ 31` on it is negative, which stands for any
instance, and the reply goes where the load is lowest.
-/

namespace AxmolFighter.Gateway

open Pool
open Backend (ServerSource)

variable {m : MessageMap} {rules : List RouteRule}

/-- The address that the framework of the target has for its reply: `session.rs` for a request that its
delegate answers or that it cannot read, and `BackendClient.cpp`. -/
inductive ReplyAddress (m : MessageMap) (req : ForwardToServerReq) (source : ServerSource) : Prop
  | request {rpc : Backend.RpcManager} {inner : BackendFrame} {serial : Int32}
      (h : (Backend.routeForwardedFrame m rpc req).action = .serverRequest source inner serial)
  | unread {rpc : Backend.RpcManager} {serial : Int32}
      (h : (Backend.routeForwardedFrame m rpc req).action = .serverError source serial)
  | battle {client : Battle.BackendClient} {inner : BackendFrame} {serial : Int32}
      (h : client.routeForwardToServer req = .serverRequest source inner serial)

/-- The source that an action names. -/
def actionSource : Backend.Action → Option ServerSource
  | .serverPush source _ | .serverRequest source _ _ | .serverError source _ => some source
  | _ => none

theorem actionSource_routeForwardedFrame (rpc : Backend.RpcManager) (req : ForwardToServerReq)
    {source : ServerSource} (h : actionSource (Backend.routeForwardedFrame m rpc req).action = some source) :
    source = ⟨req.sourceServiceId, req.sourceInstanceId.toInt32⟩ := by
  rw [Backend.routeForwardedFrame] at h
  split at h
  · split_ifs at h with hserial
    · rw [Backend.resolve_action hserial] at h
      split_ifs at h <;> cases h
    · rw [Backend.processServerMessage] at h
      split at h
      · split_ifs at h
        · cases h
          rfl
        · cases h
          rfl
      · split_ifs at h
        · cases h
          rfl
        · cases h
  · cases h

theorem actionSource_routeForwardToServer (client : Battle.BackendClient) (req : ForwardToServerReq)
    {source : ServerSource} (h : actionSource (client.routeForwardToServer req) = some source) :
    source = ⟨req.sourceServiceId, req.sourceInstanceId.toInt32⟩ := by
  rw [Battle.BackendClient.routeForwardToServer] at h
  split at h
  · cases h
  · split_ifs at h
    · cases h
    · cases h
    · rw [Battle.BackendClient.processServerFrame] at h
      split_ifs at h <;> cases h <;> rfl

theorem ReplyAddress.eq {req : ForwardToServerReq} {source : ServerSource} (h : ReplyAddress m req source) :
    source = ⟨req.sourceServiceId, req.sourceInstanceId.toInt32⟩ := by
  cases h with
  | @request rpc _ _ h | @unread rpc _ h => exact actionSource_routeForwardedFrame (m := m) rpc req (by rw [h]; rfl)
  | @battle client _ _ h => exact actionSource_routeForwardToServer client req (by rw [h]; rfl)

/-! ### The calls of the handler -/

/-- The call passes on a frame between servers. -/
def Op.forwards : Op → Bool
  | .send _ (.toBackend (.control (.forwardToServerReq _) _ _)) => true
  | _ => false

/-- The look-up for a frame's target, and the channel that it has found. -/
inductive Selects (req : ForwardToServerReq) : signature.Call → Option Tx → Prop
  | target (h : 0 ≤ req.targetInstanceId) (found : Option Tx) :
      Selects req ⟨.findByInstance req.targetServiceId.toUInt8 req.targetInstanceId.toUInt32, found⟩ found
  | lowest (h : req.targetInstanceId < 0) (candidate : Option BindCandidate) :
      Selects req ⟨.selectLowestLoadInstance req.targetServiceId.toUInt8, candidate⟩ (candidate.map (·.tx))

/-- A frame that is passed on, with what the gateway knows of its source. -/
structure Forwarded (req : ForwardToServerReq) (source : UInt8 × UInt32) (c : signature.Call) (tx : Tx) : Prop where
  call : ∃ r sent, c = ⟨.send tx (.toBackend (.control (.forwardToServerReq r) 0 0)), sent⟩ ∧
    r.payload = req.payload ∧ r.sourceServiceId = source.1.toUInt32 ∧ r.sourceInstanceId = source.2

namespace InternalDelegate

variable {d : InternalDelegate} {calls : List signature.Call}

theorem forwards_sendControl {message : Message} {serial : Int32} {sessionId : UInt32}
    (hmessage : ∀ tx, (Op.send tx (.toBackend (.control message serial sessionId))).forwards = false)
    (hpath : (d.sendControl message serial sessionId).Path calls (.ret ())) :
    calls.filter (fun c => c.op.forwards) = [] := by
  rw [sendControl] at hpath
  cases htx : d.tx with
  | none =>
      rw [htx] at hpath
      obtain ⟨rfl, -⟩ := Program.path_ret.1 hpath
      rfl
  | some tx =>
      rw [htx] at hpath
      rcases Program.path_call.1 hpath with ⟨-, h⟩ | ⟨sent, rest, rfl, h⟩
      · cases h
      · obtain ⟨rfl, -⟩ := Program.path_ret.1 h
        exact List.filter_cons_of_neg (by simp [hmessage])

theorem forwards_replyControlErrorIfRequest {serial : Int32} {code : UInt32} {message : String}
    (hpath : (d.replyControlErrorIfRequest serial code message).Path calls (.ret ())) :
    calls.filter (fun c => c.op.forwards) = [] := by
  rw [replyControlErrorIfRequest] at hpath
  split_ifs at hpath
  · obtain ⟨rfl, -⟩ := Program.path_ret.1 hpath
    rfl
  · exact forwards_sendControl (fun _ => rfl) hpath
  · exact forwards_sendControl (fun _ => rfl) hpath

theorem path_forward {serial : Int32} {req r : ForwardToServerReq} {source : UInt8 × UInt32} {tx : Tx}
    {code : UInt32} {message : String} (hpayload : r.payload = req.payload)
    (hservice : r.sourceServiceId = source.1.toUInt32) (hinstance : r.sourceInstanceId = source.2)
    (hpath : (do
      let sent ← perform (.send tx (.toBackend (.control (.forwardToServerReq r) 0 0)))
      if sent then pure () else d.replyControlErrorIfRequest serial code message : GatewayM Unit).Path calls
        (.ret ())) :
    ∃ c, calls.filter (fun c => c.op.forwards) = [c] ∧ Forwarded req source c tx := by
  rcases Program.path_call.1 hpath with ⟨-, h⟩ | ⟨sent, rest, rfl, h⟩
  · cases h
  · refine ⟨_, ?_, ⟨r, sent, rfl, hpayload, hservice, hinstance⟩⟩
    rw [List.filter_cons_of_pos rfl]
    cases sent with
    | true =>
        obtain ⟨rfl, -⟩ := Program.path_ret.1 h
        rfl
    | false => exact congrArg _ (forwards_replyControlErrorIfRequest h)

/-- One look-up, and what it has found gets the frame. -/
theorem path_handleServerForward {serial : Int32} {req : ForwardToServerReq} {source : UInt8 × UInt32}
    (hregistered : d.registered = some source)
    (hpath : (d.handleServerForward serial req).Path calls (.ret ())) :
    ∃ lookup found rest, calls = lookup :: rest ∧ Selects req lookup found ∧ lookup.op.forwards = false ∧
      match found with
      | none => rest.filter (fun c => c.op.forwards) = []
      | some tx => ∃ c, rest.filter (fun c => c.op.forwards) = [c] ∧ Forwarded req source c tx := by
  obtain ⟨serviceId, instanceId⟩ := source
  rw [handleServerForward, hregistered] at hpath
  dsimp only at hpath
  obtain ⟨selected, first, second, rfl, hfirst, hsecond⟩ := Program.path_bind hpath
  rw [selectTarget] at hfirst
  split_ifs at hfirst with htarget
  · rcases Program.path_call.1 hfirst with ⟨-, h⟩ | ⟨found, rest, rfl, h⟩
    · cases h
    · obtain ⟨rfl, hselected⟩ := Program.path_ret.1 h
      refine ⟨_, found, second, rfl, .target htarget found, rfl, ?_⟩
      cases found with
      | none =>
          cases hselected
          exact forwards_replyControlErrorIfRequest hsecond
      | some tx =>
          cases hselected
          exact path_forward (d := d) (r := { req with
            targetInstanceId := req.targetInstanceId.toUInt32.toInt32
            sourceServiceId := serviceId.toUInt32
            sourceInstanceId := instanceId }) rfl rfl rfl hsecond
  · rcases Program.path_call.1 hfirst with ⟨-, h⟩ | ⟨candidate, rest, rfl, h⟩
    · cases h
    · obtain ⟨rfl, hselected⟩ := Program.path_ret.1 h
      refine ⟨_, _, second, rfl, .lowest (Int32.not_le.1 htarget) candidate, rfl, ?_⟩
      cases candidate with
      | none =>
          cases hselected
          exact forwards_replyControlErrorIfRequest hsecond
      | some candidate =>
          cases hselected
          exact path_forward (d := d) (r := { req with
            targetInstanceId := candidate.instanceId.toInt32
            sourceServiceId := serviceId.toUInt32
            sourceInstanceId := instanceId }) rfl rfl rfl hsecond

end InternalDelegate

/-! ### What is found -/

namespace Shared

/-- What backends of a service are compared by. -/
def weight (s : Shared) (conn : BackendConn) : UInt32 × Nat × UInt32 × Tx :=
  (conn.load.loadScore, s.router.bindingCount conn.serviceId conn.instanceId, conn.instanceId, conn.tx)

/-- No backend of its service that takes bindings comes before this one. -/
def Lightest (s : Shared) (x : UInt32) : Prop :=
  ∃ conn, s.registry.conns.get x = some conn ∧ accepts conn ∧ ∀ y other,
    s.registry.conns.get y = some other → other.serviceId = conn.serviceId → accepts other →
      ServerRegistry.keyLe (s.weight conn) (s.weight other) = true

theorem Reordered.weight {s t : Shared} (h : s.Reordered t) : t.weight = s.weight := by
  funext conn
  have hperm : t.router.bindings.toList.Perm s.router.bindings.toList :=
    (List.perm_ext_iff_of_nodup t.router.bindings.nodup_toList s.router.bindings.nodup_toList).2 fun e =>
      h.bindings.mem_toList
  rw [Shared.weight, Shared.weight, Router.bindingCount, Router.bindingCount, hperm.countP_eq]

end Shared

/-! ### The look-ups -/

theorem Shared.Does.lightest {s s' : Shared} {svc : UInt8} {candidate : Option BindCandidate} {tx : Tx}
    (h : s.Does (.selectLowestLoadInstance svc) candidate s') (htx : candidate.map (·.tx) = some tx) :
    ∃ y conn, s.registry.conns.get y = some conn ∧ conn.serviceId = svc ∧ conn.tx = tx ∧ s.Lightest y := by
  obtain ⟨t, hsame, hexec⟩ := h
  obtain rfl : t.registry.selectLowestLoadInstance svc t.router.bindingCount = candidate :=
    congrArg Prod.fst hexec
  rw [ServerRegistry.selectLowestLoadInstance_eq, Option.map_map] at htx
  obtain ⟨key, hhead, rfl⟩ := Option.map_eq_some_iff.1 htx
  obtain ⟨hmem, hleast⟩ := head_insertionSort hhead
  obtain ⟨y, conn, hget, hservice, haccepts, rfl⟩ := ServerRegistry.mem_candidates.1 hmem
  have hy := (hsame.conns y).trans hget
  refine ⟨y, conn, hy, hservice, rfl, conn, hy, haccepts, fun z other hz hother hothers => ?_⟩
  rw [← hsame.weight]
  refine hleast _ (ServerRegistry.mem_candidates.2 ⟨z, other, (hsame.conns z).symm.trans hz, ?_, hothers, rfl⟩)
  exact hother.trans hservice

namespace Server.Census

variable {s s' : Shared} {qs : List Server} {x : UInt32} {identity : Identity}

theorem findByInstance (h : Census s qs) (hx : s.backend x = some identity) {found : Option Tx}
    (hdoes : s.Does (.findByInstance identity.serviceId identity.instanceId) found s') :
    found = some identity.tx := by
  have hserves : s.serves identity.serviceId identity.instanceId := ⟨x, identity, hx, rfl, rfl⟩
  obtain ⟨tx, rfl⟩ := Option.isSome_iff_exists.1 (hdoes.findByInstance_isSome.2 hserves)
  obtain ⟨y, other, hy, hservice, hinstance, rfl⟩ := Shared.Does.findByInstance hdoes
  have hxy := h.unique hx hy (Prod.ext hservice.symm hinstance.symm)
  rw [← hxy, hx] at hy
  rw [Option.some.inj hy]

theorem selectLowestLoadInstance (h : Census s qs) (hx : s.backend x = some identity)
    {candidate : Option BindCandidate}
    (hdoes : s.Does (.selectLowestLoadInstance identity.serviceId) candidate s') :
    candidate.map (·.tx) = some identity.tx ↔ s.Lightest x := by
  constructor
  · intro hfound
    obtain ⟨y, conn, hget, -, htx, hlightest⟩ := hdoes.lightest hfound
    have hy : s.backend y = some conn.identity := by rw [Shared.backend, hget]; rfl
    rw [h.distinctChannels _ _ _ _ hx hy htx.symm]
    exact hlightest
  · rintro ⟨conn, hget, haccepts, hleast⟩
    have hidentity : conn.identity = identity := by
      rw [Shared.backend, hget] at hx
      exact Option.some.inj hx
    have hservice : conn.serviceId = identity.serviceId := congrArg Identity.serviceId hidentity
    have hsome : candidate.isSome = true :=
      (Shared.Does.selectLowestLoadInstance hdoes).1.2 ⟨x, conn, hget, hservice, haccepts⟩
    obtain ⟨c, rfl⟩ := Option.isSome_iff_exists.1 hsome
    obtain ⟨y, other, hother, hsame, htx, again, hagain, haccepts', hleast'⟩ := hdoes.lightest (rfl : _ = some c.tx)
    obtain rfl := Option.some.inj (hother.symm.trans hagain)
    have hinstance : other.instanceId = conn.instanceId :=
      keyLe_antisymm (hleast' x conn hget (hservice.trans hsame.symm) haccepts)
        (hleast y other hother (hsame.trans hservice.symm) haccepts')
    have hy : s.backend y = some other.identity := by rw [Shared.backend, hother]; rfl
    have hxy := h.unique hy hx (Prod.ext hsame (by rw [← hidentity]; exact hinstance))
    rw [hxy, hget] at hother
    rw [Option.map_some, ← htx, ← hidentity, Option.some.inj hother]
    rfl

end Server.Census

theorem toInt32_nonneg (n : UInt32) : 0 ≤ n.toInt32 ↔ n.toNat < 2 ^ 31 := by
  rw [Int32.le_iff_toInt_le]
  change (0 : Int) ≤ n.toBitVec.toInt ↔ _
  rw [BitVec.toInt_eq_toNat_cond, UInt32.toNat_toBitVec]
  have h := n.toNat_lt
  split_ifs <;> omega

/-- The look-up for a frame to a backend finds it if its instance is not negative as a signed number, or if no
other comes before it. -/
theorem Selects.finds {s s' : Shared} {qs : List Server} (hcensus : Server.Census s qs) {x : UInt32}
    {identity : Identity} (hx : s.backend x = some identity) {req : ForwardToServerReq}
    (hservice : req.targetServiceId = identity.serviceId.toUInt32)
    (hinstance : req.targetInstanceId = identity.instanceId.toInt32) {c : signature.Call} {found : Option Tx}
    (h : Selects req c found) (hdoes : s.Does c.op c.answer s') :
    found = some identity.tx ↔ identity.instanceId.toNat < 2 ^ 31 ∨ s.Lightest x := by
  have hsvc : req.targetServiceId.toUInt8 = identity.serviceId := by rw [hservice, UInt8.toUInt8_toUInt32]
  have hsigned : 0 ≤ req.targetInstanceId ↔ identity.instanceId.toNat < 2 ^ 31 := by
    rw [hinstance, toInt32_nonneg]
  cases h with
  | target htarget found =>
      have hid : req.targetInstanceId.toUInt32 = identity.instanceId := by
        rw [hinstance, UInt32.toUInt32_toInt32]
      rw [hsvc, hid] at hdoes
      exact ⟨fun _ => Or.inl (hsigned.1 htarget), fun _ => hcensus.findByInstance hx hdoes⟩
  | lowest htarget candidate =>
      rw [hsvc] at hdoes
      rw [hcensus.selectLowestLoadInstance hx hdoes, or_iff_right]
      exact fun hsmall => Int32.not_le.2 htarget (hsigned.2 hsmall)

theorem Selects.registered {s s' : Shared} {req : ForwardToServerReq} {c : signature.Call} {tx : Tx}
    (h : Selects req c (some tx)) (hdoes : s.Does c.op c.answer s') :
    ∃ x identity, s.backend x = some identity ∧ identity.tx = tx := by
  generalize hfound : some tx = found at h
  cases h with
  | target _ found =>
      subst hfound
      obtain ⟨x, identity, hx, -, -, htx⟩ := Shared.Does.findByInstance hdoes
      exact ⟨x, identity, hx, htx⟩
  | lowest _ candidate =>
      obtain ⟨x, conn, hget, -, htx, -⟩ := Shared.Does.lightest hdoes hfound.symm
      exact ⟨x, conn.identity, by rw [Shared.backend, hget]; rfl, htx⟩

/-! ### Who a backend is -/

namespace Server

variable {s s' : Shared} {qs qs' : List Server} {e : Event signature Connection Input} {k : Nat} {q : Server}
  {server : UInt8 × UInt32}

theorem Census.registered_stays (h : Census s qs) (hstep : (guide m).Step (s, qs) e (s', qs'))
    (hk : qs[k]? = some q) (hregistered : q.registered = some server) :
    ∃ q', qs'[k]? = some q' ∧ q'.registered = some server := by
  have hset : ∀ {j : Nat} {p p' : Server}, qs[j]? = some p →
      (j = k → p.registered = some server → p'.registered = some server) →
        ∃ q', (qs.set j p')[k]? = some q' ∧ q'.registered = some server := by
    intro j p p' hj hkeeps
    rw [Guide.get_set hj]
    split_ifs with hkj
    · subst hkj
      obtain rfl := Option.some.inj (hk.symm.trans hj)
      exact ⟨p', rfl, hkeeps rfl hregistered⟩
    · exact ⟨q, hk, hregistered⟩
  cases hstep with
  | opens _ =>
      rw [List.getElem?_append_left (List.getElem?_eq_some_iff.1 hk).1]
      exact ⟨q, hk, hregistered⟩
  | input hj _ _ hbegins =>
      refine hset hj fun _ hold => ?_
      cases hbegins <;> exact hold
  | call hj hmoves hdoes =>
      refine hset hj fun _ hold => ?_
      cases hmoves with
      | @register _ _ result hinternal hopen _ =>
          obtain ⟨identity, hbackend, rfl⟩ := h.registered _ (List.mem_of_getElem? hj) hinternal hopen server hold
          cases result with
          | registered => exact nomatch hbackend.symm.trans (hdoes.register.1 rfl)
          | alreadyRegistered =>
              obtain ⟨again, hagain, hsame⟩ := hdoes.register_holder.2.1 rfl
              rw [Option.some.inj (hbackend.symm.trans hagain)]
              exact congrArg some hsame.symm
          | sessionAlreadyRegistered | instanceAlreadyRegistered => exact hold
      | _ => exact hold
  | environment _ => exact ⟨q, hk, hregistered⟩

/-- What a connection or the registry has ever taken a backend for, it still takes itself for. -/
structure Remembers (trace : Trace) (qs : List Server) : Prop where
  delegate : ∀ e ∈ trace, ∀ (k : Nat) conn d server, e.1.threads[k]? = some (.ret conn) →
    conn.delegate = .internal d → d.registered = some server → ∃ q, qs[k]? = some q ∧ q.registered = some server
  backend : ∀ e ∈ trace, ∀ x identity, e.1.shared.backend x = some identity →
    ∃ q, qs[identity.tx]? = some q ∧ q.registered = some identity.server

theorem remembers_of_run {trace : Trace} {pool : Pool signature Shared Connection}
    (hrun : Run (Step (system m)) (initial rules) trace pool) (hconnections : pool.threads.length < 2 ^ 32 - 1) :
    ∃ qs, (guide m).Tracks qs pool.threads ∧ Census pool.shared qs ∧ Remembers trace qs := by
  have hinvariant := (guide m).invariant rfl hrun (fun _ _ => True) (fun _ _ => trivial)
    (fun trace s qs => qs.length < 2 ^ 32 - 1 → Census s qs ∧ Remembers trace qs)
    (fun _ => ⟨.init rules, fun _ h => absurd h List.not_mem_nil, fun _ h => absurd h List.not_mem_nil⟩) ?_
  · obtain ⟨qs, htracks, hinv⟩ := hinvariant
    exact ⟨qs, htracks, hinv (htracks.length_eq ▸ hconnections)⟩
  · intro trace pool qs e s' qs' htracks hinv _ hstep hlen
    obtain ⟨hcensus, hremembers⟩ := hinv (Nat.lt_of_le_of_lt hstep.length_le hlen)
    refine ⟨hcensus.step hstep hlen, ⟨fun entry hentry k conn d server hidle hdelegate hserver => ?_,
      fun entry hentry x identity hx => ?_⟩⟩
    · have hold : ∃ q, qs[k]? = some q ∧ q.registered = some server := by
        rcases List.mem_append.1 hentry with hentry | hentry
        · exact hremembers.delegate entry hentry k conn d server hidle hdelegate hserver
        · obtain rfl := List.mem_singleton.1 hentry
          obtain ⟨q, hq, hfollows⟩ := htracks.get hidle
          exact ⟨q, hq, (hfollows.of_ret.registered d hdelegate).symm.trans hserver⟩
      obtain ⟨q, hq, hregistered⟩ := hold
      exact hcensus.registered_stays hstep hq hregistered
    · have hold : ∃ q, qs[identity.tx]? = some q ∧ q.registered = some identity.server := by
        rcases List.mem_append.1 hentry with hentry | hentry
        · exact hremembers.backend entry hentry x identity hx
        · obtain rfl := List.mem_singleton.1 hentry
          obtain ⟨j, q, hq, -, -, -, -, htx, hregistered⟩ := hcensus.backend x identity hx
          exact ⟨q, htx.symm ▸ hq, hregistered⟩
      obtain ⟨q, hq, hregistered⟩ := hold
      exact hcensus.registered_stays hstep hq hregistered

end Server

/-! ### Runs -/

/-- In this run thread `k` has handled a frame between servers, with these calls. -/
structure Handled (m : MessageMap) (rules : List RouteRule) (trace : Trace)
    (pool : Pool signature Shared Connection) (k : Nat) (req : ForwardToServerReq)
    (steps : List (Shared × signature.Call)) : Prop where
  run : Run (Step (system m)) (initial rules) trace pool
  frame : ∃ (before : List (Shared × Own signature Input)) (s₀ : Shared) (frame : BackendFrame),
    own k trace = before ++ (s₀, .input (.backendFrame frame)) :: steps.map (fun c => (c.1, .call c.2)) ∧
      frame.cmd = backendCmdControl ∧ m.decode frame.msgId frame.payload = .ok (.forwardToServerReq req)
  idle : ∃ conn, pool.threads[k]? = some (.ret conn)

/-- The only frame between servers that is passed on is one with this payload, on this channel; it is lost
if the channel has lost its receiver. -/
def Delivered (steps : List (Shared × signature.Call)) (tx : Tx) (payload : List UInt8) : Prop :=
  ∃ s r sent, (steps.filter fun c => c.2.op.forwards) =
    [(s, ⟨.send tx (.toBackend (.control (.forwardToServerReq r) 0 0)), sent⟩)] ∧
      r.payload = payload ∧ (sent = true ↔ tx ∉ s.channels.closed)

theorem Delivered.unique {steps : List (Shared × signature.Call)} {tx tx' : Tx} {payload payload' : List UInt8}
    (h : Delivered steps tx payload) (h' : Delivered steps tx' payload') : tx = tx' := by
  obtain ⟨s, r, sent, hfilter, -⟩ := h
  obtain ⟨s', r', sent', hfilter', -⟩ := h'
  cases hfilter.symm.trans hfilter'
  rfl

namespace Handled

variable {trace : Trace} {pool : Pool signature Shared Connection} {k : Nat} {req : ForwardToServerReq}
  {steps : List (Shared × signature.Call)}

theorem path (h : Handled m rules trace pool k req steps) : ∃ pool₀ e conn d serial, (pool₀, e) ∈ trace ∧
    pool₀.threads[k]? = some (.ret conn) ∧ conn.delegate = .internal d ∧
      pool.threads[k]? = some (.ret { conn with delegate := .internal d }) ∧
        (d.handleServerForward serial req).Path (steps.map Prod.snd) (.ret ()) := by
  obtain ⟨before, s₀, frame, hown, hcmd, hdecode⟩ := h.frame
  obtain ⟨last, hlast⟩ := h.idle
  obtain ⟨-, pool₀, conn, p, rest, -, hmem, hidle, hp, hrest, hpath⟩ := path_of_run h.run hown
  obtain rfl := Option.some.inj (hlast.symm.trans hrest)
  have hp : conn.handle m (.backendFrame frame) = some p := hp
  cases hstage : conn.stage <;> cases hdelegate : conn.delegate <;>
    simp only [Connection.handle, hstage, hdelegate, Option.some.injEq, reduceCtorEq] at hp
  rename_i d
  subst hp
  rw [d.onRecvFrame_control hcmd, hdecode] at hpath
  obtain ⟨d', first, second, hsteps, hfirst, hsecond⟩ := Program.path_bind hpath
  obtain ⟨rfl, hfinal⟩ := Program.path_ret.1 hsecond
  obtain ⟨_, first, third, rfl, hforward, hthird⟩ := Program.path_bind hfirst
  obtain ⟨rfl, hd'⟩ := Program.path_ret.1 hthird
  cases hd'
  cases hfinal
  rw [List.append_nil, List.append_nil] at hsteps
  exact ⟨pool₀, _, conn, d, frame.serial, hmem, hidle, hdelegate, hstage ▸ hlast, hsteps ▸ hforward⟩

theorem own (h : Handled m rules trace pool k req steps) {c : Shared × signature.Call} (hc : c ∈ steps) :
    (c.1, .call c.2) ∈ Pool.own k trace := by
  obtain ⟨before, s₀, frame, hown, -⟩ := h.frame
  rw [hown]
  exact List.mem_append_right _ (List.mem_cons_of_mem _ (List.mem_map_of_mem hc))

/-- The handler of a registered backend's frame makes one look-up, and what it has found gets the frame. -/
theorem forwards (h : Handled m rules trace pool k req steps) {qs : List Server}
    (htracks : (Server.guide m).Tracks qs pool.threads) {q : Server} (hq : qs[k]? = some q)
    {server : UInt8 × UInt32} (hregistered : q.registered = some server) :
    ∃ s lookup found rest, steps = (s, lookup) :: rest ∧ Selects req lookup found ∧
      ∀ tx, Delivered steps tx req.payload ↔ found = some tx := by
  obtain ⟨pool₀, e, conn, d, serial, -, -, -, hlast, hpath⟩ := h.path
  obtain ⟨q', hq', hfollows⟩ := htracks.get hlast
  obtain rfl := Option.some.inj (hq.symm.trans hq')
  have hd : d.registered = some server := (hfollows.of_ret.registered d rfl).trans hregistered
  obtain ⟨lookup, found, calls, hsteps, hselects, hplain, hcalls⟩ := d.path_handleServerForward hd hpath
  obtain ⟨⟨s, c⟩, rest, rfl, hc, hrest⟩ := List.map_eq_cons_iff.1 hsteps
  obtain rfl : c = lookup := hc
  refine ⟨s, c, found, rest, rfl, hselects, fun tx => ?_⟩
  rw [Delivered, List.filter_cons_of_neg (by simpa using hplain)]
  rw [← hrest, List.filter_map] at hcalls
  constructor
  · rintro ⟨s₁, r, sent, hfilter, -, -⟩
    have hfilter : List.filter ((fun c : signature.Call => c.op.forwards) ∘ Prod.snd) rest = _ := hfilter
    rw [hfilter] at hcalls
    cases found with
    | none => cases hcalls
    | some found =>
        obtain ⟨c₁, hc₁, ⟨r₁, sent₁, rfl, -⟩⟩ := hcalls
        cases hc₁
        rfl
  · rintro rfl
    obtain ⟨c₁, hc₁, ⟨r₁, sent₁, rfl, hpayload, -⟩⟩ := hcalls
    obtain ⟨⟨s₁, c₁⟩, hfilter, rfl⟩ := List.map_eq_singleton_iff.1 hc₁
    have hmem := List.mem_cons_of_mem (s, c) (List.mem_filter.1 (hfilter ▸ List.mem_singleton_self _)).1
    exact ⟨s₁, r₁, sent₁, hfilter, hpayload, sent_of_own h.run (h.own hmem)⟩

/-- A frame that is passed on names the connection's own instance as its source, and goes to a registered
backend. -/
theorem source (h : Handled m rules trace pool k req steps) {s : Shared} {r : ForwardToServerReq} {tx : Tx}
    {sent : Bool}
    (hmem : (s, ⟨.send tx (.toBackend (.control (.forwardToServerReq r) 0 0)), sent⟩) ∈ steps) :
    ∃ server, r.sourceServiceId = server.1.toUInt32 ∧ r.sourceInstanceId = server.2 ∧
      (∃ pool₀ e conn d, (pool₀, e) ∈ trace ∧ pool₀.threads[k]? = some (.ret conn) ∧
        conn.delegate = .internal d ∧ d.registered = some server) ∧
      ∃ pool₀ e x identity, (pool₀, e) ∈ trace ∧ pool₀.shared.backend x = some identity ∧ identity.tx = tx := by
  obtain ⟨pool₀, e, conn, d, serial, hentry, hidle, hdelegate, -, hpath⟩ := h.path
  have hcall := List.mem_map_of_mem (f := Prod.snd) hmem
  cases hd : d.registered with
  | none =>
      rw [InternalDelegate.handleServerForward, hd] at hpath
      have hnone := List.filter_eq_nil_iff.1 (d.forwards_replyControlErrorIfRequest hpath) _ hcall
      exact absurd rfl hnone
  | some server =>
      obtain ⟨lookup, found, calls, hsteps, hselects, hplain, hcalls⟩ := d.path_handleServerForward hd hpath
      obtain ⟨⟨s₁, c⟩, rest, rfl, hc, hrest⟩ := List.map_eq_cons_iff.1 hsteps
      obtain rfl : c = lookup := hc
      have hforwards : (⟨.send tx (.toBackend (.control (.forwardToServerReq r) 0 0)), sent⟩ : signature.Call) ∈
          calls.filter fun c => c.op.forwards := by
        rcases List.mem_cons.1 (hsteps ▸ hcall) with heq | hmem
        · rw [← heq] at hplain
          cases hplain
        · exact List.mem_filter.2 ⟨hmem, rfl⟩
      cases found with
      | none =>
          rw [hcalls] at hforwards
          cases hforwards
      | some found =>
          obtain ⟨c₁, hc₁, ⟨r₁, sent₁, rfl, -, hservice, hinstance⟩⟩ := hcalls
          rw [hc₁] at hforwards
          cases List.mem_singleton.1 hforwards
          obtain ⟨trace₀, pool₁, -, -, hentry₁, rfl, s', hdoes⟩ := does_of_own h.run (h.own List.mem_cons_self)
          obtain ⟨x, identity, hx, htx⟩ := hselects.registered hdoes
          exact ⟨server, hservice, hinstance, ⟨pool₀, e, conn, d, hentry, hidle, hdelegate, hd⟩,
            pool₁, _, x, identity, hentry₁, hx, htx⟩

end Handled

/-- **A reply goes to its requester, or to where the load is lowest.** A backend has passed a request on to
another, whose framework replies to the address that it has made of it, and the requester is still registered
when the gateway looks the reply's target up. The reply goes to the requester's connection and to no other if
and only if the requester's instance is below `2 ^ 31`, or no other instance that takes bindings comes before
the requester by its load. -/
theorem delivered_of_run {trace₀ trace : Trace} {pool₀ pool : Pool signature Shared Connection} {j k : Nat}
    {req r reply : ForwardToServerReq} {asked steps : List (Shared × signature.Call)} {s₀ s : Shared}
    {sent : Bool} {source : ServerSource} {c : signature.Call} {x : UInt32} {identity : Identity}
    (hasked : Handled m rules trace₀ pool₀ j req asked)
    (hforwarded : (s₀, ⟨.send k (.toBackend (.control (.forwardToServerReq r) 0 0)), sent⟩) ∈ asked)
    (haddress : ReplyAddress m r source) (hlater : trace₀ <+: trace)
    (hreplied : Handled m rules trace pool k reply steps) (hservice : reply.targetServiceId = source.serviceId)
    (hinstance : reply.targetInstanceId = source.instanceId) (hlookup : steps.head? = some (s, c))
    (hregistered : s.backend x = some identity) (hrequester : identity.tx = j)
    (hconnections : pool.threads.length < 2 ^ 32 - 1) :
    Delivered steps j reply.payload ↔ r.sourceInstanceId.toNat < 2 ^ 31 ∨ s.Lightest x := by
  obtain ⟨server, hsource, hsourceInstance, ⟨pool₁, e₁, conn, d, hentry₁, hidle, hdelegate, hd⟩,
    pool₂, e₂, y, other, hentry₂, hy, htx⟩ := hasked.source hforwarded
  obtain ⟨qs, htracks, -, hremembers⟩ := Server.remembers_of_run hreplied.run hconnections
  -- The replier is registered, for the request has gone to it.
  obtain ⟨q, hq, hreplier⟩ := hremembers.backend _ (hlater.subset hentry₂) y other hy
  rw [htx] at hq
  obtain ⟨s₁, lookup, found, rest, rfl, hselects, hdelivered⟩ := hreplied.forwards htracks hq hreplier
  cases hlookup
  obtain ⟨trace₃, pool₃, hrun₃, hprefix, hentry₃, rfl, s', hdoes⟩ :=
    does_of_own hreplied.run (hreplied.own List.mem_cons_self)
  -- The requester is what it was when it asked.
  have hsame : identity.server = server := by
    obtain ⟨p, hp, hserver⟩ := hremembers.delegate _ (hlater.subset hentry₁) j conn d server hidle hdelegate hd
    obtain ⟨p', hp', hidentity⟩ := hremembers.backend _ hentry₃ x identity hregistered
    rw [hrequester, hp] at hp'
    rw [← Option.some.inj hp', hserver] at hidentity
    exact (Option.some.inj hidentity).symm
  have hlen := hreplied.run.le_of_mem (fun pool : Pool signature Shared Connection => pool.threads.length)
    (fun _ _ _ hstep => Step.length_le hstep) hentry₃
  obtain ⟨qs₃, -, hcensus, -⟩ := Server.remembers_of_run hrun₃ (Nat.lt_of_le_of_lt hlen hconnections)
  subst hsame
  rw [haddress.eq] at hservice hinstance
  rw [hsource] at hservice
  rw [hsourceInstance] at hinstance
  rw [hdelivered, ← hrequester, hsourceInstance]
  exact hselects.finds hcensus hregistered hservice hinstance hdoes

namespace Sample

/-- A request of one backend to another. -/
def inner : BackendFrame := { cmd := backendCmdBusiness, msgId := 160, serial := -1, sessionId := 0, payload := [] }

def asked : ForwardToServerReq :=
  { targetServiceId := 2, targetInstanceId := -1, payload := encodeFrame inner, sourceServiceId := 0, sourceInstanceId := 0 }

/-- The request as the gateway passes it on, for a requester with this instance. -/
def passed (instanceId : UInt32) : ForwardToServerReq :=
  { asked with targetInstanceId := 3, sourceServiceId := 1, sourceInstanceId := instanceId }

/-- The reply; its payload does not matter here. -/
def replied (instanceId : UInt32) : ForwardToServerReq :=
  { targetServiceId := 1, targetInstanceId := instanceId.toInt32, payload := [], sourceServiceId := 0, sourceInstanceId := 0 }

def registration (serviceId instanceId loadScore : UInt32) : Message :=
  .serverRegReq { serviceId, instanceId, loadScore, acceptingBindings := true, loadMessage := "" }

/-- The messages of the requester, its sibling of less load, and the backend that is asked. -/
def exchangeMessages (instanceId : UInt32) : MessageMap where
  encode := fun _ => (0, [])
  decode := fun msgId _ =>
    if msgId = 100 then .ok (registration 1 instanceId 50)
    else if msgId = 101 then .ok (registration 2 3 0)
    else if msgId = 102 then .ok (registration 1 5 0)
    else if msgId = 103 then .ok (.forwardToServerReq asked)
    else if msgId = 104 then .ok (.forwardToServerReq (replied instanceId))
    else .ok .serverStatusReq

def control (msgId : UInt16) : BackendFrame :=
  { cmd := backendCmdControl, msgId, serial := 0, sessionId := 0, payload := [] }

theorem passed_address (instanceId : UInt32) :
    ReplyAddress (exchangeMessages instanceId) (passed instanceId) ⟨1, instanceId.toInt32⟩ :=
  .request (show (Backend.routeForwardedFrame (exchangeMessages instanceId) {} (passed instanceId)).action =
    .serverRequest ⟨1, instanceId.toInt32⟩ inner _ from rfl)

def registrations : List (Pool.Event signature Connection Input) :=
  [.opens (.accept 1 0 (.internal {})), .input 0 .start, .input 0 (.backendFrame (control 100)),
    .opens (.accept 2 1 (.internal {})), .input 1 .start, .input 1 (.backendFrame (control 101)),
    .opens (.accept 3 2 (.internal {})), .input 2 .start, .input 2 (.backendFrame (control 102))]

end Sample

/-- The requester's instance is small, and it gets its reply although its sibling has less load. -/
theorem delivered_of_run_small : ∃ trace pool steps,
    Handled (Sample.exchangeMessages 7) Sample.rules trace pool 1 (Sample.replied 7) steps ∧
      Delivered steps 0 [] := by
  have hplayed : (Sample.played (Sample.exchangeMessages 7) Sample.registrations).isSome = true := rfl
  obtain ⟨trace, hrun, -⟩ := Turn.runs (Sample.played_run hplayed)
  obtain ⟨trace₀, hrun₀, -, hown₀⟩ := (executor (Sample.exchangeMessages 7)).handles hrun (k := 0)
    (e := .backendFrame (Sample.control 103)) rfl rfl
  obtain ⟨trace₁, hrun₁, hprefix, hown₁⟩ := (executor (Sample.exchangeMessages 7)).handles hrun₀ (k := 1)
    (e := .backendFrame (Sample.control 104)) rfl rfl
  have hasked : Handled (Sample.exchangeMessages 7) Sample.rules trace₀ _ 0 Sample.asked _ :=
    ⟨hrun₀, ⟨_, _, _, hown₀, rfl, rfl⟩, _, rfl⟩
  have hreplied : Handled (Sample.exchangeMessages 7) Sample.rules trace₁ _ 1 (Sample.replied 7) _ :=
    ⟨hrun₁, ⟨_, _, _, hown₁, rfl, rfl⟩, _, rfl⟩
  exact ⟨_, _, _, hreplied, (delivered_of_run (j := 0) (k := 1) (r := Sample.passed 7) (x := 1) hasked
    (List.mem_cons_of_mem _ List.mem_cons_self) (Sample.passed_address _) hprefix hreplied
    rfl rfl rfl rfl rfl (show 3 < 2 ^ 32 - 1 by decide)).2 (Or.inl (by decide))⟩

/-- The requester's instance is `2 ^ 31`: it is registered when the reply is looked up, and the reply goes to
its sibling. -/
theorem reply_misdirected : ∃ trace₀ pool₀ asked trace pool steps s₀ s c identity,
    Handled (Sample.exchangeMessages 2147483648) Sample.rules trace₀ pool₀ 0 Sample.asked asked ∧
      (s₀, ⟨.send 1 (.toBackend (.control (.forwardToServerReq (Sample.passed 2147483648)) 0 0)), true⟩) ∈ asked ∧
      ReplyAddress (Sample.exchangeMessages 2147483648) (Sample.passed 2147483648) ⟨1, -2147483648⟩ ∧
      trace₀ <+: trace ∧
      Handled (Sample.exchangeMessages 2147483648) Sample.rules trace pool 1 (Sample.replied 2147483648) steps ∧
      (Sample.replied 2147483648).targetServiceId = 1 ∧
      (Sample.replied 2147483648).targetInstanceId = -2147483648 ∧
      steps.head? = some (s, c) ∧ s.backend 1 = some identity ∧ identity.tx = 0 ∧
      Delivered steps 2 [] ∧ ¬ Delivered steps 0 [] := by
  obtain ⟨trace, hrun, -⟩ := Turn.runs (Sample.played_run
    (show (Sample.played (Sample.exchangeMessages 2147483648) Sample.registrations).isSome = true from rfl))
  obtain ⟨trace₀, hrun₀, -, hown₀⟩ := (executor (Sample.exchangeMessages 2147483648)).handles hrun (k := 0)
    (e := .backendFrame (Sample.control 103)) rfl rfl
  obtain ⟨trace₁, hrun₁, hprefix, hown₁⟩ := (executor (Sample.exchangeMessages 2147483648)).handles hrun₀ (k := 1)
    (e := .backendFrame (Sample.control 104)) rfl rfl
  have hasked : Handled (Sample.exchangeMessages 2147483648) Sample.rules trace₀ _ 0 Sample.asked _ :=
    ⟨hrun₀, ⟨_, _, _, hown₀, rfl, rfl⟩, _, rfl⟩
  have hreplied : Handled (Sample.exchangeMessages 2147483648) Sample.rules trace₁ _ 1
      (Sample.replied 2147483648) _ := ⟨hrun₁, ⟨_, _, _, hown₁, rfl, rfl⟩, _, rfl⟩
  obtain ⟨qs, htracks, -⟩ := Server.remembers_of_run hrun₁ (show 3 < 2 ^ 32 - 1 by decide)
  obtain ⟨q, hq, hfollows⟩ := htracks.get (k := 1) rfl
  obtain ⟨s, lookup, found, rest, hsteps, hselects, hdelivered⟩ := hreplied.forwards htracks hq
    (hfollows.of_ret.registered ⟨2, some 1, some (2, 3)⟩ (by decide +kernel)).symm
  -- The look-up has found the sibling.
  have hfound : found = some 2 := by
    have hhead : some (_, (⟨.selectLowestLoadInstance 1, some ⟨5, 2⟩⟩ : signature.Call)) = some (s, lookup) :=
      congrArg List.head? hsteps
    cases hhead
    cases hselects
    rfl
  subst hfound
  exact ⟨_, _, _, _, _, _, _, _, _, _, hasked, List.mem_cons_of_mem _ List.mem_cons_self,
    (Sample.passed_address _), hprefix, hreplied, rfl, rfl, rfl, rfl, rfl,
    (hdelivered 2).2 rfl, fun h => nomatch (hdelivered 0).1 h⟩

end AxmolFighter.Gateway
