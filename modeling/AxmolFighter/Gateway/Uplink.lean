import AxmolFighter.Gateway.Routing

/-!
# From a client to the backends

All that the gateway puts on the backends' channels under the session id of a client are frames that the
client's connection was given, each at most once and in their order, whatever the other connections do in
between. The invariant has the frame that a handler may still put there behind those that are there.
-/

namespace AxmolFighter.Gateway

open Pool

/-- The frame of the client behind connection `k`, if the message is one. -/
def WriterMessage.clientFrame (k : Nat) : WriterMessage → Option ClientFrame
  | .toBackend (.business msgId serial sessionId payload) =>
      if sessionId.toNat = k + 1 then some { cmd := cmdBusiness, msgId, serial, payload } else none
  | _ => none

/-- What the backends' channels have got of the client behind connection `k`. -/
def Shared.relayed (s : Shared) (k : Nat) : List ClientFrame :=
  s.channels.sent.filterMap fun e => e.2.clientFrame k

/-- The frame that connection `k` is given with an event. -/
def given (k : Nat) : Event signature Connection Input → Option ClientFrame
  | .input k' (.clientFrame frame) => if k' = k then some frame else none
  | _ => none

/-- The frames that connection `k` was given. -/
def clientFrames (k : Nat) (trace : List (Pool signature Shared Connection × Event signature Connection Input)) :
    List ClientFrame :=
  trace.filterMap fun e => given k e.2

/-- The frame that the handler may still put on a channel. -/
def Phase.pending : Phase → List ClientFrame
  | .received frame | .checked frame | .routed frame _ | .found frame _ _ => [{ frame with cmd := cmdBusiness }]
  | _ => []

namespace Phase

theorem pending_of_done {phase : Phase} (h : phase.done = true) : phase.pending = [] := by
  cases phase <;> first | rfl | cases h

theorem pending_afterResolve (frame : ClientFrame) (target : RouteTarget) :
    (afterResolve frame target).pending.Sublist (checked frame).pending := by
  cases target <;> simp [afterResolve, pending]

theorem pending_afterFind (frame : ClientFrame) (target : RouteTarget) (found : Option Tx) :
    (afterFind frame target found).pending.Sublist (routed frame target).pending := by
  cases found <;> simp [afterFind, pending]

theorem pending_ofFrame (m : MessageMap) (frame : ClientFrame) : (ofFrame m frame).pending.Sublist [frame] := by
  rw [ofFrame]
  split_ifs with hstatus hbusiness
  · exact List.nil_sublist _
  · obtain ⟨-, hcmd⟩ := hbusiness
    simp [pending, ← hcmd]
  · exact List.nil_sublist _

end Phase

theorem WriterMessage.clientFrame_of_news {message : WriterMessage} (h : message.news = none) (k : Nat) :
    message.clientFrame k = none := by
  cases message with
  | toBackend data =>
      cases data with
      | business => cases h
      | control => rfl
  | _ => rfl

variable {m : MessageMap} {s s' : Shared} {qs qs' : List Member}
  {trace : List (Pool signature Shared Connection × Event signature Connection Input)}

theorem clientFrames_snoc (k : Nat) (pool : Pool signature Shared Connection)
    (e : Event signature Connection Input) :
    clientFrames k (trace ++ [(pool, e)]) = clientFrames k trace ++ (given k e).toList := by
  rw [clientFrames, List.filterMap_append, List.filterMap_cons, List.filterMap_nil]
  cases given k e <;> rfl

theorem clientFrames_other (k : Nat) (pool : Pool signature Shared Connection)
    {e : Event signature Connection Input} (h : given k e = none) :
    clientFrames k (trace ++ [(pool, e)]) = clientFrames k trace := by
  rw [clientFrames_snoc, h, Option.toList_none, List.append_nil]

theorem Shared.relayed_append {posted : List (Tx × WriterMessage)}
    (h : s'.channels.sent = s.channels.sent ++ posted) (k : Nat) :
    s'.relayed k = s.relayed k ++ posted.filterMap fun e => e.2.clientFrame k := by
  rw [relayed, h, List.filterMap_append]
  rfl

theorem Shared.relayed_eq {posted : List (Tx × WriterMessage)}
    (h : s'.channels.sent = s.channels.sent ++ posted) {k : Nat} (hposted : ∀ e ∈ posted, e.2.clientFrame k = none) :
    s'.relayed k = s.relayed k := by
  rw [relayed_append h, List.filterMap_eq_nil_iff.2 hposted, List.append_nil]

/-! ### The calls of one connection -/

/-- A call of connection `k` moves at most the pending frame to the channels. -/
def Relays (k : Nat) (s s' : Shared) (q q' : Member) : Prop :=
  (∀ j, j ≠ k → s'.relayed j = s.relayed j) ∧
    (s'.relayed k ++ q'.phase.pending).Sublist (s.relayed k ++ q.phase.pending)

section

variable {q q' : Member} {op : Op} {answer : op.Answer} {k : Nat}

theorem relays_of_message (hdoes : s.Does op answer s')
    (hop : ∀ message, op.message = some message → ∀ j, message.clientFrame j = none)
    (hpending : q'.phase.pending.Sublist q.phase.pending) : Relays k s s' q q' := by
  obtain ⟨posted, hsent, hposted⟩ := hdoes.posts
  have hsame : ∀ j, s'.relayed j = s.relayed j := fun j =>
    Shared.relayed_eq hsent fun e he => hop _ (hposted e he) j
  refine ⟨fun j _ => hsame j, ?_⟩
  rw [hsame k]
  exact (List.Sublist.refl _).append hpending

theorem relays_of_silent (hdoes : s.Does op answer s') (hop : op.message = none)
    (hpending : q'.phase.pending.Sublist q.phase.pending) : Relays k s s' q q' := by
  refine relays_of_message hdoes (fun message hmessage => ?_) hpending
  rw [hop] at hmessage
  cases hmessage

theorem relays_of_moves (hid : q.sessionId.toNat = k + 1) (hmoves : Moves q op answer q')
    (hdoes : s.Does op answer s') : Relays k s s' q q' := by
  cases hmoves with
  | quiet hquiet _ =>
      refine relays_of_message hdoes (fun message hmessage j => ?_) (List.Sublist.refl _)
      exact WriterMessage.clientFrame_of_news (Op.news_of_quiet hquiet hmessage) j
  | binds hbinds _ _ => exact relays_of_silent hdoes (Op.message_binds hbinds) (List.Sublist.refl _)
  | survey _ => exact relays_of_silent hdoes rfl (List.Sublist.refl _)
  | relay _ _ =>
      refine relays_of_message hdoes (fun message hmessage j => ?_) (List.Sublist.refl _)
      rw [← Option.some.inj hmessage]
      rfl
  | announce _ | depart _ | tell _ =>
      refine relays_of_message hdoes (fun message hmessage j => ?_) (List.nil_sublist _)
      rw [← Option.some.inj hmessage]
      rfl
  | @authenticate frame first _ =>
      refine relays_of_silent hdoes rfl ?_
      cases first <;> exact List.nil_sublist _
  | @check frame authenticated hphase =>
      refine relays_of_silent hdoes rfl ?_
      rw [hphase]
      cases authenticated <;> simp [Phase.pending]
  | resolve hphase =>
      refine relays_of_silent hdoes rfl ?_
      rw [hphase]
      exact Phase.pending_afterResolve _ _
  | findByService hphase | findByInstance hphase =>
      refine relays_of_silent hdoes rfl ?_
      rw [hphase]
      exact Phase.pending_afterFind _ _ _
  | @cleanup wasAuthenticated _ =>
      refine relays_of_silent hdoes rfl ?_
      cases wasAuthenticated <;> exact List.nil_sublist _
  | register =>
      refine relays_of_silent hdoes rfl ?_
      split_ifs
      · exact List.nil_sublist _
      · exact List.Sublist.refl _
  | @forward frame target tx sent hphase =>
      have hsend := hdoes.send
      rw [Channels.send] at hsend
      rw [Relays, hphase]
      split_ifs at hsend with hclosed
      · have hsent : s'.channels.sent = s.channels.sent ++ [] := by
          rw [← (Prod.mk.inj hsend).2, List.append_nil]
        have hsame : ∀ j, s'.relayed j = s.relayed j := fun j => Shared.relayed_eq hsent (by simp)
        refine ⟨fun j _ => hsame j, ?_⟩
        rw [hsame k]
        exact (List.Sublist.refl _).append (List.nil_sublist _)
      · have hsent : s'.channels.sent = s.channels.sent ++
            [(tx, .toBackend (.business frame.msgId frame.serial q.sessionId frame.payload))] := by
          rw [← (Prod.mk.inj hsend).2]
        refine ⟨fun j hj => Shared.relayed_eq hsent ?_, ?_⟩
        · simp [WriterMessage.clientFrame, hid, Ne.symm hj]
        · rw [Shared.relayed_append hsent]
          simp [WriterMessage.clientFrame, hid, Phase.pending]
  | _ => exact relays_of_silent hdoes rfl (List.nil_sublist _)

end

/-! ### Runs -/

/-- What the channels have got and may still get of every client, in terms of what its connection was given. -/
structure Uplink (trace : List (Pool signature Shared Connection × Event signature Connection Input)) (s : Shared)
    (qs : List Member) : Prop where
  members : Members s qs
  drawn : ∀ k q, qs[k]? = some q → (s.relayed k ++ q.phase.pending).Sublist (clientFrames k trace)
  absent : ∀ k, qs.length ≤ k → s.relayed k = []

namespace Uplink

variable {pool : Pool signature Shared Connection}

theorem of_same_members (h : Uplink trace pool.shared qs) {e : Event signature Connection Input}
    (hgiven : ∀ k, given k e = none) (hrelayed : ∀ k, s'.relayed k = pool.shared.relayed k)
    (hmembers : Members s' qs) : Uplink (trace ++ [(pool, e)]) s' qs := by
  refine ⟨hmembers, fun k q hk => ?_, fun k hk => ?_⟩
  · rw [hrelayed, clientFrames_other k pool (hgiven k)]
    exact h.drawn k q hk
  · rw [hrelayed]
    exact h.absent k hk

theorem update_connection (h : Uplink trace pool.shared qs) {e : Event signature Connection Input} {k : Nat} {q q' : Member}
    (hk : qs[k]? = some q) (hgiven : ∀ j, j ≠ k → given j e = none)
    (hother : ∀ j, j ≠ k → s'.relayed j = pool.shared.relayed j)
    (hdrawn : (s'.relayed k ++ q'.phase.pending).Sublist (clientFrames k trace ++ (given k e).toList))
    (hmembers : Members s' (qs.set k q')) : Uplink (trace ++ [(pool, e)]) s' (qs.set k q') := by
  have hlt := (List.getElem?_eq_some_iff.1 hk).1
  refine ⟨hmembers, fun j p hj => ?_, fun j hj => ?_⟩
  · by_cases hjk : j = k
    · subst hjk
      rw [List.getElem?_set_self hlt] at hj
      rw [clientFrames_snoc, ← Option.some.inj hj]
      exact hdrawn
    · rw [List.getElem?_set_ne (Ne.symm hjk)] at hj
      rw [clientFrames_other j pool (hgiven j hjk), hother j hjk]
      exact h.drawn j p hj
  · rw [List.length_set] at hj
    rw [hother j (by omega)]
    exact h.absent j hj

theorem after_input (h : Uplink trace pool.shared qs) {k : Nat} {q q' : Member} {conn : Connection} {e : Input}
    (hk : qs[k]? = some q) (hrests : q.Rests conn) (hbegins : Begins m q e q')
    (hmembers : Members pool.shared (qs.set k q')) :
    Uplink (trace ++ [(pool, .input k e)]) pool.shared (qs.set k q') := by
  have hold : (pool.shared.relayed k).Sublist (clientFrames k trace) := by
    have hdrawn := h.drawn k q hk
    rwa [Phase.pending_of_done hrests.phase, List.append_nil] at hdrawn
  refine h.update_connection hk (fun j hj => ?_) (fun _ _ => rfl) ?_ hmembers
  · cases e with
    | clientFrame => exact if_neg (Ne.symm hj)
    | _ => rfl
  · cases hbegins with
    | clientFrame frame _ =>
        rw [given, if_pos rfl]
        exact hold.append (Phase.pending_ofFrame m frame)
    | start =>
        refine hold.append ?_
        cases q.client <;> exact List.nil_sublist _
    | _ => exact hold.append (List.nil_sublist _)

theorem step (h : Uplink trace pool.shared qs) {e : Event signature Connection Input}
    (hstep : (guide m).Step (pool.shared, qs) e (s', qs')) (hmembers : Members s' qs') :
    Uplink (trace ++ [(pool, e)]) s' qs' := by
  cases hstep with
  | @opens _ _ _ conn hopens =>
      obtain ⟨-, -, rfl⟩ := hopens
      refine ⟨hmembers, fun k q hk => ?_, fun k hk => ?_⟩
      · rw [clientFrames_other k pool rfl]
        rw [List.getElem?_append] at hk
        split_ifs at hk with hlt
        · exact h.drawn k q hk
        · rw [List.mem_singleton.1 (List.mem_of_getElem? hk)]
          show (pool.shared.relayed k ++ []).Sublist _
          rw [h.absent k (Nat.not_lt.1 hlt)]
          exact List.nil_sublist _
      · rw [List.length_append] at hk
        exact h.absent k (Nat.le_of_succ_le hk)
  | input hk hrests _ hbegins => exact h.after_input hk hrests hbegins hmembers
  | @call _ _ _ k q q' op answer hk hmoves hdoes =>
      obtain ⟨hother, hrelays⟩ := relays_of_moves (h.members.id k q hk).1 hmoves hdoes
      refine h.update_connection hk (fun _ _ => rfl) hother ?_ hmembers
      show (s'.relayed k ++ q'.phase.pending).Sublist (clientFrames k trace ++ [])
      rw [List.append_nil]
      exact hrelays.trans (h.drawn k q hk)
  | environment henv =>
      obtain ⟨posted, hsent, hquiet⟩ := henv.posts
      refine h.of_same_members (fun _ => rfl) (fun k => ?_) hmembers
      exact Shared.relayed_eq hsent fun e he => WriterMessage.clientFrame_of_news (hquiet e he) k

end Uplink

theorem relayed_sublist {rules : List RouteRule} {pool : Pool signature Shared Connection}
    (hrun : Run (Step (system m)) (initial rules) trace pool) (hconnections : pool.threads.length < 2 ^ 32 - 1)
    (k : Nat) : (pool.shared.relayed k).Sublist (clientFrames k trace) := by
  obtain ⟨qs, htracks, hinv⟩ := (guide m).invariant rfl hrun (fun _ _ => True) (fun _ _ => trivial)
    (fun trace s qs => qs.length < 2 ^ 32 - 1 → Uplink trace s qs)
    (fun _ => ⟨.init rules, fun k q hk => by simp at hk, fun _ _ => rfl⟩) (by
      intro trace pool qs e s' qs' _ hinv _ hstep hlen
      have h := hinv (hstep.length_le.trans_lt hlen)
      exact h.step hstep (Members.step hstep hlen h.members))
  have h := hinv (htracks.length_eq ▸ hconnections)
  rcases Nat.lt_or_ge k qs.length with hlt | hge
  · exact (List.sublist_append_left _ _).trans (h.drawn k qs[k] (List.getElem?_eq_getElem hlt))
  · rw [h.absent k hge]
    exact List.nil_sublist _

end AxmolFighter.Gateway
