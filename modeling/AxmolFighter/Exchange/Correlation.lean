import AxmolFighter.Exchange.Origins

/-!
# Requests and what completes them

Over a whole run the gateway's side keeps that every message on its channels is justified, and the backends'
side that frames, queues and tables are what requests have left there. Each side relies on the other: the
handlers of the gateway on what is written, the processes on what the gateway has put on their channels.
-/

namespace AxmolFighter.Exchange

open Backend (ServerSource handleFrame)
open Backend.GatewayClient (Fits)
open Backend.Requests (seedOf nextRequestId_seedOf)
open Gateway (Connection Input Op Shared Tx WriterMessage signature system)
open Pool

variable {X : Setting} {S S' : Mesh}

/-- The condition on a step, in the state before it. No reply is refused: its sender is registered, a target is
found for it and the channel is open. No two processes that connect are one server for the gateway. The
instance of a process that asks is not negative as a signed number. -/
def Mesh.Meets (X : Setting) (S : Mesh) : Event → Prop
  | .gateway (.call k c) => Positive (S.current k) → Admits S.gateway.shared c.op
  | .take k => ∀ frame purpose, S.frameAt (k, (S.links k).taken) = some (frame, purpose) → 0 < frame.serial →
      ∀ conn, S.gateway.threads[k]? = some (.ret conn) → ∀ d, conn.delegate = .internal d → d.registered ≠ none
  | .connect k => ∀ k', (S.links k').sent ≠ [] → X.server k' = X.server k → X.owner k' = X.owner k
  | .process p (.send _) => (X.ids p).2.toNat < 2 ^ 31
  | _ => True

/-! ### The gateway -/

structure Ordered (X : Setting) (S : Mesh) : Prop where
  threads : ∀ (k : Nat) p, S.gateway.threads[k]? = some p → Keeps X k (S.current k) (Rests X k) p
  registered : Registered X S.gateway.shared
  recorded : S.causes.length = S.sent.length
  told : ∀ (i : Nat) tx message cause, S.sent[i]? = some (tx, message) → S.causes[i]? = some cause →
    Justified X (S.behind cause) tx message
  handled : ∀ k j, (S.links k).handling = some j → j < (S.links k).sent.length

namespace Mesh

theorem Extends.behind (h : S.Extends S') {cause : Option Place} {x : Nat × BackendFrame}
    (hx : S.behind cause = some x) : S'.behind cause = some x := by
  obtain ⟨place, rfl, hx⟩ := Option.bind_eq_some_iff.1 hx
  obtain ⟨written, hwritten, rfl⟩ := Option.map_eq_some_iff.1 hx
  rw [Mesh.behind, Option.bind_some, h.frameAt hwritten]
  rfl

theorem frameAt_advance (S : Mesh) (e : GatewayEvent) (pool : Pool signature Shared Connection) (place : Place) :
    (S.advance e pool).frameAt place = S.frameAt place :=
  congrArg (fun frames => frames[place.2]?) (S.links_idled e place.1).1

theorem behind_advance (S : Mesh) (e : GatewayEvent) (pool : Pool signature Shared Connection) :
    (S.advance e pool).behind = S.behind := by
  funext cause
  simp only [behind, frameAt_advance]

theorem behind_call (S : Mesh) (k : Nat) (c : signature.Call) :
    S.behind (S.cause (.call k c)) = (S.current k).map fun frame => (k, frame) := by
  rw [cause, current, behind]
  rcases (S.links k).handling with _ | j
  · rfl
  · simp only [Option.map_some, Option.bind_some]
    cases S.frameAt (k, j) <;> rfl

theorem current_eq {k : Nat} (hhandling : (S'.links k).handling = (S.links k).handling)
    (hsent : (S.links k).sent <+: (S'.links k).sent)
    (hhandled : ∀ j, (S.links k).handling = some j → j < (S.links k).sent.length) :
    S'.current k = S.current k := by
  rw [current, current, hhandling]
  rcases hj : (S.links k).handling with _ | j
  · rfl
  · obtain ⟨written, hwritten⟩ : ∃ written, S.frameAt (k, j) = some written :=
      ⟨_, List.getElem?_eq_getElem (hhandled j hj)⟩
    have hwritten' : S'.frameAt (k, j) = some written := getElem?_of_prefix hsent hwritten
    rw [Option.bind_some, Option.bind_some, hwritten, hwritten']

end Mesh

namespace Ordered

theorem of_extends (h : Ordered X S) (hext : S.Extends S') (hgateway : S'.gateway = S.gateway)
    (hcauses : S'.causes = S.causes) (hhandling : ∀ k, (S'.links k).handling = (S.links k).handling) :
    Ordered X S' := by
  have hsent : S'.sent = S.sent := by rw [Mesh.sent, Mesh.sent, hgateway]
  refine ⟨fun k p hp => ?_, ?_, ?_, fun i tx message cause hi hcause => ?_, fun k j hj => ?_⟩
  · rw [hgateway] at hp
    rw [Mesh.current_eq (hhandling k) (hext.written k) (h.handled k)]
    exact h.threads k p hp
  · rw [hgateway]
    exact h.registered
  · rw [hcauses, hsent]
    exact h.recorded
  · rw [hsent] at hi
    rw [hcauses] at hcause
    exact (h.told i tx message cause hi hcause).mono fun x => hext.behind
  · rw [hhandling] at hj
    exact (h.handled k j hj).trans_le (hext.written k).length_le

/-- The messages of one step of the gateway, with their cause. -/
theorem told_advance (h : Ordered X S) (e : GatewayEvent) (pool : Pool signature Shared Connection)
    {posted : List (Tx × WriterMessage)} (hsent : pool.shared.channels.sent = S.sent ++ posted)
    (hposted : ∀ x ∈ posted, Justified X (S.behind (S.cause e)) x.1 x.2) :
    (S.advance e pool).causes.length = (S.advance e pool).sent.length ∧
      ∀ (i : Nat) tx message cause, (S.advance e pool).sent[i]? = some (tx, message) →
        (S.advance e pool).causes[i]? = some cause → Justified X ((S.advance e pool).behind cause) tx message := by
  have hcauses : (S.advance e pool).causes = S.causes ++ List.replicate posted.length (S.cause e) := by
    rw [Mesh.advance, hsent, List.length_append, Nat.add_sub_cancel_left]
  have hsent' : (S.advance e pool).sent = S.sent ++ posted := hsent
  refine ⟨?_, fun i tx message cause hi hcause => ?_⟩
  · rw [hcauses, hsent', List.length_append, List.length_append, List.length_replicate, h.recorded]
  · rw [Mesh.behind_advance]
    rw [hsent'] at hi
    rw [hcauses] at hcause
    by_cases hold : i < S.sent.length
    · rw [List.getElem?_append_left hold] at hi
      rw [List.getElem?_append_left (h.recorded ▸ hold)] at hcause
      exact h.told i tx message cause hi hcause
    · rw [List.getElem?_append_right (Nat.le_of_not_lt hold)] at hi
      rw [List.getElem?_append_right (h.recorded ▸ Nat.le_of_not_lt hold)] at hcause
      obtain ⟨-, rfl⟩ := List.mem_replicate.1 (List.mem_of_getElem? hcause)
      exact hposted _ (List.mem_of_getElem? hi)

theorem told_silent (h : Ordered X S) (e : GatewayEvent) (pool : Pool signature Shared Connection)
    (hsent : pool.shared.channels.sent = S.sent) :
    (S.advance e pool).causes.length = (S.advance e pool).sent.length ∧
      ∀ (i : Nat) tx message cause, (S.advance e pool).sent[i]? = some (tx, message) →
        (S.advance e pool).causes[i]? = some cause → Justified X ((S.advance e pool).behind cause) tx message :=
  h.told_advance e pool (hsent.trans (List.append_nil _).symm) nofun

theorem handled_advance (h : Ordered X S) (e : GatewayEvent) (pool : Pool signature Shared Connection) (k j : Nat)
    (hj : ((S.advance e pool).links k).handling = some j) : j < ((S.advance e pool).links k).sent.length := by
  obtain ⟨hsent, -, hnone | hsame⟩ := S.links_idled e k
  · cases hnone.symm.trans hj
  · exact (h.handled k j (hsame.symm.trans hj)).trans_eq (congrArg List.length hsent.symm)

theorem rests_accept {k : Nat} {sessionId : UInt32} {delegate : Gateway.Delegate}
    (hdelegate : delegate = .client {} ∨ delegate = .internal {}) :
    Rests X k (.accept sessionId k delegate) := by
  refine ⟨rfl, fun d hd => ?_⟩
  rcases hdelegate with rfl | rfl
  · cases hd
  · obtain rfl := Gateway.Delegate.internal.inj hd
    exact ⟨nofun, nofun⟩

theorem threads_opens (h : Ordered X S) {conn : Connection} (hconn : Rests X S.gateway.threads.length conn)
    {f : Nat → Option BackendFrame} (hf : ∀ k, k < S.gateway.threads.length → f k = S.current k) (k : Nat)
    {p : Program signature Connection} (hp : (S.gateway.threads ++ [.ret conn])[k]? = some p) :
    Keeps X k (f k) (Rests X k) p := by
  rcases Nat.lt_or_ge k S.gateway.threads.length with hlt | hge
  · rw [List.getElem?_append_left hlt] at hp
    rw [hf k hlt]
    exact h.threads k p hp
  · obtain rfl : k = S.gateway.threads.length := by
      have hlen := (List.getElem?_eq_some_iff.1 hp).1
      rw [List.length_append, List.length_singleton] at hlen
      omega
    rw [List.getElem?_concat_length] at hp
    obtain rfl := Option.some.inj hp
    exact .ret hconn

theorem threads_set (h : Ordered X S) {k : Nat} {p : Program signature Connection} {f : Nat → Option BackendFrame}
    (hp : Keeps X k (f k) (Rests X k) p) (hf : ∀ k', k' ≠ k → f k' = S.current k') (k' : Nat)
    {p' : Program signature Connection} (hp' : (S.gateway.threads.set k p)[k']? = some p') :
    Keeps X k' (f k') (Rests X k') p' := by
  by_cases hk : k' = k
  · subst hk
    have hlt := (List.getElem?_eq_some_iff.1 hp').1
    rw [List.length_set] at hlt
    rw [List.getElem?_set_self hlt] at hp'
    obtain rfl := Option.some.inj hp'
    exact hp
  · rw [List.getElem?_set_ne (Ne.symm hk)] at hp'
    rw [hf k' hk]
    exact h.threads k' p' hp'

theorem after_gateway (h : Ordered X S) {e : GatewayEvent} {pool : Pool signature Shared Connection}
    (hsilent : silent e = true) (hmeets : S.Meets X (.gateway e))
    (hstep : Pool.Step (system X.messages) S.gateway e pool) : Ordered X (S.advance e pool) := by
  cases hstep with
  | @opens conn s' hopens =>
      obtain ⟨hdelegate, hconn, rfl⟩ := hopens
      obtain ⟨hrecorded, htold⟩ := h.told_silent (.opens conn) ⟨_, S.gateway.threads ++ [.ret conn]⟩ rfl
      refine ⟨fun k p hp => ?_, h.registered, hrecorded, htold, h.handled_advance _ _⟩
      exact h.threads_opens (hconn ▸ rests_accept hdelegate) (fun _ _ => rfl) k hp
  | @input k conn e p hidle hhandle =>
      obtain ⟨hrecorded, htold⟩ := h.told_silent (.input k e) ⟨_, S.gateway.threads.set k p⟩ rfl
      refine ⟨fun k' p' hp' => ?_, h.registered, hrecorded, htold, h.handled_advance _ _⟩
      have hconn : Rests X k conn := (h.threads k _ hidle).of_ret
      have he : e = .start ∨ e = .close := by
        cases e with
        | start => exact Or.inl rfl
        | close => exact Or.inr rfl
        | clientFrame | backendFrame => cases hsilent
      refine h.threads_set (keeps_handle_silent hconn he hhandle) (fun k' hk' => ?_) k' hp'
      have hlink : (S.advance (.input k e) ⟨S.gateway.shared, S.gateway.threads.set k p⟩).links k' = S.links k' :=
        Function.update_of_ne hk' _ _
      simp only [Mesh.current, Mesh.frameAt_advance, hlink]
  | @call k op next answer s' hbusy hdoes =>
      obtain ⟨hlawful, hnext⟩ := (h.threads k _ hbusy).step
      obtain ⟨posted, hsent, hposted⟩ := justified_of_does hlawful hdoes
      rw [← S.behind_call k ⟨op, answer⟩] at hposted
      obtain ⟨hrecorded, htold⟩ := h.told_advance (.call k _) ⟨s', S.gateway.threads.set k (next answer)⟩ hsent hposted
      refine ⟨fun k' p' hp' => ?_, registered_of_does h.registered hlawful hdoes, hrecorded, htold,
        h.handled_advance _ _⟩
      exact h.threads_set (hnext answer (relies_of_does h.registered hdoes hmeets)) (fun _ _ => rfl) k' hp'
  | @environment s' henvironment =>
      obtain ⟨hbackend, posted, hsent, hposted⟩ := justified_of_environment (X := X) henvironment
      obtain ⟨hrecorded, htold⟩ := h.told_advance .environment ⟨s', S.gateway.threads⟩ hsent hposted
      refine ⟨h.threads, ?_, hrecorded, htold, h.handled_advance _ _⟩
      intro x identity hx
      exact h.registered x identity (hbackend ▸ hx)

theorem after_take (h : Ordered X S) (hm : Faithful X.messages) {k : Nat} {frame : BackendFrame} {purpose : Purpose}
    {pool : Pool signature Shared Connection} (hframe : S.frameAt (k, (S.links k).taken) = some (frame, purpose))
    (hfits : Fits frame) (hwritten : WrittenFor X S k frame purpose) (hmeets : S.Meets X (.take k))
    (hstep : Pool.Step (system X.messages) S.gateway (.input k (.backendFrame frame)) pool) :
    Ordered X ({ S with gateway := pool }.setLink k { S.links k with
      taken := (S.links k).taken + 1
      handling := some (S.links k).taken }) := by
  cases hstep with
  | @input _ conn _ p hidle hhandle =>
      have hframeAt := S.frameAt_take ⟨S.gateway.shared, S.gateway.threads.set k p⟩ k
      refine ⟨fun k' p' hp' => ?_, h.registered, h.recorded, fun i tx message cause hi hcause => ?_, fun k' j hj => ?_⟩
      · have hconn : Rests X k conn := (h.threads k _ hidle).of_ret
        obtain ⟨hcmd, hexpected⟩ := hwritten.expected hm hfits
        have hp := keeps_handle_backendFrame hconn hcmd hfits hexpected
          (fun hserial => hmeets frame purpose hframe hserial conn hidle) hhandle
        refine h.threads_set (f := fun k' => Mesh.current _ k') ?_ (fun k' hk' => ?_) k' hp'
        · rw [Mesh.current, Mesh.links_setLink, if_pos rfl, Option.bind_some, hframeAt, hframe]
          exact hp
        · simp only [Mesh.current, hframeAt, Mesh.links_setLink, if_neg hk']
      · simp only [Mesh.behind, hframeAt]
        exact h.told i tx message cause hi hcause
      · rw [Mesh.links_setLink] at hj ⊢
        split_ifs at hj ⊢ with hk
        · cases hj
          exact (List.getElem?_eq_some_iff.1 hframe).1
        · exact h.handled k' j hj

theorem after_connect (h : Ordered X S) {conn : Connection} {pool : Pool signature Shared Connection} {p : Nat}
    {process : Process} {link : Link} (hconn : conn.delegate = .internal {}) (hlink : link.handling = none)
    (hext : S.Extends (({ S with gateway := pool }.setLink S.gateway.threads.length link).setProcess p process))
    (hstep : Pool.Step (system X.messages) S.gateway (.opens conn) pool) :
    Ordered X (({ S with gateway := pool }.setLink S.gateway.threads.length link).setProcess p process) := by
  cases hstep with
  | @opens _ s' hopens =>
      obtain ⟨-, haccept, rfl⟩ := hopens
      refine ⟨fun k p hp => ?_, h.registered, h.recorded, fun i tx message cause hi hcause => ?_, fun k j hj => ?_⟩
      · refine h.threads_opens (haccept ▸ rests_accept (Or.inr hconn)) (f := fun k => Mesh.current _ k)
          (fun k hk => ?_) k hp
        refine Mesh.current_eq ?_ (hext.written k) (h.handled k)
        exact congrArg Link.handling (Function.update_of_ne hk.ne _ _)
      · exact (h.told i tx message cause hi hcause).mono fun x => hext.behind
      · change ((Mesh.setLink _ _ link).links k).handling = some j at hj
        change j < ((Mesh.setLink _ _ link).links k).sent.length
        rw [Mesh.links_setLink] at hj ⊢
        split_ifs at hj ⊢ with hk
        · cases hlink.symm.trans hj
        · exact h.handled k j hj

end Ordered

/-! ### The processes -/

/-- What a process has in its tables and its queue. -/
structure Process.Sound (X : Setting) (S : Mesh) (p : Nat) (process : Process) : Prop where
  connected : ∀ k read, process.stage = .registering k read ∨ process.stage = .connected k read →
    X.owner k = p ∧ ∃ place w, place.1 = k ∧ S.frameAt place = some w
  serialSeed : process.rpc.serialSeed = seedOf process.requests.length
  ids : ∀ (c : Nat) request, process.requests[c]? = some request → request.id = seedOf (c + 1)
  pending : ∀ id (c : Nat), process.rpc.pendingRequests.get id = some c →
    ∃ request, process.requests[c]? = some request ∧ request.id = id
  queued : ∀ action i source serial, (action, i) ∈ process.queue → replyTo action = some (source, serial) →
    Asked X S p i source serial
  completed : ∀ done ∈ process.completions, Correlated X S p done

namespace Process.Sound

variable {p : Nat} {process : Process}

theorem start (p : Nat) : Process.Sound X S p {} where
  connected _ _ h := by rcases h with h | h <;> cases h
  serialSeed := rfl
  ids := nofun
  pending := nofun
  queued := nofun
  completed := nofun

theorem mono (h : process.Sound X S p) (hext : S.Extends S') : process.Sound X S' p where
  connected k read hstage := by
    obtain ⟨howner, place, w, hplace, hw⟩ := h.connected k read hstage
    exact ⟨howner, place, w, hplace, hext.frameAt hw⟩
  serialSeed := h.serialSeed
  ids := h.ids
  pending := h.pending
  queued action i source serial hmem hreply := (h.queued action i source serial hmem hreply).mono hext
  completed done hdone := (h.completed done hdone).mono hext

end Process.Sound

theorem Mesh.inbox_eq_some {k n i : Nat} {message : WriterMessage} (h : S.inbox k n = some (i, message)) :
    S.sent[i]? = some (k, message) := by
  obtain ⟨⟨⟨tx, message'⟩, i'⟩, hget, heq⟩ := Option.map_eq_some_iff.1 h
  obtain ⟨rfl, rfl⟩ := Prod.mk.inj heq
  obtain ⟨hmem, htx⟩ := List.mem_filter.1 (List.mem_of_getElem? hget)
  obtain rfl : tx = k := by simpa using htx
  exact List.mem_zipIdx_iff_getElem?.1 hmem

section Acts

variable {p : Nat} {process : Process} {a : Act} {out : Option (Nat × Written)}

theorem written_of_acts (hsound : (S.processes p).Sound X S p)
    (hacts : (S.processes p).Acts X.messages (X.ids p) S.inbox a process out) (hmeets : S.Meets X (.process p a)) :
    ∀ k frame purpose, out = some (k, frame, purpose) →
      (X.owner k = p ∧ ∃ place w, place.1 = k ∧ S.frameAt place = some w) ∧ WrittenFor X S k frame purpose := by
  intro k frame purpose hout
  have hconnected : (S.processes p).gatewayTx = some k →
      X.owner k = p ∧ ∃ place w, place.1 = k ∧ S.frameAt place = some w := by
    intro hgateway
    obtain ⟨read, hstage⟩ := Process.gatewayTx_eq_some hgateway
    exact hsound.connected k read (Or.inr hstage)
  cases hacts with
  | @send c k' request hphase hrequest hgateway =>
      obtain ⟨rfl, rfl, rfl⟩ : k' = k ∧ _ = frame ∧ _ = purpose := by simpa using hout
      have hk := hconnected hgateway
      refine ⟨hk, ?_⟩
      obtain ⟨rfl, -⟩ := hk
      exact .request hrequest hmeets
  | push target msg =>
      obtain ⟨hgateway, hw⟩ := Process.trySend_eq_some hout
      cases hw
      have hk := hconnected hgateway
      refine ⟨hk, ?_⟩
      obtain ⟨rfl, -⟩ := hk
      exact .push target msg
  | read hstage hmessage hfits =>
      obtain ⟨nonce, sessionId, hout⟩ := Process.pong_eq_some hout
      obtain ⟨hgateway, hw⟩ := Process.trySend_eq_some hout
      cases hw
      exact ⟨hconnected hgateway, .pong ..⟩
  | @answer action i queue hqueue resp =>
      obtain ⟨⟨source, serial⟩, hreply, hout⟩ := Option.bind_eq_some_iff.1 hout
      obtain ⟨hgateway, hw⟩ := Process.trySend_eq_some hout
      cases hw
      have hasked := hsound.queued action i source serial (hqueue ▸ List.mem_cons_self) hreply
      have hk := hconnected hgateway
      refine ⟨hk, ?_⟩
      obtain ⟨rfl, -⟩ := hk
      exact .reply hasked resp
  | _ => cases hout

theorem sound_of_acts (hm : Faithful X.messages) (hordered : Ordered X S) (htraced : Traced X S)
    (hfew : (S.processes p).requests.length < 2 ^ 31 - 1) (hsound : (S.processes p).Sound X S p)
    (hacts : (S.processes p).Acts X.messages (X.ids p) S.inbox a process out) : process.Sound X S p := by
  cases hacts with
  | call target msg =>
      have hnext := nextRequestId_seedOf hsound.serialSeed
      refine ⟨hsound.connected, ?_, fun c request hrequest => ?_, fun id c hget => ?_, hsound.queued, hsound.completed⟩
      · change (S.processes p).rpc.nextRequestId.2.serialSeed = seedOf (_ ++ [_]).length
        rw [hnext, List.length_append, List.length_singleton]
      · change ((S.processes p).requests ++ [_])[c]? = some request at hrequest
        rcases Nat.lt_or_ge c (S.processes p).requests.length with hlt | hge
        · rw [List.getElem?_append_left hlt] at hrequest
          exact hsound.ids c request hrequest
        · obtain rfl : c = (S.processes p).requests.length := by
            have hlen := (List.getElem?_eq_some_iff.1 hrequest).1
            rw [List.length_append, List.length_singleton] at hlen
            omega
          rw [List.getElem?_concat_length] at hrequest
          obtain rfl := Option.some.inj hrequest
          exact congrArg Prod.fst hnext
      · change (S.processes p).rpc.nextRequestId.2.pendingRequests.get id = some c at hget
        rw [hnext] at hget
        obtain ⟨request, hrequest, hid⟩ := hsound.pending id c hget
        exact ⟨request, getElem?_of_prefix (List.prefix_append _ _) hrequest, hid⟩
  | @insertPending c request hphase hrequest =>
      refine ⟨hsound.connected, hsound.serialSeed, hsound.ids, fun id c' hget => ?_, hsound.queued, hsound.completed⟩
      change ((S.processes p).rpc.pendingRequests.insert request.id c).get id = some c' at hget
      rw [Table.get_insert] at hget
      split_ifs at hget with hid
      · obtain rfl := Option.some.inj hget
        exact ⟨request, hrequest, hid.symm⟩
      · exact hsound.pending id c' hget
  | send | fail => exact ⟨hsound.connected, hsound.serialSeed, hsound.ids, hsound.pending, hsound.queued, hsound.completed⟩
  | @removePending c request hrequest =>
      refine ⟨hsound.connected, hsound.serialSeed, hsound.ids, fun id c' hget => ?_, hsound.queued, hsound.completed⟩
      change ((S.processes p).rpc.pendingRequests.remove request.id).get id = some c' at hget
      rw [Table.get_remove] at hget
      split_ifs at hget
      exact hsound.pending id c' hget
  | push => exact hsound
  | register hstage stage hafter =>
      refine ⟨fun k read hk => ?_, hsound.serialSeed, hsound.ids, hsound.pending, hsound.queued, hsound.completed⟩
      obtain rfl := hafter k read hk
      exact hsound.connected _ _ (Or.inl hstage)
  | @read k n i data hstage hmessage hfits =>
      obtain ⟨howner, hopened⟩ := hsound.connected k n (Or.inr hstage)
      have hsent := Mesh.inbox_eq_some hmessage
      obtain ⟨cause, hcause⟩ : ∃ cause, S.causes[i]? = some cause := by
        refine ⟨_, List.getElem?_eq_getElem ?_⟩
        rw [hordered.recorded]
        exact (List.getElem?_eq_some_iff.1 hsent).1
      have hreading := reading_of_message hm htraced hfew hsound.pending hopened howner hsent hcause
        (hordered.told i k _ cause hsent hcause) hfits
      refine ⟨fun k' read hk' => ?_, hreading.serialSeed.trans hsound.serialSeed, hsound.ids,
        fun id c hget => hsound.pending id c (hreading.pending id c hget), fun action i' source serial hmem hreply => ?_,
        fun done hdone => ?_⟩
      · rcases hk' with hk' | hk'
        · cases hk'
        · cases hk'
          exact ⟨howner, hopened⟩
      · rw [Process.received] at hmem
        dsimp only at hmem
        split_ifs at hmem
        · rcases List.mem_append.1 hmem with hmem | hmem
          · exact hsound.queued action i' source serial hmem hreply
          · cases List.mem_singleton.1 hmem
            exact hreading.replies source serial hreply
        · exact hsound.queued action i' source serial hmem hreply
      · rcases List.mem_append.1 hdone with hdone | hdone
        · exact hsound.completed done hdone
        · obtain ⟨c, hc, rfl⟩ := Option.map_eq_some_iff.1 (Option.mem_toList.1 hdone)
          exact hreading.completed c hc
  | @answer action i queue hqueue resp =>
      refine ⟨hsound.connected, hsound.serialSeed, hsound.ids, hsound.pending, fun action' i' source serial hmem => ?_,
        hsound.completed⟩
      exact hsound.queued action' i' source serial (hqueue ▸ List.mem_cons_of_mem _ hmem)
  | disconnect stage hafter =>
      refine ⟨fun k read hk => ?_, hsound.serialSeed, hsound.ids, hsound.pending, hsound.queued, hsound.completed⟩
      rcases hafter with rfl | rfl <;> simp at hk
  | clearPending =>
      refine ⟨fun k read hk => ?_, hsound.serialSeed, hsound.ids, fun id c hget => ?_, hsound.queued, hsound.completed⟩
      · simp at hk
      · cases hget

end Acts

structure Backed (X : Setting) (S : Mesh) : Prop where
  unused : S.Unused
  traced : Traced X S
  processes : ∀ p, (S.processes p).Sound X S p

namespace Backed

theorem of_same (h : Backed X S) (hext : S.Extends S') (hlinks : ∀ k, (S'.links k).sent = (S.links k).sent)
    (hprocesses : S'.processes = S.processes)
    (hthreads : S.gateway.threads.length ≤ S'.gateway.threads.length) : Backed X S' := by
  have hframes : ∀ place, S'.frameAt place = S.frameAt place := fun place =>
    congrArg (fun frames => frames[place.2]?) (hlinks place.1)
  refine ⟨fun k hk => ?_, ⟨fun place frame purpose hframe => ?_, fun p c request hrequest => ?_,
    fun place place' w w' hw hw' hserver => ?_⟩, fun p => ?_⟩
  · rw [hlinks]
    exact h.unused k (hthreads.trans hk)
  · rw [hframes] at hframe
    exact (h.traced.written place frame purpose hframe).mono hext
  · rw [hprocesses] at hrequest
    exact h.traced.ids p c request hrequest
  · rw [hframes] at hw hw'
    exact h.traced.distinct place place' w w' hw hw' hserver
  · rw [hprocesses]
    exact (h.processes p).mono hext

theorem after_act (h : Backed X S) (hm : Faithful X.messages) (hordered : Ordered X S) {p : Nat} {a : Act}
    {process : Process} {out : Option (Nat × Written)} (hfew : (S.processes p).requests.length < 2 ^ 31 - 1)
    (hmeets : S.Meets X (.process p a))
    (hacts : (S.processes p).Acts X.messages (X.ids p) S.inbox a process out)
    (hext : S.Extends ((S.setProcess p process).write out)) : Backed X ((S.setProcess p process).write out) := by
  have hwritten := written_of_acts (h.processes p) hacts hmeets
  have hsound := sound_of_acts hm hordered h.traced hfew (h.processes p) hacts
  have hprocess : ∀ p', (((S.setProcess p process).write out).processes p').Sound X S p' := by
    intro p'
    rw [Mesh.processes_write, Mesh.processes_setProcess]
    split_ifs with hp
    · rw [hp]
      exact hsound
    · exact h.processes p'
  have hframe : ∀ place w, Mesh.frameAt ((S.setProcess p process).write out) place = some w →
      S.frameAt place = some w ∨ out = some (place.1, w) := fun place w => Mesh.frameAt_write _
  have hopened : ∀ place w, Mesh.frameAt ((S.setProcess p process).write out) place = some w →
      ∃ place' w', place'.1 = place.1 ∧ S.frameAt place' = some w' := by
    intro place w hw
    rcases hframe place w hw with hold | hnew
    · exact ⟨place, w, rfl, hold⟩
    · exact (hwritten _ _ _ hnew).1.2
  refine ⟨fun k hk => ?_, ⟨fun place frame purpose hw => ?_, fun p' c request hrequest => ?_,
    fun place place' w w' hw hw' hserver => ?_⟩, fun p' => (hprocess p').mono hext⟩
  · by_contra hne
    obtain ⟨place, w, rfl, hw⟩ := hopened (k, 0) _ (List.getElem?_eq_getElem (List.length_pos_of_ne_nil hne))
    rw [Mesh.gateway_write] at hk
    rw [Mesh.frameAt, h.unused place.1 hk] at hw
    cases hw
  · rcases hframe place _ hw with hold | hnew
    · exact (h.traced.written place frame purpose hold).mono hext
    · exact (hwritten _ _ _ hnew).2.mono hext
  · exact (hprocess p').ids c request hrequest
  · obtain ⟨place₁, w₁, hplace, hw₁⟩ := hopened place w hw
    obtain ⟨place₂, w₂, hplace', hw₂⟩ := hopened place' w' hw'
    rw [← hplace, ← hplace'] at hserver ⊢
    exact h.traced.distinct place₁ place₂ w₁ w₂ hw₁ hw₂ hserver

theorem after_connect (h : Backed X S) {pool : Pool signature Shared Connection} {k : Nat}
    (hk : k = S.gateway.threads.length) (hthreads : pool.threads.length = k + 1)
    (hmeets : S.Meets X (.connect k)) (hext : S.Extends (({ S with gateway := pool }.setLink k
      { sent := [(registrationFrame X.messages (X.ids (X.owner k)), .registration)] }).setProcess (X.owner k)
        { S.processes (X.owner k) with stage := .registering k 0 })) :
    Backed X (({ S with gateway := pool }.setLink k
      { sent := [(registrationFrame X.messages (X.ids (X.owner k)), .registration)] }).setProcess (X.owner k)
        { S.processes (X.owner k) with stage := .registering k 0 }) := by
  generalize hS' : (({ S with gateway := pool }.setLink k
    { sent := [(registrationFrame X.messages (X.ids (X.owner k)), .registration)] }).setProcess (X.owner k)
      { S.processes (X.owner k) with stage := .registering k 0 }) = S' at hext
  have hlinks : ∀ k', (S'.links k').sent =
      if k' = k then [(registrationFrame X.messages (X.ids (X.owner k)), .registration)] else (S.links k').sent := by
    intro k'
    rw [← hS']
    exact (congrArg Link.sent (Mesh.links_setLink ..)).trans (apply_ite ..)
  have hframe : ∀ place w, S'.frameAt place = some w → (S.frameAt place = some w ∧ (S.links place.1).sent ≠ []) ∨
      (place.1 = k ∧ w = (registrationFrame X.messages (X.ids (X.owner k)), .registration)) := by
    intro place w hw
    rw [Mesh.frameAt, hlinks] at hw
    split_ifs at hw with hplace
    · exact Or.inr ⟨hplace, List.mem_singleton.1 (List.mem_of_getElem? hw)⟩
    · exact Or.inl ⟨hw, List.ne_nil_of_mem (List.mem_of_getElem? hw)⟩
  have hnew : S'.frameAt (k, 0) = some (registrationFrame X.messages (X.ids (X.owner k)), .registration) := by
    rw [Mesh.frameAt, hlinks, if_pos rfl]
    rfl
  have hprocesses : ∀ p, S'.processes p =
      if p = X.owner k then { S.processes (X.owner k) with stage := .registering k 0 } else S.processes p := by
    intro p
    rw [← hS']
    exact Mesh.processes_setProcess ..
  have hrequests : ∀ p, (S'.processes p).requests = (S.processes p).requests := by
    intro p
    rw [hprocesses]
    split_ifs with hp
    · rw [hp]
    · rfl
  have hsame : ∀ place place' w w', S'.frameAt place = some w → S'.frameAt place' = some w' →
      X.server place.1 = X.server place'.1 → X.owner place.1 = X.owner place'.1 := by
    intro place place' w w' hw hw' hserver
    rcases hframe place w hw with ⟨hold, hsent⟩ | ⟨hk₁, -⟩
    · rcases hframe place' w' hw' with ⟨hold', -⟩ | ⟨hk₂, -⟩
      · exact h.traced.distinct place place' w w' hold hold' hserver
      · rw [hk₂] at hserver ⊢
        exact hmeets place.1 hsent hserver
    · rcases hframe place' w' hw' with ⟨-, hsent'⟩ | ⟨hk₂, -⟩
      · rw [hk₁] at hserver ⊢
        exact (hmeets place'.1 hsent' hserver.symm).symm
      · rw [hk₁, hk₂]
  refine ⟨fun k' hk' => ?_, ⟨fun place frame purpose hw => ?_, fun p c request hrequest => ?_, hsame⟩, fun p => ?_⟩
  · have hgateway : S'.gateway = pool := by rw [← hS']; rfl
    rw [hgateway, hthreads] at hk'
    rw [hlinks, if_neg (by omega)]
    exact h.unused k' (by omega)
  · rcases hframe place _ hw with ⟨hold, -⟩ | ⟨rfl, hw⟩
    · exact (h.traced.written place frame purpose hold).mono hext
    · cases hw
      exact .registration
  · rw [hrequests] at hrequest
    exact h.traced.ids p c request hrequest
  · have hsound := (h.processes p).mono hext
    rw [hprocesses]
    split_ifs with hp
    · subst hp
      refine ⟨fun k' read hk' => ?_, hsound.serialSeed, hsound.ids, hsound.pending, hsound.queued, hsound.completed⟩
      rcases hk' with hk' | hk'
      · cases hk'
        exact ⟨rfl, (k, 0), _, rfl, hnew⟩
      · cases hk'
    · exact hsound

end Backed

/-! ### Runs -/

theorem initial_ordered (X : Setting) : Ordered X X.initial where
  threads _ _ h := by cases h
  registered _ _ h := by cases h
  recorded := rfl
  told _ _ _ _ h := by cases h
  handled _ _ h := by cases h

theorem initial_backed (X : Setting) : Backed X X.initial where
  unused _ _ := rfl
  traced := ⟨nofun, nofun, nofun⟩
  processes p := .start p

theorem Step.keeps (hm : Faithful X.messages) (hordered : Ordered X S) (hbacked : Backed X S) {e : Event}
    (hfew : ∀ p, (S.processes p).requests.length < 2 ^ 31 - 1) (hmeets : S.Meets X e) (hstep : Step X S e S') :
    Ordered X S' ∧ Backed X S' := by
  have hext := hstep.extends hbacked.unused
  cases hstep with
  | gateway hsilent h =>
      refine ⟨hordered.after_gateway hsilent hmeets h, hbacked.of_same hext (fun k => (S.links_idled _ k).1) rfl ?_⟩
      exact h.length_le
  | @take k frame purpose pool hframe hfits h =>
      refine ⟨hordered.after_take hm hframe hfits (hbacked.traced.written _ _ _ hframe) hmeets h,
        hbacked.of_same hext (fun k' => ?_) rfl h.length_le⟩
      rw [Mesh.links_setLink]
      split_ifs with hk
      · rw [hk]
      · rfl
  | @connect conn pool k hk hstage hconn h =>
      subst hk
      refine ⟨hordered.after_connect hconn rfl hext h, hbacked.after_connect rfl ?_ hmeets hext⟩
      cases h with
      | opens _ => rw [List.length_append, List.length_singleton]
  | @process p a process out hact =>
      have hacts := Process.acts_of_act hact
      refine ⟨hordered.of_extends hext (Mesh.gateway_write ..) (Mesh.causes_write ..) fun k => ?_,
        hbacked.after_act hm hordered (hfew p) hmeets hacts hext⟩
      exact ((S.setProcess p process).links_write out k).2.1

/-- **A request is completed by what was meant for it**: its target's reply, or an error with which the gateway
has refused the frame of the request. So it is in every run in which the gateway refuses no reply, all processes
that connect are different servers for the gateway, and those that send requests have instances below `2 ^ 31`. -/
theorem correlated_of_run (hm : Faithful X.messages) {trace : List (Mesh × Event)}
    (hrun : Run (Step X) X.initial trace S)
    (hfew : ∀ e ∈ trace, ∀ p, (e.1.processes p).requests.length < 2 ^ 31 - 1)
    (hmeets : ∀ e ∈ trace, e.1.Meets X e.2) :
    ∀ p, ∀ done ∈ (S.processes p).completions, Correlated X S p done := by
  have h : Ordered X S ∧ Backed X S := by
    refine hrun.invariant_of (fun S e => (∀ p, (S.processes p).requests.length < 2 ^ 31 - 1) ∧ S.Meets X e)
      (fun S => Ordered X S ∧ Backed X S) (fun e he => ⟨hfew e he, hmeets e he⟩)
      ⟨initial_ordered X, initial_backed X⟩ ?_
    rintro S e S' ⟨hordered, hbacked⟩ ⟨hfew, hmeets⟩ hstep
    exact hstep.keeps hm hordered hbacked hfew hmeets
  exact fun p => (h.2.processes p).completed

theorem requests_le_of_run {trace : List (Mesh × Event)} (hrun : Run (Step X) X.initial trace S) (p : Nat) :
    (S.processes p).requests.length ≤ trace.length := by
  induction hrun with
  | start => exact Nat.zero_le _
  | next _ hstep hle =>
      rw [List.length_append, List.length_singleton]
      cases hstep with
      | gateway | take => exact hle.trans (Nat.le_succ _)
      | connect =>
          rw [Mesh.processes_setProcess]
          split_ifs with hp
          · rw [← hp]
            exact hle.trans (Nat.le_succ _)
          · exact hle.trans (Nat.le_succ _)
      | @process q a process out hact =>
          rw [Mesh.processes_write, Mesh.processes_setProcess]
          split_ifs with hq
          · subst hq
            exact (Process.acts_of_act hact).length_requests.trans (Nat.succ_le_succ hle)
          · exact hle.trans (Nat.le_succ _)

theorem run_of_schedule {slots : List Slot} {trace : List (Mesh × Event)}
    (h : Run.schedule (Mesh.play X) X.initial slots = some (trace, S)) : Run (Step X) X.initial trace S :=
  Run.of_schedule (fun _ _ _ _ hplay => Mesh.play_sound hplay) h

/-! ### Two backends -/

/-- The answer of a call that admits what was asked. -/
def admitting : signature.Call → Bool
  | ⟨.findByInstance _ _, found⟩ => found.isSome
  | ⟨.selectLowestLoadInstance _, candidate⟩ => candidate.isSome
  | ⟨.send _ _, sent⟩ => sent
  | _ => true

theorem admits_of_admitting {s s' : Shared} {op : Op} {answer : op.Answer} (hdoes : s.Does op answer s')
    (h : admitting ⟨op, answer⟩ = true) : Admits s op := by
  cases op with
  | findByInstance => exact hdoes.findByInstance_isSome.1 h
  | selectLowestLoadInstance => exact hdoes.selectLowestLoadInstance.1.1 h
  | send tx message =>
      intro hclosed
      have hsend := congrArg Prod.fst hdoes.send
      rw [Gateway.Channels.send, if_pos hclosed] at hsend
      exact Bool.false_ne_true (hsend.trans h)
  | _ => trivial

/-- The condition on a step of the gateway, computed. -/
def Mesh.meets (S : Mesh) : Event → Bool
  | .gateway (.call k c) => (S.current k).all (fun frame => frame.serial ≤ 0) || admitting c
  | .take k => (S.frameAt (k, (S.links k).taken)).all (fun written => written.1.serial ≤ 0) ||
      match S.gateway.threads[k]? with
      | some (.ret conn) =>
          match conn.delegate with
          | .internal d => d.registered.isSome
          | .client _ => true
      | _ => true
  | _ => true

theorem Step.meets (hserver : ∀ k k', X.server k = X.server k' → X.owner k = X.owner k')
    (hsmall : ∀ p, (X.ids p).2.toNat < 2 ^ 31) {e : Event} (hstep : Step X S e S') (h : S.meets e = true) :
    S.Meets X e := by
  cases hstep with
  | @gateway e pool _ hstep =>
      cases hstep with
      | @call k op next answer s' _ hdoes =>
          rintro ⟨frame, hframe, hpositive⟩
          rw [Mesh.meets, hframe] at h
          refine admits_of_admitting hdoes ?_
          simpa [Int32.not_le.2 hpositive] using h
      | _ => trivial
  | @take k frame purpose pool hframe _ _ =>
      intro frame' purpose' hframe' hpositive conn hidle d hd
      rw [Mesh.meets, hframe', hidle] at h
      simp only [Option.all_some, hd, Int32.not_le.2 hpositive, decide_false, Bool.false_or] at h
      exact Option.isSome_iff_ne_none.1 h
  | connect => exact fun k' _ => hserver k' _
  | @process p a =>
      cases a with
      | send => exact hsmall p
      | _ => trivial

namespace Sample

/-- Two services with one backend each; the first connection is that of the first. -/
def setting : Setting where
  messages := wireMap
  rules := []
  ids p := if p = 0 then (1, 1) else (2, 7)
  owner k := if k = 0 then 0 else 1

def calls (k n : Nat) : List Slot := List.replicate n (.gateway (.call k))

/-- The backend behind connection `k` registers. -/
def registers (k : Nat) : List Slot :=
  [.connect, .gateway (.input k .start), .gateway (.call k), .take k] ++ calls k 7

/-- Both backends have registered, and the first knows of the second. -/
def joined : List Slot :=
  registers 0 ++ [.process 0 .read] ++ registers 1 ++ [.process 1 .read, .process 0 .read]

/-- The first request of a process, up to its frame. -/
def asks (p : Nat) (target : ServerSource) : List Slot :=
  [.process p (.call target (.other 160 [])), .process p (.insertPending 0), .process p (.send 0)]

/-- The first backend asks the second and gets its reply. -/
def exchanged : List Slot :=
  joined ++ asks 0 ⟨2, 7⟩ ++ [.take 0] ++ calls 0 2 ++
    [.process 1 .read, .process 1 (.answer (.other 161 [])), .take 1] ++ calls 1 2 ++ [.process 0 .read]

/-- Both ask each other, and the first is gone when the reply to it comes to the gateway. -/
def crossed : List Slot :=
  joined ++ asks 0 ⟨2, 7⟩ ++ asks 1 ⟨1, 1⟩ ++ [.take 0] ++ calls 0 2 ++ [.take 1] ++ calls 1 2 ++
    [.process 1 .read, .gateway (.input 0 .close)] ++ calls 0 4 ++
    [.process 1 .read, .process 1 (.answer (.other 161 [])), .take 1] ++ calls 1 2 ++ [.process 1 .read]

end Sample

theorem Sample.owner_of_server (k k' : Nat) (h : setting.server k = setting.server k') :
    setting.owner k = setting.owner k' := by
  by_cases hk : k = 0 <;> by_cases hk' : k' = 0
  · rw [hk, hk']
  · simp [Setting.server, setting, hk, hk'] at h
  · simp [Setting.server, setting, hk, hk'] at h
  · simp [setting, hk, hk']

theorem Sample.small (p : Nat) : (setting.ids p).2.toNat < 2 ^ 31 := by
  simp only [setting]
  split_ifs <;> decide

/-- The second backend's reply completes the request of the first. -/
theorem correlated_of_run_exchanged : ∃ trace S, Run (Step Sample.setting) Sample.setting.initial trace S ∧
    (S.processes 0).completions.map Completion.request = [0] ∧
      ∀ p, ∀ done ∈ (S.processes p).completions, Correlated Sample.setting S p done := by
  have hplayed : (Run.schedule (Mesh.play Sample.setting) Sample.setting.initial Sample.exchanged).map (fun r =>
      (r.1.all fun e => e.1.meets e.2, (r.2.processes 0).completions.map Completion.request)) = some (true, [0]) := by
    decide +kernel
  obtain ⟨⟨trace, S⟩, hschedule, hobserved⟩ := Option.map_eq_some_iff.1 hplayed
  obtain ⟨hmeets, hcompleted⟩ := Prod.mk.inj hobserved
  have hrun := run_of_schedule hschedule
  refine ⟨trace, S, hrun, hcompleted, correlated_of_run wireMap_faithful hrun (fun e he p => ?_) fun e he => ?_⟩
  · obtain ⟨l, l', rfl⟩ := List.append_of_mem he
    have hle := requests_le_of_run (hrun.split rfl).1 p
    have hlength := Run.length_of_schedule hschedule
    rw [List.length_append, show Sample.exchanged.length = 37 from rfl] at hlength
    omega
  · obtain ⟨l, l', htrace⟩ := List.append_of_mem he
    obtain ⟨-, S', hstep⟩ := hrun.split htrace
    exact hstep.meets Sample.owner_of_server Sample.small (List.all_eq_true.1 hmeets e he)

/-- The gateway refuses the second backend's reply with the serial that the reply has, and that completes the
request that the second backend has under this number. -/
theorem reply_refused : ∃ (X : Setting) (trace : List (Mesh × Event)) (S : Mesh) (p : Nat) (done : Completion)
    (place : Place) (i : Nat), Faithful X.messages ∧ Run (Step X) X.initial trace S ∧
      (∀ p, (S.processes p).requests.length < 2 ^ 31 - 1) ∧ done ∈ (S.processes p).completions ∧
      S.sent[done.message]? = some (1, .toBackend (.control
        (.gatewayErrorResp 2 "target service instance unreachable") 2 0)) ∧
      S.causes[done.message]? = some (some place) ∧ (S.frameAt place).map Prod.snd = some (.reply i) ∧
      ¬ Correlated X S p done := by
  have hplayed : (Run.schedule (Mesh.play Sample.setting) Sample.setting.initial Sample.crossed).map (fun r =>
      ((r.2.processes 1).completions.map Completion.message, r.2.sent[6]?)) = some ([6], some (1, .toBackend (.control
        (.gatewayErrorResp 2 "target service instance unreachable") 2 0))) := by
    decide +kernel
  have hcaused : (Run.schedule (Mesh.play Sample.setting) Sample.setting.initial Sample.crossed).map (fun r =>
      (r.2.causes[6]?, (r.2.frameAt (1, 2)).map Prod.snd)) = some (some (some (1, 2)), some (.reply 3)) := by
    decide +kernel
  obtain ⟨⟨trace, S⟩, hschedule, hobserved⟩ := Option.map_eq_some_iff.1 hplayed
  obtain ⟨hcompleted, hmessage⟩ := Prod.mk.inj hobserved
  rw [hschedule] at hcaused
  obtain ⟨hcause, hpurpose⟩ := Prod.mk.inj (Option.some.inj hcaused)
  have hrun := run_of_schedule hschedule
  obtain ⟨done, hdone, hplace⟩ : ∃ done ∈ (S.processes 1).completions, done.message = 6 :=
    List.mem_map.1 (hcompleted ▸ List.mem_singleton_self 6)
  rw [← hplace] at hmessage hcause
  refine ⟨Sample.setting, trace, S, 1, done, (1, 2), 3, wireMap_faithful, hrun, fun p => ?_, hdone, hmessage, hcause,
    hpurpose, fun hcorrelated => ?_⟩
  · have hle := requests_le_of_run hrun p
    rw [Run.length_of_schedule hschedule] at hle
    exact hle.trans_lt (by decide)
  · cases hcorrelated with
    | refused hrequest hsent howner hcause' hplace hframe =>
        obtain rfl := Option.some.inj (Option.some.inj (hcause'.symm.trans hcause))
        rw [hframe] at hpurpose
        cases hpurpose
    | replied hrequest hsent =>
        cases hsent.symm.trans hmessage

end AxmolFighter.Exchange
