import AxmolFighter.Exchange.Correlation
import AxmolFighter.Gateway.Passing

/-!
# At most once, and in order

A frame to another server may be lost with a connection, but it is never handled twice or changed: the gateway takes
it once and forwards its payload with one call, a process reads each message once, and its dispatcher takes what was
read from a queue. On the way from one connection to another the frames keep their order. Nothing here depends on what the
servers ask each other, on how often they reconnect, or on which replies the gateway refuses.
-/

namespace AxmolFighter.Exchange

open Backend (Action handleFrame)
open Backend.GatewayClient (Fits)
open Gateway (Connection PassesOnce Input Op Shared Tx WriterMessage signature system)
open Pool

variable {X : Setting} {m : MessageMap} {S S' : Mesh}

/-! ### What the gateway forwards -/

/-- For every message on the channels the frame that it forwards, if it forwards one. -/
def Mesh.passed (S : Mesh) : List (Option Place) :=
  List.zipWith (fun e cause => if e.2.passes then cause else none) S.sent S.causes

/-- Two frames of one link are in the order of the link. -/
def Later (first second : Option Place) : Prop := ∀ x ∈ first, ∀ y ∈ second, x.1 = y.1 → x.2 < y.2

/-- What the gateway has forwarded, in terms of the links. -/
structure Sequenced (m : MessageMap) (S : Mesh) : Prop where
  recorded : S.causes.length = S.sent.length
  taken : ∀ k, (S.links k).taken ≤ (S.links k).sent.length
  handling : ∀ k j, (S.links k).handling = some j → j + 1 = (S.links k).taken
  caused : ∀ x, some x ∈ S.passed → x.2 < (S.links x.1).taken
  ordered : S.passed.Pairwise Later
  related : ∀ (i : Nat) e, S.sent[i]? = some e → e.2.passes = true → ∃ x, S.passed[i]? = some (some x)
  copied : ∀ (i : Nat) e x written, S.sent[i]? = some e → S.passed[i]? = some (some x) → S.frameAt x = some written →
    e.2.Forwards m written.1

/-- A handler can still forward the frame that it was given only if it has not. -/
def Mesh.Conducts (m : MessageMap) (S : Mesh) (k : Nat) (p : Program signature Connection) : Prop :=
  ∃ b forwards, PassesOnce forwards b p ∧ (b = true → ∃ j written, (S.links k).handling = some j ∧
    S.frameAt (k, j) = some written ∧ forwards = WriterMessage.Forwards m written.1 ∧ some (k, j) ∉ S.passed)

structure Conducted (m : MessageMap) (S : Mesh) : Prop where
  threads : ∀ (k : Nat) p, S.gateway.threads[k]? = some p → S.Conducts m k p
  unused : ∀ k, S.gateway.threads.length ≤ k → (S.links k).taken = 0

/-- What a step of the gateway puts on the channels: no message that forwards a frame, or one, with the frame that
is handled and was not forwarded yet. -/
def Mesh.Posts (m : MessageMap) (S : Mesh) (e : GatewayEvent) (posted : List (Tx × WriterMessage)) : Prop :=
  (∀ x ∈ posted, x.2.passes = false) ∨ ∃ k j y written, posted = [y] ∧ S.cause e = some (k, j) ∧
    (S.links k).handling = some j ∧ some (k, j) ∉ S.passed ∧ S.frameAt (k, j) = some written ∧
      y.2.Forwards m written.1

theorem zipWith_replicate_cause (posted : List (Tx × WriterMessage)) (cause : Option Place) :
    List.zipWith (fun e cause => if e.2.passes then cause else none) posted
      (List.replicate posted.length cause) = posted.map fun e => if e.2.passes then cause else none := by
  induction posted with
  | nil => rfl
  | cons e posted ih => simp [List.replicate_succ, ih]

theorem Mesh.length_passed (h : S.causes.length = S.sent.length) : S.passed.length = S.sent.length := by
  rw [Mesh.passed, List.length_zipWith, h, Nat.min_self]

namespace Sequenced

theorem passed_advance (h : Sequenced m S) (e : GatewayEvent) (pool : Pool signature Shared Connection)
    {posted : List (Tx × WriterMessage)} (hsent : pool.shared.channels.sent = S.sent ++ posted) :
    (S.advance e pool).passed =
      S.passed ++ posted.map fun x => if x.2.passes then S.cause e else none := by
  have hcauses : (S.advance e pool).causes = S.causes ++ List.replicate posted.length (S.cause e) := by
    rw [Mesh.advance, hsent, List.length_append, Nat.add_sub_cancel_left]
  have hsent' : (S.advance e pool).sent = S.sent ++ posted := hsent
  rw [Mesh.passed, hcauses, hsent', List.zipWith_append h.recorded.symm, zipWith_replicate_cause]
  rfl

theorem some_of_passes (h : Sequenced m S) {i : Nat} {tx : Tx} {message : WriterMessage}
    (hi : S.sent[i]? = some (tx, message)) (hpasses : message.passes = true) :
    ∃ x written, S.passed[i]? = some (some x) ∧ S.causes[i]? = some (some x) ∧ S.frameAt x = some written ∧
      message.Forwards m written.1 := by
  obtain ⟨x, hx⟩ := h.related i _ hi hpasses
  have hlt := (h.caused x (List.mem_of_getElem? hx)).trans_le (h.taken x.1)
  have hframe : S.frameAt x = some (S.links x.1).sent[x.2] := List.getElem?_eq_getElem hlt
  refine ⟨x, _, hx, ?_, hframe, h.copied i _ x _ hi hx hframe⟩
  rw [Mesh.passed, List.getElem?_zipWith, hi] at hx
  rcases hcause : S.causes[i]? with _ | cause
  · simp [hcause] at hx
  · simpa [hcause, hpasses] using hx

theorem passed_added {e : GatewayEvent} {posted : List (Tx × WriterMessage)} (h : Sequenced m S)
    (hposted : S.Posts m e posted) {x : Place}
    (hx : some x ∈ posted.map fun y => if y.2.passes then S.cause e else none) :
    x.2 < (S.links x.1).taken ∧ ∀ y, some y ∈ S.passed → y.1 = x.1 → y.2 < x.2 := by
  obtain ⟨y, hy, hcause⟩ := List.mem_map.1 hx
  rcases hposted with hnone | ⟨k, j, y', -, rfl, hcause', hhandling, hfresh, -⟩
  · rw [hnone y hy] at hcause
    cases hcause
  · split_ifs at hcause with hpasses
    obtain rfl := Option.some.inj (hcause'.symm.trans hcause)
    have htaken := h.handling k j hhandling
    refine ⟨?_, fun z hz hlink => ?_⟩
    · show j < (S.links k).taken
      omega
    · have hlt := h.caused z hz
      have hne : z.2 ≠ j := by
        intro heq
        exact hfresh ((Prod.ext hlink heq : z = (k, j)) ▸ hz)
      rw [hlink] at hlt
      show z.2 < j
      simp only at hlt
      omega

theorem forwards_of_posts {e : GatewayEvent} {posted : List (Tx × WriterMessage)} (hposted : S.Posts m e posted)
    {i : Nat} {y : Tx × WriterMessage} (hi : posted[i]? = some y) (hpasses : y.2.passes = true) :
    ∃ x written, S.cause e = some x ∧ S.frameAt x = some written ∧ y.2.Forwards m written.1 := by
  rcases hposted with hnone | ⟨k, j, y', written, rfl, hcause, -, -, hframe, hforwards⟩
  · exact absurd (hnone y (List.mem_of_getElem? hi)) (by rw [hpasses]; decide)
  · obtain rfl := List.mem_singleton.1 (List.mem_of_getElem? hi)
    exact ⟨(k, j), written, hcause, hframe, hforwards⟩

/-- A step of the gateway forwards nothing, or the frame that is handled, after all that was forwarded. -/
theorem after_gateway (h : Sequenced m S) (e : GatewayEvent) {pool : Pool signature Shared Connection}
    {posted : List (Tx × WriterMessage)} (hsent : pool.shared.channels.sent = S.sent ++ posted)
    (hposted : S.Posts m e posted) : Sequenced m (S.advance e pool) := by
  have hpassed := h.passed_advance e pool hsent
  have hlinks : ∀ k, ((S.advance e pool).links k).taken = (S.links k).taken := fun k => (S.links_idled e k).2.1
  have hlength := Mesh.length_passed h.recorded
  have hsent' : (S.advance e pool).sent = S.sent ++ posted := hsent
  refine ⟨?_, fun k => ?_, fun k j hj => ?_, fun x hx => ?_, ?_, fun i y hi hpasses => ?_,
    fun i y x written hi hx hframe => ?_⟩
  · have hcauses : (S.advance e pool).causes = S.causes ++ List.replicate posted.length (S.cause e) := by
      rw [Mesh.advance, hsent, List.length_append, Nat.add_sub_cancel_left]
    rw [hcauses, hsent', List.length_append, List.length_append, List.length_replicate, h.recorded]
  · have hsame : ((S.advance e pool).links k).sent = (S.links k).sent := (S.links_idled e k).1
    rw [hlinks, hsame]
    exact h.taken k
  · obtain ⟨-, -, hnone | hkept⟩ := S.links_idled e k
    · cases hnone.symm.trans hj
    · rw [hlinks]
      exact h.handling k j (hkept.symm.trans hj)
  · rw [hlinks]
    rw [hpassed] at hx
    rcases List.mem_append.1 hx with hx | hx
    · exact h.caused x hx
    · exact (h.passed_added hposted hx).1
  · rw [hpassed, List.pairwise_append]
    refine ⟨h.ordered, ?_, fun first hfirst second hsecond x hx y hy hlink => ?_⟩
    · rcases hposted with hnone | ⟨k, j, y, -, rfl, -⟩
      · rw [List.pairwise_map]
        refine List.pairwise_of_forall_mem_list fun a ha b hb x hx => ?_
        rw [hnone a ha] at hx
        cases hx
      · exact List.pairwise_singleton ..
    · rw [Option.mem_def] at hx hy
      subst hx hy
      exact (h.passed_added hposted hsecond).2 x hfirst hlink
  · rw [hsent'] at hi
    rw [hpassed]
    rcases Nat.lt_or_ge i S.sent.length with hlt | hge
    · rw [List.getElem?_append_left hlt] at hi
      obtain ⟨x, hx⟩ := h.related i y hi hpasses
      exact ⟨x, by rw [List.getElem?_append_left (List.getElem?_eq_some_iff.1 hx).1, hx]⟩
    · rw [List.getElem?_append_right hge] at hi
      obtain ⟨x, -, hcause, -⟩ := forwards_of_posts hposted hi hpasses
      refine ⟨x, ?_⟩
      rw [List.getElem?_append_right (hlength ▸ hge), hlength, List.getElem?_map, hi, Option.map_some, hpasses,
        if_pos rfl, hcause]
  · rw [hsent'] at hi
    rw [hpassed] at hx
    rw [Mesh.frameAt_advance] at hframe
    rcases Nat.lt_or_ge i S.sent.length with hlt | hge
    · rw [List.getElem?_append_left hlt] at hi
      rw [List.getElem?_append_left (hlength.symm ▸ hlt)] at hx
      exact h.copied i y x written hi hx hframe
    · rw [List.getElem?_append_right hge] at hi
      rw [List.getElem?_append_right (hlength ▸ hge), hlength, List.getElem?_map, hi, Option.map_some,
        Option.some.injEq] at hx
      split_ifs at hx with hpasses
      obtain ⟨x', written', hcause, hframe', hforwards⟩ := forwards_of_posts hposted hi hpasses
      obtain rfl := Option.some.inj (hcause.symm.trans hx)
      obtain rfl := Option.some.inj (hframe'.symm.trans hframe)
      exact hforwards

theorem of_same (h : Sequenced m S) (hgateway : S'.sent = S.sent) (hcauses : S'.causes = S.causes)
    (htaken : ∀ k, (S.links k).taken ≤ (S'.links k).taken ∧ (S'.links k).taken ≤ (S'.links k).sent.length)
    (hhandling : ∀ k j, (S'.links k).handling = some j → j + 1 = (S'.links k).taken)
    (hframes : ∀ x, x.2 < (S.links x.1).taken → S'.frameAt x = S.frameAt x) : Sequenced m S' := by
  have hpassed : S'.passed = S.passed := by rw [Mesh.passed, Mesh.passed, hgateway, hcauses]
  refine ⟨by rw [hgateway, hcauses, h.recorded], fun k => (htaken k).2, hhandling, fun x hx => ?_, ?_, ?_,
    fun i e x written hi hx hframe => ?_⟩
  · exact (h.caused x (hpassed ▸ hx)).trans_le (htaken x.1).1
  · rw [hpassed]
    exact h.ordered
  · rw [hpassed, hgateway]
    exact h.related
  · rw [hgateway] at hi
    rw [hpassed] at hx
    rw [hframes x (h.caused x (List.mem_of_getElem? hx))] at hframe
    exact h.copied i e x written hi hx hframe

end Sequenced

/-! ### The handlers -/

/-- The link's handler has not changed, nor its frames. -/
structure Link.Same (link link' : Link) : Prop where
  handling : link'.handling = link.handling
  taken : link'.taken = link.taken
  sent : link.sent <+: link'.sent

theorem Link.Same.refl (link : Link) : link.Same link := ⟨rfl, rfl, List.prefix_refl _⟩

theorem Mesh.Conducts.mono {k : Nat} {p : Program signature Connection} (h : S.Conducts m k p)
    (hlink : (S.links k).Same (S'.links k))
    (hpassed : ∀ j, some (k, j) ∈ S'.passed → some (k, j) ∈ S.passed) : S'.Conducts m k p := by
  obtain ⟨b, forwards, hp, hb⟩ := h
  refine ⟨b, forwards, hp, fun htrue => ?_⟩
  obtain ⟨j, written, hj, hframe, hforwards, hfresh⟩ := hb htrue
  exact ⟨j, written, hlink.handling.trans hj, getElem?_of_prefix hlink.sent hframe, hforwards,
    fun hmem => hfresh (hpassed j hmem)⟩

theorem Mesh.conducts_of_withholds {k : Nat} {p : Program signature Connection} (h : Gateway.Withholds p) :
    S.Conducts m k p := ⟨false, fun _ => False, h.once false, nofun⟩

theorem Mesh.conducts_ret {k : Nat} {conn : Connection} : S.Conducts m k (.ret conn) :=
  ⟨false, fun _ => False, .ret trivial, nofun⟩

/-- What a call puts on the channels, and what its handler can still do. -/
theorem posts_of_call {forwards : WriterMessage → Prop} {b : Bool} {op : Op}
    {next : op.Answer → Program signature Connection} {answer : op.Answer} {s s' : Shared}
    (hp : PassesOnce forwards b (.call op next)) (hdoes : s.Does op answer s') :
    ∃ b' posted, PassesOnce forwards b' (next answer) ∧ s'.channels.sent = s.channels.sent ++ posted ∧
      ((b' = b ∧ ∀ x ∈ posted, x.2.passes = false) ∨
        (b = true ∧ b' = false ∧ posted.length ≤ 1 ∧ ∀ x ∈ posted, forwards x.2)) := by
  obtain ⟨b', hmoves, hnext⟩ := hp.step answer
  cases hmoves with
  | other hop =>
      obtain ⟨posted, hsent, hposted⟩ := hdoes.posts
      refine ⟨b, posted, hnext, hsent, Or.inl ⟨rfl, fun x hx => ?_⟩⟩
      have hmessage := hposted x hx
      rwa [Op.passes, hmessage] at hop
  | @pass tx message sent hforwards =>
      have hsend : s'.channels = (s.channels.send tx message).2 := congrArg Prod.snd hdoes.send.symm
      rw [Gateway.Channels.send] at hsend
      split_ifs at hsend with hclosed
      · exact ⟨false, [], hnext, by rw [hsend, List.append_nil], Or.inr ⟨rfl, rfl, by simp, by simp⟩⟩
      · refine ⟨false, [(tx, message)], hnext, by rw [hsend], Or.inr ⟨rfl, rfl, by simp, fun x hx => ?_⟩⟩
        rw [List.mem_singleton.1 hx]
        exact hforwards

theorem posts_of_environment {s s' : Shared} (h : Gateway.Environment s s') :
    ∃ posted, s'.channels.sent = s.channels.sent ++ posted ∧ ∀ x ∈ posted, x.2.passes = false := by
  have hsend : ∀ tx message, message.passes = false → ∃ posted,
      (s.channels.send tx message).2.sent = s.channels.sent ++ posted ∧ ∀ x ∈ posted, x.2.passes = false := by
    intro tx message hmessage
    obtain ⟨posted, hsent, hposted⟩ := s.channels.send_posts tx message
    exact ⟨posted, hsent, fun x hx => by rw [hposted x hx]; exact hmessage⟩
  cases h with
  | tick | hangUp | markSent => exact ⟨[], by simp⟩
  | authTimeout | heartbeatTimeout | ping => exact hsend _ _ rfl

theorem Conducted.update_thread (h : Conducted m S) {k : Nat} {p : Program signature Connection}
    (hlt : k < S.gateway.threads.length) (hthreads : S'.gateway.threads = S.gateway.threads.set k p)
    (hp : S'.Conducts m k p) (hothers : ∀ k', k' ≠ k → (S.links k').Same (S'.links k') ∧
      ∀ j, some (k', j) ∈ S'.passed → some (k', j) ∈ S.passed) : Conducted m S' := by
  refine ⟨fun k' p' hp' => ?_, fun k' hk' => ?_⟩
  · rw [hthreads] at hp'
    by_cases hk : k' = k
    · subst hk
      rw [List.getElem?_set_self hlt] at hp'
      exact Option.some.inj hp' ▸ hp
    · rw [List.getElem?_set_ne (Ne.symm hk)] at hp'
      exact (h.threads k' p' hp').mono (hothers k' hk).1 (hothers k' hk).2
  · rw [hthreads, List.length_set] at hk'
    rw [(hothers k' (by omega)).1.taken]
    exact h.unused k' hk'

theorem Conducted.after_opens (h : Conducted m S) {conn : Connection}
    (hthreads : S'.gateway.threads = S.gateway.threads ++ [.ret conn]) (hpassed : S'.passed = S.passed)
    (hlinks : ∀ k, k ≠ S.gateway.threads.length → (S.links k).Same (S'.links k)) : Conducted m S' := by
  refine ⟨fun k p hp => ?_, fun k hk => ?_⟩
  · rw [hthreads] at hp
    rcases Nat.lt_or_ge k S.gateway.threads.length with hlt | hge
    · rw [List.getElem?_append_left hlt] at hp
      exact (h.threads k p hp).mono (hlinks k hlt.ne) fun j hj => hpassed ▸ hj
    · rw [List.getElem?_append_right hge] at hp
      obtain rfl := List.mem_singleton.1 (List.mem_of_getElem? hp)
      exact Mesh.conducts_ret
  · rw [hthreads, List.length_append, List.length_singleton] at hk
    rw [(hlinks k (by omega)).taken]
    exact h.unused k (by omega)

theorem sequenced_of_gateway (hs : Sequenced m S) (hc : Conducted m S) {e : GatewayEvent}
    {pool : Pool signature Shared Connection} (hsilent : silent e = true)
    (hstep : Pool.Step (system m) S.gateway e pool) :
    Sequenced m (S.advance e pool) ∧ Conducted m (S.advance e pool) := by
  cases hstep with
  | @opens conn s' hopens =>
      obtain ⟨-, -, rfl⟩ := hopens
      have hsent := (List.append_nil S.sent).symm
      refine ⟨hs.after_gateway (.opens conn) hsent (Or.inl nofun), hc.after_opens rfl ?_ fun _ _ => .refl _⟩
      exact (hs.passed_advance (.opens conn) _ hsent).trans (List.append_nil _)
  | @input k conn e p hidle hhandle =>
      have hsent := (List.append_nil S.sent).symm
      have hpassed := (hs.passed_advance (.input k e) ⟨S.gateway.shared, S.gateway.threads.set k p⟩ hsent).trans
        (List.append_nil _)
      have he : e = .start ∨ e = .close := by
        cases e with
        | start => exact Or.inl rfl
        | close => exact Or.inr rfl
        | clientFrame | backendFrame => cases hsilent
      refine ⟨hs.after_gateway (.input k e) hsent (Or.inl nofun), hc.update_thread (List.getElem?_eq_some_iff.1 hidle).1 rfl
        (Mesh.conducts_of_withholds (Gateway.withholds_handle he hhandle)) fun k' hk' => ?_⟩
      have hlink : (S.advance (.input k e) ⟨S.gateway.shared, S.gateway.threads.set k p⟩).links k' = S.links k' :=
        Function.update_of_ne hk' _ _
      exact ⟨hlink.symm ▸ .refl _, fun j hj => hpassed ▸ hj⟩
  | @call k op next answer s' hbusy hdoes =>
      obtain ⟨b, forwards, hp, hb⟩ := hc.threads k _ hbusy
      obtain ⟨b', posted, hnext, hsent, hposted⟩ := posts_of_call hp hdoes
      have hpassed := hs.passed_advance (.call k ⟨op, answer⟩) ⟨s', S.gateway.threads.set k (next answer)⟩ hsent
      -- The frames of other connections are not concerned.
      have hothers : ∀ k', k' ≠ k → ∀ j,
          some (k', j) ∈ (S.advance (.call k ⟨op, answer⟩) ⟨s', S.gateway.threads.set k (next answer)⟩).passed →
            some (k', j) ∈ S.passed := by
        intro k' hk' j hj
        rw [hpassed] at hj
        rcases List.mem_append.1 hj with hj | hj
        · exact hj
        · obtain ⟨x, -, hx⟩ := List.mem_map.1 hj
          split_ifs at hx
          obtain ⟨j', -, heq⟩ := Option.map_eq_some_iff.1 hx
          exact absurd (congrArg Prod.fst heq).symm hk'
      refine ⟨hs.after_gateway _ hsent ?_, hc.update_thread (List.getElem?_eq_some_iff.1 hbusy).1 rfl
        ⟨b', forwards, hnext, fun htrue => ?_⟩ fun k' hk' => ⟨.refl _, hothers k' hk'⟩⟩
      · rcases hposted with ⟨-, hnone⟩ | ⟨htrue, -, hlength, hforwards⟩
        · exact Or.inl hnone
        · obtain ⟨j, written, hj, hframe, rfl, hfresh⟩ := hb htrue
          rcases posted with _ | ⟨y, _ | ⟨z, posted⟩⟩
          · exact Or.inl nofun
          · have hcause : S.cause (.call k ⟨op, answer⟩) = some (k, j) := by rw [Mesh.cause, hj, Option.map_some]
            exact Or.inr ⟨k, j, y, _, rfl, hcause, hj, hfresh, hframe, hforwards y List.mem_cons_self⟩
          · simp at hlength
      · rcases hposted with ⟨rfl, hnone⟩ | ⟨-, hfalse, -⟩
        · obtain ⟨j, written, hj, hframe, hforwards, hfresh⟩ := hb htrue
          refine ⟨j, written, hj, (Mesh.frameAt_advance ..).trans hframe, hforwards, fun hmem => ?_⟩
          rw [hpassed] at hmem
          rcases List.mem_append.1 hmem with hmem | hmem
          · exact hfresh hmem
          · obtain ⟨x, hx, hcause⟩ := List.mem_map.1 hmem
            rw [hnone x hx] at hcause
            cases hcause
        · cases hfalse.symm.trans htrue
  | @environment s' henvironment =>
      obtain ⟨posted, hsent, hnone⟩ := posts_of_environment henvironment
      have hpassed := hs.passed_advance .environment ⟨s', S.gateway.threads⟩ hsent
      refine ⟨hs.after_gateway .environment hsent (Or.inl hnone), fun k p hp => ?_, hc.unused⟩
      refine (hc.threads k p hp).mono (.refl _) fun j hj => ?_
      rw [hpassed] at hj
      rcases List.mem_append.1 hj with hj | hj
      · exact hj
      · obtain ⟨x, hx, hcause⟩ := List.mem_map.1 hj
        rw [hnone x hx] at hcause
        cases hcause

theorem Mesh.links_setProcess (p : Nat) (process : Process) : (S.setProcess p process).links = S.links := rfl

theorem Step.sequenced (hs : Sequenced X.messages S) (hc : Conducted X.messages S) {e : Event}
    (hstep : Step X S e S') : Sequenced X.messages S' ∧ Conducted X.messages S' := by
  cases hstep with
  | gateway hsilent h => exact sequenced_of_gateway hs hc hsilent h
  | @take k frame purpose pool hframe hfits h =>
      cases h with
      | @input _ conn _ p hidle hhandle =>
          have hlt : (S.links k).taken < (S.links k).sent.length := (List.getElem?_eq_some_iff.1 hframe).1
          have hframes := S.frameAt_take ⟨S.gateway.shared, S.gateway.threads.set k p⟩ k
          refine ⟨hs.of_same rfl rfl (fun k' => ?_) (fun k' j hj => ?_) fun x _ => hframes x,
            hc.update_thread (List.getElem?_eq_some_iff.1 hidle).1 rfl
              ⟨true, _, Gateway.once_handle_backendFrame hhandle, fun _ => ?_⟩ fun k' hk' => ?_⟩
          · rw [Mesh.links_setLink]
            split_ifs with hk
            · subst hk
              exact ⟨Nat.le_succ _, hlt⟩
            · exact ⟨Nat.le_refl _, hs.taken k'⟩
          · rw [Mesh.links_setLink] at hj ⊢
            split_ifs at hj ⊢ with hk
            · cases hj
              rfl
            · exact hs.handling k' j hj
          · -- What has been forwarded was taken earlier.
            refine ⟨(S.links k).taken, _, by rw [Mesh.links_setLink, if_pos rfl], (hframes _).trans hframe, rfl,
              fun hmem => ?_⟩
            exact absurd (hs.caused _ hmem) (Nat.lt_irrefl _)
          · rw [Mesh.links_setLink, if_neg hk']
            exact ⟨.refl _, fun j hj => hj⟩
  | @connect conn pool k hk _ _ h =>
      subst hk
      cases h with
      | @opens _ s' hopens =>
          obtain ⟨-, -, rfl⟩ := hopens
          refine ⟨hs.of_same rfl rfl (fun k => ?_) (fun k j hj => ?_) fun x hx => ?_, hc.after_opens rfl rfl fun k hk => ?_⟩
          · rw [Mesh.links_setProcess, Mesh.links_setLink]
            split_ifs with hk
            · rw [hc.unused k hk.ge]
              exact ⟨Nat.le_refl _, Nat.zero_le _⟩
            · exact ⟨Nat.le_refl _, hs.taken k⟩
          · rw [Mesh.links_setProcess, Mesh.links_setLink] at hj ⊢
            split_ifs at hj ⊢
            exact hs.handling k j hj
          · -- From a link that is not used yet nothing has been taken.
            have hne : x.1 ≠ S.gateway.threads.length := by
              intro heq
              rw [heq, hc.unused _ (Nat.le_refl _)] at hx
              exact Nat.not_lt_zero _ hx
            rw [Mesh.frameAt, Mesh.links_setProcess, Mesh.links_setLink, if_neg hne]
            rfl
          · rw [Mesh.links_setProcess, Mesh.links_setLink, if_neg hk]
            exact .refl _
  | @process p a process out hact =>
      have hlinks := (S.setProcess p process).links_write out
      have hgateway := (S.setProcess p process).gateway_write out
      have hcauses := (S.setProcess p process).causes_write out
      have hpassed : ((S.setProcess p process).write out).passed = S.passed := by
        rw [Mesh.passed, Mesh.passed, Mesh.sent, hgateway, hcauses]
        rfl
      refine ⟨hs.of_same ?_ hcauses (fun k => ?_) (fun k j hj => ?_) fun x hx => ?_, fun k p' hp' => ?_,
        fun k hk => ?_⟩
      · rw [Mesh.sent, hgateway]
        rfl
      · obtain ⟨htaken, -, hsent⟩ := hlinks k
        rw [htaken, hsent, List.length_append]
        exact ⟨Nat.le_refl _, (hs.taken k).trans (Nat.le_add_right ..)⟩
      · obtain ⟨htaken, hhandling, -⟩ := hlinks k
        rw [htaken]
        exact hs.handling k j (hhandling.symm.trans hj)
      · rw [Mesh.frameAt, (hlinks x.1).2.2]
        exact List.getElem?_append_left (hx.trans_le (hs.taken x.1))
      · rw [hgateway] at hp'
        obtain ⟨htaken, hhandling, hsent⟩ := hlinks k
        exact (hc.threads k p' hp').mono ⟨hhandling, htaken, hsent ▸ List.prefix_append ..⟩ fun j hj => hpassed ▸ hj
      · rw [hgateway] at hk
        rw [(hlinks k).1]
        exact hc.unused k hk

/-! ### What a process reads -/

theorem Mesh.inbox_lt {k n n' i i' : Nat} {message message' : WriterMessage} (h : S.inbox k n = some (i, message))
    (h' : S.inbox k n' = some (i', message')) (hlt : n < n') : i < i' := by
  obtain ⟨e, he, heq⟩ := Option.map_eq_some_iff.1 h
  obtain ⟨e', he', heq'⟩ := Option.map_eq_some_iff.1 h'
  obtain ⟨rfl, -⟩ := Prod.mk.inj heq
  obtain ⟨rfl, -⟩ := Prod.mk.inj heq'
  have hsorted : (S.sent.zipIdx.map Prod.snd).Pairwise (· < ·) := by
    rw [List.zipIdx_map_snd]
    exact List.pairwise_lt_range'
  have hfiltered := (List.pairwise_map.1 hsorted).filter fun e => decide (e.1.1 = k)
  obtain ⟨hn, rfl⟩ := List.getElem?_eq_some_iff.1 he
  obtain ⟨hn', rfl⟩ := List.getElem?_eq_some_iff.1 he'
  exact List.pairwise_iff_getElem.1 hfiltered n n' hn hn' hlt

theorem Mesh.inbox_mono (h : S.sent <+: S'.sent) {k n : Nat} {x : Nat × WriterMessage}
    (hx : S.inbox k n = some x) : S'.inbox k n = some x := by
  obtain ⟨more, hmore⟩ := h
  obtain ⟨e, he, heq⟩ := Option.map_eq_some_iff.1 hx
  have hprefix : (S.sent.zipIdx.filter fun e => decide (e.1.1 = k)) <+:
      S'.sent.zipIdx.filter fun e => decide (e.1.1 = k) := by
    rw [← hmore, List.zipIdx_append, List.filter_append]
    exact List.prefix_append ..
  rw [Mesh.inbox, getElem?_of_prefix hprefix he, Option.map_some, heq]

theorem dispatched_resolve (m : MessageMap) (rpc : Backend.RpcManager) (serial : Int32) (msgId : UInt16)
    (payload : Bytes) : dispatched (Backend.resolve m rpc serial msgId payload).action = false := by
  unfold Backend.resolve
  split <;> rfl

theorem passes_of_dispatched {m : MessageMap} (hm : Faithful m) {rpc : Backend.RpcManager} {data : ToBackend}
    (h : dispatched (handleFrame m rpc ∅ (data.frame m)).action = true) :
    (WriterMessage.toBackend data).passes = true := by
  cases data with
  | control message serial sessionId =>
      rw [frame_control, handleFrame_controlFrame, Backend.handleControlFrame] at h
      split_ifs at h
      · rw [dispatched_resolve] at h
        cases h
      · rcases hdecode : m.decode (controlFrame m message serial sessionId).msgId
          (controlFrame m message serial sessionId).payload with err | read
        · rw [hdecode] at h
          cases h
        · rw [hdecode] at h
          cases read with
          | forwardToServerReq req =>
              have hid := hm.msgId_of_decode hdecode
              rw [WriterMessage.passes, ← hid]
              rfl
          | _ => cases h
  | business msgId serial sessionId payload =>
      have hnone : (∅ : Table UInt32 Backend.Mailbox).get sessionId = none := rfl
      rw [ToBackend.frame, handleFrame, if_neg (show ¬ backendCmdBusiness = backendCmdControl by decide), if_pos rfl,
        Backend.dispatchBusinessFrame] at h
      by_cases hserial : serial > 0
      · rw [if_pos hserial, dispatched_resolve] at h
        cases h
      · rw [if_neg hserial, hnone] at h
        cases h

/-! ### The queues -/

/-- The messages that the dispatchers are done with, in the order in which they were. -/
def answered (trace : List (Mesh × Event)) : List Nat :=
  trace.filterMap fun e =>
    match e.2 with
    | .process p (.answer _) => (e.1.processes p).queue.head?.map Prod.snd
    | _ => none

/-- The messages that wait for the dispatcher of a process. -/
def Mesh.upcoming (S : Mesh) (p : Nat) : List Nat := (S.processes p).queue.map Prod.snd

/-- The connection of a process, and how many of its messages may have been given to the dispatcher. -/
def Stage.reading : Stage → Option (Nat × Nat)
  | .registering k _ => some (k, 0)
  | .connected k read => some (k, read)
  | _ => none

/-- Messages of one channel are in its order. -/
def Mesh.Precedes (S : Mesh) (i i' : Nat) : Prop :=
  ∀ k message message', S.sent[i]? = some (k, message) → S.sent[i']? = some (k, message') → i < i'

/-- The message has been on the channel of an open connection, and brought a frame of another server. -/
def Mesh.Brings (S : Mesh) (i : Nat) : Prop :=
  ∃ k message, S.sent[i]? = some (k, message) ∧ message.passes = true ∧ k < S.gateway.threads.length

/-- What the dispatchers are done with and what waits for them has been read in order. -/
structure Fetched (X : Setting) (S : Mesh) (done : List Nat) : Prop where
  brought : ∀ p, ∀ i ∈ done ++ S.upcoming p, S.Brings i
  owned : ∀ p, ∀ i ∈ S.upcoming p, ∀ k message, S.sent[i]? = some (k, message) → X.owner k = p
  ordered : ∀ p, (done ++ S.upcoming p).Pairwise S.Precedes
  reading : ∀ p k n, (S.processes p).stage.reading = some (k, n) → k < S.gateway.threads.length ∧ X.owner k = p ∧
    ∀ i ∈ done ++ S.upcoming p, ∀ message, S.sent[i]? = some (k, message) →
      ∃ n' < n, S.inbox k n' = some (i, message)

namespace Fetched

variable {done : List Nat}

/-- Messages come to the channels, connections are opened, and processes read on. -/
theorem mono (h : Fetched X S done) (hsent : S.sent <+: S'.sent)
    (hthreads : S.gateway.threads.length ≤ S'.gateway.threads.length) (hqueue : ∀ p, S'.upcoming p = S.upcoming p)
    (hreading : ∀ p k n, (S'.processes p).stage.reading = some (k, n) →
      (∃ n₀ ≤ n, (S.processes p).stage.reading = some (k, n₀)) ∨
        (k = S.gateway.threads.length ∧ k < S'.gateway.threads.length ∧ X.owner k = p)) : Fetched X S' done := by
  have hbrings : ∀ i, S.Brings i → S'.Brings i := by
    rintro i ⟨k, message, hi, hpasses, hlt⟩
    exact ⟨k, message, getElem?_of_prefix hsent hi, hpasses, hlt.trans_le hthreads⟩
  -- What is known of a message stays what is known of it.
  have hsame : ∀ i, S.Brings i → ∀ x, S'.sent[i]? = some x → S.sent[i]? = some x := by
    rintro i ⟨k, message, hi, -⟩ x hx
    rw [ getElem?_of_prefix hsent hi] at hx
    rw [hi, hx]
  refine ⟨fun p i hi => ?_, fun p i hi k message hk => ?_, fun p => ?_, fun p k n hk => ?_⟩
  · rw [hqueue] at hi
    exact hbrings i (h.brought p i hi)
  · rw [hqueue] at hi
    exact h.owned p i hi k message (hsame i (h.brought p i (List.mem_append_right _ hi)) _ hk)
  · rw [hqueue]
    refine (h.ordered p).imp_of_mem fun ha hb hab k message message' hk hk' => ?_
    exact hab k message message' (hsame _ (h.brought p _ ha) _ hk) (hsame _ (h.brought p _ hb) _ hk')
  · rw [hqueue]
    rcases hreading p k n hk with ⟨n₀, hle, hold⟩ | ⟨hnew, hlt, howner⟩
    · obtain ⟨hlt, howner, hread⟩ := h.reading p k n₀ hold
      refine ⟨hlt.trans_le hthreads, howner, fun i hi message hmessage => ?_⟩
      obtain ⟨n', hn', hinbox⟩ := hread i hi message (hsame i (h.brought p i hi) _ hmessage)
      exact ⟨n', hn'.trans_le hle, Mesh.inbox_mono hsent hinbox⟩
    · refine ⟨hlt, howner, fun i hi message hmessage => ?_⟩
      -- Nothing has come on a connection that is opened now.
      obtain ⟨k', message', hi', -, hlt'⟩ := h.brought p i hi
      obtain ⟨rfl, -⟩ := Prod.mk.inj (Option.some.inj ((hsame i (h.brought p i hi) _ hmessage).symm.trans hi'))
      exact absurd hnew hlt'.ne

theorem after_read (h : Fetched X S done) {p k n i : Nat} {message : WriterMessage} (hsent : S'.sent = S.sent)
    (hthreads : S'.gateway.threads = S.gateway.threads) (hothers : ∀ p', p' ≠ p → S'.processes p' = S.processes p')
    (hstage : (S.processes p).stage.reading = some (k, n))
    (hstage' : (S'.processes p).stage.reading = some (k, n + 1))
    (hinbox : S.inbox k n = some (i, message)) (hpasses : message.passes = true)
    (hqueue : S'.upcoming p = S.upcoming p ++ [i]) : Fetched X S' done := by
  obtain ⟨hlt, howner, hread⟩ := h.reading p k n hstage
  have hi := Mesh.inbox_eq_some hinbox
  have hupcoming : ∀ p', p' ≠ p → S'.upcoming p' = S.upcoming p' := fun p' hp' =>
    congrArg (fun process : Process => process.queue.map Prod.snd) (hothers p' hp')
  have hinboxes : S'.inbox = S.inbox := by
    funext k' n'
    rw [Mesh.inbox, Mesh.inbox, hsent]
  have hprecedes : S'.Precedes = S.Precedes := by
    funext a b
    rw [Mesh.Precedes, Mesh.Precedes, hsent]
  have hbrings : ∀ a, S.Brings a → S'.Brings a := by
    intro a ha
    rw [Mesh.Brings, hsent, hthreads]
    exact ha
  have hnew : ∀ a ∈ done ++ S.upcoming p, S.Precedes a i := by
    intro a ha k' message₁ message₂ hk₁ hk₂
    rw [hi] at hk₂
    cases hk₂
    obtain ⟨n', hn', hinbox'⟩ := hread a ha message₁ hk₁
    exact Mesh.inbox_lt hinbox' hinbox hn'
  refine ⟨fun p' a ha => ?_, fun p' a ha k' message' hk' => ?_, fun p' => ?_, fun p' k' n' hk' => ?_⟩
  · by_cases hp : p' = p
    · subst hp
      rw [hqueue, ← List.append_assoc] at ha
      rcases List.mem_append.1 ha with ha | ha
      · exact hbrings a (h.brought p' a ha)
      · rw [List.mem_singleton.1 ha]
        exact hbrings i ⟨k, message, hi, hpasses, hlt⟩
    · rw [hupcoming p' hp] at ha
      exact hbrings a (h.brought p' a ha)
  · rw [hsent] at hk'
    by_cases hp : p' = p
    · subst hp
      rw [hqueue] at ha
      rcases List.mem_append.1 ha with ha | ha
      · exact h.owned p' a ha k' message' hk'
      · rw [List.mem_singleton.1 ha, hi] at hk'
        cases hk'
        exact howner
    · rw [hupcoming p' hp] at ha
      exact h.owned p' a ha k' message' hk'
  · rw [hprecedes]
    by_cases hp : p' = p
    · subst hp
      rw [hqueue, ← List.append_assoc, List.pairwise_append]
      refine ⟨h.ordered p', List.pairwise_singleton .., fun a ha b hb => ?_⟩
      rw [List.mem_singleton.1 hb]
      exact hnew a ha
    · rw [hupcoming p' hp]
      exact h.ordered p'
  · rw [hthreads, hsent, hinboxes]
    by_cases hp : p' = p
    · subst hp
      rw [hstage'] at hk'
      cases hk'
      refine ⟨hlt, howner, fun a ha message' ha' => ?_⟩
      rw [hqueue, ← List.append_assoc] at ha
      rcases List.mem_append.1 ha with ha | ha
      · obtain ⟨n', hn', hinbox'⟩ := hread a ha message' ha'
        exact ⟨n', hn'.trans (Nat.lt_succ_self n), hinbox'⟩
      · rw [List.mem_singleton.1 ha, hi] at ha'
        cases ha'
        rw [List.mem_singleton.1 ha]
        exact ⟨n, Nat.lt_succ_self n, hinbox⟩
    · rw [hothers p' hp] at hk'
      rw [hupcoming p' hp]
      exact h.reading p' k' n' hk'

theorem after_answer (h : Fetched X S done) {p i : Nat} (hsent : S'.sent = S.sent)
    (hthreads : S'.gateway.threads = S.gateway.threads) (hothers : ∀ p', p' ≠ p → S'.processes p' = S.processes p')
    (hstage : (S'.processes p).stage = (S.processes p).stage) (hqueue : S.upcoming p = i :: S'.upcoming p) :
    Fetched X S' (done ++ [i]) := by
  have hupcoming : ∀ p', p' ≠ p → S'.upcoming p' = S.upcoming p' := fun p' hp' =>
    congrArg (fun process : Process => process.queue.map Prod.snd) (hothers p' hp')
  have hwhole : done ++ [i] ++ S'.upcoming p = done ++ S.upcoming p := by
    rw [hqueue, List.append_assoc, List.singleton_append]
  have hinboxes : S'.inbox = S.inbox := by
    funext k' n'
    rw [Mesh.inbox, Mesh.inbox, hsent]
  have hprecedes : S'.Precedes = S.Precedes := by
    funext a b
    rw [Mesh.Precedes, Mesh.Precedes, hsent]
  have hbrings : ∀ a, S.Brings a → S'.Brings a := by
    intro a ha
    rw [Mesh.Brings, hsent, hthreads]
    exact ha
  have hmem : i ∈ S.upcoming p := hqueue ▸ List.mem_cons_self
  refine ⟨fun p' a ha => ?_, fun p' a ha k message hk => ?_, fun p' => ?_, fun p' k n hk => ?_⟩
  · by_cases hp : p' = p
    · rw [hp, hwhole] at ha
      exact hbrings a (h.brought p a ha)
    · rw [hupcoming p' hp, List.append_assoc] at ha
      rcases List.mem_append.1 ha with ha | ha
      · exact hbrings a (h.brought p a (List.mem_append_left _ ha))
      · rcases List.mem_append.1 ha with ha | ha
        · rw [List.mem_singleton.1 ha]
          exact hbrings i (h.brought p i (List.mem_append_right _ hmem))
        · exact hbrings a (h.brought p' a (List.mem_append_right _ ha))
  · rw [hsent] at hk
    by_cases hp : p' = p
    · subst hp
      exact h.owned p' a (hqueue ▸ List.mem_cons_of_mem _ ha) k message hk
    · rw [hupcoming p' hp] at ha
      exact h.owned p' a ha k message hk
  · rw [hprecedes]
    by_cases hp : p' = p
    · rw [hp, hwhole]
      exact h.ordered p
    · -- Its channel is not one of another process.
      have hforeign : ∀ b ∈ S.upcoming p', S.Precedes i b := by
        intro b hb k message message' hk hk'
        exact absurd ((h.owned p' b hb k message' hk').symm.trans (h.owned p i hmem k message hk)) hp
      have hfirst := h.ordered p
      rw [← hwhole] at hfirst
      obtain ⟨hdone, hothers', hlater⟩ := List.pairwise_append.1 (h.ordered p')
      rw [hupcoming p' hp, List.pairwise_append]
      refine ⟨(List.pairwise_append.1 hfirst).1, hothers', fun a ha b hb => ?_⟩
      rcases List.mem_append.1 ha with ha | ha
      · exact hlater a ha b hb
      · rw [List.mem_singleton.1 ha]
        exact hforeign b hb
  · rw [hthreads, hsent, hinboxes]
    by_cases hp : p' = p
    · subst hp
      rw [hstage] at hk
      rw [hwhole]
      exact h.reading p' k n hk
    · rw [hothers p' hp] at hk
      obtain ⟨hlt, howner, hread⟩ := h.reading p' k n hk
      refine ⟨hlt, howner, fun a ha message ha' => ?_⟩
      rw [hupcoming p' hp, List.append_assoc] at ha
      rcases List.mem_append.1 ha with ha | ha
      · exact hread a (List.mem_append_left _ ha) message ha'
      · rcases List.mem_append.1 ha with ha | ha
        · rw [List.mem_singleton.1 ha] at ha'
          exact absurd (howner.symm.trans (h.owned p i hmem k message ha')) hp
        · exact hread a (List.mem_append_right _ ha) message ha'

end Fetched

/-! ### Steps of a process -/

namespace Process

variable {m : MessageMap} {id : UInt32 × UInt32} {inbox : Nat → Nat → Option (Nat × WriterMessage)}
  {p p' : Process} {a : Act} {out : Option (Nat × Written)}

theorem Acts.connection (h : p.Acts m id inbox a p' out) {k : Nat} {written : Written}
    (hout : out = some (k, written)) : p.gatewayTx = some k := by
  cases h with
  | send _ _ hgateway =>
      cases hout
      exact hgateway
  | push target msg => exact (trySend_eq_some hout).1
  | read _ _ _ =>
      obtain ⟨nonce, sessionId, hsend⟩ := pong_eq_some hout
      exact (trySend_eq_some hsend).1
  | answer _ resp =>
      obtain ⟨⟨source, serial⟩, -, hsend⟩ := Option.bind_eq_some_iff.1 hout
      exact (trySend_eq_some hsend).1
  | _ => cases hout

/-- The frame of the request has been written, or will never be. -/
def settled (p : Process) (c : Nat) : Prop := p.phases c ≠ .allocated ∧ p.phases c ≠ .inserted

theorem settled_setPhase {c c' : Nat} {phase : Phase} (h : p.settled c)
    (hphase : c = c' → phase ≠ .allocated ∧ phase ≠ .inserted) : (p.setPhase c' phase).settled c := by
  rw [settled, setPhase]
  dsimp only
  by_cases hc : c = c'
  · subst hc
    rw [Function.update_self]
    exact hphase rfl
  · rw [Function.update_of_ne hc]
    exact h

theorem Acts.settled (h : p.Acts m id inbox a p' out) {c : Nat} (hc : p.settled c) : p'.settled c := by
  cases h with
  | @insertPending c' request hphase hrequest =>
      refine settled_setPhase hc fun heq => ?_
      exact absurd (heq ▸ hphase) hc.1
  | send | fail | removePending => exact settled_setPhase hc fun _ => ⟨by decide, by decide⟩
  | _ => exact hc

theorem Acts.request (h : p.Acts m id inbox a p' out) {k c : Nat} {frame : BackendFrame}
    (hout : out = some (k, frame, .request c)) : ¬ p.settled c ∧ p'.settled c := by
  cases h with
  | send hphase _ _ =>
      cases hout
      refine ⟨fun hc => hc.2 hphase, ?_⟩
      simp [Process.settled, setPhase]
  | push target msg => cases (trySend_eq_some hout).2
  | read _ _ _ =>
      obtain ⟨nonce, sessionId, hsend⟩ := pong_eq_some hout
      cases (trySend_eq_some hsend).2
  | answer _ resp =>
      obtain ⟨⟨source, serial⟩, -, hsend⟩ := Option.bind_eq_some_iff.1 hout
      cases (trySend_eq_some hsend).2
  | _ => cases hout

end Process

theorem answered_snoc (trace : List (Mesh × Event)) (S : Mesh) (e : Event) :
    answered (trace ++ [(S, e)]) = answered trace ++ (match e with
      | .process p (.answer _) => (S.processes p).queue.head?.map Prod.snd
      | _ => none).toList := by
  rw [answered, List.filterMap_append]
  rfl

theorem Mesh.sent_write (p : Nat) (process : Process) (out : Option (Nat × Written)) :
    ((S.setProcess p process).write out).sent = S.sent := by
  rw [Mesh.sent, Mesh.gateway_write]
  rfl

theorem Fetched.of_same_queue {done : List Nat} (h : Fetched X S done) {p : Nat} {process : Process}
    {out : Option (Nat × Written)} (hqueue : process.queue = (S.processes p).queue)
    (hreading : ∀ k n, process.stage.reading = some (k, n) →
      ∃ n₀ ≤ n, (S.processes p).stage.reading = some (k, n₀)) :
    Fetched X ((S.setProcess p process).write out) done := by
  refine h.mono ?_ ?_ (fun p' => ?_) fun p' k n hk => ?_
  · exact ⟨[], by rw [List.append_nil, Mesh.sent_write]⟩
  · rw [Mesh.gateway_write]
    exact Nat.le_refl _
  · rw [Mesh.upcoming, Mesh.processes_write, Mesh.processes_setProcess]
    split_ifs with hp
    · rw [hqueue, hp]
      rfl
    · rfl
  · rw [Mesh.processes_write, Mesh.processes_setProcess] at hk
    split_ifs at hk with hp
    · rw [hp]
      exact Or.inl (hreading k n hk)
    · exact Or.inl ⟨n, Nat.le_refl n, hk⟩

theorem fetched_of_acts (hm : Faithful X.messages) {trace : List (Mesh × Event)} (h : Fetched X S (answered trace))
    {p : Nat} {a : Act} {process : Process} {out : Option (Nat × Written)}
    (hacts : (S.processes p).Acts X.messages (X.ids p) S.inbox a process out) :
    Fetched X ((S.setProcess p process).write out) (answered (trace ++ [(S, .process p a)])) := by
  rw [answered_snoc]
  have hprocesses := (S.setProcess p process).processes_write out
  have hothers : ∀ p', p' ≠ p → ((S.setProcess p process).write out).processes p' = S.processes p' := by
    intro p' hp'
    rw [hprocesses, Mesh.processes_setProcess, if_neg hp']
  have hself : ((S.setProcess p process).write out).processes p = process := by
    rw [hprocesses, Mesh.processes_setProcess, if_pos rfl]
  have hthreads : ((S.setProcess p process).write out).gateway.threads = S.gateway.threads := by
    rw [Mesh.gateway_write]
    rfl
  cases hacts with
  | register hstage stage hafter =>
      rw [Option.toList_none, List.append_nil]
      refine h.of_same_queue rfl fun k n hk => ⟨0, Nat.zero_le n, ?_⟩
      rw [hstage]
      cases stage with
      | registering k' read' =>
          cases hk
          rw [hafter _ _ (Or.inl rfl)]
          rfl
      | connected k' read' =>
          cases hk
          rw [hafter _ _ (Or.inr rfl)]
          rfl
      | _ => cases hk
  | @read k n i data hstage hmessage hfits =>
      rw [Option.toList_none, List.append_nil]
      have hreading : (S.processes p).stage.reading = some (k, n) := by rw [hstage]; rfl
      by_cases hdispatched : dispatched (handleFrame X.messages (S.processes p).rpc ∅ (data.frame X.messages)).action = true
      · refine h.after_read (Mesh.sent_write ..) hthreads hothers hreading ?_ hmessage (passes_of_dispatched hm hdispatched) ?_
        · rw [hself]
          rfl
        · rw [Mesh.upcoming, hself, Process.received, if_pos hdispatched, List.map_append]
          rfl
      · refine h.of_same_queue (if_neg hdispatched) fun k' n' hk' => ?_
        cases hk'
        exact ⟨n, Nat.le_succ n, hreading⟩
  | @answer action i queue hqueue resp =>
      have hhead : (S.processes p).queue.head?.map Prod.snd = some i := by
        rw [hqueue]
        rfl
      dsimp only
      rw [hhead]
      refine h.after_answer (Mesh.sent_write ..) hthreads hothers (by rw [hself]) ?_
      rw [Mesh.upcoming, Mesh.upcoming, hself, hqueue]
      rfl
  | disconnect stage hafter =>
      rw [Option.toList_none, List.append_nil]
      refine h.of_same_queue rfl fun k n hk => ?_
      rcases hafter with rfl | rfl <;> cases hk
  | clearPending =>
      rw [Option.toList_none, List.append_nil]
      refine h.of_same_queue rfl fun k n hk => ?_
      cases hk
  | _ =>
      rw [Option.toList_none, List.append_nil]
      exact h.of_same_queue rfl fun k n hk => ⟨n, Nat.le_refl n, hk⟩

theorem Step.fetched (hm : Faithful X.messages) {trace : List (Mesh × Event)} (h : Fetched X S (answered trace))
    {e : Event} (hstep : Step X S e S') : Fetched X S' (answered (trace ++ [(S, e)])) := by
  cases hstep with
  | gateway hsilent hstep =>
      rw [answered_snoc, Option.toList_none, List.append_nil]
      exact h.mono (posts_of_step hstep) hstep.length_le (fun _ => rfl) fun p k n hk => Or.inl ⟨n, Nat.le_refl n, hk⟩
  | take hframe hfits hstep =>
      rw [answered_snoc, Option.toList_none, List.append_nil]
      exact h.mono (posts_of_step hstep) hstep.length_le (fun _ => rfl) fun p k n hk => Or.inl ⟨n, Nat.le_refl n, hk⟩
  | @connect conn pool k hk hstage hconn hstep =>
      rw [answered_snoc, Option.toList_none, List.append_nil]
      have hlength : pool.threads.length = S.gateway.threads.length + 1 := by
        cases hstep with
        | opens _ => rw [List.length_append, List.length_singleton]
      refine h.mono (posts_of_step hstep) hstep.length_le (fun p => ?_) fun p k' n hk' => ?_
      · rw [Mesh.upcoming, Mesh.processes_setProcess]
        split_ifs with hp
        · rw [hp]
          rfl
        · rfl
      · rw [Mesh.processes_setProcess] at hk'
        split_ifs at hk' with hp
        · cases hk'
          refine Or.inr ⟨hk, ?_, hp.symm⟩
          show k < pool.threads.length
          omega
        · exact Or.inl ⟨n, Nat.le_refl n, hk'⟩
  | process hact => exact fetched_of_acts hm h (Process.acts_of_act hact)

/-! ### The frame of a request is written once -/

structure Unrepeated (X : Setting) (S : Mesh) : Prop where
  unused : S.Unused
  settled : ∀ x frame c, S.frameAt x = some (frame, .request c) → (S.processes (X.owner x.1)).settled c
  unique : ∀ x y frame frame' c, S.frameAt x = some (frame, .request c) → S.frameAt y = some (frame', .request c) →
    X.owner x.1 = X.owner y.1 → x = y

theorem Mesh.place_of_write (S : Mesh) {out : Option (Nat × Written)} {x : Place} {written : Written}
    (h : (S.write out).frameAt x = some written) :
    S.frameAt x = some written ∨ out = some (x.1, written) ∧ x.2 = (S.links x.1).sent.length := by
  rw [frameAt, (S.links_write out x.1).2.2] at h
  rcases Nat.lt_or_ge x.2 (S.links x.1).sent.length with hlt | hge
  · rw [List.getElem?_append_left hlt] at h
    exact Or.inl h
  · rw [List.getElem?_append_right hge] at h
    have hlength : ((out.toList.filter fun o => decide (o.1 = x.1)).map Prod.snd).length ≤ 1 := by
      rw [List.length_map]
      exact (List.length_filter_le ..).trans (by cases out <;> simp)
    obtain ⟨o, ho, rfl⟩ := List.mem_map.1 (List.mem_of_getElem? h)
    obtain ⟨hout, hlink⟩ := List.mem_filter.1 ho
    have hlt := (List.getElem?_eq_some_iff.1 h).1
    rw [Option.mem_toList.1 hout, ← of_decide_eq_true hlink]
    exact Or.inr ⟨rfl, by rw [of_decide_eq_true hlink]; omega⟩

namespace Unrepeated

theorem of_same (h : Unrepeated X S) (hunused : S'.Unused)
    (hframe : ∀ x frame purpose, S'.frameAt x = some (frame, purpose) →
      S.frameAt x = some (frame, purpose) ∨ purpose = .registration)
    (hsettled : ∀ p c, (S.processes p).settled c → (S'.processes p).settled c) : Unrepeated X S' := by
  have hold : ∀ x frame c, S'.frameAt x = some (frame, .request c) → S.frameAt x = some (frame, .request c) := by
    intro x frame c hx
    exact (hframe x frame _ hx).resolve_right nofun
  refine ⟨hunused, fun x frame c hx => ?_, fun x y frame frame' c hx hy howner => ?_⟩
  · exact hsettled _ c (h.settled x frame c (hold x frame c hx))
  · exact h.unique x y frame frame' c (hold x frame c hx) (hold y frame' c hy) howner

theorem after_act {done : List Nat} (h : Unrepeated X S) (hf : Fetched X S done) {p : Nat} {a : Act} {process : Process}
    {out : Option (Nat × Written)}
    (hacts : (S.processes p).Acts X.messages (X.ids p) S.inbox a process out) :
    Unrepeated X ((S.setProcess p process).write out) := by
  -- The connection is open, and is one of this process.
  have hconnection : ∀ k written, out = some (k, written) → k < S.gateway.threads.length ∧ X.owner k = p := by
    intro k written hout
    obtain ⟨read, hstage⟩ := Process.gatewayTx_eq_some (hacts.connection hout)
    obtain ⟨hlt, howner, -⟩ := hf.reading p k read (by rw [hstage]; rfl)
    exact ⟨hlt, howner⟩
  have hframe : ∀ x written, ((S.setProcess p process).write out).frameAt x = some written →
      S.frameAt x = some written ∨ out = some (x.1, written) ∧ x.2 = (S.links x.1).sent.length :=
    fun x written hx => (S.setProcess p process).place_of_write hx
  have hsettled : ∀ p' c, (S.processes p').settled c →
      (((S.setProcess p process).write out).processes p').settled c := by
    intro p' c hc
    rw [Mesh.processes_write, Mesh.processes_setProcess]
    split_ifs with hp
    · rw [hp] at hc
      exact hacts.settled hc
    · exact hc
  refine ⟨fun k hk => ?_, fun x frame c hx => ?_, fun x y frame frame' c hx hy howner => ?_⟩
  · rw [Mesh.gateway_write] at hk
    rw [((S.setProcess p process).links_write out k).2.2, List.append_eq_nil_iff]
    refine ⟨h.unused k hk, ?_⟩
    rw [List.map_eq_nil_iff, List.filter_eq_nil_iff]
    intro o ho
    have hlt := (hconnection o.1 o.2 (Option.mem_toList.1 ho)).1
    have hne : o.1 ≠ k := Nat.ne_of_lt (hlt.trans_le hk)
    simp [hne]
  · rcases hframe x _ hx with hold | ⟨hout, -⟩
    · exact hsettled _ c (h.settled x frame c hold)
    · rw [Mesh.processes_write, Mesh.processes_setProcess, if_pos (hconnection _ _ hout).2]
      exact (hacts.request hout).2
  · have hfresh : ∀ (z w : Place) frame frame', out = some (z.1, frame, .request c) → S.frameAt w = some (frame', .request c) →
        X.owner z.1 = X.owner w.1 → False := by
      intro z w frame frame' hout hw howner
      have hc := h.settled w frame' c hw
      rw [← howner, (hconnection _ _ hout).2] at hc
      exact (hacts.request hout).1 hc
    rcases hframe x _ hx with hold | ⟨hout, hlast⟩
    · rcases hframe y _ hy with hold' | ⟨hout', -⟩
      · exact h.unique x y frame frame' c hold hold' howner
      · exact (hfresh y x frame' frame hout' hold howner.symm).elim
    · rcases hframe y _ hy with hold' | ⟨hout', hlast'⟩
      · exact (hfresh x y frame frame' hout hold' howner).elim
      · have hlink : x.1 = y.1 := by
          have heq := hout.symm.trans hout'
          simp only [Option.some.injEq, Prod.mk.injEq] at heq
          exact heq.1
        exact Prod.ext hlink (by rw [hlast, hlast', hlink])

end Unrepeated

theorem Step.unrepeated {done : List Nat} (h : Unrepeated X S) (hf : Fetched X S done) {e : Event}
    (hstep : Step X S e S') : Unrepeated X S' := by
  cases hstep with
  | @gateway e pool hsilent hstep =>
      refine h.of_same (fun k hk => ?_) (fun x frame purpose hx => ?_) fun p c hc => hc
      · exact (S.links_idled e k).1.trans (h.unused k (hstep.length_le.trans hk))
      · rw [Mesh.frameAt_advance] at hx
        exact Or.inl hx
  | @take k frame purpose pool hframe hfits hstep =>
      refine h.of_same (fun k' hk' => ?_) (fun x frame' purpose' hx => ?_) fun p c hc => hc
      · have hunused := h.unused k' (hstep.length_le.trans hk')
        rw [Mesh.links_setLink]
        split_ifs with hk
        · rw [← hk, hunused]
        · exact hunused
      · rw [Mesh.frameAt_take] at hx
        exact Or.inl hx
  | @connect conn pool k hk hstage hconn hstep =>
      have hlength : pool.threads.length = S.gateway.threads.length + 1 := by
        cases hstep with
        | opens _ => rw [List.length_append, List.length_singleton]
      refine h.of_same (fun k' hk' => ?_) (fun x frame purpose hx => ?_) fun p c hc => ?_
      · have hlater : S.gateway.threads.length + 1 ≤ k' := hlength ▸ hk'
        rw [Mesh.links_setProcess, Mesh.links_setLink, if_neg (by omega)]
        exact h.unused k' (by omega)
      · rw [Mesh.frameAt, Mesh.links_setProcess, Mesh.links_setLink] at hx
        split_ifs at hx
        · have hmem := List.mem_singleton.1 (List.mem_of_getElem? hx)
          exact Or.inr (congrArg Prod.snd hmem)
        · exact Or.inl hx
      · rw [Mesh.processes_setProcess]
        split_ifs with hp
        · rw [hp] at hc
          exact hc
        · exact hc
  | process hact => exact h.after_act hf (Process.acts_of_act hact)

/-! ### Runs -/

/-- The request of process `p` behind a message. -/
def Mesh.requestBehind (X : Setting) (S : Mesh) (p i : Nat) : Option Nat :=
  (S.causes[i]?.join).bind fun x =>
    (S.frameAt x).bind fun written =>
      match written.2 with
      | .request c => if X.owner x.1 = p then some c else none
      | _ => none

/-- What the dispatchers have handled, in the order in which they did: frames that servers have written, with the
payloads that they have given them, no frame twice, those from one connection to another in the order in which they
were written there, and no request of a server twice. -/
structure HandledOnce (X : Setting) (S : Mesh) (handled : List Nat) : Prop where
  written : ∀ i ∈ handled, ∃ k message x written, S.sent[i]? = some (k, message) ∧
    S.causes[i]? = some (some x) ∧ S.frameAt x = some written ∧ message.Forwards X.messages written.1
  distinct : handled.Pairwise fun i i' => S.causes[i]? ≠ S.causes[i']?
  ordered : handled.Pairwise fun i i' => ∀ k message message' x y, S.sent[i]? = some (k, message) →
    S.sent[i']? = some (k, message') → S.causes[i]? = some (some x) → S.causes[i']? = some (some y) →
      x.1 = y.1 → x.2 < y.2
  requests : ∀ p, (handled.filterMap (S.requestBehind X p)).Nodup

theorem handledOnce_of_fetched {done : List Nat} (hs : Sequenced X.messages S) (hf : Fetched X S done) (hu : Unrepeated X S) :
    HandledOnce X S done := by
  have hbrought : ∀ i ∈ done, ∃ k message x written, S.sent[i]? = some (k, message) ∧ S.passed[i]? = some (some x) ∧
      S.causes[i]? = some (some x) ∧ S.frameAt x = some written ∧ message.Forwards X.messages written.1 := by
    intro i hi
    obtain ⟨k, message, hmessage, hpasses, -⟩ := hf.brought 0 i (List.mem_append_left _ hi)
    obtain ⟨x, written, hpassed, hcause, hframe, hforwards⟩ := hs.some_of_passes hmessage hpasses
    exact ⟨k, message, x, written, hmessage, hpassed, hcause, hframe, hforwards⟩
  have hprecedes : done.Pairwise S.Precedes := (List.pairwise_append.1 (hf.ordered 0)).1
  -- An earlier message has an earlier frame of the link.
  have hlater : ∀ (i i' : Nat) (x y : Place), i < i' → S.passed[i]? = some (some x) → S.passed[i']? = some (some y) → x.1 = y.1 →
      x.2 < y.2 := by
    intro i i' x y hlt hx hy
    obtain ⟨hi, hx⟩ := List.getElem?_eq_some_iff.1 hx
    obtain ⟨hi', hy⟩ := List.getElem?_eq_some_iff.1 hy
    exact List.pairwise_iff_getElem.1 hs.ordered i i' hi hi' hlt x hx y hy
  have hdistinct : done.Pairwise fun i i' => S.causes[i]? ≠ S.causes[i']? := by
    refine hprecedes.imp_of_mem fun {i i'} hi hi' hbefore heq => ?_
    obtain ⟨k, message, x, -, hk, hx, hcause, -⟩ := hbrought i hi
    obtain ⟨k', message', y, -, hk', hy, hcause', -⟩ := hbrought i' hi'
    have hxy : x = y := by
      rw [hcause, hcause'] at heq
      exact Option.some.inj (Option.some.inj heq)
    rcases Nat.lt_trichotomy i i' with hlt | heq' | hgt
    · exact absurd (hlater i i' x y hlt hx hy (congrArg Prod.fst hxy)) (by rw [hxy]; exact Nat.lt_irrefl _)
    · rw [← heq'] at hk'
      exact absurd (hbefore k message message hk (heq' ▸ hk)) (heq' ▸ Nat.lt_irrefl _)
    · exact absurd (hlater i' i y x hgt hy hx (congrArg Prod.fst hxy.symm)) (by rw [hxy]; exact Nat.lt_irrefl _)
  refine ⟨fun i hi => ?_, hdistinct, ?_, fun p => ?_⟩
  · obtain ⟨k, message, x, written, hk, -, hcause, hframe⟩ := hbrought i hi
    exact ⟨k, message, x, written, hk, hcause, hframe⟩
  · refine hprecedes.imp_of_mem fun {i i'} hi hi' hbefore k message message' x y hk hk' hx hy hlink => ?_
    obtain ⟨-, -, x', -, -, hpassed, hcause, -⟩ := hbrought i hi
    obtain ⟨-, -, y', -, -, hpassed', hcause', -⟩ := hbrought i' hi'
    obtain rfl := Option.some.inj (Option.some.inj (hx.symm.trans hcause))
    obtain rfl := Option.some.inj (Option.some.inj (hy.symm.trans hcause'))
    exact hlater i i' x y (hbefore k message message' hk hk') hpassed hpassed' hlink
  · refine hdistinct.filterMap _ fun i i' hne c hc c' hc' heq => ?_
    subst heq
    have hbehind : ∀ j, S.requestBehind X p j = some c → ∃ x frame, S.causes[j]? = some (some x) ∧
        S.frameAt x = some (frame, .request c) ∧ X.owner x.1 = p := by
      intro j hj
      obtain ⟨x, hx, hj⟩ := Option.bind_eq_some_iff.1 hj
      obtain ⟨⟨frame, purpose⟩, hframe, hj⟩ := Option.bind_eq_some_iff.1 hj
      cases purpose with
      | request c' =>
          obtain ⟨howner, hc⟩ := Option.ite_none_right_eq_some.1 hj
          cases hc
          exact ⟨x, frame, Option.join_eq_some_iff.1 hx, hframe, howner⟩
      | _ => cases hj
    obtain ⟨x, frame, hx, hframe, howner⟩ := hbehind i hc
    obtain ⟨y, frame', hy, hframe', howner'⟩ := hbehind i' hc'
    refine hne ?_
    rw [hx, hy, hu.unique x y frame frame' c hframe hframe' (howner.trans howner'.symm)]

/-- What every step keeps. -/
def Kept (X : Setting) (trace : List (Mesh × Event)) (S : Mesh) : Prop :=
  Sequenced X.messages S ∧ Conducted X.messages S ∧ Fetched X S (answered trace) ∧ Unrepeated X S

/-- The first backend asks twice, and the second has both requests in its queue before it replies. -/
def Sample.twice : List Slot :=
  joined ++ asks 0 ⟨2, 7⟩ ++
    [.process 0 (.call ⟨2, 7⟩ (.other 160 [])), .process 0 (.insertPending 1), .process 0 (.send 1)] ++
    [.take 0] ++ calls 0 2 ++ [.take 0] ++ calls 0 2 ++ [.process 1 .read, .process 1 .read,
      .process 1 (.answer (.other 161 [])), .process 1 (.answer (.other 161 []))]

end AxmolFighter.Exchange
