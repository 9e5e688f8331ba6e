import AxmolFighter.Gateway.Servers

/-!
# What a backend knows of the others

A registered backend goes by the list in the answer to its registration and by the pushes after it. The list,
the entry in the registry and the pushes come from different tasks. What a backend will know when all that is
on its way has arrived is its `outlook`, and `Informed` says that it is what the registry holds, up to the
pushes that are still to come; each step of a connection keeps that, if its push comes at its time.
-/

namespace AxmolFighter

/-- What a backend knows of the others after the news. -/
def ServerNews.learn : Option (List ServiceEndpoint) → ServerNews → Option (List ServiceEndpoint)
  | _, .listed servers => some servers
  | known, .online server => known.map (server :: ·)
  | known, .offline server => known.map (·.filter (· ≠ server))

namespace Gateway

open Pool

def WriterMessage.serverNews : WriterMessage → Option ServerNews
  | toBackend data => data.serverNews
  | _ => none

/-- What the backend on the channel `b` knows of the others; nothing before its registration is answered. -/
def Shared.known (s : Shared) (b : Tx) : Option (List ServiceEndpoint) :=
  (s.channels.heard WriterMessage.serverNews b).foldl ServerNews.learn none

/-! ### What the calls tell -/

theorem Op.serverNews_of_plain {op : Op} (h : op.plain = true) {message : WriterMessage}
    (hmessage : op.message = some message) : message.serverNews = none := by
  cases op with
  | sendToClient | kick => rw [← Option.some.inj hmessage]; rfl
  | broadcast data | broadcastExcept _ data =>
      rw [← Option.some.inj hmessage]
      exact Option.isNone_iff_eq_none.1 h
  | send tx message' =>
      rw [← Option.some.inj hmessage]
      cases message' with
      | toBackend data => exact Option.isNone_iff_eq_none.1 h
      | toClient | close => rfl
  | _ => cases hmessage

theorem Channels.heard_posts {α : Type} {f : WriterMessage → Option α} {c c' : Channels}
    {posted : List (Tx × WriterMessage)} (hsent : c'.sent = c.sent ++ posted)
    (hposted : ∀ e ∈ posted, f e.2 = none) (b : Tx) : c'.heard f b = c.heard f b := by
  rw [heard, hsent, List.filterMap_append, ← heard]
  have hnone : (posted.filterMap fun e => if e.1 = b then f e.2 else none) = [] := by
    rw [List.filterMap_eq_nil_iff]
    intro e he
    rw [hposted e he, ite_self]
  rw [hnone, List.append_nil]

namespace Shared

variable {s s' : Shared} {op : Op} {answer : op.Answer}

theorem Does.closed (h : s.Does op answer s') : s'.channels.closed = s.channels.closed := by
  obtain ⟨t, hsame, hexec⟩ := h
  have hclosed : (t.exec op).2.channels.closed = t.channels.closed := by
    cases op with
    | sendToClient sessionId data =>
        simp only [exec, SessionManager.sendToClient]
        split
        · exact Channels.send_closed ..
        · rfl
    | kick sessionId =>
        simp only [exec, SessionManager.kick]
        split
        · exact Channels.send_closed ..
        · rfl
    | broadcast | broadcastExcept => exact Channels.sendAll_closed ..
    | send => exact Channels.send_closed ..
    | _ => rfl
  rw [← hsame.channels, ← hclosed, hexec]

theorem Does.known_silent (h : s.Does op answer s')
    (hop : ∀ message, op.message = some message → message.serverNews = none) (b : Tx) :
    s'.known b = s.known b := by
  obtain ⟨posted, hsent, hposted⟩ := h.posts
  rw [known, Channels.heard_posts hsent fun e he => hop _ (hposted e he), known]

theorem Does.known_plain (h : s.Does op answer s') (hop : op.plain = true) (b : Tx) : s'.known b = s.known b :=
  h.known_silent (fun _ => Op.serverNews_of_plain hop) b

theorem Does.known_send {tx : Tx} {message : WriterMessage} {sent : Bool}
    (h : s.Does (.send tx message) sent s') (b : Tx) : s'.known b =
      (if tx = b ∧ b ∉ s.channels.closed then message.serverNews.toList else []).foldl ServerNews.learn
        (s.known b) := by
  have hheard := s.channels.heard_send WriterMessage.serverNews b tx message
  rw [h.send] at hheard
  rw [known, hheard, List.foldl_append, known]

/-- A broadcast reaches the other registered backends whose channels have their receivers. -/
theorem Does.known_broadcastExcept {x : UInt32} {data : ToBackend} (h : s.Does (.broadcastExcept x data) () s')
    (hid : ∀ y identity, s.backend y = some identity → identity.sessionId = y) (hdistinct : s.DistinctChannels)
    {y : UInt32} {identity : Identity} (hy : s.backend y = some identity)
    (hopen : identity.tx ∉ s.channels.closed) : s'.known identity.tx = if y = x then s.known identity.tx
      else data.serverNews.toList.foldl ServerNews.learn (s.known identity.tx) := by
  obtain ⟨t, hsame, hexec⟩ := h
  obtain rfl : (t.exec (.broadcastExcept x data)).2 = s' := congrArg Prod.snd hexec
  have hget : ∀ z conn, t.registry.conns.get z = some conn → s.backend z = some conn.identity := by
    intro z conn hconn
    rw [← hsame.backend, Shared.backend, hconn]
    rfl
  have hnodup : (t.registry.txsExcept x).Nodup := by
    have hall : t.registry.txs.Nodup := Table.nodup_map_values _ fun z conn w conn' hz hw htx =>
      hdistinct z w _ _ (hget z conn hz) (hget w conn' hw) htx
    exact hall.sublist (List.filter_sublist.map _)
  have hmem : identity.tx ∈ t.registry.txsExcept x ↔ y ≠ x := by
    rw [ServerRegistry.txsExcept, List.mem_map]
    constructor
    · rintro ⟨conn, hconn, htx⟩
      rw [List.mem_filter, Table.mem_values] at hconn
      obtain ⟨⟨z, hz⟩, hne⟩ := hconn
      have hsession : conn.sessionId = z := hid z _ (hget z conn hz)
      rw [hdistinct y z _ _ hy (hget z conn hz) htx.symm, ← hsession]
      simpa using hne
    · intro hne
      have hsession := hid y identity hy
      rw [← hsame.backend, Shared.backend, Option.map_eq_some_iff] at hy
      obtain ⟨conn, hconn, rfl⟩ := hy
      have hconnId : conn.sessionId = y := hsession
      refine ⟨conn, List.mem_filter.2 ⟨(Table.mem_values ..).2 ⟨y, hconn⟩, ?_⟩, rfl⟩
      simpa [hconnId] using hne
  have hheard := Channels.heard_sendAll WriterMessage.serverNews t.channels identity.tx hnodup (.toBackend data)
  have hknown : ((t.exec (.broadcastExcept x data)).2).known identity.tx = _ :=
    (congrArg (List.foldl ServerNews.learn none) hheard).trans List.foldl_append
  rw [hknown, hsame.channels]
  by_cases hyx : y = x
  · rw [if_pos hyx, if_neg fun h => hmem.1 h.1 hyx]
    rfl
  · rw [if_neg hyx, if_pos ⟨hmem.2 hyx, hopen⟩]
    rfl

theorem Does.listAllExcept {x : UInt32} {servers : List (UInt8 × UInt32)}
    (h : s.Does (.listAllExcept x) servers s')
    (hid : ∀ y identity, s.backend y = some identity → identity.sessionId = y) (server : UInt8 × UInt32) :
    server ∈ servers ↔ ∃ y identity, y ≠ x ∧ s.backend y = some identity ∧ identity.server = server := by
  obtain ⟨t, hsame, hexec⟩ := h
  obtain rfl : t.registry.listAllExcept x = servers := congrArg Prod.fst hexec
  rw [← hsame.backend] at hid ⊢
  rw [ServerRegistry.listAllExcept, List.mem_map]
  constructor
  · rintro ⟨conn, hconn, rfl⟩
    rw [List.mem_filter, Table.mem_values] at hconn
    obtain ⟨⟨y, hy⟩, hne⟩ := hconn
    have hbackend : t.backend y = some conn.identity := by rw [Shared.backend, hy]; rfl
    have hsession : conn.sessionId = y := hid y _ hbackend
    refine ⟨y, _, ?_, hbackend, rfl⟩
    rw [← hsession]
    simpa using hne
  · rintro ⟨y, identity, hne, hy, rfl⟩
    have hsession := hid y identity hy
    rw [Shared.backend, Option.map_eq_some_iff] at hy
    obtain ⟨conn, hconn, rfl⟩ := hy
    have hconnId : conn.sessionId = y := hsession
    refine ⟨conn, List.mem_filter.2 ⟨(Table.mem_values ..).2 ⟨y, hconn⟩, ?_⟩, rfl⟩
    simpa [hconnId] using hne

end Shared

/-! ### What is still to come -/

/-- The answer that makes a backend one of the registered. -/
def Op.accepts : Op → Bool
  | .send _ (.toBackend (.control (.serverRegResp code _) _ _)) => code = serverRegOk
  | _ => false

def Op.announces : Op → Bool
  | .broadcastExcept _ (.control (.serverOnlinePush ..) _ _) => true
  | _ => false

theorem Op.not_plain_of_accepts {op : Op} (h : op.accepts = true) : op.plain = false := by
  cases op with
  | send tx message =>
      cases message with
      | toBackend data =>
          cases data with
          | control message =>
              cases message with
              | serverRegResp code servers =>
                  obtain rfl : code = serverRegOk := by simpa [accepts] using h
                  rfl
              | _ => cases h
          | business => cases h
      | _ => cases h
  | _ => cases h

theorem Op.not_plain_of_announces {op : Op} (h : op.announces = true) : op.plain = false := by
  cases op with
  | broadcastExcept x data =>
      cases data with
      | control message => cases message <;> first | rfl | cases h
      | business => cases h
  | _ => cases h

namespace ServerPhase

/-- The registration is accepted, and the answer not sent yet. -/
def awaits : ServerPhase → Bool
  | enrolled _ _ result | listed _ _ result _ => result.accepted
  | _ => false

/-- The list for that answer is not read yet either. -/
def unread : ServerPhase → Bool
  | enrolled _ _ result => result.accepted
  | _ => false

/-- The registration is new, and not announced yet. -/
def owes : ServerPhase → Bool
  | enrolled _ _ result | listed _ _ result _ => result = .registered
  | answered .. => true
  | _ => false

end ServerPhase

namespace Server

variable {q q' : Server} {α : Type} {p : GatewayM α}

theorem Moves.stays_free {op : Op} {answer : op.Answer} (h : Moves q op answer q')
    (hop : ∀ x svc i tx, op ≠ .register x svc i tx) :
    (q.phase.awaits = false → q'.phase.awaits = false) ∧ (q.phase.owes = false → q'.phase.owes = false) := by
  cases h with
  | plain _ _ => exact ⟨id, id⟩
  | register => exact absurd rfl (hop _ _ _ _)
  | list hphase => rw [hphase]; exact ⟨id, id⟩
  | @answer serviceId instanceId result _ _ _ _ hphase _ =>
      rw [hphase]
      show _ ∧ _
      cases result <;> exact ⟨fun _ => rfl, fun h => by simp [ServerPhase.owes] at h ⊢⟩
  | announce _ | leave _ => exact ⟨fun _ => rfl, fun _ => rfl⟩
  | @unregister removed _ _ => cases removed <;> exact ⟨fun _ => rfl, fun _ => rfl⟩

/-- Every call has an answer after which a connection that owes nothing still owes nothing. -/
theorem exists_refusal (op : Op) : ∃ answer : op.Answer, ∀ q q', Moves q op answer q' →
    (q.phase.awaits = false → q'.phase.awaits = false) ∧ (q.phase.owes = false → q'.phase.owes = false) := by
  by_cases hop : ∀ x svc i tx, op ≠ .register x svc i tx
  · obtain ⟨answer⟩ := op.answer_nonempty
    exact ⟨answer, fun q q' h => h.stays_free hop⟩
  · simp only [not_forall, not_not] at hop
    obtain ⟨x, svc, i, tx, rfl⟩ := hop
    refine ⟨.sessionAlreadyRegistered, fun q q' h => ?_⟩
    cases h with
    | plain h _ => cases h
    | register => exact ⟨fun _ => rfl, fun _ => rfl⟩

theorem not_comes_accepts {stops : Server → α → Prop} (hp : Obeys stops q p) (h : q.phase.awaits = false) :
    ¬ p.Comes fun op : Op => op.accepts = true := by
  refine Program.Follows.not_comes hp (fun q => q.phase.awaits = false) (fun q op hq hmoves => ⟨?_, ?_⟩) h
  · intro hop
    obtain ⟨answer⟩ := op.answer_nonempty
    obtain ⟨q', hmoves⟩ := hmoves answer
    cases hmoves with
    | plain h _ => exact nomatch h.symm.trans (Op.not_plain_of_accepts hop)
    | answer hphase hcode =>
        rw [hphase] at hq
        have hcode' := hcode.1 (by simpa [Op.accepts] using hop)
        exact nomatch hq.symm.trans hcode'
    | _ => cases hop
  · obtain ⟨answer, hanswer⟩ := exists_refusal op
    exact ⟨answer, fun q' hmoves => (hanswer q q' hmoves).1 hq⟩

theorem not_comes_announces {stops : Server → α → Prop} (hp : Obeys stops q p) (h : q.phase.owes = false) :
    ¬ p.Comes fun op : Op => op.announces = true := by
  refine Program.Follows.not_comes hp (fun q => q.phase.owes = false) (fun q op hq hmoves => ⟨?_, ?_⟩) h
  · intro hop
    obtain ⟨answer⟩ := op.answer_nonempty
    obtain ⟨q', hmoves⟩ := hmoves answer
    cases hmoves with
    | plain h _ => exact nomatch h.symm.trans (Op.not_plain_of_announces hop)
    | announce hphase =>
        rw [hphase] at hq
        cases hq
    | _ => cases hop
  · obtain ⟨answer, hanswer⟩ := exists_refusal op
    exact ⟨answer, fun q' hmoves => (hanswer q q' hmoves).2 hq⟩

/-- A connection that has read the list for its answer sends the answer next. -/
theorem answers_next {p : GatewayM Connection}
    (hp : Obeys Rests q p) {serviceId instanceId : UInt32}
    {result : RegisterResult} {servers : List ServiceEndpoint}
    (hphase : q.phase = .listed serviceId instanceId result servers) (haccepted : result.accepted = true) :
    ∃ serial next, p = .call (.send q.tx (.toBackend (.control (.serverRegResp serverRegOk servers) serial 0)))
      next := by
  cases p with
  | ret conn =>
      have hidle := hp.of_ret.phase
      exact nomatch hphase.symm.trans hidle
  | call op next =>
      obtain ⟨answer⟩ := op.answer_nonempty
      obtain ⟨q', hmoves, -⟩ := hp.step answer
      cases hmoves with
      | plain _ hpassive =>
          rw [hphase] at hpassive
          cases hpassive
      | answer hphase' hcode =>
          cases hphase.symm.trans hphase'
          rw [hcode.2 haccepted]
          exact ⟨_, _, rfl⟩
      | _ => rename_i h; exact nomatch hphase.symm.trans h

theorem leaving_of_next {x serviceId instanceId : UInt32} {serial : Int32}
    {sessionId : UInt32} {next : Unit → GatewayM Connection}
    (hp : Obeys Rests q (Program.call (S := signature)
      (.broadcastExcept x (.control (.serverOfflinePush serviceId instanceId) serial sessionId)) next)) :
    ∃ svc, q.phase = .leaving svc instanceId ∧ serviceId = svc.toUInt32 := by
  obtain ⟨q', hmoves, -⟩ := hp.step ()
  cases hmoves with
  | plain h _ => cases h
  | leave hphase => exact ⟨_, hphase, rfl⟩

/-! ### What a backend will know -/

/-- What a backend knows, or will know when the answer that is on its way arrives. -/
def outlook (q : Server) (s : Shared) : Option (List ServiceEndpoint) :=
  match q.phase with
  | .listed _ _ result servers => if result.accepted then some servers else s.known q.tx
  | _ => s.known q.tx

theorem outlook_congr {s s' : Shared} (h : s'.known q.tx = s.known q.tx) : q.outlook s' = q.outlook s := by
  simp only [outlook, h]

theorem exists_listed (hread : q.phase.unread = false) (hawaits : q.phase.awaits = true) :
    ∃ serviceId instanceId result servers,
      q.phase = .listed serviceId instanceId result servers ∧ result.accepted = true := by
  cases hphase : q.phase <;> rw [hphase] at hread hawaits
  · cases hawaits
  · exact nomatch hread.symm.trans hawaits
  · exact ⟨_, _, _, _, rfl, hawaits⟩
  all_goals cases hawaits

theorem outlook_listed {s : Shared} {serviceId instanceId : UInt32} {result : RegisterResult}
    {servers : List ServiceEndpoint} (h : q.phase = .listed serviceId instanceId result servers) :
    q.outlook s = if result.accepted then some servers else s.known q.tx := by
  rw [outlook, h]

theorem outlook_of_not_awaits {s : Shared} (h : q.phase.awaits = false) : q.outlook s = s.known q.tx := by
  rw [outlook]
  split
  · rename_i hphase
    rw [hphase] at h
    rw [if_neg (by rw [show RegisterResult.accepted _ = false from h]; exact Bool.false_ne_true)]
  · rfl

/-- The list agrees with the registry, up to the pushes that are still to come. -/
structure Agrees (s : Shared) (qs : List Server) (x : UInt32) (servers : List ServiceEndpoint) : Prop where
  told : ∀ y identity, y ≠ x → s.backend y = some identity → endpoint identity.server ∈ servers ∨
    ∃ q ∈ qs, q.sessionId = y ∧ q.phase.owes = true
  held : ∀ server ∈ servers,
    (∃ y identity, y ≠ x ∧ s.backend y = some identity ∧ endpoint identity.server = server) ∨
      ∃ q ∈ qs, ∃ svc i, q.phase = .leaving svc i ∧ endpoint (svc, i) = server

/-- What the phase says about the registration. -/
def Sound (q : Server) : Prop :=
  match q.phase with
  | .enrolled serviceId instanceId result | .listed serviceId instanceId result _ =>
      result.accepted = true →
        q.internal = true ∧ q.closed = false ∧ q.registered = some (serviceId.toUInt8, instanceId)
  | .answered serviceId instanceId =>
      q.internal = true ∧ q.closed = false ∧ q.registered = some (serviceId.toUInt8, instanceId)
  | .leaving .. => q.closed = true
  | _ => True

/-- Every registered backend whose channel has its receiver is informed. -/
structure Informed (s : Shared) (qs : List Server) : Prop where
  census : Census s qs
  sound : ∀ q ∈ qs, q.Sound
  view : ∀ (k : Nat) q identity, qs[k]? = some q → s.backend q.sessionId = some identity →
    k ∉ s.channels.closed → q.phase.unread = false →
      ∃ servers, q.outlook s = some servers ∧ Agrees s qs q.sessionId servers

theorem mem_set_or {k : Nat} {p : Server} {qs : List Server} (hk : qs[k]? = some q) (q' : Server)
    (hp : p ∈ qs) : p = q ∨ p ∈ qs.set k q' := by
  obtain ⟨j, hj⟩ := List.getElem?_of_mem hp
  by_cases hjk : j = k
  · rw [hjk, hk] at hj
    exact Or.inl (Option.some.inj hj).symm
  · exact Or.inr (List.mem_of_getElem? ((List.getElem?_set_ne (Ne.symm hjk)).trans hj))

theorem mem_set_self {k : Nat} {qs : List Server} (hk : qs[k]? = some q) (q' : Server) : q' ∈ qs.set k q' :=
  List.mem_of_getElem? (List.getElem?_set_self (List.getElem?_eq_some_iff.1 hk).1)

namespace Agrees

variable {s s' : Shared} {qs : List Server} {x : UInt32} {servers : List ServiceEndpoint} {k : Nat}

theorem update_connection (h : Agrees s qs x servers) (hk : qs[k]? = some q) (hid : q'.sessionId = q.sessionId)
    (howes : q.phase.owes = true → q.sessionId ≠ x → q'.phase.owes = true)
    (hleaves : ∀ svc i, q.phase = .leaving svc i → q'.phase = .leaving svc i)
    (hbackend : s'.backend = s.backend) : Agrees s' (qs.set k q') x servers := by
  constructor
  · intro y identity hne hy
    rw [hbackend] at hy
    rcases h.told y identity hne hy with hmem | ⟨p, hp, rfl, howing⟩
    · exact Or.inl hmem
    · rcases mem_set_or hk q' hp with rfl | hp
      · exact Or.inr ⟨q', mem_set_self hk q', hid, howes howing hne⟩
      · exact Or.inr ⟨p, hp, rfl, howing⟩
  · intro server hserver
    rw [hbackend]
    rcases h.held server hserver with hheld | ⟨p, hp, svc, i, hphase, heq⟩
    · exact Or.inl hheld
    · rcases mem_set_or hk q' hp with rfl | hp
      · exact Or.inr ⟨q', mem_set_self hk q', svc, i, hleaves svc i hphase, heq⟩
      · exact Or.inr ⟨p, hp, svc, i, hphase, heq⟩

theorem after_announcement (h : Agrees s qs x servers) (servers' : List ServiceEndpoint) (hbackend : s'.backend = s.backend)
    (hk : qs[k]? = some q) (hphase : ∀ svc i, q.phase ≠ .leaving svc i)
    {identity : Identity} (hx : q.sessionId ≠ x) (hq : s.backend q.sessionId = some identity)
    (hsub : servers ⊆ servers') (hmem : endpoint identity.server ∈ servers')
    (hnew : ∀ server ∈ servers', server ∈ servers ∨ server = endpoint identity.server) :
    Agrees s' (qs.set k { q with phase := .idle }) x servers' := by
  constructor
  · intro y other hne hy
    rw [hbackend] at hy
    by_cases hyq : y = q.sessionId
    · subst hyq
      rw [hq] at hy
      exact Or.inl (Option.some.inj hy ▸ hmem)
    · rcases h.told y other hne hy with hmem' | ⟨p, hp, rfl, howing⟩
      · exact Or.inl (hsub hmem')
      · rcases mem_set_or hk { q with phase := .idle } hp with rfl | hp
        · exact absurd rfl hyq
        · exact Or.inr ⟨p, hp, rfl, howing⟩
  · intro server hserver
    rw [hbackend]
    rcases hnew server hserver with hserver | rfl
    · rcases h.held server hserver with hheld | ⟨p, hp, svc, i, hleaves, heq⟩
      · exact Or.inl hheld
      · rcases mem_set_or hk { q with phase := .idle } hp with rfl | hp
        · exact absurd hleaves (hphase svc i)
        · exact Or.inr ⟨p, hp, svc, i, hleaves, heq⟩
    · exact Or.inl ⟨_, identity, hx, hq, rfl⟩

theorem after_departure (h : Agrees s qs x servers) (hk : qs[k]? = some q) {svc : UInt8} {i : UInt32}
    (hphase : q.phase = .leaving svc i) {servers' : List ServiceEndpoint}
    (hsame : ∀ server, server ≠ endpoint (svc, i) → (server ∈ servers' ↔ server ∈ servers))
    (hstays : endpoint (svc, i) ∈ servers' →
      (∃ y other, y ≠ x ∧ s.backend y = some other ∧ endpoint other.server = endpoint (svc, i)) ∨
        ∃ p ∈ qs.set k { q with phase := .idle }, ∃ svc' i', p.phase = .leaving svc' i' ∧
          endpoint (svc', i') = endpoint (svc, i))
    (hgoes : endpoint (svc, i) ∉ servers' → ∀ y other, y ≠ x → s.backend y = some other →
      endpoint other.server = endpoint (svc, i) → ∃ p ∈ qs, p.sessionId = y ∧ p.phase.owes = true)
    (hbackend : s'.backend = s.backend) : Agrees s' (qs.set k { q with phase := .idle }) x servers' := by
  have howes : ∀ y, (∃ p ∈ qs, p.sessionId = y ∧ p.phase.owes = true) →
      ∃ p ∈ qs.set k { q with phase := .idle }, p.sessionId = y ∧ p.phase.owes = true := by
    rintro y ⟨p, hp, hid, howing⟩
    rcases mem_set_or hk { q with phase := .idle } hp with rfl | hp
    · rw [hphase] at howing
      cases howing
    · exact ⟨p, hp, hid, howing⟩
  constructor
  · intro y other hne hy
    rw [hbackend] at hy
    by_cases hother : endpoint other.server = endpoint (svc, i)
    · by_cases hmem : endpoint (svc, i) ∈ servers'
      · exact Or.inl (hother ▸ hmem)
      · exact Or.inr (howes y (hgoes hmem y other hne hy hother))
    · rw [hsame _ hother]
      exact (h.told y other hne hy).imp_right (howes y)
  · intro server hserver
    rw [hbackend]
    by_cases hother : server = endpoint (svc, i)
    · subst hother
      exact hstays hserver
    · rcases h.held server ((hsame _ hother).1 hserver) with hheld | ⟨p, hp, svc', i', hleaves, heq⟩
      · exact Or.inl hheld
      · rcases mem_set_or hk { q with phase := .idle } hp with rfl | hp
        · obtain ⟨rfl, rfl⟩ := ServerPhase.leaving.inj (hphase.symm.trans hleaves)
          exact absurd heq.symm hother
        · exact Or.inr ⟨p, hp, svc', i', hleaves, heq⟩

end Agrees

namespace Informed

variable {s s' : Shared} {qs : List Server} {k : Nat}

theorem init (rules : List RouteRule) : Informed (.init rules) [] where
  census := .init rules
  sound := nofun
  view := nofun

theorem update_quiet_connection (h : Informed s qs) (hk : qs[k]? = some q) (hcensus : Census s' (qs.set k q')) (hsound : q'.Sound)
    (hid : q'.sessionId = q.sessionId) (howes : q.phase.owes = true → q'.phase.owes = true)
    (hleaves : ∀ svc i, q.phase = .leaving svc i → q'.phase = .leaving svc i) (hbackend : s'.backend = s.backend)
    (hclosed : s'.channels.closed = s.channels.closed) (hknown : ∀ b, b ≠ k → s'.known b = s.known b)
    (hview : ∀ identity, s.backend q.sessionId = some identity → k ∉ s.channels.closed → q'.phase.unread = false →
      ∃ servers, q'.outlook s' = some servers ∧ Agrees s qs q.sessionId servers) :
    Informed s' (qs.set k q') := by
  refine ⟨hcensus, fun p hp => ?_, fun j p identity hj hx hopen hread => ?_⟩
  · rcases List.mem_or_eq_of_mem_set hp with hp | rfl
    · exact h.sound p hp
    · exact hsound
  · rw [hbackend] at hx
    rw [hclosed] at hopen
    rw [Guide.get_set hk] at hj
    split_ifs at hj with hjk
    · obtain rfl := Option.some.inj hj
      rw [hid] at hx ⊢
      obtain ⟨servers, hservers, hagrees⟩ := hview identity hx (hjk ▸ hopen) hread
      exact ⟨servers, hservers, hagrees.update_connection hk hid (fun h _ => howes h) hleaves hbackend⟩
    · obtain ⟨servers, hservers, hagrees⟩ := h.view j p identity hj hx hopen hread
      refine ⟨servers, ?_, hagrees.update_connection hk hid (fun h _ => howes h) hleaves hbackend⟩
      rw [outlook_congr (hknown _ ?_), hservers]
      rw [(h.census.id j p hj).2]
      exact hjk

theorem after_register (h : Informed s qs) (hk : qs[k]? = some q) {serviceId instanceId : UInt32}
    {result : RegisterResult} (hinternal : q.internal = true) (hopen : q.closed = false) (hphase : q.phase = .idle)
    (hdoes : s.Does (.register q.sessionId serviceId.toUInt8 instanceId q.tx) result s') :
    Informed s' (qs.set k (q.afterRegister serviceId instanceId result)) := by
  have hcensus := h.census.after_register hk hinternal hopen hdoes
  have hsound : (q.afterRegister serviceId instanceId result).Sound := by
    intro haccepted
    exact ⟨hinternal, hopen, if_pos haccepted⟩
  have hknown := hdoes.known_silent nofun
  obtain ⟨hnone, hafter⟩ := hdoes.register
  by_cases hresult : result = .registered
  · subst hresult
    refine ⟨hcensus, fun p hp => ?_, fun j p identity hj hx hclosed hread => ?_⟩
    · rcases List.mem_or_eq_of_mem_set hp with hp | rfl
      · exact h.sound p hp
      · exact hsound
    · rw [hdoes.closed] at hclosed
      rw [Guide.get_set hk] at hj
      split_ifs at hj with hjk
      · rw [← Option.some.inj hj] at hread
        cases hread
      · have hne : p.sessionId ≠ q.sessionId := fun heq => hjk (h.census.index_eq hj hk heq)
        rw [hafter, if_neg fun h => hne h.2] at hx
        obtain ⟨servers, hservers, hagrees⟩ := h.view j p identity hj hx hclosed hread
        refine ⟨servers, by rw [outlook_congr (hknown _), hservers], fun y other hyne hy => ?_,
          fun server hserver => ?_⟩
        · by_cases hyq : y = q.sessionId
          · exact Or.inr ⟨_, mem_set_self hk _, hyq.symm, rfl⟩
          · rw [hafter, if_neg fun h => hyq h.2] at hy
            rcases hagrees.told y other hyne hy with hmem | ⟨r, hr, hid, howing⟩
            · exact Or.inl hmem
            · rcases mem_set_or hk (q.afterRegister serviceId instanceId .registered) hr with rfl | hr
              · exact absurd hid.symm hyq
              · exact Or.inr ⟨r, hr, hid, howing⟩
        · rcases hagrees.held server hserver with ⟨y, other, hyne, hy, heq⟩ | ⟨r, hr, svc, i, hleaves, heq⟩
          · refine Or.inl ⟨y, other, hyne, ?_, heq⟩
            rw [hafter, if_neg, hy]
            rintro ⟨-, rfl⟩
            rw [hnone rfl] at hy
            cases hy
          · rcases mem_set_or hk (q.afterRegister serviceId instanceId .registered) hr with rfl | hr
            · exact nomatch hphase.symm.trans hleaves
            · exact Or.inr ⟨r, hr, svc, i, hleaves, heq⟩
  · have hbackend : s'.backend = s.backend := by
      funext y
      rw [hafter, if_neg fun h => hresult h.1]
    refine h.update_quiet_connection hk hcensus hsound rfl ?_ ?_ hbackend hdoes.closed (fun b _ => hknown b) ?_
    · rw [hphase]
      exact nofun
    · rw [hphase]
      exact nofun
    · intro identity hx hclosed hread
      obtain ⟨servers, hservers, hagrees⟩ := h.view k q identity hk hx hclosed (by rw [hphase]; rfl)
      refine ⟨servers, ?_, hagrees⟩
      rw [outlook_of_not_awaits (by rw [hphase]; rfl)] at hservers
      have hawaits : (q.afterRegister serviceId instanceId result).phase.awaits = false := hread
      exact (outlook_of_not_awaits hawaits).trans ((hknown _).trans hservers)

theorem after_list (h : Informed s qs) (hk : qs[k]? = some q) {serviceId instanceId : UInt32}
    {result : RegisterResult} {servers : List (UInt8 × UInt32)}
    (hphase : q.phase = .enrolled serviceId instanceId result)
    (hdoes : s.Does (.listAllExcept q.sessionId) servers s') (hcensus : Census s' (qs.set k
      { q with phase := .listed serviceId instanceId result (servers.map endpoint) })) :
    Informed s' (qs.set k { q with phase := .listed serviceId instanceId result (servers.map endpoint) }) := by
  have hsound := h.sound q (List.mem_of_getElem? hk)
  rw [Sound, hphase] at hsound
  have hknown := hdoes.known_plain rfl
  refine h.update_quiet_connection hk hcensus hsound rfl ?_ ?_ (hdoes.backend rfl) hdoes.closed (fun b _ => hknown b) ?_
  · rw [hphase]
    exact id
  · rw [hphase]
    exact nofun
  · intro identity hx hclosed _
    cases haccepted : result.accepted with
    | true =>
        refine ⟨servers.map endpoint, by simp [outlook, haccepted], fun y other hne hy => Or.inl ?_,
          fun server hserver => Or.inl ?_⟩
        · exact List.mem_map_of_mem ((hdoes.listAllExcept h.census.sessionId _).2 ⟨y, other, hne, hy, rfl⟩)
        · obtain ⟨pair, hpair, rfl⟩ := List.mem_map.1 hserver
          obtain ⟨y, other, hne, hy, rfl⟩ := (hdoes.listAllExcept h.census.sessionId _).1 hpair
          exact ⟨y, other, hne, hy, rfl⟩
    | false =>
        have hawaits : q.phase.awaits = false := by rw [hphase]; exact haccepted
        obtain ⟨known, hservers, hagrees⟩ := h.view k q identity hk hx hclosed (by rw [hphase]; exact haccepted)
        refine ⟨known, ?_, hagrees⟩
        rw [outlook_of_not_awaits hawaits] at hservers
        rw [outlook_listed rfl, haccepted]
        exact (hknown _).trans hservers

theorem after_answer (h : Informed s qs) (hk : qs[k]? = some q) {serviceId instanceId : UInt32}
    {result : RegisterResult} {servers : List ServiceEndpoint} {code : UInt32} {serial : Int32} {sent : Bool}
    (hphase : q.phase = .listed serviceId instanceId result servers)
    (hcode : code = serverRegOk ↔ result.accepted = true)
    (hdoes : s.Does (.send q.tx (.toBackend (.control (.serverRegResp code servers) serial 0))) sent s')
    (hcensus : Census s' (qs.set k
      { q with phase := if result = .registered then .answered serviceId instanceId else .idle })) :
    Informed s' (qs.set k
      { q with phase := if result = .registered then .answered serviceId instanceId else .idle }) := by
  have htx := (h.census.id k q hk).2
  have hsound := h.sound q (List.mem_of_getElem? hk)
  rw [Sound, hphase] at hsound
  have hsend := hdoes.known_send
  refine h.update_quiet_connection hk hcensus ?_ rfl ?_ ?_ (hdoes.backend rfl) hdoes.closed (fun b hb => ?_) ?_
  · rw [Sound]
    by_cases hresult : result = .registered
    · rw [if_pos hresult]
      exact hsound (by rw [hresult]; rfl)
    · rw [if_neg hresult]
      trivial
  · rw [hphase]
    intro howes
    rw [if_pos (by simpa [ServerPhase.owes] using howes)]
    rfl
  · rw [hphase]
    exact nofun
  · rw [hsend, if_neg fun h => hb (h.1.symm.trans htx)]
    rfl
  · intro identity hx hclosed _
    obtain ⟨known, hservers, hagrees⟩ := h.view k q identity hk hx hclosed (by rw [hphase]; rfl)
    refine ⟨known, ?_, hagrees⟩
    have hawaits : (if result = .registered then ServerPhase.answered serviceId instanceId else .idle).awaits =
        false := by
      split_ifs <;> rfl
    have hafter := hsend q.tx
    rw [if_pos ⟨rfl, htx ▸ hclosed⟩] at hafter
    rw [outlook_of_not_awaits hawaits, hafter]
    rw [outlook_listed hphase] at hservers
    cases haccepted : result.accepted with
    | true =>
        rw [haccepted] at hservers
        rw [hcode.2 haccepted]
        exact hservers
    | false =>
        rw [haccepted] at hservers
        have hnews : (WriterMessage.toBackend (.control (.serverRegResp code servers) serial 0)).serverNews = none :=
          if_neg fun h => nomatch haccepted.symm.trans (hcode.1 h)
        rw [hnews]
        exact hservers

theorem update_others (h : Informed s qs) (hk : qs[k]? = some q) (hcensus : Census s' (qs.set k q')) (hsound : q'.Sound)
    (hbackend : ∀ y, y ≠ q.sessionId → s'.backend y = s.backend y)
    (hclosed : s'.channels.closed = s.channels.closed)
    (hown : ∀ identity, s'.backend q'.sessionId = some identity → k ∉ s.channels.closed → q'.phase.unread = false →
      ∃ servers, q'.outlook s' = some servers ∧ Agrees s' (qs.set k q') q'.sessionId servers)
    (hview : ∀ j p identity servers, j ≠ k → qs[j]? = some p → p.sessionId ≠ q.sessionId →
      s.backend p.sessionId = some identity → identity.tx = p.tx → p.tx ∉ s.channels.closed →
      p.phase.unread = false → p.outlook s = some servers → Agrees s qs p.sessionId servers →
      ∃ servers', p.outlook s' = some servers' ∧ Agrees s' (qs.set k q') p.sessionId servers') :
    Informed s' (qs.set k q') := by
  refine ⟨hcensus, fun p hp => ?_, fun j p identity hj hx hopen hread => ?_⟩
  · rcases List.mem_or_eq_of_mem_set hp with hp | rfl
    · exact h.sound p hp
    · exact hsound
  · rw [hclosed] at hopen
    rw [Guide.get_set hk] at hj
    split_ifs at hj with hjk
    · obtain rfl := Option.some.inj hj
      exact hown identity hx (hjk ▸ hopen) hread
    · have hne : p.sessionId ≠ q.sessionId := fun heq => hjk (h.census.index_eq hj hk heq)
      rw [hbackend _ hne] at hx
      have htx := (h.census.id j p hj).2
      obtain ⟨j', p', hj', -, -, hid, -, htx', -⟩ := h.census.backend _ identity hx
      obtain rfl : j' = j := h.census.index_eq hj' hj hid
      obtain ⟨servers, hservers, hagrees⟩ := h.view j' p identity hj hx hopen hread
      exact hview j' p identity servers hjk hj hne hx (htx'.trans htx.symm) (htx.symm ▸ hopen) hread hservers hagrees

theorem after_announcement (h : Informed s qs) (hk : qs[k]? = some q) {serviceId instanceId : UInt32}
    (hphase : q.phase = .answered serviceId instanceId)
    (hdoes : s.Does (.broadcastExcept q.sessionId (.control (.serverOnlinePush serviceId instanceId) 0 0)) () s')
    (hcensus : Census s' (qs.set k { q with phase := .idle }))
    (hlisted : ∀ j p identity a b result servers, j ≠ k → qs[j]? = some p →
      s.backend p.sessionId = some identity → p.tx ∉ s.channels.closed → p.phase = .listed a b result servers →
        result.accepted = true → endpoint (serviceId.toUInt8, instanceId) ∈ servers)
    (hsmall : ∀ j p identity, j ≠ k → qs[j]? = some p → s.backend p.sessionId = some identity →
      p.tx ∉ s.channels.closed → p.phase.awaits = false → serviceId.toNat < 256) :
    Informed s' (qs.set k { q with phase := .idle }) := by
  have hbackend : s'.backend = s.backend := hdoes.backend rfl
  obtain ⟨hinternal, hopen, hregistered⟩ : q.internal = true ∧ q.closed = false ∧
      q.registered = some (serviceId.toUInt8, instanceId) := by
    have hsound := h.sound q (List.mem_of_getElem? hk)
    rwa [Sound, hphase] at hsound
  obtain ⟨own, hq, hserver⟩ := h.census.registered q (List.mem_of_getElem? hk) hinternal hopen _ hregistered
  have hknown {y : UInt32} {identity : Identity} (hy : s.backend y = some identity) hopen :=
    hdoes.known_broadcastExcept h.census.sessionId h.census.distinctChannels hy hopen
  refine h.update_others hk hcensus trivial (fun y _ => congrFun hbackend y) hdoes.closed ?_ ?_
  · intro identity hx hclosed _
    rw [hbackend] at hx
    obtain ⟨servers, hservers, hagrees⟩ := h.view k q identity hk hx hclosed (by rw [hphase]; rfl)
    refine ⟨servers, ?_, ?_⟩
    · rw [outlook_of_not_awaits (by rw [hphase]; rfl)] at hservers
      have htx : identity.tx = q.tx := by
        obtain ⟨j, p, hj, -, -, hid, -, htx, -⟩ := h.census.backend _ identity hx
        rw [htx, h.census.index_eq hj hk hid, (h.census.id k q hk).2]
      have hafter := hknown hx (by rw [htx, (h.census.id k q hk).2]; exact hclosed)
      rw [if_pos rfl, htx] at hafter
      exact hafter.trans hservers
    · refine hagrees.update_connection hk rfl (fun _ h => absurd rfl h) ?_ hbackend
      rw [hphase]
      exact nofun
  · intro j p identity servers hjk hj hne hx htx hclosed hread hservers hagrees
    have hadd := fun servers' => hagrees.after_announcement servers' hbackend hk
      (fun svc i hleaves => nomatch hphase.symm.trans hleaves) hne.symm hq
    cases hawaits : p.phase.awaits with
    | true =>
        -- The push comes before the answer, which has the instance.
        obtain ⟨a, b, result, listed, hlist, haccepted⟩ := exists_listed hread hawaits
        rw [outlook_listed hlist, if_pos haccepted] at hservers
        obtain rfl := Option.some.inj hservers
        have hmem := hlisted j p identity a b result listed hjk hj hx hclosed hlist haccepted
        refine ⟨listed, by rw [outlook_listed hlist, if_pos haccepted], hadd listed (fun _ h => h) ?_ ?_⟩
        · rw [hserver]
          exact hmem
        · exact fun server hmem => Or.inl hmem
    | false =>
        have hlt := hsmall j p identity hjk hj hx hclosed hawaits
        have hendpoint : endpoint own.server = { serviceId, instanceId } := by
          rw [hserver, endpoint]
          congr 1
          apply UInt32.toNat_inj.1
          simp only [UInt8.toNat_toUInt32, UInt32.toNat_toUInt8]
          omega
        have hafter := hknown hx (htx.symm ▸ hclosed)
        rw [if_neg hne, htx] at hafter
        rw [outlook_of_not_awaits hawaits] at hservers ⊢
        refine ⟨endpoint own.server :: servers, ?_, hadd _ (List.subset_cons_self _ _) List.mem_cons_self ?_⟩
        · rw [hafter, hservers, hendpoint]
          rfl
        · exact fun server hmem => (List.mem_cons.1 hmem).symm

theorem after_unregister (h : Informed s qs) (hk : qs[k]? = some q) {removed : Option (UInt8 × UInt32)}
    (hphase : q.phase = .closing) (hdoes : s.Does (.unregister q.sessionId) removed s') :
    Informed s' (qs.set k { q with
      closed := true
      phase := removed.elim .idle fun server => .leaving server.1 server.2 }) := by
  have hafter := hdoes.unregister
  obtain ⟨hremoved, -⟩ := hdoes.unregister_holder
  have hknown := hdoes.known_silent nofun
  refine h.update_others hk (h.census.after_unregister hk hdoes) ?_ (fun y hy => (hafter y).trans (if_neg hy)) hdoes.closed ?_ ?_
  · rw [Sound]
    cases removed <;> trivial
  · intro identity hx
    rw [hafter, if_pos rfl] at hx
    cases hx
  · intro j p identity servers hjk hj hne hx htx hclosed hread hservers hagrees
    refine ⟨servers, (outlook_congr (hknown _)).trans hservers, fun y other hyne hy => ?_, fun server hserver => ?_⟩
    · rw [hafter] at hy
      split_ifs at hy with hyq
      rcases hagrees.told y other hyne hy with hmem | ⟨r, hr, hid, howing⟩
      · exact Or.inl hmem
      · rcases mem_set_or hk { q with closed := true, phase := _ } hr with rfl | hr
        · exact absurd hid.symm hyq
        · exact Or.inr ⟨r, hr, hid, howing⟩
    · rcases hagrees.held server hserver with ⟨y, other, hyne, hy, rfl⟩ | ⟨r, hr, svc, i, hleaves, heq⟩
      · by_cases hyq : y = q.sessionId
        · subst hyq
          rw [hy] at hremoved
          subst hremoved
          exact Or.inr ⟨_, mem_set_self hk _, _, _, rfl, rfl⟩
        · exact Or.inl ⟨y, other, hyne, (hafter y).trans ((if_neg hyq).trans hy), rfl⟩
      · rcases mem_set_or hk { q with closed := true, phase := _ } hr with rfl | hr
        · exact nomatch hphase.symm.trans hleaves
        · exact Or.inr ⟨r, hr, svc, i, hleaves, heq⟩

theorem after_departure (h : Informed s qs) (hk : qs[k]? = some q) {svc : UInt8} {i : UInt32}
    (hphase : q.phase = .leaving svc i)
    (hdoes : s.Does (.broadcastExcept q.sessionId (.control (.serverOfflinePush svc.toUInt32 i) 0 0)) () s')
    (hcensus : Census s' (qs.set k { q with phase := .idle }))
    (hlisted : ∀ j p identity a b result servers, j ≠ k → qs[j]? = some p →
      s.backend p.sessionId = some identity → p.tx ∉ s.channels.closed → p.phase = .listed a b result servers →
        result.accepted = true → endpoint (svc, i) ∈ servers →
          (∃ y other, y ≠ p.sessionId ∧ s.backend y = some other ∧ endpoint other.server = endpoint (svc, i)) ∨
            ∃ r ∈ qs.set k { q with phase := .idle }, ∃ svc' i', r.phase = .leaving svc' i' ∧
              endpoint (svc', i') = endpoint (svc, i))
    (hholder : ∀ j p identity, j ≠ k → qs[j]? = some p → s.backend p.sessionId = some identity →
      p.tx ∉ s.channels.closed → p.phase.awaits = false → ∀ y other, y ≠ p.sessionId →
        s.backend y = some other → endpoint other.server = endpoint (svc, i) →
          ∃ r ∈ qs, r.sessionId = y ∧ r.phase.owes = true) :
    Informed s' (qs.set k { q with phase := .idle }) := by
  have hbackend : s'.backend = s.backend := hdoes.backend rfl
  have hclosing : q.closed = true := by
    have hsound := h.sound q (List.mem_of_getElem? hk)
    rwa [Sound, hphase] at hsound
  refine h.update_others hk hcensus trivial (fun y _ => congrFun hbackend y) hdoes.closed ?_ ?_
  · intro identity hx
    rw [hbackend] at hx
    obtain ⟨j, p, hj, -, hopen, hid, -⟩ := h.census.backend _ identity hx
    rw [h.census.index_eq hj hk hid, hk] at hj
    rw [← Option.some.inj hj, hclosing] at hopen
    cases hopen
  · intro j p identity servers hjk hj hne hx htx hclosed hread hservers hagrees
    cases hawaits : p.phase.awaits with
    | true =>
        obtain ⟨a, b, result, listed, hlist, haccepted⟩ := exists_listed hread hawaits
        rw [outlook_listed hlist, if_pos haccepted] at hservers
        obtain rfl := Option.some.inj hservers
        refine ⟨listed, by rw [outlook_listed hlist, if_pos haccepted],
          hagrees.after_departure hk hphase (fun _ _ => Iff.rfl) ?_ ?_ hbackend⟩
        · exact hlisted j p identity a b result listed hjk hj hx hclosed hlist haccepted
        · intro hnot y other hyne hy heq
          refine ((hagrees.told y other hyne hy).resolve_left fun hmem => hnot ?_)
          rwa [heq] at hmem
    | false =>
        have hafter := hdoes.known_broadcastExcept h.census.sessionId h.census.distinctChannels hx
          (htx.symm ▸ hclosed)
        rw [if_neg hne, htx] at hafter
        rw [outlook_of_not_awaits hawaits] at hservers ⊢
        refine ⟨servers.filter (· ≠ endpoint (svc, i)), ?_, hagrees.after_departure hk hphase ?_ ?_ ?_ hbackend⟩
        · rw [hafter, hservers]
          rfl
        · intro server hserver
          simp [hserver]
        · simp
        · exact fun _ => hholder j p identity hjk hj hx hclosed hawaits

theorem after_opens (h : Informed s qs) {conn : Connection} (hlen : qs.length + 1 < 2 ^ 32 - 1)
    (hopens : Gateway.opens s qs.length conn s') : Informed s' (qs ++ [.new conn]) := by
  have hcensus := h.census.after_opens hlen hopens
  obtain ⟨-, -, rfl⟩ := hopens
  refine ⟨hcensus, fun p hp => ?_, fun j p identity hj hx hopen hread => ?_⟩
  · rcases List.mem_append.1 hp with hp | hp
    · exact h.sound p hp
    · rw [List.mem_singleton.1 hp]
      trivial
  · have hx' : s.backend p.sessionId = some identity := hx
    obtain ⟨j', p', hj', -, -, hid, -⟩ := h.census.backend _ identity hx'
    have hold : (qs ++ [Server.new conn])[j']? = some p' :=
      (List.getElem?_append_left (List.getElem?_eq_some_iff.1 hj').1).trans hj'
    obtain rfl := hcensus.index_eq hold hj hid
    obtain rfl := Option.some.inj (hold.symm.trans hj)
    obtain ⟨servers, hservers, hagrees⟩ := h.view j' p' identity hj' hx' hopen hread
    refine ⟨servers, hservers, fun y other hne hy => ?_, fun server hserver => ?_⟩
    · refine (hagrees.told y other hne hy).imp_right ?_
      rintro ⟨q, hq, hpaid⟩
      exact ⟨q, List.mem_append_left _ hq, hpaid⟩
    · refine (hagrees.held server hserver).imp_right ?_
      rintro ⟨q, hq, hleaves⟩
      exact ⟨q, List.mem_append_left _ hq, hleaves⟩

theorem after_input (h : Informed s qs) (hk : qs[k]? = some q) {conn : Connection} {e : Input} (hrests : q.Rests conn)
    (hbegins : Begins q e q') : Informed s (qs.set k q') := by
  have hphase := hrests.phase
  have hold {identity : Identity} (hx : s.backend q.sessionId = some identity) (hclosed : k ∉ s.channels.closed) :=
    h.view k q identity hk hx hclosed (by rw [hphase]; rfl)
  have hkeep : Informed s (qs.set k q) := by
    obtain ⟨hlt, hget⟩ := List.getElem?_eq_some_iff.1 hk
    rw [← hget, List.set_getElem_self]
    exact h
  cases hbegins with
  | start | clientFrame | backendFrame => exact hkeep
  | close =>
      refine h.update_quiet_connection hk (h.census.update_connection hk rfl rfl rfl rfl rfl rfl rfl rfl) ?_ rfl ?_ ?_ rfl rfl (fun _ _ => rfl) ?_
      · rw [Sound]
        cases q.internal <;> trivial
      · rw [hphase]
        exact nofun
      · rw [hphase]
        exact nofun
      · intro identity hx hclosed _
        obtain ⟨servers, hservers, hagrees⟩ := hold hx hclosed
        refine ⟨servers, ?_, hagrees⟩
        rw [outlook_of_not_awaits (by rw [hphase]; rfl)] at hservers
        rw [outlook_of_not_awaits (by cases q.internal <;> rfl), hservers]

end Informed

theorem known_of_environment {s s' : Shared} (h : Environment s s') (b : Tx) :
    s'.known b = s.known b ∧ (b ∉ s'.channels.closed → b ∉ s.channels.closed) := by
  have hsend (tx : Tx) {message : WriterMessage} (hnews : message.serverNews = none) :
      (({ s with channels := (s.channels.send tx message).2 } : Shared).known b = s.known b) ∧
        (b ∉ (s.channels.send tx message).2.closed → b ∉ s.channels.closed) := by
    rw [Channels.send_closed]
    refine ⟨?_, id⟩
    rw [Shared.known, Channels.heard_send_none _ _ _ hnews, Shared.known]
  cases h with
  | tick | markSent => exact ⟨rfl, id⟩
  | hangUp tx => exact ⟨rfl, fun h hmem => h (List.mem_cons_of_mem _ hmem)⟩
  | authTimeout | heartbeatTimeout | ping => exact hsend _ rfl

theorem Informed.after_environment {s s' : Shared} {qs : List Server} (h : Informed s qs) (henv : Environment s s') :
    Informed s' qs := by
  have hbackend := henv.untouched.backend
  refine ⟨h.census.after_environment henv.untouched (holder_of_environment henv), h.sound, fun k q identity hk hx hopen hread => ?_⟩
  rw [hbackend] at hx
  obtain ⟨servers, hservers, hagrees⟩ := h.view k q identity hk hx ((known_of_environment henv k).2 hopen) hread
  refine ⟨servers, (outlook_congr (known_of_environment henv _).1).trans hservers, ?_, ?_⟩ <;> rw [hbackend]
  · exact hagrees.told
  · exact hagrees.held

end Server

end Gateway

end AxmolFighter
