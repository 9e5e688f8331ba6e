import AxmolFighter.Gateway.Conduct

/-!
# Effects of the calls

What a call does to the client sessions, to the registered backends and to what the backends' channels
tell about sessions, each as a function of the state before it: the tables through their lookups, so
that the iteration order is gone.
-/

namespace AxmolFighter.Gateway

namespace WriterMessage

def news : WriterMessage → Option (UInt32 × SessionNews)
  | toBackend data => data.news
  | _ => none

end WriterMessage

/-! ### Channels -/

namespace Channels

/-- What `f` reads from the messages on a channel, in order. -/
def heard {α : Type} (f : WriterMessage → Option α) (c : Channels) (b : Tx) : List α :=
  c.sent.filterMap fun e => if e.1 = b then f e.2 else none

/-- What was told about sessions on a channel, in order. -/
def news (c : Channels) (b : Tx) : List (UInt32 × SessionNews) :=
  c.sent.filterMap fun e => if e.1 = b then e.2.news else none

@[simp] theorem send_closed (c : Channels) (tx : Tx) (message : WriterMessage) :
    (c.send tx message).2.closed = c.closed := by
  rw [send]
  split_ifs <;> rfl

@[simp] theorem sendAll_closed (c : Channels) (txs : List Tx) (message : WriterMessage) :
    (c.sendAll txs message).closed = c.closed := by
  induction txs generalizing c with
  | nil => rfl
  | cons tx txs ih => exact (ih _).trans (c.send_closed tx message)

section Heard

variable {α : Type} (f : WriterMessage → Option α) (c : Channels) (b : Tx)

theorem heard_send (tx : Tx) (message : WriterMessage) : (c.send tx message).2.heard f b =
    c.heard f b ++ if tx = b ∧ b ∉ c.closed then (f message).toList else [] := by
  rw [send]
  by_cases hclosed : tx ∈ c.closed
  · rw [if_pos hclosed, if_neg, List.append_nil]
    rintro ⟨rfl, hopen⟩
    exact hopen hclosed
  · rw [if_neg hclosed, heard, List.filterMap_append]
    by_cases hb : tx = b
    · subst hb
      rw [if_pos ⟨rfl, hclosed⟩]
      cases hread : f message <;> simp [heard, hread]
    · rw [if_neg fun h => hb h.1]
      simp [heard, hb]

theorem heard_sendAll {txs : List Tx} (hnodup : txs.Nodup) (message : WriterMessage) :
    (c.sendAll txs message).heard f b =
      c.heard f b ++ if b ∈ txs ∧ b ∉ c.closed then (f message).toList else [] := by
  induction txs generalizing c with
  | nil => simp [sendAll]
  | cons tx txs ih =>
      obtain ⟨hnot, hnodup⟩ := List.nodup_cons.1 hnodup
      have h := ih (c.send tx message).2 hnodup
      rw [sendAll, List.foldl_cons, ← sendAll, h, heard_send, send_closed, List.append_assoc]
      by_cases hb : tx = b
      · subst hb
        simp [hnot]
      · simp [hb, Ne.symm hb]

variable {f}

theorem heard_send_none (tx : Tx) {message : WriterMessage} (h : f message = none) :
    (c.send tx message).2.heard f b = c.heard f b := by
  simp [heard_send, h]

theorem heard_sendAll_none (txs : List Tx) {message : WriterMessage} (h : f message = none) :
    (c.sendAll txs message).heard f b = c.heard f b := by
  induction txs generalizing c with
  | nil => rfl
  | cons tx txs ih => rw [sendAll, List.foldl_cons, ← sendAll, ih, heard_send_none c b tx h]

end Heard

theorem news_send (c : Channels) (tx b : Tx) (message : WriterMessage) :
    (c.send tx message).2.news b =
      c.news b ++ if tx = b ∧ b ∉ c.closed then message.news.toList else [] :=
  heard_send WriterMessage.news c b tx message

theorem news_sendAll {txs : List Tx} (hnodup : txs.Nodup) (c : Channels) (b : Tx)
    (message : WriterMessage) : (c.sendAll txs message).news b =
      c.news b ++ if b ∈ txs ∧ b ∉ c.closed then message.news.toList else [] :=
  heard_sendAll WriterMessage.news c b hnodup message

theorem news_sendAll_none (c : Channels) (txs : List Tx) (b : Tx) {message : WriterMessage}
    (h : message.news = none) : (c.sendAll txs message).news b = c.news b :=
  heard_sendAll_none c b txs h

end Channels

/-! ### Sessions -/

theorem SessionManager.get_authenticate (m : SessionManager) (sessionId S : UInt32) :
    (m.authenticate sessionId).2.sessions.get S = if S = sessionId then
      (m.sessions.get S).map fun session => { session with authenticated := true }
      else m.sessions.get S := by
  rw [authenticate]
  by_cases hS : S = sessionId
  · subst hS
    rw [if_pos rfl]
    cases h : m.sessions.get S with
    | none => simp [h]
    | some session =>
        obtain ⟨tx, authenticated⟩ := session
        cases authenticated <;> simp [h]
  · rw [if_neg hS]
    cases m.sessions.get sessionId with
    | none => rfl
    | some session =>
        dsimp only
        split_ifs
        · rfl
        · exact Table.get_insert_ne _ _ hS

/-- The sessions after a call. -/
def Op.sessionAfter (op : Op) (old : UInt32 → Option ClientSession) (S : UInt32) :
    Option ClientSession :=
  match op with
  | .addSession sessionId tx => if S = sessionId then some { tx, authenticated := false } else old S
  | .removeSession sessionId => if S = sessionId then none else old S
  | .authenticate sessionId =>
      if S = sessionId then (old S).map fun session => { session with authenticated := true } else old S
  | _ => old S

theorem Op.sessionAfter_binds {op : Op} (h : op.binds = true) (old : UInt32 → Option ClientSession)
    (S : UInt32) : op.sessionAfter old S = old S := by
  cases op <;> first | rfl | cases h

theorem Op.sessionAfter_quiet {op : Op} (h : op.quiet = true) (old : UInt32 → Option ClientSession)
    (S : UInt32) : op.sessionAfter old S = old S := by
  cases op <;> first | rfl | cases h

namespace Shared

variable {s s' : Shared} {op : Op} {answer : op.Answer}

def session (s : Shared) (sessionId : UInt32) : Option ClientSession := s.sessions.sessions.get sessionId

theorem exec_session (t : Shared) (op : Op) (S : UInt32) :
    (t.exec op).2.session S = op.sessionAfter t.session S := by
  cases op with
  | addSession sessionId tx => exact Table.get_insert ..
  | removeSession sessionId => exact Table.get_remove ..
  | authenticate sessionId => exact SessionManager.get_authenticate ..
  | _ => rfl

theorem Reordered.session {t : Shared} (h : s.Reordered t) : t.session = s.session :=
  funext fun S => (h.sessions S).symm

theorem Does.session (h : s.Does op answer s') (S : UInt32) :
    s'.session S = op.sessionAfter s.session S := by
  obtain ⟨t, hsame, hexec⟩ := h
  rw [← hsame.session, ← exec_session, hexec]

theorem Does.session_eq (h : s.Does op answer s')
    (hop : ∀ old S, op.sessionAfter old S = old S) : s'.session = s.session :=
  funext fun S => (h.session S).trans (hop _ _)

/-- Whether the session is in the table and authenticated. -/
def authenticated (s : Shared) (S : UInt32) : Bool := ((s.session S).map (·.authenticated)).getD false

theorem Does.isAuthenticated {S : UInt32} {answer : Bool}
    (h : s.Does (.isAuthenticated S) answer s') : answer = s.authenticated S := by
  obtain ⟨t, hsame, hexec⟩ := h
  rw [authenticated, ← hsame.session]
  exact (congrArg Prod.fst hexec).symm

theorem Does.removeSession {S : UInt32} {answer : Bool} (h : s.Does (.removeSession S) answer s') :
    answer = s.authenticated S := by
  obtain ⟨t, hsame, hexec⟩ := h
  rw [authenticated, ← hsame.session]
  exact (congrArg Prod.fst hexec).symm

theorem Does.authenticate {S : UInt32} {answer : Bool} (h : s.Does (.authenticate S) answer s') :
    answer = ((s.session S).map fun session => !session.authenticated).getD false := by
  obtain ⟨t, hsame, hexec⟩ := h
  obtain rfl : (t.sessions.authenticate S).1 = answer := congrArg Prod.fst hexec
  rw [← hsame.session, Shared.session, SessionManager.authenticate]
  cases t.sessions.sessions.get S with
  | none => rfl
  | some session => cases hauth : session.authenticated <;> simp [hauth]

theorem Does.authenticatedSessions {answer : List UInt32}
    (h : s.Does .authenticatedSessions answer s') :
    answer.Nodup ∧ ∀ S, S ∈ answer ↔ s.authenticated S = true := by
  obtain ⟨t, hsame, hexec⟩ := h
  obtain rfl : t.sessions.authenticatedSessions = answer := congrArg Prod.fst hexec
  constructor
  · exact (t.sessions.sessions.nodup_keys).sublist (List.filter_sublist.map _)
  · intro S
    rw [authenticated, ← hsame.session, Shared.session, SessionManager.authenticatedSessions, List.mem_map]
    constructor
    · rintro ⟨⟨k, session⟩, hmem, rfl⟩
      rw [List.mem_filter, Table.mem_toList] at hmem
      simpa [hmem.1] using hmem.2
    · intro hauth
      cases hget : t.sessions.sessions.get S with
      | none => simp [hget] at hauth
      | some session =>
          refine ⟨(S, session), List.mem_filter.2 ⟨(Table.mem_toList ..).2 hget, ?_⟩, rfl⟩
          simpa [hget] using hauth

end Shared

/-! ### Backends -/

/-- What does not change while a backend is registered. -/
structure Identity where
  serviceId : UInt8
  instanceId : UInt32
  sessionId : UInt32
  tx : Tx
deriving DecidableEq

def BackendConn.identity (conn : BackendConn) : Identity :=
  { serviceId := conn.serviceId, instanceId := conn.instanceId, sessionId := conn.sessionId, tx := conn.tx }

/-- Whether the call changes who is registered. -/
def Op.registers : Op → Bool
  | .register .. | .unregister .. => true
  | _ => false

theorem Op.registers_binds {op : Op} (h : op.binds = true) : op.registers = false := by
  cases op <;> first | rfl | cases h

theorem Op.registers_quiet {op : Op} (h : op.quiet = true) : op.registers = false := by
  cases op <;> first | rfl | cases h

/-- What a registration does: nothing, or a new entry for a session and an instance that have none. -/
theorem ServerRegistry.register_cases (r : ServerRegistry) (x : UInt32) (svc : UInt8) (i : UInt32)
    (tx : Tx) :
    (∃ result, result ≠ .registered ∧ r.register x svc i tx = (result, r)) ∨
      (r.conns.get x = none ∧ (∀ y, r.instances.get (svc, i) = some y → y = x) ∧
        r.register x svc i tx = (.registered, {
          instances := r.instances.insert (svc, i) x
          conns := r.conns.insert x
            { serviceId := svc, instanceId := i, sessionId := x, tx, load := {}, latencyMs := none } })) := by
  rw [register]
  cases hget : r.conns.get x with
  | some conn =>
      refine Or.inl ?_
      dsimp only
      split_ifs
      · exact ⟨.alreadyRegistered, nofun, rfl⟩
      · exact ⟨.sessionAlreadyRegistered, nofun, rfl⟩
  | none =>
      dsimp only
      split_ifs with hheld
      · exact Or.inl ⟨.instanceAlreadyRegistered, nofun, rfl⟩
      · refine Or.inr ⟨rfl, fun y hy => ?_, rfl⟩
        rw [hy] at hheld
        simpa using hheld

namespace Shared

variable {s s' : Shared} {op : Op} {answer : op.Answer}

def backend (s : Shared) (x : UInt32) : Option Identity := (s.registry.conns.get x).map (·.identity)

theorem Reordered.backend {t : Shared} (h : s.Reordered t) : t.backend = s.backend :=
  funext fun x => congrArg _ (h.conns x).symm

theorem exec_backend (t : Shared) (op : Op) (hop : op.registers = false) :
    (t.exec op).2.backend = t.backend := by
  funext x
  cases op with
  | register => cases hop
  | unregister => cases hop
  | updateLoad sessionId serviceId instanceId loadScore acceptingBindings message =>
      simp only [exec, Shared.backend, ServerRegistry.updateLoad]
      split
      · rfl
      · split_ifs
        · rfl
        · rename_i conn hget _
          dsimp only
          rw [Table.get_insert]
          split_ifs with hx
          · subst hx
            rw [hget]
            rfl
          · rfl
  | updateLatency sessionId latencyMs =>
      simp only [exec, Shared.backend, ServerRegistry.updateLatency]
      split
      · rfl
      · rename_i conn hget
        dsimp only
        rw [Table.get_insert]
        split_ifs with hx
        · subst hx
          rw [hget]
          rfl
        · rfl
  | _ => rfl

theorem Does.backend (h : s.Does op answer s') (hop : op.registers = false) :
    s'.backend = s.backend := by
  obtain ⟨t, hsame, hexec⟩ := h
  rw [← hsame.backend, ← exec_backend t op hop, hexec]

theorem Does.register {x : UInt32} {svc : UInt8} {i : UInt32} {tx : Tx} {result : RegisterResult}
    (h : s.Does (.register x svc i tx) result s') :
    (result = .registered → s.backend x = none) ∧ ∀ x', s'.backend x' =
      if result = .registered ∧ x' = x then
        some { serviceId := svc, instanceId := i, sessionId := x, tx }
      else s.backend x' := by
  obtain ⟨t, hsame, hexec⟩ := h
  rw [← hsame.backend]
  have hs' : s'.registry = (t.registry.register x svc i tx).2 :=
    (congrArg (fun r => r.2.registry) hexec).symm
  have hresult : (t.registry.register x svc i tx).1 = result := congrArg Prod.fst hexec
  rcases t.registry.register_cases x svc i tx with ⟨other, hne, heq⟩ | ⟨hnone, -, heq⟩
  · rw [heq] at hs' hresult
    subst hresult
    refine ⟨fun h => absurd h hne, fun x' => ?_⟩
    rw [if_neg fun h => hne h.1, Shared.backend, hs', Shared.backend]
  · rw [heq] at hs' hresult
    subst hresult
    refine ⟨fun _ => by rw [Shared.backend, hnone]; rfl, fun x' => ?_⟩
    rw [Shared.backend, hs', Table.get_insert]
    by_cases hx : x' = x
    · rw [if_pos hx, if_pos ⟨rfl, hx⟩]
      rfl
    · rw [if_neg hx, if_neg fun h => hx h.2]
      rfl

theorem Does.unregister {x : UInt32} {removed : Option (UInt8 × UInt32)}
    (h : s.Does (.unregister x) removed s') (x' : UInt32) :
    s'.backend x' = if x' = x then none else s.backend x' := by
  obtain ⟨t, hsame, hexec⟩ := h
  have hs' := congrArg Prod.snd hexec
  subst hs'
  rw [← hsame.backend]
  simp only [exec, Shared.backend, ServerRegistry.remove]
  cases hget : t.registry.conns.get x with
  | some conn =>
      dsimp only
      rw [Table.get_remove]
      split_ifs <;> rfl
  | none =>
      split_ifs with hx
      · rw [hx, hget]
        rfl
      · rfl

theorem Does.findByService {svc : UInt8} {tx : Tx} (h : s.Does (.findByService svc) (some tx) s') :
    ∃ x identity, s.backend x = some identity ∧ identity.serviceId = svc ∧ identity.tx = tx := by
  obtain ⟨t, hsame, hexec⟩ := h
  have hfind : t.registry.findByService svc = some tx := congrArg Prod.fst hexec
  rw [ServerRegistry.findByService, Option.map_eq_some_iff] at hfind
  obtain ⟨conn, hfind, rfl⟩ := hfind
  obtain ⟨x, hget⟩ := (Table.mem_values ..).1 (List.mem_of_find?_eq_some hfind)
  have hcond : conn.serviceId = svc := by simpa using List.find?_some hfind
  refine ⟨x, conn.identity, ?_, hcond, rfl⟩
  rw [← hsame.backend, Shared.backend, hget]
  rfl

theorem Does.findByInstance {svc : UInt8} {i : UInt32} {tx : Tx}
    (h : s.Does (.findByInstance svc i) (some tx) s') :
    ∃ x identity, s.backend x = some identity ∧ identity.serviceId = svc ∧ identity.instanceId = i ∧
      identity.tx = tx := by
  obtain ⟨t, hsame, hexec⟩ := h
  have hfind : t.registry.findByInstance svc i = some tx := congrArg Prod.fst hexec
  rw [ServerRegistry.findByInstance, Option.map_eq_some_iff] at hfind
  obtain ⟨conn, hfind, rfl⟩ := hfind
  obtain ⟨x, hget⟩ := (Table.mem_values ..).1 (List.mem_of_find?_eq_some hfind)
  have hcond : conn.serviceId = svc ∧ conn.instanceId = i := by simpa using List.find?_some hfind
  refine ⟨x, conn.identity, ?_, hcond.1, hcond.2, rfl⟩
  rw [← hsame.backend, Shared.backend, hget]
  rfl

end Shared

/-! ### What the channels tell -/

/-- The messages that a call may put on a channel. -/
def Op.message : Op → Option WriterMessage
  | .sendToClient _ data => some (.toClient data)
  | .kick _ => some .close
  | .broadcast data | .broadcastExcept _ data => some (.toBackend data)
  | .send _ message => some message
  | _ => none

theorem Op.message_binds {op : Op} (h : op.binds = true) : op.message = none := by
  cases op <;> first | rfl | cases h

theorem Op.news_of_quiet {op : Op} (h : op.quiet = true) {message : WriterMessage}
    (hmessage : op.message = some message) : message.news = none := by
  cases op with
  | sendToClient | kick => rw [← Option.some.inj hmessage]; rfl
  | broadcast data | broadcastExcept _ data =>
      rw [← Option.some.inj hmessage]
      exact Option.isNone_iff_eq_none.1 h
  | send tx message' =>
      rw [← Option.some.inj hmessage]
      cases message' with
      | toBackend data => exact Option.isNone_iff_eq_none.1 h
      | toClient | close => rfl
  | _ => cases hmessage

namespace Shared

variable {s s' : Shared} {op : Op} {answer : op.Answer}

/-- What the backend channel `b` has told about sessions. -/
def news (s : Shared) (b : Tx) : List (UInt32 × SessionNews) := s.channels.news b

/-- Whether a registered backend has the channel, and its receiver is still there. -/
def listening (s : Shared) (b : Tx) : Prop :=
  (∃ x identity, s.backend x = some identity ∧ identity.tx = b) ∧ b ∉ s.channels.closed

/-- The connections that are registered have channels of their own. -/
def DistinctChannels (s : Shared) : Prop :=
  ∀ x y i j, s.backend x = some i → s.backend y = some j → i.tx = j.tx → x = y

theorem send_quiet (c : Channels) (tx b : Tx) {message : WriterMessage} (h : message.news = none) :
    (c.send tx message).2.news b = c.news b ∧ (c.send tx message).2.closed = c.closed := by
  rw [Channels.news_send, h]
  simp

theorem exec_silent (t : Shared) (op : Op) (hop : ∀ message, op.message = some message → message.news = none)
    (b : Tx) : (t.exec op).2.news b = t.news b ∧ (t.exec op).2.channels.closed = t.channels.closed := by
  cases op with
  | sendToClient sessionId data =>
      simp only [exec, news, SessionManager.sendToClient]
      split
      · exact send_quiet _ _ _ rfl
      · exact ⟨rfl, rfl⟩
  | kick sessionId =>
      simp only [exec, news, SessionManager.kick]
      split
      · exact send_quiet _ _ _ rfl
      · exact ⟨rfl, rfl⟩
  | broadcast data =>
      exact ⟨Channels.news_sendAll_none _ _ _ (hop _ rfl), Channels.sendAll_closed ..⟩
  | broadcastExcept excludeSessionId data =>
      exact ⟨Channels.news_sendAll_none _ _ _ (hop _ rfl), Channels.sendAll_closed ..⟩
  | send tx message => exact send_quiet _ _ _ (hop _ rfl)
  | _ => exact ⟨rfl, rfl⟩

theorem Does.news_silent (h : s.Does op answer s')
    (hop : ∀ message, op.message = some message → message.news = none) (b : Tx) :
    s'.news b = s.news b ∧ s'.channels.closed = s.channels.closed := by
  obtain ⟨t, hsame, hexec⟩ := h
  have hq := exec_silent t op hop b
  rw [hexec] at hq
  rw [news, news, ← hsame.channels]
  exact hq

theorem Does.news_quiet (h : s.Does op answer s') (hquiet : op.quiet = true) (b : Tx) :
    s'.news b = s.news b ∧ s'.channels.closed = s.channels.closed :=
  h.news_silent (fun _ => Op.news_of_quiet hquiet) b

theorem Does.news_send {tx : Tx} {message : WriterMessage} {sent : Bool}
    (h : s.Does (.send tx message) sent s') (b : Tx) :
    s'.news b = s.news b ++ (if tx = b ∧ b ∉ s.channels.closed then message.news.toList else []) ∧
      s'.channels.closed = s.channels.closed := by
  obtain ⟨t, hsame, hexec⟩ := h
  have hs' := congrArg Prod.snd hexec
  subst hs'
  rw [news, news, ← hsame.channels]
  exact ⟨Channels.news_send .., Channels.send_closed ..⟩

theorem Does.news_broadcast {data : ToBackend} (h : s.Does (.broadcast data) () s')
    (hdistinct : s.DistinctChannels) (b : Tx) :
    (s.listening b → s'.news b = s.news b ++ data.news.toList) ∧
      (¬ s.listening b → s'.news b = s.news b) ∧ s'.channels.closed = s.channels.closed := by
  obtain ⟨t, hsame, hexec⟩ := h
  have hs' := congrArg Prod.snd hexec
  subst hs'
  have hmem : ∀ x conn, t.registry.conns.get x = some conn → s.backend x = some conn.identity := by
    intro x conn hget
    rw [← hsame.backend, Shared.backend, hget]
    rfl
  have hnodup : t.registry.txs.Nodup := Table.nodup_map_values _ fun x conn y conn' hx hy htx =>
    hdistinct x y _ _ (hmem x conn hx) (hmem y conn' hy) htx
  have hlisten : s.listening b ↔ b ∈ t.registry.txs ∧ b ∉ t.channels.closed := by
    rw [listening, hsame.channels, ServerRegistry.txs, List.mem_map]
    refine and_congr_left fun _ => ⟨?_, ?_⟩
    · rintro ⟨x, identity, hx, rfl⟩
      rw [← hsame.backend, Shared.backend, Option.map_eq_some_iff] at hx
      obtain ⟨conn, hget, rfl⟩ := hx
      exact ⟨conn, (Table.mem_values ..).2 ⟨x, hget⟩, rfl⟩
    · rintro ⟨conn, hconn, rfl⟩
      obtain ⟨x, hget⟩ := (Table.mem_values ..).1 hconn
      exact ⟨x, _, hmem x conn hget, rfl⟩
  have hnews := Channels.news_sendAll hnodup t.channels b (.toBackend data)
  rw [hlisten, news, news, ← hsame.channels]
  refine ⟨fun h => ?_, fun h => ?_, Channels.sendAll_closed ..⟩
  · rw [if_pos h] at hnews
    exact hnews
  · rw [if_neg h, List.append_nil] at hnews
    exact hnews

theorem Does.channels (h : s.Does op answer s') (hop : ∀ t : Shared, (t.exec op).2.channels = t.channels) :
    s'.channels = s.channels := by
  obtain ⟨t, hsame, hexec⟩ := h
  rw [← hsame.channels, ← hop t, hexec]

theorem Does.sessionCounter (h : s.Does op answer s') : s'.sessionCounter = s.sessionCounter := by
  obtain ⟨t, hsame, hexec⟩ := h
  have hexec' : (t.exec op).2.sessionCounter = t.sessionCounter := by cases op <;> rfl
  rw [← hsame.sessionCounter, ← hexec', hexec]

/-! ### What a call puts on the channels -/

end Shared

theorem Channels.send_posts (c : Channels) (tx : Tx) (message : WriterMessage) :
    ∃ posted, (c.send tx message).2.sent = c.sent ++ posted ∧ ∀ e ∈ posted, e = (tx, message) := by
  rw [send]
  split_ifs
  · exact ⟨[], by simp⟩
  · exact ⟨[(tx, message)], by simp⟩

theorem Channels.sendAll_posts (c : Channels) (txs : List Tx) (message : WriterMessage) :
    ∃ posted, (c.sendAll txs message).sent = c.sent ++ posted ∧ ∀ e ∈ posted, e.2 = message := by
  induction txs generalizing c with
  | nil => exact ⟨[], by simp [sendAll]⟩
  | cons tx txs ih =>
      obtain ⟨posted, hsent, hposted⟩ := c.send_posts tx message
      obtain ⟨posted', hsent', hposted'⟩ := ih (c.send tx message).2
      refine ⟨posted ++ posted', ?_, fun e he => ?_⟩
      · rw [sendAll, List.foldl_cons, ← sendAll, hsent', hsent, List.append_assoc]
      · rcases List.mem_append.1 he with he | he
        · rw [hposted e he]
        · exact hposted' e he

namespace Shared

variable {s s' : Shared} {op : Op} {answer : op.Answer}

theorem exec_posts (t : Shared) (op : Op) : ∃ posted,
    (t.exec op).2.channels.sent = t.channels.sent ++ posted ∧
      ∀ e ∈ posted, op.message = some e.2 := by
  have hsend (tx : Tx) (message : WriterMessage) : ∃ posted,
      (t.channels.send tx message).2.sent = t.channels.sent ++ posted ∧
        ∀ e ∈ posted, some message = some e.2 := by
    obtain ⟨posted, hsent, hposted⟩ := t.channels.send_posts tx message
    exact ⟨posted, hsent, fun e he => by rw [hposted e he]⟩
  have hall (txs : List Tx) (message : WriterMessage) : ∃ posted,
      (t.channels.sendAll txs message).sent = t.channels.sent ++ posted ∧
        ∀ e ∈ posted, some message = some e.2 := by
    obtain ⟨posted, hsent, hposted⟩ := t.channels.sendAll_posts txs message
    exact ⟨posted, hsent, fun e he => by rw [hposted e he]⟩
  cases op with
  | sendToClient sessionId data =>
      simp only [exec, SessionManager.sendToClient]
      split
      · exact hsend _ _
      · exact ⟨[], by simp⟩
  | kick sessionId =>
      simp only [exec, SessionManager.kick]
      split
      · exact hsend _ _
      · exact ⟨[], by simp⟩
  | broadcast data => exact hall _ _
  | broadcastExcept excludeSessionId data => exact hall _ _
  | send tx message => exact hsend tx message
  | _ => exact ⟨[], by simp [exec]⟩

theorem Does.posts (h : s.Does op answer s') : ∃ posted,
    s'.channels.sent = s.channels.sent ++ posted ∧ ∀ e ∈ posted, op.message = some e.2 := by
  obtain ⟨t, hsame, hexec⟩ := h
  have hposts := exec_posts t op
  rwa [hexec, hsame.channels] at hposts

theorem Does.send {tx : Tx} {message : WriterMessage} {sent : Bool}
    (h : s.Does (.send tx message) sent s') : s.channels.send tx message = (sent, s'.channels) := by
  obtain ⟨t, hsame, hexec⟩ := h
  rw [← hsame.channels]
  exact congrArg (fun r => (r.1, r.2.channels)) hexec

/-- The environment leaves the tables alone and tells nothing about sessions. -/
structure Untouched (s s' : Shared) : Prop where
  sessionCounter : s'.sessionCounter = s.sessionCounter
  session : s'.session = s.session
  backend : s'.backend = s.backend
  rules : s'.router.rules = s.router.rules
  news : ∀ b, s'.news b = s.news b

theorem Untouched.send {tx : Tx} {message : WriterMessage} (h : message.news = none) :
    s.Untouched { s with channels := (s.channels.send tx message).2 } :=
  ⟨rfl, rfl, rfl, rfl, fun b => (send_quiet s.channels tx b h).1⟩

/-! ### Routes -/

theorem Does.rules (h : s.Does op answer s') : s'.router.rules = s.router.rules := by
  obtain ⟨t, hsame, hexec⟩ := h
  have hexec' : (t.exec op).2.router.rules = t.router.rules := by cases op <;> rfl
  rw [← hsame.rules, ← hexec', hexec]

theorem Does.resolve {msgId : UInt16} {S : UInt32} {target : RouteTarget}
    (h : s.Does (.resolve msgId S) target s') : target = s.router.resolve msgId S := by
  obtain ⟨t, hsame, hexec⟩ := h
  have hrule : t.router.rule msgId = s.router.rule msgId := by
    rw [Router.rule, hsame.rules]
    rfl
  obtain rfl : t.router.resolve msgId S = target := congrArg Prod.fst hexec
  rw [Router.resolve, Router.resolve, hrule]
  cases s.router.rule msgId with
  | none => rfl
  | some rule =>
      dsimp only
      rw [← hsame.bindings]

end Shared

theorem Environment.untouched {s s' : Shared} (h : Environment s s') : s.Untouched s' := by
  cases h with
  | tick ms => exact ⟨rfl, rfl, rfl, rfl, fun _ => rfl⟩
  | hangUp tx => exact ⟨rfl, rfl, rfl, rfl, fun _ => rfl⟩
  | authTimeout | heartbeatTimeout | ping => exact .send rfl
  | markSent => exact ⟨rfl, rfl, rfl, rfl, fun _ => rfl⟩

theorem Environment.posts {s s' : Shared} (h : Environment s s') : ∃ posted,
    s'.channels.sent = s.channels.sent ++ posted ∧ ∀ e ∈ posted, e.2.news = none := by
  have hsend (tx : Tx) (message : WriterMessage) (hnews : message.news = none) : ∃ posted,
      (s.channels.send tx message).2.sent = s.channels.sent ++ posted ∧ ∀ e ∈ posted, e.2.news = none := by
    obtain ⟨posted, hsent, hposted⟩ := s.channels.send_posts tx message
    exact ⟨posted, hsent, fun e he => by rw [hposted e he]; exact hnews⟩
  cases h with
  | tick | hangUp | markSent => exact ⟨[], by simp⟩
  | authTimeout | heartbeatTimeout | ping => exact hsend _ _ rfl

end AxmolFighter.Gateway
