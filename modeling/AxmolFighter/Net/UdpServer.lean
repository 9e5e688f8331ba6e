import AxmolFighter.Lib.Bytes
import AxmolFighter.Lib.Run
import AxmolFighter.Lib.Table

/-!
# The UDP server

`base/src/net/udp_server.rs` and `udp_session.rs`: one loop receives the datagrams of all peers and hands
them to the sessions' tasks through bounded channels. The table `session_map` has the channel of a peer's
session; the loop makes the entry, the session's task removes it when its `run` has returned. Between the
entry and the `try_send` the loop holds the entry, so the task cannot remove it then; everything else that
the task does may come in between.

A datagram is dropped when its channel is full, or when the session has stopped reading and its entry is
still there. What the sessions of a peer are handed, one after the other, is what the peer has sent without
the datagrams that were dropped, in the order in which they came.
-/

namespace AxmolFighter.Net.Udp

/-! ### Sessions -/

/-- The capacity of a session's channel. -/
def channelCapacity : Nat := 128

/-- Where the task of a session stands. -/
inductive Phase
  /-- `on_session_start` -/
  | starting
  /-- the `select!` of `run` -/
  | running
  /-- `on_session_close`; the receiver of the channel has been dropped -/
  | closing
  /-- `run` has returned, and the entry is still there -/
  | returned
  | removed
deriving DecidableEq

/-- The receiver of the channel is still there. -/
def Phase.receives : Phase → Bool
  | .starting | .running => true
  | _ => false

/-- A session: its channel, and the datagrams that `on_recv_frame` has been called with. -/
structure Session (Addr : Type) where
  addr : Addr
  queue : List Bytes := []
  received : List Bytes := []
  phase : Phase := .starting

variable {Addr : Type} [DecidableEq Addr]

/-- `try_send` puts the datagram into the channel. -/
def Session.accepts (x : Session Addr) : Bool := x.phase.receives && x.queue.length < channelCapacity

/-- All that the session has got. -/
def Session.taken (x : Session Addr) : List Bytes := x.received ++ x.queue

/-! ### The server -/

/-- An error count at which the loop gives up. -/
def maxConsecutiveErrors : Nat := 10

/-- The loop has the entry of a session and a datagram to send to it. -/
structure Holding (Addr : Type) where
  addr : Addr
  session : Nat
  data : Bytes

/-- The sessions are numbered in the order in which they appear. -/
structure Server (Addr : Type) where
  sessions : List (Session Addr) := []
  sessionMap : Table Addr Nat := ∅
  holding : Option (Holding Addr) := none
  consecutiveErrors : Nat := 0
  /-- the loop has ended, and `notify_shutdown` has been dropped -/
  stopped : Bool := false

inductive Event (Addr : Type)
  /-- `recv_from` succeeds, and the entry of the peer is found or made -/
  | datagram (addr : Addr) (data : Bytes)
  | trySend
  | recvError
  | shutdown
  /-- `on_session_start` returns -/
  | started (k : Nat) (ok : Bool)
  /-- `on_recv_frame` is called with the next datagram -/
  | takes (k : Nat)
  /-- a branch of the `select!` completes: the reader, the writer, the timeout or the shutdown -/
  | ends (k : Nat)
  /-- `on_session_close` returns -/
  | closed (k : Nat)
  | removes (k : Nat)

namespace Server

def setSession (s : Server Addr) (k : Nat) (f : Session Addr → Session Addr) : Server Addr :=
  { s with sessions := s.sessions.modify k f }

/-- `entry(addr).or_insert_with(..)`. -/
def enter (s : Server Addr) (addr : Addr) (data : Bytes) : Server Addr :=
  match s.sessionMap.get addr with
  | some k => { s with consecutiveErrors := 0, holding := some ⟨addr, k, data⟩ }
  | none =>
      { s with
        consecutiveErrors := 0
        sessions := s.sessions ++ [{ addr }]
        sessionMap := s.sessionMap.insert addr s.sessions.length
        holding := some ⟨addr, s.sessions.length, data⟩ }

def send (s : Server Addr) (held : Holding Addr) : Server Addr :=
  { s.setSession held.session fun x =>
      if x.accepts then { x with queue := x.queue ++ [held.data] } else x with holding := none }

/-- The error at which the count reaches its limit ends the loop. -/
def countError (s : Server Addr) : Server Addr :=
  { s with
    consecutiveErrors := s.consecutiveErrors + 1
    stopped := decide (maxConsecutiveErrors ≤ s.consecutiveErrors + 1) }

/-- The phase of session `k` goes from `before` to `after`. -/
def turn (s : Server Addr) (k : Nat) (before after : Phase) : Option (Server Addr) := do
  let x ← s.sessions[k]?
  if x.phase = before then some (s.setSession k fun x => { x with phase := after }) else none

/-- The receiver's `recv`. -/
def take (s : Server Addr) (k : Nat) : Option (Server Addr) := do
  let x ← s.sessions[k]?
  match x.phase, x.queue with
  | .running, data :: rest =>
      some (s.setSession k fun x => { x with queue := rest, received := x.received ++ [data] })
  | _, _ => none

/-- `session_map_cloned.remove(&addr)`, which waits while the loop has the entry. -/
def remove (s : Server Addr) (k : Nat) : Option (Server Addr) := do
  let x ← s.sessions[k]?
  if s.holding.any fun held => held.addr = x.addr then none
  else
    let s ← s.turn k .returned .removed
    some { s with sessionMap := s.sessionMap.remove x.addr }

def next (s : Server Addr) : Event Addr → Option (Server Addr)
  | .datagram addr data => if s.stopped ∨ s.holding.isSome then none else some (s.enter addr data)
  | .trySend => s.holding.map s.send
  | .recvError => if s.stopped ∨ s.holding.isSome then none else some s.countError
  | .shutdown => if s.holding.isSome then none else some { s with stopped := true }
  | .started k true => s.turn k .starting .running
  | .started k false => s.turn k .starting .returned
  | .takes k => s.take k
  | .ends k => s.turn k .running .closing
  | .closed k => s.turn k .closing .returned
  | .removes k => s.remove k

def Step (s : Server Addr) (e : Event Addr) (s' : Server Addr) : Prop := s.next e = some s'

variable {s s' : Server Addr} {k : Nat} {addr : Addr}

omit [DecidableEq Addr] in
theorem turn_eq_some {before after : Phase} (h : s.turn k before after = some s') :
    ∃ x, s.sessions[k]? = some x ∧ x.phase = before ∧
      s' = s.setSession k fun x => { x with phase := after } := by
  simp only [turn, Option.bind_eq_bind, Option.bind_eq_some_iff] at h
  obtain ⟨x, hx, h⟩ := h
  split_ifs at h with hphase
  exact ⟨x, hx, hphase, (Option.some.inj h).symm⟩

omit [DecidableEq Addr] in
theorem take_eq_some (h : s.take k = some s') :
    ∃ x data rest, s.sessions[k]? = some x ∧ x.phase = .running ∧ x.queue = data :: rest ∧
      s' = s.setSession k fun x => { x with queue := rest, received := x.received ++ [data] } := by
  simp only [take, Option.bind_eq_bind, Option.bind_eq_some_iff] at h
  obtain ⟨x, hx, h⟩ := h
  split at h
  · rename_i data rest hphase hqueue
    exact ⟨x, data, rest, hx, hphase, hqueue, (Option.some.inj h).symm⟩
  · simp at h

theorem remove_eq_some (h : s.remove k = some s') :
    ∃ x, s.sessions[k]? = some x ∧ x.phase = .returned ∧ (∀ held, s.holding = some held → held.addr ≠ x.addr) ∧
      s' = { s.setSession k fun x => { x with phase := .removed } with
        sessionMap := s.sessionMap.remove x.addr } := by
  simp only [remove, Option.bind_eq_bind, Option.bind_eq_some_iff] at h
  obtain ⟨x, hx, h⟩ := h
  split_ifs at h with hheld
  obtain ⟨s₁, hturn, h⟩ := Option.bind_eq_some_iff.1 h
  obtain ⟨x', hx', hphase, rfl⟩ := turn_eq_some hturn
  rw [hx] at hx'
  obtain rfl := Option.some.inj hx'
  refine ⟨x, hx, hphase, fun held hholding heq => hheld ?_, (Option.some.inj h).symm⟩
  simp [hholding, heq]

/-! ### One session for a peer -/

/-- The table has, for each peer, the one session that has not removed its entry. -/
def Mapped (s : Server Addr) : Prop :=
  ∀ addr k, s.sessionMap.get addr = some k ↔
    ∃ x, s.sessions[k]? = some x ∧ x.addr = addr ∧ x.phase ≠ .removed

structure Inv (s : Server Addr) : Prop where
  mapped : s.Mapped
  /-- A session appears after all earlier ones of its peer have removed their entries. -/
  succeeds : ∀ (j k : Nat) (x y : Session Addr), j < k → s.sessions[j]? = some x → s.sessions[k]? = some y →
    x.addr = y.addr → x.phase = .removed
  held : ∀ held, s.holding = some held → s.sessionMap.get held.addr = some held.session

omit [DecidableEq Addr] in
theorem getElem?_setSession (f : Session Addr → Session Addr) (j : Nat) :
    (s.setSession k f).sessions[j]? = if k = j then (s.sessions[j]?).map f else s.sessions[j]? := by
  rw [setSession, List.getElem?_modify]
  split_ifs <;> simp

theorem Inv.setSession (h : s.Inv) {f : Session Addr → Session Addr}
    (hf : ∀ x, s.sessions[k]? = some x → (f x).addr = x.addr ∧ ((f x).phase = .removed ↔ x.phase = .removed)) :
    (s.setSession k f).Inv := by
  have hsame : ∀ (j : Nat) (y : Session Addr), (s.setSession k f).sessions[j]? = some y →
      ∃ x, s.sessions[j]? = some x ∧ y.addr = x.addr ∧ (y.phase = .removed ↔ x.phase = .removed) := by
    intro j y hy
    rw [getElem?_setSession] at hy
    split_ifs at hy with hkj
    · obtain ⟨x, hx, rfl⟩ := Option.map_eq_some_iff.1 hy
      exact ⟨x, hx, hf x (hkj ▸ hx)⟩
    · exact ⟨y, hy, rfl, Iff.rfl⟩
  refine ⟨fun addr j => ?_, fun i j x y hij hx hy haddr => ?_, h.held⟩
  · refine (h.mapped addr j).trans ⟨fun hold => ?_, fun hnew => ?_⟩
    · obtain ⟨x, hx, haddr, hphase⟩ := hold
      by_cases hkj : k = j
      · obtain ⟨hfaddr, hfphase⟩ := hf x (hkj ▸ hx)
        refine ⟨f x, ?_, hfaddr.trans haddr, fun hremoved => hphase (hfphase.1 hremoved)⟩
        rw [getElem?_setSession, if_pos hkj, hx, Option.map_some]
      · refine ⟨x, ?_, haddr, hphase⟩
        rw [getElem?_setSession, if_neg hkj, hx]
    · obtain ⟨y, hy, haddr, hphase⟩ := hnew
      obtain ⟨x, hx, hyaddr, hyphase⟩ := hsame j y hy
      exact ⟨x, hx, hyaddr ▸ haddr, fun hremoved => hphase (hyphase.2 hremoved)⟩
  · obtain ⟨x', hx', hxaddr, hxphase⟩ := hsame i x hx
    obtain ⟨y', hy', hyaddr, -⟩ := hsame j y hy
    exact hxphase.2 (h.succeeds i j x' y' hij hx' hy' (by rw [← hxaddr, haddr, hyaddr]))

theorem Inv.turn {before after : Phase} (h : s.Inv) (hturn : s.turn k before after = some s')
    (hbefore : before ≠ .removed) (hafter : after ≠ .removed) : s'.Inv := by
  obtain ⟨x, hx, hphase, rfl⟩ := turn_eq_some hturn
  refine h.setSession fun y hy => ⟨rfl, ?_⟩
  rw [hx] at hy
  obtain rfl := Option.some.inj hy
  simp [hphase, hbefore, hafter]

theorem Inv.enter (h : s.Inv) (addr : Addr) (data : Bytes) : (s.enter addr data).Inv := by
  unfold Server.enter
  split
  · rename_i k hk
    refine ⟨h.mapped, h.succeeds, fun held hheld => ?_⟩
    obtain rfl := Option.some.inj hheld
    exact hk
  · rename_i hnone
    have hlast : ∀ (j : Nat) (x : Session Addr), (s.sessions ++ [({ addr } : Session Addr)])[j]? = some x →
        s.sessions[j]? = some x ∨ (j = s.sessions.length ∧ x = { addr }) := by
      intro j x hx
      rw [List.getElem?_append] at hx
      split_ifs at hx with hj
      · exact .inl hx
      · rw [List.getElem?_singleton] at hx
        split_ifs at hx with hzero
        exact .inr ⟨by omega, (Option.some.inj hx).symm⟩
    have hgone : ∀ (j : Nat) (x : Session Addr), s.sessions[j]? = some x → x.addr = addr → x.phase = .removed := by
      intro j x hx haddr
      by_contra hphase
      have hget := (h.mapped addr j).2 ⟨x, hx, haddr, hphase⟩
      rw [hnone] at hget
      exact absurd hget (by simp)
    refine ⟨fun addr' j => ?_, fun i j x y hij hx hy haddr => ?_, fun held hheld => ?_⟩
    · show (s.sessionMap.insert addr s.sessions.length).get addr' = some j ↔ _
      rw [Table.get_insert]
      split_ifs with heq
      · constructor
        · intro hj
          obtain rfl := Option.some.inj hj
          exact ⟨{ addr }, by simp, heq.symm, by simp⟩
        · rintro ⟨x, hx, haddr, hphase⟩
          rcases hlast j x hx with hx | ⟨hj, -⟩
          · exact absurd (hgone j x hx (haddr.trans heq)) hphase
          · rw [hj]
      · refine (h.mapped addr' j).trans ⟨?_, ?_⟩
        · rintro ⟨x, hx, haddr, hphase⟩
          refine ⟨x, ?_, haddr, hphase⟩
          rw [List.getElem?_append_left (List.getElem?_eq_some_iff.1 hx).1]
          exact hx
        · rintro ⟨x, hx, haddr, hphase⟩
          rcases hlast j x hx with hx | ⟨-, rfl⟩
          · exact ⟨x, hx, haddr, hphase⟩
          · exact absurd haddr.symm heq
    · rcases hlast i x hx with hx | ⟨hi, -⟩
      · rcases hlast j y hy with hy | ⟨-, rfl⟩
        · exact h.succeeds i j x y hij hx hy haddr
        · exact hgone i x hx haddr
      · have hj := (List.getElem?_eq_some_iff.1 hy).1
        rw [List.length_append, List.length_singleton] at hj
        omega
    · obtain rfl := Option.some.inj hheld
      show (s.sessionMap.insert addr s.sessions.length).get addr = some s.sessions.length
      simp

theorem Inv.send (h : s.Inv) (held : Holding Addr) : (s.send held).Inv := by
  have hset := h.setSession (k := held.session) (f := fun x =>
    if x.accepts then { x with queue := x.queue ++ [held.data] } else x) fun x _ => by
      split_ifs <;> exact ⟨rfl, Iff.rfl⟩
  exact ⟨hset.mapped, hset.succeeds, fun held hheld => absurd hheld (by simp [Server.send])⟩

theorem Inv.remove (h : s.Inv) (hremove : s.remove k = some s') : s'.Inv := by
  obtain ⟨x, hx, hphase, hheld, rfl⟩ := remove_eq_some hremove
  have hold : s.sessionMap.get x.addr = some k :=
    (h.mapped x.addr k).2 ⟨x, hx, rfl, by simp [hphase]⟩
  have hback : ∀ (j : Nat) (y : Session Addr), (s.setSession k fun x => { x with phase := .removed }).sessions[j]? = some y →
      ∃ z, s.sessions[j]? = some z ∧ z.addr = y.addr ∧ (z.phase = .removed → y.phase = .removed) := by
    intro j y hy
    rw [getElem?_setSession] at hy
    split_ifs at hy with hkj
    · obtain ⟨z, hz, rfl⟩ := Option.map_eq_some_iff.1 hy
      exact ⟨z, hz, rfl, fun _ => rfl⟩
    · exact ⟨y, hy, rfl, id⟩
  refine ⟨fun addr j => ?_, fun i j y z hij hy hz haddr => ?_, fun held hholding => ?_⟩
  · show (s.sessionMap.remove x.addr).get addr = some j ↔ _
    rw [Table.get_remove]
    split_ifs with heq
    · constructor
      · intro hnone
        exact absurd hnone (by simp)
      · rintro ⟨y, hy, haddr, hyphase⟩
        obtain ⟨z, hz, hzaddr, hzphase⟩ := hback j y hy
        by_cases hkj : k = j
        · have hremoved := hy
          rw [getElem?_setSession, if_pos hkj] at hremoved
          obtain ⟨w, -, rfl⟩ := Option.map_eq_some_iff.1 hremoved
          exact absurd rfl hyphase
        · have hj := (h.mapped addr j).2 ⟨z, hz, hzaddr.trans haddr, fun hz' => hyphase (hzphase hz')⟩
          rw [heq, hold] at hj
          exact absurd (Option.some.inj hj) hkj
    · refine (h.mapped addr j).trans ⟨?_, ?_⟩
      · rintro ⟨y, hy, haddr, hyphase⟩
        refine ⟨y, ?_, haddr, hyphase⟩
        have hkj : k ≠ j := by
          rintro rfl
          rw [hx] at hy
          exact heq (by rw [← haddr, ← Option.some.inj hy])
        show (s.setSession k _).sessions[j]? = _
        rw [getElem?_setSession, if_neg hkj, hy]
      · rintro ⟨y, hy, haddr, hyphase⟩
        obtain ⟨z, hz, hzaddr, hzphase⟩ := hback j y hy
        exact ⟨z, hz, hzaddr.trans haddr, fun hz' => hyphase (hzphase hz')⟩
  · obtain ⟨y', hy', hyaddr, hyphase⟩ := hback i y hy
    obtain ⟨z', hz', hzaddr, -⟩ := hback j z hz
    exact hyphase (h.succeeds i j y' z' hij hy' hz' (by rw [hyaddr, haddr, hzaddr]))
  · show (s.sessionMap.remove x.addr).get held.addr = some held.session
    rw [Table.get_remove, if_neg (hheld held hholding)]
    exact h.held held hholding

theorem Inv.step {e : Event Addr} (h : s.Inv) (hstep : Step s e s') : s'.Inv := by
  unfold Step Server.next at hstep
  cases e with
  | datagram addr data =>
    simp only at hstep
    split_ifs at hstep
    obtain rfl := Option.some.inj hstep
    exact h.enter addr data
  | trySend =>
    obtain ⟨held, -, rfl⟩ := Option.map_eq_some_iff.1 hstep
    exact h.send held
  | recvError =>
    simp only at hstep
    split_ifs at hstep
    obtain rfl := Option.some.inj hstep
    exact ⟨h.mapped, h.succeeds, h.held⟩
  | shutdown =>
    simp only at hstep
    split_ifs at hstep
    obtain rfl := Option.some.inj hstep
    exact ⟨h.mapped, h.succeeds, h.held⟩
  | started k ok =>
    cases ok with
    | true => exact h.turn hstep (by simp) (by simp)
    | false => exact h.turn hstep (by simp) (by simp)
  | takes k =>
    obtain ⟨x, data, rest, -, -, -, rfl⟩ := take_eq_some hstep
    exact h.setSession fun _ _ => ⟨rfl, Iff.rfl⟩
  | ends k => exact h.turn hstep (by simp) (by simp)
  | closed k => exact h.turn hstep (by simp) (by simp)
  | removes k => exact h.remove hstep

theorem inv_of_run {trace : List (Server Addr × Event Addr)} (hrun : Run Step {} trace s) : s.Inv :=
  hrun.invariant Inv
    ⟨fun addr k => by simp, fun _ _ _ _ _ hx => absurd hx (by simp), fun _ hheld => absurd hheld (by simp)⟩
    fun _ _ _ h hstep => h.step hstep

/-! ### The datagrams of a peer -/

/-- The sessions of a peer, in the order in which they appear. -/
def sessionsOf (s : Server Addr) (addr : Addr) : List (Session Addr) := s.sessions.filter fun x => x.addr = addr

/-- What the sessions of a peer have got, one session after the other. -/
def takenBy (s : Server Addr) (addr : Addr) : List Bytes := (s.sessionsOf addr).flatMap Session.taken

/-- What the sessions of a peer have been handed. -/
def receivedBy (s : Server Addr) (addr : Addr) : List Bytes := (s.sessionsOf addr).flatMap Session.received

/-- The datagram of a peer that the loop has not sent on yet. -/
def heldFrom (s : Server Addr) (addr : Addr) : List Bytes :=
  match s.holding with
  | some held => if held.addr = addr then [held.data] else []
  | none => []

/-- The `try_send` of the datagram succeeds. -/
def accepts (s : Server Addr) (held : Holding Addr) : Bool := s.sessions[held.session]?.any Session.accepts

/-- The datagrams of a peer that have come. -/
def arrived (addr : Addr) (trace : List (Server Addr × Event Addr)) : List Bytes :=
  trace.flatMap fun
    | (_, .datagram addr' data) => if addr' = addr then [data] else []
    | _ => []

/-- The datagrams of a peer that have been put into a channel. -/
def accepted (addr : Addr) (trace : List (Server Addr × Event Addr)) : List Bytes :=
  trace.flatMap fun
    | (s, .trySend) => if s.holding.any s.accepts then s.heldFrom addr else []
    | _ => []

/-- A datagram of the peer is lost: the channel is full, or the session has stopped reading. -/
def Drops (addr : Addr) : Server Addr × Event Addr → Prop
  | (s, .trySend) => ∃ held, s.holding = some held ∧ held.addr = addr ∧ s.accepts held = false
  | _ => False

theorem receivedBy_sublist (s : Server Addr) (addr : Addr) : (s.receivedBy addr).Sublist (s.takenBy addr) := by
  unfold receivedBy takenBy
  induction s.sessionsOf addr with
  | nil => exact .slnil
  | cons x l ih =>
    simp only [List.flatMap_cons]
    exact (List.sublist_append_left _ _).append ih

theorem takenBy_setSession {x : Session Addr} (hx : s.sessions[k]? = some x) (f : Session Addr → Session Addr)
    (haddr : (f x).addr = x.addr) (addr : Addr) :
    ∃ l₁ l₂, s.sessions = l₁ ++ x :: l₂ ∧ l₁.length = k ∧
      s.takenBy addr = (l₁.filter fun y => y.addr = addr).flatMap Session.taken ++
        ((if x.addr = addr then x.taken else []) ++ (l₂.filter fun y => y.addr = addr).flatMap Session.taken) ∧
      (s.setSession k f).takenBy addr = (l₁.filter fun y => y.addr = addr).flatMap Session.taken ++
        ((if x.addr = addr then (f x).taken else []) ++
          (l₂.filter fun y => y.addr = addr).flatMap Session.taken) := by
  obtain ⟨hlt, hget⟩ := List.getElem?_eq_some_iff.1 hx
  obtain ⟨l₁, y, l₂, hl, hlength, hmodify⟩ := List.exists_of_modify f hlt
  have hy : x = y := by
    rw [hl, List.getElem?_append_right (by omega), hlength] at hx
    simpa using hx.symm
  subst hy
  refine ⟨l₁, l₂, hl, hlength, ?_, ?_⟩
  · unfold takenBy sessionsOf
    rw [hl]
    by_cases hxaddr : x.addr = addr <;> simp [List.filter_append, hxaddr]
  · unfold takenBy sessionsOf setSession
    simp only [hmodify]
    by_cases hxaddr : x.addr = addr <;> simp [List.filter_append, hxaddr, haddr]

theorem takenBy_setSession_same {x : Session Addr} (hx : s.sessions[k]? = some x)
    {f : Session Addr → Session Addr} (haddr : (f x).addr = x.addr) (htaken : (f x).taken = x.taken)
    (addr : Addr) : (s.setSession k f).takenBy addr = s.takenBy addr := by
  obtain ⟨l₁, l₂, -, -, hbefore, hafter⟩ := takenBy_setSession hx f haddr addr
  rw [hbefore, hafter, htaken]

theorem Inv.takenBy_send (h : s.Inv) {held : Holding Addr} (hheld : s.holding = some held) (addr : Addr) :
    (s.send held).takenBy addr = s.takenBy addr ++ if s.accepts held then s.heldFrom addr else [] := by
  obtain ⟨x, hx, hxaddr, hphase⟩ := (h.mapped held.addr held.session).1 (h.held held hheld)
  let f : Session Addr → Session Addr := fun x =>
    if x.accepts then { x with queue := x.queue ++ [held.data] } else x
  have haddr : (f x).addr = x.addr := by
    simp only [f]
    split_ifs <;> rfl
  have haccepts : s.accepts held = x.accepts := by simp [Server.accepts, hx]
  have hfrom : s.heldFrom addr = if held.addr = addr then [held.data] else [] := by simp [heldFrom, hheld]
  show (s.setSession held.session f).takenBy addr = _
  obtain ⟨l₁, l₂, hl, hlength, hbefore, hafter⟩ := takenBy_setSession hx f haddr addr
  rw [hbefore, hafter, haccepts, hfrom, hxaddr]
  by_cases hheldAddr : held.addr = addr
  · have hlast : l₂.filter (fun y => y.addr = addr) = [] := by
      rw [List.filter_eq_nil_iff]
      intro y hy
      obtain ⟨j, hj⟩ := List.mem_iff_getElem?.1 hy
      have hylater : s.sessions[held.session + 1 + j]? = some y := by
        rw [hl, List.getElem?_append_right (by omega), ← hj]
        rw [show held.session + 1 + j - l₁.length = j + 1 by omega, List.getElem?_cons_succ]
      intro hyaddr
      refine hphase (h.succeeds _ _ x y ?_ hx hylater ?_)
      · omega
      · rw [hxaddr, hheldAddr]
        simpa using (of_decide_eq_true hyaddr).symm
    rw [hlast]
    by_cases hx' : x.accepts = true <;> simp [f, hx', hheldAddr, Session.taken]
  · simp [hheldAddr]

/-- What the loop has sent on, and what it is about to send, is what has come, without what was dropped. -/
structure Delivered (addr : Addr) (trace : List (Server Addr × Event Addr)) (s : Server Addr) : Prop where
  taken : s.takenBy addr = accepted addr trace
  inOrder : (accepted addr trace ++ s.heldFrom addr).Sublist (arrived addr trace)
  complete : (∀ e ∈ trace, ¬ Drops addr e) → accepted addr trace ++ s.heldFrom addr = arrived addr trace

omit [DecidableEq Addr] in
theorem mem_snoc_of {P : Server Addr × Event Addr → Prop} {trace : List (Server Addr × Event Addr)}
    {e : Server Addr × Event Addr} (h : ∀ e' ∈ trace ++ [e], P e') : (∀ e' ∈ trace, P e') ∧ P e :=
  ⟨fun e' he' => h e' (List.mem_append_left _ he'), h e (by simp)⟩

theorem Delivered.other {trace : List (Server Addr × Event Addr)} {e : Event Addr}
    (h : Delivered addr trace s) (harrived : arrived addr [(s, e)] = []) (haccepted : accepted addr [(s, e)] = [])
    (htaken : s'.takenBy addr = s.takenBy addr) (hheld : s'.heldFrom addr = s.heldFrom addr) :
    Delivered addr (trace ++ [(s, e)]) s' := by
  have harrived' : arrived addr (trace ++ [(s, e)]) = arrived addr trace := by
    rw [arrived, List.flatMap_append, ← arrived, ← arrived, harrived, List.append_nil]
  have haccepted' : accepted addr (trace ++ [(s, e)]) = accepted addr trace := by
    rw [accepted, List.flatMap_append, ← accepted, ← accepted, haccepted, List.append_nil]
  refine ⟨?_, ?_, fun hnone => ?_⟩
  · rw [htaken, haccepted', h.taken]
  · rw [haccepted', harrived', hheld]
    exact h.inOrder
  · rw [haccepted', harrived', hheld]
    exact h.complete (mem_snoc_of hnone).1

theorem Delivered.datagram {trace : List (Server Addr × Event Addr)} {peer : Addr} {data : Bytes}
    (h : Delivered addr trace s) (hidle : s.holding = none) :
    Delivered addr (trace ++ [(s, .datagram peer data)]) (s.enter peer data) := by
  have hbefore : s.heldFrom addr = [] := by simp [heldFrom, hidle]
  have hafter : (s.enter peer data).heldFrom addr = if peer = addr then [data] else [] := by
    unfold enter
    split <;> rfl
  have htaken : (s.enter peer data).takenBy addr = s.takenBy addr := by
    unfold enter
    split
    · rfl
    · by_cases hpeer : peer = addr <;>
        simp [takenBy, sessionsOf, List.filter_append, hpeer, Session.taken]
  have harrived : arrived addr (trace ++ [(s, .datagram peer data)]) =
      arrived addr trace ++ if peer = addr then [data] else [] := by
    rw [arrived, List.flatMap_append, ← arrived]
    simp
  have haccepted : accepted addr (trace ++ [(s, .datagram peer data)]) = accepted addr trace := by
    rw [accepted, List.flatMap_append, ← accepted]
    simp
  have hinOrder := h.inOrder
  rw [hbefore, List.append_nil] at hinOrder
  refine ⟨?_, ?_, fun hnone => ?_⟩
  · rw [htaken, haccepted, h.taken]
  · rw [haccepted, harrived, hafter]
    exact hinOrder.append (List.Sublist.refl _)
  · have hcomplete := h.complete (mem_snoc_of hnone).1
    rw [hbefore, List.append_nil] at hcomplete
    rw [haccepted, harrived, hafter, hcomplete]

theorem Delivered.trySend {trace : List (Server Addr × Event Addr)} {held : Holding Addr} (hinv : s.Inv)
    (h : Delivered addr trace s) (hheld : s.holding = some held) :
    Delivered addr (trace ++ [(s, .trySend)]) (s.send held) := by
  have hafter : (s.send held).heldFrom addr = [] := rfl
  have harrived : arrived addr (trace ++ [(s, .trySend)]) = arrived addr trace := by
    rw [arrived, List.flatMap_append, ← arrived]
    simp
  have haccepted : accepted addr (trace ++ [(s, .trySend)]) =
      accepted addr trace ++ if s.accepts held then s.heldFrom addr else [] := by
    rw [accepted, List.flatMap_append, ← accepted]
    simp [hheld]
  refine ⟨?_, ?_, fun hnone => ?_⟩
  · rw [hinv.takenBy_send hheld, haccepted, h.taken]
  · rw [haccepted, harrived, hafter, List.append_nil]
    refine List.Sublist.trans ?_ h.inOrder
    refine (List.Sublist.refl _).append ?_
    split_ifs
    · exact List.Sublist.refl _
    · exact List.nil_sublist _
  · obtain ⟨hbefore, hlast⟩ := mem_snoc_of hnone
    rw [haccepted, harrived, hafter, List.append_nil, ← h.complete hbefore]
    congr 1
    split_ifs with hyes
    · rfl
    · have hne : held.addr ≠ addr := fun heq => hlast ⟨held, hheld, heq, by simpa using hyes⟩
      simp [heldFrom, hheld, hne]

theorem Delivered.step {trace : List (Server Addr × Event Addr)} {e : Event Addr} (hinv : s.Inv)
    (h : Delivered addr trace s) (hstep : Step s e s') : Delivered addr (trace ++ [(s, e)]) s' := by
  have hturn : ∀ k before after, s.turn k before after = some s' →
      s'.takenBy addr = s.takenBy addr ∧ s'.heldFrom addr = s.heldFrom addr := by
    intro k before after hturn
    obtain ⟨x, hx, -, rfl⟩ := turn_eq_some hturn
    exact ⟨takenBy_setSession_same hx rfl rfl addr, rfl⟩
  unfold Step Server.next at hstep
  cases e with
  | datagram peer data =>
    simp only at hstep
    split_ifs at hstep with hbusy
    obtain rfl := Option.some.inj hstep
    exact h.datagram (by simpa using fun hheld => hbusy (.inr hheld))
  | trySend =>
    obtain ⟨held, hheld, rfl⟩ := Option.map_eq_some_iff.1 hstep
    exact h.trySend hinv hheld
  | recvError =>
    simp only at hstep
    split_ifs at hstep
    obtain rfl := Option.some.inj hstep
    exact h.other rfl rfl rfl rfl
  | shutdown =>
    simp only at hstep
    split_ifs at hstep
    obtain rfl := Option.some.inj hstep
    exact h.other rfl rfl rfl rfl
  | started k ok =>
    cases ok with
    | true => exact h.other rfl rfl (hturn _ _ _ hstep).1 (hturn _ _ _ hstep).2
    | false => exact h.other rfl rfl (hturn _ _ _ hstep).1 (hturn _ _ _ hstep).2
  | takes k =>
    obtain ⟨x, data, rest, hx, -, hqueue, rfl⟩ := take_eq_some hstep
    refine h.other rfl rfl (takenBy_setSession_same hx rfl ?_ addr) rfl
    simp [Session.taken, hqueue]
  | ends k => exact h.other rfl rfl (hturn _ _ _ hstep).1 (hturn _ _ _ hstep).2
  | closed k => exact h.other rfl rfl (hturn _ _ _ hstep).1 (hturn _ _ _ hstep).2
  | removes k =>
    obtain ⟨x, hx, -, -, rfl⟩ := remove_eq_some hstep
    exact h.other rfl rfl (takenBy_setSession_same hx rfl rfl addr) rfl

theorem accounts_of_run {trace : List (Server Addr × Event Addr)} (hrun : Run Step {} trace s) (addr : Addr) :
    Delivered addr trace s :=
  hrun.invariant_trace ⟨rfl, .slnil, fun _ => rfl⟩
    fun _ _ _ _ hrun h hstep => h.step (inv_of_run hrun) hstep

/-! ### Runs -/

/-- A peer has one session at a time, and its entry in the table is that of this session. -/
theorem oneSession_of_run {trace : List (Server Addr × Event Addr)} (hrun : Run Step {} trace s) :
    s.Mapped ∧ ∀ (j k : Nat) (x y : Session Addr), j < k → s.sessions[j]? = some x → s.sessions[k]? = some y →
      x.addr = y.addr → x.phase = .removed :=
  ⟨(inv_of_run hrun).mapped, (inv_of_run hrun).succeeds⟩

/-- The sessions of a peer are handed, one after the other, some of the datagrams that have come from it, in
the order in which they came; and all of them if no channel was full or closed. -/
theorem received_of_run {trace : List (Server Addr × Event Addr)} (hrun : Run Step {} trace s) (addr : Addr) :
    s.takenBy addr = accepted addr trace ∧ (s.receivedBy addr).Sublist (arrived addr trace) ∧
      ((∀ e ∈ trace, ¬ Drops addr e) → s.takenBy addr ++ s.heldFrom addr = arrived addr trace) := by
  have h := accounts_of_run hrun addr
  refine ⟨h.taken, ?_, fun hnone => ?_⟩
  · apply (s.receivedBy_sublist addr).trans
    rw [h.taken]
    exact (List.sublist_append_left _ _).trans h.inOrder
  · rw [h.taken]
    exact h.complete hnone

/-- A peer's session ends while datagrams of the peer are on their way, and a second one appears. -/
def sample : List (Event Nat) :=
  [.datagram 1 [1], .trySend, .started 0 true, .takes 0, .datagram 2 [7], .trySend, .datagram 1 [2], .trySend,
    .ends 0, .datagram 1 [3], .trySend, .closed 0, .removes 0, .datagram 1 [4], .trySend, .started 2 true, .takes 2]

theorem received_of_run_sample : ∃ trace s, Run Step ({} : Server Nat) trace s ∧
    s.receivedBy 1 = [[1], [4]] ∧ (s.receivedBy 1).Sublist (arrived 1 trace) := by
  have hsample : (Run.record next {} sample).map (fun r => r.2.receivedBy 1) = some [[1], [4]] := by decide
  obtain ⟨⟨trace, s⟩, hrecord, hreceived⟩ := Option.map_eq_some_iff.1 hsample
  have hrun : Run Step {} trace s := Run.of_record (fun _ _ _ h => h) hrecord
  exact ⟨trace, s, hrun, hreceived, (received_of_run hrun 1).2.1⟩

theorem oneSession_of_run_sample : ∃ trace s, Run Step ({} : Server Nat) trace s ∧
    s.sessions.map (fun x => x.addr) = [1, 2, 1] ∧ s.Mapped := by
  have hsample : (Run.record next {} sample).map (fun r => r.2.sessions.map fun x => x.addr) = some [1, 2, 1] := by
    decide
  obtain ⟨⟨trace, s⟩, hrecord, hsessions⟩ := Option.map_eq_some_iff.1 hsample
  have hrun : Run Step {} trace s := Run.of_record (fun _ _ _ h => h) hrecord
  exact ⟨trace, s, hrun, hsessions, (oneSession_of_run hrun).1⟩

end Server

end AxmolFighter.Net.Udp
