import AxmolFighter.Lib.Run

/-!
# The shutdown of a server

`base/src/net/tcp_server.rs`, `ws_server.rs`, `kcp_server.rs` and `quic_server.rs` accept connections and
spawn a task for each. A shutdown drops the server's sender of `notify_shutdown`, which closes the channel
when there is no other sender, and then waits until every task has dropped its clone of
`shutdown_complete_tx`, or for a minute.

The tasks of the first three servers have receivers of the channel only, so the closed channel tells every
session at once. A connection task of the QUIC server keeps a clone of the sender for its streams, and so keeps
the channel open; its server therefore sends a message before it drops its own sender. A connection subscribes
in its own task, so the message reaches the connections whose tasks have run before the shutdown. One whose task
runs only afterwards is never told: the shutdown waits for its client to leave, or for the minute to pass. A
task in a handshake does not look at the channel either: TLS gives up after its own time limit, and the
handshake of a WebSocket waits for the client.

A session whose write loop panics does not come to `on_session_close` and has no event here.
-/

namespace AxmolFighter.Net.Servers

/-- Where a task stands. -/
inductive Phase
  /-- TLS, or the handshake of a WebSocket -/
  | handshake
  /-- `on_session_start` -/
  | starting
  /-- the `select!` of a session -/
  | running
  /-- `on_session_close` -/
  | closing
  /-- a QUIC connection whose task has not run, so that it has not subscribed -/
  | spawned
  /-- the loop of a QUIC connection -/
  | accepting
  | finished
deriving DecidableEq

namespace Phase

/-- The task has a sender of `notify_shutdown`. -/
def sends (phase : Phase) : Bool := phase = .spawned || phase = .accepting

end Phase

structure Task where
  phase : Phase
  /-- The receiver of the task has the message of the shutdown. -/
  notified : Bool := false
deriving DecidableEq

/-- `notify_shutdown.send(())` reaches the receivers that there are. -/
def Task.notify (task : Task) : Task := { task with notified := task.phase ≠ .spawned }

/-- The tasks are numbered in the order in which they are spawned. -/
structure Server where
  tasks : List Task := []
  /-- the `select!` of `build_with_listener` is over, and the server's own senders are dropped -/
  stopping : Bool := false
  /-- `build_with_listener` has returned, before the minute has passed or after it -/
  returned : Option Bool := none
deriving DecidableEq

inductive Event
  | accepts
  /-- the task of the QUIC connection `k` runs for the first time -/
  | subscribes (k : Nat)
  /-- a stream of the QUIC connection `k` -/
  | opens (k : Nat)
  | established (k : Nat) (ok : Bool)
  | started (k : Nat) (ok : Bool)
  /-- the task ends for a reason of its own: its reader or writer, or the peer of a connection -/
  | ends (k : Nat)
  /-- `shutdown.recv()` returns -/
  | told (k : Nat)
  /-- `on_session_close` returns -/
  | closes (k : Nat)
  | stop
  | allDone
  | timesOut
deriving DecidableEq

def Event.isOpens : Event → Bool
  | .opens _ => true
  | _ => false

/-- The step is one of the server's own tasks: it waits for no client and no clock. -/
def Event.isOwn : Event → Bool
  | .subscribes _ | .started _ _ | .told _ | .closes _ | .stop | .allDone => true
  | .accepts | .opens _ | .established _ _ | .ends _ | .timesOut => false

namespace Server

def phases (s : Server) : List Phase := s.tasks.map Task.phase

/-- There is no sender of `notify_shutdown` any more. -/
def shutdownClosed (s : Server) : Bool := s.stopping && s.phases.all fun phase => !phase.sends

def notified (s : Server) (k : Nat) : Bool := s.tasks[k]?.any Task.notified

/-- Task `k` goes from `before` to `after`. -/
def turn (s : Server) (k : Nat) (before after : Phase) : Option Server :=
  if s.phases[k]? = some before then some { s with tasks := s.tasks.modify k fun task => { task with phase := after } }
  else none

def spawn (s : Server) (phase : Phase) : Server := { s with tasks := s.tasks ++ [{ phase := phase }] }

/-- A session or a connection is over. -/
def leave (s : Server) (k : Nat) : Option Server :=
  if s.phases[k]? = some .accepting then s.turn k .accepting .finished else s.turn k .running .closing

def next (quic : Bool) (s : Server) : Event → Option Server
  | .accepts => if s.stopping then none else some (s.spawn (if quic then .spawned else .handshake))
  | .subscribes k => s.turn k .spawned .accepting
  | .opens k => if s.phases[k]? = some .accepting then some (s.spawn .starting) else none
  | .established k ok => s.turn k .handshake (if ok then .starting else .finished)
  | .started k ok => s.turn k .starting (if ok then .running else .finished)
  | .ends k => s.leave k
  | .told k => if s.shutdownClosed ∨ s.notified k then s.leave k else none
  | .closes k => s.turn k .closing .finished
  | .stop =>
      if s.stopping then none
      else some { s with stopping := true, tasks := if quic then s.tasks.map Task.notify else s.tasks }
  | .allDone =>
      if s.stopping ∧ s.returned = none ∧ s.phases.all (· = .finished) then some { s with returned := some true }
      else none
  | .timesOut => if s.stopping ∧ s.returned = none then some { s with returned := some false } else none

def Step (quic : Bool) (s : Server) (e : Event) (s' : Server) : Prop := s.next quic e = some s'

variable {quic : Bool} {s s' : Server} {k : Nat} {e : Event} {trace : List (Server × Event)}

@[simp] theorem phases_spawn (phase : Phase) : (s.spawn phase).phases = s.phases ++ [phase] := by
  simp [spawn, phases]

theorem phases_notify (s : Server) : (s.tasks.map Task.notify).map Task.phase = s.phases := by
  simp [phases, Task.notify, Function.comp_def]

theorem getElem?_phases : s.phases[k]? = s.tasks[k]?.map Task.phase := by
  simp [phases]

theorem turn_eq_some {before after : Phase} (h : s.turn k before after = some s') :
    s.phases[k]? = some before ∧ s'.phases = s.phases.set k after ∧ s'.stopping = s.stopping ∧
      s'.returned = s.returned ∧ ∀ j, s'.notified j = s.notified j := by
  unfold turn at h
  split_ifs at h with hbefore
  obtain rfl := Option.some.inj h
  refine ⟨hbefore, ?_, rfl, rfl, fun j => ?_⟩
  · apply List.ext_getElem?
    intro j
    rw [List.getElem?_set, getElem?_phases, getElem?_phases, List.getElem?_modify]
    rw [getElem?_phases] at hbefore
    by_cases hkj : k = j
    · subst hkj
      rcases htask : s.tasks[k]? with _ | task
      · simp [htask] at hbefore
      · simp [phases, (List.getElem?_eq_some_iff.1 htask).1]
    · simp [hkj]
  · simp only [notified, List.getElem?_modify]
    split_ifs
    · rcases s.tasks[j]? with _ | task <;> rfl
    · simp

/-! ### What a step does to the tasks -/

/-- The turns of a task, with the event that makes each. -/
inductive Turn (s : Server) (k : Nat) : Event → Phase → Phase → Prop
  | subscribes : Turn s k (.subscribes k) .spawned .accepting
  | established (ok : Bool) : Turn s k (.established k ok) .handshake (if ok then .starting else .finished)
  | started (ok : Bool) : Turn s k (.started k ok) .starting (if ok then .running else .finished)
  | leaves {e : Event} (he : e = .ends k ∨ e = .told k ∧ (s.shutdownClosed = true ∨ s.notified k = true)) :
      Turn s k e .accepting .finished
  | closing {e : Event} (he : e = .ends k ∨ e = .told k ∧ (s.shutdownClosed = true ∨ s.notified k = true)) :
      Turn s k e .running .closing
  | closes : Turn s k (.closes k) .closing .finished

/-- What happens to the tasks: one is spawned, one turns, or none changes. -/
inductive Changes (quic : Bool) (s : Server) (e : Event) : List Phase → Prop
  | accepts (he : e = .accepts) (hstopping : s.stopping = false) :
      Changes quic s e (s.phases ++ [if quic then .spawned else .handshake])
  | opens {k : Nat} (he : e = .opens k) (haccepting : s.phases[k]? = some .accepting) :
      Changes quic s e (s.phases ++ [.starting])
  | turns {k : Nat} {before after : Phase} (hbefore : s.phases[k]? = some before) (hturn : Turn s k e before after) :
      Changes quic s e (s.phases.set k after)
  | keeps (he : e = .stop ∨ e = .allDone ∨ e = .timesOut) : Changes quic s e s.phases

/-- What a step does: the change of the tasks, who has the message, and what the shutdown has come to. -/
structure Does (quic : Bool) (s : Server) (e : Event) (s' : Server) : Prop where
  phases : Changes quic s e s'.phases
  notified : ∀ k, s'.notified k =
    if quic = true ∧ e = .stop then s.phases[k]?.any (· ≠ .spawned) else s.notified k
  stopping : s'.stopping = true ↔ s.stopping = true ∨ e = .stop
  returned : (s'.returned = s.returned ∧ e ≠ .allDone ∧ e ≠ .timesOut) ∨ s.stopping = true ∧ s.returned = none ∧
    (e = .allDone ∧ (∀ phase ∈ s.phases, phase = .finished) ∧ s'.returned = some true ∨
      e = .timesOut ∧ s'.returned = some false)

theorem Turn.event_ne {before after : Phase} (hturn : Turn s k e before after) :
    e ≠ .stop ∧ e ≠ .allDone ∧ e ≠ .timesOut := by
  cases hturn with
  | subscribes => simp
  | established ok => simp
  | started ok => simp
  | leaves he => rcases he with rfl | ⟨rfl, -⟩ <;> simp
  | closing he => rcases he with rfl | ⟨rfl, -⟩ <;> simp
  | closes => simp

theorem Turn.does {before after : Phase} (h : s.turn k before after = some s') (hturn : Turn s k e before after) :
    Does quic s e s' := by
  obtain ⟨hbefore, hphases, hstopping, hreturned, hnotified⟩ := turn_eq_some h
  obtain ⟨he, hevent⟩ := hturn.event_ne
  refine ⟨?_, fun j => ?_, ?_, .inl ⟨hreturned, hevent⟩⟩
  · rw [hphases]
    exact .turns hbefore hturn
  · rw [if_neg (by simp [he]), hnotified]
  · simp [hstopping, he]

theorem leave_does (h : s.leave k = some s')
    (he : e = .ends k ∨ e = .told k ∧ (s.shutdownClosed = true ∨ s.notified k = true)) : Does quic s e s' := by
  unfold leave at h
  split_ifs at h
  · exact Turn.does h (.leaves he)
  · exact Turn.does h (.closing he)

theorem notified_spawn (phase : Phase) (j : Nat) : (s.spawn phase).notified j = s.notified j := by
  simp only [notified, spawn, List.getElem?_append]
  split_ifs with hj
  · rfl
  · rw [List.getElem?_singleton, List.getElem?_eq_none (by omega)]
    split_ifs <;> rfl

theorem Step.does (h : Step quic s e s') : Does quic s e s' := by
  unfold Step next at h
  cases e with
  | accepts =>
    simp only at h
    rcases hstopping : s.stopping with - | -
    · rw [hstopping, if_neg (by simp)] at h
      obtain rfl := Option.some.inj h
      refine ⟨?_, fun j => ?_, by simp [spawn], .inl ⟨rfl, by simp⟩⟩
      · rw [phases_spawn]
        exact .accepts rfl hstopping
      · rw [notified_spawn, if_neg (by simp)]
    · simp [hstopping] at h
  | subscribes k => exact Turn.does h .subscribes
  | opens k =>
    simp only at h
    split_ifs at h with haccepting
    obtain rfl := Option.some.inj h
    refine ⟨?_, fun j => ?_, by simp [spawn], .inl ⟨rfl, by simp⟩⟩
    · rw [phases_spawn]
      exact .opens rfl haccepting
    · rw [if_neg (by simp), notified_spawn]
  | established k ok => exact Turn.does h (.established ok)
  | started k ok => exact Turn.does h (.started ok)
  | ends k => exact leave_does h (.inl rfl)
  | told k =>
    simp only at h
    split_ifs at h with htold
    exact leave_does h (.inr ⟨rfl, htold⟩)
  | closes k => exact Turn.does h .closes
  | stop =>
    rcases hstopping : s.stopping with - | -
    · simp only [hstopping] at h
      obtain rfl := Option.some.inj h
      cases quic with
      | false => exact ⟨.keeps (.inl rfl), by simp [notified], by simp, .inl ⟨rfl, by simp⟩⟩
      | true =>
        have hphases : (s.tasks.map Task.notify).map Task.phase = s.phases := phases_notify s
        refine ⟨?_, fun j => ?_, by simp, .inl ⟨rfl, by simp⟩⟩
        · simp only [Server.phases, if_true] at hphases ⊢
          rw [hphases]
          exact .keeps (.inl rfl)
        · simp only [and_self, if_true, getElem?_phases, notified, List.getElem?_map]
          rcases s.tasks[j]? with _ | task <;> rfl
    · simp [hstopping] at h
  | allDone =>
    simp only at h
    split_ifs at h with hall
    obtain rfl := Option.some.inj h
    exact ⟨.keeps (.inr (.inl rfl)), by simp [notified], by simp,
      .inr ⟨hall.1, hall.2.1, .inl ⟨rfl, by simpa using hall.2.2, rfl⟩⟩⟩
  | timesOut =>
    simp only at h
    split_ifs at h with hnone
    obtain rfl := Option.some.inj h
    exact ⟨.keeps (.inr (.inr rfl)), by simp [notified], by simp, .inr ⟨hnone.1, hnone.2, .inr ⟨rfl, rfl⟩⟩⟩

theorem Turn.before_ne {before after : Phase} (h : Turn s k e before after) : before ≠ .finished := by
  cases h <;> simp

/-! ### Sessions are closed once -/

def startsOf (k : Nat) (trace : List (Server × Event)) : Nat := trace.countP fun e => e.2 = .started k true

def closesOf (k : Nat) (trace : List (Server × Event)) : Nat := trace.countP fun e => e.2 = .closes k

/-- How often `on_session_start` has succeeded for a task, and `on_session_close` has returned. -/
def Ledger : Option Phase → Nat → Nat → Prop
  | some .running, starts, closes | some .closing, starts, closes => starts = 1 ∧ closes = 0
  | some .finished, starts, closes => starts ≤ 1 ∧ closes = starts
  | _, starts, closes => starts = 0 ∧ closes = 0

theorem startsOf_snoc (k : Nat) :
    startsOf k (trace ++ [(s, e)]) = startsOf k trace + if e = .started k true then 1 else 0 := by
  unfold startsOf
  rw [List.countP_append, List.countP_singleton]
  simp

theorem closesOf_snoc (k : Nat) : closesOf k (trace ++ [(s, e)]) = closesOf k trace + if e = .closes k then 1 else 0 := by
  unfold closesOf
  rw [List.countP_append, List.countP_singleton]
  simp

theorem Turn.ledger {before after : Phase} {starts closes : Nat} (hturn : Turn s k e before after)
    (h : Ledger (some before) starts closes) :
    Ledger (some after) (starts + if e = .started k true then 1 else 0)
      (closes + if e = .closes k then 1 else 0) := by
  cases hturn with
  | subscribes => simpa [Ledger] using h
  | established ok =>
    obtain ⟨hstarts, hcloses⟩ := h
    cases ok <;> simp [Ledger, hstarts, hcloses]
  | started ok =>
    obtain ⟨hstarts, hcloses⟩ := h
    cases ok <;> simp [Ledger, hstarts, hcloses]
  | leaves he =>
    obtain ⟨hstarts, hcloses⟩ := h
    rcases he with rfl | ⟨rfl, -⟩ <;> simp [Ledger, hstarts, hcloses]
  | closing he =>
    obtain ⟨hstarts, hcloses⟩ := h
    rcases he with rfl | ⟨rfl, -⟩ <;> simp [Ledger, hstarts, hcloses]
  | closes =>
    obtain ⟨hstarts, hcloses⟩ := h
    simp [Ledger, hstarts, hcloses]

theorem Turn.quiet {before after : Phase} (hturn : Turn s k e before after) {j : Nat} (hkj : k ≠ j) :
    e ≠ .started j true ∧ e ≠ .closes j := by
  cases hturn with
  | subscribes => simp
  | established ok => simp
  | started ok => simp [hkj]
  | leaves he => rcases he with rfl | ⟨rfl, -⟩ <;> simp
  | closing he => rcases he with rfl | ⟨rfl, -⟩ <;> simp
  | closes => simp [hkj]

theorem ledger_spawn {phase : Phase} (hphase : phase = .spawned ∨ phase = .handshake ∨ phase = .starting) {j : Nat}
    {starts closes : Nat} (h : Ledger s.phases[j]? starts closes) :
    Ledger (s.phases ++ [phase])[j]? starts closes := by
  rw [List.getElem?_append]
  split_ifs with hj
  · exact h
  · rw [List.getElem?_eq_none (by omega)] at h
    rw [List.getElem?_singleton]
    split_ifs
    · rcases hphase with rfl | rfl | rfl <;> exact h
    · exact h

theorem ledger_step (hdoes : Does quic s e s') (j : Nat)
    (h : Ledger s.phases[j]? (startsOf j trace) (closesOf j trace)) :
    Ledger s'.phases[j]? (startsOf j (trace ++ [(s, e)])) (closesOf j (trace ++ [(s, e)])) := by
  have hphases := hdoes.phases
  rw [startsOf_snoc, closesOf_snoc]
  generalize s'.phases = phases at hphases
  cases hphases with
  | accepts he hstopping =>
    subst he
    refine ledger_spawn ?_ h
    split_ifs <;> simp
  | opens he haccepting =>
    subst he
    exact ledger_spawn (by simp) h
  | @turns k before after hbefore hturn =>
    by_cases hkj : k = j
    · subst hkj
      rw [hbefore] at h
      rw [List.getElem?_set_self (List.getElem?_eq_some_iff.1 hbefore).1]
      exact hturn.ledger h
    · rw [List.getElem?_set_ne hkj, if_neg (hturn.quiet hkj).1, if_neg (hturn.quiet hkj).2]
      exact h
  | keeps he =>
    rcases he with rfl | rfl | rfl <;> simpa using h

theorem ledger_of_run (hrun : Run (Step quic) {} trace s) (k : Nat) :
    Ledger s.phases[k]? (startsOf k trace) (closesOf k trace) := by
  induction hrun with
  | start => exact ⟨rfl, rfl⟩
  | next _ hstep ih => exact ledger_step hstep.does k ih

/-! ### A shutdown that has come to its end -/

/-- When the server has seen the end of all tasks, it stays so. -/
def Over (s : Server) : Prop := s.returned = some true → s.stopping = true ∧ ∀ phase ∈ s.phases, phase = .finished

theorem finished_step (hdoes : Does quic s e s') (hstopping : s.stopping = true)
    (hall : ∀ phase ∈ s.phases, phase = .finished) : ∀ phase ∈ s'.phases, phase = .finished := by
  have hphases := hdoes.phases
  generalize s'.phases = phases at hphases
  cases hphases with
  | accepts he hno =>
    rw [hstopping] at hno
    exact absurd hno (by simp)
  | opens he hk => exact absurd (hall _ (List.mem_of_getElem? hk)) (by simp)
  | turns hbefore hturn => exact absurd (hall _ (List.mem_of_getElem? hbefore)) hturn.before_ne
  | keeps he => exact hall

theorem over_of_run (hrun : Run (Step quic) {} trace s) : s.Over := by
  refine hrun.invariant Over (fun h => by simp at h) fun s e s' hover hstep hreturned => ?_
  have hdoes := hstep.does
  rcases hdoes.returned with ⟨hsame, -, -⟩ | ⟨hstopping, -, ⟨rfl, hfinished, -⟩ | ⟨rfl, hfalse⟩⟩
  · obtain ⟨hstopping, hfinished⟩ := hover (hsame ▸ hreturned)
    exact ⟨hdoes.stopping.2 (.inl hstopping), finished_step hdoes hstopping hfinished⟩
  · exact ⟨hdoes.stopping.2 (.inl hstopping), finished_step hdoes hstopping hfinished⟩
  · rw [hfalse] at hreturned
    exact absurd hreturned (by simp)

/-- **A session is closed once.** `on_session_close` is called at most once for a session, and only if
`on_session_start` has succeeded; and when the server has returned before the minute has passed, it has been
called for every session for which that is so. -/
theorem closedOnce_of_run (hrun : Run (Step quic) {} trace s) (k : Nat) :
    closesOf k trace ≤ startsOf k trace ∧ startsOf k trace ≤ 1 ∧
      (s.returned = some true → closesOf k trace = startsOf k trace) := by
  have h := ledger_of_run hrun k
  refine ⟨?_, ?_, fun hreturned => ?_⟩
  · rcases hphase : s.phases[k]? with _ | phase
    · rw [hphase] at h
      simp [Ledger] at h
      omega
    · rw [hphase] at h
      cases phase <;> simp only [Ledger] at h <;> omega
  · rcases hphase : s.phases[k]? with _ | phase
    · rw [hphase] at h
      simp [Ledger] at h
      omega
    · rw [hphase] at h
      cases phase <;> simp only [Ledger] at h <;> omega
  · obtain ⟨-, hall⟩ := over_of_run hrun hreturned
    rcases hphase : s.phases[k]? with _ | phase
    · rw [hphase] at h
      simp [Ledger] at h
      omega
    · rw [hphase, hall phase (List.mem_of_getElem? hphase)] at h
      exact h.2

/-- A session that is closed by the shutdown, and a connection whose handshake fails. -/
def closedSession : List Event :=
  [.accepts, .established 0 true, .started 0 true, .accepts, .established 1 false, .stop, .told 0, .closes 0, .allDone]

theorem closedOnce_of_run_session : ∃ trace s, Run (Step false) {} trace s ∧ s.returned = some true ∧
    startsOf 0 trace = 1 ∧ closesOf 0 trace = startsOf 0 trace := by
  have hsample : (Run.record (next false) {} closedSession).map (fun r => (r.2.returned, startsOf 0 r.1)) =
      some (some true, 1) := by decide
  obtain ⟨⟨trace, s⟩, hrecord, hobs⟩ := Option.map_eq_some_iff.1 hsample
  have hrun : Run (Step false) {} trace s := Run.of_record (fun _ _ _ h => h) hrecord
  exact ⟨trace, s, hrun, congrArg Prod.fst hobs, congrArg Prod.snd hobs,
    (closedOnce_of_run hrun 0).2.2 (congrArg Prod.fst hobs)⟩

/-! ### The end of a shutdown -/

/-- How many steps a task can still take. -/
def weight : Phase → Nat
  | .handshake => 4
  | .starting => 3
  | .running | .spawned => 2
  | .closing | .accepting => 1
  | .finished => 0

def weights : List Phase → Nat
  | [] => 0
  | phase :: phases => weight phase + weights phases

def measure (s : Server) : Nat := weights s.phases + if s.returned = none then 1 else 0

/-- The streams that the clients have opened. -/
def openings (trace : List (Server × Event)) : Nat := trace.countP fun e => e.2.isOpens

theorem weights_append (phases : List Phase) (phase : Phase) : weights (phases ++ [phase]) = weights phases + weight phase := by
  induction phases with
  | nil => simp [weights]
  | cons first phases ih => simp [weights, ih, Nat.add_assoc]

theorem weights_set_lt {phases : List Phase} {k : Nat} {before after : Phase} (h : phases[k]? = some before)
    (hlt : weight after < weight before) : weights (phases.set k after) < weights phases := by
  induction phases generalizing k with
  | nil => simp at h
  | cons phase phases ih =>
    cases k with
    | zero =>
      obtain rfl : phase = before := by simpa using h
      simpa [weights] using hlt
    | succ k =>
      have hrest := ih (by simpa using h)
      simpa [weights] using hrest

theorem Turn.weight_lt {before after : Phase} (hturn : Turn s k e before after) : weight after < weight before := by
  cases hturn with
  | subscribes => simp [weight]
  | established ok => cases ok <;> simp [weight]
  | started ok => cases ok <;> simp [weight]
  | leaves he => simp [weight]
  | closing he => simp [weight]
  | closes => simp [weight]

/-- After the stop a step lowers the measure, except that a client of the QUIC server may open a stream. -/
theorem measure_step (hstopping : s.stopping = true) (hstep : Step quic s e s') :
    1 + s'.measure ≤ s.measure + 4 * if e.isOpens then 1 else 0 := by
  have hdoes := hstep.does
  have hphases := hdoes.phases
  have hreturned : (if s'.returned = none then 1 else 0) ≤ if s.returned = none then 1 else 0 := by
    rcases hdoes.returned with ⟨hsame, -⟩ | ⟨-, hbefore, -⟩
    · exact Nat.le_of_eq (by rw [hsame])
    · rw [if_pos hbefore]
      split_ifs <;> omega
  unfold measure
  generalize hafter : s'.phases = phases at hphases
  cases hphases with
  | accepts he hno =>
    rw [hstopping] at hno
    exact absurd hno (by simp)
  | opens he haccepting =>
    subst he
    simp only [weights_append, weight, Event.isOpens, if_true]
    omega
  | turns hbefore hturn =>
    have hlt := weights_set_lt hbefore hturn.weight_lt
    omega
  | keeps he =>
    have hlt : (if s'.returned = none then 1 else 0) < if s.returned = none then 1 else 0 := by
      rcases hdoes.returned with ⟨-, hall, htime⟩ | ⟨-, hnone, ⟨-, -, hsome⟩ | ⟨-, hsome⟩⟩
      · rcases he with rfl | rfl | rfl
        · simp [Step, next, hstopping] at hstep
        · exact absurd rfl hall
        · exact absurd rfl htime
      · simp [hnone, hsome]
      · simp [hnone, hsome]
    omega

theorem stopping_of_run {t : Server} (hrun : Run (Step quic) s trace t) (hstopping : s.stopping = true) :
    t.stopping = true :=
  hrun.invariant (fun s => s.stopping = true) hstopping fun _ _ _ h hstep => hstep.does.stopping.2 (.inl h)

theorem measure_of_run {t : Server} (hrun : Run (Step quic) s trace t) (hstopping : s.stopping = true) :
    trace.length + t.measure ≤ s.measure + 4 * openings trace := by
  induction hrun with
  | start => simp [openings]
  | @next trace t t' e hrun hstep ih =>
    have hlt := measure_step (stopping_of_run hrun hstopping) hstep
    have hopen : openings (trace ++ [(t, e)]) = openings trace + if e.isOpens then 1 else 0 := by
      simp [openings, List.countP_append, List.countP_singleton]
    rw [List.length_append, List.length_singleton, hopen]
    omega

/-! ### Who is told -/

/-- Connection `k` has subscribed only after the message of the shutdown. -/
def Late (k : Nat) (trace : List (Server × Event)) : Prop := ∃ e ∈ trace, e.2 = .subscribes k ∧ e.1.stopping = true

theorem Late.mono {trace' : List (Server × Event)} (h : Late k trace) : Late k (trace ++ trace') :=
  h.imp fun _ he => ⟨List.mem_append_left _ he.1, he.2⟩

theorem sends_of_run (hrun : Run (Step false) {} trace s) : ∀ phase ∈ s.phases, phase.sends = false := by
  refine hrun.invariant (fun s => ∀ phase ∈ s.phases, phase.sends = false) (by simp [phases])
    fun s e s' hnone hstep => ?_
  have hphases := hstep.does.phases
  generalize s'.phases = phases at hphases
  cases hphases with
  | accepts he hstopping => simpa [Phase.sends, or_imp, forall_and] using hnone
  | opens he hk => exact absurd (hnone _ (List.mem_of_getElem? hk)) (by simp [Phase.sends])
  | @turns k before after hbefore hturn =>
    intro phase hmem
    rcases List.mem_or_eq_of_mem_set hmem with hmem | rfl
    · exact hnone phase hmem
    · cases hturn with
      | subscribes => exact absurd (hnone _ (List.mem_of_getElem? hbefore)) (by simp [Phase.sends])
      | established ok => cases ok <;> rfl
      | started ok => cases ok <;> rfl
      | leaves he => rfl
      | closing he => rfl
      | closes => rfl
  | keeps he => exact hnone

theorem getElem?_of_does (hdoes : Does quic s e s') {phase : Phase} (hphase : s'.phases[k]? = some phase) :
    s.phases[k]? = some phase ∨ (∃ before, s.phases[k]? = some before ∧ Turn s k e before phase) ∨
      s.phases[k]? = none ∧ (e = .accepts ∨ ∃ j, e = .opens j) ∧ phase ≠ .accepting := by
  have hphases := hdoes.phases
  generalize s'.phases = phases at hphases hphase
  cases hphases with
  | accepts he hstopping =>
    rw [List.getElem?_append] at hphase
    by_cases hk : k < s.phases.length
    · rw [if_pos hk] at hphase
      exact .inl hphase
    · rw [if_neg hk] at hphase
      have hnew : phase = if quic then .spawned else .handshake :=
        List.mem_singleton.1 (List.mem_of_getElem? hphase)
      refine .inr (.inr ⟨List.getElem?_eq_none (by omega), .inl he, ?_⟩)
      rw [hnew]
      split_ifs <;> simp
  | opens he haccepting =>
    rw [List.getElem?_append] at hphase
    split_ifs at hphase with hk
    · exact .inl hphase
    · obtain rfl : phase = .starting := List.mem_singleton.1 (List.mem_of_getElem? hphase)
      exact .inr (.inr ⟨List.getElem?_eq_none (by omega), .inr ⟨_, he⟩, by simp⟩)
  | @turns j before after hbefore hturn =>
    by_cases hjk : j = k
    · subst hjk
      rw [List.getElem?_set_self (List.getElem?_eq_some_iff.1 hbefore).1] at hphase
      obtain rfl := Option.some.inj hphase
      exact .inr (.inl ⟨before, hbefore, hturn⟩)
    · rw [List.getElem?_set_ne hjk] at hphase
      exact .inl hphase
  | keeps he => exact .inl hphase

theorem notified_of_does (hdoes : Does quic s e s') (hstopping : s.stopping = true) (hstep : Step quic s e s') :
    s'.notified k = s.notified k := by
  rw [hdoes.notified, if_neg]
  rintro ⟨-, rfl⟩
  simp [Step, next, hstopping] at hstep

/-- A connection that accepts streams after the stop has the message, or has subscribed too late. -/
theorem notified_of_run (hrun : Run (Step true) {} trace s) (hstopping : s.stopping = true)
    (hk : s.phases[k]? = some .accepting) : s.notified k = true ∨ Late k trace := by
  induction hrun with
  | start => simp at hstopping
  | @next trace s s' e hrun hstep ih =>
    have hdoes := hstep.does
    by_cases hbefore : s.stopping = true
    · rcases getElem?_of_does hdoes hk with hsame | ⟨before, -, hturn⟩ | ⟨-, -, hne⟩
      · rw [notified_of_does hdoes hbefore hstep]
        exact (ih hbefore hsame).imp_right Late.mono
      · generalize hafter : Phase.accepting = after at hturn
        cases hturn with
        | subscribes => exact .inr ⟨(s, .subscribes k), List.mem_append_right _ List.mem_cons_self, rfl, hbefore⟩
        | established ok => cases ok <;> simp at hafter
        | started ok => cases ok <;> simp at hafter
        | leaves he => simp at hafter
        | closing he => simp at hafter
        | closes => simp at hafter
      · exact absurd rfl hne
    · obtain rfl : e = .stop := (hdoes.stopping.1 hstopping).resolve_left hbefore
      rcases getElem?_of_does hdoes hk with hsame | ⟨before, -, hturn⟩ | ⟨-, he, -⟩
      · rw [hdoes.notified, if_pos ⟨rfl, rfl⟩, hsame]
        exact .inl rfl
      · exact absurd rfl hturn.event_ne.1
      · simp at he

theorem told_of_notified {phase : Phase} (hphase : s.phases[k]? = some phase)
    (hrecv : phase = .accepting ∨ phase = .running) (h : s.shutdownClosed = true ∨ s.notified k = true) :
    ∃ s', Step quic s (.told k) s' := by
  rcases hrecv with rfl | rfl
  · exact ⟨_, by simp [Step, next, leave, turn, hphase, h]; rfl⟩
  · exact ⟨_, by simp [Step, next, leave, turn, hphase, h]; rfl⟩

/-- A task that is neither finished nor in its handshake can go on after the stop, when every connection has the
message. -/
theorem can_go_on (hstopping : s.stopping = true)
    (hconn : ∀ j : Nat, s.phases[j]? ≠ some .spawned ∧ (s.phases[j]? = some .accepting → s.notified j = true))
    {phase : Phase} (hphase : s.phases[k]? = some phase) (hne : phase ≠ .finished) (hhandshake : phase ≠ .handshake) :
    ∃ e s', e.isOwn = true ∧ Step quic s e s' := by
  have htold {j : Nat} (h : ∃ s', Step quic s (.told j) s') : ∃ e s', e.isOwn = true ∧ Step quic s e s' := by
    obtain ⟨s', hstep⟩ := h
    exact ⟨.told j, s', rfl, hstep⟩
  cases phase with
  | handshake => exact absurd rfl hhandshake
  | starting => exact ⟨.started k true, _, rfl, by simp [Step, next, turn, hphase]; rfl⟩
  | closing => exact ⟨.closes k, _, rfl, by simp [Step, next, turn, hphase]; rfl⟩
  | spawned => exact absurd hphase (hconn k).1
  | accepting => exact htold (told_of_notified hphase (.inl rfl) (.inr ((hconn k).2 hphase)))
  | running =>
    -- either the channel is closed, or a connection that keeps it open is told first
    by_cases hclosed : s.shutdownClosed = true
    · exact htold (told_of_notified hphase (.inr rfl) (.inl hclosed))
    · obtain ⟨phase, hmem, hsends⟩ : ∃ phase ∈ s.phases, phase.sends = true := by
        simpa [shutdownClosed, hstopping] using hclosed
      obtain ⟨j, hj⟩ := List.mem_iff_getElem?.1 hmem
      cases phase with
      | spawned => exact absurd hj (hconn j).1
      | accepting => exact htold (told_of_notified hj (.inl rfl) (.inr ((hconn j).2 hj)))
      | handshake | starting | running | closing | finished => simp [Phase.sends] at hsends
  | finished => exact absurd rfl hne

/-- **A shutdown waits for handshakes only.** Once a server has stopped, and if no QUIC connection subscribes too
late, every connection is told, and every session when no connection is left; until the server has returned there
is a step that waits for no client and for no clock, unless all tasks that are left are in their handshakes; and a
run has no more steps than the tasks have left, up to four for every stream that is opened. -/
theorem shutdown_of_run (hrun : Run (Step quic) {} trace s) (hstopping : s.stopping = true)
    (hearly : ∀ k, s.phases[k]? ≠ some .spawned ∧ ¬Late k trace) :
    (∀ (k : Nat) (phase : Phase), s.phases[k]? = some phase →
        phase = .accepting ∨ phase = .running ∧ .accepting ∉ s.phases → ∃ s', Step quic s (.told k) s') ∧
      (s.returned = none → (∃ e s', e.isOwn = true ∧ Step quic s e s') ∨
        .handshake ∈ s.phases ∧ ∀ phase ∈ s.phases, phase = .handshake ∨ phase = .finished) ∧
        ∀ trace' s', Run (Step quic) s trace' s' → trace'.length + s'.measure ≤ s.measure + 4 * openings trace' := by
  have hconn : ∀ j : Nat, s.phases[j]? ≠ some .spawned ∧ (s.phases[j]? = some .accepting → s.notified j = true) := by
    refine fun j => ⟨(hearly j).1, fun hj => ?_⟩
    cases quic with
    | false => exact absurd (sends_of_run hrun _ (List.mem_of_getElem? hj)) (by simp [Phase.sends])
    | true => exact (notified_of_run hrun hstopping hj).resolve_right (hearly j).2
  refine ⟨fun k phase hk hphase => ?_, fun hreturned => ?_, fun trace' s' hrun' => measure_of_run hrun' hstopping⟩
  · rcases hphase with rfl | ⟨rfl, hnone⟩
    · exact told_of_notified hk (.inl rfl) (.inr ((hconn k).2 hk))
    · refine told_of_notified hk (.inr rfl) (.inl ?_)
      simp only [shutdownClosed, hstopping, Bool.true_and, List.all_eq_true, Bool.not_eq_true']
      intro phase hmem
      obtain ⟨j, hj⟩ := List.mem_iff_getElem?.1 hmem
      have hspawned := (hconn j).1
      cases phase with
      | spawned => exact absurd hj hspawned
      | accepting => exact absurd hmem hnone
      | handshake | starting | running | closing | finished => rfl
  · by_cases hleft : ∀ phase ∈ s.phases, phase = .handshake ∨ phase = .finished
    · by_cases hhandshake : .handshake ∈ s.phases
      · exact .inr ⟨hhandshake, hleft⟩
      · have hall : ∀ phase ∈ s.phases, phase = .finished := by
          refine fun phase hmem => (hleft phase hmem).resolve_left ?_
          rintro rfl
          exact hhandshake hmem
        exact .inl ⟨.allDone, _, rfl, by simp [Step, next, hstopping, hreturned]; exact ⟨hall, rfl⟩⟩
    · obtain ⟨phase, hmem, hhandshake, hne⟩ : ∃ phase ∈ s.phases, phase ≠ .handshake ∧ phase ≠ .finished := by
        simpa using hleft
      obtain ⟨k, hk⟩ := List.mem_iff_getElem?.1 hmem
      exact .inl (can_go_on hstopping hconn hk hne hhandshake)

/-- What the samples show of a run: the events, each with whether the server has stopped, and the tasks. -/
def seen (run : List (Server × Event) × Server) : List (Event × Bool) × List Phase :=
  (run.1.map fun e => (e.2, e.1.stopping), run.2.phases)

/-- A QUIC server that stops with a connection and a session. -/
def earlyConnection : List Event := [.accepts, .subscribes 0, .opens 0, .started 1 true, .stop]

theorem shutdown_of_run_early : ∃ trace s, Run (Step true) {} trace s ∧ s.stopping = true ∧
    (∃ s', Step true s (.told 0) s') ∧
      ∀ trace' s', Run (Step true) s trace' s' → trace'.length + s'.measure ≤ s.measure + 4 * openings trace' := by
  have hsample : (Run.record (next true) {} earlyConnection).map (fun r => (seen r, r.2.stopping)) =
      some (([(.accepts, false), (.subscribes 0, false), (.opens 0, false), (.started 1 true, false), (.stop, false)],
        [.accepting, .running]), true) := by decide
  obtain ⟨⟨trace, s⟩, hrecord, hseen⟩ := Option.map_eq_some_iff.1 hsample
  have hevents := congrArg (fun x => x.1.1) hseen
  have hphases : s.phases = _ := congrArg (fun x => x.1.2) hseen
  have hstopping : s.stopping = true := congrArg Prod.snd hseen
  have hrun : Run (Step true) {} trace s := Run.of_record (fun _ _ _ h => h) hrecord
  have hearly : ∀ k : Nat, s.phases[k]? ≠ some .spawned ∧ ¬Late k trace := by
    refine fun k => ⟨fun hk => ?_, ?_⟩
    · have hmem := List.mem_of_getElem? hk
      simp [hphases] at hmem
    · rintro ⟨e, he, -, hstopped⟩
      have hmem := List.mem_map_of_mem (f := fun e => (e.2, e.1.stopping)) he
      simp only [seen] at hevents
      simp [hevents, hstopped] at hmem
  obtain ⟨htold, -, hmeasure⟩ := shutdown_of_run hrun hstopping hearly
  exact ⟨trace, s, hrun, hstopping, htold 0 .accepting (by simp [hphases]) (.inl rfl), hmeasure⟩

/-! ### A connection that subscribes too late -/

theorem notified_of_none (h : s.phases[k]? = none) : s.notified k = false := by
  rw [getElem?_phases, Option.map_eq_none_iff] at h
  simp [notified, h]

/-- A connection whose task has not run has no message. -/
theorem spawned_of_run (hrun : Run (Step quic) {} trace s) (hk : s.phases[k]? = some .spawned) :
    s.notified k = false := by
  refine hrun.invariant (fun s => s.phases[k]? = some .spawned → s.notified k = false) (by simp [phases])
    (fun s e s' ih hstep hk => ?_) hk
  have hdoes := hstep.does
  rw [hdoes.notified]
  rcases getElem?_of_does hdoes hk with hsame | ⟨before, -, hturn⟩ | ⟨hnone, -, -⟩
  · rw [hsame]
    split_ifs
    · rfl
    · exact ih hsame
  · generalize hafter : Phase.spawned = after at hturn
    cases hturn with
    | subscribes => simp at hafter
    | established ok => cases ok <;> simp at hafter
    | started ok => cases ok <;> simp at hafter
    | leaves he => simp at hafter
    | closing he => simp at hafter
    | closes => simp at hafter
  · rw [hnone]
    split_ifs
    · rfl
    · exact notified_of_none hnone

theorem shutdownClosed_of_accepting (hk : s.phases[k]? = some .accepting) : s.shutdownClosed = false := by
  rw [shutdownClosed, Bool.and_eq_false_iff, List.all_eq_false]
  exact .inr ⟨_, List.mem_of_getElem? hk, by simp [Phase.sends]⟩

/-- What a connection that has subscribed too late keeps until its client ends it. -/
theorem late_step (hdoes : Does quic s e s') (hstep : Step quic s e s') (hstopping : s.stopping = true)
    (hk : s.phases[k]? = some .accepting) (hnone : s.notified k = false) :
    e = .ends k ∨ s'.phases[k]? = some .accepting ∧ s'.notified k = false := by
  have hnotified := notified_of_does (k := k) hdoes hstopping hstep
  have hphases := hdoes.phases
  generalize hafter : s'.phases = phases at hphases
  cases hphases with
  | accepts he hno =>
    rw [hstopping] at hno
    exact absurd hno (by simp)
  | opens he haccepting =>
    rw [List.getElem?_append_left (List.getElem?_eq_some_iff.1 hk).1, hnotified]
    exact .inr ⟨hk, hnone⟩
  | @turns j before after hbefore hturn =>
    by_cases hjk : j = k
    · subst hjk
      obtain rfl : before = .accepting := Option.some.inj (hbefore.symm.trans hk)
      cases hturn with
      | leaves he =>
        rcases he with rfl | ⟨rfl, hclosed | htold⟩
        · exact .inl rfl
        · exact absurd hclosed (by simp [shutdownClosed_of_accepting hk])
        · exact absurd htold (by simp [hnone])
    · rw [List.getElem?_set_ne hjk, hnotified]
      exact .inr ⟨hk, hnone⟩
  | keeps he =>
    rw [hnotified]
    exact .inr ⟨hk, hnone⟩

/-- **A connection that subscribes too late holds the shutdown up.** If the task of a QUIC connection runs for the
first time after the message of the shutdown has been sent, then until its client ends it neither the connection
nor any session without the message is told, and the server does not return before the minute has passed. -/
theorem late_of_run (hrun : Run (Step true) {} trace s) (hlate : Late k trace) :
    (∃ e ∈ trace, e.2 = .ends k) ∨
      s.returned ≠ some true ∧ s.notified k = false ∧
        ∀ j s', s.notified j = false → ¬Step true s (.told j) s' := by
  have hkeeps : (∃ e ∈ trace, e.2 = .ends k) ∨
      s.stopping = true ∧ s.phases[k]? = some .accepting ∧ s.notified k = false := by
    induction hrun with
    | start => simp [Late] at hlate
    | @next trace s s' e hrun hstep ih =>
      have hdoes := hstep.does
      have hstays : s.stopping = true → s'.stopping = true := fun h => hdoes.stopping.2 (.inl h)
      obtain ⟨entry, hmem, hsubscribes, hstopping⟩ := hlate
      rcases List.mem_append.1 hmem with hmem | hmem
      · rcases ih ⟨entry, hmem, hsubscribes, hstopping⟩ with ⟨entry', hmem', hends⟩ | ⟨hstopping, hk, hnone⟩
        · exact .inl ⟨entry', List.mem_append_left _ hmem', hends⟩
        · rcases late_step hdoes hstep hstopping hk hnone with rfl | hkeeps
          · exact .inl ⟨_, List.mem_append_right _ List.mem_cons_self, rfl⟩
          · exact .inr ⟨hstays hstopping, hkeeps⟩
      · obtain rfl := List.mem_singleton.1 hmem
        simp only at hsubscribes hstopping
        subst hsubscribes
        have hturn := hstep
        unfold Step next at hturn
        simp only at hturn
        obtain ⟨hbefore, hphases, -, -, hnotified⟩ := turn_eq_some hturn
        refine .inr ⟨hstays hstopping, ?_, ?_⟩
        · rw [hphases, List.getElem?_set_self (List.getElem?_eq_some_iff.1 hbefore).1]
        · rw [hnotified]
          exact spawned_of_run hrun hbefore
  refine hkeeps.imp_right fun ⟨hstopping, hk, hnone⟩ => ⟨fun hreturned => ?_, hnone, fun j s' hj htold => ?_⟩
  · exact absurd ((over_of_run hrun hreturned).2 _ (List.mem_of_getElem? hk)) (by simp)
  · simp [Step, next, hj, shutdownClosed_of_accepting hk] at htold

/-- A connection whose task runs only after the stop, and a stream of it. -/
def lateConnection : List Event := [.accepts, .stop, .subscribes 0, .opens 0, .started 1 true]

theorem late_of_run_connection : ∃ trace s, Run (Step true) {} trace s ∧ Late 0 trace ∧ s.returned ≠ some true ∧
    ∀ s', ¬Step true s (.told 1) s' := by
  have hsample : (Run.record (next true) {} lateConnection).map (fun r => (seen r, r.2.notified 1)) =
      some (([(.accepts, false), (.stop, false), (.subscribes 0, true), (.opens 0, true), (.started 1 true, true)],
        [.accepting, .running]), false) := by decide
  obtain ⟨⟨trace, s⟩, hrecord, hseen⟩ := Option.map_eq_some_iff.1 hsample
  have hevents : trace.map (fun e => (e.2, e.1.stopping)) = _ := congrArg (fun x => x.1.1) hseen
  have hrun : Run (Step true) {} trace s := Run.of_record (fun _ _ _ h => h) hrecord
  have hlate : Late 0 trace := by
    have hmem : (Event.subscribes 0, true) ∈ trace.map fun e => (e.2, e.1.stopping) := by simp [hevents]
    obtain ⟨e, he, heq⟩ := List.mem_map.1 hmem
    exact ⟨e, he, congrArg Prod.fst heq, congrArg Prod.snd heq⟩
  rcases late_of_run hrun hlate with ⟨e, he, hends⟩ | ⟨hreturned, -, htold⟩
  · have hmem := List.mem_map_of_mem (f := fun e => (e.2, e.1.stopping)) he
    simp [hevents, hends] at hmem
  · exact ⟨trace, s, hrun, hlate, hreturned, fun s' => htold 1 s' (congrArg Prod.snd hseen)⟩

end Server

end AxmolFighter.Net.Servers
