import AxmolFighter.Backend.Sessions

/-!
# The graceful shutdown of a backend server

`BackendSession::shutdown` of `backend-framework/src/session.rs`, one access to the shared tables at a
time, beside the read loop that goes on handling control frames. The waiter learns from the clones of one
sender that all sessions have stopped: a task gets a clone when it is spawned and drops it after `on_stop`.
Once `shutdown` has taken the sender there is nothing left to clone, so a task that is spawned later gets
none and nobody waits for it.
-/

namespace AxmolFighter.Backend

open Program (perform forEach whenSome)

variable {S : Signature} {σ L F R : Type}

/-! ### The accesses to the sessions -/

inductive SessionOp (S : Signature)
  /-- The keys of one shard of `sessions`, under its lock. -/
  | keysOfShard (i : Nat)
  /-- `sessions.remove`; the answer is the task of the handle. -/
  | remove (sessionId : UInt32)
  | cancel (k : Nat)
  /-- `shutdown_complete_tx.lock().clone()`, into the local variable of `spawn_session`. -/
  | cloneSender
  | spawn (sessionId : UInt32)
  | insert (sessionId : UInt32) (k : Nat)
  /-- `drop(shutdown_complete_tx.lock().take())`. -/
  | takeSender
  /-- `shutdown_complete_rx.recv()` under its timeout; the answer says whether it timed out. -/
  | recv
  | server (op : S.Op)

@[reducible] def SessionOp.Answer : SessionOp S → Type
  | keysOfShard _ => List UInt32
  | remove _ => Option Nat
  | spawn _ => Nat
  | recv => Bool
  | server op => S.Answer op
  | _ => Unit

@[reducible] def sessionOps (S : Signature) : Signature := ⟨SessionOp S, SessionOp.Answer⟩

abbrev SessionOp.perform (op : SessionOp S) : Program (sessionOps S) op.Answer :=
  Program.perform (S := sessionOps S) op

/-- What a delegate does on the server's state. -/
def ofServer {α : Type} : Program S α → Program (sessionOps S) α
  | .ret a => .ret a
  | .call op next => .call (S := sessionOps S) (.server op) fun answer => ofServer (next answer)

/-- How `sessions` is divided into shards, and the delegate's `on_shutdown`. -/
structure Closing (S : Signature) where
  shards : Nat
  shardOf : UInt32 → Fin shards
  onShutdown : Program S Unit

def stopSession (sessionId : UInt32) : Program (sessionOps S) Unit := do
  let handle ← (SessionOp.remove sessionId).perform
  whenSome handle fun k => (SessionOp.cancel k).perform

/-- The iteration over `sessions` holds the lock of one shard at a time. -/
def sessionIds : List Nat → Program (sessionOps S) (List UInt32)
  | [] => .ret []
  | i :: shards => do
      let keys ← (SessionOp.keysOfShard i).perform
      let sids ← sessionIds shards
      return keys ++ sids

def stopAllSessions (C : Closing S) : Program (sessionOps S) Unit := do
  let sids ← sessionIds (List.range C.shards)
  forEach stopSession sids

def spawnSession (sessionId : UInt32) : Program (sessionOps S) Unit := do
  stopSession sessionId
  SessionOp.cloneSender.perform
  let k ← (SessionOp.spawn sessionId).perform
  (SessionOp.insert sessionId k).perform

/-- Whether it timed out is only logged. -/
def shutdown (C : Closing S) : Program (sessionOps S) Bool := do
  stopAllSessions C
  SessionOp.takeSender.perform
  let timedOut ← SessionOp.recv.perform
  ofServer C.onShutdown
  return timedOut

/-! ### The read loop and the shutdown beside each other -/

/-- `clones` tells of every task whether it was spawned with a clone of the sender, `held` whether the
local variable of `spawn_session` has one. `control` is what is left of the control frame in hand. -/
structure Runtime (S : Signature) (σ L F R : Type) where
  session : BackendSession S σ L F R
  shutdownCompleteTx : Bool := true
  held : Bool := false
  clones : List Bool := []
  control : Program (sessionOps S) Unit := .ret ()
  shutdown : Option (Program (sessionOps S) Bool) := none

namespace Runtime

def start (s : σ) : Runtime S σ L F R where
  session := { shared := s }

variable (r : Runtime S σ L F R)

/-- All clones of the sender are dropped. -/
structure Closed : Prop where
  taken : r.shutdownCompleteTx = false
  held : r.held = false
  done : ∀ (k : Nat) t, r.session.tasks[k]? = some t → r.clones[k]? = some true → t.phase.isDone

inductive Does (V : Service S σ L F R) (C : Closing S) :
    Runtime S σ L F R → (op : SessionOp S) → op.Answer → Runtime S σ L F R → Prop
  | keysOfShard {r : Runtime S σ L F R} (i : Nat) :
      Does V C r (.keysOfShard i)
        ((r.session.sessions.toList.map Prod.fst).filter fun sid => (C.shardOf sid : Nat) = i) r
  | remove {r : Runtime S σ L F R} (sid : UInt32) :
      Does V C r (.remove sid) (r.session.sessions.get sid)
        { r with session := { r.session with sessions := r.session.sessions.remove sid } }
  | cancel {r : Runtime S σ L F R} (k : Nat) :
      Does V C r (.cancel k) ()
        { r with session := { r.session with
            tasks := r.session.tasks.modify k fun t => { t with cancelled := true } } }
  | cloneSender {r : Runtime S σ L F R} :
      Does V C r .cloneSender () { r with held := r.shutdownCompleteTx }
  | spawn {r : Runtime S σ L F R} (sid : UInt32) :
      Does V C r (.spawn sid) r.session.tasks.length
        { r with
          session := { r.session with tasks := r.session.tasks ++ [.spawn V sid] }
          clones := r.clones ++ [r.held]
          held := false }
  | insert {r : Runtime S σ L F R} (sid : UInt32) (k : Nat) :
      Does V C r (.insert sid k) ()
        { r with session := { r.session with sessions := r.session.sessions.insert sid k } }
  | takeSender {r : Runtime S σ L F R} :
      Does V C r .takeSender () { r with shutdownCompleteTx := false }
  | timeout {r : Runtime S σ L F R} : Does V C r .recv true r
  | closed {r : Runtime S σ L F R} (h : r.Closed) : Does V C r .recv false r
  | server {r : Runtime S σ L F R} {op : S.Op} {answer : S.Answer op} {s' : σ}
      (h : V.does r.session.shared op answer s') :
      Does V C r (.server op) answer { r with session := { r.session with shared := s' } }

end Runtime

/-- What the read loop does to the sessions. -/
def Event.control (C : Closing S) : Event S F R → Option (Program (sessionOps S) Unit)
  | .sessionOnlinePush sid => some (spawnSession sid)
  | .sessionOfflinePush sid => some (stopSession sid)
  | .stopAllSessions => some (Backend.stopAllSessions C)
  | _ => none

/-- Not the read loop but the dispatcher or a task acts. -/
def Event.elsewhere : Event S F R → Bool
  | .dispatch | .dispatcherCall _ | .receive _ | .stop _ | .call _ _ => true
  | _ => false

inductive RuntimeEvent (S : Signature) (F R : Type)
  | session (e : Event S F R)
  | controlCall (c : (sessionOps S).Call)
  | shutdown
  | shutdownCall (c : (sessionOps S).Call)

namespace Runtime

inductive Step (V : Service S σ L F R) (C : Closing S) :
    Runtime S σ L F R → RuntimeEvent S F R → Runtime S σ L F R → Prop
  | control {r : Runtime S σ L F R} {e : Event S F R} {p : Program (sessionOps S) Unit}
      (hidle : r.session.readLoop = .ret ()) (hcontrol : r.control = .ret ())
      (h : e.control C = some p) : Step V C r (.session e) { r with control := p }
  | session {r : Runtime S σ L F R} {e : Event S F R} {b : BackendSession S σ L F R}
      (hcontrol : e.elsewhere = false → r.control = .ret ()) (he : e.control C = none)
      (h : Backend.Step V r.session e b) : Step V C r (.session e) { r with session := b }
  | controlCall {r r' : Runtime S σ L F R} {op : SessionOp S} {answer : op.Answer}
      {next : op.Answer → Program (sessionOps S) Unit} (hbusy : r.control = .call op next)
      (h : Does V C r op answer r') :
      Step V C r (.controlCall ⟨op, answer⟩) { r' with control := next answer }
  | shutdown {r : Runtime S σ L F R} (h : r.shutdown = none) :
      Step V C r .shutdown { r with shutdown := some (Backend.shutdown C) }
  | shutdownCall {r r' : Runtime S σ L F R} {op : SessionOp S} {answer : op.Answer}
      {next : op.Answer → Program (sessionOps S) Bool} (hbusy : r.shutdown = some (.call op next))
      (h : Does V C r op answer r') :
      Step V C r (.shutdownCall ⟨op, answer⟩) { r' with shutdown := some (next answer) }

/-! ### A control frame that is handled alone

If nobody else acts meanwhile, the read loop does to the sessions what it does to them at once. -/

section Alone

variable {V : Service S σ L F R} {C : Closing S} {r r' : Runtime S σ L F R} {sid : UInt32}

theorem runs_stopSession (h : (Backend.stopSession sid).Runs (Does V C) r () r') :
    r' = { r with session := r.session.stopSession sid } := by
  obtain ⟨handle, r₁, hremove, h⟩ := Program.runs_call.1 h
  cases hremove
  rw [BackendSession.stopSession]
  rcases hget : r.session.sessions.get sid with _ | k
  · have hsame : r.session.sessions.remove sid = r.session.sessions := Table.remove_eq_self _ _ hget
    rw [hget] at h
    obtain ⟨-, rfl⟩ := Program.runs_ret.1 h
    simp only [hsame]
  · rw [hget] at h
    obtain ⟨answer, r₂, hcancel, h⟩ := Program.runs_call.1 h
    obtain ⟨-, rfl⟩ := Program.runs_ret.1 h
    cases hcancel
    rfl

theorem runs_spawnSession (h : (Backend.spawnSession sid).Runs (Does V C) r () r') :
    r'.session = r.session.spawnSession V sid := by
  obtain ⟨_, r₁, hstop, h⟩ := Program.runs_bind.1 h
  have hr₁ := runs_stopSession hstop
  obtain ⟨_, r₂, hclone, h⟩ := Program.runs_call.1 h
  cases hclone
  obtain ⟨k, r₃, hspawn, h⟩ := Program.runs_call.1 h
  cases hspawn
  obtain ⟨_, r₄, hinsert, h⟩ := Program.runs_call.1 h
  cases hinsert
  obtain ⟨-, rfl⟩ := Program.runs_ret.1 h
  rw [hr₁]
  rfl

theorem runs_sessionIds {shards : List Nat} {sids : List UInt32}
    (h : (sessionIds shards).Runs (Does V C) r sids r') :
    r' = r ∧ sids = shards.flatMap fun i =>
      (r.session.sessions.toList.map Prod.fst).filter fun sid => (C.shardOf sid : Nat) = i := by
  induction shards generalizing sids r' with
  | nil =>
      obtain ⟨rfl, rfl⟩ := Program.runs_ret.1 h
      exact ⟨rfl, rfl⟩
  | cons i shards ih =>
      obtain ⟨keys, r₁, hkeys, h⟩ := Program.runs_bind.1 h
      cases Program.runs_perform.1 hkeys
      obtain ⟨rest, r₂, hrest, h⟩ := Program.runs_bind.1 h
      obtain ⟨rfl, hrest⟩ := ih hrest
      obtain ⟨rfl, rfl⟩ := Program.runs_ret.1 h
      exact ⟨rfl, by rw [List.flatMap_cons, ← hrest]⟩

theorem flatMap_shards (C : Closing S) (keys : List UInt32) (hkeys : keys.Nodup) :
    ((List.range C.shards).flatMap fun i => keys.filter fun sid => (C.shardOf sid : Nat) = i).Perm keys := by
  refine (List.perm_ext_iff_of_nodup ?_ hkeys).2 fun sid => ?_
  · refine List.nodup_flatMap.2 ⟨fun i _ => hkeys.filter _, ?_⟩
    refine List.nodup_range.imp ?_
    intro i j hij sid hi hj
    have hi := of_decide_eq_true (List.mem_filter.1 hi).2
    have hj := of_decide_eq_true (List.mem_filter.1 hj).2
    exact hij (hi.symm.trans hj)
  · simp only [List.mem_flatMap, List.mem_range, List.mem_filter, decide_eq_true_eq]
    constructor
    · rintro ⟨i, -, hsid, -⟩
      exact hsid
    · intro hsid
      exact ⟨C.shardOf sid, (C.shardOf sid).isLt, hsid, rfl⟩

theorem stopSession_comm (b : BackendSession S σ L F R) (x y : UInt32) :
    (b.stopSession x).stopSession y = (b.stopSession y).stopSession x := by
  by_cases hxy : x = y
  · rw [hxy]
  have hx : (b.stopSession y).sessions.get x = b.sessions.get x := by
    rw [BackendSession.stopSession_sessions, if_neg hxy]
  have hy : (b.stopSession x).sessions.get y = b.sessions.get y := by
    rw [BackendSession.stopSession_sessions, if_neg (Ne.symm hxy)]
  rw [BackendSession.stopSession, hy, BackendSession.stopSession.eq_def (b.stopSession y), hx]
  rcases hk : b.sessions.get x with _ | k <;> rcases hj : b.sessions.get y with _ | j <;>
    simp only [BackendSession.stopSession, hk, hj]
  congr 1
  · exact AList.erase_erase ..
  · by_cases hkj : k = j
    · rw [hkj]
    · exact (List.modify_modify_ne _ _ _ hkj)

theorem runs_forEach_stopSession {sids : List UInt32}
    (h : (forEach Backend.stopSession sids).Runs (Does V C) r () r') :
    r' = { r with session := sids.foldl BackendSession.stopSession r.session } := by
  induction sids generalizing r with
  | nil => exact (Program.runs_ret.1 h).2
  | cons sid sids ih =>
      obtain ⟨_, r₁, hstop, h⟩ := Program.runs_bind.1 h
      rw [ih h, runs_stopSession hstop, List.foldl_cons]

theorem runs_stopAllSessions (h : (Backend.stopAllSessions C).Runs (Does V C) r () r') :
    r' = { r with session := r.session.stopAllSessions } := by
  obtain ⟨sids, r₁, hsids, hstop⟩ := Program.runs_bind.1 h
  obtain ⟨hsame, hids⟩ := runs_sessionIds hsids
  subst hsame
  have hr' := runs_forEach_stopSession hstop
  rw [hr', BackendSession.stopAllSessions, hids]
  have hperm := flatMap_shards C _ r₁.session.sessions.nodup_keys
  congr 1
  refine hperm.foldl_eq' (fun x _ y _ b => stopSession_comm b x y) _

theorem runs_control {e : Event S F R} {p : Program (sessionOps S) Unit} (he : e.control C = some p)
    (h : p.Runs (Does V C) r () r') : r.session.read V e = some r'.session := by
  cases e with
  | sessionOnlinePush sid =>
      cases he
      rw [runs_spawnSession h]
      rfl
  | sessionOfflinePush sid =>
      cases he
      rw [runs_stopSession h]
      rfl
  | stopAllSessions =>
      cases he
      rw [runs_stopAllSessions h]
      rfl
  | _ => cases he

end Alone

/-! ### What the two have in hand -/

inductive Actor
  | readLoop
  | shutdown
deriving DecidableEq

/-- Between two accesses, an actor of the sessions has nothing in hand, a task whose handle it has removed
and will cancel, or, in `spawn_session`, a session without a handle, the clone for its task, or its task,
which is not in `sessions` yet. -/
inductive Holds
  | nothing
  | removed (sid : UInt32) (k : Nat)
  | freed (sid : UInt32)
  | cloned (sid : UInt32)
  | spawned (sid : UInt32) (k : Nat)

def Holds.Idle : Holds → Prop
  | nothing | freed _ => True
  | _ => False

def Holds.Keeps (k : Nat) : Holds → Prop
  | removed _ j | spawned _ j => j = k
  | _ => False

def Holds.Frees (sid : UInt32) : Holds → Prop
  | nothing => False
  | removed y _ | freed y | cloned y | spawned y _ => y = sid

inductive Moves : Actor → Holds → (op : SessionOp S) → op.Answer → Holds → Prop
  | keysOfShard {a : Actor} {q : Holds} {i : Nat} {keys : List UInt32} :
      Moves a q (.keysOfShard i) keys q
  | takeSender {a : Actor} {q : Holds} : Moves a q .takeSender () q
  | recv {a : Actor} {q : Holds} {timedOut : Bool} : Moves a q .recv timedOut q
  | server {a : Actor} {q : Holds} {op : S.Op} {answer : S.Answer op} : Moves a q (.server op) answer q
  | absent {a : Actor} {q : Holds} {sid : UInt32} (hq : q.Idle) : Moves a q (.remove sid) none (.freed sid)
  | removed {a : Actor} {q : Holds} {sid : UInt32} {k : Nat} (hq : q.Idle) :
      Moves a q (.remove sid) (some k) (.removed sid k)
  | cancel {a : Actor} {sid : UInt32} {k : Nat} : Moves a (.removed sid k) (.cancel k) () (.freed sid)
  | cloneSender {sid : UInt32} : Moves .readLoop (.freed sid) .cloneSender () (.cloned sid)
  | spawn {sid : UInt32} {k : Nat} : Moves .readLoop (.cloned sid) (.spawn sid) k (.spawned sid k)
  | insert {sid : UInt32} {k : Nat} : Moves .readLoop (.spawned sid k) (.insert sid k) () .nothing

section Follows

variable {a : Actor} {q : Holds}

theorem stopSession_follows (hq : q.Idle) (sid : UInt32) :
    (Backend.stopSession sid : Program (sessionOps S) Unit).Follows (Moves a) (fun q' _ => q' = .freed sid) q := by
  refine .perform_bind (fun | none => .freed sid | some k => .removed sid k) ?_ ?_
  · rintro (_ | k)
    · exact .absent hq
    · exact .removed hq
  · rintro (_ | k)
    · exact .ret rfl
    · exact .stay (fun _ => .cancel) fun _ => .ret rfl

theorem forEach_stopSession_follows (hq : q.Idle) (sids : List UInt32) :
    (forEach Backend.stopSession sids : Program (sessionOps S) Unit).Follows (Moves a) (fun q' _ => q'.Idle) q := by
  induction sids generalizing q with
  | nil => exact .ret hq
  | cons sid sids ih =>
      refine (stopSession_follows hq sid).bind fun q' _ hq' => ih ?_
      rw [hq']
      trivial

theorem sessionIds_follows (shards : List Nat) :
    (sessionIds shards : Program (sessionOps S) (List UInt32)).Follows (Moves a) (fun q' _ => q' = q) q := by
  induction shards with
  | nil => exact .ret rfl
  | cons i shards ih =>
      refine .stay (fun _ => .keysOfShard) fun keys => ih.bind fun q' sids hq' => ?_
      exact .ret hq'

theorem stopAllSessions_follows (C : Closing S) (hq : q.Idle) :
    (Backend.stopAllSessions C).Follows (Moves a) (fun q' _ => q'.Idle) q := by
  refine (sessionIds_follows _).bind fun q' sids hq' => ?_
  rw [hq']
  exact forEach_stopSession_follows hq sids

theorem spawnSession_follows (hq : q.Idle) (sid : UInt32) :
    (Backend.spawnSession sid : Program (sessionOps S) Unit).Follows (Moves .readLoop) (fun q' _ => q'.Idle) q := by
  refine (stopSession_follows hq sid).bind fun q' _ hq' => ?_
  rw [hq']
  refine .stay (fun _ => .cloneSender) fun _ => ?_
  refine .call (fun k => .spawned sid k) (fun k => .spawn) fun k => ?_
  exact .stay (fun _ => .insert) fun _ => .ret trivial

theorem ofServer_follows {α : Type} (p : Program S α) :
    (ofServer p).Follows (Moves a) (fun q' _ => q' = q) q := by
  induction p with
  | ret _ => exact .ret rfl
  | call op next ih => exact .stay (fun _ => .server) ih

theorem shutdown_follows (C : Closing S) (hq : q.Idle) :
    (Backend.shutdown C).Follows (Moves .shutdown) (fun q' _ => q'.Idle) q := by
  refine (stopAllSessions_follows C hq).bind fun q' _ hq' => ?_
  refine .stay (fun _ => .takeSender) fun _ => .stay (fun _ => .recv) fun timedOut => ?_
  refine (ofServer_follows C.onShutdown).bind fun q'' _ hq'' => .ret ?_
  rw [hq'']
  exact hq'

theorem control_follows {C : Closing S} {e : Event S F R} {p : Program (sessionOps S) Unit}
    (he : e.control C = some p) (hq : q.Idle) :
    p.Follows (Moves .readLoop) (fun q' _ => q'.Idle) q := by
  cases e with
  | sessionOnlinePush sid =>
      cases he
      exact spawnSession_follows hq sid
  | sessionOfflinePush sid =>
      cases he
      refine (stopSession_follows hq sid).mono fun q' _ hq' => ?_
      rw [hq']
      trivial
  | stopAllSessions =>
      cases he
      exact stopAllSessions_follows C hq
  | _ => cases he

end Follows

/-! ### The invariant -/

/-- The task of a session that nobody has told to stop. -/
def Live (tasks : List (Task S L F)) (sid : UInt32) (k : Nat) : Prop :=
  ∃ t, tasks[k]? = some t ∧ t.sessionId = sid ∧ t.cancelled = false

theorem Live.lt {tasks : List (Task S L F)} {sid : UInt32} {k : Nat} (h : Live tasks sid k) :
    k < tasks.length := by
  obtain ⟨t, hk, -⟩ := h
  exact (List.getElem?_eq_some_iff.1 hk).1

theorem Live.unique {tasks : List (Task S L F)} {x y : UInt32} {k : Nat} (hx : Live tasks x k)
    (hy : Live tasks y k) : x = y := by
  obtain ⟨t, hk, rfl, -⟩ := hx
  obtain ⟨t', hk', rfl, -⟩ := hy
  rw [Option.some.inj (hk.symm.trans hk')]

theorem Live.append {tasks : List (Task S L F)} {sid : UInt32} {k : Nat} (h : Live tasks sid k)
    (t : Task S L F) : Live (tasks ++ [t]) sid k := by
  have hlt := h.lt
  obtain ⟨t', hk, h⟩ := h
  exact ⟨t', (List.getElem?_append_left hlt).trans hk, h⟩

theorem Live.modify {tasks : List (Task S L F)} {sid : UInt32} {j k : Nat} (h : Live tasks sid k)
    (hne : j ≠ k) (f : Task S L F → Task S L F) : Live (tasks.modify j f) sid k := by
  obtain ⟨t, hk, h⟩ := h
  exact ⟨t, (List.getElem?_modify_ne _ _ hne).trans hk, h⟩

/-- What `sessions` lists is live, and what the actors have in hand is not listed; a task stops when it is
told to. An entry of `sessions` is never replaced: a session that the read loop spawns has none. -/
structure Inv (r : Runtime S σ L F R) (q : Actor → Holds) : Prop where
  live : ∀ sid k, r.session.sessions.get sid = some k → Live r.session.tasks sid k
  spawned : ∀ a sid k, q a = .spawned sid k → Live r.session.tasks sid k
  unlisted : ∀ a k, (q a).Keeps k → ∀ sid, r.session.sessions.get sid ≠ some k
  apart : ∀ a a' k, (q a).Keeps k → (q a').Keeps k → a = a'
  known : ∀ a k, (q a).Keeps k → k < r.session.tasks.length
  stopping : ∀ t ∈ r.session.tasks, ∀ p, t.phase = .stopping p → t.cancelled = true
  clones : r.clones.length = r.session.tasks.length
  free : ∀ sid, (q .readLoop).Frees sid → r.session.sessions.get sid = none

theorem Inv.start (s : σ) : (Runtime.start s : Runtime S σ L F R).Inv fun _ => .nothing where
  live _ _ h := by cases h
  spawned _ _ _ h := by cases h
  unlisted _ _ h := h.elim
  apart _ _ _ h := h.elim
  known _ _ h := h.elim
  stopping _ h := by cases h
  clones := rfl
  free _ h := h.elim

theorem update_cases {q : Actor → Holds} {a b : Actor} {q' : Holds} {P : Holds → Prop}
    (h : P (Function.update q a q' b)) : (b = a ∧ P q') ∨ (b ≠ a ∧ P (q b)) := by
  by_cases hba : b = a
  · subst hba
    rw [Function.update_self] at h
    exact Or.inl ⟨rfl, h⟩
  · rw [Function.update_of_ne hba] at h
    exact Or.inr ⟨hba, h⟩

theorem keeps_update {q : Actor → Holds} {a b : Actor} {q' : Holds} {k : Nat} (hq' : ∀ k, ¬ q'.Keeps k)
    (h : (Function.update q a q' b).Keeps k) : b ≠ a ∧ (q b).Keeps k := by
  rcases update_cases h with ⟨-, h⟩ | ⟨hne, h⟩
  · exact absurd h (hq' k)
  · exact ⟨hne, h⟩

theorem spawned_update {q : Actor → Holds} {a b : Actor} {q' : Holds} {sid : UInt32} {k : Nat}
    (hq' : ∀ k, ¬ q'.Keeps k) (h : Function.update q a q' b = .spawned sid k) :
    b ≠ a ∧ q b = .spawned sid k := by
  rcases update_cases (P := fun q => q = .spawned sid k) h with ⟨-, h⟩ | ⟨hne, h⟩
  · exact absurd (show q'.Keeps k from h ▸ rfl) (hq' k)
  · exact ⟨hne, h⟩

theorem apart_update {q : Actor → Holds} {a : Actor} {q' : Holds} (hq' : ∀ k, ¬ q'.Keeps k)
    (h : ∀ b b' k, (q b).Keeps k → (q b').Keeps k → b = b') (b b' : Actor) (k : Nat)
    (hb : (Function.update q a q' b).Keeps k) (hb' : (Function.update q a q' b').Keeps k) : b = b' :=
  h b b' k (keeps_update hq' hb).2 (keeps_update hq' hb').2

section Keeps

variable {V : Service S σ L F R} {C : Closing S} {r r' : Runtime S σ L F R} {q : Actor → Holds} {a : Actor}

theorem Inv.remove (h : r.Inv q) (a : Actor) (sid : UInt32) {q' : Holds}
    (hq' : q' = match r.session.sessions.get sid with
      | none => .freed sid
      | some k => .removed sid k) :
    Inv { r with session := { r.session with sessions := r.session.sessions.remove sid } }
      (Function.update q a q') := by
  have hget : ∀ y k, (r.session.sessions.remove sid).get y = some k →
      y ≠ sid ∧ r.session.sessions.get y = some k := by
    intro y k hy
    rw [Table.get_remove] at hy
    split_ifs at hy with hne
    exact ⟨hne, hy⟩
  have hkeeps : ∀ k, q'.Keeps k → r.session.sessions.get sid = some k := by
    intro k hk
    rcases hsid : r.session.sessions.get sid with _ | j
    · rw [hq', hsid] at hk
      exact hk.elim
    · rw [hq', hsid] at hk
      exact congrArg some hk
  have hfrees : ∀ y, q'.Frees y → sid = y := by
    intro y hy
    rcases hsid : r.session.sessions.get sid with _ | j <;> rw [hq', hsid] at hy <;> exact hy
  have hspawned : ∀ y k, q' ≠ .spawned y k := by
    intro y k hy
    rcases hsid : r.session.sessions.get sid with _ | j <;> rw [hq', hsid] at hy <;> cases hy
  refine ⟨fun y k hy => h.live y k (hget y k hy).2, ?_, ?_, ?_, ?_, h.stopping, h.clones, ?_⟩
  · intro b y k hb
    rcases update_cases (P := fun q => q = .spawned y k) hb with ⟨-, hb⟩ | ⟨-, hb⟩
    · exact absurd hb (hspawned y k)
    · exact h.spawned b y k hb
  · intro b k hb y hy
    obtain ⟨hne, hy⟩ := hget y k hy
    rcases update_cases hb with ⟨-, hb⟩ | ⟨-, hb⟩
    · exact hne (Live.unique (h.live y k hy) (h.live sid k (hkeeps k hb)))
    · exact h.unlisted b k hb y hy
  · intro b b' k hb hb'
    rcases update_cases hb with ⟨hba, hk⟩ | ⟨-, hk⟩ <;> rcases update_cases hb' with ⟨hba', hk'⟩ | ⟨-, hk'⟩
    · rw [hba, hba']
    · exact absurd (hkeeps k hk) (h.unlisted b' k hk' sid)
    · exact absurd (hkeeps k hk') (h.unlisted b k hk sid)
    · exact h.apart b b' k hk hk'
  · intro b k hb
    rcases update_cases hb with ⟨-, hb⟩ | ⟨-, hb⟩
    · exact (h.live sid k (hkeeps k hb)).lt
    · exact h.known b k hb
  · intro y hy
    show (r.session.sessions.remove sid).get y = none
    rw [Table.get_remove]
    split_ifs with hne
    · rfl
    · rcases update_cases hy with ⟨-, hy⟩ | ⟨-, hy⟩
      · exact absurd (hfrees y hy).symm hne
      · exact h.free y hy

theorem Inv.cancel (h : r.Inv q) {sid : UInt32} {k : Nat} (hq : q a = .removed sid k) :
    Inv { r with session := { r.session with
        tasks := r.session.tasks.modify k fun t => { t with cancelled := true } } }
      (Function.update q a (.freed sid)) := by
  have hnone : ∀ k, ¬ (Holds.freed sid).Keeps k := fun _ h => h
  have hkeeps : (q a).Keeps k := by
    rw [hq]
    rfl
  refine ⟨?_, ?_, ?_, apart_update hnone h.apart, ?_, ?_, ?_, ?_⟩
  · intro y j hy
    refine (h.live y j hy).modify ?_ _
    rintro rfl
    exact h.unlisted a k hkeeps y hy
  · intro b y j hb
    obtain ⟨hne, hb⟩ := spawned_update hnone hb
    refine (h.spawned b y j hb).modify ?_ _
    rintro rfl
    refine hne (h.apart b a k ?_ hkeeps)
    rw [hb]
    rfl
  · intro b j hb
    exact h.unlisted b j (keeps_update hnone hb).2
  · intro b j hb
    simpa using h.known b j (keeps_update hnone hb).2
  · intro t ht p hp
    obtain ⟨j, hj⟩ := List.mem_iff_getElem?.1 ht
    rw [List.getElem?_modify] at hj
    obtain ⟨t₀, hj₀, rfl⟩ := Option.map_eq_some_iff.1 hj
    split_ifs at hp ⊢
    · rfl
    · exact h.stopping t₀ (List.mem_of_getElem? hj₀) p hp
  · simpa using h.clones
  · intro y hy
    rcases update_cases hy with ⟨rfl, hy⟩ | ⟨-, hy⟩
    · refine h.free y ?_
      rw [hq]
      exact hy
    · exact h.free y hy

theorem Inv.clone (h : r.Inv q) {sid : UInt32} (hq : q .readLoop = .freed sid) :
    Inv { r with held := r.shutdownCompleteTx } (Function.update q .readLoop (.cloned sid)) := by
  have hnone : ∀ k, ¬ (Holds.cloned sid).Keeps k := fun _ h => h
  refine ⟨h.live, ?_, ?_, apart_update hnone h.apart, ?_, h.stopping, h.clones, ?_⟩
  · intro b y j hb
    exact h.spawned b y j (spawned_update hnone hb).2
  · intro b j hb
    exact h.unlisted b j (keeps_update hnone hb).2
  · intro b j hb
    exact h.known b j (keeps_update hnone hb).2
  · intro y hy
    rcases update_cases hy with ⟨-, hy⟩ | ⟨hne, -⟩
    · refine h.free y ?_
      rw [hq]
      exact hy
    · exact absurd rfl hne

theorem Inv.spawn (h : r.Inv q) (V : Service S σ L F R) {sid : UInt32} (hq : q .readLoop = .cloned sid) :
    Inv { r with
        session := { r.session with tasks := r.session.tasks ++ [.spawn V sid] }
        clones := r.clones ++ [r.held]
        held := false } (Function.update q .readLoop (.spawned sid r.session.tasks.length)) := by
  refine ⟨fun y k hy => (h.live y k hy).append _, ?_, ?_, ?_, ?_, ?_, ?_, ?_⟩
  · intro b y k hb
    rcases update_cases (P := fun q => q = .spawned y k) hb with ⟨-, hb⟩ | ⟨-, hb⟩
    · cases hb
      exact ⟨.spawn V sid, by simp, rfl, rfl⟩
    · exact (h.spawned b y k hb).append _
  · intro b k hb y hy
    rcases update_cases hb with ⟨-, hb⟩ | ⟨-, hb⟩
    · have hlt := (h.live y k hy).lt
      rw [← show _ = k from hb] at hlt
      exact lt_irrefl _ hlt
    · exact h.unlisted b k hb y hy
  · intro b b' k hb hb'
    rcases update_cases hb with ⟨hba, hk⟩ | ⟨-, hk⟩ <;> rcases update_cases hb' with ⟨hba', hk'⟩ | ⟨-, hk'⟩
    · rw [hba, hba']
    · have hlt := h.known b' k hk'
      rw [← show _ = k from hk] at hlt
      exact absurd hlt (lt_irrefl _)
    · have hlt := h.known b k hk
      rw [← show _ = k from hk'] at hlt
      exact absurd hlt (lt_irrefl _)
    · exact h.apart b b' k hk hk'
  · intro b k hb
    rw [List.length_append, List.length_singleton]
    rcases update_cases hb with ⟨-, hb⟩ | ⟨-, hb⟩
    · have hk : r.session.tasks.length = k := hb
      omega
    · have hlt := h.known b k hb
      omega
  · intro t ht p hp
    rcases List.mem_append.1 ht with ht | ht
    · exact h.stopping t ht p hp
    · rw [List.mem_singleton.1 ht] at hp
      cases hp
  · simp [h.clones]
  · intro y hy
    rcases update_cases hy with ⟨-, hy⟩ | ⟨hne, -⟩
    · refine h.free y ?_
      rw [hq]
      exact hy
    · exact absurd rfl hne

theorem Inv.insert (h : r.Inv q) {sid : UInt32} {k : Nat} (hq : q .readLoop = .spawned sid k) :
    Inv { r with session := { r.session with sessions := r.session.sessions.insert sid k } }
      (Function.update q .readLoop .nothing) := by
  have hnone : ∀ k, ¬ Holds.nothing.Keeps k := fun _ h => h
  have hkeeps : (q .readLoop).Keeps k := by
    rw [hq]
    rfl
  have hlive := h.spawned _ _ _ hq
  refine ⟨?_, ?_, ?_, apart_update hnone h.apart, ?_, h.stopping, h.clones, ?_⟩
  · intro y j hy
    change (r.session.sessions.insert sid k).get y = some j at hy
    rw [Table.get_insert] at hy
    split_ifs at hy with hne
    · cases hy
      rw [hne]
      exact hlive
    · exact h.live y j hy
  · intro b y j hb
    exact h.spawned b y j (spawned_update hnone hb).2
  · intro b j hb y hy
    obtain ⟨hne, hb⟩ := keeps_update hnone hb
    change (r.session.sessions.insert sid k).get y = some j at hy
    rw [Table.get_insert] at hy
    split_ifs at hy with hsid
    · cases hy
      exact hne (h.apart b .readLoop k hb hkeeps)
    · exact h.unlisted b j hb y hy
  · intro b j hb
    exact h.known b j (keeps_update hnone hb).2
  · intro y hy
    rcases update_cases hy with ⟨-, hy⟩ | ⟨hne, -⟩
    · exact hy.elim
    · exact absurd rfl hne

theorem Inv.does (h : r.Inv q) {op : SessionOp S} {answer : op.Answer} {q' : Holds}
    (hmoves : Moves a (q a) op answer q') (hdoes : Does V C r op answer r') :
    r'.Inv (Function.update q a q') := by
  have hsame : (q a) = q' → Function.update q a q' = q := by
    rintro rfl
    exact Function.update_eq_self a q
  cases hdoes with
  | keysOfShard i =>
      generalize hqa : q a = qa at hmoves
      cases hmoves
      rw [hsame hqa]
      exact h
  | remove sid =>
      generalize hqa : q a = qa at hmoves
      generalize hanswer : r.session.sessions.get sid = handle at hmoves
      cases hmoves with
      | absent _ | removed _ =>
          refine h.remove a sid ?_
          rw [hanswer]
  | cancel k =>
      generalize hqa : q a = qa at hmoves
      cases hmoves with
      | cancel => exact h.cancel hqa
  | cloneSender =>
      generalize hqa : q a = qa at hmoves
      cases hmoves with
      | cloneSender => exact h.clone hqa
  | spawn sid =>
      generalize hqa : q a = qa at hmoves
      cases hmoves with
      | spawn => exact h.spawn V hqa
  | insert sid k =>
      generalize hqa : q a = qa at hmoves
      cases hmoves with
      | insert => exact h.insert hqa
  | takeSender | timeout | closed _ | server _ =>
      generalize hqa : q a = qa at hmoves
      cases hmoves
      rw [hsame hqa]
      exact ⟨h.live, h.spawned, h.unlisted, h.apart, h.known, h.stopping, h.clones, h.free⟩

end Keeps

/-! ### The other steps -/

/-- What becomes of a task that nobody tells to stop meanwhile. -/
structure Goes (t t' : Task S L F) : Prop where
  sessionId : t'.sessionId = t.sessionId
  cancelled : t'.cancelled = t.cancelled
  done : t.phase.isDone → t'.phase.isDone
  stopping : ∀ p', t'.phase = .stopping p' → (∃ p, t.phase = .stopping p) ∨ t.cancelled = true

theorem Goes.refl (t : Task S L F) : Goes t t := ⟨rfl, rfl, fun h => h, fun p h => Or.inl ⟨p, h⟩⟩

theorem Goes.of_acts {V : Service S σ L F R} {k : Nat} {t t' : Task S L F} {s s' : σ} {e : Event S F R}
    (h : t.Acts V k s e t' s') : Goes t t' := by
  refine ⟨h.frame.1, h.frame.2, fun hdone => ?_, fun p' hp' => ?_⟩
  · -- a task that has finished does not act
    rw [Phase.isDone_iff] at hdone
    cases h with
    | receive hphase | stop hphase =>
        rw [hphase] at hdone
        cases hdone
    | call hphase _ =>
        rw [hdone] at hphase
        cases hphase
  · cases h with
    | receive => cases hp'
    | stop _ hcancelled => exact Or.inr hcancelled
    | call hphase _ =>
        generalize hp : t.phase = phase at hphase
        cases hphase with
        | running => cases hp'
        | stopping op next answer => exact Or.inl ⟨_, rfl⟩

structure Beside (b b' : BackendSession S σ L F R) : Prop where
  sessions : b'.sessions = b.sessions
  length : b'.tasks.length = b.tasks.length
  goes : ∀ (k : Nat) t', b'.tasks[k]? = some t' → ∃ t, b.tasks[k]? = some t ∧ Goes t t'

theorem Beside.of_tasks {b b' : BackendSession S σ L F R} (hsessions : b'.sessions = b.sessions)
    (htasks : b'.tasks = b.tasks) : Beside b b' :=
  ⟨hsessions, by rw [htasks], fun k t' hk => ⟨t', by rw [← htasks, hk], .refl t'⟩⟩

theorem Beside.dispatchBusinessFrame (b : BackendSession S σ L F R) (sid : UInt32) (frame : F) :
    Beside b (b.dispatchBusinessFrame sid frame) := by
  unfold BackendSession.dispatchBusinessFrame
  split
  · exact .of_tasks rfl rfl
  · refine ⟨rfl, by simp, fun j t' hj => ?_⟩
    rw [List.getElem?_modify] at hj
    obtain ⟨t, ht, rfl⟩ := Option.map_eq_some_iff.1 hj
    refine ⟨t, ht, ?_⟩
    split_ifs
    · exact ⟨rfl, rfl, fun h => h, fun p h => Or.inl ⟨p, h⟩⟩
    · exact .refl t
    · exact .refl t

theorem beside_of_step {V : Service S σ L F R} {C : Closing S} {b b' : BackendSession S σ L F R}
    {e : Event S F R} (h : Backend.Step V b e b') (he : e.control C = none) : Beside b b' := by
  cases h with
  | read _ hread =>
      cases e with
      | sessionOnlinePush | sessionOfflinePush | stopAllSessions => cases he
      | clientFrame sid frame =>
          cases hread
          exact .dispatchBusinessFrame b sid frame
      | serverMessage | serverOfflinePush | disconnected =>
          cases hread
          exact .of_tasks rfl rfl
      | _ => cases hread
  | readLoopCall | dispatch | dispatcherCall => exact .of_tasks rfl rfl
  | @task k t t' _ s' hk hacts =>
      refine ⟨rfl, by simp, fun j t₁ hj => ?_⟩
      by_cases hkj : k = j
      · subst hkj
        change (b.tasks.set k t')[k]? = some t₁ at hj
        rw [List.getElem?_set_self (List.getElem?_eq_some_iff.1 hk).1] at hj
        cases hj
        exact ⟨t, hk, .of_acts hacts⟩
      · exact ⟨t₁, (List.getElem?_set_ne hkj).symm.trans hj, .refl t₁⟩

section Run

variable {V : Service S σ L F R} {C : Closing S} {r r' : Runtime S σ L F R} {q : Actor → Holds}
  {b : BackendSession S σ L F R}

theorem Live.beside {sid : UInt32} {k : Nat} (h : Live r.session.tasks sid k) (hbeside : Beside r.session b) :
    Live b.tasks sid k := by
  have hlt : k < b.tasks.length := by
    rw [hbeside.length]
    exact h.lt
  obtain ⟨t, hk, hsid, hlive⟩ := h
  obtain ⟨t₀, hk₀, hgoes⟩ := hbeside.goes k _ (List.getElem?_eq_getElem hlt)
  obtain rfl := Option.some.inj (hk.symm.trans hk₀)
  exact ⟨_, List.getElem?_eq_getElem hlt, hgoes.sessionId.trans hsid, hgoes.cancelled.trans hlive⟩

theorem Inv.beside (h : r.Inv q) (hbeside : Beside r.session b) : Inv { r with session := b } q where
  live sid k hsid := by
    refine (h.live sid k ?_).beside hbeside
    rw [← hbeside.sessions]
    exact hsid
  spawned a sid k ha := (h.spawned a sid k ha).beside hbeside
  unlisted a k ha sid := by
    show b.sessions.get sid ≠ some k
    rw [hbeside.sessions]
    exact h.unlisted a k ha sid
  apart := h.apart
  known a k ha := by
    show k < b.tasks.length
    rw [hbeside.length]
    exact h.known a k ha
  stopping t' ht' p' hp' := by
    obtain ⟨k, hk⟩ := List.mem_iff_getElem?.1 ht'
    obtain ⟨t, ht, hgoes⟩ := hbeside.goes k t' hk
    rw [hgoes.cancelled]
    rcases hgoes.stopping p' hp' with ⟨p, hp⟩ | hcancelled
    · exact h.stopping t (List.mem_of_getElem? ht) p hp
    · exact hcancelled
  clones := h.clones.trans hbeside.length.symm
  free sid hsid := by
    show b.sessions.get sid = none
    rw [hbeside.sessions]
    exact h.free sid hsid

/-! ### Once all clones are dropped -/

theorem Closed.beside (h : r.Closed) (hbeside : Beside r.session b) : Closed { r with session := b } where
  taken := h.taken
  held := h.held
  done k t' hk hclone := by
    obtain ⟨t, ht, hgoes⟩ := hbeside.goes k t' hk
    exact hgoes.done (h.done k t ht hclone)

theorem Closed.does (h : r.Closed) (hlength : r.clones.length = r.session.tasks.length) {op : SessionOp S}
    {answer : op.Answer} (hdoes : Does V C r op answer r') : r'.Closed := by
  cases hdoes with
  | keysOfShard | timeout | closed => exact h
  | remove sid | insert sid k | server _ => exact ⟨h.taken, h.held, h.done⟩
  | takeSender => exact ⟨rfl, h.held, h.done⟩
  | cloneSender => exact ⟨h.taken, h.taken, h.done⟩
  | cancel k =>
      refine ⟨h.taken, h.held, fun j t hj hclone => ?_⟩
      rw [List.getElem?_modify] at hj
      obtain ⟨t₀, ht₀, rfl⟩ := Option.map_eq_some_iff.1 hj
      have hdone := h.done j t₀ ht₀ hclone
      split_ifs
      · exact hdone
      · exact hdone
  | spawn sid =>
      refine ⟨h.taken, rfl, fun j t hj hclone => ?_⟩
      change (r.session.tasks ++ [Task.spawn V sid])[j]? = some t at hj
      change (r.clones ++ [r.held])[j]? = some true at hclone
      rw [List.getElem?_append] at hj hclone
      rw [hlength] at hclone
      split_ifs at hj hclone
      · exact h.done j t hj hclone
      · have hheld := List.mem_singleton.1 (List.mem_of_getElem? hclone)
        rw [h.held] at hheld
        cases hheld

/-! ### What the waiter sees -/

/-- Whether the waiter has seen that all clones are dropped. -/
inductive Observes : Bool → (op : SessionOp S) → op.Answer → Bool → Prop
  | other {closed : Bool} {op : SessionOp S} {answer : op.Answer} (hop : op ≠ .recv) :
      Observes closed op answer closed
  | recv {closed timedOut : Bool} : Observes closed .recv timedOut !timedOut

/-- The shutdown returns that it has not timed out only if it has seen that. -/
def Saw (closed timedOut : Bool) : Prop := timedOut = false → closed = true

theorem stopSession_calls (sid : UInt32) :
    (Backend.stopSession sid : Program (sessionOps S) Unit).Calls fun op => op ≠ SessionOp.recv := by
  refine (Program.Calls.perform nofun).bind fun handle => Program.Calls.whenSome fun k => ?_
  exact Program.Calls.perform nofun

theorem sessionIds_calls (shards : List Nat) :
    (sessionIds shards : Program (sessionOps S) (List UInt32)).Calls fun op => op ≠ SessionOp.recv := by
  induction shards with
  | nil => exact .ret _
  | cons i shards ih =>
      refine (Program.Calls.perform nofun).bind fun keys => ih.bind fun sids => ?_
      exact .ret _

theorem ofServer_calls {α : Type} (p : Program S α) : (ofServer p).Calls fun op => op ≠ SessionOp.recv := by
  induction p with
  | ret a => exact .ret a
  | call op next ih => exact .call nofun ih

theorem shutdown_observes (C : Closing S) (closed : Bool) :
    (Backend.shutdown C).Follows Observes Saw closed := by
  have hstop : (Backend.stopAllSessions C).Calls fun op => op ≠ SessionOp.recv :=
    (sessionIds_calls _).bind fun sids => Program.Calls.forEach fun sid _ => stopSession_calls sid
  refine Program.Follows.calls_bind hstop (fun op answer hop => .other hop) fun _ => ?_
  refine .stay (fun _ => .other nofun) fun _ => ?_
  refine .call (fun timedOut => !timedOut) (fun timedOut => .recv) fun timedOut => ?_
  change (ofServer C.onShutdown >>= fun _ => Program.ret timedOut).Follows Observes Saw (!timedOut)
  refine Program.Follows.calls_bind (ofServer_calls C.onShutdown) (fun op answer hop => .other hop) fun _ => ?_
  refine .ret fun htimedOut => ?_
  rw [htimedOut]
  rfl

/-! ### Runs -/

/-- The actors follow their conduct, and `closed` says whether the waiter has seen that all clones are
dropped. -/
structure Tracked (r : Runtime S σ L F R) (q : Actor → Holds) (closed : Bool) : Prop where
  inv : r.Inv q
  control : r.control.Follows (Moves .readLoop) (fun q' _ => q'.Idle) (q .readLoop)
  before : r.shutdown = none → (q .shutdown).Idle ∧ closed = false
  shutdown : ∀ p, r.shutdown = some p →
    p.Follows (Moves .shutdown) (fun q' _ => q'.Idle) (q .shutdown) ∧ p.Follows Observes Saw closed
  closed : closed = true → r.Closed

/-- Every task has a clone. -/
structure Counted (r : Runtime S σ L F R) (q : Actor → Holds) : Prop where
  clones : ∀ clone ∈ r.clones, clone = true
  held : ∀ sid, q .readLoop = .cloned sid → r.held = true

/-- When `spawn_session` clones the sender, `shutdown` has not taken it. -/
def InTime (r : Runtime S σ L F R) : RuntimeEvent S F R → Prop
  | .controlCall ⟨.cloneSender, _⟩ => r.shutdownCompleteTx = true
  | _ => True

theorem Inv.of_same {r' : Runtime S σ L F R} (h : r.Inv q) (hsession : r'.session = r.session)
    (hclones : r'.clones = r.clones) : r'.Inv q := by
  refine ⟨?_, ?_, ?_, h.apart, ?_, ?_, ?_, ?_⟩ <;> rw [hsession]
  · exact h.live
  · exact h.spawned
  · exact h.unlisted
  · exact h.known
  · exact h.stopping
  · rw [hclones]
    exact h.clones
  · exact h.free

theorem Does.programs {op : SessionOp S} {answer : op.Answer} (h : Does V C r op answer r') :
    r'.control = r.control ∧ r'.shutdown = r.shutdown := by
  cases h <;> exact ⟨rfl, rfl⟩

theorem Does.clones {op : SessionOp S} {answer : op.Answer} (h : Does V C r op answer r')
    (hclone : op ≠ .cloneSender) (hspawn : ∀ sid, op ≠ .spawn sid) :
    r'.clones = r.clones ∧ r'.held = r.held := by
  cases h with
  | cloneSender => exact absurd rfl hclone
  | spawn sid => exact absurd rfl (hspawn sid)
  | _ => exact ⟨rfl, rfl⟩

theorem Counted.of_same {q' : Actor → Holds} (h : r.Counted q) (hclones : r'.clones = r.clones)
    (hheld : r'.held = r.held) (hq : ∀ sid, q' .readLoop = .cloned sid → q .readLoop = .cloned sid) :
    r'.Counted q' := by
  refine ⟨?_, ?_⟩
  · rw [hclones]
    exact h.clones
  · rw [hheld]
    exact fun sid hsid => h.held sid (hq sid hsid)

theorem Counted.does (h : r.Counted q) {a : Actor} {op : SessionOp S} {answer : op.Answer} {q' : Holds}
    (hintime : a = .readLoop → op = .cloneSender → r.shutdownCompleteTx = true)
    (hmoves : Moves a (q a) op answer q') (hdoes : Does V C r op answer r') :
    r'.Counted (Function.update q a q') := by
  have hold : (∀ sid, q' = .cloned sid → q a = .cloned sid) → ∀ sid,
      Function.update q a q' .readLoop = .cloned sid → q .readLoop = .cloned sid := by
    intro hq' sid hsid
    rcases update_cases (P := fun q => q = .cloned sid) hsid with ⟨ha, hsid⟩ | ⟨-, hsid⟩
    · rw [ha]
      exact hq' sid hsid
    · exact hsid
  generalize hqa : q a = qa at hmoves hold
  cases hmoves with
  | keysOfShard | takeSender | recv | server =>
      obtain ⟨hclones, hheld⟩ := hdoes.clones nofun nofun
      exact h.of_same hclones hheld (hold fun _ h => h)
  | absent | removed | cancel | insert =>
      obtain ⟨hclones, hheld⟩ := hdoes.clones nofun nofun
      exact h.of_same hclones hheld (hold nofun)
  | cloneSender =>
      cases hdoes
      exact ⟨h.clones, fun _ _ => hintime rfl rfl⟩
  | spawn =>
      cases hdoes
      refine ⟨fun clone hclone => ?_, fun sid hsid => ?_⟩
      · rcases List.mem_append.1 hclone with hclone | hclone
        · exact h.clones clone hclone
        · rw [List.mem_singleton.1 hclone]
          exact h.held _ hqa
      · rw [Function.update_self] at hsid
        cases hsid

theorem closed_of_observes {closed closed' : Bool} {op : SessionOp S} {answer : op.Answer}
    (hobserves : Observes closed op answer closed') (hdoes : Does V C r op answer r')
    (h : closed = true → r.Closed) (hclosed : closed' = true) : r.Closed := by
  cases hobserves with
  | other _ => exact h hclosed
  | recv =>
      cases hdoes with
      | timeout => cases hclosed
      | closed hall => exact hall

theorem Tracked.step {closed : Bool} {e : RuntimeEvent S F R} (h : r.Tracked q closed)
    (hstep : Step V C r e r') :
    ∃ q' closed', r'.Tracked q' closed' ∧ (r.InTime e → r.Counted q → r'.Counted q') := by
  cases hstep with
  | control hidle hcontrol he =>
      have hq := h.control
      rw [hcontrol] at hq
      refine ⟨q, closed, ⟨h.inv.of_same rfl rfl, control_follows he hq.of_ret, h.before, h.shutdown, fun hc => ?_⟩,
        fun _ hcounted => ⟨hcounted.clones, hcounted.held⟩⟩
      exact ⟨(h.closed hc).taken, (h.closed hc).held, (h.closed hc).done⟩
  | session _ he hsession =>
      have hbeside := beside_of_step hsession he
      exact ⟨q, closed, ⟨h.inv.beside hbeside, h.control, h.before, h.shutdown,
        fun hc => (h.closed hc).beside hbeside⟩, fun _ hcounted => ⟨hcounted.clones, hcounted.held⟩⟩
  | @controlCall r' op answer next hbusy hdoes =>
      have hq := h.control
      rw [hbusy] at hq
      obtain ⟨q', hmoves, hnext⟩ := hq.step answer
      have hne : Actor.shutdown ≠ Actor.readLoop := nofun
      have hother : Function.update q .readLoop q' .shutdown = q .shutdown := Function.update_of_ne hne ..
      obtain ⟨-, hshutdown⟩ := hdoes.programs
      refine ⟨Function.update q .readLoop q', closed, ⟨(h.inv.does hmoves hdoes).of_same rfl rfl, ?_, ?_, ?_, ?_⟩, ?_⟩
      · rw [Function.update_self]
        exact hnext
      · rw [hother]
        exact fun hnone => h.before (hshutdown.symm.trans hnone)
      · rw [hother]
        exact fun p hp => h.shutdown p (hshutdown.symm.trans hp)
      · intro hc
        have hclosed := (h.closed hc).does h.inv.clones hdoes
        exact ⟨hclosed.taken, hclosed.held, hclosed.done⟩
      · intro hintime hcounted
        have hcounted' := hcounted.does (fun _ hop => ?_) hmoves hdoes
        · exact ⟨hcounted'.clones, hcounted'.held⟩
        · subst hop
          exact hintime
  | shutdown hnone =>
      obtain ⟨hq, rfl⟩ := h.before hnone
      refine ⟨q, false, ⟨h.inv.of_same rfl rfl, h.control, nofun, ?_, nofun⟩,
        fun _ hcounted => ⟨hcounted.clones, hcounted.held⟩⟩
      intro p hp
      obtain rfl := Option.some.inj hp
      exact ⟨shutdown_follows C hq, shutdown_observes C false⟩
  | @shutdownCall r' op answer next hbusy hdoes =>
      obtain ⟨hq, hobserves⟩ := h.shutdown _ hbusy
      obtain ⟨q', hmoves, hnext⟩ := hq.step answer
      obtain ⟨closed', hclosed', hnext'⟩ := hobserves.step answer
      have hne : Actor.readLoop ≠ Actor.shutdown := nofun
      have hother : Function.update q .shutdown q' .readLoop = q .readLoop := Function.update_of_ne hne ..
      obtain ⟨hcontrol, -⟩ := hdoes.programs
      refine ⟨Function.update q .shutdown q', closed', ⟨(h.inv.does hmoves hdoes).of_same rfl rfl, ?_, nofun, ?_, ?_⟩, ?_⟩
      · rw [hother]
        show r'.control.Follows _ _ _
        rw [hcontrol]
        exact h.control
      · intro p hp
        obtain rfl := Option.some.inj hp
        rw [Function.update_self]
        exact ⟨hnext, hnext'⟩
      · intro hc
        have hclosed := (closed_of_observes hclosed' hdoes h.closed hc).does h.inv.clones hdoes
        exact ⟨hclosed.taken, hclosed.held, hclosed.done⟩
      · intro _ hcounted
        have hnever : Actor.shutdown = .readLoop → op = .cloneSender → r.shutdownCompleteTx = true := nofun
        have hcounted' := hcounted.does hnever hmoves hdoes
        exact ⟨hcounted'.clones, hcounted'.held⟩

variable {s : σ} {trace : List (Runtime S σ L F R × RuntimeEvent S F R)}

theorem Tracked.start (s : σ) : (Runtime.start s : Runtime S σ L F R).Tracked (fun _ => .nothing) false where
  inv := .start s
  control := .ret trivial
  before _ := ⟨trivial, rfl⟩
  shutdown _ h := by cases h
  closed h := by cases h

theorem tracked_of_run (hrun : Run (Step V C) (start s) trace r) : ∃ q closed, r.Tracked q closed := by
  refine hrun.invariant (fun r => ∃ q closed, r.Tracked q closed) ⟨_, _, .start s⟩ ?_
  rintro r e r' ⟨q, closed, h⟩ hstep
  obtain ⟨q', closed', h', -⟩ := h.step hstep
  exact ⟨q', closed', h'⟩

/-- The shutdown has returned and has not timed out. -/
def Exited (r : Runtime S σ L F R) : Prop := r.shutdown = some (.ret false)

/-- Every task that has ever been spawned has completed `on_stop`, and `sessions` is empty. -/
structure Reached (r : Runtime S σ L F R) : Prop where
  tasks : ∀ t ∈ r.session.tasks, t.phase.isDone
  sessions : ∀ sid, r.session.sessions.get sid = none

theorem closed_of_run (hrun : Run (Step V C) (start s) trace r) (hexited : r.Exited) : r.Closed := by
  obtain ⟨q, closed, h⟩ := tracked_of_run hrun
  obtain ⟨-, hobserves⟩ := h.shutdown _ hexited
  exact h.closed (hobserves.of_ret rfl)

theorem reached_of_done (hrun : Run (Step V C) (start s) trace r)
    (hdone : ∀ t ∈ r.session.tasks, t.phase.isDone) : r.Reached := by
  refine ⟨hdone, fun sid => ?_⟩
  obtain ⟨q, closed, h⟩ := tracked_of_run hrun
  rcases hget : r.session.sessions.get sid with _ | k
  · rfl
  · -- a task that is listed has not been told to stop, so it is not done
    obtain ⟨t, hk, -, hlive⟩ := h.inv.live sid k hget
    have ht := List.mem_of_getElem? hk
    rw [h.inv.stopping t ht _ (Phase.isDone_iff.1 (hdone t ht))] at hlive
    cases hlive

/-- What the shutdown can miss are the tasks without a clone. -/
theorem reached_iff (hrun : Run (Step V C) (start s) trace r) (hexited : r.Exited) :
    r.Reached ↔ ∀ (k : Nat) t, r.session.tasks[k]? = some t → r.clones[k]? = some false → t.phase.isDone := by
  constructor
  · exact fun h k t hk _ => h.tasks t (List.mem_of_getElem? hk)
  · intro hlate
    refine reached_of_done hrun fun t ht => ?_
    obtain ⟨q, closed, h⟩ := tracked_of_run hrun
    obtain ⟨k, hk⟩ := List.mem_iff_getElem?.1 ht
    have hlt : k < r.clones.length := by
      rw [h.inv.clones]
      exact (List.getElem?_eq_some_iff.1 hk).1
    rcases hclone : r.clones[k] with _ | _
    · exact hlate k t hk (List.getElem?_eq_some_iff.2 ⟨hlt, hclone⟩)
    · exact (closed_of_run hrun hexited).done k t hk (List.getElem?_eq_some_iff.2 ⟨hlt, hclone⟩)

end Run

/-! ### Runs that compute -/

section Compute

instance (r : Runtime S σ L F R) : Decidable r.Closed :=
  decidable_of_iff (r.shutdownCompleteTx = false ∧ r.held = false ∧
    ∀ e ∈ r.session.tasks.zip r.clones, e.2 = true → e.1.phase.isDone) (by
      constructor
      · rintro ⟨htaken, hheld, hdone⟩
        refine ⟨htaken, hheld, fun k t hk hclone => ?_⟩
        have he : (r.session.tasks.zip r.clones)[k]? = some (t, true) :=
          List.getElem?_zip_eq_some.2 ⟨hk, hclone⟩
        exact hdone _ (List.mem_of_getElem? he) rfl
      · rintro ⟨htaken, hheld, hdone⟩
        refine ⟨htaken, hheld, fun e he hclone => ?_⟩
        obtain ⟨k, hk⟩ := List.mem_iff_getElem?.1 he
        obtain ⟨ht, hc⟩ := List.getElem?_zip_eq_some.1 hk
        rw [hclone] at hc
        exact hdone k e.1 ht hc)

instance (r : Runtime S σ L F R) (e : RuntimeEvent S F R) : Decidable (r.InTime e) :=
  match e with
  | .controlCall ⟨.cloneSender, _⟩ => inferInstanceAs (Decidable (r.shutdownCompleteTx = true))
  | .controlCall ⟨.keysOfShard _, _⟩ | .controlCall ⟨.remove _, _⟩ | .controlCall ⟨.cancel _, _⟩
  | .controlCall ⟨.spawn _, _⟩ | .controlCall ⟨.insert _ _, _⟩ | .controlCall ⟨.takeSender, _⟩
  | .controlCall ⟨.recv, _⟩ | .controlCall ⟨.server _, _⟩ | .session _ | .shutdown | .shutdownCall _ =>
      .isTrue trivial

variable {V : Service S σ L F R} (X : Executor V) (C : Closing S)

/-- The waiter waits as long as it has to. -/
def exec (r : Runtime S σ L F R) : (op : SessionOp S) → Option (op.Answer × Runtime S σ L F R)
  | .keysOfShard i =>
      some ((r.session.sessions.toList.map Prod.fst).filter fun sid => (C.shardOf sid : Nat) = i, r)
  | .remove sid => some (r.session.sessions.get sid,
      { r with session := { r.session with sessions := r.session.sessions.remove sid } })
  | .cancel k => some ((), { r with session := { r.session with
      tasks := r.session.tasks.modify k fun t => { t with cancelled := true } } })
  | .cloneSender => some ((), { r with held := r.shutdownCompleteTx })
  | .spawn sid => some (r.session.tasks.length, { r with
      session := { r.session with tasks := r.session.tasks ++ [.spawn V sid] }
      clones := r.clones ++ [r.held]
      held := false })
  | .insert sid k => some ((),
      { r with session := { r.session with sessions := r.session.sessions.insert sid k } })
  | .takeSender => some ((), { r with shutdownCompleteTx := false })
  | .recv => if r.Closed then some (false, r) else none
  | .server op => some ((X.exec r.session.shared op).1,
      { r with session := { r.session with shared := (X.exec r.session.shared op).2 } })

theorem does_exec {r r' : Runtime S σ L F R} {op : SessionOp S} {answer : op.Answer}
    (h : exec X C r op = some (answer, r')) : Does V C r op answer r' := by
  cases op with
  | recv =>
      simp only [exec] at h
      split_ifs at h with hclosed
      cases h
      exact .closed hclosed
  | server op =>
      cases h
      exact .server (X.does_exec _ _)
  | _ =>
      cases h
      constructor

inductive RuntimeSlot (S : Signature) (F R : Type)
  | session (slot : Slot S F R)
  | control (e : Event S F R)
  | controlCall
  | shutdown

def advance (r : Runtime S σ L F R) : RuntimeSlot S F R → Option (RuntimeEvent S F R × Runtime S σ L F R)
  | .session slot => do
      let (e, b) ← X.advance r.session slot
      if (e.elsewhere || r.control.isRet) && (e.control C).isNone then
        some (.session e, { r with session := b })
      else none
  | .control e => do
      let p ← e.control C
      if r.session.readLoop.isRet && r.control.isRet then some (.session e, { r with control := p }) else none
  | .controlCall =>
      match r.control with
      | .ret _ => none
      | .call op next => (exec X C r op).map fun (answer, r') =>
          (.controlCall ⟨op, answer⟩, { r' with control := next answer })
  | .shutdown =>
      match r.shutdown with
      | none => some (.shutdown, { r with shutdown := some (Backend.shutdown C) })
      | some (.ret _) => none
      | some (.call op next) => (exec X C r op).map fun (answer, r') =>
          (.shutdownCall ⟨op, answer⟩, { r' with shutdown := some (next answer) })

theorem advance_sound (r : Runtime S σ L F R) (slot : RuntimeSlot S F R) (e : RuntimeEvent S F R)
    (r' : Runtime S σ L F R) (h : advance X C r slot = some (e, r')) : Step V C r e r' := by
  have hret : ∀ {S : Signature} {p : Program S Unit}, p.isRet = true → p = .ret () := by
    intro S p hp
    obtain ⟨⟨⟩, rfl⟩ := Program.isRet_iff.1 hp
    rfl
  cases slot with
  | session slot =>
      simp only [advance, Option.bind_eq_bind, Option.bind_eq_some_iff] at h
      obtain ⟨⟨e, b⟩, hadvance, h⟩ := h
      split_ifs at h with hok
      cases h
      rw [Bool.and_eq_true, Bool.or_eq_true] at hok
      refine .session (fun helsewhere => ?_) (Option.isNone_iff_eq_none.1 hok.2) (X.advance_sound hadvance)
      rcases hok.1 with h | h
      · rw [helsewhere] at h
        cases h
      · exact hret h
  | control e =>
      simp only [advance, Option.bind_eq_bind, Option.bind_eq_some_iff] at h
      obtain ⟨p, hp, h⟩ := h
      split_ifs at h with hok
      cases h
      rw [Bool.and_eq_true] at hok
      exact .control (hret hok.1) (hret hok.2) hp
  | controlCall =>
      rw [advance] at h
      split at h
      · cases h
      · rename_i op next hbusy
        obtain ⟨⟨answer, r'⟩, hexec, h⟩ := Option.map_eq_some_iff.1 h
        cases h
        exact .controlCall hbusy (does_exec X C hexec)
  | shutdown =>
      rw [advance] at h
      split at h
      · rename_i hnone
        cases h
        exact .shutdown hnone
      · cases h
      · rename_i op next hbusy
        obtain ⟨⟨answer, r'⟩, hexec, h⟩ := Option.map_eq_some_iff.1 h
        cases h
        exact .shutdownCall hbusy (does_exec X C hexec)

end Compute

/-! ### The shutdown reaches the sessions that it has counted -/

/-- In a run in which every session is spawned before the shutdown takes the sender, it reaches all. -/
theorem shutdown_reaches {V : Service S σ L F R} {C : Closing S} {s : σ} {r : Runtime S σ L F R}
    {trace : List (Runtime S σ L F R × RuntimeEvent S F R)}
    (hrun : Run (Step V C) (start s) trace r) (hintime : ∀ e ∈ trace, e.1.InTime e.2)
    (hexited : r.Exited) : r.Reached := by
  have hcounted : ∃ q closed, r.Tracked q closed ∧ r.Counted q := by
    refine hrun.invariant_of InTime (fun r => ∃ q closed, r.Tracked q closed ∧ r.Counted q) hintime
      ⟨_, _, .start s, nofun, nofun⟩ ?_
    rintro r e r' ⟨q, closed, h, hcounted⟩ hok hstep
    obtain ⟨q', closed', h', hcounted'⟩ := h.step hstep
    exact ⟨q', closed', h', hcounted' hok hcounted⟩
  obtain ⟨q, closed, -, hcounted⟩ := hcounted
  rw [reached_iff hrun hexited]
  intro k t _ hclone
  cases hcounted.clones _ (List.mem_of_getElem? hclone)

/-- A server whose callbacks do nothing. -/
def plain : Service ⟨Empty, Empty.elim⟩ Unit Unit Unit Unit where
  does _ op _ _ := op.elim
  createSessionDelegate _ := ()
  onStart _ := .ret ()
  onClientFrame _ _ := .ret ()
  onStop _ := .ret ()
  onServerMessage _ := .ret ()
  onServerOffline _ _ := .ret ()
  onDisconnected := .ret ()

def plainExecutor : Executor plain where
  exec _ op := op.elim
  does_exec _ op := op.elim

def plainClosing : Closing ⟨Empty, Empty.elim⟩ := ⟨1, fun _ => 0, .ret ()⟩

/-- Session 1 comes online. -/
def comeOnline : List (RuntimeSlot ⟨Empty, Empty.elim⟩ Unit Unit) :=
  .control (.sessionOnlinePush 1) :: List.replicate 4 .controlCall

theorem shutdown_reaches_session : ∃ trace r, Run (Step plain plainClosing) (start ()) trace r ∧
    r.Exited ∧ r.session.tasks.map (·.sessionId) = [1] ∧ r.Reached := by
  have h : ∃ trace r, Run.schedule (advance plainExecutor plainClosing) (start ())
      (comeOnline ++ List.replicate 5 .shutdown ++ [.session (.task 0), .shutdown]) = some (trace, r) ∧
      r.Exited ∧ r.session.tasks.map (·.sessionId) = [1] ∧ ∀ e ∈ trace, e.1.InTime e.2 := by
    refine ⟨_, _, rfl, rfl, rfl, ?_⟩
    decide +kernel
  obtain ⟨trace, r, hschedule, hexited, htasks, hintime⟩ := h
  have hrun := Run.of_schedule (advance_sound _ _) hschedule
  exact ⟨trace, r, hrun, hexited, htasks, shutdown_reaches hrun hintime hexited⟩

/-- The session comes online when the shutdown has taken the sender. -/
theorem late_session_missed :
    ∃ trace r, Run (Step plain plainClosing) (start ()) trace r ∧ r.Exited ∧ ¬ r.Reached := by
  have h : ∃ trace r, Run.schedule (advance plainExecutor plainClosing) (start ())
      (List.replicate 3 .shutdown ++ comeOnline ++ [.shutdown]) = some (trace, r) ∧
      r.Exited ∧ r.session.sessions.get 1 = some 0 := ⟨_, _, rfl, rfl, rfl⟩
  obtain ⟨trace, r, hschedule, hexited, hlisted⟩ := h
  refine ⟨trace, r, Run.of_schedule (advance_sound _ _) hschedule, hexited, fun hreached => ?_⟩
  rw [hreached.sessions 1] at hlisted
  cases hlisted

end Runtime

end AxmolFighter.Backend
