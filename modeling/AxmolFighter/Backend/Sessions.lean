import AxmolFighter.Lib.Program
import AxmolFighter.Lib.Run
import AxmolFighter.Lib.Table

/-!
# The sessions of a backend server

`BackendSession` of `backend-framework/src/session.rs`: one task for every session the gateway announces,
and one dispatcher for the messages of other servers. The read loop starts tasks, cancels them and fills
their mailboxes. A cancel is only a signal: the task sees it when it is back at its loop, finishes with
`on_stop`, and nobody waits for it. So two tasks of one session can be at work at the same time.

What a server does in its callbacks is a parameter, and so is its shared state.
-/

namespace AxmolFighter.Backend

/-- A server: the operations on its shared state, and the callbacks of its delegates. `L` is the state of a
session's delegate, `F` a client's frame and `R` a message of another server. -/
structure Service (S : Signature) (σ L F R : Type) where
  does : σ → (op : S.Op) → S.Answer op → σ → Prop
  createSessionDelegate : UInt32 → L
  onStart : L → Program S L
  onClientFrame : L → F → Program S L
  onStop : L → Program S Unit
  onServerMessage : R → Program S Unit
  onServerOffline : UInt32 → UInt32 → Program S Unit
  onDisconnected : Program S Unit

/-- What is left of what a task is doing. At its loop, nothing is left; after `on_stop`, it is finished. -/
inductive Phase (S : Signature) (L : Type)
  | running (p : Program S L)
  | stopping (p : Program S Unit)

structure Task (S : Signature) (L F : Type) where
  sessionId : UInt32
  phase : Phase S L
  mailbox : List F := []
  cancelled : Bool := false

/-- `CLIENT_MAILBOX_SIZE`. -/
def clientMailboxSize : Nat := 256

/-- The task of a session that has just come online. -/
def Task.spawn {S : Signature} {σ L F R : Type} (V : Service S σ L F R) (sessionId : UInt32) : Task S L F where
  sessionId
  phase := .running (V.onStart (V.createSessionDelegate sessionId))

/-- `sessions` has the task of each session that is online; the tasks themselves are never forgotten. -/
structure BackendSession (S : Signature) (σ L F R : Type) where
  shared : σ
  sessions : Table UInt32 Nat := ∅
  tasks : List (Task S L F) := []
  serverDispatch : List R := []
  dispatcher : Program S Unit := .ret ()
  readLoop : Program S Unit := .ret ()

inductive Event (S : Signature) (F R : Type)
  | sessionOnlinePush (sessionId : UInt32)
  | sessionOfflinePush (sessionId : UInt32)
  | clientFrame (sessionId : UInt32) (frame : F)
  | serverMessage (msg : R)
  | serverOfflinePush (serviceId instanceId : UInt32)
  | disconnected
  | stopAllSessions
  | readLoopCall (c : S.Call)
  | dispatch
  | dispatcherCall (c : S.Call)
  | receive (k : Nat)
  | stop (k : Nat)
  | call (k : Nat) (c : S.Call)

variable {S : Signature} {σ L F R : Type}

/-- The operation that an event carries out. -/
def Event.op : Event S F R → Option S.Op
  | .readLoopCall c | .dispatcherCall c | .call _ c => some c.op
  | _ => none

/-! ### The read loop -/

namespace BackendSession

variable (b : BackendSession S σ L F R)

def stopSession (sessionId : UInt32) : BackendSession S σ L F R :=
  match b.sessions.get sessionId with
  | none => b
  | some k =>
      { b with
        sessions := b.sessions.remove sessionId
        tasks := b.tasks.modify k fun t => { t with cancelled := true } }

def spawnSession (V : Service S σ L F R) (sessionId : UInt32) : BackendSession S σ L F R :=
  let b := b.stopSession sessionId
  { b with
    sessions := b.sessions.insert sessionId b.tasks.length
    tasks := b.tasks ++ [Task.spawn V sessionId] }

def stopAllSessions : BackendSession S σ L F R :=
  (b.sessions.toList.map Prod.fst).foldl stopSession b

/-- A frame with a serial that is not positive; it is dropped if the session is unknown or its mailbox
full. -/
def dispatchBusinessFrame (sessionId : UInt32) (frame : F) : BackendSession S σ L F R :=
  match b.sessions.get sessionId with
  | none => b
  | some k =>
      { b with tasks := b.tasks.modify k fun t =>
          if t.mailbox.length < clientMailboxSize then { t with mailbox := t.mailbox ++ [frame] }
          else t }

end BackendSession

/-! ### Steps -/

/-- The next operation of a task. -/
inductive Phase.Step : Phase S L → (op : S.Op) → S.Answer op → Phase S L → Prop
  | running (op : S.Op) (next : S.Answer op → Program S L) (answer : S.Answer op) :
      Step (.running (.call op next)) op answer (.running (next answer))
  | stopping (op : S.Op) (next : S.Answer op → Program S Unit) (answer : S.Answer op) :
      Step (.stopping (.call op next)) op answer (.stopping (next answer))

/-- What a task does on its own: it looks for the cancel before it takes a frame. -/
inductive Task.Acts (V : Service S σ L F R) (k : Nat) (t : Task S L F) (s : σ) :
    Event S F R → Task S L F → σ → Prop
  | receive {l : L} {frame : F} {rest : List F} (hphase : t.phase = .running (.ret l))
      (hcancelled : t.cancelled = false) (hmailbox : t.mailbox = frame :: rest) :
      Acts V k t s (.receive k) { t with mailbox := rest, phase := .running (V.onClientFrame l frame) } s
  | stop {l : L} (hphase : t.phase = .running (.ret l)) (hcancelled : t.cancelled = true) :
      Acts V k t s (.stop k) { t with phase := .stopping (V.onStop l) } s
  | call {op : S.Op} {answer : S.Answer op} {phase : Phase S L} {s' : σ}
      (hphase : t.phase.Step op answer phase) (hdoes : V.does s op answer s') :
      Acts V k t s (.call k ⟨op, answer⟩) { t with phase } s'

/-- What the read loop does with what arrives; its own callbacks are to be run before it reads on. -/
def BackendSession.read (V : Service S σ L F R) (b : BackendSession S σ L F R) :
    Event S F R → Option (BackendSession S σ L F R)
  | .sessionOnlinePush sessionId => some (b.spawnSession V sessionId)
  | .sessionOfflinePush sessionId => some (b.stopSession sessionId)
  | .clientFrame sessionId frame => some (b.dispatchBusinessFrame sessionId frame)
  | .serverMessage msg => some { b with serverDispatch := b.serverDispatch ++ [msg] }
  | .serverOfflinePush serviceId instanceId =>
      some { b with readLoop := V.onServerOffline serviceId instanceId }
  | .disconnected => some { b with readLoop := V.onDisconnected }
  | .stopAllSessions => some b.stopAllSessions
  | _ => none

inductive Step (V : Service S σ L F R) :
    BackendSession S σ L F R → Event S F R → BackendSession S σ L F R → Prop
  | read {b b' : BackendSession S σ L F R} {e : Event S F R} (hidle : b.readLoop = .ret ())
      (h : b.read V e = some b') : Step V b e b'
  | readLoopCall {b : BackendSession S σ L F R} {op : S.Op} {next : S.Answer op → Program S Unit}
      {answer : S.Answer op} {s' : σ} (hbusy : b.readLoop = .call op next)
      (hdoes : V.does b.shared op answer s') :
      Step V b (.readLoopCall ⟨op, answer⟩) { b with shared := s', readLoop := next answer }
  | dispatch {b : BackendSession S σ L F R} {msg : R} {rest : List R}
      (hidle : b.dispatcher = .ret ()) (hqueue : b.serverDispatch = msg :: rest) :
      Step V b .dispatch { b with serverDispatch := rest, dispatcher := V.onServerMessage msg }
  | dispatcherCall {b : BackendSession S σ L F R} {op : S.Op} {next : S.Answer op → Program S Unit}
      {answer : S.Answer op} {s' : σ} (hbusy : b.dispatcher = .call op next)
      (hdoes : V.does b.shared op answer s') :
      Step V b (.dispatcherCall ⟨op, answer⟩) { b with shared := s', dispatcher := next answer }
  | task {b : BackendSession S σ L F R} {k : Nat} {t t' : Task S L F} {e : Event S F R} {s' : σ}
      (hk : b.tasks[k]? = some t) (h : t.Acts V k b.shared e t' s') :
      Step V b e { b with shared := s', tasks := b.tasks.set k t' }

/-! ### What happens to a task -/

/-- What others do to a task: they cancel it and fill its mailbox. -/
structure Task.Same (t t' : Task S L F) : Prop where
  sessionId : t'.sessionId = t.sessionId
  phase : t'.phase = t.phase
  cancelled : t.cancelled = true → t'.cancelled = true

theorem Task.Same.refl (t : Task S L F) : t.Same t := ⟨rfl, rfl, fun h => h⟩

theorem Task.Same.trans {t t' t'' : Task S L F} (h : t.Same t') (h' : t'.Same t'') : t.Same t'' :=
  ⟨h'.sessionId.trans h.sessionId, h'.phase.trans h.phase, fun hc => h'.cancelled (h.cancelled hc)⟩

theorem Task.Acts.frame {V : Service S σ L F R} {k : Nat} {t t' : Task S L F} {s s' : σ}
    {e : Event S F R} (h : t.Acts V k s e t' s') :
    t'.sessionId = t.sessionId ∧ t'.cancelled = t.cancelled := by
  cases h <;> exact ⟨rfl, rfl⟩

/-- The tasks are the same ones. -/
def SameTasks (ts ts' : List (Task S L F)) : Prop := List.Forall₂ Task.Same ts ts'

namespace SameTasks

variable {ts ts' : List (Task S L F)} {k : Nat} {t t' : Task S L F}

protected theorem refl (ts : List (Task S L F)) : SameTasks ts ts :=
  List.forall₂_same.2 fun t _ => Task.Same.refl t

theorem trans {ts'' : List (Task S L F)} (h : SameTasks ts ts') (h' : SameTasks ts' ts'') :
    SameTasks ts ts'' := by
  induction h generalizing ts'' with
  | nil => exact h'
  | cons hsame _ ih =>
      cases h' with
      | cons hsame' h' => exact .cons (hsame.trans hsame') (ih h')

theorem modify {f : Task S L F → Task S L F} (hf : ∀ t : Task S L F, t.Same (f t))
    (ts : List (Task S L F)) (k : Nat) : SameTasks ts (ts.modify k f) := by
  induction ts generalizing k with
  | nil =>
      rw [List.modify_nil]
      exact .nil
  | cons t ts ih =>
      cases k with
      | zero => exact .cons (hf t) (SameTasks.refl ts)
      | succ k => exact .cons (.refl t) (ih k)

theorem get (h : SameTasks ts ts') (hk : ts[k]? = some t) : ∃ t', ts'[k]? = some t' ∧ t.Same t' := by
  induction h generalizing k with
  | nil => cases hk
  | cons hsame _ ih =>
      cases k with
      | zero => exact ⟨_, rfl, Option.some.inj hk ▸ hsame⟩
      | succ k => exact ih hk

theorem get' (h : SameTasks ts ts') (hk : ts'[k]? = some t') : ∃ t, ts[k]? = some t ∧ t.Same t' := by
  induction h generalizing k with
  | nil => cases hk
  | cons hsame _ ih =>
      cases k with
      | zero => exact ⟨_, rfl, Option.some.inj hk ▸ hsame⟩
      | succ k => exact ih hk

theorem length_eq (h : SameTasks ts ts') : ts'.length = ts.length := (List.Forall₂.length_eq h).symm

end SameTasks

/-- The task that an event starts. -/
def Event.spawned (V : Service S σ L F R) : Event S F R → List (Task S L F)
  | .sessionOnlinePush sessionId => [.spawn V sessionId]
  | _ => []

namespace BackendSession

variable {b b' : BackendSession S σ L F R} {V : Service S σ L F R} {e : Event S F R} {sid y : UInt32}
  {k : Nat}

theorem sameTasks_stopSession (b : BackendSession S σ L F R) (sid : UInt32) :
    SameTasks b.tasks (b.stopSession sid).tasks := by
  unfold stopSession
  split
  · exact .refl _
  · exact .modify (f := fun t => { t with cancelled := true }) (fun t => ⟨rfl, rfl, fun _ => rfl⟩) _ _

theorem sameTasks_stopAllSessions (b : BackendSession S σ L F R) :
    SameTasks b.tasks b.stopAllSessions.tasks := by
  unfold stopAllSessions
  generalize b.sessions.toList.map Prod.fst = sids
  induction sids generalizing b with
  | nil => exact .refl _
  | cons sid sids ih => exact (sameTasks_stopSession b sid).trans (ih _)

theorem sameTasks_dispatchBusinessFrame (b : BackendSession S σ L F R) (sid : UInt32) (frame : F) :
    SameTasks b.tasks (b.dispatchBusinessFrame sid frame).tasks := by
  unfold dispatchBusinessFrame
  split
  · exact .refl _
  · refine .modify (fun t => ?_) _ _
    split_ifs
    · exact ⟨rfl, rfl, fun h => h⟩
    · exact .refl t

theorem stopSession_shared (b : BackendSession S σ L F R) (sid : UInt32) :
    (b.stopSession sid).shared = b.shared := by
  unfold stopSession
  split <;> rfl

theorem stopAllSessions_shared (b : BackendSession S σ L F R) : b.stopAllSessions.shared = b.shared := by
  unfold stopAllSessions
  generalize b.sessions.toList.map Prod.fst = sids
  induction sids generalizing b with
  | nil => rfl
  | cons sid sids ih => exact (ih (b.stopSession sid)).trans (stopSession_shared b sid)

theorem read_spec (h : b.read V e = some b') :
    b'.shared = b.shared ∧ ∃ ts, SameTasks b.tasks ts ∧ b'.tasks = ts ++ e.spawned V := by
  have hstay : ∀ b' : BackendSession S σ L F R, SameTasks b.tasks b'.tasks →
      ∃ ts, SameTasks b.tasks ts ∧ b'.tasks = ts ++ [] := fun b' hsame =>
    ⟨b'.tasks, hsame, (List.append_nil _).symm⟩
  cases e with
  | sessionOnlinePush sid =>
      cases h
      exact ⟨stopSession_shared b sid, _, sameTasks_stopSession b sid, rfl⟩
  | sessionOfflinePush sid =>
      cases h
      exact ⟨stopSession_shared b sid, hstay _ (sameTasks_stopSession b sid)⟩
  | clientFrame sid frame =>
      cases h
      refine ⟨?_, hstay _ (sameTasks_dispatchBusinessFrame b sid frame)⟩
      unfold dispatchBusinessFrame
      split <;> rfl
  | serverMessage _ | serverOfflinePush _ _ | disconnected =>
      cases h
      exact ⟨rfl, hstay _ (.refl _)⟩
  | stopAllSessions =>
      cases h
      exact ⟨stopAllSessions_shared b, hstay _ (sameTasks_stopAllSessions b)⟩
  | _ => cases h

theorem read_callbacks (h : b.read V e = some b') : b'.dispatcher = b.dispatcher ∧
    (b'.readLoop = b.readLoop ∨ b'.readLoop = V.onDisconnected ∨
      ∃ serviceId instanceId, b'.readLoop = V.onServerOffline serviceId instanceId) := by
  have hstop : ∀ (b : BackendSession S σ L F R) (sid : UInt32),
      (b.stopSession sid).dispatcher = b.dispatcher ∧ (b.stopSession sid).readLoop = b.readLoop := by
    intro b sid
    unfold stopSession
    split <;> exact ⟨rfl, rfl⟩
  have hstopAll : ∀ (sids : List UInt32) (b : BackendSession S σ L F R),
      (sids.foldl stopSession b).dispatcher = b.dispatcher ∧
        (sids.foldl stopSession b).readLoop = b.readLoop := by
    intro sids
    induction sids with
    | nil => exact fun b => ⟨rfl, rfl⟩
    | cons sid sids ih =>
        intro b
        obtain ⟨hdispatcher, hreadLoop⟩ := ih (b.stopSession sid)
        exact ⟨hdispatcher.trans (hstop b sid).1, hreadLoop.trans (hstop b sid).2⟩
  cases e with
  | sessionOnlinePush sid | sessionOfflinePush sid =>
      cases h
      exact ⟨(hstop b sid).1, Or.inl (hstop b sid).2⟩
  | clientFrame sid frame =>
      cases h
      unfold dispatchBusinessFrame
      split <;> exact ⟨rfl, Or.inl rfl⟩
  | serverMessage _ =>
      cases h
      exact ⟨rfl, Or.inl rfl⟩
  | serverOfflinePush serviceId instanceId =>
      cases h
      exact ⟨rfl, Or.inr (Or.inr ⟨serviceId, instanceId, rfl⟩)⟩
  | disconnected =>
      cases h
      exact ⟨rfl, Or.inr (Or.inl rfl)⟩
  | stopAllSessions =>
      cases h
      exact ⟨(hstopAll _ b).1, Or.inl (hstopAll _ b).2⟩
  | _ => cases h

theorem task_cases (h : Step V b e b') {t' : Task S L F} (hk : b'.tasks[k]? = some t') :
    (∃ sid, e = .sessionOnlinePush sid ∧ k = b.tasks.length ∧ t' = .spawn V sid) ∨
      ∃ t, b.tasks[k]? = some t ∧ (t.Same t' ∨ t.Acts V k b.shared e t' b'.shared) := by
  cases h with
  | read _ h =>
      obtain ⟨-, ts, hsame, htasks⟩ := read_spec h
      rw [htasks, List.getElem?_append] at hk
      split_ifs at hk with hlt
      · obtain ⟨t, ht, h⟩ := hsame.get' hk
        exact Or.inr ⟨t, ht, Or.inl h⟩
      · rw [hsame.length_eq] at hlt hk
        cases e with
        | sessionOnlinePush sid =>
            obtain ⟨hlt', heq⟩ := List.getElem?_eq_some_iff.1 hk
            simp only [Event.spawned, List.length_singleton] at hlt'
            refine Or.inl ⟨sid, rfl, by omega, ?_⟩
            rw [← heq]
            simp [Event.spawned]
        | _ => simp [Event.spawned] at hk
  | readLoopCall _ _ | dispatch _ _ | dispatcherCall _ _ => exact Or.inr ⟨t', hk, Or.inl (.refl t')⟩
  | task hj hacts =>
      rename_i j t t'' s'
      rw [List.getElem?_set] at hk
      split_ifs at hk with hjk hlt
      · cases hk
        subst hjk
        exact Or.inr ⟨t, hj, Or.inr hacts⟩
      · exact Or.inr ⟨t', hk, Or.inl (.refl t')⟩

theorem task_stays (h : Step V b e b') {t : Task S L F} (hk : b.tasks[k]? = some t) :
    ∃ t', b'.tasks[k]? = some t' ∧ t'.sessionId = t.sessionId := by
  cases h with
  | read _ h =>
      obtain ⟨-, ts, hsame, htasks⟩ := read_spec h
      obtain ⟨t', hk', h⟩ := hsame.get hk
      refine ⟨t', ?_, h.sessionId⟩
      rw [htasks, List.getElem?_append_left (List.getElem?_eq_some_iff.1 hk').1]
      exact hk'
  | readLoopCall _ _ | dispatch _ _ | dispatcherCall _ _ => exact ⟨t, hk, rfl⟩
  | task hj hacts =>
      rename_i j t₁ t₂ s'
      by_cases hjk : j = k
      · subst hjk
        rw [hj] at hk
        cases hk
        exact ⟨t₂, List.getElem?_set_self (List.getElem?_eq_some_iff.1 hj).1, hacts.frame.1⟩
      · exact ⟨t, (List.getElem?_set_ne hjk).trans hk, rfl⟩

/-! ### Sessions that are offline -/

/-- A task that is not cancelled is the one of its session. -/
def Registered (b : BackendSession S σ L F R) : Prop :=
  ∀ (k : Nat) t, b.tasks[k]? = some t → t.cancelled = false → b.sessions.get t.sessionId = some k

theorem stopSession_sessions (b : BackendSession S σ L F R) (sid y : UInt32) :
    (b.stopSession sid).sessions.get y = if y = sid then none else b.sessions.get y := by
  unfold stopSession
  split
  · rename_i hnone
    split_ifs with h
    · rw [h, hnone]
    · rfl
  · exact Table.get_remove _ _ _

theorem stopAllSessions_sessions (b : BackendSession S σ L F R) (h : b.sessions.get y = none) :
    b.stopAllSessions.sessions.get y = none := by
  unfold stopAllSessions
  generalize b.sessions.toList.map Prod.fst = sids
  induction sids generalizing b with
  | nil => exact h
  | cons sid sids ih =>
      refine ih _ ?_
      rw [stopSession_sessions, h, ite_self]

theorem Task.Same.live {t t' : Task S L F} (h : t.Same t') (hlive : t'.cancelled = false) :
    t.cancelled = false := by
  rw [← Bool.not_eq_true]
  intro hc
  rw [h.cancelled hc] at hlive
  cases hlive

theorem Registered.of_same (h : b.Registered) (hsame : SameTasks b.tasks b'.tasks)
    (hsessions : b'.sessions = b.sessions) : b'.Registered := by
  intro k t hk hlive
  obtain ⟨t₀, hk₀, h₀⟩ := hsame.get' hk
  rw [hsessions, h₀.sessionId]
  exact h k t₀ hk₀ (Task.Same.live h₀ hlive)

theorem Registered.stopSession (h : b.Registered) (sid : UInt32) : (b.stopSession sid).Registered := by
  intro k t hk hlive
  rw [stopSession_sessions]
  obtain ⟨t₀, hk₀, hsame⟩ := (sameTasks_stopSession b sid).get' hk
  have hget := h k t₀ hk₀ (Task.Same.live hsame hlive)
  rw [hsame.sessionId, if_neg ?_, hget]
  -- the task of the session itself is cancelled
  intro hsid
  rw [hsid] at hget
  rw [BackendSession.stopSession, hget] at hk
  simp only [List.getElem?_modify_eq, hk₀] at hk
  cases hk
  cases hlive

theorem Registered.stopAllSessions (h : b.Registered) : b.stopAllSessions.Registered := by
  unfold BackendSession.stopAllSessions
  generalize b.sessions.toList.map Prod.fst = sids
  induction sids generalizing b with
  | nil => exact h
  | cons sid sids ih => exact ih (h.stopSession sid)

theorem Registered.spawnSession (h : b.Registered) (V : Service S σ L F R) (sid : UInt32) :
    (b.spawnSession V sid).Registered := by
  have hstop := h.stopSession sid
  intro k t hk hlive
  show ((b.stopSession sid).sessions.insert sid (b.stopSession sid).tasks.length).get _ = _
  have hk : ((b.stopSession sid).tasks ++ [Task.spawn V sid])[k]? = some t := hk
  rw [List.getElem?_append] at hk
  split_ifs at hk with hlt
  · have hget := hstop k t hk hlive
    rw [Table.get_insert_ne _ _ ?_, hget]
    rintro rfl
    rw [stopSession_sessions, if_pos rfl] at hget
    cases hget
  · obtain ⟨hlt', heq⟩ := List.getElem?_eq_some_iff.1 hk
    simp only [List.length_singleton] at hlt'
    have hlast : k = (b.stopSession sid).tasks.length := by omega
    simp only [List.getElem_singleton] at heq
    rw [← heq, hlast]
    exact Table.get_insert_self ..

theorem Registered.step (h : b.Registered) (hstep : Step V b e b') : b'.Registered := by
  cases hstep with
  | read _ hread =>
      cases e with
      | sessionOnlinePush sid =>
          cases hread
          exact h.spawnSession V sid
      | sessionOfflinePush sid =>
          cases hread
          exact h.stopSession sid
      | clientFrame sid frame =>
          cases hread
          refine h.of_same (sameTasks_dispatchBusinessFrame b sid frame) ?_
          unfold dispatchBusinessFrame
          split <;> rfl
      | serverMessage _ | serverOfflinePush _ _ | disconnected =>
          cases hread
          exact h
      | stopAllSessions =>
          cases hread
          exact h.stopAllSessions
      | _ => cases hread
  | readLoopCall _ _ | dispatch _ _ | dispatcherCall _ _ => exact h
  | task hj hacts =>
      rename_i j t₁ t₂ s'
      intro k t hk hlive
      show b.sessions.get t.sessionId = some k
      rw [List.getElem?_set] at hk
      split_ifs at hk with hjk hlt
      · cases hk
        subst hjk
        obtain ⟨hsid, hcancelled⟩ := hacts.frame
        rw [hsid]
        exact h j t₁ hj (hcancelled.symm.trans hlive)
      · exact h k t hk hlive

/-! ### The last that was heard of a session -/

theorem sessions_of_offline (hstep : Step V b e b') (honline : e ≠ .sessionOnlinePush sid)
    (h : e = .sessionOfflinePush sid ∨ b.sessions.get sid = none) : b'.sessions.get sid = none := by
  have hstay : e ≠ .sessionOfflinePush sid → b.sessions.get sid = none := fun hne => h.resolve_left hne
  cases hstep with
  | read _ hread =>
      cases e with
      | sessionOnlinePush y =>
          cases hread
          have hne : sid ≠ y := by
            rintro rfl
            exact honline rfl
          show ((b.stopSession y).sessions.insert y _).get sid = none
          rw [Table.get_insert_ne _ _ hne, stopSession_sessions, if_neg hne]
          exact hstay (by simp)
      | sessionOfflinePush y =>
          cases hread
          rw [stopSession_sessions]
          split_ifs with hy
          · rfl
          · refine hstay fun heq => hy ?_
            cases heq
            rfl
      | clientFrame y frame =>
          cases hread
          unfold dispatchBusinessFrame
          split <;> exact hstay (by simp)
      | serverMessage _ | serverOfflinePush _ _ | disconnected =>
          cases hread
          exact hstay (by simp)
      | stopAllSessions =>
          cases hread
          exact stopAllSessions_sessions b (hstay (by simp))
      | _ => cases hread
  | readLoopCall _ _ | dispatch _ _ | dispatcherCall _ _ => exact hstay (by simp)
  | task _ hacts => exact hstay (by cases hacts <;> simp)

end BackendSession

inductive LifeCycle
  | online
  | offline
deriving DecidableEq

/-- The life-cycle push about the session that the event is. -/
def Event.lifeCycle (sid : UInt32) : Event S F R → Option LifeCycle
  | .sessionOnlinePush y => if y = sid then some .online else none
  | .sessionOfflinePush y => if y = sid then some .offline else none
  | _ => none

/-- The last life-cycle push about the session was an offline. -/
def LastOffline (sid : UInt32) (trace : List (BackendSession S σ L F R × Event S F R)) : Prop :=
  (trace.filterMap fun e => e.2.lifeCycle sid).getLast? = some .offline

instance (sid : UInt32) (trace : List (BackendSession S σ L F R × Event S F R)) :
    Decidable (LastOffline sid trace) := inferInstanceAs (Decidable (_ = _))

theorem lastOffline_snoc {sid : UInt32} {trace : List (BackendSession S σ L F R × Event S F R)}
    {b : BackendSession S σ L F R} {e : Event S F R} (h : LastOffline sid (trace ++ [(b, e)])) :
    e ≠ .sessionOnlinePush sid ∧ (e = .sessionOfflinePush sid ∨ LastOffline sid trace) := by
  rw [LastOffline, List.filterMap_append] at h
  rcases hlife : e.lifeCycle sid with _ | life
  · have hne : e ≠ .sessionOnlinePush sid := by
      rintro rfl
      simp [Event.lifeCycle] at hlife
    refine ⟨hne, Or.inr ?_⟩
    simpa [hlife, LastOffline] using h
  · simp only [List.filterMap_cons, hlife, List.filterMap_nil, List.getLast?_append,
      List.getLast?_singleton, Option.some_or, Option.some.injEq] at h
    rw [h] at hlife
    cases e with
    | sessionOnlinePush y =>
        simp only [Event.lifeCycle] at hlife
        split_ifs at hlife
        simp at hlife
    | sessionOfflinePush y =>
        simp only [Event.lifeCycle] at hlife
        split_ifs at hlife with hy
        rw [hy]
        exact ⟨by simp, Or.inl rfl⟩
    | _ => simp [Event.lifeCycle] at hlife

/-- What is left of the callback is nothing. -/
def Phase.isDone : Phase S L → Bool
  | .stopping (.ret ()) => true
  | _ => false

def Phase.isWaiting : Phase S L → Bool
  | .running (.ret _) => true
  | _ => false

theorem Phase.isDone_iff {phase : Phase S L} : phase.isDone ↔ phase = .stopping (.ret ()) := by
  rcases phase with p | ⟨_ | _⟩ <;> simp [isDone]

/-- Everything that was received is processed: nothing is queued, no callback is at work, and a task that
is cancelled has finished. -/
structure Quiescent (b : BackendSession S σ L F R) : Prop where
  readLoop : (Phase.stopping b.readLoop : Phase S L).isDone
  serverDispatch : b.serverDispatch.isEmpty
  dispatcher : (Phase.stopping b.dispatcher : Phase S L).isDone
  tasks : ∀ t ∈ b.tasks, t.phase.isDone ∨ t.phase.isWaiting ∧ t.mailbox.isEmpty ∧ t.cancelled = false

instance (b : BackendSession S σ L F R) : Decidable (Quiescent b) :=
  decidable_of_iff ((Phase.stopping b.readLoop : Phase S L).isDone ∧ b.serverDispatch.isEmpty ∧
    (Phase.stopping b.dispatcher : Phase S L).isDone ∧
    ∀ t ∈ b.tasks, t.phase.isDone ∨ t.phase.isWaiting ∧ t.mailbox.isEmpty ∧ t.cancelled = false)
    ⟨fun ⟨h₁, h₂, h₃, h₄⟩ => ⟨h₁, h₂, h₃, h₄⟩,
      fun h => ⟨h.readLoop, h.serverDispatch, h.dispatcher, h.tasks⟩⟩

section Runs

variable {V : Service S σ L F R} {start b : BackendSession S σ L F R}
  {trace : List (BackendSession S σ L F R × Event S F R)} {sid : UInt32}

theorem registered_of_run (hrun : Run (Step V) start trace b) (hstart : start.tasks = []) :
    b.Registered := by
  refine hrun.invariant BackendSession.Registered ?_ fun _ _ _ h hstep => h.step hstep
  intro k t hk
  rw [hstart] at hk
  cases hk

theorem LastOffline.sessions (h : LastOffline sid trace) (hrun : Run (Step V) start trace b) :
    b.sessions.get sid = none := by
  have hinv : LastOffline sid trace → b.sessions.get sid = none := by
    apply hrun.invariant_trace
    · exact nofun
    · intro trace b e b' _ ih hstep h
      obtain ⟨hne, h⟩ := lastOffline_snoc h
      exact BackendSession.sessions_of_offline hstep hne (h.imp_right ih)
  exact hinv h

/-- Once everything is processed, the tasks of a session that went offline have finished. -/
theorem finished_of_offline (hrun : Run (Step V) start trace b) (hstart : start.tasks = [])
    (hquiet : Quiescent b) (hoffline : LastOffline sid trace) {t : Task S L F} (ht : t ∈ b.tasks)
    (hsid : t.sessionId = sid) : t.phase = .stopping (.ret ()) := by
  rcases hquiet.tasks t ht with h | ⟨-, -, hlive⟩
  · exact Phase.isDone_iff.1 h
  · obtain ⟨k, hk⟩ := List.getElem?_of_mem ht
    have hget := registered_of_run hrun hstart k t hk hlive
    rw [hsid, hoffline.sessions hrun] at hget
    cases hget

end Runs

/-! ### Runs that compute -/

/-- Operations that compute. -/
structure Executor (V : Service S σ L F R) where
  exec : σ → (op : S.Op) → S.Answer op × σ
  does_exec : ∀ s op, V.does s op (exec s op).1 (exec s op).2

/-- Who acts next: the read loop, with what arrives or in a callback, the dispatcher or a task. -/
inductive Slot (S : Signature) (F R : Type)
  | read (e : Event S F R)
  | readLoop
  | dispatcher
  | task (k : Nat)

namespace Executor

variable {V : Service S σ L F R} (X : Executor V)

/-- The task's next step, which its state decides. -/
def act (k : Nat) (t : Task S L F) (s : σ) : Option (Event S F R × Task S L F × σ) :=
  match t.phase with
  | .running (.ret l) =>
      if t.cancelled then some (.stop k, { t with phase := .stopping (V.onStop l) }, s)
      else match t.mailbox with
        | [] => none
        | frame :: rest =>
            some (.receive k, { t with mailbox := rest, phase := .running (V.onClientFrame l frame) }, s)
  | .running (.call op next) => some (.call k ⟨op, (X.exec s op).1⟩,
      { t with phase := .running (next (X.exec s op).1) }, (X.exec s op).2)
  | .stopping (.ret ()) => none
  | .stopping (.call op next) => some (.call k ⟨op, (X.exec s op).1⟩,
      { t with phase := .stopping (next (X.exec s op).1) }, (X.exec s op).2)

theorem act_sound {k : Nat} {t t' : Task S L F} {s s' : σ} {e : Event S F R}
    (h : X.act k t s = some (e, t', s')) : t.Acts V k s e t' s' := by
  rw [act] at h
  split at h
  · rename_i l hphase
    split_ifs at h with hcancelled
    · cases h
      exact .stop hphase hcancelled
    · split at h
      · cases h
      · rename_i frame rest hmailbox
        cases h
        exact .receive hphase (by simpa using hcancelled) hmailbox
  · rename_i op next hphase
    cases h
    refine .call ?_ (X.does_exec s op)
    rw [hphase]
    exact .running op next _
  · cases h
  · rename_i op next hphase
    cases h
    refine .call ?_ (X.does_exec s op)
    rw [hphase]
    exact .stopping op next _

def advance (b : BackendSession S σ L F R) : Slot S F R → Option (Event S F R × BackendSession S σ L F R)
  | .read e =>
      match b.readLoop with
      | .ret () => (b.read V e).map fun b' => (e, b')
      | .call _ _ => none
  | .readLoop =>
      match b.readLoop with
      | .ret () => none
      | .call op next => some (.readLoopCall ⟨op, (X.exec b.shared op).1⟩,
          { b with shared := (X.exec b.shared op).2, readLoop := next (X.exec b.shared op).1 })
  | .dispatcher =>
      match b.dispatcher with
      | .ret () =>
          match b.serverDispatch with
          | [] => none
          | msg :: rest =>
              some (.dispatch, { b with serverDispatch := rest, dispatcher := V.onServerMessage msg })
      | .call op next => some (.dispatcherCall ⟨op, (X.exec b.shared op).1⟩,
          { b with shared := (X.exec b.shared op).2, dispatcher := next (X.exec b.shared op).1 })
  | .task k => do
      let t ← b.tasks[k]?
      let (e, t', s') ← X.act k t b.shared
      some (e, { b with shared := s', tasks := b.tasks.set k t' })

theorem advance_sound {b b' : BackendSession S σ L F R} {slot : Slot S F R} {e : Event S F R}
    (h : X.advance b slot = some (e, b')) : Step V b e b' := by
  cases slot with
  | read e =>
      rw [advance] at h
      split at h
      · rename_i hidle
        simp only [Option.map_eq_some_iff, Prod.mk.injEq] at h
        obtain ⟨b', hread, rfl, rfl⟩ := h
        exact .read hidle hread
      · cases h
  | readLoop =>
      rw [advance] at h
      split at h
      · cases h
      · rename_i op next hbusy
        cases h
        exact .readLoopCall hbusy (X.does_exec _ _)
  | dispatcher =>
      rw [advance] at h
      split at h
      · rename_i hidle
        split at h
        · cases h
        · rename_i msg rest hqueue
          cases h
          exact .dispatch hidle hqueue
      · rename_i op next hbusy
        cases h
        exact .dispatcherCall hbusy (X.does_exec _ _)
  | task k =>
      simp only [advance, Option.bind_eq_bind, Option.bind_eq_some_iff] at h
      obtain ⟨t, hk, ⟨e, t', s'⟩, hact, heq⟩ := h
      cases heq
      exact .task hk (X.act_sound hact)

/-- The run of a list of slots, with its record. -/
def schedule : BackendSession S σ L F R → List (Slot S F R) →
    Option (List (BackendSession S σ L F R × Event S F R) × BackendSession S σ L F R)
  | b, [] => some ([], b)
  | b, slot :: slots => do
      let (e, next) ← X.advance b slot
      let (trace, last) ← schedule next slots
      some ((b, e) :: trace, last)

theorem schedule_sound {b b' : BackendSession S σ L F R} {slots : List (Slot S F R)}
    {trace : List (BackendSession S σ L F R × Event S F R)}
    (h : X.schedule b slots = some (trace, b')) : Run (Step V) b trace b' := by
  induction slots generalizing b trace with
  | nil =>
      cases h
      exact .start
  | cons slot slots ih =>
      simp only [schedule, Option.bind_eq_bind, Option.bind_eq_some_iff] at h
      obtain ⟨⟨e, next⟩, hadvance, ⟨rest, last⟩, hrest, heq⟩ := h
      cases heq
      exact (ih hrest).cons (X.advance_sound hadvance)

end Executor

end AxmolFighter.Backend
