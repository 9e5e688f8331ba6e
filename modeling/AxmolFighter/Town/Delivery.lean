import AxmolFighter.Lib.Threads
import AxmolFighter.Town.Shared

/-!
# The order in which town pushes go out

The server dispatcher and the session tasks run the functions of `TownShared` at the same time. The mutex
orders the steps of the manager, but nothing orders the hand-overs to `send_msg` that follow them: a task
that is overtaken between its step and its last push hands over an old push after a newer one. The pushes
to a session are in the order of their steps as long as no push overtakes one that is still to be sent.
-/

namespace AxmolFighter.Town

open TownShared

/-! ### The tasks -/

inductive Task
  | serverDispatcher
  | session (sessionId : UInt32)
deriving DecidableEq

inductive TaskInput
  | townEnterSceneReq (req : TownEnterSceneReq)
  | townLeaveSceneReq (req : TownLeaveSceneReq)
  | townPlayerStatePush (push : TownPlayerStatePush)
  | stop

/-- Enter and leave requests of the game server are the dispatcher's; a session's task has the pushes of
its client, and `on_stop`. -/
def Task.handle (instanceId : UInt32) : Task → TaskInput → Option (Program townOps Task)
  | .serverDispatcher, .townEnterSceneReq req => some do
      let _ ← enterScene instanceId req
      pure .serverDispatcher
  | .serverDispatcher, .townLeaveSceneReq req => some do
      let _ ← leaveScene req
      pure .serverDispatcher
  | .session sessionId, .townPlayerStatePush push => some do
      updateState sessionId push
      pure (.session sessionId)
  | .session sessionId, .stop => some do
      leaveSession sessionId
      pure (.session sessionId)
  | _, _ => none

/-- The tasks of a town: session tasks appear at any time, and the manager may be cleared. -/
def tasks (instanceId : UInt32) : ThreadSystem townOps TownShared Task TaskInput where
  does := Does
  handle := Task.handle instanceId
  opens t _ task t' := (∃ sessionId, task = .session sessionId) ∧ t' = t
  environment t t' := t' = t.clear

abbrev TaskPool := Pool townOps TownShared Task

abbrev TaskEvent := Pool.Event townOps Task TaskInput

def started : TaskPool := ⟨.new, [.ret .serverDispatcher]⟩

/-! ### Order -/

/-- Of two pushes to one session, the one handed over first is of no later step. -/
def InOrder (sent : List Sending) : Prop :=
  sent.Pairwise fun a b => a.sessionId = b.sessionId → a.step ≤ b.step

/-- The pushes that a program hands over before anything else. -/
def unsent {α : Type} : Program townOps α → List Sending
  | .call (.sendMsg s) next => s :: unsent (next ())
  | _ => []

/-- A push handed over now overtakes none to its session that is still to be handed over. -/
def InTurn (pool : TaskPool) : TaskEvent → Prop
  | .call _ ⟨.sendMsg s, _⟩ =>
      ∀ u ∈ pool.threads.flatMap unsent, u.sessionId = s.sessionId → s.step ≤ u.step
  | _ => True

/-- No task is inside a function. -/
def Quiet (pool : TaskPool) : Prop := ∀ p ∈ pool.threads, ∃ task, p = .ret task

/-! ### What a task is about to send -/

/-- The pushes of a step, as they are handed over. -/
def PushBatch.sendings (b : PushBatch) (step : Nat) : List Sending :=
  b.playerEnter.map (fun e => ⟨step, e.1, .playerEnter e.2⟩) ++
    b.playerLeave.map (fun e => ⟨step, e.1, .playerLeave e.2⟩) ++
    b.playerState.map (fun e => ⟨step, e.1, .playerState e.2⟩)

theorem PushBatch.step_of_mem_sendings {b : PushBatch} {step : Nat} {s : Sending}
    (h : s ∈ b.sendings step) : s.step = step := by
  simp only [sendings, List.mem_append, List.mem_map] at h
  rcases h with (⟨_, _, rfl⟩ | ⟨_, _, rfl⟩) | ⟨_, _, rfl⟩ <;> rfl

/-- A task as the list of what it has still to send: it takes a step when the list is empty. -/
inductive Sends : List Sending → (op : TownOp) → op.Answer → List Sending → Prop
  | scene (op : SceneOp) (out : SceneOutcome) (step : Nat) :
      Sends [] (.scene op) (out, step) (out.pushes.sendings step)
  | sendMsg (s : Sending) (rest : List Sending) (answer : Unit) :
      Sends (s :: rest) (.sendMsg s) answer rest

/-- The task may return when it has sent everything. -/
abbrev Done {α : Type} (rest : List Sending) (_ : α) : Prop := rest = []

theorem follows_forEach {α : Type} {f : α → Program townOps Unit} {g : α → Sending}
    (hf : ∀ a, f a = Program.perform (S := townOps) (.sendMsg (g a))) (as : List α)
    (rest : List Sending) :
    (Program.forEach f as).Follows Sends (fun unsent _ => unsent = rest) (as.map g ++ rest) := by
  induction as with
  | nil => exact .ret rfl
  | cons a as ih =>
      show (f a >>= fun _ => Program.forEach f as).Follows Sends _ _
      rw [hf]
      exact .stay (fun answer => .sendMsg (g a) _ answer) fun _ => ih

theorem follows_sendPushes (step : Nat) (b : PushBatch) :
    (sendPushes step b).Follows Sends Done (b.sendings step) := by
  unfold sendPushes PushBatch.sendings
  rw [List.append_assoc]
  refine (follows_forEach (fun _ => rfl) b.playerEnter _).bind fun unsent _ henter => ?_
  rw [henter]
  refine (follows_forEach (fun _ => rfl) b.playerLeave _).bind fun unsent _ hleave => ?_
  rw [hleave]
  have h := follows_forEach (f := fun e => sendMsg step e.1 (.playerState e.2)) (fun _ => rfl) b.playerState []
  rw [List.append_nil] at h
  exact h

theorem follows_scene {α : Type} (op : SceneOp) (f : SceneOutcome × Nat → Program townOps α)
    (hf : ∀ out step, (f (out, step)).Follows Sends Done (out.pushes.sendings step)) :
    (scene op >>= f).Follows Sends Done [] :=
  .call (fun answer => answer.1.pushes.sendings answer.2) (fun answer => .scene op answer.1 answer.2)
    fun answer => hf answer.1 answer.2

theorem follows_enterScene (instanceId : UInt32) (req : TownEnterSceneReq) :
    (enterScene instanceId req).Follows Sends Done [] :=
  follows_scene _ _ fun out step => (follows_sendPushes step out.pushes).bind fun _ _ h => .ret h

theorem follows_leaveScene (req : TownLeaveSceneReq) : (leaveScene req).Follows Sends Done [] :=
  follows_scene _ _ fun out step => (follows_sendPushes step out.pushes).bind fun _ _ h => .ret h

theorem follows_leaveSession (sessionId : UInt32) : (leaveSession sessionId).Follows Sends Done [] :=
  follows_scene _ _ fun out step => follows_sendPushes step out.pushes

theorem follows_updateState (sessionId : UInt32) (push : TownPlayerStatePush) :
    (updateState sessionId push).Follows Sends Done [] :=
  follows_scene _ _ fun out step => follows_sendPushes step out.pushes

theorem follows_handle {instanceId : UInt32} {task : Task} {input : TaskInput} {p : Program townOps Task}
    (h : task.handle instanceId input = some p) : p.Follows Sends Done [] := by
  cases task <;> cases input <;> cases h
  · exact (follows_enterScene instanceId _).bind fun _ _ hdone => .ret hdone
  · exact (follows_leaveScene _).bind fun _ _ hdone => .ret hdone
  · exact (follows_updateState _ _).bind fun _ _ hdone => .ret hdone
  · exact (follows_leaveSession _).bind fun _ _ hdone => .ret hdone

def taskGuide (instanceId : UInt32) : Pool.Guide (tasks instanceId) (List Sending) where
  moves := Sends
  stops := Done
  fresh _ _ := []
  begins q _ q' := q' = q
  fresh_stops _ _ _ _ _ := rfl
  follows _ _ _ _ hstops hhandle := by
    subst hstops
    exact ⟨[], rfl, follows_handle hhandle⟩

theorem unsent_of_follows {α : Type} {rest : List Sending} {p : Program townOps α}
    (h : p.Follows Sends Done rest) : unsent p = rest := by
  induction h with
  | ret h => exact h.symm
  | @call _ op next after hmoves _ ih =>
      cases op with
      | scene op =>
          have hmove := hmoves ({}, 0)
          generalize after ({}, 0) = q' at hmove
          cases hmove
          rfl
      | sendMsg s =>
          have hmove := hmoves ()
          have htail := ih ()
          generalize after () = q' at hmove htail
          cases hmove
          rw [unsent, htail]

theorem unsent_of_tracks {instanceId : UInt32} {qs : List (List Sending)} {threads : List (Program townOps Task)}
    (h : (taskGuide instanceId).Tracks qs threads) : threads.flatMap unsent = qs.flatten := by
  induction h with
  | nil => rfl
  | cons hp _ ih => rw [List.flatMap_cons, List.flatten_cons, unsent_of_follows hp, ih]

/-! ### One step -/

/-- The pushes are in order so far, and none of `waiting` has been overtaken. -/
structure Ordered (sent waiting : List Sending) : Prop where
  inOrder : InOrder sent
  before : ∀ a ∈ sent, ∀ b ∈ waiting, a.sessionId = b.sessionId → a.step ≤ b.step

section Ordered

variable {sent waiting waiting' new : List Sending} {s : Sending}

@[simp] theorem ordered_nil : Ordered [] waiting := ⟨.nil, nofun⟩

theorem ordered_scene {n : Nat} (hsent : ∀ a ∈ sent, a.step < n) (hnew : ∀ b ∈ new, b.step = n)
    (h : ∀ u, u ∈ waiting' ↔ u ∈ new ∨ u ∈ waiting) :
    Ordered sent waiting' ↔ Ordered sent waiting := by
  constructor
  · exact fun ho => ⟨ho.inOrder, fun a ha b hb => ho.before a ha b ((h b).2 (Or.inr hb))⟩
  · refine fun ho => ⟨ho.inOrder, fun a ha b hb hsame => ?_⟩
    rcases (h b).1 hb with hb | hb
    · rw [hnew b hb]
      exact (hsent a ha).le
    · exact ho.before a ha b hb hsame

/-- A hand-over keeps the order exactly when it is in turn. -/
theorem ordered_send (h : ∀ u, u ∈ waiting ↔ u = s ∨ u ∈ waiting') :
    Ordered (sent ++ [s]) waiting' ↔ Ordered sent waiting ∧
      ∀ u ∈ waiting, u.sessionId = s.sessionId → s.step ≤ u.step := by
  have hself : s ∈ waiting := (h s).2 (Or.inl rfl)
  have hlast : s ∈ sent ++ [s] := List.mem_append_right _ List.mem_cons_self
  constructor
  · intro ho
    have hsplit := List.pairwise_append.1 ho.inOrder
    refine ⟨⟨hsplit.1, fun a ha b hb => ?_⟩, fun u hu hsame => ?_⟩
    · rcases (h b).1 hb with rfl | hb
      · exact hsplit.2.2 a ha b List.mem_cons_self
      · exact ho.before a (List.mem_append_left _ ha) b hb
    · rcases (h u).1 hu with rfl | hu
      · exact le_rfl
      · exact ho.before s hlast u hu hsame.symm
  · rintro ⟨ho, hturn⟩
    refine ⟨List.pairwise_append.2 ⟨ho.inOrder, List.pairwise_singleton _ _, fun a ha b hb => ?_⟩,
      fun a ha b hb hsame => ?_⟩
    · rw [List.mem_singleton.1 hb]
      exact ho.before a ha s hself
    · have hb' : b ∈ waiting := (h b).2 (Or.inr hb)
      rcases List.mem_append.1 ha with ha | ha
      · exact ho.before a ha b hb' hsame
      · rw [List.mem_singleton.1 ha] at hsame ⊢
        exact hturn b hb' hsame.symm

end Ordered

theorem mem_flatten_set {α : Type} {qs : List (List α)} {k : Nat} {q : List α} (hk : qs[k]? = some q)
    (q' : List α) : ∃ others : List α, (∀ u, u ∈ qs.flatten ↔ u ∈ q ∨ u ∈ others) ∧
      ∀ u, u ∈ (qs.set k q').flatten ↔ u ∈ q' ∨ u ∈ others := by
  induction qs generalizing k with
  | nil => simp at hk
  | cons head tail ih =>
      cases k with
      | zero =>
          simp only [List.getElem?_cons_zero, Option.some.injEq] at hk
          subst hk
          exact ⟨tail.flatten, by simp, by simp⟩
      | succ k =>
          obtain ⟨others, hbefore, hafter⟩ := ih (by simpa using hk)
          refine ⟨head ++ others, fun u => ?_, fun u => ?_⟩
          · simp only [List.flatten_cons, List.mem_append, hbefore]
            tauto
          · simp only [List.set_cons_succ, List.flatten_cons, List.mem_append, hafter]
            tauto

/-- What a step does to the pushes sent and to be sent. -/
theorem taskGuide_step {instanceId : UInt32} {pool : TaskPool} {e : TaskEvent} {t' : TownShared}
    {qs qs' : List (List Sending)} (htracks : (taskGuide instanceId).Tracks qs pool.threads)
    (hbound : ∀ s ∈ pool.shared.sent ++ qs.flatten, s.step < pool.shared.steps)
    (hstep : (taskGuide instanceId).Step (pool.shared, qs) e (t', qs')) :
    (∀ s ∈ t'.sent ++ qs'.flatten, s.step < t'.steps) ∧
      (Ordered t'.sent qs'.flatten ↔ Ordered pool.shared.sent qs.flatten ∧ InTurn pool e) := by
  have hsent : ∀ a ∈ pool.shared.sent, a.step < pool.shared.steps :=
    fun a ha => hbound a (List.mem_append_left _ ha)
  cases hstep with
  | opens h =>
      obtain ⟨-, rfl⟩ := h
      have hflat : (qs ++ [[]]).flatten = qs.flatten := by simp
      show (∀ s ∈ _ ++ (qs ++ [[]]).flatten, _) ∧ (Ordered _ (qs ++ [[]]).flatten ↔ _)
      rw [hflat]
      exact ⟨hbound, (and_iff_left trivial).symm⟩
  | input hk _ _ h =>
      subst h
      obtain ⟨hlt, hget⟩ := List.getElem?_eq_some_iff.1 hk
      rw [← hget, List.set_getElem_self]
      exact ⟨hbound, (and_iff_left trivial).symm⟩
  | @call _ _ _ k q q' op answer hk hmoves h =>
      obtain ⟨others, hbefore, hafter⟩ := mem_flatten_set hk q'
      cases hmoves with
      | scene op out step =>
          cases h with
          | scene hm h =>
              have hnew : ∀ u ∈ out.pushes.sendings pool.shared.steps, u.step = pool.shared.steps :=
                fun u hu => PushBatch.step_of_mem_sendings hu
              have hwaiting : ∀ u, u ∈ (qs.set k (out.pushes.sendings pool.shared.steps)).flatten ↔
                  u ∈ out.pushes.sendings pool.shared.steps ∨ u ∈ qs.flatten := by
                intro u
                rw [hbefore, hafter]
                simp
              refine ⟨fun s hs => ?_, (ordered_scene hsent hnew hwaiting).trans (and_iff_left trivial).symm⟩
              show s.step < pool.shared.steps + 1
              rw [List.mem_append, hwaiting] at hs
              rcases hs with hs | hs | hs
              · have := hsent s hs
                omega
              · rw [hnew s hs]
                omega
              · have := hbound s (List.mem_append_right _ hs)
                omega
      | sendMsg s rest answer =>
          cases h with
          | sendMsg =>
              have hwaiting : ∀ u, u ∈ qs.flatten ↔ u = s ∨ u ∈ (qs.set k q').flatten := by
                intro u
                rw [hbefore, hafter, List.mem_cons, or_assoc]
              refine ⟨fun u hu => hbound u ?_, ?_⟩
              · simp only [List.mem_append, hwaiting] at hu ⊢
                simp only [List.mem_singleton] at hu
                tauto
              · rw [← unsent_of_tracks htracks] at hwaiting ⊢
                exact ordered_send hwaiting
  | environment h =>
      subst h
      exact ⟨hbound, (and_iff_left trivial).symm⟩

/-! ### Runs -/

section Runs

variable {instanceId : UInt32} {trace : List (TaskPool × TaskEvent)} {pool : TaskPool}

theorem ordered_of_run (hrun : Run (Pool.Step (tasks instanceId)) started trace pool) :
    Ordered pool.shared.sent (pool.threads.flatMap unsent) ↔ ∀ e ∈ trace, InTurn e.1 e.2 := by
  have hstart : (taskGuide instanceId).Tracks [[]] started.threads := .cons (.ret rfl) .nil
  have hinit : (∀ s ∈ started.shared.sent ++ [([] : List Sending)].flatten, s.step < started.shared.steps) ∧
      (Ordered started.shared.sent [([] : List Sending)].flatten ↔
        ∀ e ∈ ([] : List (TaskPool × TaskEvent)), InTurn e.1 e.2) := by
    simp [started, TownShared.new]
  have hinvariant := (taskGuide instanceId).invariant_of hstart hrun (fun _ _ => True)
    (fun _ _ => trivial) (fun trace t qs => (∀ s ∈ t.sent ++ qs.flatten, s.step < t.steps) ∧
      (Ordered t.sent qs.flatten ↔ ∀ e ∈ trace, InTurn e.1 e.2)) hinit
  obtain ⟨qs, htracks, -, hordered⟩ := hinvariant (by
    intro trace pool qs e t' qs' htracks hinv _ hstep
    obtain ⟨hbound, hordered⟩ := taskGuide_step htracks hinv.1 hstep
    refine ⟨hbound, hordered.trans ?_⟩
    rw [hinv.2]
    simp [or_imp, forall_and])
  rw [unsent_of_tracks htracks]
  exact hordered

/-- In a run whose hand-overs are all in turn, every session's pushes go out in the order of the steps; and
once no task is inside a function, they are in that order only if all hand-overs were in turn. -/
theorem pushesInOrder_of_run (hrun : Run (Pool.Step (tasks instanceId)) started trace pool) :
    ((∀ e ∈ trace, InTurn e.1 e.2) → InOrder pool.shared.sent) ∧
      (Quiet pool → InOrder pool.shared.sent → ∀ e ∈ trace, InTurn e.1 e.2) := by
  rw [← ordered_of_run hrun]
  refine ⟨Ordered.inOrder, fun hquiet horder => ⟨horder, fun _ _ b hb => ?_⟩⟩
  obtain ⟨p, hp, hb⟩ := List.mem_flatMap.1 hb
  obtain ⟨task, rfl⟩ := hquiet p hp
  cases hb

end Runs

/-! ### Overtaken -/

def taskExecutor (instanceId : UInt32) : Pool.Executor (tasks instanceId) where
  exec := TownShared.exec
  opened t _ task :=
    match task with
    | .session _ => some t
    | .serverDispatcher => none
  does_exec := does_exec
  opens_opened t _ task t' h := by
    cases task with
    | session sessionId =>
        cases h
        exact ⟨⟨sessionId, rfl⟩, rfl⟩
    | serverDispatcher => cases h

instance : DecidablePred InOrder := fun sent =>
  inferInstanceAs (Decidable (sent.Pairwise fun a b => a.sessionId = b.sessionId → a.step ≤ b.step))

def isQuiet {α : Type} : Program townOps α → Bool
  | .ret _ => true
  | .call .. => false

theorem quiet_iff {pool : TaskPool} : pool.threads.all isQuiet ↔ Quiet pool := by
  rw [List.all_eq_true]
  refine forall₂_congr fun p _ => ?_
  cases p <;> simp [isQuiet]

/-- Player `p` enters map 1 on session `x`. -/
def enterOne (x : UInt32) (p : Int64) : TaskInput :=
  .townEnterSceneReq { sessionId := x, playerId := p, type := 1, mapId := 1, ownerUid := 0, state := none }

/-- A player on session 1, and one who enters on session 2 and leaves again. The order of the last two
hand-overs is left open. -/
def comeAndGo (last : List (Pool.Slot Task TaskInput)) : Option TaskPool :=
  (taskExecutor 0).schedule started ([.opens (.session 2), .input 0 (enterOne 1 1), .call 0,
    .input 0 (enterOne 2 2), .call 0, .input 1 .stop] ++ last)

theorem pushesInOrder_of_run_in_turn : ∃ trace pool, Run (Pool.Step (tasks 0)) started trace pool ∧
    pool.shared.sent.length = 2 ∧ ∀ e ∈ trace, InTurn e.1 e.2 := by
  have h : ∃ pool, comeAndGo [.call 0, .call 1, .call 1] = some pool ∧
      pool.threads.all isQuiet ∧ pool.shared.sent.length = 2 ∧ InOrder pool.shared.sent := by
    decide +kernel
  obtain ⟨pool, hpool, hquiet, hlength, horder⟩ := h
  obtain ⟨trace, hrun⟩ := (taskExecutor 0).schedule_sound hpool
  exact ⟨trace, pool, hrun, hlength, (pushesInOrder_of_run hrun).2 (quiet_iff.1 hquiet) horder⟩

/-- The second player's enter is overtaken by its leave: the first client keeps a player that is gone. -/
theorem leave_overtakes_enter : ∃ trace pool, Run (Pool.Step (tasks 0)) started trace pool ∧
    Quiet pool ∧ pool.shared.sent =
      [⟨2, 1, .playerLeave 2⟩, ⟨1, 1, .playerEnter { playerId := 2 }⟩] ∧ ¬ InOrder pool.shared.sent := by
  have h : ∃ pool, comeAndGo [.call 1, .call 1, .call 0] = some pool ∧
      pool.threads.all isQuiet ∧ pool.shared.sent =
        [⟨2, 1, .playerLeave 2⟩, ⟨1, 1, .playerEnter { playerId := 2 }⟩] := by
    decide +kernel
  obtain ⟨pool, hpool, hquiet, hsent⟩ := h
  obtain ⟨trace, hrun⟩ := (taskExecutor 0).schedule_sound hpool
  refine ⟨trace, pool, hrun, quiet_iff.1 hquiet, hsent, ?_⟩
  rw [hsent]
  decide

end AxmolFighter.Town
