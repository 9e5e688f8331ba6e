import AxmolFighter.Game.Conduct

/-!
# Pending duels and sessions that stop

`handle_duel_invite` looks up the target, its battle and its town under separate locks before it offers
the duel, while `on_stop` of the target removes the duels of its session from another task. An offer that
comes after that removal stays, although nobody can answer it.
-/

namespace AxmolFighter.Game

open GameState Backend

abbrev GameTask := Backend.Task gameOps Delegate ClientFrame

/-- The task has not stopped. -/
def Unstopped (b : GameSession) (sessionId : UInt32) : Prop :=
  ∃ t ∈ b.tasks, t.sessionId = sessionId ∧ ¬ t.phase.isDone

/-- The task will still remove the pending duels of its session: it has not come to `on_stop`, or not yet
to that step of it. -/
inductive Removes (t : GameTask) : Prop
  | running {p : Program gameOps Delegate} (h : t.phase = .running p)
  | stopping {p : Program gameOps Unit} (h : t.phase = .stopping p)
      (hcomes : p.Comes fun op : GameOp => op = .removePendingDuelsForSession t.sessionId)

/-- Some task of the session will still remove the session's duels. -/
def Guarded (b : GameSession) (sessionId : UInt32) : Prop :=
  ∃ t ∈ b.tasks, t.sessionId = sessionId ∧ Removes t

/-- A duel is offered before the target has come to remove the duels of its session. -/
def InTime (b : GameSession) (e : GameEvent) : Prop :=
  ∀ pending, e.op = some (.addPendingDuel pending) → Guarded b pending.targetSession

theorem Removes.unstopped {t : GameTask} (h : Removes t) : ¬ t.phase.isDone := by
  rw [Phase.isDone_iff]
  cases h with
  | running h => simp [h]
  | stopping h hcomes =>
      intro hdone
      rw [h] at hdone
      cases hdone
      cases hcomes

theorem Guarded.unstopped {b : GameSession} {sessionId : UInt32} (h : Guarded b sessionId) :
    Unstopped b sessionId := by
  obtain ⟨t, ht, hsid, hremoves⟩ := h
  exact ⟨t, ht, hsid, hremoves.unstopped⟩

theorem Removes.same {t t' : GameTask} (h : Removes t) (hsame : t.Same t') : Removes t' := by
  cases h with
  | running h => exact .running (hsame.phase.trans h)
  | stopping h hcomes =>
      rw [← hsame.sessionId] at hcomes
      exact .stopping (hsame.phase.trans h) hcomes

theorem onStop_comes (d : Delegate) :
    d.onStop.Comes fun op : GameOp => op = .removePendingDuelsForSession d.sessionId := by
  refine Program.Comes.bind ?_ _
  refine Program.Comes.bind_next (clearBattleSession d.sessionId) fun _ => ?_
  exact Program.Comes.bind_next (clearTownSession d.sessionId) fun _ => .here rfl

theorem Removes.acts {t t' : GameTask} {k : Nat} {g g' : GameState} {e : GameEvent} (h : Removes t)
    (hacts : t.Acts service k g e t' g')
    (hsid : ∀ p l, t.phase = .running p → p = .ret l → l.sessionId = t.sessionId) :
    Removes t' ∨ e.op = some (.removePendingDuelsForSession t.sessionId) := by
  cases hacts with
  | receive => exact Or.inl (.running rfl)
  | stop hphase =>
      refine Or.inl (.stopping rfl ?_)
      rw [← hsid _ _ hphase rfl]
      exact onStop_comes _
  | call hphase hdoes =>
      cases h with
      | running h =>
          rw [h] at hphase
          cases hphase
          exact Or.inl (.running rfl)
      | stopping h hcomes =>
          rw [h] at hphase
          cases hphase with
          | stopping op next answer =>
              cases hcomes with
              | here hop => exact Or.inr (congrArg some hop)
              | later hnext => exact Or.inl (.stopping rfl (hnext _))

/-! ### What a task does in its session's name -/

/-- The task offers duels in its session's name only. -/
inductive Named (t : GameTask) : Prop
  | running {p : Program gameOps Delegate} (h : t.phase = .running p)
      (hwithin : Within (GameOp.own t.sessionId) (fun d => d.sessionId = t.sessionId) p)
  | stopping {p : Program gameOps Unit} (h : t.phase = .stopping p)
      (hcalls : p.Calls GameOp.offersNone)

theorem Named.same {t t' : GameTask} (h : Named t) (hsame : t.Same t') : Named t' := by
  cases h with
  | running h hwithin =>
      rw [← hsame.sessionId] at hwithin
      exact .running (hsame.phase.trans h) hwithin
  | stopping h hcalls => exact .stopping (hsame.phase.trans h) hcalls

theorem Named.spawn (sessionId : UInt32) : Named (Backend.Task.spawn service sessionId) :=
  .running rfl (.ret rfl)

theorem Named.delegate {t : GameTask} (h : Named t) {d : Delegate} (hphase : t.phase = .running (.ret d)) :
    d.sessionId = t.sessionId := by
  cases h with
  | running h hwithin =>
      rw [h] at hphase
      cases hphase
      exact hwithin.of_ret
  | stopping h => simp [h] at hphase

theorem Named.acts {t t' : GameTask} {k : Nat} {g g' : GameState} {e : GameEvent} (h : Named t)
    (hacts : t.Acts service k g e t' g') : Named t' ∧ ∀ pending, e.op = some (.addPendingDuel pending) →
      pending.challengerSession = t'.sessionId ∧ Removes t' := by
  cases hacts with
  | @receive l frame _ hphase =>
      have hown := Delegate.onClientFrame_own l frame
      rw [h.delegate hphase] at hown
      exact ⟨.running rfl hown, nofun⟩
  | stop hphase => exact ⟨.stopping rfl (Delegate.onStop_offersNone _), nofun⟩
  | @call op answered _ _ hphase hdoes =>
      cases h with
      | running h hwithin =>
          rw [h] at hphase
          cases hphase
          obtain ⟨_, hop, hnext⟩ := hwithin.step answered
          refine ⟨.running rfl hnext, fun pending hpending => ⟨hop pending ?_, .running rfl⟩⟩
          exact Option.some.inj hpending
      | stopping h hcalls =>
          rw [h] at hphase
          cases hphase
          cases hcalls with
          | call hop hnext =>
              refine ⟨.stopping rfl (hnext answered), fun pending hpending => absurd ?_ (hop pending)⟩
              exact Option.some.inj hpending

/-! ### Runs -/

/-- Who offers a duel and to whom is in the table under the one who offers it; both will still remove it. -/
structure Offered (b : GameSession) : Prop where
  named : ∀ t ∈ b.tasks, Named t
  readLoop : b.readLoop.Calls GameOp.offersNone
  dispatcher : b.dispatcher = .ret ()
  guarded : ∀ challenger pending, b.shared.pendingDuels.get challenger = some pending →
    Guarded b pending.challengerSession ∧ Guarded b pending.targetSession

/-- A pending duel after an operation: it was pending before and has not been removed, or is new. -/
theorem pending_after {g : GameState} {op : GameOp} {challenger : UInt32} {pending : PendingDuel}
    (h : (g.after op).pendingDuels.get challenger = some pending) :
    op = .addPendingDuel pending ∨ (g.pendingDuels.get challenger = some pending ∧
      ∀ s, op = .removePendingDuelsForSession s → pending.challengerSession ≠ s ∧ pending.targetSession ≠ s) := by
  cases op with
  | addPendingDuel new =>
      change (g.pendingDuels.insert new.challengerSession new).get challenger = some pending at h
      rw [Table.get_insert] at h
      split_ifs at h
      · cases h
        exact Or.inl rfl
      · exact Or.inr ⟨h, nofun⟩
  | removePendingDuel y =>
      change (g.pendingDuels.remove y).get challenger = some pending at h
      rw [Table.get_remove] at h
      split_ifs at h
      exact Or.inr ⟨h, nofun⟩
  | removePendingDuelsForSession s =>
      change (g.pendingDuels.retain _).get challenger = some pending at h
      rw [Table.get_retain, Option.filter_eq_some_iff] at h
      refine Or.inr ⟨h.1, ?_⟩
      rintro _ ⟨⟩
      simpa using h.2
  | _ => exact Or.inr ⟨h, nofun⟩

theorem Offered.step {b b' : GameSession} {e : GameEvent} (h : Offered b) (hok : InTime b e)
    (hstep : Step service b e b') : Offered b' := by
  have hkept : ∀ ts : List GameTask, SameTasks b.tasks ts → ∀ b₁ : GameSession, (∀ t ∈ ts, t ∈ b₁.tasks) →
      ∀ s, Guarded b s → Guarded b₁ s := by
    rintro ts hsame b₁ hmem s ⟨t, ht, rfl, hremoves⟩
    obtain ⟨k, hk⟩ := List.getElem?_of_mem ht
    obtain ⟨t', hk', hsame'⟩ := hsame.get hk
    exact ⟨t', hmem t' (List.mem_of_getElem? hk'), hsame'.sessionId, hremoves.same hsame'⟩
  cases hstep with
  | read hidle hread =>
      obtain ⟨hshared, ts, hsame, htasks⟩ := BackendSession.read_spec hread
      have hold : ∀ t ∈ ts, t ∈ b'.tasks := fun t ht => by
        rw [htasks]
        exact List.mem_append_left _ ht
      refine ⟨fun t ht => ?_, ?_, ?_, fun challenger pending hget => ?_⟩
      · rw [htasks] at ht
        rcases List.mem_append.1 ht with ht | ht
        · obtain ⟨k, hk⟩ := List.getElem?_of_mem ht
          obtain ⟨t₀, hk₀, hsame₀⟩ := hsame.get' hk
          exact (h.named t₀ (List.mem_of_getElem? hk₀)).same hsame₀
        · cases e with
          | sessionOnlinePush sessionId =>
              rw [List.mem_singleton.1 ht]
              exact .spawn sessionId
          | _ => cases ht
      · rcases (BackendSession.read_callbacks hread).2 with hloop | hloop | ⟨serviceId, instanceId, hloop⟩
        · exact hloop ▸ h.readLoop
        · exact hloop ▸ clearAllRuntimeState_offersNone
        · exact hloop ▸ onServerOffline_offersNone serviceId instanceId
      · exact (BackendSession.read_callbacks hread).1.trans h.dispatcher
      · rw [hshared] at hget
        obtain ⟨hchallenger, htarget⟩ := h.guarded challenger pending hget
        exact ⟨hkept ts hsame b' hold _ hchallenger, hkept ts hsame b' hold _ htarget⟩
  | readLoopCall hbusy hdoes =>
      have hloop := h.readLoop
      rw [hbusy] at hloop
      cases hloop with
      | call hop hnext =>
          refine ⟨h.named, hnext _, h.dispatcher, fun challenger pending hget => ?_⟩
          dsimp only at hget
          rw [hdoes.2] at hget
          rcases pending_after hget with hadd | ⟨hget, -⟩
          · exact absurd hadd (hop pending)
          · exact h.guarded challenger pending hget
  | dispatch => exact ⟨h.named, h.readLoop, rfl, h.guarded⟩
  | dispatcherCall hbusy hdoes =>
      rw [h.dispatcher] at hbusy
      cases hbusy
  | @task k t t' _ g' hk hacts =>
      obtain ⟨hnamed, hoffers⟩ := (h.named t (List.mem_of_getElem? hk)).acts hacts
      have hlt := (List.getElem?_eq_some_iff.1 hk).1
      have hself : t' ∈ b.tasks.set k t' := List.mem_of_getElem? (List.getElem?_set_self hlt)
      -- who guards a session goes on guarding it, unless this step is the removal
      have hguard : ∀ s, Guarded b s → e.op ≠ some (.removePendingDuelsForSession s) →
          Guarded { b with shared := g', tasks := b.tasks.set k t' } s := by
        rintro s ⟨t₁, ht₁, rfl, hremoves⟩ hne
        obtain ⟨j, hj⟩ := List.getElem?_of_mem ht₁
        by_cases hjk : j = k
        · subst hjk
          obtain rfl := Option.some.inj (hk.symm.trans hj)
          refine ⟨t', hself, hacts.frame.1, (hremoves.acts hacts ?_).resolve_right hne⟩
          rintro _ l hphase rfl
          exact (h.named t ht₁).delegate hphase
        · refine ⟨t₁, List.mem_of_getElem? (i := j) ?_, rfl, hremoves⟩
          exact (List.getElem?_set_ne (Ne.symm hjk)).trans hj
      refine ⟨fun t₁ ht₁ => ?_, h.readLoop, h.dispatcher, fun challenger pending hget => ?_⟩
      · rcases List.mem_or_eq_of_mem_set ht₁ with ht₁ | rfl
        · exact h.named t₁ ht₁
        · exact hnamed
      · rcases hop : e.op with _ | op
        · have hsame : g' = b.shared := by
            cases hacts with
            | receive | stop => rfl
            | call => cases hop
          rw [hsame] at hget
          obtain ⟨hchallenger, htarget⟩ := h.guarded challenger pending hget
          exact ⟨hguard _ hchallenger (by simp [hop]), hguard _ htarget (by simp [hop])⟩
        · have hafter : g' = b.shared.after op := by
            cases hacts with
            | receive | stop => cases hop
            | call _ hdoes =>
                cases hop
                exact hdoes.2
          rw [hafter] at hget
          rcases pending_after hget with rfl | ⟨hget, hkept⟩
          · obtain ⟨hsid, hremoves⟩ := hoffers pending hop
            exact ⟨⟨t', hself, hsid.symm, hremoves⟩, hguard _ (hok pending hop) (by simp [hop])⟩
          · obtain ⟨hchallenger, htarget⟩ := h.guarded challenger pending hget
            refine ⟨hguard _ hchallenger fun heq => ?_, hguard _ htarget fun heq => ?_⟩
            · exact (hkept _ (Option.some.inj (hop.symm.trans heq))).1 rfl
            · exact (hkept _ (Option.some.inj (hop.symm.trans heq))).2 rfl

/-- In every run in which each duel is offered before its target has come to remove the duels of its
session, no session of a pending duel has stopped. -/
theorem pendingDuels_of_run (trace b) (hrun : Run (Step service) GameSession.start trace b)
    (hok : ∀ e ∈ trace, InTime e.1 e.2) (challenger pending)
    (h : b.shared.pendingDuels.get challenger = some pending) :
    Unstopped b pending.challengerSession ∧ Unstopped b pending.targetSession := by
  have hinv : Offered b := by
    refine hrun.invariant_of InTime Offered hok ⟨nofun, .ret (), rfl, nofun⟩ ?_
    exact fun _ _ _ hinv hok hstep => hinv.step hok hstep
  obtain ⟨hchallenger, htarget⟩ := hinv.guarded challenger pending h
  exact ⟨hchallenger.unstopped, htarget.unstopped⟩

/-! ### Schedules -/

def busyExecutor : Backend.Executor service where
  exec := GameState.exec hospitable
  does_exec := GameState.does_exec hospitable

/-- A session comes online as task `k`, logs in, selects a character and enters the town. -/
def enters (k : Nat) (sessionId : UInt32) (account : String) : List (Slot gameOps ClientFrame Unit) :=
  .read (.sessionOnlinePush sessionId) :: .read (.clientFrame sessionId (.login { account, password := "" })) ::
    List.replicate 4 (.task k) ++ .read (.clientFrame sessionId (.selectCharacter 1)) ::
    List.replicate 5 (.task k) ++
    .read (.clientFrame sessionId (.enterScene { type := 1, mapId := 1, ownerUid := 0, state := none })) ::
    List.replicate 7 (.task k)

/-- Session 1 offers session 2 a duel, step by step up to the offer. -/
def invites : List (Slot gameOps ClientFrame Unit) :=
  .read (.clientFrame 1 (.duelInvite 11)) :: List.replicate 7 (.task 0)

/-- The session that the event offers a duel. -/
def offeredTo (e : GameEvent) : Option UInt32 :=
  match e.op with
  | some (.addPendingDuel pending) => some pending.targetSession
  | _ => none

def isRunning (t : GameTask) : Bool :=
  match t.phase with
  | .running _ => true
  | .stopping _ => false

theorem inTime_of_running {b : GameSession} {e : GameEvent}
    (h : (offeredTo e).all fun s => b.tasks.any fun t => t.sessionId = s && isRunning t) : InTime b e := by
  intro pending hop
  simp only [offeredTo, hop, Option.all_some, List.any_eq_true, Bool.and_eq_true, decide_eq_true_eq] at h
  obtain ⟨t, ht, hsid, hrunning⟩ := h
  refine ⟨t, ht, hsid, ?_⟩
  rcases hphase : t.phase with p | p
  · exact .running hphase
  · simp [isRunning, hphase] at hrunning

/-- The duel is offered while both are online. -/
theorem pendingDuels_of_run_offer : ∃ trace b pending, Run (Step service) GameSession.start trace b ∧
    b.shared.pendingDuels.get 1 = some pending ∧ Unstopped b pending.challengerSession ∧
      Unstopped b pending.targetSession := by
  have h : ∃ r, busyExecutor.schedule GameSession.start (enters 0 1 "a" ++ enters 1 2 "b" ++ invites ++
      List.replicate 2 (.task 0)) = some r ∧ (r.2.shared.pendingDuels.get 1).isSome ∧
      ∀ e ∈ r.1, (offeredTo e.2).all fun s => e.1.tasks.any fun t => t.sessionId = s && isRunning t := by
    decide +kernel
  obtain ⟨⟨trace, b⟩, hschedule, hsome, hrunning⟩ := h
  obtain ⟨pending, hget⟩ := Option.isSome_iff_exists.1 hsome
  have hrun := busyExecutor.schedule_sound hschedule
  exact ⟨trace, b, pending, hrun, hget,
    pendingDuels_of_run trace b hrun (fun e he => inTime_of_running (hrunning e he)) 1 pending hget⟩

/-- The target stops between the last check and the offer; everything is processed then. -/
theorem duel_with_stopped_session : ∃ trace b pending, Run (Step service) GameSession.start trace b ∧
    Quiescent b ∧ b.shared.pendingDuels.get 1 = some pending ∧ ¬ Unstopped b pending.targetSession := by
  have h : ∃ r, busyExecutor.schedule GameSession.start (enters 0 1 "a" ++ enters 1 2 "b" ++ invites ++
      .read (.sessionOfflinePush 2) :: List.replicate 7 (.task 1) ++ List.replicate 2 (.task 0)) = some r ∧
      Quiescent r.2 ∧ ∃ pending, r.2.shared.pendingDuels.get 1 = some pending ∧
        ∀ t ∈ r.2.tasks, t.sessionId = pending.targetSession → t.phase.isDone := by
    decide +kernel
  obtain ⟨⟨trace, b⟩, hschedule, hquiet, pending, hget, hdone⟩ := h
  refine ⟨trace, b, pending, busyExecutor.schedule_sound hschedule, hquiet, hget, ?_⟩
  rintro ⟨t, ht, hsid, hnot⟩
  exact hnot (hdone t ht hsid)

end AxmolFighter.Game
