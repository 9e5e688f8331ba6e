import AxmolFighter.Backend.Rpc
import AxmolFighter.Backend.Sessions
import AxmolFighter.Town.Invariant
import AxmolFighter.Town.Shared

/-!
# Sessions that leave the town

`town/src/delegate.rs`: requests of the game server seat a session's player, and the session's task takes
the player away when it stops. The two are not ordered. An enter request that is handled after the task
has stopped seats a player that nobody takes away, unless the session comes online again.
-/

namespace AxmolFighter.Town

open TownShared

/-! ### The service -/

inductive ClientFrame
  | townPlayerStatePush (push : TownPlayerStatePush)
  | other

inductive ServerRequest
  | townEnterSceneReq (req : TownEnterSceneReq)
  | townLeaveSceneReq (req : TownLeaveSceneReq)
  | other

structure ServerMessage where
  sourceServiceId : UInt32
  request : ServerRequest

def onClientFrame (sessionId : UInt32) : ClientFrame → Program townOps UInt32
  | .townPlayerStatePush push => do
      updateState sessionId push
      pure sessionId
  | .other => pure sessionId

def onServerRequest (instanceId : UInt32) (msg : ServerMessage) : Program townOps Unit :=
  if msg.sourceServiceId ≠ Backend.serviceIdGame then pure ()
  else
    match msg.request with
    | .townEnterSceneReq req => do
        let _ ← enterScene instanceId req
        pure ()
    | .townLeaveSceneReq req => do
        let _ ← leaveScene req
        pure ()
    | .other => pure ()

def onDisconnected : Program townOps Unit := do
  let _ ← scene .clear
  pure ()

/-- A delegate of the town knows its session and nothing else. -/
def service (instanceId : UInt32) : Backend.Service townOps TownShared UInt32 ClientFrame ServerMessage where
  does := Does
  createSessionDelegate sessionId := sessionId
  onStart sessionId := pure sessionId
  onClientFrame := onClientFrame
  onStop := leaveSession
  onServerMessage := onServerRequest instanceId
  onServerOffline _ _ := pure ()
  onDisconnected

abbrev TownServer := Backend.BackendSession townOps TownShared UInt32 ClientFrame ServerMessage

abbrev TownEvent := Backend.Event townOps ClientFrame ServerMessage

def TownServer.start : TownServer := { shared := .new }

/-! ### The condition -/

/-- The task has not taken its player away yet: `on_stop` is still to come, or has not got the mutex. -/
def leaveAhead (x : UInt32) : Backend.Phase townOps UInt32 → Bool
  | .running _ => true
  | .stopping (.call (.scene (.leaveSession y)) _) => y = x
  | _ => false

/-- Some task of the session will take its player away. -/
def Attended (b : TownServer) (x : UInt32) : Prop :=
  ∃ t ∈ b.tasks, t.sessionId = x ∧ leaveAhead x t.phase

/-- The enter request that an event carries out. -/
def entered (e : TownEvent) : Option TownEnterSceneReq :=
  match e.op with
  | some (.scene (.enterScene _ req)) => some req
  | _ => none

/-- The event seats the session. -/
def Enters (e : TownEvent) (x : UInt32) : Prop :=
  ∃ req, entered e = some req ∧ req.sessionId = x ∧
    (SceneKey.fromParts req.type req.mapId req.ownerUid).toOption.isSome

/-- Whenever the session is seated, its task has not left yet or the session comes online afterwards. -/
def EntersInTime (x : UInt32) : List (TownServer × TownEvent) → Prop
  | [] => True
  | (b, e) :: after => (Enters e x → Attended b x ∨ ∃ e' ∈ after, e'.2.lifeCycle x = some .online) ∧
      EntersInTime x after

/-- No player re-enters its scene on a session that holds somebody else, and scene ids are not used up. -/
def Proper (b : TownServer) (e : TownEvent) : Prop :=
  ∀ req, entered e = some req →
    ¬ b.shared.manager.SameSceneTakeover req ∧ b.shared.manager.nextSceneId.toNat < 2 ^ 64 - 1

instance (b : TownServer) (x : UInt32) : Decidable (Attended b x) :=
  inferInstanceAs (Decidable (∃ t ∈ b.tasks, _ ∧ _))

instance (e : TownEvent) (x : UInt32) : Decidable (Enters e x) :=
  inferInstanceAs (Decidable (∃ req, _ = some req ∧ _))

instance (b : TownServer) (e : TownEvent) : Decidable (Proper b e) :=
  inferInstanceAs (Decidable (∀ req, _ = some req → _))

instance (x : UInt32) : ∀ trace, Decidable (EntersInTime x trace)
  | [] => .isTrue trivial
  | (b, e) :: after =>
      have : Decidable (EntersInTime x after) := instDecidableEntersInTime x after
      inferInstanceAs (Decidable ((Enters e x → Attended b x ∨ ∃ e' ∈ after, _) ∧ EntersInTime x after))

theorem leaveAhead_iff {x : UInt32} {phase : Backend.Phase townOps UInt32} : leaveAhead x phase ↔
    (∃ p, phase = .running p) ∨ ∃ next, phase = .stopping (.call (.scene (.leaveSession x)) next) := by
  unfold leaveAhead
  split
  · simp
  · rename_i y next
    constructor
    · intro h
      rw [of_decide_eq_true h]
      exact Or.inr ⟨next, rfl⟩
    · rintro (⟨p, h⟩ | ⟨next, h⟩) <;> cases h
      simp
  · rename_i hrunning hstopping
    constructor
    · nofun
    · rintro (⟨p, rfl⟩ | ⟨next, rfl⟩)
      · exact absurd rfl (hrunning p)
      · exact absurd rfl (hstopping x next)

theorem entered_of_op {e : TownEvent} {instanceId : UInt32} {req : TownEnterSceneReq}
    (h : e.op = some (.scene (.enterScene instanceId req))) : entered e = some req := by
  rw [entered, h]

/-! ### What the tasks do -/

/-- The session tasks enter nobody. -/
def NoEnter : TownOp → Prop
  | .scene (.enterScene _ _) => False
  | _ => True

theorem calls_sendPushes (step : Nat) (b : PushBatch) : (sendPushes step b).Calls NoEnter :=
  (Program.Calls.forEach fun _ _ => .perform trivial).bind fun _ =>
    (Program.Calls.forEach fun _ _ => .perform trivial).bind fun _ =>
      Program.Calls.forEach fun _ _ => .perform trivial

theorem calls_updateState (x : UInt32) (push : TownPlayerStatePush) : (updateState x push).Calls NoEnter :=
  (Program.Calls.perform trivial).bind fun (out, step) => calls_sendPushes step out.pushes

theorem calls_leaveSession (x : UInt32) : (leaveSession x).Calls NoEnter :=
  (Program.Calls.perform trivial).bind fun (out, step) => calls_sendPushes step out.pushes

/-- A task enters nobody, and its delegate stays that of the session. -/
inductive OwnPhase (x : UInt32) : Backend.Phase townOps UInt32 → Prop
  | running {p : Program townOps UInt32}
      (h : p.Follows (fun (_ : Unit) op _ _ => NoEnter op) (fun _ sessionId => sessionId = x) ()) :
      OwnPhase x (.running p)
  | stopping {p : Program townOps Unit} (h : p.Calls NoEnter) : OwnPhase x (.stopping p)

theorem OwnPhase.step {x : UInt32} {phase phase' : Backend.Phase townOps UInt32} {op : TownOp}
    {answer : op.Answer} (h : OwnPhase x phase) (hstep : phase.Step op answer phase') :
    NoEnter op ∧ OwnPhase x phase' := by
  cases hstep with
  | running op next answer =>
      cases h with
      | running h =>
          obtain ⟨_, hop, hnext⟩ := h.step answer
          exact ⟨hop, .running hnext⟩
  | stopping op next answer =>
      cases h with
      | stopping h =>
          cases h with
          | call hop hnext => exact ⟨hop, .stopping (hnext answer)⟩

theorem ownPhase_onClientFrame (x : UInt32) (frame : ClientFrame) :
    OwnPhase x (.running (onClientFrame x frame)) := by
  cases frame with
  | townPlayerStatePush push =>
      exact .running (.calls_bind (calls_updateState x push) (fun _ _ hop => hop) fun _ => .ret rfl)
  | other => exact .running (.ret rfl)

/-! ### What a step does to the seats -/

section Steps

variable {instanceId : UInt32} {b b' : TownServer} {e : TownEvent} {x : UInt32}

theorem manager_cases (hstep : Backend.Step (service instanceId) b e b') :
    b'.shared.manager = b.shared.manager ∨
      ∃ op, e.op = some (.scene op) ∧ SceneStep b.shared.manager op b'.shared.manager := by
  have hdoes : ∀ {t t' : TownShared} {op : TownOp} {answer : op.Answer}, Does t op answer t' →
      t'.manager = t.manager ∨ ∃ sceneOp, op = .scene sceneOp ∧ SceneStep t.manager sceneOp t'.manager := by
    intro t t' op answer h
    cases h with
    | scene _ h =>
        obtain ⟨out, hout, -⟩ := h
        exact Or.inr ⟨_, rfl, out, hout⟩
    | sendMsg => exact Or.inl rfl
  have hscene : ∀ {t t' : TownShared} {op : TownOp} {answer : op.Answer}, Does t op answer t' →
      e.op = some op → t'.manager = t.manager ∨
        ∃ op, e.op = some (.scene op) ∧ SceneStep t.manager op t'.manager := by
    intro t t' op answer h hop
    rcases hdoes h with hsame | ⟨op, rfl, hscene⟩
    · exact Or.inl hsame
    · exact Or.inr ⟨op, hop, hscene⟩
  cases hstep with
  | read _ h =>
      left
      rw [(Backend.BackendSession.read_spec h).1]
  | dispatch _ _ => exact Or.inl rfl
  | readLoopCall _ h | dispatcherCall _ h => exact hscene h rfl
  | task _ hacts =>
      cases hacts with
      | receive _ _ _ | stop _ _ => exact Or.inl rfl
      | call _ h => exact hscene h rfl

theorem consistent_step (hstep : Backend.Step (service instanceId) b e b') (hok : Proper b e)
    (h : b.shared.manager.Consistent) : b'.shared.manager.Consistent := by
  rcases manager_cases hstep with heq | ⟨op, hop, hscene⟩
  · rwa [heq]
  · refine h.exec ?_ ?_ hscene
    · rintro ⟨instanceId, req, rfl⟩
      exact (hok req (entered_of_op hop)).2
    · cases op with
      | enterScene instanceId req => exact (hok req (entered_of_op hop)).1
      | _ => trivial

/-- The tasks keep to what they may do. -/
def OwnTasks (b : TownServer) : Prop := ∀ t ∈ b.tasks, OwnPhase t.sessionId t.phase

theorem ownTasks_step (hstep : Backend.Step (service instanceId) b e b') (h : OwnTasks b) : OwnTasks b' := by
  intro t' ht'
  obtain ⟨k, hk⟩ := List.getElem?_of_mem ht'
  rcases Backend.BackendSession.task_cases hstep hk with ⟨sid, -, -, rfl⟩ | ⟨t, hk₀, hsame | hacts⟩
  · exact .running (.ret rfl)
  · have ht := h t (List.mem_of_getElem? hk₀)
    rwa [hsame.sessionId, hsame.phase]
  · have ht := h t (List.mem_of_getElem? hk₀)
    generalize b'.shared = s' at hacts
    cases hacts with
    | receive hphase =>
        rw [hphase] at ht
        cases ht with
        | running ht =>
            have hsid := ht.of_ret
            subst hsid
            exact ownPhase_onClientFrame _ _
    | stop hphase => exact .stopping (calls_leaveSession _)
    | call hphase _ => exact (ht.step hphase).2

theorem seated_cases (hstep : Backend.Step (service instanceId) b e b') {p : Int64}
    (hx : b'.shared.manager.sessionPlayers.get x = some p) :
    b.shared.manager.sessionPlayers.get x = some p ∨ Enters e x := by
  rcases manager_cases hstep with heq | ⟨op, hop, hscene⟩
  · exact Or.inl (heq ▸ hx)
  · rcases SceneManager.exec_sessionPlayers hscene hx with h | ⟨instanceId, req, rfl, ⟨key, hkey⟩, hsid⟩
    · exact Or.inl h
    · exact Or.inr ⟨req, entered_of_op hop, hsid, by rw [hkey]; rfl⟩

theorem attended_step (hstep : Backend.Step (service instanceId) b e b') (hown : OwnTasks b)
    (hconsistent : b.shared.manager.Consistent) (h : Attended b x) :
    Attended b' x ∨ b'.shared.manager.sessionPlayers.get x = none := by
  obtain ⟨t, ht, rfl, hahead⟩ := h
  obtain ⟨k, hk⟩ := List.getElem?_of_mem ht
  obtain ⟨t', hk', hsid⟩ := Backend.BackendSession.task_stays hstep hk
  have hmem : t' ∈ b'.tasks := List.mem_of_getElem? hk'
  rcases Backend.BackendSession.task_cases hstep hk' with ⟨_, -, hnew, -⟩ | ⟨t₀, hk₀, h⟩
  · have hlt := (List.getElem?_eq_some_iff.1 hk).1
    omega
  rw [hk] at hk₀
  cases hk₀
  rcases h with hsame | hacts
  · rw [← hsame.phase] at hahead
    exact Or.inl ⟨t', hmem, hsid, hahead⟩
  · have ht := hown t ht
    generalize b'.shared = s' at hacts ⊢
    cases hacts with
    | receive _ => exact Or.inl ⟨_, hmem, rfl, rfl⟩
    | stop hphase =>
        rw [hphase] at ht
        cases ht with
        | running ht =>
            have hret := ht.of_ret
            subst hret
            exact Or.inl ⟨_, hmem, rfl, leaveAhead_iff.2 (Or.inr ⟨_, rfl⟩)⟩
    | call hphase hdoes =>
        rcases leaveAhead_iff.1 hahead with ⟨p, hrunning⟩ | ⟨next, hstopping⟩
        · rw [hrunning] at hphase
          cases hphase
          exact Or.inl ⟨_, hmem, rfl, rfl⟩
        · -- the step that takes the player away
          rw [hstopping] at hphase
          cases hphase
          cases hdoes with
          | scene _ h =>
              obtain ⟨out, hout, -⟩ := h
              have hleave := hconsistent.leaveSession t.sessionId
              simp only [SceneManager.exec, Option.some.injEq, Prod.mk.injEq] at hout
              rw [hout.1] at hleave
              exact Or.inr hleave

theorem attended_of_online (hstep : Backend.Step (service instanceId) b e b')
    (h : e.lifeCycle x = some .online) : Attended b' x := by
  cases e with
  | sessionOnlinePush y =>
      simp only [Backend.Event.lifeCycle] at h
      split_ifs at h with hy
      subst hy
      cases hstep with
      | read _ hread =>
          cases hread
          exact ⟨.spawn (service instanceId) y, List.mem_append_right _ (List.mem_singleton.2 rfl), rfl, rfl⟩
      | task _ hacts => cases hacts
  | sessionOfflinePush y =>
      simp only [Backend.Event.lifeCycle] at h
      split_ifs at h
      simp at h
  | _ => simp [Backend.Event.lifeCycle] at h

end Steps

/-! ### Runs -/

/-- The session was seated unattended, and has not come online since. -/
def Awaited (trace : List (TownServer × TownEvent)) (x : UInt32) : Prop :=
  ∃ before b e after, trace = before ++ (b, e) :: after ∧ Enters e x ∧ ¬ Attended b x ∧
    ∀ e' ∈ after, e'.2.lifeCycle x ≠ some .online

theorem EntersInTime.not_awaited {trace : List (TownServer × TownEvent)} {x : UInt32}
    (h : EntersInTime x trace) : ¬ Awaited trace x := by
  rintro ⟨before, b, e, after, rfl, henters, hattended, hafter⟩
  induction before with
  | nil =>
      rcases h.1 henters with hb | ⟨e', he', honline⟩
      · exact hattended hb
      · exact hafter e' he' honline
  | cons _ before ih => exact ih h.2

section Runs

variable {instanceId : UInt32} {trace : List (TownServer × TownEvent)} {b : TownServer} {x : UInt32}

/-- A session that is seated is attended, or awaited. -/
structure SeatInv (x : UInt32) (trace : List (TownServer × TownEvent)) (b : TownServer) : Prop where
  own : OwnTasks b
  consistent : b.shared.manager.Consistent
  seated : ∀ p, b.shared.manager.sessionPlayers.get x = some p → Attended b x ∨ Awaited trace x

theorem SeatInv.step {b' : TownServer} {e : TownEvent} (h : SeatInv x trace b)
    (hstep : Backend.Step (service instanceId) b e b') (hok : Proper b e) :
    SeatInv x (trace ++ [(b, e)]) b' := by
  refine ⟨ownTasks_step hstep h.own, consistent_step hstep hok h.consistent, fun p hx => ?_⟩
  have hattended : Attended b x → Attended b' x ∨ Awaited (trace ++ [(b, e)]) x := by
    intro hb
    rcases attended_step hstep h.own h.consistent hb with hb' | hnone
    · exact Or.inl hb'
    · rw [hx] at hnone
      cases hnone
  by_cases honline : e.lifeCycle x = some .online
  · exact Or.inl (attended_of_online hstep honline)
  · by_cases hb : Attended b x
    · exact hattended hb
    · right
      rcases seated_cases hstep hx with hold | henters
      · rcases h.seated p hold with h | ⟨before, b₀, e₀, after, rfl, henters, hnot, hafter⟩
        · exact absurd h hb
        · refine ⟨before, b₀, e₀, after ++ [(b, e)], by simp, henters, hnot, fun e' he' => ?_⟩
          rcases List.mem_append.1 he' with he' | he'
          · exact hafter e' he'
          · rw [List.mem_singleton.1 he']
            exact honline
      · exact ⟨trace, b, e, [], rfl, henters, hb, by simp⟩

theorem seatInv_of_run (hrun : Run (Backend.Step (service instanceId)) TownServer.start trace b)
    (hok : ∀ e ∈ trace, Proper e.1 e.2) : SeatInv x trace b := by
  induction hrun with
  | start => exact ⟨nofun, SceneManager.Consistent.start, nofun⟩
  | next hrun hstep ih =>
      have hlast := hok _ (List.mem_append_right _ List.mem_cons_self)
      exact (ih fun e he => hok e (List.mem_append_left _ he)).step hstep hlast

/-- When everything is processed, a session that last went offline has no seat and no player in a scene. -/
theorem noGhost_of_run (hrun : Run (Backend.Step (service instanceId)) TownServer.start trace b)
    (hok : ∀ e ∈ trace, Proper e.1 e.2) (hin : EntersInTime x trace) (hquiet : Backend.Quiescent b)
    (hoffline : Backend.LastOffline x trace) :
    b.shared.manager.sessionPlayers.get x = none ∧ ∀ s scene p player,
      b.shared.manager.scenes.get s = some scene → scene.players.get p = some player →
        player.sessionId ≠ x := by
  have hinv : SeatInv x trace b := seatInv_of_run hrun hok
  have hnone : b.shared.manager.sessionPlayers.get x = none := by
    rw [Option.eq_none_iff_forall_ne_some]
    intro p hx
    rcases hinv.seated p hx with ⟨t, ht, hsid, hahead⟩ | hawaited
    · rw [Backend.finished_of_offline hrun rfl hquiet hoffline ht hsid] at hahead
      cases hahead
    · exact hin.not_awaited hawaited
  exact ⟨hnone, fun s scene p player hscene hp => hinv.consistent.nobody hnone hscene hp⟩

end Runs

/-! ### Two visits -/

def executor (instanceId : UInt32) : Backend.Executor (service instanceId) where
  exec := TownShared.exec
  does_exec := does_exec

/-- A visitor of map 1, as the game server announces it. -/
def visit : ServerMessage where
  sourceServiceId := Backend.serviceIdGame
  request := .townEnterSceneReq
    { sessionId := 1, playerId := 1, type := 1, mapId := 1, ownerUid := 0, state := none }

/-- The visitor enters before its session is announced, and leaves with it. -/
theorem noGhost_of_run_visit : ∃ trace b, Run (Backend.Step (service 0)) TownServer.start trace b ∧
    (∃ e ∈ trace, Enters e.2 1) ∧ b.shared.manager.sessionPlayers.get 1 = none := by
  have h : ∃ r, (executor 0).schedule TownServer.start [.read (.serverMessage visit), .dispatcher,
      .dispatcher, .read (.sessionOnlinePush 1), .read (.sessionOfflinePush 1), .task 0, .task 0] = some r ∧
      (∃ e ∈ r.1, Enters e.2 1) ∧ (∀ e ∈ r.1, Proper e.1 e.2) ∧ EntersInTime 1 r.1 ∧
      Backend.Quiescent r.2 ∧ Backend.LastOffline 1 r.1 := by
    decide +kernel
  obtain ⟨⟨trace, b⟩, hschedule, henters, hok, hin, hquiet, hoffline⟩ := h
  have hrun := (executor 0).schedule_sound hschedule
  exact ⟨trace, b, hrun, henters, (noGhost_of_run hrun hok hin hquiet hoffline).1⟩

/-- The session goes offline and its task leaves, and only then is the enter request handled. -/
theorem ghost_after_stop : ∃ trace b, Run (Backend.Step (service 0)) TownServer.start trace b ∧
    Backend.Quiescent b ∧ Backend.LastOffline 1 trace ∧ b.shared.manager.sessionPlayers.get 1 = some 1 := by
  have h : ∃ r, (executor 0).schedule TownServer.start [.read (.sessionOnlinePush 1),
      .read (.serverMessage visit), .read (.sessionOfflinePush 1), .task 0, .task 0, .dispatcher,
      .dispatcher] = some r ∧ Backend.Quiescent r.2 ∧ Backend.LastOffline 1 r.1 ∧
      r.2.shared.manager.sessionPlayers.get 1 = some 1 := by
    decide +kernel
  obtain ⟨⟨trace, b⟩, hschedule, hquiet, hoffline, hghost⟩ := h
  exact ⟨trace, b, (executor 0).schedule_sound hschedule, hquiet, hoffline, hghost⟩

end AxmolFighter.Town
