import AxmolFighter.Game.Sessions
import AxmolFighter.Town.Sessions

/-!
# Old and new incarnations of a session

In both servers `on_stop` clears what is stored under the bare session id, whoever has stored it. What a
new incarnation stores stays only if every older task of the session is past the clearing of that entry.
-/

namespace AxmolFighter

open Backend

namespace Town

/-- A session's player, the player's scene, and what that scene has of it. -/
def SceneManager.place (m : SceneManager) (sessionId : UInt32) :
    Option (Int64 × Option UInt64 × Option Player) :=
  (m.sessionPlayers.get sessionId).map fun p => (p, m.playerScenes.get p,
    (m.playerScenes.get p).bind fun s => (m.scenes.get s).bind fun scene => scene.players.get p)

/-- The session whose place an operation stores. -/
def TownOp.stores : TownOp → Option (UInt32 × Unit)
  | .scene (.enterScene _ req) => some (req.sessionId, ())
  | .scene (.updateState sessionId _) => some (sessionId, ())
  | _ => none

/-- Every step of the manager can change the place of a session. -/
def places (instanceId : UInt32) :
    Keyed (service instanceId) Unit fun _ => Option (Int64 × Option UInt64 × Option Player) where
  entry t sessionId _ := t.manager.place sessionId
  touches op _ _ := match op with
    | .scene _ => True
    | .sendMsg _ => False
  stores := TownOp.stores
  frame hdoes h := by
    cases hdoes with
    | scene _ _ => exact absurd trivial h
    | sendMsg => rfl

end Town

/-- In every run in which nothing is stored for a session before its older tasks are past it, no step of
an older task changes what has been stored since. -/
theorem incarnations_kept (trace) (b) (instanceId : UInt32) (townTrace) (town) :
    (Run (Step Game.service) Game.GameSession.start trace b →
      (∀ e ∈ trace, Game.maps.InSuccession e.1 e.2) → Game.maps.Kept trace b) ∧
    (Run (Step (Town.service instanceId)) Town.TownServer.start townTrace town →
      (∀ e ∈ townTrace, (Town.places instanceId).InSuccession e.1 e.2) →
      (Town.places instanceId).Kept townTrace town) :=
  ⟨fun hrun hok => Keyed.kept_of_run hrun hok, fun hrun hok => Keyed.kept_of_run hrun hok⟩

/-! ### Runs -/

namespace Game

def executor : Backend.Executor service where
  exec := GameState.exec lonely
  does_exec := GameState.does_exec lonely

/-- The client of session 1 logs in, and task `k` handles it. -/
def logIn (k : Nat) : List (Slot gameOps ClientFrame Unit) :=
  .read (.clientFrame 1 (.login { account := "a", password := "" })) :: List.replicate 4 (.task k)

end Game

/-- The client logs in and enters its town. -/
theorem incarnations_kept_sample :
    (∃ trace b, Run (Step Game.service) Game.GameSession.start trace b ∧
      Game.maps.StoredAnew trace 0 1 (.account 10) ∧ Game.maps.Kept trace b) ∧
    ∃ trace b, Run (Step (Town.service 0)) Town.TownServer.start trace b ∧
      (Town.places 0).StoredAnew trace 0 1 () ∧ (Town.places 0).Kept trace b := by
  constructor
  · have h : ∃ r, Game.executor.schedule Game.GameSession.start
        (.read (.sessionOnlinePush 1) :: Game.logIn 0 ++ .read (.sessionOnlinePush 1) ::
          List.replicate 6 (.task 0) ++ Game.logIn 1) = some r ∧
        (∀ e ∈ r.1, (e.2.op.bind Game.maps.stores).isNone ∨ ∀ t ∈ e.1.tasks.dropLast, t.phase.isDone) ∧
        Game.maps.StoredAnew r.1 0 1 (.account 10) := by
      decide +kernel
    obtain ⟨⟨trace, b⟩, hschedule, hdone, hstored⟩ := h
    have hrun := Game.executor.schedule_sound hschedule
    exact ⟨trace, b, hrun, hstored,
      (incarnations_kept trace b 0 [] Town.TownServer.start).1 hrun fun e he => Keyed.inSuccession_of_done (hdone e he)⟩
  · have h : ∃ r, (Town.executor 0).schedule Town.TownServer.start [.read (.sessionOnlinePush 1),
        .read (.sessionOnlinePush 1), .task 0, .task 0, .read (.serverMessage Town.visit), .dispatcher,
        .dispatcher] = some r ∧
        (∀ e ∈ r.1, (e.2.op.bind (Town.places 0).stores).isNone ∨
          ∀ t ∈ e.1.tasks.dropLast, t.phase.isDone) ∧
        (Town.places 0).StoredAnew r.1 0 1 () := by
      decide +kernel
    obtain ⟨⟨trace, b⟩, hschedule, hdone, hstored⟩ := h
    have hrun := (Town.executor 0).schedule_sound hschedule
    exact ⟨trace, b, hrun, hstored,
      (incarnations_kept [] Game.GameSession.start 0 trace b).2 hrun fun e he => Keyed.inSuccession_of_done (hdone e he)⟩

/-- The session comes online again and logs in or enters its town again before the old task stops. -/
theorem old_incarnation_clears :
    (∃ trace b, Run (Step Game.service) Game.GameSession.start trace b ∧ ¬ Game.maps.Kept trace b) ∧
    ∃ trace b, Run (Step (Town.service 0)) Town.TownServer.start trace b ∧ ¬ (Town.places 0).Kept trace b := by
  constructor
  · have h : ∃ r, Game.executor.schedule Game.GameSession.start
        (.read (.sessionOnlinePush 1) :: Game.logIn 0 ++ .read (.sessionOnlinePush 1) ::
          Game.logIn 1 ++ List.replicate 5 (.task 0)) = some r ∧
        ∃ t, r.2.tasks[0]? = some t ∧ Game.maps.StoredAnew r.1 0 t.sessionId (.account 10) ∧
        ∃ r', Game.executor.advance r.2 (.task 0) = some r' ∧ r'.1.actor = some 0 ∧
          r'.2.shared.entry t.sessionId (.account 10) ≠ r.2.shared.entry t.sessionId (.account 10) := by
      decide +kernel
    obtain ⟨⟨trace, b⟩, hschedule, t, ht, hstored, ⟨e, b'⟩, hadvance, hactor, hne⟩ := h
    exact ⟨trace, b, Game.executor.schedule_sound hschedule,
      Keyed.not_kept (Game.executor.advance_sound hadvance) hactor ht hstored hne⟩
  · have h : ∃ r, (Town.executor 0).schedule Town.TownServer.start [.read (.sessionOnlinePush 1),
        .read (.sessionOnlinePush 1), .read (.serverMessage Town.visit), .dispatcher, .dispatcher,
        .task 0] = some r ∧
        ∃ t, r.2.tasks[0]? = some t ∧ (Town.places 0).StoredAnew r.1 0 t.sessionId () ∧
        ∃ r', (Town.executor 0).advance r.2 (.task 0) = some r' ∧ r'.1.actor = some 0 ∧
          r'.2.shared.manager.place t.sessionId ≠ r.2.shared.manager.place t.sessionId := by
      decide +kernel
    obtain ⟨⟨trace, b⟩, hschedule, t, ht, hstored, ⟨e, b'⟩, hadvance, hactor, hne⟩ := h
    exact ⟨trace, b, (Town.executor 0).schedule_sound hschedule,
      Keyed.not_kept ((Town.executor 0).advance_sound hadvance) hactor ht hstored hne⟩

end AxmolFighter
