import AxmolFighter.Lib.Program
import AxmolFighter.Town.View

/-!
# The town's shared state

`TownShared` of `town/src/scene.rs`: the manager behind its mutex, and the pushes of a step, which are
handed to `send_msg` one by one after the mutex is released. A step and a hand-over are one operation
each; other tasks can act between any two of them.

Steps are numbered as they happen. The number is not in the source: it goes with every push, to tell
which step the push is from.
-/

namespace AxmolFighter.Town

/-! ### The manager never panics -/

/-- Every scene of the index exists. -/
def SceneManager.Indexed (m : SceneManager) : Prop :=
  ∀ key s, m.scenesByKey.get key = some s → (m.scenes.get s).isSome

/-- The index is the same and no scene is gone. -/
structure SceneManager.Extends (m m' : SceneManager) : Prop where
  index : m'.scenesByKey = m.scenesByKey
  scenes : ∀ s, (m.scenes.get s).isSome → (m'.scenes.get s).isSome

namespace SceneManager

variable {m m' m'' : SceneManager}

theorem Extends.refl (m : SceneManager) : m.Extends m := ⟨rfl, fun _ h => h⟩

theorem Extends.trans (h : m.Extends m') (h' : m'.Extends m'') : m.Extends m'' :=
  ⟨h'.index.trans h.index, fun s hs => h'.scenes s (h.scenes s hs)⟩

theorem Extends.indexed (h : m.Extends m') (hm : m.Indexed) : m'.Indexed := by
  intro key s hkey
  rw [h.index] at hkey
  exact h.scenes s (hm key s hkey)

theorem extends_of_insert (hindex : m'.scenesByKey = m.scenesByKey) {s : UInt64} {scene : Scene}
    (hscenes : m'.scenes = m.scenes.insert s scene) : m.Extends m' := by
  refine ⟨hindex, fun t ht => ?_⟩
  rw [hscenes, Table.get_insert]
  split_ifs
  · rfl
  · exact ht

theorem ensureScene_indexed (hm : m.Indexed) (key : SceneKey) :
    (m.ensureScene key).1.Indexed ∧
      ((m.ensureScene key).1.scenes.get (m.ensureScene key).2).isSome := by
  unfold ensureScene
  split
  · rename_i s hs
    exact ⟨hm, hm key s hs⟩
  · refine ⟨fun k s hk => ?_, by simp⟩
    simp only [Table.get_insert] at hk ⊢
    split_ifs with hs
    · rfl
    · split_ifs at hk with hkey
      · exact absurd (Option.some.inj hk).symm hs
      · exact hm k s hk

theorem removePlayer_extends (m : SceneManager) (p : Int64) (b : PushBatch) :
    m.Extends (m.removePlayer p b).1 := by
  unfold removePlayer
  split
  · exact .refl m
  · dsimp only
    split
    · exact ⟨rfl, fun _ h => h⟩
    · split
      · exact ⟨rfl, fun _ h => h⟩
      · exact extends_of_insert rfl rfl

theorem standUp_extends (m : SceneManager) (x : UInt32) (p : Int64) : m.Extends (m.standUp x p).1 := by
  unfold standUp
  split
  · split_ifs
    · exact removePlayer_extends m _ _
    · exact .refl m
  · exact .refl m

theorem enterResponse_isSome {s : UInt64} (hs : (m.scenes.get s).isSome) (instanceId : UInt32) :
    (m.enterResponse instanceId s).isSome := by
  obtain ⟨scene, hscene⟩ := Option.isSome_iff_exists.1 hs
  simp [enterResponse, hscene]

theorem sitDown_total {s : UInt64} (hs : (m.scenes.get s).isSome) (instanceId x : UInt32) (p : Int64)
    (state : PlayerState) (b : PushBatch) :
    ∃ m' r, m.sitDown instanceId s x p state b = some (m', r) ∧ m.Extends m' := by
  obtain ⟨scene, hscene⟩ := Option.isSome_iff_exists.1 hs
  simp only [sitDown, hscene, Option.bind_eq_bind, Option.bind_some]
  obtain ⟨resp, hresp⟩ := Option.isSome_iff_exists.1 (enterResponse_isSome (s := s) (m := { m with
      scenes := m.scenes.insert s { scene with players := scene.players.insert p { sessionId := x, state } }
      playerScenes := m.playerScenes.insert p s
      sessionPlayers := m.sessionPlayers.insert x p }) (by simp) instanceId)
  rw [hresp]
  exact ⟨_, _, rfl, extends_of_insert rfl rfl⟩

theorem updatePlayerInScene_total {s : UInt64} (hs : (m.scenes.get s).isSome) (instanceId x : UInt32)
    (state : PlayerState) :
    ∃ m' r, m.updatePlayerInScene instanceId s x state = some (m', r) ∧ m.Extends m' := by
  obtain ⟨scene, hscene⟩ := Option.isSome_iff_exists.1 hs
  have hstay : ∀ (scene : Scene) (m' : SceneManager), m.Extends m' → ∃ m'' r,
      ((m'.enterResponse instanceId s).bind fun response =>
        some (m', ({ response, pushes := { playerState := statePushes scene x state } } :
          EnterSceneResult))) = some (m'', r) ∧ m.Extends m'' := by
    intro scene m' hext
    obtain ⟨resp, hresp⟩ := Option.isSome_iff_exists.1 (enterResponse_isSome (hext.scenes s hs) instanceId)
    rw [hresp]
    exact ⟨_, _, rfl, hext⟩
  simp only [updatePlayerInScene, hscene, Option.bind_eq_bind, Option.bind_some]
  split
  · exact hstay _ _ (extends_of_insert rfl rfl)
  · exact hstay _ _ (.refl m)

theorem updateState_extends (m : SceneManager) (x : UInt32) (push : TownPlayerStatePush) :
    m.Extends (m.updateState x push).1 := by
  unfold updateState
  repeat' split
  all_goals first
    | exact .refl m
    | exact extends_of_insert rfl rfl

theorem exec_total (hm : m.Indexed) (op : SceneOp) :
    ∃ m' out, m.exec op = some (m', out) ∧ m'.Indexed := by
  cases op with
  | enterScene instanceId req =>
      simp only [exec, enterScene]
      rcases SceneKey.fromParts req.type req.mapId req.ownerUid with message | key
      · exact ⟨_, _, rfl, hm⟩
      · obtain ⟨hensured, hs⟩ := ensureScene_indexed hm key
        dsimp only
        split_ifs
        · obtain ⟨m', r, heq, hext⟩ :=
            updatePlayerInScene_total hs instanceId req.sessionId req.enteringState
          rw [heq]
          exact ⟨_, _, rfl, hext.indexed hensured⟩
        · have hext := (standUp_extends (m.ensureScene key).1 req.sessionId req.playerId).trans
            (removePlayer_extends _ req.playerId
              ((m.ensureScene key).1.standUp req.sessionId req.playerId).2)
          obtain ⟨m', r, heq, hext'⟩ := sitDown_total (hext.scenes _ hs) instanceId req.sessionId
            req.playerId req.enteringState _
          rw [heq]
          exact ⟨_, _, rfl, (hext.trans hext').indexed hensured⟩
  | leaveScene req =>
      refine ⟨(m.leaveScene req).1, _, rfl, ?_⟩
      rcases leaveScene_cases m req with ⟨-, heq, -⟩ | ⟨-, heq, -⟩
      · rw [heq]
        exact (removePlayer_extends m _ _).indexed hm
      · rwa [heq]
  | leaveSession x =>
      refine ⟨(m.leaveSession x).1, _, rfl, ?_⟩
      rcases hx : m.sessionPlayers.get x with _ | p
      · rwa [leaveSession_none hx]
      · rw [leaveSession_some hx]
        exact (removePlayer_extends m _ _).indexed hm
  | updateState x push => exact ⟨_, _, rfl, (updateState_extends m x push).indexed hm⟩
  | clear => exact ⟨_, _, rfl, fun _ _ h => by cases h⟩

theorem exec_indexed (hm : m.Indexed) {op : SceneOp} {out : SceneOutcome}
    (h : m.exec op = some (m', out)) : m'.Indexed := by
  obtain ⟨m₁, out₁, heq, hindexed⟩ := exec_total hm op
  rw [heq] at h
  cases h
  exact hindexed

theorem exec_ne_none (hm : m.Indexed) (op : SceneOp) : m.exec op ≠ none := by
  obtain ⟨m', out, heq, -⟩ := exec_total hm op
  rw [heq]
  exact Option.some_ne_none _

end SceneManager

/-! ### Steps and pushes -/

inductive ScenePush
  | playerEnter (state : PlayerState)
  | playerLeave (playerId : Int64)
  | playerState (state : PlayerState)
deriving DecidableEq

/-- A push to a session, of the step with the number. -/
structure Sending where
  step : Nat
  sessionId : UInt32
  push : ScenePush
deriving DecidableEq

/-- The manager, the number of the next step, and what has been handed to `send_msg`, in order. -/
structure TownShared where
  manager : SceneManager := {}
  indexed : manager.Indexed
  steps : Nat := 0
  sent : List Sending := []

inductive TownOp
  | scene (op : SceneOp)
  | sendMsg (s : Sending)

@[reducible] def TownOp.Answer : TownOp → Type
  | scene _ => SceneOutcome × Nat
  | sendMsg _ => Unit

@[reducible] def townOps : Signature := ⟨TownOp, TownOp.Answer⟩

namespace TownShared

def new : TownShared where
  indexed := fun _ _ h => by cases h

inductive Does : TownShared → (op : TownOp) → op.Answer → TownShared → Prop
  | scene {t : TownShared} {op : SceneOp} {out : SceneOutcome} {m : SceneManager} (hm : m.Indexed)
      (h : ObservedStep t.manager (op, out) m) :
      Does t (.scene op) (out, t.steps) { t with manager := m, indexed := hm, steps := t.steps + 1 }
  | sendMsg {t : TownShared} {s : Sending} :
      Does t (.sendMsg s) () { t with sent := t.sent ++ [s] }

def exec (t : TownShared) : (op : TownOp) → op.Answer × TownShared
  | .scene op =>
      match h : t.manager.exec op with
      | some (m, out) => ((out, t.steps), { t with
          manager := m
          indexed := SceneManager.exec_indexed t.indexed h
          steps := t.steps + 1 })
      | none => absurd h (SceneManager.exec_ne_none t.indexed op)
  | .sendMsg s => ((), { t with sent := t.sent ++ [s] })

theorem does_exec (t : TownShared) (op : TownOp) : Does t op (t.exec op).1 (t.exec op).2 := by
  cases op with
  | scene op =>
      rw [exec]
      split
      · rename_i m out h
        exact .scene _ ⟨out, h, .refl out⟩
      · rename_i h
        exact absurd h (SceneManager.exec_ne_none t.indexed op)
  | sendMsg s => exact .sendMsg

def clear (t : TownShared) : TownShared :=
  { t with
    manager := t.manager.clear
    indexed := fun _ _ h => by cases h }

/-! ### The functions of `TownShared` -/

abbrev scene (op : SceneOp) : Program townOps (SceneOutcome × Nat) :=
  Program.perform (S := townOps) (.scene op)

abbrev sendMsg (step : Nat) (sessionId : UInt32) (push : ScenePush) : Program townOps Unit :=
  Program.perform (S := townOps) (.sendMsg ⟨step, sessionId, push⟩)

def sendPushes (step : Nat) (pushes : PushBatch) : Program townOps Unit := do
  Program.forEach (fun (sessionId, state) => sendMsg step sessionId (.playerEnter state))
    pushes.playerEnter
  Program.forEach (fun (sessionId, playerId) => sendMsg step sessionId (.playerLeave playerId))
    pushes.playerLeave
  Program.forEach (fun (sessionId, state) => sendMsg step sessionId (.playerState state))
    pushes.playerState

def enterScene (instanceId : UInt32) (req : TownEnterSceneReq) :
    Program townOps (Option TownEnterSceneResp) := do
  let (out, step) ← scene (.enterScene instanceId req)
  sendPushes step out.pushes
  pure out.enter

def leaveScene (req : TownLeaveSceneReq) : Program townOps (Option TownLeaveSceneResp) := do
  let (out, step) ← scene (.leaveScene req)
  sendPushes step out.pushes
  pure out.leave

def leaveSession (sessionId : UInt32) : Program townOps Unit := do
  let (out, step) ← scene (.leaveSession sessionId)
  sendPushes step out.pushes

def updateState (sessionId : UInt32) (push : TownPlayerStatePush) : Program townOps Unit := do
  let (out, step) ← scene (.updateState sessionId push)
  sendPushes step out.pushes

end TownShared

end AxmolFighter.Town
