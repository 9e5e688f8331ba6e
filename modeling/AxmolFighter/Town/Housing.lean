import AxmolFighter.Town.Invariant

/-!
# Every seat is in a scene that exists

What holds of the manager's maps after any calls at all, also after a session was taken over: a key's scene
exists, and whoever `player_scenes` names is in the scene named there. So an enter request is always answered,
and a player that has just entered leaves when its session asks for it.
-/

namespace AxmolFighter.Town.SceneManager

structure Housed (m : SceneManager) : Prop where
  scene : ∀ key s, m.scenesByKey.get key = some s → ∃ scene, m.scenes.get s = some scene
  bounded : ∀ s scene, m.scenes.get s = some scene → s.toNat ≤ m.nextSceneId.toNat
  seat : ∀ p s, m.playerScenes.get p = some s →
    ∃ scene player, m.scenes.get s = some scene ∧ scene.players.get p = some player

variable {m : SceneManager}

theorem Housed.players (h : m.Housed) {s : UInt64} {scene : Scene} (hscene : m.scenes.get s = some scene)
    (players : Table Int64 Player) {playerScenes : Table Int64 UInt64} (sessionPlayers : Table UInt32 Int64)
    (hseat : ∀ p t, playerScenes.get p = some t →
      if t = s then ∃ player, players.get p = some player else m.playerScenes.get p = some t) :
    Housed { m with
      scenes := m.scenes.insert s { scene with players }
      playerScenes, sessionPlayers } := by
  constructor
  · intro key t hkey
    by_cases ht : t = s
    · exact ⟨_, by rw [ht]; exact Table.get_insert_self ..⟩
    · obtain ⟨scene', hscene'⟩ := h.scene key t hkey
      exact ⟨scene', (Table.get_insert_ne _ _ ht).trans hscene'⟩
  · intro t scene' hscene'
    rw [Table.get_insert] at hscene'
    split_ifs at hscene' with ht
    · rw [ht]
      exact h.bounded s scene hscene
    · exact h.bounded t scene' hscene'
  · intro p t hp
    have hp' := hseat p t hp
    split_ifs at hp' with ht
    · obtain ⟨player, hplayer⟩ := hp'
      exact ⟨_, player, by rw [ht]; exact Table.get_insert_self .., hplayer⟩
    · obtain ⟨scene', player, hscene', hplayer⟩ := h.seat p t hp'
      exact ⟨scene', player, (Table.get_insert_ne _ _ ht).trans hscene', hplayer⟩

theorem Housed.sit (h : m.Housed) {s : UInt64} {scene : Scene} (hscene : m.scenes.get s = some scene)
    (p : Int64) (player : Player) {playerScenes : Table Int64 UInt64} (sessionPlayers : Table UInt32 Int64)
    (hself : playerScenes.get p = some s)
    (hothers : ∀ q, q ≠ p → playerScenes.get q = m.playerScenes.get q) :
    Housed { m with
      scenes := m.scenes.insert s { scene with players := scene.players.insert p player }
      playerScenes, sessionPlayers } := by
  refine h.players hscene _ _ fun q t hq => ?_
  by_cases hqp : q = p
  · subst hqp
    rw [hself] at hq
    rw [if_pos (Option.some.inj hq).symm]
    exact ⟨_, Table.get_insert_self ..⟩
  · rw [hothers q hqp] at hq
    split_ifs with ht
    · obtain ⟨scene', other, hscene', hother⟩ := h.seat q t hq
      rw [ht, hscene] at hscene'
      cases hscene'
      exact ⟨other, (Table.get_insert_ne _ _ hqp).trans hother⟩
    · exact hq

theorem Housed.removePlayer_eq (h : m.Housed) {p : Int64} {s : UInt64} (hp : m.playerScenes.get p = some s)
    (b : PushBatch) : ∃ scene player, m.scenes.get s = some scene ∧ scene.players.get p = some player ∧
      (m.removePlayer p b).1 = { m with
        scenes := m.scenes.insert s { scene with players := scene.players.remove p }
        playerScenes := m.playerScenes.remove p
        sessionPlayers := m.sessionPlayers.remove player.sessionId } := by
  obtain ⟨scene, player, hscene, hplayer⟩ := h.seat p s hp
  exact ⟨scene, player, hscene, hplayer, by simp [removePlayer, hp, hscene, hplayer]⟩

theorem removePlayer_absent {p : Int64} (hp : m.playerScenes.get p = none) (b : PushBatch) :
    m.removePlayer p b = (m, b) := by
  simp [removePlayer, hp]

theorem Housed.removePlayer (h : m.Housed) (p : Int64) (b : PushBatch) : (m.removePlayer p b).1.Housed := by
  rcases hp : m.playerScenes.get p with _ | s
  · rw [removePlayer_absent hp]
    exact h
  · obtain ⟨scene, player, hscene, -, heq⟩ := h.removePlayer_eq hp b
    rw [heq]
    refine h.players hscene _ _ fun q t hq => ?_
    rw [Table.get_remove, Option.ite_none_left_eq_some] at hq
    obtain ⟨hqp, hq⟩ := hq
    split_ifs with ht
    · obtain ⟨scene', other, hscene', hother⟩ := h.seat q t hq
      rw [ht, hscene] at hscene'
      cases hscene'
      exact ⟨other, (Table.get_remove_ne _ hqp).trans hother⟩
    · exact hq

theorem removePlayer_self (m : SceneManager) (p : Int64) (b : PushBatch) :
    (m.removePlayer p b).1.playerScenes.get p = none := by
  unfold SceneManager.removePlayer
  split
  · next hp => exact hp
  · dsimp only
    split
    · exact Table.get_remove_self ..
    · split <;> exact Table.get_remove_self ..

theorem removePlayer_scenes (h : m.Housed) (p : Int64) (b : PushBatch) {s : UInt64} {scene : Scene}
    (hscene : m.scenes.get s = some scene) : ∃ scene', (m.removePlayer p b).1.scenes.get s = some scene' := by
  rcases hp : m.playerScenes.get p with _ | t
  · rw [removePlayer_absent hp]
    exact ⟨scene, hscene⟩
  · obtain ⟨old, player, -, -, heq⟩ := h.removePlayer_eq hp b
    rw [heq]
    by_cases hs : s = t
    · exact ⟨_, by rw [hs]; exact Table.get_insert_self ..⟩
    · exact ⟨scene, (Table.get_insert_ne _ _ hs).trans hscene⟩

theorem Housed.standUp (h : m.Housed) (x : UInt32) (p : Int64) : (m.standUp x p).1.Housed := by
  rcases standUp_cases m x p with ⟨old, -, -, heq⟩ | ⟨-, heq⟩
  · rw [heq]
    exact h.removePlayer old {}
  · rw [heq]
    exact h

theorem standUp_scenes (h : m.Housed) (x : UInt32) (p : Int64) {s : UInt64} {scene : Scene}
    (hscene : m.scenes.get s = some scene) : ∃ scene', (m.standUp x p).1.scenes.get s = some scene' := by
  rcases standUp_cases m x p with ⟨old, -, -, heq⟩ | ⟨-, heq⟩
  · rw [heq]
    exact removePlayer_scenes h old {} hscene
  · rw [heq]
    exact ⟨scene, hscene⟩

theorem Housed.ensureScene (h : m.Housed) (hlt : m.nextSceneId.toNat < 2 ^ 64 - 1) (key : SceneKey) :
    (m.ensureScene key).1.Housed ∧ (m.ensureScene key).1.playerScenes = m.playerScenes ∧
      (m.ensureScene key).1.sessionPlayers = m.sessionPlayers ∧
        ∃ scene, (m.ensureScene key).1.scenes.get (m.ensureScene key).2 = some scene := by
  unfold SceneManager.ensureScene
  rcases hkey : m.scenesByKey.get key with _ | s
  · have hold : ∀ s scene, m.scenes.get s = some scene → s ≠ saturatingSucc m.nextSceneId := by
      rintro s scene hscene rfl
      have hle := h.bounded _ scene hscene
      rw [saturatingSucc_toNat hlt] at hle
      omega
    refine ⟨⟨?_, ?_, ?_⟩, rfl, rfl, _, Table.get_insert_self ..⟩
    · intro k t hk
      rw [Table.get_insert] at hk
      split_ifs at hk with hkk
      · cases hk
        exact ⟨_, Table.get_insert_self ..⟩
      · obtain ⟨scene, hscene⟩ := h.scene k t hk
        exact ⟨scene, (Table.get_insert_ne _ _ (hold t scene hscene)).trans hscene⟩
    · intro t scene hscene
      rw [Table.get_insert] at hscene
      split_ifs at hscene with ht
      · rw [ht]
      · exact (h.bounded t scene hscene).trans (le_saturatingSucc _)
    · intro p t hp
      obtain ⟨scene, player, hscene, hplayer⟩ := h.seat p t hp
      exact ⟨scene, player, (Table.get_insert_ne _ _ (hold t scene hscene)).trans hscene, hplayer⟩
  · exact ⟨h, rfl, rfl, h.scene key s hkey⟩

/-- An enter request for a scene: it is answered, and the player is in the scene, on the session. -/
theorem Housed.enterScene (h : m.Housed) (hlt : m.nextSceneId.toNat < 2 ^ 64 - 1) {req : TownEnterSceneReq}
    {key : SceneKey} (hkey : SceneKey.fromParts req.type req.mapId req.ownerUid = .ok key)
    (instanceId : UInt32) : ∃ m' r, m.enterScene instanceId req = some (m', r) ∧ m'.Housed ∧
      r.response.code = 0 ∧ r.response.townInstanceId = instanceId ∧
      m'.playerScenes.get req.playerId = some (m.ensureScene key).2 ∧
      m'.sessionPlayers.get req.sessionId = some req.playerId := by
  obtain ⟨hensured, hplayers, -, scene, hscene⟩ := h.ensureScene hlt key
  rw [SceneManager.enterScene, hkey]
  dsimp only
  generalize m.ensureScene key = ensured at hensured hplayers hscene
  obtain ⟨m₁, s⟩ := ensured
  dsimp only at hensured hplayers hscene ⊢
  split_ifs with hthere
  · -- the player is in the scene already
    obtain ⟨scene', old, hscene', hold⟩ := hensured.seat req.playerId s hthere
    rw [hscene] at hscene'
    cases hscene'
    simp only [updatePlayerInScene, enterResponse, hscene, Option.bind_eq_bind, Option.bind_some,
      TownEnterSceneReq.enteringState, hold, Table.get_insert_self]
    refine ⟨_, _, rfl, ?_, rfl, rfl, hthere, Table.get_insert_self ..⟩
    exact hensured.sit hscene _ _ _ hthere fun q _ => rfl
  · -- whoever was on the session and the player leave, and the player sits down
    obtain ⟨scene₂, hscene₂⟩ := standUp_scenes hensured req.sessionId req.playerId hscene
    have hstood := hensured.standUp req.sessionId req.playerId
    generalize m₁.standUp req.sessionId req.playerId = stood at hscene₂ hstood
    obtain ⟨m₂, b₂⟩ := stood
    dsimp only at hscene₂ hstood ⊢
    obtain ⟨scene₃, hscene₃⟩ := removePlayer_scenes hstood req.playerId b₂ hscene₂
    have hleft := hstood.removePlayer req.playerId b₂
    generalize m₂.removePlayer req.playerId b₂ = left at hscene₃ hleft
    obtain ⟨m₃, b₃⟩ := left
    dsimp only at hscene₃ hleft ⊢
    simp only [sitDown, enterResponse, hscene₃, Option.bind_eq_bind, Option.bind_some, Table.get_insert_self]
    refine ⟨_, _, rfl, ?_, rfl, rfl, Table.get_insert_self .., Table.get_insert_self ..⟩
    exact hleft.sit hscene₃ _ _ _ (Table.get_insert_self ..) fun q hqp => Table.get_insert_ne _ _ hqp

theorem leaveScene_playerScenes (m : SceneManager) (req : TownLeaveSceneReq) :
    (m.leaveScene req).1.playerScenes.get req.playerId =
      if m.sessionPlayers.get req.sessionId = some req.playerId then none
      else m.playerScenes.get req.playerId := by
  rcases leaveScene_cases m req with ⟨hx, heq, -⟩ | ⟨hx, heq, -⟩
  · rw [if_pos hx, heq]
    exact removePlayer_self m _ {}
  · rw [if_neg hx, heq]

/-! ### Runs -/

theorem Housed.start : Housed {} :=
  ⟨fun _ _ h => by simp at h, fun _ _ h => by simp at h, fun _ _ h => by simp at h⟩

theorem Housed.updateState (h : m.Housed) (x : UInt32) (push : TownPlayerStatePush) :
    (m.updateState x push).1.Housed := by
  unfold SceneManager.updateState
  split
  · exact h
  · next p _ =>
      split
      · exact h
      · next s hs =>
          dsimp only
          split
          · exact h
          · next scene hscene =>
              split
              · exact h
              · exact h.sit hscene _ _ _ hs fun q _ => rfl

theorem Housed.exec {m' : SceneManager} {op : SceneOp} (h : m.Housed)
    (hlt : m.nextSceneId.toNat < 2 ^ 64 - 1) (hstep : SceneStep m op m') : m'.Housed := by
  obtain ⟨out, hout⟩ := hstep
  cases op with
  | enterScene instanceId req =>
      simp only [SceneManager.exec, Option.map_eq_some_iff] at hout
      obtain ⟨⟨m₁, r⟩, henter, heq⟩ := hout
      cases heq
      rcases hkey : SceneKey.fromParts req.type req.mapId req.ownerUid with message | key
      · rw [enterScene_invalid hkey] at henter
        cases henter
        exact h
      · obtain ⟨m₂, r₂, heq, hhoused, -⟩ := h.enterScene hlt hkey instanceId
        rw [heq] at henter
        cases henter
        exact hhoused
  | leaveScene req =>
      simp only [SceneManager.exec, Option.some.injEq, Prod.mk.injEq] at hout
      rw [← hout.1]
      rcases leaveScene_cases m req with ⟨-, heq, -⟩ | ⟨-, heq, -⟩
      · rw [heq]
        exact h.removePlayer _ {}
      · rw [heq]
        exact h
  | leaveSession x =>
      simp only [SceneManager.exec, Option.some.injEq, Prod.mk.injEq] at hout
      rw [← hout.1]
      rcases hx : m.sessionPlayers.get x with _ | p
      · rw [leaveSession_none hx]
        exact h
      · rw [leaveSession_some hx]
        exact h.removePlayer p {}
  | updateState x push =>
      simp only [SceneManager.exec, Option.some.injEq, Prod.mk.injEq] at hout
      rw [← hout.1]
      exact h.updateState x push
  | clear =>
      cases hout
      exact ⟨fun _ _ h => by simp [SceneManager.clear] at h, fun _ _ h => by simp [SceneManager.clear] at h,
        fun _ _ h => by simp [SceneManager.clear] at h⟩

/-- In every state that a town's calls lead to while it has scene ids left. -/
theorem housed_of_run {trace : List (SceneManager × SceneOp)} (hrun : Run SceneStep {} trace m)
    (hlt : m.nextSceneId.toNat < 2 ^ 64 - 1) : m.Housed := by
  refine hrun.invariant_of (fun s _ => s.nextSceneId.toNat < 2 ^ 64 - 1) Housed (fun e he => ?_) .start
    fun s op s' h hlt hstep => h.exec hlt hstep
  exact (hrun.le_of_mem (fun s => s.nextSceneId.toNat) (fun _ _ _ => le_exec) he).trans_lt hlt

end AxmolFighter.Town.SceneManager
