import AxmolFighter.Lib.Run
import AxmolFighter.Town.Operations

/-!
# The representation invariant of the scene manager

Every state that represents a seating has consistent maps. All operations keep that, with one
exception: a player that re-enters its scene on a session that still holds somebody else. The scene
switch makes that somebody leave first; the re-entry (`updatePlayerInScene`) only redirects the
session, so the other player stays in the scene with nothing that maps back to it.
-/

namespace AxmolFighter.Town

/-- One call of the manager, whatever it hands back. -/
def SceneStep (m : SceneManager) (op : SceneOp) (m' : SceneManager) : Prop :=
  ∃ out, m.exec op = some (m', out)

/-- The four maps of the manager agree with each other. -/
structure SceneManager.RepInv (m : SceneManager) : Prop where
  playerScenes : ∀ p s, m.playerScenes.get p = some s ↔
    ∃ scene player, m.scenes.get s = some scene ∧ scene.players.get p = some player
  sessionPlayers : ∀ x p, m.sessionPlayers.get x = some p ↔
    ∃ s scene player, m.playerScenes.get p = some s ∧ m.scenes.get s = some scene ∧
      scene.players.get p = some player ∧ player.sessionId = x
  injective : ∀ k k' s, m.scenesByKey.get k = some s → m.scenesByKey.get k' = some s → k = k'
  info : ∀ s scene, m.scenes.get s = some scene →
    ∃ k, m.scenesByKey.get k = some s ∧ scene.info = k.sceneInfo

namespace SceneManager

variable {m : SceneManager} {σ : Seating}

/-! ### What the invariant says -/

theorem RepInv.scene_unique (h : m.RepInv) {p : Int64} {s t : UInt64} {a b : Scene}
    {player other : Player} (ha : m.scenes.get s = some a) (hp : a.players.get p = some player)
    (hb : m.scenes.get t = some b) (hq : b.players.get p = some other) : s = t := by
  have hs := (h.playerScenes p s).2 ⟨a, player, ha, hp⟩
  have ht := (h.playerScenes p t).2 ⟨b, other, hb, hq⟩
  exact Option.some.inj (hs.symm.trans ht)

theorem RepInv.maps_back (h : m.RepInv) {p : Int64} {s : UInt64} {scene : Scene} {player : Player}
    (hscene : m.scenes.get s = some scene) (hp : scene.players.get p = some player) :
    m.sessionPlayers.get player.sessionId = some p :=
  (h.sessionPlayers _ p).2
    ⟨s, scene, player, (h.playerScenes p s).2 ⟨scene, player, hscene, hp⟩, hscene, hp, rfl⟩

theorem RepInv.session_unique (h : m.RepInv) {p q : Int64} {s t : UInt64} {a b : Scene}
    {player other : Player} (ha : m.scenes.get s = some a) (hp : a.players.get p = some player)
    (hb : m.scenes.get t = some b) (hq : b.players.get q = some other)
    (hsession : player.sessionId = other.sessionId) : p = q := by
  have hx := h.maps_back ha hp
  rw [hsession, h.maps_back hb hq] at hx
  exact (Option.some.inj hx).symm

theorem RepInv.of_represents (h : m.Represents σ) (hkeyed : m.Keyed) : m.RepInv := by
  have hplayer : ∀ p s, m.playerScenes.get p = some s ↔
      ∃ scene player, m.scenes.get s = some scene ∧ scene.players.get p = some player := by
    intro p s
    rw [h.playerScene, Option.map_eq_some_iff]
    constructor
    · rintro ⟨⟨s, player⟩, hp, rfl⟩
      obtain ⟨scene, hscene⟩ := h.scene p s player hp
      exact ⟨scene, player, hscene, (h.players_get hscene).2 hp⟩
    · rintro ⟨scene, player, hscene, hp⟩
      exact ⟨(s, player), (h.players_get hscene).1 hp, rfl⟩
  refine ⟨hplayer, fun x p => ?_, hkeyed.injective, fun s scene hscene => ?_⟩
  · rw [h.session]
    constructor
    · rintro ⟨s, player, hp, hsession⟩
      obtain ⟨scene, hscene⟩ := h.scene p s player hp
      have hin := (h.players_get hscene).2 hp
      exact ⟨s, scene, player, (hplayer p s).2 ⟨scene, player, hscene, hin⟩, hscene, hin, hsession⟩
    · rintro ⟨s, scene, player, -, hscene, hin, hsession⟩
      exact ⟨s, player, (h.players_get hscene).1 hin, hsession⟩
  · obtain ⟨k, hk⟩ := hkeyed.keyed s _ (info_eq_some.2 ⟨scene, hscene, rfl⟩)
    obtain ⟨scene', hscene', hinfo⟩ := info_eq_some.1 (hkeyed.info k s hk)
    rw [hscene] at hscene'
    cases hscene'
    exact ⟨k, hk, hinfo⟩

/-! ### Runs -/

/-- The maps represent some seating. -/
def Consistent (m : SceneManager) : Prop := m.Keyed ∧ ∃ σ, m.Represents σ

theorem Consistent.start : Consistent {} := ⟨clear_keyed {}, _, clear_represents {}⟩

/-- The call is not a re-entry on a session that holds somebody else. -/
def Orderly (m : SceneManager) : SceneOp → Prop
  | .enterScene _ req => ¬ m.SameSceneTakeover req
  | _ => True

instance (m : SceneManager) : ∀ op, Decidable (m.Orderly op)
  | .enterScene _ req => inferInstanceAs (Decidable (¬ m.SameSceneTakeover req))
  | .leaveScene _ | .leaveSession _ | .updateState _ _ | .clear => inferInstanceAs (Decidable True)

theorem removePlayer_nextSceneId (m : SceneManager) (p : Int64) (b : PushBatch) :
    (m.removePlayer p b).1.nextSceneId = m.nextSceneId := by
  unfold removePlayer
  split
  · rfl
  · dsimp only
    split
    · rfl
    · split <;> rfl

theorem standUp_nextSceneId (m : SceneManager) (x : UInt32) (p : Int64) :
    (m.standUp x p).1.nextSceneId = m.nextSceneId := by
  rcases standUp_cases m x p with ⟨old, -, -, heq⟩ | ⟨-, heq⟩
  · rw [heq, removePlayer_nextSceneId]
  · rw [heq]

theorem sitDown_nextSceneId {m' : SceneManager} {instanceId : UInt32} {s : UInt64} {x : UInt32}
    {p : Int64} {state : PlayerState} {b : PushBatch} {r : EnterSceneResult}
    (heq : m.sitDown instanceId s x p state b = some (m', r)) : m'.nextSceneId = m.nextSceneId := by
  simp only [sitDown, Option.bind_eq_bind, Option.bind_eq_some_iff] at heq
  obtain ⟨scene, -, resp, -, heq⟩ := heq
  cases heq
  rfl

theorem updatePlayerInScene_nextSceneId {m' : SceneManager} {instanceId : UInt32} {s : UInt64}
    {x : UInt32} {state : PlayerState} {r : EnterSceneResult}
    (heq : m.updatePlayerInScene instanceId s x state = some (m', r)) :
    m'.nextSceneId = m.nextSceneId := by
  simp only [updatePlayerInScene, Option.bind_eq_bind, Option.bind_eq_some_iff] at heq
  obtain ⟨scene, -, resp, -, heq⟩ := heq
  cases heq
  split <;> rfl

theorem le_exec {m' : SceneManager} {op : SceneOp} (hstep : SceneStep m op m') :
    m.nextSceneId.toNat ≤ m'.nextSceneId.toNat := by
  obtain ⟨out, hout⟩ := hstep
  cases op with
  | enterScene instanceId req =>
      simp only [exec, Option.map_eq_some_iff] at hout
      obtain ⟨⟨m₁, r⟩, henter, heq⟩ := hout
      cases heq
      rcases hkey : SceneKey.fromParts req.type req.mapId req.ownerUid with message | key
      · rw [enterScene_invalid hkey] at henter
        cases henter
        exact le_rfl
      · have hle := le_ensureScene m key
        rw [enterScene, hkey] at henter
        dsimp only at henter
        split_ifs at henter with hthere
        · rw [updatePlayerInScene_nextSceneId henter]
          exact hle
        · rw [sitDown_nextSceneId henter, removePlayer_nextSceneId, standUp_nextSceneId]
          exact hle
  | leaveScene req =>
      simp only [exec, Option.some.injEq, Prod.mk.injEq] at hout
      rw [← hout.1]
      rcases leaveScene_cases m req with ⟨-, heq, -⟩ | ⟨-, heq, -⟩
      · rw [heq, removePlayer_nextSceneId]
      · rw [heq]
  | leaveSession x =>
      simp only [exec, Option.some.injEq, Prod.mk.injEq] at hout
      rw [← hout.1]
      rcases hx : m.sessionPlayers.get x with _ | p
      · rw [leaveSession_none hx]
      · rw [leaveSession_some hx, removePlayer_nextSceneId]
  | updateState x push =>
      simp only [exec, Option.some.injEq, Prod.mk.injEq] at hout
      rw [← hout.1, updateState]
      repeat' split
      all_goals exact le_rfl
  | clear =>
      cases hout
      exact le_rfl

theorem Consistent.exec {m' : SceneManager} {op : SceneOp} (h : m.Consistent)
    (hlt : (∃ instanceId req, op = .enterScene instanceId req) → m.nextSceneId.toNat < 2 ^ 64 - 1)
    (hok : m.Orderly op) (hstep : SceneStep m op m') : m'.Consistent := by
  obtain ⟨hkeyed, σ, hrep⟩ := h
  obtain ⟨out, hout⟩ := hstep
  have hremove : ∀ p, (m.removePlayer p {}).1.Consistent := fun p =>
    ⟨(removePlayer_sameScenes hrep p {}).keyed hkeyed, _, removePlayer_represents hrep p {}⟩
  cases op with
  | enterScene instanceId req =>
      simp only [SceneManager.exec, Option.map_eq_some_iff] at hout
      obtain ⟨⟨m₁, r⟩, henter, heq⟩ := hout
      cases heq
      rcases hkey : SceneKey.fromParts req.type req.mapId req.ownerUid with message | key
      · rw [enterScene_invalid hkey] at henter
        cases henter
        exact ⟨hkeyed, σ, hrep⟩
      · obtain ⟨s, m₁, r, heq, hentry⟩ := enterScene_spec hrep hkeyed (hlt ⟨_, _, rfl⟩) hkey hok instanceId
        rw [heq] at henter
        cases henter
        exact ⟨hentry.keyed, _, hentry.represents⟩
  | leaveScene req =>
      simp only [SceneManager.exec, Option.some.injEq, Prod.mk.injEq] at hout
      rw [← hout.1]
      rcases leaveScene_cases m req with ⟨-, heq, -⟩ | ⟨-, heq, -⟩
      · rw [heq]
        exact hremove _
      · rw [heq]
        exact ⟨hkeyed, σ, hrep⟩
  | leaveSession x =>
      simp only [SceneManager.exec, Option.some.injEq, Prod.mk.injEq] at hout
      rw [← hout.1]
      rcases hx : m.sessionPlayers.get x with _ | p
      · rw [leaveSession_none hx]
        exact ⟨hkeyed, σ, hrep⟩
      · rw [leaveSession_some hx]
        exact hremove p
  | updateState x push =>
      simp only [SceneManager.exec, Option.some.injEq, Prod.mk.injEq] at hout
      rw [← hout.1]
      rcases hrep.session_cases x with ⟨p, s, player, -, hp, hsession⟩ | hx
      · obtain ⟨state, b, -, -, hrep', hsame, -⟩ := updateState_spec hrep hp hsession push
        exact ⟨hsame.keyed hkeyed, _, hrep'⟩
      · rw [updateState_none hx]
        exact ⟨hkeyed, σ, hrep⟩
  | clear =>
      cases hout
      exact ⟨clear_keyed m, _, clear_represents m⟩

/-! ### Who is seated -/

theorem removePlayer_sessionPlayers (m : SceneManager) (p : Int64) (b : PushBatch) {x : UInt32} {q : Int64}
    (h : (m.removePlayer p b).1.sessionPlayers.get x = some q) : m.sessionPlayers.get x = some q := by
  unfold removePlayer at h
  split at h
  · exact h
  · dsimp only at h
    split at h
    · exact h
    · split at h
      · exact h
      · rw [Table.get_remove] at h
        split_ifs at h
        exact h

theorem standUp_sessionPlayers (m : SceneManager) (y : UInt32) (p : Int64) {x : UInt32} {q : Int64}
    (h : (m.standUp y p).1.sessionPlayers.get x = some q) : m.sessionPlayers.get x = some q := by
  rcases standUp_cases m y p with ⟨old, -, -, heq⟩ | ⟨-, heq⟩
  · rw [heq] at h
    exact removePlayer_sessionPlayers m old {} h
  · rwa [heq] at h

theorem enterScene_sessionPlayers {m' : SceneManager} {instanceId : UInt32} {req : TownEnterSceneReq}
    {r : EnterSceneResult} (henter : m.enterScene instanceId req = some (m', r)) {x : UInt32} {q : Int64}
    (hx : m'.sessionPlayers.get x = some q) (hne : x ≠ req.sessionId) :
    m.sessionPlayers.get x = some q := by
  rcases hkey : SceneKey.fromParts req.type req.mapId req.ownerUid with message | key
  · rw [enterScene_invalid hkey] at henter
    cases henter
    exact hx
  · have hensure : (m.ensureScene key).1.sessionPlayers = m.sessionPlayers := by
      unfold ensureScene
      split <;> rfl
    rw [enterScene, hkey] at henter
    dsimp only at henter
    rw [← hensure]
    split_ifs at henter with hthere
    · simp only [updatePlayerInScene, Option.bind_eq_bind, Option.bind_eq_some_iff] at henter
      obtain ⟨scene, -, resp, -, heq⟩ := henter
      cases heq
      split at hx
      · dsimp only at hx
        rw [Table.get_insert_ne _ _ hne, Table.get_remove] at hx
        split_ifs at hx
        exact hx
      · exact hx
    · simp only [sitDown, Option.bind_eq_bind, Option.bind_eq_some_iff] at henter
      obtain ⟨scene, -, resp, -, heq⟩ := henter
      cases heq
      dsimp only at hx
      rw [Table.get_insert_ne _ _ hne] at hx
      exact standUp_sessionPlayers _ _ _ (removePlayer_sessionPlayers _ _ _ hx)

theorem exec_sessionPlayers {m' : SceneManager} {op : SceneOp} (hstep : SceneStep m op m') {x : UInt32}
    {q : Int64} (hx : m'.sessionPlayers.get x = some q) :
    m.sessionPlayers.get x = some q ∨ ∃ instanceId req, op = .enterScene instanceId req ∧
      (∃ key, SceneKey.fromParts req.type req.mapId req.ownerUid = .ok key) ∧ req.sessionId = x := by
  obtain ⟨out, hout⟩ := hstep
  cases op with
  | enterScene instanceId req =>
      simp only [exec, Option.map_eq_some_iff] at hout
      obtain ⟨⟨m₁, r⟩, henter, heq⟩ := hout
      cases heq
      by_cases hne : x = req.sessionId
      · rcases hkey : SceneKey.fromParts req.type req.mapId req.ownerUid with message | key
        · rw [enterScene_invalid hkey] at henter
          cases henter
          exact Or.inl hx
        · exact Or.inr ⟨instanceId, req, rfl, ⟨key, hkey⟩, hne.symm⟩
      · exact Or.inl (enterScene_sessionPlayers henter hx hne)
  | leaveScene req =>
      simp only [exec, Option.some.injEq, Prod.mk.injEq] at hout
      rw [← hout.1] at hx
      rcases leaveScene_cases m req with ⟨-, heq, -⟩ | ⟨-, heq, -⟩
      · rw [heq] at hx
        exact Or.inl (removePlayer_sessionPlayers m _ _ hx)
      · rw [heq] at hx
        exact Or.inl hx
  | leaveSession y =>
      simp only [exec, Option.some.injEq, Prod.mk.injEq] at hout
      rw [← hout.1] at hx
      rcases hy : m.sessionPlayers.get y with _ | p
      · rw [leaveSession_none hy] at hx
        exact Or.inl hx
      · rw [leaveSession_some hy] at hx
        exact Or.inl (removePlayer_sessionPlayers m _ _ hx)
  | updateState y push =>
      simp only [exec, Option.some.injEq, Prod.mk.injEq] at hout
      rw [← hout.1, updateState] at hx
      refine Or.inl ?_
      repeat' split at hx
      all_goals exact hx
  | clear =>
      cases hout
      cases hx

theorem Consistent.leaveSession (h : m.Consistent) (x : UInt32) :
    (m.leaveSession x).1.sessionPlayers.get x = none := by
  obtain ⟨-, σ, hrep⟩ := h
  rcases hx : m.sessionPlayers.get x with _ | p
  · rw [leaveSession_none hx, hx]
  · rw [leaveSession_some hx, Option.eq_none_iff_forall_ne_some]
    intro q hq
    obtain ⟨s, player, hseat, -⟩ := ((removePlayer_represents hrep p {}).session x q).1 hq
    have hsame := removePlayer_sessionPlayers m p {} hq
    rw [hx] at hsame
    cases hsame
    rw [Seating.leave_self] at hseat
    cases hseat

theorem Consistent.nobody (h : m.Consistent) {x : UInt32} (hx : m.sessionPlayers.get x = none)
    {s : UInt64} {scene : Scene} (hscene : m.scenes.get s = some scene) {p : Int64} {player : Player}
    (hp : scene.players.get p = some player) : player.sessionId ≠ x := by
  obtain ⟨hkeyed, σ, hrep⟩ := h
  rintro rfl
  have hback := (RepInv.of_represents hrep hkeyed).maps_back hscene hp
  rw [hx] at hback
  cases hback

/-! ### The maps agree -/

/-- In a run in which no player re-enters its scene on somebody else's session, the maps agree. -/
theorem repInv_of_run {trace : List (SceneManager × SceneOp)} (hrun : Run SceneStep {} trace m)
    (hlt : m.nextSceneId.toNat < 2 ^ 64 - 1) (hok : ∀ e ∈ trace, e.1.Orderly e.2) : m.RepInv := by
  have hbound : ∀ e ∈ trace, e.1.nextSceneId.toNat < 2 ^ 64 - 1 := fun e he =>
    (hrun.le_of_mem (fun m => m.nextSceneId.toNat) (fun _ _ _ => le_exec) he).trans_lt hlt
  obtain ⟨hkeyed, σ, hrep⟩ := hrun.invariant_of
    (fun m op => m.Orderly op ∧ m.nextSceneId.toNat < 2 ^ 64 - 1) Consistent
    (fun e he => ⟨hok e he, hbound e he⟩) Consistent.start
    fun _ _ _ h hstep hnext => h.exec (fun _ => hstep.2) hstep.1 hnext
  exact RepInv.of_represents hrep hkeyed

/-- The condition is exact: such a re-entry always breaks the invariant. -/
theorem takeover_not_repInv (h : m.Represents σ) {req : TownEnterSceneReq}
    (htake : m.SameSceneTakeover req) {instanceId : UInt32} {m' : SceneManager}
    (hstep : SceneStep m (.enterScene instanceId req) m') : ¬ m'.RepInv := by
  obtain ⟨key, hkey, ⟨s, hs, hp⟩, q, hq, hne⟩ := htake
  obtain ⟨out, hout⟩ := hstep
  have hok : SceneKey.fromParts req.type req.mapId req.ownerUid = .ok key := by
    rcases hcase : SceneKey.fromParts req.type req.mapId req.ownerUid with message | k
    · rw [hcase] at hkey
      cases hkey
    · rw [hcase] at hkey
      cases hkey
      rfl
  have hensure : m.ensureScene key = (m, s) := by rw [ensureScene, hs]
  obtain ⟨⟨t, player⟩, hseat, rfl⟩ := Option.map_eq_some_iff.1 ((h.playerScene _).symm.trans hp)
  obtain ⟨scene, hscene⟩ := h.scene _ t player hseat
  obtain ⟨u, other, hother, hsession⟩ := (h.session _ q).1 hq
  obtain ⟨old, hold⟩ := h.scene q u other hother
  have hin := (h.players_get hold).2 hother
  have hplayer : scene.players.get req.enteringState.playerId = some player :=
    (h.players_get hscene).2 hseat
  obtain ⟨r, hupdate⟩ := updatePlayerInScene_eq req.sessionId _ hscene hplayer instanceId
  simp only [exec, enterScene, hok, hensure, hp, if_true, hupdate, Option.map_some,
    Option.some.injEq, Prod.mk.injEq] at hout
  obtain ⟨rfl, -⟩ := hout
  intro hinv
  have hback : ∃ scene', (m.scenes.insert t { scene with
      players := scene.players.insert req.playerId ⟨req.sessionId, req.enteringState⟩ }).get u =
        some scene' ∧ scene'.players.get q = some other := by
    by_cases hu : u = t
    · subst hu
      rw [hscene] at hold
      cases hold
      exact ⟨_, Table.get_insert_self .., (Table.get_insert_ne _ _ hne).trans hin⟩
    · exact ⟨old, (Table.get_insert_ne _ _ hu).trans hold, hin⟩
  obtain ⟨scene', hscene', hin'⟩ := hback
  have hmaps := hinv.maps_back hscene' hin'
  rw [hsession] at hmaps
  exact hne (Option.some.inj (hmaps.symm.trans (Table.get_insert_self ..)))

/-- Player `p` enters map 1 on session `x`. -/
def enterMapOne (x : UInt32) (p : Int64) : SceneOp :=
  .enterScene 0 { sessionId := x, playerId := p, type := 1, mapId := 1, ownerUid := 0, state := none }

/-- The record of a list of calls on a new manager. -/
def record (ops : List SceneOp) : Option (List (SceneManager × SceneOp) × SceneManager) :=
  Run.record (fun m op => (m.exec op).map Prod.fst) {} ops

theorem run_of_record {ops : List SceneOp} {trace : List (SceneManager × SceneOp)}
    (h : record ops = some (trace, m)) : Run SceneStep {} trace m := by
  refine Run.of_record (fun m op m' hexec => ?_) h
  obtain ⟨⟨m', out⟩, hout, rfl⟩ := Option.map_eq_some_iff.1 hexec
  exact ⟨out, hout⟩

theorem repInv_of_run_two_players :
    ∃ r, record [enterMapOne 1 1, enterMapOne 2 2] = some r ∧ r.2.RepInv := by
  have h : ∃ r, record [enterMapOne 1 1, enterMapOne 2 2] = some r ∧
      r.2.nextSceneId.toNat < 2 ^ 64 - 1 ∧ ∀ e ∈ r.1, e.1.Orderly e.2 := by decide
  obtain ⟨⟨trace, m⟩, hrecord, hlt, hok⟩ := h
  exact ⟨_, hrecord, repInv_of_run (run_of_record hrecord) hlt hok⟩

/-- Two players in one scene, and the first one's session re-enters as the second player: the first
player keeps a seat on that session, which now maps to the second. -/
theorem ghost_of_takeover :
    ∃ trace m, Run SceneStep {} trace m ∧ m.nextSceneId.toNat < 2 ^ 64 - 1 ∧ ¬ m.RepInv := by
  have h : ∃ r, record [enterMapOne 1 1, enterMapOne 2 2, enterMapOne 1 2] = some r ∧
      r.2.nextSceneId.toNat < 2 ^ 64 - 1 ∧ (∃ scene, r.2.scenes.get 1 = some scene ∧
        ∃ player, scene.players.get 1 = some player ∧ player.sessionId = 1) ∧
      r.2.sessionPlayers.get 1 = some 2 := by decide
  obtain ⟨⟨trace, m⟩, hrecord, hlt, ⟨scene, hscene, player, hplayer, hsession⟩, hmap⟩ := h
  refine ⟨trace, m, run_of_record hrecord, hlt, fun hinv => ?_⟩
  have hback := hinv.maps_back hscene hplayer
  rw [hsession, hmap] at hback
  exact absurd (Option.some.inj hback) (by decide)

end SceneManager

end AxmolFighter.Town
