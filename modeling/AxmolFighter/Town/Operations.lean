import AxmolFighter.Town.Seating

/-!
# What the scene operations do to the seating

One specification per operation of `SceneManager`: the seating it leads to, the scenes it keeps, and
who is sent what. Later modules use these and never unfold an operation.
-/

namespace AxmolFighter.Town

theorem u64Max_toNat : u64Max.toNat = 2 ^ 64 - 1 := rfl

theorem saturatingSucc_toNat {n : UInt64} (h : n.toNat < 2 ^ 64 - 1) :
    (saturatingSucc n).toNat = n.toNat + 1 := by
  have hne : n ≠ u64Max := by
    rintro rfl
    rw [u64Max_toNat] at h
    omega
  rw [saturatingSucc, if_neg hne, UInt64.toNat_add, UInt64.toNat_one]
  omega

theorem le_saturatingSucc (n : UInt64) : n.toNat ≤ (saturatingSucc n).toNat := by
  by_cases h : n.toNat < 2 ^ 64 - 1
  · rw [saturatingSucc_toNat h]
    omega
  · have hmax : n = u64Max := by
      apply UInt64.toNat_inj.1
      have := n.toNat_lt
      rw [u64Max_toNat]
      omega
    rw [saturatingSucc, if_pos hmax]

namespace SceneManager

variable {m : SceneManager} {σ : Seating}

/-! ### Scenes -/

/-- What `ensureScene` returns: the scene of the key, created empty if there was none. -/
structure Ensured (m : SceneManager) (σ : Seating) (key : SceneKey) (m' : SceneManager)
    (s : UInt64) : Prop where
  represents : m'.Represents σ
  keyed : m'.Keyed
  byKey : m'.scenesByKey.get key = some s
  scene : ∃ scene, m'.scenes.get s = some scene
  occupied : ∀ p player, σ p = some (s, player) → m.scenesByKey.get key = some s
  playerScenes : m'.playerScenes = m.playerScenes
  sessionPlayers : m'.sessionPlayers = m.sessionPlayers

theorem fresh_scene (hkeyed : m.Keyed) (hlt : m.nextSceneId.toNat < 2 ^ 64 - 1) :
    m.scenes.get (saturatingSucc m.nextSceneId) = none := by
  rw [Option.eq_none_iff_forall_ne_some]
  intro scene hscene
  obtain ⟨key, hkey⟩ := hkeyed.keyed _ scene.info (info_eq_some.2 ⟨scene, hscene, rfl⟩)
  have hbound := hkeyed.bounded key _ hkey
  rw [saturatingSucc_toNat hlt] at hbound
  omega

theorem ensureScene_spec (h : m.Represents σ) (hkeyed : m.Keyed)
    (hlt : m.nextSceneId.toNat < 2 ^ 64 - 1) (key : SceneKey) :
    Ensured m σ key (m.ensureScene key).1 (m.ensureScene key).2 := by
  unfold ensureScene
  rcases hkey : m.scenesByKey.get key with _ | s
  · -- a fresh id: no scene and no seat has it
    have hfresh := fresh_scene hkeyed hlt
    have hnoseat : ∀ p player, σ p ≠ some (saturatingSucc m.nextSceneId, player) := by
      intro p player hp
      obtain ⟨scene, hscene⟩ := h.scene p _ player hp
      rw [hfresh] at hscene
      cases hscene
    refine ⟨⟨h.playerScene, fun s scene hscene p => ?_, fun p s player hp => ?_, h.session⟩,
      ⟨fun k k' s hk hk' => ?_, fun k s hk => ?_, fun s i hi => ?_, fun k s hk => ?_⟩,
      Table.get_insert_self .., ⟨_, Table.get_insert_self ..⟩,
      fun p player hp => absurd hp (hnoseat p player), rfl, rfl⟩
    · rw [Table.get_insert] at hscene
      split_ifs at hscene with hs
      · cases hscene
        subst hs
        rw [Table.get_empty, eq_comm, Option.eq_none_iff_forall_ne_some]
        intro player hin
        exact hnoseat p player (Seating.inScene_eq_some.1 hin)
      · exact h.inScene s scene hscene p
    · obtain ⟨scene, hscene⟩ := h.scene p s player hp
      refine ⟨scene, ?_⟩
      rw [Table.get_insert_ne _ _ (by rintro rfl; exact hnoseat p player hp)]
      exact hscene
    · have hold : ∀ k, (m.scenesByKey.insert key (saturatingSucc m.nextSceneId)).get k = some s →
          s = saturatingSucc m.nextSceneId → k = key := by
        intro k hk hs
        rw [Table.get_insert] at hk
        split_ifs at hk with hkk
        · exact hkk
        · have hbound := hkeyed.bounded k s hk
          rw [hs, saturatingSucc_toNat hlt] at hbound
          omega
      by_cases hs : s = saturatingSucc m.nextSceneId
      · rw [hold k hk hs, hold k' hk' hs]
      · rw [Table.get_insert] at hk hk'
        split_ifs at hk with hkk
        · exact absurd (Option.some.inj hk).symm hs
        · split_ifs at hk' with hkk'
          · exact absurd (Option.some.inj hk').symm hs
          · exact hkeyed.injective k k' s hk hk'
    · rw [Table.get_insert] at hk
      split_ifs at hk with hkk
      · cases hk
        subst hkk
        simp [info]
      · have hne : s ≠ saturatingSucc m.nextSceneId := by
          rintro rfl
          have hi := hkeyed.info k _ hk
          rw [info, hfresh] at hi
          cases hi
        simpa [info, hne] using hkeyed.info k s hk
    · by_cases hs : s = saturatingSucc m.nextSceneId
      · exact ⟨key, by rw [hs]; exact Table.get_insert_self ..⟩
      · obtain ⟨k, hk⟩ := hkeyed.keyed s i (by simpa [info, hs] using hi)
        refine ⟨k, ?_⟩
        rw [Table.get_insert_ne _ _ (by rintro rfl; rw [hkey] at hk; cases hk)]
        exact hk
    · rw [Table.get_insert] at hk
      split_ifs at hk with hkk
      · cases hk
        exact le_rfl
      · exact le_trans (hkeyed.bounded k s hk) (le_saturatingSucc _)
  · obtain ⟨scene, hscene, -⟩ := info_eq_some.1 (hkeyed.info key s hkey)
    exact ⟨h, hkeyed, hkey, ⟨scene, hscene⟩, fun _ _ _ => hkey, rfl, rfl⟩

theorem le_ensureScene (m : SceneManager) (key : SceneKey) :
    m.nextSceneId.toNat ≤ (m.ensureScene key).1.nextSceneId.toNat := by
  unfold ensureScene
  split
  · exact le_rfl
  · exact le_saturatingSucc _

/-! ### Responses and pushes -/

theorem enterResponse_spec (h : m.Represents σ) {s : UInt64} {scene : Scene}
    (hscene : m.scenes.get s = some scene) (instanceId : UInt32) :
    ∃ resp, m.enterResponse instanceId s = some resp ∧ resp.code = 0 ∧
      ∀ st, st ∈ resp.players ↔ ∃ p player, σ p = some (s, player) ∧ player.state = st := by
  refine ⟨_, by rw [enterResponse, hscene]; rfl, rfl, fun st => ?_⟩
  simp only [List.mem_map, Table.mem_values, h.players_get hscene]
  constructor
  · rintro ⟨player, ⟨p, hp⟩, rfl⟩
    exact ⟨p, player, hp, rfl⟩
  · rintro ⟨p, player, hp, rfl⟩
    exact ⟨player, ⟨p, hp⟩, rfl⟩

/-- A state goes to everybody in the scene on another session. -/
theorem mem_statePushes (h : m.Represents σ) {s : UInt64} {scene : Scene}
    (hscene : m.scenes.get s = some scene) (x : UInt32) (state : PlayerState) (y : UInt32)
    (st : PlayerState) :
    (y, st) ∈ statePushes scene x state ↔
      st = state ∧ y ≠ x ∧ ∃ p player, σ p = some (s, player) ∧ player.sessionId = y := by
  simp only [statePushes, List.mem_map, List.mem_filter, Table.mem_values, h.players_get hscene,
    decide_eq_true_eq, Prod.mk.injEq]
  constructor
  · rintro ⟨player, ⟨⟨p, hp⟩, hne⟩, rfl, rfl⟩
    exact ⟨rfl, hne, p, player, hp, rfl⟩
  · rintro ⟨rfl, hne, p, player, hp, rfl⟩
    exact ⟨player, ⟨⟨p, hp⟩, hne⟩, rfl, rfl⟩

theorem removePlayer_pushes (m : SceneManager) (p : Int64) (b : PushBatch) :
    (m.removePlayer p b).2.playerEnter = b.playerEnter ∧
      (m.removePlayer p b).2.playerState = b.playerState := by
  unfold removePlayer
  split
  · exact ⟨rfl, rfl⟩
  · dsimp only
    split
    · exact ⟨rfl, rfl⟩
    · split <;> exact ⟨rfl, rfl⟩

/-! ### Entering -/

/-- The new maps of a re-entry; it cannot fail. -/
theorem updatePlayerInScene_eq (x : UInt32) (state : PlayerState) {s : UInt64} {scene : Scene}
    {old : Player} (hscene : m.scenes.get s = some scene)
    (hplayer : scene.players.get state.playerId = some old) (instanceId : UInt32) :
    ∃ r, m.updatePlayerInScene instanceId s x state = some
      ({ m with
          scenes := m.scenes.insert s
            { scene with players := scene.players.insert state.playerId { sessionId := x, state } }
          sessionPlayers := (m.sessionPlayers.remove old.sessionId).insert x state.playerId }, r) := by
  simp only [updatePlayerInScene, enterResponse, hscene, hplayer, Option.bind_eq_bind,
    Option.bind_some, Table.get_insert_self]
  exact ⟨_, rfl⟩

/-- Re-entering the same scene on a session that holds nobody else. -/
theorem updatePlayerInScene_spec (h : m.Represents σ) (x : UInt32) (state : PlayerState) {s : UInt64}
    {old : Player} (hold : σ state.playerId = some (s, old))
    (hx : ∀ q, m.sessionPlayers.get x = some q → q = state.playerId) (instanceId : UInt32) :
    ∃ m' r, m.updatePlayerInScene instanceId s x state = some (m', r) ∧
      m'.Represents (σ.enter s x state.playerId state) ∧ m.SameScenes m' ∧ r.response.code = 0 ∧
      (∀ st, st ∈ r.response.players ↔ ∃ p player,
        σ.enter s x state.playerId state p = some (s, player) ∧ player.state = st) ∧
      r.pushes.playerEnter = [] ∧ r.pushes.playerLeave = [] ∧
      ∀ y st, (y, st) ∈ r.pushes.playerState ↔ st = state ∧ y ≠ x ∧ ∃ p player,
        σ.enter s x state.playerId state p = some (s, player) ∧ player.sessionId = y := by
  obtain ⟨scene, hscene⟩ := h.scene _ s old hold
  have hplayer := (h.players_get hscene).2 hold
  have hfree := h.free hx
  rw [Seating.enter, Seating.release_of_free hfree]
  let scene' : Scene :=
    { scene with players := scene.players.insert state.playerId { sessionId := x, state } }
  let m' : SceneManager := { m with
    scenes := m.scenes.insert s scene'
    sessionPlayers := (m.sessionPlayers.remove old.sessionId).insert x state.playerId }
  have hget' : m'.scenes.get s = some scene' := Table.get_insert_self ..
  have h' : m'.Represents (σ.sit s state.playerId { sessionId := x, state }) := by
    refine represents_sit h hscene (fun t other ht => ?_) hfree rfl (fun q => ?_) fun y q => ?_
    · rw [hold] at ht
      cases ht
      rfl
    · split_ifs with hq
      · rw [hq, h.playerScene, hold]
        rfl
      · rfl
    · -- the old session of the player is the only one that was mapped to it
      have hmapped : m.sessionPlayers.get y = some q → (q = state.playerId ↔ y = old.sessionId) := by
        intro hy
        obtain ⟨t, other, hq, rfl⟩ := (h.session y q).1 hy
        constructor
        · rintro rfl
          rw [hold] at hq
          cases hq
          rfl
        · exact h.unique hq hold
      dsimp only
      rw [Table.get_insert, Table.get_remove]
      by_cases hyx : y = x
      · simp [hyx, eq_comm]
      · rw [if_neg hyx]
        by_cases hyo : y = old.sessionId
        · rw [if_pos hyo]
          simp only [reduceCtorEq, hyx, false_and, false_or, ne_eq, not_false_eq_true, true_and,
            false_iff, not_and]
          exact fun hne hy => hne ((hmapped hy).2 hyo)
        · rw [if_neg hyo]
          simp only [hyx, false_and, false_or, ne_eq, not_false_eq_true, true_and]
          exact ⟨fun hy => ⟨fun hq => hyo ((hmapped hy).1 hq), hy⟩, fun hy => hy.2⟩
  obtain ⟨resp, hresp, hcode, hplayers⟩ := enterResponse_spec h' hget' instanceId
  refine ⟨m', ⟨resp, { playerState := statePushes scene' x state }⟩, ?_, h',
    sameScenes_players hscene .., hcode, hplayers, rfl, rfl, mem_statePushes h' hget' x state⟩
  have hm' : m'.enterResponse instanceId s = some resp := hresp
  simp only [updatePlayerInScene, hscene, hplayer, Option.bind_eq_bind, Option.bind_some]
  rw [show enterResponse _ instanceId s = some resp from hm']
  rfl

/-- Taking a seat in a scene, with no seat before and on a session nobody holds. -/
theorem sitDown_spec (h : m.Represents σ) {s : UInt64} {scene : Scene} {x : UInt32} {p : Int64}
    (hscene : m.scenes.get s = some scene) (hp : σ p = none)
    (hfree : ∀ q t other, q ≠ p → σ q = some (t, other) → other.sessionId ≠ x)
    (instanceId : UInt32) (state : PlayerState) (b : PushBatch) :
    ∃ m' r, m.sitDown instanceId s x p state b = some (m', r) ∧
      m'.Represents (σ.sit s p { sessionId := x, state }) ∧ m.SameScenes m' ∧ r.response.code = 0 ∧
      (∀ st, st ∈ r.response.players ↔ ∃ q player,
        σ.sit s p { sessionId := x, state } q = some (s, player) ∧ player.state = st) ∧
      r.pushes.playerLeave = b.playerLeave ∧ r.pushes.playerState = b.playerState ∧
      ∀ y st, (y, st) ∈ r.pushes.playerEnter ↔ (y, st) ∈ b.playerEnter ∨
        (st = state ∧ σ.Neighbour s p y) := by
  let scene' : Scene := { scene with players := scene.players.insert p { sessionId := x, state } }
  let m' : SceneManager := { m with
    scenes := m.scenes.insert s scene'
    playerScenes := m.playerScenes.insert p s
    sessionPlayers := m.sessionPlayers.insert x p }
  have hget' : m'.scenes.get s = some scene' := Table.get_insert_self ..
  have h' : m'.Represents (σ.sit s p { sessionId := x, state }) := by
    refine represents_sit h hscene (fun t other ht => ?_) hfree rfl
      (fun q => Table.get_insert ..) fun y q => ?_
    · rw [hp] at ht
      cases ht
    · dsimp only
      rw [Table.get_insert]
      by_cases hyx : y = x
      · simp [hyx, eq_comm]
      · rw [if_neg hyx]
        simp only [hyx, false_and, false_or, ne_eq, not_false_eq_true, true_and, iff_and_self]
        rintro hy rfl
        obtain ⟨t, other, hq, -⟩ := (h.session y q).1 hy
        rw [hp] at hq
        cases hq
  obtain ⟨resp, hresp, hcode, hplayers⟩ := enterResponse_spec h' hget' instanceId
  refine ⟨m', ⟨resp, { b with playerEnter := b.playerEnter ++
      scene.players.values.map fun player => (player.sessionId, state) }⟩, ?_, h',
    sameScenes_players hscene .., hcode, hplayers, rfl, rfl, fun y st => ?_⟩
  · simp only [sitDown, hscene, Option.bind_eq_bind, Option.bind_some]
    rw [show enterResponse _ instanceId s = some resp from hresp]
    rfl
  · simp only [List.mem_append, List.mem_map, Table.mem_values, h.players_get hscene, Prod.mk.injEq]
    refine or_congr_right ⟨?_, ?_⟩
    · rintro ⟨player, ⟨q, hq⟩, rfl, rfl⟩
      refine ⟨rfl, q, player, ?_, hq, rfl⟩
      rintro rfl
      rw [hp] at hq
      cases hq
    · rintro ⟨rfl, q, player, -, hq, rfl⟩
      exact ⟨player, ⟨q, hq⟩, rfl, rfl⟩

/-- What entering scene `s` on `req` does: the seating, the answer, and who is told what. -/
structure Entry (m : SceneManager) (σ : Seating) (req : TownEnterSceneReq) (s : UInt64)
    (m' : SceneManager) (r : EnterSceneResult) : Prop where
  represents : m'.Represents (σ.enter s req.sessionId req.playerId req.enteringState)
  keyed : m'.Keyed
  code : r.response.code = 0
  players : ∀ st, st ∈ r.response.players ↔ ∃ q player,
    σ.enter s req.sessionId req.playerId req.enteringState q = some (s, player) ∧ player.state = st
  playerEnter : ∀ y st, (y, st) ∈ r.pushes.playerEnter ↔ ¬ σ.SitsIn s req.playerId ∧
    st = req.enteringState ∧ (σ.release req.sessionId req.playerId).Neighbour s req.playerId y
  playerLeave : ∀ y q, (y, q) ∈ r.pushes.playerLeave ↔ ¬ σ.SitsIn s req.playerId ∧
    ((q ≠ req.playerId ∧ ∃ t player, σ q = some (t, player) ∧ player.sessionId = req.sessionId ∧
      σ.Neighbour t q y) ∨
    (q = req.playerId ∧ ∃ t player, σ req.playerId = some (t, player) ∧
      (σ.release req.sessionId req.playerId).Neighbour t req.playerId y))
  playerState : ∀ y st, (y, st) ∈ r.pushes.playerState ↔ σ.SitsIn s req.playerId ∧
    st = req.enteringState ∧ y ≠ req.sessionId ∧ ∃ q player,
      σ.enter s req.sessionId req.playerId req.enteringState q = some (s, player) ∧
        player.sessionId = y

/-- A scene switch: whoever else the session held stands up, then the player, who then sits down. -/
theorem switch_spec (h : m.Represents σ) {s : UInt64} {scene : Scene}
    (hscene : m.scenes.get s = some scene) (instanceId : UInt32) (x : UInt32) (p : Int64)
    (state : PlayerState) :
    ∃ m' r, ((m.standUp x p).1.removePlayer p (m.standUp x p).2).1.sitDown instanceId s x p state
        ((m.standUp x p).1.removePlayer p (m.standUp x p).2).2 = some (m', r) ∧
      m'.Represents (σ.enter s x p state) ∧ m.SameScenes m' ∧ r.response.code = 0 ∧
      (∀ st, st ∈ r.response.players ↔ ∃ q player,
        σ.enter s x p state q = some (s, player) ∧ player.state = st) ∧
      (∀ y q, (y, q) ∈ r.pushes.playerLeave ↔
        (q ≠ p ∧ ∃ t player, σ q = some (t, player) ∧ player.sessionId = x ∧ σ.Neighbour t q y) ∨
        (q = p ∧ ∃ t player, σ p = some (t, player) ∧ (σ.release x p).Neighbour t p y)) ∧
      r.pushes.playerState = [] ∧
      ∀ y st, (y, st) ∈ r.pushes.playerEnter ↔ st = state ∧ (σ.release x p).Neighbour s p y := by
  have hup := standUp_represents h x p
  have hout := removePlayer_represents hup p (m.standUp x p).2
  have hsame := (standUp_sameScenes h x p).trans (removePlayer_sameScenes hup p (m.standUp x p).2)
  have hbatch : (m.standUp x p).2.playerEnter = [] ∧ (m.standUp x p).2.playerState = [] := by
    rcases standUp_cases m x p with ⟨old, -, -, heq⟩ | ⟨-, heq⟩
    · rw [heq]
      exact removePlayer_pushes m old {}
    · rw [heq]
      exact ⟨rfl, rfl⟩
  obtain ⟨henter, hstate⟩ := removePlayer_pushes (m.standUp x p).1 p (m.standUp x p).2
  obtain ⟨scene', hscene', -⟩ := info_eq_some.1 ((hsame.info s).trans (info_eq_some.2 ⟨_, hscene, rfl⟩))
  obtain ⟨m', r, heq, hrep, hkeep, hcode, hplayers, hleave, hst, hpush⟩ :=
    sitDown_spec hout hscene' (Seating.leave_self ..)
      (fun q t other hqp hq hsession => by
        rw [Seating.leave_ne _ hqp, Seating.release_eq_some] at hq
        exact (hq.2.resolve_left hqp) hsession)
      instanceId state _
  rw [Seating.leave_sit] at hrep hplayers
  refine ⟨m', r, heq, hrep, hsame.trans hkeep, hcode, hplayers, fun y q => ?_, ?_, fun y st => ?_⟩
  · rw [hleave, mem_removePlayer_leave hup, mem_standUp_leave h, Seating.release_self]
  · rw [hst, hstate, hbatch.2]
  · rw [hpush, henter, hbatch.1, Seating.neighbour_leave]
    simp

/-- A player is where the request wants it, but on a session that still holds somebody else. -/
def SameSceneTakeover (m : SceneManager) (req : TownEnterSceneReq) : Prop :=
  ∃ key, (SceneKey.fromParts req.type req.mapId req.ownerUid).toOption = some key ∧
    (∃ s, m.scenesByKey.get key = some s ∧ m.playerScenes.get req.playerId = some s) ∧
    ∃ q, m.sessionPlayers.get req.sessionId = some q ∧ q ≠ req.playerId

instance (m : SceneManager) (req : TownEnterSceneReq) : Decidable (m.SameSceneTakeover req) :=
  inferInstanceAs (Decidable (∃ key, _ = some key ∧ (∃ s, _ = some s ∧ _ = some s) ∧
    ∃ q, _ = some q ∧ q ≠ _))

theorem enterScene_invalid {req : TownEnterSceneReq} {message : String}
    (hkey : SceneKey.fromParts req.type req.mapId req.ownerUid = .error message)
    (instanceId : UInt32) : m.enterScene instanceId req = some (m, invalidTarget instanceId message) := by
  rw [enterScene, hkey]

/-- Entering a scene without taking the shortcut into it on somebody else's session. -/
theorem enterScene_spec (h : m.Represents σ) (hkeyed : m.Keyed)
    (hlt : m.nextSceneId.toNat < 2 ^ 64 - 1) {req : TownEnterSceneReq} {key : SceneKey}
    (hkey : SceneKey.fromParts req.type req.mapId req.ownerUid = .ok key)
    (hok : ¬ m.SameSceneTakeover req) (instanceId : UInt32) :
    ∃ s m' r, m.enterScene instanceId req = some (m', r) ∧ m.Entry σ req s m' r := by
  obtain ⟨m₁, s, hensure⟩ : ∃ m₁ s, m.ensureScene key = (m₁, s) := ⟨_, _, rfl⟩
  have hspec := ensureScene_spec h hkeyed hlt key
  rw [hensure] at hspec
  rw [enterScene, hkey]
  dsimp only
  rw [hensure]
  dsimp only
  have hsits : m₁.playerScenes.get req.playerId = some s ↔ σ.SitsIn s req.playerId := by
    rw [hspec.represents.playerScene, Option.map_eq_some_iff]
    constructor
    · rintro ⟨⟨t, player⟩, hp, rfl⟩
      exact ⟨player, hp⟩
    · rintro ⟨player, hp⟩
      exact ⟨_, hp, rfl⟩
  split_ifs with hthere
  · obtain ⟨player, hp⟩ := hsits.1 hthere
    have hx : ∀ q, m₁.sessionPlayers.get req.sessionId = some q → q = req.playerId := by
      intro q hq
      by_contra hne
      rw [hspec.playerScenes] at hthere
      rw [hspec.sessionPlayers] at hq
      refine hok ⟨key, ?_, ⟨s, hspec.occupied _ _ hp, hthere⟩, q, hq, hne⟩
      rw [hkey]
      rfl
    obtain ⟨m', r, heq, hrep, hsame, hcode, hplayers, henter, hleave, hstate⟩ :=
      updatePlayerInScene_spec hspec.represents _ req.enteringState hp hx instanceId
    have hin : σ.SitsIn s req.playerId := ⟨player, hp⟩
    refine ⟨s, m', r, heq, hrep, hsame.keyed hspec.keyed, hcode, hplayers, fun y st => ?_,
      fun y q => ?_, fun y st => ?_⟩
    · simp [henter, hin]
    · simp [hleave, hin]
    · rw [hstate, and_iff_right hin]
      rfl
  · obtain ⟨scene, hscene⟩ := hspec.scene
    obtain ⟨m', r, heq, hrep, hsame, hcode, hplayers, hleave, hstate, henter⟩ :=
      switch_spec hspec.represents hscene instanceId req.sessionId req.playerId req.enteringState
    have hout := mt hsits.2 hthere
    refine ⟨s, m', r, heq, hrep, hsame.keyed hspec.keyed, hcode, hplayers, fun y st => ?_,
      fun y q => ?_, fun y st => ?_⟩
    · rw [henter, and_iff_right hout]
    · rw [hleave, and_iff_right hout]
    · simp [hstate, hout]

/-! ### The other operations -/

theorem Represents.session_cases (h : m.Represents σ) (x : UInt32) :
    (∃ p s player, m.sessionPlayers.get x = some p ∧ σ p = some (s, player) ∧ player.sessionId = x) ∨
      m.sessionPlayers.get x = none := by
  rcases hx : m.sessionPlayers.get x with _ | p
  · exact Or.inr rfl
  · obtain ⟨s, player, hp, hsession⟩ := (h.session x p).1 hx
    exact Or.inl ⟨p, s, player, rfl, hp, hsession⟩

theorem leaveScene_cases (m : SceneManager) (req : TownLeaveSceneReq) :
    (m.sessionPlayers.get req.sessionId = some req.playerId ∧
      (m.leaveScene req).1 = (m.removePlayer req.playerId {}).1 ∧
      (m.leaveScene req).2.pushes = (m.removePlayer req.playerId {}).2) ∨
    (m.sessionPlayers.get req.sessionId ≠ some req.playerId ∧ (m.leaveScene req).1 = m ∧
      (m.leaveScene req).2.pushes = {}) := by
  unfold leaveScene
  rcases hx : m.sessionPlayers.get req.sessionId with _ | p
  · exact Or.inr ⟨by simp, rfl, rfl⟩
  · by_cases hp : p = req.playerId
    · subst hp
      exact Or.inl ⟨rfl, by simp, by simp⟩
    · exact Or.inr ⟨by simpa using hp, by simp [hp], by simp [hp]⟩

theorem leaveSession_some {x : UInt32} {p : Int64} (hx : m.sessionPlayers.get x = some p) :
    m.leaveSession x = m.removePlayer p {} := by
  rw [leaveSession, hx]

theorem leaveSession_none {x : UInt32} (hx : m.sessionPlayers.get x = none) :
    m.leaveSession x = (m, {}) := by
  rw [leaveSession, hx]

theorem updateState_none {x : UInt32} (hx : m.sessionPlayers.get x = none)
    (push : TownPlayerStatePush) : m.updateState x push = (m, {}) := by
  rw [updateState, hx]

theorem updateState_spec (h : m.Represents σ) {x : UInt32} {p : Int64} {s : UInt64} {player : Player}
    (hp : σ p = some (s, player)) (hsession : player.sessionId = x) (push : TownPlayerStatePush) :
    ∃ state b, (m.updateState x push).2 = { playerState := b } ∧ state.playerId = p ∧
      (m.updateState x push).1.Represents (σ.sit s p { player with state }) ∧
      m.SameScenes (m.updateState x push).1 ∧
      ∀ y st, (y, st) ∈ b ↔ st = state ∧ y ≠ x ∧ ∃ q other,
        σ.sit s p { player with state } q = some (s, other) ∧ other.sessionId = y := by
  obtain ⟨scene, hscene⟩ := h.scene p s player hp
  have hx : m.sessionPlayers.get x = some p := (h.session x p).2 ⟨s, player, hp, hsession⟩
  have hget : m.playerScenes.get p = some s := by rw [h.playerScene, hp]; rfl
  have hplayer := (h.players_get hscene).2 hp
  let state : PlayerState := { push.state.getD default with playerId := p }
  let scene' : Scene := { scene with players := scene.players.insert p { player with state } }
  let m' : SceneManager := { m with scenes := m.scenes.insert s scene' }
  have heq : m.updateState x push = (m', { playerState := statePushes scene' x state }) := by
    simp only [updateState, hx, hget, hscene, hplayer, state, scene', m']
  have h' : m'.Represents (σ.sit s p { player with state }) := by
    refine represents_sit h hscene (fun t other ht => ?_) (fun q t other hqp hq hsame => ?_) rfl
      (fun q => ?_) fun y q => ?_
    · rw [hp] at ht
      cases ht
      rfl
    · exact hqp (h.unique hq hp hsame)
    · split_ifs with hq
      · rw [hq]
        exact hget
      · rfl
    · dsimp only
      rw [hsession]
      by_cases hyx : y = x
      · subst hyx
        simp [m', hx, eq_comm]
      · simp only [m', hyx, false_and, false_or, ne_eq, not_false_eq_true, true_and, iff_and_self]
        rintro hy rfl
        obtain ⟨t, other, hq, hy⟩ := (h.session y q).1 hy
        rw [hp] at hq
        cases hq
        exact hyx (hy.symm.trans hsession)
  rw [heq]
  exact ⟨state, _, rfl, rfl, h', sameScenes_players hscene ..,
    mem_statePushes h' (Table.get_insert_self ..) x state⟩

theorem clear_represents (m : SceneManager) : m.clear.Represents fun _ => none := by
  refine ⟨fun p => Table.get_empty p, fun s scene hscene => ?_, fun p s player hp => ?_, fun x p => ?_⟩
  · rw [show m.clear.scenes.get s = none from Table.get_empty s] at hscene
    cases hscene
  · cases hp
  · rw [show m.clear.sessionPlayers.get x = none from Table.get_empty x]
    simp

theorem clear_keyed (m : SceneManager) : m.clear.Keyed := by
  have hnone : ∀ k, m.clear.scenesByKey.get k = none := fun k => Table.get_empty k
  refine ⟨fun k k' s hk => ?_, fun k s hk => ?_, fun s i hi => ?_, fun k s hk => ?_⟩
  · rw [hnone] at hk
    cases hk
  · rw [hnone] at hk
    cases hk
  · rw [info, show m.clear.scenes.get s = none from Table.get_empty s] at hi
    cases hi
  · rw [hnone] at hk
    cases hk

end SceneManager

end AxmolFighter.Town
