import AxmolFighter.Town.Scene

/-!
# What the scene maps stand for

A *seating* says for each player in which scene it is and on which session and with which state: the
purpose of the four maps. `Represents m σ` ties the maps of a manager to a seating, and each
operation of the manager is then one operation on seatings:

* `removePlayer` empties a seat (`Seating.leave`);
* `enterScene` gives the player a seat and takes away that of anybody else on its session
  (`Seating.enter`), unless it takes the shortcut of a player already in the scene while the session
  still holds somebody else, where the other one keeps a seat nobody maps to.

The key side (`Keyed`: which scene belongs to which key) is independent of the seats.
-/

namespace AxmolFighter.Town

/-- Who sits where. -/
abbrev Seating := Int64 → Option (UInt64 × Player)

namespace Seating

/-- The entry of player `p` in the table of scene `s`. -/
def inScene (σ : Seating) (s : UInt64) (p : Int64) : Option Player :=
  (σ p).bind fun seat => if seat.1 = s then some seat.2 else none

def leave (σ : Seating) (p : Int64) : Seating := Function.update σ p none

/-- Nobody but `p` keeps a seat on session `x`. -/
def release (σ : Seating) (x : UInt32) (p : Int64) : Seating := fun q =>
  if q = p then σ q else (σ q).filter fun seat => seat.2.sessionId ≠ x

def sit (σ : Seating) (s : UInt64) (p : Int64) (player : Player) : Seating :=
  Function.update σ p (some (s, player))

/-- Player `p` enters scene `s` on session `x`. -/
def enter (σ : Seating) (s : UInt64) (x : UInt32) (p : Int64) (state : PlayerState) : Seating :=
  (σ.release x p).sit s p { sessionId := x, state }

/-- Player `p` has a seat in scene `s`. -/
def SitsIn (σ : Seating) (s : UInt64) (p : Int64) : Prop := ∃ player, σ p = some (s, player)

/-- Session `y` holds somebody other than `p` in scene `s`. -/
def Neighbour (σ : Seating) (s : UInt64) (p : Int64) (y : UInt32) : Prop :=
  ∃ q player, q ≠ p ∧ σ q = some (s, player) ∧ player.sessionId = y

theorem inScene_eq_some {σ : Seating} {s : UInt64} {p : Int64} {player : Player} :
    σ.inScene s p = some player ↔ σ p = some (s, player) := by
  unfold inScene
  rcases σ p with _ | ⟨s', player'⟩
  · simp
  · by_cases h : s' = s <;> simp [h]

theorem inScene_congr {σ τ : Seating} {p : Int64} (h : τ p = σ p) (s : UInt64) :
    τ.inScene s p = σ.inScene s p := by
  rw [inScene, inScene, h]

theorem leave_self (σ : Seating) (p : Int64) : σ.leave p p = none := Function.update_self ..

theorem leave_ne (σ : Seating) {p q : Int64} (h : q ≠ p) : σ.leave p q = σ q :=
  Function.update_of_ne h ..

theorem sit_self (σ : Seating) (s : UInt64) (p : Int64) (player : Player) :
    σ.sit s p player p = some (s, player) := Function.update_self ..

theorem sit_ne (σ : Seating) {p q : Int64} (h : q ≠ p) (s : UInt64) (player : Player) :
    σ.sit s p player q = σ q := Function.update_of_ne h ..

theorem leave_eq_some {σ : Seating} {p q : Int64} {seat : UInt64 × Player} :
    σ.leave p q = some seat ↔ q ≠ p ∧ σ q = some seat := by
  by_cases h : q = p
  · subst h
    simp [leave_self]
  · simp [leave_ne σ h, h]

theorem release_self (σ : Seating) (x : UInt32) (p : Int64) : σ.release x p p = σ p := if_pos rfl

theorem release_of_free {σ : Seating} {x : UInt32} {p : Int64}
    (hfree : ∀ q s player, q ≠ p → σ q = some (s, player) → player.sessionId ≠ x) :
    σ.release x p = σ := by
  funext q
  unfold release
  split_ifs with hqp
  · rfl
  · rcases hq : σ q with _ | ⟨s, player⟩
    · rfl
    · simp [hfree q s player hqp hq]

theorem release_eq_some {σ : Seating} {x : UInt32} {p q : Int64} {seat : UInt64 × Player} :
    σ.release x p q = some seat ↔ σ q = some seat ∧ (q = p ∨ seat.2.sessionId ≠ x) := by
  unfold release
  split_ifs with hqp
  · simp [hqp]
  · simp [hqp, Option.filter_eq_some_iff]

theorem release_of_holder {σ : Seating} {x : UInt32} {p old : Int64} {s : UInt64} {player : Player}
    (hold : σ old = some (s, player)) (hsession : player.sessionId = x) (hne : old ≠ p)
    (hunique : ∀ q t other, σ q = some (t, other) → other.sessionId = x → q = old) :
    σ.release x p = σ.leave old := by
  funext q
  apply Option.ext
  rintro ⟨t, other⟩
  rw [release_eq_some, leave_eq_some]
  constructor
  · rintro ⟨hq, hor⟩
    refine ⟨?_, hq⟩
    rintro rfl
    rw [hold] at hq
    cases hq
    exact hor.elim hne fun h => h hsession
  · rintro ⟨hqold, hq⟩
    exact ⟨hq, Or.inr fun hx => hqold (hunique q t other hq hx)⟩

theorem sit_eq_some {σ : Seating} {s : UInt64} {p q : Int64} {player : Player}
    {seat : UInt64 × Player} :
    σ.sit s p player q = some seat ↔
      (q = p ∧ seat = (s, player)) ∨ (q ≠ p ∧ σ q = some seat) := by
  by_cases h : q = p
  · subst h
    simp [sit_self, eq_comm]
  · simp [sit_ne σ h, h]

theorem leave_empty {σ : Seating} {p : Int64} (h : σ p = none) : σ.leave p = σ := by
  rw [leave, ← h, Function.update_eq_self]

theorem neighbour_leave (σ : Seating) (s : UInt64) (p : Int64) (y : UInt32) :
    (σ.leave p).Neighbour s p y ↔ σ.Neighbour s p y := by
  simp only [Neighbour, leave_eq_some]
  constructor
  · rintro ⟨q, player, hqp, ⟨-, hq⟩, hy⟩
    exact ⟨q, player, hqp, hq, hy⟩
  · rintro ⟨q, player, hqp, hq, hy⟩
    exact ⟨q, player, hqp, ⟨hqp, hq⟩, hy⟩

theorem leave_sit (σ : Seating) (s : UInt64) (p : Int64) (player : Player) :
    (σ.leave p).sit s p player = σ.sit s p player := Function.update_idem ..

end Seating

/-- The maps of the manager hold exactly the seating. -/
structure SceneManager.Represents (m : SceneManager) (σ : Seating) : Prop where
  playerScene : ∀ p, m.playerScenes.get p = (σ p).map Prod.fst
  inScene : ∀ s scene, m.scenes.get s = some scene → ∀ p, scene.players.get p = σ.inScene s p
  scene : ∀ p s player, σ p = some (s, player) → ∃ scene, m.scenes.get s = some scene
  session : ∀ x p, m.sessionPlayers.get x = some p ↔ ∃ s player, σ p = some (s, player) ∧
    player.sessionId = x

/-- The scene's public information, if the scene exists. -/
def SceneManager.info (m : SceneManager) (s : UInt64) : Option SceneInfo :=
  (m.scenes.get s).map Scene.info

/-- Keys and scenes correspond one to one, and scene ids are never ahead of the counter. -/
structure SceneManager.Keyed (m : SceneManager) : Prop where
  injective : ∀ k k' s, m.scenesByKey.get k = some s → m.scenesByKey.get k' = some s → k = k'
  info : ∀ k s, m.scenesByKey.get k = some s → m.info s = some k.sceneInfo
  keyed : ∀ s i, m.info s = some i → ∃ k, m.scenesByKey.get k = some s
  bounded : ∀ k s, m.scenesByKey.get k = some s → s.toNat ≤ m.nextSceneId.toNat

/-- Two managers agree on everything but the seats. -/
structure SceneManager.SameScenes (m m' : SceneManager) : Prop where
  nextSceneId : m'.nextSceneId = m.nextSceneId
  scenesByKey : m'.scenesByKey = m.scenesByKey
  info : ∀ s, m'.info s = m.info s

namespace SceneManager

variable {m m' m'' : SceneManager} {σ : Seating}

theorem SameScenes.refl (m : SceneManager) : m.SameScenes m := ⟨rfl, rfl, fun _ => rfl⟩

theorem SameScenes.trans (h : m.SameScenes m') (h' : m'.SameScenes m'') : m.SameScenes m'' :=
  ⟨h'.nextSceneId.trans h.nextSceneId, h'.scenesByKey.trans h.scenesByKey,
    fun s => (h'.info s).trans (h.info s)⟩

theorem SameScenes.keyed (h : m.SameScenes m') (hkeyed : m.Keyed) : m'.Keyed := by
  refine ⟨fun k k' s => ?_, fun k s => ?_, fun s i => ?_, fun k s => ?_⟩
  · rw [h.scenesByKey]
    exact hkeyed.injective k k' s
  · rw [h.scenesByKey, h.info]
    exact hkeyed.info k s
  · rw [h.scenesByKey, h.info]
    exact hkeyed.keyed s i
  · rw [h.scenesByKey, h.nextSceneId]
    exact hkeyed.bounded k s

theorem info_eq_some {s : UInt64} {i : SceneInfo} :
    m.info s = some i ↔ ∃ scene, m.scenes.get s = some scene ∧ scene.info = i := by
  simp [info]

/-- Rewriting the players of one scene, and the other maps at will, keeps the scenes. -/
theorem sameScenes_players {s : UInt64} {scene : Scene} (hscene : m.scenes.get s = some scene)
    (players : Table Int64 Player) (playerScenes : Table Int64 UInt64)
    (sessionPlayers : Table UInt32 Int64) :
    m.SameScenes { m with
      scenes := m.scenes.insert s { scene with players }
      playerScenes, sessionPlayers } := by
  refine ⟨rfl, rfl, fun s' => ?_⟩
  by_cases h : s' = s
  · subst h
    simp [info, hscene]
  · simp [info, h]

theorem Represents.unique (h : m.Represents σ) {p q : Int64} {s t : UInt64} {a b : Player}
    (hp : σ p = some (s, a)) (hq : σ q = some (t, b)) (hsession : a.sessionId = b.sessionId) :
    p = q := by
  have h1 := (h.session a.sessionId p).2 ⟨s, a, hp, rfl⟩
  have h2 := (h.session a.sessionId q).2 ⟨t, b, hq, hsession.symm⟩
  exact Option.some.inj (h1.symm.trans h2)

/-! ### Removing a player -/

theorem Represents.players_get (h : m.Represents σ) {s : UInt64} {scene : Scene}
    (hscene : m.scenes.get s = some scene) {p : Int64} {player : Player} :
    scene.players.get p = some player ↔ σ p = some (s, player) := by
  rw [h.inScene s scene hscene, Seating.inScene_eq_some]

theorem removePlayer_none (h : m.Represents σ) {p : Int64} (hp : σ p = none) (b : PushBatch) :
    m.removePlayer p b = (m, b) := by
  have hget : m.playerScenes.get p = none := by rw [h.playerScene, hp]; rfl
  simp [removePlayer, hget]

theorem removePlayer_some (h : m.Represents σ) {p : Int64} {s : UInt64} {player : Player}
    {scene : Scene} (hp : σ p = some (s, player)) (hscene : m.scenes.get s = some scene)
    (b : PushBatch) :
    m.removePlayer p b =
      ({ m with
          scenes := m.scenes.insert s { scene with players := scene.players.remove p }
          playerScenes := m.playerScenes.remove p
          sessionPlayers := m.sessionPlayers.remove player.sessionId },
        { b with
          playerLeave := b.playerLeave ++
            (scene.players.remove p).values.map fun other => (other.sessionId, p) }) := by
  have hget : m.playerScenes.get p = some s := by rw [h.playerScene, hp]; rfl
  have hplayer : scene.players.get p = some player := (h.players_get hscene).2 hp
  simp [removePlayer, hget, hscene, hplayer]

theorem removePlayer_represents (h : m.Represents σ) (p : Int64) (b : PushBatch) :
    (m.removePlayer p b).1.Represents (σ.leave p) := by
  rcases hp : σ p with _ | ⟨s, player⟩
  · rw [removePlayer_none h hp, Seating.leave_empty hp]
    exact h
  · obtain ⟨scene, hscene⟩ := h.scene p s player hp
    rw [removePlayer_some h hp hscene]
    refine ⟨fun q => ?_, fun s' scene' hscene' q => ?_, fun q s' other hq => ?_, fun x q => ?_⟩
    · by_cases hqp : q = p
      · subst hqp
        simp [Seating.leave_self]
      · simp [Seating.leave_ne σ hqp, hqp, h.playerScene]
    · have hold : q ≠ p → ∀ old, m.scenes.get s' = some old →
          old.players.get q = (σ.leave p).inScene s' q := fun hqp old hget => by
        rw [Seating.inScene_congr (Seating.leave_ne σ hqp), h.inScene s' old hget]
      by_cases hs : s' = s
      · subst hs
        rw [Table.get_insert_self] at hscene'
        cases hscene'
        by_cases hqp : q = p
        · subst hqp
          simp [Seating.inScene, Seating.leave_self]
        · simpa [hqp] using hold hqp scene hscene
      · rw [Table.get_insert_ne _ _ hs] at hscene'
        by_cases hqp : q = p
        · subst hqp
          rw [h.inScene s' scene' hscene']
          simp [Seating.inScene, Seating.leave_self, hp, Ne.symm hs]
        · exact hold hqp scene' hscene'
    · obtain ⟨old, hold⟩ := h.scene q s' other (Seating.leave_eq_some.1 hq).2
      by_cases hs : s' = s
      · subst hs
        exact ⟨_, Table.get_insert_self ..⟩
      · exact ⟨old, by simpa [hs] using hold⟩
    · rw [Table.get_remove]
      constructor
      · intro hq
        split_ifs at hq with hx
        obtain ⟨s', other, hseat, hsession⟩ := (h.session x q).1 hq
        refine ⟨s', other, Seating.leave_eq_some.2 ⟨?_, hseat⟩, hsession⟩
        rintro rfl
        rw [hp] at hseat
        cases hseat
        exact hx hsession.symm
      · rintro ⟨s', other, hseat, rfl⟩
        obtain ⟨hqp, hseat⟩ := Seating.leave_eq_some.1 hseat
        rw [if_neg fun heq => hqp (h.unique hseat hp heq)]
        exact (h.session _ q).2 ⟨s', other, hseat, rfl⟩

theorem removePlayer_sameScenes (h : m.Represents σ) (p : Int64) (b : PushBatch) :
    m.SameScenes (m.removePlayer p b).1 := by
  rcases hp : σ p with _ | ⟨s, player⟩
  · rw [removePlayer_none h hp]
    exact .refl m
  · obtain ⟨scene, hscene⟩ := h.scene p s player hp
    rw [removePlayer_some h hp hscene]
    exact sameScenes_players hscene ..

theorem mem_removePlayer_leave (h : m.Represents σ) (p : Int64) (b : PushBatch) (y : UInt32)
    (q : Int64) :
    (y, q) ∈ (m.removePlayer p b).2.playerLeave ↔ (y, q) ∈ b.playerLeave ∨
      (q = p ∧ ∃ s player, σ p = some (s, player) ∧ σ.Neighbour s p y) := by
  rcases hp : σ p with _ | ⟨s, player⟩
  · rw [removePlayer_none h hp]
    simp
  · obtain ⟨scene, hscene⟩ := h.scene p s player hp
    rw [removePlayer_some h hp hscene]
    simp only [List.mem_append, List.mem_map, Table.mem_values, Prod.mk.injEq, Option.some.injEq]
    refine or_congr_right ⟨?_, ?_⟩
    · rintro ⟨other, ⟨p', hget⟩, hy, rfl⟩
      have hne : p' ≠ p := by
        rintro rfl
        rw [Table.get_remove_self] at hget
        cases hget
      rw [Table.get_remove_ne _ hne, h.players_get hscene] at hget
      exact ⟨rfl, s, player, ⟨rfl, rfl⟩, p', other, hne, hget, hy⟩
    · rintro ⟨rfl, s', player', ⟨rfl, rfl⟩, p', other, hne, hget, hy⟩
      refine ⟨other, ⟨p', ?_⟩, hy, rfl⟩
      rw [Table.get_remove_ne _ hne, h.players_get hscene]
      exact hget

/-! ### Giving a seat -/

/-- The effect of entering `player` as `p` in scene `s`, on a session nobody else holds: `p` either had
no seat or sat in the same scene. -/
theorem represents_sit (h : m.Represents σ) {s : UInt64} {scene : Scene} {p : Int64} {player : Player}
    (hscene : m.scenes.get s = some scene) (hseat : ∀ t other, σ p = some (t, other) → t = s)
    (hfree : ∀ q t other, q ≠ p → σ q = some (t, other) → other.sessionId ≠ player.sessionId)
    (hscenes : m'.scenes =
      m.scenes.insert s { scene with players := scene.players.insert p player })
    (hplayer : ∀ q, m'.playerScenes.get q = if q = p then some s else m.playerScenes.get q)
    (hsession : ∀ y q, m'.sessionPlayers.get y = some q ↔ (y = player.sessionId ∧ q = p) ∨
      (y ≠ player.sessionId ∧ q ≠ p ∧ m.sessionPlayers.get y = some q)) :
    m'.Represents (σ.sit s p player) := by
  refine ⟨fun q => ?_, fun s' scene' hscene' q => ?_, fun q s' other hq => ?_, fun y q => ?_⟩
  · rw [hplayer]
    by_cases hqp : q = p
    · subst hqp
      simp [Seating.sit_self]
    · simp [hqp, Seating.sit_ne σ hqp, h.playerScene]
  · have hother : q ≠ p → ∀ old, m.scenes.get s' = some old →
        old.players.get q = (σ.sit s p player).inScene s' q := fun hqp old hold => by
      rw [Seating.inScene_congr (Seating.sit_ne σ hqp ..), h.inScene s' old hold]
    rw [hscenes] at hscene'
    by_cases hs : s' = s
    · subst hs
      rw [Table.get_insert_self] at hscene'
      cases hscene'
      by_cases hqp : q = p
      · subst hqp
        simp [Seating.inScene, Seating.sit_self]
      · simpa [hqp] using hother hqp scene hscene
    · rw [Table.get_insert_ne _ _ hs] at hscene'
      by_cases hqp : q = p
      · subst hqp
        have hnone : σ.inScene s' q = none := by
          rw [Option.eq_none_iff_forall_ne_some]
          intro other hin
          exact hs (hseat s' other (Seating.inScene_eq_some.1 hin))
        rw [h.inScene s' scene' hscene', hnone]
        simp [Seating.inScene, Seating.sit_self, Ne.symm hs]
      · exact hother hqp scene' hscene'
  · have hexists : s' = s ∨ ∃ old, m.scenes.get s' = some old := by
      rcases Seating.sit_eq_some.1 hq with ⟨-, heq⟩ | ⟨-, hq⟩
      · exact Or.inl (congrArg Prod.fst heq)
      · exact Or.inr (h.scene q s' other hq)
    rw [hscenes]
    by_cases hs : s' = s
    · subst hs
      exact ⟨_, Table.get_insert_self ..⟩
    · obtain ⟨old, hold⟩ := hexists.resolve_left hs
      exact ⟨old, by simpa [hs] using hold⟩
  · rw [hsession]
    constructor
    · rintro (⟨rfl, rfl⟩ | ⟨-, hqp, hq⟩)
      · exact ⟨s, player, Seating.sit_self .., rfl⟩
      · obtain ⟨t, other, hseat', hy⟩ := (h.session y q).1 hq
        exact ⟨t, other, by rwa [Seating.sit_ne σ hqp], hy⟩
    · rintro ⟨t, other, hq, rfl⟩
      rcases Seating.sit_eq_some.1 hq with ⟨rfl, heq⟩ | ⟨hqp, hq⟩
      · cases heq
        exact Or.inl ⟨rfl, rfl⟩
      · exact Or.inr ⟨hfree q t other hqp hq, hqp, (h.session _ q).2 ⟨t, other, hq, rfl⟩⟩

theorem standUp_cases (m : SceneManager) (x : UInt32) (p : Int64) :
    (∃ old, m.sessionPlayers.get x = some old ∧ old ≠ p ∧ m.standUp x p = m.removePlayer old {}) ∨
    ((∀ old, m.sessionPlayers.get x = some old → old = p) ∧ m.standUp x p = (m, {})) := by
  unfold standUp
  rcases hx : m.sessionPlayers.get x with _ | old
  · exact Or.inr ⟨by simp, rfl⟩
  · by_cases hne : old = p
    · exact Or.inr ⟨by simp [hne], by simp [hne]⟩
    · exact Or.inl ⟨old, rfl, hne, by simp [hne]⟩

theorem Represents.free (h : m.Represents σ) {x : UInt32} {p : Int64}
    (hx : ∀ old, m.sessionPlayers.get x = some old → old = p) (q : Int64) (s : UInt64)
    (player : Player) (hqp : q ≠ p) (hq : σ q = some (s, player)) : player.sessionId ≠ x := by
  rintro rfl
  exact hqp (hx q ((h.session _ q).2 ⟨s, player, hq, rfl⟩))

theorem standUp_represents (h : m.Represents σ) (x : UInt32) (p : Int64) :
    (m.standUp x p).1.Represents (σ.release x p) := by
  rcases standUp_cases m x p with ⟨old, hx, hne, heq⟩ | ⟨hx, heq⟩
  · obtain ⟨s, player, hold, hsession⟩ := (h.session x old).1 hx
    rw [heq, Seating.release_of_holder hold hsession hne fun q t other hq hy =>
      h.unique hq hold (hy.trans hsession.symm)]
    exact removePlayer_represents h old {}
  · rw [heq, Seating.release_of_free (h.free hx)]
    exact h

theorem mem_standUp_leave (h : m.Represents σ) (x : UInt32) (p : Int64) (y : UInt32) (q : Int64) :
    (y, q) ∈ (m.standUp x p).2.playerLeave ↔ q ≠ p ∧ ∃ s player, σ q = some (s, player) ∧
      player.sessionId = x ∧ σ.Neighbour s q y := by
  rcases standUp_cases m x p with ⟨old, hx, hne, heq⟩ | ⟨hx, heq⟩
  · obtain ⟨s, player, hold, hsession⟩ := (h.session x old).1 hx
    rw [heq, mem_removePlayer_leave h]
    constructor
    · rintro (hnil | ⟨rfl, t, other, hq, hnear⟩)
      · cases hnil
      · rw [hold] at hq
        cases hq
        exact ⟨hne, s, player, hold, hsession, hnear⟩
    · rintro ⟨-, t, other, hq, hother, hnear⟩
      obtain rfl := h.unique hq hold (hother.trans hsession.symm)
      exact Or.inr ⟨rfl, t, other, hq, hnear⟩
  · rw [heq]
    constructor
    · intro hnil
      cases hnil
    · rintro ⟨hqp, s, player, hq, hsession, -⟩
      exact absurd hsession (h.free hx q s player hqp hq)

theorem standUp_sameScenes (h : m.Represents σ) (x : UInt32) (p : Int64) :
    m.SameScenes (m.standUp x p).1 := by
  rcases standUp_cases m x p with ⟨old, -, -, heq⟩ | ⟨-, heq⟩
  · rw [heq]
    exact removePlayer_sameScenes h old {}
  · rw [heq]
    exact .refl m

end SceneManager

end AxmolFighter.Town
