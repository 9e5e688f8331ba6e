import AxmolFighter.Lib.Bytes
import AxmolFighter.Lib.Table

/-!
# A battle room

`battle/BattleRoom.cpp`. The simulation is a library outside the repository: `Mugen World` is what the
rooms call of it, over an arbitrary type of worlds. A pointer to a world or an actor that may be null
is an `Option`.
-/

namespace AxmolFighter.Battle

/-- `PB::Types::BattlePlayerSpec`; the character id is never read. -/
structure BattlePlayerSpec where
  sessionId : UInt32
  playerId : Int64
  classId : Int32
  name : String
deriving DecidableEq

structure BattleRoomConfig where
  battleId : UInt32 := 0
  mapId : Int32 := 1
  randomSeed : UInt64 := 0
  mode : String := "duel"
  maxPlayers : UInt32 := 2
deriving DecidableEq

/-- A player that has taken its seat. -/
structure PlayerSlot where
  sessionId : UInt32
  playerId : Int64
  name : String
  classId : Int32
  actorId : UInt32
  lastClientFrame : UInt32 := 0
deriving DecidableEq

structure PlayerSpawnParams where
  playerId : Int64
  name : String

/-- `GameMapComponent`: where players start. -/
structure GameMap where
  spawnPoints : List (Int32 × Int32)
  scopeX : Int32
  scopeY : Int32
  scopeWidth : Int32
  scopeHeight : Int32

/-- What the rooms call of the simulation. -/
structure Mugen (World : Type) where
  invalidEntityId : UInt32
  init : UInt64 → Option World
  loadMap : World → Int32 → Option World
  resolvePlayableRoleId : Int32 → Int32
  /-- `Config::getRoleConfigById` finds one. -/
  hasRoleConfig : Int32 → Bool
  /-- The map component of the director's map entity. -/
  gameMap : World → Option GameMap
  /-- The new actor, made ready, if it could be spawned. -/
  spawnRolePlayerActor : World → Int32 → Int32 × Int32 → PlayerSpawnParams → World × Option UInt32
  /-- Writes the keys into the actor's input component, if both exist. -/
  setKeyDown : World → UInt32 → UInt32 → Option World
  update : World → Float32 → World
  serialize : World → Bytes

/-- A simulation in which everything succeeds; its world is the next entity id. -/
def Mugen.counting : Mugen UInt32 where
  invalidEntityId := 0
  init _ := some 1
  loadMap world _ := some world
  resolvePlayableRoleId classId := classId
  hasRoleConfig _ := true
  gameMap _ := none
  spawnRolePlayerActor world _ _ _ := (world + 1, some world)
  setKeyDown world _ _ := some world
  update world _ := world
  serialize _ := []

structure BattleRoom (World : Type) where
  config : BattleRoomConfig
  world : Option World
  players : Table UInt32 PlayerSlot := ∅
  serverFrame : UInt32 := 0
  elapsed : Float32 := 0

namespace BattleRoom

variable {World : Type} (G : Mugen World) (room : BattleRoom World)

/-- A new room, if its world can be set up. -/
def init (config : BattleRoomConfig) : Option (BattleRoom World) := do
  let world ← G.init config.randomSeed
  let world ← G.loadMap world config.mapId
  some { config, world := some world }

def battleId : UInt32 := room.config.battleId

def hasPlayer (sessionId : UInt32) : Bool := room.players.contains sessionId

def isFull : Bool := room.players.size ≥ room.config.maxPlayers.toNat

def isEmpty : Bool := room.players.size = 0

/-- Where the player of the next slot starts. -/
def resolveSpawnPoint (slotIndex : Nat) : Int32 × Int32 :=
  match room.world.bind G.gameMap with
  | none => (0, 0)
  | some map =>
      match map.spawnPoints with
      | (x, y) :: _ => (x + Int32.ofNat slotIndex * 200, y)
      | [] =>
          if slotIndex = 0 then (map.scopeX + map.scopeWidth / 4, map.scopeY + map.scopeHeight / 2)
          else (map.scopeX + map.scopeWidth * 3 / 4 + Int32.ofNat (slotIndex - 1) * 200,
            map.scopeY + map.scopeHeight / 2)

/-- Whether the player has a seat now; a failed spawn may still have touched the world. -/
def addPlayer (spec : BattlePlayerSpec) : BattleRoom World × Bool :=
  match room.world with
  | none => (room, false)
  | some world =>
      if room.isFull then (room, false)
      else if room.hasPlayer spec.sessionId then (room, true)
      else
        let roleId := G.resolvePlayableRoleId spec.classId
        if !G.hasRoleConfig roleId then (room, false)
        else
          let spawn := room.resolveSpawnPoint G room.players.size
          let params := { playerId := spec.playerId, name := spec.name }
          match G.spawnRolePlayerActor world roleId spawn params with
          | (world, none) => ({ room with world := some world }, false)
          | (world, some actorId) =>
              let slot := {
                sessionId := spec.sessionId
                playerId := spec.playerId
                name := spec.name
                classId := spec.classId
                actorId }
              ({ room with
                  world := some world
                  players := room.players.insert spec.sessionId slot }, true)

def removePlayer (sessionId : UInt32) : BattleRoom World :=
  { room with players := room.players.remove sessionId }

def applyInput (sessionId clientFrame inputMask : UInt32) : BattleRoom World :=
  match room.players.get sessionId, room.world with
  | some slot, some world =>
      match G.setKeyDown world slot.actorId inputMask with
      | none => room
      | some world =>
          { room with
            world := some world
            players := room.players.insert sessionId { slot with lastClientFrame := clientFrame } }
  | _, _ => room

def tick (fixedDt : Float32) : BattleRoom World :=
  match room.world with
  | none => room
  | some world =>
      if room.isEmpty then room
      else
        { room with
          elapsed := room.elapsed + fixedDt
          serverFrame := room.serverFrame + 1
          world := some (G.update world fixedDt) }

def serializeWorld : Bytes := (room.world.map G.serialize).getD []

def actorIdForSession (sessionId : UInt32) : UInt32 :=
  ((room.players.get sessionId).map PlayerSlot.actorId).getD G.invalidEntityId

/-! ### Seats -/

variable {G room}

theorem init_eq_some {config : BattleRoomConfig} (h : init G config = some room) :
    ∃ world, room = { config, world := some world } := by
  simp only [init, Option.bind_eq_bind, Option.bind_eq_some_iff] at h
  obtain ⟨_, -, world, -, heq⟩ := h
  exact ⟨world, (Option.some.inj heq).symm⟩

theorem hasPlayer_iff {sessionId : UInt32} :
    room.hasPlayer sessionId = true ↔ ∃ slot, room.players.get sessionId = some slot :=
  Table.contains_iff ..

/-- The outcomes of `addPlayer`: a refusal or a player that was seated before leaves the seats alone,
else the player gets a new one. -/
theorem addPlayer_cases (G : Mugen World) (room : BattleRoom World) (spec : BattlePlayerSpec) :
    (room.addPlayer G spec).1.config = room.config ∧
      (((room.addPlayer G spec).2 = false ∧ (room.addPlayer G spec).1.players = room.players) ∨
      (room.addPlayer G spec = (room, true) ∧ room.hasPlayer spec.sessionId = true) ∨
      ∃ slot, (room.addPlayer G spec).2 = true ∧ room.hasPlayer spec.sessionId = false ∧
        (room.addPlayer G spec).1.players = room.players.insert spec.sessionId slot) := by
  unfold addPlayer
  split
  · exact ⟨rfl, Or.inl ⟨rfl, rfl⟩⟩
  · split_ifs with hfull hhas
    · exact ⟨rfl, Or.inl ⟨rfl, rfl⟩⟩
    · exact ⟨rfl, Or.inr (Or.inl ⟨rfl, hhas⟩)⟩
    · dsimp only
      split_ifs
      · exact ⟨rfl, Or.inl ⟨rfl, rfl⟩⟩
      · split
        · exact ⟨rfl, Or.inl ⟨rfl, rfl⟩⟩
        · exact ⟨rfl, Or.inr (Or.inr ⟨_, rfl, Bool.eq_false_of_not_eq_true hhas, rfl⟩)⟩

theorem addPlayer_hasPlayer (spec : BattlePlayerSpec) (h : (room.addPlayer G spec).2 = true) :
    (room.addPlayer G spec).1.hasPlayer spec.sessionId = true := by
  obtain ⟨-, ⟨hfalse, -⟩ | ⟨heq, hhas⟩ | ⟨slot, -, -, hplayers⟩⟩ :=
    addPlayer_cases G room spec
  · rw [hfalse] at h
    cases h
  · rw [heq]
    exact hhas
  · rw [hasPlayer_iff, hplayers]
    exact ⟨slot, Table.get_insert_self ..⟩

theorem addPlayer_keeps (spec : BattlePlayerSpec) {sessionId : UInt32}
    (h : room.hasPlayer sessionId = true) :
    (room.addPlayer G spec).1.hasPlayer sessionId = true := by
  obtain ⟨-, ⟨-, hplayers⟩ | ⟨heq, -⟩ | ⟨slot, -, hnot, hplayers⟩⟩ :=
    addPlayer_cases G room spec
  · rwa [hasPlayer, hplayers]
  · rwa [heq]
  · have hne : sessionId ≠ spec.sessionId := by
      rintro rfl
      rw [h] at hnot
      cases hnot
    rw [hasPlayer_iff, hplayers, Table.get_insert_ne _ _ hne]
    exact hasPlayer_iff.1 h

theorem addPlayer_only (spec : BattlePlayerSpec) {sessionId : UInt32}
    (h : (room.addPlayer G spec).1.hasPlayer sessionId = true) :
    room.hasPlayer sessionId = true ∨ ((room.addPlayer G spec).2 = true ∧ sessionId = spec.sessionId) := by
  obtain ⟨-, ⟨-, hplayers⟩ | ⟨heq, -⟩ | ⟨slot, htrue, -, hplayers⟩⟩ :=
    addPlayer_cases G room spec
  · rw [hasPlayer, hplayers] at h
    exact Or.inl h
  · rw [heq] at h
    exact Or.inl h
  · by_cases hs : sessionId = spec.sessionId
    · exact Or.inr ⟨htrue, hs⟩
    · rw [hasPlayer_iff, hplayers, Table.get_insert_ne _ _ hs] at h
      exact Or.inl (hasPlayer_iff.2 h)

theorem isEmpty_eq_false_iff :
    room.isEmpty = false ↔ ∃ sessionId, room.hasPlayer sessionId = true := by
  rw [isEmpty, decide_eq_false_iff_not, ← ne_eq, ← Nat.pos_iff_ne_zero, Table.size,
    List.length_pos_iff_exists_mem]
  simp only [Prod.exists, Table.mem_toList, hasPlayer_iff]

theorem addPlayer_false_isEmpty {spec : BattlePlayerSpec} (h : (room.addPlayer G spec).2 = false) :
    (room.addPlayer G spec).1.isEmpty = room.isEmpty := by
  obtain ⟨-, ⟨-, hplayers⟩ | ⟨heq, -⟩ | ⟨slot, htrue, -, -⟩⟩ :=
    addPlayer_cases G room spec
  · rw [isEmpty, hplayers, isEmpty]
  · rw [heq]
  · rw [h] at htrue
    cases htrue

theorem addPlayer_size (spec : BattlePlayerSpec)
    (h : room.players.size ≤ room.config.maxPlayers.toNat) :
    (room.addPlayer G spec).1.players.size ≤ room.config.maxPlayers.toNat := by
  unfold addPlayer
  split
  · exact h
  · split_ifs with hfull hhas
    · exact h
    · exact h
    · dsimp only
      split_ifs
      · exact h
      · split
        · exact h
        · have hnone : room.players.get spec.sessionId = none := by
            simpa [hasPlayer, Table.contains] using hhas
          simp only [isFull, decide_eq_true_eq] at hfull
          show (room.players.insert _ _).size ≤ _
          rw [Table.size_insert_new _ _ _ hnone]
          omega

theorem removePlayer_size (sessionId : UInt32) :
    (room.removePlayer sessionId).players.size ≤ room.players.size :=
  Table.size_remove_le ..

theorem isEmpty_removePlayer (sessionId : UInt32) (h : room.isEmpty = true) :
    (room.removePlayer sessionId).isEmpty = true := by
  simp only [isEmpty, decide_eq_true_eq] at h ⊢
  have hle := room.removePlayer_size sessionId
  omega

theorem applyInput_frame (room : BattleRoom World) (sessionId clientFrame inputMask : UInt32) :
    (room.applyInput G sessionId clientFrame inputMask).config = room.config ∧
      (∀ other, (room.applyInput G sessionId clientFrame inputMask).hasPlayer other =
        room.hasPlayer other) ∧
      (room.applyInput G sessionId clientFrame inputMask).players.size = room.players.size := by
  unfold applyInput
  split
  · rename_i slot world hslot hworld
    split
    · exact ⟨rfl, fun _ => rfl, rfl⟩
    · refine ⟨rfl, fun other => ?_, Table.size_insert_old _ _ _ hslot⟩
      simp only [hasPlayer, Table.contains, Table.get_insert]
      split_ifs with hs
      · rw [hs, hslot]
        rfl
      · rfl
  · exact ⟨rfl, fun _ => rfl, rfl⟩

theorem isEmpty_applyInput (sessionId clientFrame inputMask : UInt32) :
    (room.applyInput G sessionId clientFrame inputMask).isEmpty = room.isEmpty := by
  rw [isEmpty, (applyInput_frame room ..).2.2, isEmpty]

theorem tick_frame (fixedDt : Float32) :
    (room.tick G fixedDt).config = room.config ∧ (room.tick G fixedDt).players = room.players := by
  unfold tick
  split
  · exact ⟨rfl, rfl⟩
  · split_ifs <;> exact ⟨rfl, rfl⟩

theorem isEmpty_tick (fixedDt : Float32) : (room.tick G fixedDt).isEmpty = room.isEmpty := by
  rw [isEmpty, (tick_frame fixedDt).2, isEmpty]

end BattleRoom

end AxmolFighter.Battle
