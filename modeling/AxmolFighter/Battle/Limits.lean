import AxmolFighter.Battle.Capacity

/-!
# The limits of the room manager

Any sequence of calls of the manager, whatever the simulation does in each of them: rooms and sessions
agree, a room has at most `maxPlayers` players, and there are at most `maxRooms` rooms and `maxSessions`
sessions.
-/

namespace AxmolFighter.Battle

variable {World : Type} {G : Mugen World}

namespace BattleRoomManager

variable {m : BattleRoomManager World}

/-- The limits are `maxRooms` and `maxSessions`, and nothing is over its limit. -/
structure Bounded (m : BattleRoomManager World) (maxRooms maxSessions : UInt32) : Prop where
  roomLimit : m.maxRooms = maxRooms
  sessionLimit : m.maxSessions = maxSessions
  rooms : m.rooms.size ≤ maxRooms.toNat
  sessions : m.sessionToRoom.size ≤ maxSessions.toNat
  players : ∀ b room, m.findRoom b = some room → room.players.size ≤ room.config.maxPlayers.toNat

variable {maxRooms maxSessions : UInt32}

theorem Bounded.empty (maxRooms maxSessions : UInt32) :
    ({ maxRooms, maxSessions } : BattleRoomManager World).Bounded maxRooms maxSessions := by
  refine ⟨rfl, rfl, Nat.zero_le _, Nat.zero_le _, fun b room h => ?_⟩
  simp [findRoom] at h

theorem Bounded.insert_players (h : m.Bounded maxRooms maxSessions) {battleId : UInt32}
    {room' : BattleRoom World} (hsize : room'.players.size ≤ room'.config.maxPlayers.toNat) (b : UInt32)
    (room : BattleRoom World) (hroom : (m.rooms.insert battleId room').get b = some room) :
    room.players.size ≤ room.config.maxPlayers.toNat := by
  rw [Table.get_insert] at hroom
  split_ifs at hroom with hb
  · cases hroom
    exact hsize
  · exact h.players b room hroom

theorem Bounded.createRoom (h : m.Bounded maxRooms maxSessions) (config : BattleRoomConfig) :
    (m.createRoom G config).1.Bounded maxRooms maxSessions := by
  unfold BattleRoomManager.createRoom
  split_ifs with hzero hexists hfull
  · exact h
  · exact h
  · exact h
  · split
    · exact h
    · rename_i room hinit
      obtain ⟨world, rfl⟩ := BattleRoom.init_eq_some hinit
      have hnone : m.rooms.get config.battleId = none := Option.not_isSome_iff_eq_none.1 hexists
      refine ⟨h.roomLimit, h.sessionLimit, ?_, h.sessions, h.insert_players ?_⟩
      · show (m.rooms.insert _ _).size ≤ _
        rw [Table.size_insert_new _ _ _ hnone, ← h.roomLimit]
        omega
      · simp

theorem Bounded.addPlayerToRoom (h : m.Bounded maxRooms maxSessions) (battleId : UInt32)
    (spec : BattlePlayerSpec) : (m.addPlayerToRoom G battleId spec).1.Bounded maxRooms maxSessions := by
  have hplayers : ∀ {room}, m.rooms.get battleId = some room →
      (room.addPlayer G spec).1.players.size ≤ (room.addPlayer G spec).1.config.maxPlayers.toNat := by
    intro room hroom
    rw [(BattleRoom.addPlayer_cases G room spec).1]
    exact BattleRoom.addPlayer_size spec (h.players battleId room hroom)
  have hadded := addPlayerToRoom_added G m battleId spec
  generalize m.addPlayerToRoom G battleId spec = r at hadded ⊢
  cases hadded with
  | elsewhere _ => exact h
  | refused _ _ => exact h
  | failed _ hroom _ =>
      refine ⟨h.roomLimit, h.sessionLimit, ?_, h.sessions, h.insert_players (hplayers hroom)⟩
      show (m.rooms.insert _ _).size ≤ _
      rw [Table.size_insert_old _ _ _ hroom]
      exact h.rooms
  | seated hfree haccept hroom _ =>
      have hlt := ((canAcceptSession_iff hfree).1 haccept).2
      have hsessions := h.sessions
      -- the counter has 32 bits, and so many sessions fit into it
      rw [UInt32.lt_iff_toNat_lt, h.sessionLimit,
        activeSessionCount_toNat (by have := maxSessions.toNat_lt; omega)] at hlt
      refine ⟨h.roomLimit, h.sessionLimit, ?_, ?_, h.insert_players (hplayers hroom)⟩
      · show (m.rooms.insert _ _).size ≤ _
        rw [Table.size_insert_old _ _ _ hroom]
        exact h.rooms
      · show (m.sessionToRoom.insert _ _).size ≤ _
        rw [Table.size_insert_new _ _ _ hfree]
        omega

theorem Bounded.removePlayer (h : m.Bounded maxRooms maxSessions) (sessionId : UInt32) :
    (m.removePlayer sessionId).Bounded maxRooms maxSessions := by
  have hsessions : (m.sessionToRoom.remove sessionId).size ≤ maxSessions.toNat :=
    (Table.size_remove_le ..).trans h.sessions
  unfold BattleRoomManager.removePlayer
  split
  · exact h
  · rename_i battleId hmap
    dsimp only
    split
    · exact ⟨h.roomLimit, h.sessionLimit, h.rooms, hsessions, h.players⟩
    · rename_i room hroom
      have hrooms : (m.rooms.insert battleId (room.removePlayer sessionId)).size ≤ maxRooms.toNat := by
        rw [Table.size_insert_old _ _ _ hroom]
        exact h.rooms
      have hplayers : ∀ b room', (m.rooms.insert battleId (room.removePlayer sessionId)).get b =
          some room' → room'.players.size ≤ room'.config.maxPlayers.toNat :=
        h.insert_players ((BattleRoom.removePlayer_size sessionId).trans (h.players battleId room hroom))
      split_ifs
      · refine ⟨h.roomLimit, h.sessionLimit, (Table.size_remove_le ..).trans hrooms, hsessions, ?_⟩
        intro b room' hroom'
        rw [findRoom, Table.get_remove] at hroom'
        split_ifs at hroom'
        exact hplayers b room' hroom'
      · exact ⟨h.roomLimit, h.sessionLimit, hrooms, hsessions, hplayers⟩

theorem Bounded.tickAll (h : m.Bounded maxRooms maxSessions) (fixedDt : Float32) :
    (m.tickAll G fixedDt).Bounded maxRooms maxSessions := by
  refine ⟨h.roomLimit, h.sessionLimit, ?_, h.sessions, fun b room hroom => ?_⟩
  · show (m.rooms.mapValues _).size ≤ _
    rw [Table.size_mapValues]
    exact h.rooms
  · simp only [findRoom, BattleRoomManager.tickAll, Table.get_mapValues, Option.map_eq_some_iff]
      at hroom
    obtain ⟨old, hold, rfl⟩ := hroom
    rw [(BattleRoom.tick_frame fixedDt).1, (BattleRoom.tick_frame fixedDt).2]
    exact h.players b old hold

/-! ### Sequences of calls -/

/-- A call of the manager, with the simulation as it behaves in this call. -/
inductive Call (World : Type)
  | createRoom (G : Mugen World) (config : BattleRoomConfig)
  | addPlayerToRoom (G : Mugen World) (battleId : UInt32) (spec : BattlePlayerSpec)
  | removePlayer (sessionId : UInt32)
  | tickAll (G : Mugen World) (fixedDt : Float32)

/-- What a call does. A player is added to a room that the caller holds a reference to. -/
inductive Performs : BattleRoomManager World → Call World → BattleRoomManager World → Prop
  | createRoom (m : BattleRoomManager World) (G : Mugen World) (config : BattleRoomConfig) :
      Performs m (.createRoom G config) (m.createRoom G config).1
  | addPlayerToRoom (m : BattleRoomManager World) (G : Mugen World) {battleId : UInt32}
      (spec : BattlePlayerSpec) {room : BattleRoom World} (hroom : m.findRoom battleId = some room) :
      Performs m (.addPlayerToRoom G battleId spec) (m.addPlayerToRoom G battleId spec).1
  | removePlayer (m : BattleRoomManager World) (sessionId : UInt32) :
      Performs m (.removePlayer sessionId) (m.removePlayer sessionId)
  | tickAll (m : BattleRoomManager World) (G : Mugen World) (fixedDt : Float32) :
      Performs m (.tickAll G fixedDt) (m.tickAll G fixedDt)

theorem Performs.keeps {m m' : BattleRoomManager World} {call : Call World} (h : Performs m call m')
    (hconsistent : m.Consistent) (hbounded : m.Bounded maxRooms maxSessions) :
    m'.Consistent ∧ m'.Bounded maxRooms maxSessions := by
  cases h with
  | createRoom G config => exact ⟨hconsistent.createRoom config, hbounded.createRoom config⟩
  | addPlayerToRoom G spec _ =>
      exact ⟨hconsistent.addPlayerToRoom _ spec, hbounded.addPlayerToRoom _ spec⟩
  | removePlayer sessionId =>
      exact ⟨hconsistent.removePlayer sessionId, hbounded.removePlayer sessionId⟩
  | tickAll G fixedDt => exact ⟨hconsistent.tickAll fixedDt, hbounded.tickAll fixedDt⟩

/-- Whatever is called, and however the simulation fails: the mapping and the rooms' players agree, no
session is in two rooms, and all limits hold. -/
theorem limits_of_calls {trace : List (BattleRoomManager World × Call World)}
    (hrun : Run Performs { maxRooms, maxSessions } trace m) :
    (∀ sessionId b, m.sessionToRoom.get sessionId = some b ↔
      ∃ room, m.findRoom b = some room ∧ room.hasPlayer sessionId = true) ∧
    (∀ sessionId b b', m.Occupies b sessionId → m.Occupies b' sessionId → b = b') ∧
    (∀ b room, m.findRoom b = some room → room.players.size ≤ room.config.maxPlayers.toNat) ∧
    m.rooms.size ≤ maxRooms.toNat ∧ m.sessionToRoom.size ≤ maxSessions.toNat := by
  obtain ⟨hconsistent, hbounded⟩ := hrun.invariant
    (fun m => m.Consistent ∧ m.Bounded maxRooms maxSessions) ⟨.empty .., .empty ..⟩
    fun m call m' h hcall => Performs.keeps hcall h.1 h.2
  refine ⟨hconsistent.mapped, fun sessionId b b' hb hb' => ?_, hbounded.players, hbounded.rooms,
    hbounded.sessions⟩
  rw [← hconsistent.mapped] at hb hb'
  rw [hb] at hb'
  exact Option.some.inj hb'

/-- A battle for one player, which a second session does not get into. -/
theorem limits_of_calls_sample :
    ∃ (m : BattleRoomManager UInt32) (trace : List (BattleRoomManager UInt32 × Call UInt32)),
      Run Performs { maxRooms := 2, maxSessions := 2 } trace m ∧ trace.length = 3 ∧
      m.sessionToRoom.get 1 = some 7 ∧ m.sessionToRoom.get 2 = none ∧
      ∀ b, m.Occupies b 1 → b = 7 := by
  have hcreated := Run.start.next (Performs.createRoom
    ({ maxRooms := 2, maxSessions := 2 } : BattleRoomManager UInt32) Mugen.counting
      { battleId := 7, maxPlayers := 1 })
  have hjoined := hcreated.next (Performs.addPlayerToRoom _ Mugen.counting
    { sessionId := 1, playerId := 1, classId := 1, name := "" } (rfl : findRoom _ 7 = _))
  have hrefused := hjoined.next (Performs.addPlayerToRoom _ Mugen.counting
    { sessionId := 2, playerId := 2, classId := 1, name := "" } (rfl : findRoom _ 7 = _))
  obtain ⟨hmapped, hunique, -⟩ := limits_of_calls hrefused
  have hseat := (hmapped 1 7).1 rfl
  exact ⟨_, _, hrefused, rfl, rfl, rfl, fun b hb => hunique 1 b 7 hb hseat⟩

end BattleRoomManager

end AxmolFighter.Battle
