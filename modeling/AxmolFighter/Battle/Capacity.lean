import AxmolFighter.Battle.Consistency

/-!
# Capacity of a battle server

The room limit is checked twice: against the rooms there are when a room is created, and again, with
the new room counted, when its players take their seats. So the last room that may be created cannot
be used: its players are refused and it stays empty, and no run fills all rooms.
-/

namespace AxmolFighter.Battle

variable {World : Type} {G : Mugen World} {parser : Parser}

namespace BattleRoomManager

variable {m : BattleRoomManager World}

/-! ### Rooms with players -/

def nonEmptyRooms (m : BattleRoomManager World) : Nat := m.rooms.count fun room => !room.isEmpty

/-- The limits are `maxRooms` and `maxSessions`, and not all rooms have players. -/
structure WithinLimits (m : BattleRoomManager World) (maxRooms maxSessions : UInt32) : Prop where
  roomLimit : m.maxRooms = maxRooms
  sessionLimit : m.maxSessions = maxSessions
  nonEmpty : m.nonEmptyRooms < maxRooms.toNat

variable {maxRooms maxSessions : UInt32}

theorem nonEmptyRooms_le_size (m : BattleRoomManager World) : m.nonEmptyRooms ≤ m.rooms.size :=
  Table.count_le_size ..

theorem count_insert_room {rooms : Table UInt32 (BattleRoom World)} {battleId : UInt32}
    {room room' : BattleRoom World} (hroom : rooms.get battleId = some room)
    (hempty : room.isEmpty = true → room'.isEmpty = true) :
    (rooms.insert battleId room').count (fun room => !room.isEmpty) ≤
      rooms.count fun room => !room.isEmpty := by
  rw [Table.count_insert, Table.count_eq_remove _ _ _ hroom]
  rcases hold : room.isEmpty with _ | _
  · simp only [Bool.not_false, if_true]
    split_ifs <;> omega
  · simp [hempty hold]

theorem createRoom_cases (config : BattleRoomConfig) :
    (m.createRoom G config).1 = m ∨ ∃ room, BattleRoom.init G config = some room ∧
      m.rooms.get config.battleId = none ∧
      m.createRoom G config =
        ({ m with rooms := m.rooms.insert config.battleId room }, some config.battleId) := by
  unfold createRoom
  split_ifs with hzero hexists hfull
  · exact Or.inl rfl
  · exact Or.inl rfl
  · exact Or.inl rfl
  · rcases hinit : BattleRoom.init G config with _ | room
    · exact Or.inl rfl
    · exact Or.inr ⟨room, rfl, Option.not_isSome_iff_eq_none.1 hexists, rfl⟩

theorem init_isEmpty {config : BattleRoomConfig} {room : BattleRoom World}
    (h : BattleRoom.init G config = some room) : room.isEmpty = true := by
  obtain ⟨world, rfl⟩ := BattleRoom.init_eq_some h
  rfl

theorem WithinLimits.createRoom (h : m.WithinLimits maxRooms maxSessions) (config : BattleRoomConfig) :
    (m.createRoom G config).1.WithinLimits maxRooms maxSessions := by
  rcases createRoom_cases (G := G) (m := m) config with heq | ⟨room, hinit, hnone, heq⟩
  · rw [heq]
    exact h
  · rw [heq]
    refine ⟨h.roomLimit, h.sessionLimit, ?_⟩
    rw [nonEmptyRooms, Table.count_insert, Table.count_remove_of_none _ _ _ hnone,
      init_isEmpty hinit]
    exact h.nonEmpty

theorem WithinLimits.addPlayerToRoom (h : m.WithinLimits maxRooms maxSessions) (battleId : UInt32)
    (spec : BattlePlayerSpec) : (m.addPlayerToRoom G battleId spec).1.WithinLimits maxRooms maxSessions := by
  obtain ⟨hrooms, hsessions, hsize⟩ := addPlayerToRoom_frame G m battleId spec
  refine ⟨hrooms.trans h.roomLimit, hsessions.trans h.sessionLimit, ?_⟩
  have hle := nonEmptyRooms_le_size (m.addPlayerToRoom G battleId spec).1
  rw [hsize] at hle
  have hadded := addPlayerToRoom_added G m battleId spec
  generalize m.addPlayerToRoom G battleId spec = r at hadded hle ⊢
  cases hadded with
  | elsewhere _ => exact h.nonEmpty
  | refused _ _ => exact h.nonEmpty
  | failed _ hroom hfailed =>
      refine (count_insert_room hroom fun hempty => ?_).trans_lt h.nonEmpty
      rw [BattleRoom.addPlayer_false_isEmpty hfailed, hempty]
  | seated hfree haccept _ _ =>
      -- a seat is only given out below the limit
      have hlt := ((canAcceptSession_iff hfree).1 haccept).1
      rw [h.roomLimit] at hlt
      exact hle.trans_lt hlt

theorem WithinLimits.removePlayer (h : m.WithinLimits maxRooms maxSessions) (sessionId : UInt32) :
    (m.removePlayer sessionId).WithinLimits maxRooms maxSessions := by
  unfold BattleRoomManager.removePlayer
  split
  · exact h
  · dsimp only
    split
    · exact ⟨h.roomLimit, h.sessionLimit, h.nonEmpty⟩
    · rename_i battleId _ _ room hroom
      have hinsert := (count_insert_room hroom fun hempty =>
        BattleRoom.isEmpty_removePlayer sessionId hempty).trans_lt h.nonEmpty
      split_ifs
      · exact ⟨h.roomLimit, h.sessionLimit, (Table.count_remove_le ..).trans_lt hinsert⟩
      · exact ⟨h.roomLimit, h.sessionLimit, hinsert⟩

theorem WithinLimits.tickAll (h : m.WithinLimits maxRooms maxSessions) (fixedDt : Float32) :
    (m.tickAll G fixedDt).WithinLimits maxRooms maxSessions := by
  refine ⟨h.roomLimit, h.sessionLimit, ?_⟩
  rw [nonEmptyRooms, BattleRoomManager.tickAll, Table.count_mapValues _ _ _ fun room => by
    rw [BattleRoom.isEmpty_tick]]
  exact h.nonEmpty

end BattleRoomManager

namespace BattleServer

theorem withinLimits_of_run {config : BattleServerConfig} (hmax : 1 ≤ config.maxBattles.toNat)
    {trace : List (BattleServer World × Event)} {s : BattleServer World}
    (hrun : Run (Step G parser) (init config) trace s) :
    s.roomManager.WithinLimits config.maxBattles config.maxSessions := by
  refine roomManager_of_run (fun m => m.WithinLimits config.maxBattles config.maxSessions)
    ⟨rfl, rfl, hmax⟩ (fun _ config h => h.createRoom config)
    (fun _ battleId spec h => h.addPlayerToRoom battleId spec)
    (fun _ sessionId h => h.removePlayer sessionId) (fun _ dt h => h.tickAll dt)
    (fun m b room sessionId clientFrame inputMask h hroom => ?_) hrun
  refine ⟨h.roomLimit, h.sessionLimit,
    (BattleRoomManager.count_insert_room hroom fun hempty => ?_).trans_lt h.nonEmpty⟩
  rw [BattleRoom.isEmpty_applyInput, hempty]

end BattleServer

/-! ### Seating a whole request -/

/-- The simulation can spawn the player in whatever world and place. -/
structure Mugen.Spawns (G : Mugen World) (player : BattlePlayerSpec) : Prop where
  role : G.hasRoleConfig (G.resolvePlayableRoleId player.classId) = true
  actor : ∀ world point, ∃ actorId,
    (G.spawnRolePlayerActor world (G.resolvePlayableRoleId player.classId) point
      { playerId := player.playerId, name := player.name }).2 = some actorId

/-- A room with an empty seat takes a player that can be spawned. -/
theorem BattleRoom.addPlayer_true {room : BattleRoom World} {player : BattlePlayerSpec}
    (hworld : room.world.isSome) (hseat : room.players.size < room.config.maxPlayers.toNat)
    (hspawns : G.Spawns player) :
    (room.addPlayer G player).2 = true ∧ (room.addPlayer G player).1.world.isSome ∧
      (room.addPlayer G player).1.players.size ≤ room.players.size + 1 := by
  obtain ⟨world, hsome⟩ := Option.isSome_iff_exists.1 hworld
  have hfull : room.isFull = false := by simpa [BattleRoom.isFull] using hseat
  unfold BattleRoom.addPlayer
  simp only [hsome, hfull, hspawns.role, Bool.false_eq_true, if_false, Bool.not_true]
  split_ifs with hhas
  · exact ⟨rfl, by rw [hsome]; rfl, Nat.le_succ _⟩
  · obtain ⟨actorId, hactor⟩ := hspawns.actor world (room.resolveSpawnPoint G room.players.size)
    generalize G.spawnRolePlayerActor _ _ _ _ = spawned at hactor ⊢
    obtain ⟨world', actor⟩ := spawned
    obtain rfl : actor = some actorId := hactor
    have hnone : room.players.get player.sessionId = none := by
      simpa [BattleRoom.hasPlayer, Table.contains] using hhas
    exact ⟨rfl, rfl, (Table.size_insert_new _ _ _ hnone).le⟩

namespace BattleRoomManager

variable {m : BattleRoomManager World}

theorem activeSessionCount_toNat (h : m.sessionToRoom.size < 2 ^ 32) :
    m.activeSessionCount.toNat = m.sessionToRoom.size :=
  UInt32.toNat_ofNat_of_lt' h

/-- The room and the limits leave space for `n` more players. -/
structure Ready (m : BattleRoomManager World) (battleId : UInt32) (n : Nat) : Prop where
  room : ∃ room, m.findRoom battleId = some room ∧ room.battleId = battleId ∧ room.world.isSome ∧
    room.players.size + n ≤ room.config.maxPlayers.toNat
  rooms : m.rooms.size < m.maxRooms.toNat
  sessions : m.sessionToRoom.size + n ≤ m.maxSessions.toNat

theorem Ready.add {battleId : UInt32} {n : Nat} (h : m.Ready battleId (n + 1))
    {player : BattlePlayerSpec} (hfree : m.sessionToRoom.get player.sessionId = none)
    (hspawns : G.Spawns player) :
    (m.addPlayerToRoom G battleId player).2 = true ∧
      (m.addPlayerToRoom G battleId player).1.Ready battleId n ∧
      (m.addPlayerToRoom G battleId player).1.Seats battleId player.sessionId ∧
      ∀ other, other ≠ player.sessionId →
        (m.addPlayerToRoom G battleId player).1.sessionToRoom.get other =
          m.sessionToRoom.get other := by
  obtain ⟨room, hroom, hid, hworld, hseats⟩ := h.room
  obtain ⟨hok, hworld', hsize⟩ := BattleRoom.addPlayer_true hworld (by omega) hspawns
  have hconfig := (BattleRoom.addPlayer_cases G room player).1
  have hsessions := h.sessions
  have haccept : m.canAcceptSession player.sessionId = true := by
    rw [canAcceptSession_iff hfree, UInt32.lt_iff_toNat_lt,
      activeSessionCount_toNat (by have := m.maxSessions.toNat_lt; omega)]
    exact ⟨h.rooms, by omega⟩
  have hadd : m.addPlayerToRoom G battleId player =
      ({ m with
          rooms := m.rooms.insert battleId (room.addPlayer G player).1
          sessionToRoom := m.sessionToRoom.insert player.sessionId battleId }, true) := by
    have hget : m.rooms.get battleId = some room := hroom
    have hadded := addPlayerToRoom_added G m battleId player
    generalize m.addPlayerToRoom G battleId player = r at hadded ⊢
    cases hadded with
    | elsewhere hmapped => simp [hfree] at hmapped
    | refused _ hrefused => simp [haccept, hget] at hrefused
    | failed _ hroom' hfailed =>
        rw [hget] at hroom'
        cases hroom'
        simp [hok] at hfailed
    | seated _ _ hroom' _ =>
        rw [hget] at hroom'
        cases hroom'
        rw [hid]
  rw [hadd]
  refine ⟨rfl, ⟨⟨_, Table.get_insert_self .., ?_, hworld', ?_⟩, ?_, ?_⟩,
    ⟨Table.get_insert_self .., _, Table.get_insert_self .., BattleRoom.addPlayer_hasPlayer player hok⟩,
    fun other hne => Table.get_insert_ne _ _ hne⟩
  · rw [BattleRoom.battleId, hconfig]
    exact hid
  · rw [hconfig]
    omega
  · exact (Table.size_insert_old _ _ _ hroom).trans_lt h.rooms
  · have hnew := Table.size_insert_new _ _ battleId hfree
    dsimp only
    omega

end BattleRoomManager

namespace BattleServer

/-- Below the limits, all players of a request find a seat. -/
theorem seatPlayers_ready {battleId : UInt32} {players : List BattlePlayerSpec} {seated : Seated World}
    (hready : seated.manager.Ready battleId players.length)
    (hfree : ∀ player ∈ players, seated.manager.sessionToRoom.get player.sessionId = none)
    (hdistinct : (players.map BattlePlayerSpec.sessionId).Nodup)
    (hspawns : ∀ player ∈ players, G.Spawns player) :
    (∀ sessionId, seated.manager.Seats battleId sessionId ∨
        sessionId ∈ players.map BattlePlayerSpec.sessionId →
      (players.foldl (seatPlayer G battleId 0) seated).manager.Seats battleId sessionId) ∧
    (seated.joined = true ∨ players ≠ [] →
      (players.foldl (seatPlayer G battleId 0) seated).joined = true) := by
  induction players generalizing seated with
  | nil => simp
  | cons player players ih =>
      obtain ⟨hok, hready', hseat, hothers⟩ := hready.add (hfree player List.mem_cons_self)
        (hspawns player List.mem_cons_self)
      have hturn : (seatPlayer G battleId 0 seated player).joined = true := by
        simp [seatPlayer, hok]
      rw [List.map_cons, List.nodup_cons] at hdistinct
      obtain ⟨hseats, hjoined⟩ := @ih (seatPlayer G battleId 0 seated player)
        (by rw [seatPlayer_manager]; exact hready')
        (fun p hp => by
          rw [seatPlayer_manager, hothers _ fun heq => hdistinct.1 (heq ▸ List.mem_map_of_mem hp)]
          exact hfree p (List.mem_cons_of_mem _ hp))
        hdistinct.2 fun p hp => hspawns p (List.mem_cons_of_mem _ hp)
      refine ⟨fun sessionId h => hseats sessionId ?_, fun _ => hjoined (Or.inl hturn)⟩
      rw [seatPlayer_manager]
      rcases h with hold | hnew
      · exact Or.inl (BattleRoomManager.addPlayerToRoom_keeps hold)
      · rcases List.mem_cons.1 hnew with rfl | hrest
        · exact Or.inl hseat
        · exact Or.inr hrest

/-- With the limit reached, nobody new is seated. -/
theorem seatPlayers_full {battleId frameSession : UInt32} {players : List BattlePlayerSpec}
    {seated : Seated World} (hfree : ∀ player ∈ players,
      seated.manager.sessionToRoom.get player.sessionId = none)
    (hfull : seated.manager.maxRooms.toNat ≤ seated.manager.rooms.size) :
    players.foldl (seatPlayer G battleId frameSession) seated = seated := by
  induction players with
  | nil => rfl
  | cons player players ih =>
      have hnone := hfree player List.mem_cons_self
      have hrefuse : seated.manager.canAcceptSession player.sessionId = false := by
        rw [← Bool.not_eq_true, BattleRoomManager.canAcceptSession_iff hnone]
        omega
      have hadd : seated.manager.addPlayerToRoom G battleId player = (seated.manager, false) := by
        rw [BattleRoomManager.addPlayerToRoom, BattleRoomManager.contains_eq_false hnone, hrefuse]
        rfl
      have hturn : seatPlayer G battleId frameSession seated player = seated := by
        simp only [seatPlayer, hadd]
        rfl
      rw [List.foldl_cons, hturn]
      exact ih fun p hp => hfree p (List.mem_cons_of_mem _ hp)

/-- A request that the limits leave room for: a new battle of one or two players, none of whom is in a
battle. -/
structure Admissible (m : BattleRoomManager World) (req : BattleCreateReq) : Prop where
  battleId : req.battleId ≠ 0
  fresh : m.findRoom req.battleId = none
  rooms : m.rooms.size < m.maxRooms.toNat
  players : req.players.length = 1 ∨ req.players.length = 2
  distinct : (req.players.map BattlePlayerSpec.sessionId).Nodup
  free : ∀ player ∈ req.players, m.sessionToRoom.get player.sessionId = none
  sessions : m.sessionToRoom.size + req.players.length ≤ m.maxSessions.toNat

/-- The answer is a success and every player of the request has a seat. -/
def Accommodated (result : BattleServer World × BattleCreateResp × List Output) (req : BattleCreateReq) :
    Prop :=
  result.2.1.code = 0 ∧
    ∀ player ∈ req.players, result.1.roomManager.Seats req.battleId player.sessionId

variable {s : BattleServer World} {frame : BackendFrame} {req : BattleCreateReq}

theorem createRoom_admissible (hreq : Admissible s.roomManager req) {room : BattleRoom World}
    (hinit : BattleRoom.init G (s.roomConfig req).1 = some room) :
    s.roomManager.createRoom G (s.roomConfig req).1 =
      ({ s.roomManager with rooms := s.roomManager.rooms.insert req.battleId room },
        some req.battleId) := by
  have hfresh : s.roomManager.rooms.contains req.battleId = false := by
    rw [Table.contains, show s.roomManager.rooms.get req.battleId = none from hreq.fresh]
    rfl
  simp only [BattleRoomManager.createRoom, hinit, roomConfig_battleId, hfresh, hreq.battleId,
    Nat.not_le.2 hreq.rooms, if_false, Bool.false_eq_true]

/-- An admissible request is served exactly if the room is not the last one. -/
theorem accommodated_iff (hparse : parser.battleCreateReq frame.payload = some req)
    (hsession : frame.sessionId = 0) (hreq : Admissible s.roomManager req)
    (hinit : ∃ room, BattleRoom.init G (s.roomConfig req).1 = some room)
    (hspawns : ∀ player ∈ req.players, G.Spawns player) :
    Accommodated (s.onBattleCreate G parser frame) req ↔
      s.roomManager.rooms.size + 1 < s.roomManager.maxRooms.toNat := by
  obtain ⟨room, hinit⟩ := hinit
  obtain ⟨world, hroom⟩ := BattleRoom.init_eq_some hinit
  have hsize := Table.size_insert_new _ _ room
    (show s.roomManager.rooms.get req.battleId = none from hreq.fresh)
  have hplayers : req.players ≠ [] := by
    intro heq
    rcases hreq.players with h | h <;> simp [heq] at h
  let seated : Seated World :=
    { manager := { s.roomManager with rooms := s.roomManager.rooms.insert req.battleId room } }
  have hcreate : s.onBattleCreate G parser frame =
      { s with randomSeed := (s.roomConfig req).2 }.answerSeated G req req.battleId
        (req.players.foldl (seatPlayer G req.battleId 0) seated) := by
    simp only [onBattleCreate, hparse, hreq.fresh, hsession]
    rw [createRoom_admissible hreq hinit]
  rw [hcreate]
  by_cases hlast : s.roomManager.rooms.size + 1 < s.roomManager.maxRooms.toNat
  · have hready : seated.manager.Ready req.battleId req.players.length := by
      refine ⟨⟨room, Table.get_insert_self .., ?_, ?_, ?_⟩, ?_, hreq.sessions⟩
      · rw [hroom]
        rfl
      · rw [hroom]
        rfl
      · rw [hroom]
        simp only [roomConfig_maxPlayers, Table.size_empty]
        rcases hreq.players with h | h <;> omega
      · exact hsize.trans_lt hlast
    obtain ⟨hseats, hjoined⟩ := seatPlayers_ready hready hreq.free hreq.distinct hspawns
    obtain ⟨player, rest, heq⟩ := List.exists_cons_of_ne_nil hplayers
    obtain ⟨-, room', hroom', -⟩ := hseats player.sessionId (Or.inr (by simp [heq]))
    refine iff_of_true ⟨?_, fun p hp => ?_⟩ hlast
    · simp only [answerSeated, hjoined (Or.inr hplayers), hroom']
      rfl
    · rw [answerSeated_manager]
      exact hseats _ (Or.inr (List.mem_map_of_mem hp))
  · have hfull : seated.manager.maxRooms.toNat ≤ seated.manager.rooms.size :=
      (Nat.not_lt.1 hlast).trans_eq hsize.symm
    rw [seatPlayers_full hreq.free hfull]
    refine iff_of_false (fun hok => ?_) hlast
    have hcode := hok.1
    simp only [answerSeated, seated, Bool.not_false, true_and, hplayers, ne_eq, not_false_eq_true,
      if_true] at hcode
    exact absurd hcode (by decide)

/-- What the limits allow in every state that a run reaches: an admissible request is served exactly if
its room is not the last one, and never do all rooms have players. -/
theorem capacity_of_run (config : BattleServerConfig) (hmax : 1 ≤ config.maxBattles.toNat)
    {trace : List (BattleServer World × Event)} (hrun : Run (Step G parser) (init config) trace s) :
    s.roomManager.nonEmptyRooms < config.maxBattles.toNat ∧
      ∀ frame req, parser.battleCreateReq frame.payload = some req → frame.sessionId = 0 →
        Admissible s.roomManager req →
        (∃ room, BattleRoom.init G (s.roomConfig req).1 = some room) →
        (∀ player ∈ req.players, G.Spawns player) →
        (Accommodated (s.onBattleCreate G parser frame) req ↔
          s.roomManager.rooms.size + 1 < config.maxBattles.toNat) := by
  have hlimits := withinLimits_of_run hmax hrun
  refine ⟨hlimits.nonEmpty, fun frame req hparse hsession hreq hinit hspawns => ?_⟩
  rw [accommodated_iff hparse hsession hreq hinit hspawns, hlimits.roomLimit]

theorem counting_spawns (player : BattlePlayerSpec) : Mugen.counting.Spawns player :=
  ⟨rfl, fun world _ => ⟨world, rfl⟩⟩

/-- Two sessions join battle 1. -/
def duelReq : BattleCreateReq where
  battleId := 1
  mapId := 1
  players := [{ sessionId := 1, playerId := 1, classId := 1, name := "" },
    { sessionId := 2, playerId := 2, classId := 1, name := "" }]
  randomSeed := 1

/-- A request forwarded by a game server. -/
def requestFrame (payload : Bytes) : BackendFrame where
  cmd := 101
  msgId := BattleCreateReq.id
  serial := -1
  sessionId := 0
  payload

/-- A parser that knows one payload. -/
def duelParser : Parser where
  battleCreateReq payload := if payload = [1] then some duelReq else none
  battleInputPush _ := none

theorem duelReq_admissible {config : BattleServerConfig} (hmax : 1 ≤ config.maxBattles.toNat)
    (hsessions : 2 ≤ config.maxSessions.toNat) :
    Admissible (init config : BattleServer UInt32).roomManager duelReq :=
  ⟨by decide, rfl, hmax, Or.inr rfl, by decide, fun _ _ => rfl, hsessions⟩

theorem capacity_of_run_duel :
    Accommodated ((init { maxBattles := 2 }).onBattleCreate Mugen.counting duelParser
      (requestFrame [1])) duelReq :=
  ((capacity_of_run { maxBattles := 2 } (by decide) (.start : Run (Step Mugen.counting duelParser) _ [] _)).2
    (requestFrame [1]) duelReq rfl rfl (duelReq_admissible (by decide) (by decide)) ⟨_, rfl⟩
    fun player _ => counting_spawns player).2 (by decide)

/-- A server for one battle refuses its first. -/
theorem last_room_refused :
    ∃ (config : BattleServerConfig) (s : BattleServer UInt32), 1 ≤ config.maxBattles.toNat ∧
      Run (Step Mugen.counting duelParser) (init config) [] s ∧ Admissible s.roomManager duelReq ∧
      duelParser.battleCreateReq (requestFrame [1]).payload = some duelReq ∧
      (∃ room, BattleRoom.init Mugen.counting (s.roomConfig duelReq).1 = some room) ∧
      (∀ player ∈ duelReq.players, Mugen.counting.Spawns player) ∧
      ¬ Accommodated (s.onBattleCreate Mugen.counting duelParser (requestFrame [1])) duelReq := by
  refine ⟨{ maxBattles := 1 }, _, by decide, .start, duelReq_admissible (by decide) (by decide), rfl,
    ⟨_, rfl⟩, fun player _ => counting_spawns player, fun hok => ?_⟩
  exact absurd hok.1 (by decide)

end BattleServer

end AxmolFighter.Battle
