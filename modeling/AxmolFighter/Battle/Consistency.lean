import AxmolFighter.Battle.Server

/-!
# Rooms and sessions agree

In every state that a battle server reaches, a session is mapped to a room exactly if the room has it
as a player, and every room is filed under its own battle id. So a session is in one room at most, and
taking it out of the mapped room takes it out of the battle.
-/

namespace AxmolFighter.Battle

variable {World : Type} {G : Mugen World} {parser : Parser}

namespace BattleRoomManager

variable {m m' : BattleRoomManager World}

/-- The two tables describe the same seats. -/
structure Consistent (m : BattleRoomManager World) : Prop where
  filed : ∀ b room, m.findRoom b = some room → room.battleId = b
  mapped : ∀ sessionId b, m.sessionToRoom.get sessionId = some b ↔ m.Occupies b sessionId

theorem Consistent.empty (maxRooms maxSessions : UInt32) :
    ({ maxRooms, maxSessions } : BattleRoomManager World).Consistent := by
  refine ⟨fun b room h => ?_, fun sessionId b => ⟨fun h => ?_, ?_⟩⟩
  · rw [findRoom, Table.get_empty] at h
    cases h
  · rw [Table.get_empty] at h
    cases h
  · rintro ⟨room, h, -⟩
    rw [findRoom, Table.get_empty] at h
    cases h

theorem Consistent.seats (h : m.Consistent) {sessionId b : UInt32} :
    m.Seats b sessionId ↔ m.Occupies b sessionId :=
  ⟨And.right, fun hin => ⟨(h.mapped sessionId b).2 hin, hin⟩⟩

/-- Rooms and mapping change together: `b` becomes `room'`, which has the sessions that the new mapping
sends to it, and for other rooms nothing changes. -/
theorem Consistent.insert (h : m.Consistent) {b : UInt32} {room' : BattleRoom World}
    (hrooms : m'.rooms = m.rooms.insert b room') (hid : room'.battleId = b)
    (hmap : ∀ sessionId b', m'.sessionToRoom.get sessionId = some b' ↔
      if b' = b then room'.hasPlayer sessionId = true else m.sessionToRoom.get sessionId = some b') :
    m'.Consistent := by
  refine ⟨fun b' room hroom => ?_, fun sessionId b' => ?_⟩
  · rw [findRoom, hrooms, Table.get_insert] at hroom
    split_ifs at hroom with hb
    · cases hroom
      rw [hb, hid]
    · exact h.filed b' room hroom
  · rw [hmap, Occupies, findRoom, hrooms, Table.get_insert]
    split_ifs with hb
    · simp
    · exact h.mapped sessionId b'

theorem Consistent.hasPlayer (h : m.Consistent) {b : UInt32} {room : BattleRoom World}
    (hroom : m.findRoom b = some room) (sessionId : UInt32) :
    room.hasPlayer sessionId = true ↔ m.sessionToRoom.get sessionId = some b := by
  rw [h.mapped, Occupies, hroom]
  simp

theorem Consistent.update (h : m.Consistent) {b : UInt32} {room room' : BattleRoom World}
    (hroom : m.findRoom b = some room) (hconfig : room'.config = room.config)
    (hplayers : ∀ sessionId, room'.hasPlayer sessionId = room.hasPlayer sessionId) :
    ({ m with rooms := m.rooms.insert b room' } : BattleRoomManager World).Consistent := by
  refine h.insert rfl ?_ fun sessionId b' => ?_
  · rw [BattleRoom.battleId, hconfig]
    exact h.filed b room hroom
  · split_ifs with hb
    · rw [hplayers, h.hasPlayer hroom, hb]
    · rfl

theorem Consistent.createRoom (h : m.Consistent) (config : BattleRoomConfig) :
    (m.createRoom G config).1.Consistent := by
  unfold BattleRoomManager.createRoom
  split_ifs with hzero hexists hfull
  · exact h
  · exact h
  · exact h
  · split
    · exact h
    · rename_i room hinit
      obtain ⟨world, rfl⟩ := BattleRoom.init_eq_some hinit
      have hnone : m.findRoom config.battleId = none := Option.not_isSome_iff_eq_none.1 hexists
      refine h.insert rfl rfl fun sessionId b' => ?_
      split_ifs with hb
      · subst hb
        rw [h.mapped, Occupies, hnone]
        simp [BattleRoom.hasPlayer, Table.contains]
      · rfl

theorem Consistent.addPlayerToRoom (h : m.Consistent) (battleId : UInt32) (spec : BattlePlayerSpec) :
    (m.addPlayerToRoom G battleId spec).1.Consistent := by
  have hadded := addPlayerToRoom_added G m battleId spec
  generalize m.addPlayerToRoom G battleId spec = r at hadded ⊢
  cases hadded with
  | elsewhere _ => exact h
  | refused _ _ => exact h
  | @failed room hfree hroom hfailed =>
      refine h.update hroom (BattleRoom.addPlayer_cases G room spec).1 fun sessionId => ?_
      rw [Bool.eq_iff_iff]
      refine ⟨fun hhas => ?_, BattleRoom.addPlayer_keeps spec⟩
      rcases BattleRoom.addPlayer_only spec hhas with hold | ⟨htrue, -⟩
      · exact hold
      · rw [hfailed] at htrue
        cases htrue
  | @seated room hfree haccept hroom hseated =>
      have hid := h.filed battleId room hroom
      have hconfig := (BattleRoom.addPlayer_cases G room spec).1
      rw [hid]
      refine h.insert rfl ?_ fun sessionId b' => ?_
      · rw [BattleRoom.battleId, hconfig]
        exact hid
      · dsimp only
        rw [Table.get_insert]
        by_cases hs : sessionId = spec.sessionId
        · subst hs
          rw [if_pos rfl, hfree, BattleRoom.addPlayer_hasPlayer spec hseated]
          by_cases hb : b' = battleId
          · simp [hb]
          · simp [hb, Ne.symm hb]
        · rw [if_neg hs]
          split_ifs with hb
          · rw [hb, ← h.hasPlayer hroom]
            refine ⟨BattleRoom.addPlayer_keeps spec, fun hhas => ?_⟩
            exact (BattleRoom.addPlayer_only spec hhas).resolve_right fun h => hs h.2
          · rfl

theorem Consistent.removePlayer (h : m.Consistent) (sessionId : UInt32) :
    (m.removePlayer sessionId).Consistent := by
  unfold BattleRoomManager.removePlayer
  split
  · exact h
  · rename_i battleId hmap
    obtain ⟨room, hroom, hhas⟩ := (h.mapped sessionId battleId).1 hmap
    have hid := h.filed battleId room hroom
    have hinsert : ({ m with
        rooms := m.rooms.insert battleId (room.removePlayer sessionId)
        sessionToRoom := m.sessionToRoom.remove sessionId } : BattleRoomManager World).Consistent := by
      refine h.insert rfl hid fun other b' => ?_
      dsimp only
      rw [Table.get_remove]
      by_cases hs : other = sessionId
      · subst hs
        rw [if_pos rfl, hmap]
        by_cases hb : b' = battleId
        · simp [hb, BattleRoom.hasPlayer, BattleRoom.removePlayer, Table.contains]
        · simp [hb, Ne.symm hb]
      · rw [if_neg hs]
        split_ifs with hb
        · rw [hb, ← h.hasPlayer hroom]
          simp [BattleRoom.hasPlayer, BattleRoom.removePlayer, Table.contains, hs]
        · rfl
    have hfind : findRoom { m with sessionToRoom := m.sessionToRoom.remove sessionId } battleId =
        some room := hroom
    dsimp only
    rw [hfind]
    dsimp only
    split_ifs with hempty
    · -- an empty room has nobody to be mapped to it
      have hnobody : ∀ other, (room.removePlayer sessionId).hasPlayer other = false := by
        intro other
        by_contra hhas
        rw [BattleRoom.isEmpty_eq_false_iff.2 ⟨other, Bool.eq_true_of_not_eq_false hhas⟩] at hempty
        cases hempty
      refine ⟨fun b room' hroom' => ?_, fun other b => ?_⟩
      · refine hinsert.filed b room' ?_
        rw [findRoom, Table.get_remove] at hroom'
        split_ifs at hroom'
        exact hroom'
      · rw [show (room.removePlayer sessionId).battleId = battleId from hid]
        refine (hinsert.mapped other b).trans ?_
        simp only [Occupies, findRoom, Table.get_remove]
        by_cases hb : b = battleId
        · subst hb
          simp [hnobody]
        · rw [if_neg hb]
    · exact hinsert

theorem Consistent.tickAll (h : m.Consistent) (fixedDt : Float32) : (m.tickAll G fixedDt).Consistent := by
  refine ⟨fun b room hroom => ?_, fun sessionId b => ?_⟩
  · rw [findRoom, BattleRoomManager.tickAll, Table.get_mapValues, Option.map_eq_some_iff] at hroom
    obtain ⟨old, hold, rfl⟩ := hroom
    rw [BattleRoom.battleId, (BattleRoom.tick_frame fixedDt).1]
    exact h.filed b old hold
  · have hplayers : ∀ room : BattleRoom World, (room.tick G fixedDt).players = room.players :=
      fun _ => (BattleRoom.tick_frame fixedDt).2
    refine (h.mapped sessionId b).trans ?_
    simp only [Occupies, findRoom, BattleRoomManager.tickAll, Table.get_mapValues,
      Option.map_eq_some_iff, exists_exists_and_eq_and, BattleRoom.hasPlayer, hplayers]

end BattleRoomManager

namespace BattleServer

variable {s s' : BattleServer World}

theorem seatPlayer_manager (battleId frameSession : UInt32) (seated : Seated World)
    (player : BattlePlayerSpec) :
    (seatPlayer G battleId frameSession seated player).manager =
      (seated.manager.addPlayerToRoom G battleId player).1 := by
  unfold seatPlayer
  dsimp only
  split_ifs <;> rfl

theorem answerSeated_manager (s : BattleServer World) (req : BattleCreateReq) (battleId : UInt32)
    (seated : Seated World) :
    (s.answerSeated G req battleId seated).1.roomManager = seated.manager := by
  unfold answerSeated
  dsimp only
  split_ifs
  · rfl
  · split <;> rfl

/-- A property of the rooms that creating a room and adding a player keep is kept by a whole creation. -/
theorem onBattleCreate_keeps {inv : BattleRoomManager World → Prop}
    (hcreate : ∀ m config, inv m → inv (BattleRoomManager.createRoom G m config).1)
    (hadd : ∀ m battleId spec, inv m → inv (m.addPlayerToRoom G battleId spec).1)
    (h : inv s.roomManager) (frame : BackendFrame) :
    inv (s.onBattleCreate G parser frame).1.roomManager := by
  have hseat : ∀ battleId frameSession (players : List BattlePlayerSpec) (seated : Seated World),
      inv seated.manager →
        inv (players.foldl (seatPlayer G battleId frameSession) seated).manager := by
    intro battleId frameSession players
    induction players with
    | nil => exact fun _ h => h
    | cons player players ih =>
        intro seated hseated
        refine ih _ ?_
        rw [seatPlayer_manager]
        exact hadd _ _ _ hseated
  unfold onBattleCreate
  split
  · exact h
  · rename_i req _
    split
    · exact h
    · dsimp only
      have hroom := hcreate s.roomManager (s.roomConfig req).1 h
      split
      · exact h
      · rename_i manager battleId heq
        rw [heq] at hroom
        rw [answerSeated_manager]
        exact hseat _ _ _ _ hroom

/-- A property of the rooms that every operation of the manager keeps is kept by every event. -/
theorem handle_keeps (inv : BattleRoomManager World → Prop)
    (hcreate : ∀ m config, inv m → inv (BattleRoomManager.createRoom G m config).1)
    (hadd : ∀ m battleId spec, inv m → inv (m.addPlayerToRoom G battleId spec).1)
    (hremove : ∀ m sessionId, inv m → inv (m.removePlayer sessionId))
    (htick : ∀ m dt, inv m → inv (m.tickAll G dt))
    (hinput : ∀ m b room sessionId clientFrame inputMask, inv m → m.findRoom b = some room →
      inv { m with rooms := m.rooms.insert b (room.applyInput G sessionId clientFrame inputMask) })
    (h : inv s.roomManager) (e : Event) : inv (s.handle G parser e).1.roomManager := by
  cases e with
  | serverRequest frame =>
      simp only [handle]
      split_ifs
      · exact onBattleCreate_keeps hcreate hadd h frame
      · exact h
  | clientPush sessionId frame =>
      simp only [handle]
      split_ifs
      · unfold onBattleInput
        split
        · exact h
        · split
          · exact h
          · rename_i battleId room hfind
            split_ifs
            · exact h
            · simp only [BattleRoomManager.findRoomBySession, Option.bind_eq_bind,
                Option.bind_eq_some_iff] at hfind
              obtain ⟨b, -, room', hroom, heq⟩ := hfind
              cases heq
              exact hinput _ _ _ _ _ _ h hroom
      · exact h
  | sessionOffline sessionId => exact hremove _ _ h
  | tick dt => exact htick _ _ h

/-- So it holds in every run. -/
theorem roomManager_of_run {config : BattleServerConfig} (inv : BattleRoomManager World → Prop)
    (hstart : inv { maxRooms := config.maxBattles, maxSessions := config.maxSessions })
    (hcreate : ∀ m config, inv m → inv (BattleRoomManager.createRoom G m config).1)
    (hadd : ∀ m battleId spec, inv m → inv (m.addPlayerToRoom G battleId spec).1)
    (hremove : ∀ m sessionId, inv m → inv (m.removePlayer sessionId))
    (htick : ∀ m dt, inv m → inv (m.tickAll G dt))
    (hinput : ∀ m b room sessionId clientFrame inputMask, inv m → m.findRoom b = some room →
      inv { m with rooms := m.rooms.insert b (room.applyInput G sessionId clientFrame inputMask) })
    {trace : List (BattleServer World × Event)} (hrun : Run (Step G parser) (init config) trace s) :
    inv s.roomManager := by
  refine hrun.invariant (fun s => inv s.roomManager) hstart fun s e s' h hstep => ?_
  rw [hstep]
  exact handle_keeps inv hcreate hadd hremove htick hinput h e

theorem consistent_handle (h : s.roomManager.Consistent) (e : Event) :
    (s.handle G parser e).1.roomManager.Consistent := by
  refine handle_keeps BattleRoomManager.Consistent (fun _ config h => h.createRoom config)
    (fun _ battleId spec h => h.addPlayerToRoom battleId spec)
    (fun _ sessionId h => h.removePlayer sessionId) (fun _ dt h => h.tickAll dt)
    (fun m b room sessionId clientFrame inputMask h hroom => ?_) h e
  obtain ⟨hconfig, hplayers, -⟩ := BattleRoom.applyInput_frame (G := G) room sessionId clientFrame inputMask
  exact h.update hroom hconfig hplayers

theorem consistent_of_run {config : BattleServerConfig} {trace : List (BattleServer World × Event)}
    (hrun : Run (Step G parser) (init config) trace s) : s.roomManager.Consistent := by
  refine hrun.invariant (fun s => s.roomManager.Consistent) (.empty ..) fun s e s' h hstep => ?_
  rw [hstep]
  exact consistent_handle h e

end BattleServer

end AxmolFighter.Battle
