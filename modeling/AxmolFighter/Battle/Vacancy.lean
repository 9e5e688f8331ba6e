import AxmolFighter.Battle.Creation
import AxmolFighter.Battle.Limits

/-!
# Empty rooms

A room goes away with its last player, but it is there before its first. So what a battle creation has
to see to is that a room which it opens gets a player, and that it does not refuse a request for which
it has opened one. It does neither: if every player of the request is in another battle or cannot be
spawned, if there are none, or if the new room was the last one, the empty room stays. This module says
exactly which creations leave no empty room behind.
-/

namespace AxmolFighter.Battle

variable {World : Type} {G : Mugen World} {parser : Parser}

/-! ### The seats of a new room -/

/-- Whether one of the sessions `who` takes one of `seats` seats: the players come in their order, those
`elsewhere` are in another battle, and a player that cannot be spawned leaves the seat to the next. -/
def takesSeat (G : Mugen World) (elsewhere who : UInt32 → Bool) :
    Nat → BattleRoom World → List BattlePlayerSpec → Bool
  | 0, _, _ => false
  | _ + 1, _, [] => false
  | seats + 1, room, player :: players =>
      if elsewhere player.sessionId || room.hasPlayer player.sessionId then
        takesSeat G elsewhere who (seats + 1) room players
      else
        match room.addPlayer G player with
        | (room, false) => takesSeat G elsewhere who (seats + 1) room players
        | (room, true) => who player.sessionId || takesSeat G elsewhere who seats room players

section TakesSeat

variable {elsewhere who : UInt32 → Bool} {seats : Nat} {room : BattleRoom World}
  {player : BattlePlayerSpec} {players : List BattlePlayerSpec}

theorem takesSeat_zero : takesSeat G elsewhere who 0 room players = false := by
  cases players <;> rfl

theorem takesSeat_nil : takesSeat G elsewhere who seats room [] = false := by
  cases seats <;> rfl

theorem takesSeat_cons_seated (h : elsewhere player.sessionId = true ∨ room.hasPlayer player.sessionId = true) :
    takesSeat G elsewhere who seats room (player :: players) =
      takesSeat G elsewhere who seats room players := by
  cases seats with
  | zero => rw [takesSeat_zero, takesSeat_zero]
  | succ seats => rw [takesSeat, if_pos (by simpa using h)]

theorem takesSeat_cons_failed (helsewhere : elsewhere player.sessionId = false)
    (hnew : room.hasPlayer player.sessionId = false) (hfailed : (room.addPlayer G player).2 = false) :
    takesSeat G elsewhere who (seats + 1) room (player :: players) =
      takesSeat G elsewhere who (seats + 1) (room.addPlayer G player).1 players := by
  rw [takesSeat, if_neg (by simp [helsewhere, hnew])]
  generalize room.addPlayer G player = r at hfailed ⊢
  obtain ⟨room', ok⟩ := r
  obtain rfl : ok = false := hfailed
  rfl

theorem takesSeat_cons_added (helsewhere : elsewhere player.sessionId = false)
    (hnew : room.hasPlayer player.sessionId = false) (hadded : (room.addPlayer G player).2 = true) :
    takesSeat G elsewhere who (seats + 1) room (player :: players) =
      (who player.sessionId || takesSeat G elsewhere who seats (room.addPlayer G player).1 players) := by
  rw [takesSeat, if_neg (by simp [helsewhere, hnew])]
  generalize room.addPlayer G player = r at hadded ⊢
  obtain ⟨room', ok⟩ := r
  obtain rfl : ok = true := hadded
  rfl

theorem takesSeat_iff_exists : takesSeat G elsewhere who seats room players = true ↔
    ∃ sessionId, who sessionId = true ∧ takesSeat G elsewhere (· == sessionId) seats room players = true := by
  induction players generalizing seats room with
  | nil => simp [takesSeat_nil]
  | cons player players ih =>
      cases seats with
      | zero => simp [takesSeat_zero]
      | succ seats =>
          by_cases hseated : elsewhere player.sessionId = true ∨ room.hasPlayer player.sessionId = true
          · simp only [takesSeat_cons_seated hseated]
            exact ih
          · simp only [not_or, Bool.not_eq_true] at hseated
            rcases hok : (room.addPlayer G player).2 with _ | _
            · simp only [takesSeat_cons_failed hseated.1 hseated.2 hok]
              exact ih
            · simp only [takesSeat_cons_added hseated.1 hseated.2 hok, Bool.or_eq_true, beq_iff_eq, ih,
                and_or_left, exists_or, exists_eq_right']

theorem mem_of_takesSeat (h : takesSeat G elsewhere who seats room players = true) :
    ∃ player ∈ players, who player.sessionId = true := by
  induction players generalizing seats room with
  | nil => simp [takesSeat_nil] at h
  | cons player players ih =>
      rw [List.exists_mem_cons_iff]
      cases seats with
      | zero => simp [takesSeat_zero] at h
      | succ seats =>
          by_cases hseated : elsewhere player.sessionId = true ∨ room.hasPlayer player.sessionId = true
          · rw [takesSeat_cons_seated hseated] at h
            exact Or.inr (ih h)
          · simp only [not_or, Bool.not_eq_true] at hseated
            rcases hok : (room.addPlayer G player).2 with _ | _
            · rw [takesSeat_cons_failed hseated.1 hseated.2 hok] at h
              exact Or.inr (ih h)
            · rw [takesSeat_cons_added hseated.1 hseated.2 hok, Bool.or_eq_true] at h
              exact h.imp_right ih

end TakesSeat

namespace BattleRoomManager

variable {m : BattleRoomManager World}

/-- How many sessions may still be seated in the rooms that there are. -/
def freeSeats (m : BattleRoomManager World) : Nat :=
  if m.rooms.size < m.maxRooms.toNat then m.maxSessions.toNat - m.sessionToRoom.size else 0

theorem canAcceptSession_iff_freeSeats {sessionId : UInt32}
    (hsessions : m.sessionToRoom.size ≤ m.maxSessions.toNat)
    (hfree : m.sessionToRoom.get sessionId = none) :
    m.canAcceptSession sessionId = true ↔ 0 < m.freeSeats := by
  rw [canAcceptSession_iff hfree, UInt32.lt_iff_toNat_lt,
    activeSessionCount_toNat (by have := m.maxSessions.toNat_lt; omega), freeSeats]
  split_ifs <;> omega

/-- The room of a creation while its players are seated: those with a battle have it `elsewhere` or
here, and `seats` are left. -/
structure Seating (m : BattleRoomManager World) (elsewhere : UInt32 → Bool) (battleId : UInt32)
    (seats : Nat) (room : BattleRoom World) : Prop where
  filed : m.rooms.get battleId = some room
  id : room.battleId = battleId
  sessions : m.sessionToRoom.size ≤ m.maxSessions.toNat
  free : m.freeSeats = seats
  mapped : ∀ sessionId, m.sessionToRoom.contains sessionId = true ↔
    elsewhere sessionId = true ∨ room.hasPlayer sessionId = true

/-- A turn of the loop, for `player` with `players` to come. Who has a seat or is going to take one stays
the same, and the player is accepted exactly if it is in a battle afterwards. -/
structure Turned (G : Mugen World) (m : BattleRoomManager World) (elsewhere : UInt32 → Bool)
    (battleId : UInt32) (player : BattlePlayerSpec) (players : List BattlePlayerSpec) (seats : Nat)
    (room : BattleRoom World) (seats' : Nat) (room' : BattleRoom World)
    (result : BattleRoomManager World × Bool) : Prop where
  seating : result.1.Seating elsewhere battleId seats' room'
  others : ∀ b, b ≠ battleId → result.1.findRoom b = m.findRoom b
  accepted : result.2 = true ↔
    elsewhere player.sessionId = true ∨ room'.hasPlayer player.sessionId = true
  takers : ∀ sessionId, (room.hasPlayer sessionId = true ∨
      takesSeat G elsewhere (· == sessionId) seats room (player :: players) = true) ↔
    (room'.hasPlayer sessionId = true ∨
      takesSeat G elsewhere (· == sessionId) seats' room' players = true)

variable {elsewhere : UInt32 → Bool} {battleId : UInt32} {seats : Nat} {room : BattleRoom World}
  {player : BattlePlayerSpec}

theorem Seating.turn_mapped (h : m.Seating elsewhere battleId seats room)
    (hmapped : m.sessionToRoom.contains player.sessionId = true) (players : List BattlePlayerSpec) :
    Turned G m elsewhere battleId player players seats room seats room (m, true) := by
  have hseated := (h.mapped _).1 hmapped
  refine ⟨h, fun _ _ => rfl, iff_of_true rfl hseated, fun sessionId => ?_⟩
  rw [takesSeat_cons_seated hseated]

theorem Seating.turn_full (h : m.Seating elsewhere battleId 0 room)
    (hmapped : ¬ m.sessionToRoom.contains player.sessionId = true) (players : List BattlePlayerSpec) :
    Turned G m elsewhere battleId player players 0 room 0 room (m, false) := by
  refine ⟨h, fun _ _ => rfl, iff_of_false Bool.false_ne_true (mt (h.mapped _).2 hmapped),
    fun sessionId => ?_⟩
  rw [takesSeat_zero, takesSeat_zero]

theorem freeSeats_insert_room {room' : BattleRoom World} (hroom : m.rooms.get battleId = some room) :
    freeSeats { m with rooms := m.rooms.insert battleId room' } = m.freeSeats := by
  simp only [freeSeats, Table.size_insert_old _ _ _ hroom]

theorem Seating.turn_failed (h : m.Seating elsewhere battleId (seats + 1) room)
    (hmapped : ¬ m.sessionToRoom.contains player.sessionId = true)
    (hok : (room.addPlayer G player).2 = false) (players : List BattlePlayerSpec) :
    Turned G m elsewhere battleId player players (seats + 1) room (seats + 1) (room.addPlayer G player).1
      ({ m with rooms := m.rooms.insert battleId (room.addPlayer G player).1 }, false) := by
  have hnew := mt (h.mapped _).2 hmapped
  have hplayers : ∀ sessionId, (room.addPlayer G player).1.hasPlayer sessionId = true ↔
      room.hasPlayer sessionId = true := by
    refine fun sessionId => ⟨fun hhas => ?_, BattleRoom.addPlayer_keeps player⟩
    exact (BattleRoom.addPlayer_only player hhas).resolve_right (by simp [hok])
  refine ⟨⟨Table.get_insert_self .., ?_, h.sessions, ?_, fun sessionId => ?_⟩,
    fun b hb => Table.get_insert_ne _ _ hb, ?_, fun sessionId => ?_⟩
  · rw [BattleRoom.battleId, (BattleRoom.addPlayer_cases G room player).1]
    exact h.id
  · rw [freeSeats_insert_room h.filed]
    exact h.free
  · rw [h.mapped, hplayers]
  · rw [hplayers]
    exact iff_of_false Bool.false_ne_true hnew
  · simp only [not_or, Bool.not_eq_true] at hnew
    rw [takesSeat_cons_failed hnew.1 hnew.2 hok, hplayers]

theorem Seating.turn_added (h : m.Seating elsewhere battleId (seats + 1) room)
    (hmapped : ¬ m.sessionToRoom.contains player.sessionId = true)
    (hok : (room.addPlayer G player).2 = true) (players : List BattlePlayerSpec) :
    Turned G m elsewhere battleId player players (seats + 1) room seats (room.addPlayer G player).1
      ({ m with
          rooms := m.rooms.insert battleId (room.addPlayer G player).1
          sessionToRoom := m.sessionToRoom.insert player.sessionId battleId }, true) := by
  have hnew := mt (h.mapped _).2 hmapped
  have hplayers : ∀ sessionId, (room.addPlayer G player).1.hasPlayer sessionId = true ↔
      room.hasPlayer sessionId = true ∨ player.sessionId = sessionId := by
    refine fun sessionId => ⟨fun hhas => ?_, ?_⟩
    · exact (BattleRoom.addPlayer_only player hhas).imp_right fun h => h.2.symm
    · rintro (hhas | rfl)
      · exact BattleRoom.addPlayer_keeps player hhas
      · exact BattleRoom.addPlayer_hasPlayer player hok
  have hsize := Table.size_insert_new m.sessionToRoom _ battleId (Option.not_isSome_iff_eq_none.1 hmapped)
  have hfree := h.free
  rw [freeSeats] at hfree
  refine ⟨⟨Table.get_insert_self .., ?_, ?_, ?_, fun sessionId => ?_⟩,
    fun b hb => Table.get_insert_ne _ _ hb, ?_, fun sessionId => ?_⟩
  · rw [BattleRoom.battleId, (BattleRoom.addPlayer_cases G room player).1]
    exact h.id
  · dsimp only
    split_ifs at hfree
    omega
  · simp only [freeSeats, Table.size_insert_old _ _ _ h.filed, hsize]
    split_ifs at hfree ⊢
    omega
  · rw [hplayers, ← or_assoc, ← h.mapped, Table.contains_iff, Table.contains_iff]
    simp only [Table.get_insert]
    split_ifs with hs
    · simp [hs]
    · simp [Ne.symm hs]
  · exact iff_of_true rfl (Or.inr ((hplayers _).2 (Or.inr rfl)))
  · simp only [not_or, Bool.not_eq_true] at hnew
    rw [takesSeat_cons_added hnew.1 hnew.2 hok, hplayers, Bool.or_eq_true, beq_iff_eq, or_assoc]

theorem Seating.turn (h : m.Seating elsewhere battleId seats room) (player : BattlePlayerSpec)
    (players : List BattlePlayerSpec) :
    ∃ seats' room', Turned G m elsewhere battleId player players seats room seats' room'
      (m.addPlayerToRoom G battleId player) := by
  by_cases hmapped : m.sessionToRoom.contains player.sessionId = true
  · rw [addPlayerToRoom, if_pos hmapped]
    exact ⟨_, _, h.turn_mapped hmapped players⟩
  · have haccept := canAcceptSession_iff_freeSeats h.sessions (Option.not_isSome_iff_eq_none.1 hmapped)
    rw [h.free] at haccept
    rw [addPlayerToRoom, if_neg hmapped]
    cases seats with
    | zero =>
        rw [Bool.eq_false_iff.2 (mt haccept.1 (Nat.lt_irrefl 0))]
        exact ⟨_, _, h.turn_full hmapped players⟩
    | succ seats =>
        rw [haccept.2 (Nat.succ_pos seats), h.filed]
        simp only [Bool.not_true, Bool.false_eq_true, if_false]
        have hconfig := (BattleRoom.addPlayer_cases G room player).1
        obtain ⟨room', ok, hadd⟩ : ∃ room' ok, room.addPlayer G player = (room', ok) := ⟨_, _, rfl⟩
        have hfailed := @Seating.turn_failed World G m elsewhere battleId seats room player h hmapped
        have hadded := @Seating.turn_added World G m elsewhere battleId seats room player h hmapped
        rw [hadd] at hconfig hfailed hadded ⊢
        cases ok with
        | false => exact ⟨_, _, hfailed rfl players⟩
        | true =>
            have hid : room'.battleId = battleId := by
              rw [BattleRoom.battleId, hconfig]
              exact h.id
            dsimp only
            rw [hid]
            exact ⟨_, _, hadded rfl players⟩

end BattleRoomManager

namespace BattleServer

open BattleRoomManager

/-- What the loop leaves behind: the room with those that had or took a seat, and `joined` if one of the
players that the frame asks for is in a battle. -/
theorem seatPlayers_takers {elsewhere : UInt32 → Bool} {battleId : UInt32} (frameSession : UInt32)
    {seats : Nat} {room : BattleRoom World} {seated : Seated World}
    (h : seated.manager.Seating elsewhere battleId seats room) (players : List BattlePlayerSpec) :
    ∃ room', (players.foldl (seatPlayer G battleId frameSession) seated).manager.findRoom battleId =
        some room' ∧
      (∀ b, b ≠ battleId → (players.foldl (seatPlayer G battleId frameSession) seated).manager.findRoom b =
        seated.manager.findRoom b) ∧
      (∀ sessionId, room'.hasPlayer sessionId = true ↔ room.hasPlayer sessionId = true ∨
        takesSeat G elsewhere (· == sessionId) seats room players = true) ∧
      ((players.foldl (seatPlayer G battleId frameSession) seated).joined = true ↔
        seated.joined = true ∨ ∃ player ∈ players,
          (player.sessionId = frameSession ∨ frameSession = 0) ∧
            (elsewhere player.sessionId = true ∨ room'.hasPlayer player.sessionId = true)) := by
  induction players generalizing seated seats room with
  | nil =>
      refine ⟨room, h.filed, fun _ _ => rfl, fun sessionId => ?_, ?_⟩
      · simp [takesSeat_nil]
      · simp
  | cons player players ih =>
      obtain ⟨seats', next, hturn⟩ := h.turn player players
      have hnext : (seatPlayer G battleId frameSession seated player).manager.Seating elsewhere battleId
          seats' next := by
        rw [seatPlayer_manager]
        exact hturn.seating
      have hjoined : (seatPlayer G battleId frameSession seated player).joined = true ↔
          seated.joined = true ∨ (player.sessionId = frameSession ∨ frameSession = 0) ∧
            (elsewhere player.sessionId = true ∨ next.hasPlayer player.sessionId = true) := by
        rw [← hturn.accepted, seatPlayer]
        generalize seated.manager.addPlayerToRoom G battleId player = r
        obtain ⟨manager, ok⟩ := r
        cases ok with
        | false => simp
        | true =>
            simp only [Bool.not_true, Bool.false_eq_true, if_false, and_true]
            split_ifs with hasked
            · simp [hasked]
            · simp [hasked]
      obtain ⟨room', hroom, hothers, hplayers, hloop⟩ := ih hnext
      refine ⟨room', hroom, fun b hb => ?_, fun sessionId => ?_, ?_⟩
      · rw [List.foldl_cons, hothers b hb, seatPlayer_manager, hturn.others b hb]
      · rw [hplayers, hturn.takers]
      · rw [List.foldl_cons, hloop, hjoined, List.exists_mem_cons_iff, or_assoc]
        refine or_congr_right ⟨?_, ?_⟩
        · rintro (⟨hasked, hseat⟩ | hlater)
          · exact Or.inl ⟨hasked, hseat.imp_right fun hhas => (hplayers _).2 (Or.inl hhas)⟩
          · exact Or.inr hlater
        · rintro (⟨hasked, hseat | hhas⟩ | hlater)
          · exact Or.inl ⟨hasked, Or.inl hseat⟩
          · rcases (hplayers _).1 hhas with hnow | htakes
            · exact Or.inl ⟨hasked, Or.inr hnow⟩
            · -- the session gets its seat with a later player of the list
              obtain ⟨later, hmem, hsame⟩ := mem_of_takesSeat htakes
              rw [beq_iff_eq] at hsame
              exact Or.inr ⟨later, hmem, hsame ▸ hasked, Or.inr (hsame ▸ hhas)⟩
          · exact Or.inr hlater

/-! ### Creations that leave no empty room -/

/-- The request makes the server open `room`. -/
structure Opens (G : Mugen World) (s : BattleServer World) (req : BattleCreateReq)
    (room : BattleRoom World) : Prop where
  id : req.battleId ≠ 0
  fresh : s.roomManager.findRoom req.battleId = none
  rooms : s.roomManager.rooms.size < s.roomManager.maxRooms.toNat
  init : BattleRoom.init G (s.roomConfig req).1 = some room

/-- The sessions that may be seated once one more room is open. -/
def newSeats (m : BattleRoomManager World) : Nat :=
  if m.rooms.size + 1 < m.maxRooms.toNat then m.maxSessions.toNat - m.sessionToRoom.size else 0

/-- A request for a new room brings a player that takes a seat in it; and if the frame names a session,
then this session is one of the players and in some battle, or takes a seat. -/
def Fills (G : Mugen World) (s : BattleServer World) (frameSession : UInt32) (req : BattleCreateReq)
    (room : BattleRoom World) : Prop :=
  takesSeat G s.roomManager.sessionToRoom.contains (fun _ => true) (newSeats s.roomManager) room
      req.players = true ∧
    (frameSession = 0 ∨
      takesSeat G s.roomManager.sessionToRoom.contains (· == frameSession) (newSeats s.roomManager) room
        req.players = true ∨
      s.roomManager.sessionToRoom.contains frameSession = true ∧
        ∃ player ∈ req.players, player.sessionId = frameSession)

/-- Creations that open a room fill it. -/
def Orderly (G : Mugen World) (parser : Parser) (s : BattleServer World) : Event → Prop
  | .serverRequest frame => frame.msgId = BattleCreateReq.id → ∀ req room,
      parser.battleCreateReq frame.payload = some req → Opens G s req room →
        Fills G s frame.sessionId req room
  | _ => True

def NoEmptyRoom (m : BattleRoomManager World) : Prop :=
  ∀ b room, m.findRoom b = some room → room.isEmpty = false

/-- The event leaves no empty room, and a creation that it refuses leaves rooms and sessions as they
were. -/
def Clean (G : Mugen World) (parser : Parser) (s : BattleServer World) (e : Event) : Prop :=
  NoEmptyRoom (s.handle G parser e).1.roomManager ∧
    ∀ frame, e = .serverRequest frame → frame.msgId = BattleCreateReq.id →
      (s.onBattleCreate G parser frame).2.1.code ≠ 0 →
        (s.handle G parser e).1.roomManager.rooms = s.roomManager.rooms ∧
          (s.handle G parser e).1.roomManager.sessionToRoom = s.roomManager.sessionToRoom

/-! ### What keeps rooms inhabited -/

theorem NoEmptyRoom.removePlayer {m : BattleRoomManager World} (h : NoEmptyRoom m) (hconsistent : m.Consistent)
    (sessionId : UInt32) : NoEmptyRoom (m.removePlayer sessionId) := by
  unfold BattleRoomManager.removePlayer
  split
  · exact h
  · rename_i battleId _
    dsimp only
    split
    · exact h
    · rename_i room hroom
      have hid : (room.removePlayer sessionId).battleId = battleId := hconsistent.filed battleId room hroom
      intro b room' hroom'
      rw [hid] at hroom'
      split_ifs at hroom' with hempty
      · simp only [findRoom, Table.get_remove, Table.get_insert] at hroom'
        split_ifs at hroom' with hb
        exact h b room' hroom'
      · simp only [findRoom, Table.get_insert] at hroom'
        split_ifs at hroom' with hb
        · cases hroom'
          exact Bool.eq_false_of_not_eq_true hempty
        · exact h b room' hroom'

theorem NoEmptyRoom.tickAll {m : BattleRoomManager World} (h : NoEmptyRoom m) (dt : Float32) :
    NoEmptyRoom (m.tickAll G dt) := by
  intro b room hroom
  simp only [findRoom, BattleRoomManager.tickAll, Table.get_mapValues, Option.map_eq_some_iff] at hroom
  obtain ⟨old, hold, rfl⟩ := hroom
  rw [BattleRoom.isEmpty_tick]
  exact h b old hold

theorem NoEmptyRoom.onBattleInput {s : BattleServer World} (h : NoEmptyRoom s.roomManager)
    (sessionId : UInt32) (frame : BackendFrame) :
    NoEmptyRoom (s.onBattleInput G parser sessionId frame).roomManager := by
  unfold BattleServer.onBattleInput
  split
  · exact h
  · split
    · exact h
    · rename_i input _ battleId room hfind
      split_ifs
      · exact h
      · simp only [findRoomBySession, Option.bind_eq_bind, Option.bind_eq_some_iff] at hfind
        obtain ⟨b, -, room', hroom, heq⟩ := hfind
        cases heq
        intro b' room' hroom'
        simp only [findRoom, Table.get_insert] at hroom'
        split_ifs at hroom' with hb
        · cases hroom'
          rw [BattleRoom.isEmpty_applyInput]
          exact h _ _ hroom
        · exact h b' room' hroom'

theorem createRoom_of_opens {s : BattleServer World} {req : BattleCreateReq} {room : BattleRoom World}
    (hopens : Opens G s req room) : s.roomManager.createRoom G (s.roomConfig req).1 =
      ({ s.roomManager with rooms := s.roomManager.rooms.insert req.battleId room }, some req.battleId) := by
  have hnew : s.roomManager.rooms.contains req.battleId = false := by
    rw [Table.contains, show s.roomManager.rooms.get req.battleId = none from hopens.fresh]
    rfl
  simp only [createRoom, roomConfig_battleId, hopens.id, hnew, hopens.init, Nat.not_le.2 hopens.rooms, if_false,
    Bool.false_eq_true]

theorem onBattleCreate_opens {s : BattleServer World} {frame : BackendFrame} {req : BattleCreateReq}
    {room : BattleRoom World} (hparse : parser.battleCreateReq frame.payload = some req)
    (hopens : Opens G s req room) :
    s.onBattleCreate G parser frame =
      { s with randomSeed := (s.roomConfig req).2 }.answerSeated G req req.battleId
        (req.players.foldl (seatPlayer G req.battleId frame.sessionId)
          { manager := { s.roomManager with rooms := s.roomManager.rooms.insert req.battleId room } }) := by
  simp only [onBattleCreate, hparse, hopens.fresh]
  rw [createRoom_of_opens hopens]

theorem createRoom_of_not_opens {s : BattleServer World} {req : BattleCreateReq}
    (hfind : s.roomManager.findRoom req.battleId = none) (hnot : ∀ room, ¬ Opens G s req room) :
    s.roomManager.createRoom G (s.roomConfig req).1 = (s.roomManager, none) := by
  unfold createRoom
  split_ifs with hzero hexists hfull
  · rfl
  · rw [Table.contains, roomConfig_battleId, show s.roomManager.rooms.get req.battleId = none from hfind] at hexists
    cases hexists
  · rfl
  · rcases hinit : BattleRoom.init G (s.roomConfig req).1 with _ | room
    · rfl
    · exact absurd ⟨hzero, hfind, Nat.not_le.1 hfull, hinit⟩ (hnot room)

theorem onBattleCreate_same {s : BattleServer World} {frame : BackendFrame}
    (hnot : ∀ req room, parser.battleCreateReq frame.payload = some req → ¬ Opens G s req room) :
    (s.onBattleCreate G parser frame).1.roomManager = s.roomManager := by
  rcases hparse : parser.battleCreateReq frame.payload with _ | req
  · simp [onBattleCreate, hparse]
  · rcases hfind : s.roomManager.findRoom req.battleId with _ | existing
    · simp [onBattleCreate, hparse, hfind, createRoom_of_not_opens hfind fun room => hnot req room hparse]
    · simp [onBattleCreate, hparse, hfind]

theorem turn_of_opens {s : BattleServer World} (frame : BackendFrame) {req : BattleCreateReq}
    {room : BattleRoom World} (hopens : Opens G s req room) :
    (req.players.foldl (seatPlayer G req.battleId frame.sessionId)
        { manager := { s.roomManager with rooms := s.roomManager.rooms.insert req.battleId room } }) =
          turn G s frame req req.players ∧
      ∃ room', (turn G s frame req req.players).manager.findRoom req.battleId = some room' := by
  refine ⟨by rw [turn, createRoom_of_opens hopens], turn_room ⟨room, ?_⟩ req.players⟩
  rw [createRoom_of_opens hopens]
  exact Table.get_insert_self ..

theorem onBattleCreate_findRoom {s : BattleServer World} {frame : BackendFrame} {req : BattleCreateReq}
    (hparse : parser.battleCreateReq frame.payload = some req) :
    (s.onBattleCreate G parser frame).1.roomManager.findRoom req.battleId = none ↔
      s.roomManager.findRoom req.battleId = none ∧ ∀ room, ¬ Opens G s req room := by
  by_cases hopens : ∃ room, Opens G s req room
  · obtain ⟨room, hopens⟩ := hopens
    obtain ⟨hturn, room', hroom'⟩ := turn_of_opens frame hopens
    rw [onBattleCreate_opens hparse hopens, answerSeated_manager, hturn, hroom']
    exact iff_of_false nofun fun h => h.2 room hopens
  · rw [onBattleCreate_same]
    · exact (and_iff_left (not_exists.1 hopens)).symm
    · intro req' room hparse' hopens'
      rw [hparse] at hparse'
      cases hparse'
      exact hopens ⟨room, hopens'⟩

theorem onBattleCreate_code {s : BattleServer World} {frame : BackendFrame} {req : BattleCreateReq}
    (hparse : parser.battleCreateReq frame.payload = some req) :
    (s.onBattleCreate G parser frame).2.1.code = 0 ↔ s.roomManager.findRoom req.battleId ≠ none ∨
      ∃ room, Opens G s req room ∧ ((turn G s frame req req.players).joined = true ∨ req.players = []) := by
  rcases hfind : s.roomManager.findRoom req.battleId with _ | existing
  · rw [or_iff_right (not_not.2 rfl)]
    by_cases hopens : ∃ room, Opens G s req room
    · obtain ⟨room, hopens⟩ := hopens
      obtain ⟨hturn, room', hroom'⟩ := turn_of_opens frame hopens
      rw [onBattleCreate_opens hparse hopens, hturn]
      unfold answerSeated
      dsimp only
      split_ifs with hjoined
      · refine iff_of_false (by decide : ¬ (refusal 4 "battle is full or spawn failed").code = 0) ?_
        rintro ⟨-, -, hseated | hempty⟩
        · rw [hseated] at hjoined
          exact absurd hjoined.1 (by decide)
        · exact hjoined.2 hempty
      · rw [hroom']
        refine iff_of_true rfl ⟨room, hopens, ?_⟩
        by_contra hrefused
        rw [not_or, Bool.not_eq_true] at hrefused
        exact hjoined ⟨by rw [hrefused.1]; rfl, hrefused.2⟩
    · simp only [onBattleCreate, hparse, hfind, createRoom_of_not_opens hfind (not_exists.1 hopens)]
      refine iff_of_false (by decide : ¬ (refusal 3 "create battle failed").code = 0) ?_
      rintro ⟨room, hroom, -⟩
      exact hopens ⟨room, hroom⟩
  · simp only [onBattleCreate, hparse, hfind]
    exact iff_of_true rfl (Or.inl (Option.some_ne_none existing))

/-- A creation that opens a room: everyone who takes a seat is in it afterwards, the other rooms are as
they were, and the code is 0 if there are no players or one that the frame asks for is in a battle. -/
theorem onBattleCreate_takers {s : BattleServer World} {frame : BackendFrame} {req : BattleCreateReq}
    {room : BattleRoom World} (hsessions : s.roomManager.sessionToRoom.size ≤ s.roomManager.maxSessions.toNat)
    (hparse : parser.battleCreateReq frame.payload = some req) (hopens : Opens G s req room) :
    ∃ room', (s.onBattleCreate G parser frame).1.roomManager.findRoom req.battleId = some room' ∧
      (∀ b, b ≠ req.battleId →
        (s.onBattleCreate G parser frame).1.roomManager.findRoom b = s.roomManager.findRoom b) ∧
      (∀ sessionId, room'.hasPlayer sessionId = true ↔
        takesSeat G s.roomManager.sessionToRoom.contains (· == sessionId) (newSeats s.roomManager) room
          req.players = true) ∧
      ((s.onBattleCreate G parser frame).2.1.code = 0 ↔ req.players = [] ∨ ∃ player ∈ req.players,
        (player.sessionId = frame.sessionId ∨ frame.sessionId = 0) ∧
          (s.roomManager.sessionToRoom.contains player.sessionId = true ∨
            room'.hasPlayer player.sessionId = true)) := by
  obtain ⟨world, hroom⟩ := BattleRoom.init_eq_some hopens.init
  have hnobody : ∀ sessionId, room.hasPlayer sessionId = false := by
    simp [hroom, BattleRoom.hasPlayer, Table.contains]
  let seated : Seated World :=
    { manager := { s.roomManager with rooms := s.roomManager.rooms.insert req.battleId room } }
  have hseating : seated.manager.Seating s.roomManager.sessionToRoom.contains req.battleId
      (newSeats s.roomManager) room := by
    refine ⟨Table.get_insert_self .., by rw [hroom]; rfl, hsessions, ?_, fun sessionId => by
      simp [seated, hnobody]⟩
    simp only [freeSeats, newSeats, seated, Table.size_insert_new _ _ _ hopens.fresh]
  obtain ⟨room', hfind, hothers, hplayers, hjoined⟩ :=
    seatPlayers_takers frame.sessionId hseating req.players
  refine ⟨room', ?_, fun b hb => ?_, fun sessionId => ?_, ?_⟩
  · rw [onBattleCreate_opens hparse hopens, answerSeated_manager]
    exact hfind
  · rw [onBattleCreate_opens hparse hopens, answerSeated_manager, hothers b hb]
    exact Table.get_insert_ne _ _ hb
  · rw [hplayers, hnobody]
    simp
  · rw [show seated.joined = true ↔ False by simp [seated], false_or] at hjoined
    rw [onBattleCreate_opens hparse hopens, answerSeated, ← hjoined, hfind]
    dsimp only
    split_ifs with hrefused
    · refine iff_of_false (by decide : ¬ (refusal 4 "battle is full or spawn failed").code = 0) ?_
      simpa [and_comm] using hrefused
    · refine iff_of_true rfl ?_
      by_contra hnot
      simp only [not_or, Bool.not_eq_true] at hnot
      exact hrefused ⟨congrArg not hnot.2, hnot.1⟩

theorem clean_opens {s : BattleServer World} {frame : BackendFrame} {req : BattleCreateReq}
    {room : BattleRoom World} (h : NoEmptyRoom s.roomManager)
    (hsessions : s.roomManager.sessionToRoom.size ≤ s.roomManager.maxSessions.toNat)
    (hid : frame.msgId = BattleCreateReq.id) (hparse : parser.battleCreateReq frame.payload = some req)
    (hopens : Opens G s req room) :
    Clean G parser s (.serverRequest frame) ↔ Fills G s frame.sessionId req room := by
  obtain ⟨room', hfind, hothers, hplayers, hcode⟩ :=
    onBattleCreate_takers hsessions hparse hopens
  have hhandle : (s.handle G parser (.serverRequest frame)).1 = (s.onBattleCreate G parser frame).1 := by
    simp only [handle, if_pos hid]
  have hempty : room'.isEmpty = false ↔ takesSeat G s.roomManager.sessionToRoom.contains (fun _ => true)
      (newSeats s.roomManager) room req.players = true := by
    rw [BattleRoom.isEmpty_eq_false_iff, takesSeat_iff_exists]
    simp only [hplayers, true_and]
  rw [Clean, hhandle]
  constructor
  · rintro ⟨hrooms, hrefused⟩
    have hfills := hempty.1 (hrooms _ _ hfind)
    refine ⟨hfills, ?_⟩
    have hzero : (s.onBattleCreate G parser frame).2.1.code = 0 := by
      by_contra hne
      have hsame := (hrefused frame rfl hid hne).1
      rw [findRoom, hsame, show s.roomManager.rooms.get req.battleId = none from hopens.fresh] at hfind
      cases hfind
    rcases hcode.1 hzero with hnil | ⟨player, hplayer, hasked, hseat⟩
    · rw [hnil, takesSeat_nil] at hfills
      cases hfills
    · rcases hasked with hsession | hsession
      · rw [hsession, hplayers] at hseat
        rcases hseat with hmapped | htakes
        · exact Or.inr (Or.inr ⟨hmapped, player, hplayer, hsession⟩)
        · exact Or.inr (Or.inl htakes)
      · exact Or.inl hsession
  · rintro ⟨hfills, hasked⟩
    have hzero : (s.onBattleCreate G parser frame).2.1.code = 0 := by
      refine hcode.2 (Or.inr ?_)
      rcases hasked with hsession | htakes | ⟨hmapped, player, hplayer, hsession⟩
      · obtain ⟨sessionId, -, htakes⟩ := takesSeat_iff_exists.1 hfills
        obtain ⟨player, hplayer, hsame⟩ := mem_of_takesSeat htakes
        rw [beq_iff_eq] at hsame
        exact ⟨player, hplayer, Or.inr hsession, Or.inr ((hplayers _).2 (hsame ▸ htakes))⟩
      · obtain ⟨player, hplayer, hsame⟩ := mem_of_takesSeat htakes
        rw [beq_iff_eq] at hsame
        exact ⟨player, hplayer, Or.inl hsame, Or.inr ((hplayers _).2 (hsame ▸ htakes))⟩
      · exact ⟨player, hplayer, Or.inl hsession, Or.inl (hsession ▸ hmapped)⟩
    refine ⟨fun b room₀ hroom₀ => ?_, fun frame' heq _ hne => ?_⟩
    · by_cases hb : b = req.battleId
      · rw [hb, hfind] at hroom₀
        cases hroom₀
        exact hempty.2 hfills
      · rw [hothers b hb] at hroom₀
        exact h b room₀ hroom₀
    · cases heq
      exact absurd hzero hne

theorem clean_iff_orderly {s : BattleServer World} (h : NoEmptyRoom s.roomManager)
    (hconsistent : s.roomManager.Consistent)
    (hsessions : s.roomManager.sessionToRoom.size ≤ s.roomManager.maxSessions.toNat) (e : Event) :
    Clean G parser s e ↔ Orderly G parser s e := by
  cases e with
  | serverRequest frame =>
      by_cases hid : frame.msgId = BattleCreateReq.id
      · by_cases hopens : ∃ req room, parser.battleCreateReq frame.payload = some req ∧ Opens G s req room
        · obtain ⟨req, room, hparse, hopens⟩ := hopens
          rw [clean_opens h hsessions hid hparse hopens]
          refine ⟨fun hfills _ req' room' hparse' hopens' => ?_, fun horderly =>
            horderly hid req room hparse hopens⟩
          rw [hparse] at hparse'
          cases hparse'
          have hroom := hopens'.init
          rw [hopens.init] at hroom
          cases hroom
          exact hfills
        · have hsame : (s.handle G parser (.serverRequest frame)).1.roomManager = s.roomManager := by
            simp only [handle, if_pos hid]
            exact onBattleCreate_same fun req room hparse ho => hopens ⟨req, room, hparse, ho⟩
          rw [Clean, hsame]
          exact iff_of_true ⟨h, fun _ _ _ _ => ⟨rfl, rfl⟩⟩ fun _ req room hparse ho =>
            absurd ⟨req, room, hparse, ho⟩ hopens
      · refine iff_of_true ⟨?_, fun frame' heq hid' _ => ?_⟩ fun hid' => absurd hid' hid
        · simp only [handle, if_neg hid]
          exact h
        · cases heq
          exact absurd hid' hid
  | clientPush sessionId frame =>
      refine iff_of_true ⟨?_, fun frame' heq => by cases heq⟩ trivial
      simp only [handle]
      split_ifs
      · exact h.onBattleInput sessionId frame
      · exact h
  | sessionOffline sessionId =>
      exact iff_of_true ⟨h.removePlayer hconsistent sessionId, fun frame' heq => by cases heq⟩ trivial
  | tick dt => exact iff_of_true ⟨h.tickAll dt, fun frame' heq => by cases heq⟩ trivial

/-! ### Runs -/

theorem bounded_handle {s : BattleServer World} {maxRooms maxSessions : UInt32}
    (h : s.roomManager.Bounded maxRooms maxSessions) (e : Event) :
    (s.handle G parser e).1.roomManager.Bounded maxRooms maxSessions := by
  refine handle_keeps (fun m => m.Bounded maxRooms maxSessions) (fun _ config h => h.createRoom config)
    (fun _ battleId spec h => h.addPlayerToRoom battleId spec)
    (fun _ sessionId h => h.removePlayer sessionId) (fun _ dt h => h.tickAll dt)
    (fun m b room sessionId clientFrame inputMask h hroom => ?_) h e
  obtain ⟨hconfig, -, hsize⟩ := BattleRoom.applyInput_frame (G := G) room sessionId clientFrame inputMask
  refine ⟨h.roomLimit, h.sessionLimit, ?_, h.sessions, h.insert_players ?_⟩
  · show (m.rooms.insert _ _).size ≤ _
    rw [Table.size_insert_old _ _ _ hroom]
    exact h.rooms
  · rw [hconfig, hsize]
    exact h.players b room hroom

/-- A step with the simulation as it behaves in this step. -/
def StepAs (parser : Parser) (s : BattleServer World) (e : Mugen World × Event) (s' : BattleServer World) :
    Prop :=
  Step e.1 parser s e.2 s'

/-- The events of a run are all clean exactly if they are all orderly; then no room is empty. -/
theorem clean_of_run {config : BattleServerConfig} {s : BattleServer World}
    {trace : List (BattleServer World × Mugen World × Event)}
    (hrun : Run (StepAs parser) (init config) trace s) :
    ((∀ e ∈ trace, Clean e.2.1 parser e.1 e.2.2) ↔ ∀ e ∈ trace, Orderly e.2.1 parser e.1 e.2.2) ∧
      ((∀ e ∈ trace, Orderly e.2.1 parser e.1 e.2.2) → NoEmptyRoom s.roomManager) := by
  have hinv : s.roomManager.Consistent ∧ s.roomManager.Bounded config.maxBattles config.maxSessions ∧
      ((∀ e ∈ trace, Clean e.2.1 parser e.1 e.2.2) ↔ ∀ e ∈ trace, Orderly e.2.1 parser e.1 e.2.2) ∧
      ((∀ e ∈ trace, Orderly e.2.1 parser e.1 e.2.2) → NoEmptyRoom s.roomManager) := by
    induction hrun with
    | start =>
        refine ⟨.empty .., .empty .., by simp, fun _ b room hroom => ?_⟩
        simp [init, findRoom] at hroom
    | @next trace s s' e hrun hstep ih =>
        obtain ⟨hconsistent, hbounded, hiff, hempty⟩ := ih
        have hsessions := hbounded.sessions
        rw [← hbounded.sessionLimit] at hsessions
        have hone : (∀ e ∈ trace, Orderly e.2.1 parser e.1 e.2.2) →
            (Clean e.1 parser s e.2 ↔ Orderly e.1 parser s e.2) :=
          fun hall => clean_iff_orderly (hempty hall) hconsistent hsessions e.2
        rw [show s' = (s.handle e.1 parser e.2).1 from hstep]
        refine ⟨consistent_handle hconsistent e.2, bounded_handle hbounded e.2, ?_, fun hall => ?_⟩
        · simp only [List.forall_mem_append, List.forall_mem_singleton, hiff]
          exact and_congr_right hone
        · simp only [List.forall_mem_append, List.forall_mem_singleton] at hall
          exact ((hone hall.1).2 hall.2).1
  exact hinv.2.2

/-- A duel fills its room. -/
theorem clean_of_run_duel :
    ∃ s : BattleServer UInt32, Run (StepAs duelParser) (init {})
        [(init {}, Mugen.counting, .serverRequest (requestFrame [1]))] s ∧
      NoEmptyRoom s.roomManager ∧ s.roomManager.rooms.size = 1 := by
  have hrun : Run (StepAs duelParser) (init {})
      [(init {}, Mugen.counting, .serverRequest (requestFrame [1]))] _ := Run.start.next rfl
  refine ⟨_, hrun, (clean_of_run hrun).2 fun e he => ?_, by decide⟩
  rw [List.mem_singleton.1 he]
  intro _ req room hparse hopens
  obtain rfl : duelReq = req := Option.some.inj hparse
  obtain rfl := Option.some.inj hopens.init
  exact ⟨by decide, Or.inl rfl⟩

/-- The simulation without any role, as if its configuration were missing. -/
def noRoles : Mugen UInt32 := { Mugen.counting with hasRoleConfig := fun _ => false }

/-- Nobody can be spawned: the creation is refused, and its empty room stays. -/
theorem refused_room_stays :
    ∃ s : BattleServer UInt32, Run (StepAs duelParser) (init {})
        [(init {}, noRoles, .serverRequest (requestFrame [1]))] s ∧
      ((init {}).onBattleCreate noRoles duelParser (requestFrame [1])).2.1.code = 4 ∧
      s.roomManager.rooms ≠ (init {} : BattleServer UInt32).roomManager.rooms ∧
      ¬ NoEmptyRoom s.roomManager := by
  refine ⟨_, Run.start.next rfl, by decide, fun h => ?_, fun h => ?_⟩
  · exact absurd (congrArg Table.size h) (by decide)
  · exact absurd (h 1 _ rfl) (by decide)

end BattleServer

end AxmolFighter.Battle
