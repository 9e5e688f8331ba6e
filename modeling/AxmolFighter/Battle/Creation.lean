import AxmolFighter.Battle.Capacity
import Mathlib.Data.List.Induction

/-!
# What a successful battle creation says

The answer with code 0 shows the room with the requested battle id as it is: its seats and their
actors, each mapped to the room. For a battle that exists already nothing changes, whoever the request
names. For a new one the seats are those of the request's players that `addPlayerToRoom` accepted.
-/

namespace AxmolFighter.Battle

variable {World : Type} {G : Mugen World} {parser : Parser}

namespace BattleServer

variable {s : BattleServer World} {frame : BackendFrame} {req : BattleCreateReq}

/-- The player has a slot in the room, is mapped to it and is listed with its actor. -/
def SeatsPlayer (result : BattleServer World × BattleCreateResp × List Output) (battleId : UInt32)
    (player : BattlePlayerSpec) : Prop :=
  ∃ room slot, result.1.roomManager.findRoom battleId = some room ∧
    room.players.get player.sessionId = some slot ∧
    result.1.roomManager.sessionToRoom.get player.sessionId = some battleId ∧
    { sessionId := player.sessionId, actorEntityId := slot.actorId } ∈ result.2.1.players

/-- The response lists the seats of the room with id `battleId`, all of them mapped to it. -/
structure Reports (m : BattleRoomManager World) (battleId : UInt32) (resp : BattleCreateResp) : Prop where
  id : resp.battleId = battleId
  room : ∃ room, m.findRoom battleId = some room ∧ ∀ spawn, spawn ∈ resp.players ↔
    ∃ slot, room.players.get spawn.sessionId = some slot ∧ slot.actorId = spawn.actorEntityId
  seats : ∀ spawn ∈ resp.players, m.Seats battleId spawn.sessionId

theorem makeBattleCreateResp_reports {m : BattleRoomManager World} (h : m.Consistent) {battleId : UInt32}
    {room : BattleRoom World} (hroom : m.findRoom battleId = some room) (actorId : UInt32) :
    Reports m battleId (s.makeBattleCreateResp G room actorId) := by
  have hplayers : ∀ spawn, spawn ∈ (s.makeBattleCreateResp G room actorId).players ↔
      ∃ slot, room.players.get spawn.sessionId = some slot ∧ slot.actorId = spawn.actorEntityId := by
    rintro ⟨sessionId, actorEntityId⟩
    simp only [makeBattleCreateResp, List.mem_map, Prod.exists, Table.mem_toList,
      BattlePlayerSpawn.mk.injEq]
    constructor
    · rintro ⟨_, slot, hslot, rfl, rfl⟩
      exact ⟨slot, hslot, rfl⟩
    · rintro ⟨slot, hslot, rfl⟩
      exact ⟨sessionId, slot, hslot, rfl, rfl⟩
  refine ⟨h.filed battleId room hroom, ⟨room, hroom, hplayers⟩, fun spawn hspawn => h.seats.2 ?_⟩
  obtain ⟨slot, hslot, -⟩ := (hplayers spawn).1 hspawn
  exact ⟨room, hroom, BattleRoom.hasPlayer_iff.2 ⟨slot, hslot⟩⟩

/-! ### The loop over the players -/

/-- The loop before the turn of the player after `before`. -/
def turn (G : Mugen World) (s : BattleServer World) (frame : BackendFrame) (req : BattleCreateReq)
    (before : List BattlePlayerSpec) : Seated World :=
  before.foldl (seatPlayer G req.battleId frame.sessionId)
    { manager := (s.roomManager.createRoom G (s.roomConfig req).1).1 }

theorem turn_succ (before : List BattlePlayerSpec) (player : BattlePlayerSpec) :
    (turn G s frame req (before ++ [player])).manager =
      ((turn G s frame req before).manager.addPlayerToRoom G req.battleId player).1 := by
  rw [turn, List.foldl_append, List.foldl_cons, List.foldl_nil, seatPlayer_manager]
  rfl

theorem turn_keeps {before : List BattlePlayerSpec} (after : List BattlePlayerSpec) {b sessionId : UInt32}
    (h : (turn G s frame req before).manager.Seats b sessionId) :
    (turn G s frame req (before ++ after)).manager.Seats b sessionId := by
  induction after using List.reverseRecOn with
  | nil => rwa [List.append_nil]
  | append_singleton after player ih =>
      rw [← List.append_assoc, turn_succ]
      exact BattleRoomManager.addPlayerToRoom_keeps ih

/-- What the loop has added to the new room: the sessions of players it has seen; and whoever it has
mapped anywhere, it has seated in this room. -/
structure Filled (m m' : BattleRoomManager World) (battleId : UInt32) (players : List BattlePlayerSpec) :
    Prop where
  consistent : m'.Consistent
  room : ∃ room, m'.findRoom battleId = some room
  only : ∀ sessionId, m'.Occupies battleId sessionId → ∃ player ∈ players, player.sessionId = sessionId
  mapped : ∀ sessionId b, m'.sessionToRoom.get sessionId = some b →
    m.sessionToRoom.get sessionId = some b ∨ b = battleId

theorem Filled.add {m m' : BattleRoomManager World} {battleId : UInt32}
    {players : List BattlePlayerSpec} (h : Filled m m' battleId players) (player : BattlePlayerSpec) :
    Filled m (m'.addPlayerToRoom G battleId player).1 battleId (players ++ [player]) := by
  have hconsistent := h.consistent.addPlayerToRoom (G := G) battleId player
  have honly : ∀ {sessionId}, m'.Occupies battleId sessionId →
      ∃ p ∈ players ++ [player], p.sessionId = sessionId := by
    intro sessionId hin
    obtain ⟨p, hp, hs⟩ := h.only sessionId hin
    exact ⟨p, List.mem_append_left _ hp, hs⟩
  have hinsert : ∀ {room : BattleRoom World} {sessionId}, m'.rooms.get battleId = some room →
      (room.addPlayer G player).1.hasPlayer sessionId = true →
        ∃ p ∈ players ++ [player], p.sessionId = sessionId := by
    intro room sessionId hroom hhas
    rcases BattleRoom.addPlayer_only player hhas with hold | ⟨-, rfl⟩
    · exact honly ⟨room, hroom, hold⟩
    · exact ⟨player, by simp, rfl⟩
  have hadded := BattleRoomManager.addPlayerToRoom_added G m' battleId player
  generalize m'.addPlayerToRoom G battleId player = r at hadded hconsistent ⊢
  cases hadded with
  | elsewhere _ => exact ⟨hconsistent, h.room, fun _ hin => honly hin, h.mapped⟩
  | refused _ _ => exact ⟨hconsistent, h.room, fun _ hin => honly hin, h.mapped⟩
  | failed _ hroom _ =>
      refine ⟨hconsistent, ⟨_, Table.get_insert_self ..⟩, ?_, h.mapped⟩
      rintro sessionId ⟨room, hfind, hhas⟩
      rw [BattleRoomManager.findRoom, Table.get_insert_self] at hfind
      cases hfind
      exact hinsert hroom hhas
  | seated _ _ hroom _ =>
      refine ⟨hconsistent, ⟨_, Table.get_insert_self ..⟩, ?_, fun sessionId b hb => ?_⟩
      · rintro sessionId ⟨room, hfind, hhas⟩
        rw [BattleRoomManager.findRoom, Table.get_insert_self] at hfind
        cases hfind
        exact hinsert hroom hhas
      · dsimp only at hb
        rw [Table.get_insert] at hb
        split_ifs at hb with hs
        · cases hb
          exact Or.inr (h.consistent.filed battleId _ hroom)
        · exact h.mapped sessionId b hb

theorem turn_filled (frame : BackendFrame) (h : s.roomManager.Consistent) {manager : BattleRoomManager World} {battleId : UInt32}
    (hnone : s.roomManager.findRoom req.battleId = none)
    (hcreate : s.roomManager.createRoom G (s.roomConfig req).1 = (manager, some battleId))
    (players : List BattlePlayerSpec) :
    Filled s.roomManager (turn G s frame req players).manager req.battleId players := by
  induction players using List.reverseRecOn with
  | nil =>
      have hconsistent := h.createRoom (G := G) (s.roomConfig req).1
      obtain ⟨-, room, hinit, rfl⟩ := BattleRoomManager.createRoom_new hnone hcreate
      obtain ⟨world, rfl⟩ := BattleRoom.init_eq_some hinit
      simp only [turn, List.foldl_nil, hcreate] at hconsistent ⊢
      refine ⟨hconsistent, ⟨_, Table.get_insert_self ..⟩, ?_, fun sessionId b hb => Or.inl hb⟩
      rintro sessionId ⟨room, hfind, hhas⟩
      rw [BattleRoomManager.findRoom, roomConfig_battleId, Table.get_insert_self] at hfind
      cases hfind
      simp [BattleRoom.hasPlayer, Table.contains] at hhas
  | append_singleton players player ih =>
      rw [turn_succ]
      exact ih.add player

/-- A player that was in no room and is accepted at its turn is in this room then. -/
theorem turn_seats (h : s.roomManager.Consistent) {manager : BattleRoomManager World} {battleId : UInt32}
    (hnone : s.roomManager.findRoom req.battleId = none)
    (hcreate : s.roomManager.createRoom G (s.roomConfig req).1 = (manager, some battleId))
    {before : List BattlePlayerSpec} {player : BattlePlayerSpec}
    (hfree : s.roomManager.sessionToRoom.get player.sessionId = none)
    (hok : ((turn G s frame req before).manager.addPlayerToRoom G req.battleId player).2 = true) :
    (turn G s frame req (before ++ [player])).manager.Seats req.battleId player.sessionId := by
  have hfilled := turn_filled frame h hnone hcreate before
  rw [turn_succ]
  have hadded := BattleRoomManager.addPlayerToRoom_added G (turn G s frame req before).manager
    req.battleId player
  generalize (turn G s frame req before).manager.addPlayerToRoom G req.battleId player = r at hok hadded ⊢
  cases hadded with
  | elsewhere hmapped =>
      rcases hfilled.mapped _ _ hmapped with hold | rfl
      · rw [hfree] at hold
        cases hold
      · exact ⟨hmapped, (hfilled.consistent.mapped _ _).1 hmapped⟩
  | refused _ _ => cases hok
  | failed _ _ _ => cases hok
  | seated _ _ hroom hseated =>
      refine ⟨?_, _, Table.get_insert_self .., BattleRoom.addPlayer_hasPlayer player hseated⟩
      rw [hfilled.consistent.filed _ _ hroom]
      exact Table.get_insert_self ..

theorem turn_room (h : ∃ room, (s.roomManager.createRoom G (s.roomConfig req).1).1.findRoom req.battleId = some room)
    (players : List BattlePlayerSpec) :
    ∃ room, (turn G s frame req players).manager.findRoom req.battleId = some room := by
  induction players using List.reverseRecOn with
  | nil => exact h
  | append_singleton players player ih =>
      rw [turn_succ]
      have hadded := BattleRoomManager.addPlayerToRoom_added G (turn G s frame req players).manager
        req.battleId player
      generalize (turn G s frame req players).manager.addPlayerToRoom G req.battleId player = r at hadded ⊢
      cases hadded with
      | elsewhere _ => exact ih
      | refused _ _ => exact ih
      | failed _ _ _ => exact ⟨_, Table.get_insert_self ..⟩
      | seated _ _ _ _ => exact ⟨_, Table.get_insert_self ..⟩

/-! ### The answer -/

theorem Reports.seatsPlayer {result : BattleServer World × BattleCreateResp × List Output}
    {battleId : UInt32} (h : Reports result.1.roomManager battleId result.2.1) {player : BattlePlayerSpec}
    (hseat : result.1.roomManager.Seats battleId player.sessionId) :
    SeatsPlayer result battleId player := by
  obtain ⟨room, hroom, hplayers⟩ := h.room
  obtain ⟨hmap, room', hroom', hhas⟩ := hseat
  rw [hroom] at hroom'
  cases hroom'
  obtain ⟨slot, hslot⟩ := BattleRoom.hasPlayer_iff.1 hhas
  exact ⟨room, slot, hroom, hslot, hmap, (hplayers _).2 ⟨slot, hslot, rfl⟩⟩

theorem onBattleCreate_config (s : BattleServer World) (frame : BackendFrame) :
    (s.onBattleCreate G parser frame).1.config = s.config := by
  unfold onBattleCreate
  split
  · rfl
  · split
    · rfl
    · dsimp only
      split
      · rfl
      · unfold answerSeated
        dsimp only
        split_ifs
        · rfl
        · split <;> rfl

/-- A success answers for an existing room or for the one the loop has filled. -/
theorem onBattleCreate_ok (hparse : parser.battleCreateReq frame.payload = some req)
    (hcode : (s.onBattleCreate G parser frame).2.1.code = 0) :
    (∃ room, s.roomManager.findRoom req.battleId = some room ∧
      (s.onBattleCreate G parser frame).1 = s ∧
      (s.onBattleCreate G parser frame).2.1 =
        s.makeBattleCreateResp G room (room.actorIdForSession G frame.sessionId)) ∨
    ∃ manager battleId room, s.roomManager.findRoom req.battleId = none ∧
      s.roomManager.createRoom G (s.roomConfig req).1 = (manager, some battleId) ∧
      (s.onBattleCreate G parser frame).1.roomManager = (turn G s frame req req.players).manager ∧
      (turn G s frame req req.players).manager.findRoom req.battleId = some room ∧
      (s.onBattleCreate G parser frame).2.1 =
        (s.onBattleCreate G parser frame).1.makeBattleCreateResp G room
          (turn G s frame req req.players).requesterActorId := by
  simp only [onBattleCreate, hparse] at hcode ⊢
  rcases hfind : s.roomManager.findRoom req.battleId with _ | room
  · right
    rw [hfind] at hcode
    dsimp only at hcode ⊢
    obtain ⟨manager, id, hcreate⟩ : ∃ manager id,
      s.roomManager.createRoom G (s.roomConfig req).1 = (manager, id) := ⟨_, _, rfl⟩
    rcases id with _ | battleId
    · rw [hcreate] at hcode
      exact absurd hcode (by decide : ¬ (refusal 3 "create battle failed").code = 0)
    · obtain ⟨rfl, -⟩ := BattleRoomManager.createRoom_new hfind hcreate
      have hturn : (req.players.foldl (seatPlayer G req.battleId frame.sessionId) { manager }) =
          turn G s frame req req.players := by rw [turn, hcreate]
      rw [hcreate] at hcode ⊢
      simp only [roomConfig_battleId, hturn, answerSeated] at hcode ⊢
      split_ifs at hcode ⊢ with hjoined
      · exact absurd hcode (by decide : ¬ (refusal 4 "battle is full or spawn failed").code = 0)
      · rcases hroom : (turn G s frame req req.players).manager.findRoom req.battleId with _ | room
        · rw [hroom] at hcode
          exact absurd hcode (by decide : ¬ (refusal 3 "create battle failed").code = 0)
        · exact ⟨manager, _, room, trivial, rfl, rfl, rfl, rfl⟩
  · exact Or.inl ⟨room, rfl, rfl, rfl⟩

/-- What an answer with code 0 means in every state that a run reaches. -/
theorem battleCreate_of_run {config : BattleServerConfig} {trace : List (BattleServer World × Event)}
    (hrun : Run (Step G parser) (init config) trace s)
    (hparse : parser.battleCreateReq frame.payload = some req)
    (hcode : (s.onBattleCreate G parser frame).2.1.code = 0) :
    Reports (s.onBattleCreate G parser frame).1.roomManager req.battleId
        (s.onBattleCreate G parser frame).2.1 ∧
      (s.roomManager.findRoom req.battleId ≠ none → (s.onBattleCreate G parser frame).1 = s) ∧
      (s.roomManager.findRoom req.battleId = none →
        (∀ spawn ∈ (s.onBattleCreate G parser frame).2.1.players,
          ∃ player ∈ req.players, player.sessionId = spawn.sessionId) ∧
        ∀ before player after, req.players = before ++ player :: after →
          s.roomManager.sessionToRoom.get player.sessionId = none →
          ((turn G s frame req before).manager.addPlayerToRoom G req.battleId player).2 = true →
          SeatsPlayer (s.onBattleCreate G parser frame) req.battleId player) := by
  have hconsistent := consistent_of_run hrun
  rcases onBattleCreate_ok hparse hcode with ⟨room, hfind, hsame, hresp⟩ |
    ⟨manager, battleId, room, hnone, hcreate, hmanager, hroom, hresp⟩
  · rw [hsame, hresp, hfind]
    refine ⟨makeBattleCreateResp_reports hconsistent hfind _, fun _ => rfl, fun h => ?_⟩
    cases h
  · have hfilled := turn_filled frame hconsistent hnone hcreate req.players
    have hreports : Reports (s.onBattleCreate G parser frame).1.roomManager req.battleId
        (s.onBattleCreate G parser frame).2.1 := by
      rw [hresp, hmanager]
      exact makeBattleCreateResp_reports hfilled.consistent hroom _
    refine ⟨hreports, fun h => absurd hnone h, fun _ => ⟨fun spawn hspawn => ?_, ?_⟩⟩
    · have hseat := hreports.seats spawn hspawn
      rw [hmanager] at hseat
      exact hfilled.only _ hseat.2
    · intro before player after hplayers hfree hok
      refine hreports.seatsPlayer ?_
      rw [hmanager, hplayers, List.append_cons]
      exact turn_keeps after (turn_seats hconsistent hnone hcreate hfree hok)

theorem battleCreate_of_run_duel :
    ∃ challenger challenged, duelReq.players = [challenger, challenged] ∧
      SeatsPlayer
        ((init {} : BattleServer UInt32).onBattleCreate Mugen.counting duelParser (requestFrame [1]))
        duelReq.battleId challenger ∧
      SeatsPlayer
        ((init {} : BattleServer UInt32).onBattleCreate Mugen.counting duelParser (requestFrame [1]))
        duelReq.battleId challenged := by
  have hrun : Run (Step Mugen.counting duelParser) (init {}) [] (init {}) := .start
  have hcode : ((init {} : BattleServer UInt32).onBattleCreate Mugen.counting duelParser
      (requestFrame [1])).2.1.code = 0 := by decide
  have hreq : duelParser.battleCreateReq (requestFrame [1]).payload = some duelReq := rfl
  obtain ⟨-, hseats⟩ := (battleCreate_of_run hrun hreq hcode).2.2 rfl
  refine ⟨_, _, rfl, hseats [] _ [_] rfl rfl (by decide), hseats [_] _ [] rfl rfl (by decide)⟩

/-- A third session asks for the battle of the first two. -/
def latecomerReq : BattleCreateReq :=
  { duelReq with players := [{ sessionId := 3, playerId := 3, classId := 1, name := "" }] }

def latecomerParser : Parser where
  battleCreateReq payload :=
    if payload = [1] then some duelReq else if payload = [2] then some latecomerReq else none
  battleInputPush _ := none

/-- The answer for a battle that exists is a success, but the third session has no seat. -/
theorem latecomer_not_seated :
    ∃ s : BattleServer UInt32, Run (Step Mugen.counting latecomerParser) (init {})
        [(init {}, .serverRequest (requestFrame [1]))] s ∧
      latecomerParser.battleCreateReq (requestFrame [2]).payload = some latecomerReq ∧
      (s.onBattleCreate Mugen.counting latecomerParser (requestFrame [2])).2.1.code = 0 ∧
      ¬ ∀ player ∈ latecomerReq.players, SeatsPlayer
        (s.onBattleCreate Mugen.counting latecomerParser (requestFrame [2])) latecomerReq.battleId
        player := by
  refine ⟨_, Run.start.next rfl, rfl, by decide, fun hseats => ?_⟩
  obtain ⟨room, slot, -, -, hmap, -⟩ := hseats _ List.mem_cons_self
  revert hmap
  decide

end BattleServer

end AxmolFighter.Battle
