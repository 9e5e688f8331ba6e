import AxmolFighter.Battle.Creation

/-!
# Asking for a battle again

A game server that gets no answer asks again. The second request meets the room of the first, and leaves
everything as it is. The answers differ at most in the actor of the requester: for a frame of no session,
the first request names the actor of the last player that it has accepted, and the second that of session 0.
-/

namespace AxmolFighter.Battle

variable {World : Type} {G : Mugen World} {parser : Parser}

/-- The id of a new actor is not the invalid one, and no actor that is alive in its world has it. -/
structure Mugen.Names (G : Mugen World) (alive : World → UInt32 → Prop) : Prop where
  stays : ∀ world roleId spawn params id, alive world id →
    alive (G.spawnRolePlayerActor world roleId spawn params).1 id
  fresh : ∀ world roleId spawn params id, (G.spawnRolePlayerActor world roleId spawn params).2 = some id →
    id ≠ G.invalidEntityId ∧ ¬ alive world id ∧ alive (G.spawnRolePlayerActor world roleId spawn params).1 id

/-- The actors of a world are told apart by their ids. -/
def Mugen.Identifies (G : Mugen World) : Prop := ∃ alive : World → UInt32 → Prop, G.Names alive

/-- The players that `addPlayerToRoom` accepts, one after the other. -/
def BattleRoomManager.accepted (G : Mugen World) (battleId : UInt32) :
    BattleRoomManager World → List BattlePlayerSpec → List BattlePlayerSpec
  | _, [] => []
  | m, player :: players =>
      if (m.addPlayerToRoom G battleId player).2 then
        player :: accepted G battleId (m.addPlayerToRoom G battleId player).1 players
      else accepted G battleId (m.addPlayerToRoom G battleId player).1 players

/-! ### The actors of a room -/

/-- The players' actors are alive, valid and different. -/
structure BattleRoom.Peopled (G : Mugen World) (alive : World → UInt32 → Prop) (room : BattleRoom World) :
    Prop where
  alive : ∀ sessionId slot, room.players.get sessionId = some slot →
    slot.actorId ≠ G.invalidEntityId ∧ ∃ world, room.world = some world ∧ alive world slot.actorId
  distinct : ∀ sessionId slot sessionId' slot', room.players.get sessionId = some slot →
    room.players.get sessionId' = some slot' → slot.actorId = slot'.actorId → sessionId = sessionId'

theorem BattleRoom.Peopled.addPlayer {alive : World → UInt32 → Prop} {room : BattleRoom World}
    (hnames : G.Names alive) (h : room.Peopled G alive) (player : BattlePlayerSpec) : (room.addPlayer G player).1.Peopled G alive := by
  unfold BattleRoom.addPlayer
  split
  · exact h
  · rename_i world hworld
    split_ifs
    · exact h
    · exact h
    · dsimp only
      split_ifs
      · exact h
      · have hstays := hnames.stays world (G.resolvePlayableRoleId player.classId)
          (room.resolveSpawnPoint G room.players.size) { playerId := player.playerId, name := player.name }
        have hfresh := hnames.fresh world (G.resolvePlayableRoleId player.classId)
          (room.resolveSpawnPoint G room.players.size) { playerId := player.playerId, name := player.name }
        generalize G.spawnRolePlayerActor world _ _ _ = r at hstays hfresh
        obtain ⟨world', _ | actorId⟩ := r
        · refine ⟨fun sessionId slot hslot => ?_, h.distinct⟩
          obtain ⟨hvalid, w, hw, hlives⟩ := h.alive sessionId slot hslot
          obtain rfl := Option.some.inj (hworld.symm.trans hw)
          exact ⟨hvalid, world', rfl, hstays _ hlives⟩
        · obtain ⟨hvalid, hnew, hlives⟩ := hfresh actorId rfl
          have hold : ∀ sessionId slot, room.players.get sessionId = some slot →
              slot.actorId ≠ actorId ∧ slot.actorId ≠ G.invalidEntityId ∧ alive world' slot.actorId := by
            intro sessionId slot hslot
            obtain ⟨hvalid, w, hw, hlives⟩ := h.alive sessionId slot hslot
            obtain rfl := Option.some.inj (hworld.symm.trans hw)
            exact ⟨fun heq => hnew (heq ▸ hlives), hvalid, hstays _ hlives⟩
          refine ⟨fun sessionId slot hslot => ?_, fun s slot s' slot' hslot hslot' heq => ?_⟩
          · dsimp only at hslot
            rw [Table.get_insert] at hslot
            split_ifs at hslot
            · cases hslot
              exact ⟨hvalid, world', rfl, hlives⟩
            · obtain ⟨-, hvalid', hlives'⟩ := hold sessionId slot hslot
              exact ⟨hvalid', world', rfl, hlives'⟩
          · dsimp only at hslot hslot'
            rw [Table.get_insert] at hslot hslot'
            split_ifs at hslot hslot' with hs hs'
            · rw [hs, hs']
            · cases hslot
              exact absurd heq.symm (hold s' slot' hslot').1
            · cases hslot'
              exact absurd heq (hold s slot hslot).1
            · exact h.distinct s slot s' slot' hslot hslot' heq

theorem BattleRoom.Peopled.actorId_invalid {alive : World → UInt32 → Prop} {room : BattleRoom World}
    (h : room.Peopled G alive) (sessionId : UInt32) :
    room.actorIdForSession G sessionId = G.invalidEntityId ↔ ¬ room.hasPlayer sessionId = true := by
  rw [BattleRoom.actorIdForSession, BattleRoom.hasPlayer, Table.contains]
  rcases hget : room.players.get sessionId with _ | slot
  · simp
  · simp [(h.alive sessionId slot hget).1]

theorem BattleRoom.Peopled.actorId_inj {alive : World → UInt32 → Prop} {room : BattleRoom World}
    (h : room.Peopled G alive) {sessionId sessionId' : UInt32} (hseat : room.hasPlayer sessionId' = true)
    (hsame : room.actorIdForSession G sessionId = room.actorIdForSession G sessionId') : sessionId = sessionId' := by
  have hseat₀ : room.hasPlayer sessionId = true := by
    by_contra hnot
    rw [(h.actorId_invalid sessionId).2 hnot, eq_comm, h.actorId_invalid] at hsame
    exact hsame hseat
  obtain ⟨slot, hslot⟩ := BattleRoom.hasPlayer_iff.1 hseat₀
  obtain ⟨slot', hslot'⟩ := BattleRoom.hasPlayer_iff.1 hseat
  simp only [BattleRoom.actorIdForSession, hslot, hslot', Option.map_some, Option.getD_some] at hsame
  exact h.distinct _ slot _ slot' hslot hslot' hsame

/-! ### The loop over the players -/

namespace BattleRoomManager

variable {m : BattleRoomManager World} {battleId : UInt32} {room : BattleRoom World}
  {player : BattlePlayerSpec} {players : List BattlePlayerSpec} {alive : World → UInt32 → Prop}

/-- The session is in some room. -/
def Mapped (m : BattleRoomManager World) (sessionId : UInt32) : Prop :=
  m.sessionToRoom.contains sessionId = true

/-- What adding players has made of a room: those that are mapped keep what they have there, and whoever
was not and has been accepted is in the room now. -/
structure Grown (m : BattleRoomManager World) (room : BattleRoom World) (accepted : List BattlePlayerSpec)
    (m' : BattleRoomManager World) (room' : BattleRoom World) : Prop where
  kept : ∀ sessionId, m.Mapped sessionId → room'.players.get sessionId = room.players.get sessionId
  seated : ∀ sessionId, ¬ m.Mapped sessionId →
    (room'.hasPlayer sessionId = true ↔ ∃ player ∈ accepted, player.sessionId = sessionId)
  mapped : ∀ sessionId, m'.Mapped sessionId ↔
    m.Mapped sessionId ∨ ∃ player ∈ accepted, player.sessionId = sessionId

theorem addPlayerToRoom_grown (hconsistent : m.Consistent) (hroom : m.findRoom battleId = some room)
    (player : BattlePlayerSpec) : ∃ room', (m.addPlayerToRoom G battleId player).1.findRoom battleId = some room' ∧
      (∀ alive, G.Names alive → room.Peopled G alive → room'.Peopled G alive) ∧
        Grown m room (if (m.addPlayerToRoom G battleId player).2 then [player] else [])
          (m.addPlayerToRoom G battleId player).1 room' := by
  have hunmapped : ∀ sessionId, ¬ m.Mapped sessionId → room.hasPlayer sessionId = false := by
    intro sessionId hnot
    rw [← Bool.not_eq_true]
    intro hhas
    exact hnot ((Table.contains_iff ..).2 ⟨battleId, (hconsistent.mapped _ _).2 ⟨room, hroom, hhas⟩⟩)
  have hadded := addPlayerToRoom_added G m battleId player
  generalize m.addPlayerToRoom G battleId player = r at hadded ⊢
  cases hadded with
  | elsewhere hmapped =>
      have hmapped' : m.Mapped player.sessionId := (Table.contains_iff ..).2 ⟨_, hmapped⟩
      refine ⟨room, hroom, fun _ _ h => h, fun _ _ => rfl, fun sessionId hnot => ?_, fun sessionId => ?_⟩
      · rw [hunmapped sessionId hnot, if_pos rfl]
        simp only [Bool.false_eq_true, false_iff, List.mem_singleton, exists_eq_left]
        rintro rfl
        exact hnot hmapped'
      · simp only [if_true, List.mem_singleton, exists_eq_left]
        refine (or_iff_left_of_imp ?_).symm
        rintro rfl
        exact hmapped'
  | refused _ _ =>
      refine ⟨room, hroom, fun _ _ h => h, fun _ _ => rfl, fun sessionId hnot => ?_, fun sessionId => ?_⟩
      · simp [hunmapped sessionId hnot]
      · simp
  | @failed room₀ _ hroom₀ hfailed =>
      obtain rfl : room₀ = room := Option.some.inj (hroom₀.symm.trans hroom)
      have hplayers : (room₀.addPlayer G player).1.players = room₀.players := by
        obtain ⟨-, ⟨-, hplayers⟩ | ⟨heq, -⟩ | ⟨slot, htrue, -⟩⟩ := BattleRoom.addPlayer_cases G room₀ player
        · exact hplayers
        · rw [heq]
        · rw [hfailed] at htrue
          cases htrue
      refine ⟨_, Table.get_insert_self .., fun _ hnames h => h.addPlayer hnames player,
        fun _ _ => by rw [hplayers], fun sessionId hnot => ?_, fun sessionId => ?_⟩
      · rw [BattleRoom.hasPlayer, hplayers, ← BattleRoom.hasPlayer, hunmapped sessionId hnot]
        simp
      · simp [Mapped]
  | @seated room₀ hfree _ hroom₀ hseated =>
      obtain rfl : room₀ = room := Option.some.inj (hroom₀.symm.trans hroom)
      have hnot : ¬ m.Mapped player.sessionId := by simp [Mapped, Table.contains, hfree]
      obtain ⟨-, ⟨hfalse, -⟩ | ⟨-, hhas⟩ | ⟨slot, -, -, hplayers⟩⟩ := BattleRoom.addPlayer_cases G room₀ player
      · rw [hseated] at hfalse
        cases hfalse
      · rw [hunmapped _ hnot] at hhas
        cases hhas
      · refine ⟨_, Table.get_insert_self .., fun _ hnames h => h.addPlayer hnames player,
          fun sessionId hmapped => ?_, fun sessionId hunmapped' => ?_, fun sessionId => ?_⟩
        · rw [hplayers, Table.get_insert_ne]
          rintro rfl
          exact hnot hmapped
        · rw [BattleRoom.hasPlayer, hplayers, Table.contains_insert, ← BattleRoom.hasPlayer,
            hunmapped sessionId hunmapped']
          simp only [if_true, List.mem_singleton, exists_eq_left, Bool.false_eq_true, or_false]
          exact eq_comm
        · rw [Mapped, Table.contains_insert, or_comm]
          simp only [if_true, List.mem_singleton, exists_eq_left]
          exact or_congr_right eq_comm

theorem Grown.trans {m₁ m' : BattleRoomManager World} {room₁ room' : BattleRoom World}
    {accepted accepted' : List BattlePlayerSpec} (h : Grown m room accepted m₁ room₁)
    (h' : Grown m₁ room₁ accepted' m' room') : Grown m room (accepted ++ accepted') m' room' := by
  have hmem : ∀ sessionId, (∃ player ∈ accepted ++ accepted', player.sessionId = sessionId) ↔
      (∃ player ∈ accepted, player.sessionId = sessionId) ∨ ∃ player ∈ accepted', player.sessionId = sessionId := by
    intro sessionId
    simp only [List.mem_append, or_and_right, exists_or]
  refine ⟨fun sessionId hmapped => ?_, fun sessionId hnot => ?_, fun sessionId => ?_⟩
  · rw [h'.kept sessionId ((h.mapped sessionId).2 (Or.inl hmapped)), h.kept sessionId hmapped]
  · rw [hmem]
    by_cases hmapped : m₁.Mapped sessionId
    · have hin := ((h.mapped sessionId).1 hmapped).resolve_left hnot
      rw [BattleRoom.hasPlayer, Table.contains, h'.kept sessionId hmapped, ← Table.contains,
        ← BattleRoom.hasPlayer, h.seated sessionId hnot]
      exact (or_iff_left_of_imp fun _ => hin).symm
    · rw [h'.seated sessionId hmapped]
      refine (or_iff_right_of_imp fun hin => ?_).symm
      exact absurd ((h.mapped sessionId).2 (Or.inr hin)) hmapped
  · rw [h'.mapped, h.mapped, hmem, or_assoc]

end BattleRoomManager

namespace BattleServer

open BattleRoomManager

variable {battleId : UInt32} {seated : Seated World} {room : BattleRoom World}
  {player : BattlePlayerSpec} {players : List BattlePlayerSpec}

/-- For a frame of no session, every player that is accepted becomes the requester. -/
theorem seatPlayer_requester (battleId : UInt32) (seated : Seated World) (player : BattlePlayerSpec) :
    (seatPlayer G battleId 0 seated player).requesterActorId =
      if (seated.manager.addPlayerToRoom G battleId player).2 then
        (((seated.manager.addPlayerToRoom G battleId player).1.findRoom battleId).map
          (·.actorIdForSession G player.sessionId)).getD 0
      else seated.requesterActorId := by
  unfold seatPlayer
  generalize seated.manager.addPlayerToRoom G battleId player = r
  obtain ⟨manager, _ | _⟩ := r
  · rfl
  · simp

theorem accepted_cons (m : BattleRoomManager World) (player : BattlePlayerSpec) (players : List BattlePlayerSpec) :
    accepted G battleId m (player :: players) =
      (if (m.addPlayerToRoom G battleId player).2 then [player] else []) ++
        accepted G battleId (m.addPlayerToRoom G battleId player).1 players := by
  rw [accepted]
  split_ifs <;> rfl

/-- The requester's actor is that of the last player accepted. -/
theorem seatPlayers_grown (hconsistent : seated.manager.Consistent)
    (hroom : seated.manager.findRoom battleId = some room) (players : List BattlePlayerSpec) :
    ∃ room', (players.foldl (seatPlayer G battleId 0) seated).manager.findRoom battleId = some room' ∧
      (∀ alive, G.Names alive → room.Peopled G alive → room'.Peopled G alive) ∧
        Grown seated.manager room (accepted G battleId seated.manager players)
          (players.foldl (seatPlayer G battleId 0) seated).manager room' ∧
            (players.foldl (seatPlayer G battleId 0) seated).requesterActorId =
              (((accepted G battleId seated.manager players).getLast?).map
                fun player => room'.actorIdForSession G player.sessionId).getD seated.requesterActorId := by
  induction players generalizing seated room with
  | nil =>
      refine ⟨room, hroom, fun _ _ h => h, ⟨fun _ _ => rfl, fun sessionId hnot => ?_, fun _ => ?_⟩, rfl⟩
      · simp only [accepted, List.not_mem_nil, false_and, exists_false, iff_false]
        intro hhas
        exact hnot ((Table.contains_iff ..).2 ⟨battleId, (hconsistent.mapped _ _).2 ⟨room, hroom, hhas⟩⟩)
      · simp [accepted]
  | cons player players ih =>
      obtain ⟨room₁, hroom₁, hpeopled₁, hgrown₁⟩ := addPlayerToRoom_grown (G := G) hconsistent hroom player
      have hmanager := seatPlayer_manager (G := G) battleId 0 seated player
      obtain ⟨room', hroom', hpeopled, hgrown, hrequester⟩ := @ih (seatPlayer G battleId 0 seated player) room₁
        (by rw [hmanager]; exact hconsistent.addPlayerToRoom battleId player) (by rw [hmanager]; exact hroom₁)
      rw [hmanager] at hgrown hrequester
      refine ⟨room', hroom', fun alive hnames h => hpeopled alive hnames (hpeopled₁ alive hnames h), ?_, ?_⟩
      · rw [accepted_cons]
        exact hgrown₁.trans hgrown
      · rw [List.foldl_cons, hrequester, accepted_cons, List.getLast?_append]
        rcases (accepted G battleId _ players).getLast? with _ | last
        · rw [seatPlayer_requester]
          split_ifs with hok
          · -- nobody is accepted any more, and the player keeps its actor
            have hmapped := (hgrown₁.mapped player.sessionId).2 (Or.inr ⟨player, by simp [hok], rfl⟩)
            simp [hroom₁, BattleRoom.actorIdForSession, hgrown.kept _ hmapped]
          · rfl
        · rfl

/-! ### The second request -/

variable {s : BattleServer World} {frame : BackendFrame} {req : BattleCreateReq}

/-- The same request again changes no room and no seat, and has the same answer. -/
def Repeats (G : Mugen World) (parser : Parser) (s : BattleServer World) (frame : BackendFrame) : Prop :=
  let first := s.onBattleCreate G parser frame
  let second := first.1.onBattleCreate G parser frame
  second.1.roomManager = first.1.roomManager ∧ second.2.1 = first.2.1

/-- The players that are accepted for a battle that has no room yet. -/
def newcomers (G : Mugen World) (s : BattleServer World) (req : BattleCreateReq) : List BattlePlayerSpec :=
  accepted G req.battleId (s.roomManager.createRoom G (s.roomConfig req).1).1 req.players

/-- Session 0 is to a new battle what its last player is: it is that player, or neither has a seat there. -/
def LastIsZero (G : Mugen World) (s : BattleServer World) (req : BattleCreateReq) : Prop :=
  match (newcomers G s req).getLast? with
  | none => G.invalidEntityId = 0
  | some last => last.sessionId = 0 ∨ (s.roomManager.Mapped last.sessionId ∧
      (s.roomManager.Mapped 0 ∨ ∀ player ∈ newcomers G s req, player.sessionId ≠ 0))

theorem onBattleCreate_existing (hparse : parser.battleCreateReq frame.payload = some req)
    {room : BattleRoom World} (hroom : s.roomManager.findRoom req.battleId = some room) :
    s.onBattleCreate G parser frame =
      (s, s.makeBattleCreateResp G room (room.actorIdForSession G frame.sessionId), []) := by
  simp only [onBattleCreate, hparse, hroom]

/-- After a success, the second answer names the actor that the frame's session has in the room. -/
theorem repeats_iff (hparse : parser.battleCreateReq frame.payload = some req) {s' : BattleServer World}
    {room : BattleRoom World} {actorId : UInt32} (hroom : s'.roomManager.findRoom req.battleId = some room)
    (hstate : (s.onBattleCreate G parser frame).1 = s')
    (hresp : (s.onBattleCreate G parser frame).2.1 = s'.makeBattleCreateResp G room actorId) :
    Repeats G parser s frame ↔ room.actorIdForSession G frame.sessionId = actorId := by
  unfold Repeats
  dsimp only
  rw [hstate, hresp, onBattleCreate_existing hparse hroom]
  constructor
  · rintro ⟨-, h⟩
    exact congrArg BattleCreateResp.actorEntityId h
  · intro h
    rw [h]
    exact ⟨rfl, rfl⟩

theorem createRoom_empty (hnone : s.roomManager.findRoom req.battleId = none) {manager : BattleRoomManager World}
    {battleId : UInt32} (hcreate : s.roomManager.createRoom G (s.roomConfig req).1 = (manager, some battleId)) :
    ∃ room, manager.findRoom req.battleId = some room ∧ room.players = ∅ ∧
      manager.sessionToRoom = s.roomManager.sessionToRoom := by
  obtain ⟨-, room, hinit, rfl⟩ := BattleRoomManager.createRoom_new hnone hcreate
  obtain ⟨world, rfl⟩ := BattleRoom.init_eq_some hinit
  exact ⟨_, Table.get_insert_self .., rfl, rfl⟩

/-- In the new room, session 0 has the actor of the requester exactly if it is to it what the last player
accepted is. -/
theorem lastIsZero_iff (hidentifies : G.Identifies) (hconsistent : s.roomManager.Consistent)
    (hsession : frame.sessionId = 0) (hnone : s.roomManager.findRoom req.battleId = none)
    {manager : BattleRoomManager World} {battleId : UInt32}
    (hcreate : s.roomManager.createRoom G (s.roomConfig req).1 = (manager, some battleId))
    {room : BattleRoom World} (hroom : (turn G s frame req req.players).manager.findRoom req.battleId = some room) :
    room.actorIdForSession G 0 = (turn G s frame req req.players).requesterActorId ↔ LastIsZero G s req := by
  obtain ⟨alive, hnames⟩ := hidentifies
  obtain ⟨room₀, hroom₀, hempty, hsessions⟩ := createRoom_empty hnone hcreate
  have hstart := hconsistent.createRoom (G := G) (s.roomConfig req).1
  rw [turn, hsession, hcreate] at hroom ⊢
  rw [hcreate] at hstart
  obtain ⟨_, hroom', hpeopled, hgrown, hrequester⟩ :=
    @seatPlayers_grown _ G _ { manager } _ hstart hroom₀ req.players
  obtain rfl := Option.some.inj (hroom.symm.trans hroom')
  have hnobody : ∀ sessionId, room₀.players.get sessionId = none := fun sessionId => by rw [hempty]; exact Table.get_empty _
  have hpeopled := hpeopled alive hnames ⟨fun x _ h => (by rw [hnobody] at h; cases h),
    fun x _ _ _ h => (by rw [hnobody] at h; cases h)⟩
  have hmapped : ∀ sessionId, manager.Mapped sessionId ↔ s.roomManager.Mapped sessionId := by
    intro sessionId
    rw [Mapped, hsessions, ← Mapped]
  have haway : ∀ sessionId, s.roomManager.Mapped sessionId → ¬ room.hasPlayer sessionId = true := by
    intro sessionId hm
    rw [BattleRoom.hasPlayer, Table.contains, hgrown.kept sessionId ((hmapped sessionId).2 hm), hnobody]
    simp
  have hseated : ∀ sessionId, ¬ s.roomManager.Mapped sessionId →
      (room.hasPlayer sessionId = true ↔ ∃ player ∈ newcomers G s req, player.sessionId = sessionId) := by
    intro sessionId hm
    rw [newcomers, hcreate]
    exact hgrown.seated sessionId fun h => hm ((hmapped sessionId).1 h)
  rw [hrequester]
  have hnewcomers : accepted G req.battleId manager req.players = newcomers G s req := by
    rw [newcomers, hcreate]
  rw [hnewcomers, LastIsZero]
  rcases hlast : (newcomers G s req).getLast? with _ | last
  · -- nobody is accepted: the first answer names actor 0, the second none
    have hzero : ¬ room.hasPlayer 0 = true := by
      by_cases hm : s.roomManager.Mapped 0
      · exact haway 0 hm
      · rw [hseated 0 hm, List.getLast?_eq_none_iff.1 hlast]
        simp
    rw [(hpeopled.actorId_invalid 0).2 hzero]
    rfl
  · have hmem : last ∈ newcomers G s req := List.mem_of_getLast? hlast
    show room.actorIdForSession G 0 = room.actorIdForSession G last.sessionId ↔ last.sessionId = 0 ∨ _
    by_cases hm : s.roomManager.Mapped last.sessionId
    · rw [(hpeopled.actorId_invalid _).2 (haway _ hm), hpeopled.actorId_invalid]
      have hzero : ¬ room.hasPlayer 0 = true ↔
          s.roomManager.Mapped 0 ∨ ∀ player ∈ newcomers G s req, player.sessionId ≠ 0 := by
        by_cases hm₀ : s.roomManager.Mapped 0
        · simp [haway 0 hm₀, hm₀]
        · simp [hseated 0 hm₀, hm₀]
      rw [hzero, and_iff_right hm]
      refine (or_iff_right_of_imp fun h => Or.inl ?_).symm
      rwa [h] at hm
    · have hseat := (hseated _ hm).2 ⟨last, hmem, rfl⟩
      constructor
      · exact fun h => Or.inl (hpeopled.actorId_inj hseat h).symm
      · rintro (h | ⟨h, -⟩)
        · rw [h]
        · exact absurd h hm

/-- In every state that a run reaches, a request of no session that succeeds can be repeated exactly if the
battle had its room before, or if session 0 is to the new room what the last player accepted is. -/
theorem repeats_of_run {config : BattleServerConfig} {trace : List (BattleServer World × Event)}
    (hidentifies : G.Identifies) (hrun : Run (Step G parser) (init config) trace s)
    (hparse : parser.battleCreateReq frame.payload = some req) (hsession : frame.sessionId = 0)
    (hcode : (s.onBattleCreate G parser frame).2.1.code = 0) :
    Repeats G parser s frame ↔ s.roomManager.findRoom req.battleId ≠ none ∨ LastIsZero G s req := by
  have hconsistent := consistent_of_run hrun
  rcases onBattleCreate_ok hparse hcode with ⟨room, hfind, hsame, hresp⟩ |
    ⟨manager, battleId, room, hnone, hcreate, hmanager, hroom, hresp⟩
  · rw [repeats_iff hparse hfind hsame hresp, hfind]
    simp
  · have hroom' := hroom
    rw [← hmanager] at hroom'
    rw [repeats_iff hparse hroom' rfl hresp, hsession,
      lastIsZero_iff hidentifies hconsistent hsession hnone hcreate hroom]
    simp [hnone]

/-- A simulation that counts its actors; its world is the last id. -/
def numbering : Mugen Nat where
  invalidEntityId := 0
  init _ := some 0
  loadMap world _ := some world
  resolvePlayableRoleId classId := classId
  hasRoleConfig _ := true
  gameMap _ := none
  spawnRolePlayerActor world _ _ _ :=
    if world + 1 < 2 ^ 32 then (world + 1, some (UInt32.ofNat (world + 1))) else (world, none)
  setKeyDown world _ _ := some world
  update world _ := world
  serialize _ := []

theorem numbering_identifies : numbering.Identifies := by
  refine ⟨fun world id => id.toNat ≤ world, fun world _ _ _ id h => ?_, fun world _ _ _ id h => ?_⟩
  · simp only [numbering]
    split_ifs
    · exact Nat.le_succ_of_le h
    · exact h
  · simp only [numbering] at h ⊢
    split_ifs at h ⊢ with hlt
    obtain rfl := Option.some.inj h
    have hid : (UInt32.ofNat (world + 1)).toNat = world + 1 := UInt32.toNat_ofNat_of_lt hlt
    refine ⟨fun hzero => ?_, by omega, by omega⟩
    rw [hzero] at hid
    simp at hid

/-- A duel that has begun is asked for again. -/
theorem repeats_of_run_duel : ∃ s : BattleServer Nat, Run (Step numbering duelParser) (init {})
    [(init {}, .serverRequest (requestFrame [1]))] s ∧ Repeats numbering duelParser s (requestFrame [1]) := by
  have hrun : Run (Step numbering duelParser) (init {}) [(init {}, .serverRequest (requestFrame [1]))] _ :=
    Run.start.next rfl
  have hparse : duelParser.battleCreateReq (requestFrame [1]).payload = some duelReq := rfl
  refine ⟨_, hrun, (repeats_of_run numbering_identifies hrun hparse rfl (by decide)).2 (Or.inl ?_)⟩
  intro hnone
  have hsome := congrArg Option.isSome hnone
  revert hsome
  decide

/-- The first request names the actor of the second player, its repetition none. -/
theorem retry_names_nobody : ∃ (s : BattleServer Nat) (frame : BackendFrame),
    Run (Step numbering duelParser) (init {}) [] s ∧
      duelParser.battleCreateReq frame.payload = some duelReq ∧ frame.sessionId = 0 ∧
        (s.onBattleCreate numbering duelParser frame).2.1.code = 0 ∧
          ¬ Repeats numbering duelParser s frame := by
  refine ⟨init {}, requestFrame [1], .start, rfl, rfl, by decide, fun h => ?_⟩
  have hactor := congrArg BattleCreateResp.actorEntityId h.2
  revert hactor
  decide

end BattleServer

end AxmolFighter.Battle
