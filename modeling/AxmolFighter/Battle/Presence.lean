import AxmolFighter.Battle.BackendClient
import AxmolFighter.Battle.Creation

/-!
# Who is online and who has a seat

The battle server as one process: the connection to the gateway (`framework/BackendClient.cpp`) keeps the
sessions that are online, and calls `BattleServer.cpp`, which keeps the sessions that have a seat. A session
loses its seat when it goes offline. It gets one when the game server says so, and nobody asks whether it is
online then.
-/

namespace AxmolFighter.Battle

open Backend (Action)

variable {World : Type}

/-! ### Seats -/

namespace BattleRoomManager

variable {G : Mugen World} {m : BattleRoomManager World} {battleId : UInt32} {spec : BattlePlayerSpec}

/-- The manager has a seat in the room for a player that has none. -/
def Takes (G : Mugen World) (m : BattleRoomManager World) (battleId : UInt32) (spec : BattlePlayerSpec) : Prop :=
  m.sessionToRoom.contains spec.sessionId = false ∧ m.canAcceptSession spec.sessionId = true ∧
    ∃ room, m.rooms.get battleId = some room ∧ (room.addPlayer G spec).2 = true

theorem addPlayerToRoom_mapped (sessionId : UInt32) :
    (m.addPlayerToRoom G battleId spec).1.sessionToRoom.contains sessionId = true ↔
      m.sessionToRoom.contains sessionId = true ∨ (sessionId = spec.sessionId ∧ m.Takes G battleId spec) := by
  have hadded := addPlayerToRoom_added G m battleId spec
  generalize m.addPlayerToRoom G battleId spec = r at hadded ⊢
  cases hadded with
  | elsewhere hmapped =>
      refine (or_iff_left ?_).symm
      rintro ⟨-, hfree, -⟩
      rw [(Table.contains_iff ..).2 ⟨_, hmapped⟩] at hfree
      cases hfree
  | refused _ hrefused =>
      refine (or_iff_left ?_).symm
      rintro ⟨-, -, haccepts, room, hroom, -⟩
      rcases hrefused with hrefused | hnone
      · rw [haccepts] at hrefused
        cases hrefused
      · rw [hnone] at hroom
        cases hroom
  | failed _ hroom hfailed =>
      refine (or_iff_left ?_).symm
      rintro ⟨-, -, -, room, hroom', hseated⟩
      obtain rfl := Option.some.inj (hroom.symm.trans hroom')
      rw [hfailed] at hseated
      cases hseated
  | seated hfree haccepts hroom hseated =>
      have htakes : m.Takes G battleId spec := ⟨contains_eq_false hfree, haccepts, _, hroom, hseated⟩
      rw [Table.contains_insert, or_comm, and_iff_left htakes]

theorem removePlayer_mapped (gone sessionId : UInt32) :
    (m.removePlayer gone).sessionToRoom.contains sessionId = true ↔
      sessionId ≠ gone ∧ m.sessionToRoom.contains sessionId = true := by
  rw [← Table.contains_remove, removePlayer]
  split
  · rename_i hnone
    rw [Table.contains_remove, and_iff_right_of_imp]
    rintro hmapped rfl
    rw [contains_eq_false hnone] at hmapped
    cases hmapped
  · dsimp only
    split
    · rfl
    · split_ifs <;> rfl

end BattleRoomManager

namespace BattleServer

variable {G : Mugen World} {parser : Parser} {s : BattleServer World} {frame : BackendFrame}
  {req : BattleCreateReq}

/-- The request opens a battle and gives the session a seat in it that it has not had before. -/
structure GivesSeat (G : Mugen World) (s : BattleServer World) (frame : BackendFrame) (req : BattleCreateReq)
    (sessionId : UInt32) : Prop where
  new : s.roomManager.findRoom req.battleId = none
  opens : (s.roomManager.createRoom G (s.roomConfig req).1).2.isSome = true
  seat : ∃ before player after, req.players = before ++ player :: after ∧ player.sessionId = sessionId ∧
    (turn G s frame req before).manager.Takes G req.battleId player

theorem createRoom_sessionToRoom (m : BattleRoomManager World) (config : BattleRoomConfig) :
    (m.createRoom G config).1.sessionToRoom = m.sessionToRoom := by
  unfold BattleRoomManager.createRoom
  split_ifs
  · rfl
  · rfl
  · rfl
  · split <;> rfl

theorem turn_mapped (players : List BattlePlayerSpec) (sessionId : UInt32) :
    (turn G s frame req players).manager.sessionToRoom.contains sessionId = true ↔
      s.roomManager.sessionToRoom.contains sessionId = true ∨
        ∃ before player after, players = before ++ player :: after ∧ player.sessionId = sessionId ∧
          (turn G s frame req before).manager.Takes G req.battleId player := by
  induction players using List.reverseRecOn with
  | nil =>
      rw [turn, List.foldl_nil, createRoom_sessionToRoom, or_iff_left]
      rintro ⟨before, player, after, hsplit, -⟩
      cases before <;> cases hsplit
  | append_singleton players player ih =>
      rw [turn_succ, BattleRoomManager.addPlayerToRoom_mapped, ih, or_assoc]
      refine or_congr_right ⟨?_, ?_⟩
      · rintro (⟨before, p, after, rfl, hid, htakes⟩ | ⟨rfl, htakes⟩)
        · exact ⟨before, p, after ++ [player], by simp, hid, htakes⟩
        · exact ⟨players, player, [], rfl, rfl, htakes⟩
      · rintro ⟨before, p, after, hsplit, hid, htakes⟩
        rcases List.eq_nil_or_concat after with rfl | ⟨after, last, rfl⟩
        · obtain ⟨rfl, hp⟩ := List.append_inj' hsplit rfl
          obtain rfl := List.singleton_inj.1 hp
          exact Or.inr ⟨hid.symm, htakes⟩
        · rw [List.concat_eq_append, ← List.cons_append, ← List.append_assoc] at hsplit
          exact Or.inl ⟨before, p, after, (List.append_inj' hsplit rfl).1, hid, htakes⟩

theorem onBattleCreate_mapped (hparse : parser.battleCreateReq frame.payload = some req) (sessionId : UInt32) :
    (s.onBattleCreate G parser frame).1.roomManager.sessionToRoom.contains sessionId = true ↔
      s.roomManager.sessionToRoom.contains sessionId = true ∨ s.GivesSeat G frame req sessionId := by
  simp only [onBattleCreate, hparse]
  rcases hfind : s.roomManager.findRoom req.battleId with _ | room
  · dsimp only
    obtain ⟨manager, id, hcreate⟩ : ∃ manager id,
      s.roomManager.createRoom G (s.roomConfig req).1 = (manager, id) := ⟨_, _, rfl⟩
    rcases id with _ | battleId
    · rw [hcreate, or_iff_left]
      rintro ⟨-, hopens, -⟩
      rw [hcreate] at hopens
      cases hopens
    · obtain ⟨rfl, -⟩ := BattleRoomManager.createRoom_new hfind hcreate
      have hturn : (req.players.foldl (seatPlayer G req.battleId frame.sessionId) { manager }) =
          turn G s frame req req.players := by rw [turn, hcreate]
      rw [hcreate]
      simp only [roomConfig_battleId, hturn, answerSeated_manager]
      rw [turn_mapped]
      refine or_congr_right ⟨fun hseat => ⟨hfind, by rw [hcreate]; rfl, hseat⟩, fun h => h.seat⟩
  · refine (or_iff_left ?_).symm
    rintro ⟨hnew, -⟩
    rw [hfind] at hnew
    cases hnew

theorem onBattleCreate_unread (hparse : parser.battleCreateReq frame.payload = none) :
    (s.onBattleCreate G parser frame).1 = s := by
  rw [onBattleCreate, hparse]

theorem onBattleInput_mapped (sessionId : UInt32) :
    (s.onBattleInput G parser sessionId frame).roomManager.sessionToRoom = s.roomManager.sessionToRoom := by
  unfold onBattleInput
  split
  · rfl
  · split
    · rfl
    · split_ifs <;> rfl

end BattleServer

/-! ### The process -/

/-- `BackendClient::State`. -/
inductive LinkState
  | disconnected
  | connecting
  | connected
  | registered
deriving DecidableEq

structure Process (World : Type) where
  client : BackendClient := {}
  server : BattleServer World
  state : LinkState := .connecting
  running : Bool := true

/-- `yasio`'s events, and the timer of the battles. -/
inductive NetworkEvent
  | opened (ok : Bool)
  | packet (frame : BackendFrame)
  | closed
  | tick (dt : Float32)

/-- `kServiceIdGame`. -/
def serviceIdGame : UInt32 := 0

/-- `ServerRegResp.MsgId`. -/
def serverRegRespId : UInt16 := 101

namespace Process

variable (m : MessageMap) (G : Mugen World) (parser : Parser) (p : Process World)

def start (config : BattleServerConfig) : Process World := { server := .init config }

def stopSession (sessionId : UInt32) : Process World :=
  if p.client.onlineSessions.contains sessionId then
    { p with
      client := { p.client with onlineSessions := p.client.onlineSessions.remove sessionId }
      server := (p.server.onSessionOffline sessionId).1 }
  else p

def spawnSession (sessionId : UInt32) : Process World :=
  let p := p.stopSession sessionId
  { p with client := { p.client with onlineSessions := p.client.onlineSessions.insert sessionId () } }

/-- The delegate is told about one session after the other, when none is online any more. -/
def stopAllSessions : Process World :=
  { p with
    client := { p.client with onlineSessions := ∅ }
    server := p.client.onlineSessions.toList.foldl
      (fun server session => (server.onSessionOffline session.1).1) p.server }

/-- `m_rpc.failAll`. -/
def failAll : Process World := { p with client := { p.client with pending := ∅ } }

def stop : Process World :=
  if !p.running then p else { p.stopAllSessions.failAll with running := false, state := .disconnected }

def handleConnectionFailure : Process World :=
  if !p.running then p else { p.failAll with running := false }

/-- The rooms go away with their manager. -/
def resetRooms : Process World :=
  { p with server := { p.server with roomManager :=
    { maxRooms := p.server.config.maxBattles, maxSessions := p.server.config.maxSessions } } }

def onGatewayDisconnected : Process World := p.stopAllSessions.failAll.resetRooms.stop

/-- What becomes of a frame. Requests of clients and pushes of servers are not the server's business. -/
def act (frame : BackendFrame) : Action → Process World
  | .completeRpc id => { p with client := { p.client with pending := p.client.pending.remove id } }
  | .sessionOnline sessionId => p.spawnSession sessionId
  | .sessionOffline sessionId => p.stopSession sessionId
  | .serverOffline serviceId _ => if serviceId = serviceIdGame then p.stop else p
  | .clientPush sessionId => { p with server := (p.server.handle G parser (.clientPush sessionId frame)).1 }
  | .serverRequest _ inner _ => { p with server := (p.server.handle G parser (.serverRequest inner)).1 }
  | _ => p

/-- The registration has failed. -/
def refused : Process World := { p with state := .disconnected }.handleConnectionFailure

def processFrame (frame : BackendFrame) : Process World :=
  if p.state ≠ .registered then
    if frame.cmd ≠ backendCmdControl ∨ frame.msgId ≠ serverRegRespId then p
    else match parsePayload m serverRegRespId frame.payload with
      | some (.serverRegResp code _) => if code ≠ 0 then p.refused else { p with state := .registered }
      | _ => p.refused
  else p.act G parser frame (p.client.onGatewayFrame m frame)

/-- What still comes after the service has been stopped is left out: the sessions have ended, and frames are
ignored. -/
def next : NetworkEvent → Option (Process World)
  | .opened ok =>
      if !p.running then none
      else some (if ok then { p with state := .connected } else p.refused)
  | .packet frame => if !p.running then none else some (p.processFrame m G parser frame)
  | .closed =>
      if !p.running then none
      else some { p with state := .disconnected }.onGatewayDisconnected.handleConnectionFailure
  | .tick dt => if !p.running then none else some { p with server := (p.server.tick G dt).1 }

def Step (p : Process World) (e : NetworkEvent) (p' : Process World) : Prop := p.next m G parser e = some p'

/-- Everybody with a seat is online. -/
def Present : Prop := ∀ sessionId, p.server.roomManager.sessionToRoom.contains sessionId = true →
  p.client.onlineSessions.contains sessionId = true

/-- Whoever the event gives a seat is online. -/
def SeatsOnline : NetworkEvent → Prop
  | .packet frame => p.state = .registered → ∀ source inner reply req sessionId,
      p.client.onGatewayFrame m frame = .serverRequest source inner reply → inner.msgId = BattleCreateReq.id →
        parser.battleCreateReq inner.payload = some req → p.server.GivesSeat G inner req sessionId →
          p.client.onlineSessions.contains sessionId = true
  | _ => True

variable {m G parser p} {p' : Process World}

/-! ### What events do to seats -/

theorem present_of_eq (h : p.Present)
    (hrooms : p'.server.roomManager.sessionToRoom = p.server.roomManager.sessionToRoom)
    (honline : p'.client.onlineSessions = p.client.onlineSessions) : p'.Present := by
  rw [Present, hrooms, honline]
  exact h

theorem present_of_none (h : ∀ sessionId, p.server.roomManager.sessionToRoom.contains sessionId = false) :
    p.Present := fun sessionId hmapped => by
  rw [h sessionId] at hmapped
  cases hmapped

theorem Present.stopSession (h : p.Present) (gone : UInt32) : (p.stopSession gone).Present := by
  unfold Process.stopSession
  split_ifs
  · intro sessionId hmapped
    obtain ⟨hne, hold⟩ := (BattleRoomManager.removePlayer_mapped gone sessionId).1 hmapped
    exact (Table.contains_remove ..).2 ⟨hne, h sessionId hold⟩
  · exact h

theorem Present.spawnSession (h : p.Present) (new : UInt32) : (p.spawnSession new).Present :=
  fun sessionId hmapped =>
    (Table.contains_insert ..).2 (Or.inr (h.stopSession new sessionId hmapped))

theorem foldl_offline (sessions : List (UInt32 × Unit)) (s : BattleServer World) (sessionId : UInt32) :
    (sessions.foldl (fun server session => (server.onSessionOffline session.1).1) s).roomManager.sessionToRoom.contains
      sessionId = true ↔
        (∀ session ∈ sessions, sessionId ≠ session.1) ∧ s.roomManager.sessionToRoom.contains sessionId = true := by
  induction sessions generalizing s with
  | nil => simp
  | cons session sessions ih =>
      rw [List.foldl_cons, ih, List.forall_mem_cons, and_comm (a := sessionId ≠ session.1), and_assoc]
      exact and_congr_right fun _ => BattleRoomManager.removePlayer_mapped session.1 sessionId

theorem Present.stopAllSessions (h : p.Present) (sessionId : UInt32) :
    p.stopAllSessions.server.roomManager.sessionToRoom.contains sessionId = false := by
  rw [← Bool.not_eq_true, Process.stopAllSessions]
  intro hmapped
  obtain ⟨hnone, hold⟩ := (foldl_offline _ _ _).1 hmapped
  obtain ⟨u, honline⟩ := (Table.contains_iff ..).1 (h sessionId hold)
  exact hnone (sessionId, u) ((Table.mem_toList ..).2 honline) rfl

theorem Present.stop (h : p.Present) : p.stop.Present := by
  unfold Process.stop
  split_ifs
  · exact h
  · exact present_of_none h.stopAllSessions

theorem Present.handleConnectionFailure (h : p.Present) : p.handleConnectionFailure.Present := by
  unfold Process.handleConnectionFailure
  split_ifs
  · exact h
  · exact present_of_eq h rfl rfl

theorem present_resetRooms : p.resetRooms.Present :=
  present_of_none fun _ => rfl

theorem Present.refused (h : p.Present) : p.refused.Present :=
  Present.handleConnectionFailure (p := { p with state := .disconnected }) (present_of_eq h rfl rfl)

theorem present_serverRequest (h : p.Present) (inner : BackendFrame) :
    Present { p with server := (p.server.handle G parser (.serverRequest inner)).1 } ↔
      (inner.msgId = BattleCreateReq.id → ∀ req sessionId, parser.battleCreateReq inner.payload = some req →
        p.server.GivesSeat G inner req sessionId → p.client.onlineSessions.contains sessionId = true) := by
  simp only [BattleServer.handle]
  split_ifs with hcreate
  · rcases hparse : parser.battleCreateReq inner.payload with _ | req
    · refine iff_of_true (present_of_eq h ?_ rfl) fun _ _ _ hreq => by cases hreq
      exact congrArg (fun s : BattleServer World => s.roomManager.sessionToRoom)
        (BattleServer.onBattleCreate_unread hparse)
    · have hmapped := BattleServer.onBattleCreate_mapped (G := G) (s := p.server) hparse
      constructor
      · rintro hpresent - _ sessionId ⟨⟩ hseat
        exact hpresent sessionId ((hmapped sessionId).2 (Or.inr hseat))
      · intro hseats sessionId hafter
        rcases (hmapped sessionId).1 hafter with hold | hseat
        · exact h sessionId hold
        · exact hseats hcreate req sessionId rfl hseat
  · exact iff_of_true (present_of_eq h rfl rfl) fun hid => absurd hid hcreate

theorem present_act (h : p.Present) (frame : BackendFrame) (action : Action) :
    (p.act G parser frame action).Present ↔ ∀ source inner reply req sessionId,
      action = .serverRequest source inner reply → inner.msgId = BattleCreateReq.id →
        parser.battleCreateReq inner.payload = some req → p.server.GivesSeat G inner req sessionId →
          p.client.onlineSessions.contains sessionId = true := by
  cases action with
  | serverRequest source inner reply =>
      rw [act, present_serverRequest h]
      constructor
      · rintro hseats _ _ _ req sessionId ⟨⟩ hid hparse hseat
        exact hseats hid req sessionId hparse hseat
      · exact fun hseats hid req sessionId => hseats source inner reply req sessionId rfl hid
  | completeRpc => exact iff_of_true (present_of_eq h rfl rfl) fun _ _ _ _ _ haction => by cases haction
  | sessionOnline sessionId => exact iff_of_true (h.spawnSession sessionId) fun _ _ _ _ _ haction => by cases haction
  | sessionOffline sessionId => exact iff_of_true (h.stopSession sessionId) fun _ _ _ _ _ haction => by cases haction
  | serverOffline serviceId instanceId =>
      refine iff_of_true ?_ fun _ _ _ _ _ haction => by cases haction
      rw [act]
      split_ifs
      · exact h.stop
      · exact h
  | clientPush sessionId =>
      refine iff_of_true (present_of_eq h ?_ rfl) fun _ _ _ _ _ haction => by cases haction
      simp only [act, BattleServer.handle]
      split_ifs
      · exact BattleServer.onBattleInput_mapped sessionId
      · rfl
  | _ => exact iff_of_true h fun _ _ _ _ _ haction => by cases haction

/-- An event keeps everybody with a seat online if and only if whoever it gives a seat is. -/
theorem present_step {e : NetworkEvent} (hstep : Step m G parser p e p') (h : p.Present) :
    p'.Present ↔ p.SeatsOnline m G parser e := by
  rw [Step] at hstep
  cases e with
  | opened ok =>
      simp only [next, Option.ite_none_left_eq_some, Option.some.injEq] at hstep
      obtain ⟨-, rfl⟩ := hstep
      refine iff_of_true ?_ trivial
      split_ifs
      · exact present_of_eq h rfl rfl
      · exact h.refused
  | packet frame =>
      simp only [next, Option.ite_none_left_eq_some, Option.some.injEq] at hstep
      obtain ⟨-, rfl⟩ := hstep
      rw [processFrame, SeatsOnline]
      by_cases hstate : p.state = .registered
      · rw [if_neg (not_not.2 hstate), present_act h]
        exact ⟨fun hseats _ => hseats, fun hseats => hseats hstate⟩
      · rw [if_pos hstate]
        refine iff_of_true ?_ fun hregistered => absurd hregistered hstate
        split_ifs
        · exact h
        · split
          · split_ifs
            · exact h.refused
            · exact present_of_eq h rfl rfl
          · exact h.refused
  | closed =>
      simp only [next, Option.ite_none_left_eq_some, Option.some.injEq] at hstep
      obtain ⟨-, rfl⟩ := hstep
      exact iff_of_true present_resetRooms.stop.handleConnectionFailure trivial
  | tick dt =>
      simp only [next, Option.ite_none_left_eq_some, Option.some.injEq] at hstep
      obtain ⟨-, rfl⟩ := hstep
      exact iff_of_true (present_of_eq h rfl rfl) trivial

/-- **Nobody asks whether the players are online.** In every state of a run the sessions that have a seat are
online if and only if every session that a battle creation has given a seat was online then. -/
theorem present_of_run {config : BattleServerConfig} {trace : List (Process World × NetworkEvent)}
    (hrun : Run (Step m G parser) (start config) trace p) :
    ((∀ e ∈ trace, e.1.Present) ∧ p.Present) ↔ ∀ e ∈ trace, e.1.SeatsOnline m G parser e.2 := by
  induction hrun with
  | start => exact iff_of_true ⟨nofun, present_of_none fun _ => rfl⟩ nofun
  | @next trace p p' e _ hstep ih =>
      rw [List.forall_mem_append, List.forall_mem_append, List.forall_mem_singleton, List.forall_mem_singleton, ← ih]
      constructor
      · rintro ⟨⟨hbefore, hpresent⟩, hafter⟩
        exact ⟨⟨hbefore, hpresent⟩, (present_step hstep hpresent).1 hafter⟩
      · rintro ⟨⟨hbefore, hpresent⟩, hseats⟩
        exact ⟨⟨hbefore, hpresent⟩, (present_step hstep hpresent).2 hseats⟩

theorem present_iff_stopSession : p.Present ↔ ∀ sessionId,
    (p.stopSession sessionId).server.roomManager.sessionToRoom.contains sessionId = false := by
  refine forall_congr' fun sessionId => ?_
  unfold Process.stopSession
  split_ifs with honline
  · refine iff_of_true (fun _ => honline) ?_
    rw [← Bool.not_eq_true]
    exact fun hmapped => ((BattleRoomManager.removePlayer_mapped ..).1 hmapped).1 rfl
  · rw [Bool.not_eq_true] at honline
    rw [honline, ← Bool.not_eq_true]
    simp

open BattleServer (duelParser duelReq requestFrame)

namespace Sample

/-- The registration, one session's pushes, and the duel of sessions 1 and 2. -/
def pushes : MessageMap where
  encode := fun message => (message.msgId, [])
  decode := fun msgId payload =>
    if msgId = serverRegRespId then .ok (.serverRegResp 0 [])
    else if msgId = sessionOnlinePushId then .ok (.sessionOnlinePush (payload.headD 0).toUInt32)
    else if msgId = sessionOfflinePushId then .ok (.sessionOfflinePush (payload.headD 0).toUInt32)
    else if msgId = forwardToServerReqId then .ok (.forwardToServerReq {
      targetServiceId := 1, targetInstanceId := 1, payload := encodeFrame (requestFrame [1])
      sourceServiceId := 0, sourceInstanceId := 1 })
    else .error "unknown message id"

def control (msgId : UInt16) (payload : Bytes) : NetworkEvent :=
  .packet { cmd := backendCmdControl, msgId, serial := 0, sessionId := 0, payload }

/-- The two players come online. -/
def arrivals : List NetworkEvent :=
  [.opened true, control serverRegRespId [], control sessionOnlinePushId [1], control sessionOnlinePushId [2]]

abbrev process : Process UInt32 := start {}

end Sample

/-- Both players are online when their duel is created. -/
theorem present_of_run_duel : ∃ trace p, Run (Step Sample.pushes Mugen.counting duelParser) Sample.process trace p ∧
    p.server.roomManager.sessionToRoom.contains 1 = true ∧ p.Present := by
  obtain ⟨⟨trace, p⟩, hrecord⟩ := Option.isSome_iff_exists.1
    (show (Run.record (next Sample.pushes Mugen.counting duelParser) Sample.process
      (Sample.arrivals ++ [Sample.control forwardToServerReqId []])).isSome from rfl)
  have hrun : Run (Step Sample.pushes Mugen.counting duelParser) Sample.process trace p :=
    Run.of_record (fun _ _ _ h => h) hrecord
  have h := (present_of_run hrun).2 ?_
  · refine ⟨trace, p, hrun, ?_, h.2⟩
    cases hrecord
    decide
  · cases hrecord
    simp only [List.forall_mem_cons]
    refine ⟨trivial, nofun, ?_, ?_, ?_, nofun⟩
    · rintro - source inner reply req sessionId haction
      exact nomatch haction
    · rintro - source inner reply req sessionId haction
      exact nomatch haction
    · rintro - source inner reply req sessionId haction - hparse hseat
      have hinner : Action.serverRequest ⟨0, 1⟩ (requestFrame [1]) 1 = .serverRequest source inner reply := haction
      cases hinner
      obtain ⟨before, player, after, hplayers, rfl, -⟩ := hseat.seat
      cases (show duelParser.battleCreateReq [1] = some req from hparse)
      have hplayer : player ∈ duelReq.players := by
        rw [hplayers]
        exact List.mem_append_right _ List.mem_cons_self
      rcases List.mem_pair.1 hplayer with rfl | rfl
      · decide
      · decide

/-- The first player has left before the duel is created, and gets a seat. -/
theorem absent_player_seated : ∃ trace p, Run (Step Sample.pushes Mugen.counting duelParser) Sample.process trace p ∧
    p.server.roomManager.sessionToRoom.contains 1 = true ∧ p.client.onlineSessions.contains 1 = false ∧
      ¬ p.Present := by
  obtain ⟨⟨trace, p⟩, hrecord⟩ := Option.isSome_iff_exists.1
    (show (Run.record (next Sample.pushes Mugen.counting duelParser) Sample.process
      (Sample.arrivals ++ [Sample.control sessionOfflinePushId [1], Sample.control forwardToServerReqId []])).isSome
        from rfl)
  have hrun : Run (Step Sample.pushes Mugen.counting duelParser) Sample.process trace p :=
    Run.of_record (fun _ _ _ h => h) hrecord
  have hseat : p.server.roomManager.sessionToRoom.contains 1 = true := by
    cases hrecord
    decide
  have honline : p.client.onlineSessions.contains 1 = false := by
    cases hrecord
    decide
  exact ⟨trace, p, hrun, hseat, honline, fun hpresent => Bool.false_ne_true (honline.symm.trans (hpresent 1 hseat))⟩

end Process

end AxmolFighter.Battle
