import AxmolFighter.Battle.RoomManager
import AxmolFighter.Lib.Run
import AxmolFighter.Protocol.Codec

/-!
# The battle server

`BattleServer.cpp` and `battle/BattleSync.cpp`: what the server does with a forwarded battle creation, a
client's input, a session that goes offline and a tick of its timer. The parsers of the payloads are a
parameter.

The server handles one event after the other. When it loses the gateway it drops its rooms and stops,
so a run is what happens before that.
-/

namespace AxmolFighter.Battle

/-- `PB::BattleInternal::BattleCreateReq` without the two fields that nobody reads. -/
structure BattleCreateReq where
  battleId : UInt32
  mapId : Int32
  players : List BattlePlayerSpec
  randomSeed : UInt64
deriving DecidableEq

def BattleCreateReq.id : UInt16 := 60000

structure BattlePlayerSpawn where
  sessionId : UInt32
  actorEntityId : UInt32
deriving DecidableEq

structure BattleCreateResp where
  code : Int32
  message : String
  battleId : UInt32 := 0
  battleInstanceId : UInt32 := 0
  serverFrame : UInt32 := 0
  worldDump : Bytes := []
  actorEntityId : UInt32 := 0
  players : List BattlePlayerSpawn := []
deriving DecidableEq

/-- `PB::Battle::BattleInputPush`; the client's time is never read. -/
structure BattleInputPush where
  battleId : UInt32
  clientFrame : UInt32
  inputMask : UInt32
deriving DecidableEq

def BattleInputPush.id : UInt16 := 20012

structure BattleSnapshotPush where
  battleId : UInt32
  serverFrame : UInt32
  serverTimeMs : UInt64
  worldDump : Bytes
  lastProcessedClientFrame : UInt32
deriving DecidableEq

/-- `parsePayload` at the two messages the server reads. -/
structure Parser where
  battleCreateReq : Bytes → Option BattleCreateReq
  battleInputPush : Bytes → Option BattleInputPush

structure BattleServerConfig where
  instanceId : UInt32 := 1
  snapshotIntervalFrames : Int32 := 10
  maxBattles : UInt32 := 100
  maxSessions : UInt32 := 200
  loadReportInterval : Float32 := 5

structure BattleServer (World : Type) where
  config : BattleServerConfig
  roomManager : BattleRoomManager World
  randomSeed : UInt64 := 0xBA771E
  loadReportTimer : Float32 := 0

/-- `kServiceIdBattle`. -/
def serviceIdBattle : UInt32 := 1

/-- What the server hands to its gateway connection. -/
inductive Output
  | snapshot (sessionId : UInt32) (push : BattleSnapshotPush)
  | unbindService (sessionId serviceId : UInt32)
  | reportLoad (loadScore : UInt32) (acceptingBindings : Bool) (message : String)
  | reply (serial : Int32) (resp : BattleCreateResp)
deriving DecidableEq

inductive Event
  | serverRequest (frame : BackendFrame)
  | clientPush (sessionId : UInt32) (frame : BackendFrame)
  | sessionOffline (sessionId : UInt32)
  | tick (dt : Float32)

variable {World : Type} (G : Mugen World) (parser : Parser)

/-- `BattleSync::sendSnapshot`. -/
def sendSnapshot (room : BattleRoom World) : List Output :=
  if room.isEmpty then []
  else
    let worldDump := room.serializeWorld G
    room.players.toList.map fun (sessionId, slot) => .snapshot sessionId {
      battleId := room.battleId
      serverFrame := room.serverFrame
      serverTimeMs := (room.elapsed * 1000).toUInt64
      worldDump
      lastProcessedClientFrame := slot.lastClientFrame }

namespace BattleServer

variable (s : BattleServer World)

def init (config : BattleServerConfig) : BattleServer World where
  config
  roomManager := { maxRooms := config.maxBattles, maxSessions := config.maxSessions }

/-- An answer without a room. -/
def refusal (code : Int32) (message : String) : BattleCreateResp := { code, message }

/-- `makeBattleCreateResp` for a room. -/
def makeBattleCreateResp (room : BattleRoom World) (requesterActorId : UInt32) : BattleCreateResp where
  code := 0
  message := ""
  battleId := room.battleId
  battleInstanceId := s.config.instanceId
  serverFrame := room.serverFrame
  worldDump := room.serializeWorld G
  actorEntityId := requesterActorId
  players := room.players.toList.map fun (sessionId, slot) =>
    { sessionId, actorEntityId := slot.actorId }

/-- What the loop over the players of a request carries along. -/
structure Seated (World : Type) where
  manager : BattleRoomManager World
  joined : Bool := false
  requesterActorId : UInt32 := 0

/-- One turn of the loop, for the request's room and a frame from `frameSession`. -/
def seatPlayer (battleId frameSession : UInt32) (seated : Seated World) (player : BattlePlayerSpec) :
    Seated World :=
  let (manager, ok) := seated.manager.addPlayerToRoom G battleId player
  let seated := { seated with manager }
  if !ok then seated
  else if player.sessionId = frameSession ∨ frameSession = 0 then
    { seated with
      joined := true
      requesterActorId :=
        ((manager.findRoom battleId).map (·.actorIdForSession G player.sessionId)).getD 0 }
  else seated

/-- The room's configuration, and the seed counter, which only moves if the request has no seed. -/
def roomConfig (req : BattleCreateReq) : BattleRoomConfig × UInt64 :=
  let randomSeed := if req.randomSeed ≠ 0 then s.randomSeed else s.randomSeed + 1
  ({ battleId := req.battleId
     mapId := if req.mapId ≤ 0 then 1 else req.mapId
     randomSeed := if req.randomSeed ≠ 0 then req.randomSeed else randomSeed
     mode := "duel"
     maxPlayers := 2 }, randomSeed)

@[simp] theorem roomConfig_battleId (req : BattleCreateReq) :
    (s.roomConfig req).1.battleId = req.battleId := rfl

@[simp] theorem roomConfig_maxPlayers (req : BattleCreateReq) :
    (s.roomConfig req).1.maxPlayers.toNat = 2 := rfl

/-- The answer after the loop. -/
def answerSeated (req : BattleCreateReq) (battleId : UInt32) (seated : Seated World) :
    BattleServer World × BattleCreateResp × List Output :=
  let s := { s with roomManager := seated.manager }
  if !seated.joined ∧ req.players ≠ [] then (s, refusal 4 "battle is full or spawn failed", [])
  else
    match seated.manager.findRoom battleId with
    -- the room cannot be gone: the source still holds its pointer here
    | none => (s, refusal 3 "create battle failed", [])
    | some room => (s, s.makeBattleCreateResp G room seated.requesterActorId, sendSnapshot G room)

def onBattleCreate (frame : BackendFrame) : BattleServer World × BattleCreateResp × List Output :=
  match parser.battleCreateReq frame.payload with
  | none => (s, refusal 1 "invalid BattleCreateReq", [])
  | some req =>
      match s.roomManager.findRoom req.battleId with
      | some existing =>
          (s, s.makeBattleCreateResp G existing (existing.actorIdForSession G frame.sessionId), [])
      | none =>
          let (config, randomSeed) := s.roomConfig req
          let s := { s with randomSeed }
          match s.roomManager.createRoom G config with
          | (_, none) => (s, refusal 3 "create battle failed", [])
          | (manager, some battleId) =>
              s.answerSeated G req battleId
                (req.players.foldl (seatPlayer G battleId frame.sessionId) { manager })

def onBattleInput (sessionId : UInt32) (frame : BackendFrame) : BattleServer World :=
  match parser.battleInputPush frame.payload with
  | none => s
  | some input =>
      match s.roomManager.findRoomBySession sessionId with
      | none => s
      | some (battleId, room) =>
          if room.battleId ≠ input.battleId then s
          else
            let room := room.applyInput G sessionId input.clientFrame input.inputMask
            { s with roomManager :=
                { s.roomManager with rooms := s.roomManager.rooms.insert battleId room } }

def loadReport : Output :=
  let loadScore : UInt32 :=
    if s.config.maxBattles = 0 then 100
    else UInt32.ofNat (s.roomManager.roomCount * 100 / s.config.maxBattles.toNat)
  let accepting := s.roomManager.canAcceptSession 0
  .reportLoad (if loadScore > 100 then 100 else loadScore) accepting
    (if accepting then "" else "battle server capacity is full")

def tick (dt : Float32) : BattleServer World × List Output :=
  let s := { s with loadReportTimer := s.loadReportTimer + dt }
  let due := s.loadReportTimer ≥ s.config.loadReportInterval
  let report := if due then [s.loadReport] else []
  let s := { s with
    loadReportTimer := if due then 0 else s.loadReportTimer
    roomManager := s.roomManager.tickAll G dt }
  let interval : Int32 :=
    if s.config.snapshotIntervalFrames > 0 then s.config.snapshotIntervalFrames else 1
  let snapshots := s.roomManager.rooms.values.flatMap fun room =>
    if room.isEmpty then []
    else if room.serverFrame % interval.toUInt32 ≠ 0 then []
    else sendSnapshot G room
  (s, report ++ snapshots)

def onSessionOffline (sessionId : UInt32) : BattleServer World × List Output :=
  ({ s with roomManager := s.roomManager.removePlayer sessionId },
    [.unbindService sessionId serviceIdBattle])

/-- One event, handled to its end. -/
def handle : Event → BattleServer World × List Output
  | .serverRequest frame =>
      if frame.msgId = BattleCreateReq.id then
        let (s, resp, outputs) := s.onBattleCreate G parser frame
        (s, outputs ++ [.reply (-frame.serial) resp])
      else (s, [])
  | .clientPush sessionId frame =>
      if frame.msgId = BattleInputPush.id then (s.onBattleInput G parser sessionId frame, []) else (s, [])
  | .sessionOffline sessionId => s.onSessionOffline sessionId
  | .tick dt => s.tick G dt

/-- The transition of a run. -/
def Step (s : BattleServer World) (e : Event) (s' : BattleServer World) : Prop :=
  s' = (s.handle G parser e).1

end BattleServer

end AxmolFighter.Battle
