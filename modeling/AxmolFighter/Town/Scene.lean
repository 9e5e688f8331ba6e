import AxmolFighter.Lib.Table

/-!
# The town's scenes

`SceneManager` of `town/src/scene.rs`: the four maps, the operations on them and the pushes each
operation hands out. A `HashMap` is a `Table`; the order of the players in a response and of the
entries of a push list is the iteration order of such a map, so nothing may depend on it.

An `f32` is its 32 bits: the town only copies it.
-/

namespace AxmolFighter.Town

/-- `protocol::types::PlayerState`; the default values are those of `Default`. -/
structure PlayerState where
  playerId : Int64 := 0
  posX : UInt32 := 0
  posY : UInt32 := 0
  hp : Int32 := 0
  state : String := ""
  classId : Int32 := 0
  name : String := ""
  posZ : UInt32 := 0
  facing : Int32 := 0
  moving : Bool := false
  velX : UInt32 := 0
  velY : UInt32 := 0
deriving DecidableEq

instance : Inhabited PlayerState := ⟨{}⟩

/-- `protocol::types::SceneInfo`. -/
structure SceneInfo where
  type : Int32
  mapId : UInt32
  ownerUid : UInt64
deriving DecidableEq

structure TownEnterSceneReq where
  sessionId : UInt32
  playerId : Int64
  type : Int32
  mapId : UInt32
  ownerUid : UInt64
  state : Option PlayerState
deriving DecidableEq

/-- The state a player enters with: the request's, or the default, under the request's player id. -/
def TownEnterSceneReq.enteringState (req : TownEnterSceneReq) : PlayerState :=
  { req.state.getD default with playerId := req.playerId }

structure TownEnterSceneResp where
  code : Int32
  message : String
  townInstanceId : UInt32
  scene : Option SceneInfo
  players : List PlayerState
deriving DecidableEq

structure TownLeaveSceneReq where
  sessionId : UInt32
  playerId : Int64
deriving DecidableEq

structure TownLeaveSceneResp where
  code : Int32
  message : String
deriving DecidableEq

structure TownPlayerStatePush where
  state : Option PlayerState
deriving DecidableEq

/-- The values of `SceneEnterType` that name a scene. -/
def sceneEnterMap : Int32 := 1

def sceneEnterHome : Int32 := 2

inductive SceneKey
  | map (mapId : UInt32)
  | home (ownerUid : UInt64)
deriving DecidableEq

def SceneKey.fromParts (sceneType : Int32) (mapId : UInt32) (ownerUid : UInt64) :
    Except String SceneKey :=
  if sceneType = sceneEnterMap then
    if mapId > 0 then .ok (.map mapId) else .error "map_id must be greater than 0"
  else if sceneType = sceneEnterHome then
    if ownerUid > 0 then .ok (.home ownerUid) else .error "owner_uid must be greater than 0"
  else .error "invalid scene enter type"

def SceneKey.sceneInfo : SceneKey → SceneInfo
  | .map mapId => { type := sceneEnterMap, mapId, ownerUid := 0 }
  | .home ownerUid => { type := sceneEnterHome, mapId := 0, ownerUid }

structure Player where
  sessionId : UInt32
  state : PlayerState
deriving DecidableEq

structure Scene where
  sceneId : UInt64
  info : SceneInfo
  players : Table Int64 Player
deriving DecidableEq

structure PushBatch where
  playerEnter : List (UInt32 × PlayerState) := []
  playerLeave : List (UInt32 × Int64) := []
  playerState : List (UInt32 × PlayerState) := []
deriving DecidableEq

structure EnterSceneResult where
  response : TownEnterSceneResp
  pushes : PushBatch
deriving DecidableEq

structure LeaveSceneResult where
  response : TownLeaveSceneResp
  pushes : PushBatch
deriving DecidableEq

structure SceneManager where
  nextSceneId : UInt64 := 0
  scenesByKey : Table SceneKey UInt64 := ∅
  scenes : Table UInt64 Scene := ∅
  playerScenes : Table Int64 UInt64 := ∅
  sessionPlayers : Table UInt32 Int64 := ∅
deriving DecidableEq

instance : Inhabited SceneManager := ⟨{}⟩

/-- `u64::MAX`. -/
def u64Max : UInt64 := 0xFFFFFFFFFFFFFFFF

/-- `u64::saturating_add(1)`. -/
def saturatingSucc (n : UInt64) : UInt64 := if n = u64Max then n else n + 1

namespace SceneManager

def ensureScene (m : SceneManager) (key : SceneKey) : SceneManager × UInt64 :=
  match m.scenesByKey.get key with
  | some sceneId => (m, sceneId)
  | none =>
      let sceneId := saturatingSucc m.nextSceneId
      ({ m with
          nextSceneId := sceneId
          scenesByKey := m.scenesByKey.insert key sceneId
          scenes := m.scenes.insert sceneId { sceneId, info := key.sceneInfo, players := ∅ } },
        sceneId)

def removePlayer (m : SceneManager) (playerId : Int64) (pushes : PushBatch) :
    SceneManager × PushBatch :=
  match m.playerScenes.get playerId with
  | none => (m, pushes)
  | some sceneId =>
      let m := { m with playerScenes := m.playerScenes.remove playerId }
      match m.scenes.get sceneId with
      | none => (m, pushes)
      | some scene =>
          match scene.players.get playerId with
          | none => (m, pushes)
          | some player =>
              let scene := { scene with players := scene.players.remove playerId }
              ({ m with
                  scenes := m.scenes.insert sceneId scene
                  sessionPlayers := m.sessionPlayers.remove player.sessionId },
                { pushes with
                  playerLeave := pushes.playerLeave ++
                    scene.players.values.map fun other => (other.sessionId, playerId) })

/-- `none`: the scene does not exist, and `expect` panics. -/
def enterResponse (m : SceneManager) (instanceId : UInt32) (sceneId : UInt64) :
    Option TownEnterSceneResp := do
  let scene ← m.scenes.get sceneId
  some {
    code := 0
    message := ""
    townInstanceId := instanceId
    scene := some scene.info
    players := scene.players.values.map Player.state }

/-- The states pushed to everybody in the scene who is not on session `sessionId`. -/
def statePushes (scene : Scene) (sessionId : UInt32) (state : PlayerState) :
    List (UInt32 × PlayerState) :=
  (scene.players.values.filter fun other => other.sessionId ≠ sessionId).map
    fun other => (other.sessionId, state)

def updatePlayerInScene (m : SceneManager) (instanceId : UInt32) (sceneId : UInt64)
    (sessionId : UInt32) (state : PlayerState) : Option (SceneManager × EnterSceneResult) := do
  let playerId := state.playerId
  let scene ← m.scenes.get sceneId
  let (m, scene) := match scene.players.get playerId with
    | some player =>
        let scene := { scene with players := scene.players.insert playerId { sessionId, state } }
        ({ m with
            scenes := m.scenes.insert sceneId scene
            sessionPlayers := (m.sessionPlayers.remove player.sessionId).insert sessionId playerId },
          scene)
    | none => (m, scene)
  let response ← m.enterResponse instanceId sceneId
  some (m, { response, pushes := { playerState := statePushes scene sessionId state } })

/-- The refusal of a target that names no scene. -/
def invalidTarget (instanceId : UInt32) (message : String) : EnterSceneResult where
  response := { code := 400, message, townInstanceId := instanceId, scene := none, players := [] }
  pushes := {}

/-- The first half of a scene switch: whoever else the session held leaves. -/
def standUp (m : SceneManager) (sessionId : UInt32) (playerId : Int64) : SceneManager × PushBatch :=
  match m.sessionPlayers.get sessionId with
  | some oldPlayerId => if oldPlayerId ≠ playerId then m.removePlayer oldPlayerId {} else (m, {})
  | none => (m, {})

/-- The second half: everybody in the scene is told, and the player is entered in all maps. -/
def sitDown (m : SceneManager) (instanceId : UInt32) (sceneId : UInt64) (sessionId : UInt32)
    (playerId : Int64) (state : PlayerState) (pushes : PushBatch) :
    Option (SceneManager × EnterSceneResult) := do
  let scene ← m.scenes.get sceneId
  let pushes := { pushes with
    playerEnter := pushes.playerEnter ++
      scene.players.values.map fun player => (player.sessionId, state) }
  let scene := { scene with players := scene.players.insert playerId { sessionId, state } }
  let m := { m with
    scenes := m.scenes.insert sceneId scene
    playerScenes := m.playerScenes.insert playerId sceneId
    sessionPlayers := m.sessionPlayers.insert sessionId playerId }
  let response ← m.enterResponse instanceId sceneId
  some (m, { response, pushes })

def enterScene (m : SceneManager) (instanceId : UInt32) (req : TownEnterSceneReq) :
    Option (SceneManager × EnterSceneResult) :=
  match SceneKey.fromParts req.type req.mapId req.ownerUid with
  | .error message => some (m, invalidTarget instanceId message)
  | .ok key =>
      let (m, sceneId) := m.ensureScene key
      let state := req.enteringState
      if m.playerScenes.get req.playerId = some sceneId then
        m.updatePlayerInScene instanceId sceneId req.sessionId state
      else
        let (m, pushes) := m.standUp req.sessionId req.playerId
        let (m, pushes) := m.removePlayer req.playerId pushes
        m.sitDown instanceId sceneId req.sessionId req.playerId state pushes

def leaveScene (m : SceneManager) (req : TownLeaveSceneReq) : SceneManager × LeaveSceneResult :=
  match m.sessionPlayers.get req.sessionId with
  | some playerId =>
      if playerId = req.playerId then
        let (m, pushes) := m.removePlayer playerId {}
        (m, { response := { code := 0, message := "" }, pushes })
      else (m, { response := { code := 403, message := "session player mismatch" }, pushes := {} })
  | none => (m, { response := { code := 0, message := "" }, pushes := {} })

def leaveSession (m : SceneManager) (sessionId : UInt32) : SceneManager × PushBatch :=
  match m.sessionPlayers.get sessionId with
  | some playerId => m.removePlayer playerId {}
  | none => (m, {})

def updateState (m : SceneManager) (sessionId : UInt32) (push : TownPlayerStatePush) :
    SceneManager × PushBatch :=
  match m.sessionPlayers.get sessionId with
  | none => (m, {})
  | some playerId =>
      match m.playerScenes.get playerId with
      | none => (m, {})
      | some sceneId =>
          let state := { push.state.getD default with playerId }
          match m.scenes.get sceneId with
          | none => (m, {})
          | some scene =>
              match scene.players.get playerId with
              | none => (m, {})
              | some player =>
                  let scene := { scene with
                    players := scene.players.insert playerId { player with state } }
                  ({ m with scenes := m.scenes.insert sceneId scene },
                    { playerState := statePushes scene sessionId state })

def clear (m : SceneManager) : SceneManager :=
  { nextSceneId := m.nextSceneId }

end SceneManager

/-! ### Operations and runs -/

/-- A call of `SceneManager`, with its arguments. -/
inductive SceneOp
  | enterScene (instanceId : UInt32) (req : TownEnterSceneReq)
  | leaveScene (req : TownLeaveSceneReq)
  | leaveSession (sessionId : UInt32)
  | updateState (sessionId : UInt32) (push : TownPlayerStatePush)
  | clear
deriving DecidableEq

/-- What a call hands back: an enter or leave response, and the pushes to send. -/
structure SceneOutcome where
  enter : Option TownEnterSceneResp := none
  leave : Option TownLeaveSceneResp := none
  pushes : PushBatch := {}
deriving DecidableEq

/-- One call under the manager's mutex; `none` if an `expect` panics. -/
def SceneManager.exec (m : SceneManager) : SceneOp → Option (SceneManager × SceneOutcome)
  | .enterScene instanceId req =>
      (m.enterScene instanceId req).map fun (m, r) => (m, { enter := some r.response, pushes := r.pushes })
  | .leaveScene req =>
      let (m, r) := m.leaveScene req
      some (m, { leave := some r.response, pushes := r.pushes })
  | .leaveSession sessionId =>
      let (m, pushes) := m.leaveSession sessionId
      some (m, { pushes })
  | .updateState sessionId push =>
      let (m, pushes) := m.updateState sessionId push
      some (m, { pushes })
  | .clear => some (m.clear, {})

end AxmolFighter.Town
