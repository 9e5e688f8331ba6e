import AxmolFighter.Game.Operations

/-!
# The handlers of a session

`player/*.rs`: what the task of a session does with a client's request. Its delegate is its own, so what a
handler leaves of it is what it returns; everything else goes through the operations.
-/

namespace AxmolFighter.Game

open Battle (BattleCreateReq BattleCreateResp BattlePlayerSpec)
open Town (PlayerState SceneInfo TownEnterSceneReq TownEnterSceneResp)
open Backend GameState

abbrev Delegate := PlayerSessionDelegate CharacterInfo

structure CodeResp where
  code : Int32
  message : String
deriving DecidableEq

structure SelectCharacterResp where
  code : Int32
  message : String
  character : Option CharacterInfo := none
  inventory : Option InventoryInfo := none

structure BattleJoinResp where
  code : Int32
  message : String
  battleId : UInt32 := 0
  serverFrame : UInt32 := 0
  worldDump : Bytes := []
  actorEntityId : UInt32 := 0
  randomSeed : UInt64 := 0

structure EnterSceneReq where
  type : Int32
  mapId : UInt32
  ownerUid : UInt64
  state : Option PlayerState

structure EnterSceneResp where
  code : Int32
  message : String
  scene : Option SceneInfo := none
  players : List PlayerState := []

/-- The request to the town; the player is the one that is logged in. -/
def EnterSceneReq.toTown (d : Delegate) (accountId : Int64) (req : EnterSceneReq) : TownEnterSceneReq where
  sessionId := d.sessionId
  playerId := accountId
  type := req.type
  mapId := req.mapId
  ownerUid := req.ownerUid
  state := some { (req.state.getD {}) with playerId := accountId }

namespace Delegate

variable (d : Delegate)

/-! ### Accounts and characters -/

def handleLogin (req : LoginReq) : Program gameOps (Delegate × LoginResp) := do
  match ← GameOp.perform (.request (.account req.account)) with
  | .ok (some row) =>
      if row.password = req.password then do
        let d : Delegate := { d with accountId := some row.id, selectedCharacter := none }
        bindAccount d.sessionId row.id
        let maxCharacterCount ← GameOp.perform (.request .maxCharacterCount)
        pure (d, {
          code := 0
          message := ""
          playerId := row.id
          nickname := row.nickname
          serverConfig := some { maxCharacterCount := match maxCharacterCount with
            | .ok (some v) => v.toInt32
            | _ => 10 }
          accountInfo := some { playerId := row.id, account := req.account, nickname := row.nickname } })
      else pure (d, { code := 1, message := "密码错误" })
  | .ok none => pure (d, { code := 2, message := "账号不存在" })
  | .error _ => pure (d, { code := -1, message := "服务器内部错误" })

def handleSelectCharacter (characterId : Int64) : Program gameOps (Delegate × SelectCharacterResp) :=
  match d.accountId with
  | none => pure (d, { code := 401, message := "请先登录" })
  | some accountId => do
      match ← GameOp.perform (.request (.ownedCharacter characterId accountId)) with
      | .error _ => pure (d, { code := -1, message := "服务器内部错误" })
      | .ok none => pure (d, { code := 2, message := "角色不存在或不属于当前账号" })
      | .ok (some characterId) =>
          match ← GameOp.perform (.request (.loadCharacterById characterId)) with
          | none => pure (d, { code := 2, message := "角色不存在或不属于当前账号" })
          | some character => do
              let items ← GameOp.perform (.request (.inventoryItems characterId))
              GameOp.perform (.setSelectedCharacter d.sessionId character)
              pure ({ d with selectedCharacter := some character }, {
                code := 0
                message := ""
                character := some character
                inventory := some {
                  items, equipments := character.equipments, fashions := character.fashions } })

def requireSelectedCharacterId : Except CodeResp Int64 :=
  match d.accountId, d.selectedCharacter with
  | none, _ => .error { code := 401, message := "请先登录" }
  | some _, none => .error { code := 2, message := "请先选择角色" }
  | some _, some c => .ok c.characterId

/-- The handlers of `progress.rs`, whose statements fail or are all executed. -/
def handleProgress (req : ProgressReq) : Program gameOps (Delegate × CodeResp) :=
  match d.requireSelectedCharacterId with
  | .error resp => pure (d, resp)
  | .ok characterId => do
      if ← GameOp.perform (.request (.saveProgress characterId req)) then do
        let selected := d.selectedCharacter.map fun c => req.refresh characterId c
        Program.whenSome selected fun c => GameOp.perform (.setSelectedCharacter d.sessionId c)
        pure ({ d with selectedCharacter := selected }, { code := 0, message := "" })
      else pure (d, { code := -1, message := "服务器内部错误" })

/-! ### Towns -/

def leaveTownScene : Program gameOps Bool :=
  match d.accountId with
  | none => pure false
  | some playerId => do
      match ← GameOp.perform (.townInstanceForSession d.sessionId) with
      | none => pure true
      | some townInstanceId =>
          match ← GameOp.perform (.request (.townLeaveScene
              ⟨serviceIdTown, townInstanceId.toInt32⟩ { sessionId := d.sessionId, playerId })) with
          | .ok (some resp) =>
              if resp.code ≠ 0 then pure false
              else do
                let unbind ← GameOp.perform (.request (.unbindService
                  { sessionId := d.sessionId, serviceId := serviceIdTown }))
                clearTownSession d.sessionId
                match unbind with
                | .ok (some resp) => pure (resp.code = 0)
                | _ => pure false
          | _ => pure false

def rollbackTownEnter (townInstanceId : UInt32) (playerId : Int64) : Program gameOps Unit := do
  let _ ← GameOp.perform (.request (.townLeaveScene
    ⟨serviceIdTown, townInstanceId.toInt32⟩ { sessionId := d.sessionId, playerId }))
  pure ()

/-- The message of the peer, or another one if it sent none. -/
def messageOr (message other : String) : String := if message = "" then other else message

def handleEnterScene (req : EnterSceneReq) : Program gameOps EnterSceneResp :=
  match d.accountId with
  | none => pure { code := 401, message := "please login first" }
  | some accountId => do
      let current ← GameOp.perform (.townInstanceForSession d.sessionId)
      let target : ServerSource := match current with
        | some instanceId => ⟨serviceIdTown, instanceId.toInt32⟩
        | none => .anyInstance serviceIdTown
      match ← GameOp.perform (.request (.townEnterScene target (req.toTown d accountId))) with
      | .ok none => pure { code := -1, message := "invalid town response" }
      | .error (.gateway code message) =>
          pure { code := code.toInt32, message := messageOr message "town server unavailable" }
      | .error _ => pure { code := -1, message := "town server unavailable" }
      | .ok (some resp) =>
          if resp.code ≠ 0 then pure { code := resp.code, message := resp.message }
          else do
            match ← GameOp.perform (.request (.bindService {
                sessionId := d.sessionId
                serviceId := serviceIdTown
                targetInstanceId := resp.townInstanceId.toInt32 })) with
            | .ok none => do
                rollbackTownEnter d resp.townInstanceId accountId
                pure { code := -1, message := "invalid bind service response" }
            | .error (.gateway code message) => do
                rollbackTownEnter d resp.townInstanceId accountId
                pure { code := code.toInt32, message := messageOr message "town server unavailable" }
            | .error _ => do
                rollbackTownEnter d resp.townInstanceId accountId
                pure { code := -1, message := "town server unavailable" }
            | .ok (some bind) =>
                if bind.code ≠ 0 then do
                  rollbackTownEnter d resp.townInstanceId accountId
                  pure {
                    code := bind.code.toInt32
                    message := messageOr bind.message "town server unavailable" }
                else do
                  bindTownSession d.sessionId resp.townInstanceId
                  pure { code := 0, message := "", scene := resp.scene, players := resp.players }

/-! ### Battles -/

/-- The seat of a character in a battle. -/
def seat (sessionId : UInt32) (playerId : Int64) (c : CharacterInfo) : BattlePlayerSpec where
  sessionId
  playerId
  classId := c.classId
  name := c.name

def handleBattleJoin (mapId : Int32) : Program gameOps BattleJoinResp :=
  match d.accountId, d.selectedCharacter with
  | none, _ => pure { code := 401, message := "please login first" }
  | some _, none => pure { code := 402, message := "please select character first" }
  | some accountId, some character => do
      let battleId ← GameOp.perform .nextBattleId
      let randomSeed ← GameOp.perform .nextRandomSeed
      match ← GameOp.perform (.request (.battleCreate (.anyInstance serviceIdBattle) {
          battleId
          mapId := if mapId ≤ 0 then 1 else mapId
          players := [seat d.sessionId accountId character]
          randomSeed })) with
      | .ok none => pure { code := -1, message := "invalid battle create response" }
      | .error (.gateway code message) =>
          pure { code := code.toInt32, message := messageOr message "battle server unavailable" }
      | .error _ => pure { code := -1, message := "battle server unavailable" }
      | .ok (some resp) =>
          if resp.code ≠ 0 then pure { code := resp.code, message := resp.message }
          else do
            match ← GameOp.perform (.request (.bindService {
                sessionId := d.sessionId
                serviceId := serviceIdBattle
                targetInstanceId := resp.battleInstanceId.toInt32 })) with
            | .ok none => pure { code := -1, message := "invalid bind service response" }
            | .error (.gateway code message) =>
                pure { code := code.toInt32, message := messageOr message "battle server unavailable" }
            | .error _ => pure { code := -1, message := "battle server unavailable" }
            | .ok (some bind) =>
                if bind.code ≠ 0 then
                  pure {
                    code := bind.code.toInt32
                    message := messageOr bind.message "battle server unavailable" }
                else do
                  bindBattleSession d.sessionId battleId resp.battleInstanceId
                  let _ ← leaveTownScene d
                  pure {
                    code := 0
                    message := ""
                    battleId
                    serverFrame := resp.serverFrame
                    worldDump := resp.worldDump
                    actorEntityId := resp.actorEntityId
                    randomSeed }

def handleDuelInvite (targetPlayerId : Int64) : Program gameOps CodeResp :=
  match d.accountId, d.selectedCharacter with
  | none, _ => pure { code := 401, message := "please login first" }
  | some _, none => pure { code := 402, message := "please select character first" }
  | some accountId, some character =>
      if targetPlayerId = accountId then pure { code := 403, message := "cannot duel yourself" }
      else do
        match ← GameOp.perform (.accountOwner targetPlayerId) with
        | none => pure { code := 404, message := "target player not online" }
        | some targetSession => do
            if (← GameOp.perform (.sessionInBattle d.sessionId)) then
              return { code := 405, message := "player already in battle" }
            if (← GameOp.perform (.sessionInBattle targetSession)) then
              return { code := 405, message := "player already in battle" }
            if !(← sessionInTown d.sessionId) then
              return { code := 406, message := "both players must be in town" }
            if !(← sessionInTown targetSession) then
              return { code := 406, message := "both players must be in town" }
            if (← GameOp.perform (.hasPendingDuelFrom d.sessionId)) then
              return { code := 407, message := "you already have a pending duel invite" }
            GameOp.perform (.addPendingDuel {
              challengerSession := d.sessionId
              challengerPlayerId := accountId
              targetSession
              targetPlayerId })
            GameOp.perform (.sendMsg (.duelInvite accountId character.name character.classId) targetSession)
            return { code := 0, message := "" }

def characterForSession (sessionId : UInt32) : Program gameOps (Except String CharacterInfo) :=
  if sessionId = d.sessionId then
    pure (match d.selectedCharacter with
      | some c => .ok c
      | none => .error "no selected character")
  else do
    match ← GameOp.perform (.characterForSession sessionId) with
    | some c => pure (.ok c)
    | none => pure (.error "opponent has no selected character")

def leaveTown (sessionId : UInt32) : Program gameOps Bool :=
  if sessionId = d.sessionId then leaveTownScene d else leaveTownForSession sessionId

/-- `Display` of an error. -/
def showRpcError : RpcError → String
  | .send message => "request send failed: " ++ message
  | .cancelled => "request cancelled"
  | .timeout => "request timeout"
  | .gateway code message => "gateway error code=" ++ toString code ++ " message=" ++ message
  | .decode msgId message => "decode response failed msg_id=" ++ toString msgId ++ " message=" ++ message

/-- Binds the sessions to the battle, one after the other. -/
def bindAll (battleId battleInstanceId : UInt32) : List UInt32 → Program gameOps (Except String Unit)
  | [] => pure (.ok ())
  | sessionId :: rest => do
      match ← GameOp.perform (.request (.bindService {
          sessionId
          serviceId := serviceIdBattle
          targetInstanceId := battleInstanceId.toInt32 })) with
      | .error e => pure (.error ("bind battle service failed: " ++ showRpcError e))
      | .ok none => pure (.error "invalid bind service response")
      | .ok (some resp) =>
          if resp.code ≠ 0 then
            pure (.error ("bind battle service rejected: code=" ++ toString resp.code))
          else do
            bindBattleSession sessionId battleId battleInstanceId
            bindAll battleId battleInstanceId rest

def startDuelBattle (pending : PendingDuel) : Program gameOps (Except String Unit) := do
  match ← characterForSession d pending.challengerSession with
  | .error message => pure (.error message)
  | .ok challenger =>
      match ← characterForSession d pending.targetSession with
      | .error message => pure (.error message)
      | .ok target => do
          let battleId ← GameOp.perform .nextBattleId
          let randomSeed ← GameOp.perform .nextRandomSeed
          match ← GameOp.perform (.request (.battleCreate (.anyInstance serviceIdBattle) {
              battleId
              mapId := 1
              players := [seat pending.challengerSession pending.challengerPlayerId challenger,
                seat pending.targetSession pending.targetPlayerId target]
              randomSeed })) with
          | .error e => pure (.error ("battle server unavailable: " ++ showRpcError e))
          | .ok none => pure (.error "invalid battle create response")
          | .ok (some resp) =>
              if resp.code ≠ 0 then pure (.error (messageOr resp.message "battle create failed"))
              else do
                let sessions := [pending.challengerSession, pending.targetSession]
                match ← bindAll battleId resp.battleInstanceId sessions with
                | .error message => pure (.error message)
                | .ok () => do
                    Program.forEach (fun sessionId => do
                      let _ ← leaveTown d sessionId
                      pure ()) sessions
                    Program.forEach (fun sessionId =>
                      GameOp.perform (.sendMsg (.duelStart {
                        battleId
                        serverFrame := resp.serverFrame
                        worldDump := resp.worldDump
                        actorEntityId := ((resp.players.find? fun p => p.sessionId = sessionId).map
                          fun p => p.actorEntityId).getD 0
                        mapId := 1
                        randomSeed }) sessionId)) sessions
                    pure (.ok ())

def handleDuelRespond (accept : Int32) : Program gameOps CodeResp := do
  match ← GameOp.perform (.findPendingDuelForTarget d.sessionId) with
  | none => pure { code := 404, message := "no pending duel invite" }
  | some pending => do
      let _ ← GameOp.perform (.removePendingDuel pending.challengerSession)
      if accept = 0 then do
        GameOp.perform (.sendMsg (.duelEnd 1 "duel invite rejected") pending.challengerSession)
        pure { code := 0, message := "" }
      else
        match ← startDuelBattle d pending with
        | .ok () => pure { code := 0, message := "" }
        | .error message => do
            GameOp.perform (.sendMsg (.duelEnd 3 message) pending.challengerSession)
            GameOp.perform (.sendMsg (.duelEnd 3 message) pending.targetSession)
            pure { code := -1, message }

/-! ### The end of a session -/

def onStop : Program gameOps Unit := do
  clearSessionRuntimeState d.sessionId
  match d.accountId with
  | none => pure ()
  | some accountId => GameOp.perform (.releaseAccount accountId d.sessionId)

end Delegate

end AxmolFighter.Game
