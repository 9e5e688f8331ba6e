import AxmolFighter.Backend.Rpc
import AxmolFighter.Battle.Server
import AxmolFighter.Game.Accounts
import AxmolFighter.Game.Character
import AxmolFighter.Town.Scene
import Mathlib.Data.Finset.Sort

/-!
# The game server's maps, one lock at a time

`game_shared/mod.rs` once more, as its tasks use it: every map has a lock of its own, and between two
sections, or while a request is awaited, other tasks act. An operation is what a function does under one
lock, one message that is handed over, or one request with whatever answer comes back.
-/

namespace AxmolFighter.Game

open Battle (BattleCreateReq BattleCreateResp)
open Town (TownEnterSceneReq TownEnterSceneResp TownLeaveSceneReq TownLeaveSceneResp)
open Backend

/-- The maps and the two counters. -/
structure GameState extends GameShared CharacterInfo where
  battleIdSeed : UInt32 := 1
  randomSeedCounter : UInt64 := 1

/-! ### Messages -/

structure BindServiceReq where
  sessionId : UInt32
  serviceId : UInt32
  targetInstanceId : Int32
deriving DecidableEq

structure BindServiceResp where
  code : UInt32
  message : String
deriving DecidableEq

structure UnbindServiceReq where
  sessionId : UInt32
  serviceId : UInt32
deriving DecidableEq

structure UnbindServiceResp where
  code : UInt32
  message : String
deriving DecidableEq

structure DuelStartPush where
  battleId : UInt32
  serverFrame : UInt32
  worldDump : Bytes
  actorEntityId : UInt32
  mapId : Int32
  randomSeed : UInt64
deriving DecidableEq

inductive GamePush
  | accountKicked (reason : Int32) (message : String)
  | battleServerOffline (battleId battleInstanceId : UInt32) (reason : Int32) (message : String)
  | townServerOffline (townInstanceId : UInt32) (reason : Int32) (message : String)
  | duelInvite (fromPlayerId : Int64) (fromName : String) (fromClassId : Int32)
  | duelStart (push : DuelStartPush)
  | duelEnd (reason : Int32) (message : String)
deriving DecidableEq

/-- What is asked of the database, the gateway and other servers. -/
inductive Request
  | account (account : String)
  | maxCharacterCount
  | ownedCharacter (characterId playerId : Int64)
  | loadCharacterById (characterId : Int64)
  | inventoryItems (characterId : Int64)
  | saveProgress (characterId : Int64) (req : ProgressReq)
  | battleCreate (target : ServerSource) (req : BattleCreateReq)
  | townEnterScene (target : ServerSource) (req : TownEnterSceneReq)
  | townLeaveScene (target : ServerSource) (req : TownLeaveSceneReq)
  | bindService (req : BindServiceReq)
  | unbindService (req : UnbindServiceReq)

/-- The response, or nothing if a message of another type is the answer. -/
abbrev RpcResult (α : Type) := Except RpcError (Option α)

@[reducible] def Request.Answer : Request → Type
  | account _ => Except String (Option AccountRow)
  | maxCharacterCount => Except String (Option Int64)
  | ownedCharacter .. => Except String (Option Int64)
  | loadCharacterById _ => Option CharacterInfo
  | inventoryItems _ => List ItemInfo
  | saveProgress .. => Bool
  | battleCreate .. => RpcResult BattleCreateResp
  | townEnterScene .. => RpcResult TownEnterSceneResp
  | townLeaveScene .. => RpcResult TownLeaveSceneResp
  | bindService _ => RpcResult BindServiceResp
  | unbindService _ => RpcResult UnbindServiceResp

/-! ### Operations -/

inductive GameOp
  -- `account_sessions`
  | insertAccount (accountId : Int64) (sessionId : UInt32)
  | accountOwner (accountId : Int64)
  | accountOfSession (sessionId : UInt32)
  | isSessionLoggedIn (sessionId : UInt32)
  | releaseAccount (accountId : Int64) (sessionId : UInt32)
  | clearAccounts
  -- `battle_sessions` and `battle_instance_sessions`
  | insertBattle (sessionId : UInt32) (state : BattleSessionState)
  | removeBattle (sessionId : UInt32)
  | sessionInBattle (sessionId : UInt32)
  | clearBattles
  | addToBattleInstance (instanceId sessionId : UInt32)
  | dropFromBattleInstance (instanceId sessionId : UInt32)
  | takeBattleInstance (instanceId : UInt32)
  | clearBattleInstances
  -- `town_sessions` and `town_instance_sessions`
  | insertTown (sessionId townInstanceId : UInt32)
  | removeTown (sessionId : UInt32)
  | townInstanceForSession (sessionId : UInt32)
  | clearTowns
  | addToTownInstance (instanceId sessionId : UInt32)
  | dropFromTownInstance (instanceId sessionId : UInt32)
  | takeTownInstance (instanceId : UInt32)
  | clearTownInstances
  -- `pending_duels`
  | addPendingDuel (pending : PendingDuel)
  | findPendingDuelForTarget (targetSession : UInt32)
  | hasPendingDuelFrom (challengerSession : UInt32)
  | removePendingDuel (challengerSession : UInt32)
  | removePendingDuelsForSession (sessionId : UInt32)
  -- `selected_characters`
  | setSelectedCharacter (sessionId : UInt32) (character : CharacterInfo)
  | characterForSession (sessionId : UInt32)
  | removeSelectedCharacter (sessionId : UInt32)
  -- the counters
  | nextBattleId
  | nextRandomSeed
  -- others
  | sendMsg (push : GamePush) (sessionId : UInt32)
  | kickSessionReq (sessionId : UInt32)
  | request (r : Request)

@[reducible] def GameOp.Answer : GameOp → Type
  | insertAccount .. | accountOwner _ | removeTown _ | townInstanceForSession _ => Option UInt32
  | accountOfSession _ => Option Int64
  | isSessionLoggedIn _ | sessionInBattle _ | hasPendingDuelFrom _ => Bool
  | removeBattle _ => Option BattleSessionState
  | takeBattleInstance _ | takeTownInstance _ => List UInt32
  | findPendingDuelForTarget _ | removePendingDuel _ => Option PendingDuel
  | characterForSession _ => Option CharacterInfo
  | nextBattleId => UInt32
  | nextRandomSeed => UInt64
  | request r => r.Answer
  | _ => Unit

@[reducible] def gameOps : Signature := ⟨GameOp, GameOp.Answer⟩

abbrev GameOp.perform (op : GameOp) : Program gameOps op.Answer := Program.perform (S := gameOps) op

namespace GameState

variable (g : GameState)

/-- What an operation changes. -/
def after : GameOp → GameState
  | .insertAccount accountId sessionId =>
      { g with accountSessions := g.accountSessions.insert accountId sessionId }
  | .releaseAccount accountId sessionId =>
      { g with accountSessions :=
          if g.accountSessions.get accountId = some sessionId then g.accountSessions.remove accountId
          else g.accountSessions }
  | .clearAccounts => { g with accountSessions := ∅ }
  | .insertBattle sessionId state => { g with battleSessions := g.battleSessions.insert sessionId state }
  | .removeBattle sessionId => { g with battleSessions := g.battleSessions.remove sessionId }
  | .clearBattles => { g with battleSessions := ∅ }
  | .addToBattleInstance instanceId sessionId =>
      { g with battleInstanceSessions := addToInstance g.battleInstanceSessions instanceId sessionId }
  | .dropFromBattleInstance instanceId sessionId =>
      { g with battleInstanceSessions := dropFromInstance g.battleInstanceSessions instanceId sessionId }
  | .takeBattleInstance instanceId =>
      { g with battleInstanceSessions := g.battleInstanceSessions.remove instanceId }
  | .clearBattleInstances => { g with battleInstanceSessions := ∅ }
  | .insertTown sessionId townInstanceId =>
      { g with townSessions := g.townSessions.insert sessionId townInstanceId }
  | .removeTown sessionId => { g with townSessions := g.townSessions.remove sessionId }
  | .clearTowns => { g with townSessions := ∅ }
  | .addToTownInstance instanceId sessionId =>
      { g with townInstanceSessions := addToInstance g.townInstanceSessions instanceId sessionId }
  | .dropFromTownInstance instanceId sessionId =>
      { g with townInstanceSessions := dropFromInstance g.townInstanceSessions instanceId sessionId }
  | .takeTownInstance instanceId =>
      { g with townInstanceSessions := g.townInstanceSessions.remove instanceId }
  | .clearTownInstances => { g with townInstanceSessions := ∅ }
  | .addPendingDuel pending =>
      { g with pendingDuels := g.pendingDuels.insert pending.challengerSession pending }
  | .removePendingDuel challengerSession =>
      { g with pendingDuels := g.pendingDuels.remove challengerSession }
  | .removePendingDuelsForSession sessionId =>
      { g with pendingDuels := g.pendingDuels.retain fun _ p =>
          p.challengerSession ≠ sessionId ∧ p.targetSession ≠ sessionId }
  | .setSelectedCharacter sessionId character =>
      { g with selectedCharacters := g.selectedCharacters.insert sessionId character }
  | .removeSelectedCharacter sessionId =>
      { g with selectedCharacters := g.selectedCharacters.remove sessionId }
  | .nextBattleId => { g with battleIdSeed := g.battleIdSeed + 1 }
  | .nextRandomSeed => { g with randomSeedCounter := max g.randomSeedCounter 1 + 1 }
  | _ => g

/-- What an operation answers, in the tables' own order, if others answer as `outside`. -/
def answer (outside : (r : Request) → r.Answer) : (op : GameOp) → op.Answer
  | .insertAccount accountId _ | .accountOwner accountId => g.accountSessions.get accountId
  | .accountOfSession sessionId =>
      (g.accountSessions.toList.find? fun e => e.2 = sessionId).map Prod.fst
  | .isSessionLoggedIn sessionId => g.accountSessions.values.any (· = sessionId)
  | .removeBattle sessionId => g.battleSessions.get sessionId
  | .sessionInBattle sessionId => g.battleSessions.contains sessionId
  | .takeBattleInstance instanceId => ((g.battleInstanceSessions.get instanceId).getD ∅).sort (· ≤ ·)
  | .removeTown sessionId | .townInstanceForSession sessionId => g.townSessions.get sessionId
  | .takeTownInstance instanceId => ((g.townInstanceSessions.get instanceId).getD ∅).sort (· ≤ ·)
  | .findPendingDuelForTarget targetSession =>
      g.pendingDuels.values.find? fun p => p.targetSession = targetSession
  | .hasPendingDuelFrom challengerSession => g.pendingDuels.contains challengerSession
  | .removePendingDuel challengerSession => g.pendingDuels.get challengerSession
  | .characterForSession sessionId => g.selectedCharacters.get sessionId
  | .nextBattleId => g.battleIdSeed
  | .nextRandomSeed => max g.randomSeedCounter 1
  | .request r => outside r
  | .releaseAccount .. | .clearAccounts | .insertBattle .. | .clearBattles | .addToBattleInstance ..
  | .dropFromBattleInstance .. | .clearBattleInstances | .insertTown .. | .clearTowns
  | .addToTownInstance .. | .dropFromTownInstance .. | .clearTownInstances | .addPendingDuel _
  | .removePendingDuelsForSession _ | .setSelectedCharacter .. | .removeSelectedCharacter _
  | .sendMsg .. | .kickSessionReq _ => ()

/-- What an operation can answer: others answer anything, and what is looked up among several entries
or listed comes in any order. -/
inductive Returns : (op : GameOp) → op.Answer → Prop
  | inOrder (outside : (r : Request) → r.Answer) (op : GameOp) : Returns op (g.answer outside op)
  | accountOfSession {accountId : Int64} {sessionId : UInt32}
      (h : g.accountSessions.get accountId = some sessionId) :
      Returns (.accountOfSession sessionId) (some accountId)
  | takeBattleInstance {instanceId : UInt32} {sessions : List UInt32} (hnodup : sessions.Nodup)
      (h : sessions.toFinset = (g.battleInstanceSessions.get instanceId).getD ∅) :
      Returns (.takeBattleInstance instanceId) sessions
  | takeTownInstance {instanceId : UInt32} {sessions : List UInt32} (hnodup : sessions.Nodup)
      (h : sessions.toFinset = (g.townInstanceSessions.get instanceId).getD ∅) :
      Returns (.takeTownInstance instanceId) sessions
  | findPendingDuelForTarget {challengerSession targetSession : UInt32} {pending : PendingDuel}
      (h : g.pendingDuels.get challengerSession = some pending)
      (htarget : pending.targetSession = targetSession) :
      Returns (.findPendingDuelForTarget targetSession) (some pending)

/-- An operation is executed. -/
def Does (op : GameOp) (answer : op.Answer) (g' : GameState) : Prop :=
  g.Returns op answer ∧ g' = g.after op

end GameState

/-- An operation that computes, if others answer as `outside`. -/
def GameState.exec (outside : (r : Request) → r.Answer) (g : GameState) (op : GameOp) :
    op.Answer × GameState := (g.answer outside op, g.after op)

theorem GameState.does_exec (outside : (r : Request) → r.Answer) (g : GameState) (op : GameOp) :
    g.Does op (g.exec outside op).1 (g.exec outside op).2 := ⟨.inOrder outside op, rfl⟩

/-- A database with one account, of id 10 and without a password, and no other peers. -/
def lonely : (r : Request) → r.Answer
  | .account _ => .ok (some { id := 10, password := "", nickname := "" })
  | .maxCharacterCount => .ok none
  | .ownedCharacter .. => .ok none
  | .loadCharacterById _ => none
  | .inventoryItems _ => []
  | .saveProgress .. => false
  | .battleCreate .. | .townEnterScene .. | .townLeaveScene .. | .bindService _ | .unbindService _ =>
      .error .timeout

/-- A database with the accounts `a`, of id 10, and 11 for every other name, each with every character,
and peers that accept everything. -/
def hospitable : (r : Request) → r.Answer
  | .account account => .ok (some { id := if account = "a" then 10 else 11, password := "", nickname := "" })
  | .maxCharacterCount => .ok none
  | .ownedCharacter characterId _ => .ok (some characterId)
  | .loadCharacterById characterId => some {
      characterId, name := "", classId := 1, gender := 0, level := 1, exp := 0, gold := 0 }
  | .inventoryItems _ => []
  | .saveProgress .. => true
  | .battleCreate _ req => .ok (some { code := 0, message := "", battleId := req.battleId, battleInstanceId := 5 })
  | .townEnterScene .. => .ok (some { code := 0, message := "", townInstanceId := 7, scene := none, players := [] })
  | .townLeaveScene .. => .ok (some { code := 0, message := "" })
  | .bindService _ => .ok (some { code := 0, message := "" })
  | .unbindService _ => .ok (some { code := 0, message := "" })

/-! ### The functions of `GameShared` -/

namespace GameState

def clearBattleSession (sessionId : UInt32) : Program gameOps Unit := do
  let old ← GameOp.perform (.removeBattle sessionId)
  Program.whenSome old fun state =>
    GameOp.perform (.dropFromBattleInstance state.battleInstanceId sessionId)

def bindBattleSession (sessionId battleId battleInstanceId : UInt32) : Program gameOps Unit := do
  clearBattleSession sessionId
  GameOp.perform (.insertBattle sessionId { battleId, battleInstanceId })
  GameOp.perform (.addToBattleInstance battleInstanceId sessionId)

def clearTownSession (sessionId : UInt32) : Program gameOps Unit := do
  let old ← GameOp.perform (.removeTown sessionId)
  Program.whenSome old fun townInstanceId =>
    GameOp.perform (.dropFromTownInstance townInstanceId sessionId)

def bindTownSession (sessionId townInstanceId : UInt32) : Program gameOps Unit := do
  clearTownSession sessionId
  GameOp.perform (.insertTown sessionId townInstanceId)
  GameOp.perform (.addToTownInstance townInstanceId sessionId)

def sessionInTown (sessionId : UInt32) : Program gameOps Bool := do
  let townInstanceId ← GameOp.perform (.townInstanceForSession sessionId)
  pure townInstanceId.isSome

/-- Takes another session out of its town. -/
def leaveTownForSession (sessionId : UInt32) : Program gameOps Bool := do
  match ← GameOp.perform (.townInstanceForSession sessionId) with
  | none => pure true
  | some townInstanceId =>
      match ← GameOp.perform (.accountOfSession sessionId) with
      | none => pure false
      | some playerId =>
          match ← GameOp.perform (.request (.townLeaveScene
              ⟨serviceIdTown, townInstanceId.toInt32⟩ { sessionId, playerId })) with
          | .ok (some resp) => pure (resp.code = 0)
          | _ => pure false

def clearSessionRuntimeState (sessionId : UInt32) : Program gameOps Unit := do
  clearBattleSession sessionId
  clearTownSession sessionId
  GameOp.perform (.removePendingDuelsForSession sessionId)
  GameOp.perform (.removeSelectedCharacter sessionId)

def clearAllRuntimeState : Program gameOps Unit := do
  GameOp.perform .clearAccounts
  GameOp.perform .clearBattles
  GameOp.perform .clearBattleInstances
  GameOp.perform .clearTowns
  GameOp.perform .clearTownInstances

def handleBattleServerOffline (battleInstanceId : UInt32) : Program gameOps Unit := do
  let sessionIds ← GameOp.perform (.takeBattleInstance battleInstanceId)
  Program.forEach (fun sessionId => do
    let old ← GameOp.perform (.removeBattle sessionId)
    Program.whenSome old fun state => do
      if ← GameOp.perform (.isSessionLoggedIn sessionId) then
        GameOp.perform (.sendMsg
          (.battleServerOffline state.battleId battleInstanceId 1 "battle server offline") sessionId))
    sessionIds

def handleTownServerOffline (townInstanceId : UInt32) : Program gameOps Unit := do
  let sessionIds ← GameOp.perform (.takeTownInstance townInstanceId)
  Program.forEach (fun sessionId => do
    let removed ← GameOp.perform (.removeTown sessionId)
    if removed = some townInstanceId then
      if ← GameOp.perform (.isSessionLoggedIn sessionId) then
        GameOp.perform (.sendMsg (.townServerOffline townInstanceId 1 "town server offline") sessionId))
    sessionIds

/-- The displaced session, if the new one still owns the account. -/
def kickTarget (sessionId : UInt32) (accountId : Int64) :
    Option UInt32 → Program gameOps (Option UInt32)
  | some old =>
      if old ≠ sessionId then do
        let owner ← GameOp.perform (.accountOwner accountId)
        pure (if owner = some sessionId then some old else none)
      else pure none
  | none => pure none

def bindAccount (sessionId : UInt32) (accountId : Int64) : Program gameOps Unit := do
  let oldBinding ← GameOp.perform (.insertAccount accountId sessionId)
  let target ← kickTarget sessionId accountId oldBinding
  Program.whenSome target fun oldSessionId => do
    clearSessionRuntimeState oldSessionId
    GameOp.perform (.sendMsg (.accountKicked 1 "Your account logged in elsewhere.") oldSessionId)
    GameOp.perform (.kickSessionReq oldSessionId)

def onServerOffline (serviceId instanceId : UInt32) : Program gameOps Unit :=
  if serviceId = serviceIdBattle then handleBattleServerOffline instanceId
  else if serviceId = serviceIdTown then handleTownServerOffline instanceId
  else pure ()

end GameState

end AxmolFighter.Game
