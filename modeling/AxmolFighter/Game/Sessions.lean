import AxmolFighter.Backend.Incarnations
import AxmolFighter.Game.Handlers
import AxmolFighter.Lib.Threads

/-!
# Sessions of the game server

The callbacks of `GameShared` and `PlayerSessionDelegate` as those of a backend server, the same as threads
that are not told what to handle next, and what the maps hold under a session's id.
-/

namespace AxmolFighter.Game

open GameState

/-- The requests of a client; registering, and listing and creating characters, do not touch the maps. -/
inductive ClientFrame
  | login (req : LoginReq)
  | selectCharacter (characterId : Int64)
  | progress (req : ProgressReq)
  | battleJoin (mapId : Int32)
  | duelInvite (targetPlayerId : Int64)
  | duelRespond (accept : Int32)
  | enterScene (req : EnterSceneReq)
  | other

namespace Delegate

variable (d : Delegate)

def onClientFrame : ClientFrame → Program gameOps Delegate
  | .login req => do
      let (d, _) ← handleLogin d req
      pure d
  | .selectCharacter characterId => do
      let (d, _) ← handleSelectCharacter d characterId
      pure d
  | .progress req => do
      let (d, _) ← handleProgress d req
      pure d
  | .battleJoin mapId => do
      let _ ← handleBattleJoin d mapId
      pure d
  | .duelInvite targetPlayerId => do
      let _ ← handleDuelInvite d targetPlayerId
      pure d
  | .duelRespond accept => do
      let _ ← handleDuelRespond d accept
      pure d
  | .enterScene req => do
      let _ ← handleEnterScene d req
      pure d
  | .other => pure d

end Delegate

/-- Messages of other servers are refused. -/
def service : Backend.Service gameOps GameState Delegate ClientFrame Unit where
  does := Does
  createSessionDelegate sessionId := { sessionId }
  onStart d := pure d
  onClientFrame := Delegate.onClientFrame
  onStop := Delegate.onStop
  onServerMessage _ := pure ()
  onServerOffline := onServerOffline
  onDisconnected := clearAllRuntimeState

abbrev GameSession := Backend.BackendSession gameOps GameState Delegate ClientFrame Unit

abbrev GameEvent := Backend.Event gameOps ClientFrame Unit

def GameSession.start : GameSession := { shared := {} }

/-! ### Sessions as threads -/

/-- Who acts: the task of a session, or the loop that reads from the gateway. -/
inductive Actor
  | session (d : Delegate)
  | stopped
  | readLoop

inductive Input
  | frame (frame : ClientFrame)
  | stop
  | serverOffline (serviceId instanceId : UInt32)
  | disconnected

/-- The handlers without their mailboxes: a session gets any frame at any time at which it has finished the
one before, and stops at any such time. -/
def playing : ThreadSystem gameOps GameState Actor Input where
  does := Does
  handle
    | .session d, .frame frame => some do
        let d ← d.onClientFrame frame
        pure (.session d)
    | .session d, .stop => some do
        d.onStop
        pure .stopped
    | .readLoop, .serverOffline serviceId instanceId => some do
        onServerOffline serviceId instanceId
        pure .readLoop
    | .readLoop, .disconnected => some do
        clearAllRuntimeState
        pure .readLoop
    | _, _ => none
  opens g _ l g' := g' = g ∧ (l = .readLoop ∨ ∃ sessionId, l = .session { sessionId })
  environment _ _ := False

abbrev PlayPool := Pool gameOps GameState Actor

abbrev PlayEvent := Pool.Event gameOps Actor Input

def playExecutor (outside : (r : Request) → r.Answer) : Pool.Executor playing where
  exec := GameState.exec outside
  opened
    | g, _, .readLoop => some g
    | g, _, .session { sessionId := _, accountId := none, selectedCharacter := none } => some g
    | _, _, _ => none
  does_exec := GameState.does_exec outside
  opens_opened := by
    intro g k l g' h
    split at h
    · cases h
      exact ⟨rfl, Or.inl rfl⟩
    · cases h
      exact ⟨rfl, Or.inr ⟨_, rfl⟩⟩
    · cases h

/-! ### Run alone -/

namespace GameState

variable (outside : (r : Request) → r.Answer) (g : GameState) (sessionId : UInt32)

theorem clearBattleSession_eval :
    (((clearBattleSession sessionId).eval (exec outside) g).2).toGameShared =
      g.toGameShared.clearBattleSession sessionId := by
  rw [clearBattleSession, Program.perform_bind, Program.eval, GameShared.clearBattleSession]
  show GameState.toGameShared (Program.eval _ (Program.whenSome (g.battleSessions.get sessionId) _) _).2 = _
  rcases h : g.battleSessions.get sessionId with _ | state
  · show { g.toGameShared with battleSessions := g.battleSessions.remove sessionId } = g.toGameShared
    rw [Table.remove_eq_self _ _ h]
  · rfl

theorem clearTownSession_eval :
    (((clearTownSession sessionId).eval (exec outside) g).2).toGameShared =
      g.toGameShared.clearTownSession sessionId := by
  rw [clearTownSession, Program.perform_bind, Program.eval, GameShared.clearTownSession]
  show GameState.toGameShared (Program.eval _ (Program.whenSome (g.townSessions.get sessionId) _) _).2 = _
  rcases h : g.townSessions.get sessionId with _ | townInstanceId
  · show { g.toGameShared with townSessions := g.townSessions.remove sessionId } = g.toGameShared
    rw [Table.remove_eq_self _ _ h]
  · rfl

theorem clearSessionRuntimeState_eval :
    (((clearSessionRuntimeState sessionId).eval (exec outside) g).2).toGameShared =
      g.toGameShared.clearSessionRuntimeState sessionId := by
  rw [clearSessionRuntimeState, Program.eval_bind, Program.eval_bind, GameShared.clearSessionRuntimeState,
    ← clearBattleSession_eval outside, ← clearTownSession_eval outside]
  rfl

end GameState

/-- Run alone, `on_stop` is the step that the accounts are about. -/
theorem Delegate.onStop_eval (outside : (r : Request) → r.Answer) (g : GameState) (d : Delegate) :
    ((d.onStop.eval (exec outside) g).2).toGameShared = PlayerSessionDelegate.onStop d g.toGameShared := by
  rw [Delegate.onStop, Program.eval_bind, PlayerSessionDelegate.onStop,
    ← clearSessionRuntimeState_eval outside]
  rcases d.accountId with _ | accountId
  · rfl
  · dsimp only
    show ((_ : GameState).after (.releaseAccount accountId d.sessionId)).toGameShared = _
    rw [after]
    split_ifs <;> rfl

/-! ### What is kept under a session's id -/

inductive Entry
  | account (accountId : Int64)
  | battle
  | town
  | duel
  | character
deriving DecidableEq

@[reducible] def Entry.Value : Entry → Type
  | account _ => UInt32
  | battle => BattleSessionState
  | town => UInt32
  | duel => PendingDuel
  | character => CharacterInfo

def GameState.entry (g : GameState) (sessionId : UInt32) : (entry : Entry) → Option entry.Value
  | .account accountId => g.accountSessions.get accountId
  | .battle => g.battleSessions.get sessionId
  | .town => g.townSessions.get sessionId
  | .duel => g.pendingDuels.get sessionId
  | .character => g.selectedCharacters.get sessionId

/-- The operation can change the session's entry. -/
def GameOp.touches : GameOp → UInt32 → Entry → Prop
  | .insertAccount accountId _, _, .account a | .releaseAccount accountId _, _, .account a => accountId = a
  | .insertBattle y _, sessionId, .battle | .removeBattle y, sessionId, .battle => y = sessionId
  | .insertTown y _, sessionId, .town | .removeTown y, sessionId, .town => y = sessionId
  | .addPendingDuel pending, sessionId, .duel => pending.challengerSession = sessionId
  | .removePendingDuel y, sessionId, .duel => y = sessionId
  | .setSelectedCharacter y _, sessionId, .character | .removeSelectedCharacter y, sessionId, .character =>
      y = sessionId
  | .clearAccounts, _, .account _ | .clearBattles, _, .battle | .clearTowns, _, .town
  | .removePendingDuelsForSession _, _, .duel => True
  | _, _, _ => False

/-- The message that an operation hands over, and the session that it is for. -/
def GameOp.message : GameOp → Option (GamePush × UInt32)
  | .sendMsg push sessionId => some (push, sessionId)
  | _ => none

/-- The entry that an operation stores. -/
def GameOp.stores : GameOp → Option (UInt32 × Entry)
  | .insertAccount accountId sessionId => some (sessionId, .account accountId)
  | .insertBattle sessionId _ => some (sessionId, .battle)
  | .insertTown sessionId _ => some (sessionId, .town)
  | .addPendingDuel pending => some (pending.challengerSession, .duel)
  | .setSelectedCharacter sessionId _ => some (sessionId, .character)
  | _ => none

theorem GameState.entry_after (g : GameState) {op : GameOp} {sessionId : UInt32} {entry : Entry}
    (h : ¬ op.touches sessionId entry) : (g.after op).entry sessionId entry = g.entry sessionId entry := by
  cases entry with
  | account accountId =>
      cases op with
      | insertAccount a y => exact Table.get_insert_ne _ _ fun heq => h heq.symm
      | releaseAccount a y =>
          show (if _ then _ else _ : Table Int64 UInt32).get accountId = _
          split_ifs
          · exact Table.get_remove_ne _ fun heq => h heq.symm
          · rfl
      | clearAccounts => exact absurd trivial h
      | _ => rfl
  | battle =>
      cases op with
      | insertBattle y state => exact Table.get_insert_ne _ _ fun heq => h heq.symm
      | removeBattle y => exact Table.get_remove_ne _ fun heq => h heq.symm
      | clearBattles => exact absurd trivial h
      | _ => rfl
  | town =>
      cases op with
      | insertTown y townInstanceId => exact Table.get_insert_ne _ _ fun heq => h heq.symm
      | removeTown y => exact Table.get_remove_ne _ fun heq => h heq.symm
      | clearTowns => exact absurd trivial h
      | _ => rfl
  | duel =>
      cases op with
      | addPendingDuel pending => exact Table.get_insert_ne _ _ fun heq => h heq.symm
      | removePendingDuel y => exact Table.get_remove_ne _ fun heq => h heq.symm
      | removePendingDuelsForSession y => exact absurd trivial h
      | _ => rfl
  | character =>
      cases op with
      | setSelectedCharacter y c => exact Table.get_insert_ne _ _ fun heq => h heq.symm
      | removeSelectedCharacter y => exact Table.get_remove_ne _ fun heq => h heq.symm
      | _ => rfl

/-- The five maps, under the ids of sessions. -/
def maps : Backend.Keyed service Entry fun entry => Option entry.Value where
  entry := GameState.entry
  touches := GameOp.touches
  stores := GameOp.stores
  frame hdoes h := by
    rw [hdoes.2]
    exact GameState.entry_after _ h

end AxmolFighter.Game
