import AxmolFighter.Lib.Program
import AxmolFighter.Lib.Table
import Mathlib.Data.Finset.Basic

/-!
# The shared state of the game server

`game_shared/mod.rs`: maps from accounts and sessions to what they are bound to, each behind a lock of its
own. What a function does between taking a lock and giving it back is one operation here. A character's
data is never looked at, and neither is the time at which a duel was offered.
-/

namespace AxmolFighter.Game

structure BattleSessionState where
  battleId : UInt32
  battleInstanceId : UInt32
deriving DecidableEq

structure PendingDuel where
  challengerSession : UInt32
  challengerPlayerId : Int64
  targetSession : UInt32
  targetPlayerId : Int64
deriving DecidableEq

/-- What the game server hands to its gateway connection when it takes an account from a session. -/
inductive Output
  | accountKickedPush (sessionId : UInt32) (reason : Int32) (message : String)
  | kickSessionReq (sessionId : UInt32)
deriving DecidableEq

/-- `sent` is all that went to the gateway, in its order. -/
structure GameShared (Character : Type) where
  accountSessions : Table Int64 UInt32 := ∅
  battleSessions : Table UInt32 BattleSessionState := ∅
  battleInstanceSessions : Table UInt32 (Finset UInt32) := ∅
  townSessions : Table UInt32 UInt32 := ∅
  townInstanceSessions : Table UInt32 (Finset UInt32) := ∅
  pendingDuels : Table UInt32 PendingDuel := ∅
  selectedCharacters : Table UInt32 Character := ∅
  sent : List Output := []

/-- Adds a session to those of an instance. -/
def addToInstance (index : Table UInt32 (Finset UInt32)) (instanceId sessionId : UInt32) :
    Table UInt32 (Finset UInt32) :=
  index.insert instanceId (insert sessionId ((index.get instanceId).getD ∅))

/-- Takes a session from those of an instance, and the instance away with its last one. -/
def dropFromInstance (index : Table UInt32 (Finset UInt32)) (instanceId sessionId : UInt32) :
    Table UInt32 (Finset UInt32) :=
  match index.get instanceId with
  | none => index
  | some sessions =>
      if sessions.erase sessionId = ∅ then index.remove instanceId
      else index.insert instanceId (sessions.erase sessionId)

namespace GameShared

variable {Character : Type} (g : GameShared Character)

def clearBattleSession (sessionId : UInt32) : GameShared Character :=
  match g.battleSessions.get sessionId with
  | none => g
  | some state =>
      { g with
        battleSessions := g.battleSessions.remove sessionId
        battleInstanceSessions :=
          dropFromInstance g.battleInstanceSessions state.battleInstanceId sessionId }

def clearTownSession (sessionId : UInt32) : GameShared Character :=
  match g.townSessions.get sessionId with
  | none => g
  | some townInstanceId =>
      { g with
        townSessions := g.townSessions.remove sessionId
        townInstanceSessions := dropFromInstance g.townInstanceSessions townInstanceId sessionId }

def removePendingDuelsForSession (sessionId : UInt32) : GameShared Character :=
  { g with pendingDuels := g.pendingDuels.retain fun _ p =>
      p.challengerSession ≠ sessionId ∧ p.targetSession ≠ sessionId }

def clearSessionRuntimeState (sessionId : UInt32) : GameShared Character :=
  let g := g.clearBattleSession sessionId
  let g := g.clearTownSession sessionId
  let g := g.removePendingDuelsForSession sessionId
  { g with selectedCharacters := g.selectedCharacters.remove sessionId }

@[simp] theorem clearSessionRuntimeState_accountSessions (sessionId : UInt32) :
    (g.clearSessionRuntimeState sessionId).accountSessions = g.accountSessions := by
  unfold clearSessionRuntimeState clearTownSession clearBattleSession removePendingDuelsForSession
  dsimp only
  split <;> split <;> rfl

@[simp] theorem clearSessionRuntimeState_sent (sessionId : UInt32) :
    (g.clearSessionRuntimeState sessionId).sent = g.sent := by
  unfold clearSessionRuntimeState clearTownSession clearBattleSession removePendingDuelsForSession
  dsimp only
  split <;> split <;> rfl

/-! ### Taking over an account -/

/-- The steps of `bind_account` between which other sessions can act. -/
inductive AccountOp
  | insertAccount (accountId : Int64) (sessionId : UInt32)
  | accountOwner (accountId : Int64)
  | kick (oldSessionId : UInt32)

@[reducible] def AccountOp.Answer : AccountOp → Type
  | insertAccount .. | accountOwner _ => Option UInt32
  | kick _ => Unit

@[reducible] def accountOps : Signature := ⟨AccountOp, AccountOp.Answer⟩

abbrev perform (op : AccountOp) : Program accountOps op.Answer := Program.perform (S := accountOps) op

/-- Clears what the old session had, tells its client and has the gateway close it. -/
def kick (oldSessionId : UInt32) : GameShared Character :=
  let g := g.clearSessionRuntimeState oldSessionId
  { g with sent := g.sent ++
      [.accountKickedPush oldSessionId 1 "Your account logged in elsewhere.",
        .kickSessionReq oldSessionId] }

@[simp] theorem kick_accountSessions (oldSessionId : UInt32) :
    (g.kick oldSessionId).accountSessions = g.accountSessions := by
  simp [kick]

def exec : (op : AccountOp) → op.Answer × GameShared Character
  | .insertAccount accountId sessionId =>
      (g.accountSessions.get accountId,
        { g with accountSessions := g.accountSessions.insert accountId sessionId })
  | .accountOwner accountId => (g.accountSessions.get accountId, g)
  | .kick oldSessionId => ((), g.kick oldSessionId)

/-- The displaced session, if the new one still owns the account. -/
def kickTarget (sessionId : UInt32) (accountId : Int64) :
    Option UInt32 → Program accountOps (Option UInt32)
  | some old =>
      if old ≠ sessionId then do
        let owner ← perform (.accountOwner accountId)
        pure (if owner = some sessionId then some old else none)
      else pure none
  | none => pure none

def bindAccount (sessionId : UInt32) (accountId : Int64) : Program accountOps Unit := do
  let oldBinding ← perform (.insertAccount accountId sessionId)
  let target ← kickTarget sessionId accountId oldBinding
  Program.whenSome target fun oldSessionId => perform (.kick oldSessionId)

theorem kickTarget_eval (sessionId : UInt32) (accountId : Int64) (oldBinding : Option UInt32) :
    ((kickTarget sessionId accountId oldBinding).eval exec g).2 = g := by
  unfold kickTarget
  split
  · split_ifs <;> rfl
  · rfl

/-- Run alone, `bind_account` makes the session the owner, and whom it kicks owns nothing then. -/
theorem bindAccount_eval (sessionId : UInt32) (accountId : Int64) :
    ((bindAccount sessionId accountId).eval exec g).2.accountSessions =
      g.accountSessions.insert accountId sessionId := by
  have hkick : ∀ (target : Option UInt32) (g : GameShared Character),
      ((Program.whenSome target fun old => perform (.kick old)).eval exec g).2.accountSessions =
        g.accountSessions := by
    intro target g
    cases target with
    | none => rfl
    | some old => exact g.kick_accountSessions old
  rw [bindAccount, Program.eval_bind, Program.eval_bind, hkick, kickTarget_eval]
  rfl

end GameShared

end AxmolFighter.Game
