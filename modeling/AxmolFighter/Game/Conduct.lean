import AxmolFighter.Game.Sessions

/-!
# What the handlers of a session may do

Most handlers leave the accounts and the selected characters alone and offer no duel. The exceptions are
the login, which takes an account and clears the session that it displaces, the selection and the progress
of a character, the invitation, which offers a duel in the name of its own session, and `on_stop`.
-/

namespace AxmolFighter.Game

open Battle (BattleCreateReq BattleCreateResp)
open GameState Backend

/-- The operation changes no account and offers no duel. -/
def GameOp.plain : GameOp → Bool
  | .insertAccount .. | .releaseAccount .. | .clearAccounts | .addPendingDuel _ => false
  | _ => true

/-- All that the program can come to is plain. -/
abbrev Plain {α : Type} (p : Program gameOps α) : Prop := p.Calls fun op : GameOp => op.plain = true

/-- The operation is plain, and selects or forgets no character. -/
def GameOp.quiet : GameOp → Bool
  | .setSelectedCharacter .. | .removeSelectedCharacter _ => false
  | op => op.plain

theorem GameOp.plain_of_quiet {op : GameOp} (h : op.quiet = true) : op.plain = true := by
  cases op <;> first | exact h | rfl

abbrev Quiet {α : Type} (p : Program gameOps α) : Prop := p.Calls fun op : GameOp => op.quiet = true

theorem Quiet.plain {α : Type} {p : Program gameOps α} (h : Quiet p) : Plain p :=
  h.mono fun _ => GameOp.plain_of_quiet

/-- What a handler awaits. -/
def GameOp.awaits : GameOp → Bool
  | .request _ => true
  | _ => false

/-- All that the program can come to meets `P`, and what it returns meets `post`. -/
abbrev Within {α : Type} (P : GameOp → Prop) (post : α → Prop) (p : Program gameOps α) : Prop :=
  p.Follows (fun (_ : Unit) (op : GameOp) _ _ => P op) (fun _ a => post a) ()

theorem Within.call {α : Type} {P : GameOp → Prop} {post : α → Prop} {op : GameOp}
    {next : op.Answer → Program gameOps α} (hop : P op) (hnext : ∀ answer, Within P post (next answer)) :
    Within P post (Program.call (S := gameOps) op next) :=
  Program.Follows.call (fun _ => ()) (fun _ => hop) hnext

theorem Within.calls {α : Type} {P : GameOp → Prop} {post : α → Prop} {p : Program gameOps α}
    (h : Within P post p) : p.Calls P :=
  Program.Follows.calls h fun op => ⟨GameState.answer {} lonely op⟩

theorem Plain.within_bind {α β : Type} {p : Program gameOps α} (h : Plain p) {P : GameOp → Prop}
    (hP : ∀ op : GameOp, op.plain = true → P op) {post : β → Prop} {f : α → Program gameOps β}
    (hf : ∀ a, Within P post (f a)) : Within P post (p >>= f) :=
  Program.Follows.calls_bind h (fun op _ hop => hP op hop) hf

namespace GameState

variable (sessionId : UInt32)

theorem clearBattleSession_quiet : Quiet (clearBattleSession sessionId) :=
  .call rfl fun _ => .whenSome fun _ => .perform rfl

theorem bindBattleSession_quiet (battleId battleInstanceId : UInt32) :
    Quiet (bindBattleSession sessionId battleId battleInstanceId) :=
  (clearBattleSession_quiet _).bind fun _ => .call rfl fun _ => .perform rfl

theorem clearTownSession_quiet : Quiet (clearTownSession sessionId) :=
  .call rfl fun _ => .whenSome fun _ => .perform rfl

theorem bindTownSession_quiet (townInstanceId : UInt32) : Quiet (bindTownSession sessionId townInstanceId) :=
  (clearTownSession_quiet _).bind fun _ => .call rfl fun _ => .perform rfl

theorem clearSessionRuntimeState_plain : Plain (clearSessionRuntimeState sessionId) :=
  (clearBattleSession_quiet _).plain.bind fun _ => (clearTownSession_quiet _).plain.bind fun _ =>
    .call rfl fun _ => .perform rfl

theorem leaveTownForSession_quiet : Quiet (leaveTownForSession sessionId) := by
  refine .call rfl fun townInstanceId => ?_
  rcases townInstanceId with _ | townInstanceId
  · exact .ret _
  · refine .call rfl fun playerId => ?_
    rcases playerId with _ | playerId
    · exact .ret _
    · refine .call rfl fun answer => ?_
      rcases answer with _ | _ | resp <;> exact .ret _

theorem tell_quiet (push : GamePush) : Quiet (do
    if ← GameOp.perform (.isSessionLoggedIn sessionId) then GameOp.perform (.sendMsg push sessionId)) := by
  refine .call rfl fun loggedIn => ?_
  cases loggedIn with
  | false => exact .ret _
  | true => exact .perform rfl

theorem onServerOffline_quiet (serviceId instanceId : UInt32) : Quiet (onServerOffline serviceId instanceId) := by
  unfold onServerOffline
  split_ifs
  · refine .call rfl fun _ => .forEach fun sessionId _ => .call rfl fun _ => .whenSome fun _ => ?_
    exact tell_quiet _ _
  · refine .call rfl fun _ => .forEach fun sessionId _ => .call rfl fun removed => ?_
    show Quiet (if removed = some instanceId then _ else _)
    split_ifs
    · exact tell_quiet _ _
    · exact .ret _
  · exact .ret _

end GameState

namespace Delegate

variable (d : Delegate)

theorem leaveTownScene_quiet : Quiet d.leaveTownScene := by
  unfold leaveTownScene
  rcases d.accountId with _ | playerId
  · exact .ret _
  · refine .call rfl fun townInstanceId => ?_
    rcases townInstanceId with _ | townInstanceId
    · exact .ret _
    · refine .call rfl fun answer => ?_
      rcases answer with _ | _ | resp
      · exact .ret _
      · exact .ret _
      · show Quiet (if _ then _ else _)
        split_ifs
        · exact .ret _
        · refine .call rfl fun unbind => (clearTownSession_quiet _).bind fun _ => ?_
          rcases unbind with _ | _ | resp <;> exact .ret _

theorem rollbackTownEnter_quiet (townInstanceId : UInt32) (playerId : Int64) :
    Quiet (d.rollbackTownEnter townInstanceId playerId) := .call rfl fun _ => .ret _

theorem handleEnterScene_quiet (req : EnterSceneReq) : Quiet (d.handleEnterScene req) := by
  unfold handleEnterScene
  rcases d.accountId with _ | accountId
  · exact .ret _
  · refine .call rfl fun _ => .call rfl fun answer => ?_
    rcases answer with (_ | _ | _ | _ | _) | _ | resp
    case ok.some =>
      show Quiet (if _ then _ else _)
      split_ifs
      · exact .ret _
      · refine .call rfl fun answer => ?_
        rcases answer with (_ | _ | _ | _ | _) | _ | bind
        case ok.some =>
          show Quiet (if _ then _ else _)
          split_ifs
          · exact (d.rollbackTownEnter_quiet _ _).bind fun _ => .ret _
          · exact (bindTownSession_quiet _ _).bind fun _ => .ret _
        all_goals exact (d.rollbackTownEnter_quiet _ _).bind fun _ => .ret _
    all_goals exact .ret _

theorem handleBattleJoin_quiet (mapId : Int32) : Quiet (d.handleBattleJoin mapId) := by
  unfold handleBattleJoin
  rcases d.accountId with _ | accountId
  · exact .ret _
  · rcases d.selectedCharacter with _ | character
    · exact .ret _
    · refine .call rfl fun _ => .call rfl fun _ => .call rfl fun answer => ?_
      rcases answer with (_ | _ | _ | _ | _) | _ | resp
      case ok.some =>
        show Quiet (if _ then _ else _)
        split_ifs
        · exact .ret _
        · refine .call rfl fun answer => ?_
          rcases answer with (_ | _ | _ | _ | _) | _ | bind
          case ok.some =>
            show Quiet (if _ then _ else _)
            split_ifs
            · exact .ret _
            · refine (bindBattleSession_quiet _ _ _).bind fun _ => ?_
              exact d.leaveTownScene_quiet.bind fun _ => .ret _
          all_goals exact .ret _
      all_goals exact .ret _

theorem handleSelectCharacter_within (characterId : Int64) :
    Within (fun op => op.plain = true) (fun r => r.1.sessionId = d.sessionId)
      (d.handleSelectCharacter characterId) := by
  unfold handleSelectCharacter
  rcases d.accountId with _ | accountId
  · exact .ret rfl
  · refine Within.call rfl fun answer => ?_
    rcases answer with _ | _ | characterId
    · exact .ret rfl
    · exact .ret rfl
    · refine Within.call rfl fun answer => ?_
      rcases answer with _ | character
      · exact .ret rfl
      · exact Within.call rfl fun _ => Within.call rfl fun _ => .ret rfl

theorem handleProgress_within (req : ProgressReq) :
    Within (fun op => op.plain = true) (fun r => r.1.sessionId = d.sessionId) (d.handleProgress req) := by
  unfold handleProgress
  rcases d.requireSelectedCharacterId with resp | characterId
  · exact .ret rfl
  · refine Within.call rfl fun saved => ?_
    cases saved with
    | false => exact .ret rfl
    | true =>
        show Within _ _ (Program.whenSome _ _ >>= fun _ => _)
        have hplain : Plain (Program.whenSome (d.selectedCharacter.map fun c => req.refresh characterId c)
            fun c => GameOp.perform (.setSelectedCharacter d.sessionId c)) := .whenSome fun _ => .perform rfl
        exact hplain.within_bind (fun _ h => h) fun _ => .ret rfl

theorem bindAll_quiet (battleId battleInstanceId : UInt32) (sessions : List UInt32) :
    Quiet (bindAll battleId battleInstanceId sessions) := by
  induction sessions with
  | nil => exact .ret _
  | cons sessionId rest ih =>
      refine .call rfl fun answer => ?_
      rcases answer with _ | _ | resp
      · exact .ret _
      · exact .ret _
      · show Quiet (if _ then _ else _)
        split_ifs
        · exact .ret _
        · exact (bindBattleSession_quiet _ _ _).bind fun _ => ih

theorem leaveTown_quiet (sessionId : UInt32) : Quiet (d.leaveTown sessionId) := by
  unfold leaveTown
  split_ifs
  · exact d.leaveTownScene_quiet
  · exact leaveTownForSession_quiet sessionId

/-- A duel once the request for its battle is answered. -/
def fight (pending : PendingDuel) (battleId : UInt32) (randomSeed : UInt64) :
    RpcResult BattleCreateResp → Program gameOps (Except String Unit)
  | .error e => pure (.error ("battle server unavailable: " ++ showRpcError e))
  | .ok none => pure (.error "invalid battle create response")
  | .ok (some resp) =>
      if resp.code ≠ 0 then pure (.error (messageOr resp.message "battle create failed"))
      else do
        let sessions := [pending.challengerSession, pending.targetSession]
        match ← bindAll battleId resp.battleInstanceId sessions with
        | .error message => pure (.error message)
        | .ok () => do
            Program.forEach (fun sessionId => do
              let _ ← leaveTown d sessionId
              pure ()) sessions
            Program.forEach (fun sessionId =>
              GameOp.perform (.sendMsg (.duelStart {
                battleId
                serverFrame := resp.serverFrame
                worldDump := resp.worldDump
                actorEntityId := ((resp.players.find? fun p => p.sessionId = sessionId).map
                  fun p => p.actorEntityId).getD 0
                mapId := 1
                randomSeed }) sessionId)) sessions
            pure (.ok ())

/-- The request for the battle of a duel. -/
def duelReq (pending : PendingDuel) (challenger target : CharacterInfo) (battleId : UInt32)
    (randomSeed : UInt64) : BattleCreateReq where
  battleId
  mapId := 1
  players := [seat pending.challengerSession pending.challengerPlayerId challenger,
    seat pending.targetSession pending.targetPlayerId target]
  randomSeed

theorem startDuelBattle_eq (pending : PendingDuel) : d.startDuelBattle pending = (do
    match ← d.characterForSession pending.challengerSession with
    | .error message => pure (.error message)
    | .ok challenger =>
        match ← d.characterForSession pending.targetSession with
        | .error message => pure (.error message)
        | .ok target => do
            let battleId ← GameOp.perform .nextBattleId
            let randomSeed ← GameOp.perform .nextRandomSeed
            let answer ← GameOp.perform (.request (.battleCreate (.anyInstance serviceIdBattle)
              (duelReq pending challenger target battleId randomSeed)))
            d.fight pending battleId randomSeed answer) := by
  rw [startDuelBattle]
  congr 1
  funext challenger
  rcases challenger with message | challenger
  · rfl
  · dsimp only
    congr 1
    funext target
    rcases target with message | target
    · rfl
    · dsimp only
      congr 1
      funext battleId
      congr 1
      funext randomSeed
      congr 1
      funext answer
      rcases answer with _ | _ | resp <;> rfl

theorem fight_quiet (pending : PendingDuel) (battleId : UInt32) (randomSeed : UInt64)
    (answer : RpcResult BattleCreateResp) : Quiet (d.fight pending battleId randomSeed answer) := by
  rcases answer with _ | _ | resp
  · exact .ret _
  · exact .ret _
  · show Quiet (if _ then _ else _)
    split_ifs
    · exact .ret _
    · refine (bindAll_quiet _ _ _).bind fun bound => ?_
      rcases bound with _ | _
      · exact .ret _
      · refine Program.Calls.bind (.forEach fun _ _ => (d.leaveTown_quiet _).bind fun _ => .ret _) fun _ => ?_
        exact Program.Calls.bind (.forEach fun _ _ => .perform rfl) fun _ => .ret _

theorem characterForSession_quiet (sessionId : UInt32) : Quiet (d.characterForSession sessionId) := by
  unfold characterForSession
  split_ifs
  · exact .ret _
  · refine .call rfl fun character => ?_
    rcases character with _ | character <;> exact .ret _

/-! ### Offers -/

end Delegate

/-- No duel is offered in another session's name. -/
def GameOp.own (sessionId : UInt32) (op : GameOp) : Prop :=
  ∀ pending, op = .addPendingDuel pending → pending.challengerSession = sessionId

theorem GameOp.own_of_plain {sessionId : UInt32} {op : GameOp} (h : op.plain = true) : op.own sessionId := by
  rintro pending rfl
  cases h

/-- No duel is offered. -/
def GameOp.offersNone (op : GameOp) : Prop := ∀ pending, op ≠ .addPendingDuel pending

theorem GameOp.offersNone_of_plain {op : GameOp} (h : op.plain = true) : op.offersNone := by
  rintro pending rfl
  cases h

namespace GameState

theorem onServerOffline_offersNone (serviceId instanceId : UInt32) :
    (onServerOffline serviceId instanceId).Calls GameOp.offersNone :=
  (onServerOffline_quiet serviceId instanceId).plain.mono fun _ => GameOp.offersNone_of_plain

theorem clearAllRuntimeState_offersNone : clearAllRuntimeState.Calls GameOp.offersNone :=
  .call nofun fun _ => .call nofun fun _ => .call nofun fun _ => .call nofun fun _ => .perform nofun

theorem bindAccount_own (sessionId : UInt32) (accountId : Int64) (name : UInt32) :
    (bindAccount sessionId accountId).Calls (GameOp.own name) := by
  have hkick : ∀ target : Option UInt32, Plain (Program.whenSome target fun oldSessionId => do
      clearSessionRuntimeState oldSessionId
      GameOp.perform (.sendMsg (.accountKicked 1 "Your account logged in elsewhere.") oldSessionId)
      GameOp.perform (.kickSessionReq oldSessionId)) := fun _ =>
    .whenSome fun _ => (clearSessionRuntimeState_plain _).bind fun _ => .call rfl fun _ => .perform rfl
  have htarget : ∀ old, Plain (kickTarget sessionId accountId old) := by
    intro old
    unfold kickTarget
    split
    · split_ifs
      · exact .call rfl fun _ => .ret _
      · exact .ret _
    · exact .ret _
  refine .call nofun fun old => Program.Calls.mono ?_ fun _ => GameOp.own_of_plain
  exact (htarget old).bind fun target => hkick target

end GameState

namespace Delegate

variable (d : Delegate)

theorem handleLogin_own (req : LoginReq) :
    Within (GameOp.own d.sessionId) (fun r => r.1.sessionId = d.sessionId) (d.handleLogin req) := by
  refine Within.call nofun fun answer => ?_
  rcases answer with _ | _ | row
  · exact .ret rfl
  · exact .ret rfl
  · show Within _ _ (if _ then _ else _)
    split_ifs
    · refine Program.Follows.calls_bind (bindAccount_own _ _ _) (fun _ _ h => h) fun _ => ?_
      exact Within.call nofun fun _ => .ret rfl
    · exact .ret rfl

theorem handleDuelInvite_calls {P : GameOp → Prop}
    (hquiet : ∀ op : GameOp, op.quiet = true → op.awaits = false → P op)
    (hadd : ∀ pending, pending.challengerSession = d.sessionId → P (.addPendingDuel pending))
    (targetPlayerId : Int64) : (d.handleDuelInvite targetPlayerId).Calls P := by
  have hrefuse : ∀ (refused : Bool) (resp : CodeResp) {p : Program gameOps CodeResp},
      p.Calls P → Program.Calls P (if refused = true then pure resp else p) := by
    intro refused resp p h
    split_ifs
    · exact .ret _
    · exact h
  unfold handleDuelInvite
  rcases d.accountId with _ | accountId
  · exact .ret _
  · rcases d.selectedCharacter with _ | character
    · exact .ret _
    · dsimp only
      split_ifs
      · exact .ret _
      · refine .call (hquiet _ rfl rfl) fun targetSession => ?_
        rcases targetSession with _ | targetSession
        · exact .ret _
        · refine .call (hquiet _ rfl rfl) fun _ => hrefuse _ _ (.call (hquiet _ rfl rfl) fun _ => hrefuse _ _ ?_)
          refine .call (hquiet _ rfl rfl) fun _ => hrefuse _ _ (.call (hquiet _ rfl rfl) fun _ => hrefuse _ _ ?_)
          refine .call (hquiet _ rfl rfl) fun _ => hrefuse _ _ (.call (hadd _ rfl) fun _ => ?_)
          exact .call (hquiet _ rfl rfl) fun _ => .ret _

theorem startDuelBattle_quiet (pending : PendingDuel) : Quiet (d.startDuelBattle pending) := by
  rw [startDuelBattle_eq]
  refine (d.characterForSession_quiet _).bind fun challenger => ?_
  rcases challenger with _ | challenger
  · exact .ret _
  · refine (d.characterForSession_quiet _).bind fun target => ?_
    rcases target with _ | target
    · exact .ret _
    · refine .call rfl fun _ => .call rfl fun _ => .call rfl fun answer => ?_
      exact d.fight_quiet _ _ _ answer

theorem handleDuelRespond_quiet (accept : Int32) : Quiet (d.handleDuelRespond accept) := by
  refine .call rfl fun pending => ?_
  rcases pending with _ | pending
  · exact .ret _
  · refine .call rfl fun _ => ?_
    show Quiet (if _ then _ else _)
    split_ifs
    · exact .call rfl fun _ => .ret _
    · refine (d.startDuelBattle_quiet pending).bind fun started => ?_
      rcases started with message | _
      · exact .call rfl fun _ => .call rfl fun _ => .ret _
      · exact .ret _

theorem onClientFrame_own (frame : ClientFrame) :
    Within (GameOp.own d.sessionId) (fun d' => d'.sessionId = d.sessionId) (d.onClientFrame frame) := by
  have hplain : ∀ op : GameOp, op.plain = true → op.own d.sessionId := fun _ => GameOp.own_of_plain
  have hquiet : ∀ op : GameOp, op.quiet = true → op.own d.sessionId := fun _ h =>
    GameOp.own_of_plain (GameOp.plain_of_quiet h)
  have hsame : ∀ {α : Type} {p : Program gameOps α}, p.Calls (GameOp.own d.sessionId) →
      Within (GameOp.own d.sessionId) (fun d' => d'.sessionId = d.sessionId) (do
        let _ ← p
        pure d) := fun h => Program.Follows.calls_bind h (fun _ _ h => h) fun _ => .ret rfl
  cases frame with
  | login req => exact (d.handleLogin_own req).bind fun _ _ h => .ret h
  | selectCharacter characterId =>
      exact ((d.handleSelectCharacter_within characterId).weaken fun _ _ _ _ => hplain _).bind
        fun _ _ h => .ret h
  | progress req =>
      exact ((d.handleProgress_within req).weaken fun _ _ _ _ => hplain _).bind fun _ _ h => .ret h
  | battleJoin mapId => exact hsame ((d.handleBattleJoin_quiet mapId).mono hquiet)
  | duelInvite targetPlayerId =>
      refine hsame (d.handleDuelInvite_calls (fun op h _ => hquiet op h) ?_ targetPlayerId)
      rintro pending hsid _ ⟨⟩
      exact hsid
  | duelRespond accept => exact hsame ((d.handleDuelRespond_quiet accept).mono hquiet)
  | enterScene req => exact hsame ((d.handleEnterScene_quiet req).mono hquiet)
  | other => exact .ret rfl

theorem onStop_offersNone : d.onStop.Calls GameOp.offersNone := by
  refine ((clearSessionRuntimeState_plain _).mono fun _ => GameOp.offersNone_of_plain).bind fun _ => ?_
  rcases d.accountId with _ | accountId
  · exact .ret _
  · exact .perform nofun

end Delegate

end AxmolFighter.Game
