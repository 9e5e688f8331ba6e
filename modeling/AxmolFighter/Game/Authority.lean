import AxmolFighter.Game.Conduct

/-!
# What a session may name

A handler names accounts and characters to the database, to the towns and to the battles. What its session
has proved is read off the run: the account whose password its last successful login had, since then the
character that the database found to be that account's, the one that was loaded, and the session from which
the account was taken. Handlers of all sessions are interleaved at every operation, and the database and the
other servers answer anything.

No handler names an account or a character that its session has not proved.
-/

namespace AxmolFighter.Game

open Battle (BattleCreateResp)
open GameState

/-- What a session has proved, and the login that it is handling. -/
structure Standing where
  sessionId : Option UInt32 := none
  attempt : Option LoginReq := none
  account : Option Int64 := none
  displaced : Option UInt32 := none
  owned : Option Int64 := none
  character : Option Int64 := none

namespace Standing

variable (q : Standing)

/-- The session is told to do something. -/
def asked : Input → Standing
  | .frame (.login req) => { q with attempt := some req }
  | _ => { q with attempt := none }

/-- The account of the name that was to log in; what was proved for another account is void. -/
def identified (row : AccountRow) : Standing :=
  if q.attempt.map (·.password) = some row.password then
    { q with account := some row.id, displaced := none, owned := none, character := none }
  else q

/-- What an answer proves. -/
def told : (op : GameOp) → op.Answer → Standing
  | .insertAccount .., (old : Option UInt32) => { q with displaced := old }
  | .request (.account _), (.ok (some row) : Except String (Option AccountRow)) => q.identified row
  | .request (.ownedCharacter ..), (.ok (some characterId) : Except String (Option Int64)) =>
      { q with owned := some characterId }
  | .request (.loadCharacterById _), (some c : Option CharacterInfo) =>
      { q with character := some c.characterId }
  | _, _ => q

/-- What may be asked of others; of a duel, which two sessions have agreed to, nothing is said here. -/
def Requests : Request → Prop
  | .account account => q.attempt.map (·.account) = some account
  | .ownedCharacter _ playerId => q.account = some playerId
  | .loadCharacterById characterId | .inventoryItems characterId =>
      q.account.isSome ∧ q.owned = some characterId
  | .saveProgress characterId _ => q.account.isSome ∧ q.character = some characterId
  | .townEnterScene _ req => q.sessionId = some req.sessionId ∧ q.account = some req.playerId ∧
      ∀ state, req.state = some state → state.playerId = req.playerId
  | .townLeaveScene _ req => q.sessionId = some req.sessionId → q.account = some req.playerId
  | .battleCreate _ req => ∀ p, req.players = [p] →
      q.sessionId = some p.sessionId ∧ q.account = some p.playerId ∧ q.character.isSome
  | .unbindService req => q.sessionId = some req.sessionId
  | .maxCharacterCount | .bindService _ => True

/-- What may be done with that standing. -/
def Entitles : GameOp → Prop
  | .insertAccount accountId sessionId | .releaseAccount accountId sessionId =>
      q.sessionId = some sessionId ∧ q.account = some accountId
  | .addPendingDuel pending => q.sessionId = some pending.challengerSession ∧
      q.account = some pending.challengerPlayerId ∧ pending.targetPlayerId ≠ pending.challengerPlayerId ∧
        q.character.isSome
  | .setSelectedCharacter sessionId c => q.sessionId = some sessionId ∧ q.character = some c.characterId
  | .removeSelectedCharacter sessionId | .removePendingDuelsForSession sessionId =>
      q.sessionId = some sessionId ∨ q.displaced = some sessionId
  | .sendMsg (.accountKicked ..) sessionId | .kickSessionReq sessionId =>
      q.sessionId ≠ some sessionId ∧ q.displaced = some sessionId
  | .request r => q.Requests r
  | _ => True

end Standing

/-- Anyone may do this, and it proves nothing. -/
def GameOp.impersonal : GameOp → Bool
  | .insertAccount .. | .releaseAccount .. | .addPendingDuel _ | .setSelectedCharacter ..
  | .removeSelectedCharacter _ | .removePendingDuelsForSession _ | .sendMsg (.accountKicked ..) _
  | .kickSessionReq _ => false
  | .request .maxCharacterCount | .request (.bindService _) => true
  | .request _ => false
  | _ => true

abbrev Impersonal {α : Type} (p : Program gameOps α) : Prop :=
  p.Calls fun op : GameOp => op.impersonal = true

namespace Standing

variable {q : Standing}

theorem entitles_of_impersonal {op : GameOp} (h : op.impersonal = true) : q.Entitles op := by
  cases op with
  | request r =>
      cases r with
      | maxCharacterCount | bindService _ => trivial
      | _ => cases h
  | sendMsg push sessionId =>
      cases push with
      | accountKicked _ _ => cases h
      | _ => trivial
  | insertAccount _ _ | releaseAccount _ _ | addPendingDuel _ | setSelectedCharacter _ _
  | removeSelectedCharacter _ | removePendingDuelsForSession _ | kickSessionReq _ => cases h
  | _ => trivial

theorem told_of_impersonal {op : GameOp} (h : op.impersonal = true) (answer : op.Answer) :
    q.told op answer = q := by
  cases op with
  | request r =>
      cases r with
      | maxCharacterCount | bindService _ => rfl
      | _ => cases h
  | insertAccount _ _ => cases h
  | _ => rfl

/-- A handler acts within its session's standing. -/
inductive Moves (q : Standing) (op : GameOp) (answer : op.Answer) : Standing → Prop
  | intro (h : q.Entitles op) : Moves q op answer (q.told op answer)

theorem Moves.impersonal {op : GameOp} (h : op.impersonal = true) (answer : op.Answer) :
    Moves q op answer q := by
  have hmoves : Moves q op answer (q.told op answer) := .intro (entitles_of_impersonal h)
  rwa [told_of_impersonal h] at hmoves

/-- The delegate has the standing of its session. -/
def Of (q : Standing) (d : Delegate) : Prop :=
  q.sessionId = some d.sessionId ∧ q.account = d.accountId ∧
    q.character = d.selectedCharacter.map (·.characterId)

def Rests (q : Standing) : Actor → Prop
  | .session d => q.Of d
  | _ => True

end Standing

open Standing (Moves)

section

variable {α β : Type} {q : Standing} {stops : Standing → β → Prop} {f : α → Program gameOps β}

theorem Impersonal.follows {p : Program gameOps α} (h : Impersonal p)
    (hf : ∀ a, (f a).Follows Moves stops q) : (p >>= f).Follows Moves stops q :=
  Program.Follows.calls_bind h (fun _ answer hop => .impersonal hop answer) hf

theorem Standing.Entitles.follows {op : GameOp} (h : q.Entitles op) {next : op.Answer → Program gameOps β}
    (hnext : ∀ answer, (next answer).Follows Moves stops (q.told op answer)) :
    (Program.call (S := gameOps) op next).Follows Moves stops q :=
  .call (fun answer => q.told op answer) (fun _ => .intro h) hnext

theorem Standing.follows_impersonal {op : GameOp} (h : op.impersonal = true)
    {next : op.Answer → Program gameOps β} (hnext : ∀ answer, (next answer).Follows Moves stops q) :
    (Program.call (S := gameOps) op next).Follows Moves stops q :=
  .stay (fun answer => .impersonal h answer) hnext

end

/-! ### Accounts -/

namespace GameState

variable (sessionId : UInt32)

theorem clearBattleSession_impersonal : Impersonal (clearBattleSession sessionId) :=
  .call rfl fun _ => .whenSome fun _ => .perform rfl

theorem bindBattleSession_impersonal (battleId battleInstanceId : UInt32) :
    Impersonal (bindBattleSession sessionId battleId battleInstanceId) :=
  (clearBattleSession_impersonal _).bind fun _ => .call rfl fun _ => .perform rfl

theorem clearTownSession_impersonal : Impersonal (clearTownSession sessionId) :=
  .call rfl fun _ => .whenSome fun _ => .perform rfl

theorem bindTownSession_impersonal (townInstanceId : UInt32) :
    Impersonal (bindTownSession sessionId townInstanceId) :=
  (clearTownSession_impersonal _).bind fun _ => .call rfl fun _ => .perform rfl

theorem onServerOffline_impersonal (serviceId instanceId : UInt32) :
    Impersonal (onServerOffline serviceId instanceId) := by
  have htell : ∀ (push : GamePush) (s : UInt32), (GameOp.sendMsg push s).impersonal = true →
      Impersonal (do
        if ← GameOp.perform (.isSessionLoggedIn s) then GameOp.perform (.sendMsg push s)) := by
    intro push s h
    refine .call rfl fun loggedIn => ?_
    cases loggedIn with
    | false => exact .ret _
    | true => exact .perform h
  unfold onServerOffline
  split_ifs
  · refine .call rfl fun _ => .forEach fun s _ => .call rfl fun _ => .whenSome fun _ => ?_
    exact htell _ _ rfl
  · refine .call rfl fun _ => .forEach fun s _ => .call rfl fun removed => ?_
    show Impersonal (if removed = some instanceId then _ else _)
    split_ifs
    · exact htell _ _ rfl
    · exact .ret _
  · exact .ret _

theorem clearAllRuntimeState_impersonal : Impersonal clearAllRuntimeState :=
  .call rfl fun _ => .call rfl fun _ => .call rfl fun _ => .call rfl fun _ => .perform rfl

theorem clearSessionRuntimeState_entitled {q : Standing} {sessionId : UInt32}
    (h : q.sessionId = some sessionId ∨ q.displaced = some sessionId) :
    (clearSessionRuntimeState sessionId).Follows Moves (fun q' _ => q' = q) q := by
  refine (clearBattleSession_impersonal _).follows fun _ => (clearTownSession_impersonal _).follows fun _ => ?_
  have hduels : q.Entitles (.removePendingDuelsForSession sessionId) := h
  have hcharacter : q.Entitles (.removeSelectedCharacter sessionId) := h
  exact hduels.follows fun _ => hcharacter.follows fun _ => .ret rfl

theorem bindAccount_entitled {q : Standing} {sessionId : UInt32} {accountId : Int64}
    (hsession : q.sessionId = some sessionId) (haccount : q.account = some accountId) :
    (bindAccount sessionId accountId).Follows Moves (fun q' _ => ∃ old, q' = { q with displaced := old }) q := by
  have hbinds : q.Entitles (.insertAccount accountId sessionId) := ⟨hsession, haccount⟩
  refine hbinds.follows fun old => ?_
  show Program.Follows _ _ { q with displaced := old } (kickTarget sessionId accountId old >>= _)
  rcases old with _ | old
  · exact .ret ⟨_, rfl⟩
  · unfold kickTarget
    dsimp only
    split_ifs with hne
    · refine Standing.follows_impersonal rfl fun owner => ?_
      show Program.Follows _ _ _ (Program.whenSome (if owner = some sessionId then some old else none) _)
      split_ifs
      · have hkick : { q with displaced := some old }.Entitles (.kickSessionReq old) := by
          refine ⟨fun h => hne ?_, rfl⟩
          exact Option.some.inj (h.symm.trans hsession)
        refine (clearSessionRuntimeState_entitled (Or.inr rfl)).bind fun q' _ hq => hq ▸ ?_
        have htell : { q with displaced := some old }.Entitles
          (.sendMsg (.accountKicked 1 "Your account logged in elsewhere.") old) := hkick
        exact htell.follows fun _ => hkick.follows fun _ => .ret ⟨_, rfl⟩
      · exact .ret ⟨_, rfl⟩
    · exact .ret ⟨_, rfl⟩

end GameState

namespace Delegate

variable {d : Delegate} {q : Standing}

theorem handleLogin_entitled (hq : q.Of d) (req : LoginReq) (hreq : q.attempt = some req) :
    (d.handleLogin req).Follows Moves (fun q' r => q'.Of r.1) q := by
  obtain ⟨hsession, haccount, hcharacter⟩ := hq
  have hasks : q.Entitles (.request (.account req.account)) := by
    show q.attempt.map (·.account) = _
    rw [hreq]
    rfl
  refine hasks.follows fun answer => ?_
  rcases answer with _ | _ | row
  · exact .ret ⟨hsession, haccount, hcharacter⟩
  · exact .ret ⟨hsession, haccount, hcharacter⟩
  · show Program.Follows _ _ (q.identified row) (if row.password = req.password then _ else _)
    have hpassword : q.attempt.map (·.password) = some row.password ↔ row.password = req.password := by
      rw [hreq]
      exact ⟨fun h => (Option.some.inj h).symm, fun h => congrArg some h.symm⟩
    unfold Standing.identified
    simp only [hpassword]
    split_ifs
    · refine (bindAccount_entitled (q := { q with
        account := some row.id, displaced := none, owned := none, character := none }) hsession rfl).bind
          fun q' _ hq' => ?_
      obtain ⟨old, rfl⟩ := hq'
      exact Standing.follows_impersonal rfl fun _ => .ret ⟨hsession, rfl, rfl⟩
    · exact .ret ⟨hsession, haccount, hcharacter⟩

theorem onStop_entitled (hq : q.Of d) : d.onStop.Follows Moves (fun _ _ => True) q := by
  refine (clearSessionRuntimeState_entitled (Or.inl hq.1)).bind fun q' _ hq' => hq' ▸ ?_
  rcases haccount : d.accountId with _ | accountId
  · exact .ret trivial
  · have hrelease : q.Entitles (.releaseAccount accountId d.sessionId) := ⟨hq.1, hq.2.1.trans haccount⟩
    exact hrelease.follows fun _ => .ret trivial

/-! ### Characters -/

theorem handleSelectCharacter_entitled (hq : q.Of d) (characterId : Int64) :
    (d.handleSelectCharacter characterId).Follows Moves (fun q' r => q'.Of r.1) q := by
  obtain ⟨hsession, haccount, hcharacter⟩ := hq
  unfold handleSelectCharacter
  rcases hid : d.accountId with _ | accountId
  · exact .ret ⟨hsession, haccount, hcharacter⟩
  · rw [hid] at haccount
    have howns : q.Entitles (.request (.ownedCharacter characterId accountId)) := haccount
    refine howns.follows fun answer => ?_
    rcases answer with _ | _ | owned
    · exact .ret ⟨hsession, haccount.trans hid.symm, hcharacter⟩
    · exact .ret ⟨hsession, haccount.trans hid.symm, hcharacter⟩
    · have hloggedIn : q.account.isSome := by
        rw [haccount]
        rfl
      have hloads : { q with owned := some owned }.Entitles (.request (.loadCharacterById owned)) := by
        exact ⟨hloggedIn, rfl⟩
      refine hloads.follows fun answer => ?_
      rcases answer with _ | c
      · exact .ret ⟨hsession, haccount.trans hid.symm, hcharacter⟩
      · have hitems : { q with owned := some owned, character := some c.characterId }.Entitles
          (.request (.inventoryItems owned)) := ⟨hloggedIn, rfl⟩
        have hsets : { q with owned := some owned, character := some c.characterId }.Entitles
          (.setSelectedCharacter d.sessionId c) := ⟨hsession, rfl⟩
        exact hitems.follows fun _ => hsets.follows fun _ => .ret ⟨hsession, haccount, rfl⟩

end Delegate

theorem ProgressReq.refresh_characterId (req : ProgressReq) (characterId : Int64) (c : CharacterInfo) :
    (req.refresh characterId c).characterId = c.characterId := by
  unfold ProgressReq.refresh
  split
  · split_ifs <;> rfl
  · rfl
  · rfl
  · rfl
  · rfl

namespace Delegate

variable {d : Delegate} {q : Standing}

theorem handleProgress_entitled (hq : q.Of d) (req : ProgressReq) :
    (d.handleProgress req).Follows Moves (fun q' r => q'.Of r.1) q := by
  obtain ⟨hsession, haccount, hcharacter⟩ := hq
  unfold handleProgress requireSelectedCharacterId
  rcases hid : d.accountId with _ | accountId
  · exact .ret ⟨hsession, haccount, hcharacter⟩
  · rcases hselected : d.selectedCharacter with _ | c
    · exact .ret ⟨hsession, haccount, hcharacter⟩
    · rw [hselected] at hcharacter
      have hsaves : q.Entitles (.request (.saveProgress c.characterId req)) := by
        refine ⟨?_, hcharacter⟩
        rw [haccount, hid]
        rfl
      refine hsaves.follows fun saved => ?_
      cases saved with
      | false =>
          refine .ret ⟨hsession, haccount, ?_⟩
          rw [hselected]
          exact hcharacter
      | true =>
          have hrefreshed : q.character = some (req.refresh c.characterId c).characterId := by
            rw [req.refresh_characterId]
            exact hcharacter
          have hsets : q.Entitles (.setSelectedCharacter d.sessionId (req.refresh c.characterId c)) :=
            ⟨hsession, hrefreshed⟩
          exact hsets.follows fun _ => .ret ⟨hsession, haccount.trans hid, hrefreshed⟩

end Delegate

/-! ### Towns and battles -/

/-- The session is entitled to the operation, which proves nothing. -/
def Standing.Allows (q : Standing) (op : GameOp) : Prop := q.Entitles op ∧ ∀ answer, q.told op answer = q

namespace Standing

variable {q : Standing}

theorem allows_of_impersonal {op : GameOp} (h : op.impersonal = true) : q.Allows op :=
  ⟨entitles_of_impersonal h, told_of_impersonal h⟩

theorem follows_of_allows {α : Type} {p : Program gameOps α} (h : p.Calls q.Allows) :
    p.Follows Moves (fun q' _ => q' = q) q := by
  refine Program.Follows.of_calls h fun op answer hop => ?_
  have hmoves : Moves q op answer (q.told op answer) := .intro hop.1
  rwa [hop.2 answer] at hmoves

end Standing

theorem Impersonal.allows {α : Type} {p : Program gameOps α} (h : Impersonal p) (q : Standing) :
    p.Calls q.Allows := h.mono fun _ => Standing.allows_of_impersonal

theorem leaveTownForSession_allowed {q : Standing} {sessionId : UInt32} (h : q.sessionId ≠ some sessionId) :
    (leaveTownForSession sessionId).Calls q.Allows := by
  refine .call (Standing.allows_of_impersonal rfl) fun townInstanceId => ?_
  rcases townInstanceId with _ | townInstanceId
  · exact .ret _
  · refine .call (Standing.allows_of_impersonal rfl) fun playerId => ?_
    rcases playerId with _ | playerId
    · exact .ret _
    · refine .call ⟨fun hown => absurd hown h, fun _ => rfl⟩ fun answer => ?_
      rcases answer with _ | _ | resp <;> exact .ret _

namespace Delegate

variable {d : Delegate} {q : Standing}

theorem leaveTownScene_allowed (hq : q.Of d) : d.leaveTownScene.Calls q.Allows := by
  unfold leaveTownScene
  rcases hid : d.accountId with _ | playerId
  · exact .ret _
  · refine .call (Standing.allows_of_impersonal rfl) fun townInstanceId => ?_
    rcases townInstanceId with _ | townInstanceId
    · exact .ret _
    · refine .call ⟨fun _ => hq.2.1.trans hid, fun _ => rfl⟩ fun answer => ?_
      rcases answer with _ | _ | resp
      · exact .ret _
      · exact .ret _
      · show Program.Calls _ (if _ then _ else _)
        split_ifs
        · exact .ret _
        · refine .call ⟨hq.1, fun _ => rfl⟩ fun unbind => ?_
          refine ((clearTownSession_impersonal _).allows q).bind fun _ => ?_
          rcases unbind with _ | _ | resp <;> exact .ret _

theorem handleEnterScene_allowed (hq : q.Of d) (req : EnterSceneReq) :
    (d.handleEnterScene req).Calls q.Allows := by
  unfold handleEnterScene
  rcases hid : d.accountId with _ | accountId
  · exact .ret _
  · have haccount : q.account = some accountId := hq.2.1.trans hid
    have hrollback : ∀ townInstanceId, (d.rollbackTownEnter townInstanceId accountId).Calls q.Allows := by
      intro townInstanceId
      exact .call ⟨fun _ => haccount, fun _ => rfl⟩ fun _ => .ret _
    refine .call (Standing.allows_of_impersonal rfl) fun current => ?_
    refine .call ⟨⟨hq.1, haccount, ?_⟩, fun _ => rfl⟩ fun answer => ?_
    · intro state hstate
      rw [← Option.some.inj hstate]
      rfl
    · rcases answer with (_ | _ | _ | _ | _) | _ | resp
      case ok.some =>
        show Program.Calls _ (if _ then _ else _)
        split_ifs
        · exact .ret _
        · refine .call (Standing.allows_of_impersonal rfl) fun answer => ?_
          rcases answer with (_ | _ | _ | _ | _) | _ | bind
          case ok.some =>
            show Program.Calls _ (if _ then _ else _)
            split_ifs
            · exact (hrollback _).bind fun _ => .ret _
            · exact ((bindTownSession_impersonal _ _).allows q).bind fun _ => .ret _
          all_goals exact (hrollback _).bind fun _ => .ret _
      all_goals exact .ret _

theorem handleBattleJoin_allowed (hq : q.Of d) (mapId : Int32) : (d.handleBattleJoin mapId).Calls q.Allows := by
  have himpersonal : ∀ {op : GameOp}, op.impersonal = true → q.Allows op := Standing.allows_of_impersonal
  unfold handleBattleJoin
  rcases hid : d.accountId with _ | accountId
  · exact .ret _
  · rcases hselected : d.selectedCharacter with _ | character
    · exact .ret _
    · refine .call (himpersonal rfl) fun _ => .call (himpersonal rfl) fun _ => ?_
      refine .call ⟨?_, fun _ => rfl⟩ fun answer => ?_
      · intro p hp
        rw [← (List.cons.inj hp).1]
        refine ⟨hq.1, hq.2.1.trans hid, ?_⟩
        rw [hq.2.2, hselected]
        rfl
      · rcases answer with (_ | _ | _ | _ | _) | _ | resp
        case ok.some =>
          show Program.Calls _ (if _ then _ else _)
          split_ifs
          · exact .ret _
          · refine .call (himpersonal rfl) fun answer => ?_
            rcases answer with (_ | _ | _ | _ | _) | _ | bind
            case ok.some =>
              show Program.Calls _ (if _ then _ else _)
              split_ifs
              · exact .ret _
              · refine ((bindBattleSession_impersonal _ _ _).allows q).bind fun _ => ?_
                exact (leaveTownScene_allowed hq).bind fun _ => .ret _
            all_goals exact .ret _
        all_goals exact .ret _

/-! ### Duels -/

theorem handleDuelInvite_allowed (hq : q.Of d) (targetPlayerId : Int64) :
    (d.handleDuelInvite targetPlayerId).Calls q.Allows := by
  have himpersonal : ∀ {op : GameOp}, op.impersonal = true → q.Allows op := Standing.allows_of_impersonal
  have hrefuse : ∀ (refused : Bool) (resp : CodeResp) {p : Program gameOps CodeResp},
      p.Calls q.Allows → Program.Calls q.Allows (if refused = true then pure resp else p) := by
    intro refused resp p h
    split_ifs
    · exact .ret _
    · exact h
  unfold handleDuelInvite
  rcases hid : d.accountId with _ | accountId
  · exact .ret _
  · rcases hselected : d.selectedCharacter with _ | character
    · exact .ret _
    · dsimp only
      split_ifs with hself
      · exact .ret _
      · refine .call (himpersonal rfl) fun targetSession => ?_
        rcases targetSession with _ | targetSession
        · exact .ret _
        · have hoffer : q.Allows (.addPendingDuel {
              challengerSession := d.sessionId
              challengerPlayerId := accountId
              targetSession
              targetPlayerId }) := by
            refine ⟨⟨hq.1, hq.2.1.trans hid, hself, ?_⟩, fun _ => rfl⟩
            rw [hq.2.2, hselected]
            rfl
          refine .call (himpersonal rfl) fun _ => hrefuse _ _ (.call (himpersonal rfl) fun _ => hrefuse _ _ ?_)
          refine .call (himpersonal rfl) fun _ => hrefuse _ _ (.call (himpersonal rfl) fun _ => hrefuse _ _ ?_)
          refine .call (himpersonal rfl) fun _ => hrefuse _ _ (.call hoffer fun _ => ?_)
          exact .call (himpersonal rfl) fun _ => .ret _

theorem bindAll_impersonal (battleId battleInstanceId : UInt32) (sessions : List UInt32) :
    Impersonal (bindAll battleId battleInstanceId sessions) := by
  induction sessions with
  | nil => exact .ret _
  | cons sessionId rest ih =>
      refine .call rfl fun answer => ?_
      rcases answer with _ | _ | resp
      · exact .ret _
      · exact .ret _
      · show Impersonal (if _ then _ else _)
        split_ifs
        · exact .ret _
        · exact (bindBattleSession_impersonal _ _ _).bind fun _ => ih

theorem leaveTown_allowed (hq : q.Of d) (sessionId : UInt32) : (d.leaveTown sessionId).Calls q.Allows := by
  unfold leaveTown
  split_ifs with hown
  · exact leaveTownScene_allowed hq
  · refine leaveTownForSession_allowed fun h => hown ?_
    exact Option.some.inj (h.symm.trans hq.1)

theorem fight_allowed (hq : q.Of d) (pending : PendingDuel) (battleId : UInt32) (randomSeed : UInt64)
    (answer : RpcResult BattleCreateResp) :
    (d.fight pending battleId randomSeed answer).Calls q.Allows := by
  rcases answer with _ | _ | resp
  · exact .ret _
  · exact .ret _
  · show Program.Calls _ (if _ then _ else _)
    split_ifs
    · exact .ret _
    · refine ((bindAll_impersonal _ _ _).allows q).bind fun bound => ?_
      rcases bound with _ | _
      · exact .ret _
      · refine Program.Calls.bind (.forEach fun _ _ => (leaveTown_allowed hq _).bind fun _ => .ret _) fun _ => ?_
        refine Program.Calls.bind (.forEach fun _ _ => .perform ?_) fun _ => .ret _
        exact Standing.allows_of_impersonal rfl

theorem startDuelBattle_allowed (hq : q.Of d) (pending : PendingDuel) :
    (d.startDuelBattle pending).Calls q.Allows := by
  have himpersonal : ∀ {op : GameOp}, op.impersonal = true → q.Allows op := Standing.allows_of_impersonal
  have hcharacter : ∀ sessionId, (d.characterForSession sessionId).Calls q.Allows := by
    intro sessionId
    unfold characterForSession
    split_ifs
    · exact .ret _
    · refine .call (himpersonal rfl) fun character => ?_
      rcases character with _ | character <;> exact .ret _
  rw [startDuelBattle_eq]
  refine (hcharacter _).bind fun challenger => ?_
  rcases challenger with _ | challenger
  · exact .ret _
  · refine (hcharacter _).bind fun target => ?_
    rcases target with _ | target
    · exact .ret _
    · refine .call (himpersonal rfl) fun _ => .call (himpersonal rfl) fun _ => ?_
      refine .call ⟨fun p hp => ?_, fun _ => rfl⟩ fun answer => ?_
      · cases hp
      · exact fight_allowed hq _ _ _ answer

theorem handleDuelRespond_allowed (hq : q.Of d) (accept : Int32) :
    (d.handleDuelRespond accept).Calls q.Allows := by
  have himpersonal : ∀ {op : GameOp}, op.impersonal = true → q.Allows op := Standing.allows_of_impersonal
  refine .call (himpersonal rfl) fun pending => ?_
  rcases pending with _ | pending
  · exact .ret _
  · refine .call (himpersonal rfl) fun _ => ?_
    show Program.Calls _ (if _ then _ else _)
    split_ifs
    · exact .call (himpersonal rfl) fun _ => .ret _
    · refine (startDuelBattle_allowed hq pending).bind fun started => ?_
      rcases started with message | _
      · exact .call (himpersonal rfl) fun _ => .call (himpersonal rfl) fun _ => .ret _
      · exact .ret _

theorem onClientFrame_entitled {frame : ClientFrame} (hq : (q.asked (.frame frame)).Of d) :
    (d.onClientFrame frame).Follows Moves (fun q' d' => q'.Of d') (q.asked (.frame frame)) := by
  have hkeeps : ∀ {α : Type} {p : Program gameOps α}, p.Calls (q.asked (.frame frame)).Allows →
      (do
        let _ ← p
        pure d : Program gameOps Delegate).Follows Moves (fun q' d' => q'.Of d') (q.asked (.frame frame)) := by
    intro α p h
    refine (Standing.follows_of_allows h).bind fun q' _ hq' => ?_
    rw [hq']
    exact .ret hq
  cases frame with
  | login req => exact (handleLogin_entitled hq req rfl).bind fun _ _ h => .ret h
  | selectCharacter characterId => exact (handleSelectCharacter_entitled hq characterId).bind fun _ _ h => .ret h
  | progress req => exact (handleProgress_entitled hq req).bind fun _ _ h => .ret h
  | battleJoin mapId => exact hkeeps (handleBattleJoin_allowed hq mapId)
  | duelInvite targetPlayerId => exact hkeeps (handleDuelInvite_allowed hq targetPlayerId)
  | duelRespond accept => exact hkeeps (handleDuelRespond_allowed hq accept)
  | enterScene req => exact hkeeps (handleEnterScene_allowed hq req)
  | other => exact .ret hq

end Delegate

/-! ### Runs -/

abbrev PlayTrace := List (PlayPool × PlayEvent)

/-- The standing of a new thread. -/
def Actor.standing : Actor → Standing
  | .session d => { sessionId := some d.sessionId }
  | _ => {}

/-- What an event makes of the standing of the `k`-th thread. -/
def Standing.next (k : Nat) (q : Standing) (x : PlayPool × PlayEvent) : Standing :=
  match x.2 with
  | .opens l => if x.1.threads.length = k then l.standing else q
  | .input j e => if j = k then q.asked e else q
  | .call j ⟨op, answer⟩ => if j = k then q.told op answer else q
  | .environment => q

/-- The standing of the `k`-th thread after a run. -/
def standing (k : Nat) (trace : PlayTrace) : Standing := trace.foldl (Standing.next k) {}

theorem standing_snoc (k : Nat) (trace : PlayTrace) (x : PlayPool × PlayEvent) :
    standing k (trace ++ [x]) = (standing k trace).next k x := by
  simp [standing]

def standingGuide : Pool.Guide playing Standing where
  moves q op answer q' := Moves q op answer q'
  stops := Standing.Rests
  fresh _ l := l.standing
  begins q e q' := q' = q.asked e
  fresh_stops := by
    rintro g k l g' ⟨-, rfl | ⟨sessionId, rfl⟩⟩
    · trivial
    · exact ⟨rfl, rfl, rfl⟩
  follows := by
    intro q l e p hstops hp
    refine ⟨_, rfl, ?_⟩
    cases l with
    | stopped => cases e <;> cases hp
    | readLoop =>
        cases e with
        | serverOffline serviceId instanceId =>
            cases hp
            exact (onServerOffline_impersonal _ _).follows fun _ => .ret trivial
        | disconnected =>
            cases hp
            exact clearAllRuntimeState_impersonal.follows fun _ => .ret trivial
        | _ => cases hp
    | session d =>
        have hq : (q.asked e).Of d := by
          cases e with
          | frame frame => cases frame <;> exact hstops
          | _ => exact hstops
        cases e with
        | stop =>
            cases hp
            exact (Delegate.onStop_entitled hq).bind fun _ _ _ => .ret trivial
        | frame frame =>
            cases hp
            exact (Delegate.onClientFrame_entitled hq).bind fun _ _ hq' => .ret hq'
        | _ => cases hp

theorem standings_of_run {g : GameState} {trace : PlayTrace} {pool : PlayPool}
    (hrun : Run (Pool.Step playing) ⟨g, []⟩ trace pool) :
    ∃ qs, standingGuide.Tracks qs pool.threads ∧ ∀ (k : Nat) (q : Standing), qs[k]? = some q → q = standing k trace := by
  refine standingGuide.invariant rfl hrun (fun _ _ => True) (fun _ _ => trivial)
    (fun trace _ qs => ∀ (k : Nat) (q : Standing), qs[k]? = some q → q = standing k trace) ?_ ?_
  · intro k q hk
    simp at hk
  · intro trace pool qs e g' qs' htracks ih _ hstep k q hk
    rw [standing_snoc]
    cases hstep with
    | @opens _ _ _ l hopens =>
        show q = if pool.threads.length = k then l.standing else standing k trace
        rw [← htracks.length_eq]
        rw [List.getElem?_append] at hk
        split_ifs at hk with hlt
        · rw [if_neg (by omega)]
          exact ih k q hk
        · obtain ⟨hlast, hget⟩ := List.getElem?_eq_some_iff.1 hk
          simp only [List.length_singleton] at hlast
          rw [if_pos (by omega), ← hget]
          simp [standingGuide]
    | @input _ _ j q₀ q₁ l e hj hstops hhandle hbegins =>
        show q = if j = k then (standing k trace).asked e else standing k trace
        rw [Pool.Guide.get_set hj] at hk
        by_cases hjk : j = k
        · subst hjk
          rw [if_pos rfl] at hk
          rw [if_pos rfl, ← Option.some.inj hk, ← ih j q₀ hj]
          exact hbegins
        · rw [if_neg (Ne.symm hjk)] at hk
          rw [if_neg hjk]
          exact ih k q hk
    | @call _ _ _ j q₀ q₁ op answer hj hmoves hdoes =>
        show q = if j = k then (standing k trace).told op answer else standing k trace
        rw [Pool.Guide.get_set hj] at hk
        by_cases hjk : j = k
        · subst hjk
          rw [if_pos rfl] at hk
          rw [if_pos rfl, ← Option.some.inj hk, ← ih j q₀ hj]
          cases hmoves with
          | intro _ => rfl
        · rw [if_neg (Ne.symm hjk)] at hk
          rw [if_neg hjk]
          exact ih k q hk
    | environment h => cases h

/-- A step of a run is within the standing that its thread has by then. -/
theorem within_standing {g : GameState} {trace before after : PlayTrace} {pool pool₀ : PlayPool}
    (hrun : Run (Pool.Step playing) ⟨g, []⟩ trace pool) {k : Nat} {op : GameOp} {answer : op.Answer}
    (htrace : trace = before ++ (pool₀, .call k ⟨op, answer⟩) :: after) : (standing k before).Entitles op := by
  obtain ⟨hbefore, pool₁, hstep⟩ := hrun.split htrace
  obtain ⟨qs, htracks, hstandings⟩ := standings_of_run hbefore
  obtain ⟨qs', hguided, -⟩ := Pool.Guide.simulates htracks hstep
  cases hguided with
  | @call _ _ _ _ q q' _ _ hk hmoves _ =>
      rw [← hstandings k q hk]
      cases hmoves with
      | intro h => exact h

/-- Session 1 logs in, selects character 1 and saves its skills. -/
def earns : List (Pool.Slot Actor Input) :=
  .opens (.session { sessionId := 1 }) :: .input 0 (.frame (.login { account := "a", password := "" })) ::
    List.replicate 3 (.call 0) ++ .input 0 (.frame (.selectCharacter 1)) :: List.replicate 4 (.call 0) ++
      .input 0 (.frame (.progress (.skillSlotsSync []))) :: List.replicate 2 (.call 0)

/-- The database answers as one in which characters have owners that do not change. -/
def Truthful (owner : Int64 → Option Int64) : PlayEvent → Prop
  | .call _ ⟨.request (.ownedCharacter _ playerId), (.ok (some found) : Except String (Option Int64))⟩ =>
      owner found = some playerId
  | .call _ ⟨.request (.loadCharacterById characterId), (some c : Option CharacterInfo)⟩ =>
      c.characterId = characterId
  | _ => True

/-- What was found to be an account's, is. -/
def Standing.Owns (owner : Int64 → Option Int64) (q : Standing) : Prop :=
  (∀ characterId, q.owned = some characterId → owner characterId = q.account) ∧
    ∀ characterId, q.character = some characterId → owner characterId = q.account

theorem Standing.Owns.told {owner : Int64 → Option Int64} {q : Standing} (h : q.Owns owner) {j : Nat}
    {op : GameOp} {answer : op.Answer} (hentitles : q.Entitles op) (htruthful : Truthful owner (.call j ⟨op, answer⟩)) :
    (q.told op answer).Owns owner := by
  unfold Standing.told
  split
  · exact h
  · unfold Standing.identified
    split_ifs
    · exact ⟨nofun, nofun⟩
    · exact h
  · refine ⟨fun characterId hc => ?_, h.2⟩
    obtain rfl := Option.some.inj hc
    exact htruthful.trans hentitles.symm
  · refine ⟨h.1, fun characterId hc => ?_⟩
    obtain rfl := Option.some.inj hc
    obtain ⟨-, howned⟩ := hentitles
    exact h.1 _ (howned.trans (congrArg some htruthful.symm))
  · exact h

theorem owns_of_run {owner : Int64 → Option Int64} {g : GameState} {trace : PlayTrace} {pool : PlayPool}
    (hrun : Run (Pool.Step playing) ⟨g, []⟩ trace pool) (htruthful : ∀ x ∈ trace, Truthful owner x.2) (k : Nat) :
    (standing k trace).Owns owner := by
  have hempty : ∀ sessionId : Option UInt32, ({ sessionId } : Standing).Owns owner :=
    fun _ => ⟨nofun, nofun⟩
  induction hrun with
  | start => exact hempty none
  | @next trace pool₀ pool₁ e hrun hstep ih =>
      have ih := ih fun x hx => htruthful x (List.mem_append_left _ hx)
      have hlast := htruthful (pool₀, e) (List.mem_append_right _ List.mem_cons_self)
      rw [standing_snoc]
      unfold Standing.next
      cases e with
      | opens l =>
          dsimp only
          split_ifs
          · cases l <;> exact hempty _
          · exact ih
      | input j e =>
          dsimp only
          split_ifs
          · cases e with
            | frame frame => cases frame <;> exact ih
            | _ => exact ih
          · exact ih
      | call j c =>
          obtain ⟨op, answer⟩ := c
          dsimp only
          split_ifs with hjk
          · subst hjk
            have hentitles : (standing j trace).Entitles op :=
              within_standing (.next hrun hstep) (show trace ++ [_] = trace ++ _ :: [] from rfl)
            exact ih.told hentitles hlast
          · exact ih
      | environment => exact ih

/-- In every run in which the database answers as one whose characters have fixed owners, progress is only
saved of characters of the account whose password the session's last successful login had. -/
theorem progressOwner_of_run (owner : Int64 → Option Int64) (g : GameState) (trace : PlayTrace) (pool : PlayPool)
    (hrun : Run (Pool.Step playing) ⟨g, []⟩ trace pool) (htruthful : ∀ x ∈ trace, Truthful owner x.2) :
    ∀ (before after : PlayTrace) (pool₀ : PlayPool) (k : Nat) (characterId : Int64) (req : ProgressReq) (saved : Bool),
      trace = before ++ (pool₀, .call k ⟨.request (.saveProgress characterId req), saved⟩) :: after →
        ∃ accountId, (standing k before).account = some accountId ∧ owner characterId = some accountId := by
  intro before after pool₀ k characterId req saved htrace
  obtain ⟨hloggedIn, hcharacter⟩ := within_standing hrun htrace
  obtain ⟨accountId, haccount⟩ := Option.isSome_iff_exists.1 hloggedIn
  have howns : (standing k before).Owns owner := by
    refine owns_of_run (hrun.split htrace).1 (fun x hx => htruthful x ?_) k
    rw [htrace]
    exact List.mem_append_left _ hx
  exact ⟨accountId, haccount, (howns.2 _ hcharacter).trans haccount⟩

theorem progressOwner_of_run_earns : ∃ (trace : PlayTrace) (pool pool₀ : PlayPool) (before after : PlayTrace),
    Run (Pool.Step playing) ⟨{}, []⟩ trace pool ∧
      trace = before ++ (pool₀, .call 0 ⟨.request (.saveProgress 1 (.skillSlotsSync [])), true⟩) :: after ∧
        ∃ accountId, (standing 0 before).account = some accountId ∧
          (if (1 : Int64) = 1 then some 10 else none) = some accountId := by
  obtain ⟨⟨trace, pool⟩, hrecord⟩ := Option.isSome_iff_exists.1
    (show ((playExecutor hospitable).record ⟨{}, []⟩ earns).isSome = true from rfl)
  have hrun := Pool.Executor.record_sound _ hrecord
  cases hrecord
  refine ⟨_, _, _, [_, _, _, _, _, _, _, _, _, _, _], [_], hrun, rfl, ?_⟩
  refine progressOwner_of_run (fun characterId => if characterId = 1 then some 10 else none) {} _ _ hrun ?_ _ _ _ 0 1
    (.skillSlotsSync []) true rfl
  simp only [List.forall_mem_cons]
  exact ⟨trivial, trivial, trivial, trivial, trivial, trivial, rfl, rfl, trivial, trivial, trivial, trivial, trivial,
    nofun⟩

end AxmolFighter.Game
