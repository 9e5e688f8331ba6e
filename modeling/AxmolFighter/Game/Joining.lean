import AxmolFighter.Battle.Vacancy
import AxmolFighter.Game.Conduct
import AxmolFighter.Game.Peers

/-!
# Starting a battle, or not

`handle_battle_join` and `start_duel_battle` ask a battle server for a room, and the gateway to bind each of the
players to it. Neither takes anything back. So a failure leaves nothing behind exactly if no room was opened: once
there is one, only a success is.
-/

namespace AxmolFighter.Game

open Backend GameState
open Battle (BattleCreateReq BattleCreateResp BattleServer Mugen Parser)
open Battle.BattleServer (Opens turn)
open World

variable {Ω : Type}

/-- What is known of the sessions' battles is what was known before, and a battle id that was taken has no room. -/
structure NoBattle (w w' : World Ω) (sessions : List UInt32) : Prop where
  session : ∀ s ∈ sessions, w'.game.battleSessions.get s = w.game.battleSessions.get s
  instances : ∀ s ∈ sessions, ∀ i, s ∈ (w'.game.battleInstanceSessions.get i).getD ∅ ↔
    s ∈ (w.game.battleInstanceSessions.get i).getD ∅
  binding : ∀ s ∈ sessions, w'.gateway.router.boundInstance s serviceIdBattle.toUInt8 =
    w.gateway.router.boundInstance s serviceIdBattle.toUInt8
  room : w'.game.battleIdSeed ≠ w.game.battleIdSeed →
    ∀ i, (w'.battles i).roomManager.findRoom w.game.battleIdSeed = none

/-- The request as the battle server gets it. -/
def createFrame : BackendFrame where
  cmd := backendCmdBusiness
  msgId := BattleCreateReq.id
  serial := -1
  sessionId := 0
  payload := []

/-- The battle server has the room, or opens it and gives somebody a seat. -/
def Accepted (G : Mugen Ω) (s : BattleServer Ω) (req : BattleCreateReq) : Prop :=
  s.roomManager.findRoom req.battleId ≠ none ∨
    ∃ room, Opens G s req room ∧ ((turn G s createFrame req req.players).joined = true ∨ req.players = [])

/-- The request opens no room. -/
def Unopened (G : Mugen Ω) (w : World Ω) (req : BattleCreateReq) : Fate → Prop
  | .dropped _ => True
  | .unanswered chosen _ | .answered chosen => ∀ room, ¬ Opens G (w.battles chosen) req room

/-- No server has a room with the id, before and after the request. -/
def Roomless (G : Mugen Ω) (w : World Ω) (req : BattleCreateReq) : Prop :=
  (∀ i, (w.battles i).roomManager.findRoom req.battleId = none) ∧ Unopened G w req (w.fates 0)

def battleBind (sessionId instanceId : UInt32) : BindServiceReq where
  sessionId
  serviceId := serviceIdBattle
  targetInstanceId := instanceId.toInt32

/-- The gateway has the instance and binds, or what comes instead is taken for a success. -/
def Bound (w : World Ω) (req : BindServiceReq) : Fate → Prop
  | .dropped error | .unanswered _ error => Silent error
  | .answered _ => ∃ i, w.selected req = .ok i

/-- What `handle_battle_join` takes for a success, or what is one: the battle server accepts, and the gateway
binds. -/
def Joins (G : Mugen Ω) (w : World Ω) (sessionId : UInt32) (req : BattleCreateReq) : Prop :=
  match w.fates 0 with
  | .dropped error | .unanswered _ error => Silent error
  | .answered chosen => Accepted G (w.battles chosen) req ∧
      Bound w (battleBind sessionId (w.battles chosen).config.instanceId) (w.fates 1)

/-- The same of `start_duel_battle`, for which a refusal is always one. -/
def Fights (G : Mugen Ω) (w : World Ω) (sessions : List UInt32) (req : BattleCreateReq) : Prop :=
  ∃ chosen, w.fates 0 = .answered chosen ∧ Accepted G (w.battles chosen) req ∧
    (∀ n < sessions.length, ∃ other, w.fates (n + 1) = .answered other) ∧
    ∀ s ∈ sessions, ∃ i, w.selected (battleBind s (w.battles chosen).config.instanceId) = .ok i

/-! ### What the requests do -/

theorem createBattle_spec (G : Mugen Ω) (w : World Ω) (req : BattleCreateReq) (i : UInt32) :
    ∃ resp server, w.createBattle G req i = (some resp, { w with battles := Function.update w.battles i server }) ∧
      (resp.code = 0 ↔ Accepted G (w.battles i) req) ∧
      (server.roomManager.findRoom req.battleId = none ↔
        (w.battles i).roomManager.findRoom req.battleId = none ∧ ∀ room, ¬ Opens G (w.battles i) req room) ∧
      (resp.code = 0 → resp.battleInstanceId = (w.battles i).config.instanceId) := by
  let parser : Parser := { battleCreateReq := fun _ => some req, battleInputPush := fun _ => none }
  have hparse : parser.battleCreateReq createFrame.payload = some req := rfl
  refine ⟨_, _, rfl, ?_, ?_, ?_⟩
  · exact Battle.BattleServer.onBattleCreate_code hparse
  · exact Battle.BattleServer.onBattleCreate_findRoom hparse
  · intro hcode
    rcases Battle.BattleServer.onBattleCreate_ok hparse hcode with ⟨room, -, -, hresp⟩ | ⟨_, _, room, -, -, -, -, hresp⟩
    · exact congrArg BattleCreateResp.battleInstanceId hresp
    · exact (congrArg BattleCreateResp.battleInstanceId hresp).trans
        (congrArg (·.instanceId) (Battle.BattleServer.onBattleCreate_config _ _))

theorem forall_battles_iff {G : Mugen Ω} {w : World Ω} {req : BattleCreateReq} {i : UInt32} {server : BattleServer Ω}
    (hserver : server.roomManager.findRoom req.battleId = none ↔
      (w.battles i).roomManager.findRoom req.battleId = none ∧ ∀ room, ¬ Opens G (w.battles i) req room) :
    (∀ k, (Function.update w.battles i server k).roomManager.findRoom req.battleId = none) ↔
      (∀ k, (w.battles k).roomManager.findRoom req.battleId = none) ∧ ∀ room, ¬ Opens G (w.battles i) req room := by
  constructor
  · intro h
    have hi := h i
    rw [Function.update_self, hserver] at hi
    refine ⟨fun k => ?_, hi.2⟩
    by_cases hk : k = i
    · rw [hk]
      exact hi.1
    · have hk' := h k
      rwa [Function.update_of_ne hk] at hk'
  · rintro ⟨hnone, hopens⟩ k
    by_cases hk : k = i
    · rw [hk, Function.update_self]
      exact hserver.2 ⟨hnone i, hopens⟩
    · rw [Function.update_of_ne hk]
      exact hnone k

theorem bindBattleSession_eval (G : Mugen Ω) (outside : (r : Request) → r.Answer) (w : World Ω)
    (sessionId battleId instanceId : UInt32) :
    ∃ game, ((bindBattleSession sessionId battleId instanceId).eval (World.exec G outside) w).2 = { w with game } ∧
      game.battleIdSeed = w.game.battleIdSeed := by
  unfold bindBattleSession clearBattleSession
  rw [Program.eval_bind, Program.eval_bind, Program.eval_bind]
  generalize (Program.eval (World.exec G outside) (GameOp.perform (.removeBattle sessionId)) w).1 = old
  rcases old with _ | state
  · exact ⟨_, rfl, rfl⟩
  · exact ⟨_, rfl, rfl⟩

/-! ### The handlers -/

namespace Delegate

variable (d : Delegate)

/-- The request for the battle that a session joins alone. -/
def joinReq (accountId : Int64) (character : CharacterInfo) (mapId : Int32) (battleId : UInt32)
    (randomSeed : UInt64) : BattleCreateReq where
  battleId
  mapId := if mapId ≤ 0 then 1 else mapId
  players := [seat d.sessionId accountId character]
  randomSeed

/-- `handle_battle_join` once the gateway has answered. -/
def afterBattleBind (battleId : UInt32) (randomSeed : UInt64) (resp : BattleCreateResp) :
    RpcResult BindServiceResp → Program gameOps BattleJoinResp
  | .ok none => pure { code := -1, message := "invalid bind service response" }
  | .error (.gateway code message) =>
      pure { code := code.toInt32, message := messageOr message "battle server unavailable" }
  | .error _ => pure { code := -1, message := "battle server unavailable" }
  | .ok (some bind) =>
      if bind.code ≠ 0 then
        pure {
          code := bind.code.toInt32
          message := messageOr bind.message "battle server unavailable" }
      else do
        bindBattleSession d.sessionId battleId resp.battleInstanceId
        let _ ← leaveTownScene d
        pure {
          code := 0
          message := ""
          battleId
          serverFrame := resp.serverFrame
          worldDump := resp.worldDump
          actorEntityId := resp.actorEntityId
          randomSeed }

/-- `handle_battle_join` once the battle server has answered. -/
def afterCreate (battleId : UInt32) (randomSeed : UInt64) :
    RpcResult BattleCreateResp → Program gameOps BattleJoinResp
  | .ok none => pure { code := -1, message := "invalid battle create response" }
  | .error (.gateway code message) =>
      pure { code := code.toInt32, message := messageOr message "battle server unavailable" }
  | .error _ => pure { code := -1, message := "battle server unavailable" }
  | .ok (some resp) =>
      if resp.code ≠ 0 then pure { code := resp.code, message := resp.message }
      else do
        let bind ← GameOp.perform (.request (.bindService (battleBind d.sessionId resp.battleInstanceId)))
        d.afterBattleBind battleId randomSeed resp bind

variable {d}

theorem handleBattleJoin_eq {accountId : Int64} {character : CharacterInfo} (haccount : d.accountId = some accountId)
    (hcharacter : d.selectedCharacter = some character) (mapId : Int32) : d.handleBattleJoin mapId = (do
      let battleId ← GameOp.perform .nextBattleId
      let randomSeed ← GameOp.perform .nextRandomSeed
      let resp ← GameOp.perform (.request (.battleCreate (.anyInstance serviceIdBattle)
        (d.joinReq accountId character mapId battleId randomSeed)))
      d.afterCreate battleId randomSeed resp) := by
  unfold handleBattleJoin
  rw [haccount, hcharacter]
  refine congrArg₂ Program.bind rfl (funext fun battleId => congrArg₂ Program.bind rfl (funext fun randomSeed =>
    congrArg₂ Program.bind rfl (funext fun resp => ?_)))
  rcases resp with e | _ | resp
  · cases e <;> rfl
  · rfl
  · unfold afterCreate
    dsimp only
    split_ifs
    · rfl
    · refine congrArg₂ Program.bind rfl (funext fun bind => ?_)
      rcases bind with e | _ | bind
      · cases e <;> rfl
      · rfl
      · rfl

end Delegate

/-- The game server has taken a battle id and a seed. -/
def numbered (w : World Ω) : World Ω :=
  { w with game := (w.game.after .nextBattleId).after .nextRandomSeed }

theorem numbered_seed_ne (w : World Ω) : (numbered w).game.battleIdSeed ≠ w.game.battleIdSeed := by
  show w.game.battleIdSeed + 1 ≠ w.game.battleIdSeed
  intro h
  have hnat := congrArg UInt32.toNat h
  rw [UInt32.toNat_add] at hnat
  have hlt := w.game.battleIdSeed.toNat_lt
  have hone : (1 : UInt32).toNat = 1 := rfl
  omega

theorem reached_anyInstance (chosen : UInt32) : reached (.anyInstance serviceIdBattle) chosen = chosen := rfl

theorem noBattle_iff_rooms (w w' : World Ω) (hgame : w'.game = (numbered w).game) (hgateway : w'.gateway = w.gateway)
    (sessions : List UInt32) :
    NoBattle w w' sessions ↔ ∀ i, (w'.battles i).roomManager.findRoom w.game.battleIdSeed = none := by
  constructor
  · intro h
    refine h.room ?_
    rw [hgame]
    exact numbered_seed_ne w
  · intro h
    refine ⟨fun s _ => ?_, fun s _ i => ?_, fun s _ => ?_, fun _ => h⟩
    · rw [hgame]
      rfl
    · rw [hgame]
      exact Iff.rfl
    · rw [hgateway]

theorem not_noBattle {w w' : World Ω} (i : UInt32) {sessions : List UInt32}
    (hseed : w'.game.battleIdSeed = (numbered w).game.battleIdSeed)
    (hroom : (w'.battles i).roomManager.findRoom w.game.battleIdSeed ≠ none) : ¬ NoBattle w w' sessions := by
  intro h
  refine hroom (h.room ?_ i)
  rw [hseed]
  exact numbered_seed_ne w

/-- The creation of a battle and what follows, whose results are `bad` or not: `quiet` are the errors that are
none, `goes` says when all goes well with a room on the instance. -/
theorem noBattle_create {G : Mugen Ω} {outside : (r : Request) → r.Answer} {w : World Ω} {α : Type} (bad : α → Prop)
    (quiet : Option RpcError → Prop) (goes : UInt32 → Prop) {after : RpcResult BattleCreateResp → Program gameOps α}
    (req : BattleCreateReq) (sessions : List UInt32) (hid : req.battleId = w.game.battleIdSeed)
    (hfailed : ∀ error w', ∃ r, (after (failed error)).eval (World.exec G outside) w' = (r, w') ∧
      (bad r ↔ ¬ quiet error))
    (hrefused : ∀ resp w', resp.code ≠ 0 →
      ∃ r, (after (.ok (some resp))).eval (World.exec G outside) w' = (r, w') ∧ bad r)
    (hopened : ∀ (resp : BattleCreateResp) (w' : World Ω), resp.code = 0 → w'.gateway = w.gateway →
      w'.fates = w.rest.fates →
      (bad ((after (.ok (some resp))).eval (World.exec G outside) w').1 ↔ ¬ goes resp.battleInstanceId) ∧
      (bad ((after (.ok (some resp))).eval (World.exec G outside) w').1 →
        ((after (.ok (some resp))).eval (World.exec G outside) w').2.battles = w'.battles ∧
        ((after (.ok (some resp))).eval (World.exec G outside) w').2.game.battleIdSeed = w'.game.battleIdSeed))
    {out : α × World Ω} (hout : out = (after ((numbered w).ask fun w' chosen =>
        w'.createBattle G req (reached (.anyInstance serviceIdBattle) chosen)).1).eval (World.exec G outside)
      ((numbered w).ask fun w' chosen => w'.createBattle G req (reached (.anyInstance serviceIdBattle) chosen)).2) :
    (bad out.1 → NoBattle w out.2 sessions) ↔ Roomless G w req ∨
      match w.fates 0 with
      | .dropped error | .unanswered _ error => quiet error
      | .answered chosen => Accepted G (w.battles chosen) req ∧ goes (w.battles chosen).config.instanceId := by
  unfold Roomless Unopened
  rcases hfate : w.fates 0 with error | ⟨chosen, error⟩ | chosen
  · have hfate' : (numbered w).fates 0 = .dropped error := hfate
    obtain ⟨r, hr, hbad⟩ := hfailed error (numbered w).rest
    rw [ask_dropped hfate', hr] at hout
    have hrooms := noBattle_iff_rooms w out.2 (by rw [hout]; rfl) (by rw [hout]; rfl) sessions
    rw [hout] at hrooms ⊢
    refine (imp_congr hbad hrooms).trans ?_
    rw [← hid]
    dsimp only
    rw [and_iff_left trivial]
    exact or_iff_not_imp_right.symm
  · have hfate' : (numbered w).fates 0 = .unanswered chosen error := hfate
    obtain ⟨resp, server, hcreate, -, hserver, -⟩ := createBattle_spec G (numbered w).rest req chosen
    obtain ⟨r, hr, hbad⟩ := hfailed error ((numbered w).rest.createBattle G req chosen).2
    rw [ask_unanswered hfate'] at hout
    dsimp only at hout
    rw [reached_anyInstance, hr, hcreate] at hout
    have hrooms := noBattle_iff_rooms w out.2 (by rw [hout]; rfl) (by rw [hout]; rfl) sessions
    rw [hout] at hrooms ⊢
    refine (imp_congr hbad hrooms).trans ?_
    rw [← hid]
    exact (imp_congr Iff.rfl (forall_battles_iff hserver)).trans or_iff_not_imp_right.symm
  · have hfate' : (numbered w).fates 0 = .answered chosen := hfate
    obtain ⟨resp, server, hcreate, hcode, hserver, hinstance⟩ := createBattle_spec G (numbered w).rest req chosen
    rw [ask_answered hfate' (by rw [reached_anyInstance, hcreate])] at hout
    dsimp only at hout
    rw [reached_anyInstance, hcreate] at hout
    dsimp only at hout ⊢
    change resp.code = 0 ↔ Accepted G (w.battles chosen) req at hcode
    by_cases hok : resp.code = 0
    · obtain ⟨hbad, hframe⟩ := hopened resp { (numbered w).rest with
        battles := Function.update (numbered w).rest.battles chosen server } hok rfl rfl
      rw [← hout] at hbad hframe
      have hroom : server.roomManager.findRoom req.battleId ≠ none := by
        rw [Ne, hserver]
        rintro ⟨hnone, hopens⟩
        rcases hcode.1 hok with hfound | ⟨room, hroom, -⟩
        · exact hfound hnone
        · exact hopens room hroom
      have hleft : bad out.1 → ¬ NoBattle w out.2 sessions := by
        intro h
        obtain ⟨hbattles, hseed⟩ := hframe h
        refine not_noBattle chosen hseed ?_
        rw [hbattles]
        dsimp only
        rw [Function.update_self, ← hid]
        exact hroom
      have hroomless : ¬ ((∀ i, (w.battles i).roomManager.findRoom req.battleId = none) ∧
          ∀ room, ¬ Opens G (w.battles chosen) req room) := by
        rintro ⟨hnone, hopens⟩
        exact hroom (hserver.2 ⟨hnone chosen, hopens⟩)
      have hchosen : resp.battleInstanceId = (w.battles chosen).config.instanceId := hinstance hok
      rw [or_iff_right hroomless, and_iff_right (hcode.1 hok), ← hchosen]
      constructor
      · intro h
        by_contra hgoes
        exact hleft (hbad.2 hgoes) (h (hbad.2 hgoes))
      · intro hgoes h
        exact absurd hgoes (hbad.1 h)
    · obtain ⟨r, hr, hbad⟩ := hrefused resp _ hok
      rw [hr] at hout
      have hrooms := noBattle_iff_rooms w out.2 (by rw [hout]; rfl) (by rw [hout]; rfl) sessions
      rw [hout] at hrooms ⊢
      refine (imp_iff_right hbad).trans (hrooms.trans ?_)
      rw [← hid]
      refine (forall_battles_iff hserver).trans (or_iff_left ?_).symm
      exact fun h => hok (hcode.2 h.1)

/-- `handle_battle_join`, run with those it asks. -/
def joined (G : Mugen Ω) (outside : (r : Request) → r.Answer) (w : World Ω) (d : Delegate) (mapId : Int32) :
    BattleJoinResp × World Ω :=
  (d.handleBattleJoin mapId).eval (World.exec G outside) w

section

variable {G : Mugen Ω} {outside : (r : Request) → r.Answer} {w : World Ω} {d : Delegate}

theorem joined_eq {accountId : Int64} {character : CharacterInfo} (haccount : d.accountId = some accountId)
    (hcharacter : d.selectedCharacter = some character) (mapId : Int32) : joined G outside w d mapId =
      (d.afterCreate w.game.battleIdSeed (max w.game.randomSeedCounter 1) ((numbered w).ask fun w' chosen =>
          w'.createBattle G (d.joinReq accountId character mapId w.game.battleIdSeed (max w.game.randomSeedCounter 1))
            (reached (.anyInstance serviceIdBattle) chosen)).1).eval (World.exec G outside)
        ((numbered w).ask fun w' chosen => w'.createBattle G
          (d.joinReq accountId character mapId w.game.battleIdSeed (max w.game.randomSeedCounter 1))
          (reached (.anyInstance serviceIdBattle) chosen)).2 := by
  unfold joined
  rw [Delegate.handleBattleJoin_eq haccount hcharacter, Program.eval_bind, Program.eval_bind, Program.eval_bind]
  rfl

/-- The gateway's part of `handle_battle_join`. -/
theorem afterBattleBind_spec (battleId : UInt32) (randomSeed : UInt64) (resp : BattleCreateResp) {w' : World Ω}
    (hgateway : w'.gateway = w.gateway) {out : BattleJoinResp × World Ω}
    (hout : out = (d.afterBattleBind battleId randomSeed resp
        (w'.ask fun w _ => w.bindService (battleBind d.sessionId resp.battleInstanceId)).1).eval
          (World.exec G outside) (w'.ask fun w _ => w.bindService (battleBind d.sessionId resp.battleInstanceId)).2) :
    (out.1.code ≠ 0 ↔ ¬ Bound w (battleBind d.sessionId resp.battleInstanceId) (w'.fates 0)) ∧
      (out.1.code ≠ 0 → out.2.battles = w'.battles ∧ out.2.game.battleIdSeed = w'.game.battleIdSeed) := by
  have hfailed : ∀ error w₁, ∃ r, (d.afterBattleBind battleId randomSeed resp (failed error)).eval
      (World.exec G outside) w₁ = (r, w₁) ∧ r.code = failureCode error := by
    intro error w₁
    rcases error with _ | e
    · exact ⟨_, rfl, rfl⟩
    · cases e <;> exact ⟨_, rfl, rfl⟩
  have hselected := selected_congr (show w'.rest.gateway.registry = w.gateway.registry by rw [← hgateway]; rfl)
    (battleBind d.sessionId resp.battleInstanceId)
  rcases hfate : w'.fates 0 with error | ⟨chosen, error⟩ | chosen
  · obtain ⟨r, hr, hcode⟩ := hfailed error w'.rest
    rw [ask_dropped hfate, hr] at hout
    rw [hout]
    dsimp only [Bound]
    rw [hcode, Ne, failureCode_eq_zero]
    exact ⟨Iff.rfl, fun _ => ⟨rfl, rfl⟩⟩
  · obtain ⟨gateway, hframe, -⟩ := bindService_frame w'.rest (battleBind d.sessionId resp.battleInstanceId)
    obtain ⟨r, hr, hcode⟩ := hfailed error { w'.rest with gateway }
    rw [ask_unanswered hfate, hframe, hr] at hout
    rw [hout]
    dsimp only [Bound]
    rw [hcode, Ne, failureCode_eq_zero]
    exact ⟨Iff.rfl, fun _ => ⟨rfl, rfl⟩⟩
  · dsimp only [Bound]
    rw [← hselected]
    rcases hsel : w'.rest.selected (battleBind d.sessionId resp.battleInstanceId) with ⟨code, message⟩ | i
    · obtain ⟨hne, gateway, hbind, -⟩ := bindService_error hsel
      rw [ask_answered hfate (by rw [hbind])] at hout
      dsimp only at hout
      rw [hbind] at hout
      unfold Delegate.afterBattleBind at hout
      dsimp only at hout
      rw [if_pos hne] at hout
      have hcode : out.1.code = code.toInt32 := by
        rw [hout]
        rfl
      rw [hcode, Ne, toInt32_eq_zero]
      refine ⟨iff_of_true hne (fun ⟨i, hi⟩ => nomatch hi), fun _ => ?_⟩
      rw [hout]
      exact ⟨rfl, rfl⟩
    · obtain ⟨gateway, hbind, -⟩ := bindService_ok hsel
      rw [ask_answered hfate (by rw [hbind])] at hout
      dsimp only at hout
      rw [hbind] at hout
      have hcode : out.1.code = 0 := by
        rw [hout]
        unfold Delegate.afterBattleBind
        dsimp only
        rw [if_neg (not_not.2 rfl), Program.eval_bind, Program.eval_bind]
        rfl
      rw [hcode]
      exact ⟨iff_of_false (not_not.2 rfl) (not_not.2 ⟨i, rfl⟩), fun h => absurd rfl h⟩

/-- The request for the next battle. -/
def nextJoin (w : World Ω) (d : Delegate) (accountId : Int64) (character : CharacterInfo) (mapId : Int32) :
    BattleCreateReq :=
  d.joinReq accountId character mapId w.game.battleIdSeed (max w.game.randomSeedCounter 1)

theorem joined_iff (G : Mugen Ω) (outside : (r : Request) → r.Answer) (w : World Ω) (d : Delegate) (mapId : Int32) :
    ((joined G outside w d mapId).1.code ≠ 0 → NoBattle w (joined G outside w d mapId).2 [d.sessionId]) ↔
      ∀ accountId character, d.accountId = some accountId → d.selectedCharacter = some character →
        Roomless G w (nextJoin w d accountId character mapId) ∨
          Joins G w d.sessionId (nextJoin w d accountId character mapId) := by
  have hearly : ∀ resp, d.handleBattleJoin mapId = pure resp →
      NoBattle w (joined G outside w d mapId).2 [d.sessionId] := by
    intro resp h
    unfold joined
    rw [h]
    exact ⟨fun _ _ => rfl, fun _ _ _ => Iff.rfl, fun _ _ => rfl, fun h => absurd rfl h⟩
  rcases haccount : d.accountId with _ | accountId
  · refine iff_of_true (fun _ => hearly { code := 401, message := "please login first" } ?_) (fun _ _ h => nomatch h)
    unfold Delegate.handleBattleJoin
    rw [haccount]
  · rcases hcharacter : d.selectedCharacter with _ | character
    · refine iff_of_true (fun _ => hearly { code := 402, message := "please select character first" } ?_)
        (fun _ _ _ h => nomatch h)
      unfold Delegate.handleBattleJoin
      rw [haccount, hcharacter]
    · rw [noBattle_create (fun r : BattleJoinResp => r.code ≠ 0) Silent
        (fun i => Bound w (battleBind d.sessionId i) (w.fates 1)) (nextJoin w d accountId character mapId) [d.sessionId] rfl ?_ ?_ ?_
        (joined_eq haccount hcharacter mapId)]
      · constructor
        · intro h _ _ haccount' hcharacter'
          cases haccount'
          cases hcharacter'
          exact h
        · intro h
          exact h accountId character rfl rfl
      · intro error w'
        have hfailed : ∃ r, (d.afterCreate w.game.battleIdSeed (max w.game.randomSeedCounter 1)
            (failed error)).eval (World.exec G outside) w' = (r, w') ∧ r.code = failureCode error := by
          rcases error with _ | e
          · exact ⟨_, rfl, rfl⟩
          · cases e <;> exact ⟨_, rfl, rfl⟩
        obtain ⟨r, hr, hcode⟩ := hfailed
        refine ⟨r, hr, ?_⟩
        rw [hcode, Ne, failureCode_eq_zero]
      · intro resp w' hcode
        unfold Delegate.afterCreate
        dsimp only
        rw [if_pos hcode]
        exact ⟨_, rfl, hcode⟩
      · intro resp w' hcode hgateway hfates
        have hfate : w'.fates 0 = w.fates 1 := by rw [hfates]; rfl
        rw [← hfate]
        unfold Delegate.afterCreate
        dsimp only
        rw [if_neg (not_not.2 hcode), Program.eval_bind]
        exact afterBattleBind_spec w.game.battleIdSeed (max w.game.randomSeedCounter 1) resp hgateway rfl

end

/-! ### Duels -/

namespace Delegate

/-- The loop of `start_duel_battle` once the gateway has answered for a session. -/
def bindRest (battleId battleInstanceId sessionId : UInt32) (rest : List UInt32) :
    RpcResult BindServiceResp → Program gameOps (Except String Unit)
  | .error e => pure (.error ("bind battle service failed: " ++ showRpcError e))
  | .ok none => pure (.error "invalid bind service response")
  | .ok (some resp) =>
      if resp.code ≠ 0 then pure (.error ("bind battle service rejected: code=" ++ toString resp.code))
      else do
        bindBattleSession sessionId battleId battleInstanceId
        bindAll battleId battleInstanceId rest

theorem bindAll_cons (battleId battleInstanceId sessionId : UInt32) (rest : List UInt32) :
    bindAll battleId battleInstanceId (sessionId :: rest) = (do
      let resp ← GameOp.perform (.request (.bindService (battleBind sessionId battleInstanceId)))
      bindRest battleId battleInstanceId sessionId rest resp) := by
  refine congrArg₂ Program.bind rfl (funext fun resp => ?_)
  rcases resp with e | _ | resp
  · rfl
  · rfl
  · rfl

theorem bindRest_failed (G : Mugen Ω) (outside : (r : Request) → r.Answer) (battleId battleInstanceId sessionId : UInt32)
    (rest : List UInt32) (error : Option RpcError) (w : World Ω) : ∃ message,
      (bindRest battleId battleInstanceId sessionId rest (failed error)).eval (World.exec G outside) w =
        (.error message, w) := by
  rcases error with _ | e
  · exact ⟨_, rfl⟩
  · exact ⟨_, rfl⟩

end Delegate

section

variable {G : Mugen Ω} {outside : (r : Request) → r.Answer} {w : World Ω} {d : Delegate}

/-- The gateway's part of a duel: all are bound exactly if every request is answered and there is the instance. -/
theorem bindAll_spec (battleId instanceId : UInt32) (sessions : List UInt32) {w' : World Ω}
    (hregistry : w'.gateway.registry = w.gateway.registry) {out : Except String Unit × World Ω}
    (hout : out = (Delegate.bindAll battleId instanceId sessions).eval (World.exec G outside) w') :
    (out.1 = .ok () ↔ (∀ n < sessions.length, ∃ chosen, w'.fates n = .answered chosen) ∧
        ∀ s ∈ sessions, ∃ i, w.selected (battleBind s instanceId) = .ok i) ∧
      out.2.battles = w'.battles ∧ out.2.game.battleIdSeed = w'.game.battleIdSeed := by
  induction sessions generalizing w' with
  | nil =>
      rw [hout]
      exact ⟨iff_of_true rfl ⟨nofun, nofun⟩, rfl, rfl⟩
  | cons sessionId rest ih =>
      have hselected := selected_congr (show w'.rest.gateway.registry = w.gateway.registry from hregistry)
        (battleBind sessionId instanceId)
      have hunanswered : (∀ chosen, w'.fates 0 ≠ .answered chosen) →
          ¬ ((∀ n < (sessionId :: rest).length, ∃ chosen, w'.fates n = .answered chosen) ∧
            ∀ s ∈ sessionId :: rest, ∃ i, w.selected (battleBind s instanceId) = .ok i) := by
        rintro hnot ⟨hanswered, -⟩
        obtain ⟨chosen, h⟩ := hanswered 0 (Nat.succ_pos _)
        exact hnot chosen h
      rw [Delegate.bindAll_cons, Program.eval_bind] at hout
      change out = Program.eval _ (Delegate.bindRest _ _ _ _
        (w'.ask fun w _ => w.bindService (battleBind sessionId instanceId)).1)
          (w'.ask fun w _ => w.bindService (battleBind sessionId instanceId)).2 at hout
      rcases hfate : w'.fates 0 with error | ⟨chosen, error⟩ | chosen
      · obtain ⟨message, hfailed⟩ := Delegate.bindRest_failed G outside battleId instanceId sessionId rest error w'.rest
        rw [ask_dropped hfate, hfailed] at hout
        rw [hout]
        exact ⟨iff_of_false nofun (hunanswered (by rw [hfate]; nofun)), rfl, rfl⟩
      · obtain ⟨gateway, hframe, -⟩ := bindService_frame w'.rest (battleBind sessionId instanceId)
        obtain ⟨message, hfailed⟩ := Delegate.bindRest_failed G outside battleId instanceId sessionId rest error
          { w'.rest with gateway }
        rw [ask_unanswered hfate, hframe, hfailed] at hout
        rw [hout]
        exact ⟨iff_of_false nofun (hunanswered (by rw [hfate]; nofun)), rfl, rfl⟩
      · rcases hsel : w'.rest.selected (battleBind sessionId instanceId) with ⟨code, message⟩ | i
        · obtain ⟨hne, gateway, hbind, -⟩ := bindService_error hsel
          rw [ask_answered hfate (by rw [hbind])] at hout
          dsimp only at hout
          rw [hbind] at hout
          unfold Delegate.bindRest at hout
          dsimp only at hout
          rw [if_pos hne] at hout
          rw [hout]
          refine ⟨iff_of_false nofun ?_, rfl, rfl⟩
          rintro ⟨-, hall⟩
          obtain ⟨j, hj⟩ := hselected.2 (hall sessionId List.mem_cons_self)
          rw [hsel] at hj
          cases hj
        · obtain ⟨gateway, hbind, -, hregistry'⟩ := bindService_ok hsel
          rw [ask_answered hfate (by rw [hbind])] at hout
          dsimp only at hout
          rw [hbind] at hout
          unfold Delegate.bindRest at hout
          dsimp only at hout
          rw [if_neg (not_not.2 rfl), Program.eval_bind] at hout
          obtain ⟨game, hgame, hseed⟩ := bindBattleSession_eval G outside { w'.rest with gateway } sessionId battleId
            instanceId
          rw [hgame] at hout
          obtain ⟨hok, hbattles, hseed'⟩ := ih (hregistry'.trans hregistry) hout
          refine ⟨hok.trans ?_, hbattles, hseed'.trans hseed⟩
          have hhead : ∃ j, w.selected (battleBind sessionId instanceId) = .ok j := hselected.1 ⟨i, hsel⟩
          constructor
          · rintro ⟨hfates, hall⟩
            refine ⟨fun n hn => ?_, fun s hs => ?_⟩
            · cases n with
              | zero => exact ⟨chosen, hfate⟩
              | succ n => exact hfates n (Nat.lt_of_succ_lt_succ hn)
            · rcases List.mem_cons.1 hs with rfl | hs
              · exact hhead
              · exact hall s hs
          · rintro ⟨hfates, hall⟩
            exact ⟨fun n hn => hfates (n + 1) (Nat.succ_lt_succ hn), fun s hs => hall s (List.mem_cons_of_mem _ hs)⟩

/-- The character that a session fights with. -/
def fighter (w : World Ω) (d : Delegate) (sessionId : UInt32) : Option CharacterInfo :=
  if sessionId = d.sessionId then d.selectedCharacter else w.game.selectedCharacters.get sessionId

theorem characterForSession_some {sessionId : UInt32} {c : CharacterInfo} (h : fighter w d sessionId = some c) :
    (d.characterForSession sessionId).eval (World.exec G outside) w = (.ok c, w) := by
  unfold fighter at h
  unfold Delegate.characterForSession
  split_ifs at h ⊢
  · rw [h]
    rfl
  · rw [Program.eval_bind]
    generalize hget : (Program.eval (World.exec G outside) (GameOp.perform (.characterForSession sessionId)) w).1 = found
    change w.game.selectedCharacters.get sessionId = found at hget
    rw [h] at hget
    rw [← hget]
    rfl

variable (G outside) in
theorem characterForSession_none {sessionId : UInt32} (h : fighter w d sessionId = none) : ∃ message,
    (d.characterForSession sessionId).eval (World.exec G outside) w = (.error message, w) := by
  unfold fighter at h
  unfold Delegate.characterForSession
  split_ifs at h ⊢
  · rw [h]
    exact ⟨_, rfl⟩
  · rw [Program.eval_bind]
    generalize hget : (Program.eval (World.exec G outside) (GameOp.perform (.characterForSession sessionId)) w).1 = found
    change w.game.selectedCharacters.get sessionId = found at hget
    rw [h] at hget
    rw [← hget]
    exact ⟨_, rfl⟩

/-- `start_duel_battle`, run with those it asks. -/
def fought (G : Mugen Ω) (outside : (r : Request) → r.Answer) (w : World Ω) (d : Delegate) (pending : PendingDuel) :
    Except String Unit × World Ω :=
  (d.startDuelBattle pending).eval (World.exec G outside) w

/-- The request for the next duel. -/
def nextDuel (w : World Ω) (pending : PendingDuel) (challenger target : CharacterInfo) : BattleCreateReq :=
  Delegate.duelReq pending challenger target w.game.battleIdSeed (max w.game.randomSeedCounter 1)

theorem fought_eq {pending : PendingDuel} {challenger target : CharacterInfo}
    (hchallenger : fighter w d pending.challengerSession = some challenger)
    (htarget : fighter w d pending.targetSession = some target) : fought G outside w d pending =
      (d.fight pending w.game.battleIdSeed (max w.game.randomSeedCounter 1) ((numbered w).ask fun w' chosen =>
          w'.createBattle G (nextDuel w pending challenger target)
            (reached (.anyInstance serviceIdBattle) chosen)).1).eval (World.exec G outside)
        ((numbered w).ask fun w' chosen => w'.createBattle G (nextDuel w pending challenger target)
          (reached (.anyInstance serviceIdBattle) chosen)).2 := by
  unfold fought
  rw [Delegate.startDuelBattle_eq, Program.eval_bind, characterForSession_some hchallenger]
  dsimp only
  rw [Program.eval_bind, characterForSession_some htarget]
  dsimp only
  rw [Program.eval_bind, Program.eval_bind, Program.eval_bind]
  rfl

theorem fought_iff (G : Mugen Ω) (outside : (r : Request) → r.Answer) (w : World Ω) (d : Delegate)
    (pending : PendingDuel) :
    ((∃ message, (fought G outside w d pending).1 = .error message) →
        NoBattle w (fought G outside w d pending).2 [pending.challengerSession, pending.targetSession]) ↔
      ∀ challenger target, fighter w d pending.challengerSession = some challenger →
        fighter w d pending.targetSession = some target →
          Roomless G w (nextDuel w pending challenger target) ∨
            Fights G w [pending.challengerSession, pending.targetSession] (nextDuel w pending challenger target) := by
  have hearly : ∀ message, fought G outside w d pending = (.error message, w) →
      NoBattle w (fought G outside w d pending).2 [pending.challengerSession, pending.targetSession] := by
    intro message h
    rw [h]
    exact ⟨fun _ _ => rfl, fun _ _ _ => Iff.rfl, fun _ _ => rfl, fun h => absurd rfl h⟩
  rcases hchallenger : fighter w d pending.challengerSession with _ | challenger
  · obtain ⟨message, hnone⟩ := characterForSession_none G outside hchallenger
    refine iff_of_true (fun _ => hearly message ?_) (fun _ _ h => nomatch h)
    unfold fought
    rw [Delegate.startDuelBattle_eq, Program.eval_bind, hnone]
    rfl
  · rcases htarget : fighter w d pending.targetSession with _ | target
    · obtain ⟨message, hnone⟩ := characterForSession_none G outside htarget
      refine iff_of_true (fun _ => hearly message ?_) (fun _ _ _ h => nomatch h)
      unfold fought
      rw [Delegate.startDuelBattle_eq, Program.eval_bind, characterForSession_some hchallenger]
      dsimp only
      rw [Program.eval_bind, hnone]
      rfl
    · rw [noBattle_create (fun r : Except String Unit => ∃ message, r = .error message) (fun _ => False)
        (fun i => (∀ n < 2, ∃ other, w.fates (n + 1) = .answered other) ∧
          ∀ s ∈ [pending.challengerSession, pending.targetSession], ∃ j, w.selected (battleBind s i) = .ok j)
        (nextDuel w pending challenger target) [pending.challengerSession, pending.targetSession] rfl ?_ ?_ ?_
        (fought_eq hchallenger htarget)]
      · have hfights : (match w.fates 0 with
            | .dropped _ | .unanswered _ _ => False
            | .answered chosen => Accepted G (w.battles chosen) (nextDuel w pending challenger target) ∧
                (∀ n < 2, ∃ other, w.fates (n + 1) = .answered other) ∧
                ∀ s ∈ [pending.challengerSession, pending.targetSession],
                  ∃ j, w.selected (battleBind s (w.battles chosen).config.instanceId) = .ok j) ↔
            Fights G w [pending.challengerSession, pending.targetSession] (nextDuel w pending challenger target) := by
          unfold Fights
          rcases w.fates 0 with error | ⟨chosen, error⟩ | chosen
          · simp
          · simp
          · simp
        constructor
        · intro h _ _ hchallenger' htarget'
          cases hchallenger'
          cases htarget'
          exact h.imp_right hfights.1
        · intro h
          exact (h challenger target rfl rfl).imp_right hfights.2
      · intro error w'
        rcases error with _ | e
        · exact ⟨_, rfl, iff_of_true ⟨_, rfl⟩ not_false⟩
        · exact ⟨_, rfl, iff_of_true ⟨_, rfl⟩ not_false⟩
      · intro resp w' hcode
        unfold Delegate.fight
        dsimp only
        rw [if_pos hcode]
        exact ⟨_, rfl, _, rfl⟩
      · intro resp w' hcode hgateway hfates
        unfold Delegate.fight
        dsimp only
        rw [if_neg (not_not.2 hcode), Program.eval_bind]
        obtain ⟨out, hout⟩ : ∃ out, out = (Delegate.bindAll w.game.battleIdSeed resp.battleInstanceId
          [pending.challengerSession, pending.targetSession]).eval (World.exec G outside) w' := ⟨_, rfl⟩
        obtain ⟨hbound, hbattles, hseed⟩ := bindAll_spec w.game.battleIdSeed resp.battleInstanceId
          [pending.challengerSession, pending.targetSession]
          (show w'.gateway.registry = w.gateway.registry by rw [hgateway]) hout
        rw [← hout]
        rw [hfates] at hbound
        obtain ⟨r, w₂⟩ := out
        rcases r with message | _
        · refine ⟨iff_of_true ⟨message, rfl⟩ fun h => ?_, fun _ => ⟨hbattles, hseed⟩⟩
          cases hbound.2 h
        · dsimp only
          rw [Program.eval_bind, Program.eval_bind]
          refine ⟨iff_of_false (fun ⟨message, h⟩ => ?_) (not_not.2 (hbound.1 rfl)), fun ⟨message, h⟩ => ?_⟩
          · cases h
          · cases h

end

/-- When a failure leaves nothing behind. -/
theorem noBattle_iff (G : Mugen Ω) (outside : (r : Request) → r.Answer) (w : World Ω) (d : Delegate) :
    (∀ mapId, ((joined G outside w d mapId).1.code ≠ 0 → NoBattle w (joined G outside w d mapId).2 [d.sessionId]) ↔
      ∀ accountId character, d.accountId = some accountId → d.selectedCharacter = some character →
        Roomless G w (nextJoin w d accountId character mapId) ∨
          Joins G w d.sessionId (nextJoin w d accountId character mapId)) ∧
    ∀ pending, ((∃ message, (fought G outside w d pending).1 = .error message) →
        NoBattle w (fought G outside w d pending).2 [pending.challengerSession, pending.targetSession]) ↔
      ∀ challenger target, fighter w d pending.challengerSession = some challenger →
        fighter w d pending.targetSession = some target →
          Roomless G w (nextDuel w pending challenger target) ∨
            Fights G w [pending.challengerSession, pending.targetSession] (nextDuel w pending challenger target) :=
  ⟨joined_iff G outside w d, fought_iff G outside w d⟩

/-! ### Half a duel -/

namespace Duel

def character : CharacterInfo where
  characterId := 1
  name := ""
  classId := 1
  gender := 0
  level := 1
  exp := 0
  gold := 0

/-- Session 2 of account 11 accepts the challenge of session 1. -/
def delegate : Delegate := { sessionId := 2, accountId := some 11, selectedCharacter := some character }

def pending : PendingDuel where
  challengerSession := 1
  challengerPlayerId := 10
  targetSession := 2
  targetPlayerId := 11

/-- The gateway knows the battle server and binds session 1. It does not hear of session 2. -/
def world : World UInt32 where
  game := { selectedCharacters := (∅ : Table UInt32 CharacterInfo).insert 1 character }
  gateway := { Gateway.Shared.init [] with
    registry := ⟨(∅ : Table UInt32 Gateway.BackendConn).insert 5
      { serviceId := 1, instanceId := 1, sessionId := 5, tx := 5, load := {}, latencyMs := none },
      (∅ : Table (UInt8 × UInt32) UInt32).insert (1, 1) 5⟩ }
  internalSession := 6
  tx := 6
  identity := (0, 1)
  towns := fun _ => {}
  battles := fun _ => .init {}
  fates := fun n => if n = 2 then .dropped (some .timeout) else .answered 1

end Duel

/-- The duel has failed, and its first player is in a battle. -/
theorem fighter_left :
    (∃ message, (fought Mugen.counting hospitable Duel.world Duel.delegate Duel.pending).1 = .error message) ∧
      Duel.world.game.battleSessions.get 1 = none ∧
      (fought Mugen.counting hospitable Duel.world Duel.delegate Duel.pending).2.game.battleSessions.get 1 =
        some { battleId := 1, battleInstanceId := 1 } ∧
      ¬ NoBattle Duel.world (fought Mugen.counting hospitable Duel.world Duel.delegate Duel.pending).2 [1, 2] := by
  have hafter : (fought Mugen.counting hospitable Duel.world Duel.delegate Duel.pending).2.game.battleSessions.get 1 =
      some { battleId := 1, battleInstanceId := 1 } := by
    decide
  refine ⟨⟨_, rfl⟩, by decide, hafter, fun h => ?_⟩
  have hsession := h.session 1 (by decide)
  rw [hafter] at hsession
  cases hsession

end AxmolFighter.Game
