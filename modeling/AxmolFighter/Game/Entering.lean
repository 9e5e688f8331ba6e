import AxmolFighter.Game.Departure
import AxmolFighter.Game.Peers
import AxmolFighter.Town.Housing

/-!
# Entering a town, or not

`handle_enter_scene` asks the town first and the gateway then, and takes back what the town has done if the
gateway does not bind the session. It takes it back by a leave request, which knows of no scene that the player
was in before, and not at all if the town's answer does not come. So what a failure leaves behind depends on
where the player was, and on which of the requests were executed.
-/

namespace AxmolFighter.Game

open Backend GameState
open Battle (Mugen)
open Town (TownEnterSceneReq TownLeaveSceneReq SceneKey SceneManager)
open World

variable {Ω : Type}

/-- What is known of a session's player in a town is what was known before. -/
structure SameTown (w w' : World Ω) (sessionId : UInt32) (playerId : Int64) : Prop where
  session : w'.game.townSessions.get sessionId = w.game.townSessions.get sessionId
  binding : w'.gateway.router.boundInstance sessionId serviceIdTown.toUInt8 =
    w.gateway.router.boundInstance sessionId serviceIdTown.toUInt8
  scene : ∀ i, (w'.towns i).playerScenes.get playerId = (w.towns i).playerScenes.get playerId

/-- The town that the request goes to: the session's, or any. -/
def townTarget : Option UInt32 → ServerSource
  | some instanceId => ⟨serviceIdTown, instanceId.toInt32⟩
  | none => .anyInstance serviceIdTown

/-- The request names no scene, or the one that the player is in. -/
def Stays (town : SceneManager) (req : TownEnterSceneReq) : Prop :=
  ∀ key, SceneKey.fromParts req.type req.mapId req.ownerUid = .ok key →
    town.playerScenes.get req.playerId = some (town.ensureScene key).2

/-- The leave request undoes what the enter request did in town `i`: it is executed there, and the player was
in no scene; or it is not, and the player has stayed where it was. -/
def Undone (w : World Ω) (i : UInt32) (req : TownEnterSceneReq) : Fate → Prop
  | .dropped _ => Stays (w.towns i) req
  | .unanswered chosen _ | .answered chosen =>
      if reached ⟨serviceIdTown, i.toInt32⟩ chosen = i then (w.towns i).playerScenes.get req.playerId = none
      else Stays (w.towns i) req ∧
        ((w.towns (reached ⟨serviceIdTown, i.toInt32⟩ chosen)).sessionPlayers.get req.sessionId =
            some req.playerId →
          (w.towns (reached ⟨serviceIdTown, i.toInt32⟩ chosen)).playerScenes.get req.playerId = none)

def townBind (sessionId instanceId : UInt32) : BindServiceReq where
  sessionId
  serviceId := serviceIdTown
  targetInstanceId := instanceId.toInt32

/-- The gateway binds the session to no town, or to the one that it is bound to. -/
def BindStays (w : World Ω) (req : BindServiceReq) : Prop :=
  ∀ j, w.selected req = .ok j →
    w.gateway.router.boundInstance req.sessionId req.serviceId.toUInt8 = some j

/-- The bind request, once the player is in town `i`, and the leave request, whose fate is `undoing`, leave
nothing behind, or are successful. -/
def Reverted (w : World Ω) (i : UInt32) (req : TownEnterSceneReq) (undoing : Fate) : Fate → Prop
  | .dropped error => Silent error ∨ Undone w i req undoing
  | .unanswered _ error => Silent error ∨ (BindStays w (townBind req.sessionId i) ∧ Undone w i req undoing)
  | .answered _ => (∃ j, w.selected (townBind req.sessionId i) = .ok j) ∨ Undone w i req undoing

/-- The same of all three requests. -/
def Restored (w : World Ω) (target : ServerSource) (req : TownEnterSceneReq) : Prop :=
  match w.fates 0 with
  | .dropped _ => True
  | .unanswered chosen error => Silent error ∨ Stays (w.towns (reached target chosen)) req
  | .answered chosen => (∃ message, SceneKey.fromParts req.type req.mapId req.ownerUid = .error message) ∨
      Reverted w (reached target chosen) req (w.fates 2) (w.fates 1)

/-! ### What the requests do -/

theorem enterTown_error {w : World Ω} {req : TownEnterSceneReq} {message : String}
    (h : SceneKey.fromParts req.type req.mapId req.ownerUid = .error message) (i : UInt32) :
    w.enterTown req i = (some (SceneManager.invalidTarget i message).response, w) := by
  unfold enterTown
  rw [SceneManager.enterScene_invalid h]
  simp only [Function.update_eq_self]

theorem enterTown_ok {w : World Ω} {req : TownEnterSceneReq} {key : SceneKey} {i : UInt32}
    (htown : (w.towns i).Housed) (hlt : (w.towns i).nextSceneId.toNat < 2 ^ 64 - 1)
    (h : SceneKey.fromParts req.type req.mapId req.ownerUid = .ok key) :
    ∃ resp town, w.enterTown req i = (some resp, { w with towns := Function.update w.towns i town }) ∧
      resp.code = 0 ∧ resp.townInstanceId = i ∧
      town.playerScenes.get req.playerId = some ((w.towns i).ensureScene key).2 ∧
      town.sessionPlayers.get req.sessionId = some req.playerId := by
  obtain ⟨town, r, henter, -, hcode, hinstance, hscene, hsession⟩ := htown.enterScene hlt h i
  refine ⟨r.response, town, ?_, hcode, hinstance, hscene, hsession⟩
  unfold enterTown
  rw [henter]

theorem stays_iff {town : SceneManager} {req : TownEnterSceneReq} {key : SceneKey}
    (h : SceneKey.fromParts req.type req.mapId req.ownerUid = .ok key) :
    Stays town req ↔ town.playerScenes.get req.playerId = some (town.ensureScene key).2 := by
  constructor
  · intro hstays
    exact hstays key h
  · intro hscene key' hkey'
    rw [h] at hkey'
    cases hkey'
    exact hscene

theorem forall_towns_iff {w : World Ω} {i : UInt32} {town : SceneManager} {playerId : Int64} :
    (∀ k, (Function.update w.towns i town k).playerScenes.get playerId = (w.towns k).playerScenes.get playerId) ↔
      town.playerScenes.get playerId = (w.towns i).playerScenes.get playerId := by
  constructor
  · intro h
    have hi := h i
    rwa [Function.update_self] at hi
  · intro h k
    by_cases hk : k = i
    · rw [hk, Function.update_self]
      exact h
    · rw [Function.update_of_ne hk]

/-- What the rollback's request does. -/
def undo (w : World Ω) (i : UInt32) (req : TownLeaveSceneReq) : World Ω :=
  (w.ask fun w chosen => w.leaveTown req (reached ⟨serviceIdTown, i.toInt32⟩ chosen)).2

theorem undo_frame (w : World Ω) (i : UInt32) (req : TownLeaveSceneReq) :
    (undo w i req).game = w.game ∧ (undo w i req).gateway = w.gateway := by
  unfold undo ask
  rcases w.fates 0 with error | ⟨chosen, error⟩ | chosen
  · exact ⟨rfl, rfl⟩
  · exact ⟨rfl, rfl⟩
  · exact ⟨rfl, rfl⟩

theorem undo_towns (w : World Ω) (i : UInt32) (req : TownLeaveSceneReq) : (undo w i req).towns =
    match w.fates 0 with
    | .dropped _ => w.towns
    | .unanswered chosen _ | .answered chosen =>
        Function.update w.towns (reached ⟨serviceIdTown, i.toInt32⟩ chosen)
          ((w.towns (reached ⟨serviceIdTown, i.toInt32⟩ chosen)).leaveScene req).1 := by
  unfold undo ask
  rcases w.fates 0 with error | ⟨chosen, error⟩ | chosen <;> rfl

theorem undone_iff {w w₁ : World Ω} {i : UInt32} {req : TownEnterSceneReq} {key : SceneKey} {town : SceneManager}
    (hkey : SceneKey.fromParts req.type req.mapId req.ownerUid = .ok key)
    (htowns : w₁.towns = Function.update w.towns i town)
    (hscene : town.playerScenes.get req.playerId = some ((w.towns i).ensureScene key).2)
    (hsession : town.sessionPlayers.get req.sessionId = some req.playerId) :
    (∀ k, ((undo w₁ i { sessionId := req.sessionId, playerId := req.playerId }).towns k).playerScenes.get
        req.playerId = (w.towns k).playerScenes.get req.playerId) ↔ Undone w i req (w₁.fates 0) := by
  have hexecuted : ∀ chosen, (∀ k, ((Function.update w₁.towns (reached ⟨serviceIdTown, i.toInt32⟩ chosen)
      ((w₁.towns (reached ⟨serviceIdTown, i.toInt32⟩ chosen)).leaveScene
        { sessionId := req.sessionId, playerId := req.playerId }).1) k).playerScenes.get req.playerId =
          (w.towns k).playerScenes.get req.playerId) ↔ Undone w i req (.answered chosen) := by
    intro chosen
    unfold Undone
    dsimp only
    generalize reached ⟨serviceIdTown, i.toInt32⟩ chosen = j
    have hleave := SceneManager.leaveScene_playerScenes (w₁.towns j)
      { sessionId := req.sessionId, playerId := req.playerId }
    dsimp only at hleave
    rw [htowns] at hleave ⊢
    split_ifs with hj
    · subst hj
      rw [Function.update_self, if_pos hsession] at hleave
      rw [Function.update_idem, Function.update_self, forall_towns_iff, hleave]
      exact eq_comm
    · rw [Function.update_of_ne hj] at hleave ⊢
      constructor
      · intro h
        have hi := h i
        have hj' := h j
        rw [Function.update_of_ne (Ne.symm hj), Function.update_self] at hi
        rw [Function.update_self, hleave] at hj'
        refine ⟨(stays_iff hkey).2 (hi.symm.trans hscene), fun hheld => ?_⟩
        rw [if_pos hheld] at hj'
        exact hj'.symm
      · rintro ⟨hstays, hheld⟩ k
        by_cases hkj : k = j
        · rw [hkj, Function.update_self, hleave]
          split_ifs with hsession'
          · exact (hheld hsession').symm
          · rfl
        · rw [Function.update_of_ne hkj]
          by_cases hki : k = i
          · rw [hki, Function.update_self, hscene]
            exact ((stays_iff hkey).1 hstays).symm
          · rw [Function.update_of_ne hki]
  rw [undo_towns]
  rcases w₁.fates 0 with error | ⟨chosen, error⟩ | chosen
  · unfold Undone
    rw [htowns, forall_towns_iff, hscene, stays_iff hkey]
    exact eq_comm
  · exact hexecuted chosen
  · exact hexecuted chosen

/-! ### The handler -/

namespace Delegate

variable (d : Delegate) (accountId : Int64)

/-- The handler once the gateway has answered. -/
def afterBind (resp : Town.TownEnterSceneResp) : RpcResult BindServiceResp → Program gameOps EnterSceneResp
  | .ok none => do
      d.rollbackTownEnter resp.townInstanceId accountId
      pure { code := -1, message := "invalid bind service response" }
  | .error (.gateway code message) => do
      d.rollbackTownEnter resp.townInstanceId accountId
      pure { code := code.toInt32, message := messageOr message "town server unavailable" }
  | .error _ => do
      d.rollbackTownEnter resp.townInstanceId accountId
      pure { code := -1, message := "town server unavailable" }
  | .ok (some bind) =>
      if bind.code ≠ 0 then do
        d.rollbackTownEnter resp.townInstanceId accountId
        pure { code := bind.code.toInt32, message := messageOr bind.message "town server unavailable" }
      else do
        bindTownSession d.sessionId resp.townInstanceId
        pure { code := 0, message := "", scene := resp.scene, players := resp.players }

/-- The handler once the town has answered. -/
def afterTown : RpcResult Town.TownEnterSceneResp → Program gameOps EnterSceneResp
  | .ok none => pure { code := -1, message := "invalid town response" }
  | .error (.gateway code message) =>
      pure { code := code.toInt32, message := messageOr message "town server unavailable" }
  | .error _ => pure { code := -1, message := "town server unavailable" }
  | .ok (some resp) =>
      if resp.code ≠ 0 then pure { code := resp.code, message := resp.message }
      else do
        let bind ← GameOp.perform (.request (.bindService (townBind d.sessionId resp.townInstanceId)))
        d.afterBind accountId resp bind

variable {d accountId}

theorem handleEnterScene_eq (haccount : d.accountId = some accountId) (req : EnterSceneReq) :
    d.handleEnterScene req = (do
      let current ← GameOp.perform (.townInstanceForSession d.sessionId)
      let resp ← GameOp.perform (.request (.townEnterScene (townTarget current) (req.toTown d accountId)))
      d.afterTown accountId resp) := by
  unfold handleEnterScene
  rw [haccount]
  refine congrArg (GameOp.perform (.townInstanceForSession d.sessionId) >>= ·) (funext fun current => ?_)
  rcases current with _ | instanceId
  all_goals
    refine congrArg₂ Program.bind rfl (funext fun resp => ?_)
    rcases resp with e | _ | resp
    · cases e <;> rfl
    · rfl
    · unfold afterTown
      dsimp only
      split_ifs
      · rfl
      · refine congrArg₂ Program.bind rfl (funext fun bind => ?_)
        rcases bind with e | _ | bind
        · cases e <;> rfl
        · rfl
        · rfl

end Delegate

/-- The handler, run with those it asks. -/
def entered (G : Mugen Ω) (outside : (r : Request) → r.Answer) (w : World Ω) (d : Delegate) (req : EnterSceneReq) :
    EnterSceneResp × World Ω :=
  (d.handleEnterScene req).eval (World.exec G outside) w

section

variable {G : Mugen Ω} {outside : (r : Request) → r.Answer} {w : World Ω} {d : Delegate} {accountId : Int64}
  {req : EnterSceneReq}

theorem entered_eq (haccount : d.accountId = some accountId) : entered G outside w d req =
    (d.afterTown accountId (w.ask fun w' chosen => w'.enterTown (req.toTown d accountId)
        (reached (townTarget (w.game.townSessions.get d.sessionId)) chosen)).1).eval (World.exec G outside)
      (w.ask fun w' chosen => w'.enterTown (req.toTown d accountId)
        (reached (townTarget (w.game.townSessions.get d.sessionId)) chosen)).2 := by
  unfold entered
  rw [Delegate.handleEnterScene_eq haccount, Program.eval_bind, Program.eval_bind]
  rfl

variable (G outside d accountId) in
theorem afterTown_failed (error : Option RpcError) (w : World Ω) :
    ∃ resp, (d.afterTown accountId (failed error)).eval (World.exec G outside) w = (resp, w) ∧
      resp.code = failureCode error := by
  rcases error with _ | e
  · exact ⟨_, rfl, rfl⟩
  · cases e <;> exact ⟨_, rfl, rfl⟩

variable (G outside d accountId) in
theorem afterBind_failed (town : Town.TownEnterSceneResp) (error : Option RpcError) (w : World Ω) :
    ∃ resp, (d.afterBind accountId town (failed error)).eval (World.exec G outside) w =
        (resp, undo w town.townInstanceId { sessionId := d.sessionId, playerId := accountId }) ∧
      resp.code = failureCode error := by
  rcases error with _ | e
  · exact ⟨_, rfl, rfl⟩
  · cases e <;> exact ⟨_, rfl, rfl⟩

theorem afterTown_ok {town : Town.TownEnterSceneResp} (hcode : town.code = 0) (w : World Ω) :
    (d.afterTown accountId (.ok (some town))).eval (World.exec G outside) w =
      (d.afterBind accountId town
          (w.ask fun w' _ => w'.bindService (townBind d.sessionId town.townInstanceId)).1).eval (World.exec G outside)
        (w.ask fun w' _ => w'.bindService (townBind d.sessionId town.townInstanceId)).2 := by
  unfold Delegate.afterTown
  dsimp only
  rw [if_neg (not_not.2 hcode), Program.eval_bind]
  rfl

theorem afterBind_ok (town : Town.TownEnterSceneResp) {bind : BindServiceResp} (w : World Ω) (hcode : bind.code = 0) :
    ((d.afterBind accountId town (.ok (some bind))).eval (World.exec G outside) w).1.code = 0 := by
  unfold Delegate.afterBind
  dsimp only
  rw [if_neg (not_not.2 hcode), Program.eval_bind]
  rfl

variable (G outside d accountId) in
theorem afterBind_rejected (town : Town.TownEnterSceneResp) {bind : BindServiceResp} (w : World Ω)
    (hcode : bind.code ≠ 0) :
    ∃ resp, (d.afterBind accountId town (.ok (some bind))).eval (World.exec G outside) w =
        (resp, undo w town.townInstanceId { sessionId := d.sessionId, playerId := accountId }) ∧
      resp.code ≠ 0 := by
  unfold Delegate.afterBind
  dsimp only
  rw [if_pos hcode]
  exact ⟨_, rfl, fun h => hcode (toInt32_eq_zero.1 h)⟩

/-- A town that calls have brought about, with scene ids left. -/
def Open (town : SceneManager) : Prop :=
  ∃ trace, Run Town.SceneStep {} trace town ∧ town.nextSceneId.toNat < 2 ^ 64 - 1

theorem sameTown_enter {w : World Ω} {treq : TownEnterSceneReq} (hopen : ∀ i, Open (w.towns i)) (i : UInt32) :
    SameTown w (w.rest.enterTown treq i).2 treq.sessionId treq.playerId ↔ Stays (w.towns i) treq := by
  rcases hkey : SceneKey.fromParts treq.type treq.mapId treq.ownerUid with message | key
  · rw [enterTown_error hkey]
    constructor
    · intro _ key hkey'
      rw [hkey] at hkey'
      cases hkey'
    · intro _
      exact ⟨rfl, rfl, fun _ => rfl⟩
  · obtain ⟨trace, hrun, hlt⟩ := hopen i
    obtain ⟨resp, town, henter, -, -, hscene, -⟩ :=
      enterTown_ok (w := w.rest) (i := i) (SceneManager.housed_of_run hrun hlt) hlt hkey
    rw [henter, stays_iff hkey]
    constructor
    · intro h
      exact (forall_towns_iff.1 h.scene).symm.trans hscene
    · intro h
      exact ⟨rfl, rfl, forall_towns_iff.2 (hscene.trans h.symm)⟩

theorem sameTown_undo {w w₁ : World Ω} {i : UInt32} {treq : TownEnterSceneReq} {key : SceneKey} {town : SceneManager}
    (hkey : SceneKey.fromParts treq.type treq.mapId treq.ownerUid = .ok key)
    (hgame : w₁.game = w.game) (htowns : w₁.towns = Function.update w.towns i town)
    (hscene : town.playerScenes.get treq.playerId = some ((w.towns i).ensureScene key).2)
    (hsession : town.sessionPlayers.get treq.sessionId = some treq.playerId) :
    SameTown w (undo w₁ i { sessionId := treq.sessionId, playerId := treq.playerId }) treq.sessionId treq.playerId ↔
      w₁.gateway.router.boundInstance treq.sessionId serviceIdTown.toUInt8 =
          w.gateway.router.boundInstance treq.sessionId serviceIdTown.toUInt8 ∧
        Undone w i treq (w₁.fates 0) := by
  obtain ⟨hgame', hgateway⟩ := undo_frame w₁ i { sessionId := treq.sessionId, playerId := treq.playerId }
  rw [← undone_iff hkey htowns hscene hsession, ← hgateway]
  constructor
  · intro h
    exact ⟨h.binding, h.scene⟩
  · rintro ⟨hbinding, htown⟩
    exact ⟨by rw [hgame', hgame], hbinding, htown⟩

theorem bindStays_iff {w : World Ω} (w₁ : World Ω) (req : BindServiceReq) (hgateway : w₁.gateway = w.gateway) :
    (w₁.bindService req).2.gateway.router.boundInstance req.sessionId req.serviceId.toUInt8 =
        w.gateway.router.boundInstance req.sessionId req.serviceId.toUInt8 ↔ BindStays w req := by
  have hselected : w₁.selected req = w.selected req := by
    unfold selected
    rw [hgateway]
  unfold BindStays
  rcases hsel : w.selected req with ⟨code, message⟩ | j
  · obtain ⟨-, gateway, hbind, hrouter, -⟩ := bindService_error (hselected.trans hsel)
    rw [hbind]
    dsimp only
    rw [hrouter, hgateway]
    exact iff_of_true rfl (fun j hj => nomatch hj)
  · obtain ⟨gateway, hbind, hrouter, -⟩ := bindService_ok (hselected.trans hsel)
    have hbound : gateway.router.boundInstance req.sessionId req.serviceId.toUInt8 = some j := by
      rw [hrouter]
      exact Table.get_insert_self ..
    rw [hbind]
    dsimp only
    rw [hbound]
    constructor
    · intro h j' hj'
      cases hj'
      exact h.symm
    · intro h
      exact (h j rfl).symm

/-- What a failure leaves behind once the town has let the player in. -/
theorem sameTown_bind {w w₁ : World Ω} {treq : TownEnterSceneReq} {key : SceneKey} {town : SceneManager}
    {resp : Town.TownEnterSceneResp} (hsessionId : treq.sessionId = d.sessionId) (hplayerId : treq.playerId = accountId)
    (hkey : SceneKey.fromParts treq.type treq.mapId treq.ownerUid = .ok key)
    (hgame : w₁.game = w.game) (hgateway : w₁.gateway = w.gateway)
    (htowns : w₁.towns = Function.update w.towns resp.townInstanceId town)
    (hscene : town.playerScenes.get treq.playerId = some ((w.towns resp.townInstanceId).ensureScene key).2)
    (hsession : town.sessionPlayers.get treq.sessionId = some treq.playerId) {after : EnterSceneResp × World Ω}
    (hafter : after = (d.afterBind accountId resp
        (w₁.ask fun w' _ => w'.bindService (townBind d.sessionId resp.townInstanceId)).1).eval (World.exec G outside)
      (w₁.ask fun w' _ => w'.bindService (townBind d.sessionId resp.townInstanceId)).2) :
    (after.1.code ≠ 0 → SameTown w after.2 d.sessionId accountId) ↔
      Reverted w resp.townInstanceId treq (w₁.fates 1) (w₁.fates 0) := by
  obtain rfl := hplayerId
  rw [← hsessionId] at hafter ⊢
  have hundo : ∀ w₂ : World Ω, w₂.game = w₁.game → w₂.towns = w₁.towns →
      (SameTown w (undo w₂ resp.townInstanceId { sessionId := treq.sessionId, playerId := treq.playerId })
          treq.sessionId treq.playerId ↔
        w₂.gateway.router.boundInstance treq.sessionId serviceIdTown.toUInt8 =
            w.gateway.router.boundInstance treq.sessionId serviceIdTown.toUInt8 ∧
          Undone w resp.townInstanceId treq (w₂.fates 0)) := fun w₂ hgame₂ htowns₂ =>
    sameTown_undo hkey (hgame₂.trans hgame) (htowns₂.trans htowns) hscene hsession
  rcases hfate : w₁.fates 0 with error | ⟨chosen, error⟩ | chosen
  · obtain ⟨resp', hresp', hcode⟩ := afterBind_failed G outside d treq.playerId resp error w₁.rest
    rw [ask_dropped hfate, hresp', ← hsessionId] at hafter
    rw [hafter]
    show (resp'.code ≠ 0 → SameTown w _ _ _) ↔ Silent error ∨ _
    rw [hundo w₁.rest rfl rfl, hcode, ← failureCode_eq_zero, show w₁.rest.gateway = w.gateway from hgateway, and_iff_right rfl]
    exact or_iff_not_imp_left.symm
  · obtain ⟨resp', hresp', hcode⟩ := afterBind_failed G outside d treq.playerId resp error (w₁.rest.bindService (townBind treq.sessionId resp.townInstanceId)).2
    rw [ask_unanswered hfate, hresp', ← hsessionId] at hafter
    rw [hafter]
    show (resp'.code ≠ 0 → SameTown w _ _ _) ↔ Silent error ∨ _
    obtain ⟨gateway, hframe, -⟩ := bindService_frame w₁.rest (townBind treq.sessionId resp.townInstanceId)
    have hbind := bindStays_iff (w := w) w₁.rest (townBind treq.sessionId resp.townInstanceId) hgateway
    rw [hframe] at hbind ⊢
    dsimp only
    rw [hundo { w₁.rest with gateway } rfl rfl, hcode, ← failureCode_eq_zero]
    exact (imp_congr Iff.rfl (and_congr hbind Iff.rfl)).trans or_iff_not_imp_left.symm
  · have hsel : w₁.rest.selected (townBind treq.sessionId resp.townInstanceId) =
        w.selected (townBind treq.sessionId resp.townInstanceId) := by
      unfold selected
      rw [show w₁.rest.gateway = w.gateway from hgateway]
    rcases hselected : w.selected (townBind treq.sessionId resp.townInstanceId) with ⟨code, message⟩ | j
    · obtain ⟨hne, gateway, hbind, hrouter, -⟩ := bindService_error (hsel.trans hselected)
      rw [ask_answered hfate (by rw [hbind])] at hafter
      dsimp only at hafter
      rw [hbind] at hafter
      obtain ⟨resp', hresp', hcode⟩ := afterBind_rejected G outside d treq.playerId resp
        { w₁.rest with gateway } (show ({ code, message } : BindServiceResp).code ≠ 0 from hne)
      rw [hresp', ← hsessionId] at hafter
      rw [hafter]
      show (resp'.code ≠ 0 → SameTown w _ _ _) ↔ (∃ j, _) ∨ _
      have hkept : gateway.router.boundInstance treq.sessionId serviceIdTown.toUInt8 =
          w.gateway.router.boundInstance treq.sessionId serviceIdTown.toUInt8 := by
        rw [hrouter, show w₁.rest.gateway = w.gateway from hgateway]
      have hnone : ¬ ∃ j, w.selected (townBind treq.sessionId resp.townInstanceId) = .ok j := by
        rintro ⟨j, hj⟩
        rw [hselected] at hj
        cases hj
      refine (imp_iff_right hcode).trans ((hundo { w₁.rest with gateway } rfl rfl).trans ?_)
      exact (and_iff_right hkept).trans (or_iff_right hnone).symm
    · obtain ⟨gateway, hbind, -⟩ := bindService_ok (hsel.trans hselected)
      rw [ask_answered hfate (by rw [hbind])] at hafter
      have hcode : after.1.code = 0 := by
        rw [hafter]
        exact afterBind_ok resp _ rfl
      exact iff_of_true (fun h => absurd hcode h) (.inl ⟨j, hselected⟩)

/-- The town's entry and the binding of the session are as they were, and so is the player's scene, exactly when
the failure has left nothing behind. -/
theorem sameTown_iff (G : Mugen Ω) (outside : (r : Request) → r.Answer) (w : World Ω) (d : Delegate)
    (accountId : Int64) (req : EnterSceneReq) (haccount : d.accountId = some accountId)
    (hopen : ∀ i, Open (w.towns i)) :
    ((entered G outside w d req).1.code ≠ 0 →
        SameTown w (entered G outside w d req).2 d.sessionId accountId) ↔
      Restored w (townTarget (w.game.townSessions.get d.sessionId)) (req.toTown d accountId) := by
  rw [entered_eq haccount]
  generalize townTarget (w.game.townSessions.get d.sessionId) = target
  unfold Restored
  rcases hfate : w.fates 0 with error | ⟨chosen, error⟩ | chosen
  · rw [ask_dropped hfate]
    obtain ⟨resp, hresp, -⟩ := afterTown_failed G outside d accountId error w.rest
    rw [hresp]
    exact iff_of_true (fun _ => ⟨rfl, rfl, fun _ => rfl⟩) trivial
  · rw [ask_unanswered hfate]
    dsimp only
    obtain ⟨resp, hresp, hcode⟩ := afterTown_failed G outside d accountId error (w.rest.enterTown (req.toTown d accountId) (reached target chosen)).2
    rw [hresp, hcode, ← failureCode_eq_zero, ← sameTown_enter hopen]
    exact or_iff_not_imp_left.symm
  · dsimp only
    rcases hkey : SceneKey.fromParts (req.toTown d accountId).type (req.toTown d accountId).mapId
        (req.toTown d accountId).ownerUid with message | key
    · have henter := enterTown_error (w := w.rest) hkey (reached target chosen)
      rw [ask_answered hfate (by rw [henter])]
      dsimp only
      rw [henter]
      exact iff_of_true (fun _ => ⟨rfl, rfl, fun _ => rfl⟩) (.inl ⟨message, rfl⟩)
    · obtain ⟨trace, hrun, hlt⟩ := hopen (reached target chosen)
      obtain ⟨resp, town, henter, hcode, hinstance, hscene, hsession⟩ := enterTown_ok (w := w.rest)
        (i := reached target chosen) (SceneManager.housed_of_run hrun hlt) hlt hkey
      rw [ask_answered hfate (by rw [henter])]
      dsimp only
      rw [henter, afterTown_ok hcode]
      have hscene' : town.playerScenes.get (req.toTown d accountId).playerId =
          some ((w.towns resp.townInstanceId).ensureScene key).2 := by
        rw [hinstance]
        exact hscene
      rw [← hinstance]
      dsimp only
      refine (sameTown_bind rfl rfl hkey ?_ ?_ ?_ hscene' hsession rfl).trans (or_iff_right ?_).symm
      · rfl
      · rfl
      · rfl
      · rintro ⟨message, hmessage⟩
        cases hmessage

end

/-! ### Two failures -/

namespace Visit

/-- Session 1, which owns account 10, asks for a map. -/
def delegate : Delegate := { sessionId := 1, accountId := some 10 }

def map (mapId : UInt32) : EnterSceneReq where
  type := Town.sceneEnterMap
  mapId
  ownerUid := 0
  state := none

/-- Everything is executed by town 7, which the gateway does not know any more when it should bind. -/
def outside : World UInt32 where
  game := { accountSessions := (∅ : Table Int64 UInt32).insert 10 1 }
  gateway := .init []
  internalSession := 1
  tx := 0
  identity := (0, 1)
  towns := fun _ => {}
  battles := fun _ => .init {}
  fates := fun _ => .answered 7

/-- Town 7 when the player is in map 1. -/
def town : SceneManager :=
  ((({} : SceneManager).exec (.enterScene 7 ((map 1).toTown delegate 10))).map Prod.fst).getD {}

/-- The player is in map 1 of town 7, and the next bind request gets lost. -/
def inTown : World UInt32 :=
  { outside with
    game := oneInTown
    gateway := { Gateway.Shared.init [] with
      router := { rules := [], bindings := (∅ : Table (UInt32 × UInt8) UInt32).insert (1, 2) 7 } }
    towns := fun i => if i = 7 then town else {}
    fates := fun n => if n = 1 then .dropped (some .timeout) else .answered 7 }

theorem open_empty : Open {} := ⟨[], .start, by decide⟩

theorem open_town : Open town :=
  ⟨_, Run.start.next (a := .enterScene 7 ((map 1).toTown delegate 10)) ⟨_, rfl⟩, by decide⟩

end Visit

/-- The bind request is rejected, and the player who was in no town is in none again. -/
theorem sameTown_iff_rejected :
    (entered Mugen.counting hospitable Visit.outside Visit.delegate (Visit.map 1)).1.code ≠ 0 ∧
      SameTown Visit.outside (entered Mugen.counting hospitable Visit.outside Visit.delegate (Visit.map 1)).2 1 10 := by
  have hcode : (entered Mugen.counting hospitable Visit.outside Visit.delegate (Visit.map 1)).1.code ≠ 0 := by
    decide
  refine ⟨hcode, (sameTown_iff Mugen.counting hospitable Visit.outside Visit.delegate 10 (Visit.map 1) rfl
    fun _ => Visit.open_empty).2 ?_ hcode⟩
  exact .inr (.inr rfl)

/-- The player was in map 1, asks for map 2, and is nowhere when the bind request got no answer. -/
theorem scene_lost :
    (∀ i, Open (Visit.inTown.towns i)) ∧ Visit.delegate.accountId = some 10 ∧
      (entered Mugen.counting hospitable Visit.inTown Visit.delegate (Visit.map 2)).1.code ≠ 0 ∧
      (Visit.inTown.towns 7).playerScenes.get 10 = some 1 ∧
      (((entered Mugen.counting hospitable Visit.inTown Visit.delegate (Visit.map 2)).2.towns 7).playerScenes.get
        10 = none) ∧
      ¬ SameTown Visit.inTown (entered Mugen.counting hospitable Visit.inTown Visit.delegate (Visit.map 2)).2 1 10 := by
  have hbefore : (Visit.inTown.towns 7).playerScenes.get 10 = some 1 := by decide
  have hafter : ((entered Mugen.counting hospitable Visit.inTown Visit.delegate (Visit.map 2)).2.towns
      7).playerScenes.get 10 = none := by
    decide
  refine ⟨?_, rfl, by decide, hbefore, hafter, fun h => ?_⟩
  · intro i
    show Open (if i = 7 then Visit.town else {})
    split_ifs
    · exact Visit.open_town
    · exact Visit.open_empty
  · have hscene := h.scene 7
    rw [hbefore, hafter] at hscene
    cases hscene

end AxmolFighter.Game
