import AxmolFighter.Game.Handlers
import AxmolFighter.Gateway.Delegates
import AxmolFighter.Gateway.Selection
import Mathlib.Logic.Function.Basic

/-!
# The game server and those it asks

A handler of the game server changes the state of three other processes with its requests: the gateway
binds sessions, a town seats players and a battle server opens rooms. Here they run with it. A request is
executed when it is made, if it is executed at all; whether it is, and whether its answer comes back, is
given from outside, for every request anew.
-/

namespace AxmolFighter.Game

open Backend GameState
open Battle (BattleCreateReq BattleCreateResp BattleServer Mugen)
open Town (TownEnterSceneReq TownEnterSceneResp TownLeaveSceneReq TownLeaveSceneResp)
open Gateway (GatewayM InternalDelegate)
open Gateway.BindManager (start select)

/-- An answer that is none; `none` is a message of another type. -/
def failed {α : Type} : Option RpcError → RpcResult α
  | none => .ok none
  | some e => .error e

/-- The code of the answer to a client when a request has failed. -/
def failureCode : Option RpcError → Int32
  | some (.gateway code _) => code.toInt32
  | _ => -1

/-- A refusal with the code of a success. -/
def Silent (error : Option RpcError) : Prop := ∃ message, error = some (.gateway 0 message)

theorem toInt32_eq_zero {code : UInt32} : code.toInt32 = 0 ↔ code = 0 := by
  constructor
  · intro h
    have h' := congrArg Int32.toUInt32 h
    rw [UInt32.toUInt32_toInt32] at h'
    exact h'
  · rintro rfl
    rfl

theorem failureCode_eq_zero {error : Option RpcError} : failureCode error = 0 ↔ Silent error := by
  rcases error with _ | e
  · simp [failureCode, Silent]
  · cases e with
    | gateway code message =>
        show code.toInt32 = 0 ↔ _
        rw [toInt32_eq_zero]
        simp [Silent]
    | send _ | cancelled | timeout | decode _ _ => simp [failureCode, Silent]

/-- What becomes of a request. It is refused by the gateway or gets lost; or it is executed, by the instance
`chosen` if it was for any, and its answer gets lost or arrives. -/
inductive Fate
  | dropped (error : Option RpcError)
  | unanswered (chosen : UInt32) (error : Option RpcError)
  | answered (chosen : UInt32)

/-- The instance that a request reaches. -/
def reached (target : ServerSource) (chosen : UInt32) : UInt32 :=
  if target.instanceId ≥ 0 then target.instanceId.toUInt32 else chosen

/-- The game server is a registered backend of the gateway; `fates` are those of its next requests. -/
structure World (Ω : Type) where
  game : GameState
  gateway : Gateway.Shared
  internalSession : UInt32
  tx : Gateway.Tx
  identity : UInt8 × UInt32
  towns : UInt32 → Town.SceneManager
  battles : UInt32 → BattleServer Ω
  fates : Nat → Fate

/-- The control message that a handler of the gateway answers a request with. -/
def controlReply (calls : List (Gateway.Shared × Gateway.signature.Call)) : Option Message :=
  calls.findSome? fun c => match c.2.op with
    | .send _ (.toBackend (.control message serial _)) => if serial > 0 then some message else none
    | _ => none

namespace World

variable {Ω : Type} (G : Mugen Ω) (outside : (r : Request) → r.Answer) (w : World Ω)

/-- The gateway's delegate for the game server. -/
def delegate : InternalDelegate where
  sessionId := w.internalSession
  tx := some w.tx
  registered := some w.identity

/-- The gateway handles a control message of the game server. -/
def control (p : GatewayM Unit) : Option Message × World Ω :=
  (controlReply (p.record Gateway.Shared.exec w.gateway),
    { w with gateway := (p.eval Gateway.Shared.exec w.gateway).2 })

/-- The request's serial is negative, and nothing here depends on its value. -/
def bindService (req : BindServiceReq) : Option BindServiceResp × World Ω :=
  let (reply, w) := w.control (w.delegate.handleBindServiceReq (-1)
    { sessionId := req.sessionId, serviceId := req.serviceId, targetInstanceId := req.targetInstanceId })
  match reply with
  | some (.bindServiceResp resp) => (some { code := resp.code, message := resp.message }, w)
  | _ => (none, w)

def unbindService (req : UnbindServiceReq) : Option UnbindServiceResp × World Ω :=
  let (reply, w) := w.control (w.delegate.handleUnbindServiceReq (-1)
    { sessionId := req.sessionId, serviceId := req.serviceId })
  match reply with
  | some (.unbindServiceResp resp) => (some { code := resp.code, message := resp.message }, w)
  | _ => (none, w)

/-- A town that panics does not answer. -/
def enterTown (req : TownEnterSceneReq) (instanceId : UInt32) : Option TownEnterSceneResp × World Ω :=
  match (w.towns instanceId).enterScene instanceId req with
  | some (town, result) => (some result.response, { w with towns := Function.update w.towns instanceId town })
  | none => (none, w)

def leaveTown (req : TownLeaveSceneReq) (instanceId : UInt32) : Option TownLeaveSceneResp × World Ω :=
  let (town, result) := (w.towns instanceId).leaveScene req
  (some result.response, { w with towns := Function.update w.towns instanceId town })

/-- A forwarded request carries no session, and the battle server reads in it what the game server wrote. -/
def createBattle (req : BattleCreateReq) (instanceId : UInt32) : Option BattleCreateResp × World Ω :=
  let (server, resp, _) := (w.battles instanceId).onBattleCreate G
    { battleCreateReq := fun _ => some req, battleInputPush := fun _ => none }
    { cmd := backendCmdBusiness, msgId := BattleCreateReq.id, serial := -1, sessionId := 0, payload := [] }
  (some resp, { w with battles := Function.update w.battles instanceId server })

/-- After a request. -/
def rest : World Ω := { w with fates := fun n => w.fates (n + 1) }

/-- The next request, executed by `execute` or not. -/
def ask {α : Type} (execute : World Ω → UInt32 → Option α × World Ω) : RpcResult α × World Ω :=
  match w.fates 0 with
  | .dropped error => (failed error, w.rest)
  | .unanswered chosen error => (failed error, (execute w.rest chosen).2)
  | .answered chosen =>
      let (resp, w) := execute w.rest chosen
      (match resp with
        | some resp => .ok (some resp)
        | none => .error .timeout, w)

def serve : (r : Request) → r.Answer × World Ω
  | .battleCreate target req => w.ask fun w chosen => w.createBattle G req (reached target chosen)
  | .townEnterScene target req => w.ask fun w chosen => w.enterTown req (reached target chosen)
  | .townLeaveScene target req => w.ask fun w chosen => w.leaveTown req (reached target chosen)
  | .bindService req => w.ask fun w _ => w.bindService req
  | .unbindService req => w.ask fun w _ => w.unbindService req
  | r => (outside r, w)

/-- An operation of the game server, which runs alone with those it asks. -/
def exec (w : World Ω) : (op : GameOp) → op.Answer × World Ω
  | .request r => w.serve G outside r
  | op => (w.game.answer outside op, { w with game := w.game.after op })

/-! ### The fates of a request -/

section

variable {w} {α : Type} {execute : World Ω → UInt32 → Option α × World Ω} {error : Option RpcError} {chosen : UInt32}

theorem ask_dropped (h : w.fates 0 = .dropped error) : w.ask execute = (failed error, w.rest) := by
  rw [ask, h]

theorem ask_unanswered (h : w.fates 0 = .unanswered chosen error) :
    w.ask execute = (failed error, (execute w.rest chosen).2) := by
  rw [ask, h]

theorem ask_answered {resp : α} (h : w.fates 0 = .answered chosen) (hresp : (execute w.rest chosen).1 = some resp) :
    w.ask execute = (.ok (some resp), (execute w.rest chosen).2) := by
  rw [ask, h]
  dsimp only
  rw [hresp]

end

/-! ### Binding -/

/-- The instance that the gateway would bind to, or why there is none. -/
def selected (req : BindServiceReq) : Except (UInt32 × String) UInt32 :=
  ((select {
    sessionId := req.sessionId
    serviceId := req.serviceId
    targetInstanceId := req.targetInstanceId }).eval Gateway.Shared.exec w.gateway).1

variable {w}

theorem eval_select (gateway : Gateway.Shared) (req : AxmolFighter.BindServiceReq) :
    ((select req).eval Gateway.Shared.exec gateway).2 = gateway := by
  unfold select
  split_ifs <;> rfl

theorem record_select (gateway : Gateway.Shared) (req : AxmolFighter.BindServiceReq) {α : Type}
    (f : Except (UInt32 × String) UInt32 → GatewayM α) :
    controlReply ((select req >>= f).record Gateway.Shared.exec gateway) =
      controlReply ((f ((select req).eval Gateway.Shared.exec gateway).1).record Gateway.Shared.exec gateway) := by
  unfold select
  split_ifs <;> rfl

theorem eval_status (gateway : Gateway.Shared) (sessionId : UInt32) (serviceId : UInt8) (instanceId : UInt32)
    (online : Bool) : ((InternalDelegate.sendServiceStatusToSession sessionId serviceId instanceId online).eval
        Gateway.Shared.exec gateway).2.router = gateway.router ∧
      ((InternalDelegate.sendServiceStatusToSession sessionId serviceId instanceId online).eval
        Gateway.Shared.exec gateway).2.registry = gateway.registry := by
  unfold InternalDelegate.sendServiceStatusToSession
  show ((if gateway.sessions.isAuthenticated sessionId = true then _ else _ : GatewayM Unit).eval
    Gateway.Shared.exec gateway).2.router = _ ∧ ((if gateway.sessions.isAuthenticated sessionId = true then _
      else _ : GatewayM Unit).eval Gateway.Shared.exec gateway).2.registry = _
  split_ifs <;> exact ⟨rfl, rfl⟩

/-- The handler of a registered connection: what it selects, and what it does about it. -/
theorem handleBindServiceReq_eq (req : AxmolFighter.BindServiceReq) :
    w.delegate.handleBindServiceReq (-1) req = (do
      match ← select req with
      | .ok instanceId =>
          Gateway.perform (.bindService req.sessionId req.serviceId.toUInt8 instanceId)
          Gateway.BindManager.sendBindResult w.tx (-1) req instanceId 0 ""
          InternalDelegate.sendServiceStatusToSession req.sessionId req.serviceId.toUInt8 instanceId true
      | .error (code, message) => Gateway.BindManager.sendBindResult w.tx (-1) req 0 code message) := by
  show (start w.tx (-1) req >>= _) = _
  unfold start
  rw [Program.bind_assoc]
  refine congrArg (select req >>= ·) (funext fun selected => ?_)
  rcases selected with ⟨code, message⟩ | instanceId <;> rfl

theorem bindService_ok {req : BindServiceReq} {instanceId : UInt32} (h : w.selected req = .ok instanceId) :
    ∃ gateway, w.bindService req = (some { code := 0, message := "" }, { w with gateway }) ∧
      gateway.router = w.gateway.router.bindService req.sessionId req.serviceId.toUInt8 instanceId ∧
      gateway.registry = w.gateway.registry := by
  unfold selected at h
  unfold bindService control
  rw [handleBindServiceReq_eq, record_select, h, Program.eval_bind, h, eval_select]
  exact ⟨_, rfl, eval_status _ _ _ _ _⟩

theorem select_error {gateway : Gateway.Shared} {req : AxmolFighter.BindServiceReq} {code : UInt32}
    {message : String} (h : ((select req).eval Gateway.Shared.exec gateway).1 = .error (code, message)) : code ≠ 0 := by
  unfold select at h
  split_ifs at h
  · rw [Program.eval_bind] at h
    generalize (Program.eval Gateway.Shared.exec (Gateway.perform _) gateway).1 = found at h
    change (if found.isSome then Except.ok _ else _) = _ at h
    split_ifs at h
    cases h
    decide
  · rw [Program.eval_bind] at h
    generalize (Program.eval Gateway.Shared.exec (Gateway.perform _) gateway).1 = candidate at h
    rcases candidate with _ | candidate
    · cases h
      decide
    · cases h

theorem bindService_error {req : BindServiceReq} {code : UInt32} {message : String}
    (h : w.selected req = .error (code, message)) : code ≠ 0 ∧
      ∃ gateway, w.bindService req = (some { code, message }, { w with gateway }) ∧
        gateway.router = w.gateway.router ∧ gateway.registry = w.gateway.registry := by
  refine ⟨select_error h, ?_⟩
  unfold selected at h
  unfold bindService control
  rw [handleBindServiceReq_eq, record_select, h, Program.eval_bind, h, eval_select]
  exact ⟨_, rfl, rfl, rfl⟩

theorem bindService_frame (w : World Ω) (req : BindServiceReq) :
    ∃ gateway, (w.bindService req).2 = { w with gateway } ∧ gateway.registry = w.gateway.registry := by
  rcases hselected : w.selected req with ⟨code, message⟩ | instanceId
  · obtain ⟨-, gateway, hbind, -, hregistry⟩ := bindService_error hselected
    exact ⟨gateway, by rw [hbind], hregistry⟩
  · obtain ⟨gateway, hbind, -, hregistry⟩ := bindService_ok hselected
    exact ⟨gateway, by rw [hbind], hregistry⟩

theorem select_ok_iff {gateway : Gateway.Shared} {req : AxmolFighter.BindServiceReq} :
    (∃ instanceId, ((select req).eval Gateway.Shared.exec gateway).1 = .ok instanceId) ↔
      if req.targetInstanceId ≥ 0 then
        (gateway.registry.findByInstance req.serviceId.toUInt8 req.targetInstanceId.toUInt32).isSome = true
      else gateway.registry.selectLowestLoadInstance req.serviceId.toUInt8 gateway.router.bindingCount ≠ none := by
  unfold select
  split_ifs
  · rw [Program.eval_bind]
    show (∃ i, (if (gateway.registry.findByInstance _ _).isSome = true then Except.ok _ else _) = Except.ok i) ↔ _
    split_ifs with hfound
    · simp [hfound]
    · simp [hfound]
  · rw [Program.eval_bind]
    generalize hcandidate : (Program.eval Gateway.Shared.exec (Gateway.perform _) gateway).1 = candidate
    change gateway.registry.selectLowestLoadInstance _ _ = candidate at hcandidate
    rw [hcandidate]
    rcases candidate with _ | candidate
    · exact iff_of_false (fun ⟨_, h⟩ => nomatch h) fun h => h rfl
    · exact iff_of_true ⟨_, rfl⟩ nofun

theorem selected_congr {w₁ : World Ω} (hregistry : w₁.gateway.registry = w.gateway.registry) (req : BindServiceReq) :
    (∃ instanceId, w₁.selected req = .ok instanceId) ↔ ∃ instanceId, w.selected req = .ok instanceId := by
  unfold selected
  rw [select_ok_iff, select_ok_iff, hregistry]
  split_ifs
  · exact Iff.rfl
  · rw [Ne, Ne, Gateway.ServerRegistry.selectLowestLoadInstance_eq_none,
      Gateway.ServerRegistry.selectLowestLoadInstance_eq_none]

end World

end AxmolFighter.Game
