import AxmolFighter.Game.Sessions

/-!
# Two ways out of town

A session that goes to battle leaves its town by `leave_town_scene`, and `leave_town_for_session` takes the
opponent of a duel out of town. Run from the same maps and with the same answers, the two are compared by
what the caller gets, what is asked of others and what is left of the maps of towns.
-/

namespace AxmolFighter.Game

open GameState Backend

/-- Executes every operation, with answers that are given. -/
def GameState.answering (answers : (op : GameOp) → op.Answer) (g : GameState) (op : GameOp) :
    op.Answer × GameState := (answers op, g.after op)

def GameOp.asks : GameOp → Option Request
  | .request r => some r
  | _ => none

/-- What a departure comes to. -/
structure Departure where
  left : Bool
  requests : List Request
  townSessions : Table UInt32 UInt32
  townInstanceSessions : Table UInt32 (Finset UInt32)

/-- With a request before it, if there is one. -/
def Departure.asking (x : Departure) (r : Option Request) : Departure :=
  { x with requests := r.toList ++ x.requests }

def departure (answers : (op : GameOp) → op.Answer) (p : Program gameOps Bool) (g : GameState) : Departure where
  left := (p.eval (answering answers) g).1
  requests := (p.record (answering answers) g).filterMap fun c => c.2.op.asks
  townSessions := (p.eval (answering answers) g).2.townSessions
  townInstanceSessions := (p.eval (answering answers) g).2.townInstanceSessions

/-- The request to the town that both send. -/
def leaveRequest (sessionId townInstanceId : UInt32) (playerId : Int64) : Request :=
  .townLeaveScene ⟨serviceIdTown, townInstanceId.toInt32⟩ { sessionId, playerId }

/-- The town let the player go. -/
def released : RpcResult Town.TownLeaveSceneResp → Bool
  | .ok (some resp) => resp.code = 0
  | _ => false

section

variable {answers : (op : GameOp) → op.Answer} {g : GameState} {d : Delegate} {townInstanceId : UInt32}

theorem found_account {accountId : Int64} {sessionId : UInt32}
    (howns : g.accountSessions.get accountId = some sessionId)
    {answer : Option Int64} (h : g.Returns (.accountOfSession sessionId) answer) :
    ∃ playerId, answer = some playerId ∧ g.accountSessions.get playerId = some sessionId := by
  cases h with
  | inOrder =>
      show ∃ playerId, (g.accountSessions.toList.find? fun e => e.2 = sessionId).map Prod.fst = some playerId ∧ _
      rcases hfind : g.accountSessions.toList.find? fun e => e.2 = sessionId with _ | ⟨playerId, owner⟩
      · have hmem := (g.accountSessions.mem_toList _ _).2 howns
        have hnone := List.find?_eq_none.1 hfind _ hmem
        simp at hnone
      · have hmem := (g.accountSessions.mem_toList _ _).1 (List.mem_of_find?_eq_some hfind)
        have howner : owner = sessionId := by simpa using List.find?_some hfind
        subst howner
        rw [hfind]
        exact ⟨playerId, rfl, hmem⟩
  | accountOfSession h => exact ⟨_, rfl, h⟩

theorem departure_call {op : GameOp} {next : op.Answer → Program gameOps Bool} {answer : op.Answer}
    (h : answers op = answer) : departure answers (.call op next) g =
      (departure answers (next answer) (g.after op)).asking op.asks := by
  subst h
  unfold departure Departure.asking
  simp only [Program.eval, Program.record, answering]
  rcases hasks : op.asks with _ | r
  · simp [hasks]
  · simp [hasks]

/-- What becomes of a session that another one takes out of town: the town is asked, and no more. -/
theorem departure_leaveTownForSession {sessionId : UInt32} {playerId : Int64}
    {answer : RpcResult Town.TownLeaveSceneResp}
    (htown : answers (.townInstanceForSession sessionId) = some townInstanceId)
    (hfound : answers (.accountOfSession sessionId) = some playerId)
    (hanswer : answers (.request (leaveRequest sessionId townInstanceId playerId)) = answer) :
    departure answers (leaveTownForSession sessionId) g = {
      left := released answer
      requests := [leaveRequest sessionId townInstanceId playerId]
      townSessions := g.townSessions
      townInstanceSessions := g.townInstanceSessions } := by
  refine (departure_call htown).trans ?_
  refine (congrArg (Departure.asking · none) (departure_call hfound)).trans ?_
  refine (congrArg (fun x => (Departure.asking x none).asking none) (departure_call hanswer)).trans ?_
  rcases answer with _ | _ | resp <;> rfl

def unbindRequest (sessionId : UInt32) : Request :=
  .unbindService { sessionId, serviceId := serviceIdTown }

/-- A session that the town lets go by its own request is unbound, and has no town any more. -/
theorem departure_leaveTownScene {playerId : Int64} {answer : RpcResult Town.TownLeaveSceneResp}
    (haccount : d.accountId = some playerId)
    (htown : answers (.townInstanceForSession d.sessionId) = some townInstanceId)
    (hremoved : answers (.removeTown d.sessionId) = some townInstanceId)
    (hanswer : answers (.request (leaveRequest d.sessionId townInstanceId playerId)) = answer) :
    departure answers d.leaveTownScene g =
      if released answer then {
        left := match answers (.request (unbindRequest d.sessionId)) with
          | .ok (some resp) => resp.code = 0
          | _ => false
        requests := [leaveRequest d.sessionId townInstanceId playerId, unbindRequest d.sessionId]
        townSessions := g.townSessions.remove d.sessionId
        townInstanceSessions := dropFromInstance g.townInstanceSessions townInstanceId d.sessionId }
      else {
        left := false
        requests := [leaveRequest d.sessionId townInstanceId playerId]
        townSessions := g.townSessions
        townInstanceSessions := g.townInstanceSessions } := by
  unfold Delegate.leaveTownScene
  rw [haccount]
  refine (departure_call htown).trans ?_
  refine (congrArg (Departure.asking · none) (departure_call hanswer)).trans ?_
  rcases answer with _ | _ | resp
  · rfl
  · rfl
  · show ((departure answers (if resp.code ≠ 0 then _ else _) _).asking _).asking none =
      if decide (resp.code = 0) = true then _ else _
    by_cases hcode : resp.code = 0
    · rw [if_neg (not_not.2 hcode), if_pos (decide_eq_true hcode)]
      generalize hunbind : answers (.request (unbindRequest d.sessionId)) = unbind
      refine (congrArg (fun x => (Departure.asking x _).asking none) (departure_call hunbind)).trans ?_
      refine (congrArg (fun x => ((Departure.asking x _).asking _).asking none)
        (departure_call hremoved)).trans ?_
      rcases unbind with _ | _ | resp <;> rfl
    · rw [if_pos hcode, if_neg (by simpa using hcode)]
      rfl

/-- The two ways out of town differ exactly if the town lets the player go, or the account that is found
for the session is not the one that it is logged in with. -/
theorem departure_eq_iff (g : GameState) (d : Delegate) (answers : (op : GameOp) → op.Answer)
    (accountId : Int64) (townInstanceId : UInt32)
    (howns : g.accountSessions.get accountId = some d.sessionId)
    (htown : g.townSessions.get d.sessionId = some townInstanceId)
    (hanswers : ∀ op, g.Returns op (answers op)) :
    departure answers (leaveTownForSession d.sessionId) g = departure answers d.leaveTownScene g ↔
      ∃ playerId, d.accountId = some playerId ∧ answers (.accountOfSession d.sessionId) = some playerId ∧
        released (answers (.request (leaveRequest d.sessionId townInstanceId playerId))) = false := by
  have htown' : answers (.townInstanceForSession d.sessionId) = some townInstanceId := by
    have h := hanswers (.townInstanceForSession d.sessionId)
    generalize answers (.townInstanceForSession d.sessionId) = answer at h
    cases h
    exact htown
  have hremoved : answers (.removeTown d.sessionId) = some townInstanceId := by
    have h := hanswers (.removeTown d.sessionId)
    generalize answers (.removeTown d.sessionId) = answer at h
    cases h
    exact htown
  obtain ⟨playerId, hfound, -⟩ := found_account howns (hanswers (.accountOfSession d.sessionId))
  rw [departure_leaveTownForSession htown' hfound rfl]
  rcases haccount : d.accountId with _ | own
  · -- a delegate without an account asks nobody
    have hown : (departure answers d.leaveTownScene g).requests = [] := by
      unfold Delegate.leaveTownScene
      rw [haccount]
      rfl
    constructor
    · intro h
      rw [← h] at hown
      simp at hown
    · rintro ⟨_, h, -⟩
      cases h
  · rw [departure_leaveTownScene haccount htown' hremoved rfl]
    constructor
    · intro h
      split_ifs at h with hreleased
      · have hrequests := congrArg Departure.requests h
        simp at hrequests
      · have hrequests := congrArg Departure.requests h
        have hsame : playerId = own := by
          injection hrequests with hrequest
          injection hrequest with _ hreq
          injection hreq
        subst hsame
        exact ⟨playerId, rfl, hfound, by simpa using hreleased⟩
    · rintro ⟨_, ⟨⟩, hfound', hreleased⟩
      obtain rfl : playerId = own := Option.some.inj (hfound.symm.trans hfound')
      rw [if_neg (by simp [hreleased])]
      rw [hreleased]

/-- Session 1, which owns account 10, is in town 7. -/
def oneInTown : GameState where
  accountSessions := (∅ : Table Int64 UInt32).insert 10 1
  townSessions := (∅ : Table UInt32 UInt32).insert 1 7
  townInstanceSessions := (∅ : Table UInt32 (Finset UInt32)).insert 7 {1}

/-- If nobody answers, both leave everything as it is. -/
theorem departure_eq_iff_timeout :
    departure (oneInTown.answer lonely) (leaveTownForSession 1) oneInTown =
      departure (oneInTown.answer lonely)
        (Delegate.leaveTownScene { sessionId := 1, accountId := some 10 }) oneInTown :=
  (departure_eq_iff oneInTown { sessionId := 1, accountId := some 10 } (oneInTown.answer lonely) 10 7
    (by decide) (by decide) (.inOrder lonely)).2 ⟨10, rfl, by decide, rfl⟩

/-- If the town and the gateway accept, the opponent stays bound to the town and in its maps. -/
theorem departure_ne_hospitable :
    oneInTown.accountSessions.get 10 = some 1 ∧ oneInTown.townSessions.get 1 = some 7 ∧
      (∀ op, oneInTown.Returns op (oneInTown.answer hospitable op)) ∧
      departure (oneInTown.answer hospitable) (leaveTownForSession 1) oneInTown ≠
        departure (oneInTown.answer hospitable)
          (Delegate.leaveTownScene { sessionId := 1, accountId := some 10 }) oneInTown := by
  refine ⟨by decide, by decide, .inOrder hospitable, fun h => ?_⟩
  have hrequests := congrArg (fun x => x.requests.length) h
  revert hrequests
  decide

end

end AxmolFighter.Game
