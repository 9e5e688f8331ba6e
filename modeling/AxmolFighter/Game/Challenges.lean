import AxmolFighter.Game.Conduct
import AxmolFighter.Lib.Sections

/-!
# Between an invitation and its battle

`handle_duel_invite` checks that both players are in town and in no battle, and `handle_duel_respond`
starts the battle at any later time without another look. What happens in between is up to the handlers of
all sessions, which take turns where they await a request.
-/

namespace AxmolFighter.Game

open Battle (BattleCreateReq)
open GameState Program

/-- The sessions are still those of the players. -/
structure Owned (g : GameState) (q : PendingDuel) : Prop where
  challenger : g.accountSessions.get q.challengerPlayerId = some q.challengerSession
  target : g.accountSessions.get q.targetPlayerId = some q.targetSession

/-- The session is in town and in no battle. -/
structure Free (g : GameState) (sessionId : UInt32) : Prop where
  inTown : g.townSessions.contains sessionId = true
  notInBattle : g.battleSessions.contains sessionId = false

structure Eligible (g : GameState) (q : PendingDuel) : Prop where
  owned : Owned g q
  challenger : Free g q.challengerSession
  target : Free g q.targetSession

/-! ### What a section does to pending duels -/

/-- A duel that is still pending was pending, and the players' sessions are theirs if they were. -/
def Keeps (g g' : GameState) : Prop :=
  ∀ c q, g'.pendingDuels.get c = some q → g.pendingDuels.get c = some q ∧ (Owned g q → Owned g' q)

theorem Keeps.refl (g : GameState) : Keeps g g := fun _ _ h => ⟨h, id⟩

theorem Keeps.of_same {g g' : GameState} (haccounts : g'.accountSessions = g.accountSessions)
    (hpending : ∀ c q, g'.pendingDuels.get c = some q → g.pendingDuels.get c = some q) : Keeps g g' := by
  refine fun c q h => ⟨hpending c q h, fun howned => ?_⟩
  constructor
  · rw [haccounts]
    exact howned.challenger
  · rw [haccounts]
    exact howned.target

theorem Keeps.trans {g g₁ g' : GameState} (h : Keeps g g₁) (h' : Keeps g₁ g') : Keeps g g' := by
  intro c q hq
  obtain ⟨hq₁, howned'⟩ := h' c q hq
  obtain ⟨hq₀, howned⟩ := h c q hq₁
  exact ⟨hq₀, fun h => howned' (howned h)⟩

theorem after_plain (g : GameState) {op : GameOp} (h : op.plain = true) :
    (g.after op).accountSessions = g.accountSessions ∧
      ∀ c q, (g.after op).pendingDuels.get c = some q → g.pendingDuels.get c = some q := by
  cases op with
  | insertAccount | releaseAccount | clearAccounts | addPendingDuel => cases h
  | removePendingDuel y =>
      refine ⟨rfl, fun c q hq => ?_⟩
      change (g.pendingDuels.remove y).get c = some q at hq
      rw [Table.get_remove] at hq
      split_ifs at hq
      exact hq
  | removePendingDuelsForSession s =>
      refine ⟨rfl, fun c q hq => ?_⟩
      change (g.pendingDuels.retain _).get c = some q at hq
      rw [Table.get_retain, Option.filter_eq_some_iff] at hq
      exact hq.1
  | _ => exact ⟨rfl, fun c q hq => hq⟩

/-- What a section may do: keep the duels so, or empty all towns. -/
def Harmless (g g' : GameState) : Prop :=
  Keeps g g' ∨ g'.townSessions = ∅ ∧ ∀ c q, g'.pendingDuels.get c = some q → g.pendingDuels.get c = some q

theorem Harmless.refl (g : GameState) : Harmless g g := Or.inl (Keeps.refl g)

/-- All sections of the program are harmless. -/
abbrev Tame {α : Type} (p : Program gameOps α) : Prop :=
  Sectioned GameOp.awaits Does (fun g _ g' => Harmless g g') p

theorem Tame.map {α β : Type} {p : Program gameOps α} (h : Tame p) (f : α → β) :
    Tame (p >>= fun a => Program.ret (f a)) := Sectioned.map h fun _ _ _ hR => hR

theorem Tame.ret {α : Type} (a : α) : Tame (Program.ret (S := gameOps) a) := Sectioned.ret Harmless.refl

theorem Tame.request {α : Type} {r : Request} {next : r.Answer → Program gameOps α}
    (h : ∀ answer, Tame (next answer)) : Tame (Program.call (S := gameOps) (.request r) next) :=
  Sectioned.await rfl Harmless.refl h

theorem Plain.tame {α : Type} {p : Program gameOps α} (h : Plain p) : Tame p := by
  refine Sectioned.of_calls (K := Keeps) Keeps.refl ?_ (fun _ _ _ hK _ => Or.inl hK) h
  rintro g₀ g op answer _ hK hplain - ⟨-, rfl⟩ c q hq
  obtain ⟨haccounts, hpending⟩ := after_plain g hplain
  obtain ⟨hq₀, howned⟩ := hK c q (hpending c q hq)
  exact ⟨hq₀, fun h => (Keeps.of_same haccounts hpending c q hq).2 (howned h)⟩

/-! ### Sections that clear a session or bind an account -/

/-- The operation is not awaited, and leaves the accounts and the duels alone. -/
def GameOp.aside : GameOp → Bool
  | .insertAccount .. | .releaseAccount .. | .clearAccounts | .addPendingDuel _ | .removePendingDuel _
  | .removePendingDuelsForSession _ | .request _ => false
  | _ => true

theorem aside_runs {α : Type} {p : Program gameOps α} (hp : p.Calls fun op : GameOp => op.aside = true)
    {g g' : GameState} {a : α} (h : Runs Does p g a g') :
    g'.accountSessions = g.accountSessions ∧ g'.pendingDuels = g.pendingDuels := by
  refine h.keeps hp (fun g' => g'.accountSessions = g.accountSessions ∧ g'.pendingDuels = g.pendingDuels)
    ?_ ⟨rfl, rfl⟩
  rintro g₁ op answer _ ⟨haccounts, hpending⟩ haside ⟨-, rfl⟩
  rw [← haccounts, ← hpending]
  cases op <;> first | exact ⟨rfl, rfl⟩ | cases haside

namespace GameState

theorem clearBattleSession_aside (sessionId : UInt32) :
    (clearBattleSession sessionId).Calls fun op : GameOp => op.aside = true :=
  .call rfl fun _ => .whenSome fun _ => .perform rfl

theorem clearTownSession_aside (sessionId : UInt32) :
    (clearTownSession sessionId).Calls fun op : GameOp => op.aside = true :=
  .call rfl fun _ => .whenSome fun _ => .perform rfl

theorem clearSessionRuntimeState_runs {sessionId : UInt32} {g g' : GameState} {u : Unit}
    (h : Runs Does (clearSessionRuntimeState sessionId) g u g') :
    g'.accountSessions = g.accountSessions ∧ ∀ c q, g'.pendingDuels.get c = some q →
      g.pendingDuels.get c = some q ∧ q.challengerSession ≠ sessionId ∧ q.targetSession ≠ sessionId := by
  obtain ⟨_, g₁, hbattle, h⟩ := runs_bind.1 h
  obtain ⟨_, g₂, htown, h⟩ := runs_bind.1 h
  obtain ⟨_, g₃, ⟨-, rfl⟩, h⟩ := runs_call.1 h
  obtain ⟨-, rfl⟩ := runs_perform.1 h
  obtain ⟨haccounts₁, hpending₁⟩ := aside_runs (clearBattleSession_aside _) hbattle
  obtain ⟨haccounts₂, hpending₂⟩ := aside_runs (clearTownSession_aside _) htown
  refine ⟨haccounts₂.trans haccounts₁, fun c q hq => ?_⟩
  change (g₂.pendingDuels.retain _).get c = some q at hq
  rw [Table.get_retain, Option.filter_eq_some_iff, hpending₂, hpending₁] at hq
  exact ⟨hq.1, by simpa using hq.2⟩

theorem clearSessionRuntimeState_sync (sessionId : UInt32) :
    (clearSessionRuntimeState sessionId).Calls fun op : GameOp => op.awaits = false := by
  have hsync : ∀ op : GameOp, op.aside = true → op.awaits = false := by
    intro op h
    cases op <;> first | rfl | cases h
  refine ((clearBattleSession_aside _).mono hsync).bind fun _ => ?_
  exact ((clearTownSession_aside _).mono hsync).bind fun _ => .call rfl fun _ => .perform rfl

/-- The account is the session's, and whoever had it before has no pending duel. -/
theorem bindAccount_runs {sessionId : UInt32} {accountId : Int64} {g g' : GameState} {u : Unit}
    (h : Runs Does (bindAccount sessionId accountId) g u g') :
    g'.accountSessions = g.accountSessions.insert accountId sessionId ∧ ∀ c q,
      g'.pendingDuels.get c = some q → g.pendingDuels.get c = some q ∧
        ∀ old, g.accountSessions.get accountId = some old → old ≠ sessionId →
          q.challengerSession ≠ old ∧ q.targetSession ≠ old := by
  obtain ⟨old, g₁, ⟨hold, rfl⟩, h⟩ := runs_call.1 h
  obtain rfl : old = g.accountSessions.get accountId := by
    cases hold
    rfl
  change Runs Does (kickTarget sessionId accountId (g.accountSessions.get accountId) >>= _) _ _ _ at h
  obtain ⟨target, g₂, htarget, h⟩ := runs_bind.1 h
  -- whom the account is taken from is kicked, as the account is still the session's
  have hkick : g₂ = g.after (.insertAccount accountId sessionId) ∧
      ∀ old, g.accountSessions.get accountId = some old → old ≠ sessionId → target = some old := by
    rcases hget : g.accountSessions.get accountId with _ | old
    · rw [hget] at htarget
      obtain ⟨-, rfl⟩ := runs_ret.1 htarget
      exact ⟨rfl, nofun⟩
    · rw [hget] at htarget
      unfold kickTarget at htarget
      dsimp only at htarget
      split_ifs at htarget with hne
      · obtain ⟨owner, g₃, ⟨howner, rfl⟩, htarget⟩ := runs_call.1 htarget
        obtain ⟨rfl, rfl⟩ := runs_ret.1 htarget
        refine ⟨rfl, ?_⟩
        rintro _ ⟨⟩ -
        have howned : owner = some sessionId := by
          cases howner
          exact Table.get_insert_self g.accountSessions accountId sessionId
        exact if_pos howned
      · obtain ⟨-, rfl⟩ := runs_ret.1 htarget
        refine ⟨rfl, ?_⟩
        rintro _ ⟨⟩ hne'
        exact absurd hne' hne
  clear htarget
  obtain ⟨rfl, htarget⟩ := hkick
  rcases target with _ | target
  · obtain ⟨-, rfl⟩ := runs_ret.1 h
    refine ⟨rfl, fun c q hq => ⟨hq, fun old hget hne => ?_⟩⟩
    cases htarget old hget hne
  · obtain ⟨_, g₄, hclear, h⟩ := runs_bind.1 h
    obtain ⟨_, g₅, ⟨-, rfl⟩, hkick⟩ := runs_call.1 h
    obtain ⟨-, rfl⟩ := runs_perform.1 hkick
    obtain ⟨haccounts, hpending⟩ := clearSessionRuntimeState_runs hclear
    refine ⟨haccounts, fun c q hq => ?_⟩
    obtain ⟨hq, hcleared⟩ := hpending c q hq
    refine ⟨hq, fun old hget hne => ?_⟩
    rw [← Option.some.inj (htarget old hget hne)]
    exact hcleared

theorem bindAccount_sync (sessionId : UInt32) (accountId : Int64) :
    (bindAccount sessionId accountId).Calls fun op : GameOp => op.awaits = false := by
  refine .call rfl fun old => ?_
  show Calls _ (kickTarget sessionId accountId old >>= _)
  refine Program.Calls.bind ?_ fun target => .whenSome fun old => ?_
  · unfold kickTarget
    split
    · split_ifs
      · exact .call rfl fun _ => .ret _
      · exact .ret _
    · exact .ret _
  · exact (clearSessionRuntimeState_sync _).bind fun _ => .call rfl fun _ => .perform rfl

end GameState

theorem bindAccount_keeps {sessionId : UInt32} {accountId : Int64} {g g' : GameState} {u : Unit}
    (h : Runs Does (bindAccount sessionId accountId) g u g') : Keeps g g' := by
  obtain ⟨haccounts, hpending⟩ := bindAccount_runs h
  intro c q hq
  obtain ⟨hq₀, hold⟩ := hpending c q hq
  have hkept : ∀ player session, g.accountSessions.get player = some session →
      (∀ old, g.accountSessions.get accountId = some old → old ≠ sessionId → session ≠ old) →
        g'.accountSessions.get player = some session := by
    intro player session hget hother
    rw [haccounts, Table.get_insert]
    split_ifs with heq
    · subst heq
      by_contra hne
      exact hother session hget (fun h => hne (congrArg some h.symm)) rfl
    · exact hget
  exact ⟨hq₀, fun howned => ⟨hkept _ _ howned.challenger fun old hget hne => (hold old hget hne).1,
    hkept _ _ howned.target fun old hget hne => (hold old hget hne).2⟩⟩

theorem onStop_keeps {d : Delegate} {g g' : GameState} {u : Unit} (h : Runs Does d.onStop g u g') :
    Keeps g g' := by
  obtain ⟨_, g₁, hclear, h⟩ := runs_bind.1 h
  obtain ⟨haccounts, hpending⟩ := clearSessionRuntimeState_runs hclear
  rcases haccount : d.accountId with _ | accountId <;> rw [haccount] at h
  · obtain ⟨-, rfl⟩ := runs_ret.1 h
    exact Keeps.of_same haccounts fun c q hq => (hpending c q hq).1
  · obtain ⟨-, rfl⟩ := runs_perform.1 h
    intro c q hq
    obtain ⟨hq, hchallenger, htarget⟩ := hpending c q hq
    -- the account is given back only if it is the session's own
    have hkept : ∀ player session, g.accountSessions.get player = some session → session ≠ d.sessionId →
        (g₁.after (.releaseAccount accountId d.sessionId)).accountSessions.get player = some session := by
      intro player session hget hne
      show (if g₁.accountSessions.get accountId = some d.sessionId then _ else _ : Table Int64 UInt32).get player = _
      rw [haccounts]
      split_ifs with howner
      · rw [Table.get_remove, if_neg ?_]
        · exact hget
        · rintro rfl
          exact hne (Option.some.inj (hget.symm.trans howner))
      · exact hget
    exact ⟨hq, fun howned => ⟨hkept _ _ howned.challenger hchallenger, hkept _ _ howned.target htarget⟩⟩

/-! ### The handlers -/

namespace Delegate

variable (d : Delegate)

theorem handleLogin_tame (req : LoginReq) : Tame (d.handleLogin req) := by
  refine Tame.request fun answer => ?_
  rcases answer with _ | _ | row
  · exact .ret _
  · exact .ret _
  · show Tame (if _ then _ else _)
    split_ifs
    · refine Sectioned.bind (bindAccount_sync d.sessionId row.id) (fun g u g₁ q g' hbind hrest => ?_) fun _ => ?_
      · obtain ⟨-, rfl⟩ := (section_await rfl).1 hrest
        exact Or.inl (bindAccount_keeps hbind)
      · exact Tame.request fun _ => .ret _
    · exact .ret _

theorem onStop_tame : Tame (d.onStop >>= fun _ => Program.ret Actor.stopped) := by
  refine Sectioned.bind ?_ (fun g u g₁ q g' hstop hrest => ?_) fun _ => Tame.ret _
  · refine (clearSessionRuntimeState_sync _).bind fun _ => ?_
    rcases d.accountId with _ | accountId
    · exact .ret _
    · exact .perform rfl
  · obtain ⟨-, rfl⟩ := section_ret.1 hrest
    exact Or.inl (onStop_keeps hstop)

theorem onClientFrame_tame {frame : ClientFrame} (h : ∀ targetPlayerId, frame ≠ .duelInvite targetPlayerId) :
    Tame (d.onClientFrame frame) := by
  cases frame with
  | login req => exact (d.handleLogin_tame req).map Prod.fst
  | selectCharacter characterId =>
      exact (Plain.tame (d.handleSelectCharacter_within characterId).calls).map Prod.fst
  | progress req => exact (Plain.tame (d.handleProgress_within req).calls).map Prod.fst
  | battleJoin mapId => exact (d.handleBattleJoin_quiet mapId).plain.tame.map _
  | duelInvite targetPlayerId => exact absurd rfl (h targetPlayerId)
  | duelRespond accept => exact (d.handleDuelRespond_quiet accept).plain.tame.map _
  | enterScene req => exact (d.handleEnterScene_quiet req).plain.tame.map _
  | other => exact .ret _

end Delegate

theorem clearAllRuntimeState_tame :
    Tame (clearAllRuntimeState >>= fun _ => Program.ret Actor.readLoop) := by
  refine Sectioned.bind ?_ (fun g u g₁ q g' hclear hrest => ?_) fun _ => Tame.ret _
  · exact .call rfl fun _ => .call rfl fun _ => .call rfl fun _ => .call rfl fun _ => .perform rfl
  · obtain ⟨-, rfl⟩ := section_ret.1 hrest
    obtain ⟨_, _, ⟨-, rfl⟩, h₁⟩ := runs_call.1 hclear
    obtain ⟨_, _, ⟨-, rfl⟩, h₂⟩ := runs_call.1 h₁
    obtain ⟨_, _, ⟨-, rfl⟩, h₃⟩ := runs_call.1 h₂
    obtain ⟨_, _, ⟨-, rfl⟩, h₄⟩ := runs_call.1 h₃
    obtain ⟨-, rfl⟩ := runs_perform.1 h₄
    exact Or.inr ⟨rfl, fun c q hq => hq⟩

theorem handle_tame {l : Actor} {e : Input} {p : Program gameOps Actor} (hp : playing.handle l e = some p)
    (h : ∀ targetPlayerId, e ≠ .frame (.duelInvite targetPlayerId)) : Tame p := by
  cases l with
  | session d =>
      cases e with
      | frame frame =>
          cases hp
          exact (d.onClientFrame_tame fun t ht => h t (congrArg _ ht)).map _
      | stop =>
          cases hp
          exact d.onStop_tame
      | _ => cases hp
  | readLoop =>
      cases e with
      | serverOffline serviceId instanceId =>
          cases hp
          exact (onServerOffline_quiet _ _).plain.tame.map _
      | disconnected =>
          cases hp
          exact clearAllRuntimeState_tame
      | _ => cases hp
  | stopped => cases e <;> cases hp

/-! ### Invitations -/

/-- What decides who is eligible. -/
structure Alike (g g' : GameState) : Prop where
  accounts : g'.accountSessions = g.accountSessions
  towns : g'.townSessions = g.townSessions
  battles : g'.battleSessions = g.battleSessions

theorem Alike.free {g g' : GameState} (h : Alike g g') {sessionId : UInt32} (hfree : Free g sessionId) :
    Free g' sessionId := by
  constructor
  · rw [h.towns]
    exact hfree.inTown
  · rw [h.battles]
    exact hfree.notInBattle

theorem Alike.eligible {g g' : GameState} (h : Alike g g') {q : PendingDuel} (heligible : Eligible g q) :
    Eligible g' q := by
  refine ⟨⟨?_, ?_⟩, h.free heligible.challenger, h.free heligible.target⟩ <;> rw [h.accounts]
  · exact heligible.owned.challenger
  · exact heligible.owned.target

theorem runs_looks {α : Type} {op : GameOp} {next : op.Answer → Program gameOps α} {g g' : GameState} {a : α}
    (hsame : g.after op = g) (h : Runs Does (Program.call (S := gameOps) op next) g a g') :
    ∃ answer, g.Returns op answer ∧ Runs Does (next answer) g a g' := by
  obtain ⟨answer, g₁, ⟨hanswer, hg₁⟩, hnext⟩ := runs_call.1 h
  rw [hg₁, hsame] at hnext
  exact ⟨answer, hanswer, hnext⟩

theorem Delegate.handleDuelInvite_sync (d : Delegate) (targetPlayerId : Int64) :
    (d.handleDuelInvite targetPlayerId).Calls fun op : GameOp => op.awaits = false :=
  d.handleDuelInvite_calls (fun _ _ h => h) (fun _ _ => rfl) targetPlayerId

theorem refused {refused : Bool} {resp resp' : CodeResp} {p : Program gameOps CodeResp} {g g' : GameState}
    (h : Runs Does (if refused = true then pure resp' else p) g resp g') :
    g' = g ∨ refused = false ∧ Runs Does p g resp g' := by
  split_ifs at h with hrefused
  · exact Or.inl (runs_ret.1 h).2
  · exact Or.inr ⟨Bool.eq_false_iff.2 hrefused, h⟩

/-- A duel that an invitation has added is between the account of the session and a session with the target's
account, both free. -/
theorem Delegate.handleDuelInvite_runs {d : Delegate} {targetPlayerId : Int64} {g g' : GameState}
    {resp : CodeResp} (h : Runs Does (d.handleDuelInvite targetPlayerId) g resp g') :
    Alike g g' ∧ ∀ c q, g'.pendingDuels.get c = some q → g.pendingDuels.get c = some q ∨
      (q.challengerSession = d.sessionId ∧ d.accountId = some q.challengerPlayerId ∧
        g.accountSessions.get q.targetPlayerId = some q.targetSession ∧ Free g q.challengerSession ∧
          Free g q.targetSession) := by
  have hsame : Alike g g ∧ ∀ c q, g.pendingDuels.get c = some q → g.pendingDuels.get c = some q ∨
      (q.challengerSession = d.sessionId ∧ d.accountId = some q.challengerPlayerId ∧
        g.accountSessions.get q.targetPlayerId = some q.targetSession ∧ Free g q.challengerSession ∧
          Free g q.targetSession) := ⟨⟨rfl, rfl, rfl⟩, fun c q hq => Or.inl hq⟩
  have hbattle : ∀ sessionId (resp' : CodeResp) (p : Program gameOps CodeResp),
      Runs Does (do
        if ← GameOp.perform (.sessionInBattle sessionId) then return resp'
        p) g resp g' → g' = g ∨ g.battleSessions.contains sessionId = false ∧ Runs Does p g resp g' := by
    intro sessionId resp' p h
    obtain ⟨fighting, hfighting, h⟩ := runs_looks rfl h
    obtain rfl : fighting = g.battleSessions.contains sessionId := by
      cases hfighting
      rfl
    exact refused h
  have htown : ∀ sessionId (resp' : CodeResp) (p : Program gameOps CodeResp),
      Runs Does (do
        if !(← sessionInTown sessionId) then return resp'
        p) g resp g' → g' = g ∨ g.townSessions.contains sessionId = true ∧ Runs Does p g resp g' := by
    intro sessionId resp' p h
    obtain ⟨town, htown, h⟩ := runs_looks rfl h
    obtain rfl : town = g.townSessions.get sessionId := by
      cases htown
      rfl
    exact (refused h).imp_right fun h => ⟨by simpa [Table.contains] using h.1, h.2⟩
  unfold handleDuelInvite at h
  rcases haccount : d.accountId with _ | accountId
  · rw [haccount] at h
    obtain ⟨-, rfl⟩ := runs_ret.1 h
    rw [← haccount]
    exact hsame
  · rcases hselected : d.selectedCharacter with _ | character <;> rw [haccount, hselected] at h <;>
      rw [← haccount]
    · obtain ⟨-, rfl⟩ := runs_ret.1 h
      exact hsame
    · dsimp only at h
      split_ifs at h with hself
      · obtain ⟨-, rfl⟩ := runs_ret.1 h
        exact hsame
      · obtain ⟨owner, howner, hfound⟩ := runs_looks rfl h
        obtain rfl : owner = g.accountSessions.get targetPlayerId := by
          cases howner
          rfl
        rcases htarget : g.accountSessions.get targetPlayerId with _ | targetSession
        · rw [htarget] at hfound
          obtain ⟨-, rfl⟩ := runs_ret.1 hfound
          exact hsame
        · rw [htarget] at hfound
          rcases hbattle _ _ _ hfound with rfl | ⟨hpeace, h₁⟩
          · exact hsame
          rcases hbattle _ _ _ h₁ with rfl | ⟨hpeace', h₂⟩
          · exact hsame
          rcases htown _ _ _ h₂ with rfl | ⟨hin, h₃⟩
          · exact hsame
          rcases htown _ _ _ h₃ with rfl | ⟨hin', h₄⟩
          · exact hsame
          obtain ⟨asked, -, h₅⟩ := runs_looks rfl h₄
          rcases refused h₅ with rfl | ⟨-, h₆⟩
          · exact hsame
          obtain ⟨_, g₁, ⟨-, hadded⟩, h₇⟩ := runs_call.1 h₆
          obtain ⟨_, -, h₈⟩ := runs_looks rfl h₇
          obtain ⟨-, rfl⟩ := runs_ret.1 h₈
          rw [hadded]
          refine ⟨⟨rfl, rfl, rfl⟩, fun c q hq => ?_⟩
          change (g.pendingDuels.insert _ _).get c = some q at hq
          rw [Table.get_insert] at hq
          split_ifs at hq
          · cases hq
            exact Or.inr ⟨rfl, haccount, htarget, ⟨hin, hpeace⟩, ⟨hin', hpeace'⟩⟩
          · exact Or.inl hq

/-! ### Responses -/

theorem section_looks {α : Type} {op : GameOp} {next : op.Answer → Program gameOps α} {p : Program gameOps α}
    {g g' : GameState} (hsync : op.awaits = false) (hsame : g.after op = g)
    (h : Section GameOp.awaits Does (Program.call (S := gameOps) op next) g p g') :
    ∃ answer, g.Returns op answer ∧ Section GameOp.awaits Does (next answer) g p g' := by
  obtain ⟨answer, g₁, ⟨hanswer, hg₁⟩, hnext⟩ := (section_call hsync).1 h
  rw [hg₁, hsame] at hnext
  exact ⟨answer, hanswer, hnext⟩

namespace Delegate

variable (d : Delegate)

theorem characterForSession_section {α : Type} {sessionId : UInt32} {g g' : GameState} {p : Program gameOps α}
    {f : Except String CharacterInfo → Program gameOps α}
    (h : Section GameOp.awaits Does (d.characterForSession sessionId >>= f) g p g') :
    ∃ character, Section GameOp.awaits Does (f character) g p g' := by
  unfold characterForSession at h
  split_ifs at h
  · exact ⟨_, h⟩
  · obtain ⟨character, -, h⟩ := section_looks rfl rfl h
    rcases character with _ | character <;> exact ⟨_, h⟩

theorem startDuelBattle_section {pending : PendingDuel} {g g' : GameState}
    {f : Except String Unit → Program gameOps Actor} {op : GameOp} {next : op.Answer → Program gameOps Actor}
    (hfails : ∀ message, (f (.error message)).Calls fun op : GameOp => op.awaits = false)
    (h : Section GameOp.awaits Does (d.startDuelBattle pending >>= f) g (.call op next) g') :
    Alike g g' ∧ ∃ target challenger opponent battleId randomSeed,
      op = .request (.battleCreate target (duelReq pending challenger opponent battleId randomSeed)) := by
  have herror : ∀ message, ¬ Section GameOp.awaits Does (f (.error message)) g (.call op next) g' := by
    intro message h
    obtain ⟨a, ha⟩ := h.returns (hfails message)
    cases ha
  rw [startDuelBattle_eq, Program.bind_assoc] at h
  obtain ⟨challenger, h₁⟩ := d.characterForSession_section h
  rcases challenger with message | challenger
  · exact absurd h₁ (herror message)
  · dsimp only at h₁
    rw [Program.bind_assoc] at h₁
    obtain ⟨opponent, h₂⟩ := d.characterForSession_section h₁
    rcases opponent with message | opponent
    · exact absurd h₂ (herror message)
    · obtain ⟨battleId, g₁, ⟨-, hg₁⟩, h₃⟩ := (section_call rfl).1 h₂
      obtain ⟨randomSeed, g₂, ⟨-, hg₂⟩, h₄⟩ := (section_call rfl).1 h₃
      obtain ⟨heq, rfl⟩ := (section_await rfl).1 h₄
      cases heq
      rw [hg₂, hg₁]
      exact ⟨⟨rfl, rfl, rfl⟩, _, _, _, _, _, rfl⟩

/-- The first request of a response is that for the battle of a duel that was pending. -/
theorem handleDuelRespond_section {accept : Int32} {g g' : GameState} {f : CodeResp → Actor} {op : GameOp}
    {next : op.Answer → Program gameOps Actor}
    (h : Section GameOp.awaits Does (d.handleDuelRespond accept >>= fun resp => Program.ret (f resp)) g
      (.call op next) g') :
    Alike g g' ∧ ∃ c q target challenger opponent battleId randomSeed, g.pendingDuels.get c = some q ∧
      op = .request (.battleCreate target (duelReq q challenger opponent battleId randomSeed)) := by
  obtain ⟨pending, hpending, h₁⟩ := section_looks rfl rfl h
  rcases pending with _ | q
  · cases h₁
  have hfound : ∃ c, g.pendingDuels.get c = some q := by
    have hreturns : ∀ answer : Option PendingDuel, g.Returns (.findPendingDuelForTarget d.sessionId) answer →
        answer = some q → ∃ c, g.pendingDuels.get c = some q := by
      intro answer hanswer heq
      cases hanswer with
      | inOrder => exact (Table.mem_values _ _).1 (List.mem_of_find?_eq_some heq)
      | findPendingDuelForTarget hget =>
          cases heq
          exact ⟨_, hget⟩
    exact hreturns _ hpending rfl
  obtain ⟨c, hget⟩ := hfound
  obtain ⟨_, g₁, ⟨-, hg₁⟩, h₂⟩ := (section_call rfl).1 h₁
  change Section (S := gameOps) GameOp.awaits Does ((if accept = 0 then _ else _) >>= _) _ _ _ at h₂
  split_ifs at h₂
  · obtain ⟨_, g₂, -, h₃⟩ := (section_call rfl).1 h₂
    cases h₃
  · rw [Program.bind_assoc] at h₂
    have hsync : ∀ push sessionId, (GameOp.sendMsg push sessionId).awaits = false := fun _ _ => rfl
    obtain ⟨halike, target, challenger, opponent, battleId, randomSeed, hop⟩ :=
      d.startDuelBattle_section (fun _ => .call (hsync _ _) fun _ => .call (hsync _ _) fun _ => .ret _) h₂
    rw [hg₁] at halike
    exact ⟨⟨halike.accounts, halike.towns, halike.battles⟩, c, q, target, challenger, opponent, battleId,
      randomSeed, hget, hop⟩

end Delegate

/-! ### Runs -/

/-- While a duel is pending, its sessions stay in town and enter no battle. -/
def Undisturbed (g g' : GameState) : Prop :=
  ∀ c q, g.pendingDuels.get c = some q → g'.pendingDuels.get c = some q →
    ∀ sessionId, sessionId = q.challengerSession ∨ sessionId = q.targetSession → Free g sessionId →
      Free g' sessionId

/-- A session invites while its account is its own. -/
def InvitesAsOwner (pool : PlayPool) : PlayEvent → Prop
  | .input k (.frame (.duelInvite _)) => ∀ d accountId, pool.threads[k]? = some (.ret (.session d)) →
      d.accountId = some accountId → pool.shared.accountSessions.get accountId = some d.sessionId
  | _ => True

/-- The handlers take turns at their awaits, and disturb no pending duel. -/
def Peaceful (pool : PlayPool) (e : PlayEvent) (pool' : PlayPool) : Prop :=
  Pool.SectionStep GameOp.awaits playing pool e pool' ∧ Undisturbed pool.shared pool'.shared ∧
    InvitesAsOwner pool e

/-- What every handler still does is harmless, and the players of every pending duel are eligible. -/
structure Challenged (pool : PlayPool) : Prop where
  tame : ∀ p ∈ pool.threads, Tame p
  eligible : ∀ c q, pool.shared.pendingDuels.get c = some q → Eligible pool.shared q

theorem Harmless.eligible {g g' : GameState} (h : Harmless g g')
    (heligible : ∀ c q, g.pendingDuels.get c = some q → Eligible g q) (hundisturbed : Undisturbed g g') :
    ∀ c q, g'.pendingDuels.get c = some q → Eligible g' q := by
  intro c q hq
  rcases h with h | ⟨hempty, h⟩
  · obtain ⟨hq₀, howned⟩ := h c q hq
    obtain ⟨howned₀, hchallenger, htarget⟩ := heligible c q hq₀
    have hfree := hundisturbed c q hq₀ hq
    exact ⟨howned howned₀, hfree _ (Or.inl rfl) hchallenger, hfree _ (Or.inr rfl) htarget⟩
  · -- nobody is in town any more
    have hq₀ := h c q hq
    have hfree := hundisturbed c q hq₀ hq _ (Or.inl rfl) (heligible c q hq₀).challenger
    have htown := hfree.inTown
    rw [hempty] at htown
    simp [Table.contains] at htown

namespace Challenged

variable {pool pool' : PlayPool} {e : PlayEvent}

theorem update_thread (h : Challenged pool) {k : Nat} {p : Program gameOps Actor} (hp : Tame p) {g : GameState}
    (heligible : ∀ c q, g.pendingDuels.get c = some q → Eligible g q) :
    Challenged ⟨g, pool.threads.set k p⟩ := by
  refine ⟨fun p' hp' => ?_, heligible⟩
  rcases List.mem_or_eq_of_mem_set hp' with hp' | rfl
  · exact h.tame p' hp'
  · exact hp

theorem invite (h : Challenged pool) {k : Nat} {d : Delegate} {targetPlayerId : Int64}
    {p : Program gameOps Actor} {g : GameState} (hidle : pool.threads[k]? = some (.ret (.session d)))
    (hsection : Section GameOp.awaits Does ((d.handleDuelInvite targetPlayerId >>= fun _ => pure d) >>=
      fun d => pure (.session d)) pool.shared p g)
    (hok : InvitesAsOwner pool (.input k (.frame (.duelInvite targetPlayerId)))) :
    Challenged ⟨g, pool.threads.set k p⟩ := by
  rw [Program.bind_assoc] at hsection
  obtain ⟨resp, g₁, hruns, hrest⟩ := section_bind (d.handleDuelInvite_sync targetPlayerId) hsection
  obtain ⟨rfl, rfl⟩ := section_ret.1 hrest
  obtain ⟨halike, hpending⟩ := Delegate.handleDuelInvite_runs hruns
  refine h.update_thread (.ret _) fun c q hq => halike.eligible ?_
  rcases hpending c q hq with hq | ⟨hchallenger, haccount, htarget, hfree, hfree'⟩
  · exact h.eligible c q hq
  · have howner := hok d _ hidle haccount
    rw [← hchallenger] at howner
    exact ⟨⟨howner, htarget⟩, hfree, hfree'⟩

theorem step (h : Challenged pool) (hstep : Peaceful pool e pool') : Challenged pool' := by
  obtain ⟨hstep, hundisturbed, hok⟩ := hstep
  cases hstep with
  | opens hopens =>
      obtain ⟨rfl, -⟩ := hopens
      refine ⟨fun p hp => ?_, h.eligible⟩
      rcases List.mem_append.1 hp with hp | hp
      · exact h.tame p hp
      · rw [List.mem_singleton.1 hp]
        exact Tame.ret _
  | @input k l e p p' g' hidle hhandle hsection =>
      by_cases hinvite : ∃ targetPlayerId, e = .frame (.duelInvite targetPlayerId)
      · obtain ⟨targetPlayerId, rfl⟩ := hinvite
        cases l with
        | session d =>
            cases hhandle
            exact h.invite hidle hsection hok
        | stopped | readLoop => cases hhandle
      · have htame := handle_tame hhandle fun t ht => hinvite ⟨t, ht⟩
        exact h.update_thread (htame.rest hsection fun g _ => Harmless.refl g)
          ((htame.meets hsection).eligible h.eligible hundisturbed)
  | @resume k op next answer g₁ g' p' hwaits hop hdoes hsection =>
      cases op with
      | request r =>
          obtain ⟨-, rfl⟩ := hdoes
          have htame := (h.tame _ (List.mem_of_getElem? hwaits)).next (.await pool.shared hop) answer
          exact h.update_thread (htame.rest hsection fun g _ => Harmless.refl g)
            ((htame.meets hsection).eligible h.eligible hundisturbed)
      | _ => cases hop
  | environment henv => exact henv.elim

end Challenged

/-- In every run of handlers that take turns at their awaits, if no pending duel is disturbed and sessions
invite as the owners of their accounts, then whenever a session that accepts a duel comes to request its
battle, the players are those of a duel that was pending, and eligible. -/
theorem eligible_of_run (trace pool) (hrun : Run Peaceful ⟨{}, []⟩ trace pool) (k accept pool')
    (hstep : Pool.SectionStep GameOp.awaits playing pool (.input k (.frame (.duelRespond accept))) pool')
    (target req next) (hcreate : pool'.threads[k]? = some (.call (.request (.battleCreate target req)) next)) :
    ∃ c q, pool.shared.pendingDuels.get c = some q ∧
      req.players.map (fun p => (p.sessionId, p.playerId)) =
        [(q.challengerSession, q.challengerPlayerId), (q.targetSession, q.targetPlayerId)] ∧
      Eligible pool'.shared q := by
  have hchallenged : Challenged pool := by
    refine hrun.invariant Challenged ⟨fun p hp => ?_, fun c q hq => ?_⟩ fun _ _ _ h => h.step
    · simp at hp
    · simp at hq
  cases hstep with
  | @input _ l _ p p' g' hidle hhandle hsection =>
      rw [List.getElem?_set_self (List.getElem?_eq_some_iff.1 hidle).1] at hcreate
      cases hcreate
      cases l with
      | session d =>
          cases hhandle
          rw [Delegate.onClientFrame, Program.bind_assoc] at hsection
          obtain ⟨halike, c, q, _, _, _, _, _, hget, hop⟩ := d.handleDuelRespond_section hsection
          cases hop
          exact ⟨c, q, hget, rfl, halike.eligible (hchallenged.eligible c q hget)⟩
      | stopped | readLoop => cases hhandle

/-! ### Schedules -/

/-- A session at rest has the account that it logged in to. -/
def owns (g : GameState) : Program gameOps Actor → Bool
  | .ret (.session d) => d.accountId.all fun accountId => g.accountSessions.get accountId = some d.sessionId
  | _ => true

/-- No duel is pending, and all sessions at rest have their accounts. -/
def calm (pool : PlayPool) : Bool := decide (pool.shared.pendingDuels = ∅) && pool.threads.all (owns pool.shared)

theorem peaceful_of_calm {pool pool' : PlayPool} {e : PlayEvent}
    (h : Pool.SectionStep GameOp.awaits playing pool e pool' ∧ calm pool = true) : Peaceful pool e pool' := by
  obtain ⟨hstep, hcalm⟩ := h
  obtain ⟨hempty, howns⟩ := Bool.and_eq_true_iff.1 hcalm
  refine ⟨hstep, fun c q hq => ?_, ?_⟩
  · rw [of_decide_eq_true hempty] at hq
    simp at hq
  · unfold InvitesAsOwner
    split
    · intro d accountId hk haccount
      have hown := List.all_eq_true.1 howns _ (List.mem_of_getElem? hk)
      change d.accountId.all _ = true at hown
      rw [haccount] at hown
      exact of_decide_eq_true hown
    · trivial

/-- A session logs in, selects a character and enters a town. -/
def arrives (k : Nat) (sessionId : UInt32) (account : String) : List (Pool.Slot Actor Input) :=
  .opens (.session { sessionId }) :: .input k (.frame (.login { account, password := "" })) :: .call k ::
    .call k :: .input k (.frame (.selectCharacter 1)) :: .call k :: .call k :: .call k ::
    .input k (.frame (.enterScene { type := 0, mapId := 0, ownerUid := 0, state := none })) :: .call k ::
    [.call k]

/-- Session 1 invites the player of session 2. -/
def challenges : List (Pool.Slot Actor Input) :=
  arrives 0 1 "a" ++ arrives 1 2 "b" ++ [.input 0 (.frame (.duelInvite 11))]

/-- The players of the battle that a thread asks for. -/
def requestedPlayers : Program gameOps Actor → Option (List (UInt32 × Int64))
  | .call (.request (.battleCreate _ req)) _ => some (req.players.map fun p => (p.sessionId, p.playerId))
  | _ => none

theorem requestedPlayers_some {p : Program gameOps Actor} {players : List (UInt32 × Int64)}
    (h : requestedPlayers p = some players) : ∃ target req next,
      p = .call (.request (.battleCreate target req)) next ∧
        req.players.map (fun p => (p.sessionId, p.playerId)) = players := by
  unfold requestedPlayers at h
  split at h
  · exact ⟨_, _, _, rfl, Option.some.inj h⟩
  · cases h

/-- Session 2 accepts. -/
theorem eligible_of_run_accept : ∃ trace pool pool' c q, Run Peaceful ⟨{}, []⟩ trace pool ∧
    Pool.SectionStep GameOp.awaits playing pool (.input 1 (.frame (.duelRespond 1))) pool' ∧
      pool.shared.pendingDuels.get c = some q ∧ Eligible pool'.shared q := by
  have h : ∃ r, (playExecutor hospitable).sections GameOp.awaits calm ⟨{}, []⟩ challenges = some r ∧
      ∃ a, (playExecutor hospitable).advanceSection GameOp.awaits r (.input 1 (.frame (.duelRespond 1))) = some a ∧
        (a.2.threads[1]?.bind requestedPlayers).isSome := by
    decide +kernel
  obtain ⟨pool, hsections, ⟨e, pool'⟩, hadvance, hcreate⟩ := h
  obtain ⟨trace, hrun⟩ := Pool.Executor.sections_sound _ hsections
  obtain rfl := Pool.Executor.advanceSection_input _ hadvance
  have hstep := Pool.Executor.advanceSection_sound _ hadvance
  obtain ⟨players, hplayers⟩ := Option.isSome_iff_exists.1 hcreate
  obtain ⟨p, hp, hplayers⟩ := Option.bind_eq_some_iff.1 hplayers
  obtain ⟨target, req, next, rfl, -⟩ := requestedPlayers_some hplayers
  have hpeaceful := hrun.mono fun _ _ _ => peaceful_of_calm
  obtain ⟨c, q, hget, -, heligible⟩ := eligible_of_run trace pool hpeaceful 1 1 pool' hstep target req next hp
  exact ⟨trace, pool, pool', c, q, hpeaceful, hstep, hget, heligible⟩

/-- Session 2 joins another battle before it accepts. -/
theorem duel_of_player_in_battle : ∃ trace pool pool' target req next,
    Run (Pool.SectionStep GameOp.awaits playing) ⟨{}, []⟩ trace pool ∧
      Pool.SectionStep GameOp.awaits playing pool (.input 1 (.frame (.duelRespond 1))) pool' ∧
        pool'.threads[1]? = some (.call (.request (.battleCreate target req)) next) ∧
          req.players.map (fun p => (p.sessionId, p.playerId)) = [(1, 10), (2, 11)] ∧
            ¬ Free pool'.shared 2 := by
  have h : ∃ r, (playExecutor hospitable).sections GameOp.awaits (fun _ => true) ⟨{}, []⟩
      (challenges ++ .input 1 (.frame (.battleJoin 1)) :: List.replicate 4 (.call 1)) = some r ∧
        ∃ a, (playExecutor hospitable).advanceSection GameOp.awaits r (.input 1 (.frame (.duelRespond 1))) = some a ∧
          a.2.threads[1]?.bind requestedPlayers = some [(1, 10), (2, 11)] ∧
            a.2.shared.battleSessions.contains 2 = true := by
    decide +kernel
  obtain ⟨pool, hsections, ⟨e, pool'⟩, hadvance, hcreate, hbattle⟩ := h
  obtain ⟨trace, hrun⟩ := Pool.Executor.sections_sound _ hsections
  obtain rfl := Pool.Executor.advanceSection_input _ hadvance
  obtain ⟨p, hp, hplayers⟩ := Option.bind_eq_some_iff.1 hcreate
  obtain ⟨target, req, next, rfl, hreq⟩ := requestedPlayers_some hplayers
  refine ⟨trace, pool, pool', target, req, next, hrun.mono fun _ _ _ h => h.1,
    Pool.Executor.advanceSection_sound _ hadvance, hp, hreq, fun hfree => ?_⟩
  rw [hfree.notInBattle] at hbattle
  cases hbattle

end AxmolFighter.Game
