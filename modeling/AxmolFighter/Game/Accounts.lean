import AxmolFighter.Game.Shared
import AxmolFighter.Lib.Run

/-!
# Accounts and sessions

`player/account.rs` and `PlayerSessionDelegate::on_stop`: a session's delegate knows its account, and
the shared map knows the session of each account. A login writes both, a stop takes back the delegate's
account only. So the map tells the truth as long as no session that still owns an account logs in with
another one.
-/

namespace AxmolFighter.Game

variable {Character : Type}

structure PlayerSessionDelegate (Character : Type) where
  sessionId : UInt32
  accountId : Option Int64 := none
  selectedCharacter : Option Character := none

structure LoginReq where
  account : String
  password : String
deriving DecidableEq

structure AccountInfo where
  playerId : Int64
  account : String
  nickname : String
deriving DecidableEq

structure ServerConfig where
  maxCharacterCount : Int32
deriving DecidableEq

structure LoginResp where
  code : Int32
  message : String
  playerId : Int64 := 0
  nickname : String := ""
  serverConfig : Option ServerConfig := none
  accountInfo : Option AccountInfo := none
deriving DecidableEq

/-- A row of the table of accounts. -/
structure AccountRow where
  id : Int64
  password : String
  nickname : String
deriving DecidableEq

/-- What a login reads of the database, which is outside the repository. -/
structure Database where
  account : String → Except String (Option AccountRow)
  maxCharacterCount : Except String (Option Int64)

def Database.queryMaxCharacterCount (db : Database) : Int32 :=
  match db.maxCharacterCount with
  | .ok (some v) => v.toInt32
  | _ => 10

namespace PlayerSessionDelegate

variable (d : PlayerSessionDelegate Character)

def handleLogin (db : Database) (req : LoginReq) :
    Program GameShared.accountOps (PlayerSessionDelegate Character × LoginResp) :=
  match db.account req.account with
  | .ok (some row) =>
      if row.password = req.password then do
        let d := { d with accountId := some row.id, selectedCharacter := none }
        GameShared.bindAccount d.sessionId row.id
        pure (d, {
          code := 0
          message := ""
          playerId := row.id
          nickname := row.nickname
          serverConfig := some { maxCharacterCount := db.queryMaxCharacterCount }
          accountInfo := some { playerId := row.id, account := req.account, nickname := row.nickname } })
      else pure (d, { code := 1, message := "密码错误" })
  | .ok none => pure (d, { code := 2, message := "账号不存在" })
  | .error _ => pure (d, { code := -1, message := "服务器内部错误" })

def onStop (g : GameShared Character) : GameShared Character :=
  let g := g.clearSessionRuntimeState d.sessionId
  match d.accountId with
  | none => g
  | some accountId =>
      -- an account that a new session has taken stays with that session
      if g.accountSessions.get accountId = some d.sessionId then
        { g with accountSessions := g.accountSessions.remove accountId }
      else g

end PlayerSessionDelegate

/-- The shared state and the delegates of the sessions that have not stopped. -/
structure GameServer (Character : Type) where
  shared : GameShared Character := {}
  delegates : Table UInt32 (PlayerSessionDelegate Character) := ∅

inductive Event
  | online (sessionId : UInt32)
  | login (sessionId : UInt32) (db : Database) (req : LoginReq)
  | stop (sessionId : UInt32)

namespace GameServer

variable (s : GameServer Character)

/-- An event, executed to its end before the next. -/
def handle : Event → Option (GameServer Character)
  | .online sessionId =>
      match s.delegates.get sessionId with
      | some _ => none
      | none => some { s with delegates := s.delegates.insert sessionId { sessionId } }
  | .login sessionId db req => do
      let d ← s.delegates.get sessionId
      let ((d, _), shared) := (d.handleLogin db req).eval GameShared.exec s.shared
      some { shared, delegates := s.delegates.insert sessionId d }
  | .stop sessionId => do
      let d ← s.delegates.get sessionId
      some { shared := d.onStop s.shared, delegates := s.delegates.remove sessionId }

def Step (s : GameServer Character) (e : Event) (s' : GameServer Character) : Prop :=
  s.handle e = some s'

end GameServer

/-! ### What a login and a stop do to the map -/

namespace PlayerSessionDelegate

variable (d : PlayerSessionDelegate Character) (g : GameShared Character)

theorem handleLogin_eval (db : Database) (req : LoginReq) :
    (∃ accountId, ((d.handleLogin db req).eval GameShared.exec g).1.1 =
        { d with accountId := some accountId, selectedCharacter := none } ∧
      ((d.handleLogin db req).eval GameShared.exec g).2.accountSessions =
        g.accountSessions.insert accountId d.sessionId ∧
      ∃ row, db.account req.account = .ok (some row) ∧ row.password = req.password ∧
        row.id = accountId) ∨
    (((d.handleLogin db req).eval GameShared.exec g).1.1 = d ∧
      ((d.handleLogin db req).eval GameShared.exec g).2 = g ∧
      ∀ row, db.account req.account = .ok (some row) → row.password ≠ req.password) := by
  unfold handleLogin
  split
  · rename_i row hrow
    split_ifs with hpassword
    · refine Or.inl ⟨row.id, ?_, ?_, row, hrow, hpassword, rfl⟩
      · rw [Program.eval_bind]
        rfl
      · rw [Program.eval_bind]
        exact GameShared.bindAccount_eval ..
    · refine Or.inr ⟨rfl, rfl, fun row' hrow' => ?_⟩
      rw [hrow] at hrow'
      cases hrow'
      exact hpassword
  · rename_i hrow
    exact Or.inr ⟨rfl, rfl, fun row' hrow' => by simp [hrow] at hrow'⟩
  · rename_i hrow
    exact Or.inr ⟨rfl, rfl, fun row' hrow' => by simp [hrow] at hrow'⟩

theorem onStop_accountSessions :
    (d.onStop g).accountSessions =
      match d.accountId with
      | none => g.accountSessions
      | some accountId =>
          if g.accountSessions.get accountId = some d.sessionId then g.accountSessions.remove accountId
          else g.accountSessions := by
  unfold onStop
  rcases d.accountId with _ | accountId
  · simp
  · dsimp only
    rw [GameShared.clearSessionRuntimeState_accountSessions]
    split_ifs <;> simp

end PlayerSessionDelegate

namespace GameServer

/-! ### The map tells the truth -/

/-- Who owns an account has not stopped, and its delegate has that account. -/
def Truthful (s : GameServer Character) : Prop :=
  ∀ accountId sessionId, s.shared.accountSessions.get accountId = some sessionId →
    ∃ d, s.delegates.get sessionId = some d ∧ d.accountId = some accountId

/-- A successful login does not give its session a second account: the account that the delegate had,
if it is another one, is not the session's any more. -/
def Careful (s : GameServer Character) : Event → Prop
  | .login sessionId db req => ∀ d row, s.delegates.get sessionId = some d →
      db.account req.account = .ok (some row) → row.password = req.password →
        ∀ old, d.accountId = some old → old ≠ row.id →
          s.shared.accountSessions.get old ≠ some sessionId
  | _ => True

/-- The delegates are filed under their sessions. -/
def Filed (s : GameServer Character) : Prop :=
  ∀ sessionId d, s.delegates.get sessionId = some d → d.sessionId = sessionId

variable {s s' : GameServer Character}

theorem step_online {sessionId : UInt32} (h : Step s (.online sessionId) s') :
    s.delegates.get sessionId = none ∧
      s' = { s with delegates := s.delegates.insert sessionId { sessionId } } := by
  simp only [Step, handle] at h
  split at h
  · cases h
  · rename_i hnone
    exact ⟨hnone, (Option.some.inj h).symm⟩

theorem step_login {sessionId : UInt32} {db : Database} {req : LoginReq}
    (h : Step s (.login sessionId db req) s') : ∃ d, s.delegates.get sessionId = some d ∧
      s' = {
        shared := ((d.handleLogin db req).eval GameShared.exec s.shared).2
        delegates := s.delegates.insert sessionId
          ((d.handleLogin db req).eval GameShared.exec s.shared).1.1 } := by
  simp only [Step, handle, Option.bind_eq_bind, Option.bind_eq_some_iff] at h
  obtain ⟨d, hd, heq⟩ := h
  exact ⟨d, hd, (Option.some.inj heq).symm⟩

theorem step_stop {sessionId : UInt32} (h : Step s (.stop sessionId) s') :
    ∃ d, s.delegates.get sessionId = some d ∧
      s' = { shared := d.onStop s.shared, delegates := s.delegates.remove sessionId } := by
  simp only [Step, handle, Option.bind_eq_bind, Option.bind_eq_some_iff] at h
  obtain ⟨d, hd, heq⟩ := h
  exact ⟨d, hd, (Option.some.inj heq).symm⟩

theorem Filed.step (hfiled : s.Filed) {e : Event} (h : Step s e s') : s'.Filed := by
  intro sessionId d hd
  cases e with
  | online other =>
      obtain ⟨-, rfl⟩ := step_online h
      simp only [Table.get_insert] at hd
      split_ifs at hd with hs
      · cases hd
        exact hs.symm
      · exact hfiled sessionId d hd
  | login other db req =>
      obtain ⟨old, hold, rfl⟩ := step_login h
      simp only [Table.get_insert] at hd
      split_ifs at hd with hs
      · have hsession := hfiled other old hold
        rcases old.handleLogin_eval s.shared db req with ⟨accountId, hlogin, -⟩ | ⟨hlogin, -⟩
        · rw [hlogin] at hd
          cases hd
          rw [hs]
          exact hsession
        · rw [hlogin] at hd
          cases hd
          rw [hs]
          exact hsession
      · exact hfiled sessionId d hd
  | stop other =>
      obtain ⟨old, hold, rfl⟩ := step_stop h
      simp only [Table.get_remove] at hd
      split_ifs at hd
      exact hfiled sessionId d hd

theorem Truthful.online (htrue : s.Truthful) {sessionId : UInt32} (h : Step s (.online sessionId) s') :
    s'.Truthful := by
  obtain ⟨hnone, rfl⟩ := step_online h
  intro accountId owner howner
  obtain ⟨d, hd, haccount⟩ := htrue accountId owner howner
  refine ⟨d, ?_, haccount⟩
  rw [Table.get_insert_ne _ _ ?_]
  · exact hd
  · rintro rfl
    rw [hnone] at hd
    cases hd

theorem Truthful.stop (htrue : s.Truthful) (hfiled : s.Filed) {sessionId : UInt32}
    (h : Step s (.stop sessionId) s') : s'.Truthful := by
  obtain ⟨old, hold, rfl⟩ := step_stop h
  intro accountId owner howner
  -- the session that stops owns its delegate's account only, and loses that one
  have hkept : s.shared.accountSessions.get accountId = some owner ∧ owner ≠ sessionId := by
    have hsession := hfiled sessionId old hold
    dsimp only at howner
    rw [old.onStop_accountSessions, hsession] at howner
    have hmine : ∀ a, s.shared.accountSessions.get a = some sessionId → old.accountId = some a := by
      intro a ha
      obtain ⟨d, hd, haccount⟩ := htrue a sessionId ha
      rw [hold] at hd
      cases hd
      exact haccount
    rcases haccount : old.accountId with _ | mine
    · rw [haccount] at howner
      refine ⟨howner, ?_⟩
      rintro rfl
      simp [hmine accountId howner] at haccount
    · rw [haccount] at howner
      dsimp only at howner
      split_ifs at howner with hmineowner
      · rw [Table.get_remove] at howner
        split_ifs at howner with ha
        refine ⟨howner, ?_⟩
        rintro rfl
        rw [hmine accountId howner] at haccount
        exact ha (Option.some.inj haccount)
      · refine ⟨howner, ?_⟩
        rintro rfl
        rw [hmine accountId howner] at haccount
        cases haccount
        exact hmineowner howner
  obtain ⟨d, hd, haccount⟩ := htrue accountId owner hkept.1
  exact ⟨d, (Table.get_remove_ne _ hkept.2).trans hd, haccount⟩

/-- A login keeps the map truthful exactly if it is careful. -/
theorem truthful_login_iff (htrue : s.Truthful) (hfiled : s.Filed) {sessionId : UInt32} {db : Database}
    {req : LoginReq} (h : Step s (.login sessionId db req) s') :
    s'.Truthful ↔ s.Careful (.login sessionId db req) := by
  obtain ⟨d, hd, rfl⟩ := step_login h
  rcases d.handleLogin_eval s.shared db req with
    ⟨accountId, hdelegate, haccounts, row, hrow, hpassword, hid⟩ | ⟨hdelegate, hshared, hrefused⟩
  · rw [hfiled sessionId d hd] at haccounts
    have hmine : ∀ old, s.shared.accountSessions.get old = some sessionId → d.accountId = some old := by
      intro old hold
      obtain ⟨d', hd', haccount⟩ := htrue old sessionId hold
      rw [hd] at hd'
      cases hd'
      exact haccount
    constructor
    · intro htrue' d' row' hd' hrow' hpassword' old hold hne howner
      rw [hd] at hd'
      cases hd'
      rw [hrow] at hrow'
      cases hrow'
      obtain ⟨d'', hd'', haccount⟩ := htrue' old sessionId (by
        rw [haccounts, Table.get_insert_ne _ _ (hid ▸ hne)]
        exact howner)
      rw [Table.get_insert_self] at hd''
      cases hd''
      rw [hdelegate] at haccount
      exact hne (hid.trans (Option.some.inj haccount)).symm
    · intro hcareful old owner howner
      dsimp only at howner ⊢
      rw [haccounts, Table.get_insert] at howner
      rw [Table.get_insert, hdelegate]
      split_ifs at howner with ha
      · cases howner
        exact ⟨_, if_pos rfl, congrArg some ha.symm⟩
      · obtain ⟨d', hd', haccount⟩ := htrue old owner howner
        refine ⟨d', ?_, haccount⟩
        rw [if_neg ?_]
        · exact hd'
        · rintro rfl
          exact hcareful d row hd hrow hpassword old (hmine old howner) (hid ▸ ha) howner
  · refine iff_of_true (fun accountId owner howner => ?_) fun d' row hd' hrow hpassword => ?_
    · dsimp only at howner ⊢
      rw [hshared] at howner
      obtain ⟨d', hd', haccount⟩ := htrue accountId owner howner
      rw [Table.get_insert, hdelegate]
      split_ifs with hs
      · rw [hs, hd] at hd'
        exact ⟨d, rfl, (Option.some.inj hd') ▸ haccount⟩
      · exact ⟨d', hd', haccount⟩
    · exact absurd hpassword (hrefused row hrow)

theorem truthful_step_iff (htrue : s.Truthful) (hfiled : s.Filed) {e : Event} (h : Step s e s') :
    s'.Truthful ↔ s.Careful e := by
  cases e with
  | online sessionId => exact iff_of_true (htrue.online h) trivial
  | login sessionId db req => exact truthful_login_iff htrue hfiled h
  | stop sessionId => exact iff_of_true (htrue.stop hfiled h) trivial

/-- The map is truthful all through a run exactly if every login of it is careful. -/
theorem truthful_of_run {trace : List (GameServer Character × Event)} (hrun : Run Step {} trace s) :
    ((∀ e ∈ trace, e.1.Truthful) ∧ s.Truthful) ↔ ∀ e ∈ trace, e.1.Careful e.2 := by
  have hinv : s.Filed ∧
      (((∀ e ∈ trace, e.1.Truthful) ∧ s.Truthful) ↔ ∀ e ∈ trace, e.1.Careful e.2) := by
    induction hrun with
    | start =>
        refine ⟨fun sessionId d hd => ?_, ?_⟩
        · simp at hd
        · simp [Truthful]
    | @next trace s s' e _ hstep ih =>
        obtain ⟨hfiled, hiff⟩ := ih
        refine ⟨hfiled.step hstep, ?_⟩
        simp only [List.forall_mem_append, List.forall_mem_singleton]
        rw [hiff]
        exact and_congr_right fun hall => truthful_step_iff (hiff.2 hall).2 hfiled hstep
  exact hinv.2

/-- Two accounts, `a` with id 10 and `b` with id 20, both without a password. -/
def Sample.db : Database where
  account name :=
    .ok (if name = "a" then some { id := 10, password := "", nickname := "" }
      else if name = "b" then some { id := 20, password := "", nickname := "" } else none)
  maxCharacterCount := .ok none

/-- A second session takes over the account, then the first one stops. -/
theorem truthful_of_run_sample :
    ∃ (s : GameServer Unit) (trace : List (GameServer Unit × Event)), Run Step {} trace s ∧
      trace.map Prod.snd = [.online 1, .online 2, .login 1 Sample.db { account := "a", password := "" },
        .login 2 Sample.db { account := "a", password := "" }, .stop 1] ∧
      s.shared.accountSessions.get 10 = some 2 ∧ s.Truthful := by
  have honline := (Run.start : Run Step ({} : GameServer Unit) [] _).next (a := Event.online 1) rfl
  have honline₂ := honline.next (a := Event.online 2) rfl
  have hlogin := honline₂.next (a := Event.login 1 Sample.db { account := "a", password := "" }) rfl
  have htakeover := hlogin.next (a := Event.login 2 Sample.db { account := "a", password := "" }) rfl
  have hstop := htakeover.next (a := Event.stop 1) rfl
  refine ⟨_, _, hstop, rfl, rfl, ((truthful_of_run hstop).2 ?_).2⟩
  simp only [List.forall_mem_append, List.forall_mem_singleton]
  refine ⟨⟨⟨⟨⟨by simp, trivial⟩, trivial⟩, ?_⟩, ?_⟩, trivial⟩
  · intro d row hd _ _ old hold
    obtain rfl : ({ sessionId := 1 } : PlayerSessionDelegate Unit) = d := Option.some.inj hd
    cases hold
  · intro d row hd _ _ old hold
    obtain rfl : ({ sessionId := 2 } : PlayerSessionDelegate Unit) = d := Option.some.inj hd
    cases hold

/-- A session logs in with one account and then with another, and stops: it owns the first for ever. -/
theorem stopped_session_owns_account :
    ∃ (s : GameServer Unit) (trace : List (GameServer Unit × Event)), Run Step {} trace s ∧
      trace.map Prod.snd = [.online 1, .login 1 Sample.db { account := "a", password := "" },
        .login 1 Sample.db { account := "b", password := "" }, .stop 1] ∧
      s.shared.accountSessions.get 10 = some 1 ∧ s.delegates.get 1 = none ∧ ¬ s.Truthful := by
  have honline := (Run.start : Run Step ({} : GameServer Unit) [] _).next (a := Event.online 1) rfl
  have hlogin := honline.next (a := Event.login 1 Sample.db { account := "a", password := "" }) rfl
  have hagain := hlogin.next (a := Event.login 1 Sample.db { account := "b", password := "" }) rfl
  have hstop := hagain.next (a := Event.stop 1) rfl
  refine ⟨_, _, hstop, rfl, rfl, rfl, fun htrue => ?_⟩
  obtain ⟨d, hd, -⟩ := htrue 10 1 rfl
  cases (hd : none = some d)

end GameServer

end AxmolFighter.Game
