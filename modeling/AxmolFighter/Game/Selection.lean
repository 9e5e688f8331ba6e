import AxmolFighter.Game.Conduct

/-!
# The two copies of a selected character

A session's delegate has its selected character, and `selected_characters` has a copy for the others. A
login forgets the delegate's copy only, and a login elsewhere has the shared copy of the displaced session
removed only.
-/

namespace AxmolFighter.Game

open GameState

/-- The operation leaves the shared copies alone, and binds no account. -/
def GameOp.spares : GameOp → Bool
  | .setSelectedCharacter .. | .removeSelectedCharacter _ | .insertAccount .. => false
  | _ => true

theorem GameOp.spares_of_quiet {op : GameOp} (h : op.quiet = true) : op.spares = true := by
  cases op <;> first | rfl | cases h

theorem GameState.after_spares (g : GameState) {op : GameOp} (h : op.spares = true) :
    (g.after op).selectedCharacters = g.selectedCharacters := by
  cases op <;> first | rfl | cases h

/-! ### What a handler does to the copies -/

/-- How a thread stands to the shared copies: its delegate's is the shared one, also while it displaces
another session or before `on_stop` removes it; or it has no delegate. -/
inductive Copies
  | mirrors (d : Delegate)
  | kicking (d : Delegate) (oldSessionId : UInt32)
  | stopping (d : Delegate)
  | none

namespace Copies

def delegate : Copies → Option Delegate
  | mirrors d | kicking d _ | stopping d => some d
  | none => Option.none

/-- After `insert` into the accounts: the account may have been another session's. -/
def bound (d : Delegate) : Option UInt32 → Copies
  | some old => if old ≠ d.sessionId then .kicking d old else .mirrors d
  | Option.none => .mirrors d

inductive Moves : Copies → (op : GameOp) → op.Answer → Copies → Prop
  | spares {q : Copies} {op : GameOp} {answer : op.Answer} (h : op.spares = true) : Moves q op answer q
  | selects {d : Delegate} {c : CharacterInfo} :
      Moves (.mirrors d) (.setSelectedCharacter d.sessionId c) ()
        (.mirrors { d with selectedCharacter := some c })
  | binds {d : Delegate} {accountId : Int64} {old : Option UInt32} :
      Moves (.mirrors d) (.insertAccount accountId d.sessionId) old
        (bound { d with accountId := some accountId, selectedCharacter := Option.none } old)
  | givesUp {d : Delegate} {old : UInt32} {accountId : Int64} {owner : Option UInt32} :
      Moves (.kicking d old) (.accountOwner accountId) owner (.mirrors d)
  | kicks {d : Delegate} {old : UInt32} :
      Moves (.kicking d old) (.removeSelectedCharacter old) () (.mirrors d)
  | forgets {d : Delegate} : Moves (.stopping d) (.removeSelectedCharacter d.sessionId) () .none

/-- The copies of a thread at rest. -/
def Rests : Copies → Actor → Prop
  | .mirrors d, .session d' => d' = d
  | .none, .stopped | .none, .readLoop => True
  | _, _ => False

end Copies

open Copies (Moves)

theorem quiet_follows {α β : Type} {p : Program gameOps α} (h : Quiet p) (q : Copies)
    {stops : Copies → β → Prop} {f : α → Program gameOps β} (hf : ∀ a, (f a).Follows Moves stops q) :
    (p >>= f).Follows Moves stops q :=
  Program.Follows.calls_bind h (fun _ _ hop => .spares (GameOp.spares_of_quiet hop)) hf

theorem spares_follows {α : Type} {p : Program gameOps α} (h : p.Calls fun op : GameOp => op.spares = true)
    (d : Delegate) : (do
      let _ ← p
      pure d : Program gameOps Delegate).Follows Moves (fun q d' => q = .mirrors d') (.mirrors d) :=
  Program.Follows.calls_bind h (fun _ _ hop => .spares hop) fun _ => .ret rfl

namespace GameState

theorem clearSessionRuntimeState_follows {q q' : Copies} {sessionId : UInt32}
    (h : Moves q (.removeSelectedCharacter sessionId) () q') :
    (clearSessionRuntimeState sessionId).Follows Moves (fun q₁ _ => q₁ = q') q := by
  refine quiet_follows (clearBattleSession_quiet _) _ fun _ => quiet_follows (clearTownSession_quiet _) _ fun _ => ?_
  exact .stay (fun _ => .spares rfl) fun _ => .stay (fun _ => h) fun _ => .ret rfl

/-- `bind_account` binds the account of a delegate without a character, and removes the shared copy of the
session that it displaces. -/
theorem bindAccount_follows (d : Delegate) (accountId : Int64) :
    (bindAccount d.sessionId accountId).Follows Moves
      (fun q _ => q = .mirrors { d with accountId := some accountId, selectedCharacter := none })
      (.mirrors d) := by
  refine .perform_bind (fun old => Copies.bound _ old) (fun _ => .binds) fun old => ?_
  rcases old with _ | old
  · exact .ret rfl
  · -- whoever had the account before is kicked if the account is still this session's
    unfold kickTarget Copies.bound
    dsimp only
    split_ifs
    · refine .call (fun owner : Option UInt32 =>
        if owner = some d.sessionId
          then .kicking { d with accountId := some accountId, selectedCharacter := none } old
          else .mirrors { d with accountId := some accountId, selectedCharacter := none })
        (fun owner => ?_) fun owner => ?_
      · split_ifs
        · exact .spares rfl
        · exact .givesUp
      · show Program.Follows _ _ _ (Program.whenSome (if owner = some d.sessionId then some old else none) _)
        split_ifs
        · refine (clearSessionRuntimeState_follows .kicks).bind fun q _ hq => hq ▸ ?_
          exact .stay (fun _ => .spares rfl) fun _ => .stay (fun _ => .spares rfl) fun _ => .ret rfl
        · exact .ret rfl
    · exact .ret rfl

end GameState

namespace Delegate

variable (d : Delegate)

theorem handleLogin_follows (req : LoginReq) :
    (d.handleLogin req).Follows Moves (fun q r => q = .mirrors r.1) (.mirrors d) := by
  refine .stay (fun _ => .spares rfl) fun answer => ?_
  rcases answer with _ | _ | row
  · exact .ret rfl
  · exact .ret rfl
  · show Program.Follows _ _ _ (if _ then _ else _)
    split_ifs
    · refine (bindAccount_follows d row.id).bind fun q _ hq => hq ▸ ?_
      exact .stay (fun _ => .spares rfl) fun _ => .ret rfl
    · exact .ret rfl

theorem handleSelectCharacter_follows (characterId : Int64) :
    (d.handleSelectCharacter characterId).Follows Moves (fun q r => q = .mirrors r.1) (.mirrors d) := by
  unfold handleSelectCharacter
  rcases haccount : d.accountId with _ | accountId
  · exact .ret rfl
  · refine .stay (fun _ => .spares rfl) fun answer => ?_
    rcases answer with _ | _ | characterId
    · exact .ret rfl
    · exact .ret rfl
    · refine .stay (fun _ => .spares rfl) fun answer => ?_
      rcases answer with _ | character
      · exact .ret rfl
      · refine .stay (fun _ => .spares rfl) fun _ => .stay (fun _ => .selects) fun _ => .ret ?_
        rw [haccount]

theorem handleProgress_follows (req : ProgressReq) :
    (d.handleProgress req).Follows Moves (fun q r => q = .mirrors r.1) (.mirrors d) := by
  unfold handleProgress
  rcases d.requireSelectedCharacterId with resp | characterId
  · exact .ret rfl
  · refine .stay (fun _ => .spares rfl) fun saved => ?_
    cases saved with
    | false => exact .ret rfl
    | true =>
        show Program.Follows _ _ _ (Program.whenSome _ _ >>= fun _ => _)
        rcases hselected : d.selectedCharacter with _ | c
        · refine .ret ?_
          rw [Option.map_none, ← hselected]
        · exact .stay (fun _ => .selects) fun _ => .ret rfl

theorem onClientFrame_follows (frame : ClientFrame) :
    (d.onClientFrame frame).Follows Moves (fun q d' => q = .mirrors d') (.mirrors d) := by
  have hquiet : ∀ op : GameOp, op.quiet = true → op.spares = true := fun _ => GameOp.spares_of_quiet
  cases frame with
  | login req => exact (d.handleLogin_follows req).bind fun _ _ h => .ret h
  | selectCharacter characterId => exact (d.handleSelectCharacter_follows characterId).bind fun _ _ h => .ret h
  | progress req => exact (d.handleProgress_follows req).bind fun _ _ h => .ret h
  | battleJoin mapId => exact spares_follows ((d.handleBattleJoin_quiet mapId).mono hquiet) d
  | duelInvite targetPlayerId =>
      exact spares_follows (d.handleDuelInvite_calls (fun op h _ => hquiet op h) (fun _ _ => rfl) targetPlayerId) d
  | duelRespond accept => exact spares_follows ((d.handleDuelRespond_quiet accept).mono hquiet) d
  | enterScene req => exact spares_follows ((d.handleEnterScene_quiet req).mono hquiet) d
  | other => exact .ret rfl

theorem onStop_follows : d.onStop.Follows Moves (fun q _ => q = .none) (.stopping d) := by
  refine (clearSessionRuntimeState_follows .forgets).bind fun q _ hq => hq ▸ ?_
  rcases d.accountId with _ | accountId
  · exact .ret rfl
  · exact .stay (fun _ => .spares rfl) fun _ => .ret rfl

end Delegate

/-! ### Runs -/

def copiesGuide : Pool.Guide playing Copies where
  moves := Moves
  stops := Copies.Rests
  fresh
    | _, .session d => .mirrors d
    | _, _ => .none
  begins
    | .mirrors d, .frame _, q => q = .mirrors d
    | .mirrors d, .stop, q => q = .stopping d
    | .none, _, q => q = .none
    | _, _, _ => False
  fresh_stops := by
    rintro g k l g' ⟨-, rfl | ⟨sessionId, rfl⟩⟩
    · trivial
    · rfl
  follows := by
    rintro q l e p hstops hp
    cases l with
    | session d =>
        cases q with
        | mirrors d' =>
            obtain rfl := hstops
            cases e with
            | frame frame =>
                cases hp
                exact ⟨_, rfl, (d.onClientFrame_follows frame).bind fun _ _ hq => .ret (by rw [hq]; rfl)⟩
            | stop =>
                cases hp
                exact ⟨_, rfl, d.onStop_follows.bind fun _ _ hq => .ret (by rw [hq]; trivial)⟩
            | _ => cases hp
        | _ => cases hstops
    | readLoop =>
        cases q with
        | none =>
            cases e with
            | serverOffline serviceId instanceId =>
                cases hp
                exact ⟨_, rfl, quiet_follows (onServerOffline_quiet _ _) _ fun _ => .ret trivial⟩
            | disconnected =>
                cases hp
                have hspares : clearAllRuntimeState.Calls fun op : GameOp => op.spares = true :=
                  .call rfl fun _ => .call rfl fun _ => .call rfl fun _ => .call rfl fun _ => .perform rfl
                exact ⟨_, rfl, Program.Follows.calls_bind hspares (fun _ _ h => .spares h) fun _ => .ret trivial⟩
            | _ => cases hp
        | _ => cases hstops
    | stopped => cases e <;> cases hp

/-- An account is only bound to a session without a selected character, and taken only from one; and a
session comes online while all handlers have finished, under an id that nobody else has. -/
def Unselected (pool : PlayPool) : PlayEvent → Prop
  | .call _ ⟨.insertAccount _ sessionId, (old : Option UInt32)⟩ =>
      pool.shared.selectedCharacters.get sessionId = none ∧
        ∀ oldSessionId, old = some oldSessionId → oldSessionId ≠ sessionId →
          pool.shared.selectedCharacters.get oldSessionId = none
  | .opens (.session d) => ∀ p ∈ pool.threads, ∃ l, p = .ret l ∧ ∀ d', l = .session d' →
      d'.sessionId ≠ d.sessionId
  | _ => True

/-- The shared copies are those of the sessions that have not stopped, which are all different. -/
structure Mirrored (g : GameState) (qs : List Copies) : Prop where
  mirrors : ∀ (k : Nat) q d, qs[k]? = some q → q.delegate = some d →
    g.selectedCharacters.get d.sessionId = d.selectedCharacter
  kicking : ∀ (k : Nat) d old, qs[k]? = some (.kicking d old) → g.selectedCharacters.get old = none
  distinct : ∀ (j k : Nat) q q' d d', qs[j]? = some q → qs[k]? = some q' → q.delegate = some d →
    q'.delegate = some d' → d.sessionId = d'.sessionId → j = k
  owned : ∀ s c, g.selectedCharacters.get s = some c →
    ∃ (k : Nat) (q : Copies) (d : Delegate), qs[k]? = some q ∧ q.delegate = some d ∧ d.sessionId = s

namespace Mirrored

variable {g : GameState} {qs : List Copies} {k : Nat} {q q' : Copies}

/-- A thread goes on with a delegate of the same session, whose copy is the shared one; those of other
sessions are as they were. -/
theorem update_thread (h : Mirrored g qs) (hk : qs[k]? = some q) (d d' : Delegate) (hd : q.delegate = some d)
    (hd' : q'.delegate = some d') (hsid : d'.sessionId = d.sessionId) {g' : GameState}
    (hown : g'.selectedCharacters.get d.sessionId = d'.selectedCharacter)
    (hothers : ∀ s, s ≠ d.sessionId → g'.selectedCharacters.get s = g.selectedCharacters.get s)
    (hkicking : ∀ (j : Nat) d old, (qs.set k q')[j]? = some (.kicking d old) →
      g'.selectedCharacters.get old = none) : Mirrored g' (qs.set k q') := by
  have hget : ∀ {j : Nat} {q₁ : Copies} {d₁ : Delegate}, (qs.set k q')[j]? = some q₁ →
      q₁.delegate = some d₁ → (j = k ∧ d₁ = d') ∨ (j ≠ k ∧ qs[j]? = some q₁ ∧ d₁.sessionId ≠ d.sessionId) := by
    intro j q₁ d₁ hj hd₁
    rw [Pool.Guide.get_set hk] at hj
    split_ifs at hj with hjk
    · cases hj
      exact Or.inl ⟨hjk, Option.some.inj (hd₁.symm.trans hd')⟩
    · exact Or.inr ⟨hjk, hj, fun heq => hjk (h.distinct _ _ _ _ _ _ hj hk hd₁ hd heq)⟩
  refine ⟨fun j q₁ d₁ hj hd₁ => ?_, hkicking, fun i j q₁ q₂ d₁ d₂ hi hj hd₁ hd₂ heq => ?_, fun s c hs => ?_⟩
  · rcases hget hj hd₁ with ⟨-, rfl⟩ | ⟨-, hj, hne⟩
    · rw [hsid]
      exact hown
    · rw [hothers _ hne]
      exact h.mirrors j q₁ d₁ hj hd₁
  · rcases hget hi hd₁ with ⟨rfl, rfl⟩ | ⟨-, hi, hne⟩ <;> rcases hget hj hd₂ with ⟨rfl, rfl⟩ | ⟨-, hj, hne'⟩
    · rfl
    · exact absurd (heq.symm.trans hsid) hne'
    · exact absurd (heq.trans hsid) hne
    · exact h.distinct i j q₁ q₂ d₁ d₂ hi hj hd₁ hd₂ heq
  · by_cases hs' : s = d.sessionId
    · exact ⟨k, q', d', (Pool.Guide.get_set hk _ _).trans (if_pos rfl), hd', hsid.trans hs'.symm⟩
    · rw [hothers s hs'] at hs
      obtain ⟨j, q₁, d₁, hj, hd₁, rfl⟩ := h.owned s c hs
      refine ⟨j, q₁, d₁, (Pool.Guide.get_set hk _ _).trans ((if_neg ?_).trans hj), hd₁, rfl⟩
      rintro rfl
      rw [hk] at hj
      cases hj
      exact hs' (congrArg _ (Option.some.inj (hd₁.symm.trans hd)))

theorem after_forgetting (h : Mirrored g qs) (hk : qs[k]? = some q) {d : Delegate} (hd : q.delegate = some d)
    {g' : GameState} (hown : g'.selectedCharacters.get d.sessionId = none)
    (hothers : ∀ s, s ≠ d.sessionId → g'.selectedCharacters.get s = g.selectedCharacters.get s) :
    Mirrored g' (qs.set k .none) := by
  have hget : ∀ {j : Nat} {q₁ : Copies} {d₁ : Delegate}, (qs.set k .none)[j]? = some q₁ →
      q₁.delegate = some d₁ → qs[j]? = some q₁ ∧ d₁.sessionId ≠ d.sessionId := by
    intro j q₁ d₁ hj hd₁
    rw [Pool.Guide.get_set hk] at hj
    split_ifs at hj with hjk
    · cases hj
      cases hd₁
    · exact ⟨hj, fun heq => hjk (h.distinct _ _ _ _ _ _ hj hk hd₁ hd heq)⟩
  refine ⟨fun j q₁ d₁ hj hd₁ => ?_, fun j d₁ old hj => ?_, fun i j q₁ q₂ d₁ d₂ hi hj hd₁ hd₂ => ?_,
    fun s c hs => ?_⟩
  · obtain ⟨hj, hne⟩ := hget hj hd₁
    rw [hothers _ hne]
    exact h.mirrors j q₁ d₁ hj hd₁
  · obtain ⟨hj, -⟩ := hget hj rfl
    by_cases hold : old = d.sessionId
    · rw [hold]
      exact hown
    · rw [hothers _ hold]
      exact h.kicking j d₁ old hj
  · exact h.distinct i j q₁ q₂ d₁ d₂ (hget hi hd₁).1 (hget hj hd₂).1 hd₁ hd₂
  · have hne : s ≠ d.sessionId := by
      rintro rfl
      rw [hown] at hs
      cases hs
    rw [hothers s hne] at hs
    obtain ⟨j, q₁, d₁, hj, hd₁, rfl⟩ := h.owned s c hs
    refine ⟨j, q₁, d₁, (Pool.Guide.get_set hk _ _).trans ((if_neg ?_).trans hj), hd₁, rfl⟩
    rintro rfl
    rw [hk] at hj
    cases hj
    exact hne (congrArg _ (Option.some.inj (hd₁.symm.trans hd)))

theorem after_call {pool : PlayPool} (h : Mirrored pool.shared qs) (hk : qs[k]? = some q) {op : GameOp}
    {answer : op.Answer} (hmoves : Moves q op answer q')
    (halone : ∀ (j : Nat) d old, j ≠ k → qs[j]? ≠ some (.kicking d old))
    (hok : Unselected pool (.call k ⟨op, answer⟩)) : Mirrored (pool.shared.after op) (qs.set k q') := by
  -- nobody else is at displacing a session
  have hkicks : ∀ {j : Nat} {d old}, (qs.set k q')[j]? = some (.kicking d old) → q' = .kicking d old := by
    intro j d old hj
    rw [Pool.Guide.get_set hk] at hj
    split_ifs at hj with hjk
    · exact Option.some.inj hj
    · exact absurd hj (halone j d old hjk)
  cases hmoves with
  | spares hspares =>
      have hsame : qs.set k q = qs := by
        obtain ⟨hlt, hget⟩ := List.getElem?_eq_some_iff.1 hk
        rw [← hget, List.set_getElem_self]
      rw [hsame]
      have hafter := pool.shared.after_spares hspares
      exact ⟨fun j q d hj hd => hafter ▸ h.mirrors j q d hj hd, fun j d old hj => hafter ▸ h.kicking j d old hj,
        h.distinct, fun s c hs => h.owned s c (hafter ▸ hs)⟩
  | @selects d c =>
      refine h.update_thread hk d { d with selectedCharacter := some c } rfl rfl rfl (Table.get_insert_self ..) (fun s hs => Table.get_insert_ne _ _ hs) ?_
      exact fun j d old hj => nomatch hkicks hj
  | @binds d accountId old =>
      obtain ⟨hnone, hold⟩ := hok
      have hbound : (Copies.bound { d with accountId := some accountId, selectedCharacter := none } old).delegate =
          some { d with accountId := some accountId, selectedCharacter := none } := by
        unfold Copies.bound
        split
        · split_ifs <;> rfl
        · rfl
      refine h.update_thread hk d _ rfl hbound rfl hnone (fun s _ => rfl) fun j d' old' hj => ?_
      have hkicking := hkicks hj
      unfold Copies.bound at hkicking
      split at hkicking
      · split_ifs at hkicking with hne
        cases hkicking
        exact hold _ rfl hne
      · cases hkicking
  | @givesUp d old accountId owner =>
      refine h.update_thread hk d d rfl rfl rfl (h.mirrors k _ d hk rfl) (fun s _ => rfl) fun j d old hj => ?_
      exact nomatch hkicks hj
  | @kicks d old =>
      have hold := h.kicking k d old hk
      have hsame : ∀ s, (pool.shared.selectedCharacters.remove old).get s =
          pool.shared.selectedCharacters.get s := by
        intro s
        rw [Table.remove_eq_self _ _ hold]
      refine h.update_thread hk d d rfl rfl rfl ?_ (fun s _ => hsame s) fun j d old hj => nomatch hkicks hj
      exact (hsame _).trans (h.mirrors k _ d hk rfl)
  | @forgets d => exact h.after_forgetting hk rfl (Table.get_remove_self ..) fun s hs => Table.get_remove_ne _ hs

theorem after_opens (h : Mirrored g qs) {l : Actor} (hnew : ∀ d, (copiesGuide.fresh qs.length l).delegate = some d →
    g.selectedCharacters.get d.sessionId = d.selectedCharacter ∧ ∀ (k : Nat) q d', qs[k]? = some q →
      q.delegate = some d' → d'.sessionId ≠ d.sessionId) : Mirrored g (qs ++ [copiesGuide.fresh qs.length l]) := by
  have hget : ∀ {j : Nat} {q : Copies}, (qs ++ [copiesGuide.fresh qs.length l])[j]? = some q →
      qs[j]? = some q ∨ (j = qs.length ∧ q = copiesGuide.fresh qs.length l) := by
    intro j q hj
    rw [List.getElem?_append] at hj
    split_ifs at hj with hlt
    · exact Or.inl hj
    · obtain ⟨hlast, heq⟩ := List.getElem?_eq_some_iff.1 hj
      simp only [List.length_singleton] at hlast
      exact Or.inr ⟨by omega, by simpa using heq.symm⟩
  refine ⟨fun j q d hj hd => ?_, fun j d old hj => ?_, fun i j q q' d d' hi hj hd hd' heq => ?_,
    fun s c hs => ?_⟩
  · rcases hget hj with hj | ⟨-, rfl⟩
    · exact h.mirrors j q d hj hd
    · exact (hnew d hd).1
  · rcases hget hj with hj | ⟨-, hlast⟩
    · exact h.kicking j d old hj
    · cases l <;> cases hlast
  · rcases hget hi with hi | ⟨rfl, rfl⟩ <;> rcases hget hj with hj | ⟨rfl, rfl⟩
    · exact h.distinct i j q q' d d' hi hj hd hd' heq
    · exact absurd heq ((hnew d' hd').2 i q d hi hd)
    · exact absurd heq.symm ((hnew d hd).2 j q' d' hj hd')
    · rfl
  · obtain ⟨k, q, d, hk, hd, hsid⟩ := h.owned s c hs
    exact ⟨k, q, d, (List.getElem?_append_left (List.getElem?_eq_some_iff.1 hk).1).trans hk, hd, hsid⟩

theorem step {pool : PlayPool} (h : Mirrored pool.shared qs) (htracks : copiesGuide.Tracks qs pool.threads)
    {e : PlayEvent} (halone : Pool.Alone pool e) (hok : Unselected pool e) {g' : GameState}
    {qs' : List Copies} (hstep : copiesGuide.Step (pool.shared, qs) e (g', qs')) : Mirrored g' qs' := by
  cases hstep with
  | @opens _ _ _ l hopens =>
      obtain ⟨rfl, hl⟩ := hopens
      rcases hl with rfl | ⟨sessionId, rfl⟩
      · refine h.after_opens fun d hd => nomatch hd
      · refine h.after_opens fun d hd => ?_
        cases hd
        -- nobody has the id, so nothing is stored under it
        have hfree : ∀ (k : Nat) q d, qs[k]? = some q → q.delegate = some d → d.sessionId ≠ sessionId := by
          intro k q d hk hd
          obtain ⟨p, hp, hfollows⟩ := htracks.get' hk
          obtain ⟨l, rfl, hl⟩ := hok p (List.mem_of_getElem? hp)
          have hrests : Copies.Rests q l := hfollows.of_ret
          cases q with
          | mirrors d' =>
              cases hd
              cases l with
              | session d₁ =>
                  obtain rfl : d₁ = d := hrests
                  exact hl d₁ rfl
              | _ => cases hrests
          | none => cases hd
          | _ => cases l <;> cases hrests
        refine ⟨?_, hfree⟩
        rcases hget : pool.shared.selectedCharacters.get sessionId with _ | c
        · rfl
        · obtain ⟨k, q, d, hk, hd, hsid⟩ := h.owned _ c hget
          exact absurd hsid (hfree k q d hk hd)
  | @input _ _ k q q' l e hk hstops hhandle hbegins =>
      cases q with
      | mirrors d =>
          have hkicking : ∀ (j : Nat) d' old, (qs.set k q')[j]? = some (.kicking d' old) →
              pool.shared.selectedCharacters.get old = none := by
            intro j d' old hj
            rw [Pool.Guide.get_set hk] at hj
            split_ifs at hj
            · cases e <;> cases hbegins <;> cases hj
            · exact h.kicking j d' old hj
          have hd' : q'.delegate = some d := by
            cases e <;> cases hbegins <;> rfl
          exact h.update_thread hk d d rfl hd' rfl (h.mirrors k _ d hk rfl) (fun _ _ => rfl) hkicking
      | none =>
          obtain rfl : q' = .none := by
            cases e <;> exact hbegins
          obtain ⟨hlt, hget⟩ := List.getElem?_eq_some_iff.1 hk
          rw [← hget, List.set_getElem_self]
          exact h
      | _ => cases e <;> cases hbegins
  | @call _ _ _ k q q' op answer hk hmoves hdoes =>
      obtain ⟨-, rfl⟩ := hdoes
      refine h.after_call hk hmoves (fun j d old hjk hj => ?_) hok
      obtain ⟨p, hp, hfollows⟩ := htracks.get' hj
      obtain ⟨l, rfl⟩ := halone j hjk p hp
      exact hfollows.of_ret
  | environment henv => exact henv.elim

end Mirrored

/-- In every run of handlers that are executed one at a time, if no account is bound to a session that has
a selected character or taken from one, the shared copy is the delegate's for every session at rest. -/
theorem selected_of_run (trace pool) (hrun : Run (Pool.Step playing) ⟨{}, []⟩ trace pool)
    (hturns : ∀ e ∈ trace, Pool.Alone e.1 e.2) (hok : ∀ e ∈ trace, Unselected e.1 e.2) (d : Delegate)
    (hd : .ret (.session d) ∈ pool.threads) :
    pool.shared.selectedCharacters.get d.sessionId = d.selectedCharacter := by
  have hinit : Mirrored {} [] := by
    refine ⟨fun k q d hk => ?_, fun k d old hk => ?_, fun j k q q' d d' hj => ?_, fun s c hs => ?_⟩
    · simp at hk
    · simp at hk
    · simp at hj
    · simp at hs
  obtain ⟨qs, htracks, hmirrored⟩ := copiesGuide.invariant rfl hrun
    (fun pool e => Pool.Alone pool e ∧ Unselected pool e) (fun e he => ⟨hturns e he, hok e he⟩)
    (fun _ g qs => Mirrored g qs) hinit
    fun _ _ _ _ _ _ htracks h hok hstep => h.step htracks hok.1 hok.2 hstep
  obtain ⟨k, hk⟩ := List.getElem?_of_mem hd
  obtain ⟨q, hq, hfollows⟩ := htracks.get hk
  have hrests : Copies.Rests q (.session d) := hfollows.of_ret
  cases q with
  | mirrors d' =>
      obtain rfl : d = d' := hrests
      exact hmirrored.mirrors k _ d hq rfl
  | _ => cases hrests

/-! ### Schedules -/

theorem alone_of_length {pool : PlayPool} (h : pool.threads.length = 1) (c : gameOps.Call) :
    Pool.Alone (E := Input) pool (.call 0 c) := by
  intro j hj p hp
  have hlt := (List.getElem?_eq_some_iff.1 hp).1
  omega

/-- Session 1 logs in and selects a character. -/
def selects : List (Pool.Slot Actor Input) :=
  .opens (.session { sessionId := 1 }) :: .input 0 (.frame (.login { account := "a", password := "" })) ::
    List.replicate 3 (.call 0) ++ .input 0 (.frame (.selectCharacter 1)) :: List.replicate 4 (.call 0)

theorem selected_of_run_select : ∃ (trace : _) (pool : _) (d : Delegate), Run (Pool.Step playing) ⟨{}, []⟩ trace pool ∧
    d.selectedCharacter.isSome ∧ pool.shared.selectedCharacters.get d.sessionId = d.selectedCharacter := by
  obtain ⟨⟨trace, pool⟩, hrecord⟩ := Option.isSome_iff_exists.1
    (show ((playExecutor hospitable).record ⟨{}, []⟩ selects).isSome = true from rfl)
  have hrun := Pool.Executor.record_sound _ hrecord
  cases hrecord
  refine ⟨_, _, { sessionId := 1, accountId := some 10, selectedCharacter := hospitable (.loadCharacterById 1) },
    hrun, rfl, selected_of_run _ _ hrun ?_ ?_ _ List.mem_cons_self⟩
  · simp only [List.forall_mem_cons]
    refine ⟨trivial, trivial, ?_, ?_, ?_, trivial, ?_, ?_, ?_, ?_, nofun⟩ <;> exact alone_of_length rfl _
  · simp only [List.forall_mem_cons]
    exact ⟨nofun, trivial, trivial, ⟨rfl, nofun⟩, trivial, trivial, trivial, trivial, trivial, trivial, nofun⟩

/-- It logs in once more: its delegate has no character then, and the others still find one. -/
theorem selected_after_login : ∃ (trace : _) (pool : _) (d : Delegate), Run (Pool.Step playing) ⟨{}, []⟩ trace pool ∧
    (∀ e ∈ trace, Pool.Alone e.1 e.2) ∧ .ret (.session d) ∈ pool.threads ∧ d.selectedCharacter = none ∧
      (pool.shared.selectedCharacters.get d.sessionId).isSome := by
  obtain ⟨⟨trace, pool⟩, hrecord⟩ := Option.isSome_iff_exists.1 (show ((playExecutor hospitable).record ⟨{}, []⟩
    (selects ++ .input 0 (.frame (.login { account := "a", password := "" })) ::
      List.replicate 3 (.call 0))).isSome = true from rfl)
  have hrun := Pool.Executor.record_sound _ hrecord
  cases hrecord
  refine ⟨_, _, { sessionId := 1, accountId := some 10 }, hrun, ?_, List.mem_cons_self, rfl, rfl⟩
  simp only [List.forall_mem_cons]
  refine ⟨trivial, trivial, ?_, ?_, ?_, trivial, ?_, ?_, ?_, ?_, trivial, ?_, ?_, ?_, nofun⟩ <;>
    exact alone_of_length rfl _

end AxmolFighter.Game
