import AxmolFighter.Game.Shared
import AxmolFighter.Lib.Threads

/-!
# Logins to one account at the same time

Several sessions bind the same account, and their calls of `bind_account` interleave. A call that has
displaced a session kicks it only if it still finds itself the owner. So a session that is displaced by a
call which is displaced in turn, before it has looked, is kicked by nobody. Otherwise every session that
ever owned the account is kicked or owns it.
-/

namespace AxmolFighter.Game.GameShared

open Pool

variable {Character : Type}

/-- The calls of `bind_account`; none starts later than the others, since a call that has not done its
first step has not begun. -/
def calls (Character : Type) : ThreadSystem accountOps (GameShared Character) Unit Empty where
  does g op answer g' := exec g op = (answer, g')
  handle _ _ := none
  opens _ _ _ _ := False
  environment _ _ := False

abbrev CallPool (Character : Type) := Pool accountOps (GameShared Character) Unit

abbrev CallEvent := Pool.Event accountOps Unit Empty

/-- All sessions are about to bind the account. -/
def callers (g : GameShared Character) (sessions : List UInt32) (accountId : Int64) :
    CallPool Character :=
  ⟨g, sessions.map fun sessionId => bindAccount sessionId accountId⟩

/-- All calls have returned. -/
def Returned (pool : CallPool Character) : Prop := ∀ p ∈ pool.threads, p = .ret ()

/-- The session whose first step the event is. -/
def inserted : CallEvent → Option UInt32
  | .call _ ⟨.insertAccount _ sessionId, _⟩ => some sessionId
  | _ => none

/-- The session was the owner of the account at some time. -/
def Owned (accountId : Int64) (trace : List (CallPool Character × CallEvent)) (g : GameShared Character)
    (sessionId : UInt32) : Prop :=
  g.accountSessions.get accountId = some sessionId ∨
    ∃ e ∈ trace, e.1.shared.accountSessions.get accountId = some sessionId

def Kicked (g : GameShared Character) (sessionId : UInt32) : Prop :=
  .kickSessionReq sessionId ∈ g.sent

/-- No session takes the account while a call that has displaced another is about to look who owns it. -/
def Settled (pool : CallPool Character) (e : CallEvent) : Prop :=
  (inserted e).isSome → ∀ accountId next, .call (.accountOwner accountId) next ∉ pool.threads

/-! ### What a call goes through -/

inductive Phase
  | calling
  | reading (old : UInt32)
  | kicking (old : UInt32)
  | returned
deriving DecidableEq

/-- The session of the call, and how far it is. -/
structure Call where
  sessionId : UInt32
  phase : Phase
deriving DecidableEq

/-- Where the first step leads that found `owner`. -/
def afterInsert (sessionId : UInt32) : Option UInt32 → Phase
  | some old => if old ≠ sessionId then .reading old else .returned
  | none => .returned

inductive Call.Moves (accountId : Int64) : Call → (op : AccountOp) → op.Answer → Call → Prop
  | insert (sessionId : UInt32) (owner : Option UInt32) :
      Moves accountId ⟨sessionId, .calling⟩ (.insertAccount accountId sessionId) owner
        ⟨sessionId, afterInsert sessionId owner⟩
  | read (sessionId old : UInt32) (owner : Option UInt32) :
      Moves accountId ⟨sessionId, .reading old⟩ (.accountOwner accountId) owner
        ⟨sessionId, if owner = some sessionId then .kicking old else .returned⟩
  | kick (sessionId old : UInt32) (answer : Unit) :
      Moves accountId ⟨sessionId, .kicking old⟩ (.kick old) answer ⟨sessionId, .returned⟩

def guide (Character : Type) (accountId : Int64) : Guide (calls Character) Call where
  moves := Call.Moves accountId
  stops q _ := q.phase = .returned
  fresh _ _ := ⟨0, .returned⟩
  begins _ _ _ := True
  fresh_stops _ _ _ _ h := h.elim
  follows _ _ e := e.elim

theorem follows_kickTarget (sessionId : UInt32) (accountId : Int64) (owner : Option UInt32) :
    ((kickTarget sessionId accountId owner) >>= fun target => Program.whenSome target
        fun oldSessionId => perform (.kick oldSessionId)).Follows (Call.Moves accountId)
      (fun q _ => q.phase = .returned) ⟨sessionId, afterInsert sessionId owner⟩ := by
  cases owner with
  | none => exact .ret rfl
  | some old =>
      by_cases hother : old ≠ sessionId
      · rw [kickTarget, afterInsert, if_pos hother, if_pos hother]
        refine .call _ (fun owner => .read sessionId old owner) fun owner => ?_
        show (Program.whenSome (if owner = some sessionId then some old else none)
          fun oldSessionId => perform (.kick oldSessionId)).Follows _ _ _
        split_ifs
        · exact .call _ (fun answer => Call.Moves.kick sessionId old answer) fun _ => .ret rfl
        · exact .ret rfl
      · rw [kickTarget, afterInsert, if_neg hother, if_neg hother]
        exact .ret rfl

theorem follows_bindAccount (sessionId : UInt32) (accountId : Int64) :
    (bindAccount sessionId accountId).Follows (Call.Moves accountId) (fun q _ => q.phase = .returned)
      ⟨sessionId, .calling⟩ :=
  .call _ (fun owner => .insert sessionId owner) fun owner => follows_kickTarget sessionId accountId owner

theorem tracks_callers (g : GameShared Character) (sessions : List UInt32) (accountId : Int64) :
    (guide Character accountId).Tracks (sessions.map fun sessionId => ⟨sessionId, .calling⟩)
      (callers g sessions accountId).threads := by
  rw [Guide.Tracks, callers, List.forall₂_map_left_iff, List.forall₂_map_right_iff, List.forall₂_same]
  exact fun sessionId _ => follows_bindAccount sessionId accountId

/-! ### The steps, seen from the calls -/

section Steps

variable {accountId : Int64} {g g' : GameShared Character} {qs qs' : List Call}

/-- A step of one of the calls. -/
inductive CallStep (accountId : Int64) (g : GameShared Character) (qs : List Call) :
    Option UInt32 → GameShared Character → List Call → Prop
  | insert {k : Nat} {sessionId : UInt32} (hk : qs[k]? = some ⟨sessionId, .calling⟩) :
      CallStep accountId g qs (some sessionId)
        { g with accountSessions := g.accountSessions.insert accountId sessionId }
        (qs.set k ⟨sessionId, afterInsert sessionId (g.accountSessions.get accountId)⟩)
  | read {k : Nat} {sessionId old : UInt32} (hk : qs[k]? = some ⟨sessionId, .reading old⟩) :
      CallStep accountId g qs none g (qs.set k ⟨sessionId,
        if g.accountSessions.get accountId = some sessionId then .kicking old else .returned⟩)
  | kick {k : Nat} {sessionId old : UInt32} (hk : qs[k]? = some ⟨sessionId, .kicking old⟩) :
      CallStep accountId g qs none (g.kick old) (qs.set k ⟨sessionId, .returned⟩)

theorem callStep_of_step {e : CallEvent}
    (h : (guide Character accountId).Step (g, qs) e (g', qs')) :
    CallStep accountId g qs (inserted e) g' qs' := by
  cases h with
  | opens h => exact h.elim
  | @input _ _ _ _ _ _ e _ _ _ _ => exact e.elim
  | environment h => exact h.elim
  | call hk hmoves h =>
      cases hmoves with
      | insert sessionId owner =>
          obtain ⟨rfl, rfl⟩ := Prod.mk.inj h
          exact .insert hk
      | read sessionId old owner =>
          obtain ⟨rfl, rfl⟩ := Prod.mk.inj h
          exact .read hk
      | kick sessionId old answer =>
          obtain ⟨-, rfl⟩ := Prod.mk.inj h
          exact .kick hk

theorem kicked_kick {old x : UInt32} : Kicked (g.kick old) x ↔ Kicked g x ∨ x = old := by
  simp [Kicked, kick]

theorem owned_snoc {trace : List (CallPool Character × CallEvent)} {pool : CallPool Character}
    {e : CallEvent} {x : UInt32} :
    Owned accountId (trace ++ [(pool, e)]) g' x ↔
      g'.accountSessions.get accountId = some x ∨ Owned accountId trace pool.shared x := by
  simp only [Owned, List.mem_append, List.mem_singleton, or_and_right, exists_or, exists_eq_left]
  exact or_congr_right or_comm

/-! ### Nobody is forgotten -/

/-- Who looks finds itself the owner, and every session that owned the account owns it, is kicked or has
somebody who is going to kick it. -/
structure Covered (accountId : Int64) (trace : List (CallPool Character × CallEvent))
    (g : GameShared Character) (qs : List Call) : Prop where
  readers : ∀ (k : Nat) (sessionId old : UInt32), qs[k]? = some ⟨sessionId, .reading old⟩ →
    g.accountSessions.get accountId = some sessionId
  owners : ∀ x, Owned accountId trace g x → g.accountSessions.get accountId = some x ∨ Kicked g x ∨
    ∃ (k : Nat) (sessionId : UInt32),
      qs[k]? = some ⟨sessionId, .reading x⟩ ∨ qs[k]? = some ⟨sessionId, .kicking x⟩

theorem Covered.step {trace : List (CallPool Character × CallEvent)} {pool : CallPool Character}
    {e : CallEvent} {ins : Option UInt32} (h : Covered accountId trace pool.shared qs)
    (hstep : CallStep accountId pool.shared qs ins g' qs')
    (hsettled : ins.isSome → ∀ (k : Nat) (sessionId old : UInt32), qs[k]? ≠ some ⟨sessionId, .reading old⟩) :
    Covered accountId (trace ++ [(pool, e)]) g' qs' := by
  cases hstep with
  | @insert k sessionId hk =>
      have hreaders := hsettled rfl
      have howner : (pool.shared.accountSessions.insert accountId sessionId).get accountId =
          some sessionId := Table.get_insert_self ..
      refine ⟨fun j other old hj => ?_, fun x hx => ?_⟩
      · rw [Guide.get_set hk] at hj
        split_ifs at hj with hjk
        · rw [← (Call.mk.inj (Option.some.inj hj)).1]
          exact howner
        · exact absurd hj (hreaders j other old)
      · rcases owned_snoc.1 hx with hnow | hbefore
        · exact Or.inl hnow
        · simp only [Guide.get_set hk]
          rcases h.owners x hbefore with hx | hx | ⟨j, other, hj | hj⟩
          · by_cases hsame : x = sessionId
            · exact Or.inl (hsame ▸ howner)
            · refine Or.inr (Or.inr ⟨k, sessionId, Or.inl ?_⟩)
              rw [if_pos rfl, hx, afterInsert, if_pos hsame]
          · exact Or.inr (Or.inl hx)
          · exact absurd hj (hreaders j other x)
          · refine Or.inr (Or.inr ⟨j, other, Or.inr ?_⟩)
            rw [if_neg ?_]
            · exact hj
            · rintro rfl
              simp [hk] at hj
  | @read k sessionId old hk =>
      have howner := h.readers k sessionId old hk
      refine ⟨fun j other old' hj => ?_, fun x hx => ?_⟩
      · rw [Guide.get_set hk] at hj
        by_cases hjk : j = k
        · rw [if_pos hjk, if_pos howner] at hj
          simp at hj
        · rw [if_neg hjk] at hj
          exact h.readers j other old' hj
      · rcases owned_snoc.1 hx with hnow | hbefore
        · exact Or.inl hnow
        · simp only [Guide.get_set hk]
          refine (h.owners x hbefore).imp_right (Or.imp_right ?_)
          rintro ⟨j, other, hj⟩
          by_cases hjk : j = k
          · subst hjk
            refine ⟨j, sessionId, Or.inr ?_⟩
            rw [if_pos rfl, if_pos howner]
            simp [hk] at hj
            rw [hj.2]
          · exact ⟨j, other, by rwa [if_neg hjk]⟩
  | @kick k sessionId old hk =>
      refine ⟨fun j other old' hj => ?_, fun x hx => ?_⟩
      · rw [Guide.get_set hk] at hj
        rw [kick_accountSessions]
        by_cases hjk : j = k
        · rw [if_pos hjk] at hj
          simp at hj
        · rw [if_neg hjk] at hj
          exact h.readers j other old' hj
      · rw [owned_snoc, kick_accountSessions] at hx
        rw [kick_accountSessions, kicked_kick]
        simp only [Guide.get_set hk]
        rcases hx with hnow | hbefore
        · exact Or.inl hnow
        · rcases h.owners x hbefore with hx | hx | ⟨j, other, hj⟩
          · exact Or.inl hx
          · exact Or.inr (Or.inl (Or.inl hx))
          · by_cases hjk : j = k
            · subst hjk
              simp [hk] at hj
              exact Or.inr (Or.inl (Or.inr hj.2.symm))
            · exact Or.inr (Or.inr ⟨j, other, by rwa [if_neg hjk]⟩)

/-! ### Somebody is forgotten -/

/-- The call displaced `x` and has not come to kick it. -/
def Waits (qs : List Call) (k : Nat) (sessionId x : UInt32) : Prop :=
  qs[k]? = some ⟨sessionId, .reading x⟩ ∨ qs[k]? = some ⟨sessionId, .kicking x⟩

/-- While every session calls once: who has not begun never owned the account, and a displaced session
has one call that waits for it, until it is kicked. -/
structure Ledger (accountId : Int64) (trace : List (CallPool Character × CallEvent))
    (g : GameShared Character) (qs : List Call) : Prop where
  sessions : ∀ (j k : Nat) q q', qs[j]? = some q → qs[k]? = some q' → q.sessionId = q'.sessionId → j = k
  fresh : ∀ (k : Nat) (sessionId : UInt32), qs[k]? = some ⟨sessionId, .calling⟩ →
    ¬ Owned accountId trace g sessionId
  begun : ∀ k sessionId x, Waits qs k sessionId x → Owned accountId trace g sessionId
  displaced : ∀ k sessionId x, Waits qs k sessionId x → Owned accountId trace g x ∧
    g.accountSessions.get accountId ≠ some x ∧ ¬ Kicked g x
  unique : ∀ j k sessionId sessionId' x, Waits qs j sessionId x → Waits qs k sessionId' x → j = k
  kicked : ∀ x, Kicked g x → Owned accountId trace g x ∧ g.accountSessions.get accountId ≠ some x

/-- Nobody is going to kick the session. -/
structure Lost (accountId : Int64) (trace : List (CallPool Character × CallEvent))
    (g : GameShared Character) (qs : List Call) (x : UInt32) : Prop where
  owned : Owned accountId trace g x
  displaced : g.accountSessions.get accountId ≠ some x
  spared : ¬ Kicked g x
  nobody : ∀ (k : Nat) (sessionId : UInt32), qs[k]? ≠ some ⟨sessionId, .kicking x⟩
  late : ∀ (k : Nat) (sessionId : UInt32), qs[k]? = some ⟨sessionId, .reading x⟩ →
    g.accountSessions.get accountId ≠ some sessionId

variable {trace : List (CallPool Character × CallEvent)} {pool : CallPool Character} {e : CallEvent}

theorem Ledger.sessions_set (h : Ledger accountId trace g qs) {k : Nat} {sessionId : UInt32}
    {phase phase' : Phase} (hk : qs[k]? = some ⟨sessionId, phase⟩) :
    ∀ (j i : Nat) q q', (qs.set k ⟨sessionId, phase'⟩)[j]? = some q →
      (qs.set k ⟨sessionId, phase'⟩)[i]? = some q' → q.sessionId = q'.sessionId → j = i := by
  have hold : ∀ (j : Nat) q, (qs.set k ⟨sessionId, phase'⟩)[j]? = some q →
      ∃ old, qs[j]? = some old ∧ old.sessionId = q.sessionId := by
    intro j q hj
    rw [Guide.get_set hk] at hj
    by_cases hjk : j = k
    · rw [if_pos hjk] at hj
      rw [hjk]
      exact ⟨_, hk, (congrArg Call.sessionId (Option.some.inj hj) :)⟩
    · rw [if_neg hjk] at hj
      exact ⟨q, hj, rfl⟩
  intro j i q q' hj hi hsame
  obtain ⟨old, hold_j, hs⟩ := hold j q hj
  obtain ⟨old', hold_i, hs'⟩ := hold i q' hi
  exact h.sessions j i old old' hold_j hold_i (hs.trans (hsame.trans hs'.symm))

theorem waits_set {k : Nat} {q : Call} (hk : qs[k]? = some q) {q' : Call} {j : Nat}
    {sessionId x : UInt32} (h : Waits (qs.set k q') j sessionId x) :
    (j = k ∧ (q' = ⟨sessionId, .reading x⟩ ∨ q' = ⟨sessionId, .kicking x⟩)) ∨
      (j ≠ k ∧ Waits qs j sessionId x) := by
  simp only [Waits, Guide.get_set hk] at h
  by_cases hjk : j = k
  · simp only [if_pos hjk, Option.some.injEq] at h
    exact Or.inl ⟨hjk, h⟩
  · rw [if_neg hjk] at h
    exact Or.inr ⟨hjk, h⟩

theorem afterInsert_eq {sessionId : UInt32} {owner : Option UInt32} :
    (afterInsert sessionId owner = .returned) ∨
      ∃ old, owner = some old ∧ old ≠ sessionId ∧ afterInsert sessionId owner = .reading old := by
  cases owner with
  | none => exact Or.inl rfl
  | some old =>
      by_cases hother : old ≠ sessionId
      · exact Or.inr ⟨old, rfl, hother, if_pos hother⟩
      · exact Or.inl (if_neg hother)

theorem waits_insert {k : Nat} {sessionId : UInt32} (hk : qs[k]? = some ⟨sessionId, .calling⟩)
    {owner : Option UInt32} {j : Nat} {other x : UInt32}
    (h : Waits (qs.set k ⟨sessionId, afterInsert sessionId owner⟩) j other x) :
    (j = k ∧ other = sessionId ∧ owner = some x ∧ x ≠ sessionId) ∨ (j ≠ k ∧ Waits qs j other x) := by
  refine (waits_set hk h).imp_left ?_
  rintro ⟨hjk, hcall⟩
  refine ⟨hjk, ?_⟩
  rcases @afterInsert_eq sessionId owner with hphase | ⟨old, howner, hother, hphase⟩
  · rw [hphase] at hcall
    simp at hcall
  · rw [hphase] at hcall
    simp only [Call.mk.injEq, Phase.reading.injEq, reduceCtorEq, and_false, or_false] at hcall
    obtain ⟨rfl, rfl⟩ := hcall
    exact ⟨rfl, howner, hother⟩

theorem Ledger.insert (h : Ledger accountId trace pool.shared qs) {k : Nat} {sessionId : UInt32}
    (hk : qs[k]? = some ⟨sessionId, .calling⟩) :
    Ledger accountId (trace ++ [(pool, e)])
      { pool.shared with accountSessions := pool.shared.accountSessions.insert accountId sessionId }
      (qs.set k ⟨sessionId, afterInsert sessionId (pool.shared.accountSessions.get accountId)⟩) := by
  have hfresh := h.fresh k sessionId hk
  have howner : (pool.shared.accountSessions.insert accountId sessionId).get accountId =
      some sessionId := Table.get_insert_self ..
  have hne : ∀ x, Owned accountId trace pool.shared x →
      (pool.shared.accountSessions.insert accountId sessionId).get accountId ≠ some x := by
    intro x hx heq
    rw [howner] at heq
    exact hfresh (Option.some.inj heq ▸ hx)
  refine ⟨h.sessions_set hk, fun j other hj => ?_, fun j other x hw => ?_, fun j other x hw => ?_,
    fun j i other other' x hj hi => ?_, fun x hx => ?_⟩
  · rw [Guide.get_set hk] at hj
    by_cases hjk : j = k
    · rw [if_pos hjk] at hj
      rcases @afterInsert_eq sessionId (pool.shared.accountSessions.get accountId) with
        hphase | ⟨old, -, -, hphase⟩ <;> simp [hphase] at hj
    · rw [if_neg hjk] at hj
      rw [owned_snoc]
      rintro (hnow | hbefore)
      · dsimp only at hnow
        rw [howner] at hnow
        exact hjk (h.sessions j k _ _ hj hk (Option.some.inj hnow).symm)
      · exact h.fresh j other hj hbefore
  · rw [owned_snoc]
    rcases waits_insert hk hw with ⟨-, rfl, -, -⟩ | ⟨-, hold⟩
    · exact Or.inl howner
    · exact Or.inr (h.begun j other x hold)
  · rw [owned_snoc]
    rcases waits_insert hk hw with ⟨-, -, hx, hother⟩ | ⟨-, hold⟩
    · refine ⟨Or.inr (Or.inl hx), fun heq => ?_, fun hkicked => (h.kicked x hkicked).2 hx⟩
      dsimp only at heq
      rw [howner] at heq
      exact hother (Option.some.inj heq).symm
    · obtain ⟨howned, -, hspared⟩ := h.displaced j other x hold
      exact ⟨Or.inr howned, hne x howned, hspared⟩
  · rcases waits_insert hk hj with ⟨hjk, -, hx, -⟩ | ⟨-, hold⟩
    · rcases waits_insert hk hi with ⟨hik, -, -, -⟩ | ⟨-, hold'⟩
      · exact hjk.trans hik.symm
      · exact absurd hx (h.displaced i other' x hold').2.1
    · rcases waits_insert hk hi with ⟨-, -, hx, -⟩ | ⟨-, hold'⟩
      · exact absurd hx (h.displaced j other x hold).2.1
      · exact h.unique j i other other' x hold hold'
  · rw [owned_snoc]
    have howned := (h.kicked x hx).1
    exact ⟨Or.inr howned, hne x howned⟩

/-- A step that leaves the owner alone, begins no call and lets nobody wait who did not. -/
theorem Ledger.goes_on (h : Ledger accountId trace pool.shared qs)
    (howner : g'.accountSessions.get accountId = pool.shared.accountSessions.get accountId)
    {k : Nat} {sessionId : UInt32} {phase phase' : Phase} (hk : qs[k]? = some ⟨sessionId, phase⟩)
    (hcalling : phase' ≠ .calling)
    (hwaits : ∀ j other x, Waits (qs.set k ⟨sessionId, phase'⟩) j other x →
      Waits qs j other x ∧ (Kicked g' x → Kicked pool.shared x))
    (hkicked : ∀ x, Kicked g' x → Kicked pool.shared x ∨ ∃ j other, Waits qs j other x) :
    Ledger accountId (trace ++ [(pool, e)]) g' (qs.set k ⟨sessionId, phase'⟩) := by
  have howned : ∀ x, Owned accountId (trace ++ [(pool, e)]) g' x ↔ Owned accountId trace pool.shared x := by
    intro x
    rw [owned_snoc, howner]
    exact or_iff_right_of_imp Or.inl
  refine ⟨h.sessions_set hk, fun j other hj => ?_, fun j other x hw => ?_, fun j other x hw => ?_,
    fun j i other other' x hj hi => ?_, fun x hx => ?_⟩
  · rw [howned]
    rw [Guide.get_set hk] at hj
    by_cases hjk : j = k
    · rw [if_pos hjk] at hj
      simp [hcalling] at hj
    · rw [if_neg hjk] at hj
      exact h.fresh j other hj
  · rw [howned]
    exact h.begun j other x (hwaits j other x hw).1
  · rw [howned, howner]
    obtain ⟨hold, hspared⟩ := hwaits j other x hw
    obtain ⟨hx, hgone, hnot⟩ := h.displaced j other x hold
    exact ⟨hx, hgone, mt hspared hnot⟩
  · exact h.unique j i other other' x (hwaits j other x hj).1 (hwaits i other' x hi).1
  · rw [howned, howner]
    rcases hkicked x hx with hx | ⟨j, other, hw⟩
    · exact h.kicked x hx
    · exact ⟨(h.displaced j other x hw).1, (h.displaced j other x hw).2.1⟩

theorem Ledger.step {ins : Option UInt32} (h : Ledger accountId trace pool.shared qs)
    (hstep : CallStep accountId pool.shared qs ins g' qs') :
    Ledger accountId (trace ++ [(pool, e)]) g' qs' := by
  cases hstep with
  | insert hk => exact h.insert hk
  | @read k sessionId old hk =>
      refine h.goes_on rfl hk ?_ (fun j other x hw => ⟨?_, id⟩) fun x hx => Or.inl hx
      · split_ifs <;> simp
      · rcases waits_set hk hw with ⟨rfl, hcall⟩ | ⟨-, hold⟩
        · split_ifs at hcall
          · simp only [Call.mk.injEq, reduceCtorEq, and_false, Phase.kicking.injEq, false_or] at hcall
            obtain ⟨rfl, rfl⟩ := hcall
            exact Or.inl hk
          · simp at hcall
        · exact hold
  | @kick k sessionId old hk =>
      refine h.goes_on (by rw [kick_accountSessions]) hk (by simp) (fun j other x hw => ?_) fun x hx => ?_
      · rcases waits_set hk hw with ⟨-, hcall⟩ | ⟨hjk, hold⟩
        · simp at hcall
        · refine ⟨hold, fun hx => (kicked_kick.1 hx).resolve_right ?_⟩
          rintro rfl
          exact hjk (h.unique j k other sessionId x hold (Or.inr hk))
      · refine (kicked_kick.1 hx).imp_right ?_
        rintro rfl
        exact ⟨k, sessionId, Or.inr hk⟩

theorem Lost.step {ins : Option UInt32} {x : UInt32} (h : Lost accountId trace pool.shared qs x)
    (hledger : Ledger accountId trace pool.shared qs)
    (hstep : CallStep accountId pool.shared qs ins g' qs') :
    Lost accountId (trace ++ [(pool, e)]) g' qs' x := by
  cases hstep with
  | @insert k sessionId hk =>
      have hfresh := hledger.fresh k sessionId hk
      have howner : (pool.shared.accountSessions.insert accountId sessionId).get accountId =
          some sessionId := Table.get_insert_self ..
      refine ⟨owned_snoc.2 (Or.inr h.owned), ?_, h.spared, fun j other hj => ?_, fun j other hj => ?_⟩
      · dsimp only
        rw [howner]
        exact fun heq => hfresh (Option.some.inj heq ▸ h.owned)
      · rcases waits_insert hk (Or.inr hj) with ⟨-, -, hx, -⟩ | ⟨hjk, -⟩
        · exact h.displaced hx
        · rw [Guide.get_set hk, if_neg hjk] at hj
          exact h.nobody j other hj
      · rcases waits_insert hk (Or.inl hj) with ⟨-, -, hx, -⟩ | ⟨-, hold⟩
        · exact absurd hx h.displaced
        · dsimp only
          rw [howner]
          exact fun heq => hfresh (Option.some.inj heq ▸ hledger.begun j other x hold)
  | @read k sessionId old hk =>
      refine ⟨owned_snoc.2 (Or.inr h.owned), h.displaced, h.spared, fun j other hj => ?_,
        fun j other hj => ?_⟩
      · rw [Guide.get_set hk] at hj
        by_cases hjk : j = k
        · rw [if_pos hjk] at hj
          split_ifs at hj with hmine
          · simp only [Option.some.injEq, Call.mk.injEq, Phase.kicking.injEq] at hj
            exact h.late k sessionId (hj.2 ▸ hk) hmine
          · simp at hj
        · rw [if_neg hjk] at hj
          exact h.nobody j other hj
      · rcases waits_set hk (Or.inl hj) with ⟨rfl, hcall⟩ | ⟨hjk, -⟩
        · split_ifs at hcall
          · simp only [Guide.get_set hk, if_true, Option.some.injEq, Call.mk.injEq] at hj
            split_ifs at hj
            simp at hj
          · simp at hcall
        · rw [Guide.get_set hk, if_neg hjk] at hj
          exact h.late j other hj
  | @kick k sessionId old hk =>
      refine ⟨owned_snoc.2 (Or.inr h.owned), by rw [kick_accountSessions]; exact h.displaced,
        fun hx => ?_, fun j other hj => ?_, fun j other hj => ?_⟩
      · refine h.spared ((kicked_kick.1 hx).resolve_right ?_)
        rintro rfl
        exact h.nobody k sessionId hk
      · rw [Guide.get_set hk] at hj
        by_cases hjk : j = k
        · rw [if_pos hjk] at hj
          simp at hj
        · rw [if_neg hjk] at hj
          exact h.nobody j other hj
      · rw [Guide.get_set hk] at hj
        rw [kick_accountSessions]
        by_cases hjk : j = k
        · rw [if_pos hjk] at hj
          simp at hj
        · rw [if_neg hjk] at hj
          exact h.late j other hj

theorem Ledger.loses (h : Ledger accountId trace pool.shared qs) {j : Nat} {other x : UInt32}
    (hj : qs[j]? = some ⟨other, .reading x⟩) {sessionId : UInt32}
    (hstep : CallStep accountId pool.shared qs (some sessionId) g' qs') :
    Lost accountId (trace ++ [(pool, e)]) g' qs' x := by
  cases hstep with
  | @insert k sessionId hk =>
      have hfresh := h.fresh k sessionId hk
      have howner : (pool.shared.accountSessions.insert accountId sessionId).get accountId =
          some sessionId := Table.get_insert_self ..
      obtain ⟨howned, hgone, hspared⟩ := h.displaced j other x (Or.inl hj)
      refine ⟨owned_snoc.2 (Or.inr howned), ?_, hspared, fun i third hi => ?_, fun i third hi => ?_⟩
      · dsimp only
        rw [howner]
        exact fun heq => hfresh (Option.some.inj heq ▸ howned)
      · rcases waits_insert hk (Or.inr hi) with ⟨-, -, hx, -⟩ | ⟨hik, hold⟩
        · exact hgone hx
        · have hsame := h.unique i j third other x hold (Or.inl hj)
          rw [Guide.get_set hk, if_neg hik, hsame, hj] at hi
          simp at hi
      · rcases waits_insert hk (Or.inl hi) with ⟨-, -, hx, -⟩ | ⟨-, hold⟩
        · exact absurd hx hgone
        · dsimp only
          rw [howner]
          exact fun heq => hfresh (Option.some.inj heq ▸ h.begun i third x hold)

end Steps

/-! ### Runs -/

/-- Whoever owned the account and does not own it now was kicked. -/
def NoZombie (accountId : Int64) (trace : List (CallPool Character × CallEvent))
    (g : GameShared Character) : Prop :=
  ∀ x, Owned accountId trace g x → g.accountSessions.get accountId ≠ some x → Kicked g x

/-- The session that took the account last. -/
def lastInserted (trace : List (CallPool Character × CallEvent)) : Option UInt32 :=
  (trace.filterMap fun e => inserted e.2).getLast?

theorem lastInserted_snoc (trace : List (CallPool Character × CallEvent)) (pool : CallPool Character)
    (e : CallEvent) : lastInserted (trace ++ [(pool, e)]) = (inserted e).or (lastInserted trace) := by
  rw [lastInserted, lastInserted, List.filterMap_append]
  cases h : inserted e <;> simp [h]

section Runs

variable {accountId : Int64} {g : GameShared Character} {sessions : List UInt32}
  {trace : List (CallPool Character × CallEvent)} {pool : CallPool Character}

theorem owner_of_run (hrun : Run (Pool.Step (calls Character)) (callers g sessions accountId) trace pool) :
    pool.shared.accountSessions.get accountId =
      (lastInserted trace).or (g.accountSessions.get accountId) := by
  obtain ⟨qs, -, h⟩ := (guide Character accountId).invariant_of (tracks_callers g sessions accountId) hrun
    (fun _ _ => True) (fun _ _ => trivial)
    (fun trace g' _ => g'.accountSessions.get accountId =
      (lastInserted trace).or (g.accountSessions.get accountId)) rfl (by
      intro trace pool qs e g' qs' _ h _ hstep
      have hcall := callStep_of_step hstep
      rw [lastInserted_snoc]
      generalize inserted e = ins at hcall ⊢
      cases hcall with
      | insert _ => exact Table.get_insert_self ..
      | read _ => exact h
      | kick _ =>
          rw [kick_accountSessions]
          exact h)
  exact h

theorem reading_iff {qs : List Call} {threads : List (Program accountOps Unit)}
    (htracks : (guide Character accountId).Tracks qs threads) :
    (∃ (k : Nat) (sessionId old : UInt32), qs[k]? = some ⟨sessionId, .reading old⟩) ↔
      ∃ a next, Program.call (S := accountOps) (.accountOwner a) next ∈ threads := by
  constructor
  · rintro ⟨k, sessionId, old, hk⟩
    obtain ⟨p, hp, hfollows⟩ := htracks.get' hk
    cases hfollows with
    | ret hstops => cases hstops
    | @call _ op next after hmoves _ =>
        obtain ⟨answer⟩ : Nonempty op.Answer := by
          cases op with
          | insertAccount | accountOwner => exact ⟨(none : Option UInt32)⟩
          | kick => exact ⟨()⟩
        cases op with
        | insertAccount | kick => nomatch hmoves answer
        | accountOwner a => exact ⟨a, next, List.mem_of_getElem? hp⟩
  · rintro ⟨a, next, hmem⟩
    obtain ⟨k, hk⟩ := List.getElem?_of_mem hmem
    obtain ⟨⟨sessionId, phase⟩, hq, hfollows⟩ := htracks.get hk
    obtain ⟨q', hmoves, -⟩ := hfollows.step (none : Option UInt32)
    cases hmoves with
    | read _ old _ => exact ⟨k, sessionId, old, hq⟩

theorem not_waits_of_returned {qs : List Call}
    (htracks : (guide Character accountId).Tracks qs pool.threads) (hreturned : Returned pool) (k : Nat)
    (sessionId x : UInt32) : ¬ Waits qs k sessionId x := by
  intro hw
  have hphase : ∀ q, qs[k]? = some q → q.phase = .returned := by
    intro q hk
    obtain ⟨p, hp, hfollows⟩ := htracks.get' hk
    rw [hreturned p (List.mem_of_getElem? hp)] at hfollows
    exact hfollows.of_ret
  rcases hw with hk | hk
  · cases hphase _ hk
  · cases hphase _ hk

theorem noZombie_of_settled
    (hrun : Run (Pool.Step (calls Character)) (callers g sessions accountId) trace pool)
    (hreturned : Returned pool) (hsettled : ∀ e ∈ trace, Settled e.1 e.2) :
    NoZombie accountId trace pool.shared := by
  obtain ⟨qs, htracks, hcovered⟩ := (guide Character accountId).invariant_of
    (tracks_callers g sessions accountId) hrun Settled hsettled (Covered accountId)
    ⟨by simp, fun x hx => Or.inl (hx.resolve_right (by simp))⟩ (by
      intro trace pool qs e g' qs' htracks h hok hstep
      refine h.step (callStep_of_step hstep) fun hins k sessionId old hk => ?_
      obtain ⟨a, next, hmem⟩ := (reading_iff htracks).1 ⟨k, sessionId, old, hk⟩
      exact hok hins a next hmem)
  intro x hx hgone
  rcases hcovered.owners x hx with howner | hkicked | ⟨k, sessionId, hw⟩
  · exact absurd howner hgone
  · exact hkicked
  · exact absurd hw (not_waits_of_returned htracks hreturned k sessionId x)

theorem Ledger.start (hdistinct : sessions.Nodup)
    (hothers : ∀ sessionId ∈ sessions, g.accountSessions.get accountId ≠ some sessionId)
    (hsent : g.sent = []) :
    Ledger accountId [] g (sessions.map fun sessionId => ⟨sessionId, .calling⟩) := by
  have hnobody : ∀ k sessionId x,
      ¬ Waits (sessions.map fun sessionId => ⟨sessionId, .calling⟩) k sessionId x := by
    intro k sessionId x
    simp [Waits]
  refine ⟨fun j k q q' hj hk hsame => ?_, fun k sessionId hk => ?_,
    fun k sessionId x hw => absurd hw (hnobody k sessionId x),
    fun k sessionId x hw => absurd hw (hnobody k sessionId x),
    fun j k sessionId _ x hw _ => absurd hw (hnobody j sessionId x), fun x hx => ?_⟩
  · simp only [List.getElem?_map, Option.map_eq_some_iff] at hj hk
    obtain ⟨s, hs, rfl⟩ := hj
    obtain ⟨s', hs', rfl⟩ := hk
    obtain rfl : s = s' := hsame
    obtain ⟨hlt, hget⟩ := List.getElem?_eq_some_iff.1 hs
    obtain ⟨hlt', hget'⟩ := List.getElem?_eq_some_iff.1 hs'
    exact hdistinct.getElem_inj_iff.1 (hget.trans hget'.symm)
  · simp only [List.getElem?_map, Option.map_eq_some_iff, Call.mk.injEq, and_true] at hk
    obtain ⟨s, hs, rfl⟩ := hk
    rintro (howner | ⟨e, he, -⟩)
    · exact hothers s (List.mem_of_getElem? hs) howner
    · cases he
  · rw [Kicked, hsent] at hx
    cases hx

theorem settled_of_noZombie (hdistinct : sessions.Nodup)
    (hrun : Run (Pool.Step (calls Character)) (callers { g with sent := [] } sessions accountId) trace pool)
    (hothers : ∀ sessionId ∈ sessions, g.accountSessions.get accountId ≠ some sessionId)
    (h : NoZombie accountId trace pool.shared) : ∀ e ∈ trace, Settled e.1 e.2 := by
  obtain ⟨qs, htracks, hledger, hlost⟩ := (guide Character accountId).invariant_of
    (tracks_callers _ sessions accountId) hrun (fun _ _ => True) (fun _ _ => trivial)
    (fun trace g qs => Ledger accountId trace g qs ∧
      ((∃ e ∈ trace, ¬ Settled e.1 e.2) → ∃ x, Lost accountId trace g qs x))
    ⟨Ledger.start hdistinct hothers rfl, by simp⟩ (by
      intro trace pool qs e g' qs' htracks h _ hstep
      obtain ⟨hledger, hlost⟩ := h
      have hcall := callStep_of_step hstep
      refine ⟨hledger.step hcall, ?_⟩
      rintro ⟨e', he', hnot⟩
      rcases List.mem_append.1 he' with he' | he'
      · obtain ⟨x, hx⟩ := hlost ⟨e', he', hnot⟩
        exact ⟨x, hx.step hledger hcall⟩
      · rw [List.mem_singleton.1 he'] at hnot
        simp only [Settled, not_forall, not_not] at hnot
        obtain ⟨hins, a, next, hmem⟩ := hnot
        obtain ⟨k, sessionId, old, hk⟩ := (reading_iff htracks).2 ⟨a, next, hmem⟩
        obtain ⟨taker, htaker⟩ := Option.isSome_iff_exists.1 hins
        rw [htaker] at hcall
        exact ⟨old, hledger.loses hk hcall⟩)
  by_contra hnot
  simp only [not_forall] at hnot
  obtain ⟨e, he, hnot⟩ := hnot
  obtain ⟨x, hx⟩ := hlost ⟨e, he, hnot⟩
  exact hx.spared (h x hx.owned hx.displaced)

/-- When all calls have returned, the session that took the account last owns it. Every session that
owned it before is kicked if nobody took the account while another was about to look; and only then, if
the first owner is none of the callers. -/
theorem noZombie_of_run (hdistinct : sessions.Nodup)
    (hrun : Run (Pool.Step (calls Character)) (callers { g with sent := [] } sessions accountId) trace pool)
    (hreturned : Returned pool) :
    pool.shared.accountSessions.get accountId =
        (lastInserted trace).or (g.accountSessions.get accountId) ∧
      ((∀ e ∈ trace, Settled e.1 e.2) → NoZombie accountId trace pool.shared) ∧
      ((∀ sessionId ∈ sessions, g.accountSessions.get accountId ≠ some sessionId) →
        NoZombie accountId trace pool.shared → ∀ e ∈ trace, Settled e.1 e.2) :=
  ⟨@owner_of_run _ _ { g with sent := [] } _ _ _ hrun, noZombie_of_settled hrun hreturned,
    settled_of_noZombie hdistinct hrun⟩

end Runs

/-! ### Three logins -/

def executor (Character : Type) : Executor (calls Character) where
  exec := exec
  opened _ _ _ := none
  does_exec _ _ := rfl
  opens_opened _ _ _ _ h := nomatch h

def returned (pool : CallPool Character) : Bool :=
  pool.threads.all fun
    | .ret _ => true
    | .call .. => false

theorem returned_iff {pool : CallPool Character} : returned pool = true ↔ Returned pool := by
  rw [returned, List.all_eq_true]
  refine forall₂_congr fun p _ => ?_
  cases p <;> simp

/-- Sessions 1, 2 and 3 bind account 10 one after the other. -/
theorem noZombie_of_run_sample :
    ∃ trace pool, Run (Pool.Step (calls Unit)) (callers {} [1, 2, 3] 10) trace pool ∧
      Returned pool ∧ lastInserted trace = some 3 ∧
      ((∀ e ∈ trace, Settled e.1 e.2) ↔ NoZombie 10 trace pool.shared) := by
  have hschedule : ((executor Unit).schedule (callers {} [1, 2, 3] 10)
      [.call 0, .call 1, .call 1, .call 1, .call 2, .call 2, .call 2]).map
        (fun pool => (pool.shared.accountSessions.get 10, returned pool)) = some (some 3, true) := by
    decide +kernel
  obtain ⟨pool, hpool, heq⟩ := Option.map_eq_some_iff.1 hschedule
  obtain ⟨howner, hall⟩ := Prod.mk.inj heq
  obtain ⟨trace, hrun⟩ := (executor Unit).schedule_sound hpool
  have hreturned := returned_iff.1 hall
  obtain ⟨hlast, hsettled, hnecessary⟩ := noZombie_of_run (g := {}) (by decide) hrun hreturned
  refine ⟨trace, pool, hrun, hreturned, ?_, hsettled, hnecessary fun _ _ => by simp⟩
  rw [howner] at hlast
  simpa using hlast.symm

/-- Session 3 takes the account from session 2 before that one has looked: session 1 is never kicked. -/
theorem zombie_of_three_logins :
    ∃ trace pool, Run (Pool.Step (calls Unit)) (callers {} [1, 2, 3] 10) trace pool ∧
      Returned pool ∧ ¬ NoZombie 10 trace pool.shared := by
  have hschedule : ((executor Unit).schedule (callers {} [1, 2, 3] 10) [.call 0]).bind
      (fun first => ((executor Unit).schedule first [.call 1, .call 2, .call 1, .call 2, .call 2]).map
        fun pool => (first.shared.accountSessions.get 10, pool.shared.accountSessions.get 10,
          pool.shared.sent, returned pool)) =
      some (some 1, some 3, [.accountKickedPush 2 1 "Your account logged in elsewhere.",
        .kickSessionReq 2], true) := by
    decide +kernel
  obtain ⟨first, hfirst, hrest⟩ := Option.bind_eq_some_iff.1 hschedule
  obtain ⟨pool, hpool, heq⟩ := Option.map_eq_some_iff.1 hrest
  simp only [Prod.mk.injEq] at heq
  obtain ⟨howned, howner, hsent, hall⟩ := heq
  obtain ⟨trace, hrun⟩ := (executor Unit).schedule_sound hfirst
  obtain ⟨trace', hrun'⟩ := (executor Unit).schedule_sound hpool
  refine ⟨trace ++ trace', pool, hrun.append hrun', returned_iff.1 hall, fun h => ?_⟩
  have hmem : ∃ e, (first, e) ∈ trace' := by
    refine hrun'.start_mem ?_
    rintro rfl
    rw [howned] at howner
    exact absurd howner (by decide)
  obtain ⟨e, he⟩ := hmem
  have hkicked := h 1 (Or.inr ⟨(first, e), List.mem_append_right _ he, howned⟩) (by rw [howner]; decide)
  rw [Kicked, hsent] at hkicked
  simp at hkicked

end AxmolFighter.Game.GameShared
