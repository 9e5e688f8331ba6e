import AxmolFighter.Game.Indexes
import AxmolFighter.Game.Sessions

/-!
# Servers that go offline

`handle_battle_server_offline` and `handle_town_server_offline` take the sessions of an instance from the
index and look no further. With every function of the shared state run alone, the index is always exact, and
so are the sessions that are taken away and told.
-/

namespace AxmolFighter.Game

open GameState Program

/-- The functions that change the maps of sessions. -/
inductive SharedCall
  | bindBattleSession (sessionId battleId battleInstanceId : UInt32)
  | clearBattleSession (sessionId : UInt32)
  | bindTownSession (sessionId townInstanceId : UInt32)
  | clearTownSession (sessionId : UInt32)
  | clearSessionRuntimeState (sessionId : UInt32)
  | clearAllRuntimeState
  | handleLogin (d : Delegate) (req : LoginReq)
  | onStop (d : Delegate)
  | handleBattleServerOffline (battleInstanceId : UInt32)
  | handleTownServerOffline (townInstanceId : UInt32)

def SharedCall.program : SharedCall → Program gameOps Unit
  | .bindBattleSession s b i => GameState.bindBattleSession s b i
  | .clearBattleSession s => GameState.clearBattleSession s
  | .bindTownSession s i => GameState.bindTownSession s i
  | .clearTownSession s => GameState.clearTownSession s
  | .clearSessionRuntimeState s => GameState.clearSessionRuntimeState s
  | .clearAllRuntimeState => GameState.clearAllRuntimeState
  | .handleLogin d req => do
      let _ ← d.handleLogin req
      pure ()
  | .onStop d => d.onStop
  | .handleBattleServerOffline i => GameState.handleBattleServerOffline i
  | .handleTownServerOffline i => GameState.handleTownServerOffline i

/-- A call that nothing else comes between. -/
def SharedCall.Step (g : GameState) (call : SharedCall) (g' : GameState) : Prop := Runs Does call.program g () g'

/-! ### The index between calls -/

/-- The operation leaves both maps of both sides alone. -/
def GameOp.Apart (op : GameOp) : Prop := ∀ g : GameState, (g.after op).index = g.index

/-- Run alone, the program keeps the maps consistent. -/
def Keeping {α : Type} (p : Program gameOps α) : Prop :=
  ∀ g a g', Runs Does p g a g' → g.Consistent → g'.Consistent

namespace Keeping

variable {α β : Type}

theorem of_calls {p : Program gameOps α} (h : p.Calls GameOp.Apart) : Keeping p := by
  intro g a g' hruns hconsistent
  refine hruns.keeps h GameState.Consistent ?_ hconsistent
  rintro g op answer _ hconsistent hop ⟨-, rfl⟩ side
  rw [hop g]
  exact hconsistent side

theorem bind {p : Program gameOps α} {f : α → Program gameOps β} (hp : Keeping p) (hf : ∀ a, Keeping (f a)) :
    Keeping (p >>= f) := by
  intro g b g' hruns hconsistent
  obtain ⟨a, g₁, hfirst, hrest⟩ := runs_bind.1 hruns
  exact hf a g₁ b g' hrest (hp g a g₁ hfirst hconsistent)

theorem whenSome {a : Option α} {f : α → Program gameOps Unit} (h : ∀ a, Keeping (f a)) :
    Keeping (Program.whenSome a f) := by
  cases a with
  | none => exact of_calls (.ret _)
  | some a => exact h a

end Keeping

/-- One side's index becomes `x`, and the other one stays. -/
def Becomes (g : GameState) (side : Side) (x : Index UInt32 UInt32) (g' : GameState) : Prop :=
  g'.index side = x ∧ ∀ other, other ≠ side → g'.index other = g.index other

theorem Becomes.consistent {g g' : GameState} {side : Side} {x : Index UInt32 UInt32} (h : Becomes g side x g')
    (hconsistent : g.Consistent) (hx : x.Agrees) : g'.Consistent := by
  intro other
  by_cases hother : other = side
  · rw [hother, h.1]
    exact hx
  · rw [h.2 other hother]
    exact hconsistent other

theorem becomes_after {g : GameState} {op : GameOp} {side : Side} {c : Index.Change UInt32 UInt32}
    (hop : op.change = some (side, c)) : Becomes g side ((g.index side).after c) (g.after op) :=
  ⟨index_after hop, fun _ hother => index_after_other hop hother⟩

theorem Becomes.then {g g₁ : GameState} {side : Side} {x : Index UInt32 UInt32} (h : Becomes g side x g₁)
    {op : GameOp} {c : Index.Change UInt32 UInt32} (hop : op.change = some (side, c)) :
    Becomes g side (x.after c) (g₁.after op) := by
  refine ⟨?_, fun other hother => ?_⟩
  · rw [index_after hop, h.1]
  · rw [index_after_other hop hother, h.2 other hother]

variable {g g' : GameState} {u : Unit} {s : UInt32}

theorem clearBattleSession_becomes (h : Runs Does (clearBattleSession s) g u g') :
    Becomes g .battle ((g.index .battle).clear s) g' := by
  obtain ⟨old, g₁, ⟨hold, rfl⟩, hdrop⟩ := runs_call.1 h
  have hentry : (g.index .battle).entry s = Option.map (·.battleInstanceId) old :=
    (@Returns.found _ _ .battle _ hold _ rfl).symm
  have htaken : Becomes g .battle ((g.index .battle).after (.take s)) (g.after (.removeBattle s)) :=
    becomes_after rfl
  unfold Index.clear
  rw [hentry]
  cases old with
  | none =>
      obtain ⟨-, rfl⟩ := runs_ret.1 hdrop
      exact htaken
  | some state =>
      obtain ⟨-, rfl⟩ := runs_perform.1 hdrop
      exact htaken.then rfl

theorem clearTownSession_becomes (h : Runs Does (clearTownSession s) g u g') :
    Becomes g .town ((g.index .town).clear s) g' := by
  obtain ⟨old, g₁, ⟨hold, rfl⟩, hdrop⟩ := runs_call.1 h
  have hentry : (g.index .town).entry s = old := (@Returns.found _ _ .town _ hold _ rfl).symm
  have htaken : Becomes g .town ((g.index .town).after (.take s)) (g.after (.removeTown s)) := becomes_after rfl
  unfold Index.clear
  rw [hentry]
  cases old with
  | none =>
      obtain ⟨-, rfl⟩ := runs_ret.1 hdrop
      exact htaken
  | some townInstanceId =>
      obtain ⟨-, rfl⟩ := runs_perform.1 hdrop
      exact htaken.then rfl

theorem clearBattleSession_keeping (s : UInt32) : Keeping (clearBattleSession s) :=
  fun _ _ _ h hconsistent => (clearBattleSession_becomes h).consistent hconsistent ((hconsistent .battle).clear s)

theorem clearTownSession_keeping (s : UInt32) : Keeping (clearTownSession s) :=
  fun _ _ _ h hconsistent => (clearTownSession_becomes h).consistent hconsistent ((hconsistent .town).clear s)

theorem bindBattleSession_keeping (s battleId i : UInt32) : Keeping (bindBattleSession s battleId i) := by
  intro g u g' h hconsistent
  obtain ⟨_, g₁, hclear, hbind⟩ := runs_bind.1 h
  obtain ⟨_, g₂, ⟨-, rfl⟩, hadd⟩ := runs_call.1 hbind
  obtain ⟨-, rfl⟩ := runs_perform.1 hadd
  have hbound : Becomes g .battle ((g.index .battle).bind s i)
      ((g₁.after (.insertBattle s ⟨battleId, i⟩)).after (.addToBattleInstance i s)) :=
    ((clearBattleSession_becomes hclear).then rfl).then rfl
  exact hbound.consistent hconsistent ((hconsistent .battle).bind s i)

theorem bindTownSession_keeping (s i : UInt32) : Keeping (bindTownSession s i) := by
  intro g u g' h hconsistent
  obtain ⟨_, g₁, hclear, hbind⟩ := runs_bind.1 h
  obtain ⟨_, g₂, ⟨-, rfl⟩, hadd⟩ := runs_call.1 hbind
  obtain ⟨-, rfl⟩ := runs_perform.1 hadd
  have hbound : Becomes g .town ((g.index .town).bind s i)
      ((g₁.after (.insertTown s i)).after (.addToTownInstance i s)) :=
    ((clearTownSession_becomes hclear).then rfl).then rfl
  exact hbound.consistent hconsistent ((hconsistent .town).bind s i)

theorem clearSessionRuntimeState_keeping (s : UInt32) : Keeping (clearSessionRuntimeState s) := by
  refine (clearBattleSession_keeping s).bind fun _ => (clearTownSession_keeping s).bind fun _ => .of_calls ?_
  exact .call (fun _ => rfl) fun _ => .perform fun _ => rfl

theorem bindAccount_keeping (s : UInt32) (accountId : Int64) : Keeping (bindAccount s accountId) := by
  have htarget : ∀ old, (kickTarget s accountId old).Calls GameOp.Apart := by
    intro old
    unfold kickTarget
    split
    · split_ifs
      · exact .call (fun _ => rfl) fun _ => .ret _
      · exact .ret _
    · exact .ret _
  refine Keeping.bind (.of_calls (.perform fun _ => rfl)) fun old => ?_
  refine Keeping.bind (.of_calls (htarget old)) fun target => .whenSome fun oldSessionId => ?_
  refine (clearSessionRuntimeState_keeping oldSessionId).bind fun _ => .of_calls ?_
  exact .call (fun _ => rfl) fun _ => .perform fun _ => rfl

theorem handleLogin_keeping (d : Delegate) (req : LoginReq) : Keeping (d.handleLogin req) := by
  refine Keeping.bind (.of_calls (.perform fun _ => rfl)) fun answer => ?_
  rcases answer with _ | _ | row
  · exact .of_calls (.ret _)
  · exact .of_calls (.ret _)
  · show Keeping (if _ then _ else _)
    split_ifs
    · refine (bindAccount_keeping d.sessionId row.id).bind fun _ => .of_calls ?_
      exact .call (fun _ => rfl) fun _ => .ret _
    · exact .of_calls (.ret _)

theorem onStop_keeping (d : Delegate) : Keeping d.onStop := by
  refine (clearSessionRuntimeState_keeping d.sessionId).bind fun _ => .of_calls ?_
  rcases d.accountId with _ | accountId
  · exact .ret _
  · exact .perform fun _ => rfl

theorem clearAllRuntimeState_keeping : Keeping clearAllRuntimeState := by
  rintro g u g' h -
  obtain ⟨_, _, ⟨-, rfl⟩, h₁⟩ := runs_call.1 h
  obtain ⟨_, _, ⟨-, rfl⟩, h₂⟩ := runs_call.1 h₁
  obtain ⟨_, _, ⟨-, rfl⟩, h₃⟩ := runs_call.1 h₂
  obtain ⟨_, _, ⟨-, rfl⟩, h₄⟩ := runs_call.1 h₃
  obtain ⟨-, rfl⟩ := runs_perform.1 h₄
  intro side s i
  cases side with
  | battle => simp [index, after]
  | town => simp [index, after]

/-! ### The sessions of an instance -/

abbrev Message := GamePush × UInt32

/-- The operations with the messages that they hand over. -/
def Tells (x : GameState × List Message) (op : gameOps.Op) (answer : gameOps.Answer op)
    (x' : GameState × List Message) : Prop :=
  Does x.1 op answer x'.1 ∧ x'.2 = x.2 ++ (GameOp.message op).toList

@[reducible] def Side.kept : Side → Entry
  | .battle => .battle
  | .town => .town

/-- The instance that an entry names. -/
def Side.instance : (side : Side) → side.kept.Value → UInt32
  | .battle, (state : BattleSessionState) => state.battleInstanceId
  | .town, (townInstanceId : UInt32) => townInstanceId

/-- The push to a session whose entry is taken. -/
def Side.push (i : UInt32) : (side : Side) → side.kept.Value → GamePush
  | .battle, (state : BattleSessionState) => .battleServerOffline state.battleId i 1 "battle server offline"
  | .town, (_ : UInt32) => .townServerOffline i 1 "town server offline"

def Side.offline (i : UInt32) : Side → Program gameOps Unit
  | .battle => handleBattleServerOffline i
  | .town => handleTownServerOffline i

namespace GameState

/-- The sessions of an instance, as the map has them. -/
def sessionsOf (g : GameState) : Side → UInt32 → Option (Finset UInt32)
  | .battle, i => g.battleInstanceSessions.get i
  | .town, i => g.townInstanceSessions.get i

def LoggedIn (g : GameState) (sessionId : UInt32) : Prop :=
  ∃ accountId, g.accountSessions.get accountId = some sessionId

theorem entry_index (g : GameState) (side : Side) (s : UInt32) :
    (g.index side).entry s = (g.entry s side.kept).map side.instance := by
  cases side with
  | battle => rfl
  | town =>
      show g.townSessions.get s = (g.townSessions.get s).map fun i => i
      rw [Option.map_id']

theorem loggedIn_iff (g : GameState) (s : UInt32) :
    (g.accountSessions.values.any (· = s)) = true ↔ g.LoggedIn s := by
  rw [List.any_eq_true]
  constructor
  · rintro ⟨owner, hmem, howner⟩
    obtain rfl := of_decide_eq_true howner
    exact (g.accountSessions.mem_values owner).1 hmem
  · rintro ⟨accountId, hget⟩
    exact ⟨s, (g.accountSessions.mem_values s).2 ⟨accountId, hget⟩, decide_eq_true rfl⟩

/-- What a session is told whose entry is taken. -/
def dues (g : GameState) (side : Side) (i s : UInt32) : List Message :=
  if g.accountSessions.values.any (· = s) then
    ((g.entry s side.kept).map fun value => (side.push i value, s)).toList
  else []

end GameState

/-- The entries of the sessions have been taken, one after the other, and the sessions told. -/
structure Swept (side : Side) (i : UInt32) (ks : List UInt32) (x x' : GameState × List Message) : Prop where
  entry : ∀ s, x'.1.entry s side.kept = if s ∈ ks then none else x.1.entry s side.kept
  sessionsOf : x'.1.sessionsOf side = x.1.sessionsOf side
  other : ∀ other, other ≠ side → x'.1.index other = x.1.index other
  accounts : x'.1.accountSessions = x.1.accountSessions
  sent : x'.2 = x.2 ++ ks.flatMap (x.1.dues side i)

theorem Swept.cons {side : Side} {i s : UInt32} {ks : List UInt32} {x x₁ x' : GameState × List Message}
    (hfirst : Swept side i [s] x x₁) (hrest : Swept side i ks x₁ x') (hs : s ∉ ks) :
    Swept side i (s :: ks) x x' := by
  refine ⟨fun k => ?_, hrest.sessionsOf.trans hfirst.sessionsOf, fun other hother => ?_,
    hrest.accounts.trans hfirst.accounts, ?_⟩
  · rw [hrest.entry, hfirst.entry]
    by_cases hk : k ∈ ks
    · simp [hk]
    · simp [hk]
  · rw [hrest.other other hother, hfirst.other other hother]
  · have hsame : ks.flatMap (x₁.1.dues side i) = ks.flatMap (x.1.dues side i) := by
      refine List.flatMap_congr fun k hk => ?_
      have hne : k ∉ [s] := fun h => hs (List.mem_singleton.1 h ▸ hk)
      rw [dues, dues, hfirst.accounts, hfirst.entry, if_neg hne]
    rw [hrest.sent, hfirst.sent, hsame, List.append_assoc]
    simp

/-- A session is told, if it is logged in. -/
def tell (push : GamePush) (s : UInt32) : Program gameOps Unit := do
  if ← GameOp.perform (.isSessionLoggedIn s) then GameOp.perform (.sendMsg push s)

theorem tell_runs {push : GamePush} {s : UInt32} {x x' : GameState × List Message} {u : Unit}
    (h : Runs Tells (tell push s) x u x') :
    x' = (x.1, x.2 ++ if x.1.accountSessions.values.any (· = s) then [(push, s)] else []) := by
  obtain ⟨loggedIn, ⟨g₁, l₁⟩, ⟨⟨hlogged, hg₁⟩, hl₁⟩, hrest⟩ := runs_call.1 h
  cases hlogged
  dsimp only at hg₁ hl₁
  subst hg₁ hl₁
  change Runs Tells (if x.1.accountSessions.values.any (· = s) then _ else _) _ _ _ at hrest
  split_ifs at hrest ⊢
  · obtain ⟨⟨-, hg⟩, hl⟩ := runs_perform.1 hrest
    exact Prod.ext hg (hl.trans (by simp [GameOp.message]))
  · obtain ⟨-, rfl⟩ := runs_ret.1 hrest
    simp [GameOp.message]
    rfl

/-- What the handler of lost battle servers does about a session. -/
def sweepBattle (i s : UInt32) : Program gameOps Unit := do
  let old ← GameOp.perform (.removeBattle s)
  Program.whenSome old fun state => tell (.battleServerOffline state.battleId i 1 "battle server offline") s

/-- What the handler of lost towns does about a session. -/
def sweepTown (i s : UInt32) : Program gameOps Unit := do
  let removed ← GameOp.perform (.removeTown s)
  if removed = some i then tell (.townServerOffline i 1 "town server offline") s

def Side.sweep (i s : UInt32) : Side → Program gameOps Unit
  | .battle => sweepBattle i s
  | .town => sweepTown i s

theorem offline_eq (side : Side) (i : UInt32) : side.offline i = (do
    let sessions ← match side with
      | .battle => GameOp.perform (.takeBattleInstance i)
      | .town => GameOp.perform (.takeTownInstance i)
    Program.forEach (fun s => side.sweep i s) sessions) := by
  cases side <;> rfl

variable {side : Side} {i : UInt32} {x x' : GameState × List Message} {ks : List UInt32}

/-- The state and the messages after a session's entry is taken. -/
def Side.swept (side : Side) (i s : UInt32) (x : GameState × List Message) : GameState × List Message :=
  (match side with
    | .battle => x.1.after (.removeBattle s)
    | .town => x.1.after (.removeTown s), x.2 ++ x.1.dues side i s)

theorem swept_one (side : Side) (i s : UInt32) (x : GameState × List Message) :
    Swept side i [s] x (side.swept i s x) := by
  refine ⟨fun k => ?_, ?_, fun other hother => ?_, ?_, ?_⟩
  · cases side with
    | battle =>
        show (x.1.battleSessions.remove s).get k = _
        rw [Table.get_remove]
        simp [entry]
    | town =>
        show (x.1.townSessions.remove s).get k = _
        rw [Table.get_remove]
        simp [entry]
  · cases side <;> rfl
  · have hop : ∀ side, ∃ op, (side.swept i s x).1 = x.1.after op ∧ op.change = some (side, .take s) := by
      intro side
      cases side with
      | battle => exact ⟨.removeBattle s, rfl, rfl⟩
      | town => exact ⟨.removeTown s, rfl, rfl⟩
    obtain ⟨op, hafter, hop⟩ := hop side
    rw [hafter, index_after_other hop hother]
  · cases side <;> rfl
  · simp [Side.swept]

theorem dues_of_entry {g : GameState} {s : UInt32} {value : side.kept.Value}
    (h : g.entry s side.kept = some value) : g.dues side i s =
      if g.accountSessions.values.any (· = s) then [(side.push i value, s)] else [] := by
  rw [dues, h]
  rfl

theorem sweep_runs {s : UInt32} (hentry : (x.1.index side).entry s = some i)
    (h : Runs Tells (side.sweep i s) x () x') : Swept side i [s] x x' := by
  have hx : x' = side.swept i s x := by
    rw [entry_index] at hentry
    obtain ⟨value, hvalue, hinstance⟩ := Option.map_eq_some_iff.1 hentry
    have hdues : x.1.dues side i s = _ := dues_of_entry hvalue
    cases side with
    | battle =>
        show x' = (x.1.after (.removeBattle s), x.2 ++ x.1.dues .battle i s)
        obtain ⟨old, ⟨g₁, l₁⟩, ⟨⟨hold, hg₁⟩, hl₁⟩, hrest⟩ := runs_call.1 h
        dsimp only at hg₁ hl₁
        subst hg₁ hl₁
        cases hold
        change Runs Tells (Program.whenSome (x.1.battleSessions.get s) _) _ _ _ at hrest
        rw [show x.1.battleSessions.get s = some value from hvalue] at hrest
        rw [tell_runs hrest, hdues]
        simp [GameOp.message, Side.push]
        rfl
    | town =>
        show x' = (x.1.after (.removeTown s), x.2 ++ x.1.dues .town i s)
        obtain ⟨removed, ⟨g₁, l₁⟩, ⟨⟨hremoved, hg₁⟩, hl₁⟩, hrest⟩ := runs_call.1 h
        dsimp only at hg₁ hl₁
        subst hg₁ hl₁
        cases hremoved
        change Runs Tells (if x.1.townSessions.get s = some i then _ else _) _ _ _ at hrest
        rw [if_pos (hinstance ▸ hvalue)] at hrest
        rw [tell_runs hrest, hdues]
        simp [GameOp.message, Side.push]
        rfl
  rw [hx]
  exact swept_one side i s x

theorem Swept.nil (side : Side) (i : UInt32) (x : GameState × List Message) : Swept side i [] x x :=
  ⟨by simp, rfl, fun _ _ => rfl, rfl, by simp⟩

theorem forEach_runs (hnodup : ks.Nodup) (hentry : ∀ s ∈ ks, (x.1.index side).entry s = some i)
    (h : Runs Tells (Program.forEach (fun s => side.sweep i s) ks) x () x') : Swept side i ks x x' := by
  induction ks generalizing x with
  | nil =>
      obtain ⟨-, rfl⟩ := runs_ret.1 h
      exact .nil side i x'
  | cons s ks ih =>
      obtain ⟨_, x₁, hsweep, hrest⟩ := runs_bind.1 h
      obtain ⟨hs, hnodup⟩ := List.nodup_cons.1 hnodup
      have hfirst := sweep_runs (hentry s List.mem_cons_self) hsweep
      refine hfirst.cons (ih hnodup (fun k hk => ?_) hrest) hs
      have hne : k ∉ [s] := fun hmem => hs (List.mem_singleton.1 hmem ▸ hk)
      rw [entry_index, hfirst.entry, if_neg hne, ← entry_index]
      exact hentry k (List.mem_cons_of_mem s hk)

theorem filter_flatMap {f : UInt32 → List Message} (hf : ∀ s, ∀ m ∈ f s, m.2 = s) (hnodup : ks.Nodup)
    (s : UInt32) : (ks.flatMap f).filter (fun m => m.2 = s) = if s ∈ ks then f s else [] := by
  induction ks with
  | nil => simp
  | cons k ks ih =>
      obtain ⟨hk, hnodup⟩ := List.nodup_cons.1 hnodup
      rw [List.flatMap_cons, List.filter_append, ih hnodup]
      by_cases heq : s = k
      · subst heq
        have hall : (f s).filter (fun m => m.2 = s) = f s :=
          List.filter_eq_self.2 fun m hm => decide_eq_true (hf s m hm)
        simp [hall, hk]
      · have hnone : (f k).filter (fun m => m.2 = s) = [] := by
          refine List.filter_eq_nil_iff.2 fun m hm => ?_
          have hsession := hf k m hm
          simp [hsession, Ne.symm heq]
        simp [hnone, heq]

theorem mem_dues {g : GameState} {s : UInt32} {m : Message} (h : m ∈ g.dues side i s) : m.2 = s := by
  unfold dues at h
  split_ifs at h
  · obtain ⟨value, -, rfl⟩ := Option.map_eq_some_iff.1 (Option.mem_toList.1 h)
    rfl
  · simp at h

/-- What the handler of a lost server is to do: take away the sessions of the instance, tell those that are
logged in, and nothing else. -/
structure Exact (side : Side) (i : UInt32) (g g' : GameState) (sent : List Message) : Prop where
  entry : ∀ s, g'.entry s side.kept =
    if (g.index side).entry s = some i then none else g.entry s side.kept
  sessionsOf : ∀ j, g'.sessionsOf side j = if j = i then none else g.sessionsOf side j
  told : ∀ s value, g.entry s side.kept = some value → side.instance value = i → g.LoggedIn s →
    sent.filter (fun m => m.2 = s) = [(side.push i value, s)]
  untold : ∀ s, ((g.index side).entry s ≠ some i ∨ ¬ g.LoggedIn s) → sent.filter (fun m => m.2 = s) = []
  other : ∀ other, other ≠ side → g'.index other = g.index other

theorem mem_taken {g : GameState} (h : (g.index side).Agrees) {op : GameOp} {answer : op.Answer}
    (hop : op.change = some (side, .empty i)) (hanswer : g.Returns op answer) :
    (op.listed answer).Nodup ∧ ∀ s, s ∈ op.listed answer ↔ (g.index side).entry s = some i := by
  have hmem : (op.listed answer).Nodup ∧ ∀ s, s ∈ op.listed answer ↔ s ∈ (g.index side).members i := by
    cases op <;> cases hop
    case takeBattleInstance =>
      cases hanswer with
      | inOrder => exact ⟨Finset.sort_nodup _ _, fun s => Finset.mem_sort _⟩
      | takeBattleInstance hnodup h => exact ⟨hnodup, fun s => by rw [← List.mem_toFinset]; exact h ▸ Iff.rfl⟩
    case takeTownInstance =>
      cases hanswer with
      | inOrder => exact ⟨Finset.sort_nodup _ _, fun s => Finset.mem_sort _⟩
      | takeTownInstance hnodup h => exact ⟨hnodup, fun s => by rw [← List.mem_toFinset]; exact h ▸ Iff.rfl⟩
  exact ⟨hmem.1, fun s => (hmem.2 s).trans (h s i)⟩

/-- A handler first takes the sessions of the instance away from the index. -/
theorem offline_runs {g : GameState} (h : Runs Tells (side.offline i) (g, []) () x') :
    ∃ op answer, op.change = some (side, .empty i) ∧ g.Returns op answer ∧
      Runs Tells (Program.forEach (fun s => side.sweep i s) (op.listed answer)) (g.after op, []) () x' ∧
        (∀ j, (g.after op).sessionsOf side j = if j = i then none else g.sessionsOf side j) ∧
          (g.after op).accountSessions = g.accountSessions ∧ ∀ s, (g.after op).entry s side.kept = g.entry s side.kept := by
  rw [offline_eq] at h
  cases side with
  | battle =>
      obtain ⟨sessions, ⟨g₁, l₁⟩, ⟨⟨hanswer, hg₁⟩, hl₁⟩, hrest⟩ := runs_call.1 h
      dsimp only at hg₁ hl₁
      subst hg₁ hl₁
      exact ⟨.takeBattleInstance i, sessions, rfl, hanswer, hrest, fun j => Table.get_remove _ _ _, rfl, fun _ => rfl⟩
  | town =>
      obtain ⟨sessions, ⟨g₁, l₁⟩, ⟨⟨hanswer, hg₁⟩, hl₁⟩, hrest⟩ := runs_call.1 h
      dsimp only at hg₁ hl₁
      subst hg₁ hl₁
      exact ⟨.takeTownInstance i, sessions, rfl, hanswer, hrest, fun j => Table.get_remove _ _ _, rfl, fun _ => rfl⟩

theorem offline_exact {g : GameState} (hconsistent : g.Consistent)
    (h : Runs Tells (side.offline i) (g, []) () x') : Exact side i g x'.1 x'.2 := by
  obtain ⟨op, answer, hop, hanswer, hrest, hsessions, haccounts, hentries⟩ := offline_runs h
  obtain ⟨hnodup, hmem⟩ := mem_taken (hconsistent side) hop hanswer
  have hindex : ∀ s, ((g.after op).index side).entry s = (g.index side).entry s := by
    intro s
    rw [entry_index, hentries, entry_index]
  have hswept := forEach_runs (x := (g.after op, [])) hnodup (fun s hs => (hindex s).trans ((hmem s).1 hs)) hrest
  have hdues : ∀ s, (g.after op).dues side i s = g.dues side i s := by
    intro s
    rw [dues, dues, haccounts, hentries]
  have hsent : ∀ s, x'.2.filter (fun m => m.2 = s) =
      if (g.index side).entry s = some i then g.dues side i s else [] := by
    intro s
    rw [hswept.sent, List.nil_append, filter_flatMap (fun _ _ hm => mem_dues hm) hnodup, hdues]
    simp only [hmem]
  refine ⟨fun s => ?_, fun j => ?_, fun s value hvalue hinstance hlogged => ?_, fun s hs => ?_, fun other hother => ?_⟩
  · rw [hswept.entry, hentries]
    simp only [hmem]
  · rw [hswept.sessionsOf, hsessions]
  · have hentry : (g.index side).entry s = some i := by
      rw [entry_index, hvalue, Option.map_some, hinstance]
    rw [hsent, if_pos hentry, dues_of_entry hvalue, if_pos ((g.loggedIn_iff s).2 hlogged)]
  · rw [hsent]
    split_ifs with hentry
    · have hlogged := hs.resolve_left (not_not.2 hentry)
      rw [dues, if_neg fun h => hlogged ((g.loggedIn_iff s).1 h)]
    · rfl
  · rw [hswept.other other hother]
    exact index_after_other hop hother

theorem Exact.consistent {g g' : GameState} {sent : List Message} (h : Exact side i g g' sent)
    (hconsistent : g.Consistent) : g'.Consistent := by
  intro other
  by_cases hother : other = side
  · subst hother
    refine (hconsistent other).offline (i := i) (fun s => ?_) fun j => ?_
    · rw [entry_index, h.entry]
      split_ifs with hentry
      · rfl
      · rw [entry_index]
    · have hmembers : ∀ (g : GameState) j, (g.index other).members j = (g.sessionsOf other j).getD ∅ := by
        intro g j
        cases other <;> rfl
      rw [hmembers, h.sessionsOf, hmembers]
      split_ifs <;> rfl
  · rw [h.other other hother]
    exact hconsistent other

theorem runs_tells {α : Type} {p : Program gameOps α} {g g' : GameState} {a : α} (h : Runs Does p g a g')
    (sent : List Message) : ∃ sent', Runs Tells p (g, sent) a (g', sent') := by
  induction h generalizing sent with
  | ret a s => exact ⟨sent, .ret a _⟩
  | @call op _ _ _ _ _ _ hdoes _ ih =>
      obtain ⟨sent', hnext⟩ := ih (sent ++ (GameOp.message op).toList)
      exact ⟨sent', .call ⟨hdoes, rfl⟩ hnext⟩

theorem offline_keeping (side : Side) (i : UInt32) : Keeping (side.offline i) := by
  rintro g ⟨⟩ g' h hconsistent
  obtain ⟨sent, htells⟩ := runs_tells h []
  exact (offline_exact hconsistent htells).consistent hconsistent

/-! ### Runs -/

theorem SharedCall.keeping (call : SharedCall) : Keeping call.program := by
  cases call with
  | bindBattleSession s b i => exact bindBattleSession_keeping s b i
  | clearBattleSession s => exact clearBattleSession_keeping s
  | bindTownSession s i => exact bindTownSession_keeping s i
  | clearTownSession s => exact clearTownSession_keeping s
  | clearSessionRuntimeState s => exact clearSessionRuntimeState_keeping s
  | clearAllRuntimeState => exact clearAllRuntimeState_keeping
  | handleLogin d req => exact (handleLogin_keeping d req).bind fun _ => .of_calls (.ret _)
  | onStop d => exact onStop_keeping d
  | handleBattleServerOffline i => exact offline_keeping .battle i
  | handleTownServerOffline i => exact offline_keeping .town i

/-- With the functions of the shared state executed one after the other, in any order, each handler of a lost
server is exact in every state that they come to. -/
theorem exact_of_run (trace g) (hrun : Run SharedCall.Step {} trace g) (side i g' sent)
    (h : Runs Tells (side.offline i) (g, []) () (g', sent)) : Exact side i g g' sent := by
  have hconsistent : g.Consistent := by
    refine hrun.invariant GameState.Consistent ?_ fun g call g' hconsistent hstep =>
      call.keeping g () g' hstep hconsistent
    intro side s i
    cases side with
    | battle => simp [index]
    | town => simp [index]
  exact offline_exact hconsistent h

/-- Sessions 1 and 2 fight on battle server 7, of which only session 1 is logged in. -/
def fighters : List SharedCall :=
  [.handleLogin { sessionId := 1 } { account := "a", password := "" }, .bindBattleSession 1 3 7,
    .bindBattleSession 2 3 7]

/-- The battle server goes offline. -/
theorem exact_of_run_fighters : ∃ trace g g' sent, Run SharedCall.Step {} trace g ∧
    Exact .battle 7 g g' sent ∧ g'.battleSessions.get 1 = none ∧
      sent.filter (fun m => m.2 = 1) = [(.battleServerOffline 3 7 1 "battle server offline", 1)] ∧
        sent.filter (fun m => m.2 = 2) = [] := by
  have h : ∃ r, Run.record (fun g call => some (call.program.eval (exec lonely) g).2) {} fighters = some r ∧
      r.2.battleSessions.get 1 = some ⟨3, 7⟩ ∧ r.2.accountSessions.get 10 = some 1 ∧
        2 ∉ r.2.accountSessions.values := by
    decide +kernel
  obtain ⟨⟨trace, g⟩, hrecord, hentry, howner, hnone⟩ := h
  have hrun : Run SharedCall.Step {} trace g := by
    refine Run.of_record (fun g call g' hnext => ?_) hrecord
    rw [← Option.some.inj hnext]
    exact runs_eval (does_exec lonely) _ g
  obtain ⟨sent, hoffline⟩ := runs_tells (runs_eval (does_exec lonely) (Side.battle.offline 7) g) []
  have hexact := exact_of_run trace g hrun .battle 7 _ sent hoffline
  refine ⟨trace, g, _, sent, hrun, hexact, ?_, hexact.told 1 ⟨3, 7⟩ hentry rfl ⟨10, howner⟩, hexact.untold 2 ?_⟩
  · have hbattle := hexact.entry 1
    rw [if_pos (by rw [entry_index]; exact congrArg _ hentry)] at hbattle
    exact hbattle
  · exact Or.inr fun ⟨accountId, hget⟩ => hnone ((g.accountSessions.mem_values 2).2 ⟨accountId, hget⟩)

end AxmolFighter.Game
