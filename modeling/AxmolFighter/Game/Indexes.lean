import AxmolFighter.Game.Operations
import AxmolFighter.Lib.Index
import AxmolFighter.Lib.Threads

/-!
# The instances that sessions are bound to

`game_shared/mod.rs` keeps, for the battle servers and for the towns, the instance of a session and the
sessions of an instance. Tasks of sessions bind and clear, and the task that reads from the gateway takes
away the sessions of an instance that goes offline. Each of the two maps has a lock of its own.
-/

namespace AxmolFighter.Game

open GameState

inductive Side
  | battle
  | town
deriving DecidableEq

/-- The two maps of a side. -/
def GameState.index (g : GameState) : Side → Index UInt32 UInt32
  | .battle => {
      entry := fun sessionId => (g.battleSessions.get sessionId).map (·.battleInstanceId)
      members := fun instanceId => (g.battleInstanceSessions.get instanceId).getD ∅ }
  | .town => {
      entry := fun sessionId => g.townSessions.get sessionId
      members := fun instanceId => (g.townInstanceSessions.get instanceId).getD ∅ }

/-! ### The operations -/

inductive IndexCall
  | bindBattleSession (sessionId battleId battleInstanceId : UInt32)
  | clearBattleSession (sessionId : UInt32)
  | handleBattleServerOffline (battleInstanceId : UInt32)
  | bindTownSession (sessionId townInstanceId : UInt32)
  | clearTownSession (sessionId : UInt32)
  | handleTownServerOffline (townInstanceId : UInt32)
deriving DecidableEq

namespace IndexCall

def program : IndexCall → Program gameOps Unit
  | .bindBattleSession s b i => GameState.bindBattleSession s b i
  | .clearBattleSession s => GameState.clearBattleSession s
  | .handleBattleServerOffline i => GameState.handleBattleServerOffline i
  | .bindTownSession s i => GameState.bindTownSession s i
  | .clearTownSession s => GameState.clearTownSession s
  | .handleTownServerOffline i => GameState.handleTownServerOffline i

def side : IndexCall → Side
  | .bindBattleSession .. | .clearBattleSession _ | .handleBattleServerOffline _ => .battle
  | .bindTownSession .. | .clearTownSession _ | .handleTownServerOffline _ => .town

def task : IndexCall → Index.Task UInt32 UInt32
  | .bindBattleSession s _ i | .bindTownSession s i => .bind s i
  | .clearBattleSession s | .clearTownSession s => .clear s
  | .handleBattleServerOffline i | .handleTownServerOffline i => .offline i

end IndexCall

/-- The threads are calls of these operations, any number of each; there is nothing else that acts. -/
def indexing : ThreadSystem gameOps GameState IndexCall Unit where
  does := Does
  handle call _ := some do
    call.program
    pure call
  opens _ _ _ _ := False
  environment _ _ := False

/-! ### What the operations change -/

/-- The change that is made under one lock. -/
def GameOp.change : GameOp → Option (Side × Index.Change UInt32 UInt32)
  | .insertBattle s state => some (.battle, .store s state.battleInstanceId)
  | .removeBattle s => some (.battle, .take s)
  | .addToBattleInstance i s => some (.battle, .add i s)
  | .dropFromBattleInstance i s => some (.battle, .drop i s)
  | .takeBattleInstance i => some (.battle, .empty i)
  | .insertTown s i => some (.town, .store s i)
  | .removeTown s => some (.town, .take s)
  | .addToTownInstance i s => some (.town, .add i s)
  | .dropFromTownInstance i s => some (.town, .drop i s)
  | .takeTownInstance i => some (.town, .empty i)
  | _ => none

/-- The instance of an entry that is taken. -/
def GameOp.found : (op : GameOp) → op.Answer → Option UInt32
  | .removeBattle _, (state : Option BattleSessionState) => state.map (·.battleInstanceId)
  | .removeTown _, (townInstanceId : Option UInt32) => townInstanceId
  | _, _ => none

/-- The sessions that an instance had. -/
def GameOp.listed : (op : GameOp) → op.Answer → List UInt32
  | .takeBattleInstance _, (sessions : List UInt32) => sessions
  | .takeTownInstance _, (sessions : List UInt32) => sessions
  | _, _ => []

theorem mem_addToInstance {index : Table UInt32 (Finset UInt32)} {i i' s s' : UInt32} :
    s' ∈ ((addToInstance index i s).get i').getD ∅ ↔ (i' = i ∧ s' = s) ∨ s' ∈ (index.get i').getD ∅ := by
  rw [addToInstance, Table.get_insert]
  split_ifs with h
  · subst h
    simp
  · simp [h]

theorem mem_dropFromInstance {index : Table UInt32 (Finset UInt32)} {i i' s s' : UInt32} :
    s' ∈ ((dropFromInstance index i s).get i').getD ∅ ↔
      ¬ (i' = i ∧ s' = s) ∧ s' ∈ (index.get i').getD ∅ := by
  unfold dropFromInstance
  split
  · rename_i hnone
    refine ⟨fun h => ⟨fun heq => ?_, h⟩, And.right⟩
    rw [heq.1, hnone] at h
    simp at h
  · rename_i sessions hsome
    have hmem : s' ∈ sessions.erase s ↔ s' ≠ s ∧ s' ∈ sessions := Finset.mem_erase
    by_cases h : i' = i
    · subst h
      rw [hsome, Option.getD_some]
      split_ifs with hempty
      · rw [hempty] at hmem
        simpa using hmem
      · simp
    · split_ifs
      · simp [h]
      · simp [h]

namespace GameState

variable {g : GameState} {op : GameOp} {side side' : Side} {c : Index.Change UInt32 UInt32}

theorem index_after (hop : op.change = some (side, c)) :
    (g.after op).index side = (g.index side).after c := by
  have hext : ∀ {x y : Index UInt32 UInt32}, (∀ s, x.entry s = y.entry s) →
      (∀ i s, s ∈ x.members i ↔ s ∈ y.members i) → x = y := by
    intro x y hentry hmembers
    obtain ⟨entry, members⟩ := x
    obtain rfl : entry = y.entry := funext hentry
    obtain rfl : members = y.members := funext fun i => Finset.ext (hmembers i)
    rfl
  cases op <;> cases hop
  case insertBattle s state =>
    refine hext (fun s' => ?_) fun _ _ => Iff.rfl
    show ((g.battleSessions.insert s state).get s').map _ = _
    rw [Index.entry_store, Table.get_insert]
    split_ifs <;> rfl
  case removeBattle s =>
    refine hext (fun s' => ?_) fun _ _ => Iff.rfl
    show ((g.battleSessions.remove s).get s').map _ = _
    rw [Index.entry_take, Table.get_remove]
    split_ifs <;> rfl
  case insertTown s i =>
    refine hext (fun s' => ?_) fun _ _ => Iff.rfl
    rw [Index.entry_store]
    exact Table.get_insert g.townSessions s s' i
  case removeTown s =>
    refine hext (fun s' => ?_) fun _ _ => Iff.rfl
    rw [Index.entry_take]
    exact Table.get_remove g.townSessions s s'
  case addToBattleInstance i s | addToTownInstance i s =>
    refine hext (fun _ => rfl) fun i' s' => ?_
    rw [Index.mem_add]
    exact mem_addToInstance
  case dropFromBattleInstance i s | dropFromTownInstance i s =>
    refine hext (fun _ => rfl) fun i' s' => ?_
    rw [Index.mem_drop]
    exact mem_dropFromInstance
  case takeBattleInstance i | takeTownInstance i =>
    refine hext (fun _ => rfl) fun i' s' => ?_
    rw [Index.mem_empty]
    show s' ∈ ((Table.remove _ i).get i').getD ∅ ↔ _
    rw [Table.get_remove]
    split_ifs with h
    · simp [h]
    · simp only [ne_eq, h, not_false_eq_true, true_and]
      rfl

theorem index_after_other (hop : op.change = some (side, c)) (h : side' ≠ side) :
    (g.after op).index side' = g.index side' := by
  cases op <;> cases hop <;> cases side' <;> first | rfl | exact absurd rfl h

theorem Returns.found {answer : op.Answer} (h : g.Returns op answer) {s : UInt32}
    (hop : op.change = some (side, .take s)) : op.found answer = (g.index side).entry s := by
  cases op <;> cases hop <;> cases h <;> rfl

theorem Returns.listed {answer : op.Answer} (h : g.Returns op answer) {i s : UInt32}
    (hop : op.change = some (side, .empty i)) (hs : s ∈ (g.index side).members i) :
    s ∈ op.listed answer := by
  cases op <;> cases hop
  case takeBattleInstance =>
    cases h with
    | inOrder => exact (Finset.mem_sort _).2 hs
    | takeBattleInstance _ h => exact List.mem_toFinset.1 (h ▸ hs)
  case takeTownInstance =>
    cases h with
    | inOrder => exact (Finset.mem_sort _).2 hs
    | takeTownInstance _ h => exact List.mem_toFinset.1 (h ▸ hs)

end GameState

/-! ### What a call is still to change -/

namespace IndexCall

open Index (Stage)

/-- A call and how far it is. -/
abbrev Progress := IndexCall × Stage UInt32 UInt32

/-- The changes that a call makes; a handler also asks who is logged in, and sends. -/
inductive Moves : Progress → (op : GameOp) → op.Answer →
    Progress → Prop
  | changes {call : IndexCall} {stage stage' : Stage UInt32 UInt32} {op : GameOp} {answer : op.Answer}
      {c : Index.Change UInt32 UInt32} (hop : op.change = some (call.side, c))
      (h : Index.Moves call.task stage c (op.found answer) (op.listed answer) stage') :
      Moves (call, stage) op answer (call, stage')
  | isSessionLoggedIn {q : Progress} {sessionId : UInt32} {answer : Bool} :
      Moves q (.isSessionLoggedIn sessionId) answer q
  | sendMsg {q : Progress} {push : GamePush} {sessionId : UInt32} :
      Moves q (.sendMsg push sessionId) () q

/-- The call is at that stage of what it is for. -/
def At (call : IndexCall) (stage : Stage UInt32 UInt32) {α : Type} :
    Progress → α → Prop := fun q _ => q = (call, stage)

/-- Where the clearing of a session is once it has taken the entry. -/
def taken : Option UInt32 → Stage UInt32 UInt32
  | none => .cleared
  | some i => .dropping i

theorem moves_taken {task : Index.Task UInt32 UInt32} {s : UInt32} (h : task.key = some s)
    (found : Option UInt32) (ks : List UInt32) : Index.Moves task .start (.take s) found ks (taken found) := by
  cases found with
  | none => exact .clears h
  | some i => exact .takes h

variable {call : IndexCall} {s : UInt32}

theorem clearBattleSession_follows (hside : call.side = .battle) (hkey : call.task.key = some s) :
    (GameState.clearBattleSession s).Follows Moves (At call .cleared) (call, .start) := by
  refine .perform_bind (fun old => (call, taken (GameOp.found (.removeBattle s) old))) (fun old => ?_)
    fun old => ?_
  · exact .changes (by rw [hside]; rfl) (moves_taken hkey _ _)
  · cases old with
    | none => exact .ret rfl
    | some state => exact .stay (fun _ => .changes (by rw [hside]; rfl) (.drops hkey)) fun _ => .ret rfl

theorem clearTownSession_follows (hside : call.side = .town) (hkey : call.task.key = some s) :
    (GameState.clearTownSession s).Follows Moves (At call .cleared) (call, .start) := by
  refine .perform_bind (fun old => (call, taken (GameOp.found (.removeTown s) old))) (fun old => ?_)
    fun old => ?_
  · exact .changes (by rw [hside]; rfl) (moves_taken hkey _ _)
  · cases old with
    | none => exact .ret rfl
    | some i => exact .stay (fun _ => .changes (by rw [hside]; rfl) (.drops hkey)) fun _ => .ret rfl

theorem forEach_follows {f : UInt32 → Program gameOps Unit}
    (h : ∀ s rest, (f s).Follows Moves (At call (.sweeping rest)) (call, .sweeping (s :: rest)))
    (sessions : List UInt32) :
    (Program.forEach f sessions).Follows Moves (At call (.sweeping [])) (call, .sweeping sessions) := by
  induction sessions with
  | nil => exact .ret rfl
  | cons s rest ih => exact (h s rest).bind fun q _ hq => hq ▸ ih

theorem program_follows (call : IndexCall) : call.program.Follows Moves
    (fun q _ => q.1 = call ∧ ∀ d, ¬ Index.Owes call.task q.2 d) (call, .start) := by
  have hend : ∀ stage, (∀ d, ¬ Index.Owes call.task stage d) → ∀ q (a : Unit), At call stage q a →
      q.1 = call ∧ ∀ d, ¬ Index.Owes call.task q.2 d := by
    rintro stage hfree q a rfl
    exact ⟨rfl, hfree⟩
  have hswept : ∀ d, ¬ Index.Owes call.task (.sweeping []) d := by
    intro d
    cases call <;> cases d <;> simp [Index.Owes]
  have hquiet : ∀ (s : UInt32) (push : GamePush) {q : Progress},
      (do if ← GameOp.perform (.isSessionLoggedIn s) then GameOp.perform (.sendMsg push s) :
        Program gameOps Unit).Follows Moves (fun q' _ => q' = q) q := by
    intro s push q
    refine .stay (fun _ => .isSessionLoggedIn) fun loggedIn => ?_
    cases loggedIn with
    | false => exact .ret rfl
    | true => exact .stay (fun _ => .sendMsg) fun _ => .ret rfl
  cases call with
  | bindBattleSession s b i =>
      refine ((clearBattleSession_follows rfl rfl).bind fun q _ hq => hq ▸ ?_).mono (hend .added (by simp))
      refine .stay (fun _ => .changes rfl .stores) fun _ => ?_
      exact .stay (fun _ => .changes rfl .adds) fun _ => .ret rfl
  | clearBattleSession s => exact (clearBattleSession_follows rfl rfl).mono (hend .cleared (by simp))
  | handleBattleServerOffline i =>
      refine .perform_bind (fun sessions => (_, .sweeping sessions)) (fun _ => .changes rfl .empties) fun _ => ?_
      refine (forEach_follows (fun s rest => ?_) _).mono (hend _ hswept)
      refine .stay (fun _ => .changes rfl .sweeps) fun old => ?_
      cases old with
      | none => exact .ret rfl
      | some state => exact hquiet s _
  | bindTownSession s i =>
      refine ((clearTownSession_follows rfl rfl).bind fun q _ hq => hq ▸ ?_).mono (hend .added (by simp))
      refine .stay (fun _ => .changes rfl .stores) fun _ => ?_
      exact .stay (fun _ => .changes rfl .adds) fun _ => .ret rfl
  | clearTownSession s => exact (clearTownSession_follows rfl rfl).mono (hend .cleared (by simp))
  | handleTownServerOffline i =>
      refine .perform_bind (fun sessions => (_, .sweeping sessions)) (fun _ => .changes rfl .empties) fun _ => ?_
      refine (forEach_follows (fun s rest => ?_) _).mono (hend _ hswept)
      refine .stay (fun _ => .changes rfl .sweeps) fun removed => ?_
      show Program.Follows _ _ _ (if removed = some i then _ else _)
      split_ifs
      · exact hquiet s _
      · exact .ret rfl

end IndexCall

/-! ### Runs -/

open IndexCall

/-- The sessions and instances of a side agree, on both sides. -/
def GameState.Consistent (g : GameState) : Prop := ∀ side, (g.index side).Agrees

/-- Some call in flight makes the change next. -/
def Pending (pool : Pool gameOps GameState IndexCall) (side : Side) (c : Index.Change UInt32 UInt32) : Prop :=
  ∃ p ∈ pool.threads, ∃ op next, p = .call op next ∧ op.change = some (side, c)

/-- No call comes between the sections of others in a way that parts the two maps: what is stored does not
take the place of another entry that nobody has come to drop; a session is added to an instance while its
entry is the instance's, and dropped while it is not, or else the opposite is about to follow; and the
handler of an instance finds no entry that the session has got since. -/
def Orderly (calls : List IndexCall) (pool : Pool gameOps GameState IndexCall) :
    Pool.Event gameOps IndexCall Unit → Prop
  | .call k c => ∀ call side change, calls[k]? = some call → c.op.change = some (side, change) →
      (pool.shared.index side).Timely (Pending pool side) call.task change
  | _ => True

/-- Whatever is taken from a session is taken by a call for the session, or by the handler of the instance. -/
def TakenRightly (calls : List IndexCall) (pool : Pool gameOps GameState IndexCall) :
    Pool.Event gameOps IndexCall Unit → Prop
  | .call k c => ∀ side s i, ((pool.shared).index side).Leaves ((pool.shared.after c.op).index side) s i →
      ∃ call, calls[k]? = some call ∧ call.side = side ∧ (call.task.key = some s ∨ call.task = .offline i)
  | _ => True

def indexGuide : Pool.Guide indexing Progress where
  moves := Moves
  stops q call := q.1 = call ∧ ∀ d, ¬ Index.Owes q.1.task q.2 d
  fresh _ call := (call, .start)
  begins q _ q' := q' = (q.1, .start)
  fresh_stops _ _ _ _ h := h.elim
  follows := by
    rintro ⟨call, stage⟩ _ _ _ ⟨rfl, -⟩ hp
    cases hp
    refine ⟨_, rfl, (program_follows call).bind ?_⟩
    rintro ⟨_, stage'⟩ _ ⟨rfl, hfree⟩
    exact .ret ⟨rfl, hfree⟩

/-- Some call owes the change. -/
def OwedBy (qs : List Progress) (side : Side)
    (c : Index.Change UInt32 UInt32) : Prop :=
  ∃ (k : Nat) (q : Progress), qs[k]? = some q ∧ q.1.side = side ∧ Index.Owes q.1.task q.2 c

section Runs

variable {pool : Pool gameOps GameState IndexCall} {qs : List Progress}

theorem owedBy_of_pending (htracks : indexGuide.Tracks qs pool.threads) {side : Side} {i s : UInt32} :
    (Pending pool side (.drop i s) → OwedBy qs side (.drop i s)) ∧
      (Pending pool side (.add i s) → OwedBy qs side (.add i s)) := by
  have howed : ∀ c, Pending pool side c → (∀ op : GameOp, op.change = some (side, c) → op.Answer = Unit) →
      ∃ (k : Nat) (q : Progress) (stage' : _) (o : _) (ks : _), qs[k]? = some q ∧ q.1.side = side ∧
        Index.Moves q.1.task q.2 c o ks stage' := by
    rintro c ⟨p, hp, op, next, rfl, hop⟩ hunit
    obtain ⟨k, hk⟩ := List.getElem?_of_mem hp
    obtain ⟨q, hq, hfollows⟩ := htracks.get hk
    obtain ⟨q', hmoves, -⟩ := hfollows.step (cast (hunit op hop).symm ())
    cases hmoves with
    | changes hop' hmoves =>
        obtain ⟨rfl, rfl⟩ := Prod.mk.inj (Option.some.inj (hop.symm.trans hop'))
        exact ⟨k, _, _, _, _, hq, rfl, hmoves⟩
    | isSessionLoggedIn | sendMsg => cases hop
  constructor
  · intro h
    obtain ⟨k, q, _, _, _, hq, hside, hmoves⟩ := howed _ h fun op hop => by cases op <;> cases hop <;> rfl
    exact ⟨k, q, hq, hside, Index.Moves.owed.1 hmoves⟩
  · intro h
    obtain ⟨k, q, _, _, _, hq, hside, hmoves⟩ := howed _ h fun op hop => by cases op <;> cases hop <;> rfl
    exact ⟨k, q, hq, hside, Index.Moves.owed.2 hmoves⟩

/-- What is known in every state: who runs what, and that the maps agree up to what is owed. -/
structure Indexed (calls : List IndexCall) (g : GameState)
    (qs : List Progress) : Prop where
  calls_eq : qs.map Prod.fst = calls
  settles : ∀ side, (g.index side).Settles (OwedBy qs side)

theorem Indexed.call_eq {calls : List IndexCall} {g : GameState} (h : Indexed calls g qs) {k : Nat}
    {q : Progress} (hk : qs[k]? = some q) : calls[k]? = some q.1 := by
  rw [← h.calls_eq, List.getElem?_map, hk]
  rfl

theorem Indexed.set {calls : List IndexCall} {g : GameState} (h : Indexed calls g qs) {k : Nat}
    {call : IndexCall} {stage : Index.Stage UInt32 UInt32} (hk : qs[k]? = some (call, stage))
    (stage' : Index.Stage UInt32 UInt32) : (qs.set k (call, stage')).map Prod.fst = calls := by
  rw [List.map_set, h.calls_eq]
  obtain ⟨hlt, hget⟩ := List.getElem?_eq_some_iff.1 (h.call_eq hk)
  rw [← hget, List.set_getElem_self]

theorem Indexed.step {calls : List IndexCall} (h : Indexed calls pool.shared qs)
    (htracks : indexGuide.Tracks qs pool.threads) {e : Pool.Event gameOps IndexCall Unit}
    (horderly : Orderly calls pool e) {g' : GameState}
    {qs' : List Progress}
    (hstep : indexGuide.Step (pool.shared, qs) e (g', qs')) : Indexed calls g' qs' ∧ TakenRightly calls pool e := by
  cases hstep with
  | opens hopens => exact hopens.elim
  | environment henv => exact henv.elim
  | @input _ _ k q q' l e hk hstops hhandle hbegins =>
      obtain ⟨call, stage⟩ := q
      obtain rfl := hbegins
      refine ⟨⟨h.set hk _, fun side => ?_⟩, trivial⟩
      have howed : ∀ c, OwedBy qs side c → OwedBy (qs.set k (call, .start)) side c := by
        rintro c ⟨j, q, hj, hside, hq⟩
        refine ⟨j, q, ?_, hside, hq⟩
        rw [Pool.Guide.get_set hk, if_neg ?_]
        · exact hj
        · rintro rfl
          obtain rfl := Option.some.inj (hk.symm.trans hj)
          exact hstops.2 _ hq
      exact ⟨fun s i hs => ((h.settles side).entry_of_mem s i hs).imp_right (howed _), fun s i hs =>
        ((h.settles side).mem_of_entry s i hs).imp_right (Or.imp (howed _) (howed _))⟩
  | @call _ _ _ k q q' op answer hk hmoves hdoes =>
      obtain ⟨hreturns, rfl⟩ := hdoes
      have hquiet : q' = q → (pool.shared.after op) = pool.shared →
          Indexed calls (pool.shared.after op) (qs.set k q') ∧ TakenRightly calls pool (.call k ⟨op, answer⟩) := by
        rintro rfl hsame
        rw [hsame]
        obtain ⟨hlt, hget⟩ := List.getElem?_eq_some_iff.1 hk
        rw [← hget, List.set_getElem_self]
        refine ⟨h, fun side s i hleaves => ?_⟩
        dsimp only at hleaves
        rw [hsame] at hleaves
        exact absurd hleaves (Index.not_leaves_self _ _ _)
      cases hmoves with
      | isSessionLoggedIn | sendMsg => exact hquiet rfl rfl
      | @changes call stage stage' _ _ c hop hmoves =>
          have htimely := (horderly call call.side c (h.call_eq hk) hop).mono
            (fun _ _ => (owedBy_of_pending htracks).1) fun _ _ => (owedBy_of_pending htracks).2
          have howed : ∀ side c', OwedBy qs side c' → (side = call.side ∧ c' = c) ∨
              OwedBy (qs.set k (call, stage')) side c' := by
            rintro side c' ⟨j, q, hj, hside, hq⟩
            by_cases hjk : j = k
            · subst hjk
              obtain rfl := Option.some.inj (hk.symm.trans hj)
              rcases hmoves.owes hq with hq | rfl
              · exact Or.inr ⟨j, _, (Pool.Guide.get_set hk _ _).trans (if_pos rfl), hside, hq⟩
              · exact Or.inl ⟨hside.symm, rfl⟩
            · exact Or.inr ⟨j, q, (Pool.Guide.get_set hk _ _).trans ((if_neg hjk).trans hj), hside, hq⟩
          have hown : ∀ d, Index.Owes call.task stage' d → OwedBy (qs.set k (call, stage')) call.side d :=
            fun d hd => ⟨k, _, (Pool.Guide.get_set hk _ _).trans (if_pos rfl), rfl, hd⟩
          refine ⟨⟨h.set hk _, fun side => ?_⟩, fun side s i hleaves => ⟨call, h.call_eq hk, ?_⟩⟩
          · by_cases hside : side = call.side
            · subst hside
              rw [index_after hop]
              refine (h.settles _).step hmoves htimely ?_ ?_ (fun d hd => ?_) hown
              · rintro s rfl
                exact hreturns.found hop
              · rintro i rfl s hs
                exact hreturns.listed hop hs
              · exact (howed _ _ hd).imp_left And.right
            · rw [index_after_other hop hside]
              have hkept : ∀ c', OwedBy qs side c' → OwedBy (qs.set k (call, stage')) side c' :=
                fun c' hc' => (howed _ _ hc').resolve_left fun hpaid => hside hpaid.1
              exact ⟨fun s i hs => ((h.settles side).entry_of_mem s i hs).imp_right (hkept _), fun s i hs =>
                ((h.settles side).mem_of_entry s i hs).imp_right (Or.imp (hkept _) (hkept _))⟩
          · by_cases hside : side = call.side
            · subst hside
              rw [index_after hop] at hleaves
              exact ⟨rfl, hmoves.leaves htimely hleaves⟩
            · rw [index_after_other hop hside] at hleaves
              exact absurd hleaves (Index.not_leaves_self _ _ _)

end Runs

/-- In every run in which no call comes between the sections of another in a way that parts the maps, these
agree whenever no call is in flight, and every session keeps its instance until it is cleared or bound
anew or that instance goes offline. -/
theorem indexes_of_run (calls : List IndexCall) (trace pool)
    (hrun : Run (Pool.Step indexing) (Pool.idle {} calls) trace pool)
    (horderly : ∀ e ∈ trace, Orderly calls e.1 e.2) :
    ((∀ p ∈ pool.threads, p.isRet) → pool.shared.Consistent) ∧ ∀ e ∈ trace, TakenRightly calls e.1 e.2 := by
  have hstart : indexGuide.Tracks (calls.map fun call => (call, Index.Stage.start))
      (Pool.idle ({} : GameState) calls).threads := by
    rw [Pool.Guide.Tracks, Pool.idle, List.forall₂_map_left_iff, List.forall₂_map_right_iff]
    exact List.forall₂_same.2 fun call _ => .ret ⟨rfl, by simp⟩
  have hinit : Indexed calls {} (calls.map fun call => (call, Index.Stage.start)) := by
    refine ⟨by simp [Function.comp_def], fun side => ?_⟩
    cases side <;> exact ⟨fun s i hs => by simp [index] at hs, fun s i hs => by simp [index] at hs⟩
  obtain ⟨qs, htracks, hindexed, htaken⟩ := indexGuide.invariant_of hstart hrun (Orderly calls) horderly
    (fun trace g qs => Indexed calls g qs ∧ ∀ e ∈ trace, TakenRightly calls e.1 e.2) ⟨hinit, List.forall_mem_nil _⟩ <| by
      rintro trace pool qs e g' qs' htracks ⟨hindexed, htaken⟩ horderly hstep
      obtain ⟨hindexed', hrightly⟩ := hindexed.step htracks horderly hstep
      refine ⟨hindexed', fun e' he' => ?_⟩
      rcases List.mem_append.1 he' with he' | he'
      · exact htaken e' he'
      · rw [List.mem_singleton.1 he']
        exact hrightly
  refine ⟨fun hidle side => (hindexed.settles side).agrees ?_, htaken⟩
  rintro c ⟨k, q, hk, -, hq⟩
  obtain ⟨p, hp, hfollows⟩ := htracks.get' hk
  obtain ⟨call, rfl⟩ := Program.isRet_iff.1 (hidle p (List.mem_of_getElem? hp))
  exact hfollows.of_ret.2 c hq

/-! ### Schedules -/

def indexExecutor : Pool.Executor indexing where
  exec := GameState.exec lonely
  opened _ _ _ := none
  does_exec := GameState.does_exec lonely
  opens_opened := nofun

/-- Session 1 changes from instance 7 to 8. -/
theorem indexes_of_run_rebound : ∃ trace pool,
    Run (Pool.Step indexing) (Pool.idle {} [.bindBattleSession 1 1 7, .bindBattleSession 1 2 8]) trace pool ∧
      pool.shared.Consistent := by
  obtain ⟨⟨trace, pool⟩, hrecord⟩ := Option.isSome_iff_exists.1 (show
    (indexExecutor.record (Pool.idle {} [.bindBattleSession 1 1 7, .bindBattleSession 1 2 8])
      (.input 0 () :: List.replicate 3 (.call 0) ++ .input 1 () :: List.replicate 4 (.call 1))).isSome = true
    from rfl)
  have hrun := Pool.Executor.record_sound _ hrecord
  cases hrecord
  refine ⟨_, _, hrun, (indexes_of_run _ _ _ hrun ?_).1 ?_⟩
  · simp only [List.forall_mem_cons]
    refine ⟨trivial, ?_, ?_, ?_, trivial, ?_, ?_, ?_, ?_, nofun⟩ <;> rintro _ _ _ ⟨⟩ ⟨⟩
    -- the first call takes nothing, stores and adds
    · trivial
    · exact nofun
    · exact Or.inl rfl
    -- the second takes 7, drops it, stores and adds
    · trivial
    · exact Or.inl nofun
    · exact nofun
    · exact Or.inl rfl
  · decide +kernel

/-- The battle entry of a session, before and after a step. -/
def battleEntries (sessionId : UInt32) (e : Pool gameOps GameState IndexCall × Pool.Event gameOps IndexCall Unit) :
    Option (Nat × Option UInt32 × Option UInt32) :=
  match e.2 with
  | .call k c => some (k, (e.1.shared.index .battle).entry sessionId,
      ((e.1.shared.after c.op).index .battle).entry sessionId)
  | _ => none

/-- Session 1 changes from instance 7 to 8 while 7 goes offline: the handler takes the new entry, and the
session stays among those of 8. -/
theorem index_rebound_offline : ∃ calls trace pool,
    Run (Pool.Step indexing) (Pool.idle {} calls) trace pool ∧ (∀ p ∈ pool.threads, p.isRet) ∧
      ¬ pool.shared.Consistent ∧ ∃ e ∈ trace, ¬ TakenRightly calls e.1 e.2 := by
  have h : ∃ r, indexExecutor.record (Pool.idle {}
      [.bindBattleSession 1 1 7, .handleBattleServerOffline 7, .bindBattleSession 1 2 8])
      (.input 0 () :: List.replicate 3 (.call 0) ++ [.input 1 (), .call 1, .input 2 ()] ++
        List.replicate 4 (.call 2) ++ [.call 1, .call 1]) = some r ∧ (∀ p ∈ r.2.threads, p.isRet = true) ∧
      (r.2.shared.index .battle).entry 1 = none ∧ 1 ∈ (r.2.shared.index .battle).members 8 ∧
      ∃ e ∈ r.1, battleEntries 1 e = some (1, some 8, none) := by
    decide +kernel
  obtain ⟨⟨trace, pool⟩, hrecord, hidle, hentry, hmem, ⟨before, e⟩, he, htaken⟩ := h
  refine ⟨_, trace, pool, Pool.Executor.record_sound _ hrecord, hidle, fun hconsistent => ?_, _, he, ?_⟩
  · have hagree := (hconsistent .battle 1 8).1 hmem
    rw [hentry] at hagree
    cases hagree
  · intro hrightly
    cases e with
    | call k c =>
        simp only [battleEntries, Option.some.injEq, Prod.mk.injEq] at htaken
        obtain ⟨rfl, hbefore, hafter⟩ := htaken
        obtain ⟨call, hcall, -, htask⟩ := hrightly .battle 1 8 (Or.inl ⟨hbefore, by simp [hafter]⟩)
        cases hcall
        rcases htask with htask | htask <;> cases htask
    | opens | input | environment => cases htaken

end AxmolFighter.Game
