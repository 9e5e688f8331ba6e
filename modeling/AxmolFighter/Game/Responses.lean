import AxmolFighter.Game.Duels

/-!
# Which duel a response answers

`handle_duel_respond` names no challenger: it takes the first pending duel with its session as the target
that an iteration over the map meets. What comes of the response is the same for all iteration orders as
long as no two challengers wait for one target, which `handle_duel_invite` does not check.
-/

namespace AxmolFighter.Game

open GameState

/-- Executes operations, where the duel that is looked up for a target is given. -/
def GameState.finding (found : Option PendingDuel) (outside : (r : Request) → r.Answer) (g : GameState) :
    (op : GameOp) → op.Answer × GameState
  | .findPendingDuelForTarget _ => (found, g)
  | op => g.exec outside op

/-- What comes of a response. -/
structure Response where
  removed : List UInt32
  notified : List (GamePush × UInt32)
  battles : List (List (UInt32 × Int64))

def GameOp.removedDuel : GameOp → Option UInt32
  | .removePendingDuel challengerSession => some challengerSession
  | _ => none

def GameOp.players : GameOp → Option (List (UInt32 × Int64))
  | .request (.battleCreate _ req) => some (req.players.map fun p => (p.sessionId, p.playerId))
  | _ => none

def response (found : Option PendingDuel) (outside : (r : Request) → r.Answer) (d : Delegate)
    (accept : Int32) (g : GameState) : Response :=
  let ops := ((d.handleDuelRespond accept).record (finding found outside) g).map fun c => c.2.op
  { removed := ops.filterMap GameOp.removedDuel
    notified := ops.filterMap GameOp.message
    battles := ops.filterMap GameOp.players }

/-- Whatever its delegate, its answer and what others answer, a response in the session's name comes to the
same for any two duels that the lookup can find. -/
def OrderFree (g : GameState) (target : UInt32) : Prop :=
  ∀ (outside : (r : Request) → r.Answer) (d : Delegate) (accept : Int32) (found found' : Option PendingDuel),
    d.sessionId = target → g.Returns (.findPendingDuelForTarget target) found →
      g.Returns (.findPendingDuelForTarget target) found' →
        response found outside d accept g = response found' outside d accept g

/-- No two duels are pending for one target. -/
def Unrivalled (t : Table UInt32 PendingDuel) : Prop :=
  ∀ c p c' p', t.get c = some p → t.get c' = some p' → p.targetSession = p'.targetSession → c = c'

/-- Every duel is kept under its challenger. -/
def Keyed (t : Table UInt32 PendingDuel) : Prop := ∀ c p, t.get c = some p → p.challengerSession = c

/-! ### The lookup -/

section

variable {g : GameState} {target : UInt32}

theorem returns_find {found : Option PendingDuel} (h : g.Returns (.findPendingDuelForTarget target) found) :
    (∃ c p, found = some p ∧ g.pendingDuels.get c = some p ∧ p.targetSession = target) ∨
      found = none ∧ ∀ c p, g.pendingDuels.get c = some p → p.targetSession ≠ target := by
  cases h with
  | inOrder =>
      show (∃ c p, (g.pendingDuels.values.find? fun p => p.targetSession = target) = some p ∧ _) ∨
        (g.pendingDuels.values.find? fun p => p.targetSession = target) = none ∧ _
      rcases hfind : g.pendingDuels.values.find? fun p => p.targetSession = target with _ | p
      · refine Or.inr ⟨hfind, fun c p hget htarget => ?_⟩
        have hmem := (g.pendingDuels.mem_values p).2 ⟨c, hget⟩
        exact List.find?_eq_none.1 hfind p hmem (decide_eq_true htarget)
      · obtain ⟨c, hget⟩ := (g.pendingDuels.mem_values p).1 (List.mem_of_find?_eq_some hfind)
        exact Or.inl ⟨c, p, hfind, hget, by simpa using List.find?_some hfind⟩
  | findPendingDuelForTarget h htarget => exact Or.inl ⟨_, _, rfl, h, htarget⟩

theorem orderFree_of_unrivalled (h : Unrivalled g.pendingDuels) : OrderFree g target := by
  intro outside d accept found found' hsid hfound hfound'
  have hsame : found = found' := by
    rcases returns_find hfound with ⟨c, p, rfl, hget, htarget⟩ | ⟨rfl, hnone⟩
    · rcases returns_find hfound' with ⟨c', p', rfl, hget', htarget'⟩ | ⟨rfl, hnone⟩
      · obtain rfl := h c p c' p' hget hget' (htarget.trans htarget'.symm)
        exact hget.symm.trans hget'
      · exact absurd htarget (hnone c p hget)
    · rcases returns_find hfound' with ⟨c', p', rfl, hget', htarget'⟩ | ⟨rfl, -⟩
      · exact absurd htarget' (hnone c' p' hget')
      · rfl
  rw [hsame]

theorem removed_reject (p : PendingDuel) (outside : (r : Request) → r.Answer) (d : Delegate) :
    (response (some p) outside d 0 g).removed = [p.challengerSession] := rfl

theorem unrivalled_of_orderFree (hkeyed : Keyed g.pendingDuels) (h : ∀ target, OrderFree g target) :
    Unrivalled g.pendingDuels := by
  intro c p c' p' hget hget' htarget
  have hsame := h p.targetSession lonely { sessionId := p.targetSession } 0 (some p) (some p') rfl
    (.findPendingDuelForTarget hget rfl) (.findPendingDuelForTarget hget' htarget.symm)
  have hremoved := congrArg Response.removed hsame
  rw [removed_reject, removed_reject, hkeyed c p hget, hkeyed c' p' hget'] at hremoved
  exact (List.cons.inj hremoved).1

theorem orderFree_iff (hkeyed : Keyed g.pendingDuels) :
    (∀ target, OrderFree g target) ↔ Unrivalled g.pendingDuels :=
  ⟨unrivalled_of_orderFree hkeyed, fun h _ => orderFree_of_unrivalled h⟩

end

/-! ### Runs -/

section

variable {g : GameState} {op : GameOp}

theorem pending_of_after (hop : ∀ p, op ≠ .addPendingDuel p) {c : UInt32} {p : PendingDuel}
    (h : (g.after op).pendingDuels.get c = some p) : g.pendingDuels.get c = some p := by
  rcases pending_after h with hadd | ⟨hget, -⟩
  · exact absurd hadd (hop p)
  · exact hget

theorem pending_of_offer {new p : PendingDuel} {c : UInt32}
    (h : (g.after (.addPendingDuel new)).pendingDuels.get c = some p) :
    (c = new.challengerSession ∧ p = new) ∨ g.pendingDuels.get c = some p := by
  change (g.pendingDuels.insert new.challengerSession new).get c = some p at h
  rw [Table.get_insert] at h
  split_ifs at h with hc
  · exact Or.inl ⟨hc, (Option.some.inj h).symm⟩
  · exact Or.inr h

theorem keyed_after (h : Keyed g.pendingDuels) : Keyed (g.after op).pendingDuels := by
  intro c p hget
  by_cases hadd : ∃ new, op = .addPendingDuel new
  · obtain ⟨new, rfl⟩ := hadd
    rcases pending_of_offer hget with ⟨rfl, rfl⟩ | hget
    · rfl
    · exact h c p hget
  · exact h c p (pending_of_after (fun new hop => hadd ⟨new, hop⟩) hget)

/-- The offer is the only one for its target, but for an older one of its challenger. -/
def Alone (g : GameState) (op : GameOp) : Prop :=
  ∀ p, op = .addPendingDuel p → ∀ c q, g.pendingDuels.get c = some q →
    q.targetSession = p.targetSession → c = p.challengerSession

theorem unrivalled_after (h : Unrivalled g.pendingDuels) (halone : Alone g op) :
    Unrivalled (g.after op).pendingDuels := by
  intro c p c' p' hget hget' htarget
  by_cases hadd : ∃ new, op = .addPendingDuel new
  · obtain ⟨new, rfl⟩ := hadd
    have hnew := halone new rfl
    rcases pending_of_offer hget with ⟨rfl, rfl⟩ | hold
    · rcases pending_of_offer hget' with ⟨rfl, rfl⟩ | hold'
      · rfl
      · exact (hnew c' p' hold' htarget.symm).symm
    · rcases pending_of_offer hget' with ⟨rfl, rfl⟩ | hold'
      · exact hnew c p hold htarget
      · exact h c p c' p' hold hold' htarget
  · have hkept : ∀ new, op ≠ .addPendingDuel new := fun new hop => hadd ⟨new, hop⟩
    exact h c p c' p' (pending_of_after hkept hget) (pending_of_after hkept hget') htarget

theorem alone_of_unrivalled_after (h : Unrivalled (g.after op).pendingDuels) : Alone g op := by
  rintro p rfl c q hget htarget
  by_contra hne
  refine hne (h c q p.challengerSession p ?_ (Table.get_insert_self _ _ _) htarget)
  exact (Table.get_insert_ne _ _ hne).trans hget

end

/-- Unless the step offers a duel, or no other challenger has offered one to the target. -/
def Vacant (pool : PlayPool) (e : PlayEvent) : Prop :=
  ∀ k c, e = .call k c → Alone pool.shared c.op

theorem duels_of_step {pool pool' : PlayPool} {e : PlayEvent} (h : Pool.Step playing pool e pool') :
    (pool'.shared = pool.shared ∧ ∀ k c, e ≠ .call k c) ∨
      ∃ k c, e = .call k c ∧ pool'.shared = pool.shared.after c.op := by
  cases h with
  | opens hopens => exact Or.inl ⟨hopens.1, nofun⟩
  | input _ _ => exact Or.inl ⟨rfl, nofun⟩
  | call _ hdoes => exact Or.inr ⟨_, _, rfl, hdoes.2⟩
  | environment henv => exact henv.elim

/-- All states are order free, exactly if all offers were alone. -/
structure Sound (trace : List (PlayPool × PlayEvent)) (pool : PlayPool) : Prop where
  keyed : Keyed pool.shared.pendingDuels
  orderFree_iff : ((∀ target, OrderFree pool.shared target) ∧
    ∀ e ∈ trace, ∀ target, OrderFree e.1.shared target) ↔ ∀ e ∈ trace, Vacant e.1 e.2

theorem Sound.step {trace : List (PlayPool × PlayEvent)} {pool pool' : PlayPool} {e : PlayEvent}
    (h : Sound trace pool) (hstep : Pool.Step playing pool e pool') : Sound (trace ++ [(pool, e)]) pool' := by
  have hkeyed : Keyed pool'.shared.pendingDuels := by
    rcases duels_of_step hstep with ⟨hsame, -⟩ | ⟨k, c, -, hafter⟩
    · rw [hsame]
      exact h.keyed
    · rw [hafter]
      exact keyed_after h.keyed
  refine ⟨hkeyed, ?_⟩
  rw [List.forall_mem_append, List.forall_mem_append, List.forall_mem_singleton, List.forall_mem_singleton]
  constructor
  · rintro ⟨hlast, htrace, hpool⟩
    refine ⟨h.orderFree_iff.1 ⟨hpool, htrace⟩, ?_⟩
    rintro k c rfl
    rcases duels_of_step hstep with ⟨-, hne⟩ | ⟨k', c', hcall, hafter⟩
    · exact absurd rfl (hne k c)
    · cases hcall
      have hunrivalled := unrivalled_of_orderFree hkeyed hlast
      rw [hafter] at hunrivalled
      exact alone_of_unrivalled_after hunrivalled
  · rintro ⟨htrace, hvacant⟩
    obtain ⟨hpool, hfree⟩ := h.orderFree_iff.2 htrace
    refine ⟨fun target => ?_, hfree, hpool⟩
    rcases duels_of_step hstep with ⟨hsame, -⟩ | ⟨k, c, rfl, hafter⟩
    · rw [hsame]
      exact hpool target
    · rw [hafter]
      refine orderFree_of_unrivalled (unrivalled_after ?_ (hvacant k c rfl))
      exact unrivalled_of_orderFree h.keyed hpool

/-- In a run of the handlers, responses to duels are the same for all iteration orders in every state that
it goes through, exactly if no duel is ever offered to a target to whom another challenger has offered one. -/
theorem orderFree_of_run (trace pool) (hrun : Run (Pool.Step playing) ⟨{}, []⟩ trace pool) :
    ((∀ target, OrderFree pool.shared target) ∧ ∀ e ∈ trace, ∀ target, OrderFree e.1.shared target) ↔
      ∀ e ∈ trace, Vacant e.1 e.2 := by
  have hsound : Sound trace pool := by
    refine hrun.invariant_trace ⟨?_, ?_⟩ fun _ _ _ _ _ h hstep => h.step hstep
    · intro c p hget
      simp at hget
    · refine ⟨fun _ => nofun, fun _ => ⟨fun target => orderFree_of_unrivalled ?_, nofun⟩⟩
      intro c p _ _ hget
      simp at hget
  exact hsound.orderFree_iff

/-! ### Schedules -/

/-- With an account `c` of its own. -/
def crowded : (r : Request) → r.Answer
  | .account account =>
      if account = "c" then .ok (some { id := 12, password := "", nickname := "" })
      else hospitable (.account account)
  | r => hospitable r

/-- A session logs in, selects a character and enters a town, one handler after the other. -/
def arrival (k : Nat) (sessionId : UInt32) (account : String) : List PlayEvent :=
  [.opens (.session { sessionId }), .input k (.frame (.login { account, password := "" })),
    .input k (.frame (.selectCharacter 1)),
    .input k (.frame (.enterScene { type := 0, mapId := 0, ownerUid := 0, state := none }))]

/-- No call offers a duel while another one is pending. -/
def offersFirst (e : PlayPool × PlayEvent) : Bool :=
  match e.2 with
  | .call _ ⟨.addPendingDuel _, _⟩ => decide (e.1.shared.pendingDuels = ∅)
  | _ => true

theorem vacant_of_offersFirst {e : PlayPool × PlayEvent} (h : offersFirst e = true) : Vacant e.1 e.2 := by
  rintro k ⟨op, answer⟩ hcall p rfl c q hget
  simp only [offersFirst, hcall, decide_eq_true_eq] at h
  rw [h] at hget
  simp at hget

/-- The same, call by call. -/
def arrivalCalls (k : Nat) (sessionId : UInt32) (account : String) : List (Pool.Slot Actor Input) :=
  .opens (.session { sessionId }) :: .input k (.frame (.login { account, password := "" })) ::
    List.replicate 3 (.call k) ++ .input k (.frame (.selectCharacter 1)) :: List.replicate 4 (.call k) ++
    .input k (.frame (.enterScene { type := 0, mapId := 0, ownerUid := 0, state := none })) ::
    List.replicate 6 (.call k)

/-- Session 1 invites session 2. -/
theorem orderFree_of_run_invite : ∃ trace pool, Run (Pool.Step playing) ⟨{}, []⟩ trace pool ∧
    (pool.shared.pendingDuels.get 1).isSome = true ∧ ∀ target, OrderFree pool.shared target := by
  have h : ∃ r, (playExecutor hospitable).record ⟨{}, []⟩ (arrivalCalls 0 1 "a" ++ arrivalCalls 1 2 "b" ++
      .input 0 (.frame (.duelInvite 11)) :: List.replicate 8 (.call 0)) = some r ∧
      (r.2.shared.pendingDuels.get 1).isSome = true ∧ ∀ e ∈ r.1, offersFirst e = true := by
    decide +kernel
  obtain ⟨⟨trace, pool⟩, hrecord, hsome, hfirst⟩ := h
  have hrun := Pool.Executor.record_sound _ hrecord
  have hfree := (orderFree_of_run trace pool hrun).2 fun e he => vacant_of_offersFirst (hfirst e he)
  exact ⟨trace, pool, hrun, hsome, hfree.1⟩

/-- Sessions 1 and 2 both invite session 3. -/
theorem order_decides_duel : ∃ turns s, Run (Pool.Turn playing) ({}, []) turns s ∧ ¬ OrderFree s.1 3 := by
  have h : ∃ r, Run.record (playExecutor crowded).turn ({}, [])
      (arrival 0 1 "a" ++ arrival 1 2 "b" ++ arrival 2 3 "c" ++
        [.input 0 (.frame (.duelInvite 12)), .input 1 (.frame (.duelInvite 12))]) = some r ∧
      (∃ p, r.2.1.pendingDuels.get 1 = some p ∧ p.challengerSession = 1 ∧ p.targetSession = 3) ∧
      ∃ p, r.2.1.pendingDuels.get 2 = some p ∧ p.challengerSession = 2 ∧ p.targetSession = 3 := by
    decide +kernel
  obtain ⟨⟨turns, s⟩, hrecord, ⟨p, hget, hchallenger, htarget⟩, q, hget', hchallenger', htarget'⟩ := h
  refine ⟨turns, s, Run.of_record (playExecutor crowded).turn_sound hrecord, fun hfree => ?_⟩
  have hsame := hfree lonely { sessionId := 3 } 0 (some p) (some q) rfl
    (.findPendingDuelForTarget hget htarget) (.findPendingDuelForTarget hget' htarget')
  have hremoved := congrArg Response.removed hsame
  rw [removed_reject, removed_reject, hchallenger, hchallenger'] at hremoved
  cases hremoved

end AxmolFighter.Game
