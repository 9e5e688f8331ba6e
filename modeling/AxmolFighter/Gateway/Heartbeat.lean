import AxmolFighter.Gateway.Connections

/-!
# The heartbeat of an internal connection

`start_heartbeat` of `internal_listener.rs` and the handler of `ServerPongResp`, which share the state of the
heartbeat under a lock. The loop wakes up, looks at the state, and later marks a ping as sent; pongs come in
between, with any nonces.
-/

namespace AxmolFighter.Gateway

/-- In milliseconds. -/
def heartbeatInterval : Nat := 5000

/-- Where the loop is: asleep since an instant, awake with the `now` that it has taken, past its look at the
state, or about to send the ping that it has marked. It has sent the close, or is over. -/
inductive HeartbeatPhase
  | sleeping (since : Nat)
  | woken (now : Nat)
  | checked
  | marked
  | closed
  | ended
deriving DecidableEq

structure HeartbeatLoop where
  clock : Nat
  nonce : UInt64 := 0
  state : HeartbeatState := {}
  phase : HeartbeatPhase

inductive HeartbeatEvent
  | advance (ms : Nat)
  | wake
  | check
  | mark
  | send (ok : Bool)
  | pong (nonce : UInt64)
  | abort
deriving DecidableEq

namespace HeartbeatLoop

def start (clock : Nat) : HeartbeatLoop where
  clock
  phase := .sleeping clock

variable (l : HeartbeatLoop)

def step : HeartbeatEvent → Option HeartbeatLoop
  | .advance ms => some { l with clock := l.clock + ms }
  | .wake =>
      match l.phase with
      | .sleeping since =>
          if since + heartbeatInterval ≤ l.clock then some { l with phase := .woken l.clock } else none
      | _ => none
  | .check =>
      match l.phase with
      | .woken now =>
          some { l with phase :=
            if l.state.timedOut now heartbeatTimeout then .closed
            else if l.state.hasPending then .sleeping l.clock
            else .checked }
      | _ => none
  | .mark =>
      match l.phase with
      | .checked => some { l with
          nonce := l.nonce + 1
          state := .markSent (l.nonce + 1) l.clock
          phase := .marked }
      | _ => none
  | .send ok =>
      match l.phase with
      | .marked => some { l with phase := if ok then .sleeping l.clock else .ended }
      | _ => none
  | .pong nonce => some { l with state := (l.state.acknowledge nonce l.clock).2 }
  -- `on_session_close` aborts the task
  | .abort => if l.phase = .closed then none else some { l with phase := .ended }

def Step (l : HeartbeatLoop) (e : HeartbeatEvent) (l' : HeartbeatLoop) : Prop := l.step e = some l'

/-! ### What the steps do -/

variable {l} {l' : HeartbeatLoop}

theorem Step.wake (h : Step l .wake l') : ∃ since, l.phase = .sleeping since ∧
    since + heartbeatInterval ≤ l.clock ∧ l' = { l with phase := .woken l.clock } := by
  simp only [Step, step] at h
  split at h
  · rename_i since hphase
    split_ifs at h with hlate
    exact ⟨since, hphase, hlate, (Option.some.inj h).symm⟩
  · cases h

theorem Step.check (h : Step l .check l') : ∃ now, l.phase = .woken now ∧ l' = { l with
    phase := if l.state.timedOut now heartbeatTimeout then .closed
      else if l.state.hasPending then .sleeping l.clock else .checked } := by
  simp only [Step, step] at h
  split at h
  · rename_i now hphase
    exact ⟨now, hphase, (Option.some.inj h).symm⟩
  · cases h

theorem Step.mark (h : Step l .mark l') : l.phase = .checked ∧ l' = { l with
    nonce := l.nonce + 1, state := .markSent (l.nonce + 1) l.clock, phase := .marked } := by
  simp only [Step, step] at h
  split at h
  · rename_i hphase
    exact ⟨hphase, (Option.some.inj h).symm⟩
  · cases h

theorem Step.send {ok : Bool} (h : Step l (.send ok) l') : l.phase = .marked ∧
    l' = { l with phase := if ok then .sleeping l.clock else .ended } := by
  simp only [Step, step] at h
  split at h
  · rename_i hphase
    exact ⟨hphase, (Option.some.inj h).symm⟩
  · cases h

theorem Step.pong {nonce : UInt64} (h : Step l (.pong nonce) l') :
    l' = { l with state := (l.state.acknowledge nonce l.clock).2 } := (Option.some.inj h).symm

theorem Step.abort (h : Step l .abort l') : l.phase ≠ .closed ∧ l' = { l with phase := .ended } := by
  simp only [Step, step] at h
  split_ifs at h with hclosed
  exact ⟨hclosed, (Option.some.inj h).symm⟩

theorem acknowledge_pending (h : HeartbeatState) (nonce : UInt64) (now : Nat) :
    (h.acknowledge nonce now).2.pending = h.pending.filter fun ping => ping.nonce ≠ nonce := by
  rw [HeartbeatState.acknowledge]
  rcases hpending : h.pending with _ | ping
  · simp [hpending]
  · by_cases hnonce : ping.nonce = nonce
    · simp [hnonce, Option.filter]
    · simp [hnonce, hpending, Option.filter]

/-! ### The pings of a run -/

abbrev Trace := List (HeartbeatLoop × HeartbeatEvent)

/-- The pings that have been sent, each with its nonce and the instant of `mark_sent`. -/
def pings (trace : Trace) : List PendingPing :=
  trace.filterMap fun e => if e.2 = .mark then some ⟨e.1.nonce + 1, e.1.clock⟩ else none

/-- The nonces of the pings whose pong has not been processed. -/
def outstanding (trace : Trace) : List UInt64 :=
  trace.foldl (fun nonces e =>
    match e.2 with
    | .mark => nonces ++ [e.1.nonce + 1]
    | .pong nonce => nonces.filter (· ≠ nonce)
    | _ => nonces) []

/-- The ticks at which the loop has looked at the state. -/
def ticks (trace : Trace) : Nat := trace.countP fun e => decide (e.2 = .check)

section Runs

variable {trace : Trace}

theorem outstanding_snoc (trace : Trace) (l : HeartbeatLoop) (e : HeartbeatEvent) :
    outstanding (trace ++ [(l, e)]) = match e with
      | .mark => outstanding trace ++ [l.nonce + 1]
      | .pong nonce => (outstanding trace).filter (· ≠ nonce)
      | _ => outstanding trace := by
  rw [outstanding, List.foldl_append]
  rfl

theorem pings_snoc (trace : Trace) (l : HeartbeatLoop) (e : HeartbeatEvent) :
    pings (trace ++ [(l, e)]) = pings trace ++ if e = .mark then [⟨l.nonce + 1, l.clock⟩] else [] := by
  rw [pings, List.filterMap_append]
  by_cases he : e = .mark
  · simp [pings, he]
  · simp [pings, he]

theorem ticks_snoc (trace : Trace) (l : HeartbeatLoop) (e : HeartbeatEvent) :
    ticks (trace ++ [(l, e)]) = ticks trace + if e = .check then 1 else 0 := by
  rw [ticks, List.countP_append]
  by_cases he : e = .check
  · simp [ticks, he]
  · simp [ticks, he]

/-- The state has the outstanding ping, and the nonces count the pings. -/
structure Inv (trace : Trace) (l : HeartbeatLoop) : Prop where
  outstanding : outstanding trace = (l.state.pending.map (·.nonce)).toList
  sent : ∀ ping, l.state.pending = some ping → ping ∈ pings trace
  nonces : (pings trace).map (·.nonce) = (List.range (pings trace).length).map fun i => UInt64.ofNat (i + 1)
  nonce : l.nonce = UInt64.ofNat (pings trace).length
  checked : l.phase = .checked → l.state.pending = none
  now : ∀ now, l.phase = .woken now → now ≤ l.clock

theorem inv_of_run {clock : Nat} (hrun : Run Step (start clock) trace l) : Inv trace l := by
  induction hrun with
  | start => exact ⟨rfl, nofun, rfl, rfl, nofun, nofun⟩
  | @next trace l l' e hrun hstep ih =>
      have hsame : ∀ l', l'.state = l.state → l'.nonce = l.nonce → (l'.phase = .checked → l'.state.pending = none) →
          (∀ now, l'.phase = .woken now → now ≤ l'.clock) → outstanding (trace ++ [(l, e)]) = outstanding trace →
          pings (trace ++ [(l, e)]) = pings trace → Inv (trace ++ [(l, e)]) l' := by
        intro l' hstate hnonce hchecked hnow houtstanding hpings
        refine ⟨?_, ?_, ?_, ?_, hchecked, hnow⟩
        · rw [houtstanding, hstate]
          exact ih.outstanding
        · rw [hpings, hstate]
          exact ih.sent
        · rw [hpings]
          exact ih.nonces
        · rw [hpings, hnonce]
          exact ih.nonce
      cases e with
      | advance ms =>
          obtain rfl := Option.some.inj hstep
          refine hsame _ rfl rfl ih.checked (fun now h => ?_) (outstanding_snoc ..) (by simp [pings_snoc])
          have hle := ih.now now h
          show now ≤ l.clock + ms
          omega
      | wake =>
          obtain ⟨since, -, -, rfl⟩ := Step.wake hstep
          refine hsame _ rfl rfl nofun (fun now h => ?_) (outstanding_snoc ..) (by simp [pings_snoc])
          cases h
          exact Nat.le_refl _
      | check =>
          obtain ⟨now, -, rfl⟩ := Step.check hstep
          refine hsame _ rfl rfl (fun h => ?_) (fun now h => ?_) (outstanding_snoc ..) (by simp [pings_snoc])
          · -- it looks on only if nothing is pending
            dsimp only at h
            split_ifs at h with htimeout hpending
            simpa [HeartbeatState.hasPending] using hpending
          · dsimp only at h
            split_ifs at h
      | send ok =>
          obtain ⟨-, rfl⟩ := Step.send hstep
          refine hsame _ rfl rfl (fun h => ?_) (fun now h => ?_) (outstanding_snoc ..) (by simp [pings_snoc])
          · dsimp only at h
            split_ifs at h
          · dsimp only at h
            split_ifs at h
      | abort =>
          obtain ⟨-, rfl⟩ := Step.abort hstep
          exact hsame _ rfl rfl nofun nofun (outstanding_snoc ..) (by simp [pings_snoc])
      | mark =>
          obtain ⟨hphase, rfl⟩ := Step.mark hstep
          have hnone := ih.checked hphase
          have hnonce : l.nonce + 1 = UInt64.ofNat ((pings trace).length + 1) := by
            rw [ih.nonce, UInt64.ofNat_add]
            rfl
          refine ⟨?_, ?_, ?_, ?_, nofun, nofun⟩
          · rw [outstanding_snoc, ih.outstanding, hnone]
            rfl
          · rintro ping ⟨⟩
            rw [pings_snoc, if_pos rfl]
            exact List.mem_append_right _ List.mem_cons_self
          · rw [pings_snoc, if_pos rfl, List.map_append, ih.nonces, List.length_append, List.length_singleton,
              List.range_succ, List.map_append, List.map_singleton, List.map_singleton, hnonce]
          · rw [pings_snoc, if_pos rfl, List.length_append, List.length_singleton]
            exact hnonce
      | pong nonce =>
          obtain rfl := Step.pong hstep
          have hpending := acknowledge_pending l.state nonce l.clock
          have hpings : pings (trace ++ [(l, .pong nonce)]) = pings trace := by simp [pings_snoc]
          refine ⟨?_, fun ping hping => ?_, ?_, ?_, fun h => ?_, ih.now⟩
          · rw [outstanding_snoc, ih.outstanding, hpending]
            rcases l.state.pending with _ | ping
            · rfl
            · by_cases hnonce : ping.nonce = nonce
              · simp [hnonce, Option.filter]
              · simp [hnonce, Option.filter]
          · rw [hpings]
            rw [hpending] at hping
            exact ih.sent ping (Option.filter_eq_some_iff.1 hping).1
          · rw [hpings]
            exact ih.nonces
          · rw [hpings]
            exact ih.nonce
          · rw [hpending, ih.checked h]
            rfl

theorem Inv.nodup (h : Inv trace l) (hpings : (pings trace).length < 2 ^ 64) :
    ((pings trace).map (·.nonce)).Nodup := by
  rw [h.nonces]
  refine List.Nodup.map_on (fun i hi j hj hij => ?_) List.nodup_range
  rw [List.mem_range] at hi hj
  have hnat := congrArg UInt64.toNat hij
  rw [UInt64.toNat_ofNat', UInt64.toNat_ofNat', Nat.mod_eq_of_lt (by omega), Nat.mod_eq_of_lt (by omega)] at hnat
  omega

/-! ### The close -/

/-- Where the loop is `k` ticks after it has sent a ping that is not acknowledged. -/
def OnTime (sentAt k clock : Nat) : HeartbeatPhase → Prop
  | .marked => k = 0 ∧ sentAt ≤ clock
  | .sleeping since => k ≤ 2 ∧ sentAt + k * heartbeatInterval ≤ since ∧ since ≤ clock
  | .woken now => k ≤ 2 ∧ sentAt + (k + 1) * heartbeatInterval ≤ now ∧ now ≤ clock
  | .checked => False
  | .closed => k ≤ 3
  | .ended => k ≤ 2

theorem OnTime.advance {sentAt k clock : Nat} {phase : HeartbeatPhase} (h : OnTime sentAt k clock phase) (ms : Nat) :
    OnTime sentAt k (clock + ms) phase := by
  cases phase with
  | marked => exact ⟨h.1, h.2.trans (Nat.le_add_right _ _)⟩
  | sleeping | woken => exact ⟨h.1, h.2.1, h.2.2.trans (Nat.le_add_right _ _)⟩
  | _ => exact h

structure Awaits (ping : PendingPing) (k : Nat) (l : HeartbeatLoop) : Prop where
  pending : l.state.pending = some ping
  phase : OnTime ping.sentAt k l.clock l.phase

theorem Awaits.check {ping : PendingPing} {k : Nat} (h : Awaits ping k l) (hstep : Step l .check l') :
    Awaits ping (k + 1) l' := by
  obtain ⟨hpending, hphase⟩ := h
  obtain ⟨now, hwoken, rfl⟩ := Step.check hstep
  rw [hwoken] at hphase
  obtain ⟨hk, hlate, hnow⟩ := hphase
  refine ⟨hpending, ?_⟩
  have htimedOut : l.state.timedOut now heartbeatTimeout = decide (heartbeatTimeout ≤ now - ping.sentAt) := by
    simp [HeartbeatState.timedOut, hpending]
  have hhas : l.state.hasPending = true := by simp [HeartbeatState.hasPending, hpending]
  dsimp only
  rw [htimedOut, hhas, if_pos rfl]
  simp only [heartbeatInterval] at hlate
  split_ifs with htimeout
  · show k + 1 ≤ 3
    omega
  · -- three intervals are the timeout, so this is the first tick or the second
    have hearly : ¬ heartbeatTimeout ≤ now - ping.sentAt := fun hle => htimeout (decide_eq_true hle)
    simp only [heartbeatTimeout] at hearly
    refine ⟨by omega, ?_, Nat.le_refl _⟩
    simp only [heartbeatInterval]
    omega

theorem Awaits.step {ping : PendingPing} {k : Nat} {e : HeartbeatEvent} (h : Awaits ping k l) (hstep : Step l e l')
    (hpong : e ≠ .pong ping.nonce) : Awaits ping (k + if e = .check then 1 else 0) l' := by
  by_cases hcheck : e = .check
  · subst hcheck
    exact h.check hstep
  rw [if_neg hcheck, Nat.add_zero]
  obtain ⟨hpending, hphase⟩ := h
  cases e with
  | advance ms =>
      obtain rfl := Option.some.inj hstep
      exact ⟨hpending, hphase.advance ms⟩
  | wake =>
      obtain ⟨since, hsleeping, hlate, rfl⟩ := Step.wake hstep
      rw [hsleeping] at hphase
      obtain ⟨hk, hsince, -⟩ := hphase
      refine ⟨hpending, hk, ?_, Nat.le_refl _⟩
      rw [Nat.add_mul, Nat.one_mul]
      omega
  | check => exact absurd rfl hcheck
  | mark =>
      obtain ⟨hchecked, -⟩ := Step.mark hstep
      rw [hchecked] at hphase
      exact hphase.elim
  | send ok =>
      obtain ⟨hmarked, rfl⟩ := Step.send hstep
      rw [hmarked] at hphase
      obtain ⟨rfl, hsent⟩ := hphase
      refine ⟨hpending, ?_⟩
      cases ok with
      | true => exact ⟨Nat.zero_le _, by omega, Nat.le_refl _⟩
      | false => exact Nat.zero_le 2
  | pong nonce =>
      obtain rfl := Step.pong hstep
      have hne : ping.nonce ≠ nonce := fun heq => hpong (by rw [heq])
      refine ⟨?_, hphase⟩
      rw [acknowledge_pending, hpending]
      simp [Option.filter, hne]
  | abort =>
      obtain ⟨hopen, rfl⟩ := Step.abort hstep
      refine ⟨hpending, ?_⟩
      show k ≤ 2
      cases hl : l.phase with
      | closed => exact absurd hl hopen
      | checked =>
          rw [hl] at hphase
          exact hphase.elim
      | marked =>
          rw [hl] at hphase
          rw [hphase.1]
          exact Nat.zero_le 2
      | sleeping | woken =>
          rw [hl] at hphase
          exact hphase.1
      | ended =>
          rw [hl] at hphase
          exact hphase

theorem awaits_of_run {clock : Nat} (hrun : Run Step (start clock) trace l) {before after : Trace}
    {l₀ : HeartbeatLoop} (htrace : trace = before ++ (l₀, .mark) :: after)
    (hpong : ∀ e ∈ after, e.2 ≠ .pong (l₀.nonce + 1)) : Awaits ⟨l₀.nonce + 1, l₀.clock⟩ (ticks after) l := by
  induction hrun generalizing after with
  | start => simp at htrace
  | @next trace l l' e hrun hstep ih =>
      rcases List.eq_nil_or_concat after with rfl | ⟨after, last, rfl⟩
      · obtain ⟨-, hlast⟩ := List.append_inj' htrace rfl
        cases hlast
        obtain ⟨-, rfl⟩ := Step.mark hstep
        exact ⟨rfl, rfl, Nat.le_refl _⟩
      · rw [List.concat_eq_append, ← List.cons_append, ← List.append_assoc] at htrace
        obtain ⟨hsame, hlast⟩ := List.append_inj' htrace rfl
        cases hlast
        rw [List.concat_eq_append] at hpong ⊢
        rw [ticks_snoc]
        have hawaits := ih hsame fun e he => hpong e (List.mem_append_left _ he)
        exact hawaits.step hstep (hpong (l, e) (List.mem_append_right _ List.mem_cons_self))

/-! ### The verdicts -/

/-- The loop closes the connection at a tick: the ping that is outstanding was sent a timeout ago. -/
structure ClosesAt (trace : Trace) (l : HeartbeatLoop) (e : HeartbeatEvent) : Prop where
  tick : e = .check
  late : ∃ ping now, ping ∈ pings trace ∧ outstanding trace = [ping.nonce] ∧ l.phase = .woken now ∧
    now ≤ l.clock ∧ ping.sentAt + heartbeatTimeout ≤ now

theorem Inv.closes {e : HeartbeatEvent} (h : Inv trace l) (hstep : Step l e l') (hopen : l.phase ≠ .closed)
    (hclosed : l'.phase = .closed) : ClosesAt trace l e := by
  cases e with
  | advance ms =>
      obtain rfl := Option.some.inj hstep
      exact absurd hclosed hopen
  | wake =>
      obtain ⟨_, -, -, rfl⟩ := Step.wake hstep
      cases hclosed
  | mark =>
      obtain ⟨-, rfl⟩ := Step.mark hstep
      cases hclosed
  | send ok =>
      obtain ⟨-, rfl⟩ := Step.send hstep
      dsimp only at hclosed
      split_ifs at hclosed
  | pong nonce =>
      obtain rfl := Step.pong hstep
      exact absurd hclosed hopen
  | abort =>
      obtain ⟨-, rfl⟩ := Step.abort hstep
      cases hclosed
  | check =>
      obtain ⟨now, hwoken, rfl⟩ := Step.check hstep
      dsimp only at hclosed
      split_ifs at hclosed with htimeout
      · rw [HeartbeatState.timedOut, Option.any_eq_true] at htimeout
        obtain ⟨ping, hping, hlate⟩ := htimeout
        have houtstanding := h.outstanding
        rw [hping] at houtstanding
        refine ⟨rfl, ping, now, h.sent ping hping, houtstanding, hwoken, h.now now hwoken, ?_⟩
        have hle : heartbeatTimeout ≤ now - ping.sentAt := of_decide_eq_true hlate
        simp only [heartbeatTimeout] at hle ⊢
        omega

/-- At most one ping is outstanding, only its pong changes the state, the connection is closed only when it
has been outstanding for the timeout, and by the third tick it is. -/
theorem verdicts_of_run {clock : Nat} (hrun : Run Step (start clock) trace l)
    (hpings : (pings trace).length < 2 ^ 64) :
    (outstanding trace).length ≤ 1 ∧ ((pings trace).map (·.nonce)).Nodup ∧
      (∀ nonce l', Step l (.pong nonce) l' → l' ≠ l → outstanding trace = [nonce]) ∧
      (∀ e l', Step l e l' → l.phase ≠ .closed → l'.phase = .closed → ClosesAt trace l e) ∧
      ∀ before l₀ after, trace = before ++ (l₀, .mark) :: after →
        (∀ e ∈ after, e.2 ≠ .pong (l₀.nonce + 1)) → ticks after ≤ 3 ∧ (ticks after = 3 → l.phase = .closed) := by
  have hinv := inv_of_run hrun
  refine ⟨?_, hinv.nodup hpings, ?_, fun e l' => hinv.closes, ?_⟩
  · rw [hinv.outstanding]
    cases l.state.pending <;> simp
  · intro nonce l' hstep hne
    obtain rfl := Step.pong hstep
    have hpending := acknowledge_pending l.state nonce l.clock
    rw [hinv.outstanding]
    have hstate : l.state.pending ≠ (l.state.acknowledge nonce l.clock).2.pending := by
      intro heq
      refine hne ?_
      have hsame : l.state = (l.state.acknowledge nonce l.clock).2 := congrArg HeartbeatState.mk heq
      rw [← hsame]
    rcases hl : l.state.pending with _ | ping
    · rw [hpending, hl] at hstate
      exact absurd rfl hstate
    · by_cases hnonce : ping.nonce = nonce
      · rw [← hnonce]
        rfl
      · rw [hpending, hl] at hstate
        exact absurd (by simp [Option.filter, hnonce]) hstate
  · intro before l₀ after htrace hpong
    obtain ⟨-, hphase⟩ := awaits_of_run hrun htrace hpong
    generalize ticks after = k at hphase
    cases hl : l.phase <;> rw [hl] at hphase
    case closed => exact ⟨hphase, fun _ => rfl⟩
    case checked => exact hphase.elim
    case marked =>
      obtain ⟨rfl, -⟩ := hphase
      exact ⟨Nat.zero_le _, nofun⟩
    case ended =>
      have hk : k ≤ 2 := hphase
      exact ⟨by omega, fun h => by omega⟩
    case sleeping | woken =>
      have hk := hphase.1
      exact ⟨by omega, fun h => by omega⟩

/-- A ping that is not acknowledged, with a pong that was made up. -/
theorem verdicts_of_run_silent : ∃ trace l, Run Step (start 0) trace l ∧ outstanding trace = [1] ∧
    l.phase = .closed ∧ (outstanding trace).length ≤ 1 := by
  have h : ∃ trace l, Run.record step (start 0) [.advance 5000, .wake, .check, .mark, .send true, .pong 7,
      .advance 5000, .wake, .check, .advance 5000, .wake, .check, .advance 5000, .wake, .check] =
        some (trace, l) ∧ (pings trace).length < 2 ^ 64 ∧ outstanding trace = [1] ∧ l.phase = .closed :=
    ⟨_, _, rfl, by decide +kernel, rfl, rfl⟩
  obtain ⟨trace, l, hrecord, hpings, houtstanding, hclosed⟩ := h
  have hrun : Run Step (start 0) trace l := Run.of_record (fun _ _ _ h => h) hrecord
  exact ⟨trace, l, hrun, houtstanding, hclosed, (verdicts_of_run hrun hpings).1⟩

/-! ### The loop is part of the gateway's environment -/

/-- What the loop of a connection does to the shared state is what `Environment` allows, and it keeps up with
the shared clock and the heartbeat under the session. -/
theorem environment_of_step {clock : Nat} (hrun : Run Step (start clock) trace l) {e : HeartbeatEvent}
    (hstep : Step l e l') (hpong : ∀ nonce, e ≠ .pong nonce) {s : Shared} (sessionId : UInt32) (tx : Tx)
    (hclock : s.clock = l.clock) (hstate : s.heartbeats.get sessionId = some l.state) :
    ∃ s', (s' = s ∨ Environment s s') ∧ s'.clock = l'.clock ∧ s'.heartbeats.get sessionId = some l'.state ∧
      (l.phase ≠ .closed → l'.phase = .closed → s'.channels = (s.channels.send tx .close).2) := by
  cases e with
  | advance ms =>
      obtain rfl := Option.some.inj hstep
      exact ⟨_, Or.inr (.tick ms), by simp [hclock], hstate, fun hopen hclosed => absurd hclosed hopen⟩
  | wake =>
      obtain ⟨_, -, -, rfl⟩ := Step.wake hstep
      exact ⟨s, Or.inl rfl, hclock, hstate, nofun⟩
  | abort =>
      obtain ⟨-, rfl⟩ := Step.abort hstep
      exact ⟨s, Or.inl rfl, hclock, hstate, nofun⟩
  | check =>
      obtain ⟨now, hwoken, rfl⟩ := Step.check hstep
      by_cases htimeout : l.state.timedOut now heartbeatTimeout = true
      · -- the clock has gone on since `now`
        refine ⟨_, Or.inr (.heartbeatTimeout sessionId l.state tx hstate ?_), hclock, hstate, fun _ _ => rfl⟩
        have hnow := (inv_of_run hrun).now now hwoken
        rw [HeartbeatState.timedOut, Option.any_eq_true] at htimeout ⊢
        obtain ⟨ping, hping, hlate⟩ := htimeout
        refine ⟨ping, hping, decide_eq_true ?_⟩
        have hle : heartbeatTimeout ≤ now - ping.sentAt := of_decide_eq_true hlate
        rw [hclock]
        omega
      · refine ⟨s, Or.inl rfl, hclock, hstate, fun _ hclosed => ?_⟩
        dsimp only at hclosed
        split_ifs at hclosed
  | mark =>
      obtain ⟨hchecked, rfl⟩ := Step.mark hstep
      refine ⟨_, Or.inr (.markSent sessionId l.state (l.nonce + 1) hstate ?_), hclock, ?_, nofun⟩
      · rw [HeartbeatState.hasPending, (inv_of_run hrun).checked hchecked]
        rfl
      · rw [hclock]
        exact Table.get_insert_self ..
  | send ok =>
      obtain ⟨-, rfl⟩ := Step.send hstep
      refine ⟨_, Or.inr (.ping sessionId l.state l.nonce tx hstate), hclock, hstate, fun _ hclosed => ?_⟩
      dsimp only at hclosed
      split_ifs at hclosed
  | pong nonce => exact absurd rfl (hpong nonce)

end Runs

end HeartbeatLoop

end AxmolFighter.Gateway
