import AxmolFighter.Town.Invariant

/-!
# What a client sees of its scene

A client starts from the players of its last successful enter response and applies the pushes that
reach it, in the order in which they are sent. The result is the scene the server has the client's
player in, without that player.

The simulation is between seatings and views. `Announces` says what the pushes of one call have to
tell everybody: only one player moves, and whoever shares a scene with it before or after hears
exactly where that leaves it.
-/

namespace AxmolFighter.Town

/-! ### Views -/

/-- The states of the players a client knows of. -/
abbrev View := Int64 → Option PlayerState

/-- Takes in changes one after the other: a new state for a player, or that it is gone. -/
def View.set (v : View) (changes : List (Int64 × Option PlayerState)) : View :=
  changes.foldl (fun v c => Function.update v c.1 c.2) v

namespace View

variable {v : View} {changes : List (Int64 × Option PlayerState)} {q : Int64}
  {a : Option PlayerState}

theorem set_of_not_mem (h : ∀ c ∈ changes, c.1 ≠ q) : v.set changes q = v q := by
  induction changes generalizing v with
  | nil => rfl
  | cons c changes ih =>
      rw [set, List.foldl_cons, ← set, ih fun d hd => h d (List.mem_cons_of_mem _ hd)]
      exact Function.update_of_ne (h c List.mem_cons_self).symm ..

theorem set_of_agree (h : ∀ c ∈ changes, c.1 = q → c.2 = a) :
    v.set changes q = a ∨ (v.set changes q = v q ∧ ∀ c ∈ changes, c.1 ≠ q) := by
  induction changes generalizing v with
  | nil => exact Or.inr ⟨rfl, by simp⟩
  | cons c changes ih =>
      rw [set, List.foldl_cons, ← set]
      rcases ih (fun d hd => h d (List.mem_cons_of_mem _ hd)) with hset | ⟨hset, hnot⟩
      · exact Or.inl hset
      · by_cases hc : c.1 = q
        · left
          rw [hset, ← hc, Function.update_self]
          exact h c List.mem_cons_self hc
        · refine Or.inr ⟨hset.trans (Function.update_of_ne (Ne.symm hc) ..), fun d hd => ?_⟩
          rcases List.mem_cons.1 hd with rfl | hd
          · exact hc
          · exact hnot d hd

end View

/-- The changes that the pushes tell session `x`, in the order in which `send_pushes` sends them. -/
def PushBatch.changes (b : PushBatch) (x : UInt32) : List (Int64 × Option PlayerState) :=
  (b.playerEnter.filter fun e => e.1 = x).map (fun e => (e.2.playerId, some e.2)) ++
    (b.playerLeave.filter fun e => e.1 = x).map (fun e => (e.2, none)) ++
      (b.playerState.filter fun e => e.1 = x).map fun e => (e.2.playerId, some e.2)

theorem PushBatch.mem_changes {b : PushBatch} {x : UInt32} {c : Int64 × Option PlayerState} :
    c ∈ b.changes x ↔ (∃ st, (x, st) ∈ b.playerEnter ∧ c = (st.playerId, some st)) ∨
      (x, c.1) ∈ b.playerLeave ∧ c.2 = none ∨
      ∃ st, (x, st) ∈ b.playerState ∧ c = (st.playerId, some st) := by
  simp only [changes, List.append_assoc, List.mem_append, List.mem_map, List.mem_filter,
    decide_eq_true_eq, Prod.exists]
  refine or_congr ?_ (or_congr ?_ ?_)
  · constructor
    · rintro ⟨y, st, ⟨hmem, rfl⟩, rfl⟩
      exact ⟨st, hmem, rfl⟩
    · rintro ⟨st, hmem, rfl⟩
      exact ⟨x, st, ⟨hmem, rfl⟩, rfl⟩
  · constructor
    · rintro ⟨y, q, ⟨hmem, rfl⟩, rfl⟩
      exact ⟨hmem, rfl⟩
    · rintro ⟨hmem, hnone⟩
      exact ⟨x, c.1, ⟨hmem, rfl⟩, by rw [← hnone]⟩
  · constructor
    · rintro ⟨y, st, ⟨hmem, rfl⟩, rfl⟩
      exact ⟨st, hmem, rfl⟩
    · rintro ⟨st, hmem, rfl⟩
      exact ⟨x, st, ⟨hmem, rfl⟩, rfl⟩

/-- The players of the response, if the call let session `x` enter a scene. -/
def SceneOp.entered (x : UInt32) (op : SceneOp) (out : SceneOutcome) : Option (List PlayerState) :=
  match op, out.enter with
  | .enterScene _ req, some resp =>
      if req.sessionId = x ∧ resp.code = 0 then some resp.players else none
  | _, _ => none

/-- The view of session `x` after one more call. -/
def View.after (x : UInt32) (v : View) (op : SceneOp) (out : SceneOutcome) : View :=
  match op.entered x out with
  | some players => View.set (fun _ => none) (players.map fun st => (st.playerId, some st))
  | none => v.set (out.pushes.changes x)

/-! ### Runs as the clients observe them -/

/-- The players of a response and the entries of a push list come in any order of the hash maps. -/
structure SceneOutcome.Reordered (out seen : SceneOutcome) : Prop where
  enter : seen.enter = none ∧ out.enter = none ∨ ∃ r players, out.enter = some r ∧
    seen.enter = some { r with players } ∧ players.Perm r.players
  leave : seen.leave = out.leave
  playerEnter : seen.pushes.playerEnter.Perm out.pushes.playerEnter
  playerLeave : seen.pushes.playerLeave.Perm out.pushes.playerLeave
  playerState : seen.pushes.playerState.Perm out.pushes.playerState

theorem SceneOutcome.Reordered.refl (out : SceneOutcome) : out.Reordered out := by
  refine ⟨?_, rfl, .refl _, .refl _, .refl _⟩
  rcases hresp : out.enter with _ | r
  · exact Or.inl ⟨rfl, rfl⟩
  · exact Or.inr ⟨r, r.players, rfl, rfl, .refl _⟩

/-- One call, with the outcome in the order in which it is sent. -/
def ObservedStep (m : SceneManager) (a : SceneOp × SceneOutcome) (m' : SceneManager) : Prop :=
  ∃ out, m.exec a.1 = some (m', out) ∧ out.Reordered a.2

/-- What session `x` sees at the end of a run. -/
def view (x : UInt32) (trace : List (SceneManager × (SceneOp × SceneOutcome))) : View :=
  trace.foldl (fun v e => v.after x e.2.1 e.2.2) fun _ => none

/-- Session `x` is only ever used for player `owner x`; the manager is not cleared. -/
def SceneOp.OwnedBy (owner : UInt32 → Int64) : SceneOp → Prop
  | .enterScene _ req => owner req.sessionId = req.playerId
  | .leaveScene req => owner req.sessionId = req.playerId
  | .leaveSession _ => True
  | .updateState _ _ => True
  | .clear => False

/-! ### Announcing a move -/

/-- From seating `σ` to `σ'` only player `p` moves, and the pushes tell everybody else where that leaves
it in their scene, unless nothing changes there. -/
structure Announces (b : PushBatch) (p : Int64) (σ σ' : Seating) : Prop where
  only : ∀ y, ∀ c ∈ b.changes y, c.1 = p
  told : ∀ r t other, r ≠ p → σ r = some (t, other) →
    ∀ c ∈ b.changes other.sessionId, c.2 = (σ'.inScene t p).map Player.state
  complete : ∀ r t other, r ≠ p → σ r = some (t, other) → (∀ c, c ∉ b.changes other.sessionId) →
    (σ'.inScene t p).map Player.state = (σ.inScene t p).map Player.state
  others : ∀ q, q ≠ p → σ' q = σ q

namespace Announces

variable {b : PushBatch} {p : Int64} {σ σ' : Seating}

theorem silent (p : Int64) (σ : Seating) : Announces {} p σ σ := by
  have hnone : ∀ y c, c ∉ ({} : PushBatch).changes y := fun y c hc => by cases hc
  exact ⟨fun y c hc => absurd hc (hnone y c), fun _ _ other _ _ c hc => absurd hc (hnone _ c),
    fun _ _ _ _ _ _ => rfl, fun _ _ => rfl⟩

theorem congr (h : Announces b p σ σ') {b' : PushBatch}
    (hsame : ∀ y c, c ∈ b'.changes y ↔ c ∈ b.changes y) : Announces b' p σ σ' :=
  ⟨fun y c hc => h.only y c ((hsame y c).1 hc),
    fun r t other hr ht c hc => h.told r t other hr ht c ((hsame _ c).1 hc),
    fun r t other hr ht hnone => h.complete r t other hr ht fun c hc => hnone c ((hsame _ c).2 hc),
    h.others⟩

theorem set_changes (h : Announces b p σ σ') {r : Int64} {t : UInt64} {other : Player}
    (hr : r ≠ p) (ht : σ r = some (t, other)) {v : View} {q : Int64}
    (hv : v q = (σ.inScene t q).map Player.state) :
    v.set (b.changes other.sessionId) q = (σ'.inScene t q).map Player.state := by
  by_cases hq : q = p
  · subst hq
    rcases View.set_of_agree (v := v) fun c hc _ => h.told r t other hr ht c hc with hset | ⟨hset, hnot⟩
    · exact hset
    · rw [hset, hv]
      exact (h.complete r t other hr ht fun c hc => hnot c hc (h.only _ c hc)).symm
  · rw [View.set_of_not_mem fun c hc heq => hq (heq.symm.trans (h.only _ c hc)), hv,
      Seating.inScene_congr (h.others q hq)]

theorem set_changes_self (h : Announces b p σ σ') {y : UInt32} {t : UInt64} {v : View} {q : Int64}
    (hq : q ≠ p) (hv : v q = (σ.inScene t q).map Player.state) :
    v.set (b.changes y) q = (σ'.inScene t q).map Player.state := by
  rw [View.set_of_not_mem fun c hc heq => hq (heq.symm.trans (h.only _ c hc)), hv,
    Seating.inScene_congr (h.others q hq)]

theorem leave (p : Int64) {b : PushBatch} (henter : b.playerEnter = []) (hstate : b.playerState = [])
    (hleave : ∀ y q, (y, q) ∈ b.playerLeave ↔
      q = p ∧ ∃ s player, σ p = some (s, player) ∧ σ.Neighbour s p y) :
    Announces b p σ (σ.leave p) := by
  have hmem : ∀ y c, c ∈ b.changes y ↔ c = (p, none) ∧
      ∃ s player, σ p = some (s, player) ∧ σ.Neighbour s p y := by
    rintro y ⟨q, st⟩
    simp only [PushBatch.mem_changes, henter, hstate, hleave, List.not_mem_nil, false_and,
      exists_false, or_false, false_or, Prod.mk.injEq]
    tauto
  have hgone : ∀ t, (σ.leave p).inScene t p = none := fun t => by
    rw [Seating.inScene, Seating.leave_self]
    rfl
  refine ⟨fun y c hc => ?_, fun r t other hr ht c hc => ?_, fun r t other hr ht hnone => ?_,
    fun q hq => Seating.leave_ne σ hq⟩
  · rw [((hmem y c).1 hc).1]
  · rw [((hmem _ c).1 hc).1, hgone]
    rfl
  · -- silence means that the player was not in this scene
    rw [hgone, Option.map_none, eq_comm, Option.map_eq_none_iff, Option.eq_none_iff_forall_ne_some]
    intro player hp
    exact hnone _ ((hmem _ _).2 ⟨rfl, t, player, Seating.inScene_eq_some.1 hp, r, other, hr, ht, rfl⟩)

/-- A new state, and maybe a new session, in the same scene, with word to everybody there. -/
theorem update {m' : SceneManager} {s : UInt64} {old player : Player}
    (h' : m'.Represents (σ.sit s p player)) (hp : σ p = some (s, old))
    (hnamed : player.state.playerId = p) (henter : b.playerEnter = []) (hleave : b.playerLeave = [])
    (hstate : ∀ y st, (y, st) ∈ b.playerState ↔ st = player.state ∧ y ≠ player.sessionId ∧
      ∃ q other, σ.sit s p player q = some (s, other) ∧ other.sessionId = y) :
    Announces b p σ (σ.sit s p player) := by
  have hmem : ∀ y c, c ∈ b.changes y ↔ c = (p, some player.state) ∧ y ≠ player.sessionId ∧
      ∃ q other, σ.sit s p player q = some (s, other) ∧ other.sessionId = y := by
    rintro y c
    simp only [PushBatch.mem_changes, henter, hleave, hstate, List.not_mem_nil, false_and,
      exists_false, false_or]
    constructor
    · rintro ⟨st, ⟨rfl, hy, hin⟩, rfl⟩
      exact ⟨by rw [hnamed], hy, hin⟩
    · rintro ⟨rfl, hy, hin⟩
      exact ⟨player.state, ⟨rfl, hy, hin⟩, by rw [hnamed]⟩
  refine ⟨fun y c hc => ?_, fun r t other hr ht c hc => ?_, fun r t other hr ht hnone => ?_,
    fun q hq => Seating.sit_ne σ hq ..⟩
  · rw [((hmem y c).1 hc).1]
  · -- whoever is told sits in this scene
    obtain ⟨rfl, hy, q, near, hq, hnear⟩ := (hmem _ c).1 hc
    have hr' : σ.sit s p player r = some (t, other) := by rwa [Seating.sit_ne σ hr]
    obtain rfl := h'.unique hq hr' hnear
    rw [hr'] at hq
    cases hq
    rw [Seating.inScene_eq_some.2 (Seating.sit_self ..)]
    rfl
  · have hr' : σ.sit s p player r = some (t, other) := by rwa [Seating.sit_ne σ hr]
    by_cases hts : t = s
    · subst hts
      refine absurd ((hmem _ _).2 ⟨rfl, fun hsession => hr ?_, r, other, hr', rfl⟩) (hnone _)
      exact h'.unique hr' (Seating.sit_self ..) hsession
    · simp [Seating.inScene, Seating.sit_self, hp, Ne.symm hts]

/-- Moving to scene `s`, with word to both scenes. -/
theorem switch {m : SceneManager} {s : UInt64} {player : Player} (h : m.Represents σ)
    (hout : ¬ σ.SitsIn s p) (hnamed : player.state.playerId = p)
    (henter : ∀ y st, (y, st) ∈ b.playerEnter ↔ st = player.state ∧ σ.Neighbour s p y)
    (hleave : ∀ y q, (y, q) ∈ b.playerLeave ↔
      q = p ∧ ∃ t old, σ p = some (t, old) ∧ σ.Neighbour t p y)
    (hstate : b.playerState = []) : Announces b p σ (σ.sit s p player) := by
  have hmem : ∀ y c, c ∈ b.changes y ↔ (c = (p, some player.state) ∧ σ.Neighbour s p y) ∨
      (c = (p, none) ∧ ∃ t old, σ p = some (t, old) ∧ σ.Neighbour t p y) := by
    rintro y ⟨q, c⟩
    simp only [PushBatch.mem_changes, henter, hleave, hstate, List.not_mem_nil, false_and,
      exists_false, or_false]
    refine or_congr ⟨?_, ?_⟩ ?_
    · rintro ⟨st, ⟨rfl, hin⟩, heq⟩
      rw [heq, hnamed]
      exact ⟨rfl, hin⟩
    · rintro ⟨heq, hin⟩
      exact ⟨player.state, ⟨rfl, hin⟩, by rw [heq, hnamed]⟩
    · simp only [Prod.mk.injEq]
      tauto
  -- a session sits in one scene only
  have hwhere : ∀ r t other u, r ≠ p → σ r = some (t, other) → σ.Neighbour u p other.sessionId →
      u = t := by
    rintro r t other u hr ht ⟨q, near, hq, hu, hnear⟩
    obtain rfl := h.unique hu ht hnear
    rw [hu] at ht
    cases ht
    rfl
  refine ⟨fun y c hc => ?_, fun r t other hr ht c hc => ?_, fun r t other hr ht hnone => ?_,
    fun q hq => Seating.sit_ne σ hq ..⟩
  · rcases (hmem y c).1 hc with ⟨rfl, -⟩ | ⟨rfl, -⟩ <;> rfl
  · rcases (hmem _ c).1 hc with ⟨rfl, hin⟩ | ⟨rfl, u, old, hold, hin⟩
    · obtain rfl := hwhere r t other s hr ht hin
      rw [Seating.inScene_eq_some.2 (Seating.sit_self ..)]
      rfl
    · obtain rfl := hwhere r t other u hr ht hin
      have hne : s ≠ u := by
        rintro rfl
        exact hout ⟨old, hold⟩
      simp [Seating.inScene, Seating.sit_self, hne]
  · by_cases hts : t = s
    · subst hts
      exact absurd ((hmem _ _).2 (Or.inl ⟨rfl, r, other, hr, ht, rfl⟩)) (hnone _)
    · have hold : σ.inScene t p = none := by
        rw [Option.eq_none_iff_forall_ne_some]
        intro old hold
        exact hnone _ ((hmem _ _).2
          (Or.inr ⟨rfl, t, old, Seating.inScene_eq_some.1 hold, r, other, hr, ht, rfl⟩))
      rw [hold]
      simp [Seating.inScene, Seating.sit_self, Ne.symm hts]

end Announces

/-! ### One call -/

/-- What one call does to the seating and tells the clients: player `p` moves, and a client that
entered a scene gets all of it. -/
structure Moves (op : SceneOp) (out : SceneOutcome) (p : Int64) (σ σ' : Seating) : Prop where
  announces : Announces out.pushes p σ σ'
  answered : ∀ x players, op.entered x out = some players → ∃ s player, σ' p = some (s, player) ∧
    player.sessionId = x ∧ ∀ st, st ∈ players ↔ ∃ q other, σ' q = some (s, other) ∧ other.state = st
  kept : ∀ s player, σ' p = some (s, player) → op.entered player.sessionId out = none →
    ∃ old, σ p = some (s, old) ∧ old.sessionId = player.sessionId

/-- Every seat is the session's own player's, with a state under its name. -/
structure Seating.Owned (σ : Seating) (owner : UInt32 → Int64) : Prop where
  session : ∀ p s player, σ p = some (s, player) → owner player.sessionId = p
  state : ∀ p s player, σ p = some (s, player) → player.state.playerId = p

namespace Moves

variable {op : SceneOp} {out seen : SceneOutcome} {p : Int64} {σ σ' : Seating}

theorem of_announces (h : Announces out.pushes p σ σ') (hop : ∀ x, op.entered x out = none)
    (hkept : ∀ s player, σ' p = some (s, player) →
      ∃ old, σ p = some (s, old) ∧ old.sessionId = player.sessionId) : Moves op out p σ σ' := by
  refine ⟨h, fun x players hentered => ?_, fun s player hp _ => hkept s player hp⟩
  rw [hop x] at hentered
  cases hentered

theorem silent (p : Int64) (σ : Seating) (hpushes : out.pushes = {})
    (hop : ∀ x, op.entered x out = none) : Moves op out p σ σ := by
  refine of_announces ?_ hop fun s player hp => ⟨player, hp, rfl⟩
  rw [hpushes]
  exact .silent p σ

theorem of_reordered (h : Moves op out p σ σ') (hseen : out.Reordered seen) : Moves op seen p σ σ' := by
  have hentered : ∀ x, (op.entered x out = none ∧ op.entered x seen = none) ∨
      ∃ players players', op.entered x out = some players ∧ op.entered x seen = some players' ∧
        players'.Perm players := by
    intro x
    rcases hseen.enter with ⟨hnone, hnone'⟩ | ⟨r, players, hr, hr', hperm⟩
    · exact Or.inl (by cases op <;> simp [SceneOp.entered, hnone, hnone'])
    · cases op with
      | enterScene instanceId req =>
          by_cases hx : req.sessionId = x ∧ r.code = 0
          · exact Or.inr ⟨r.players, players, by simp [SceneOp.entered, hr, hx],
              by simp [SceneOp.entered, hr', hx], hperm⟩
          · exact Or.inl (by simp [SceneOp.entered, hr, hr', hx])
      | leaveScene req => exact Or.inl ⟨rfl, rfl⟩
      | leaveSession x => exact Or.inl ⟨rfl, rfl⟩
      | updateState x push => exact Or.inl ⟨rfl, rfl⟩
      | clear => exact Or.inl ⟨rfl, rfl⟩
  refine ⟨h.announces.congr fun y c => ?_, fun x players hplayers => ?_, fun s player hp hnone => ?_⟩
  · rw [PushBatch.mem_changes, PushBatch.mem_changes]
    simp only [hseen.playerEnter.mem_iff, hseen.playerLeave.mem_iff, hseen.playerState.mem_iff]
  · rcases hentered x with ⟨-, hnone⟩ | ⟨players₀, players', hout, hsome, hperm⟩
    · rw [hnone] at hplayers
      cases hplayers
    · rw [hsome] at hplayers
      cases hplayers
      obtain ⟨s, player, hp, hx, hmem⟩ := h.answered x players₀ hout
      exact ⟨s, player, hp, hx, fun st => hperm.mem_iff.trans (hmem st)⟩
  · rcases hentered player.sessionId with ⟨hout, -⟩ | ⟨_, _, -, hsome, -⟩
    · exact h.kept s player hp hout
    · rw [hnone] at hsome
      cases hsome

end Moves

namespace Seating

variable {σ : Seating} {owner : UInt32 → Int64}

theorem Owned.leave (h : σ.Owned owner) (p : Int64) : (σ.leave p).Owned owner :=
  ⟨fun q s player hq => h.session q s player (leave_eq_some.1 hq).2,
    fun q s player hq => h.state q s player (leave_eq_some.1 hq).2⟩

theorem Owned.sit (h : σ.Owned owner) {p : Int64} {s : UInt64} {player : Player}
    (hsession : owner player.sessionId = p) (hstate : player.state.playerId = p) :
    (σ.sit s p player).Owned owner := by
  refine ⟨fun q t other hq => ?_, fun q t other hq => ?_⟩
  · rcases sit_eq_some.1 hq with ⟨rfl, heq⟩ | ⟨-, hq⟩
    · cases heq
      exact hsession
    · exact h.session q t other hq
  · rcases sit_eq_some.1 hq with ⟨rfl, heq⟩ | ⟨-, hq⟩
    · cases heq
      exact hstate
    · exact h.state q t other hq

theorem Owned.release (h : σ.Owned owner) {x : UInt32} {p : Int64} (hx : owner x = p) :
    σ.release x p = σ := by
  refine release_of_free fun q s player hqp hq hsession => hqp ?_
  rw [← h.session q s player hq, hsession, hx]

end Seating

namespace SceneManager

variable {m m' : SceneManager} {σ σ' : Seating} {owner : UInt32 → Int64} {op : SceneOp}
  {out : SceneOutcome}

theorem removePlayer_moves (h : m.Represents σ) (hkeyed : m.Keyed) (howned : σ.Owned owner) (p : Int64)
    (hpushes : out.pushes = (m.removePlayer p {}).2) (hop : ∀ x, op.entered x out = none) :
    ∃ q σ', (m.removePlayer p {}).1.Represents σ' ∧ (m.removePlayer p {}).1.Keyed ∧
      σ'.Owned owner ∧ Moves op out q σ σ' := by
  obtain ⟨henter, hstate⟩ := removePlayer_pushes m p {}
  refine ⟨p, σ.leave p, removePlayer_represents h p {}, (removePlayer_sameScenes h p {}).keyed hkeyed,
    howned.leave p, .of_announces ?_ hop fun s player hp => ?_⟩
  · rw [hpushes]
    exact .leave p henter hstate fun y q => by simp [mem_removePlayer_leave h]
  · rw [Seating.leave_self] at hp
    cases hp

/-- With one player a session, no entry is a re-entry on a session that holds somebody else. -/
theorem owned_orderly (h : m.Represents σ) (howned : σ.Owned owner) {req : TownEnterSceneReq}
    (hreq : owner req.sessionId = req.playerId) : ¬ m.SameSceneTakeover req := by
  rintro ⟨key, -, -, q, hq, hne⟩
  obtain ⟨s, player, hseat, hsession⟩ := (h.session _ q).1 hq
  exact hne (by rw [← hreq, ← hsession, howned.session q s player hseat])

theorem enterScene_moves (h : m.Represents σ) (howned : σ.Owned owner) {instanceId : UInt32}
    {req : TownEnterSceneReq} {s : UInt64} {r : EnterSceneResult}
    (hreq : owner req.sessionId = req.playerId) (hentry : m.Entry σ req s m' r) :
    ∃ q σ', m'.Represents σ' ∧ m'.Keyed ∧ σ'.Owned owner ∧ Moves (.enterScene instanceId req)
      { enter := some r.response, pushes := r.pushes } q σ σ' := by
  obtain ⟨hrep, hkeyed, hcode, hplayers, henter, hleave, hstate⟩ := hentry
  have hrelease := howned.release hreq
  simp only [Seating.enter, hrelease] at hrep hplayers henter hleave hstate
  -- nobody else is on the session
  have hown : ∀ y q, ¬(q ≠ req.playerId ∧ ∃ t player, σ q = some (t, player) ∧
      player.sessionId = req.sessionId ∧ σ.Neighbour t q y) := by
    rintro y q ⟨hne, t, player, hq, hsession, -⟩
    exact hne (by rw [← hreq, ← hsession, howned.session q t player hq])
  refine ⟨req.playerId, _, hrep, hkeyed, howned.sit hreq rfl, ?_, fun x players hentered => ?_,
    fun t player hp hnone => ?_⟩
  · by_cases hin : σ.SitsIn s req.playerId
    · obtain ⟨old, hold⟩ := hin
      refine .update hrep hold rfl ?_ ?_ fun y st => (hstate y st).trans (and_iff_right ⟨old, hold⟩)
      · exact List.eq_nil_iff_forall_not_mem.2 fun e he => ((henter e.1 e.2).1 he).1 ⟨old, hold⟩
      · exact List.eq_nil_iff_forall_not_mem.2 fun e he => ((hleave e.1 e.2).1 he).1 ⟨old, hold⟩
    · refine .switch h hin rfl (fun y st => (henter y st).trans (and_iff_right hin))
        (fun y q => (hleave y q).trans ?_) ?_
      · rw [and_iff_right hin, or_iff_right (hown y q)]
      · exact List.eq_nil_iff_forall_not_mem.2 fun e he => hin ((hstate e.1 e.2).1 he).1
  · simp only [SceneOp.entered, hcode, and_true, Option.ite_none_right_eq_some,
      Option.some.injEq] at hentered
    obtain ⟨rfl, rfl⟩ := hentered
    exact ⟨s, _, Seating.sit_self .., rfl, hplayers⟩
  · rw [Seating.sit_self] at hp
    cases hp
    simp [SceneOp.entered, hcode] at hnone

theorem exec_moves (h : m.Represents σ) (hkeyed : m.Keyed) (howned : σ.Owned owner)
    (hlt : m.nextSceneId.toNat < 2 ^ 64 - 1) (hop : op.OwnedBy owner)
    (hexec : m.exec op = some (m', out)) :
    ∃ p σ', m'.Represents σ' ∧ m'.Keyed ∧ σ'.Owned owner ∧ Moves op out p σ σ' := by
  cases op with
  | enterScene instanceId req =>
      simp only [exec, Option.map_eq_some_iff] at hexec
      obtain ⟨⟨m₁, r⟩, henter, heq⟩ := hexec
      cases heq
      rcases hkey : SceneKey.fromParts req.type req.mapId req.ownerUid with message | key
      · rw [enterScene_invalid hkey] at henter
        cases henter
        refine ⟨0, σ, h, hkeyed, howned, .silent 0 σ rfl fun x => ?_⟩
        simp [SceneOp.entered, invalidTarget]
      · obtain ⟨s, m₁, r, heq, hentry⟩ :=
          enterScene_spec h hkeyed hlt hkey (owned_orderly h howned hop) instanceId
        rw [heq] at henter
        cases henter
        exact enterScene_moves h howned hop hentry
  | leaveScene req =>
      simp only [exec, Option.some.injEq, Prod.mk.injEq] at hexec
      obtain ⟨rfl, rfl⟩ := hexec
      rcases leaveScene_cases m req with ⟨-, heq, hpushes⟩ | ⟨-, heq, hpushes⟩
      · rw [heq]
        exact removePlayer_moves h hkeyed howned _ hpushes fun _ => rfl
      · rw [heq]
        exact ⟨0, σ, h, hkeyed, howned, .silent 0 σ hpushes fun _ => rfl⟩
  | leaveSession x =>
      simp only [exec, Option.some.injEq, Prod.mk.injEq] at hexec
      obtain ⟨rfl, rfl⟩ := hexec
      rcases hx : m.sessionPlayers.get x with _ | p
      · rw [leaveSession_none hx]
        exact ⟨0, σ, h, hkeyed, howned, .silent 0 σ rfl fun _ => rfl⟩
      · rw [leaveSession_some hx]
        exact removePlayer_moves h hkeyed howned p rfl fun _ => rfl
  | updateState x push =>
      simp only [exec, Option.some.injEq, Prod.mk.injEq] at hexec
      obtain ⟨rfl, rfl⟩ := hexec
      rcases h.session_cases x with ⟨p, s, player, -, hp, hsession⟩ | hx
      · obtain ⟨state, b, hb, hname, hrep, hsame, hstate⟩ := updateState_spec h hp hsession push
        refine ⟨p, _, hrep, hsame.keyed hkeyed, howned.sit (howned.session p s player hp) hname,
          .of_announces ?_ (fun _ => rfl) fun t other hother => ?_⟩
        · rw [hb]
          refine .update hrep hp hname rfl rfl fun y st => ?_
          rw [hstate, ← hsession]
        · rw [Seating.sit_self] at hother
          cases hother
          exact ⟨player, hp, rfl⟩
      · rw [updateState_none hx]
        exact ⟨0, σ, h, hkeyed, howned, .silent 0 σ rfl fun _ => rfl⟩
  | clear => cases hop

end SceneManager

/-! ### Runs -/

/-- The view of every seated session shows its player's scene. -/
def Seating.Shown (σ : Seating) (v : UInt32 → View) : Prop :=
  ∀ p s player, σ p = some (s, player) → ∀ q, q ≠ p →
    v player.sessionId q = (σ.inScene s q).map Player.state

/-- The players of a scene, taken in from nothing, are the scene. -/
theorem View.of_players {σ : Seating} {owner : UInt32 → Int64} (howned : σ.Owned owner) {s : UInt64}
    {players : List PlayerState}
    (hplayers : ∀ st, st ∈ players ↔ ∃ q other, σ q = some (s, other) ∧ other.state = st) (q : Int64) :
    View.set (fun _ => none) (players.map fun st => (st.playerId, some st)) q =
      (σ.inScene s q).map Player.state := by
  have hagree : ∀ c ∈ players.map fun st => (st.playerId, some st), c.1 = q →
      c.2 = (σ.inScene s q).map Player.state := by
    intro c hc hq
    obtain ⟨st, hst, rfl⟩ := List.mem_map.1 hc
    obtain ⟨p, other, hp, rfl⟩ := (hplayers st).1 hst
    rw [howned.state p s other hp] at hq
    subst hq
    rw [Seating.inScene_eq_some.2 hp]
    rfl
  rcases View.set_of_agree (v := fun _ => none) hagree with hset | ⟨hset, hnot⟩
  · exact hset
  · rw [hset, eq_comm, Option.map_eq_none_iff, Option.eq_none_iff_forall_ne_some]
    intro other hq
    have hseat := Seating.inScene_eq_some.1 hq
    exact hnot _ (List.mem_map.2 ⟨other.state, (hplayers _).2 ⟨q, other, hseat, rfl⟩, rfl⟩)
      (howned.state q s other hseat)

theorem Moves.shown {m' : SceneManager} {op : SceneOp} {out : SceneOutcome} {p : Int64}
    {σ σ' : Seating} {owner : UInt32 → Int64} {v : UInt32 → View} (hmoves : Moves op out p σ σ')
    (h' : m'.Represents σ') (howned : σ'.Owned owner) (hshown : σ.Shown v) :
    σ'.Shown fun x => (v x).after x op out := by
  intro r t other hr q hq
  dsimp only [View.after]
  rcases hentered : op.entered other.sessionId out with _ | players
  · by_cases hrp : r = p
    · subst hrp
      obtain ⟨old, hold, hsession⟩ := hmoves.kept t other hr hentered
      refine hmoves.announces.set_changes_self hq ?_
      rw [← hsession]
      exact hshown r t old hold q hq
    · rw [hmoves.announces.others r hrp] at hr
      exact hmoves.announces.set_changes hrp hr (hshown r t other hr q hq)
  · obtain ⟨s, player, hp, hsession, hplayers⟩ := hmoves.answered _ players hentered
    obtain rfl := h'.unique hp hr hsession
    rw [hr] at hp
    cases hp
    exact View.of_players howned hplayers q

namespace SceneManager

variable {m : SceneManager}

theorem view_snoc (x : UInt32) (trace : List (SceneManager × (SceneOp × SceneOutcome)))
    (e : SceneManager × (SceneOp × SceneOutcome)) :
    view x (trace ++ [e]) = (view x trace).after x e.2.1 e.2.2 := by
  rw [view, List.foldl_append]
  rfl

theorem le_observed {a : SceneOp × SceneOutcome} {m' : SceneManager} (hstep : ObservedStep m a m') :
    m.nextSceneId.toNat ≤ m'.nextSceneId.toNat := by
  obtain ⟨out, hout, -⟩ := hstep
  exact le_exec ⟨out, hout⟩

/-- With one player a session, the view of every session that is in a scene is that scene. -/
theorem view_eq_scene (owner : UInt32 → Int64)
    {trace : List (SceneManager × (SceneOp × SceneOutcome))} (hrun : Run ObservedStep {} trace m)
    (howner : ∀ e ∈ trace, e.2.1.OwnedBy owner)
    (hlt : m.nextSceneId.toNat < 2 ^ 64 - 1) {x : UInt32} {p : Int64}
    (hx : m.sessionPlayers.get x = some p) :
    ∃ s scene, m.playerScenes.get p = some s ∧ m.scenes.get s = some scene ∧
      ∀ q, q ≠ p → view x trace q = (scene.players.get q).map Player.state := by
  obtain ⟨σ, hrep, -, -, hshown⟩ : ∃ σ, m.Represents σ ∧ m.Keyed ∧ σ.Owned owner ∧
      σ.Shown fun x => view x trace := by
    clear hx
    induction hrun with
    | start =>
        refine ⟨_, clear_represents {}, clear_keyed {}, ⟨fun _ _ _ h => ?_, fun _ _ _ h => ?_⟩,
          fun _ _ _ h => ?_⟩ <;> cases h
    | @next trace m m' a hrun hstep ih =>
        have hle := le_observed hstep
        obtain ⟨σ, hrep, hkeyed, howned, hshown⟩ :=
          ih (fun e he => howner e (List.mem_append_left _ he)) (hle.trans_lt hlt)
        obtain ⟨out, hout, hseen⟩ := hstep
        obtain ⟨p, σ', hrep', hkeyed', howned', hmoves⟩ := exec_moves hrep hkeyed howned
          (hle.trans_lt hlt) (howner _ (List.mem_append_right _ List.mem_cons_self)) hout
        refine ⟨σ', hrep', hkeyed', howned', ?_⟩
        simp only [view_snoc]
        exact (hmoves.of_reordered hseen).shown hrep' howned' hshown
  obtain ⟨s, player, hp, hsession⟩ := (hrep.session x p).1 hx
  obtain ⟨scene, hscene⟩ := hrep.scene p s player hp
  refine ⟨s, scene, by rw [hrep.playerScene, hp]; rfl, hscene, fun q hq => ?_⟩
  rw [hrep.inScene s scene hscene, ← hsession]
  exact hshown p s player hp q hq

theorem view_eq_scene_two_players : ∃ trace m, Run ObservedStep {} trace m ∧
    ∃ s scene, m.playerScenes.get 1 = some s ∧ m.scenes.get s = some scene ∧
      ∀ q, q ≠ 1 → view 1 trace q = (scene.players.get q).map Player.state := by
  have h : ∃ r, exec {} (enterMapOne 1 1) = some r ∧ ∃ r', r.1.exec (enterMapOne 2 2) = some r' ∧
      r'.1.nextSceneId.toNat < 2 ^ 64 - 1 ∧ r'.1.sessionPlayers.get 1 = some 1 := by decide
  obtain ⟨⟨m, out⟩, hfirst, ⟨m', out'⟩, hsecond, hlt, hx⟩ := h
  have hrun : Run ObservedStep {} [({}, enterMapOne 1 1, out), (m, enterMapOne 2 2, out')] m' :=
    (Run.start.next ⟨out, hfirst, .refl out⟩).next ⟨out', hsecond, .refl out'⟩
  refine ⟨_, m', hrun, view_eq_scene (fun x => if x = 1 then 1 else 2) hrun ?_ hlt hx⟩
  intro e he
  rcases List.mem_pair.1 he with rfl | rfl <;> rfl

end SceneManager

end AxmolFighter.Town
