import AxmolFighter.Backend.Sessions

/-!
# Two incarnations of one session

A session that comes online again has a new task while the old one may still be at work: its frame, or
`on_stop`, which takes away what is stored under the session's id. What the new incarnation stores stays
if the old one is past the operations on it.
-/

namespace AxmolFighter.Backend

variable {S : Signature} {σ L F R : Type}

/-- What a server keeps under the ids of its sessions: the entry of a key, the operations that can change
it, and which entry an operation stores. -/
structure Keyed (V : Service S σ L F R) (K : Type) (E : K → Type) where
  entry : σ → UInt32 → (key : K) → E key
  touches : S.Op → UInt32 → K → Prop
  stores : S.Op → Option (UInt32 × K)
  frame : ∀ {s op answer s' sid key}, V.does s op answer s' → ¬ touches op sid key →
    entry s' sid key = entry s sid key

/-- The task whose step the event is. -/
def Event.actor : Event S F R → Option Nat
  | .call k _ => some k
  | _ => none

/-- A task of the session has been started after the `k`-th. -/
def Superseded (b : BackendSession S σ L F R) (k : Nat) (sid : UInt32) : Prop :=
  ∃ t ∈ b.tasks.drop (k + 1), t.sessionId = sid

/-- The event is no step of the session's tasks up to the `k`-th. -/
def NotOlder (b : BackendSession S σ L F R) (e : Event S F R) (k : Nat) (sid : UInt32) : Prop :=
  ∀ j, e.actor = some j → b.tasks[j]?.map Task.sessionId = some sid → k < j

instance (b : BackendSession S σ L F R) (k : Nat) (sid : UInt32) : Decidable (Superseded b k sid) :=
  inferInstanceAs (Decidable (∃ t ∈ _, _))

instance (b : BackendSession S σ L F R) (e : Event S F R) (k : Nat) (sid : UInt32) :
    Decidable (NotOlder b e k sid) :=
  inferInstanceAs (Decidable (∀ j, _ = some j → _))

namespace Keyed

variable {V : Service S σ L F R} {K : Type} {E : K → Type} (M : Keyed V K E)

/-- Nothing that is left of the task can change the entry: not what it is at, and not `on_stop`. -/
inductive Past (t : Task S L F) (key : K) : Prop
  | running {p : Program S L} (hphase : t.phase = .running p) (hcancelled : t.cancelled = true)
      (hcalls : p.Follows (fun (_ : Unit) op _ _ => ¬ M.touches op t.sessionId key)
        (fun _ l => (V.onStop l).Calls fun op => ¬ M.touches op t.sessionId key) ())
  | stopping {p : Program S Unit} (hphase : t.phase = .stopping p)
      (hcalls : p.Calls fun op => ¬ M.touches op t.sessionId key)

/-- What is stored for a session is stored when its older tasks are past it. -/
def InSuccession (b : BackendSession S σ L F R) (e : Event S F R) : Prop :=
  ∀ sid key, e.op.bind M.stores = some (sid, key) → ∀ (k : Nat) t, b.tasks[k]? = some t →
    t.sessionId = sid → Superseded b k sid → NotOlder b e k sid → M.Past t key

/-- The entry has been stored for the session when a task newer than the `k`-th had been started, and not
by the `k`-th or one before it. -/
def StoredAnew (trace : List (BackendSession S σ L F R × Event S F R)) (k : Nat) (sid : UInt32)
    (key : K) : Prop :=
  ∃ e ∈ trace, e.2.op.bind M.stores = some (sid, key) ∧ Superseded e.1 k sid ∧ NotOlder e.1 e.2 k sid

instance [DecidableEq K] (trace : List (BackendSession S σ L F R × Event S F R)) (k : Nat) (sid : UInt32)
    (key : K) : Decidable (M.StoredAnew trace k sid key) :=
  inferInstanceAs (Decidable (∃ e ∈ _, _ = some (sid, key) ∧ _ ∧ _))

/-- No step that an older task can take now changes what has been stored anew. -/
def Kept (trace : List (BackendSession S σ L F R × Event S F R)) (b : BackendSession S σ L F R) : Prop :=
  ∀ (k : Nat) t key c b', b.tasks[k]? = some t → M.StoredAnew trace k t.sessionId key →
    Step V b (.call k c) b' → M.entry b'.shared t.sessionId key = M.entry b.shared t.sessionId key

variable {M} {b b' : BackendSession S σ L F R} {e : Event S F R} {k : Nat} {key : K}

theorem Past.same {t t' : Task S L F} (h : M.Past t key) (hsame : t.Same t') : M.Past t' key := by
  rcases h with ⟨hphase, hcancelled, hcalls⟩ | ⟨hphase, hcalls⟩
  · rw [← hsame.sessionId] at hcalls
    exact .running (hsame.phase.trans hphase) (hsame.cancelled hcancelled) hcalls
  · rw [← hsame.sessionId] at hcalls
    exact .stopping (hsame.phase.trans hphase) hcalls

theorem Past.acts {t t' : Task S L F} {s s' : σ} (h : M.Past t key) (hacts : t.Acts V k s e t' s') :
    M.Past t' key ∧ M.entry s' t.sessionId key = M.entry s t.sessionId key := by
  rcases h with ⟨hphase, hcancelled, hcalls⟩ | ⟨hphase, hcalls⟩
  · cases hacts with
    | receive _ hlive => simp [hcancelled] at hlive
    | stop hrunning =>
        rw [hphase] at hrunning
        cases hrunning
        exact ⟨.stopping rfl hcalls.of_ret, rfl⟩
    | call hstep hdoes =>
        rw [hphase] at hstep
        cases hstep with
        | running op next answer =>
            obtain ⟨_, hop, hnext⟩ := hcalls.step _
            exact ⟨.running rfl hcancelled hnext, M.frame hdoes hop⟩
  · cases hacts with
    | receive hrunning => simp [hphase] at hrunning
    | stop hrunning => simp [hphase] at hrunning
    | call hstep hdoes =>
        rw [hphase] at hstep
        cases hstep with
        | stopping op next answer =>
            cases hcalls with
            | call hop hnext => exact ⟨.stopping rfl (hnext _), M.frame hdoes hop⟩

theorem Past.of_done {t : Task S L F} (h : t.phase.isDone) : M.Past t key :=
  .stopping (Phase.isDone_iff.1 h) (.ret ())

theorem lt_of_superseded {sid : UInt32} (h : Superseded b k sid) : k + 1 < b.tasks.length := by
  obtain ⟨t, ht, -⟩ := h
  have hpos := List.length_pos_of_mem ht
  rw [List.length_drop] at hpos
  omega

theorem inSuccession_of_done
    (h : (e.op.bind M.stores).isNone ∨ ∀ t ∈ b.tasks.dropLast, t.phase.isDone) : M.InSuccession b e := by
  intro sid key hstores k t hk _ hsuper _
  rcases h with h | h
  · simp [hstores] at h
  · refine .of_done (h t (List.mem_iff_getElem?.2 ⟨k, ?_⟩))
    have hlast : k < b.tasks.length - 1 := by
      have hlt := lt_of_superseded hsuper
      omega
    rw [List.getElem?_dropLast, if_pos hlast, hk]

theorem not_kept {trace : List (BackendSession S σ L F R × Event S F R)} {t : Task S L F}
    (hstep : Step V b e b') (hactor : e.actor = some k) (hk : b.tasks[k]? = some t)
    (hstored : M.StoredAnew trace k t.sessionId key)
    (hne : M.entry b'.shared t.sessionId key ≠ M.entry b.shared t.sessionId key) : ¬ M.Kept trace b := by
  intro hkept
  cases e with
  | call j c =>
      simp only [Event.actor, Option.some.injEq] at hactor
      subst hactor
      exact hne (hkept j t key c b' hk hstored hstep)
  | _ => simp [Event.actor] at hactor

section Runs

variable {start : BackendSession S σ L F R} {trace : List (BackendSession S σ L F R × Event S F R)}

theorem tasks_le {e : BackendSession S σ L F R × Event S F R} (hrun : Run (Step V) start trace b)
    (he : e ∈ trace) : e.1.tasks.length ≤ b.tasks.length := by
  refine hrun.le_of_mem (fun b => b.tasks.length) (fun b e b' hstep => ?_) he
  by_contra hlt
  push Not at hlt
  obtain ⟨t', hk, -⟩ := BackendSession.task_stays hstep (List.getElem?_eq_getElem hlt)
  exact absurd (List.getElem?_eq_some_iff.1 hk).1 (lt_irrefl _)

/-- A task is past all that has been stored for its session since it was superseded. -/
theorem past_of_run (hrun : Run (Step V) start trace b) (hok : ∀ e ∈ trace, M.InSuccession e.1 e.2)
    {t : Task S L F} (hk : b.tasks[k]? = some t) (hstored : M.StoredAnew trace k t.sessionId key) :
    M.Past t key := by
  induction hrun generalizing t with
  | start =>
      obtain ⟨e, he, -⟩ := hstored
      cases he
  | @next trace b b' e hrun hstep ih =>
      have hok' : ∀ e ∈ trace, M.InSuccession e.1 e.2 := fun e he => hok e (List.mem_append_left _ he)
      have hlast : M.InSuccession b e := hok (b, e) (by simp)
      obtain ⟨e₀, he₀, hstores, hsuper, hnewer⟩ := hstored
      rcases BackendSession.task_cases hstep hk with ⟨sid, -, hnew, -⟩ | ⟨t₀, hk₀, h⟩
      · -- nothing was stored after a task newer than one that has just been started
        have hle : e₀.1.tasks.length ≤ b.tasks.length := by
          rcases List.mem_append.1 he₀ with he₀ | he₀
          · exact tasks_le hrun he₀
          · rw [List.mem_singleton.1 he₀]
        have hlt := lt_of_superseded hsuper
        omega
      · have hsid : t.sessionId = t₀.sessionId := by
          rcases h with hsame | hacts
          · exact hsame.sessionId
          · exact hacts.frame.1
        rw [hsid] at hstores hsuper hnewer
        have hpast : M.Past t₀ key := by
          rcases List.mem_append.1 he₀ with he₀ | he₀
          · exact ih hok' hk₀ ⟨e₀, he₀, hstores, hsuper, hnewer⟩
          · rw [List.mem_singleton.1 he₀] at hstores hsuper hnewer
            exact hlast _ key hstores k t₀ hk₀ rfl hsuper hnewer
        rcases h with hsame | hacts
        · exact hpast.same hsame
        · exact (hpast.acts hacts).1

/-- In a run in which everything is stored in succession, no step of an old task changes what a newer
incarnation has stored. -/
theorem kept_of_run (hrun : Run (Step V) start trace b) (hok : ∀ e ∈ trace, M.InSuccession e.1 e.2) :
    M.Kept trace b := by
  intro k t key c b' hk hstored hstep
  have hpast := past_of_run hrun hok hk hstored
  cases hstep with
  | read _ h => cases h
  | task hj hacts =>
      cases hacts with
      | call hphase hdoes =>
          rw [hk] at hj
          cases hj
          exact (hpast.acts (.call (k := k) hphase hdoes)).2

end Runs

end Keyed

end AxmolFighter.Backend
