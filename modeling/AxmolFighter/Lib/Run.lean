import Mathlib.Order.Basic

/-!
# Runs of a transition system

A run records, for every step, the state before it and the action taken. A condition that every step
has to meet is therefore a condition on the entries of the record, and the order of two events is a
sublist of it.
-/

/-- `Run step s₀ trace s`: the steps of `trace`, each with the state before it, lead from `s₀` to `s`. -/
inductive Run {σ α : Type} (step : σ → α → σ → Prop) (s₀ : σ) : List (σ × α) → σ → Prop
  | start : Run step s₀ [] s₀
  | next {trace : List (σ × α)} {s s' : σ} {a : α} (hrun : Run step s₀ trace s)
      (hstep : step s a s') : Run step s₀ (trace ++ [(s, a)]) s'

namespace Run

variable {σ α : Type} {step : σ → α → σ → Prop} {s₀ s : σ} {trace : List (σ × α)}

/-- What holds at the start and is kept by every step that meets `ok` holds at the end of a run whose
steps all meet `ok`. -/
theorem invariant_of (hrun : Run step s₀ trace s) (ok : σ → α → Prop) (inv : σ → Prop)
    (hok : ∀ e ∈ trace, ok e.1 e.2) (hstart : inv s₀)
    (hkeep : ∀ s a s', inv s → ok s a → step s a s' → inv s') : inv s := by
  induction hrun with
  | start => exact hstart
  | next _ hstep ih =>
      refine hkeep _ _ _ (ih fun e he => hok e (List.mem_append_left _ he)) ?_ hstep
      exact hok _ (List.mem_append_right _ List.mem_cons_self)

theorem invariant (hrun : Run step s₀ trace s) (inv : σ → Prop) (hstart : inv s₀)
    (hkeep : ∀ s a s', inv s → step s a s' → inv s') : inv s :=
  hrun.invariant_of (fun _ _ => True) inv (fun _ _ => trivial) hstart
    fun s a s' hinv _ hstep => hkeep s a s' hinv hstep

/-- An invariant may speak about the trace so far. -/
theorem invariant_trace (hrun : Run step s₀ trace s) {inv : List (σ × α) → σ → Prop}
    (hstart : inv [] s₀)
    (hkeep : ∀ l s a s', Run step s₀ l s → inv l s → step s a s' → inv (l ++ [(s, a)]) s') :
    inv trace s := by
  induction hrun with
  | start => exact hstart
  | next hrun hstep ih => exact hkeep _ _ _ _ hrun ih hstep

/-- A measure that no step decreases is largest at the end. -/
theorem le_of_mem (hrun : Run step s₀ trace s) {β : Type} [Preorder β] (f : σ → β)
    (hmono : ∀ s a s', step s a s' → f s ≤ f s') {e : σ × α} (he : e ∈ trace) : f e.1 ≤ f s := by
  induction hrun with
  | start => cases he
  | next _ hstep ih =>
      rcases List.mem_append.1 he with he | he
      · exact (ih he).trans (hmono _ _ _ hstep)
      · rw [List.mem_singleton.1 he]
        exact hmono _ _ _ hstep

theorem mono {step' : σ → α → σ → Prop} (hrun : Run step s₀ trace s)
    (h : ∀ s a s', step s a s' → step' s a s') : Run step' s₀ trace s := by
  induction hrun with
  | start => exact .start
  | next _ hstep ih => exact ih.next (h _ _ _ hstep)

theorem start_mem (hrun : Run step s₀ trace s) (hne : s ≠ s₀) : ∃ a, (s₀, a) ∈ trace := by
  induction hrun with
  | start => exact absurd rfl hne
  | @next trace s s' a _ hstep ih =>
      by_cases heq : s = s₀
      · exact ⟨a, List.mem_append_right _ (by simp [heq])⟩
      · obtain ⟨a', ha'⟩ := ih heq
        exact ⟨a', List.mem_append_left _ ha'⟩

theorem cons {a : α} {s₁ : σ} (hstep : step s₀ a s₁) (hrun : Run step s₁ trace s) :
    Run step s₀ ((s₀, a) :: trace) s := by
  induction hrun with
  | start => exact Run.start.next hstep
  | next _ hnext ih => exact ih.next hnext

theorem append {trace' : List (σ × α)} {s' : σ} (hrun : Run step s₀ trace s)
    (hrun' : Run step s trace' s') : Run step s₀ (trace ++ trace') s' := by
  induction hrun' with
  | start =>
      rw [List.append_nil]
      exact hrun
  | next _ hstep ih =>
      rw [← List.append_assoc]
      exact ih.next hstep

/-- A run is a run up to each of its steps, and that step. -/
theorem split {l l' : List (σ × α)} {e : σ × α} (hrun : Run step s₀ trace s) (h : trace = l ++ e :: l') :
    Run step s₀ l e.1 ∧ ∃ s', step e.1 e.2 s' := by
  induction hrun generalizing l' with
  | start => simp at h
  | next hrun hstep ih =>
      rcases List.eq_nil_or_concat l' with rfl | ⟨l', last, rfl⟩
      · obtain ⟨rfl, he⟩ := List.append_inj' h rfl
        obtain rfl := (List.cons.inj he).1
        exact ⟨hrun, _, hstep⟩
      · rw [List.concat_eq_append, ← List.cons_append, ← List.append_assoc] at h
        exact ih (List.append_inj' h rfl).1

/-- The run of a list of actions, for a system that computes its steps. -/
def record (f : σ → α → Option σ) : σ → List α → Option (List (σ × α) × σ)
  | s, [] => some ([], s)
  | s, a :: as => do
      let next ← f s a
      let (trace, last) ← record f next as
      some ((s, a) :: trace, last)

theorem of_record {f : σ → α → Option σ} (hf : ∀ s a s', f s a = some s' → step s a s')
    {as : List α} (h : record f s₀ as = some (trace, s)) : Run step s₀ trace s := by
  induction as generalizing s₀ trace with
  | nil =>
      cases h
      exact .start
  | cons a as ih =>
      simp only [record, Option.bind_eq_bind, Option.bind_eq_some_iff] at h
      obtain ⟨next, hnext, ⟨rest, last⟩, hrest, heq⟩ := h
      cases heq
      exact (ih hrest).cons (hf _ _ _ hnext)

theorem record_actions {f : σ → α → Option σ} {as : List α} (h : record f s₀ as = some (trace, s)) :
    trace.map Prod.snd = as := by
  induction as generalizing s₀ trace with
  | nil =>
      cases h
      rfl
  | cons a as ih =>
      simp only [record, Option.bind_eq_bind, Option.bind_eq_some_iff] at h
      obtain ⟨next, -, ⟨rest, last⟩, hrest, heq⟩ := h
      cases heq
      rw [List.map_cons, ih hrest]

/-- The run of a schedule, for a system in which it says who acts next and the state says how. -/
def schedule {ι : Type} (f : σ → ι → Option (α × σ)) : σ → List ι → Option (List (σ × α) × σ)
  | s, [] => some ([], s)
  | s, i :: is => do
      let (a, after) ← f s i
      let (trace, last) ← schedule f after is
      some ((s, a) :: trace, last)

theorem of_schedule {ι : Type} {f : σ → ι → Option (α × σ)}
    (hf : ∀ s i a s', f s i = some (a, s') → step s a s') {is : List ι}
    (h : schedule f s₀ is = some (trace, s)) : Run step s₀ trace s := by
  induction is generalizing s₀ trace with
  | nil =>
      cases h
      exact .start
  | cons i is ih =>
      simp only [schedule, Option.bind_eq_bind, Option.bind_eq_some_iff] at h
      obtain ⟨⟨a, after⟩, hafter, ⟨rest, last⟩, hrest, heq⟩ := h
      cases heq
      exact (ih hrest).cons (hf _ _ _ _ hafter)

theorem length_of_schedule {ι : Type} {f : σ → ι → Option (α × σ)} {is : List ι}
    (h : schedule f s₀ is = some (trace, s)) : trace.length = is.length := by
  induction is generalizing s₀ trace with
  | nil =>
      cases h
      rfl
  | cons i is ih =>
      simp only [schedule, Option.bind_eq_bind, Option.bind_eq_some_iff] at h
      obtain ⟨⟨a, after⟩, -, ⟨rest, last⟩, hrest, heq⟩ := h
      cases heq
      rw [List.length_cons, List.length_cons, ih hrest]

end Run
