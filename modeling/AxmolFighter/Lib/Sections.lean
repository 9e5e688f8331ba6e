import AxmolFighter.Lib.Threads

/-!
# Handlers that are interleaved where they wait

Some operations are waited for: a request, say, or a timer. A section of a program is what it does from
one of these to the next, or to its end. In the coarser system a thread executes a section before anybody
else acts; its runs are among those of `Pool.Step`. `Sectioned R p` says of a program that all its
sections, whatever it is answered, meet `R`.
-/

namespace Program

variable {S : Signature} {σ α β : Type} (awaits : S.Op → Bool)
  (does : σ → (op : S.Op) → S.Answer op → σ → Prop)

/-- From the state, the program comes to what it waits for, or returns. -/
inductive Section : Program S α → σ → Program S α → σ → Prop
  | ret (a : α) (s : σ) : Section (ret a) s (ret a) s
  | await {op : S.Op} {next : S.Answer op → Program S α} (s : σ) (h : awaits op = true) :
      Section (call op next) s (call op next) s
  | call {op : S.Op} {next : S.Answer op → Program S α} {s s₁ s' : σ} {answer : S.Answer op}
      {p : Program S α} (h : awaits op = false) (hdoes : does s op answer s₁)
      (hrest : Section (next answer) s₁ p s') : Section (call op next) s p s'

variable {awaits does} {s s' : σ} {p p' : Program S α}

theorem section_ret {a : α} : Section awaits does (ret a) s p' s' ↔ p' = ret a ∧ s' = s := by
  constructor
  · intro h
    cases h
    exact ⟨rfl, rfl⟩
  · rintro ⟨rfl, rfl⟩
    exact .ret _ _

theorem section_await {op : S.Op} {next : S.Answer op → Program S α} (hop : awaits op = true) :
    Section awaits does (call op next) s p' s' ↔ p' = call op next ∧ s' = s := by
  constructor
  · intro h
    cases h with
    | await => exact ⟨rfl, rfl⟩
    | call hnot => simp [hop] at hnot
  · rintro ⟨rfl, rfl⟩
    exact .await _ hop

theorem section_call {op : S.Op} {next : S.Answer op → Program S α} (hop : awaits op = false) :
    Section awaits does (call op next) s p' s' ↔
      ∃ answer s₁, does s op answer s₁ ∧ Section awaits does (next answer) s₁ p' s' := by
  constructor
  · intro h
    cases h with
    | await _ hnot => simp [hop] at hnot
    | call _ hdoes hrest => exact ⟨_, _, hdoes, hrest⟩
  · rintro ⟨answer, s₁, hdoes, hrest⟩
    exact .call hop hdoes hrest

/-- A program that waits for nothing is executed whole. -/
theorem section_bind {f : α → Program S β} {q : Program S β}
    (hp : Calls (fun op => awaits op = false) p) (h : Section awaits does (p >>= f) s q s') :
    ∃ a s₁, Runs does p s a s₁ ∧ Section awaits does (f a) s₁ q s' := by
  induction hp generalizing s with
  | ret a => exact ⟨a, s, .ret a s, h⟩
  | call hop _ ih =>
      obtain ⟨answer, s₁, hdoes, hrest⟩ := (section_call hop).1 h
      obtain ⟨a, s₂, hruns, hf⟩ := ih answer hrest
      exact ⟨a, s₂, .call hdoes hruns, hf⟩

/-- Where a section ends, the program has returned or waits. -/
theorem Section.rests (h : Section awaits does p s p' s') :
    (∃ a, p' = Program.ret a) ∨ ∃ op next, p' = Program.call op next ∧ awaits op = true := by
  induction h with
  | ret a s => exact Or.inl ⟨a, rfl⟩
  | await s h => exact Or.inr ⟨_, _, rfl, h⟩
  | call _ _ _ ih => exact ih

/-- A relation that every operation of the section keeps is kept by the section. -/
theorem Section.keeps {P : S.Op → Prop} {K : σ → σ → Prop} (hrefl : ∀ s, K s s)
    (hstep : ∀ s₀ s op answer s', K s₀ s → P op → awaits op = false → does s op answer s' → K s₀ s')
    (hcalls : Calls P p) (h : Section awaits does p s p' s') : K s s' ∧ Calls P p' := by
  have hfrom : ∀ s₀, K s₀ s → K s₀ s' ∧ Calls P p' := by
    intro s₀ hs₀
    induction h generalizing s₀ with
    | ret => exact ⟨hs₀, hcalls⟩
    | await => exact ⟨hs₀, hcalls⟩
    | call hop hdoes _ ih =>
        cases hcalls with
        | call hP hnext => exact ih (hnext _) s₀ (hstep _ _ _ _ _ hs₀ hP hop hdoes)
  exact hfrom s (hrefl s)

/-- A program that waits for nothing returns. -/
theorem Section.returns (hcalls : Calls (fun op => awaits op = false) p) (h : Section awaits does p s p' s') :
    ∃ a, p' = Program.ret a := by
  rcases h.rests with ⟨a, rfl⟩ | ⟨op, next, rfl, hop⟩
  · exact ⟨a, rfl⟩
  · have hrest := (h.keeps (K := fun _ _ => True) (fun _ => trivial) (fun _ _ _ _ _ _ _ _ _ => trivial) hcalls).2
    rw [hrest.head] at hop
    cases hop

/-- A section of a program whose result is mapped is one of the program itself. -/
theorem section_map {f : α → β} {q : Program S β}
    (h : Section awaits does (p >>= fun a => Program.ret (f a)) s q s') :
    ∃ p', Section awaits does p s p' s' ∧ q = p' >>= fun a => Program.ret (f a) := by
  induction p generalizing s with
  | ret a =>
      obtain ⟨rfl, rfl⟩ := section_ret.1 h
      exact ⟨_, .ret a s', rfl⟩
  | call op next ih =>
      rcases hop : awaits op with _ | _
      · obtain ⟨answer, s₁, hdoes, hrest⟩ := (section_call hop).1 h
        obtain ⟨p', hsection, heq⟩ := ih answer hrest
        exact ⟨p', .call hop hdoes hsection, heq⟩
      · obtain ⟨rfl, rfl⟩ := (section_await hop).1 h
        exact ⟨_, .await s' hop, rfl⟩

/-- The section of a program whose operations compute. -/
def upTo (awaits : S.Op → Bool) (exec : σ → (op : S.Op) → S.Answer op × σ) :
    Program S α → σ → Program S α × σ
  | ret a, s => (ret a, s)
  | call op next, s =>
      if awaits op then (call op next, s) else upTo awaits exec (next (exec s op).1) (exec s op).2

theorem section_upTo {exec : σ → (op : S.Op) → S.Answer op × σ}
    (hexec : ∀ s op, does s op (exec s op).1 (exec s op).2) (p : Program S α) (s : σ) :
    Section awaits does p s (p.upTo awaits exec s).1 (p.upTo awaits exec s).2 := by
  induction p generalizing s with
  | ret a => exact .ret a s
  | call op next ih =>
      rw [upTo]
      split_ifs with hop
      · exact .await s hop
      · exact .call (Bool.eq_false_iff.2 hop) (hexec s op) (ih _ _)

/-- Whatever the program is answered, its sections meet `R`. -/
inductive Sectioned (awaits : S.Op → Bool) (does : σ → (op : S.Op) → S.Answer op → σ → Prop)
    (R : σ → Program S α → σ → Prop) : Program S α → Prop
  | intro {p : Program S α} (h : ∀ s p' s', Section awaits does p s p' s' → R s p' s')
      (hnext : ∀ s op next s', Section awaits does p s (call op next) s' →
        ∀ answer, Sectioned awaits does R (next answer)) : Sectioned awaits does R p

namespace Sectioned

variable {R : σ → Program S α → σ → Prop}

theorem meets (h : Sectioned awaits does R p) (hsection : Section awaits does p s p' s') : R s p' s' := by
  cases h with
  | intro h _ => exact h _ _ _ hsection

theorem next {op : S.Op} {next : S.Answer op → Program S α} (h : Sectioned awaits does R p)
    (hsection : Section awaits does p s (Program.call op next) s') (answer : S.Answer op) :
    Sectioned awaits does R (next answer) := by
  cases h with
  | intro _ hnext => exact hnext _ _ _ _ hsection answer

theorem ret {a : α} (h : ∀ s, R s (Program.ret a) s) : Sectioned awaits does R (Program.ret a) := by
  refine .intro (fun s p' s' hsection => ?_) fun s op next s' hsection => ?_
  · obtain ⟨rfl, rfl⟩ := section_ret.1 hsection
    exact h s'
  · cases hsection

theorem await {op : S.Op} {next : S.Answer op → Program S α} (hop : awaits op = true)
    (h : ∀ s, R s (Program.call op next) s) (hnext : ∀ answer, Sectioned awaits does R (next answer)) :
    Sectioned awaits does R (Program.call op next) := by
  refine .intro (fun s p' s' hsection => ?_) fun s op' next' s' hsection => ?_
  · obtain ⟨rfl, rfl⟩ := (section_await hop).1 hsection
    exact h s'
  · obtain ⟨heq, -⟩ := (section_await hop).1 hsection
    cases heq
    exact hnext

theorem bind {p : Program S β} {f : β → Program S α} (hp : Calls (fun op => awaits op = false) p)
    (h : ∀ s b s₁ q s', Runs does p s b s₁ → Section awaits does (f b) s₁ q s' → R s q s')
    (hf : ∀ b, Sectioned awaits does R (f b)) : Sectioned awaits does R (p >>= f) := by
  refine .intro (fun s q s' hsection => ?_) fun s op next s' hsection => ?_
  · obtain ⟨b, s₁, hruns, hrest⟩ := section_bind hp hsection
    exact h s b s₁ q s' hruns hrest
  · obtain ⟨b, s₁, -, hrest⟩ := section_bind hp hsection
    exact (hf b).next hrest

theorem map {f : α → β} {R' : σ → Program S β → σ → Prop} (h : Sectioned awaits does R p)
    (hR : ∀ s q s', R s q s' → R' s (q >>= fun a => Program.ret (f a)) s') :
    Sectioned awaits does R' (p >>= fun a => Program.ret (f a)) := by
  induction h with
  | intro hmeets _ ih =>
      refine .intro (fun s q s' hsection => ?_) fun s op next s' hsection answer => ?_
      · obtain ⟨p', hown, rfl⟩ := section_map hsection
        exact hR _ _ _ (hmeets _ _ _ hown)
      · obtain ⟨p', hown, heq⟩ := section_map hsection
        cases p' with
        | ret a => cases heq
        | call op' next' =>
            cases heq
            exact ih _ _ _ _ hown answer

theorem rest (h : Sectioned awaits does R p) (hsection : Section awaits does p s p' s')
    (hrefl : ∀ s q, R s q s) : Sectioned awaits does R p' := by
  rcases hsection.rests with ⟨a, rfl⟩ | ⟨op, next, rfl, hop⟩
  · exact .ret fun s => hrefl s _
  · exact .await hop (fun s => hrefl s _) (h.next hsection)

/-- A program whose sections all meet `R` because its operations keep a relation. -/
theorem of_calls {P : S.Op → Prop} {K : σ → σ → Prop} (hrefl : ∀ s, K s s)
    (hstep : ∀ s₀ s op answer s', K s₀ s → P op → awaits op = false → does s op answer s' → K s₀ s')
    (hR : ∀ s p' s', K s s' → Calls P p' → R s p' s') (hcalls : Calls P p) : Sectioned awaits does R p := by
  induction hcalls with
  | ret a => exact .ret fun s => hR _ _ _ (hrefl s) (.ret a)
  | @call op next hop hnext ih =>
      rcases hawaits : awaits op with _ | _
      · refine .intro (fun s p' s' hsection => ?_) fun s op' next' s' hsection => ?_
        · obtain ⟨hK, hrest⟩ := hsection.keeps hrefl hstep (.call hop hnext)
          exact hR _ _ _ hK hrest
        · obtain ⟨answer, s₁, -, hrest⟩ := (section_call hawaits).1 hsection
          exact (ih answer).next hrest
      · exact .await hawaits (fun s => hR _ _ _ (hrefl s) (.call hop hnext)) ih

end Sectioned

end Program

/-! ### The coarser system -/

namespace Pool

open Program (Section Sectioned)

variable {S : Signature} {σ L E : Type} (awaits : S.Op → Bool) (T : ThreadSystem S σ L E)

/-- A new thread, a section that an input starts or that goes on with an answer, or the environment. -/
inductive SectionStep : Pool S σ L → Event S L E → Pool S σ L → Prop
  | opens {pool : Pool S σ L} {l : L} {s' : σ} (h : T.opens pool.shared pool.threads.length l s') :
      SectionStep pool (.opens l) ⟨s', pool.threads ++ [.ret l]⟩
  | input {pool : Pool S σ L} {k : Nat} {l : L} {e : E} {p p' : Program S L} {s' : σ}
      (hidle : pool.threads[k]? = some (.ret l)) (h : T.handle l e = some p)
      (hsection : Section awaits T.does p pool.shared p' s') :
      SectionStep pool (.input k e) ⟨s', pool.threads.set k p'⟩
  | resume {pool : Pool S σ L} {k : Nat} {op : S.Op} {next : S.Answer op → Program S L}
      {answer : S.Answer op} {s₁ s' : σ} {p' : Program S L}
      (hwaits : pool.threads[k]? = some (.call op next)) (hop : awaits op = true)
      (h : T.does pool.shared op answer s₁) (hsection : Section awaits T.does (next answer) s₁ p' s') :
      SectionStep pool (.call k ⟨op, answer⟩) ⟨s', pool.threads.set k p'⟩
  | environment {pool : Pool S σ L} {s' : σ} (h : T.environment pool.shared s') :
      SectionStep pool .environment ⟨s', pool.threads⟩

variable {awaits T}

theorem run_section {s s' : σ} {threads : List (Program S L)} {k : Nat} {p p' : Program S L}
    (hk : threads[k]? = some p) (h : Section awaits T.does p s p' s') :
    ∃ trace, Run (Step T) ⟨s, threads⟩ trace ⟨s', threads.set k p'⟩ := by
  have hsame : ∀ {threads : List (Program S L)} {p : Program S L}, threads[k]? = some p →
      threads.set k p = threads := by
    intro threads p hk
    obtain ⟨hlt, hget⟩ := List.getElem?_eq_some_iff.1 hk
    rw [← hget, List.set_getElem_self]
  induction h generalizing threads with
  | ret a s =>
      rw [hsame hk]
      exact ⟨[], .start⟩
  | await s hop =>
      rw [hsame hk]
      exact ⟨[], .start⟩
  | call hop hdoes _ ih =>
      have hlt := (List.getElem?_eq_some_iff.1 hk).1
      obtain ⟨trace, hrun⟩ := ih (List.getElem?_set_self hlt)
      rw [List.set_set] at hrun
      exact ⟨_, hrun.cons (.call hk hdoes)⟩

/-- What a section does is one of the interleavings. -/
theorem SectionStep.run {pool pool' : Pool S σ L} {e : Event S L E} (h : SectionStep awaits T pool e pool') :
    ∃ trace, Run (Step T) pool trace pool' := by
  cases h with
  | opens h => exact ⟨_, Run.start.next (.opens h)⟩
  | input hidle h hsection =>
      have hlt := (List.getElem?_eq_some_iff.1 hidle).1
      obtain ⟨trace, hrun⟩ := run_section (List.getElem?_set_self hlt) hsection
      rw [List.set_set] at hrun
      exact ⟨_, hrun.cons (.input hidle h)⟩
  | resume hwaits hop h hsection =>
      have hlt := (List.getElem?_eq_some_iff.1 hwaits).1
      obtain ⟨trace, hrun⟩ := run_section (List.getElem?_set_self hlt) hsection
      rw [List.set_set] at hrun
      exact ⟨_, hrun.cons (.call hwaits h)⟩
  | environment h => exact ⟨_, Run.start.next (.environment h)⟩

theorem SectionStep.runs {start pool : Pool S σ L} {trace : List (Pool S σ L × Event S L E)}
    (h : Run (SectionStep awaits T) start trace pool) : ∃ trace, Run (Step T) start trace pool := by
  induction h with
  | start => exact ⟨[], .start⟩
  | next _ hstep ih =>
      obtain ⟨trace, hrun⟩ := ih
      obtain ⟨trace', hrun'⟩ := SectionStep.run hstep
      exact ⟨_, hrun.append hrun'⟩

/-! ### Sections that compute -/

/-- One step of the coarser system: a new thread, an input, or an answer for a thread that waits. -/
def Executor.advanceSection (X : Executor T) (awaits : S.Op → Bool) (pool : Pool S σ L) :
    Slot L E → Option (Event S L E × Pool S σ L)
  | .opens l => (X.opened pool.shared pool.threads.length l).map fun s' =>
      (.opens l, ⟨s', pool.threads ++ [.ret l]⟩)
  | .input k e =>
      match pool.threads[k]? with
      | some (.ret l) => (T.handle l e).map fun p =>
          let (p', s') := p.upTo awaits X.exec pool.shared
          (.input k e, ⟨s', pool.threads.set k p'⟩)
      | _ => none
  | .call k =>
      match pool.threads[k]? with
      | some (.call op next) =>
          if awaits op then
            let (answer, s₁) := X.exec pool.shared op
            let (p', s') := (next answer).upTo awaits X.exec s₁
            some (.call k ⟨op, answer⟩, ⟨s', pool.threads.set k p'⟩)
          else none
      | _ => none

theorem Executor.advanceSection_sound (X : Executor T) {pool pool' : Pool S σ L} {slot : Slot L E}
    {e : Event S L E} (h : X.advanceSection awaits pool slot = some (e, pool')) :
    SectionStep awaits T pool e pool' := by
  cases slot with
  | opens l =>
      simp only [advanceSection, Option.map_eq_some_iff, Prod.mk.injEq] at h
      obtain ⟨s', hopened, rfl, rfl⟩ := h
      exact .opens (X.opens_opened _ _ _ _ hopened)
  | input k i =>
      rw [advanceSection] at h
      split at h
      · rename_i l hidle
        simp only [Option.map_eq_some_iff, Prod.mk.injEq] at h
        obtain ⟨p, hp, rfl, rfl⟩ := h
        exact .input hidle hp (Program.section_upTo X.does_exec p _)
      · cases h
  | call k =>
      rw [advanceSection] at h
      split at h
      · rename_i op next hwaits
        split_ifs at h with hop
        cases h
        exact .resume hwaits hop (X.does_exec _ _) (Program.section_upTo X.does_exec _ _)
      · cases h

theorem Executor.advanceSection_input (X : Executor T) {pool pool' : Pool S σ L} {k : Nat} {i : E}
    {e : Event S L E} (h : X.advanceSection awaits pool (.input k i) = some (e, pool')) : e = .input k i := by
  rw [advanceSection] at h
  split at h
  · obtain ⟨p, -, heq⟩ := Option.map_eq_some_iff.1 h
    exact (congrArg Prod.fst heq).symm
  · cases h

/-- Steps of the coarser system, from states that meet `ok` only. -/
def Executor.sections (X : Executor T) (awaits : S.Op → Bool) (ok : Pool S σ L → Bool) :
    Pool S σ L → List (Slot L E) → Option (Pool S σ L)
  | pool, [] => some pool
  | pool, slot :: slots =>
      if ok pool then do
        let (_, next) ← X.advanceSection awaits pool slot
        X.sections awaits ok next slots
      else none

theorem Executor.sections_sound (X : Executor T) {ok : Pool S σ L → Bool} {pool pool' : Pool S σ L}
    {slots : List (Slot L E)} (h : X.sections awaits ok pool slots = some pool') :
    ∃ trace, Run (fun pool e pool' => SectionStep awaits T pool e pool' ∧ ok pool = true) pool trace pool' := by
  induction slots generalizing pool with
  | nil =>
      cases h
      exact ⟨[], .start⟩
  | cons slot slots ih =>
      rw [sections] at h
      split_ifs at h with hok
      simp only [Option.bind_eq_bind, Option.bind_eq_some_iff] at h
      obtain ⟨⟨e, next⟩, hadvance, hrest⟩ := h
      obtain ⟨trace, hrun⟩ := ih hrest
      exact ⟨_, hrun.cons ⟨X.advanceSection_sound hadvance, hok⟩⟩

end Pool
