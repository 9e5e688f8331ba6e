import Mathlib.Data.List.Basic

/-!
# Programs over shared operations

A handler of a concurrent component is a program: a tree of calls of atomic operations, each with the
rest of the program for every answer. What the operations do to a state is a separate relation, so one
program can be run alone, or one call at a time among others.

`Path` is what a program has done so far. Facts about all paths of a program (which calls it makes, in
what order, with which arguments) do not depend on any state.
-/

/-- Atomic operations, each with the type of its answer. -/
structure Signature where
  Op : Type
  Answer : Op → Type

/-- An operation with the answer that it got. -/
structure Signature.Call (S : Signature) where
  op : S.Op
  answer : S.Answer op

inductive Program (S : Signature) (α : Type) : Type
  | ret (a : α)
  | call (op : S.Op) (next : S.Answer op → Program S α)

namespace Program

variable {S : Signature} {α β : Type}

def bind : Program S α → (α → Program S β) → Program S β
  | ret a, f => f a
  | call op next, f => call op fun answer => (next answer).bind f

instance : Monad (Program S) where
  pure := ret
  bind := bind

/-- A single operation. -/
def perform (op : S.Op) : Program S (S.Answer op) := call op ret

@[simp] theorem pure_eq (a : α) : (pure a : Program S α) = ret a := rfl

@[simp] theorem ret_bind (a : α) (f : α → Program S β) : (ret a : Program S α) >>= f = f a := rfl

@[simp] theorem call_bind (op : S.Op) (next : S.Answer op → Program S α) (f : α → Program S β) :
    call op next >>= f = call op fun answer => next answer >>= f := rfl

@[simp] theorem perform_bind (op : S.Op) (f : S.Answer op → Program S β) :
    perform op >>= f = call op f := rfl

theorem bind_assoc {γ : Type} (p : Program S α) (f : α → Program S β) (g : β → Program S γ) :
    p >>= f >>= g = p >>= fun a => f a >>= g := by
  induction p with
  | ret a => rfl
  | call op next ih =>
      rw [call_bind, call_bind, call_bind]
      congr 1
      funext answer
      exact ih answer

def isRet : Program S α → Bool
  | ret _ => true
  | call _ _ => false

theorem isRet_iff {p : Program S α} : p.isRet = true ↔ ∃ a, p = ret a := by
  cases p with
  | ret a => exact ⟨fun _ => ⟨a, rfl⟩, fun _ => rfl⟩
  | call => exact ⟨nofun, nofun⟩

/-- One call after the other for the elements of a list. -/
def forEach (f : α → Program S Unit) : List α → Program S Unit
  | [] => ret ()
  | a :: as => do
      f a
      forEach f as

/-- A program for the value, if there is one. -/
def whenSome (a : Option α) (f : α → Program S Unit) : Program S Unit :=
  match a with
  | some a => f a
  | none => ret ()

/-- The elements that a program accepts, asked in the order of the list. -/
def filter (f : α → Program S Bool) : List α → Program S (List α)
  | [] => ret []
  | a :: as => do
      let keep ← f a
      let rest ← filter f as
      ret (if keep then a :: rest else rest)

/-! ### Paths -/

/-- `Path p calls rest`: after `calls`, what is left of `p` is `rest`. -/
inductive Path : Program S α → List S.Call → Program S α → Prop
  | nil (p : Program S α) : Path p [] p
  | cons {op : S.Op} {next : S.Answer op → Program S α} {answer : S.Answer op}
      {calls : List S.Call} {rest : Program S α} (h : Path (next answer) calls rest) :
      Path (call op next) (⟨op, answer⟩ :: calls) rest

theorem Path.snoc {p rest : Program S α} {calls : List S.Call} {op : S.Op}
    {next : S.Answer op → Program S α} (h : Path p calls rest) (hrest : rest = call op next)
    (answer : S.Answer op) : Path p (calls ++ [⟨op, answer⟩]) (next answer) := by
  induction h with
  | nil p =>
      subst hrest
      exact .cons (.nil _)
  | cons _ ih => exact .cons (ih hrest)

@[simp] theorem path_ret {a : α} {calls : List S.Call} {rest : Program S α} :
    Path (ret a) calls rest ↔ calls = [] ∧ rest = ret a := by
  constructor
  · intro h
    cases h
    exact ⟨rfl, rfl⟩
  · rintro ⟨rfl, rfl⟩
    exact .nil _

theorem path_call {op : S.Op} {next : S.Answer op → Program S α} {calls : List S.Call}
    {rest : Program S α} :
    Path (call op next) calls rest ↔ (calls = [] ∧ rest = call op next) ∨
      ∃ answer calls', calls = ⟨op, answer⟩ :: calls' ∧ Path (next answer) calls' rest := by
  constructor
  · intro h
    cases h with
    | nil => exact Or.inl ⟨rfl, rfl⟩
    | cons h => exact Or.inr ⟨_, _, rfl, h⟩
  · rintro (⟨rfl, rfl⟩ | ⟨answer, calls', rfl, h⟩)
    · exact .nil _
    · exact .cons h

/-- A finished path of two programs in a row is one of each. -/
theorem path_bind {p : Program S α} {f : α → Program S β} {calls : List S.Call} {b : β}
    (h : Path (p >>= f) calls (ret b)) :
    ∃ a first second, calls = first ++ second ∧ Path p first (ret a) ∧ Path (f a) second (ret b) := by
  induction p generalizing calls with
  | ret a => exact ⟨a, [], calls, rfl, .nil _, h⟩
  | call op next ih =>
      rw [call_bind, path_call] at h
      rcases h with ⟨-, h⟩ | ⟨answer, rest, rfl, h⟩
      · cases h
      · obtain ⟨a, first, second, rfl, hfirst, hsecond⟩ := ih answer h
        exact ⟨a, ⟨op, answer⟩ :: first, second, rfl, .cons hfirst, hsecond⟩

/-! ### Calls that a program can make -/

/-- Every call the program can come to satisfies `P`, whatever the answers. -/
inductive Calls (P : S.Op → Prop) : Program S α → Prop
  | ret (a : α) : Calls P (ret a)
  | call {op : S.Op} {next : S.Answer op → Program S α} (hop : P op)
      (hnext : ∀ answer, Calls P (next answer)) : Calls P (call op next)

namespace Calls

variable {P Q : S.Op → Prop} {p : Program S α}

theorem bind {f : α → Program S β} (hp : Calls P p) (hf : ∀ a, Calls P (f a)) :
    Calls P (p >>= f) := by
  induction hp with
  | ret a => exact hf a
  | call hop _ ih => exact .call hop ih

theorem perform {op : S.Op} (h : P op) : Calls P (perform op) := .call h fun _ => .ret _

theorem forEach {f : α → Program S Unit} {as : List α} (h : ∀ a ∈ as, Calls P (f a)) :
    Calls P (forEach f as) := by
  induction as with
  | nil => exact .ret ()
  | cons a as ih =>
      exact (h a List.mem_cons_self).bind fun _ => ih fun b hb => h b (List.mem_cons_of_mem _ hb)

theorem whenSome {a : Option α} {f : α → Program S Unit} (h : ∀ a, Calls P (f a)) :
    Calls P (whenSome a f) := by
  cases a with
  | some a => exact h a
  | none => exact .ret ()

theorem filter {f : α → Program S Bool} {as : List α} (h : ∀ a, Calls P (f a)) :
    Calls P (filter f as) := by
  induction as with
  | nil => exact .ret []
  | cons a as ih => exact (h a).bind fun _ => ih.bind fun _ => .ret _

theorem mono (h : Calls P p) (hPQ : ∀ op, P op → Q op) : Calls Q p := by
  induction h with
  | ret a => exact .ret a
  | call hop _ ih => exact .call (hPQ _ hop) ih

theorem path (h : Calls P p) {calls : List S.Call} {rest : Program S α} (hpath : Path p calls rest) :
    (∀ c ∈ calls, P c.op) ∧ Calls P rest := by
  induction hpath with
  | nil p => exact ⟨by simp, h⟩
  | cons _ ih =>
      cases h with
      | call hop hnext =>
          obtain ⟨hcalls, hrest⟩ := ih (hnext _)
          refine ⟨fun c hc => ?_, hrest⟩
          rcases List.mem_cons.1 hc with rfl | hc
          · exact hop
          · exact hcalls c hc

theorem head {op : S.Op} {next : S.Answer op → Program S α} (h : Calls P (Program.call op next)) :
    P op := by
  cases h with
  | call hop _ => exact hop

end Calls

/-! ### Running a program alone -/

section Runs

variable {σ : Type} (does : σ → (op : S.Op) → S.Answer op → σ → Prop)

/-- `Runs does p s a s'`: run alone from `s`, the program can return `a` and leave `s'`. -/
inductive Runs : Program S α → σ → α → σ → Prop
  | ret (a : α) (s : σ) : Runs (ret a) s a s
  | call {op : S.Op} {next : S.Answer op → Program S α} {s s₁ s' : σ} {answer : S.Answer op} {a : α}
      (hdoes : does s op answer s₁) (hnext : Runs (next answer) s₁ a s') :
      Runs (call op next) s a s'

variable {does} {s s' : σ}

@[simp] theorem runs_ret {a b : α} : Runs does (ret a) s b s' ↔ b = a ∧ s' = s := by
  constructor
  · intro h
    cases h
    exact ⟨rfl, rfl⟩
  · rintro ⟨rfl, rfl⟩
    exact .ret _ _

theorem runs_call {op : S.Op} {next : S.Answer op → Program S α} {a : α} :
    Runs does (call op next) s a s' ↔
      ∃ answer s₁, does s op answer s₁ ∧ Runs does (next answer) s₁ a s' := by
  constructor
  · intro h
    cases h with
    | call hdoes hnext => exact ⟨_, _, hdoes, hnext⟩
  · rintro ⟨answer, s₁, hdoes, hnext⟩
    exact .call hdoes hnext

theorem runs_perform {op : S.Op} {answer : S.Answer op} :
    Runs does (perform op) s answer s' ↔ does s op answer s' := by
  rw [perform, runs_call]
  constructor
  · rintro ⟨a, s₁, hdoes, hret⟩
    obtain ⟨rfl, rfl⟩ := runs_ret.1 hret
    exact hdoes
  · exact fun hdoes => ⟨answer, s', hdoes, .ret _ _⟩

theorem runs_bind {p : Program S α} {f : α → Program S β} {b : β} :
    Runs does (p >>= f) s b s' ↔ ∃ a s₁, Runs does p s a s₁ ∧ Runs does (f a) s₁ b s' := by
  constructor
  · intro h
    induction p generalizing s with
    | ret a => exact ⟨a, s, .ret a s, h⟩
    | call op next ih =>
        obtain ⟨answer, s₁, hdoes, hnext⟩ := runs_call.1 h
        obtain ⟨a, s₂, hp, hf⟩ := ih answer hnext
        exact ⟨a, s₂, .call hdoes hp, hf⟩
  · rintro ⟨a, s₁, hp, hf⟩
    induction hp with
    | ret a s => exact hf
    | call hdoes _ ih => exact .call hdoes (ih hf)

/-- What `filter` keeps, where a relation to an earlier state is kept by every question, and says its answer. -/
theorem runs_filter {f : α → Program S Bool} {Q : α → Prop} {R : σ → Prop}
    (hf : ∀ a s keep s', R s → Runs does (f a) s keep s' → R s' ∧ (keep = true ↔ Q a)) {as kept : List α}
    (hR : R s) (h : Runs does (filter f as) s kept s') : R s' ∧ ∀ a, a ∈ kept ↔ a ∈ as ∧ Q a := by
  induction as generalizing s kept with
  | nil =>
      obtain ⟨rfl, rfl⟩ := runs_ret.1 h
      exact ⟨hR, fun a => by simp⟩
  | cons b bs ih =>
      obtain ⟨keep, s₁, hb, h⟩ := runs_bind.1 h
      obtain ⟨rest, s₂, hbs, h⟩ := runs_bind.1 h
      obtain ⟨rfl, rfl⟩ := runs_ret.1 h
      obtain ⟨hR₁, hkeep⟩ := hf b s keep s₁ hR hb
      obtain ⟨hR₂, hrest⟩ := ih hR₁ hbs
      refine ⟨hR₂, fun a => ?_⟩
      rw [List.mem_cons, or_and_right, ← hrest]
      split_ifs with hkept
      · rw [List.mem_cons]
        refine or_congr_left ⟨fun ha => ⟨ha, ha ▸ hkeep.1 hkept⟩, And.left⟩
      · refine (or_iff_right ?_).symm
        rintro ⟨rfl, hQ⟩
        exact hkept (hkeep.2 hQ)

/-- Runs a program alone, with operations that compute. -/
def eval (exec : σ → (op : S.Op) → S.Answer op × σ) : Program S α → σ → α × σ
  | ret a, s => (a, s)
  | call op next, s => eval exec (next (exec s op).1) (exec s op).2

theorem eval_bind (exec : σ → (op : S.Op) → S.Answer op × σ) (p : Program S α) (f : α → Program S β)
    (s : σ) : (p >>= f).eval exec s = (f (p.eval exec s).1).eval exec (p.eval exec s).2 := by
  induction p generalizing s with
  | ret a => rfl
  | call op next ih => exact ih _ _

theorem runs_eval {exec : σ → (op : S.Op) → S.Answer op × σ}
    (hexec : ∀ s op, does s op (exec s op).1 (exec s op).2) (p : Program S α) (s : σ) :
    Runs does p s (p.eval exec s).1 (p.eval exec s).2 := by
  induction p generalizing s with
  | ret a => exact .ret a s
  | call op next ih => exact .call (hexec s op) (ih _ _)

/-- The calls that it makes then, each with the state before it. -/
def record (exec : σ → (op : S.Op) → S.Answer op × σ) : Program S α → σ → List (σ × S.Call)
  | ret _, _ => []
  | call op next, s => (s, ⟨op, (exec s op).1⟩) :: record exec (next (exec s op).1) (exec s op).2

/-- An invariant of the calls that a program can make is one of the program. -/
theorem Runs.keeps {p : Program S α} {a : α} (h : Runs does p s a s') {P : S.Op → Prop}
    (hcalls : Calls P p) (inv : σ → Prop)
    (hkeep : ∀ s op answer s', inv s → P op → does s op answer s' → inv s') (hinv : inv s) : inv s' := by
  induction h with
  | ret _ _ => exact hinv
  | call hdoes _ ih =>
      cases hcalls with
      | call hop hnext => exact ih (hnext _) (hkeep _ _ _ _ hinv hop hdoes)

theorem Runs.invariant {p : Program S α} {a : α} (h : Runs does p s a s') (inv : σ → Prop)
    (hkeep : ∀ s op answer s', inv s → does s op answer s' → inv s') (hinv : inv s) : inv s' := by
  induction h with
  | ret _ _ => exact hinv
  | call hdoes _ ih => exact ih (hkeep _ _ _ _ hinv hdoes)

end Runs

/-! ### What a program run alone can come to -/

section Reaches

variable {σ : Type} (does : σ → (op : S.Op) → S.Answer op → σ → Prop)

/-- Run alone from the state, the program can come to a call that meets `P` in the state before it. -/
inductive Reaches (P : σ → S.Op → Prop) : Program S α → σ → Prop
  | here {op : S.Op} {next : S.Answer op → Program S α} {s : σ} (h : P s op) : Reaches P (call op next) s
  | later {op : S.Op} {next : S.Answer op → Program S α} {s s' : σ} {answer : S.Answer op}
      (hdoes : does s op answer s') (hnext : Reaches P (next answer) s') : Reaches P (call op next) s

variable {does}

@[simp] theorem not_reaches_ret {P : σ → S.Op → Prop} {a : α} {s : σ} :
    ¬ Reaches does P (ret a : Program S α) s := fun h => nomatch h

end Reaches

/-! ### What a program cannot avoid -/

/-- Whatever the answers, the program comes to a call that meets `P`. -/
inductive Comes (P : S.Op → Prop) : Program S α → Prop
  | here {op : S.Op} {next : S.Answer op → Program S α} (h : P op) : Comes P (call op next)
  | later {op : S.Op} {next : S.Answer op → Program S α} (hnext : ∀ answer, Comes P (next answer)) :
      Comes P (call op next)

theorem Comes.bind {P : S.Op → Prop} {p : Program S α} (h : Comes P p) (f : α → Program S β) :
    Comes P (p >>= f) := by
  induction h with
  | here h => exact .here h
  | later _ ih => exact .later ih

theorem Comes.bind_next {P : S.Op → Prop} (p : Program S α) {f : α → Program S β}
    (h : ∀ a, Comes P (f a)) : Comes P (p >>= f) := by
  induction p with
  | ret a => exact h a
  | call op next ih => exact .later ih

/-! ### Rely and guarantee -/

section Ensures

variable (relies : (op : S.Op) → S.Answer op → Prop) (guarantees : S.Op → Prop)

/-- As long as the answers are such as `relies` says, every call that the program comes to satisfies
`guarantees`, and what it returns satisfies `Q`. -/
inductive Ensures (Q : α → Prop) : Program S α → Prop
  | ret {a : α} (h : Q a) : Ensures Q (ret a)
  | call {op : S.Op} {next : S.Answer op → Program S α} (hop : guarantees op)
      (hnext : ∀ answer, relies op answer → Ensures Q (next answer)) : Ensures Q (call op next)

variable {relies guarantees} {Q : α → Prop} {R : β → Prop} {p : Program S α}

namespace Ensures

theorem of_ret {a : α} (h : Ensures relies guarantees Q (Program.ret a)) : Q a := by
  cases h with
  | ret h => exact h

theorem step {op : S.Op} {next : S.Answer op → Program S α}
    (h : Ensures relies guarantees Q (Program.call op next)) :
    guarantees op ∧ ∀ answer, relies op answer → Ensures relies guarantees Q (next answer) := by
  cases h with
  | call hop hnext => exact ⟨hop, hnext⟩

theorem bind {f : α → Program S β} (hp : Ensures relies guarantees Q p)
    (hf : ∀ a, Q a → Ensures relies guarantees R (f a)) : Ensures relies guarantees R (p >>= f) := by
  induction hp with
  | ret h => exact hf _ h
  | call hop _ ih => exact .call hop ih

theorem of_calls {f : α → Program S β} (hp : Calls guarantees p)
    (hf : ∀ a, Ensures relies guarantees R (f a)) : Ensures relies guarantees R (p >>= f) := by
  induction hp with
  | ret a => exact hf a
  | call hop _ ih => exact .call hop fun answer _ => ih answer

end Ensures

end Ensures

/-! ### Conduct

A conduct is a specification of what a caller does: the states that it goes through, the calls that it
may make in each, and where it may stop. A program that follows one can be reasoned about by its state
alone; and as a program is finite, a state that is no place to stop is left by some call. -/

section Follows

variable {Q : Type} (moves : Q → (op : S.Op) → S.Answer op → Q → Prop)

inductive Follows (stops : Q → α → Prop) : Q → Program S α → Prop
  | ret {q : Q} {a : α} (h : stops q a) : Follows stops q (ret a)
  | call {q : Q} {op : S.Op} {next : S.Answer op → Program S α} (after : S.Answer op → Q)
      (hmoves : ∀ answer, moves q op answer (after answer))
      (hnext : ∀ answer, Follows stops (after answer) (next answer)) : Follows stops q (call op next)

variable {moves} {q : Q} {p : Program S α}

namespace Follows

theorem of_ret {stops : Q → α → Prop} {a : α} (h : Follows moves stops q (Program.ret a)) :
    stops q a := by
  cases h with
  | ret h => exact h

theorem step {stops : Q → α → Prop} {op : S.Op} {next : S.Answer op → Program S α}
    (h : Follows moves stops q (Program.call op next)) (answer : S.Answer op) :
    ∃ q', moves q op answer q' ∧ Follows moves stops q' (next answer) := by
  cases h with
  | call after hmoves hnext => exact ⟨after answer, hmoves answer, hnext answer⟩

theorem perform_bind {stops : Q → α → Prop} {op : S.Op} {f : S.Answer op → Program S α}
    (after : S.Answer op → Q) (hmoves : ∀ answer, moves q op answer (after answer))
    (hnext : ∀ answer, Follows moves stops (after answer) (f answer)) :
    Follows moves stops q (perform op >>= f) := .call after hmoves hnext

theorem stay {stops : Q → α → Prop} {q' : Q} {op : S.Op} {next : S.Answer op → Program S α}
    (hmoves : ∀ answer, moves q op answer q')
    (hnext : ∀ answer, Follows moves stops q' (next answer)) :
    Follows moves stops q (Program.call op next) :=
  .call (fun _ => q') hmoves hnext

theorem bind {stops : Q → α → Prop} {stops' : Q → β → Prop} {f : α → Program S β}
    (hp : Follows moves stops q p) (hf : ∀ q a, stops q a → Follows moves stops' q (f a)) :
    Follows moves stops' q (p >>= f) := by
  induction hp with
  | ret h => exact hf _ _ h
  | call after hmoves _ ih => exact .call after hmoves ih

theorem mono {stops stops' : Q → α → Prop} (hp : Follows moves stops q p)
    (h : ∀ q a, stops q a → stops' q a) : Follows moves stops' q p := by
  induction hp with
  | ret hstops => exact .ret (h _ _ hstops)
  | call after hmoves _ ih => exact .call after hmoves ih

theorem weaken {moves' : Q → (op : S.Op) → S.Answer op → Q → Prop} {stops : Q → α → Prop}
    (hp : Follows moves stops q p) (h : ∀ q op answer q', moves q op answer q' → moves' q op answer q') :
    Follows moves' stops q p := by
  induction hp with
  | ret hstops => exact .ret hstops
  | call after hmoves _ ih => exact .call after (fun answer => h _ _ _ _ (hmoves answer)) ih

theorem of_calls {P : S.Op → Prop} (hp : Calls P p) (hmoves : ∀ op answer, P op → moves q op answer q) :
    Follows moves (fun q' _ => q' = q) q p := by
  induction hp with
  | ret a => exact .ret rfl
  | call hop _ ih => exact .stay (fun answer => hmoves _ answer hop) ih

theorem calls {P : S.Op → Prop} {stops : Q → α → Prop}
    (h : Follows (fun (_ : Q) op _ _ => P op) stops q p) (hanswer : ∀ op, Nonempty (S.Answer op)) :
    Calls P p := by
  induction h with
  | ret => exact .ret _
  | call after hmoves _ ih => exact .call (hmoves (hanswer _).some) ih

theorem calls_bind {P : S.Op → Prop} {stops : Q → β → Prop} {f : α → Program S β} (hp : Calls P p)
    (hmoves : ∀ op answer, P op → moves q op answer q) (hf : ∀ a, Follows moves stops q (f a)) :
    Follows moves stops q (p >>= f) :=
  (of_calls hp hmoves).bind fun _ a h => h ▸ hf a

/-- What a state owes is done: if no owing state is a place to stop, and every call from one either
meets `P` or leads to one, the program run alone comes to a call that meets `P`. -/
theorem reaches {σ : Type} {does : σ → (op : S.Op) → S.Answer op → σ → Prop} {P : σ → S.Op → Prop}
    {stops : Q → α → Prop} (hp : Follows moves stops q p) (owing : Q → σ → Prop)
    (hstops : ∀ q s a, owing q s → ¬ stops q a)
    (hmoves : ∀ q s op, owing q s → P s op ∨
      ∃ answer s', does s op answer s' ∧ ∀ q', moves q op answer q' → owing q' s')
    {s : σ} (howing : owing q s) : Reaches does P p s := by
  induction hp generalizing s with
  | ret h => exact absurd h (hstops _ _ _ howing)
  | call after hafter _ ih =>
      rcases hmoves _ _ _ howing with h | ⟨answer, s', hdoes, hnext⟩
      · exact .here h
      · exact .later hdoes (ih answer (hnext _ (hafter answer)))

/-- If no call from a state that owes nothing meets `P`, and each has an answer that leads to such a state,
then the program need not come to a call that meets `P`. -/
theorem not_comes {stops : Q → α → Prop} {P : S.Op → Prop} (hp : Follows moves stops q p) (free : Q → Prop)
    (hmoves : ∀ q op, free q → (∀ answer, ∃ q', moves q op answer q') →
      ¬ P op ∧ ∃ answer, ∀ q', moves q op answer q' → free q') (hfree : free q) : ¬ Comes P p := by
  induction hp with
  | ret h => exact nofun
  | call after hafter _ ih =>
      obtain ⟨hop, answer, hnext⟩ := hmoves _ _ hfree fun answer => ⟨_, hafter answer⟩
      intro hcomes
      cases hcomes with
      | here h => exact hop h
      | later h => exact ih answer (hnext _ (hafter answer)) (h answer)

end Follows

end Follows

end Program
