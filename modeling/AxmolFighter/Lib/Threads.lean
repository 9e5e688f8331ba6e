import AxmolFighter.Lib.Program
import AxmolFighter.Lib.Run
import Mathlib.Data.List.Forall2

/-!
# Threads that run handlers on shared state

A system of threads, each with a local state and one handler at a time: an idle thread takes an input
and runs its handler, call by call, in any interleaving with the other threads. New threads appear, and
the environment may change the shared state on its own.

`Pool.Step` is the transition relation; its runs are those of `Run`. Where every handler follows a
conduct, an invariant of the shared state and the conduct states is one of the system (`guided`), and no
proof about runs looks at a program. `Turns` is the coarser system that runs every handler to its end
before anything else happens.
-/

/-- What a system of threads consists of: the operations on the shared state `σ`, the handlers of the
local states `L` for the inputs `E`, the threads that may appear, and the environment. -/
structure ThreadSystem (S : Signature) (σ L E : Type) where
  does : σ → (op : S.Op) → S.Answer op → σ → Prop
  handle : L → E → Option (Program S L)
  /-- `opens s k l s'`: the `k`-th thread appears, in local state `l`. -/
  opens : σ → Nat → L → σ → Prop
  environment : σ → σ → Prop

/-- The shared state and the threads; a thread is what is left of its handler. -/
structure Pool (S : Signature) (σ L : Type) where
  shared : σ
  threads : List (Program S L)

namespace Pool

variable {S : Signature} {σ L E : Type}

inductive Event (S : Signature) (L E : Type)
  | opens (l : L)
  | input (k : Nat) (e : E)
  | call (k : Nat) (c : S.Call)
  | environment

variable (T : ThreadSystem S σ L E)

inductive Step : Pool S σ L → Event S L E → Pool S σ L → Prop
  | opens {pool : Pool S σ L} {l : L} {s' : σ} (h : T.opens pool.shared pool.threads.length l s') :
      Step pool (.opens l) ⟨s', pool.threads ++ [.ret l]⟩
  | input {pool : Pool S σ L} {k : Nat} {l : L} {e : E} {p : Program S L}
      (hidle : pool.threads[k]? = some (.ret l)) (h : T.handle l e = some p) :
      Step pool (.input k e) ⟨pool.shared, pool.threads.set k p⟩
  | call {pool : Pool S σ L} {k : Nat} {op : S.Op} {next : S.Answer op → Program S L}
      {answer : S.Answer op} {s' : σ} (hbusy : pool.threads[k]? = some (.call op next))
      (h : T.does pool.shared op answer s') :
      Step pool (.call k ⟨op, answer⟩) ⟨s', pool.threads.set k (next answer)⟩
  | environment {pool : Pool S σ L} {s' : σ} (h : T.environment pool.shared s') :
      Step pool .environment ⟨s', pool.threads⟩

/-! ### A thread's own events -/

/-- An event of one thread: an input or a call. -/
inductive Own (S : Signature) (E : Type)
  | input (e : E)
  | call (c : S.Call)

/-- The part of an event that is thread `k`'s own. -/
def Event.own (k : Nat) : Event S L E → Option (Own S E)
  | .input k' e => if k' = k then some (.input e) else none
  | .call k' c => if k' = k then some (.call c) else none
  | _ => none

/-- The own events of thread `k`, each with the shared state before it. -/
def own (k : Nat) (trace : List (Pool S σ L × Event S L E)) : List (σ × Own S E) :=
  trace.filterMap fun e => (e.2.own k).map fun o => (e.1.shared, o)

theorem own_snoc (k : Nat) (trace : List (Pool S σ L × Event S L E)) (pool : Pool S σ L)
    (e : Event S L E) : own k (trace ++ [(pool, e)]) =
      own k trace ++ ((e.own k).map fun o => (pool.shared, o)).toList := by
  rw [own, List.filterMap_append, own]
  cases h : e.own k <;> simp [h]

/-- What a thread has done since its last input is a path of the handler of that input. -/
theorem path_of_run {T : ThreadSystem S σ L E} {start pool : Pool S σ L}
    {trace : List (Pool S σ L × Event S L E)} (hrun : Run (Step T) start trace pool) {k : Nat} {e : E}
    {before : List (σ × Own S E)} {s₀ : σ} {steps : List (σ × S.Call)}
    (hown : own k trace = before ++ (s₀, .input e) :: steps.map fun c => (c.1, .call c.2)) :
    ∃ trace₀ pool₀ l p rest, Run (Step T) start trace₀ pool₀ ∧ (pool₀, .input k e) ∈ trace ∧
      pool₀.threads[k]? = some (.ret l) ∧ T.handle l e = some p ∧ pool.threads[k]? = some rest ∧
        p.Path (steps.map Prod.snd) rest := by
  induction hrun generalizing steps with
  | start => simp [own] at hown
  | @next trace pool pool' event hrun hstep ih =>
      have hother : event.own k = none →
          ∀ p, pool.threads[k]? = some p → pool'.threads[k]? = some p := by
        intro hnone p hp
        cases hstep with
        | opens _ =>
            rw [List.getElem?_append_left (List.getElem?_eq_some_iff.1 hp).1]
            exact hp
        | @input j _ _ _ _ _ | @call j _ _ _ _ _ _ =>
            have hne : j ≠ k := fun hj => by simp [Event.own, hj] at hnone
            rw [List.getElem?_set_ne hne]
            exact hp
        | environment _ => exact hp
      rw [own_snoc] at hown
      rcases hevent : event.own k with _ | o
      · rw [hevent, Option.map_none, Option.toList_none, List.append_nil] at hown
        obtain ⟨trace₀, pool₀, l, p, rest, hrun₀, hmem, hidle, hp, hrest, hpath⟩ := ih hown
        exact ⟨trace₀, pool₀, l, p, rest, hrun₀, List.mem_append_left _ hmem, hidle, hp,
          hother hevent _ hrest, hpath⟩
      · rw [hevent, Option.map_some, Option.toList_some] at hown
        rcases List.eq_nil_or_concat steps with rfl | ⟨steps, last, rfl⟩
        · obtain ⟨-, hlast⟩ := List.append_inj' hown rfl
          obtain ⟨rfl, rfl⟩ := Prod.mk.inj (List.cons.inj hlast).1
          cases hstep with
          | opens _ | environment _ => cases hevent
          | @input j l e' p hidle hp =>
              simp only [Event.own, Option.ite_none_right_eq_some, Option.some.injEq, Own.input.injEq] at hevent
              obtain ⟨rfl, rfl⟩ := hevent
              exact ⟨trace, pool, l, p, p, hrun, List.mem_append_right _ List.mem_cons_self, hidle, hp,
                List.getElem?_set_self (List.getElem?_eq_some_iff.1 hidle).1, .nil p⟩
          | call _ _ => simp [Event.own] at hevent
        · rw [List.concat_eq_append, List.map_append, ← List.cons_append, ← List.append_assoc] at hown
          obtain ⟨hsame, hlast⟩ := List.append_inj' hown rfl
          obtain ⟨-, rfl⟩ := Prod.mk.inj (List.cons.inj hlast).1
          obtain ⟨trace₀, pool₀, l, p, rest, hrun₀, hmem, hidle, hp, hrest, hpath⟩ := ih hsame
          cases hstep with
          | opens _ | environment _ => cases hevent
          | input _ _ => simp [Event.own] at hevent
          | @call j op next answer s' hbusy hdoes =>
              simp only [Event.own, Option.ite_none_right_eq_some, Option.some.injEq, Own.call.injEq] at hevent
              obtain ⟨rfl, hcall⟩ := hevent
              obtain rfl := Option.some.inj (hbusy.symm.trans hrest)
              refine ⟨trace₀, pool₀, l, p, next answer, hrun₀, List.mem_append_left _ hmem, hidle, hp,
                List.getElem?_set_self (List.getElem?_eq_some_iff.1 hbusy).1, ?_⟩
              rw [List.concat_eq_append, List.map_append, List.map_singleton, ← hcall]
              exact hpath.snoc rfl answer

/-- The state before a call of a thread is one that the run has come to. -/
theorem does_of_own {T : ThreadSystem S σ L E} {start pool : Pool S σ L}
    {trace : List (Pool S σ L × Event S L E)} (hrun : Run (Step T) start trace pool) {k : Nat} {s : σ}
    {c : S.Call} (h : (s, .call c) ∈ own k trace) :
    ∃ trace₀ pool₀, Run (Step T) start trace₀ pool₀ ∧ trace₀ <+: trace ∧ (pool₀, .call k c) ∈ trace ∧
      pool₀.shared = s ∧ ∃ s', T.does s c.op c.answer s' := by
  obtain ⟨⟨pool₀, event⟩, hmem, hown⟩ := List.mem_filterMap.1 h
  obtain ⟨trace₀, rest, htrace⟩ := List.append_of_mem hmem
  obtain ⟨hrun₀, pool₁, hstep⟩ := hrun.split htrace
  obtain ⟨o, ho, heq⟩ := Option.map_eq_some_iff.1 hown
  obtain ⟨rfl, rfl⟩ := Prod.mk.inj heq
  cases hstep with
  | opens _ | environment _ => cases ho
  | input _ _ => simp [Event.own] at ho
  | call _ hdoes =>
      simp only [Event.own, Option.ite_none_right_eq_some, Option.some.injEq, Own.call.injEq] at ho
      obtain ⟨rfl, rfl⟩ := ho
      exact ⟨trace₀, pool₀, hrun₀, ⟨_, htrace.symm⟩, hmem, rfl, _, hdoes⟩

theorem Step.length_le {T : ThreadSystem S σ L E} {pool pool' : Pool S σ L} {e : Event S L E}
    (h : Step T pool e pool') : pool.threads.length ≤ pool'.threads.length := by
  cases h with
  | opens _ => simp
  | input | call => simp
  | environment _ => exact Nat.le_refl _

/-! ### Conduct of the threads -/

/-- A conduct that every handler follows: what an idle thread's state says about its local state, the
state of a new thread, and the state in which an input starts the handler. -/
structure Guide (Q : Type) where
  moves : Q → (op : S.Op) → S.Answer op → Q → Prop
  stops : Q → L → Prop
  fresh : Nat → L → Q
  begins : Q → E → Q → Prop
  fresh_stops : ∀ s k l s', T.opens s k l s' → stops (fresh k l) l
  follows : ∀ q l e p, stops q l → T.handle l e = some p →
    ∃ q', begins q e q' ∧ p.Follows moves stops q'

variable {T} {Q : Type}

/-- The steps of the system in which every thread is just its conduct state. -/
inductive Guide.Step (G : Guide T Q) : σ × List Q → Event S L E → σ × List Q → Prop
  | opens {s s' : σ} {qs : List Q} {l : L} (h : T.opens s qs.length l s') :
      Step G (s, qs) (.opens l) (s', qs ++ [G.fresh qs.length l])
  | input {s : σ} {qs : List Q} {k : Nat} {q q' : Q} {l : L} {e : E} (hk : qs[k]? = some q)
      (hstops : G.stops q l) (hhandle : (T.handle l e).isSome) (h : G.begins q e q') :
      Step G (s, qs) (.input k e) (s, qs.set k q')
  | call {s s' : σ} {qs : List Q} {k : Nat} {q q' : Q} {op : S.Op} {answer : S.Answer op}
      (hk : qs[k]? = some q) (hmoves : G.moves q op answer q') (h : T.does s op answer s') :
      Step G (s, qs) (.call k ⟨op, answer⟩) (s', qs.set k q')
  | environment {s s' : σ} {qs : List Q} (h : T.environment s s') :
      Step G (s, qs) .environment (s', qs)

/-- Every thread follows the conduct from its state. -/
def Guide.Tracks (G : Guide T Q) (qs : List Q) (threads : List (Program S L)) : Prop :=
  List.Forall₂ (fun q p => p.Follows G.moves G.stops q) qs threads

namespace Guide

variable {G : Guide T Q} {qs : List Q} {threads : List (Program S L)}

theorem Tracks.get (h : G.Tracks qs threads) {k : Nat} {p : Program S L} (hk : threads[k]? = some p) :
    ∃ q, qs[k]? = some q ∧ p.Follows G.moves G.stops q := by
  induction h generalizing k with
  | nil => cases hk
  | cons hp _ ih =>
      cases k with
      | zero => exact ⟨_, rfl, Option.some.inj hk ▸ hp⟩
      | succ k => exact ih hk

theorem Tracks.get' (h : G.Tracks qs threads) {k : Nat} {q : Q} (hk : qs[k]? = some q) :
    ∃ p, threads[k]? = some p ∧ p.Follows G.moves G.stops q := by
  induction h generalizing k with
  | nil => cases hk
  | cons hp _ ih =>
      cases k with
      | zero => exact ⟨_, rfl, Option.some.inj hk ▸ hp⟩
      | succ k => exact ih hk

theorem Tracks.set (h : G.Tracks qs threads) (k : Nat) {q : Q} {p : Program S L}
    (hp : p.Follows G.moves G.stops q) : G.Tracks (qs.set k q) (threads.set k p) := by
  induction h generalizing k with
  | nil => exact .nil
  | cons hhead htail ih =>
      cases k with
      | zero => exact .cons hp htail
      | succ k => exact .cons hhead (ih k)

theorem get_set {k : Nat} {q : Q} (hk : qs[k]? = some q) (q' : Q) (j : Nat) :
    (qs.set k q')[j]? = if j = k then some q' else qs[j]? := by
  by_cases hjk : j = k
  · rw [if_pos hjk, hjk]
    exact List.getElem?_set_self (List.getElem?_eq_some_iff.1 hk).1
  · rw [if_neg hjk]
    exact List.getElem?_set_ne (Ne.symm hjk)

theorem Step.length_le {s s' : σ} {qs qs' : List Q} {e : Event S L E}
    (h : G.Step (s, qs) e (s', qs')) : qs.length ≤ qs'.length := by
  cases h with
  | opens _ => simp
  | input | call => simp
  | environment _ => exact Nat.le_refl _

theorem Tracks.length_eq (h : G.Tracks qs threads) : qs.length = threads.length :=
  List.Forall₂.length_eq h

/-- The system of conduct states simulates the system. -/
theorem simulates {pool pool' : Pool S σ L} {e : Event S L E} (htracks : G.Tracks qs pool.threads)
    (hstep : Pool.Step T pool e pool') :
    ∃ qs', G.Step (pool.shared, qs) e (pool'.shared, qs') ∧ G.Tracks qs' pool'.threads := by
  cases hstep with
  | opens h =>
      have hnew : (Program.ret _).Follows G.moves G.stops _ := .ret (G.fresh_stops _ _ _ _ h)
      rw [← htracks.length_eq] at h hnew
      exact ⟨_, .opens h, List.rel_append htracks (.cons hnew .nil)⟩
  | input hidle h =>
      obtain ⟨q, hq, hstops⟩ := htracks.get hidle
      obtain ⟨q', hbegins, hp⟩ := G.follows _ _ _ _ hstops.of_ret h
      exact ⟨_, .input hq hstops.of_ret (Option.isSome_iff_exists.2 ⟨_, h⟩) hbegins, htracks.set _ hp⟩
  | call hbusy h =>
      obtain ⟨q, hq, hp⟩ := htracks.get hbusy
      obtain ⟨q', hmoves, hnext⟩ := hp.step _
      exact ⟨_, .call hq hmoves h, htracks.set _ hnext⟩
  | environment h => exact ⟨_, .environment h, htracks⟩

/-- An invariant of the trace, the shared state and the conduct states, from threads in states `qs₀`.
`ok` is a condition that every step of the run meets. -/
theorem invariant_of (G : Guide T Q) {start pool : Pool S σ L} {qs₀ : List Q}
    (hstart : G.Tracks qs₀ start.threads)
    {trace : List (Pool S σ L × Event S L E)} (hrun : Run (Pool.Step T) start trace pool)
    (ok : Pool S σ L → Event S L E → Prop) (hok : ∀ e ∈ trace, ok e.1 e.2)
    (inv : List (Pool S σ L × Event S L E) → σ → List Q → Prop) (hinit : inv [] start.shared qs₀)
    (hkeep : ∀ trace pool qs e s' qs', G.Tracks qs pool.threads → inv trace pool.shared qs →
      ok pool e → G.Step (pool.shared, qs) e (s', qs') → inv (trace ++ [(pool, e)]) s' qs') :
    ∃ qs, G.Tracks qs pool.threads ∧ inv trace pool.shared qs := by
  induction hrun with
  | start => exact ⟨qs₀, hstart, hinit⟩
  | next _ hstep ih =>
      obtain ⟨qs, htracks, hinv⟩ := ih fun e he => hok e (List.mem_append_left _ he)
      obtain ⟨qs', habstract, htracks'⟩ := simulates htracks hstep
      exact ⟨qs', htracks', hkeep _ _ _ _ _ _ htracks hinv
        (hok _ (List.mem_append_right _ List.mem_cons_self)) habstract⟩

/-- The same for a system that starts without threads. -/
theorem invariant (G : Guide T Q) {start pool : Pool S σ L} (hstart : start.threads = [])
    {trace : List (Pool S σ L × Event S L E)} (hrun : Run (Pool.Step T) start trace pool)
    (ok : Pool S σ L → Event S L E → Prop) (hok : ∀ e ∈ trace, ok e.1 e.2)
    (inv : List (Pool S σ L × Event S L E) → σ → List Q → Prop) (hinit : inv [] start.shared [])
    (hkeep : ∀ trace pool qs e s' qs', G.Tracks qs pool.threads → inv trace pool.shared qs →
      ok pool e → G.Step (pool.shared, qs) e (s', qs') → inv (trace ++ [(pool, e)]) s' qs') :
    ∃ qs, G.Tracks qs pool.threads ∧ inv trace pool.shared qs := by
  refine G.invariant_of ?_ hrun ok hok inv hinit hkeep
  rw [hstart]
  exact .nil

end Guide

/-! ### One handler at a time -/

/-- The system in which a handler runs to its end before anything else happens. -/
inductive Turn (T : ThreadSystem S σ L E) : σ × List L → Event S L E → σ × List L → Prop
  | opens {s s' : σ} {ls : List L} {l : L} (h : T.opens s ls.length l s') :
      Turn T (s, ls) (.opens l) (s', ls ++ [l])
  | handle {s s' : σ} {ls : List L} {k : Nat} {l l' : L} {e : E} {p : Program S L}
      (hk : ls[k]? = some l) (h : T.handle l e = some p) (hruns : p.Runs T.does s l' s') :
      Turn T (s, ls) (.input k e) (s', ls.set k l')
  | environment {s s' : σ} {ls : List L} (h : T.environment s s') :
      Turn T (s, ls) .environment (s', ls)

/-- The pool in which all threads are idle. -/
def idle (s : σ) (ls : List L) : Pool S σ L := ⟨s, ls.map .ret⟩

/-- Only the thread that acts is inside a handler. -/
def Alone (pool : Pool S σ L) : Event S L E → Prop
  | .call k _ => ∀ j, j ≠ k → ∀ p, pool.threads[j]? = some p → ∃ l, p = .ret l
  | _ => True

/-- A handler that runs alone is a run of the system. -/
theorem run_alone {s s' : σ} {threads : List (Program S L)} {k : Nat} {p : Program S L} {l' : L}
    (hk : threads[k]? = some p) (hruns : p.Runs T.does s l' s')
    (hidle : ∀ j, j ≠ k → ∀ p, threads[j]? = some p → ∃ l, p = .ret l) :
    ∃ trace, Run (Pool.Step T) ⟨s, threads⟩ trace ⟨s', threads.set k (.ret l')⟩ ∧
      ∀ e ∈ trace, Alone e.1 e.2 := by
  induction hruns generalizing threads with
  | ret l' s' =>
      refine ⟨[], ?_, nofun⟩
      obtain ⟨hlt, hget⟩ := List.getElem?_eq_some_iff.1 hk
      rw [← hget, List.set_getElem_self]
      exact .start
  | @call op next s s₁ s' answer l' hdoes _ ih =>
      have hlt : k < threads.length := (List.getElem?_eq_some_iff.1 hk).1
      have hidle' : ∀ j, j ≠ k → ∀ p, (threads.set k (next answer))[j]? = some p → ∃ l, p = .ret l := by
        intro j hj p hp
        rw [List.getElem?_set_ne (Ne.symm hj)] at hp
        exact hidle j hj p hp
      obtain ⟨trace, hrun, halone⟩ := ih (List.getElem?_set_self hlt) hidle'
      rw [List.set_set] at hrun
      refine ⟨_, hrun.cons (.call hk hdoes), fun e he => ?_⟩
      rcases List.mem_cons.1 he with rfl | he
      · exact hidle
      · exact halone e he

/-- Handlers that are executed one at a time are one of the interleavings. -/
theorem Turn.run {s s' : σ} {ls ls' : List L} {e : Event S L E} (h : Turn T (s, ls) e (s', ls')) :
    ∃ trace, Run (Pool.Step T) (idle s ls) trace (idle s' ls') ∧ ∀ e ∈ trace, Alone e.1 e.2 := by
  cases h with
  | opens h =>
      rw [← List.length_map (f := Program.ret (S := S))] at h
      have hstep : Pool.Step T (idle s ls) _ _ := .opens h
      rw [idle, idle, List.map_append]
      refine ⟨_, Run.start.next hstep, fun e he => ?_⟩
      rw [List.mem_singleton.1 he]
      trivial
  | @handle _ _ _ k l l' e p hk h hruns =>
      have hlt := (List.getElem?_eq_some_iff.1 hk).1
      have hidle : (idle s ls : Pool S σ L).threads[k]? = some (.ret l) := by
        rw [idle, List.getElem?_map, hk]
        rfl
      have hstep := Pool.Step.input (T := T) hidle h
      have hbusy : ((idle s ls).threads.set k p)[k]? = some p :=
        List.getElem?_set_self (by rwa [idle, List.length_map])
      have hothers : ∀ j, j ≠ k → ∀ p', ((idle s ls).threads.set k p)[j]? = some p' →
          ∃ l, p' = .ret l := by
        intro j hj p' hp'
        rw [List.getElem?_set_ne (Ne.symm hj), idle, List.getElem?_map, Option.map_eq_some_iff] at hp'
        obtain ⟨l, -, rfl⟩ := hp'
        exact ⟨l, rfl⟩
      obtain ⟨trace, hrun, halone⟩ := run_alone hbusy hruns hothers
      rw [List.set_set] at hrun
      rw [idle, idle, List.map_set]
      refine ⟨_, hrun.cons hstep, fun e he => ?_⟩
      rcases List.mem_cons.1 he with rfl | he
      · trivial
      · exact halone e he
  | environment h =>
      refine ⟨_, Run.start.next (.environment h), fun e he => ?_⟩
      rw [List.mem_singleton.1 he]
      trivial

/-- A run of turns is a run of the system in which nobody acts while another is inside a handler. -/
theorem Turn.runs {s₀ s : σ × List L} {turns : List ((σ × List L) × Event S L E)}
    (h : Run (Turn T) s₀ turns s) : ∃ trace, Run (Pool.Step T) (idle s₀.1 s₀.2) trace (idle s.1 s.2) ∧
      ∀ e ∈ trace, Alone e.1 e.2 := by
  induction h with
  | start => exact ⟨[], .start, nofun⟩
  | next _ hturn ih =>
      obtain ⟨trace, hrun, halone⟩ := ih
      obtain ⟨trace', hrun', halone'⟩ := Turn.run hturn
      refine ⟨trace ++ trace', hrun.append hrun', fun e he => ?_⟩
      rcases List.mem_append.1 he with he | he
      · exact halone e he
      · exact halone' e he

/-! ### Turns that compute -/

/-- Operations and new threads that compute. -/
structure Executor (T : ThreadSystem S σ L E) where
  exec : σ → (op : S.Op) → S.Answer op × σ
  opened : σ → Nat → L → Option σ
  does_exec : ∀ s op, T.does s op (exec s op).1 (exec s op).2
  opens_opened : ∀ s k l s', opened s k l = some s' → T.opens s k l s'

def Executor.turn (X : Executor T) (s : σ × List L) : Event S L E → Option (σ × List L)
  | .opens l => (X.opened s.1 s.2.length l).map fun s' => (s', s.2 ++ [l])
  | .input k e => do
      let l ← s.2[k]?
      let p ← T.handle l e
      some ((p.eval X.exec s.1).2, s.2.set k (p.eval X.exec s.1).1)
  | _ => none

theorem Executor.turn_sound (X : Executor T) (s : σ × List L) (e : Event S L E) (s' : σ × List L)
    (h : X.turn s e = some s') : Turn T s e s' := by
  obtain ⟨s, ls⟩ := s
  cases e with
  | opens l =>
      obtain ⟨s₁, hopened, rfl⟩ := Option.map_eq_some_iff.1 h
      exact .opens (X.opens_opened _ _ _ _ hopened)
  | input k e =>
      simp only [turn, Option.bind_eq_bind, Option.bind_eq_some_iff, Option.some.injEq] at h
      obtain ⟨l, hk, p, hp, rfl⟩ := h
      exact .handle hk hp (Program.runs_eval X.does_exec p s)
  | call | environment => cases h

/-- A thread runs what is left of its handler while nobody else acts. -/
theorem Executor.finishes (X : Executor T) {start : Pool S σ L} {trace : List (Pool S σ L × Event S L E)}
    (p : Program S L) {s : σ} {threads : List (Program S L)} (hrun : Run (Step T) start trace ⟨s, threads⟩)
    {k : Nat} (hk : threads[k]? = some p) :
    ∃ trace', Run (Step T) start trace' ⟨(p.eval X.exec s).2, threads.set k (.ret (p.eval X.exec s).1)⟩ ∧
      trace <+: trace' ∧ own k trace' = own k trace ++ (p.record X.exec s).map fun c => (c.1, .call c.2) := by
  induction p generalizing s threads trace with
  | ret l =>
      have hsame : threads.set k (.ret l) = threads := by
        obtain ⟨hlt, hget⟩ := List.getElem?_eq_some_iff.1 hk
        rw [← hget, List.set_getElem_self]
      refine ⟨trace, ?_, List.prefix_refl _, (List.append_nil _).symm⟩
      change Run (Step T) start trace ⟨s, threads.set k (.ret l)⟩
      rw [hsame]
      exact hrun
  | call op next ih =>
      have hlt := (List.getElem?_eq_some_iff.1 hk).1
      have hstep : Step T ⟨s, threads⟩ _ _ := .call hk (X.does_exec s op)
      obtain ⟨trace', hrun', hprefix, hown⟩ := ih _ (hrun.next hstep) (List.getElem?_set_self hlt)
      rw [List.set_set] at hrun'
      rw [own_snoc, Event.own, if_pos rfl] at hown
      refine ⟨trace', hrun', (List.prefix_append _ _).trans hprefix, ?_⟩
      rw [hown, Program.record, List.map_cons, List.append_assoc]
      rfl

/-- An idle thread gets an input and handles it while nobody else acts. -/
theorem Executor.handles (X : Executor T) {start : Pool S σ L} {trace : List (Pool S σ L × Event S L E)}
    {s : σ} {threads : List (Program S L)} (hrun : Run (Step T) start trace ⟨s, threads⟩) {k : Nat} {l : L}
    {e : E} {p : Program S L} (hidle : threads[k]? = some (.ret l)) (hp : T.handle l e = some p) :
    ∃ trace', Run (Step T) start trace' ⟨(p.eval X.exec s).2, threads.set k (.ret (p.eval X.exec s).1)⟩ ∧
      trace <+: trace' ∧ own k trace' = own k trace ++
        (s, .input e) :: (p.record X.exec s).map (fun c => (c.1, .call c.2)) := by
  have hlt := (List.getElem?_eq_some_iff.1 hidle).1
  have hstep : Step T ⟨s, threads⟩ _ _ := .input hidle hp
  obtain ⟨trace', hrun', hprefix, hown⟩ := X.finishes p (hrun.next hstep) (List.getElem?_set_self hlt)
  rw [List.set_set] at hrun'
  rw [own_snoc, Event.own, if_pos rfl, List.append_assoc] at hown
  exact ⟨trace', hrun', (List.prefix_append _ _).trans hprefix, hown⟩

/-! ### Schedules

An interleaving that computes is given by who acts next: a new thread, an idle thread that gets an input,
or a thread that makes the call it has come to. -/

inductive Slot (L E : Type)
  | opens (l : L)
  | input (k : Nat) (e : E)
  | call (k : Nat)

def Executor.advance (X : Executor T) (pool : Pool S σ L) :
    Slot L E → Option (Event S L E × Pool S σ L)
  | .opens l => (X.opened pool.shared pool.threads.length l).map fun s' =>
      (.opens l, ⟨s', pool.threads ++ [.ret l]⟩)
  | .input k e =>
      match pool.threads[k]? with
      | some (.ret l) => (T.handle l e).map fun p => (.input k e, ⟨pool.shared, pool.threads.set k p⟩)
      | _ => none
  | .call k =>
      match pool.threads[k]? with
      | some (.call op next) => some (.call k ⟨op, (X.exec pool.shared op).1⟩,
          ⟨(X.exec pool.shared op).2, pool.threads.set k (next (X.exec pool.shared op).1)⟩)
      | _ => none

theorem Executor.advance_sound (X : Executor T) {pool pool' : Pool S σ L} {slot : Slot L E}
    {e : Event S L E} (h : X.advance pool slot = some (e, pool')) : Step T pool e pool' := by
  cases slot with
  | opens l =>
      simp only [advance, Option.map_eq_some_iff, Prod.mk.injEq] at h
      obtain ⟨s', hopened, rfl, rfl⟩ := h
      exact .opens (X.opens_opened _ _ _ _ hopened)
  | input k i =>
      rw [advance] at h
      split at h
      · rename_i l hidle
        simp only [Option.map_eq_some_iff, Prod.mk.injEq] at h
        obtain ⟨p, hp, rfl, rfl⟩ := h
        exact .input hidle hp
      · cases h
  | call k =>
      rw [advance] at h
      split at h
      · rename_i op next hbusy
        cases h
        exact .call hbusy (X.does_exec _ _)
      · cases h

def Executor.schedule (X : Executor T) : Pool S σ L → List (Slot L E) → Option (Pool S σ L)
  | pool, [] => some pool
  | pool, slot :: slots => do
      let (_, next) ← X.advance pool slot
      X.schedule next slots

theorem Executor.schedule_sound (X : Executor T) {pool pool' : Pool S σ L} {slots : List (Slot L E)}
    (h : X.schedule pool slots = some pool') : ∃ trace, Run (Step T) pool trace pool' := by
  induction slots generalizing pool with
  | nil =>
      cases h
      exact ⟨[], .start⟩
  | cons slot slots ih =>
      simp only [schedule, Option.bind_eq_bind, Option.bind_eq_some_iff] at h
      obtain ⟨⟨e, next⟩, hadvance, hrest⟩ := h
      obtain ⟨trace, hrun⟩ := ih hrest
      exact ⟨_, hrun.cons (X.advance_sound hadvance)⟩

/-- The schedule with its record. -/
def Executor.record (X : Executor T) :
    Pool S σ L → List (Slot L E) → Option (List (Pool S σ L × Event S L E) × Pool S σ L)
  | pool, [] => some ([], pool)
  | pool, slot :: slots => do
      let (e, next) ← X.advance pool slot
      let (trace, last) ← X.record next slots
      some ((pool, e) :: trace, last)

theorem Executor.record_sound (X : Executor T) {pool pool' : Pool S σ L} {slots : List (Slot L E)}
    {trace : List (Pool S σ L × Event S L E)} (h : X.record pool slots = some (trace, pool')) :
    Run (Step T) pool trace pool' := by
  induction slots generalizing pool trace with
  | nil =>
      cases h
      exact .start
  | cons slot slots ih =>
      simp only [record, Option.bind_eq_bind, Option.bind_eq_some_iff] at h
      obtain ⟨⟨e, next⟩, hadvance, ⟨rest, last⟩, hrest, heq⟩ := h
      cases heq
      exact (ih hrest).cons (X.advance_sound hadvance)

end Pool
