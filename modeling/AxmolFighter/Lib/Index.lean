import Mathlib.Data.Finset.Basic

/-!
# An index that is kept in two halves

Groups of keys, and for every key the group that it is in. Each half has a lock of its own, so that a
writer changes one half at a time and other writers come in between. What a writer in flight is still to
change is its debt; the halves agree up to the debts (`Settles`), and agree when there are none.
-/

structure Index (K I : Type) where
  entry : K → Option I
  members : I → Finset K

namespace Index

variable {K I : Type}

/-- Both halves say the same. -/
def Agrees (x : Index K I) : Prop := ∀ k i, k ∈ x.members i ↔ x.entry k = some i

/-- What is changed under one lock. -/
inductive Change (K I : Type)
  | store (k : K) (i : I)
  | take (k : K)
  | add (i : I) (k : K)
  | drop (i : I) (k : K)
  | empty (i : I)
deriving DecidableEq

section After

variable [DecidableEq K] [DecidableEq I]

def after (x : Index K I) : Change K I → Index K I
  | .store k i => { x with entry := Function.update x.entry k (some i) }
  | .take k => { x with entry := Function.update x.entry k none }
  | .add i k => { x with members := Function.update x.members i (insert k (x.members i)) }
  | .drop i k => { x with members := Function.update x.members i ((x.members i).erase k) }
  | .empty i => { x with members := Function.update x.members i ∅ }

variable {x : Index K I} {k k' : K} {i i' : I}

theorem entry_store : (x.after (.store k i)).entry k' = if k' = k then some i else x.entry k' := by
  simp only [after, Function.update_apply]

theorem entry_take : (x.after (.take k)).entry k' = if k' = k then none else x.entry k' := by
  simp only [after, Function.update_apply]

theorem mem_add : k' ∈ (x.after (.add i k)).members i' ↔ (i' = i ∧ k' = k) ∨ k' ∈ x.members i' := by
  simp only [after, Function.update_apply]
  split_ifs with h
  · subst h
    simp
  · simp [h]

theorem mem_drop : k' ∈ (x.after (.drop i k)).members i' ↔ ¬ (i' = i ∧ k' = k) ∧ k' ∈ x.members i' := by
  simp only [after, Function.update_apply]
  split_ifs with h
  · subst h
    simp
  · simp [h]

theorem mem_empty : k' ∈ (x.after (.empty i)).members i' ↔ i' ≠ i ∧ k' ∈ x.members i' := by
  simp only [after, Function.update_apply]
  split_ifs with h
  · simp [h]
  · simp [h]

end After

/-! ### Writers -/

/-- What a writer is called for: to put a key into a group in place of its old one, to take it out of its
group, or to take away a group. -/
inductive Task (K I : Type)
  | bind (k : K) (i : I)
  | clear (k : K)
  | offline (i : I)
deriving DecidableEq

/-- The key that the writer is about. -/
def Task.key : Task K I → Option K
  | bind k _ | clear k => some k
  | offline _ => none

inductive Stage (K I : Type)
  | start
  | dropping (i : I)
  | cleared
  | adding
  | added
  | sweeping (ks : List K)

/-- The changes that a writer makes. A take tells it the group of the entry, and it gets the list of the
keys in the group that it empties. -/
inductive Moves : Task K I → Stage K I → Change K I → Option I → List K → Stage K I → Prop
  | clears {task : Task K I} {k : K} {ks : List K} (h : task.key = some k) :
      Moves task .start (.take k) none ks .cleared
  | takes {task : Task K I} {k : K} {i : I} {ks : List K} (h : task.key = some k) :
      Moves task .start (.take k) (some i) ks (.dropping i)
  | drops {task : Task K I} {k : K} {i : I} {o : Option I} {ks : List K} (h : task.key = some k) :
      Moves task (.dropping i) (.drop i k) o ks .cleared
  | stores {k : K} {i : I} {o : Option I} {ks : List K} :
      Moves (.bind k i) .cleared (.store k i) o ks .adding
  | adds {k : K} {i : I} {o : Option I} {ks : List K} :
      Moves (.bind k i) .adding (.add i k) o ks .added
  | empties {i : I} {o : Option I} {ks : List K} :
      Moves (.offline i) .start (.empty i) o ks (.sweeping ks)
  | sweeps {i : I} {k : K} {rest : List K} {o : Option I} {ks : List K} :
      Moves (.offline i) (.sweeping (k :: rest)) (.take k) o ks (.sweeping rest)

/-- What the halves differ by while somebody is still to make a change. -/
def Owes : Task K I → Stage K I → Change K I → Prop
  | task, .dropping i, .drop i' k => i' = i ∧ task.key = some k
  | .bind k i, .adding, c => c = .add i k
  | _, .sweeping ks, .take k => k ∈ ks
  | _, _, _ => False

@[simp] theorem not_owes_start (task : Task K I) (c : Change K I) : ¬ Owes task .start c := by
  cases task <;> cases c <;> simp [Owes]

@[simp] theorem not_owes_cleared (task : Task K I) (c : Change K I) : ¬ Owes task .cleared c := by
  cases task <;> cases c <;> simp [Owes]

@[simp] theorem not_owes_added (task : Task K I) (c : Change K I) : ¬ Owes task .added c := by
  cases task <;> cases c <;> simp [Owes]

/-- A debt that is not what the writer has just changed is still its debt. -/
theorem Moves.owes {task : Task K I} {stage stage' : Stage K I} {c d : Change K I} {o : Option I}
    {ks : List K} (h : Moves task stage c o ks stage') (hd : Owes task stage d) :
    Owes task stage' d ∨ d = c := by
  cases h with
  | clears | takes | empties => exact absurd hd (not_owes_start _ _)
  | stores => exact absurd hd (not_owes_cleared _ _)
  | drops hkey =>
      cases d with
      | drop i' k' =>
          simp only [Owes] at hd
          obtain ⟨rfl, hkey'⟩ := hd
          rw [Option.some.inj (hkey.symm.trans hkey')]
          exact Or.inr rfl
      | _ => cases task <;> simp [Owes] at hd
  | adds => exact Or.inr hd
  | sweeps =>
      cases d with
      | take k' =>
          rcases List.mem_cons.1 hd with rfl | hd
          · exact Or.inr rfl
          · exact Or.inl hd
      | _ => simp [Owes] at hd

/-- An addition or a removal that comes next has been owed. -/
theorem Moves.owed {task : Task K I} {stage stage' : Stage K I} {i : I} {k : K} {o : Option I}
    {ks : List K} :
    (Moves task stage (.drop i k) o ks stage' → Owes task stage (.drop i k)) ∧
      (Moves task stage (.add i k) o ks stage' → Owes task stage (.add i k)) := by
  constructor
  · intro h
    cases h with
    | drops hkey => exact ⟨rfl, hkey⟩
  · intro h
    cases h with
    | adds => rfl

/-! ### Agreement up to the debts -/

/-- The halves agree up to what is owed. -/
structure Settles (x : Index K I) (owed : Change K I → Prop) : Prop where
  entry_of_mem : ∀ k i, k ∈ x.members i → x.entry k = some i ∨ owed (.drop i k)
  mem_of_entry : ∀ k i, x.entry k = some i → k ∈ x.members i ∨ owed (.add i k) ∨ owed (.take k)

theorem Settles.agrees {x : Index K I} {owed : Change K I → Prop} (h : x.Settles owed)
    (hfree : ∀ c, ¬ owed c) : x.Agrees := by
  intro k i
  constructor
  · intro hmem
    exact (h.entry_of_mem k i hmem).resolve_right (hfree _)
  · intro hentry
    rcases h.mem_of_entry k i hentry with hmem | howed | howed
    · exact hmem
    · exact absurd howed (hfree _)
    · exact absurd howed (hfree _)

/-- The change comes at a time at which it does not part the halves, others' debts included. -/
def Timely (x : Index K I) (owed : Change K I → Prop) : Task K I → Change K I → Prop
  | _, .store k i => ∀ j, x.entry k = some j → j = i ∨ k ∉ x.members j ∨ owed (.drop j k)
  | _, .add i k => x.entry k = some i ∨ owed (.drop i k)
  | _, .drop i k => x.entry k ≠ some i ∨ k ∉ x.members i ∨ owed (.add i k)
  | .offline i, .take k => ∀ j, x.entry k = some j → j = i ∧ (k ∉ x.members j ∨ owed (.drop j k))
  | _, _ => True

theorem Timely.mono {x : Index K I} {owed owed' : Change K I → Prop} {task : Task K I} {c : Change K I}
    (h : x.Timely owed task c) (hdrop : ∀ i k, owed (.drop i k) → owed' (.drop i k))
    (hadd : ∀ i k, owed (.add i k) → owed' (.add i k)) : x.Timely owed' task c := by
  cases c with
  | store k i =>
      intro j hj
      exact (h j hj).imp_right fun h => h.imp_right (hdrop _ _)
  | add i k => exact Or.imp_right (hdrop _ _) h
  | drop i k => exact Or.imp_right (Or.imp_right (hadd _ _)) h
  | take k =>
      cases task with
      | offline i =>
          intro j hj
          exact ⟨(h j hj).1, (h j hj).2.imp_right (hdrop _ _)⟩
      | bind | clear => trivial
  | empty i => trivial

/-- The key is taken out of the group, in either half. -/
def Leaves (x x' : Index K I) (k : K) (i : I) : Prop :=
  (x.entry k = some i ∧ x'.entry k ≠ some i) ∨ (k ∈ x.members i ∧ k ∉ x'.members i)

theorem not_leaves_self (x : Index K I) (k : K) (i : I) : ¬ x.Leaves x k i := by
  rintro (⟨h, hnot⟩ | ⟨h, hnot⟩)
  · exact hnot h
  · exact hnot h

/-- A key that leaves a group does so in the hands of a writer for the key or for the group. -/
theorem Moves.leaves [DecidableEq K] [DecidableEq I] {x : Index K I} {owed : Change K I → Prop}
    {task : Task K I} {stage stage' : Stage K I} {c : Change K I} {o : Option I} {ks : List K}
    (h : Moves task stage c o ks stage') (htimely : x.Timely owed task c) {k : K} {i : I}
    (hleaves : x.Leaves (x.after c) k i) : task.key = some k ∨ task = .offline i := by
  cases h with
  | @clears _ k' _ hkey | @takes _ k' _ _ hkey =>
      rcases hleaves with ⟨hentry, hgone⟩ | ⟨hmem, hgone⟩
      · rw [entry_take] at hgone
        split_ifs at hgone with heq
        · exact Or.inl (heq ▸ hkey)
        · exact absurd hentry hgone
      · exact absurd hmem hgone
  | @drops _ k' _ _ _ hkey =>
      rcases hleaves with ⟨hentry, hgone⟩ | ⟨hmem, hgone⟩
      · exact absurd hentry hgone
      · rw [mem_drop] at hgone
        have heq : k = k' := by
          by_contra hne
          exact hgone ⟨fun h => hne h.2, hmem⟩
        exact Or.inl (heq ▸ hkey)
  | @stores k' _ _ _ =>
      rcases hleaves with ⟨hentry, hgone⟩ | ⟨hmem, hgone⟩
      · rw [entry_store] at hgone
        split_ifs at hgone with heq
        · exact Or.inl (congrArg some heq.symm)
        · exact absurd hentry hgone
      · exact absurd hmem hgone
  | adds =>
      rcases hleaves with ⟨hentry, hgone⟩ | ⟨hmem, hgone⟩
      · exact absurd hentry hgone
      · exact absurd (mem_add.2 (Or.inr hmem)) hgone
  | empties =>
      rcases hleaves with ⟨hentry, hgone⟩ | ⟨hmem, hgone⟩
      · exact absurd hentry hgone
      · rw [mem_empty] at hgone
        refine Or.inr (congrArg _ ?_)
        by_contra hne
        exact hgone ⟨fun h => hne h.symm, hmem⟩
  | @sweeps j k' _ _ _ =>
      rcases hleaves with ⟨hentry, hgone⟩ | ⟨hmem, hgone⟩
      · rw [entry_take] at hgone
        split_ifs at hgone with heq
        · subst heq
          exact Or.inr (congrArg _ (htimely i hentry).1.symm)
        · exact absurd hentry hgone
      · exact absurd hmem hgone

/-- A timely change keeps the agreement, if the writer is told the truth and takes over what it then owes. -/
theorem Settles.step [DecidableEq K] [DecidableEq I] {x : Index K I} {owed owed' : Change K I → Prop}
    (h : x.Settles owed) {task : Task K I} {stage stage' : Stage K I} {c : Change K I} {o : Option I}
    {ks : List K} (hmoves : Moves task stage c o ks stage') (htimely : x.Timely owed task c)
    (hfound : ∀ k, c = .take k → o = x.entry k) (hlisted : ∀ i, c = .empty i → ∀ k ∈ x.members i, k ∈ ks)
    (howed : ∀ d, owed d → d = c ∨ owed' d) (hown : ∀ d, Owes task stage' d → owed' d) :
    (x.after c).Settles owed' := by
  have hkept : ∀ d, d ≠ c → owed d → owed' d := fun d hne hd => (howed d hd).resolve_left hne
  have htaken : ∀ k, c = .take k → (∀ j, x.entry k = some j → k ∉ x.members j ∨ owed' (.drop j k)) →
      (x.after c).Settles owed' := by
    rintro k rfl hfree
    constructor
    · intro k' i' hmem
      rw [entry_take]
      split_ifs with heq
      · subst heq
        rcases h.entry_of_mem _ _ hmem with hentry | hd
        · exact Or.inr ((hfree _ hentry).resolve_left fun hnot => hnot hmem)
        · exact Or.inr (hkept _ nofun hd)
      · exact (h.entry_of_mem _ _ hmem).imp_right (hkept _ nofun)
    · intro k' i' hentry
      rw [entry_take] at hentry
      split_ifs at hentry with heq
      refine (h.mem_of_entry _ _ hentry).imp_right fun hd => hd.imp (hkept _ nofun) (hkept _ ?_)
      exact fun hc => heq (Change.take.inj hc)
  cases hmoves with
  | clears hkey =>
      refine htaken _ rfl fun j hj => ?_
      rw [← hfound _ rfl] at hj
      cases hj
  | takes hkey =>
      refine htaken _ rfl fun j hj => Or.inr (hown _ ?_)
      rw [← hfound _ rfl] at hj
      exact ⟨(Option.some.inj hj).symm, hkey⟩
  | sweeps =>
      refine htaken _ rfl fun j hj => ?_
      exact (htimely j hj).2.imp_right (hkept _ nofun)
  | @drops _ k i _ _ hkey =>
      constructor
      · intro k' i' hmem
        rw [mem_drop] at hmem
        refine (h.entry_of_mem _ _ hmem.2).imp_right (hkept _ fun hc => hmem.1 ?_)
        exact Change.drop.inj hc
      · intro k' i' hentry
        rw [mem_drop]
        rcases h.mem_of_entry k' i' hentry with hmem | hd | hd
        · by_cases heq : i' = i ∧ k' = k
          · obtain ⟨rfl, rfl⟩ := heq
            rcases htimely with hne | hnot | hd
            · exact absurd hentry hne
            · exact absurd hmem hnot
            · exact Or.inr (Or.inl (hkept _ nofun hd))
          · exact Or.inl ⟨heq, hmem⟩
        · exact Or.inr (Or.inl (hkept _ nofun hd))
        · exact Or.inr (Or.inr (hkept _ nofun hd))
  | @stores k i =>
      constructor
      · intro k' i' hmem
        rw [entry_store]
        split_ifs with heq
        · subst heq
          rcases h.entry_of_mem _ _ hmem with hentry | hd
          · rcases htimely _ hentry with rfl | hnot | hd
            · exact Or.inl rfl
            · exact absurd hmem hnot
            · exact Or.inr (hkept _ nofun hd)
          · exact Or.inr (hkept _ nofun hd)
        · exact (h.entry_of_mem _ _ hmem).imp_right (hkept _ nofun)
      · intro k' i' hentry
        rw [entry_store] at hentry
        split_ifs at hentry with heq
        · obtain rfl := Option.some.inj hentry
          subst heq
          exact Or.inr (Or.inl (hown _ rfl))
        · exact (h.mem_of_entry _ _ hentry).imp_right fun hd => hd.imp (hkept _ nofun) (hkept _ nofun)
  | @adds k i =>
      constructor
      · intro k' i' hmem
        rcases mem_add.1 hmem with ⟨rfl, rfl⟩ | hmem
        · exact htimely.imp_right (hkept _ nofun)
        · exact (h.entry_of_mem _ _ hmem).imp_right (hkept _ nofun)
      · intro k' i' hentry
        rw [mem_add]
        by_cases heq : i' = i ∧ k' = k
        · exact Or.inl (Or.inl heq)
        · rcases h.mem_of_entry k' i' hentry with hmem | hd | hd
          · exact Or.inl (Or.inr hmem)
          · exact Or.inr (Or.inl (hkept _ (fun hc => heq (Change.add.inj hc)) hd))
          · exact Or.inr (Or.inr (hkept _ nofun hd))
  | @empties i =>
      constructor
      · intro k' i' hmem
        exact (h.entry_of_mem _ _ (mem_empty.1 hmem).2).imp_right (hkept _ nofun)
      · intro k' i' hentry
        rw [mem_empty]
        rcases h.mem_of_entry k' i' hentry with hmem | hd | hd
        · by_cases heq : i' = i
          · subst heq
            exact Or.inr (Or.inr (hown _ (hlisted _ rfl _ hmem)))
          · exact Or.inl ⟨heq, hmem⟩
        · exact Or.inr (Or.inl (hkept _ nofun hd))
        · exact Or.inr (Or.inr (hkept _ nofun hd))

/-! ### Writers that nobody disturbs -/

/-- The group is emptied, and the entries of its keys are taken. -/
theorem Agrees.offline [DecidableEq I] {x x' : Index K I} {i : I} (h : x.Agrees)
    (hentry : ∀ k, x'.entry k = if x.entry k = some i then none else x.entry k)
    (hmembers : ∀ j, x'.members j = if j = i then ∅ else x.members j) : x'.Agrees := by
  intro k j
  rw [hentry, hmembers]
  split_ifs with hj hk hk
  · simp
  · rw [hj]
    simp [hk]
  · have hmem := h k j
    rw [hk] at hmem
    simp [hmem, Ne.symm hj]
  · exact h k j

section Alone

variable [DecidableEq K] [DecidableEq I]

/-- A key is taken out of its group. -/
def clear (x : Index K I) (k : K) : Index K I :=
  match x.entry k with
  | none => x.after (.take k)
  | some i => (x.after (.take k)).after (.drop i k)

/-- A key is put into a group in place of its old one. -/
def bind (x : Index K I) (k : K) (i : I) : Index K I :=
  ((x.clear k).after (.store k i)).after (.add i k)

variable {x : Index K I} {k k' : K} {i i' : I}

theorem entry_clear : (x.clear k).entry k' = if k' = k then none else x.entry k' := by
  unfold clear
  split <;> exact entry_take

theorem Agrees.mem_clear (h : x.Agrees) : k' ∈ (x.clear k).members i ↔ k' ≠ k ∧ k' ∈ x.members i := by
  unfold clear
  split
  · rename_i hnone
    refine ⟨fun hmem => ⟨?_, hmem⟩, And.right⟩
    rintro rfl
    have hentry := (h k' i).1 hmem
    rw [hnone] at hentry
    cases hentry
  · rename_i j hsome
    rw [mem_drop]
    constructor
    · rintro ⟨hne, hmem⟩
      refine ⟨?_, hmem⟩
      rintro rfl
      have hentry := (h k' i).1 hmem
      rw [hsome] at hentry
      exact hne ⟨(Option.some.inj hentry).symm, rfl⟩
    · rintro ⟨hne, hmem⟩
      exact ⟨fun heq => hne heq.2, hmem⟩

theorem Agrees.clear (h : x.Agrees) (k : K) : (x.clear k).Agrees := by
  intro k' i
  rw [h.mem_clear, entry_clear]
  split_ifs with heq
  · simp [heq]
  · simp [heq, h k' i]

theorem Agrees.bind (h : x.Agrees) (k : K) (i : I) : (x.bind k i).Agrees := by
  intro k' i'
  rw [Index.bind, mem_add]
  show _ ∨ k' ∈ (x.clear k).members i' ↔ ((x.clear k).after (.store k i)).entry k' = some i'
  rw [entry_store, h.mem_clear, entry_clear]
  split_ifs with heq
  · simp [heq, eq_comm]
  · simp [heq, h k' i']

end Alone

end Index
