import AxmolFighter.Lib.Table
import Mathlib.Data.List.Sort

/-!
# Tables of a database

A table of a database is a `Table` from primary keys to rows, so it holds at most one row of a key.
`select` lists the rows that meet a condition in the order of a column; if the column tells them apart,
the list is the only one that is in this order and has these rows (`select_unique`). A `Serial` table
numbers its rows itself.
-/

namespace Table

variable {K V R : Type} [DecidableEq K] [LinearOrder R]

/-- The rows that meet `p`, in the order of `rank`. -/
def select (t : Table K V) (p : K → V → Bool) (rank : K → R) : List (K × V) :=
  (t.toList.filter fun e => p e.1 e.2).insertionSort fun a b => rank a.1 ≤ rank b.1

variable (t : Table K V) (p : K → V → Bool) (rank : K → R)

theorem mem_select {k : K} {v : V} : (k, v) ∈ t.select p rank ↔ t.get k = some v ∧ p k v = true := by
  rw [select, List.mem_insertionSort, List.mem_filter, mem_toList]

omit [DecidableEq K] in
theorem nodup_select : (t.select p rank).Nodup :=
  (List.perm_insertionSort _ _).nodup_iff.2 (t.nodup_toList.filter _)

omit [DecidableEq K] in
theorem select_ordered : (t.select p rank).Pairwise fun a b => rank a.1 ≤ rank b.1 := by
  have : Std.Total fun a b : K × V => rank a.1 ≤ rank b.1 := ⟨fun a b => le_total _ _⟩
  have : IsTrans (K × V) fun a b => rank a.1 ≤ rank b.1 := ⟨fun a b c => le_trans⟩
  exact List.pairwise_insertionSort _ _

/-- The column tells the rows that meet `p` apart. -/
def Ranked : Prop :=
  ∀ k v k' v', t.get k = some v → t.get k' = some v' → p k v = true → p k' v' = true → rank k = rank k' → k = k'

variable {t p rank}

theorem select_sorted (h : t.Ranked p rank) : (t.select p rank).Pairwise fun a b => rank a.1 < rank b.1 := by
  refine ((select_ordered t p rank).and (nodup_select t p rank)).imp_of_mem fun {a b} ha hb hab => ?_
  obtain ⟨k, v⟩ := a
  obtain ⟨k', v'⟩ := b
  obtain ⟨hk, hp⟩ := (mem_select t p rank).1 ha
  obtain ⟨hk', hp'⟩ := (mem_select t p rank).1 hb
  refine lt_of_le_of_ne hab.1 fun heq => hab.2 ?_
  obtain rfl := h k v k' v' hk hk' hp hp' heq
  rw [hk] at hk'
  rw [Option.some.inj hk']

/-- A list in strict order that has the rows that meet `p` is the selection. -/
theorem select_unique {l : List (K × V)} (hl : l.Pairwise fun a b => rank a.1 < rank b.1)
    (hmem : ∀ k v, (k, v) ∈ l ↔ t.get k = some v ∧ p k v = true) : t.select p rank = l := by
  have hnodup : l.Nodup := by
    refine List.nodup_iff_pairwise_ne.2 (hl.imp fun {a b} hab heq => ?_)
    rw [heq] at hab
    exact lt_irrefl _ hab
  have hperm : (t.select p rank).Perm l := by
    refine (List.perm_ext_iff_of_nodup (nodup_select t p rank) hnodup).2 fun ⟨k, v⟩ => ?_
    rw [mem_select, hmem]
  -- no two rows of the list are of the same rank
  have hapart : ∀ a ∈ l, ∀ b ∈ l, rank a.1 = rank b.1 → a = b := by
    have : Std.Symm fun a b : K × V => rank a.1 = rank b.1 → a = b := ⟨fun a b hab heq => (hab heq.symm).symm⟩
    intro a ha b hb
    refine List.Pairwise.forall_of_forall (R := fun a b => rank a.1 = rank b.1 → a = b) (fun _ _ _ => rfl) ?_ ha hb
    exact hl.imp fun hab heq => absurd heq (ne_of_lt hab)
  refine hperm.eq_of_pairwise (fun a b ha hb hab hba => ?_) (select_ordered t p rank) (hl.imp le_of_lt)
  exact hapart a (hperm.mem_iff.1 ha) b hb (le_antisymm hab hba)

end Table

/-- A table whose rows are numbered in the order in which they are inserted. -/
structure Serial (V : Type) where
  rows : Table Nat V := ∅
  nextId : Nat := 1
  fresh : ∀ id v, rows.get id = some v → id < nextId := by simp

namespace Serial

variable {V : Type} (t : Serial V)

instance : EmptyCollection (Serial V) := ⟨{}⟩

/-- `DELETE … WHERE p`. -/
def delete (p : V → Bool) : Serial V where
  rows := t.rows.retain fun _ v => !p v
  nextId := t.nextId
  fresh id v h := by
    rw [Table.get_retain, Option.filter_eq_some_iff] at h
    exact t.fresh id v h.1

theorem fresh_insert (v : V) (id : Nat) (w : V) (h : (t.rows.insert t.nextId v).get id = some w) :
    id < t.nextId + 1 := by
  rw [Table.get_insert] at h
  split_ifs at h with heq
  · exact heq ▸ Nat.lt_succ_self _
  · exact (t.fresh id w h).trans (Nat.lt_succ_self _)

def insert (v : V) : Serial V where
  rows := t.rows.insert t.nextId v
  nextId := t.nextId + 1
  fresh := t.fresh_insert v

/-- `SELECT … WHERE p ORDER BY id`. -/
def select (p : V → Bool) : List (Nat × V) := t.rows.select (fun _ v => p v) id

variable (p : V → Bool)

theorem ranked : t.rows.Ranked (fun _ v => p v) id := fun _ _ _ _ _ _ _ _ h => h

@[simp] theorem nextId_delete : (t.delete p).nextId = t.nextId := rfl

@[simp] theorem nextId_insert (v : V) : (t.insert v).nextId = t.nextId + 1 := rfl

theorem mem_select {id : Nat} {v : V} : (id, v) ∈ t.select p ↔ t.rows.get id = some v ∧ p v = true :=
  Table.mem_select ..

@[simp] theorem select_delete : (t.delete p).select p = [] := by
  refine Table.select_unique .nil fun id v => ?_
  simp only [List.not_mem_nil, false_iff, not_and]
  intro h
  change (t.rows.retain _).get id = some v at h
  rw [Table.get_retain, Option.filter_eq_some_iff] at h
  simpa using h.2

theorem select_insert {v : V} (h : p v = true) : (t.insert v).select p = t.select p ++ [(t.nextId, v)] := by
  refine Table.select_unique ?_ fun id w => ?_
  · refine List.pairwise_append.2 ⟨Table.select_sorted (t.ranked p), List.pairwise_singleton _ _, ?_⟩
    intro a ha b hb
    rw [List.mem_singleton.1 hb]
    exact t.fresh a.1 a.2 ((t.mem_select p).1 ha).1
  · rw [List.mem_append, mem_select, List.mem_singleton, Prod.mk.injEq]
    show _ ↔ (t.rows.insert t.nextId v).get id = some w ∧ p w = true
    rw [Table.get_insert]
    split_ifs with heq
    · subst heq
      constructor
      · rintro (⟨hget, -⟩ | ⟨-, rfl⟩)
        · exact absurd (t.fresh _ _ hget) (lt_irrefl _)
        · exact ⟨rfl, h⟩
      · rintro ⟨hw, -⟩
        exact Or.inr ⟨rfl, (Option.some.inj hw).symm⟩
    · simp [heq]

end Serial
