import Mathlib.Algebra.Group.Int.Defs
import Mathlib.Algebra.Group.Nat.Defs
import Mathlib.Data.List.AList

/-!
# Hash tables

`Table K V` is a finite map with an iteration order: Mathlib's association lists (`AList`) at a
constant value type, under the operation names of a hash map. A theorem that reads a table only
through `get` holds for every iteration order; where the order of an iteration can be observed, the
statement says so (`toList` up to permutation).

The simp set rewrites `get` of every operation, so no proof outside this module unfolds one.
-/

/-- A finite map from `K` to `V`, with an iteration order. -/
def Table (K V : Type) : Type := AList fun _ : K => V

namespace Table

variable {K V W : Type}

instance : EmptyCollection (Table K V) := ⟨(∅ : AList fun _ : K => V)⟩

instance : Inhabited (Table K V) := ⟨∅⟩

instance [DecidableEq K] [DecidableEq V] : DecidableEq (Table K V) := fun s t =>
  decidable_of_iff (AList.entries s = AList.entries t) ⟨fun h => AList.ext h, fun h => by rw [h]⟩

/-- The entries in iteration order. -/
def toList (t : Table K V) : List (K × V) := (AList.entries t).map fun e => (e.1, e.2)

/-- The values in iteration order. -/
def values (t : Table K V) : List V := t.toList.map Prod.snd

def size (t : Table K V) : Nat := t.toList.length

section Lookup

variable [DecidableEq K]

def get (t : Table K V) (k : K) : Option V := AList.lookup k t

def insert (t : Table K V) (k : K) (v : V) : Table K V := AList.insert k v t

def remove (t : Table K V) (k : K) : Table K V := AList.erase k t

/-- Rewrites the value under `k`, if there is one (`get_mut`). -/
def modify (t : Table K V) (k : K) (f : V → V) : Table K V :=
  match t.get k with
  | some v => t.insert k (f v)
  | none => t

/-- Whether `k` is a key. -/
def contains (t : Table K V) (k : K) : Bool := (t.get k).isSome

end Lookup

/-- Keeps the entries that satisfy `p`. -/
def retain (t : Table K V) (p : K → V → Bool) : Table K V :=
  ⟨(AList.entries t).filter fun e => p e.1 e.2, (AList.nodupKeys t).sublist List.filter_sublist⟩

/-- Rewrites every value. -/
def mapValues (t : Table K V) (f : V → W) : Table K W :=
  ⟨(AList.entries t).map fun e => ⟨e.1, f e.2⟩, by
    have h : ((AList.entries t).map fun e => (⟨e.1, f e.2⟩ : (_ : K) × W)).keys =
        (AList.entries t).keys := by simp [List.keys, Function.comp_def]
    rw [List.NodupKeys, h]
    exact AList.nodupKeys t⟩

/-! ### Lookup after each operation -/

section Lemmas

variable [DecidableEq K] (t : Table K V) (k k' : K) (v : V)

@[simp] theorem get_empty : (∅ : Table K V).get k = none := AList.lookup_empty k

theorem get_insert : (t.insert k v).get k' = if k' = k then some v else t.get k' := by
  by_cases h : k' = k
  · subst h
    rw [if_pos rfl]
    exact AList.lookup_insert t
  · rw [if_neg h]
    exact AList.lookup_insert_ne h

@[simp] theorem get_insert_self : (t.insert k v).get k = some v := by
  rw [get_insert, if_pos rfl]

@[simp] theorem get_insert_ne {k k' : K} (h : k' ≠ k) : (t.insert k v).get k' = t.get k' := by
  rw [get_insert, if_neg h]

theorem get_remove : (t.remove k).get k' = if k' = k then none else t.get k' := by
  by_cases h : k' = k
  · subst h
    rw [if_pos rfl]
    exact AList.lookup_erase k' t
  · rw [if_neg h]
    exact AList.lookup_erase_ne h

@[simp] theorem get_remove_self : (t.remove k).get k = none := by
  rw [get_remove, if_pos rfl]

@[simp] theorem get_remove_ne {k k' : K} (h : k' ≠ k) : (t.remove k).get k' = t.get k' := by
  rw [get_remove, if_neg h]

theorem get_modify (f : V → V) :
    (t.modify k f).get k' = if k' = k then (t.get k).map f else t.get k' := by
  unfold modify
  cases hk : t.get k with
  | none =>
      by_cases h : k' = k
      · subst h
        simp [hk]
      · simp [h]
  | some old => simp [get_insert]

@[simp] theorem get_modify_self (f : V → V) : (t.modify k f).get k = (t.get k).map f := by
  rw [get_modify, if_pos rfl]

@[simp] theorem get_modify_ne {k k' : K} (f : V → V) (h : k' ≠ k) :
    (t.modify k f).get k' = t.get k' := by
  rw [get_modify, if_neg h]

theorem mem_toList : (k, v) ∈ t.toList ↔ t.get k = some v := by
  have hmem := @AList.mem_lookup_iff K (fun _ => V) _ k v t
  rw [toList, List.mem_map]
  constructor
  · rintro ⟨⟨key, value⟩, hentry, heq⟩
    cases heq
    exact hmem.2 hentry
  · intro h
    exact ⟨⟨k, v⟩, hmem.1 h, rfl⟩

theorem mem_values : v ∈ t.values ↔ ∃ k, t.get k = some v := by
  simp only [values, List.mem_map, Prod.exists, exists_eq_right, mem_toList]

theorem get_retain (p : K → V → Bool) : (t.retain p).get k = (t.get k).filter (p k) := by
  apply Option.ext
  intro value
  have hleft := @AList.mem_lookup_iff K (fun _ => V) _ k value (t.retain p)
  have hright := @AList.mem_lookup_iff K (fun _ => V) _ k value t
  rw [show (t.retain p).get k = some value ↔ _ from hleft, Option.filter_eq_some_iff,
    show t.get k = some value ↔ _ from hright]
  exact List.mem_filter

theorem get_mapValues (f : V → W) : (t.mapValues f).get k = (t.get k).map f := by
  apply Option.ext
  intro value
  rw [← mem_toList, Option.map_eq_some_iff]
  simp only [← mem_toList, toList, mapValues, List.map_map, List.mem_map, Function.comp_apply,
    Prod.mk.injEq]
  constructor
  · rintro ⟨e, he, rfl, rfl⟩
    exact ⟨e.2, ⟨e, he, rfl, rfl⟩, rfl⟩
  · rintro ⟨v, ⟨e, he, rfl, rfl⟩, rfl⟩
    exact ⟨e, he, rfl, rfl⟩

theorem contains_iff : t.contains k = true ↔ ∃ v, t.get k = some v := Option.isSome_iff_exists

theorem contains_insert : (t.insert k v).contains k' = true ↔ k' = k ∨ t.contains k' = true := by
  rw [contains, get_insert]
  split_ifs with h <;> simp [h, contains]

theorem contains_remove : (t.remove k).contains k' = true ↔ k' ≠ k ∧ t.contains k' = true := by
  rw [contains, get_remove]
  split_ifs with h <;> simp [h, contains]

/-! ### Iteration -/

omit [DecidableEq K] in
theorem nodup_keys : (t.toList.map Prod.fst).Nodup := by
  have h := AList.nodupKeys t
  rw [toList, List.map_map]
  exact h

omit [DecidableEq K] in
theorem nodup_toList : t.toList.Nodup := List.Nodup.of_map _ t.nodup_keys

theorem toList_insert : (t.insert k v).toList = (k, v) :: (t.remove k).toList := rfl

theorem perm_cons_remove {v : V} (h : t.get k = some v) : t.toList.Perm ((k, v) :: (t.remove k).toList) := by
  have hmem : k ∈ (AList.entries t).keys := AList.lookup_isSome.1 (Option.isSome_iff_exists.2 ⟨v, h⟩)
  obtain ⟨v', l₁, l₂, -, hentries, hrest⟩ := List.exists_of_kerase hmem
  have hv : v' = v := by
    have hin : (k, v') ∈ t.toList := by
      rw [toList, hentries]
      simp
    rw [mem_toList, h] at hin
    exact (Option.some.inj hin).symm
  subst hv
  have hremove : (t.remove k).toList = l₁.map (fun e => (e.1, e.2)) ++ l₂.map fun e => (e.1, e.2) := by
    rw [← List.map_append, ← hrest]
    rfl
  rw [hremove, toList, hentries, List.map_append, List.map_cons]
  exact List.perm_middle

theorem remove_eq_self (h : t.get k = none) : t.remove k = t := by
  refine AList.ext (List.kerase_of_notMem_keys fun hmem => ?_)
  have hsome := AList.lookup_isSome.2 (AList.mem_keys.2 hmem)
  rw [show AList.lookup k t = t.get k from rfl, h] at hsome
  cases hsome

theorem remove_of_get_none (h : t.get k = none) : (t.remove k).toList = t.toList := by
  rw [remove_eq_self t k h]

/-- The same entries, in any order. -/
def Same (t t' : Table K V) : Prop := ∀ k, t.get k = t'.get k

theorem Same.refl : t.Same t := fun _ => rfl

theorem Same.mem_toList {t t' : Table K V} (h : t.Same t') {e : K × V} : e ∈ t'.toList ↔ e ∈ t.toList := by
  obtain ⟨k, v⟩ := e
  rw [Table.mem_toList, Table.mem_toList, h k]

theorem Same.mem_values {t t' : Table K V} (h : t.Same t') {v : V} : v ∈ t'.values ↔ v ∈ t.values := by
  simp only [Table.mem_values, h _]

theorem nodup_map_values {f : V → W}
    (hf : ∀ k v k' v', t.get k = some v → t.get k' = some v' → f v = f v' → k = k') :
    (t.values.map f).Nodup := by
  rw [values, List.map_map]
  refine List.Nodup.map_on ?_ t.nodup_toList
  rintro ⟨k, v⟩ hv ⟨k', v'⟩ hv' heq
  rw [mem_toList] at hv hv'
  obtain rfl := hf k v k' v' hv hv' heq
  rw [hv] at hv'
  rw [Option.some.inj hv']

/-! ### Counting values -/

section Count

variable (p : V → Bool)

/-- The number of values that satisfy `p`. -/
def count (t : Table K V) : Nat := t.values.countP p

omit [DecidableEq K] in
theorem count_le_size : t.count p ≤ t.size := by
  rw [count, size, ← List.length_map (f := Prod.snd)]
  exact List.countP_le_length

theorem count_insert : (t.insert k v).count p = (t.remove k).count p + if p v then 1 else 0 := by
  rw [count, values, toList_insert, List.map_cons, List.countP_cons]
  rfl

theorem count_eq_remove {v : V} (h : t.get k = some v) :
    t.count p = (t.remove k).count p + if p v then 1 else 0 := by
  rw [count, values, ((perm_cons_remove t k h).map Prod.snd).countP_eq, List.map_cons, List.countP_cons]
  rfl

theorem count_remove_insert : ((t.insert k v).remove k).count p = (t.remove k).count p := by
  have hinsert := count_eq_remove (t.insert k v) k p (get_insert_self t k v)
  rw [count_insert] at hinsert
  omega

theorem count_remove_of_none (h : t.get k = none) : (t.remove k).count p = t.count p := by
  rw [count, values, remove_of_get_none t k h]
  rfl

theorem count_remove_le : (t.remove k).count p ≤ t.count p := by
  rcases h : t.get k with _ | v
  · exact Nat.le_of_eq (count_remove_of_none t k p h)
  · rw [count_eq_remove t k p h]
    omega

omit [DecidableEq K] in
@[simp] theorem count_empty : (∅ : Table K V).count p = 0 := rfl

omit [DecidableEq K] in
theorem values_mapValues (f : V → W) : (t.mapValues f).values = t.values.map f := by
  simp [values, toList, mapValues, List.map_map, Function.comp_def]

omit [DecidableEq K] in
theorem values_retain (q : V → Bool) : (t.retain fun _ v => q v).values = t.values.filter q := by
  simp [values, toList, retain, List.map_map, List.filter_map, Function.comp_def]

omit [DecidableEq K] in
theorem count_mapValues (f : V → V) (hf : ∀ v, p (f v) = p v) :
    (t.mapValues f).count p = t.count p := by
  rw [count, values_mapValues, List.countP_map, count]
  exact List.countP_congr fun v _ => by rw [Function.comp_apply, hf]

omit [DecidableEq K] in
theorem count_retain_add (q : V → Bool) :
    (t.retain fun _ v => !q v).count p + (t.values.filter q).countP p = t.count p := by
  rw [count, values_retain, count, List.countP_filter, List.countP_filter]
  induction t.values with
  | nil => rfl
  | cons v values ih =>
      simp only [List.countP_cons]
      cases q v <;> cases p v <;> simp <;> omega

end Count

/-! ### Sizes -/

omit [DecidableEq K] in
@[simp] theorem size_empty : (∅ : Table K V).size = 0 := rfl

omit [DecidableEq K] in
theorem size_eq_keys : t.size = (AList.keys t).length := by
  simp only [size, toList, AList.keys, List.keys, List.length_map]

theorem mem_keys : k ∈ AList.keys t ↔ ∃ v, t.get k = some v :=
  AList.mem_keys.symm.trans (AList.lookup_isSome.symm.trans Option.isSome_iff_exists)

theorem size_insert_new (h : t.get k = none) : (t.insert k v).size = t.size + 1 := by
  have hnot : k ∉ AList.keys t := by
    rw [mem_keys, h]
    simp
  have hkeys := congrArg List.length (@AList.keys_insert K (fun _ => V) _ k v t)
  rw [List.length_cons, List.erase_of_not_mem hnot] at hkeys
  rw [size_eq_keys, size_eq_keys]
  exact hkeys

theorem size_insert_old {old : V} (h : t.get k = some old) : (t.insert k v).size = t.size := by
  have hmem : k ∈ AList.keys t := (mem_keys t k).2 ⟨old, h⟩
  have hkeys := congrArg List.length (@AList.keys_insert K (fun _ => V) _ k v t)
  rw [List.length_cons, List.length_erase_of_mem hmem] at hkeys
  have hpos : 0 < (AList.keys t).length := List.length_pos_of_mem hmem
  rw [size_eq_keys, size_eq_keys, show (AList.keys (t.insert k v)).length = _ from hkeys]
  omega

theorem size_remove {v : V} (h : t.get k = some v) : (t.remove k).size + 1 = t.size := by
  have hmem : k ∈ AList.keys t := (mem_keys t k).2 ⟨v, h⟩
  have hkeys := congrArg List.length (@AList.keys_erase K (fun _ => V) _ k t)
  rw [List.length_erase_of_mem hmem] at hkeys
  have hpos : 0 < (AList.keys t).length := List.length_pos_of_mem hmem
  rw [size_eq_keys, size_eq_keys, show (AList.keys (t.remove k)).length = _ from hkeys]
  omega

theorem size_remove_none (h : t.get k = none) : (t.remove k).size = t.size := by
  have hnot : k ∉ AList.keys t := by
    rw [mem_keys, h]
    simp
  have hkeys := congrArg List.length (@AList.keys_erase K (fun _ => V) _ k t)
  rw [List.erase_of_not_mem hnot] at hkeys
  rw [size_eq_keys, size_eq_keys]
  exact hkeys

theorem size_remove_le : (t.remove k).size ≤ t.size := by
  rcases h : t.get k with _ | v
  · exact Nat.le_of_eq (size_remove_none t k h)
  · have hsize := size_remove t k h
    omega

omit [DecidableEq K] in
@[simp] theorem size_mapValues (f : V → W) : (t.mapValues f).size = t.size := by
  simp [size, toList, mapValues]

end Lemmas

end Table
