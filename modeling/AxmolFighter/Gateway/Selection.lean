import AxmolFighter.Gateway.Tables
import AxmolFighter.Lib.Run
import Mathlib.Data.Prod.Lex

/-!
# The choice of a backend by its load

`select_lowest_load_instance` filters the connections, sorts what it compares them by, and takes the first.
The connections come out of a hash map in any order. That the choice does not depend on it rests on the
registry: two connections of a service have different instances, so no two of them compare equal.
-/

namespace AxmolFighter.Gateway

/-- The backend takes bindings. -/
def Shared.accepts (conn : BackendConn) : Prop :=
  conn.load.acceptingBindings = true ∧ conn.load.loadScore < 100

/-! ### The order of the candidates -/

theorem keyLe_iff (c c' : UInt32 × Nat × UInt32 × Tx) : ServerRegistry.keyLe c c' = true ↔
    c.1.toNat < c'.1.toNat ∨ (c.1.toNat = c'.1.toNat ∧
      (c.2.1 < c'.2.1 ∨ (c.2.1 = c'.2.1 ∧ c.2.2.1.toNat ≤ c'.2.2.1.toNat))) := by
  simp only [ServerRegistry.keyLe, Bool.or_eq_true, Bool.and_eq_true, decide_eq_true_eq, beq_iff_eq,
    UInt32.lt_iff_toNat_lt, UInt32.le_iff_toNat_le, ← UInt32.toNat_inj]

theorem keyLe_total (c c' : UInt32 × Nat × UInt32 × Tx) :
    ServerRegistry.keyLe c c' = true ∨ ServerRegistry.keyLe c' c = true := by
  rw [keyLe_iff, keyLe_iff]
  omega

theorem keyLe_trans {c c' c'' : UInt32 × Nat × UInt32 × Tx} (h : ServerRegistry.keyLe c c' = true)
    (h' : ServerRegistry.keyLe c' c'' = true) : ServerRegistry.keyLe c c'' = true := by
  rw [keyLe_iff] at h h' ⊢
  omega

theorem keyLe_antisymm {c c' : UInt32 × Nat × UInt32 × Tx} (h : ServerRegistry.keyLe c c' = true)
    (h' : ServerRegistry.keyLe c' c = true) : c.2.2.1 = c'.2.2.1 := by
  rw [keyLe_iff] at h h'
  rw [← UInt32.toNat_inj]
  omega

theorem head_insertionSort {keys : List (UInt32 × Nat × UInt32 × Tx)} {c : UInt32 × Nat × UInt32 × Tx}
    (h : (keys.insertionSort fun c c' => ServerRegistry.keyLe c c').head? = some c) :
    c ∈ keys ∧ ∀ c' ∈ keys, ServerRegistry.keyLe c c' = true := by
  have : Std.Total fun c c' : UInt32 × Nat × UInt32 × Tx => ServerRegistry.keyLe c c' = true := ⟨keyLe_total⟩
  have : IsTrans _ fun c c' : UInt32 × Nat × UInt32 × Tx => ServerRegistry.keyLe c c' = true :=
    ⟨fun _ _ _ => keyLe_trans⟩
  have hsorted := List.pairwise_insertionSort (fun c c' => ServerRegistry.keyLe c c' = true) keys
  obtain ⟨rest, hrest⟩ := List.head?_eq_some_iff.1 h
  have hmem : ∀ c', c' ∈ keys ↔ c' ∈ c :: rest := fun c' => by
    rw [← hrest, List.mem_insertionSort]
  rw [hrest] at hsorted
  refine ⟨(hmem c).2 List.mem_cons_self, fun c' hc' => ?_⟩
  rcases List.mem_cons.1 ((hmem c').1 hc') with rfl | hc'
  · exact (keyLe_total c' c').elim id id
  · exact List.rel_of_pairwise_cons hsorted hc'

namespace ServerRegistry

/-! ### Calls -/

inductive Call
  | register (sessionId : UInt32) (serviceId : UInt8) (instanceId : UInt32) (tx : Tx)
  | remove (sessionId : UInt32)
  | updateLoad (sessionId : UInt32) (serviceId : UInt8) (instanceId loadScore : UInt32) (acceptingBindings : Bool)
      (message : String)

/-- `ServerRegistry::new`. -/
def new : ServerRegistry := ⟨∅, ∅⟩

variable (r : ServerRegistry)

def apply : Call → ServerRegistry
  | .register sessionId serviceId instanceId tx => (r.register sessionId serviceId instanceId tx).2
  | .remove sessionId => (r.remove sessionId).2
  | .updateLoad sessionId serviceId instanceId loadScore acceptingBindings message =>
      (r.updateLoad sessionId serviceId instanceId loadScore acceptingBindings message).2

/-- The registry after a call. -/
def Calls (r : ServerRegistry) (call : Call) (r' : ServerRegistry) : Prop := r' = r.apply call

/-- Every connection is filed under its instance. -/
def Filed : Prop :=
  ∀ x conn, r.conns.get x = some conn → r.instances.get (conn.serviceId, conn.instanceId) = some x

variable {r}

theorem Filed.unique (h : r.Filed) {x y : UInt32} {conn other : BackendConn} (hx : r.conns.get x = some conn)
    (hy : r.conns.get y = some other) (hservice : conn.serviceId = other.serviceId)
    (hinstance : conn.instanceId = other.instanceId) : x = y := by
  have hfiled := h x conn hx
  rw [hservice, hinstance, h y other hy] at hfiled
  exact (Option.some.inj hfiled).symm

theorem Filed.register (h : r.Filed) (sessionId : UInt32) (serviceId : UInt8) (instanceId : UInt32) (tx : Tx) :
    (r.register sessionId serviceId instanceId tx).2.Filed := by
  unfold ServerRegistry.register
  split
  · split_ifs <;> exact h
  · rename_i hnone
    split_ifs with htaken
    · exact h
    · intro x conn hx
      change (r.conns.insert sessionId _).get x = some conn at hx
      show (r.instances.insert (serviceId, instanceId) sessionId).get _ = some x
      rw [Table.get_insert] at hx ⊢
      split_ifs at hx with hself
      · obtain rfl := Option.some.inj hx
        rw [if_pos rfl, hself]
      · have hfiled := h x conn hx
        rw [if_neg, hfiled]
        -- the instance would be filed under the other connection, and the registration refused
        intro hkey
        rw [hkey] at hfiled
        refine htaken ?_
        rw [hfiled]
        simpa using hself

theorem Filed.remove (h : r.Filed) (sessionId : UInt32) : (r.remove sessionId).2.Filed := by
  unfold ServerRegistry.remove
  split
  · rename_i gone hgone
    intro x conn hx
    change (r.conns.remove sessionId).get x = some conn at hx
    show (r.instances.remove (gone.serviceId, gone.instanceId)).get _ = some x
    rw [Table.get_remove] at hx ⊢
    split_ifs at hx with hself
    rw [if_neg, h x conn hx]
    intro hkey
    obtain ⟨hservice, hinstance⟩ := Prod.mk.inj hkey
    exact hself (h.unique hx hgone hservice hinstance)
  · exact h

theorem Filed.insert (h : r.Filed) {x : UInt32} {old conn : BackendConn} (hold : r.conns.get x = some old)
    (hservice : conn.serviceId = old.serviceId) (hinstance : conn.instanceId = old.instanceId) :
    ({ r with conns := r.conns.insert x conn } : ServerRegistry).Filed := by
  intro y other hy
  change (r.conns.insert x conn).get y = some other at hy
  show r.instances.get _ = some y
  rw [Table.get_insert] at hy
  split_ifs at hy with hself
  · obtain rfl := Option.some.inj hy
    rw [hself, hservice, hinstance]
    exact h x old hold
  · exact h y other hy

theorem Filed.updateLoad (h : r.Filed) (sessionId : UInt32) (serviceId : UInt8) (instanceId loadScore : UInt32)
    (acceptingBindings : Bool) (message : String) :
    (r.updateLoad sessionId serviceId instanceId loadScore acceptingBindings message).2.Filed := by
  unfold ServerRegistry.updateLoad
  split
  · exact h
  · rename_i old hold
    split_ifs
    · exact h
    · exact h.insert hold rfl rfl

theorem Filed.updateLatency (h : r.Filed) (sessionId latencyMs : UInt32) :
    (r.updateLatency sessionId latencyMs).2.Filed := by
  unfold ServerRegistry.updateLatency
  split
  · exact h
  · rename_i old hold
    exact h.insert hold rfl rfl

theorem filed_of_run {trace : List (ServerRegistry × Call)} (hrun : Run Calls new trace r) : r.Filed := by
  refine hrun.invariant Filed (fun x conn hx => by cases hx) ?_
  rintro r call r' h rfl
  cases call with
  | register => exact h.register _ _ _ _
  | remove => exact h.remove _
  | updateLoad => exact h.updateLoad _ _ _ _ _ _

/-! ### The least of the backends that take bindings -/

/-- What backends of a service are compared by, in the lexicographic order. -/
def weight (bindingCount : UInt8 → UInt32 → Nat) (conn : BackendConn) : Nat ×ₗ Nat ×ₗ Nat :=
  toLex (conn.load.loadScore.toNat,
    toLex (bindingCount conn.serviceId conn.instanceId, conn.instanceId.toNat))

/-- A backend of the service that takes bindings, and comes before all others of them. -/
structure Least (r : ServerRegistry) (serviceId : UInt8) (bindingCount : UInt8 → UInt32 → Nat) (x : UInt32)
    (conn : BackendConn) : Prop where
  registered : r.conns.get x = some conn
  service : conn.serviceId = serviceId
  accepts : Shared.accepts conn
  least : ∀ y other, y ≠ x → r.conns.get y = some other → other.serviceId = serviceId → Shared.accepts other →
    weight bindingCount conn < weight bindingCount other

/-- A candidate, as the sort sees it. -/
def key (bindingCount : UInt8 → UInt32 → Nat) (conn : BackendConn) : UInt32 × Nat × UInt32 × Tx :=
  (conn.load.loadScore, bindingCount conn.serviceId conn.instanceId, conn.instanceId, conn.tx)

variable {serviceId : UInt8} {bindingCount : UInt8 → UInt32 → Nat}

theorem keyLe_iff_weight (conn other : BackendConn) :
    keyLe (key bindingCount conn) (key bindingCount other) = true ↔
      weight bindingCount conn ≤ weight bindingCount other := by
  rw [keyLe_iff, weight, weight, Prod.Lex.toLex_le_toLex, Prod.Lex.toLex_le_toLex]
  rfl

/-- What is sorted. -/
def candidates (r : ServerRegistry) (serviceId : UInt8) (bindingCount : UInt8 → UInt32 → Nat) :
    List (UInt32 × Nat × UInt32 × Tx) :=
  ((r.conns.values.filter (·.serviceId == serviceId)).filter fun conn =>
    conn.load.acceptingBindings && conn.load.loadScore < 100).map (key bindingCount)

theorem mem_candidates {k : UInt32 × Nat × UInt32 × Tx} : k ∈ r.candidates serviceId bindingCount ↔
    ∃ x conn, r.conns.get x = some conn ∧ conn.serviceId = serviceId ∧ Shared.accepts conn ∧
      key bindingCount conn = k := by
  simp only [candidates, List.mem_map, List.mem_filter, Table.mem_values, beq_iff_eq, Bool.and_eq_true,
    decide_eq_true_eq, Shared.accepts]
  constructor
  · rintro ⟨conn, ⟨⟨⟨x, hx⟩, hservice⟩, haccepts⟩, rfl⟩
    exact ⟨x, conn, hx, hservice, haccepts, rfl⟩
  · rintro ⟨x, conn, hx, hservice, haccepts, rfl⟩
    exact ⟨conn, ⟨⟨⟨x, hx⟩, hservice⟩, haccepts⟩, rfl⟩

theorem selectLowestLoadInstance_eq : r.selectLowestLoadInstance serviceId bindingCount =
    ((r.candidates serviceId bindingCount).insertionSort fun c c' => keyLe c c').head?.map fun c =>
      ⟨c.2.2.1, c.2.2.2⟩ := rfl

theorem selectLowestLoadInstance_eq_none : r.selectLowestLoadInstance serviceId bindingCount = none ↔
    ∀ x conn, r.conns.get x = some conn → conn.serviceId = serviceId → ¬ Shared.accepts conn := by
  rw [selectLowestLoadInstance_eq, Option.map_eq_none_iff, List.head?_eq_none_iff,
    List.eq_nil_iff_forall_not_mem]
  simp only [List.mem_insertionSort, mem_candidates]
  constructor
  · exact fun h x conn hx hservice haccepts => h _ ⟨x, conn, hx, hservice, haccepts, rfl⟩
  · rintro h k ⟨x, conn, hx, hservice, haccepts, -⟩
    exact h x conn hx hservice haccepts

theorem least_of_select (hfiled : r.Filed) {c : BindCandidate}
    (h : r.selectLowestLoadInstance serviceId bindingCount = some c) :
    ∃ x conn, r.Least serviceId bindingCount x conn ∧ c = ⟨conn.instanceId, conn.tx⟩ := by
  rw [selectLowestLoadInstance_eq] at h
  obtain ⟨k, hhead, rfl⟩ := Option.map_eq_some_iff.1 h
  obtain ⟨hk, hleast⟩ := head_insertionSort hhead
  obtain ⟨x, conn, hx, hservice, haccepts, rfl⟩ := mem_candidates.1 hk
  refine ⟨x, conn, ⟨hx, hservice, haccepts, fun y other hne hy hsame hother => ?_⟩, rfl⟩
  have hle := hleast _ (mem_candidates.2 ⟨y, other, hy, hsame, hother, rfl⟩)
  refine lt_of_le_not_ge ((keyLe_iff_weight conn other).1 hle) fun hge => hne ?_
  have hinstance := keyLe_antisymm hle ((keyLe_iff_weight other conn).2 hge)
  exact hfiled.unique hy hx (hsame.trans hservice.symm) hinstance.symm

theorem Least.unique {x y : UInt32} {conn other : BackendConn} (h : r.Least serviceId bindingCount x conn)
    (h' : r.Least serviceId bindingCount y other) : conn = other := by
  by_cases hyx : y = x
  · have hget := h.registered
    rw [← hyx, h'.registered] at hget
    exact (Option.some.inj hget).symm
  · have hlt := h.least y other hyx h'.registered h'.service h'.accepts
    exact absurd (h'.least x conn (Ne.symm hyx) h.registered h.service h.accepts) (lt_asymm hlt)

theorem select_iff (hfiled : r.Filed) {c : BindCandidate} :
    r.selectLowestLoadInstance serviceId bindingCount = some c ↔
      ∃ x conn, r.Least serviceId bindingCount x conn ∧ c = ⟨conn.instanceId, conn.tx⟩ := by
  refine ⟨least_of_select hfiled, ?_⟩
  rintro ⟨x, conn, hleast, rfl⟩
  rcases hselect : r.selectLowestLoadInstance serviceId bindingCount with _ | c
  · rw [selectLowestLoadInstance_eq_none] at hselect
    exact absurd hleast.accepts (hselect x conn hleast.registered hleast.service)
  · obtain ⟨y, other, hleast', rfl⟩ := least_of_select hfiled hselect
    rw [hleast.unique hleast']

theorem Least.same {r' : ServerRegistry} (h : r.conns.Same r'.conns) {x : UInt32} {conn : BackendConn} :
    r'.Least serviceId bindingCount x conn ↔ r.Least serviceId bindingCount x conn := by
  constructor
  · rintro ⟨hx, hservice, haccepts, hleast⟩
    exact ⟨(h x).trans hx, hservice, haccepts, fun y other hne hy => hleast y other hne ((h y).symm.trans hy)⟩
  · rintro ⟨hx, hservice, haccepts, hleast⟩
    exact ⟨(h x).symm.trans hx, hservice, haccepts, fun y other hne hy => hleast y other hne ((h y).trans hy)⟩

/-- The registry with the connections in another order. -/
structure SameConns (r r' : ServerRegistry) : Prop where
  conns : r.conns.Same r'.conns
  instances : r.instances.Same r'.instances

theorem SameConns.filed {r' : ServerRegistry} (h : r.SameConns r') (hfiled : r.Filed) : r'.Filed :=
  fun x conn hx => (h.instances _).symm.trans (hfiled x conn ((h.conns x).trans hx))

theorem select_same {r' : ServerRegistry} (hfiled : r.Filed) (h : r.SameConns r') :
    r'.selectLowestLoadInstance serviceId bindingCount = r.selectLowestLoadInstance serviceId bindingCount := by
  ext c
  rw [select_iff hfiled, select_iff (h.filed hfiled)]
  simp only [Least.same h.conns]

/-- After any calls, the choice is the least backend that takes bindings, there is none only if there is no
such backend, and the order in which the connections come does not matter. -/
theorem select_of_run {trace : List (ServerRegistry × Call)} (hrun : Run Calls new trace r)
    (serviceId : UInt8) (bindingCount : UInt8 → UInt32 → Nat) :
    (∀ c, r.selectLowestLoadInstance serviceId bindingCount = some c ↔
        ∃ x conn, r.Least serviceId bindingCount x conn ∧ c = ⟨conn.instanceId, conn.tx⟩) ∧
      (r.selectLowestLoadInstance serviceId bindingCount = none ↔
        ∀ x conn, r.conns.get x = some conn → conn.serviceId = serviceId → ¬ Shared.accepts conn) ∧
      ∀ r', r.SameConns r' →
        r'.selectLowestLoadInstance serviceId bindingCount =
          r.selectLowestLoadInstance serviceId bindingCount :=
  ⟨fun _ => select_iff (filed_of_run hrun), selectLowestLoadInstance_eq_none,
    fun _ hsame => select_same (filed_of_run hrun) hsame⟩

/-- Two backends report the same load; the one that has registered later has the smaller instance. -/
theorem select_of_run_ties : ∃ trace r, Run Calls new trace r ∧
    ∃ x conn, r.Least 1 (fun _ _ => 0) x conn ∧ (⟨2, 8⟩ : BindCandidate) = ⟨conn.instanceId, conn.tx⟩ := by
  have h : ∃ trace r, Run.record (fun r call => some (r.apply call)) new [.register 101 1 3 7,
      .register 102 1 2 8, .updateLoad 101 1 3 40 true "", .updateLoad 102 1 2 40 true ""] =
        some (trace, r) ∧ r.selectLowestLoadInstance 1 (fun _ _ => 0) = some ⟨2, 8⟩ := ⟨_, _, rfl, rfl⟩
  obtain ⟨trace, r, hrecord, hselect⟩ := h
  have hrun : Run Calls new trace r := Run.of_record (fun r call r' h => (Option.some.inj h).symm) hrecord
  exact ⟨trace, r, hrun, ((select_of_run hrun 1 fun _ _ => 0).1 _).1 hselect⟩

end ServerRegistry

end AxmolFighter.Gateway
