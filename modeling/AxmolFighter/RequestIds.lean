import AxmolFighter.Backend.Requests
import AxmolFighter.Battle.Callbacks

/-!
# The ids of requests

Both `RpcManager`s number their requests from one counter and start again at 1 after the largest number.
`rpc.rs` tests before it adds, in a loop of a load and an exchange that any number of callers go through at
once; both have the ordering `Relaxed`, so what is read may be any value that the counter has had.
`RpcManager.cpp` adds before it tests.
-/

namespace AxmolFighter

/-- `x + 1`, unless it overflows. -/
def increment (x : Int32) : Option Int32 := if x = Int32.maxValue then none else some (x + 1)

/-- The ids are positive, and those of a full period are different. -/
structure Numbers (ids : List Int32) : Prop where
  positive : ∀ id ∈ ids, 1 ≤ id.toInt ∧ id.toInt ≤ 2 ^ 31 - 1
  apart : ∀ window, window <:+: ids → window.length ≤ 2 ^ 31 - 1 → window.Nodup

open Backend.Requests (seedOf toInt_seedOf seedOf_inj nextRequestId_seedOf)

theorem numbers_seedOf (start n : Nat) : Numbers ((List.range n).map fun i => seedOf (start + i)) := by
  refine ⟨fun id hid => ?_, fun window hwindow hlength => ?_⟩
  · obtain ⟨i, -, rfl⟩ := List.mem_map.1 hid
    rw [toInt_seedOf]
    omega
  · obtain ⟨before, after, hsplit⟩ := hwindow
    have hget : ∀ i, i < window.length → window[i]? = some (seedOf (start + (before.length + i))) := by
      intro i hi
      have hi' : before.length + i < n := by
        have hlen := congrArg List.length hsplit
        simp only [List.length_append, List.length_map, List.length_range] at hlen
        omega
      calc window[i]? = (before ++ window ++ after)[before.length + i]? := by
            rw [List.append_assoc, List.getElem?_append_right (by omega), Nat.add_sub_cancel_left,
              List.getElem?_append_left hi]
        _ = some (seedOf (start + (before.length + i))) := by
            rw [hsplit, List.getElem?_map, List.getElem?_range hi']
            rfl
    refine List.nodup_iff_getElem?_ne_getElem?.2 fun i j hij hj heq => ?_
    rw [hget i (by omega), hget j hj, Option.some.injEq] at heq
    have hmod := seedOf_inj heq
    omega

namespace Backend

/-! ### A loop of a load and an exchange -/

/-- `next_request_id`: what is to be stored for the value that was loaded. -/
def following (current : Int32) : Option Int32 := if current = Int32.maxValue then some 1 else increment current

/-- The counter, the values it has had, and the callers between their load and their exchange, each with what
it has loaded and what it wants to store. -/
structure Allocator where
  serialSeed : Int32 := 1
  earlier : List Int32 := []
  loaded : Nat → Option (Int32 × Int32) := fun _ => none
  overflowed : Bool := false

inductive AllocatorEvent
  | load (k : Nat) (current : Int32)
  | exchange (k : Nat)
  /-- The exchange reads another value, and the caller starts again. -/
  | conflict (k : Nat) (found : Int32)

namespace Allocator

def next (s : Allocator) : AllocatorEvent → Option Allocator
  | .load k current =>
      if s.loaded k = none ∧ current ∈ s.serialSeed :: s.earlier then
        match following current with
        | some next => some { s with loaded := Function.update s.loaded k (some (current, next)) }
        | none => some { s with overflowed := true }
      else none
  | .exchange k =>
      match s.loaded k with
      | some (current, next) =>
          if s.serialSeed = current then
            some { s with
              serialSeed := next
              earlier := s.serialSeed :: s.earlier
              loaded := Function.update s.loaded k none }
          else none
      | none => none
  | .conflict k found =>
      match s.loaded k with
      | some (current, _) =>
          if found ∈ s.serialSeed :: s.earlier ∧ found ≠ current then
            some { s with loaded := Function.update s.loaded k none }
          else none
      | none => none

def Step (s : Allocator) (e : AllocatorEvent) (s' : Allocator) : Prop := s.next e = some s'

/-- The id that a step returns to its caller. -/
def returned : Allocator × AllocatorEvent → Option Int32
  | (s, .exchange k) => (s.loaded k).map Prod.snd
  | _ => none

theorem following_seedOf (n : Nat) : following (seedOf n) = some (seedOf (n + 1)) := by
  have hnext := congrArg Prod.fst (@nextRequestId_seedOf { serialSeed := seedOf n } n rfl)
  change (if seedOf n = Int32.maxValue then (1 : Int32) else seedOf n + 1) = seedOf (n + 1) at hnext
  unfold following increment
  split_ifs at hnext ⊢ with hlast
  · rw [hnext]
  · rw [hnext]

theorem following_isSome (current : Int32) : (following current).isSome = true := by
  unfold following increment
  split_ifs
  · rfl
  · rfl

/-- The counter goes through the numbers, one for each id, and what callers want to store follows what they
have loaded. -/
structure Counts (ids : List Int32) (s : Allocator) : Prop where
  numbers : ids = (List.range ids.length).map fun n => seedOf (n + 1)
  seed : s.serialSeed = seedOf ids.length
  loaded : ∀ k current next, s.loaded k = some (current, next) → following current = some next
  defined : s.overflowed = false

theorem counts_of_run {trace : List (Allocator × AllocatorEvent)} {s : Allocator} (hrun : Run Step {} trace s) :
    Counts (trace.filterMap returned) s := by
  induction hrun with
  | start => exact ⟨rfl, rfl, nofun, rfl⟩
  | @next l s s' e _ hstep h =>
      have hloaded : ∀ k q k' current next, (∀ current next, q = some (current, next) → following current = some next) →
          Function.update s.loaded k q k' = some (current, next) → following current = some next := by
        intro k q k' current next hq hk'
        rw [Function.update_apply] at hk'
        split_ifs at hk' with heq
        · exact hq current next hk'
        · exact h.loaded k' current next hk'
      rw [List.filterMap_append]
      cases e with
      | load k current =>
          simp only [Step, next] at hstep
          split_ifs at hstep
          have hnone : List.filterMap returned [(s, AllocatorEvent.load k current)] = [] := rfl
          rw [hnone, List.append_nil]
          obtain ⟨following, hfollowing⟩ := Option.isSome_iff_exists.1 (following_isSome current)
          rw [hfollowing] at hstep
          cases hstep
          refine ⟨h.numbers, h.seed, fun k' c n => hloaded k _ k' c n fun c n heq => ?_, h.defined⟩
          cases heq
          exact hfollowing
      | exchange k =>
          simp only [Step, next] at hstep
          rcases hk : s.loaded k with _ | ⟨current, next⟩
          · rw [hk] at hstep
            cases hstep
          · rw [hk] at hstep
            dsimp only at hstep
            split_ifs at hstep with hseed
            cases hstep
            have hsome : List.filterMap returned [(s, AllocatorEvent.exchange k)] = [next] := by
              simp [returned, hk]
            have hnext : next = seedOf ((l.filterMap returned).length + 1) := by
              have hfollows := h.loaded k current next hk
              rw [← hseed, h.seed, following_seedOf] at hfollows
              exact (Option.some.inj hfollows).symm
            rw [hsome]
            refine ⟨?_, ?_, fun k' c n => hloaded k _ k' c n nofun, h.defined⟩
            · rw [List.length_append, List.length_singleton, List.range_succ, List.map_append, ← h.numbers, hnext]
              rfl
            · rw [List.length_append, List.length_singleton, hnext]
      | conflict k found =>
          simp only [Step, next] at hstep
          rcases hk : s.loaded k with _ | ⟨current, next⟩
          · rw [hk] at hstep
            cases hstep
          · rw [hk] at hstep
            dsimp only at hstep
            split_ifs at hstep
            cases hstep
            have hnone : List.filterMap returned [(s, AllocatorEvent.conflict k found)] = [] := rfl
            rw [hnone, List.append_nil]
            exact ⟨h.numbers, h.seed, fun k' c n => hloaded k _ k' c n nofun, h.defined⟩

/-- An exchange that succeeds is `next_request_id` at once. -/
theorem Step.nextRequestId {s s' : Allocator} {k : Nat} (h : Step s (.exchange k) s') {ids : List Int32}
    (hcounts : Counts ids s) :
    (({ serialSeed := s.serialSeed } : RpcManager).nextRequestId).1 = s'.serialSeed ∧
      returned (s, .exchange k) = some s'.serialSeed := by
  simp only [Step, next] at h
  rcases hk : s.loaded k with _ | ⟨current, next⟩
  · rw [hk] at h
    cases h
  · rw [hk] at h
    dsimp only at h
    split_ifs at h with hseed
    cases h
    have hfollows := hcounts.loaded k current next hk
    rw [← hseed, hcounts.seed, following_seedOf] at hfollows
    obtain rfl := Option.some.inj hfollows
    have hnext := @nextRequestId_seedOf { serialSeed := s.serialSeed } _ hcounts.seed
    exact ⟨congrArg Prod.fst hnext, by simp [returned, hk]⟩

end Allocator

end Backend

namespace Battle.Rpc.RpcManager

/-! ### A counter that adds before it tests -/

/-- `nextRequestId`, unless its increment overflows. -/
def nextRequestIdChecked (rpc : RpcManager) : Option (Int32 × RpcManager) :=
  (increment rpc.nextRequestId).map fun next =>
    (rpc.nextRequestId, { rpc with nextRequestId := if next ≤ 0 then 1 else next })

/-- The ids of the first calls, if the increments are all defined. -/
def firstIds : Nat → Option (List Int32 × RpcManager)
  | 0 => some ([], {})
  | n + 1 => do
      let (ids, rpc) ← firstIds n
      let (id, rpc) ← rpc.nextRequestIdChecked
      some (ids ++ [id], rpc)

theorem nextRequestIdChecked_eq (rpc : RpcManager) : rpc.nextRequestIdChecked =
    if rpc.nextRequestId = Int32.maxValue then none else some rpc.takeRequestId := by
  unfold nextRequestIdChecked increment
  split_ifs
  · rfl
  · rfl

theorem firstIds_eq {n : Nat} (hn : n ≤ 2 ^ 31 - 2) : ∃ rpc, rpc.nextRequestId = seedOf n ∧
    firstIds n = some ((List.range n).map seedOf, rpc) := by
  induction n with
  | zero => exact ⟨{}, rfl, rfl⟩
  | succ n ih =>
      obtain ⟨rpc, hrpc, hids⟩ := ih (by omega)
      have hint : (seedOf n).toInt = n + 1 := by
        rw [toInt_seedOf]
        omega
      have hmax : Int32.maxValue.toInt = 2 ^ 31 - 1 := rfl
      have hlast : seedOf n ≠ Int32.maxValue := by
        intro heq
        rw [heq, hmax] at hint
        omega
      have hnext : (if seedOf n + 1 ≤ 0 then (1 : Int32) else seedOf n + 1) = seedOf (n + 1) := by
        have hadd : (seedOf n + 1).toInt = n + 2 := by
          rw [Int32.toInt_add, hint, show (1 : Int32).toInt = 1 from rfl, Int.bmod_eq_of_le (by omega) (by omega)]
          omega
        rw [if_neg (fun h => ?_)]
        · rw [← Int32.toInt_inj, hadd, toInt_seedOf]
          omega
        · rw [Int32.le_iff_toInt_le, hadd, show (0 : Int32).toInt = 0 from rfl] at h
          omega
      refine ⟨rpc.takeRequestId.2, ?_, ?_⟩
      · rw [takeRequestId, hrpc]
        exact hnext
      · rw [firstIds, hids]
        show (rpc.nextRequestIdChecked.bind fun e => some ((List.range n).map seedOf ++ [e.1], e.2)) = _
        rw [nextRequestIdChecked_eq, hrpc, if_neg hlast, List.range_succ, List.map_append]
        show some (_ ++ [rpc.nextRequestId], _) = _
        rw [hrpc]
        rfl

theorem firstIds_none {n : Nat} (hn : 2 ^ 31 - 1 ≤ n) : firstIds n = none := by
  induction n with
  | zero => omega
  | succ n ih =>
      by_cases hle : 2 ^ 31 - 1 ≤ n
      · rw [firstIds, ih hle]
        rfl
      · obtain ⟨rpc, hrpc, hids⟩ := firstIds_eq (n := n) (by omega)
        have hmax : Int32.maxValue.toInt = 2 ^ 31 - 1 := rfl
        have hlast : seedOf n = Int32.maxValue := by
          rw [← Int32.toInt_inj, hmax, toInt_seedOf]
          omega
        rw [firstIds, hids]
        show (rpc.nextRequestIdChecked.bind fun e => some ((List.range n).map seedOf ++ [e.1], e.2)) = _
        rw [nextRequestIdChecked_eq, hrpc, if_pos hlast]
        rfl

end Battle.Rpc.RpcManager

/-! ### Both counters -/

/-- The ids that the callers of `rpc.rs` get, and those of `n` calls of `RpcManager.cpp`: the second counter
comes to an increment that overflows with the last of its positive numbers. -/
theorem numbers_iff {trace : List (Backend.Allocator × Backend.AllocatorEvent)} {s : Backend.Allocator}
    (hrun : Run Backend.Allocator.Step {} trace s) (n : Nat) :
    ((Numbers (trace.filterMap Backend.Allocator.returned) ∧ s.overflowed = false) ∧
        ∃ ids rpc, Battle.Rpc.RpcManager.firstIds n = some (ids, rpc) ∧ ids.length = n ∧ Numbers ids) ↔
      n < 2 ^ 31 - 1 := by
  have hcounts := Backend.Allocator.counts_of_run hrun
  have hrust : Numbers (trace.filterMap Backend.Allocator.returned) := by
    rw [hcounts.numbers]
    simpa only [Nat.add_comm] using numbers_seedOf 1 _
  constructor
  · rintro ⟨-, ids, rpc, hids, -⟩
    by_contra hle
    rw [Battle.Rpc.RpcManager.firstIds_none (by omega)] at hids
    cases hids
  · intro hn
    obtain ⟨rpc, -, hids⟩ := Battle.Rpc.RpcManager.firstIds_eq (n := n) (by omega)
    refine ⟨⟨hrust, hcounts.defined⟩, _, rpc, hids, ?_, ?_⟩
    · rw [List.length_map, List.length_range]
    · simpa only [Nat.zero_add] using numbers_seedOf 0 n

/-- Two callers that load the same number, one of which has to load again. -/
theorem numbers_iff_race : ∃ trace s, Run Backend.Allocator.Step {} trace s ∧
    trace.filterMap Backend.Allocator.returned = [2, 3] ∧
    Numbers (trace.filterMap Backend.Allocator.returned) ∧
      ∃ ids rpc, Battle.Rpc.RpcManager.firstIds 3 = some (ids, rpc) ∧ ids = [1, 2, 3] := by
  obtain ⟨⟨trace, s⟩, hrecord⟩ := Option.isSome_iff_exists.1 (show (Run.record Backend.Allocator.next {}
    [.load 0 1, .load 1 1, .exchange 1, .conflict 0 2, .load 0 2, .exchange 0]).isSome from rfl)
  have hrun := Run.of_record (fun _ _ _ h => h) hrecord
  have hboth := (numbers_iff hrun 3).2 (by decide)
  refine ⟨trace, s, hrun, ?_, hboth.1.1, ?_⟩
  · cases hrecord
    rfl
  · obtain ⟨ids, rpc, hids, -⟩ := hboth.2
    cases hids
    exact ⟨_, _, rfl, rfl⟩

/-- The call that returns the largest number overflows the counter. -/
theorem firstIds_overflows : Battle.Rpc.RpcManager.firstIds (2 ^ 31 - 1) = none ∧
    ∃ rpc : Battle.Rpc.RpcManager, rpc.nextRequestId = Int32.maxValue ∧ rpc.nextRequestIdChecked = none :=
  ⟨Battle.Rpc.RpcManager.firstIds_none (Nat.le_refl _), { nextRequestId := Int32.maxValue }, rfl, rfl⟩

end AxmolFighter
