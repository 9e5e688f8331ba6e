import AxmolFighter.Lib.Run
import Mathlib.Data.List.Perm.Basic
import Mathlib.Data.Nat.Basic

/-!
# The timers of the battle server

`BattleServer::run` and `BackendClient::startRpcTimer` schedule their work with the timers of `3rd/yasio`. The
`io_service` keeps them in `timer_queue_`, sorted so that the earliest is at the back. In every turn of its loop it
reads the clock, sleeps at most until the earliest timer, and calls `process_timers`, which takes expired timers
from the back. A timer whose callback wants to wait again is pushed to the back before the queue is sorted, and as it
has a new expiry, this ends the call although other timers may be due. They come first in the next turn,
so no timer is passed over (`punctual_of_run`).
-/

namespace AxmolFighter.Battle.Timers

/-- `highp_timer`; the duration is in microseconds, the expiry in nanoseconds. -/
structure HighpTimer where
  id : Nat
  duration : Nat
  expireTime : Nat
deriving DecidableEq

namespace HighpTimer

variable (t : HighpTimer)

/-- `wait_duration`, in whole microseconds. -/
def waitDuration (current : Nat) : Int := ((t.expireTime : Int) - current).tdiv 1000

def expired (current : Nat) : Bool := t.waitDuration current ≤ 0

/-- `expires_from_now` at a reading of the clock. -/
def expiresFromNow (clock : Nat) : HighpTimer := { t with expireTime := clock + t.duration * 1000 }

end HighpTimer

/-- Whether `process_timers` is in a callback, and how many timers have wanted to wait again before. -/
inductive Phase
  | idle
  | calling (t : HighpTimer) (n : Nat)
deriving DecidableEq

def Phase.timer : Phase → List HighpTimer
  | idle => []
  | calling t _ => [t]

/-- The timers of an `io_service`. The head of the list is the back of `timer_queue_`, and `currentTime` is the
reading of the clock at the start of the turn. -/
structure IoService where
  timerQueue : List HighpTimer := []
  currentTime : Nat := 0
  clock : Nat := 0
  /-- how many timers have been made -/
  scheduled : Nat := 0
  phase : Phase := .idle
deriving DecidableEq

/-- `get_timeout`: how long the loop may sleep. -/
def IoService.getTimeout (s : IoService) (usec : Int) : Int :=
  match s.timerQueue with
  | [] => usec
  | t :: _ => if usec > t.waitDuration s.currentTime then t.waitDuration s.currentTime else usec

def Sorted (queue : List HighpTimer) : Prop := queue.Pairwise fun t u => t.expireTime ≤ u.expireTime

/-- What `sort_timers` may do; timers that expire at the same time may come in any order. -/
def SortTimers (queue queue' : List HighpTimer) : Prop := queue'.Perm queue ∧ Sorted queue'

instance (queue : List HighpTimer) : Decidable (Sorted queue) := inferInstanceAs (Decidable (List.Pairwise _ _))

instance (queue queue' : List HighpTimer) : Decidable (SortTimers queue queue') :=
  inferInstanceAs (Decidable (_ ∧ _))

/-- The loop of `process_timers` up to the next callback or to its end, after `n` timers that wait again. -/
inductive Loop (current n : Nat) : List HighpTimer → List HighpTimer → Phase → Prop
  | fires {t : HighpTimer} {queue : List HighpTimer} (h : t.expired current = true) :
      Loop current n (t :: queue) queue (.calling t n)
  | stops {queue queue' : List HighpTimer} (h : ∀ t ∈ queue.head?, t.expired current = false)
      (hsort : if n = 0 then queue' = queue else SortTimers queue queue') : Loop current n queue queue' .idle

inductive Event
  | tick (ns : Nat)
  /-- the next turn of the loop of `run` -/
  | wakes
  | schedule (duration : Nat)
  | cancel (id : Nat)
  | processTimers
  /-- a callback returns; `true` when the timer shall not wait again -/
  | returns (done : Bool)
  /-- the end of the worker -/
  | clear
deriving DecidableEq

/-- Timers are scheduled and cancelled between the callbacks, by other threads, or inside them. -/
inductive Step (s : IoService) : Event → IoService → Prop
  | tick (ns : Nat) : Step s (.tick ns) { s with clock := s.clock + ns }
  | wakes (hphase : s.phase = .idle) : Step s .wakes { s with currentTime := s.clock }
  | schedule (duration : Nat) {queue' : List HighpTimer}
      (h : SortTimers (HighpTimer.expiresFromNow ⟨s.scheduled, duration, 0⟩ s.clock :: s.timerQueue) queue') :
      Step s (.schedule duration) { s with timerQueue := queue', scheduled := s.scheduled + 1 }
  | cancels {t : HighpTimer} {queue' : List HighpTimer} (ht : t ∈ s.timerQueue)
      (hearly : t.expired s.currentTime = false) (h : SortTimers (s.timerQueue.erase t) queue') :
      Step s (.cancel t.id) { s with timerQueue := queue' }
  /-- `cancel` leaves a timer that has expired -/
  | ignores {id : Nat} (h : ∀ t ∈ s.timerQueue, t.id = id → t.expired s.currentTime = true) : Step s (.cancel id) s
  | processTimers {queue' : List HighpTimer} {phase : Phase} (hphase : s.phase = .idle)
      (h : Loop s.currentTime 0 s.timerQueue queue' phase) :
      Step s .processTimers { s with timerQueue := queue', phase }
  | done {t : HighpTimer} {n : Nat} {queue' : List HighpTimer} {phase : Phase} (hphase : s.phase = .calling t n)
      (h : Loop s.currentTime n s.timerQueue queue' phase) :
      Step s (.returns true) { s with timerQueue := queue', phase }
  | again {t : HighpTimer} {n : Nat} {queue' : List HighpTimer} {phase : Phase} (hphase : s.phase = .calling t n)
      (h : Loop s.currentTime (n + 1) (t.expiresFromNow s.clock :: s.timerQueue) queue' phase) :
      Step s (.returns false) { s with timerQueue := queue', phase }
  | clear (hphase : s.phase = .idle) : Step s .clear { s with timerQueue := [] }

/-! ### One step -/

variable {s s' : IoService} {e : Event} {current n : Nat} {queue queue' : List HighpTimer} {phase : Phase}

theorem expired_of_le {t : HighpTimer} (h : t.expireTime ≤ current) : t.expired current = true := by
  have hdiv : ((t.expireTime : Int) - current).tdiv 1000 ≤ (0 : Int).tdiv 1000 :=
    Int.tdiv_le_tdiv (by omega) (by omega)
  rw [Int.zero_tdiv] at hdiv
  exact decide_eq_true hdiv

theorem waitDuration_mono {t u : HighpTimer} (h : t.expireTime ≤ u.expireTime) :
    t.waitDuration current ≤ u.waitDuration current := by
  unfold HighpTimer.waitDuration
  exact Int.tdiv_le_tdiv (by omega) (by omega)

theorem Loop.perm (h : Loop current n queue queue' phase) : (phase.timer ++ queue').Perm queue := by
  cases h with
  | fires => exact List.Perm.refl _
  | stops _ hsort =>
    split_ifs at hsort
    · subst hsort
      exact List.Perm.refl _
    · exact hsort.1

theorem Loop.sorted (h : Loop current n queue queue' phase) (htail : Sorted queue.tail)
    (hall : n = 0 → Sorted queue) : Sorted queue' := by
  cases h with
  | fires => exact htail
  | stops _ hsort =>
    split_ifs at hsort with hn
    · subst hsort
      exact hall hn
    · exact hsort.2

/-- The timers that may still be called. -/
def IoService.live (s : IoService) : List HighpTimer := s.phase.timer ++ s.timerQueue

def IoService.ids (s : IoService) : List Nat := s.live.map HighpTimer.id

theorem Step.ids (h : Step s e s') : ∃ kept, kept.Sublist s.ids ∧
    (s'.ids.Perm kept ∨ s'.ids.Perm (s.scheduled :: kept) ∧ s'.scheduled = s.scheduled + 1) := by
  cases h with
  | tick | wakes | ignores => exact ⟨_, .refl _, Or.inl (.refl _)⟩
  | clear => exact ⟨_, ((List.Sublist.refl _).append (List.nil_sublist _)).map _, Or.inl (.refl _)⟩
  | cancels _ _ hsort =>
    exact ⟨_, ((List.Sublist.refl _).append List.erase_sublist).map _, Or.inl ((hsort.1.append_left _).map _)⟩
  | schedule duration hsort =>
    have hperm := (hsort.1.append_left s.phase.timer).trans List.perm_middle
    exact ⟨_, .refl _, Or.inr ⟨hperm.map HighpTimer.id, rfl⟩⟩
  | processTimers _ hloop =>
    exact ⟨_, (List.sublist_append_right _ _).map _, Or.inl (hloop.perm.map _)⟩
  | done _ hloop => exact ⟨_, (List.sublist_append_right _ _).map _, Or.inl (hloop.perm.map _)⟩
  | @again t n _ _ hphase hloop =>
    have hids : s.ids = (t.expiresFromNow s.clock :: s.timerQueue).map HighpTimer.id := by
      simp [IoService.ids, IoService.live, hphase, Phase.timer, HighpTimer.expiresFromNow]
    exact ⟨_, .refl _, Or.inl (by rw [hids]; exact hloop.perm.map _)⟩

theorem Step.sorted (h : Step s e s') (hs : Sorted s.timerQueue) : Sorted s'.timerQueue := by
  cases h with
  | tick | wakes | ignores => exact hs
  | clear => exact List.Pairwise.nil
  | schedule _ hsort => exact hsort.2
  | cancels _ _ hsort => exact hsort.2
  | processTimers _ hloop => exact hloop.sorted hs.tail fun _ => hs
  | done _ hloop => exact hloop.sorted hs.tail fun _ => hs
  | again _ hloop => exact hloop.sorted hs fun hn => absurd hn (Nat.succ_ne_zero _)

theorem Step.time (h : Step s e s') (hs : s.currentTime ≤ s.clock) :
    s.currentTime ≤ s'.currentTime ∧ s'.currentTime ≤ s'.clock ∧ s.scheduled ≤ s'.scheduled := by
  cases h with
  | tick ns => exact ⟨Nat.le_refl _, hs.trans (Nat.le_add_right _ ns), Nat.le_refl _⟩
  | wakes => exact ⟨hs, Nat.le_refl _, Nat.le_refl _⟩
  | schedule => exact ⟨Nat.le_refl _, hs, Nat.le_succ _⟩
  | _ => exact ⟨Nat.le_refl _, hs, Nat.le_refl _⟩

/-- What every step keeps. -/
structure Kept (s : IoService) : Prop where
  sorted : Sorted s.timerQueue
  behind : s.currentTime ≤ s.clock
  distinct : s.ids.Nodup
  made : ∀ i ∈ s.ids, i < s.scheduled

theorem kept_initial : Kept {} := by
  refine ⟨List.Pairwise.nil, Nat.le_refl _, List.nodup_nil, fun i hi => ?_⟩
  simp [IoService.ids, IoService.live, Phase.timer] at hi

theorem Step.kept (h : Step s e s') (hs : Kept s) : Kept s' := by
  obtain ⟨-, hbehind, hle⟩ := h.time hs.behind
  obtain ⟨kept, hsub, hids⟩ := h.ids
  have hold : ∀ i ∈ kept, i < s.scheduled := fun i hi => hs.made i (hsub.subset hi)
  have hnodup : kept.Nodup := hs.distinct.sublist hsub
  refine ⟨h.sorted hs.sorted, hbehind, ?_, fun i hi => ?_⟩
  · rcases hids with hperm | ⟨hperm, -⟩
    · exact hperm.nodup_iff.2 hnodup
    · exact hperm.nodup_iff.2 (List.nodup_cons.2 ⟨fun hmem => Nat.lt_irrefl _ (hold _ hmem), hnodup⟩)
  · rcases hids with hperm | ⟨hperm, hnew⟩
    · exact (hold i (hperm.mem_iff.1 hi)).trans_le hle
    · rcases List.mem_cons.1 (hperm.mem_iff.1 hi) with rfl | hi
      · omega
      · exact (hold i hi).trans_le hle

theorem kept_of_run {trace : List (IoService × Event)} (hrun : Run Step {} trace s) : Kept s :=
  hrun.invariant Kept kept_initial fun _ _ _ hs hstep => hstep.kept hs

/-! ### No timer is passed over -/

/-- The timers of the queue that do not expire later than `t`, itself among them. -/
def rank (t : HighpTimer) (queue : List HighpTimer) : Nat := queue.countP fun u => u.expireTime ≤ t.expireTime

theorem rank_cons_later {t u : HighpTimer} (h : t.expireTime < u.expireTime) (queue : List HighpTimer) :
    rank t (u :: queue) = rank t queue :=
  List.countP_cons_of_neg (by simpa using h)

theorem rank_pos {t : HighpTimer} (h : t ∈ queue) : 0 < rank t queue :=
  List.countP_pos_iff.2 ⟨t, h, by simp⟩

theorem Loop.rank_le {t : HighpTimer} (h : Loop current n queue queue' phase) (ht : t ∈ queue') :
    t ∈ queue ∧ rank t queue' ≤ rank t queue := by
  have hsub : (phase.timer ++ queue').Perm queue := h.perm
  refine ⟨hsub.mem_iff.1 (List.mem_append_right _ ht), ?_⟩
  rw [rank, rank, ← hsub.countP_eq, List.countP_append]
  omega

theorem Loop.rank_lt {t : HighpTimer} (h : Loop current n queue queue' phase) (hsorted : Sorted queue)
    (hdue : t.expireTime < current) (ht : t ∈ queue') : rank t queue' < rank t queue := by
  cases h with
  | @fires u _ hexpired =>
    have hle : u.expireTime ≤ t.expireTime := (List.pairwise_cons.1 hsorted).1 t ht
    rw [rank, rank, List.countP_cons_of_pos (by simpa using hle)]
    omega
  | stops hstop hsort =>
    have hmem : t ∈ queue := ((Loop.stops hstop hsort).rank_le ht).1
    rcases queue with _ | ⟨u, rest⟩
    · cases hmem
    · have hle : u.expireTime ≤ t.expireTime := by
        rcases List.mem_cons.1 hmem with rfl | hrest
        · exact Nat.le_refl _
        · exact (List.pairwise_cons.1 hsorted).1 t hrest
      have hfalse := hstop u rfl
      rw [expired_of_le (hle.trans hdue.le)] at hfalse
      cases hfalse

/-- Whether the event is a call of `process_timers`. -/
def Event.isProcess : Event → Bool
  | processTimers => true
  | _ => false

theorem Step.rank_le {t : HighpTimer} (h : Step s e s') (hs : Kept s) (hdue : t.expireTime < s.currentTime)
    (ht : t ∈ s'.timerQueue) :
    t ∈ s.timerQueue ∧ rank t s'.timerQueue + (if e.isProcess then 1 else 0) ≤ rank t s.timerQueue := by
  have hlater : ∀ u : HighpTimer, t.expireTime < (u.expiresFromNow s.clock).expireTime := by
    intro u
    have hbehind := hs.behind
    show t.expireTime < s.clock + u.duration * 1000
    omega
  have hnew : ∀ {u : HighpTimer} {queue : List HighpTimer}, t.expireTime < u.expireTime → t ∈ u :: queue →
      t ∈ queue := by
    intro u queue hlt hmem
    refine (List.mem_cons.1 hmem).resolve_left fun heq => ?_
    rw [heq] at hlt
    exact Nat.lt_irrefl _ hlt
  cases h with
  | tick | wakes | ignores => exact ⟨ht, Nat.le_refl _⟩
  | clear => cases ht
  | schedule duration hsort =>
    refine ⟨hnew (hlater _) (hsort.1.mem_iff.1 ht), ?_⟩
    exact ((hsort.1.countP_eq _).trans (rank_cons_later (hlater _) _)).le
  | cancels _ _ hsort =>
    refine ⟨List.mem_of_mem_erase (hsort.1.mem_iff.1 ht), ?_⟩
    exact (hsort.1.countP_eq _).le.trans (List.Sublist.countP_le List.erase_sublist)
  | processTimers _ hloop => exact ⟨(hloop.rank_le ht).1, hloop.rank_lt hs.sorted hdue ht⟩
  | done _ hloop => exact hloop.rank_le ht
  | again _ hloop =>
    obtain ⟨hmem, hle⟩ := hloop.rank_le ht
    rw [rank_cons_later (hlater _)] at hle
    exact ⟨hnew (hlater _) hmem, hle⟩

theorem getTimeout_le (hs : Sorted s.timerQueue) (usec : Int) :
    s.getTimeout usec ≤ usec ∧ ∀ t ∈ s.timerQueue, s.getTimeout usec ≤ t.waitDuration s.currentTime := by
  unfold IoService.getTimeout
  rcases hqueue : s.timerQueue with _ | ⟨u, rest⟩
  · exact ⟨Int.le_refl _, by simp⟩
  · rw [hqueue] at hs
    have hfirst : ∀ t ∈ u :: rest, u.waitDuration s.currentTime ≤ t.waitDuration s.currentTime := by
      intro t ht
      rcases List.mem_cons.1 ht with rfl | hrest
      · exact Int.le_refl _
      · exact waitDuration_mono ((List.pairwise_cons.1 hs).1 t hrest)
    simp only
    split_ifs with hlong
    · exact ⟨by omega, hfirst⟩
    · refine ⟨Int.le_refl _, fun t ht => ?_⟩
      have hle := hfirst t ht
      omega

/-- How far an overdue timer has come since it had the rank `bound`. -/
def Waits (t : HighpTimer) (bound : Nat) (later : List (IoService × Event)) (s : IoService) : Prop :=
  Kept s ∧ t.expireTime < s.currentTime ∧
    (t ∈ s.timerQueue → later.countP (fun e => e.2.isProcess) + rank t s.timerQueue ≤ bound)

/-- **No timer is passed over.** Whenever the loop sleeps, it sleeps at most until the earliest timer. And once a
timer is overdue, whatever is scheduled, cancelled and called in between, and however long the callbacks take:
before it is called or cancelled, `process_timers` is called fewer times than there are timers that do not expire
later. -/
theorem punctual_of_run {trace : List (IoService × Event)} (hrun : Run Step {} trace s) :
    (∀ usec, s.getTimeout usec ≤ usec ∧ ∀ t ∈ s.timerQueue, s.getTimeout usec ≤ t.waitDuration s.currentTime) ∧
      ∀ t ∈ s.timerQueue, t.expireTime < s.currentTime → ∀ later s', Run Step s later s' → t ∈ s'.timerQueue →
        later.countP (fun e => e.2.isProcess) < rank t s.timerQueue := by
  have hs := kept_of_run hrun
  refine ⟨fun usec => getTimeout_le hs.sorted usec, fun t _ hdue later s' hlater ht => ?_⟩
  have hwaits : Waits t (rank t s.timerQueue) later s' := by
    refine hlater.invariant_trace ?_ ?_
    · exact ⟨hs, hdue, fun _ => by simp⟩
    · rintro l s₁ e s₂ - ⟨hs₁, hdue₁, hrank⟩ hstep
      refine ⟨hstep.kept hs₁, hdue₁.trans_le (hstep.time hs₁.behind).1, fun ht₂ => ?_⟩
      obtain ⟨ht₁, hle⟩ := hstep.rank_le hs₁ hdue₁ ht₂
      have hbefore := hrank ht₁
      rw [List.countP_append, List.countP_singleton]
      show _ + (if e.isProcess = true then 1 else 0) + _ ≤ _
      omega
  have hcalls := hwaits.2.2 ht
  have hpos := rank_pos ht
  omega

/-- Two timers of a millisecond, when the loop wakes after two. -/
def Sample.overdue : IoService where
  timerQueue := [⟨0, 1000, 1000000⟩, ⟨1, 1000, 1000000⟩]
  currentTime := 2000000
  clock := 2000000
  scheduled := 2

/-- The first has been called and waits again, and the second is the next. -/
def Sample.turned : IoService :=
  { Sample.overdue with timerQueue := [⟨1, 1000, 1000000⟩, ⟨0, 1000, 3000000⟩] }

theorem Sample.run_overdue : ∃ trace, Run Step {} trace Sample.overdue := by
  have hfirst : Step {} (.schedule 1000) { timerQueue := [⟨0, 1000, 1000000⟩], scheduled := 1 } :=
    .schedule 1000 (by decide)
  have hsecond : Step { timerQueue := [⟨0, 1000, 1000000⟩], scheduled := 1 } (.schedule 1000)
      { timerQueue := [⟨0, 1000, 1000000⟩, ⟨1, 1000, 1000000⟩], scheduled := 2 } := .schedule 1000 (by decide)
  exact ⟨_, (((Run.start.next hfirst).next hsecond).next (.tick 2000000)).next (.wakes rfl)⟩

/-- In the call in which the first timer waits again the second one is not called, and this is the only call. -/
theorem punctual_of_run_two : ∃ later, Run Step Sample.overdue later Sample.turned ∧
    later.countP (fun e => e.2.isProcess) = 1 ∧
      later.countP (fun e => e.2.isProcess) < rank ⟨1, 1000, 1000000⟩ Sample.overdue.timerQueue := by
  obtain ⟨trace, hrun⟩ := Sample.run_overdue
  have hcall : Step Sample.overdue .processTimers
      { Sample.overdue with timerQueue := [⟨1, 1000, 1000000⟩], phase := .calling ⟨0, 1000, 1000000⟩ 0 } :=
    .processTimers rfl (.fires (by decide))
  have hagain : Step { Sample.overdue with
      timerQueue := [⟨1, 1000, 1000000⟩], phase := .calling ⟨0, 1000, 1000000⟩ 0 } (.returns false) Sample.turned :=
    .again rfl (.stops (by decide) (by decide))
  have hlater := (Run.start.next hcall).next hagain
  exact ⟨_, hlater, rfl, (punctual_of_run hrun).2 ⟨1, 1000, 1000000⟩ (by decide) (by decide) _ _ hlater (by decide)⟩

/-! ### Timers that are not called again -/

theorem Step.absent (h : Step s e s') {i : Nat} (hi : i ∉ s.ids) (hmade : i < s.scheduled) : i ∉ s'.ids := by
  obtain ⟨kept, hsub, hids⟩ := h.ids
  intro hmem
  rcases hids with hperm | ⟨hperm, -⟩
  · exact hi (hsub.subset (hperm.mem_iff.1 hmem))
  · rcases List.mem_cons.1 (hperm.mem_iff.1 hmem) with rfl | hkept
    · exact Nat.lt_irrefl _ hmade
    · exact hi (hsub.subset hkept)

/-- The events after which a timer is through: `cancel` before it has expired, or the end of a callback that
does not want to wait again. -/
def Ends (s : IoService) (e : Event) (t : HighpTimer) : Prop :=
  e = .cancel t.id ∧ t ∈ s.timerQueue ∧ t.expired s.currentTime = false ∨
    e = .returns true ∧ ∃ n, s.phase = .calling t n

theorem ids_erase {t : HighpTimer} (ht : t ∈ s.timerQueue) :
    s.ids.Perm (t.id :: (s.phase.timer ++ s.timerQueue.erase t).map HighpTimer.id) := by
  have hperm := ((List.perm_cons_erase ht).append_left s.phase.timer).trans List.perm_middle
  exact hperm.map HighpTimer.id

theorem Step.ends (h : Step s e s') (hs : Kept s) {t : HighpTimer} (hends : Ends s e t) :
    t.id < s.scheduled ∧ t.id ∉ s'.ids := by
  have hdistinct := hs.distinct
  rcases hends with ⟨rfl, ht, hearly⟩ | ⟨rfl, n, hphase⟩
  · refine ⟨hs.made _ ((ids_erase ht).mem_iff.2 List.mem_cons_self), ?_⟩
    generalize hcancel : Event.cancel t.id = e at h
    cases h with
    | @cancels u queue' hu _ hsort =>
      have hid : t.id = u.id := Event.cancel.inj hcancel
      have hgone := (List.nodup_cons.1 ((ids_erase hu).nodup_iff.1 hdistinct)).1
      rw [hid]
      intro hmem
      exact hgone (((hsort.1.append_left s.phase.timer).map HighpTimer.id).mem_iff.1 hmem)
    | ignores hexpired =>
      cases hcancel
      rw [hexpired t ht rfl] at hearly
      cases hearly
    | _ => cases hcancel
  · have hids : s.ids = t.id :: s.timerQueue.map HighpTimer.id := by
      simp [IoService.ids, IoService.live, hphase, Phase.timer]
    rw [hids] at hdistinct
    refine ⟨hs.made _ (by rw [hids]; exact List.mem_cons_self), ?_⟩
    cases h with
    | done _ hloop =>
      intro hmem
      exact (List.nodup_cons.1 hdistinct).1 ((hloop.perm.map HighpTimer.id).mem_iff.1 hmem)

/-- **A timer that is through is not called again**: after `cancel` has come before its expiry, or its callback has
returned `true`, in every further run. -/
theorem silent_of_run {trace : List (IoService × Event)} (hrun : Run Step {} trace s) {t : HighpTimer}
    (hends : Ends s e t) (hstep : Step s e s') :
    ∀ later s'', Run Step s' later s'' → t.id ∉ s''.ids ∧ ∀ u n, s''.phase = .calling u n → u.id ≠ t.id := by
  have hs := kept_of_run hrun
  obtain ⟨hmade, habsent⟩ := hstep.ends hs hends
  intro later s'' hlater
  have h : t.id ∉ s''.ids ∧ t.id < s''.scheduled ∧ Kept s'' := by
    refine hlater.invariant (fun s => t.id ∉ s.ids ∧ t.id < s.scheduled ∧ Kept s) ?_ ?_
    · exact ⟨habsent, hmade.trans_le (hstep.time hs.behind).2.2, hstep.kept hs⟩
    · rintro s₁ e₁ s₂ ⟨habsent₁, hmade₁, hs₁⟩ hstep₁
      exact ⟨hstep₁.absent habsent₁ hmade₁, hmade₁.trans_le (hstep₁.time hs₁.behind).2.2, hstep₁.kept hs₁⟩
  refine ⟨h.1, fun u n hphase heq => h.1 ?_⟩
  rw [← heq, IoService.ids, IoService.live, hphase]
  exact List.mem_cons_self

/-- A timer that is cancelled in time, while the clock goes on past its expiry. -/
theorem silent_of_run_cancelled : ∃ later s, Run Step { scheduled := 1 } later s ∧ s.currentTime = 2000000 ∧
    0 ∉ s.ids ∧ ∀ u n, s.phase = .calling u n → u.id ≠ 0 := by
  have hschedule : Step {} (.schedule 1000) { timerQueue := [⟨0, 1000, 1000000⟩], scheduled := 1 } :=
    .schedule 1000 (by decide)
  have hcancel : Step { timerQueue := [⟨0, 1000, 1000000⟩], scheduled := 1 } (.cancel 0) { scheduled := 1 } := by
    refine .cancels (t := ⟨0, 1000, 1000000⟩) List.mem_cons_self ?_ ?_
    · decide
    · decide
  have hends : Ends { timerQueue := [⟨0, 1000, 1000000⟩], scheduled := 1 } (.cancel 0) ⟨0, 1000, 1000000⟩ :=
    Or.inl ⟨rfl, List.mem_cons_self, by decide⟩
  have hlater := (Run.start.next (Step.tick (s := { scheduled := 1 }) 2000000)).next (.wakes rfl)
  exact ⟨_, _, hlater, rfl, silent_of_run (Run.start.next hschedule) hends hcancel _ _ hlater⟩

end AxmolFighter.Battle.Timers
