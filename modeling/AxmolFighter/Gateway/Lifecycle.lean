import AxmolFighter.Gateway.Members

/-!
# What a backend hears about a session, in order

A backend should hear that a session is online, then its business frames, then that it is offline, the
first and the last at most once. Two tasks can announce a session on one channel: its own, and the one
that registers the backend. The order holds in every run in which nobody puts news of a session on a
backend's channel while another task is about to announce the session there (`Undisturbed`); it fails
when both announce it.
-/

namespace AxmolFighter.Gateway

open Pool

/-! ### The order -/

/-- At most one `online`, business, at most one `offline`. -/
def InOrder (l : List SessionNews) : Prop :=
  ∃ first middle last, l = first ++ middle ++ last ∧ (first = [] ∨ first = [.online]) ∧
    (∀ n ∈ middle, n = .business) ∧ (last = [] ∨ last = [.offline])

namespace InOrder

theorem nil : InOrder [] := ⟨[], [], [], rfl, Or.inl rfl, nofun, Or.inl rfl⟩

theorem online : InOrder [.online] := ⟨[.online], [], [], rfl, Or.inr rfl, nofun, Or.inl rfl⟩

theorem append {l : List SessionNews} (h : InOrder l) (hoffline : .offline ∉ l) {n : SessionNews}
    (hn : n ≠ .online) : InOrder (l ++ [n]) := by
  obtain ⟨first, middle, last, rfl, hfirst, hmiddle, hlast⟩ := h
  rcases hlast with rfl | rfl
  · cases n with
    | online => exact absurd rfl hn
    | business =>
        refine ⟨first, middle ++ [.business], [], by simp, hfirst, fun n hn => ?_, Or.inl rfl⟩
        rcases List.mem_append.1 hn with h | h
        · exact hmiddle n h
        · exact List.mem_singleton.1 h
    | offline => exact ⟨first, middle, [.offline], by simp, hfirst, hmiddle, Or.inr rfl⟩
  · exact absurd (List.mem_append_right _ (List.mem_singleton_self _)) hoffline

theorem count_online {l : List SessionNews} (h : InOrder l) : l.count .online ≤ 1 := by
  obtain ⟨first, middle, last, rfl, hfirst, hmiddle, hlast⟩ := h
  have hnone : middle.count .online = 0 := List.count_eq_zero.2 fun hmem => nomatch hmiddle _ hmem
  rw [List.count_append, List.count_append, hnone]
  rcases hfirst with rfl | rfl <;> rcases hlast with rfl | rfl <;> decide

end InOrder

/-- The news about session `S`. -/
def about (S : UInt32) (news : List (UInt32 × SessionNews)) : List SessionNews :=
  news.filterMap fun e => if e.1 = S then some e.2 else none

theorem about_append (S : UInt32) (news : List (UInt32 × SessionNews)) (e : UInt32 × SessionNews) :
    about S (news ++ [e]) = if e.1 = S then about S news ++ [e.2] else about S news := by
  rw [about, List.filterMap_append]
  split_ifs with h
  · simp [about, h]
  · simp [about, h]

/-! ### The condition -/

/-- In state `s`, the call puts news of this kind about session `S` on channel `b`. -/
def Puts (b : Tx) (S : UInt32) (kind : SessionNews) (s : Shared) : Op → Prop
  | .send tx message => tx = b ∧ b ∉ s.channels.closed ∧ message.news = some (S, kind)
  | .broadcast data => s.listening b ∧ data.news = some (S, kind)
  | .broadcastExcept excludeSessionId data =>
      (∃ x identity, s.backend x = some identity ∧ identity.tx = b ∧
        identity.sessionId ≠ excludeSessionId) ∧ b ∉ s.channels.closed ∧ data.news = some (S, kind)
  | _ => False

/-- Whoever puts news about a session on a channel, no other handler in progress, if it ran on alone
from here, would announce the session on that channel. -/
def Undisturbed (pool : Pool signature Shared Connection) : Event signature Connection Input → Prop
  | .call k c => ∀ b S kind, Puts b S kind pool.shared c.op →
      ∀ j p, j ≠ k → pool.threads[j]? = some p → ¬ p.Reaches Shared.Does (Puts b S .online) pool.shared
  | _ => True

/-! ### Announcements to come -/

/-- A backend that has yet to look at the sessions, or has yet to tell of `S`. -/
def Telling (b : Tx) (S : UInt32) (q : Member) (s : Shared) : Prop :=
  (match q.phase with
    | .telling sessions => S ∈ sessions
    | .enlisted | .surveyed => s.authenticated S = true
    | _ => False) ∧ q.tx = b ∧ b ∉ s.channels.closed

theorem Telling.not_rests {b : Tx} {S : UInt32} {q : Member} {s : Shared} (h : Telling b S q s)
    (conn : Connection) : ¬ q.Rests conn := by
  intro hrests
  have hphase := h.1
  have hdone := hrests.phase
  cases hq : q.phase with
  | telling sessions =>
      rw [hq] at hphase hdone
      cases sessions with
      | nil => cases hphase
      | cons _ _ => cases hdone
  | enlisted | surveyed =>
      rw [hq] at hdone
      cases hdone
  | _ =>
      rw [hq] at hphase
      exact hphase

theorem Telling.after_call {b : Tx} {S : UInt32} {q q' : Member} {s s' : Shared} {op : Op} {answer : op.Answer}
    (h : Telling b S q s) (hputs : ¬ Puts b S .online s op) (hdoes : s.Does op answer s')
    (hmoves : Moves q op answer q') : Telling b S q' s' := by
  obtain ⟨hphase, htx, hopen⟩ := h
  cases hmoves with
  | quiet hquiet _ =>
      have hsession := hdoes.session_eq (Op.sessionAfter_quiet hquiet)
      refine ⟨?_, htx, (hdoes.news_quiet hquiet b).2 ▸ hopen⟩
      rwa [Shared.authenticated, hsession, ← Shared.authenticated]
  | survey' hq =>
      rw [hq] at hphase
      have hsession := hdoes.session_eq fun _ _ => rfl
      refine ⟨?_, htx, hdoes.channels (fun _ => rfl) ▸ hopen⟩
      rwa [Shared.authenticated, hsession, ← Shared.authenticated]
  | list hq =>
      rw [hq] at hphase
      exact ⟨(hdoes.authenticatedSessions.2 S).2 hphase, htx, hdoes.channels (fun _ => rfl) ▸ hopen⟩
  | @tell sid rest _ hq =>
      rw [hq] at hphase
      refine ⟨(List.mem_cons.1 hphase).resolve_left ?_, htx, (hdoes.news_send b).2 ▸ hopen⟩
      rintro rfl
      exact hputs ⟨htx, hopen, rfl⟩
  | binds _ _ hq =>
      rw [hq] at hphase
      exact hphase.elim
  | _ =>
      rename_i hq
      rw [hq] at hphase
      exact hphase.elim

theorem reaches_of_telling {b : Tx} {S : UInt32} {q : Member} {s : Shared} {p : GatewayM Connection}
    (hp : p.Follows Moves Member.Rests q) (h : Telling b S q s) :
    p.Reaches Shared.Does (Puts b S .online) s := by
  refine hp.reaches (Telling b S) (fun q s conn h => h.not_rests conn) (fun q s op h => ?_) h
  by_cases hputs : Puts b S .online s op
  · exact Or.inl hputs
  · exact Or.inr ⟨_, _, s.does_exec op, fun q' hmoves => h.after_call hputs (s.does_exec op) hmoves⟩

/-- A client that has authenticated itself and is going to announce `S`. -/
def Announcing (b : Tx) (S : UInt32) (q : Member) (s : Shared) : Prop :=
  q.phase = .announcing ∧ q.sessionId = S ∧ s.listening b

theorem Announcing.not_rests {b : Tx} {S : UInt32} {q : Member} {s : Shared} (h : Announcing b S q s)
    (conn : Connection) : ¬ q.Rests conn := by
  intro hrests
  have hdone := hrests.phase
  rw [h.1] at hdone
  cases hdone

theorem Announcing.puts {b : Tx} {S : UInt32} {q q' : Member} {s : Shared} {op : Op} {answer : op.Answer}
    (h : Announcing b S q s) (hmoves : Moves q op answer q') : Puts b S .online s op := by
  obtain ⟨hphase, rfl, hlistening⟩ := h
  cases hmoves with
  | announce _ => exact ⟨hlistening, rfl⟩
  | quiet _ hpassive =>
      rw [hphase] at hpassive
      cases hpassive
  | binds _ _ hq =>
      rw [hphase] at hq
      cases hq
  | _ =>
      rename_i hq
      rw [hphase] at hq
      cases hq

theorem reaches_of_announcing {b : Tx} {S : UInt32} {q : Member} {s : Shared} {p : GatewayM Connection}
    (hp : p.Follows Moves Member.Rests q) (h : Announcing b S q s) :
    p.Reaches Shared.Does (Puts b S .online) s := by
  refine hp.reaches (Announcing b S) (fun q s conn h => h.not_rests conn) (fun q s op h => ?_) h
  by_cases hputs : Puts b S .online s op
  · exact Or.inl hputs
  · exact Or.inr ⟨_, _, s.does_exec op, fun q' hmoves => absurd (h.puts hmoves) hputs⟩

/-! ### The invariant -/

/-- The backend connection `q` is still going to announce the client `c`. -/
def Member.Owes (q c : Member) : Prop :=
  match q.phase with
  | .telling sessions => c.sessionId ∈ sessions
  | .enlisted | .surveyed => c.status = .known
  | _ => False

/-- The connection is gone, and has no more to tell. -/
def Member.Over (c : Member) : Prop :=
  c.status = .gone ∧ c.phase ≠ .departing ∧ ∀ wasAuthenticated, c.phase ≠ .departed wasAuthenticated

/-- The client of a session that was authenticated at some time. -/
def Client (qs : List Member) (S : UInt32) : Prop :=
  ∃ c ∈ qs, c.client = true ∧ c.sessionId = S ∧ c.status ≠ .fresh

/-- The connection of a backend that was registered at some time. -/
def Backend (qs : List Member) (b : Tx) : Prop :=
  ∃ q ∈ qs, q.client = false ∧ q.tx = b ∧ q.status ≠ .fresh

/-- What a phase says about other connections. -/
def Phase.Sound (qs : List Member) : Phase → Prop
  | .telling sessions => sessions.Nodup ∧ ∀ S ∈ sessions, Client qs S
  | .found _ _ tx => Backend qs tx
  | _ => True

/-- `told b S` is what channel `b` has told about session `S`: in order, and nothing unless the session
was authenticated and the backend registered; and once anything is told, no announcement is to come. -/
structure Lifecycle (told : Tx → UInt32 → List SessionNews) (qs : List Member) : Prop where
  ordered : ∀ b S, InOrder (told b S)
  client : ∀ b S, told b S ≠ [] → Client qs S
  backend : ∀ b S, told b S ≠ [] → Backend qs b
  settled : ∀ b, ∀ c ∈ qs, c.client = true → told b c.sessionId ≠ [] →
    c.phase ≠ .announcing ∧ ∀ q ∈ qs, q.client = false → q.tx = b → ¬ q.Owes c
  final : ∀ b, ∀ c ∈ qs, c.client = true → .offline ∈ told b c.sessionId → c.Over
  sound : ∀ q ∈ qs, q.phase.Sound qs

namespace Lifecycle

variable {told told' : Tx → UInt32 → List SessionNews} {qs : List Member} {s s' : Shared}

theorem init : Lifecycle (fun _ _ => []) [] where
  ordered := fun _ _ => .nil
  client := fun _ _ h => absurd rfl h
  backend := fun _ _ h => absurd rfl h
  settled := nofun
  final := nofun
  sound := nofun

theorem update_connection (h : Lifecycle told qs) (hmembers : Members s qs) {k : Nat} {q q' : Member}
    (hk : qs[k]? = some q) (hclient : q'.client = q.client) (hid : q'.sessionId = q.sessionId)
    (htx : q'.tx = q.tx) (hfresh : q.status ≠ .fresh → q'.status ≠ .fresh)
    (hknown : q'.status = .known → q.status ≠ .gone)
    (hannouncing : q'.phase = .announcing → q.status = .fresh) (hover : q.Over → q'.Over)
    (howes : ∀ c ∈ qs, q'.Owes c → q.Owes c ∨ q.status = .fresh)
    (hsound : q'.phase.Sound qs) : Lifecycle told (qs.set k q') := by
  have hq := Members.mem_of_get hk
  have hlt := (List.getElem?_eq_some_iff.1 hk).1
  have hnew : q' ∈ qs.set k q' := Members.mem_of_get (List.getElem?_set_self hlt)
  have hrest : ∀ p ∈ qs, p = q ∨ p ∈ qs.set k q' := by
    intro p hp
    obtain ⟨j, hj⟩ := List.getElem?_of_mem hp
    by_cases hjk : k = j
    · subst hjk
      exact Or.inl (Option.some.inj (hj.symm.trans hk))
    · exact Or.inr (Members.mem_of_get ((List.getElem?_set_ne hjk).trans hj))
  have hclients : ∀ S, Client qs S → Client (qs.set k q') S := by
    rintro S ⟨c, hc, hcc, rfl, hstatus⟩
    rcases hrest c hc with rfl | hc
    · exact ⟨q', hnew, hclient.trans hcc, hid, hfresh hstatus⟩
    · exact ⟨c, hc, hcc, rfl, hstatus⟩
  have hbackends : ∀ b, Backend qs b → Backend (qs.set k q') b := by
    rintro b ⟨p, hp, hpc, rfl, hstatus⟩
    rcases hrest p hp with rfl | hp
    · exact ⟨q', hnew, hclient.trans hpc, htx, hfresh hstatus⟩
    · exact ⟨p, hp, hpc, rfl, hstatus⟩
  have hphases : ∀ phase : Phase, phase.Sound qs → phase.Sound (qs.set k q') := by
    intro phase h
    cases phase with
    | telling sessions => exact ⟨h.1, fun S hS => hclients S (h.2 S hS)⟩
    | found frame target tx => exact hbackends tx h
    | _ => trivial
  -- A session that was told of is not fresh, nor is a backend that was told.
  have hnotfresh : ∀ b S, told b S ≠ [] → (q.client = true → q.sessionId = S → q.status ≠ .fresh) ∧
      (q.client = false → q.tx = b → q.status ≠ .fresh) := by
    intro b S htold
    obtain ⟨c, hc, -, hcS, hcstatus⟩ := h.client b S htold
    obtain ⟨p, hp, -, hpb, hpstatus⟩ := h.backend b S htold
    refine ⟨fun _ hS => ?_, fun _ hb => ?_⟩
    · rwa [hmembers.unique hq hc (hS.trans hcS.symm)]
    · rwa [hmembers.unique_tx hq hp (hb.trans hpb.symm)]
  refine ⟨h.ordered, fun b S ht => hclients S (h.client b S ht), fun b S ht => hbackends b (h.backend b S ht),
    ?_, ?_, ?_⟩
  · intro b c hc hcc htold
    rcases Members.mem_set hk hc with rfl | ⟨hold, -⟩
    · rw [hclient] at hcc
      rw [hid] at htold
      obtain ⟨-, hsettled⟩ := h.settled b q hq hcc htold
      have hstatus := (hnotfresh b _ htold).1 hcc rfl
      refine ⟨fun hphase => hstatus (hannouncing hphase), fun p hp hpc hpb howing => ?_⟩
      rcases Members.mem_set hk hp with rfl | ⟨hp, -⟩
      · rw [hclient, hcc] at hpc
        cases hpc
      · refine hsettled p hp hpc hpb ?_
        rw [Member.Owes] at howing ⊢
        cases hphase : p.phase with
        | telling sessions =>
            rw [hphase] at howing
            exact hid ▸ howing
        | enlisted | surveyed =>
            rw [hphase] at howing
            have hgone := hknown howing
            cases hq : q.status with
            | fresh => exact absurd hq hstatus
            | known => rfl
            | gone => exact absurd hq hgone
        | _ =>
            rw [hphase] at howing
            exact howing
    · obtain ⟨hphase, hsettled⟩ := h.settled b c hold hcc htold
      refine ⟨hphase, fun p hp hpc hpb howing => ?_⟩
      rcases Members.mem_set hk hp with rfl | ⟨hp, -⟩
      · rw [hclient] at hpc
        rw [htx] at hpb
        rcases howes c hold howing with howing | hstatus
        · exact hsettled q hq hpc hpb howing
        · exact (hnotfresh b _ htold).2 hpc hpb hstatus
      · exact hsettled p hp hpc hpb howing
  · intro b c hc hcc hoffline
    rcases Members.mem_set hk hc with rfl | ⟨hc, -⟩
    · exact hover (h.final b q hq (hclient.symm.trans hcc) (hid ▸ hoffline))
    · exact h.final b c hc hcc hoffline
  · intro p hp
    rcases Members.mem_set hk hp with rfl | ⟨hp, -⟩
    · exact hphases _ hsound
    · exact hphases _ (h.sound p hp)

theorem tell_session (h : Lifecycle told qs) {S : UInt32} {kind : SessionNews} {on : Tx → Prop}
    (htold : ∀ b S', told' b S' = told b S' ∨ (S' = S ∧ on b ∧ told' b S = told b S ++ [kind]))
    (hclient : Client qs S) (hbackend : ∀ b, on b → Backend qs b)
    (hordered : ∀ b, on b → InOrder (told b S ++ [kind]))
    (hsettled : ∀ b, on b → ∀ c ∈ qs, c.client = true → c.sessionId = S →
      c.phase ≠ .announcing ∧ ∀ q ∈ qs, q.client = false → q.tx = b → ¬ q.Owes c)
    (hfinal : kind = .offline → ∀ c ∈ qs, c.client = true → c.sessionId = S → c.Over) :
    Lifecycle told' qs := by
  refine ⟨fun b S' => ?_, fun b S' hne => ?_, fun b S' hne => ?_, fun b c hc hcc hne => ?_,
    fun b c hc hcc hmem => ?_, h.sound⟩
  · rcases htold b S' with heq | ⟨rfl, hon, heq⟩
    · rw [heq]
      exact h.ordered b S'
    · rw [heq]
      exact hordered b hon
  · rcases htold b S' with heq | ⟨rfl, -, -⟩
    · exact h.client b S' (heq ▸ hne)
    · exact hclient
  · rcases htold b S' with heq | ⟨-, hon, -⟩
    · exact h.backend b S' (heq ▸ hne)
    · exact hbackend b hon
  · rcases htold b c.sessionId with heq | ⟨hS, hon, -⟩
    · exact h.settled b c hc hcc (heq ▸ hne)
    · exact hsettled b hon c hc hcc hS
  · rcases htold b c.sessionId with heq | ⟨hS, hon, heq⟩
    · exact h.final b c hc hcc (heq ▸ hmem)
    · rw [hS, heq, List.mem_append, List.mem_singleton] at hmem
      rcases hmem with hmem | hkind
      · exact h.final b c hc hcc (hS ▸ hmem)
      · exact hfinal hkind.symm c hc hcc hS

end Lifecycle

/-! ### Steps -/

/-- Phases that owe nothing and say nothing about other connections. -/
def Phase.plain : Phase → Bool
  | idle | starting | requested _ | received _ | checked _ | routed _ _ | forwarded | closing => true
  | _ => false

theorem Member.not_owes {q c : Member} (h : q.phase.plain = true) : ¬ q.Owes c := by
  intro howes
  rw [Member.Owes] at howes
  cases hphase : q.phase <;> rw [hphase] at h howes <;> first | exact howes | cases h

/-- What is told on each channel about each session. -/
def Shared.told (s : Shared) (b : Tx) (S : UInt32) : List SessionNews := about S (s.news b)

/-- No connection but `k` is about to announce `S` on channel `b`. -/
def Calm (qs : List Member) (k : Nat) (b : Tx) (S : UInt32) (s : Shared) : Prop :=
  ∀ j q, j ≠ k → qs[j]? = some q → ¬ Telling b S q s ∧ ¬ Announcing b S q s

theorem Undisturbed.calm {m : MessageMap} {qs : List Member} {pool : Pool signature Shared Connection}
    {k : Nat} {c : signature.Call} (h : Undisturbed pool (.call k c)) (htracks : (guide m).Tracks qs pool.threads)
    {b : Tx} {S : UInt32} {kind : SessionNews} (hputs : Puts b S kind pool.shared c.op) :
    Calm qs k b S pool.shared := by
  intro j q hj hq
  obtain ⟨p, hp, hfollows⟩ := htracks.get' hq
  have hnot := h b S kind hputs j p hj hp
  exact ⟨fun htelling => hnot (reaches_of_telling hfollows htelling),
    fun hannouncing => hnot (reaches_of_announcing hfollows hannouncing)⟩

theorem Members.telling_of_owes {s : Shared} {qs : List Member} (h : Members s qs) {q c : Member}
    (hc : c ∈ qs) (hclient : c.client = true) (howes : q.Owes c) (hopen : q.tx ∉ s.channels.closed) :
    Telling q.tx c.sessionId q s := by
  refine ⟨?_, rfl, hopen⟩
  rw [Member.Owes] at howes
  cases hphase : q.phase with
  | enlisted | surveyed =>
      rw [hphase] at howes
      exact (h.known c hc hclient).2 howes
  | _ =>
      rw [hphase] at howes
      exact howes

theorem Members.known_of_authenticated {s : Shared} {qs : List Member} (h : Members s qs) {S : UInt32}
    (hauth : s.authenticated S = true) :
    ∃ c ∈ qs, c.client = true ∧ c.sessionId = S ∧ c.status = .known := by
  cases hsession : s.session S with
  | none =>
      rw [Shared.authenticated, hsession] at hauth
      cases hauth
  | some session =>
      obtain ⟨c, hc, rfl, hclient⟩ := h.session S session hsession
      exact ⟨c, hc, hclient, rfl, (h.known c hc hclient).1 hauth⟩

theorem Members.backend_of_registered {s : Shared} {qs : List Member} (h : Members s qs) {x : UInt32}
    {identity : Identity} (hx : s.backend x = some identity) : Backend qs identity.tx := by
  obtain ⟨q, hq, hclient, rfl, -, htx⟩ := h.backend x identity hx
  have hstatus := (h.registered q hq hclient).1 ⟨identity, hx⟩
  exact ⟨q, hq, hclient, htx.symm, by rw [hstatus]; nofun⟩

theorem Members.fresh_of_authenticate {s s' : Shared} {qs : List Member} (h : Members s qs) {q : Member}
    (hq : q ∈ qs) (hclient : q.client = true) (hgone : q.status ≠ .gone)
    (hdoes : s.Does (.authenticate q.sessionId) true s') : q.status = .fresh := by
  have hanswer := hdoes.authenticate
  cases hstatus : q.status with
  | fresh => rfl
  | gone => exact absurd hstatus hgone
  | known =>
      have hauth := (h.known q hq hclient).2 hstatus
      rw [Shared.authenticated] at hauth
      cases hsession : s.session q.sessionId with
      | none =>
          rw [hsession] at hauth
          cases hauth
      | some session =>
          rw [hsession] at hauth hanswer
          rw [Option.map_some, Option.getD_some] at hauth hanswer
          rw [hauth] at hanswer
          cases hanswer

theorem Members.fresh_of_register {s s' : Shared} {qs : List Member} (h : Members s qs) {q : Member}
    (hq : q ∈ qs) (hclient : q.client = false) (hgone : q.status ≠ .gone) {serviceId : UInt8} {instanceId : UInt32}
    (hdoes : s.Does (.register q.sessionId serviceId instanceId q.tx) .registered s') : q.status = .fresh := by
  cases hstatus : q.status with
  | fresh => rfl
  | gone => exact absurd hstatus hgone
  | known =>
      obtain ⟨identity, hx⟩ := (h.registered q hq hclient).2 hstatus
      cases (hdoes.register.1 rfl).symm.trans hx

theorem Members.listening {s : Shared} {qs : List Member} (h : Members s qs) {q : Member} (hq : q ∈ qs)
    (hclient : q.client = false) (hstatus : q.status = .known) (hopen : q.tx ∉ s.channels.closed) :
    s.listening q.tx := by
  obtain ⟨identity, hx⟩ := (h.registered q hq hclient).2 hstatus
  obtain ⟨q', hq', -, hid, -, htx⟩ := h.backend _ identity hx
  rw [h.unique hq' hq hid] at htx
  exact ⟨⟨_, identity, hx, htx⟩, hopen⟩

namespace Lifecycle

variable {told told' : Tx → UInt32 → List SessionNews} {qs : List Member} {s s' : Shared}

theorem update_plain_phase (h : Lifecycle told qs) (hmembers : Members s qs) {k : Nat} {q : Member}
    (hk : qs[k]? = some q) (phase : Phase) (hplain : phase.plain = true) :
    Lifecycle told (qs.set k { q with phase := phase }) := by
  refine h.update_connection hmembers hk rfl rfl rfl (fun hfresh => hfresh) ?_ ?_ ?_ ?_ ?_
  · intro hknown hgone
    rw [hgone] at hknown
    cases hknown
  · rintro rfl
    cases hplain
  · intro hover
    refine ⟨hover.1, ?_, fun wasAuthenticated => ?_⟩
    · rintro rfl
      cases hplain
    · rintro rfl
      cases hplain
  · exact fun c _ howes => absurd howes (Member.not_owes hplain)
  · cases phase <;> trivial

theorem client_tells (h : Lifecycle s.told qs) (hmembers : Members s qs) {k : Nat} {q : Member}
    (hk : qs[k]? = some q) (phase : Phase) (hplain : phase.plain = true) (hclient : q.client = true)
    (hmembers' : Members s' (qs.set k { q with phase := phase })) (hstatus : q.status ≠ .fresh)
    {kind : SessionNews} {on : Tx → Prop}
    (htold : ∀ b S, s'.told b S = s.told b S ∨
      (S = q.sessionId ∧ on b ∧ s'.told b q.sessionId = s.told b q.sessionId ++ [kind]))
    (hon : ∀ b, on b → b ∉ s.channels.closed ∧ Calm qs k b q.sessionId s ∧ Backend qs b)
    (hordered : ∀ b, on b → InOrder (s.told b q.sessionId ++ [kind]))
    (hfinal : kind = .offline → q.status = .gone) :
    Lifecycle s'.told (qs.set k { q with phase := phase }) := by
  have hq := Members.mem_of_get hk
  have hnew : ({ q with phase := phase } : Member) ∈ qs.set k { q with phase := phase } :=
    Members.mem_of_get (List.getElem?_set_self (List.getElem?_eq_some_iff.1 hk).1)
  have hmove := h.update_plain_phase hmembers hk phase hplain
  -- The client of the session is the one that acts.
  have hself : ∀ c ∈ qs.set k { q with phase := phase }, c.sessionId = q.sessionId →
      c = { q with phase := phase } := fun c hc hid => hmembers'.unique hc hnew hid
  refine hmove.tell_session htold ⟨_, hnew, hclient, rfl, hstatus⟩ (fun b hb => ?_) hordered
    (fun b hb c hc hcc hid => ?_) fun hkind c hc _ hid => ?_
  · obtain ⟨p, hp, hpc, htx, hpstatus⟩ := (hon b hb).2.2
    refine ⟨p, ?_, hpc, htx, hpstatus⟩
    obtain ⟨j, hj⟩ := List.getElem?_of_mem hp
    refine Members.mem_of_get (k := j) ((List.getElem?_set_ne ?_).trans hj)
    rintro rfl
    rw [Option.some.inj (hj.symm.trans hk), hclient] at hpc
    cases hpc
  · obtain rfl := hself c hc hid
    constructor
    · rintro rfl
      cases hplain
    · intro p hp hpc hpb howes
      rcases Members.mem_set hk hp with rfl | ⟨-, j, hj, hp⟩
      · exact Member.not_owes hplain howes
      · obtain ⟨hopen, hcalm, -⟩ := hon b hb
        subst hpb
        exact (hcalm j p hj hp).1 (hmembers.telling_of_owes hq hclient howes hopen)
  · obtain rfl := hself c hc hid
    refine ⟨hfinal hkind, ?_, fun wasAuthenticated => ?_⟩
    · rintro rfl
      cases hplain
    · rintro rfl
      cases hplain

theorem told_append {b : Tx} (S : UInt32) {x : UInt32} {kind : SessionNews}
    (h : s'.news b = s.news b ++ [(x, kind)]) :
    s'.told b S = if x = S then s.told b S ++ [kind] else s.told b S := by
  rw [Shared.told, h, about_append]
  rfl

theorem told_broadcast {data : ToBackend} {x : UInt32} {kind : SessionNews}
    (hnews : data.news = some (x, kind)) (hmembers : Members s qs) (hdoes : s.Does (.broadcast data) () s')
    (b : Tx) (S : UInt32) : s'.told b S = s.told b S ∨
      (S = x ∧ s.listening b ∧ s'.told b x = s.told b x ++ [kind]) := by
  obtain ⟨hlistening, hnot, -⟩ := hdoes.news_broadcast hmembers.distinctChannels b
  by_cases hb : s.listening b
  · have h := hlistening hb
    rw [hnews] at h
    have htold := told_append S h
    split_ifs at htold with hS
    · subst hS
      exact Or.inr ⟨rfl, hb, htold⟩
    · exact Or.inl htold
  · exact Or.inl (by rw [Shared.told, hnot hb]; rfl)

theorem told_send {tx : Tx} {data : ToBackend} {x : UInt32} {kind : SessionNews} {sent : Bool}
    (hnews : data.news = some (x, kind)) (hdoes : s.Does (.send tx (.toBackend data)) sent s')
    (b : Tx) (S : UInt32) : s'.told b S = s.told b S ∨
      (S = x ∧ (tx = b ∧ b ∉ s.channels.closed) ∧ s'.told b x = s.told b x ++ [kind]) := by
  have h := (hdoes.news_send b).1
  split_ifs at h with hb
  · rw [WriterMessage.news, hnews] at h
    have htold := told_append S h
    split_ifs at htold with hS
    · subst hS
      exact Or.inr ⟨rfl, hb, htold⟩
    · exact Or.inl htold
  · rw [List.append_nil] at h
    exact Or.inl (by rw [Shared.told, h]; rfl)

theorem told_channels (h : s'.channels = s.channels) : s'.told = s.told := by
  funext b S
  rw [Shared.told, Shared.news, h]
  rfl

theorem told_news (h : ∀ b, s'.news b = s.news b) : s'.told = s.told := by
  funext b S
  rw [Shared.told, h]
  rfl

theorem told_nil_of_announcing (h : Lifecycle told qs) {c : Member} (hc : c ∈ qs) (hclient : c.client = true)
    (hphase : c.phase = .announcing) (b : Tx) : told b c.sessionId = [] := by
  by_contra htold
  exact (h.settled b c hc hclient htold).1 hphase

theorem told_nil_of_owes (h : Lifecycle told qs) {q c : Member} (hc : c ∈ qs) (hclient : c.client = true)
    (hq : q ∈ qs) (hqc : q.client = false) (howes : q.Owes c) : told q.tx c.sessionId = [] := by
  by_contra htold
  exact (h.settled q.tx c hc hclient htold).2 q hq hqc rfl howes

theorem not_offline (h : Lifecycle told qs) {c : Member} (hc : c ∈ qs) (hclient : c.client = true)
    (hover : ¬ c.Over) (b : Tx) : .offline ∉ told b c.sessionId :=
  fun hmem => hover (h.final b c hc hclient hmem)

end Lifecycle

theorem Member.not_over {c : Member} (h : c.status ≠ .gone) : ¬ c.Over := fun hover => h hover.1

theorem Members.backend_of_listening {s : Shared} {qs : List Member} (h : Members s qs) {b : Tx}
    (hb : s.listening b) : Backend qs b := by
  obtain ⟨⟨x, identity, hx, rfl⟩, -⟩ := hb
  exact h.backend_of_registered hx

namespace Lifecycle

variable {qs : List Member} {s s' : Shared}

theorem after_tell (h : Lifecycle s.told qs) (hmembers : Members s qs) {k : Nat} {q : Member}
    (hk : qs[k]? = some q) {S : UInt32} {rest : List UInt32} {sent : Bool}
    (hphase : q.phase = .telling (S :: rest))
    (hdoes : s.Does (.send q.tx (.toBackend (.control (.sessionOnlinePush S) 0 S))) sent s')
    (hmembers' : Members s' (qs.set k { q with phase := .telling rest }))
    (hcalm : q.tx ∉ s.channels.closed → Calm qs k q.tx S s) :
    Lifecycle s'.told (qs.set k { q with phase := .telling rest }) := by
  have hq := Members.mem_of_get hk
  have hnew : ({ q with phase := .telling rest } : Member) ∈ qs.set k { q with phase := .telling rest } :=
    Members.mem_of_get (List.getElem?_set_self (List.getElem?_eq_some_iff.1 hk).1)
  have hsound := hmembers.sound q hq
  rw [Member.Sound, hphase] at hsound
  obtain ⟨hqc, hstatus⟩ := hsound
  have hclients := h.sound q hq
  rw [hphase] at hclients
  obtain ⟨hnodup, hclients⟩ := hclients
  obtain ⟨hnot, hrest⟩ := List.nodup_cons.1 hnodup
  obtain ⟨c, hc, hcc, rfl, hcstatus⟩ := hclients S List.mem_cons_self
  have howes : ∀ c ∈ qs, ({ q with phase := .telling rest } : Member).Owes c → q.Owes c := by
    intro c _ howes
    rw [Member.Owes, hphase]
    exact List.mem_cons_of_mem _ howes
  have hmove : Lifecycle s.told (qs.set k { q with phase := .telling rest }) := by
    refine h.update_connection hmembers hk rfl rfl rfl (fun hfresh => hfresh) ?_ (fun hnone => ?_) ?_
      (fun c hc ho => Or.inl (howes c hc ho))
      ⟨hrest, fun S hS => hclients S (List.mem_cons_of_mem _ hS)⟩
    · intro _ hgone
      rw [hstatus] at hgone
      cases hgone
    · cases hnone
    · intro hover
      cases hover.1.symm.trans hstatus
  have htold : s.told q.tx c.sessionId = [] := by
    refine h.told_nil_of_owes hc hcc hq hqc ?_
    rw [Member.Owes, hphase]
    exact List.mem_cons_self
  have hother : c ∈ qs.set k { q with phase := .telling rest } := by
    obtain ⟨j, hj⟩ := List.getElem?_of_mem hc
    refine Members.mem_of_get (k := j) ((List.getElem?_set_ne ?_).trans hj)
    rintro rfl
    rw [Option.some.inj (hj.symm.trans hk), hqc] at hcc
    cases hcc
  refine hmove.tell_session (told_send rfl hdoes) ⟨c, hother, hcc, rfl, hcstatus⟩ (fun b hb => ?_)
    (fun b hb => ?_) (fun b hb c' hc' hcc' hid => ?_) fun hoffline => by cases hoffline
  · exact ⟨_, hnew, hqc, hb.1, by rw [hstatus]; decide⟩
  · rw [← hb.1, htold]
    exact .online
  · obtain ⟨rfl, hopen⟩ := hb
    constructor
    · intro hannouncing
      rcases Members.mem_set hk hc' with rfl | ⟨-, j, hj, hget⟩
      · cases hannouncing
      · exact (hcalm hopen j c' hj hget).2
          ⟨hannouncing, hid, hmembers.listening hq hqc hstatus hopen⟩
    · intro p hp hpc hpb howes
      obtain rfl := hmembers'.unique_tx hp hnew hpb
      exact hnot (hid ▸ howes)

theorem afterFind_sound {frame : ClientFrame} {target : RouteTarget} {found : Option Tx}
    (h : ∀ tx, found = some tx → Backend qs tx) : (Phase.afterFind frame target found).Sound qs := by
  cases found with
  | none => trivial
  | some tx => exact h tx rfl

theorem after_find (h : Lifecycle s.told qs) (hmembers : Members s qs) {k : Nat} {q : Member}
    (hk : qs[k]? = some q) {frame : ClientFrame} {target : RouteTarget} {found : Option Tx}
    (hfound : ∀ tx, found = some tx → Backend qs tx) :
    Lifecycle s.told (qs.set k { q with phase := .afterFind frame target found }) := by
  refine h.update_connection hmembers hk rfl rfl rfl (fun hfresh => hfresh) ?_ ?_ ?_ ?_ (afterFind_sound hfound)
  · intro hknown hgone
    rw [hgone] at hknown
    cases hknown
  · cases found <;> nofun
  · intro hover
    cases found <;> exact ⟨hover.1, nofun, nofun⟩
  · cases found <;> exact fun _ _ howes => howes.elim

section Calls

variable {k : Nat} {q : Member} (h : Lifecycle s.told qs) (hmembers : Members s qs) (hk : qs[k]? = some q)

include h hmembers hk

theorem after_authenticate (hclient : q.client = true) (hgone : q.status ≠ .gone) {first : Bool}
    (hdoes : s.Does (.authenticate q.sessionId) first s') :
    Lifecycle s'.told (qs.set k
      (if first then { q with status := .known, phase := .announcing } else { q with phase := .idle })) := by
  rw [told_channels (hdoes.channels fun _ => rfl)]
  cases first with
  | false => exact h.update_plain_phase hmembers hk .idle rfl
  | true =>
      have hfresh := hmembers.fresh_of_authenticate (Members.mem_of_get hk) hclient hgone hdoes
      refine h.update_connection hmembers hk rfl rfl rfl (fun _ h => by cases h) (fun _ => hgone) (fun _ => hfresh) ?_
        (fun _ _ _ => Or.inr hfresh) trivial
      exact fun hover => absurd hover (Member.not_over hgone)

theorem after_announce (hclient : q.client = true) (hstatus : q.status = .known) (hphase : q.phase = .announcing)
    (hdoes : s.Does (.broadcast (.control (.sessionOnlinePush q.sessionId) 0 q.sessionId)) () s')
    (hmembers' : Members s' (qs.set k { q with phase := .idle }))
    (hcalm : ∀ b, s.listening b → Calm qs k b q.sessionId s) :
    Lifecycle s'.told (qs.set k { q with phase := .idle }) := by
  refine h.client_tells hmembers hk .idle rfl hclient hmembers' (by rw [hstatus]; decide)
    (told_broadcast rfl hmembers hdoes) (fun b hb => ?_) (fun b _ => ?_) fun hoffline => by cases hoffline
  · exact ⟨hb.2, hcalm b hb, hmembers.backend_of_listening hb⟩
  · rw [h.told_nil_of_announcing (Members.mem_of_get hk) hclient hphase]
    exact .online

theorem after_forward (hclient : q.client = true) (hstatus : q.status = .known) {frame : ClientFrame}
    {target : RouteTarget} {tx : Tx} (hphase : q.phase = .found frame target tx) {sent : Bool}
    (hdoes : s.Does (.send tx (.toBackend (.business frame.msgId frame.serial q.sessionId frame.payload))) sent s')
    (hmembers' : Members s' (qs.set k { q with phase := .forwarded }))
    (hcalm : tx ∉ s.channels.closed → Calm qs k tx q.sessionId s) :
    Lifecycle s'.told (qs.set k { q with phase := .forwarded }) := by
  have hq := Members.mem_of_get hk
  have hbackend := h.sound q hq
  rw [hphase] at hbackend
  have hgone : q.status ≠ .gone := by rw [hstatus]; decide
  refine h.client_tells hmembers hk .forwarded rfl hclient hmembers' (by rw [hstatus]; decide)
    (told_send rfl hdoes) (fun b hb => ?_) (fun b _ => ?_) fun hoffline => by cases hoffline
  · obtain ⟨rfl, hopen⟩ := hb
    exact ⟨hopen, hcalm hopen, hbackend⟩
  · exact (h.ordered b _).append (h.not_offline hq hclient (Member.not_over hgone) b) (by decide)

theorem after_remove (hgone : q.status ≠ .gone) {was : Bool}
    (hdoes : s.Does (.removeSession q.sessionId) was s') :
    Lifecycle s'.told (qs.set k { q with status := .gone, phase := .departed was }) := by
  rw [told_channels (hdoes.channels fun _ => rfl)]
  refine h.update_connection hmembers hk rfl rfl rfl (fun _ h => ?_) (fun h => ?_) (fun h => ?_)
    (fun hover => absurd hover (Member.not_over hgone)) (fun _ _ howes => howes.elim) trivial
  all_goals cases h

theorem after_cleanup (hgone : q.status = .gone) {was : Bool} (hphase : q.phase = .departed was)
    (hdoes : s.Does (.cleanupSession q.sessionId) () s') :
    Lifecycle s'.told (qs.set k { q with phase := if was then .departing else .idle }) := by
  rw [told_channels (hdoes.channels fun _ => rfl)]
  refine h.update_connection hmembers hk rfl rfl rfl (fun hfresh => hfresh) ?_ ?_ ?_ ?_ ?_
  · intro hknown _
    rw [hgone] at hknown
    cases hknown
  · cases was <;> exact fun h => by cases h
  · exact fun hover => absurd hphase (hover.2.2 was)
  · cases was <;> exact fun _ _ howes => howes.elim
  · cases was <;> trivial

theorem after_depart (hclient : q.client = true) (hgone : q.status = .gone) (hphase : q.phase = .departing)
    (hdoes : s.Does (.broadcast (.control (.sessionOfflinePush q.sessionId) 0 q.sessionId)) () s')
    (hmembers' : Members s' (qs.set k { q with phase := .idle }))
    (hcalm : ∀ b, s.listening b → Calm qs k b q.sessionId s) :
    Lifecycle s'.told (qs.set k { q with phase := .idle }) := by
  refine h.client_tells hmembers hk .idle rfl hclient hmembers' (by rw [hgone]; decide)
    (told_broadcast rfl hmembers hdoes) (fun b hb => ?_) (fun b _ => ?_) fun _ => hgone
  · exact ⟨hb.2, hcalm b hb, hmembers.backend_of_listening hb⟩
  · have hover : ¬ q.Over := fun hover => hover.2.1 hphase
    exact (h.ordered b _).append (h.not_offline (Members.mem_of_get hk) hclient hover b) (by decide)

theorem after_register (hclient : q.client = false) (hgone : q.status ≠ .gone) {serviceId : UInt8}
    {instanceId : UInt32} {result : RegisterResult}
    (hdoes : s.Does (.register q.sessionId serviceId instanceId q.tx) result s') :
    Lifecycle s'.told (qs.set k
      (if result = .registered then { q with status := .known, phase := .enlisted } else q)) := by
  rw [told_channels (hdoes.channels fun _ => rfl)]
  by_cases hresult : result = .registered
  · rw [if_pos hresult]
    subst hresult
    have hfresh := hmembers.fresh_of_register (Members.mem_of_get hk) hclient hgone hdoes
    refine h.update_connection hmembers hk rfl rfl rfl (fun _ h => ?_) (fun _ => hgone) (fun h => ?_)
      (fun hover => absurd hover (Member.not_over hgone)) (fun _ _ _ => Or.inr hfresh) trivial
    all_goals cases h
  · rw [if_neg hresult, Members.set_self hk]
    exact h

theorem after_survey (hstatus : q.status = .known) (hphase : q.phase = .enlisted) {sessions : List UInt32}
    (hdoes : s.Does .authenticatedSessions sessions s') :
    Lifecycle s'.told (qs.set k { q with phase := .surveyed }) := by
  rw [told_channels (hdoes.channels fun _ => rfl)]
  have hgone : q.status ≠ .gone := by rw [hstatus]; decide
  refine h.update_connection hmembers hk rfl rfl rfl (fun hfresh => hfresh) (fun _ => hgone) (fun h => by cases h)
    (fun hover => absurd hover (Member.not_over hgone)) (fun c _ howes => Or.inl ?_) trivial
  rwa [Member.Owes, hphase]

theorem after_list (hstatus : q.status = .known) (hphase : q.phase = .surveyed) {sessions : List UInt32}
    (hdoes : s.Does .authenticatedSessions sessions s') :
    Lifecycle s'.told (qs.set k { q with phase := .telling sessions }) := by
  rw [told_channels (hdoes.channels fun _ => rfl)]
  have hgone : q.status ≠ .gone := by rw [hstatus]; decide
  obtain ⟨hnodup, hmem⟩ := hdoes.authenticatedSessions
  refine h.update_connection hmembers hk rfl rfl rfl (fun hfresh => hfresh) (fun _ => hgone) (fun h => by cases h)
    (fun hover => absurd hover (Member.not_over hgone)) (fun c hc howes => Or.inl ?_) ⟨hnodup, fun S hS => ?_⟩
  · obtain ⟨c', hc', -, hid, hknown⟩ := hmembers.known_of_authenticated ((hmem _).1 howes)
    rw [Member.Owes, hphase]
    rwa [← hmembers.unique hc' hc hid]
  · obtain ⟨c, hc, hcc, hid, hknown⟩ := hmembers.known_of_authenticated ((hmem _).1 hS)
    exact ⟨c, hc, hcc, hid, by rw [hknown]; decide⟩

theorem after_unregister (hgone : q.status ≠ .gone) {removed : Option (UInt8 × UInt32)}
    (hdoes : s.Does (.unregister q.sessionId) removed s') :
    Lifecycle s'.told (qs.set k { q with status := .gone, phase := .idle }) := by
  rw [told_channels (hdoes.channels fun _ => rfl)]
  refine h.update_connection hmembers hk rfl rfl rfl (fun _ h => ?_) (fun h => ?_) (fun h => ?_)
    (fun hover => absurd hover (Member.not_over hgone)) (fun _ _ howes => howes.elim) trivial
  all_goals cases h

end Calls

theorem after_call (h : Lifecycle s.told qs) (hmembers : Members s qs) {k : Nat} {q q' : Member} {op : Op}
    {answer : op.Answer} (hk : qs[k]? = some q) (hmoves : Moves q op answer q')
    (hdoes : s.Does op answer s') (hmembers' : Members s' (qs.set k q'))
    (hcalm : ∀ b S kind, Puts b S kind s op → Calm qs k b S s) : Lifecycle s'.told (qs.set k q') := by
  have hsound := hmembers.sound q (Members.mem_of_get hk)
  cases hmoves with
  | quiet hquiet _ =>
      rw [told_news fun b => (hdoes.news_quiet hquiet b).1, Members.set_self hk]
      exact h
  | survey _ =>
      rw [told_channels (hdoes.channels fun _ => rfl), Members.set_self hk]
      exact h
  | binds hop _ _ =>
      have hsilent := hdoes.news_silent fun _ hmessage => by rw [Op.message_binds hop] at hmessage; cases hmessage
      rw [told_news fun b => (hsilent b).1, Members.set_self hk]
      exact h
  | relay _ _ =>
      have hsilent := hdoes.news_silent fun _ hmessage => by rw [← Option.some.inj hmessage]; rfl
      rw [told_news fun b => (hsilent b).1, Members.set_self hk]
      exact h
  | start _ =>
      rw [told_channels (hdoes.channels fun _ => rfl)]
      exact h.update_plain_phase hmembers hk .idle rfl
  | authenticate hphase =>
      rw [Member.Sound, hphase] at hsound
      exact h.after_authenticate hmembers hk hsound.1 hsound.2 hdoes
  | announce hphase =>
      rw [Member.Sound, hphase] at hsound
      exact h.after_announce hmembers hk hsound.1 hsound.2 hphase hdoes hmembers' fun b hb =>
        hcalm b _ .online ⟨hb, rfl⟩
  | @check frame authenticated hphase =>
      rw [told_channels (hdoes.channels fun _ => rfl)]
      refine h.update_plain_phase hmembers hk _ ?_
      cases authenticated <;> rfl
  | @resolve frame target hphase =>
      rw [told_channels (hdoes.channels fun _ => rfl)]
      refine h.update_plain_phase hmembers hk _ ?_
      cases target <;> rfl
  | findByService hphase =>
      rw [told_channels (hdoes.channels fun _ => rfl)]
      refine h.after_find hmembers hk fun tx hfound => ?_
      subst hfound
      obtain ⟨x, identity, hx, -, rfl⟩ := hdoes.findByService
      exact hmembers.backend_of_registered hx
  | findByInstance hphase =>
      rw [told_channels (hdoes.channels fun _ => rfl)]
      refine h.after_find hmembers hk fun tx hfound => ?_
      subst hfound
      obtain ⟨x, identity, hx, -, -, rfl⟩ := hdoes.findByInstance
      exact hmembers.backend_of_registered hx
  | forward hphase =>
      rw [Member.Sound, hphase] at hsound
      exact h.after_forward hmembers hk hsound.1 hsound.2 hphase hdoes hmembers' fun hopen =>
        hcalm _ _ .business ⟨rfl, hopen, rfl⟩
  | remove hclient hphase =>
      rw [Member.Sound, hphase] at hsound
      exact h.after_remove hmembers hk hsound hdoes
  | cleanup hphase =>
      rw [Member.Sound, hphase] at hsound
      exact h.after_cleanup hmembers hk hsound.2 hphase hdoes
  | depart hphase =>
      rw [Member.Sound, hphase] at hsound
      exact h.after_depart hmembers hk hsound.1 hsound.2 hphase hdoes hmembers' fun b hb =>
        hcalm b _ .offline ⟨hb, rfl⟩
  | register hclient hstatus hphase => exact h.after_register hmembers hk hclient hstatus hdoes
  | survey' hphase =>
      rw [Member.Sound, hphase] at hsound
      exact h.after_survey hmembers hk hsound.2 hphase hdoes
  | list hphase =>
      rw [Member.Sound, hphase] at hsound
      exact h.after_list hmembers hk hsound.2 hphase hdoes
  | tell hphase =>
      exact h.after_tell hmembers hk hphase hdoes hmembers' fun hopen => hcalm _ _ .online ⟨rfl, hopen, rfl⟩
  | unregister hclient hphase =>
      rw [Member.Sound, hphase] at hsound
      exact h.after_unregister hmembers hk hsound hdoes

theorem after_input (h : Lifecycle s.told qs) (hmembers : Members s qs) {m : MessageMap} {k : Nat}
    {q q' : Member} {e : Input} (hk : qs[k]? = some q) (hbegins : Begins m q e q') :
    Lifecycle s.told (qs.set k q') := by
  cases hbegins with
  | start =>
      refine h.update_plain_phase hmembers hk _ ?_
      split_ifs <;> rfl
  | clientFrame frame _ =>
      refine h.update_plain_phase hmembers hk _ ?_
      rw [Phase.ofFrame]
      split_ifs <;> rfl
  | backendFrame frame _ => exact h.update_plain_phase hmembers hk .idle rfl
  | close => exact h.update_plain_phase hmembers hk .closing rfl

theorem after_opens (h : Lifecycle s.told qs) {conn : Connection} (hmembers' : Members s' (qs ++ [.new conn])) :
    Lifecycle s.told (qs ++ [.new conn]) := by
  have hold : ∀ p ∈ qs, p ∈ qs ++ [Member.new conn] := fun p hp => List.mem_append_left _ hp
  have hnew : Member.new conn ∈ qs ++ [Member.new conn] := List.mem_append_right _ List.mem_cons_self
  have hcases : ∀ p ∈ qs ++ [Member.new conn], p = .new conn ∨ p ∈ qs := by
    intro p hp
    rcases List.mem_append.1 hp with hp | hp
    · exact Or.inr hp
    · exact Or.inl (List.mem_singleton.1 hp)
  have hclients : ∀ S, Client qs S → Client (qs ++ [.new conn]) S := by
    rintro S ⟨c, hc, hrest⟩
    exact ⟨c, hold c hc, hrest⟩
  have hbackends : ∀ b, Backend qs b → Backend (qs ++ [.new conn]) b := by
    rintro b ⟨q, hq, hrest⟩
    exact ⟨q, hold q hq, hrest⟩
  -- Nothing was told about the new session.
  have hnone : ∀ b, s.told b (Member.new conn).sessionId = [] := by
    intro b
    by_contra htold
    obtain ⟨c, hc, -, hid, hstatus⟩ := h.client b _ htold
    rw [hmembers'.unique (hold c hc) hnew hid] at hstatus
    exact hstatus rfl
  refine ⟨h.ordered, fun b S ht => hclients S (h.client b S ht), fun b S ht => hbackends b (h.backend b S ht),
    fun b c hc hcc htold => ?_, fun b c hc hcc hoffline => ?_, fun p hp => ?_⟩
  · rcases hcases c hc with rfl | hc
    · exact absurd (hnone b) htold
    · obtain ⟨hphase, hsettled⟩ := h.settled b c hc hcc htold
      refine ⟨hphase, fun p hp hpc hpb => ?_⟩
      rcases hcases p hp with rfl | hp
      · exact Member.not_owes rfl
      · exact hsettled p hp hpc hpb
  · rcases hcases c hc with rfl | hc
    · rw [hnone] at hoffline
      cases hoffline
    · exact h.final b c hc hcc hoffline
  · rcases hcases p hp with rfl | hp
    · trivial
    · have hsound := h.sound p hp
      cases hphase : p.phase with
      | telling sessions =>
          rw [hphase] at hsound
          exact ⟨hsound.1, fun S hS => hclients S (hsound.2 S hS)⟩
      | found frame target tx =>
          rw [hphase] at hsound
          exact hbackends tx hsound
      | _ => trivial

end Lifecycle

/-! ### Runs -/

/-- One handler at a time disturbs nobody. -/
theorem Undisturbed.of_alone {pool : Pool signature Shared Connection}
    {e : Event signature Connection Input} (h : Alone pool e) : Undisturbed pool e := by
  cases e with
  | call k c =>
      intro b S kind _ j p hj hp
      obtain ⟨conn, rfl⟩ := h j hj p hp
      exact Program.not_reaches_ret
  | _ => trivial

/-- **The order of what a backend hears.** In every run with fewer than `2 ^ 32 - 1` connections in which
nobody disturbs an announcement, each channel tells about each session in order. -/
theorem inOrder_of_run {m : MessageMap} {rules : List RouteRule}
    {trace : List (Pool signature Shared Connection × Event signature Connection Input)}
    {pool : Pool signature Shared Connection} (hrun : Run (Step (system m)) (initial rules) trace pool)
    (hconnections : pool.threads.length < 2 ^ 32 - 1) (hundisturbed : ∀ e ∈ trace, Undisturbed e.1 e.2)
    (b : Tx) (S : UInt32) : InOrder (pool.shared.told b S) := by
  obtain ⟨qs, htracks, hinv⟩ := (guide m).invariant rfl hrun Undisturbed hundisturbed
    (fun _ s qs => qs.length < 2 ^ 32 - 1 → Members s qs ∧ Lifecycle s.told qs)
    (fun _ => ⟨.init rules, .init⟩) (by
      intro trace pool qs e s' qs' htracks hinv hcalm hstep hlen
      obtain ⟨hmembers, h⟩ := hinv (hstep.length_le.trans_lt hlen)
      have hmembers' := Members.step hstep hlen hmembers
      refine ⟨hmembers', ?_⟩
      cases hstep with
      | opens hopens =>
          have htold : s'.told = pool.shared.told := by
            obtain ⟨-, -, rfl⟩ := hopens
            rfl
          rw [htold]
          exact h.after_opens hmembers'
      | input hk _ _ hbegins => exact h.after_input hmembers hk hbegins
      | call hk hmoves hdoes =>
          exact h.after_call hmembers hk hmoves hdoes hmembers' fun b S kind hputs => hcalm.calm htracks hputs
      | environment henv =>
          rw [Lifecycle.told_news henv.untouched.news]
          exact h)
  exact (hinv (htracks.length_eq ▸ hconnections)).2.ordered b S

/-- The client of the small gateway sends a business frame and goes. -/
theorem inOrder_of_run_sample : ∃ trace pool,
    Run (Step (system Sample.messages)) (initial Sample.rules) trace pool ∧
      pool.shared.told 0 2 = [.online, .business, .offline] ∧ InOrder (pool.shared.told 0 2) := by
  have hplayed : (Sample.played Sample.messages (Sample.turns ++
    [.input 1 (.clientFrame Sample.business), .input 1 .close])).isSome = true := rfl
  obtain ⟨trace, hrun, halone⟩ := Turn.runs (Sample.played_run hplayed)
  exact ⟨_, _, hrun, rfl, inOrder_of_run hrun (show 2 < 2 ^ 32 - 1 by decide)
    (fun e he => .of_alone (halone e he)) 0 2⟩

/-- A backend registers and has yet to look at the sessions when the client authenticates itself; it
finds the client, which announces itself to all registered backends, and then tells of the client. -/
def Sample.race : List (Slot Connection Input) :=
  [.opens (.accept 1 0 (.internal {})), .input 0 .start, .call 0,
    .opens (.accept 2 1 (.client {})), .input 1 .start, .call 1,
    .input 0 (.backendFrame register), .call 0, .call 0, .call 0, .call 0, .call 0, .call 0,
    .input 1 (.clientFrame statusRequest), .call 1, .call 0, .call 1, .call 0]

theorem online_twice : ∃ trace pool,
    Run (Step (system Sample.messages)) (initial Sample.rules) trace pool ∧ pool.threads.length = 2 ∧
      pool.shared.told 0 2 = [.online, .online] ∧ ¬ InOrder (pool.shared.told 0 2) := by
  have hrace : ((executor Sample.messages).schedule (initial Sample.rules) Sample.race).map
      (fun pool => (pool.threads.length, pool.shared.told 0 2)) = some (2, [.online, .online]) := by
    decide +kernel
  obtain ⟨pool, hpool, heq⟩ := Option.map_eq_some_iff.1 hrace
  obtain ⟨hlength, htold⟩ := Prod.mk.inj heq
  obtain ⟨trace, hrun⟩ := (executor Sample.messages).schedule_sound hpool
  refine ⟨trace, pool, hrun, hlength, htold, fun hordered => ?_⟩
  have hcount := hordered.count_online
  rw [htold] at hcount
  exact absurd hcount (by decide)

end AxmolFighter.Gateway
