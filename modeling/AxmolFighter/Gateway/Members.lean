import AxmolFighter.Gateway.Effects

/-!
# Connections and tables agree

The invariant behind the results on runs of the gateway. While session ids are not reused, the client
sessions are those of the client connections that are not gone, a session is authenticated if and only
if its connection is known, and the registered backends are the known internal connections, each with
the channel of its own connection.
-/

namespace AxmolFighter.Gateway

/-- What a phase says about the connection. -/
def Member.Sound (q : Member) : Prop :=
  match q.phase with
  | .idle | .forwarded => True
  | .starting => q.client = true ∧ q.status = .fresh
  | .requested _ | .received _ => q.client = true ∧ q.status ≠ .gone
  | .announcing | .checked _ | .routed _ _ | .found _ _ _ => q.client = true ∧ q.status = .known
  | .closing => q.status ≠ .gone
  | .departed _ | .departing => q.client = true ∧ q.status = .gone
  | .enlisted | .surveyed | .telling _ => q.client = false ∧ q.status = .known

/-- `qs` are the connections of the shared state `s`. -/
structure Members (s : Shared) (qs : List Member) : Prop where
  counter : s.sessionCounter.toNat = if qs.length = 0 then 0 else qs.length + 1
  id : ∀ k q, qs[k]? = some q → q.sessionId.toNat = k + 1 ∧ q.tx = k
  sound : ∀ q ∈ qs, q.Sound
  known : ∀ q ∈ qs, q.client = true → (s.authenticated q.sessionId = true ↔ q.status = .known)
  session : ∀ S session, s.session S = some session → ∃ q ∈ qs, q.sessionId = S ∧ q.client = true
  registered : ∀ q ∈ qs, q.client = false →
    ((∃ identity, s.backend q.sessionId = some identity) ↔ q.status = .known)
  backend : ∀ x identity, s.backend x = some identity →
    ∃ q ∈ qs, q.client = false ∧ q.sessionId = x ∧ identity.sessionId = x ∧ identity.tx = q.tx

namespace Members

variable {s s' : Shared} {qs : List Member}

theorem init (rules : List RouteRule) : Members (.init rules) [] where
  counter := rfl
  id := nofun
  sound := nofun
  known := nofun
  session := nofun
  registered := nofun
  backend := nofun

theorem mem_of_get {k : Nat} {q : Member} (h : qs[k]? = some q) : q ∈ qs := List.mem_of_getElem? h

theorem set_self {k : Nat} {q : Member} (hk : qs[k]? = some q) : qs.set k q = qs := by
  obtain ⟨hlt, hget⟩ := List.getElem?_eq_some_iff.1 hk
  rw [← hget, List.set_getElem_self]

theorem unique (h : Members s qs) {q q' : Member} (hq : q ∈ qs) (hq' : q' ∈ qs)
    (heq : q.sessionId = q'.sessionId) : q = q' := by
  obtain ⟨k, hk⟩ := List.getElem?_of_mem hq
  obtain ⟨k', hk'⟩ := List.getElem?_of_mem hq'
  have hkk : k = k' := by
    have h₁ := (h.id k q hk).1
    have h₂ := (h.id k' q' hk').1
    rw [heq] at h₁
    omega
  subst hkk
  exact Option.some.inj (hk.symm.trans hk')

theorem unique_tx (h : Members s qs) {q q' : Member} (hq : q ∈ qs) (hq' : q' ∈ qs) (heq : q.tx = q'.tx) :
    q = q' := by
  obtain ⟨k, hk⟩ := List.getElem?_of_mem hq
  obtain ⟨k', hk'⟩ := List.getElem?_of_mem hq'
  obtain rfl : k = k' := by rw [← (h.id k q hk).2, ← (h.id k' q' hk').2, heq]
  exact Option.some.inj (hk.symm.trans hk')

theorem channel (h : Members s qs) {x : UInt32} {identity : Identity}
    (hx : s.backend x = some identity) : x.toNat = identity.tx + 1 := by
  obtain ⟨q, hq, -, rfl, -, htx⟩ := h.backend x identity hx
  obtain ⟨k, hk⟩ := List.getElem?_of_mem hq
  rw [htx, (h.id k q hk).1, (h.id k q hk).2]

theorem distinctChannels (h : Members s qs) : s.DistinctChannels := by
  intro x y i j hx hy htx
  rw [← UInt32.toNat_inj, h.channel hx, h.channel hy, htx]

theorem mem_set {k : Nat} {q q' p : Member} (hk : qs[k]? = some q) (hp : p ∈ qs.set k q') :
    p = q' ∨ (p ∈ qs ∧ ∃ j, j ≠ k ∧ qs[j]? = some p) := by
  obtain ⟨j, hj⟩ := List.getElem?_of_mem hp
  by_cases hjk : k = j
  · subst hjk
    rw [List.getElem?_set_self (List.getElem?_eq_some_iff.1 hk).1] at hj
    exact Or.inl (Option.some.inj hj).symm
  · rw [List.getElem?_set_ne hjk] at hj
    exact Or.inr ⟨mem_of_get hj, j, Ne.symm hjk, hj⟩

/-- A step of one connection that changes the tables at its own session id only. -/
theorem update_connection (h : Members s qs) {k : Nat} {q q' : Member} (hk : qs[k]? = some q)
    (hclient : q'.client = q.client) (hid : q'.sessionId = q.sessionId) (htx : q'.tx = q.tx)
    (hcounter : s'.sessionCounter = s.sessionCounter)
    (hother : ∀ S, S ≠ q.sessionId → s'.session S = s.session S ∧ s'.backend S = s.backend S)
    (hsound : q'.Sound)
    (hknown : q.client = true → (s'.authenticated q.sessionId = true ↔ q'.status = .known))
    (hsession : ∀ session, s'.session q.sessionId = some session → q.client = true)
    (hregistered : q.client = false →
      ((∃ identity, s'.backend q.sessionId = some identity) ↔ q'.status = .known))
    (hbackend : ∀ identity, s'.backend q.sessionId = some identity → q.client = false ∧
      identity.sessionId = q.sessionId ∧ identity.tx = q.tx) : Members s' (qs.set k q') := by
  have hlt : k < qs.length := (List.getElem?_eq_some_iff.1 hk).1
  have hnew : q' ∈ qs.set k q' := mem_of_get (List.getElem?_set_self hlt)
  -- A connection other than `q` is not touched.
  have hrest : ∀ p, p ∈ qs → p ≠ q → p ∈ qs.set k q' ∧ p.sessionId ≠ q.sessionId := by
    intro p hp hne
    refine ⟨?_, fun heq => hne (h.unique hp (mem_of_get hk) heq)⟩
    obtain ⟨j, hj⟩ := List.getElem?_of_mem hp
    have hjk : k ≠ j := by
      rintro rfl
      exact hne (Option.some.inj (hj.symm.trans hk))
    exact mem_of_get ((List.getElem?_set_ne hjk).trans hj)
  have hold : ∀ p, p ∈ qs.set k q' → p = q' ∨ (p ∈ qs ∧ p.sessionId ≠ q.sessionId) := by
    intro p hp
    rcases mem_set hk hp with rfl | ⟨hmem, j, hjk, hj⟩
    · exact Or.inl rfl
    · refine Or.inr ⟨hmem, fun heq => hjk ?_⟩
      have h₁ := (h.id j p hj).1
      have h₂ := (h.id k q hk).1
      rw [heq] at h₁
      omega
  refine ⟨?_, ?_, ?_, ?_, ?_, ?_, ?_⟩
  · rw [hcounter, h.counter, List.length_set]
  · intro j p hj
    by_cases hjk : k = j
    · subst hjk
      rw [List.getElem?_set_self hlt] at hj
      rw [← Option.some.inj hj, hid, htx]
      exact h.id k q hk
    · rw [List.getElem?_set_ne hjk] at hj
      exact h.id j p hj
  · intro p hp
    rcases hold p hp with rfl | ⟨hp, -⟩
    · exact hsound
    · exact h.sound p hp
  · intro p hp hc
    rcases hold p hp with rfl | ⟨hp, hne⟩
    · rw [hid]
      exact hknown (hclient.symm.trans hc)
    · rw [Shared.authenticated, (hother _ hne).1]
      exact h.known p hp hc
  · intro S session hS
    by_cases hSq : S = q.sessionId
    · subst hSq
      exact ⟨q', hnew, hid, hclient.trans (hsession session hS)⟩
    · rw [(hother S hSq).1] at hS
      obtain ⟨p, hp, rfl, hc⟩ := h.session S session hS
      exact ⟨p, (hrest p hp fun heq => hSq (heq ▸ rfl)).1, rfl, hc⟩
  · intro p hp hc
    rcases hold p hp with rfl | ⟨hp, hne⟩
    · rw [hid]
      exact hregistered (hclient.symm.trans hc)
    · rw [(hother _ hne).2]
      exact h.registered p hp hc
  · intro x identity hx
    by_cases hxq : x = q.sessionId
    · subst hxq
      obtain ⟨hc, hi, ht⟩ := hbackend identity hx
      exact ⟨q', hnew, hclient.trans hc, hid, hi, ht.trans htx.symm⟩
    · rw [(hother x hxq).2] at hx
      obtain ⟨p, hp, hc, rfl, hi, ht⟩ := h.backend x identity hx
      exact ⟨p, (hrest p hp fun heq => hxq (heq ▸ rfl)).1, hc, rfl, hi, ht⟩

theorem update_phase (h : Members s qs) {k : Nat} {q : Member} (hk : qs[k]? = some q) (phase : Phase)
    (hcounter : s'.sessionCounter = s.sessionCounter) (hsession : s'.session = s.session)
    (hbackend : s'.backend = s.backend) (hsound : ({ q with phase := phase } : Member).Sound) :
    Members s' (qs.set k { q with phase := phase }) := by
  have hq := mem_of_get hk
  have hauth : s'.authenticated = s.authenticated := by
    funext S
    rw [Shared.authenticated, hsession, Shared.authenticated]
  refine h.update_connection hk rfl rfl rfl hcounter ?_ hsound ?_ ?_ ?_ ?_
  · exact fun S _ => ⟨congrFun hsession S, congrFun hbackend S⟩
  · rw [hauth]
    exact h.known q hq
  · intro session hS
    rw [hsession] at hS
    obtain ⟨p, hp, heq, hc⟩ := h.session _ session hS
    rw [← h.unique hp hq heq]
    exact hc
  · rw [hbackend]
    exact h.registered q hq
  · intro identity hx
    rw [hbackend] at hx
    obtain ⟨p, hp, hc, heq, hi, ht⟩ := h.backend _ identity hx
    rw [h.unique hp hq heq] at hc ht
    exact ⟨hc, hi, ht⟩

theorem update_phase_of_call (h : Members s qs) {k : Nat} {q : Member} (hk : qs[k]? = some q) {op : Op}
    {answer : op.Answer} (hdoes : s.Does op answer s') (hsession : ∀ old S, op.sessionAfter old S = old S)
    (hbackend : op.registers = false) (phase : Phase)
    (hsound : ({ q with phase := phase } : Member).Sound) :
    Members s' (qs.set k { q with phase := phase }) :=
  h.update_phase hk phase hdoes.sessionCounter (hdoes.session_eq hsession) (hdoes.backend hbackend) hsound

theorem update_client (h : Members s qs) {k : Nat} {q q' : Member} (hk : qs[k]? = some q)
    (hq : q.client = true) (hclient : q'.client = q.client) (hid : q'.sessionId = q.sessionId)
    (htx : q'.tx = q.tx) {op : Op} {answer : op.Answer} (hdoes : s.Does op answer s')
    (hbackend : op.registers = false) (hother : ∀ S, S ≠ q.sessionId → s'.session S = s.session S)
    (hsound : q'.Sound) (hknown : s'.authenticated q.sessionId = true ↔ q'.status = .known) :
    Members s' (qs.set k q') := by
  have hback := hdoes.backend hbackend
  refine h.update_connection hk hclient hid htx hdoes.sessionCounter (fun S hS => ⟨hother S hS, by rw [hback]⟩) hsound
    (fun _ => hknown) (fun _ _ => hq) (fun hc => ?_) fun identity hx => ?_
  · rw [hq] at hc
    cases hc
  · rw [hback] at hx
    obtain ⟨p, hp, hc, heq, -⟩ := h.backend _ identity hx
    rw [h.unique hp (mem_of_get hk) heq, hq] at hc
    cases hc

theorem update_backend (h : Members s qs) {k : Nat} {q q' : Member} (hk : qs[k]? = some q)
    (hq : q.client = false) (hclient : q'.client = q.client) (hid : q'.sessionId = q.sessionId)
    (htx : q'.tx = q.tx) {op : Op} {answer : op.Answer} (hdoes : s.Does op answer s')
    (hsession : ∀ old S, op.sessionAfter old S = old S)
    (hother : ∀ x, x ≠ q.sessionId → s'.backend x = s.backend x) (hsound : q'.Sound)
    (hregistered : (∃ identity, s'.backend q.sessionId = some identity) ↔ q'.status = .known)
    (hbackend : ∀ identity, s'.backend q.sessionId = some identity →
      identity.sessionId = q.sessionId ∧ identity.tx = q.tx) : Members s' (qs.set k q') := by
  have hsess := hdoes.session_eq hsession
  refine h.update_connection hk hclient hid htx hdoes.sessionCounter (fun S hS => ⟨by rw [hsess], hother S hS⟩) hsound
    (fun hc => ?_) (fun session hS => ?_) (fun _ => hregistered)
    fun identity hx => ⟨hq, hbackend identity hx⟩
  · rw [hq] at hc
    cases hc
  · rw [hsess] at hS
    obtain ⟨p, hp, heq, hc⟩ := h.session _ session hS
    rw [← h.unique hp (mem_of_get hk) heq]
    exact hc

section Calls

variable {k : Nat} {q : Member} (h : Members s qs) (hk : qs[k]? = some q)

include h hk

theorem after_start (hclient : q.client = true) (hstatus : q.status = .fresh)
    (hdoes : s.Does (.addSession q.sessionId q.tx) () s') : Members s' (qs.set k { q with phase := .idle }) := by
  have hafter := hdoes.session
  refine h.update_client hk hclient rfl rfl rfl hdoes rfl (fun S hS => ?_) trivial ?_
  · exact (hafter S).trans (if_neg hS)
  · rw [Shared.authenticated, (hafter _).trans (if_pos rfl), hstatus]
    simp

theorem after_authenticate (hclient : q.client = true) {first : Bool}
    (hdoes : s.Does (.authenticate q.sessionId) first s') :
    Members s' (qs.set k
      (if first then { q with status := .known, phase := .announcing } else { q with phase := .idle })) := by
  have hafter := hdoes.session
  have hanswer := hdoes.authenticate
  cases first with
  | false =>
      -- there is no such session, or it was authenticated before
      refine h.update_phase hk .idle hdoes.sessionCounter (funext fun S => ?_) (hdoes.backend rfl) trivial
      rw [hafter, Op.sessionAfter]
      split_ifs with hS
      · rw [hS]
        rcases hget : s.session q.sessionId with _ | ⟨tx, _ | _⟩
        · rfl
        · rw [hget] at hanswer
          cases hanswer
        · rfl
      · rfl
  | true =>
      refine h.update_client hk hclient rfl rfl rfl hdoes rfl (fun S hS => ?_) ⟨hclient, rfl⟩ ?_
      · exact (hafter S).trans (if_neg hS)
      · rw [Shared.authenticated, (hafter _).trans (if_pos rfl)]
        rcases hget : s.session q.sessionId with _ | session
        · rw [hget] at hanswer
          cases hanswer
        · exact ⟨fun _ => rfl, fun _ => rfl⟩

theorem after_remove (hclient : q.client = true) {was : Bool}
    (hdoes : s.Does (.removeSession q.sessionId) was s') :
    Members s' (qs.set k { q with status := .gone, phase := .departed was }) := by
  have hafter := hdoes.session
  refine h.update_client hk hclient rfl rfl rfl hdoes rfl (fun S hS => ?_) ⟨hclient, rfl⟩ ?_
  · exact (hafter S).trans (if_neg hS)
  · rw [Shared.authenticated, (hafter _).trans (if_pos rfl)]
    simp

theorem after_register (hclient : q.client = false) (hsound : q.Sound) {serviceId : UInt8} {instanceId : UInt32}
    {result : RegisterResult} (hdoes : s.Does (.register q.sessionId serviceId instanceId q.tx) result s') :
    Members s' (qs.set k
      (if result = .registered then { q with status := .known, phase := .enlisted } else q)) := by
  obtain ⟨-, hafter⟩ := hdoes.register
  by_cases hresult : result = .registered
  · rw [if_pos hresult]
    have hnew := (hafter q.sessionId).trans (if_pos ⟨hresult, rfl⟩)
    refine h.update_backend hk hclient rfl rfl rfl hdoes (fun _ _ => rfl) (fun x hx => ?_)
      ⟨hclient, rfl⟩ ⟨fun _ => rfl, fun _ => ⟨_, hnew⟩⟩ fun identity hx => ?_
    · exact (hafter x).trans (if_neg fun h => hx h.2)
    · rw [hnew] at hx
      obtain rfl := Option.some.inj hx
      exact ⟨rfl, rfl⟩
  · rw [if_neg hresult]
    refine h.update_phase hk q.phase hdoes.sessionCounter (hdoes.session_eq fun _ _ => rfl) ?_ hsound
    exact funext fun x => (hafter x).trans (if_neg fun h => hresult h.1)

theorem after_unregister (hclient : q.client = false) {removed : Option (UInt8 × UInt32)}
    (hdoes : s.Does (.unregister q.sessionId) removed s') :
    Members s' (qs.set k { q with status := .gone, phase := .idle }) := by
  have hafter := hdoes.unregister
  have hnone := (hafter q.sessionId).trans (if_pos rfl)
  refine h.update_backend hk hclient rfl rfl rfl hdoes (fun _ _ => rfl) (fun x hx => ?_) trivial ?_
    fun identity hx => ?_
  · exact (hafter x).trans (if_neg hx)
  · rw [hnone]
    simp
  · rw [hnone] at hx
    cases hx

end Calls

theorem after_call (h : Members s qs) {k : Nat} {q q' : Member} {op : Op} {answer : op.Answer}
    (hk : qs[k]? = some q) (hmoves : Moves q op answer q') (hdoes : s.Does op answer s') :
    Members s' (qs.set k q') := by
  have hsound := h.sound q (mem_of_get hk)
  cases hmoves with
  | quiet hquiet _ =>
      exact h.update_phase_of_call hk hdoes (Op.sessionAfter_quiet hquiet) (Op.registers_quiet hquiet) q.phase hsound
  | survey | relay => exact h.update_phase_of_call hk hdoes (fun _ _ => rfl) rfl q.phase hsound
  | binds hop =>
      exact h.update_phase_of_call hk hdoes (Op.sessionAfter_binds hop) (Op.registers_binds hop) q.phase hsound
  | start hphase =>
      rw [Member.Sound, hphase] at hsound
      exact h.after_start hk hsound.1 hsound.2 hdoes
  | authenticate hphase =>
      rw [Member.Sound, hphase] at hsound
      exact h.after_authenticate hk hsound.1 hdoes
  | announce hphase => exact h.update_phase_of_call hk hdoes (fun _ _ => rfl) rfl .idle trivial
  | @check frame authenticated hphase =>
      rw [Member.Sound, hphase] at hsound
      have hanswer := hdoes.isAuthenticated
      refine h.update_phase_of_call hk hdoes (fun _ _ => rfl) rfl _ ?_
      cases authenticated with
      | false => trivial
      | true => exact ⟨hsound.1, (h.known q (mem_of_get hk) hsound.1).1 hanswer.symm⟩
  | @resolve frame target hphase =>
      rw [Member.Sound, hphase] at hsound
      refine h.update_phase_of_call hk hdoes (fun _ _ => rfl) rfl _ ?_
      cases target <;> first | exact hsound | trivial
  | @findByService frame serviceId found hphase | @findByInstance frame serviceId instanceId found hphase =>
      rw [Member.Sound, hphase] at hsound
      refine h.update_phase_of_call hk hdoes (fun _ _ => rfl) rfl _ ?_
      cases found <;> first | exact hsound | trivial
  | forward hphase => exact h.update_phase_of_call hk hdoes (fun _ _ => rfl) rfl .forwarded trivial
  | remove hclient hphase => exact h.after_remove hk hclient hdoes
  | @cleanup was hphase =>
      rw [Member.Sound, hphase] at hsound
      refine h.update_phase_of_call hk hdoes (fun _ _ => rfl) rfl _ ?_
      cases was <;> first | exact hsound | trivial
  | depart hphase => exact h.update_phase_of_call hk hdoes (fun _ _ => rfl) rfl .idle trivial
  | register hclient hstatus hphase => exact h.after_register hk hclient hsound hdoes
  | survey' hphase =>
      rw [Member.Sound, hphase] at hsound
      exact h.update_phase_of_call hk hdoes (fun _ _ => rfl) rfl .surveyed hsound
  | list hphase | tell hphase =>
      rw [Member.Sound, hphase] at hsound
      exact h.update_phase_of_call hk hdoes (fun _ _ => rfl) rfl (.telling _) hsound
  | unregister hclient hphase => exact h.after_unregister hk hclient hdoes

theorem after_input (h : Members s qs) {m : MessageMap} {k : Nat} {q q' : Member} {conn : Connection}
    {e : Input} (hk : qs[k]? = some q) (hrests : q.Rests conn) (hhandle : (conn.handle m e).isSome)
    (hbegins : Begins m q e q') : Members s (qs.set k q') := by
  obtain ⟨p, hp⟩ := Option.isSome_iff_exists.1 hhandle
  cases hbegins with
  | start =>
      simp only [Connection.handle, Option.ite_none_right_eq_some] at hp
      refine h.update_phase hk _ rfl rfl rfl ?_
      cases hclient : q.client with
      | false => trivial
      | true => exact ⟨rfl, hrests.fresh hp.1⟩
  | clientFrame frame hclient =>
      have hstage : conn.stage = .running := by
        cases hstage : conn.stage <;> simp [Connection.handle, hstage] at hp ⊢
      have hgone := hrests.running hstage
      refine h.update_phase hk _ rfl rfl rfl ?_
      rw [Member.Sound]
      dsimp only [Phase.ofFrame]
      split_ifs
      · exact ⟨hclient, hgone⟩
      · exact ⟨hclient, hgone⟩
      · trivial
  | backendFrame frame hclient => exact h.update_phase hk .idle rfl rfl rfl trivial
  | close =>
      simp only [Connection.handle, Option.ite_none_right_eq_some] at hp
      exact h.update_phase hk .closing rfl rfl rfl (hrests.running hp.1)

theorem after_environment (h : Members s qs) (hs : s.Untouched s') : Members s' qs where
  counter := by rw [hs.sessionCounter, h.counter]
  id := h.id
  sound := h.sound
  known := by
    intro q hq hc
    rw [Shared.authenticated, hs.session]
    exact h.known q hq hc
  session := by
    intro S session hS
    rw [hs.session] at hS
    exact h.session S session hS
  registered := by
    rw [hs.backend]
    exact h.registered
  backend := by
    rw [hs.backend]
    exact h.backend

theorem createSessionId_toNat {counter : UInt32} {n : Nat}
    (hcounter : counter.toNat = if n = 0 then 0 else n + 1) (hn : n + 1 < 2 ^ 32 - 1) :
    (createSessionId counter).1.toNat = n + 1 ∧ (createSessionId counter).2.toNat = n + 2 := by
  rw [createSessionId]
  by_cases hzero : n = 0
  · subst hzero
    obtain rfl : counter = 0 := UInt32.toNat_inj.1 hcounter
    exact ⟨rfl, rfl⟩
  · rw [if_neg hzero] at hcounter
    rw [if_pos (by rw [gt_iff_lt, UInt32.lt_iff_toNat_lt, hcounter]; exact Nat.succ_pos n)]
    refine ⟨hcounter, ?_⟩
    rw [UInt32.toNat_add, hcounter]
    exact Nat.mod_eq_of_lt (by simp; omega)

theorem after_opens (h : Members s qs) {conn : Connection} (hlen : qs.length + 1 < 2 ^ 32 - 1)
    (hopens : Gateway.opens s qs.length conn s') :
    Members s' (qs ++ [.new conn]) := by
  obtain ⟨-, hconn, rfl⟩ := hopens
  have hcounter := h.counter
  have hid : conn.sessionId.toNat = qs.length + 1 ∧ conn.tx = qs.length ∧
      (createSessionId s.sessionCounter).2.toNat = qs.length + 2 := by
    obtain ⟨hfirst, hsecond⟩ := createSessionId_toNat hcounter hlen
    rw [hconn]
    exact ⟨hfirst, rfl, hsecond⟩
  obtain ⟨hid, htx, hnext⟩ := hid
  have hnew : ∀ q ∈ qs, q.sessionId ≠ conn.sessionId := by
    intro q hq heq
    obtain ⟨k, hk⟩ := List.getElem?_of_mem hq
    have hk' := (h.id k q hk).1
    have hlt := (List.getElem?_eq_some_iff.1 hk).1
    rw [heq] at hk'
    omega
  have hsession : s.session conn.sessionId = none := by
    cases hS : s.session conn.sessionId with
    | none => rfl
    | some session =>
        obtain ⟨q, hq, heq, -⟩ := h.session _ session hS
        exact absurd heq (hnew q hq)
  have hbackend : s.backend conn.sessionId = none := by
    cases hx : s.backend conn.sessionId with
    | none => rfl
    | some identity =>
        obtain ⟨q, hq, -, heq, -⟩ := h.backend _ identity hx
        exact absurd heq (hnew q hq)
  have hmem : ∀ q, q ∈ qs ++ [Member.new conn] → q ∈ qs ∨ q = .new conn := by
    intro q hq
    simpa using hq
  refine ⟨?_, ?_, ?_, ?_, ?_, ?_, ?_⟩
  · rw [hnext, if_neg (by simp), List.length_append, List.length_singleton]
  · intro k q hk
    rw [List.getElem?_append] at hk
    split_ifs at hk with hlt
    · exact h.id k q hk
    · obtain ⟨hk0, rfl⟩ := List.getElem?_eq_some_iff.1 hk
      rw [List.length_singleton] at hk0
      obtain rfl : k = qs.length := by omega
      simpa using ⟨hid, htx⟩
  · intro q hq
    rcases hmem q hq with hq | rfl
    · exact h.sound q hq
    · trivial
  · intro q hq hc
    rcases hmem q hq with hq | rfl
    · exact h.known q hq hc
    · have hauth : s.authenticated conn.sessionId = false := by rw [Shared.authenticated, hsession]; rfl
      exact iff_of_false (fun h => Bool.false_ne_true (hauth.symm.trans h)) fun hknown => by cases hknown
  · intro S session hS
    obtain ⟨q, hq, hid, hc⟩ := h.session S session hS
    exact ⟨q, List.mem_append_left _ hq, hid, hc⟩
  · intro q hq hc
    rcases hmem q hq with hq | rfl
    · exact h.registered q hq hc
    · refine iff_of_false ?_ fun hknown => by cases hknown
      rintro ⟨identity, hx⟩
      cases hbackend.symm.trans hx
  · intro x identity hx
    obtain ⟨q, hq, hc, hid, hrest⟩ := h.backend x identity hx
    exact ⟨q, List.mem_append_left _ hq, hc, hid, hrest⟩

end Members

theorem Members.step {m : MessageMap} {s s' : Shared} {qs qs' : List Member}
    {e : Pool.Event signature Connection Input} (hstep : (guide m).Step (s, qs) e (s', qs'))
    (hlen : qs'.length < 2 ^ 32 - 1) (h : Members s qs) : Members s' qs' := by
  cases hstep with
  | opens hopens =>
      rw [List.length_append, List.length_singleton] at hlen
      exact h.after_opens hlen hopens
  | input hk hstops hhandle hbegins => exact h.after_input hk hstops hhandle hbegins
  | call hk hmoves hdoes => exact h.after_call hk hmoves hdoes
  | environment henv => exact h.after_environment henv.untouched

end AxmolFighter.Gateway
