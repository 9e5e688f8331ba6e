import AxmolFighter.Gateway.Outlook

/-!
# Server membership

The list in an answer and the pushes can overtake each other: a push can come before the answer that it should
amend, and the end of one connection can be told after its instance has registered again. `Timely` says when a
push does not do that; then what every backend knows is what the registry holds.
-/

namespace AxmolFighter.Gateway

open Pool

/-! ### Pushes at their time -/

section Timely

variable (pool : Pool signature Shared Connection)

/-- The next call of the connection answers its registration with this list. -/
def AnswersNext (b : Tx) (servers : List ServiceEndpoint) : Prop :=
  ∃ serial next, pool.threads[b]? = some
    (.call (.send b (.toBackend (.control (.serverRegResp serverRegOk servers) serial 0))) next)

/-- The connection still has to answer its registration. -/
def WillAnswer (b : Tx) : Prop :=
  ∃ p, pool.threads[b]? = some p ∧ p.Comes fun op : Op => op.accepts = true

/-- The connection still has to announce its backend. -/
def WillAnnounce (b : Tx) : Prop :=
  ∃ p, pool.threads[b]? = some p ∧ p.Comes fun op : Op => op.announces = true

/-- The next call of the thread tells that the instance is offline. -/
def LeavesNext (j : Nat) (server : ServiceEndpoint) : Prop :=
  ∃ x serial sessionId next, pool.threads[j]? = some (.call (.broadcastExcept x
    (.control (.serverOfflinePush server.serviceId server.instanceId) serial sessionId)) next)

/-- A push to the other backends comes at its time. An announcement does not come before an answer whose list
lacks the instance, and the service that it names is the registered one. The end of a connection is not told
before an answer whose list has the instance for no other reason, nor after another connection has announced
itself as the same instance. -/
def Timely (k : Nat) : Op → Prop
  | .broadcastExcept x (.control (.serverOnlinePush serviceId instanceId) _ _) =>
      ∀ y listener, y ≠ x → pool.shared.backend y = some listener → listener.tx ∉ pool.shared.channels.closed →
        (∀ servers, AnswersNext pool listener.tx servers →
          Server.endpoint (serviceId.toUInt8, instanceId) ∈ servers) ∧
        (¬ WillAnswer pool listener.tx → serviceId.toNat < 256)
  | .broadcastExcept x (.control (.serverOfflinePush serviceId instanceId) _ _) =>
      ∀ y listener, y ≠ x → pool.shared.backend y = some listener → listener.tx ∉ pool.shared.channels.closed →
        (∀ servers, AnswersNext pool listener.tx servers → ⟨serviceId, instanceId⟩ ∈ servers →
          (∃ z other, z ≠ y ∧ pool.shared.backend z = some other ∧
            Server.endpoint other.server = ⟨serviceId, instanceId⟩) ∨
            ∃ j, j ≠ k ∧ LeavesNext pool j ⟨serviceId, instanceId⟩) ∧
        (¬ WillAnswer pool listener.tx → ∀ z other, z ≠ y → pool.shared.backend z = some other →
          Server.endpoint other.server = ⟨serviceId, instanceId⟩ → WillAnnounce pool other.tx)
  | _ => True

def TimelyStep : Pool.Event signature Connection Input → Prop
  | .call k c => Timely pool k c.op
  | _ => True

end Timely

namespace Server

variable {m : MessageMap} {pool : Pool signature Shared Connection} {qs : List Server} {j k : Nat} {q p : Server}

/-- What the threads say about a registered backend. -/
theorem Informed.listener (h : Informed pool.shared qs) (htracks : (guide m).Tracks qs pool.threads)
    (hj : qs[j]? = some p) {identity : Identity} (hx : pool.shared.backend p.sessionId = some identity) :
    identity.tx = p.tx ∧
      (∀ a b result servers, p.phase = .listed a b result servers → result.accepted = true →
        AnswersNext pool identity.tx servers) ∧
      (p.phase.awaits = false → ¬ WillAnswer pool identity.tx) ∧
      (p.phase.owes = false → ¬ WillAnnounce pool identity.tx) := by
  have htx : identity.tx = j ∧ p.tx = j := by
    obtain ⟨j', p', hj', -, -, hid, -, htx, -⟩ := h.census.backend _ identity hx
    rw [htx, (h.census.id j p hj).2]
    exact ⟨h.census.index_eq hj' hj hid, rfl⟩
  obtain ⟨htx, hptx⟩ := htx
  obtain ⟨program, hprogram, hfollows⟩ := htracks.get' hj
  refine ⟨htx.trans hptx.symm, fun a b result servers hphase haccepted => ?_, ?_, ?_⟩
  · obtain ⟨serial, next, rfl⟩ := answers_next hfollows hphase haccepted
    rw [hptx] at hprogram
    exact ⟨serial, next, htx.symm ▸ hprogram⟩
  · rintro hawaits ⟨program', hprogram', hcomes⟩
    rw [htx, hprogram] at hprogram'
    exact not_comes_accepts hfollows hawaits (Option.some.inj hprogram' ▸ hcomes)
  · rintro howes ⟨program', hprogram', hcomes⟩
    rw [htx, hprogram] at hprogram'
    exact not_comes_announces hfollows howes (Option.some.inj hprogram' ▸ hcomes)

theorem Informed.step {e : Pool.Event signature Connection Input} {s' : Shared} {qs' : List Server}
    (h : Informed pool.shared qs) (htracks : (guide m).Tracks qs pool.threads)
    (hstep : (guide m).Step (pool.shared, qs) e (s', qs')) (hlen : qs'.length < 2 ^ 32 - 1)
    (htimely : TimelyStep pool e) : Informed s' qs' := by
  have hcensus := h.census.step hstep hlen
  cases hstep with
  | opens hopens =>
      rw [List.length_append, List.length_singleton] at hlen
      exact h.after_opens hlen hopens
  | input hk hrests _ hbegins => exact h.after_input hk hrests hbegins
  | environment henv => exact h.after_environment henv
  | call hk hmoves hdoes =>
      rename_i k q q' op answer
      have hmoves : Moves q op answer q' := hmoves
      have hsession : ∀ i p, i ≠ k → qs[i]? = some p → p.sessionId ≠ q.sessionId :=
        fun i p hik hi heq => hik (h.census.index_eq hi hk heq)
      cases hmoves with
      | plain hplain _ =>
          have hop : op.registers = false := by
            cases op <;> first | rfl | cases hplain
          have hknown := hdoes.known_plain hplain
          refine h.update_quiet_connection hk hcensus (h.sound q (List.mem_of_getElem? hk)) rfl id (fun _ _ => id) (hdoes.backend hop)
            hdoes.closed (fun b _ => hknown b) fun identity hx hclosed hread => ?_
          obtain ⟨servers, hservers, hagrees⟩ := h.view k q identity hk hx hclosed hread
          exact ⟨servers, (outlook_congr (hknown _)).trans hservers, hagrees⟩
      | register hinternal hopen hphase => exact h.after_register hk hinternal hopen hphase hdoes
      | list hphase => exact h.after_list hk hphase hdoes hcensus
      | answer hphase hcode => exact h.after_answer hk hphase hcode hdoes hcensus
      | unregister _ hphase => exact h.after_unregister hk hphase hdoes
      | announce hphase =>
          refine h.after_announcement hk hphase hdoes hcensus ?_ ?_
          · intro i p identity a b result servers hik hi hx hclosed hlisted haccepted
            obtain ⟨htx, hanswers, -⟩ := h.listener htracks hi hx
            exact (htimely _ identity (hsession i p hik hi) hx (htx ▸ hclosed)).1 servers
              (hanswers a b result servers hlisted haccepted)
          · intro i p identity hik hi hx hclosed hawaits
            obtain ⟨htx, -, hfree, -⟩ := h.listener htracks hi hx
            exact (htimely _ identity (hsession i p hik hi) hx (htx ▸ hclosed)).2 (hfree hawaits)
      | leave hphase =>
          refine h.after_departure hk hphase hdoes hcensus ?_ ?_
          · intro i p identity a b result servers hik hi hx hclosed hlisted haccepted hmem
            obtain ⟨htx, hanswers, -⟩ := h.listener htracks hi hx
            refine ((htimely _ identity (hsession i p hik hi) hx (htx ▸ hclosed)).1 servers
              (hanswers a b result servers hlisted haccepted) hmem).imp_right ?_
            rintro ⟨j, hjk, x, serial, sessionId, next, hnext⟩
            obtain ⟨r, hr, hfollows⟩ := htracks.get hnext
            obtain ⟨svc, hleaving, hsvc⟩ := leaving_of_next hfollows
            refine ⟨r, List.mem_of_getElem? ((List.getElem?_set_ne (Ne.symm hjk)).trans hr), svc, _, hleaving, ?_⟩
            rw [endpoint, ← hsvc]
            rfl
          · intro i p identity hik hi hx hclosed hawaits y other hne hy heq
            obtain ⟨htx, -, hfree, -⟩ := h.listener htracks hi hx
            have hannounces := (htimely _ identity (hsession i p hik hi) hx (htx ▸ hclosed)).2 (hfree hawaits)
              y other hne hy heq
            obtain ⟨l, r, hl, -, -, rfl, -⟩ := h.census.backend y other hy
            refine ⟨r, List.mem_of_getElem? hl, rfl, ?_⟩
            by_contra howes
            exact (h.listener htracks hl hy).2.2.2 (Bool.eq_false_iff.2 howes) hannounces

theorem mem_conns {s : Shared} {y : UInt32} {identity : Identity} (hy : s.backend y = some identity) :
    ∃ conn, (y, conn) ∈ s.registry.conns.toList ∧ conn.identity = identity := by
  obtain ⟨conn, hconn, rfl⟩ := Option.map_eq_some_iff.1 hy
  exact ⟨conn, (Table.mem_toList ..).2 hconn, rfl⟩

end Server

/-- In a run whose pushes all come at their time, once all connections are idle, every registered backend
whose channel has its receiver knows the other registered instances, and no more. -/
theorem membership_of_run {m : MessageMap} {rules : List RouteRule}
    {trace : List (Pool signature Shared Connection × Pool.Event signature Connection Input)}
    {pool : Pool signature Shared Connection} (hrun : Run (Step (system m)) (initial rules) trace pool)
    (hconnections : pool.threads.length < 2 ^ 32 - 1) (htimely : ∀ e ∈ trace, TimelyStep e.1 e.2)
    (hidle : ∀ p ∈ pool.threads, ∃ conn, p = .ret conn) {x : UInt32} {identity : Identity}
    (hx : pool.shared.backend x = some identity) (hopen : identity.tx ∉ pool.shared.channels.closed) :
    ∃ servers, pool.shared.known identity.tx = some servers ∧ ∀ server, server ∈ servers ↔
      ∃ y other, y ≠ x ∧ pool.shared.backend y = some other ∧ Server.endpoint other.server = server := by
  obtain ⟨qs, htracks, hinformed⟩ := (Server.guide m).invariant rfl hrun TimelyStep htimely
    (fun _ s qs => qs.length < 2 ^ 32 - 1 → Server.Informed s qs) (fun _ => .init rules)
    fun _ _ _ _ _ _ htracks hinv hok hstep hlen =>
      (hinv (Nat.lt_of_le_of_lt hstep.length_le hlen)).step htracks hstep hlen hok
  have hinformed := hinformed (htracks.length_eq ▸ hconnections)
  have hphase : ∀ q ∈ qs, q.phase = .idle := by
    intro q hq
    obtain ⟨k, hk⟩ := List.getElem?_of_mem hq
    obtain ⟨p, hp, hfollows⟩ := htracks.get' hk
    obtain ⟨conn, rfl⟩ := hidle p (List.mem_of_getElem? hp)
    exact hfollows.of_ret.phase
  obtain ⟨k, q, hk, -, -, rfl, -, htx, -⟩ := hinformed.census.backend x identity hx
  have hq := hphase q (List.mem_of_getElem? hk)
  obtain ⟨servers, hservers, hagrees⟩ := hinformed.view k q identity hk hx (htx ▸ hopen) (by rw [hq]; rfl)
  rw [Server.outlook_of_not_awaits (by rw [hq]; rfl), (hinformed.census.id k q hk).2, ← htx] at hservers
  refine ⟨servers, hservers, fun server => ⟨fun hserver => ?_, ?_⟩⟩
  · refine (hagrees.held server hserver).resolve_right ?_
    rintro ⟨p, hp, svc, i, hleaves, -⟩
    exact nomatch (hphase p hp).symm.trans hleaves
  · rintro ⟨y, other, hne, hy, rfl⟩
    refine (hagrees.told y other hne hy).resolve_right ?_
    rintro ⟨p, hp, -, howes⟩
    rw [hphase p hp] at howes
    cases howes

/-! ### Two backends, and a third -/

namespace Sample

def member (serviceId instanceId : UInt32) : Message :=
  .serverRegReq { serviceId, instanceId, loadScore := 0, acceptingBindings := true, loadMessage := "" }

/-- Two instances register. -/
def memberMessages : MessageMap where
  encode := fun _ => (0, [])
  decode := fun msgId _ => .ok (if msgId = 100 then member 1 7 else member 2 8)

def joins (k : Nat) (sessionId : UInt32) (msgId : UInt16) : List (Slot Connection Input) :=
  [.opens (.accept sessionId k (.internal {})), .input k .start, .call k,
    .input k (.backendFrame { cmd := backendCmdControl, msgId, serial := -1, sessionId := 0, payload := [] })] ++
    List.replicate 7 (.call k)

/-- The first backend's connection ends, and the third is its instance again before the second is told. -/
def meanwhile : Option (Pool signature Shared Connection) :=
  (executor memberMessages).schedule (initial rules) (joins 0 1 100 ++ joins 1 2 101 ++
    [.input 0 .close, .call 0] ++ joins 2 3 100 ++ List.replicate 3 (.call 0))

end Sample

/-- Two backends register one after the other. -/
theorem membership_of_run_two : ∃ trace pool,
    Run (Step (system Sample.memberMessages)) (initial Sample.rules) trace pool ∧
      ∃ servers, pool.shared.known 0 = some servers ∧ ∀ server, server ∈ servers ↔
        ∃ y other, y ≠ 1 ∧ pool.shared.backend y = some other ∧ Server.endpoint other.server = server := by
  obtain ⟨⟨trace, pool⟩, hrecord⟩ := Option.isSome_iff_exists.1
    (show ((executor Sample.memberMessages).record (initial Sample.rules)
      (Sample.joins 0 1 100 ++ Sample.joins 1 2 101)).isSome = true from rfl)
  have hrun := (executor Sample.memberMessages).record_sound hrecord
  cases hrecord
  refine ⟨_, _, hrun, membership_of_run (x := 1) hrun (show 2 < 2 ^ 32 - 1 by decide) ?_ ?_
    (rfl : _ = some (⟨1, 7, 1, 0⟩ : Identity)) (show 0 ∉ [] from List.not_mem_nil)⟩
  · simp only [List.forall_mem_cons]
    refine ⟨trivial, trivial, trivial, trivial, trivial, trivial, trivial, trivial, ?_, trivial, trivial,
      trivial, trivial, trivial, trivial, trivial, trivial, trivial, trivial, ?_, trivial, trivial, nofun⟩
    · intro y listener hne hy
      obtain ⟨conn, hmem, -⟩ := Server.mem_conns hy
      exact absurd (congrArg Prod.fst (List.mem_singleton.1 hmem)) hne
    · intro y listener hne hy _
      obtain ⟨conn, hmem, rfl⟩ := Server.mem_conns hy
      rcases List.mem_cons.1 hmem with heq | hmem
      · exact absurd (congrArg Prod.fst heq) hne
      · obtain rfl := congrArg Prod.snd (List.mem_singleton.1 hmem)
        refine ⟨fun servers hnext => ?_, fun _ => by decide⟩
        obtain ⟨serial, next, hnext⟩ := hnext
        cases hnext
  · exact fun p hp => Program.isRet_iff.1 (List.all_eq_true.1 rfl p hp)

/-- The second backend does not know the third: it has been told of the end last. -/
theorem instance_forgotten : ∃ trace pool,
    Run (Step (system Sample.memberMessages)) (initial Sample.rules) trace pool ∧
      pool.threads.length < 2 ^ 32 - 1 ∧ (∀ p ∈ pool.threads, ∃ conn, p = .ret conn) ∧
      ∃ identity, pool.shared.backend 2 = some identity ∧ identity.tx ∉ pool.shared.channels.closed ∧
        ¬ ∃ servers, pool.shared.known identity.tx = some servers ∧ ∀ server, server ∈ servers ↔
          ∃ y other, y ≠ 2 ∧ pool.shared.backend y = some other ∧ Server.endpoint other.server = server := by
  have hschedule : (Sample.meanwhile.map fun pool => (pool.threads.length, pool.threads.all Program.isRet,
      pool.shared.backend 2, pool.shared.backend 3)) = some (3, true, some ⟨2, 8, 2, 1⟩, some ⟨1, 7, 3, 2⟩) := by
    decide +kernel
  have hchannels : (Sample.meanwhile.map fun pool => (pool.shared.channels.closed, pool.shared.known 1)) =
      some ([], some []) := by
    decide +kernel
  obtain ⟨pool, hpool, heq⟩ := Option.map_eq_some_iff.1 hschedule
  rw [hpool] at hchannels
  simp only [Prod.mk.injEq, Option.map_some, Option.some.injEq] at heq hchannels
  obtain ⟨hlength, hall, hsecond, hthird⟩ := heq
  obtain ⟨hclosed, hknown⟩ := hchannels
  obtain ⟨trace, hrun⟩ := (executor Sample.memberMessages).schedule_sound hpool
  refine ⟨trace, pool, hrun, by rw [hlength]; decide, fun p hp => ?_, _, hsecond, by rw [hclosed]; exact nofun, ?_⟩
  · exact Program.isRet_iff.1 (List.all_eq_true.1 hall p hp)
  · rintro ⟨servers, hservers, hiff⟩
    obtain rfl := Option.some.inj (hknown.symm.trans hservers)
    exact List.not_mem_nil ((hiff _).2 ⟨3, _, by decide, hthird, rfl⟩)

end AxmolFighter.Gateway
