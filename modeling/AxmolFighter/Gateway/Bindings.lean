import AxmolFighter.Gateway.Calls
import AxmolFighter.Gateway.Effects
import AxmolFighter.Gateway.Selection

/-!
# Bindings

An entry of the binding table says that a session's messages for a service go to one instance. The
handlers that take a session or an instance away also take its bindings away, so when handlers run one at
a time a binding never refers to an instance that is gone. `BindManager::start` checks the instance but
not the session: a request that names a session that is not there leaves an entry that nobody removes.
-/

namespace AxmolFighter.Gateway

open Pool

/-! ### Effects on the bindings -/

/-- The bindings after a call. -/
def Op.bindingAfter (op : Op) (old : UInt32 × UInt8 → Option UInt32) (key : UInt32 × UInt8) :
    Option UInt32 :=
  match op with
  | .bindService sessionId serviceId instanceId =>
      if key = (sessionId, serviceId) then some instanceId else old key
  | .unbindService sessionId serviceId => if key = (sessionId, serviceId) then none else old key
  | .unbindAllByInstance serviceId instanceId =>
      if key.2 = serviceId ∧ old key = some instanceId then none else old key
  | .cleanupSession sessionId => if key.1 = sessionId then none else old key
  | _ => old key

namespace Shared

variable {s s' : Shared} {op : Op} {answer : op.Answer}

def binding (s : Shared) (key : UInt32 × UInt8) : Option UInt32 := s.router.bindings.get key

theorem exec_binding (t : Shared) (op : Op) (key : UInt32 × UInt8) :
    (t.exec op).2.binding key = op.bindingAfter t.binding key := by
  cases op with
  | bindService sessionId serviceId instanceId => exact Table.get_insert ..
  | unbindService sessionId serviceId => exact Table.get_remove ..
  | unbindAllByInstance serviceId instanceId =>
      refine (Table.get_retain ..).trans ?_
      rw [Op.bindingAfter, binding]
      cases hget : t.router.bindings.get key with
      | none => simp
      | some bound =>
          by_cases hkey : key.2 = serviceId ∧ bound = instanceId
          · simp [hkey]
          · rw [if_neg (by simpa using hkey), Option.filter_some, if_pos (by simpa [imp_iff_not_or, not_and_or] using hkey)]
  | cleanupSession sessionId =>
      refine (Table.get_retain ..).trans ?_
      rw [Op.bindingAfter, binding]
      by_cases hkey : key.1 = sessionId
      · rw [if_pos hkey]
        cases t.router.bindings.get key <;> simp [hkey]
      · rw [if_neg hkey]
        cases t.router.bindings.get key <;> simp [hkey]
  | _ => rfl

theorem Does.binding (h : s.Does op answer s') (key : UInt32 × UInt8) :
    s'.binding key = op.bindingAfter s.binding key := by
  obtain ⟨t, hsame, hexec⟩ := h
  have heq : t.binding = s.binding := funext fun key => (hsame.bindings key).symm
  rw [← heq, ← exec_binding, hexec]

theorem Does.session_stays (h : s.Does op answer s') (hop : ∀ S, op ≠ .removeSession S) {S : UInt32}
    (hS : (s.session S).isSome) : (s'.session S).isSome := by
  rw [h.session]
  cases op with
  | addSession sessionId tx =>
      rw [Op.sessionAfter]
      split_ifs
      · rfl
      · exact hS
  | removeSession sessionId => exact absurd rfl (hop sessionId)
  | authenticate sessionId =>
      rw [Op.sessionAfter]
      split_ifs
      · rwa [Option.isSome_map]
      · exact hS
  | _ => exact hS

theorem Does.backend_stays (h : s.Does op answer s') (hop : ∀ x, op ≠ .unregister x) {x : UInt32}
    {identity : Identity} (hx : s.backend x = some identity) : s'.backend x = some identity := by
  cases hregisters : op.registers with
  | false => rwa [h.backend hregisters]
  | true =>
      cases op with
      | unregister x => exact absurd rfl (hop x)
      | register x' svc i tx =>
          obtain ⟨hfresh, hafter⟩ := h.register
          rw [hafter, if_neg]
          · exact hx
          · rintro ⟨hresult, rfl⟩
            cases (hfresh hresult).symm.trans hx
      | _ => cases hregisters

end Shared

/-! ### The invariant -/

/-- Some registered backend is this instance. -/
def Shared.serves (s : Shared) (serviceId : UInt8) (instanceId : UInt32) : Prop :=
  ∃ x identity, s.backend x = some identity ∧ identity.serviceId = serviceId ∧
    identity.instanceId = instanceId

/-- Every binding refers to a session that is there or `gone`, and to an instance that is registered or
`removed`. -/
def Shared.Bound (s : Shared) (gone : UInt32 → Prop) (removed : UInt8 → UInt32 → Prop) : Prop :=
  ∀ S svc i, s.binding (S, svc) = some i →
    (gone S ∨ (s.session S).isSome) ∧ (removed svc i ∨ s.serves svc i)

/-- No binding dangles. -/
def Shared.NoDangling (s : Shared) : Prop :=
  ∀ S svc i, s.binding (S, svc) = some i → (s.session S).isSome ∧ s.serves svc i

theorem Shared.noDangling_iff {s : Shared} :
    s.NoDangling ↔ s.Bound (fun _ => False) fun _ _ => False := by
  simp only [NoDangling, Bound, false_or]

/-- The call neither takes a session or a backend away nor adds a binding. -/
def Op.Gentle (op : Op) : Prop :=
  (∀ S, op ≠ .removeSession S) ∧ (∀ x, op ≠ .unregister x) ∧ ∀ S svc i, op ≠ .bindService S svc i

theorem Op.gentle_of_quiet {op : Op} (h : op.quiet = true) : op.Gentle := by
  refine ⟨?_, ?_, ?_⟩
  · rintro _ rfl
    cases h
  · rintro _ rfl
    cases h
  · rintro _ _ _ rfl
    cases h

theorem Op.gentle_of_routine {op : Op} (h : op.routine = true) : op.Gentle :=
  gentle_of_quiet (quiet_of_routine h)

theorem Op.gentle_of_registering {op : Op} (h : op.registering = true) : op.Gentle := by
  refine ⟨?_, ?_, ?_⟩
  · rintro _ rfl
    cases h
  · rintro _ rfl
    cases h
  · rintro _ _ _ rfl
    cases h

theorem Op.bindingAfter_of_gentle {op : Op} (h : op.Gentle) {old : UInt32 × UInt8 → Option UInt32}
    {key : UInt32 × UInt8} {i : UInt32} (hafter : op.bindingAfter old key = some i) : old key = some i := by
  cases op with
  | bindService sessionId serviceId instanceId => exact absurd rfl (h.2.2 sessionId serviceId instanceId)
  | unbindService | unbindAllByInstance | cleanupSession =>
      rw [bindingAfter] at hafter
      split_ifs at hafter
      exact hafter
  | _ => exact hafter

namespace Shared

variable {s s' : Shared} {op : Op} {answer : op.Answer} {gone : UInt32 → Prop}
  {removed : UInt8 → UInt32 → Prop}

theorem Does.serves_stays (h : s.Does op answer s') (hop : ∀ x, op ≠ .unregister x) {svc : UInt8}
    {i : UInt32} (hserves : s.serves svc i) : s'.serves svc i := by
  obtain ⟨x, identity, hx, hidentity⟩ := hserves
  exact ⟨x, identity, h.backend_stays hop hx, hidentity⟩

theorem Bound.gentle (hbound : s.Bound gone removed) (h : s.Does op answer s') (hop : op.Gentle) :
    s'.Bound gone removed := by
  intro S svc i hafter
  rw [h.binding] at hafter
  obtain ⟨hsession, hinstance⟩ := hbound S svc i (Op.bindingAfter_of_gentle hop hafter)
  exact ⟨hsession.imp_right (h.session_stays hop.1), hinstance.imp_right (h.serves_stays hop.2.1)⟩

theorem Bound.runs (hbound : s.Bound gone removed) {α : Type} {p : GatewayM α} {a : α}
    (h : p.Runs Shared.Does s a s') (hcalls : p.Calls Op.Gentle) : s'.Bound gone removed :=
  h.keeps hcalls (Bound · gone removed) (fun _ _ _ _ hinv hop hdoes => hinv.gentle hdoes hop) hbound

theorem Bound.bindService (hbound : s.Bound gone removed) {S : UInt32} {svc : UInt8} {i : UInt32}
    (h : s.Does (.bindService S svc i) () s') (hS : (s.session S).isSome) (hserves : s.serves svc i) :
    s'.Bound gone removed := by
  have hsession := h.session_eq fun _ _ => rfl
  intro S' svc' i' hafter
  rw [hsession]
  have hstays : ∀ svc i, s.serves svc i → s'.serves svc i := fun _ _ => h.serves_stays nofun
  rw [h.binding, Op.bindingAfter] at hafter
  split_ifs at hafter with hkey
  · obtain ⟨rfl, rfl⟩ := Prod.mk.inj hkey
    obtain rfl := Option.some.inj hafter
    exact ⟨Or.inr hS, Or.inr (hstays _ _ hserves)⟩
  · obtain ⟨hsession', hinstance⟩ := hbound S' svc' i' hafter
    exact ⟨hsession', hinstance.imp_right (hstays _ _)⟩

theorem Bound.removeSession (hbound : s.Bound (fun _ => False) removed) {S : UInt32} {was : Bool}
    (h : s.Does (.removeSession S) was s') : s'.Bound (· = S) removed := by
  intro S' svc i hafter
  rw [h.binding] at hafter
  obtain ⟨hsession, hinstance⟩ := hbound S' svc i hafter
  refine ⟨?_, hinstance.imp_right (h.serves_stays nofun)⟩
  rw [h.session, Op.sessionAfter]
  by_cases hS : S' = S
  · exact Or.inl hS
  · rw [if_neg hS]
    exact Or.inr (hsession.resolve_left id)

theorem Bound.cleanupSession {S : UInt32} (hbound : s.Bound (· = S) removed)
    (h : s.Does (.cleanupSession S) () s') : s'.Bound (fun _ => False) removed := by
  have hsession := h.session_eq fun _ _ => rfl
  intro S' svc i hafter
  rw [hsession]
  rw [h.binding, Op.bindingAfter] at hafter
  split_ifs at hafter with hS
  obtain ⟨hsession', hinstance⟩ := hbound S' svc i hafter
  exact ⟨Or.inr (hsession'.resolve_left hS), hinstance.imp_right (h.serves_stays nofun)⟩

theorem Does.unregister_answer {x : UInt32} {answer : Option (UInt8 × UInt32)}
    (h : s.Does (.unregister x) answer s') :
    answer = (s.backend x).map fun identity => (identity.serviceId, identity.instanceId) := by
  obtain ⟨t, hsame, hexec⟩ := h
  obtain rfl : (t.registry.remove x).1 = answer := congrArg Prod.fst hexec
  rw [← hsame.backend, Shared.backend, ServerRegistry.remove]
  cases t.registry.conns.get x <;> rfl

theorem Bound.unregister (hbound : s.Bound gone fun _ _ => False) {x : UInt32}
    {answer : Option (UInt8 × UInt32)} (h : s.Does (.unregister x) answer s') :
    s'.Bound gone fun svc i => answer = some (svc, i) := by
  have hsession := h.session_eq fun _ _ => rfl
  intro S svc i hafter
  rw [hsession]
  rw [h.binding] at hafter
  obtain ⟨hsession', hinstance⟩ := hbound S svc i hafter
  obtain ⟨y, identity, hy, hservice, hinstance⟩ := hinstance.resolve_left id
  refine ⟨hsession', ?_⟩
  by_cases hyx : y = x
  · subst hyx
    rw [h.unregister_answer, hy, ← hservice, ← hinstance]
    exact Or.inl rfl
  · exact Or.inr ⟨y, identity, by rw [h.unregister, if_neg hyx]; exact hy, hservice, hinstance⟩

theorem Bound.unbindAllByInstance {svc : UInt8} {i : UInt32}
    (hbound : s.Bound gone fun svc' i' => some (svc, i) = some (svc', i'))
    (h : s.Does (.unbindAllByInstance svc i) () s') : s'.Bound gone fun _ _ => False := by
  have hsession := h.session_eq fun _ _ => rfl
  intro S svc' i' hafter
  rw [hsession]
  rw [h.binding, Op.bindingAfter] at hafter
  split_ifs at hafter with hkey
  obtain ⟨hsession', hinstance⟩ := hbound S svc' i' hafter
  refine ⟨hsession', Or.inr (h.serves_stays nofun (hinstance.resolve_left fun heq => hkey ?_))⟩
  obtain ⟨rfl, rfl⟩ := Prod.mk.inj (Option.some.inj heq)
  exact ⟨rfl, hafter⟩

end Shared

/-! ### Bind requests -/

namespace Shared

variable {s s' : Shared} {op : Op} {answer : op.Answer}

theorem Does.binding_quiet (h : s.Does op answer s') (hquiet : op.quiet = true) :
    s'.binding = s.binding := by
  funext key
  rw [h.binding]
  cases op <;> first | rfl | cases hquiet

theorem Does.findByInstance_isSome {svc : UInt8} {i : UInt32} {found : Option Tx}
    (h : s.Does (.findByInstance svc i) found s') : found.isSome = true ↔ s.serves svc i := by
  cases found with
  | some tx =>
      obtain ⟨x, identity, hx, hservice, hinstance, -⟩ := h.findByInstance
      exact ⟨fun _ => ⟨x, identity, hx, hservice, hinstance⟩, fun _ => rfl⟩
  | none =>
      refine ⟨nofun, ?_⟩
      rintro ⟨x, identity, hx, hservice, hinstance⟩
      obtain ⟨t, hsame, hexec⟩ := h
      have hfind : t.registry.findByInstance svc i = none := congrArg Prod.fst hexec
      rw [← hsame.backend, Shared.backend, Option.map_eq_some_iff] at hx
      obtain ⟨conn, hget, rfl⟩ := hx
      rw [ServerRegistry.findByInstance, Option.map_eq_none_iff, List.find?_eq_none] at hfind
      refine absurd ?_ (hfind conn ((Table.mem_values ..).2 ⟨x, hget⟩))
      simpa [BackendConn.identity] using And.intro hservice hinstance

/-- A backend that takes bindings. -/
def takesBindings (s : Shared) (serviceId : UInt8) : Prop :=
  ∃ x conn, s.registry.conns.get x = some conn ∧ conn.serviceId = serviceId ∧
    conn.load.acceptingBindings = true ∧ conn.load.loadScore < 100

theorem Does.selectLowestLoadInstance {svc : UInt8} {candidate : Option BindCandidate}
    (h : s.Does (.selectLowestLoadInstance svc) candidate s') :
    (candidate.isSome = true ↔ s.takesBindings svc) ∧
      ∀ c, candidate = some c → s.serves svc c.instanceId := by
  obtain ⟨t, hsame, hexec⟩ := h
  obtain rfl : t.registry.selectLowestLoadInstance svc t.router.bindingCount = candidate :=
    congrArg Prod.fst hexec
  refine ⟨?_, fun c hc => ?_⟩
  · rw [← Option.ne_none_iff_isSome, Ne, ServerRegistry.selectLowestLoadInstance_eq_none]
    push Not
    constructor
    · rintro ⟨x, conn, hget, hservice, haccepts⟩
      exact ⟨x, conn, (hsame.conns x).trans hget, hservice, haccepts⟩
    · rintro ⟨x, conn, hget, hservice, haccepts⟩
      exact ⟨x, conn, (hsame.conns x).symm.trans hget, hservice, haccepts⟩
  · rw [ServerRegistry.selectLowestLoadInstance_eq] at hc
    obtain ⟨key, hhead, rfl⟩ := Option.map_eq_some_iff.1 hc
    obtain ⟨x, conn, hget, hservice, -, rfl⟩ := ServerRegistry.mem_candidates.1 (head_insertionSort hhead).1
    have hx := (hsame.conns x).trans hget
    exact ⟨x, conn.identity, by rw [Shared.backend, hx]; rfl, hservice, rfl⟩

/-- What a bind request asks of the tables. -/
def Selectable (s : Shared) (req : BindServiceReq) : Prop :=
  if req.targetInstanceId ≥ 0 then s.serves req.serviceId.toUInt8 req.targetInstanceId.toUInt32
  else s.takesBindings req.serviceId.toUInt8

/-- The tables are the same, in any order. -/
structure SameTables (s s' : Shared) : Prop where
  session : s'.session = s.session
  backend : s'.backend = s.backend
  binding : s'.binding = s.binding

theorem SameTables.trans {s₁ : Shared} (h : s.SameTables s₁) (h' : s₁.SameTables s') : s.SameTables s' :=
  ⟨h'.session.trans h.session, h'.backend.trans h.backend, h'.binding.trans h.binding⟩

theorem Does.sameTables (h : s.Does op answer s') (hquiet : op.quiet = true) : s.SameTables s' :=
  ⟨h.session_eq (Op.sessionAfter_quiet hquiet), h.backend (Op.registers_quiet hquiet),
    h.binding_quiet hquiet⟩

theorem SameTables.of_runs {α : Type} {p : GatewayM α} {a : α} (h : p.Runs Shared.Does s a s')
    (hcalls : Routine p) : s.SameTables s' :=
  h.keeps hcalls.quiet (s.SameTables ·) (fun _ _ _ _ hinv hop hdoes => hinv.trans (Does.sameTables hdoes hop))
    ⟨rfl, rfl, rfl⟩

theorem SameTables.serves (h : s.SameTables s') {svc : UInt8} {i : UInt32} :
    s'.serves svc i ↔ s.serves svc i := by rw [Shared.serves, h.backend, Shared.serves]

end Shared

namespace BindManager

variable {s s' : Shared}

theorem select_runs {req : BindServiceReq} {selected : Except (UInt32 × String) UInt32}
    (h : (select req).Runs Shared.Does s selected s') :
    ((∃ i, selected = .ok i) ↔ s.Selectable req) ∧
      ∀ i, selected = .ok i → s.serves req.serviceId.toUInt8 i := by
  rw [select] at h
  rw [Shared.Selectable]
  by_cases htarget : req.targetInstanceId ≥ 0
  · rw [if_pos htarget] at h ⊢
    obtain ⟨found, s₁, hdoes, hret⟩ := Program.runs_call.1 h
    obtain ⟨rfl, -⟩ := Program.runs_ret.1 hret
    rw [← Shared.Does.findByInstance_isSome hdoes]
    split_ifs with hfound
    · refine ⟨⟨fun _ => hfound, fun _ => ⟨_, rfl⟩⟩, ?_⟩
      rintro i ⟨⟩
      exact (Shared.Does.findByInstance_isSome hdoes).1 hfound
    · exact ⟨⟨nofun, fun h => absurd h hfound⟩, nofun⟩
  · rw [if_neg htarget] at h ⊢
    obtain ⟨candidate, s₁, hdoes, hret⟩ := Program.runs_call.1 h
    obtain ⟨rfl, -⟩ := Program.runs_ret.1 hret
    obtain ⟨hsome, hserves⟩ := Shared.Does.selectLowestLoadInstance hdoes
    rw [← hsome]
    cases candidate with
    | none => exact ⟨⟨nofun, nofun⟩, nofun⟩
    | some candidate =>
        refine ⟨⟨fun _ => rfl, fun _ => ⟨_, rfl⟩⟩, ?_⟩
        rintro i ⟨⟩
        exact hserves candidate rfl

/-- A request either binds its session to a registered instance, or changes nothing. -/
theorem start_runs {tx : Tx} {serial : Int32} {req : BindServiceReq}
    {bound : Option (UInt32 × UInt8 × UInt32)} (h : (start tx serial req).Runs Shared.Does s bound s') :
    (¬ s.Selectable req ∧ bound = none ∧ s.SameTables s') ∨
      ∃ i s₁ s₂, s.Selectable req ∧ bound = some (req.sessionId, req.serviceId.toUInt8, i) ∧
        s.serves req.serviceId.toUInt8 i ∧ s.SameTables s₁ ∧
        s₁.Does (.bindService req.sessionId req.serviceId.toUInt8 i) () s₂ ∧ s₂.SameTables s' := by
  obtain ⟨selected, s₁, hselect, h⟩ := Program.runs_bind.1 h
  obtain ⟨hselectable, hserves⟩ := select_runs hselect
  have hsame := Shared.SameTables.of_runs hselect (routine_select req)
  cases selected with
  | error e =>
      obtain ⟨_, s₂, hsend, hret⟩ := Program.runs_bind.1 h
      obtain ⟨rfl, rfl⟩ := Program.runs_ret.1 hret
      refine Or.inl ⟨fun h => ?_, rfl, hsame.trans (.of_runs hsend (routine_sendBindResult ..))⟩
      obtain ⟨i, hi⟩ := hselectable.2 h
      cases hi
  | ok i =>
      obtain ⟨_, s₂, hbind, h⟩ := Program.runs_bind.1 h
      obtain ⟨_, s₃, hsend, hret⟩ := Program.runs_bind.1 h
      obtain ⟨rfl, rfl⟩ := Program.runs_ret.1 hret
      exact Or.inr ⟨i, s₁, s₂, hselectable.1 ⟨i, rfl⟩, rfl, hserves i rfl, hsame,
        Program.runs_perform.1 hbind, .of_runs hsend (routine_sendBindResult ..)⟩

end BindManager

namespace Shared

variable {s s' : Shared} {gone : UInt32 → Prop} {removed : UInt8 → UInt32 → Prop}

theorem Bound.same (hbound : s.Bound gone removed) (h : s.SameTables s') : s'.Bound gone removed := by
  intro S svc i hbinding
  rw [h.binding] at hbinding
  rw [h.session, h.serves]
  exact hbound S svc i hbinding

theorem Bound.handleBindServiceReq {d : InternalDelegate} {serial : Int32} {req : BindServiceReq}
    (hbound : s.Bound gone removed)
    (h : (d.handleBindServiceReq serial req).Runs Shared.Does s () s')
    (hpresent : d.registered.isSome = true → s.Selectable req → (s.session req.sessionId).isSome) :
    s'.Bound gone removed := by
  rw [InternalDelegate.handleBindServiceReq] at h
  cases htx : d.tx with
  | none =>
      rw [htx] at h
      obtain ⟨-, rfl⟩ := Program.runs_ret.1 h
      exact hbound
  | some tx =>
      rw [htx] at h
      cases hregistered : d.registered with
      | none =>
          rw [hregistered] at h
          exact hbound.same (.of_runs h (BindManager.routine_sendBindResult ..))
      | some identity =>
          rw [hregistered] at h hpresent
          obtain ⟨bound, s₁, hstart, hstatus⟩ := Program.runs_bind.1 h
          have hstatus' : s₁.SameTables s' := .of_runs hstatus
            (.whenSome fun _ => InternalDelegate.routine_sendServiceStatusToSession ..)
          refine Bound.same ?_ hstatus'
          rcases BindManager.start_runs hstart with ⟨-, -, hsame⟩ |
            ⟨i, s₂, s₃, hselectable, -, hserves, hsame, hbind, hsame'⟩
          · exact hbound.same hsame
          · refine ((hbound.same hsame).bindService hbind ?_ (hsame.serves.2 hserves)).same hsame'
            rw [hsame.session]
            exact hpresent rfl hselectable

theorem dangling_of_absent {d : InternalDelegate} {serial : Int32} {req : BindServiceReq} {tx : Tx}
    (h : (d.handleBindServiceReq serial req).Runs Shared.Does s () s') (htx : d.tx = some tx)
    (hregistered : d.registered.isSome = true) (hselectable : s.Selectable req)
    (habsent : s.session req.sessionId = none) : ¬ s'.NoDangling := by
  intro hnone
  obtain ⟨identity, hidentity⟩ := Option.isSome_iff_exists.1 hregistered
  rw [InternalDelegate.handleBindServiceReq, htx, hidentity] at h
  obtain ⟨bound, s₁, hstart, hstatus⟩ := Program.runs_bind.1 h
  have hstatus' : s₁.SameTables s' := .of_runs hstatus
    (.whenSome fun _ => InternalDelegate.routine_sendServiceStatusToSession ..)
  rcases BindManager.start_runs hstart with ⟨hnot, -, -⟩ | ⟨i, s₂, s₃, -, -, -, hsame, hbind, hsame'⟩
  · exact hnot hselectable
  · have hbinding : s'.binding (req.sessionId, req.serviceId.toUInt8) = some i := by
      rw [hstatus'.binding, hsame'.binding, Does.binding hbind]
      exact if_pos rfl
    have hsession : s'.session = s.session := by
      rw [hstatus'.session, hsame'.session, Does.session_eq hbind fun _ _ => rfl, hsame.session]
    have hpresent := (hnone _ _ _ hbinding).1
    rw [hsession, habsent] at hpresent
    cases hpresent

end Shared

/-! ### Handlers -/

theorem InternalDelegate.gentle_pushServiceStatus (serviceId : UInt8) (instanceId : UInt32) (online : Bool) :
    (pushServiceStatus serviceId instanceId online).Calls Op.Gentle :=
  (calls_perform (Op.gentle_of_registering rfl)).bind fun _ =>
    .forEach fun _ _ => (routine_pushOne ..).calls fun _ => Op.gentle_of_routine

namespace Shared

variable {s s' : Shared}

theorem NoDangling.clientClose (hnone : s.NoDangling) {d : ClientDelegate}
    (h : d.onSessionClose.Runs Shared.Does s () s') : s'.NoDangling := by
  rw [noDangling_iff] at hnone ⊢
  obtain ⟨was, s₁, hremove, h⟩ := Program.runs_bind.1 h
  obtain ⟨_, s₂, hcleanup, h⟩ := Program.runs_bind.1 h
  have hbound := (hnone.removeSession (Program.runs_perform.1 hremove)).cleanupSession
    (Program.runs_perform.1 hcleanup)
  refine hbound.runs h ?_
  split_ifs
  · exact calls_perform ⟨nofun, nofun, nofun⟩
  · exact .ret _

theorem NoDangling.internalClose (hnone : s.NoDangling) {d : InternalDelegate}
    (h : d.onSessionClose.Runs Shared.Does s () s') : s'.NoDangling := by
  rw [noDangling_iff] at hnone ⊢
  obtain ⟨removed, s₁, hunregister, h⟩ := Program.runs_bind.1 h
  have hbound := hnone.unregister (Program.runs_perform.1 hunregister)
  cases removed with
  | none =>
      obtain ⟨-, rfl⟩ := Program.runs_ret.1 h
      exact fun S svc i hbinding => (hbound S svc i hbinding).imp_right fun h => h.imp_left nofun
  | some identity =>
      obtain ⟨svc, i⟩ := identity
      obtain ⟨_, s₂, hbroadcast, h⟩ := Program.runs_bind.1 h
      obtain ⟨_, s₃, hpush, hunbind⟩ := Program.runs_bind.1 h
      refine Bound.unbindAllByInstance ?_ (Program.runs_perform.1 hunbind)
      exact (hbound.runs hbroadcast (calls_perform (Op.gentle_of_quiet rfl))).runs hpush
        (InternalDelegate.gentle_pushServiceStatus ..)

theorem NoDangling.clientFrame (hnone : s.NoDangling) {d : ClientDelegate} {m : MessageMap}
    {frame : ClientFrame} (h : (d.onRecvFrame m frame.body).Runs Shared.Does s () s') : s'.NoDangling := by
  rw [noDangling_iff] at hnone ⊢
  exact hnone.runs h (d.calls_onRecvFrame frame (fun _ => Op.gentle_of_routine) ⟨nofun, nofun, nofun⟩
    ⟨nofun, nofun, nofun⟩ fun _ => ⟨nofun, nofun, nofun⟩)

theorem NoDangling.backendFrame (hnone : s.NoDangling) {d d' : InternalDelegate} {m : MessageMap}
    {frame : BackendFrame} (h : (d.onRecvFrame m frame.body).Runs Shared.Does s d' s')
    (hpresent : ∀ req, frame.cmd = backendCmdControl →
      m.decode frame.msgId frame.payload = .ok (.bindServiceReq req) → d.registered.isSome = true →
        s.Selectable req → (s.session req.sessionId).isSome) : s'.NoDangling := by
  rw [noDangling_iff] at hnone ⊢
  by_cases hbind : frame.cmd = backendCmdControl ∧
      ∃ req, m.decode frame.msgId frame.payload = .ok (.bindServiceReq req)
  · obtain ⟨hcmd, req, hdecode⟩ := hbind
    rw [d.onRecvFrame_control hcmd, hdecode] at h
    obtain ⟨_, s₁, hhandle, hret⟩ := Program.runs_bind.1 h
    obtain ⟨-, rfl⟩ := Program.runs_ret.1 hret
    exact hnone.handleBindServiceReq hhandle (hpresent req hcmd hdecode)
  · refine hnone.runs h (d.calls_onRecvFrame frame (fun _ => Op.gentle_of_routine)
      (fun _ => Op.gentle_of_registering) (fun _ _ => ⟨nofun, nofun, nofun⟩) (fun _ => ⟨nofun, nofun, nofun⟩)
      (fun hcmd req hdecode => absurd ⟨hcmd, req, hdecode⟩ hbind) fun _ => ⟨nofun, nofun, nofun⟩)

end Shared

/-! ### Runs -/

/-- A bind request that will be accepted names a session that is there. -/
def BindsPresent (m : MessageMap) (s : Shared × List Connection) :
    Event signature Connection Input → Prop
  | .input k (.backendFrame frame) => ∀ conn d req, s.2[k]? = some conn → conn.delegate = .internal d →
      frame.cmd = backendCmdControl → m.decode frame.msgId frame.payload = .ok (.bindServiceReq req) →
        d.registered.isSome = true → s.1.Selectable req → (s.1.session req.sessionId).isSome
  | _ => True

theorem Environment.binding {s s' : Shared} (h : Environment s s') : s'.binding = s.binding := by
  cases h <;> rfl

theorem noDangling_of_turn {m : MessageMap} {s s' : Shared} {conns conns' : List Connection}
    {e : Event signature Connection Input} (h : Turn (system m) (s, conns) e (s', conns'))
    (hpresent : BindsPresent m (s, conns) e) (hnone : s.NoDangling) : s'.NoDangling := by
  cases h with
  | opens hopens =>
      obtain ⟨-, -, rfl⟩ := hopens
      exact hnone
  | environment henv =>
      have huntouched := Environment.untouched henv
      rw [Shared.noDangling_iff] at hnone ⊢
      exact hnone.same ⟨huntouched.session, huntouched.backend, Environment.binding henv⟩
  | @handle _ _ _ k conn conn' input p hk hhandle hruns =>
      cases Connection.takes_of_runs hhandle hruns with
      | startClient hdelegate hdoes | startInternal hdelegate hdoes =>
          rw [Shared.noDangling_iff] at hnone ⊢
          exact hnone.gentle hdoes ⟨nofun, nofun, nofun⟩
      | closeClient hdelegate hclose => exact hnone.clientClose hclose
      | closeInternal hdelegate hclose => exact hnone.internalClose hclose
      | clientFrame hstage hdelegate hframe => exact hnone.clientFrame hframe
      | backendFrame hstage hdelegate hframe =>
          exact hnone.backendFrame hframe fun req => hpresent conn _ req hk hdelegate

/-- **Bindings do not dangle.** In every run of whole handlers in which accepted bind requests name
sessions that are there, every binding refers to a session that is there and to a registered instance. -/
theorem noDangling_of_run {m : MessageMap} {rules : List RouteRule}
    {trace : List ((Shared × List Connection) × Event signature Connection Input)} {s : Shared}
    {conns : List Connection} (hrun : Run (Turn (system m)) (.init rules, []) trace (s, conns))
    (hpresent : ∀ e ∈ trace, BindsPresent m e.1 e.2) : s.NoDangling := by
  have h := hrun.invariant_of (BindsPresent m) (fun s => s.1.NoDangling) hpresent nofun
    fun _ _ _ hnone hok hturn => noDangling_of_turn hturn hok hnone
  exact h

namespace Sample

/-- The messages of the small gateway, and a request to bind `sessionId` to the backend. -/
def bindMessages (sessionId : UInt32) : MessageMap where
  encode := messages.encode
  decode := fun msgId payload =>
    if msgId = 102 then .ok (.bindServiceReq { sessionId, serviceId := 1, targetInstanceId := 7 })
    else messages.decode msgId payload

def bindRequest : BackendFrame :=
  { cmd := backendCmdControl, msgId := 102, serial := -3, sessionId := 0, payload := [] }

theorem bindsPresent_turns {sessionId : UInt32} {s : Shared × List Connection}
    {e : Event signature Connection Input} (he : e ∈ turns) : BindsPresent (bindMessages sessionId) s e := by
  simp only [turns, List.mem_cons, List.not_mem_nil, or_false] at he
  rcases he with rfl | rfl | rfl | rfl | rfl | rfl
  case inr.inr.inl =>
    rintro conn d req - - - hdecode
    cases hdecode
  all_goals trivial

end Sample

/-- The backend of the small gateway binds the client to itself. -/
theorem noDangling_of_run_sample : ∃ trace s conns,
    Run (Turn (system (Sample.bindMessages 2))) (.init Sample.rules, []) trace (s, conns) ∧
      s.binding (2, 1) = some 7 ∧ s.NoDangling := by
  have hplayed : (Sample.played (Sample.bindMessages 2) Sample.turns).isSome = true := rfl
  have hactions := Run.record_actions (Option.some_get hplayed).symm
  have hturn : (executor (Sample.bindMessages 2)).turn (Option.get _ hplayed).2
      (.input 0 (.backendFrame Sample.bindRequest)) = some _ := rfl
  have hrun := (Sample.played_run hplayed).next ((executor _).turn_sound _ _ _ hturn)
  refine ⟨_, _, _, hrun, rfl, noDangling_of_run hrun fun e he => ?_⟩
  rcases List.mem_append.1 he with he | he
  · exact Sample.bindsPresent_turns (hactions ▸ List.mem_map_of_mem he)
  · obtain rfl := List.mem_singleton.1 he
    rintro conn d req - - - hdecode - -
    cases hdecode
    rfl

/-- A registered backend asks to bind a session that nobody has. -/
theorem binding_of_no_session : ∃ trace s conns,
    Run (Turn (system (Sample.bindMessages 9))) (.init Sample.rules, []) trace (s, conns) ∧
      s.binding (9, 1) = some 7 ∧ s.session 9 = none ∧ ¬ s.NoDangling := by
  have hplayed : (Sample.played (Sample.bindMessages 9) (Sample.turns ++
    [.input 0 (.backendFrame Sample.bindRequest)])).isSome = true := rfl
  have hrun := Sample.played_run hplayed
  refine ⟨_, _, _, hrun, rfl, rfl, fun hnone => ?_⟩
  cases (hnone 9 1 7 rfl).1

end AxmolFighter.Gateway
