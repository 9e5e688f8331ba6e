import AxmolFighter.Gateway.Tables
import AxmolFighter.Lib.Threads

/-!
# Registrations at the same time

`ServerRegistry::register` and `remove` look at two maps and change them in single operations, and calls
of other sessions come between. A registration looks whether its identity is free and takes it later;
if another one has taken it in the meantime, two sessions hold it. Otherwise the maps stay inverse to
each other.
-/

namespace AxmolFighter.Gateway

open Pool

/-- The identity of a backend: a service and an instance. -/
abbrev InstanceKey := UInt8 × UInt32

def BackendConn.key (conn : BackendConn) : InstanceKey := (conn.serviceId, conn.instanceId)

/-! ### Single operations -/

inductive RegistryOp
  | connsGet (sessionId : UInt32)
  | instancesGet (key : InstanceKey)
  | instancesInsert (key : InstanceKey) (sessionId : UInt32)
  | connsInsert (sessionId : UInt32) (conn : BackendConn)
  | connsRemove (sessionId : UInt32)
  | instancesRemove (key : InstanceKey)

@[reducible] def RegistryOp.Answer : RegistryOp → Type
  | connsGet _ | connsRemove _ => Option BackendConn
  | instancesGet _ => Option UInt32
  | instancesInsert .. | connsInsert .. | instancesRemove _ => Unit

@[reducible] def registryOps : Signature := ⟨RegistryOp, RegistryOp.Answer⟩

abbrev RegistryOp.perform (op : RegistryOp) : Program registryOps op.Answer :=
  Program.perform (S := registryOps) op

namespace ServerRegistry

variable (r : ServerRegistry)

def execOp : (op : RegistryOp) → op.Answer × ServerRegistry
  | .connsGet sessionId => (r.conns.get sessionId, r)
  | .instancesGet key => (r.instances.get key, r)
  | .instancesInsert key sessionId => ((), { r with instances := r.instances.insert key sessionId })
  | .connsInsert sessionId conn => ((), { r with conns := r.conns.insert sessionId conn })
  | .connsRemove sessionId => (r.conns.get sessionId, { r with conns := r.conns.remove sessionId })
  | .instancesRemove key => ((), { r with instances := r.instances.remove key })

def registerSteps (sessionId : UInt32) (serviceId : UInt8) (instanceId : UInt32) (tx : Tx) :
    Program registryOps RegisterResult := do
  match ← RegistryOp.perform (.connsGet sessionId) with
  | some conn =>
      if conn.serviceId == serviceId && conn.instanceId == instanceId then pure .alreadyRegistered
      else pure .sessionAlreadyRegistered
  | none => do
      let registered ← RegistryOp.perform (.instancesGet (serviceId, instanceId))
      if registered.any (· != sessionId) then pure .instanceAlreadyRegistered
      else do
        RegistryOp.perform (.instancesInsert (serviceId, instanceId) sessionId)
        RegistryOp.perform (.connsInsert sessionId
          { serviceId, instanceId, sessionId, tx, load := {}, latencyMs := none })
        pure .registered

def removeSteps (sessionId : UInt32) : Program registryOps (Option InstanceKey) := do
  match ← RegistryOp.perform (.connsRemove sessionId) with
  | some conn => do
      RegistryOp.perform (.instancesRemove (conn.serviceId, conn.instanceId))
      pure (some (conn.serviceId, conn.instanceId))
  | none => pure none

/-- Run alone, a registration is the one that the gateway's handlers are about. -/
theorem registerSteps_eval (sessionId : UInt32) (serviceId : UInt8) (instanceId : UInt32) (tx : Tx) :
    (registerSteps sessionId serviceId instanceId tx).eval execOp r =
      r.register sessionId serviceId instanceId tx := by
  rw [registerSteps, Program.perform_bind, Program.eval, register]
  rcases h : r.conns.get sessionId with _ | conn
  · rw [show (r.execOp (.connsGet sessionId)).1 = none from h]
    show Program.eval (S := registryOps) execOp
      (if (r.instances.get (serviceId, instanceId)).any _ then _ else _) r = _
    split_ifs <;> rfl
  · rw [show (r.execOp (.connsGet sessionId)).1 = some conn from h]
    dsimp only
    split_ifs <;> rfl

theorem removeSteps_eval (sessionId : UInt32) :
    (removeSteps sessionId).eval execOp r = r.remove sessionId := by
  rw [removeSteps, Program.perform_bind, Program.eval, remove]
  rcases h : r.conns.get sessionId with _ | conn
  · rw [show (r.execOp (.connsRemove sessionId)).1 = none from h]
    show (none, { r with conns := r.conns.remove sessionId }) = _
    rw [Table.remove_eq_self _ _ h]
  · rw [show (r.execOp (.connsRemove sessionId)).1 = some conn from h]
    rfl

end ServerRegistry

/-! ### Sessions and their calls -/

structure InternalSession where
  sessionId : UInt32
  tx : Tx

inductive RegistryCall
  | register (serviceId : UInt8) (instanceId : UInt32)
  | remove

/-- Every session makes one call after the other. -/
def registration : ThreadSystem registryOps ServerRegistry InternalSession RegistryCall where
  does r op answer r' := r.execOp op = (answer, r')
  handle session
    | .register serviceId instanceId => some do
        let _ ← ServerRegistry.registerSteps session.sessionId serviceId instanceId session.tx
        pure session
    | .remove => some do
        let _ ← ServerRegistry.removeSteps session.sessionId
        pure session
  opens _ _ _ _ := False
  environment _ _ := False

abbrev RegistryPool := Pool registryOps ServerRegistry InternalSession

abbrev RegistryEvent := Pool.Event registryOps InternalSession RegistryCall

/-- Nobody is registered, and no call is in flight. -/
def unregistered (sessions : List InternalSession) : RegistryPool :=
  ⟨⟨∅, ∅⟩, sessions.map fun session => .ret session⟩

/-- No call is in flight. -/
def Returned (pool : RegistryPool) : Prop := ∀ p ∈ pool.threads, p.isRet

/-- The maps are inverse to each other. -/
def ServerRegistry.Inverse (r : ServerRegistry) : Prop :=
  ∀ key sessionId, r.instances.get key = some sessionId ↔
    (r.conns.get sessionId).map BackendConn.key = some key

/-- At most one session holds an identity. -/
def ServerRegistry.Exclusive (r : ServerRegistry) : Prop :=
  ∀ x y key, (r.conns.get x).map BackendConn.key = some key →
    (r.conns.get y).map BackendConn.key = some key → x = y

/-- An identity is free when it is taken. -/
def TakesFree (pool : RegistryPool) : RegistryEvent → Prop
  | .call _ ⟨.instancesInsert key _, _⟩ => pool.shared.instances.get key = none
  | _ => True

instance (pool : RegistryPool) : Decidable (Returned pool) := inferInstanceAs (Decidable (∀ p ∈ _, _))

instance (pool : RegistryPool) : (e : RegistryEvent) → Decidable (TakesFree pool e)
  | .call _ ⟨.instancesInsert _ _, _⟩ => inferInstanceAs (Decidable (_ = none))
  | .call _ ⟨.connsGet _, _⟩ | .call _ ⟨.instancesGet _, _⟩ | .call _ ⟨.connsInsert _ _, _⟩
  | .call _ ⟨.connsRemove _, _⟩ | .call _ ⟨.instancesRemove _, _⟩ | .opens _ | .input _ _
  | .environment => .isTrue trivial

/-! ### What a call goes through -/

inductive RegistryStage
  | idle
  | checking (key : InstanceKey)
  | looking (key : InstanceKey)
  | taking (key : InstanceKey)
  | entering (key : InstanceKey)
  | leaving
  | releasing (key : InstanceKey)

/-- A session and how far its call is. -/
structure Registrant where
  session : InternalSession
  stage : RegistryStage

/-- The session's call has found it unregistered, or made it so. -/
def RegistryStage.outside : RegistryStage → Bool
  | .idle | .checking _ | .leaving => false
  | .looking _ | .taking _ | .entering _ | .releasing _ => true

/-- The identity that the session has taken and not entered, or left and not released. -/
def RegistryStage.between : RegistryStage → Option InstanceKey
  | .entering key | .releasing key => some key
  | _ => none

inductive Registrant.Moves (session : InternalSession) :
    RegistryStage → (op : RegistryOp) → op.Answer → RegistryStage → Prop
  | registered (key : InstanceKey) (conn : BackendConn) :
      Moves session (.checking key) (.connsGet session.sessionId) (some conn) .idle
  | unregistered (key : InstanceKey) :
      Moves session (.checking key) (.connsGet session.sessionId) none (.looking key)
  | refused (key : InstanceKey) (owner : Option UInt32) :
      Moves session (.looking key) (.instancesGet key) owner .idle
  | free (key : InstanceKey) (owner : Option UInt32) :
      Moves session (.looking key) (.instancesGet key) owner (.taking key)
  | take (key : InstanceKey) :
      Moves session (.taking key) (.instancesInsert key session.sessionId) () (.entering key)
  | enter {key : InstanceKey} (conn : BackendConn) (h : conn.key = key) :
      Moves session (.entering key) (.connsInsert session.sessionId conn) () .idle
  | leave (conn : BackendConn) :
      Moves session .leaving (.connsRemove session.sessionId) (some conn) (.releasing conn.key)
  | absent : Moves session .leaving (.connsRemove session.sessionId) none .idle
  | release (key : InstanceKey) : Moves session (.releasing key) (.instancesRemove key) () .idle

def registrant : Guide registration Registrant where
  moves q op answer q' := q'.session = q.session ∧ Registrant.Moves q.session q.stage op answer q'.stage
  stops q session := q.session = session ∧ q.stage = .idle
  fresh _ session := ⟨session, .idle⟩
  begins q e q' := q'.session = q.session ∧ match e with
    | .register serviceId instanceId => q'.stage = .checking (serviceId, instanceId)
    | .remove => q'.stage = .leaving
  fresh_stops _ _ _ _ h := h.elim
  follows := by
    rintro ⟨session, _⟩ _ e p ⟨rfl, rfl⟩ hp
    cases e with
    | register serviceId instanceId =>
        cases hp
        refine ⟨⟨session, .checking (serviceId, instanceId)⟩, ⟨rfl, rfl⟩, ?_⟩
        refine .call (fun answer => ⟨session, match answer with
          | some _ => .idle
          | none => .looking (serviceId, instanceId)⟩) (fun answer => ⟨rfl, ?_⟩) fun answer => ?_
        · cases answer with
          | none => exact .unregistered _
          | some conn => exact .registered _ conn
        · cases answer with
          | some conn =>
              show Program.Follows _ _ _ ((if _ then _ else _ : Program registryOps _) >>= _)
              split_ifs <;> exact .ret ⟨rfl, rfl⟩
          | none =>
              refine .call (fun owner => ⟨session, if owner.any (· != session.sessionId) then .idle
                else .taking (serviceId, instanceId)⟩) (fun owner => ⟨rfl, ?_⟩) fun owner => ?_
              · dsimp only
                split_ifs
                · exact .refused _ owner
                · exact .free _ owner
              · show Program.Follows _ _ _ ((if _ then _ else _ : Program registryOps _) >>= _)
                split_ifs
                · exact .ret ⟨rfl, rfl⟩
                · refine .call (fun _ => ⟨session, .entering (serviceId, instanceId)⟩)
                    (fun _ => ⟨rfl, .take _⟩) fun _ => ?_
                  refine .call (fun _ => ⟨session, .idle⟩) (fun _ => ⟨rfl, ?_⟩) fun _ => .ret ⟨rfl, rfl⟩
                  exact .enter _ rfl
    | remove =>
        cases hp
        refine ⟨⟨session, .leaving⟩, ⟨rfl, rfl⟩, ?_⟩
        refine .call (fun answer => ⟨session, match answer with
          | some conn => .releasing conn.key
          | none => .idle⟩) (fun answer => ⟨rfl, ?_⟩) fun answer => ?_
        · cases answer with
          | none => exact .absent
          | some conn => exact .leave conn
        · cases answer with
          | none => exact .ret ⟨rfl, rfl⟩
          | some conn =>
              exact .call (fun _ => ⟨session, .idle⟩) (fun _ => ⟨rfl, .release _⟩) fun _ => .ret ⟨rfl, rfl⟩

/-! ### The maps stay inverse to each other -/

/-- The identity that a session holds: it has entered, or it is between. -/
def held (r : ServerRegistry) (q : Registrant) : Option InstanceKey :=
  match r.conns.get q.session.sessionId with
  | some conn => some conn.key
  | none => q.stage.between

/-- `instances` has exactly what the sessions hold. -/
structure Held (r : ServerRegistry) (qs : List Registrant) : Prop where
  outside : ∀ q ∈ qs, q.stage.outside → r.conns.get q.session.sessionId = none
  known : ∀ x conn, r.conns.get x = some conn → ∃ q ∈ qs, q.session.sessionId = x
  holders : ∀ key x, r.instances.get key = some x ↔ ∃ q ∈ qs, q.session.sessionId = x ∧ held r q = some key

theorem held_some {r : ServerRegistry} {q : Registrant} {conn : BackendConn}
    (h : r.conns.get q.session.sessionId = some conn) : held r q = some conn.key := by
  rw [held, h]

theorem held_none {r : ServerRegistry} {q : Registrant}
    (h : r.conns.get q.session.sessionId = none) : held r q = q.stage.between := by
  rw [held, h]

/-- The sessions of the threads. -/
def sessionIds (qs : List Registrant) : List UInt32 := qs.map fun q => q.session.sessionId

section Steps

variable {r r' : ServerRegistry} {qs qs' : List Registrant} {q q' : Registrant} {k : Nat}

theorem eq_of_session (hnodup : (sessionIds qs).Nodup) (hq : q ∈ qs) (hq' : q' ∈ qs)
    (h : q'.session.sessionId = q.session.sessionId) : q' = q :=
  List.inj_on_of_nodup_map hnodup hq' hq h

theorem Held.own (h : Held r qs) (hnodup : (sessionIds qs).Nodup) (hq : q ∈ qs) (key : InstanceKey) :
    r.instances.get key = some q.session.sessionId ↔ held r q = some key := by
  rw [h.holders]
  constructor
  · rintro ⟨q', hq', hsession, hheld⟩
    rwa [eq_of_session hnodup hq hq' hsession] at hheld
  · exact fun hheld => ⟨q, hq, rfl, hheld⟩

theorem Held.update (h : Held r qs) (hnodup : (sessionIds qs).Nodup) (hk : qs[k]? = some q)
    (hsession : q'.session = q.session)
    (hconns : ∀ y, y ≠ q.session.sessionId → r'.conns.get y = r.conns.get y)
    (houtside : q'.stage.outside → r'.conns.get q.session.sessionId = none)
    (hinstances : ∀ key x, r'.instances.get key = some x ↔
      x ≠ q.session.sessionId ∧ r.instances.get key = some x ∨
        x = q.session.sessionId ∧ held r' q' = some key) : Held r' (qs.set k q') := by
  have hq : q ∈ qs := List.mem_of_getElem? hk
  have hmem : ∀ p, p ∈ qs.set k q' ↔ p = q' ∨ p ∈ qs ∧ p.session.sessionId ≠ q.session.sessionId := by
    intro p
    constructor
    · intro hp
      obtain ⟨j, hj⟩ := List.getElem?_of_mem hp
      rw [Guide.get_set hk] at hj
      split_ifs at hj with hjk
      · exact Or.inl (Option.some.inj hj).symm
      · refine Or.inr ⟨List.mem_of_getElem? hj, fun hsame => hjk ?_⟩
        have heq := eq_of_session hnodup hq (List.mem_of_getElem? hj) hsame
        rw [heq] at hj
        obtain ⟨hlt, -⟩ := List.getElem?_eq_some_iff.1 hj
        exact (List.getElem?_inj hlt (List.Nodup.of_map _ hnodup)).1 (hj.trans hk.symm)
    · rintro (rfl | ⟨hp, hne⟩)
      · exact List.mem_set (List.getElem?_eq_some_iff.1 hk).1 _
      · obtain ⟨j, hj⟩ := List.getElem?_of_mem hp
        refine List.mem_of_getElem? (i := j) ?_
        rw [Guide.get_set hk, if_neg ?_]
        · exact hj
        · rintro rfl
          rw [hk] at hj
          cases hj
          exact hne rfl
  refine ⟨fun p hp hout => ?_, fun x conn hx => ?_, fun key x => ?_⟩
  · rcases (hmem p).1 hp with rfl | ⟨hp, hne⟩
    · rw [hsession]
      exact houtside hout
    · rw [hconns _ hne]
      exact h.outside p hp hout
  · by_cases hxq : x = q.session.sessionId
    · exact ⟨q', (hmem q').2 (Or.inl rfl), by rw [hsession, hxq]⟩
    · rw [hconns x hxq] at hx
      obtain ⟨p, hp, rfl⟩ := h.known x conn hx
      exact ⟨p, (hmem p).2 (Or.inr ⟨hp, hxq⟩), rfl⟩
  · rw [hinstances]
    constructor
    · rintro (⟨hne, hx⟩ | ⟨rfl, hheld⟩)
      · obtain ⟨p, hp, rfl, hheld⟩ := (h.holders key x).1 hx
        refine ⟨p, (hmem p).2 (Or.inr ⟨hp, hne⟩), rfl, ?_⟩
        rwa [held, hconns _ hne]
      · exact ⟨q', (hmem q').2 (Or.inl rfl), by rw [hsession], hheld⟩
    · rintro ⟨p, hp, rfl, hheld⟩
      rcases (hmem p).1 hp with rfl | ⟨hp, hne⟩
      · exact Or.inr ⟨by rw [hsession], hheld⟩
      · refine Or.inl ⟨hne, (h.holders key _).2 ⟨p, hp, rfl, ?_⟩⟩
        rwa [held, hconns _ hne] at hheld

theorem Held.unchanged (h : Held r qs) (hnodup : (sessionIds qs).Nodup) (hk : qs[k]? = some q)
    (hheld : held r' q' = held r q) (key : InstanceKey) (x : UInt32) :
    r.instances.get key = some x ↔ x ≠ q.session.sessionId ∧ r.instances.get key = some x ∨
      x = q.session.sessionId ∧ held r' q' = some key := by
  have hown := h.own hnodup (List.mem_of_getElem? hk) key
  rw [hheld, ← hown]
  by_cases hx : x = q.session.sessionId
  · simp [hx]
  · simp [hx]

theorem Held.step (h : Held r qs) (hnodup : (sessionIds qs).Nodup) {pool : RegistryPool}
    (hpool : pool.shared = r) {e : RegistryEvent} (hok : TakesFree pool e)
    (hstep : registrant.Step (r, qs) e (r', qs')) : Held r' qs' := by
  cases hstep with
  | opens h => exact h.elim
  | environment h => exact h.elim
  | @input _ _ k q q' session e hk hstops _ hbegins =>
      obtain ⟨hsession, hstage⟩ := hbegins
      have hbetween : q'.stage.between = q.stage.between ∧ q'.stage.outside = false := by
        rw [hstops.2]
        cases e with
        | register =>
            rw [hstage]
            exact ⟨rfl, rfl⟩
        | remove =>
            rw [hstage]
            exact ⟨rfl, rfl⟩
      refine h.update hnodup hk hsession (fun _ _ => rfl) (fun hout => ?_) ?_
      · rw [hbetween.2] at hout
        cases hout
      · refine h.unchanged hnodup hk ?_
        rw [held, held, hsession, hbetween.1]
  | @call _ _ _ k q q' op answer hk hmoves hdoes =>
      obtain ⟨session, stage⟩ := q
      obtain ⟨session', stage'⟩ := q'
      obtain ⟨hsession, hmoves⟩ := hmoves
      obtain rfl : session' = session := hsession
      have hout := h.outside _ (List.mem_of_getElem? hk)
      cases hmoves with
      | registered key conn =>
          obtain ⟨hconn, rfl⟩ := Prod.mk.inj hdoes
          refine h.update hnodup hk rfl (fun _ _ => rfl) nofun (h.unchanged hnodup hk ?_)
          exact (held_some hconn).trans (held_some hconn).symm
      | unregistered key =>
          obtain ⟨hconn, rfl⟩ := Prod.mk.inj hdoes
          refine h.update hnodup hk rfl (fun _ _ => rfl) (fun _ => hconn) (h.unchanged hnodup hk ?_)
          exact (held_none hconn).trans (held_none hconn).symm
      | refused key owner =>
          obtain ⟨-, rfl⟩ := Prod.mk.inj hdoes
          refine h.update hnodup hk rfl (fun _ _ => rfl) nofun (h.unchanged hnodup hk ?_)
          exact (held_none (hout rfl)).trans (held_none (hout rfl)).symm
      | free key owner =>
          obtain ⟨-, rfl⟩ := Prod.mk.inj hdoes
          refine h.update hnodup hk rfl (fun _ _ => rfl) (fun _ => hout rfl) (h.unchanged hnodup hk ?_)
          exact (held_none (hout rfl)).trans (held_none (hout rfl)).symm
      | take key =>
          obtain ⟨-, rfl⟩ := Prod.mk.inj hdoes
          refine h.update hnodup hk rfl (fun _ _ => rfl) (fun _ => hout rfl) fun key' x => ?_
          have hfree : r.instances.get key = none := hpool ▸ hok
          have hown := h.own hnodup (List.mem_of_getElem? hk) key'
          rw [held_none (hout rfl)] at hown
          have hheld : held { r with instances := r.instances.insert key session'.sessionId }
              ⟨session', .entering key⟩ = some key := held_none (hout rfl)
          show (r.instances.insert key session'.sessionId).get key' = some x ↔
            x ≠ session'.sessionId ∧ r.instances.get key' = some x ∨ x = session'.sessionId ∧ held _ _ = _
          rw [hheld, Table.get_insert]
          by_cases hkey : key' = key
          · subst hkey
            simp [hfree, eq_comm]
          · have hne : ¬ key = key' := fun heq => hkey heq.symm
            simp only [if_neg hkey, Option.some.injEq, hne, and_false, or_false]
            refine ⟨fun hx => ⟨?_, hx⟩, fun hx => hx.2⟩
            rintro rfl
            cases hown.1 hx
      | enter conn hkey =>
          obtain ⟨-, rfl⟩ := Prod.mk.inj hdoes
          refine h.update hnodup hk rfl (fun y hy => Table.get_insert_ne _ _ hy) nofun
            (h.unchanged hnodup hk ?_)
          have hnow := held_some (q := ⟨session', .idle⟩) (r := { r with
            conns := r.conns.insert session'.sessionId conn }) (Table.get_insert_self ..)
          rw [hkey] at hnow
          exact hnow.trans (held_none (hout rfl)).symm
      | leave conn =>
          obtain ⟨hconn, rfl⟩ := Prod.mk.inj hdoes
          refine h.update hnodup hk rfl (fun y hy => Table.get_remove_ne _ hy)
            (fun _ => Table.get_remove_self ..) (h.unchanged hnodup hk ?_)
          exact (held_none (Table.get_remove_self ..)).trans (held_some hconn).symm
      | absent =>
          obtain ⟨hconn, rfl⟩ := Prod.mk.inj hdoes
          refine h.update hnodup hk rfl (fun y hy => Table.get_remove_ne _ hy) nofun
            (h.unchanged hnodup hk ?_)
          exact (held_none (Table.get_remove_self ..)).trans (held_none hconn).symm
      | release key =>
          obtain ⟨-, rfl⟩ := Prod.mk.inj hdoes
          refine h.update hnodup hk rfl (fun _ _ => rfl) nofun fun key' x => ?_
          have hown := h.own hnodup (List.mem_of_getElem? hk) key'
          rw [held_none (hout rfl)] at hown
          have hheld : held { r with instances := r.instances.remove key } ⟨session', .idle⟩ = none :=
            held_none (hout rfl)
          show (r.instances.remove key).get key' = some x ↔
            x ≠ session'.sessionId ∧ r.instances.get key' = some x ∨ x = session'.sessionId ∧ held _ _ = _
          rw [hheld, Table.get_remove]
          by_cases hkey : key' = key
          · subst hkey
            have hmine : r.instances.get key' = some session'.sessionId := hown.2 rfl
            simp [hmine, eq_comm]
          · simp only [if_neg hkey, reduceCtorEq, and_false, or_false]
            refine ⟨fun hx => ⟨?_, hx⟩, fun hx => hx.2⟩
            rintro rfl
            exact hkey (Option.some.inj (hown.1 hx)).symm

theorem sessionIds_set (hk : qs[k]? = some q) (hsession : q'.session = q.session) :
    sessionIds (qs.set k q') = sessionIds qs := by
  rw [sessionIds, List.map_set, hsession]
  refine List.ext_getElem? fun j => ?_
  rw [Guide.get_set (by rw [List.getElem?_map, hk]; rfl), sessionIds]
  split_ifs with hj
  · rw [hj, List.getElem?_map, hk]
    rfl
  · rfl

theorem sessionIds_step {e : RegistryEvent} (hstep : registrant.Step (r, qs) e (r', qs')) :
    sessionIds qs' = sessionIds qs := by
  cases hstep with
  | opens h => exact h.elim
  | environment h => exact h.elim
  | input hk _ _ hbegins => exact sessionIds_set hk hbegins.1
  | call hk hmoves _ => exact sessionIds_set hk hmoves.1

end Steps

theorem Held.inverse {r : ServerRegistry} {qs : List Registrant} (h : Held r qs)
    (hidle : ∀ q ∈ qs, q.stage = .idle) : r.Inverse := by
  intro key x
  rw [h.holders]
  constructor
  · rintro ⟨q, hq, rfl, hheld⟩
    rcases hconn : r.conns.get q.session.sessionId with _ | conn
    · rw [held_none hconn, hidle q hq] at hheld
      cases hheld
    · rwa [held_some hconn] at hheld
  · intro hx
    obtain ⟨conn, hconn, rfl⟩ := Option.map_eq_some_iff.1 hx
    obtain ⟨q, hq, rfl⟩ := h.known x conn hconn
    exact ⟨q, hq, rfl, held_some hconn⟩

theorem ServerRegistry.Inverse.exclusive {r : ServerRegistry} (h : r.Inverse) : r.Exclusive := by
  intro x y key hx hy
  rw [← h] at hx hy
  exact Option.some.inj (hx.symm.trans hy)

section Runs

variable {sessions : List InternalSession} {trace : List (RegistryPool × RegistryEvent)}
  {pool : RegistryPool}

/-- If every identity is free when it is taken, every identity has one holder in the end. -/
theorem inverse_of_run (hnodup : (sessions.map InternalSession.sessionId).Nodup)
    (hrun : Run (Pool.Step registration) (unregistered sessions) trace pool)
    (hok : ∀ e ∈ trace, TakesFree e.1 e.2) (hidle : Returned pool) :
    pool.shared.Exclusive ∧ pool.shared.Inverse := by
  have htracks : registrant.Tracks (sessions.map fun session => ⟨session, .idle⟩)
      (unregistered sessions).threads := by
    rw [Guide.Tracks, unregistered, List.forall₂_map_left_iff, List.forall₂_map_right_iff,
      List.forall₂_same]
    exact fun session _ => .ret ⟨rfl, rfl⟩
  have hstart : Held (unregistered sessions).shared (sessions.map fun session => ⟨session, .idle⟩) := by
    refine ⟨fun q _ _ => Table.get_empty _, fun x conn hx => ?_, fun key x => ?_⟩
    · cases hx
    · refine ⟨fun hx => ?_, fun ⟨q, hq, _, hheld⟩ => ?_⟩
      · cases hx
      · obtain ⟨session, -, rfl⟩ := List.mem_map.1 hq
        cases hheld
  obtain ⟨qs, htracks, hids, hheld⟩ := registrant.invariant_of htracks hrun TakesFree hok
    (fun _ r qs => sessionIds qs = sessions.map InternalSession.sessionId ∧ Held r qs)
    ⟨by simp [sessionIds], hstart⟩
    fun trace pool qs e r' qs' _ hinv hok hstep =>
      ⟨(sessionIds_step hstep).trans hinv.1, hinv.2.step (hinv.1 ▸ hnodup) rfl hok hstep⟩
  have hinverse := hheld.inverse fun q hq => by
    obtain ⟨k, hk⟩ := List.getElem?_of_mem hq
    obtain ⟨p, hp, hfollows⟩ := htracks.get' hk
    have hret := hidle p (List.mem_of_getElem? hp)
    cases hfollows with
    | ret h => exact h.2
    | call _ _ _ => cases hret
  exact ⟨hinverse.exclusive, hinverse⟩

end Runs

def registrationExecutor : Executor registration where
  exec := ServerRegistry.execOp
  opened _ _ _ := none
  does_exec _ _ := rfl
  opens_opened := nofun

/-- A second backend of the same identity is refused, and takes its place when it is gone. -/
theorem inverse_of_run_succession : ∃ trace pool,
    Run (Pool.Step registration) (unregistered [⟨1, 0⟩, ⟨2, 1⟩]) trace pool ∧
      pool.shared.instances.get (1, 1) = some 2 ∧ pool.shared.Inverse := by
  have h : ∃ r, registrationExecutor.record (unregistered [⟨1, 0⟩, ⟨2, 1⟩])
      [.input 0 (.register 1 1), .call 0, .call 0, .call 0, .call 0, .input 1 (.register 1 1), .call 1,
        .call 1, .input 0 .remove, .call 0, .call 0, .input 1 (.register 1 1), .call 1, .call 1, .call 1,
        .call 1] = some r ∧ (∀ e ∈ r.1, TakesFree e.1 e.2) ∧ Returned r.2 ∧
      r.2.shared.instances.get (1, 1) = some 2 := by
    decide +kernel
  obtain ⟨⟨trace, pool⟩, hrecord, hok, hidle, howner⟩ := h
  have hrun := registrationExecutor.record_sound hrecord
  exact ⟨trace, pool, hrun, howner, (inverse_of_run (by decide) hrun hok hidle).2⟩

/-- Two backends of the same identity find it free, and both take it. -/
theorem registered_twice : ∃ trace pool,
    Run (Pool.Step registration) (unregistered [⟨1, 0⟩, ⟨2, 1⟩]) trace pool ∧ Returned pool ∧
      ¬ pool.shared.Exclusive ∧ ¬ pool.shared.Inverse := by
  have h : ∃ r, registrationExecutor.record (unregistered [⟨1, 0⟩, ⟨2, 1⟩])
      [.input 0 (.register 1 1), .call 0, .call 0, .input 1 (.register 1 1), .call 1, .call 1, .call 0,
        .call 0, .call 1, .call 1] = some r ∧ Returned r.2 ∧
      (r.2.shared.conns.get 1).map BackendConn.key = some (1, 1) ∧
      (r.2.shared.conns.get 2).map BackendConn.key = some (1, 1) := by
    decide +kernel
  obtain ⟨⟨trace, pool⟩, hrecord, hidle, hfirst, hsecond⟩ := h
  have hnot : ¬ pool.shared.Exclusive := fun hexclusive =>
    absurd (hexclusive 1 2 (1, 1) hfirst hsecond) (by decide)
  exact ⟨trace, pool, registrationExecutor.record_sound hrecord, hidle, hnot, fun h => hnot h.exclusive⟩

end AxmolFighter.Gateway
