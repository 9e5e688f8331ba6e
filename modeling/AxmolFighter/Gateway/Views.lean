import AxmolFighter.Gateway.Statuses
import Mathlib.Data.Finset.Erase
import Mathlib.Data.Finset.Insert

/-!
# The client's view of the services

A client that has asked for the server status knows the instances in the answer, and learns of others by
pushes. What it knows should be what it is shown: the registered instances of services with an unbound route,
and those it is bound to. Registrations and their ends keep it so; a bind request does not when it moves the
session to another instance, nor an unbind request when the service has an unbound route, nor does a kick.
-/

namespace AxmolFighter.Gateway

open Pool

/-! ### Views -/

/-- What a client makes of one entry of a message about services. -/
def learnStatus (view : Finset (UInt32 × UInt32)) (status : ServiceStatus) : Finset (UInt32 × UInt32) :=
  if status.online then insert (status.serviceId, status.instanceId) view
  else view.erase (status.serviceId, status.instanceId)

/-- What it makes of a message. -/
def learn (view : Finset (UInt32 × UInt32)) (services : List ServiceStatus) : Finset (UInt32 × UInt32) :=
  services.foldl learnStatus view

theorem mem_learn {services : List ServiceStatus} (honline : ∀ status ∈ services, status.online = true)
    {view : Finset (UInt32 × UInt32)} {p : UInt32 × UInt32} : p ∈ learn view services ↔
      p ∈ view ∨ p ∈ services.map fun status => (status.serviceId, status.instanceId) := by
  induction services generalizing view with
  | nil => simp [learn]
  | cons status services ih =>
      rw [learn, List.foldl_cons, ← learn, ih fun status hmem => honline status (List.mem_cons_of_mem _ hmem)]
      rw [learnStatus, if_pos (honline status List.mem_cons_self), Finset.mem_insert, List.map_cons, List.mem_cons]
      tauto

namespace Shared

variable {s s₁ s' : Shared} {S : UInt32} {svc : UInt8} {i : UInt32} {view : Finset (UInt32 × UInt32)}

/-- The view has what the session sees, and nothing else. -/
def Exact (s : Shared) (sessionId : UInt32) (view : Finset (UInt32 × UInt32)) : Prop :=
  ∀ p, p ∈ view ↔ s.Visible sessionId p

theorem Exact.same (h : s.Exact S view) (hsees : ∀ svc i, s'.Sees S svc i ↔ s.Sees S svc i) :
    s'.Exact S view := by
  intro p
  rw [h p, Visible, Visible]
  simp only [hsees]

theorem Exact.online (h : s.Exact S view)
    (hsees : ∀ svc' i', s'.Sees S svc' i' ↔ (svc' = svc ∧ i' = i) ∨ s.Sees S svc' i') :
    s'.Exact S (learn view [{ serviceId := svc.toUInt32, instanceId := i, online := true }]) := by
  intro p
  rw [mem_learn (by simp), h p, List.map_singleton, List.mem_singleton, Visible, Visible]
  simp only [hsees]
  constructor
  · rintro (⟨svc', i', rfl, hold⟩ | rfl)
    · exact ⟨svc', i', rfl, Or.inr hold⟩
    · exact ⟨svc, i, rfl, Or.inl ⟨rfl, rfl⟩⟩
  · rintro ⟨svc', i', rfl, ⟨rfl, rfl⟩ | hold⟩
    · exact Or.inr rfl
    · exact Or.inl ⟨svc', i', rfl, hold⟩

theorem Exact.offline (h : s.Exact S view)
    (hsees : ∀ svc' i', s'.Sees S svc' i' ↔ ¬ (svc' = svc ∧ i' = i) ∧ s.Sees S svc' i') :
    s'.Exact S (learn view [{ serviceId := svc.toUInt32, instanceId := i, online := false }]) := by
  intro p
  show p ∈ view.erase (svc.toUInt32, i) ↔ _
  rw [Finset.mem_erase, h p, Visible, Visible]
  simp only [hsees]
  constructor
  · rintro ⟨hne, svc', i', rfl, hold⟩
    refine ⟨svc', i', rfl, ?_, hold⟩
    rintro ⟨rfl, rfl⟩
    exact hne rfl
  · rintro ⟨svc', i', rfl, hne, hold⟩
    refine ⟨fun heq => hne ?_, svc', i', rfl, hold⟩
    obtain ⟨hsvc, rfl⟩ := Prod.mk.inj heq
    exact ⟨UInt8.toUInt32_inj.1 hsvc, rfl⟩

/-- Who attends attended before, and what it has been told keeps its view exact. -/
def Informs (s s' : Shared) : Prop :=
  ∀ S b, s'.Attends S b → s.Attends S b ∧ ∃ told, s'.statuses b = s.statuses b ++ told ∧
    ∀ view, s.Exact S view → s'.Exact S (told.foldl learn view)

theorem Informs.trans (h : s.Informs s₁) (h' : s₁.Informs s') : s.Informs s' := by
  intro S b hattends
  obtain ⟨hattends, told', hstatuses', hexact'⟩ := h' S b hattends
  obtain ⟨hattends, told, hstatuses, hexact⟩ := h S b hattends
  refine ⟨hattends, told ++ told', by rw [hstatuses', hstatuses, List.append_assoc], fun view hview => ?_⟩
  rw [List.foldl_append]
  exact hexact' _ (hexact view hview)

theorem Informs.of_tells {told : UInt32 → List (List ServiceStatus)} (htells : s₁.Tells s' told)
    (hattends : ∀ S b, s₁.Attends S b → s.Attends S b) (hstatuses : ∀ b, s₁.statuses b = s.statuses b)
    (hexact : ∀ S b view, s.Attends S b → s.Exact S view → s₁.Exact S ((told S).foldl learn view)) :
    s.Informs s' := by
  intro S b hafter
  have hbefore := htells.attends.1 hafter
  refine ⟨hattends S b hbefore, told S, by rw [htells.statuses S b hbefore, hstatuses], fun view hview => ?_⟩
  exact (hexact S b view (hattends S b hbefore) hview).same fun _ _ => htells.sees

theorem Mute.informs (h : s.Mute s') : s.Informs s' :=
  .of_tells h (fun _ _ => id) (fun _ => rfl) fun _ _ _ _ hview => hview

/-! ### Changes of the tables -/

section Calls

variable {op : Op} {answer : op.Answer}

theorem Does.shows (h : s.Does op answer s') {svc : UInt8}
    (hbinding : op.bindingAfter s.binding (S, svc) = s.binding (S, svc)) : s'.Shows S svc i ↔ s.Shows S svc i := by
  unfold Shows Router.serviceHasUnboundRoute
  rw [h.rules, h.binding, hbinding]

theorem Does.statuses (h : s.Does op answer s') (hop : ∀ t : Shared, (t.exec op).2.channels = t.channels) (b : Tx) :
    s'.statuses b = s.statuses b := by
  unfold Shared.statuses
  rw [h.channels hop]

theorem Does.attends (h : s.Does op answer s') (hop : ∀ t : Shared, (t.exec op).2.channels = t.channels)
    (hsession : ∀ old S, op.sessionAfter old S = old S) {b : Tx} : s'.Attends S b ↔ s.Attends S b := by
  constructor
  · rintro ⟨hs, hopen⟩
    rw [h.session_eq hsession] at hs
    rw [h.channels hop] at hopen
    exact ⟨hs, hopen⟩
  · rintro ⟨hs, hopen⟩
    refine ⟨?_, ?_⟩
    · rwa [h.session_eq hsession]
    · rwa [h.channels hop]

end Calls

theorem Does.filed {op : Op} {answer : op.Answer} (h : s.Does op answer s') (hfiled : s.registry.Filed) :
    s'.registry.Filed := by
  obtain ⟨t, hsame, hexec⟩ := h
  have ht := ServerRegistry.SameConns.filed ⟨hsame.conns, hsame.instances⟩ hfiled
  obtain rfl : (t.exec op).2 = s' := congrArg Prod.snd hexec
  cases op with
  | register => exact ht.register _ _ _ _
  | unregister => exact ht.remove _
  | updateLoad => exact ht.updateLoad _ _ _ _ _ _
  | updateLatency => exact ht.updateLatency _ _
  | _ => exact ht

theorem Does.serves_register {x : UInt32} {tx : Tx} (h : s.Does (.register x svc i tx) .registered s')
    {svc' : UInt8} {i' : UInt32} : s'.serves svc' i' ↔ (svc' = svc ∧ i' = i) ∨ s.serves svc' i' := by
  obtain ⟨hnone, hafter⟩ := h.register
  have hnone := hnone rfl
  constructor
  · rintro ⟨y, identity, hy, rfl, rfl⟩
    rw [hafter] at hy
    split_ifs at hy
    · obtain rfl := Option.some.inj hy
      exact Or.inl ⟨rfl, rfl⟩
    · exact Or.inr ⟨y, identity, hy, rfl, rfl⟩
  · rintro (⟨rfl, rfl⟩ | ⟨y, identity, hy, hidentity⟩)
    · exact ⟨x, _, (hafter x).trans (if_pos ⟨rfl, rfl⟩), rfl, rfl⟩
    · refine ⟨y, identity, ?_, hidentity⟩
      rw [hafter, if_neg, hy]
      rintro ⟨-, rfl⟩
      rw [hnone] at hy
      cases hy

theorem Does.serves_unregister {x : UInt32} (h : s.Does (.unregister x) (some (svc, i)) s')
    (hfiled : s.registry.Filed) {svc' : UInt8} {i' : UInt32} :
    s'.serves svc' i' ↔ ¬ (svc' = svc ∧ i' = i) ∧ s.serves svc' i' := by
  have hx := h.unregister_answer.symm
  obtain ⟨own, hown, heq⟩ := Option.map_eq_some_iff.1 hx
  obtain ⟨rfl, rfl⟩ := Prod.mk.inj heq
  have hafter := h.unregister
  constructor
  · rintro ⟨y, identity, hy, rfl, rfl⟩
    rw [hafter] at hy
    split_ifs at hy with hyx
    refine ⟨?_, y, identity, hy, rfl, rfl⟩
    rintro ⟨hservice, hinstance⟩
    obtain ⟨conn, hconn, rfl⟩ := Option.map_eq_some_iff.1 hy
    obtain ⟨conn', hconn', rfl⟩ := Option.map_eq_some_iff.1 hown
    exact hyx (hfiled.unique hconn hconn' hservice hinstance)
  · rintro ⟨hne, y, identity, hy, rfl, rfl⟩
    refine ⟨y, identity, ?_, rfl, rfl⟩
    rw [hafter, if_neg, hy]
    rintro rfl
    rw [hown] at hy
    cases hy
    exact hne ⟨rfl, rfl⟩

theorem Does.unchanged {op : Op} {answer : op.Answer} (h : s.Does op answer s')
    (hop : ∀ t : Shared, (t.exec op).2.channels = t.channels) (hsame : s.SameTables s') : s.Mute s' :=
  ⟨hsame, h.rules, congrArg (·.closed) (h.channels hop), fun S b _ => by
    rw [h.statuses hop, List.append_nil]⟩

theorem Does.informs {op : Op} {answer : op.Answer} (h : s.Does op answer s')
    (hop : ∀ t : Shared, (t.exec op).2.channels = t.channels)
    (hattends : ∀ S b, s'.Attends S b → s.Attends S b)
    (hsees : ∀ S b, s'.Attends S b → ∀ svc i, s'.Sees S svc i ↔ s.Sees S svc i) : s.Informs s' := by
  intro S b hafter
  refine ⟨hattends S b hafter, [], ?_, fun view hview => hview.same (hsees S b hafter)⟩
  rw [h.statuses hop, List.append_nil]

end Shared

/-! ### Registrations and their ends -/

namespace InternalDelegate

variable {s s' : Shared} {d : InternalDelegate}

theorem registerResult_announces {req : ServerRegReq} {result : RegisterResult} {code : UInt32} {announces : Bool}
    {d' : InternalDelegate} (h : (d.registerResult req result).Runs Shared.Does s (code, announces, d') s') :
    announces = true ↔ result = .registered := by
  cases result with
  | registered | alreadyRegistered =>
      obtain ⟨_, s₁, -, h⟩ := Program.runs_bind.1 h
      obtain ⟨heq, -⟩ := Program.runs_ret.1 h
      cases heq
      simp
  | sessionAlreadyRegistered | instanceAlreadyRegistered =>
      obtain ⟨heq, -⟩ := Program.runs_ret.1 h
      cases heq
      simp

theorem announce_runs {req : ServerRegReq} (h : (d.announce req).Runs Shared.Does s () s')
    (hdistinct : s.DistinctClients) : s.Tells s' fun S => if s.Shows S req.serviceId.toUInt8 req.instanceId then
      [[{ serviceId := req.serviceId.toUInt8.toUInt32, instanceId := req.instanceId, online := true }]] else [] := by
  obtain ⟨_, s₁, hbroadcast, h⟩ := Program.runs_bind.1 h
  obtain ⟨_, s₂, hpush, h⟩ := Program.runs_bind.1 h
  have hmute : s.Mute s₁ := .of_runs hbroadcast (muted_perform rfl)
  have hrest : s₂.Mute s' := by
    refine .of_runs h ((muted_perform rfl).bind fun _ => .forEach fun sid _ => ?_)
    exact .whenSome fun _ => (muted_perform rfl).bind fun _ => .ret _
  refine ((hmute.tells (pushServiceStatus_runs hpush (hmute.distinctClients hdistinct))).mute hrest).congr fun S b _ => ?_
  simp only [hmute.shows]

theorem informs_handleServerRegReq {serial : Int32} {req : ServerRegReq} {d' : InternalDelegate}
    (h : (d.handleServerRegReq serial req).Runs Shared.Does s d' s') (hdistinct : s.DistinctClients) :
    s.Informs s' := by
  unfold handleServerRegReq at h
  split at h
  · obtain ⟨-, rfl⟩ := Program.runs_ret.1 h
    exact (Shared.Mute.refl _).informs
  · obtain ⟨result, s₁, hregister, h₁⟩ := Program.runs_bind.1 h
    obtain ⟨⟨code, announces, d₁⟩, s₂, hresult, h₂⟩ := Program.runs_bind.1 h₁
    obtain ⟨servers, s₃, hlist, h₃⟩ := Program.runs_bind.1 h₂
    obtain ⟨sent, s₄, hsend, h₄⟩ := Program.runs_bind.1 h₃
    have hregister := Program.runs_perform.1 hregister
    have hmute : s₁.Mute s₄ :=
      ((Shared.Mute.of_runs hresult (d.hushed_registerResult req result).muted).mute
        (.of_runs hlist (muted_perform rfl))).mute (.of_runs hsend (muted_perform rfl))
    have hannounces := registerResult_announces hresult
    have hsession := hregister.session_eq fun _ _ => rfl
    by_cases hnew : result = .registered
    · subst hnew
      rw [if_pos (hannounces.2 rfl)] at h₄
      obtain ⟨_, s₅, hannounce, h₅⟩ := Program.runs_bind.1 h₄
      obtain ⟨-, rfl⟩ := Program.runs_ret.1 h₅
      have hdistinct₁ : s₁.DistinctClients := by
        unfold Shared.DistinctClients
        rwa [hsession]
      refine .of_tells (hmute.tells (announce_runs hannounce (hmute.distinctClients hdistinct₁)))
        (fun S b => (hregister.attends (fun _ => rfl) fun _ _ => rfl).1) (hregister.statuses fun _ => rfl) ?_
      intro S b view _ hview
      have hshows : ∀ svc i, s₁.Shows S svc i ↔ s.Shows S svc i := fun svc i => hregister.shows rfl
      have hserves : ∀ svc i, s₁.serves svc i ↔ _ := fun svc i => hregister.serves_register
      simp only [hmute.shows, hshows]
      split_ifs with hshown
      · refine hview.online fun svc i => ?_
        rw [Shared.Sees, hserves, hshows, or_and_right, ← Shared.Sees]
        refine or_congr_left ⟨And.left, fun heq => ⟨heq, ?_⟩⟩
        obtain ⟨rfl, rfl⟩ := heq
        exact hshown
      · refine hview.same fun svc i => ?_
        rw [Shared.Sees, hserves, hshows, or_and_right, ← Shared.Sees]
        refine or_iff_right ?_
        rintro ⟨⟨rfl, rfl⟩, hshows⟩
        exact hshown hshows
    · rw [if_neg (mt hannounces.1 hnew)] at h₄
      obtain ⟨-, rfl⟩ := Program.runs_ret.1 h₄
      have hbackend : s₁.backend = s.backend := by
        funext x
        rw [hregister.register.2 x, if_neg fun h => hnew h.1]
      have hsame : s.SameTables s₁ := ⟨hsession, hbackend, funext fun key => hregister.binding key⟩
      exact Shared.Mute.informs ((hregister.unchanged (fun _ => rfl) hsame).mute hmute)

theorem informs_onSessionClose (h : d.onSessionClose.Runs Shared.Does s () s') (hfiled : s.registry.Filed)
    (hdistinct : s.DistinctClients) : s.Informs s' := by
  obtain ⟨removed, s₁, hunregister, h⟩ := Program.runs_bind.1 h
  have hunregister := Program.runs_perform.1 hunregister
  have hsession := hunregister.session_eq fun _ _ => rfl
  cases removed with
  | none =>
      obtain ⟨-, rfl⟩ := Program.runs_ret.1 h
      have hnone := Option.map_eq_none_iff.1 hunregister.unregister_answer.symm
      have hbackend : s'.backend = s.backend := by
        funext x
        rw [hunregister.unregister]
        split_ifs with hx
        · rw [hx, hnone]
        · rfl
      exact (hunregister.unchanged (fun _ => rfl)
        ⟨hsession, hbackend, funext fun key => hunregister.binding key⟩).informs
  | some identity =>
      obtain ⟨svc, i⟩ := identity
      obtain ⟨_, s₂, hbroadcast, h⟩ := Program.runs_bind.1 h
      obtain ⟨_, s₃, hpush, hunbind⟩ := Program.runs_bind.1 h
      have hunbind := Program.runs_perform.1 hunbind
      have hmute : s₁.Mute s₂ := .of_runs hbroadcast (muted_perform rfl)
      have hdistinct₁ : s₁.DistinctClients := by
        unfold Shared.DistinctClients
        rwa [hsession]
      have htells := hmute.tells (pushServiceStatus_runs hpush (hmute.distinctClients hdistinct₁))
      have hserves : ∀ svc' i', s₁.serves svc' i' ↔ _ := fun _ _ => hunregister.serves_unregister hfiled
      have hshows : ∀ S svc i, s₁.Shows S svc i ↔ s.Shows S svc i := fun _ _ _ => hunregister.shows rfl
      refine Shared.Informs.trans (.of_tells htells (fun S b => (hunregister.attends (fun _ => rfl) fun _ _ => rfl).1)
        (hunregister.statuses fun _ => rfl) ?_) (hunbind.informs (fun _ => rfl)
          (fun S b => (hunbind.attends (fun _ => rfl) fun _ _ => rfl).1) ?_)
      · intro S b view _ hview
        simp only [hmute.shows, hshows]
        split_ifs with hshown
        · refine hview.offline fun svc' i' => ?_
          rw [Shared.Sees, hserves, hshows, and_assoc, ← Shared.Sees]
        · refine hview.same fun svc' i' => ?_
          rw [Shared.Sees, hserves, hshows, and_assoc, ← Shared.Sees]
          refine and_iff_right_of_imp ?_
          rintro ⟨-, hshows⟩ ⟨rfl, rfl⟩
          exact hshown hshows
      · intro S b _ svc' i'
        have hbackend : s'.backend = s₃.backend := hunbind.backend rfl
        have hgone : ¬ s₃.serves svc i := by
          rw [htells.tables.serves, hserves]
          exact fun h => h.1 ⟨rfl, rfl⟩
        rw [Shared.Sees, Shared.Sees, Shared.serves, hbackend, ← Shared.serves]
        refine and_congr_right fun hserved => ?_
        unfold Shared.Shows Router.serviceHasUnboundRoute
        rw [hunbind.rules, hunbind.binding, Op.bindingAfter]
        refine or_congr_right ?_
        split_ifs with hkey
        · obtain ⟨rfl, hbound⟩ := hkey
          refine iff_of_false (fun hnone => by cases hnone) fun hbound' => hgone ?_
          obtain rfl := Option.some.inj (hbound.symm.trans hbound')
          exact hserved
        · exact Iff.rfl

end InternalDelegate

/-! ### Bindings -/

/-- The request leaves a client that it binds to one instance where it is, if it is bound at all. -/
def Shared.Stays (s : Shared) (req : BindServiceReq) : Prop :=
  ∀ b, s.Attends req.sessionId b → s.router.serviceHasUnboundRoute req.serviceId.toUInt8 = false →
    ∀ i, s.binding (req.sessionId, req.serviceId.toUInt8) = some i →
      ∀ i' s', (BindManager.select req).Runs Shared.Does s (.ok i') s' → i' = i

theorem BindManager.start_does {s s' : Shared} {tx : Tx} {serial : Int32} {req : BindServiceReq}
    {bound : Option (UInt32 × UInt8 × UInt32)} (h : (start tx serial req).Runs Shared.Does s bound s') :
    (bound = none ∧ s.Mute s') ∨ ∃ i s₁ s₂, bound = some (req.sessionId, req.serviceId.toUInt8, i) ∧
      (select req).Runs Shared.Does s (.ok i) s₁ ∧
        s₁.Does (.bindService req.sessionId req.serviceId.toUInt8 i) () s₂ ∧ s₂.Mute s' := by
  obtain ⟨selected, s₁, hselect, h⟩ := Program.runs_bind.1 h
  cases selected with
  | error e =>
      obtain ⟨_, s₂, hsend, h⟩ := Program.runs_bind.1 h
      obtain ⟨rfl, rfl⟩ := Program.runs_ret.1 h
      exact Or.inl ⟨rfl, (Shared.Mute.of_runs hselect (hushed_select req).muted).mute
        (.of_runs hsend (hushed_sendBindResult ..).muted)⟩
  | ok i =>
      obtain ⟨_, s₂, hbind, h⟩ := Program.runs_bind.1 h
      obtain ⟨_, s₃, hsend, h⟩ := Program.runs_bind.1 h
      obtain ⟨rfl, rfl⟩ := Program.runs_ret.1 h
      exact Or.inr ⟨i, s₁, s₂, rfl, hselect, Program.runs_perform.1 hbind,
        .of_runs hsend (hushed_sendBindResult ..).muted⟩

namespace Shared

variable {s s' : Shared} {S : UInt32} {svc : UInt8} {i : UInt32} {view : Finset (UInt32 × UInt32)}

theorem Does.sees_bindService (h : s.Does (.bindService S svc i) () s') (hserves : s.serves svc i)
    (hstays : s.router.serviceHasUnboundRoute svc = false → ∀ i', s.binding (S, svc) = some i' → i = i')
    (svc' : UInt8) (i' : UInt32) : s'.Sees S svc' i' ↔ (svc' = svc ∧ i' = i) ∨ s.Sees S svc' i' := by
  have hbackend : s'.backend = s.backend := h.backend rfl
  have hbinding : s'.binding (S, svc') = if svc' = svc then some i else s.binding (S, svc') := by
    rw [h.binding, Op.bindingAfter]
    simp
  unfold Sees Shows Router.serviceHasUnboundRoute Shared.serves
  rw [hbackend, h.rules, hbinding]
  by_cases hsvc : svc' = svc
  · subst hsvc
    rw [if_pos rfl]
    constructor
    · rintro ⟨hserved, hunbound | hi⟩
      · exact Or.inr ⟨hserved, Or.inl hunbound⟩
      · exact Or.inl ⟨rfl, (Option.some.inj hi).symm⟩
    · rintro (⟨-, rfl⟩ | ⟨hserved, hunbound | hbound⟩)
      · exact ⟨hserves, Or.inr rfl⟩
      · exact ⟨hserved, Or.inl hunbound⟩
      · refine ⟨hserved, ?_⟩
        cases hroute : s.router.serviceHasUnboundRoute svc' with
        | true => exact Or.inl hroute
        | false => exact Or.inr (congrArg some (hstays hroute i' hbound))
  · rw [if_neg hsvc]
    exact (or_iff_right fun heq => hsvc heq.1).symm

theorem Does.sees_unbindService {removed : Option UInt32} (h : s.Does (.unbindService S svc) removed s')
    (hroute : s.router.serviceHasUnboundRoute svc = false) (hbound : s.binding (S, svc) = some i)
    (svc' : UInt8) (i' : UInt32) : s'.Sees S svc' i' ↔ ¬ (svc' = svc ∧ i' = i) ∧ s.Sees S svc' i' := by
  have hbackend : s'.backend = s.backend := h.backend rfl
  have hbinding : s'.binding (S, svc') = if svc' = svc then none else s.binding (S, svc') := by
    rw [h.binding, Op.bindingAfter]
    simp
  unfold Router.serviceHasUnboundRoute at hroute
  unfold Sees Shows Router.serviceHasUnboundRoute Shared.serves
  rw [hbackend, h.rules, hbinding]
  by_cases hsvc : svc' = svc
  · subst hsvc
    rw [if_pos rfl, hroute, hbound]
    constructor
    · rintro ⟨-, hunbound | hi⟩
      · cases hunbound
      · cases hi
    · rintro ⟨hne, -, hunbound | hi⟩
      · cases hunbound
      · exact absurd ⟨rfl, (Option.some.inj hi).symm⟩ hne
  · rw [if_neg hsvc]
    exact (and_iff_right fun heq => hsvc heq.1).symm

theorem Does.unbindService {removed : Option UInt32} (h : s.Does (.unbindService S svc) removed s') :
    removed = s.binding (S, svc) := by
  obtain ⟨t, hsame, hexec⟩ := h
  obtain rfl : (t.router.unbindService S svc).1 = removed := congrArg Prod.fst hexec
  exact (hsame.bindings (S, svc)).symm

theorem Does.sees_other {op : Op} {answer : op.Answer} (h : s.Does op answer s') (hregisters : op.registers = false)
    (hother : ∀ svc, op.bindingAfter s.binding (S, svc) = s.binding (S, svc)) (svc : UInt8) (i : UInt32) :
    s'.Sees S svc i ↔ s.Sees S svc i := by
  have hbackend : s'.backend = s.backend := h.backend hregisters
  rw [Sees, Shared.serves, hbackend, ← Shared.serves, h.shows (hother svc), ← Sees]

end Shared

namespace InternalDelegate

variable {s s' : Shared} {d : InternalDelegate}

theorem informs_handleBindServiceReq {serial : Int32} {req : BindServiceReq}
    (h : (d.handleBindServiceReq serial req).Runs Shared.Does s () s') (hdistinct : s.DistinctClients)
    (hstays : d.registered.isSome = true → s.Stays req) : s.Informs s' := by
  unfold handleBindServiceReq at h
  split at h
  · obtain ⟨-, rfl⟩ := Program.runs_ret.1 h
    exact (Shared.Mute.refl _).informs
  · split at h
    · exact (Shared.Mute.of_runs h (BindManager.hushed_sendBindResult ..).muted).informs
    · rename_i hregistered
      obtain ⟨bound, s₁, hstart, htell⟩ := Program.runs_bind.1 h
      rcases BindManager.start_does hstart with ⟨rfl, hmute⟩ | ⟨i, s₂, s₃, rfl, hselect, hbind, hmute'⟩
      · obtain ⟨-, rfl⟩ := Program.runs_ret.1 htell
        exact hmute.informs
      · have hmute : s.Mute s₂ := .of_runs hselect (BindManager.hushed_select req).muted
        have hserves := (BindManager.select_runs hselect).2 i rfl
        have hdistinct₃ : s₃.DistinctClients := by
          unfold Shared.DistinctClients
          rw [hbind.session_eq fun _ _ => rfl]
          exact hmute.distinctClients hdistinct
        have htells := Shared.Mute.tells hmute'
          (sendServiceStatusToSession_runs htell (hmute'.distinctClients hdistinct₃))
        refine hmute.informs.trans (.of_tells htells
          (fun S b => (hbind.attends (fun _ => rfl) fun _ _ => rfl).1) (hbind.statuses fun _ => rfl) ?_)
        intro S b view hattends hview
        split_ifs with hS
        · subst hS
          refine hview.online (hbind.sees_bindService ((hmute.tables.serves).2 hserves) fun hroute i' hi' => ?_)
          rw [hmute.tables.binding] at hi'
          rw [Router.serviceHasUnboundRoute, hmute.rules] at hroute
          exact hstays (by rw [hregistered]; rfl) b (hmute.attends.1 hattends) hroute i' hi' i s₂ hselect
        · refine hview.same (hbind.sees_other rfl fun svc => if_neg ?_)
          rintro ⟨⟩
          exact hS rfl

theorem informs_handleUnbindServiceReq {serial : Int32} {req : UnbindServiceReq}
    (h : (d.handleUnbindServiceReq serial req).Runs Shared.Does s () s') (hdistinct : s.DistinctClients)
    (hbound : ∀ b, s.Attends req.sessionId b → s.router.serviceHasUnboundRoute req.serviceId.toUInt8 = true →
      s.binding (req.sessionId, req.serviceId.toUInt8) = none) : s.Informs s' := by
  obtain ⟨removed, s₁, hunbind, h⟩ := Program.runs_bind.1 h
  obtain ⟨_, s₂, htell, h⟩ := Program.runs_bind.1 h
  have hunbind := Program.runs_perform.1 hunbind
  have hsession := hunbind.session_eq fun _ _ => rfl
  have hrest : s₂.Mute s' := by
    refine .of_runs h ?_
    split
    · exact .whenSome fun _ => (muted_perform rfl).bind fun _ => .ret _
    · exact .ret _
  have hremoved := hunbind.unbindService
  cases removed with
  | none =>
      obtain ⟨-, rfl⟩ := Program.runs_ret.1 htell
      refine Shared.Informs.trans (hunbind.informs (fun _ => rfl)
        (fun S b => (hunbind.attends (fun _ => rfl) fun _ _ => rfl).1) fun S b _ => ?_) hrest.informs
      refine hunbind.sees_other rfl fun svc => ?_
      rw [Op.bindingAfter]
      split_ifs with hkey
      · rw [hkey, ← hremoved]
      · rfl
  | some i =>
      have hdistinct₁ : s₁.DistinctClients := by
        unfold Shared.DistinctClients
        rwa [hsession]
      refine .of_tells ((sendServiceStatusToSession_runs htell hdistinct₁).mute hrest)
        (fun S b => (hunbind.attends (fun _ => rfl) fun _ _ => rfl).1) (hunbind.statuses fun _ => rfl) ?_
      intro S b view hattends hview
      split_ifs with hS
      · subst hS
        refine hview.offline (hunbind.sees_unbindService ?_ hremoved.symm)
        rw [Bool.eq_false_iff]
        intro hroute
        rw [hbound b hattends hroute] at hremoved
        cases hremoved
      · refine hview.same (hunbind.sees_other rfl fun svc => if_neg ?_)
        rintro ⟨⟩
        exact hS rfl

theorem informs_handleKickSessionReq {serial : Int32} {sessionId : UInt32}
    (h : (d.handleKickSessionReq serial sessionId).Runs Shared.Does s () s')
    (hbound : ∀ b, s.Attends sessionId b → ∀ svc i, s.binding (sessionId, svc) = some i →
      s.router.serviceHasUnboundRoute svc = true) : s.Informs s' := by
  obtain ⟨_, s₁, hkick, h⟩ := Program.runs_bind.1 h
  obtain ⟨_, s₂, hcleanup, h⟩ := Program.runs_bind.1 h
  have hcleanup := Program.runs_perform.1 hcleanup
  have hmute : s.Mute s₁ := .of_runs hkick (muted_perform rfl)
  have hrest : s₂.Mute s' := by
    refine .of_runs h ?_
    split
    · exact .whenSome fun _ => (muted_perform rfl).bind fun _ => .ret _
    · exact .ret _
  have hattends : ∀ S b, s₂.Attends S b ↔ s₁.Attends S b := fun S b =>
    hcleanup.attends (fun _ => rfl) fun _ _ => rfl
  refine (hmute.informs.trans (hcleanup.informs (fun _ => rfl) (fun S b => (hattends S b).1) ?_)).trans hrest.informs
  intro S b hafter svc i
  have hbackend : s₂.backend = s₁.backend := hcleanup.backend rfl
  rw [Shared.Sees, Shared.serves, hbackend, ← Shared.serves, Shared.Sees]
  refine and_congr_right fun _ => ?_
  unfold Shared.Shows
  rw [Router.serviceHasUnboundRoute, hcleanup.rules, hcleanup.binding, Op.bindingAfter, ← Router.serviceHasUnboundRoute]
  split_ifs with hS
  · refine or_congr_right' fun hroute => iff_of_false (fun hi => by cases hi) fun hi => hroute ?_
    have hbefore := hmute.attends.1 ((hattends S b).1 hafter)
    rw [hmute.tables.binding] at hi
    rw [Router.serviceHasUnboundRoute, hmute.rules]
    obtain rfl : S = sessionId := hS
    exact hbound b hbefore svc i hi
  · exact Iff.rfl

end InternalDelegate

end AxmolFighter.Gateway
