import AxmolFighter.Gateway.Bindings

/-!
# What clients are told about services

A client hears of services in the answers to its status requests and in pushes. Most of what the gateway does
tells it nothing and leaves the tables alone; what the other programs do is said here for each of them, run
alone.
-/

namespace AxmolFighter.Gateway

/-- The call leaves the tables alone and tells no client about services. -/
def Op.mute : Op → Bool
  | .addSession .. | .removeSession .. | .authenticate .. | .register .. | .unregister .. | .bindService ..
  | .unbindService .. | .unbindAllByInstance .. | .cleanupSession .. => false
  | op => op.tells.isNone

/-- Every call that the program can make is mute. -/
abbrev Muted {α : Type} (p : GatewayM α) : Prop := p.Calls fun op : Op => op.mute = true

theorem muted_perform {op : Op} (h : op.mute = true) : Muted (perform op) := .perform h

theorem Op.mute_of_hushed {op : Op} (h : op.routine = true) (htells : op.tells = none) : op.mute = true := by
  cases op <;> first | exact Option.isNone_iff_eq_none.2 htells | cases h

theorem Hushed.muted {α : Type} {p : GatewayM α} (h : Hushed p) : Muted p := h.calls fun _ => Op.mute_of_hushed

namespace Shared

variable {s s₁ s' : Shared} {op : Op} {answer : op.Answer}

/-- What a client has been told about services, in order. -/
def statuses (s : Shared) (b : Tx) : List (List ServiceStatus) := s.channels.heard WriterMessage.statuses b

/-- The session is authenticated, and its channel open. -/
structure Attends (s : Shared) (sessionId : UInt32) (b : Tx) : Prop where
  session : s.session sessionId = some { tx := b, authenticated := true }
  listens : b ∉ s.channels.closed

/-- The tables are the same, and this is what the clients that listen have been told. -/
structure Tells (s s' : Shared) (told : UInt32 → List (List ServiceStatus)) : Prop where
  tables : s.SameTables s'
  rules : s'.router.rules = s.router.rules
  closed : s'.channels.closed = s.channels.closed
  statuses : ∀ S b, s.Attends S b → s'.statuses b = s.statuses b ++ told S

/-- Nobody has been told anything. -/
abbrev Mute (s s' : Shared) : Prop := s.Tells s' fun _ => []

theorem Mute.refl (s : Shared) : s.Mute s := ⟨⟨rfl, rfl, rfl⟩, rfl, rfl, fun _ _ _ => (List.append_nil _).symm⟩

theorem Tells.attends {told : UInt32 → List (List ServiceStatus)} (h : s.Tells s' told) {S : UInt32} {b : Tx} :
    s'.Attends S b ↔ s.Attends S b := by
  constructor
  · rintro ⟨hsession, hopen⟩
    rw [h.tables.session] at hsession
    rw [h.closed] at hopen
    exact ⟨hsession, hopen⟩
  · rintro ⟨hsession, hopen⟩
    rw [← h.tables.session] at hsession
    rw [← h.closed] at hopen
    exact ⟨hsession, hopen⟩

theorem Tells.trans {told told' : UInt32 → List (List ServiceStatus)} (h : s.Tells s₁ told) (h' : s₁.Tells s' told') :
    s.Tells s' fun S => told S ++ told' S :=
  ⟨h.tables.trans h'.tables, h'.rules.trans h.rules, h'.closed.trans h.closed, fun S b hattends => by
    rw [h'.statuses S b (h.attends.2 hattends), h.statuses S b hattends, List.append_assoc]⟩

theorem Tells.mute {told : UInt32 → List (List ServiceStatus)} (h : s.Tells s₁ told) (h' : s₁.Mute s') :
    s.Tells s' told := by
  have h'' := h.trans h'
  simpa only [List.append_nil] using h''

theorem Mute.tells {told : UInt32 → List (List ServiceStatus)} (h : s.Mute s₁) (h' : s₁.Tells s' told) :
    s.Tells s' told :=
  h.trans h'

theorem exec_mute (t : Shared) (op : Op) (hmute : op.mute = true) :
    (t.exec op).2.channels.closed = t.channels.closed ∧ ∀ b, (t.exec op).2.statuses b = t.statuses b := by
  have hsend : ∀ tx message, message.statuses = none →
      (t.channels.send tx message).2.closed = t.channels.closed ∧
        ∀ b, (t.channels.send tx message).2.heard WriterMessage.statuses b = t.statuses b := fun tx message h =>
    ⟨Channels.send_closed .., fun b => Channels.heard_send_none _ _ _ h⟩
  cases op with
  | sendToClient sessionId data =>
      simp only [exec, statuses, SessionManager.sendToClient]
      split
      · exact hsend _ _ (Option.isNone_iff_eq_none.1 hmute)
      · exact ⟨rfl, fun _ => rfl⟩
  | kick sessionId =>
      simp only [exec, statuses, SessionManager.kick]
      split
      · exact hsend _ _ rfl
      · exact ⟨rfl, fun _ => rfl⟩
  | broadcast data | broadcastExcept _ data =>
      exact ⟨Channels.sendAll_closed .., fun b => Channels.heard_sendAll_none _ _ _ rfl⟩
  | send tx message => exact hsend _ _ (Option.isNone_iff_eq_none.1 hmute)
  | _ => exact ⟨rfl, fun _ => rfl⟩

theorem Does.mute (h : s.Does op answer s') (hmute : op.mute = true) : s.Mute s' := by
  have hsession : ∀ old S, op.sessionAfter old S = old S := by
    intro old S
    cases op <;> first | rfl | cases hmute
  have hregisters : op.registers = false := by
    cases op <;> first | rfl | cases hmute
  have hbinding : ∀ old key, op.bindingAfter old key = old key := by
    intro old key
    cases op <;> first | rfl | cases hmute
  have hchannels : s'.channels.closed = s.channels.closed ∧ ∀ b, s'.statuses b = s.statuses b := by
    obtain ⟨t, hsame, hexec⟩ := h
    have hcalled := exec_mute t op hmute
    rw [hexec] at hcalled
    unfold statuses at hcalled ⊢
    rwa [hsame.channels] at hcalled
  refine ⟨⟨h.session_eq hsession, h.backend hregisters, funext fun key => ?_⟩, h.rules, hchannels.1, fun S b _ => ?_⟩
  · rw [h.binding, hbinding]
  · rw [hchannels.2, List.append_nil]

theorem Mute.of_runs {α : Type} {p : GatewayM α} {a : α} (h : p.Runs Shared.Does s a s') (hmute : Muted p) :
    s.Mute s' :=
  h.keeps hmute (s.Mute ·) (fun _ _ _ _ hinv hop hdoes => hinv.mute (Does.mute hdoes hop)) (.refl s)

/-! ### Sends to clients -/

/-- The service is shown to the session, if it is registered. -/
def Shows (s : Shared) (sessionId : UInt32) (serviceId : UInt8) (instanceId : UInt32) : Prop :=
  s.router.serviceHasUnboundRoute serviceId = true ∨ s.binding (sessionId, serviceId) = some instanceId

instance (s : Shared) (sessionId : UInt32) (serviceId : UInt8) (instanceId : UInt32) :
    Decidable (s.Shows sessionId serviceId instanceId) := inferInstanceAs (Decidable (_ ∨ _))

/-- Every client has a channel of its own. -/
def DistinctClients (s : Shared) : Prop :=
  ∀ S S' session session', s.session S = some session → s.session S' = some session' → session.tx = session'.tx →
    S = S'

theorem Does.told (tx : Tx) {services : List ServiceStatus} (serial : Int32) (h : s.Does op answer s')
    (hquiet : op.quiet = true)
    (hchannels : s'.channels = (s.channels.send tx (.toClient (.gateway (.serverStatusPush services) serial))).2)
    {S : UInt32} (htx : ∀ S' b, s.Attends S' b → (tx = b ↔ S' = S)) :
    s.Tells s' fun S' => if S' = S then [services] else [] := by
  refine ⟨h.sameTables hquiet, h.rules, ?_, fun S' b hattends => ?_⟩
  · rw [hchannels]
    exact Channels.send_closed ..
  · unfold statuses
    rw [hchannels, Channels.heard_send]
    simp only [htx S' b hattends, hattends.listens, not_false_eq_true, and_true]
    rfl

theorem Does.sendToClient {S : UInt32} {session : ClientSession} {services : List ServiceStatus} {serial : Int32}
    {sent : Bool} (h : s.Does (.sendToClient S (.gateway (.serverStatusPush services) serial)) sent s')
    (hdistinct : s.DistinctClients) (hS : s.session S = some session) :
    s.Tells s' fun S' => if S' = S then [services] else [] := by
  refine Does.told session.tx serial h rfl ?_ fun S' b hattends => ?_
  · obtain ⟨t, hsame, hexec⟩ := h
    have hs' := congrArg (fun r => r.2.channels) hexec
    have hget : t.sessions.sessions.get S = some session := (congrFun hsame.session S).trans hS
    simp only [exec, SessionManager.sendToClient, hget, hsame.channels] at hs'
    exact hs'.symm
  · constructor
    · rintro rfl
      exact hdistinct S' S _ _ hattends.session hS rfl
    · rintro rfl
      rw [hattends.session] at hS
      cases hS
      rfl

theorem Does.sendStatus {tx : Tx} {services : List ServiceStatus} {serial : Int32} {sent : Bool}
    (h : s.Does (.send tx (.toClient (.gateway (.serverStatusPush services) serial))) sent s') {S : UInt32}
    (htx : ∀ S' b, s.Attends S' b → (tx = b ↔ S' = S)) : s.Tells s' fun S' => if S' = S then [services] else [] := by
  refine Does.told tx serial h rfl ?_ htx
  obtain ⟨t, hsame, hexec⟩ := h
  have hs' := congrArg (fun r => r.2.channels) hexec
  simp only [exec, hsame.channels] at hs'
  exact hs'.symm

theorem Does.serviceHasUnboundRoute {serviceId : UInt8} {answer : Bool}
    (h : s.Does (.serviceHasUnboundRoute serviceId) answer s') :
    answer = s.router.serviceHasUnboundRoute serviceId := by
  obtain ⟨t, hsame, hexec⟩ := h
  obtain rfl : t.router.serviceHasUnboundRoute serviceId = answer := congrArg Prod.fst hexec
  unfold Router.serviceHasUnboundRoute
  rw [hsame.rules]

theorem Does.boundInstance {sessionId : UInt32} {serviceId : UInt8} {answer : Option UInt32}
    (h : s.Does (.boundInstance sessionId serviceId) answer s') : answer = s.binding (sessionId, serviceId) := by
  obtain ⟨t, hsame, hexec⟩ := h
  obtain rfl : t.router.boundInstance sessionId serviceId = answer := congrArg Prod.fst hexec
  exact (hsame.bindings (sessionId, serviceId)).symm

theorem Does.serviceStatuses {answer : List (UInt8 × UInt32)} (h : s.Does .serviceStatuses answer s')
    (serviceId : UInt8) (instanceId : UInt32) : (serviceId, instanceId) ∈ answer ↔ s.serves serviceId instanceId := by
  obtain ⟨t, hsame, hexec⟩ := h
  obtain rfl : t.registry.serviceStatuses = answer := congrArg Prod.fst hexec
  unfold ServerRegistry.serviceStatuses ServerRegistry.listAll serves
  rw [List.mem_map, ← hsame.backend]
  constructor
  · rintro ⟨conn, hconn, heq⟩
    obtain ⟨x, hget⟩ := (Table.mem_values ..).1 hconn
    obtain ⟨rfl, rfl⟩ := Prod.mk.inj heq
    exact ⟨x, conn.identity, by rw [Shared.backend, hget]; rfl, rfl, rfl⟩
  · rintro ⟨x, identity, hx, rfl, rfl⟩
    obtain ⟨conn, hget, rfl⟩ := Option.map_eq_some_iff.1 hx
    exact ⟨conn, (Table.mem_values ..).2 ⟨x, hget⟩, rfl⟩

theorem Tells.shows {told : UInt32 → List (List ServiceStatus)} (h : s.Tells s' told) {sessionId : UInt32}
    {serviceId : UInt8} {instanceId : UInt32} :
    s'.Shows sessionId serviceId instanceId ↔ s.Shows sessionId serviceId instanceId := by
  unfold Shows Router.serviceHasUnboundRoute
  rw [h.rules, h.tables.binding]

theorem Tells.distinctClients {told : UInt32 → List (List ServiceStatus)} (h : s.Tells s' told)
    (hdistinct : s.DistinctClients) : s'.DistinctClients := by
  unfold DistinctClients
  rw [h.tables.session]
  exact hdistinct

theorem Tells.congr {told told' : UInt32 → List (List ServiceStatus)} (h : s.Tells s' told)
    (htold : ∀ S b, s.Attends S b → told S = told' S) : s.Tells s' told' :=
  ⟨h.tables, h.rules, h.closed, fun S b hattends => by rw [h.statuses S b hattends, htold S b hattends]⟩

theorem Attends.authenticated {S : UInt32} {b : Tx} (h : s.Attends S b) : s.authenticated S = true := by
  rw [Shared.authenticated, h.session]
  rfl

/-- The instance is registered, and shown to the session. -/
def Sees (s : Shared) (sessionId : UInt32) (serviceId : UInt8) (instanceId : UInt32) : Prop :=
  s.serves serviceId instanceId ∧ s.Shows sessionId serviceId instanceId

theorem Tells.sees {told : UInt32 → List (List ServiceStatus)} (h : s.Tells s' told) {sessionId : UInt32}
    {serviceId : UInt8} {instanceId : UInt32} :
    s'.Sees sessionId serviceId instanceId ↔ s.Sees sessionId serviceId instanceId := by
  unfold Sees
  rw [h.tables.serves, h.shows]

/-- What the session sees, as it is named in messages. -/
def Visible (s : Shared) (sessionId : UInt32) (p : UInt32 × UInt32) : Prop :=
  ∃ serviceId instanceId, p = (serviceId.toUInt32, instanceId) ∧ s.Sees sessionId serviceId instanceId

end Shared

theorem visible_runs {s s' : Shared} {sessionId : UInt32} {serviceId : UInt8} {instanceId : UInt32} {visible : Bool}
    (h : (InternalDelegate.serviceVisibleToSession sessionId serviceId instanceId).Runs Shared.Does s visible s') :
    s.Mute s' ∧ (visible = true ↔ s.Shows sessionId serviceId instanceId) := by
  refine ⟨.of_runs h (InternalDelegate.hushed_serviceVisibleToSession ..).muted, ?_⟩
  obtain ⟨unbound, s₁, hunbound, h⟩ := Program.runs_bind.1 h
  have hunbound := Program.runs_perform.1 hunbound
  have hmute : s.Mute s₁ := Shared.Does.mute hunbound rfl
  rw [hunbound.serviceHasUnboundRoute] at h
  unfold Shared.Shows
  split_ifs at h with hroute
  · obtain ⟨rfl, -⟩ := Program.runs_ret.1 h
    exact iff_of_true rfl (.inl hroute)
  · obtain ⟨bound, s₂, hbound, h⟩ := Program.runs_bind.1 h
    obtain ⟨rfl, -⟩ := Program.runs_ret.1 h
    rw [(Program.runs_perform.1 hbound).boundInstance, hmute.tables.binding, or_iff_right hroute]
    rcases s.binding (sessionId, serviceId) with _ | bound
    · simp
    · simp

namespace InternalDelegate

variable {s s' : Shared} {serviceId : UInt8} {instanceId : UInt32} {online : Bool}

theorem sendServiceStatusToSession_runs {sessionId : UInt32}
    (h : (sendServiceStatusToSession sessionId serviceId instanceId online).Runs Shared.Does s () s')
    (hdistinct : s.DistinctClients) : s.Tells s' fun S =>
      if S = sessionId then [[{ serviceId := serviceId.toUInt32, instanceId, online }]] else [] := by
  obtain ⟨authenticated, s₁, hasks, h⟩ := Program.runs_bind.1 h
  have hasks := Program.runs_perform.1 hasks
  have hmute : s.Mute s₁ := Shared.Does.mute hasks rfl
  rw [hasks.isAuthenticated] at h
  split_ifs at h with hauth
  · obtain ⟨sent, s₂, hsend, h⟩ := Program.runs_bind.1 h
    obtain ⟨-, rfl⟩ := Program.runs_ret.1 h
    have hsend := Program.runs_perform.1 hsend
    rcases hsession : s.session sessionId with _ | session
    · rw [Shared.authenticated, hsession] at hauth
      cases hauth
    · rw [← hmute.tables.session] at hsession
      refine hmute.tells (hsend.sendToClient ?_ hsession)
      intro S S' session session' hS hS'
      rw [hmute.tables.session] at hS hS'
      exact hdistinct S S' session session' hS hS'
  · obtain ⟨-, rfl⟩ := Program.runs_ret.1 h
    refine ⟨hmute.tables, hmute.rules, hmute.closed, fun S b hattends => ?_⟩
    rw [if_neg]
    · exact hmute.statuses S b hattends
    · rintro rfl
      exact hauth hattends.authenticated

theorem pushEach_runs {sessions : List UInt32} (hnodup : sessions.Nodup)
    (h : (Program.forEach (fun sessionId => do
        let visible ← serviceVisibleToSession sessionId serviceId instanceId
        if visible then sendServiceStatusToSession sessionId serviceId instanceId online) sessions).Runs
      Shared.Does s () s') (hdistinct : s.DistinctClients) : s.Tells s' fun S =>
        if S ∈ sessions ∧ s.Shows S serviceId instanceId then
          [[{ serviceId := serviceId.toUInt32, instanceId, online }]] else [] := by
  induction sessions generalizing s with
  | nil =>
      obtain ⟨-, rfl⟩ := Program.runs_ret.1 h
      exact (Shared.Mute.refl _).congr fun S b _ => by simp
  | cons sessionId sessions ih =>
      obtain ⟨hnot, hnodup⟩ := List.nodup_cons.1 hnodup
      obtain ⟨_, s₂, hone, hrest⟩ := Program.runs_bind.1 h
      obtain ⟨visible, s₁, hvisible, hone⟩ := Program.runs_bind.1 hone
      obtain ⟨hmute, hshows⟩ := visible_runs hvisible
      have hdistinct₁ := hmute.distinctClients hdistinct
      by_cases hshown : s.Shows sessionId serviceId instanceId
      · rw [if_pos (hshows.2 hshown)] at hone
        have htells := hmute.tells (sendServiceStatusToSession_runs hone hdistinct₁)
        refine (htells.trans (ih hnodup hrest (htells.distinctClients hdistinct))).congr fun S b _ => ?_
        by_cases hS : S = sessionId
        · subst hS
          simp [hnot, hshown]
        · simp [hS, htells.shows]
      · rw [if_neg (mt hshows.1 hshown)] at hone
        obtain ⟨-, rfl⟩ := Program.runs_ret.1 hone
        refine (hmute.tells (ih hnodup hrest hdistinct₁)).congr fun S b _ => ?_
        by_cases hS : S = sessionId
        · subst hS
          simp [hnot, hshown]
        · simp [hS, hmute.shows]

theorem pushServiceStatus_runs (h : (pushServiceStatus serviceId instanceId online).Runs Shared.Does s () s')
    (hdistinct : s.DistinctClients) : s.Tells s' fun S => if s.Shows S serviceId instanceId then
      [[{ serviceId := serviceId.toUInt32, instanceId, online }]] else [] := by
  obtain ⟨sessions, s₁, hsessions, h⟩ := Program.runs_bind.1 h
  have hsessions := Program.runs_perform.1 hsessions
  have hmute : s.Mute s₁ := Shared.Does.mute hsessions rfl
  obtain ⟨hnodup, hmem⟩ := hsessions.authenticatedSessions
  refine (hmute.tells (pushEach_runs hnodup h (hmute.distinctClients hdistinct))).congr fun S b hattends => ?_
  have hS : S ∈ sessions := (hmem S).2 hattends.authenticated
  simp only [hS, true_and, hmute.shows]

end InternalDelegate

namespace ClientDelegate

variable {s s' : Shared} {d : ClientDelegate}

theorem buildStatus_runs {message : Message} (h : d.buildStatus.Runs Shared.Does s message s') :
    s.Mute s' ∧ ∃ services, message = .serverStatusPush services ∧
      (∀ status ∈ services, status.online = true) ∧ ∀ p,
        p ∈ services.map (fun status => (status.serviceId, status.instanceId)) ↔ s.Visible d.sessionId p := by
  obtain ⟨statuses, s₁, hstatuses, h⟩ := Program.runs_bind.1 h
  have hstatuses := Program.runs_perform.1 hstatuses
  have hmute : s.Mute s₁ := Shared.Does.mute hstatuses rfl
  obtain ⟨kept, s₂, hfilter, h⟩ := Program.runs_bind.1 h
  obtain ⟨rfl, rfl⟩ := Program.runs_ret.1 h
  obtain ⟨hmute', hkept⟩ := Program.runs_filter (R := fun t => s.Mute t)
    (Q := fun status => s.Shows d.sessionId status.1 status.2) (fun status t visible t' ht hruns => by
      obtain ⟨hmute', hvisible⟩ := visible_runs hruns
      exact ⟨ht.mute hmute', hvisible.trans ht.shows⟩) hmute hfilter
  refine ⟨hmute', _, rfl, ?_, fun p => ?_⟩
  · intro status hstatus
    obtain ⟨_, -, rfl⟩ := List.mem_map.1 hstatus
    rfl
  · rw [List.map_map, List.mem_map]
    constructor
    · rintro ⟨⟨serviceId, instanceId⟩, hmem, rfl⟩
      obtain ⟨hserved, hshows⟩ := (hkept _).1 hmem
      exact ⟨serviceId, instanceId, rfl, (hstatuses.serviceStatuses ..).1 hserved, hshows⟩
    · rintro ⟨serviceId, instanceId, rfl, hserved, hshows⟩
      exact ⟨(serviceId, instanceId), (hkept _).2 ⟨(hstatuses.serviceStatuses ..).2 hserved, hshows⟩, rfl⟩

/-- A status request authenticates the session, and is answered with what the session is shown. -/
theorem handleServerStatusRequest_runs {tx : Tx} {serial : Int32} (htx : d.tx = some tx)
    (h : (d.handleServerStatusRequest serial).Runs Shared.Does s () s') : ∃ first s₁ services,
      s.Does (.authenticate d.sessionId) first s₁ ∧ (∀ status ∈ services, status.online = true) ∧
      (∀ p, p ∈ services.map (fun status => (status.serviceId, status.instanceId)) ↔ s₁.Visible d.sessionId p) ∧
      ((∀ S b, s₁.Attends S b → (tx = b ↔ S = d.sessionId)) →
        s₁.Tells s' fun S => if S = d.sessionId then [services] else []) := by
  obtain ⟨first, s₁, hauthenticate, h⟩ := Program.runs_bind.1 h
  obtain ⟨s₂, hmute, h⟩ : ∃ s₂, s₁.Mute s₂ ∧ (do
      let data ← d.encodeStatusFrame serial
      d.sendOwn (.toClient data) : GatewayM Unit).Runs Shared.Does s₂ () s' := by
    cases first with
    | false => exact ⟨s₁, .refl s₁, h⟩
    | true =>
        obtain ⟨_, s₂, hannounce, h⟩ := Program.runs_bind.1 h
        exact ⟨s₂, .of_runs hannounce (muted_perform rfl), h⟩
  obtain ⟨data, s₃, hencode, h⟩ := Program.runs_bind.1 h
  obtain ⟨status, s₄, hbuild, hencode⟩ := Program.runs_bind.1 hencode
  obtain ⟨rfl, rfl⟩ := Program.runs_ret.1 hencode
  obtain ⟨hmute', services, rfl, honline, hservices⟩ := buildStatus_runs hbuild
  refine ⟨first, s₁, services, Program.runs_perform.1 hauthenticate, honline, fun p => ?_, fun hown => ?_⟩
  · rw [hservices, Shared.Visible, Shared.Visible]
    simp only [hmute.sees]
  · rw [sendOwn, htx] at h
    obtain ⟨sent, s₅, hsend, h⟩ := Program.runs_bind.1 h
    obtain ⟨-, rfl⟩ := Program.runs_ret.1 h
    have hquiet : s₁.Mute s₃ := hmute.mute hmute'
    refine hquiet.tells ((Program.runs_perform.1 hsend).sendStatus fun S b hattends => ?_)
    exact hown S b (hquiet.attends.1 hattends)

end ClientDelegate

end AxmolFighter.Gateway
