import AxmolFighter.Exchange.Process
import AxmolFighter.Gateway.Bindings

/-!
# Backends around the gateway

Any number of backend processes, each of which connects to the gateway, loses its connection and connects again
as it likes. The gateway's tasks and those of the processes take single steps in any order. What a process has
written waits on the link of its connection until the gateway takes it, and what the gateway has put on the
connection's channel until the process reads it; both keep their order, and what nobody takes is lost.

Clients may connect and leave, but send nothing.
-/

namespace AxmolFighter.Exchange

open Backend (PendingResponse ServerSource)
open Backend.GatewayClient (Fits)
open Gateway (Connection Input Op RouteRule Shared Tx WriterMessage createSessionId executor signature system)

/-- What a run starts from: which server each process is, and which process opens the connection that gets the
number `k`. -/
structure Setting where
  messages : MessageMap
  rules : List RouteRule
  ids : Nat → UInt32 × UInt32
  owner : Nat → Nat

/-- What the registry of the gateway knows the process behind a connection by. -/
def Setting.server (X : Setting) (k : Nat) : UInt8 × UInt32 :=
  ((X.ids (X.owner k)).1.toUInt8, (X.ids (X.owner k)).2)

/-- A connection from the side of the process: the frames that it has written, how many of them the gateway has
taken, and which one it took for its present handler. -/
structure Link where
  sent : List Written := []
  taken : Nat := 0
  handling : Option Nat := none

/-- A frame is named by its connection and its place there. -/
abbrev Place := Nat × Nat

/-- `causes` has for every message on the gateway's channels the frame that was handled then, if one was. -/
structure Mesh where
  gateway : Pool signature Shared Connection
  causes : List (Option Place) := []
  links : Nat → Link := fun _ => {}
  processes : Nat → Process := fun _ => {}

def Setting.initial (X : Setting) : Mesh := { gateway := Gateway.initial X.rules }

abbrev GatewayEvent := Pool.Event signature Connection Input

inductive Event
  | gateway (e : GatewayEvent)
  | take (k : Nat)
  | connect (k : Nat)
  | process (p : Nat) (a : Act)

/-- No frame is handled, and no backend connects. -/
def silent : GatewayEvent → Bool
  | .opens conn => conn.delegate.isClient
  | .input _ .start | .input _ .close => true
  | .input _ _ => false
  | _ => true

namespace Mesh

variable (S : Mesh)

/-- The messages on the gateway's channels. -/
def sent : List (Tx × WriterMessage) := S.gateway.shared.channels.sent

/-- The `n`-th message on channel `k`, with its place among all messages. -/
def inbox (k n : Nat) : Option (Nat × WriterMessage) :=
  ((S.sent.zipIdx.filter fun e => e.1.1 = k)[n]?).map fun e => (e.2, e.1.2)

def frameAt (place : Place) : Option Written := (S.links place.1).sent[place.2]?

/-- The connection and the frame of a place. -/
def behind (cause : Option Place) : Option (Nat × BackendFrame) :=
  cause.bind fun place => (S.frameAt place).map fun written => (place.1, written.1)

/-- The frame that connection `k` has taken for its present handler. -/
def current (k : Nat) : Option BackendFrame := (S.links k).handling.bind fun j => (S.frameAt (k, j)).map Prod.fst

def setLink (k : Nat) (link : Link) : Mesh := { S with links := Function.update S.links k link }

def setProcess (p : Nat) (process : Process) : Mesh :=
  { S with processes := Function.update S.processes p process }

def write : Option (Nat × Written) → Mesh
  | some (k, written) => S.setLink k { S.links k with sent := (S.links k).sent ++ [written] }
  | none => S

/-- The frame that is behind an event of the gateway. -/
def cause : GatewayEvent → Option Place
  | .call k _ => (S.links k).handling.map fun j => (k, j)
  | _ => none

/-- Whether the link's connection starts a handler without a frame. -/
def idled : GatewayEvent → Nat → Link
  | .input k _ => Function.update S.links k { S.links k with handling := none }
  | _ => S.links

/-- After an event of the gateway. -/
def advance (e : GatewayEvent) (pool : Pool signature Shared Connection) : Mesh :=
  { S with
    gateway := pool
    causes := S.causes ++ List.replicate (pool.shared.channels.sent.length - S.sent.length) (S.cause e)
    links := S.idled e }

end Mesh

inductive Step (X : Setting) (S : Mesh) : Event → Mesh → Prop
  | gateway {e : GatewayEvent} {pool : Pool signature Shared Connection} (hsilent : silent e = true)
      (h : Pool.Step (system X.messages) S.gateway e pool) : Step X S (.gateway e) (S.advance e pool)
  | take {k : Nat} {frame : BackendFrame} {purpose : Purpose} {pool : Pool signature Shared Connection}
      (hframe : S.frameAt (k, (S.links k).taken) = some (frame, purpose)) (hfits : Fits frame)
      (h : Pool.Step (system X.messages) S.gateway (.input k (.backendFrame frame)) pool) :
      Step X S (.take k) ({ S with gateway := pool }.setLink k { S.links k with
        taken := (S.links k).taken + 1
        handling := some (S.links k).taken })
  | connect {conn : Connection} {pool : Pool signature Shared Connection} {k : Nat}
      (hk : k = S.gateway.threads.length) (hstage : (S.processes (X.owner k)).stage = .away)
      (hconn : conn.delegate = .internal {}) (h : Pool.Step (system X.messages) S.gateway (.opens conn) pool) :
      Step X S (.connect k) (({ S with gateway := pool }.setLink k
        { sent := [(registrationFrame X.messages (X.ids (X.owner k)), .registration)] }).setProcess (X.owner k)
          { S.processes (X.owner k) with stage := .registering k 0 })
  | process {p : Nat} {a : Act} {process : Process} {out : Option (Nat × Written)}
      (h : (S.processes p).act X.messages (X.ids p) S.inbox a = some (process, out)) :
      Step X S (.process p a) ((S.setProcess p process).write out)

/-! ### Steps that compute -/

/-- Who acts next. -/
inductive Slot
  | gateway (slot : Pool.Slot Connection Input)
  | take (k : Nat)
  | connect
  | process (p : Nat) (a : Act)

def Mesh.play (X : Setting) (S : Mesh) : Slot → Option (Event × Mesh)
  | .gateway slot =>
      match (executor X.messages).advance S.gateway slot with
      | some (e, pool) => if silent e = true then some (.gateway e, S.advance e pool) else none
      | none => none
  | .take k =>
      match S.frameAt (k, (S.links k).taken), S.gateway.threads[k]? with
      | some (frame, _), some (.ret conn) =>
          if Fits frame then
            (conn.handle X.messages (.backendFrame frame)).map fun p =>
              (.take k, { S with gateway := ⟨S.gateway.shared, S.gateway.threads.set k p⟩ }.setLink k
                { S.links k with
                  taken := (S.links k).taken + 1
                  handling := some (S.links k).taken })
          else none
      | _, _ => none
  | .connect =>
      let k := S.gateway.threads.length
      let conn : Connection := .accept (createSessionId S.gateway.shared.sessionCounter).1 k (.internal {})
      if (S.processes (X.owner k)).stage = .away then
        ((executor X.messages).opened S.gateway.shared k conn).map fun shared =>
          (.connect k, ({ S with gateway := ⟨shared, S.gateway.threads ++ [Program.ret conn]⟩ }.setLink k
            { sent := [(registrationFrame X.messages (X.ids (X.owner k)), .registration)] }).setProcess (X.owner k)
              { S.processes (X.owner k) with stage := .registering k 0 })
      else none
  | .process p a =>
      ((S.processes p).act X.messages (X.ids p) S.inbox a).map fun (process, out) =>
        (.process p a, (S.setProcess p process).write out)

theorem Mesh.play_sound {X : Setting} {S S' : Mesh} {slot : Slot} {e : Event}
    (h : S.play X slot = some (e, S')) : Step X S e S' := by
  cases slot with
  | gateway slot =>
      rw [play] at h
      split at h
      · rename_i e' pool hadvance
        split_ifs at h with hsilent
        cases h
        exact .gateway hsilent ((executor X.messages).advance_sound hadvance)
      · cases h
  | take k =>
      rw [play] at h
      split at h
      · rename_i frame purpose conn hframe hidle
        split_ifs at h with hfits
        obtain ⟨p, hp, heq⟩ := Option.map_eq_some_iff.1 h
        cases heq
        exact .take hframe hfits (.input hidle hp)
      · cases h
  | connect =>
      simp only [play, Option.ite_none_right_eq_some, Option.map_eq_some_iff] at h
      obtain ⟨hstage, shared, hopened, heq⟩ := h
      cases heq
      exact .connect rfl hstage rfl (.opens ((executor X.messages).opens_opened _ _ _ _ hopened))
  | process p a =>
      obtain ⟨⟨process, out⟩, hact, heq⟩ := Option.map_eq_some_iff.1 h
      cases heq
      exact .process hact

/-! ### What only grows -/

theorem getElem?_of_prefix {α : Type} {l l' : List α} (h : l <+: l') {i : Nat} {a : α} (hi : l[i]? = some a) :
    l'[i]? = some a := by
  obtain ⟨more, rfl⟩ := h
  rw [List.getElem?_append_left (List.getElem?_eq_some_iff.1 hi).1]
  exact hi

/-- Nothing that was sent, written or asked is taken back. -/
structure Mesh.Extends (S S' : Mesh) : Prop where
  sent : S.sent <+: S'.sent
  causes : S.causes <+: S'.causes
  written : ∀ k, (S.links k).sent <+: (S'.links k).sent
  requests : ∀ p, (S.processes p).requests <+: (S'.processes p).requests

namespace Mesh.Extends

variable {S S' : Mesh}

theorem frameAt (h : S.Extends S') {place : Place} {written : Written} (hplace : S.frameAt place = some written) :
    S'.frameAt place = some written := getElem?_of_prefix (h.written place.1) hplace

theorem request (h : S.Extends S') {p c : Nat} {request : Request}
    (hrequest : (S.processes p).requests[c]? = some request) :
    (S'.processes p).requests[c]? = some request := getElem?_of_prefix (h.requests p) hrequest

theorem message (h : S.Extends S') {i : Nat} {e : Tx × WriterMessage} (hi : S.sent[i]? = some e) :
    S'.sent[i]? = some e := getElem?_of_prefix h.sent hi

theorem cause (h : S.Extends S') {i : Nat} {cause : Option Place} (hi : S.causes[i]? = some cause) :
    S'.causes[i]? = some cause := getElem?_of_prefix h.causes hi

end Mesh.Extends

theorem posts_of_step {m : MessageMap} {pool pool' : Pool signature Shared Connection} {e : GatewayEvent}
    (h : Pool.Step (system m) pool e pool') :
    pool.shared.channels.sent <+: pool'.shared.channels.sent := by
  cases h with
  | opens hopens =>
      obtain ⟨-, -, rfl⟩ := hopens
      exact List.prefix_refl _
  | input => exact List.prefix_refl _
  | call _ hdoes =>
      obtain ⟨posted, hposted, -⟩ := Shared.Does.posts hdoes
      rw [hposted]
      exact List.prefix_append ..
  | environment henv =>
      obtain ⟨posted, hposted, -⟩ := Gateway.Environment.posts henv
      rw [hposted]
      exact List.prefix_append ..

namespace Mesh

variable (S : Mesh)

@[simp] theorem links_setLink (k : Nat) (link : Link) (k' : Nat) :
    (S.setLink k link).links k' = if k' = k then link else S.links k' := Function.update_apply ..

@[simp] theorem processes_setProcess (p : Nat) (process : Process) (p' : Nat) :
    (S.setProcess p process).processes p' = if p' = p then process else S.processes p' :=
  Function.update_apply ..

theorem sent_setLink {k : Nat} {link : Link} (h : (S.links k).sent <+: link.sent) (k' : Nat) :
    (S.links k').sent <+: ((S.setLink k link).links k').sent := by
  by_cases hk : k' = k
  · rwa [links_setLink, if_pos hk, hk]
  · simp only [links_setLink, if_neg hk, List.prefix_rfl]

theorem frameAt_take (pool : Pool signature Shared Connection) (k : Nat) (place : Place) :
    ({ S with gateway := pool }.setLink k { S.links k with
      taken := (S.links k).taken + 1
      handling := some (S.links k).taken }).frameAt place = S.frameAt place := by
  rw [frameAt, links_setLink, frameAt]
  split_ifs with hk
  · rw [hk]
  · rfl

theorem requests_setProcess {p : Nat} {process : Process} (h : (S.processes p).requests <+: process.requests)
    (p' : Nat) : (S.processes p').requests <+: ((S.setProcess p process).processes p').requests := by
  by_cases hp : p' = p
  · rwa [processes_setProcess, if_pos hp, hp]
  · simp only [processes_setProcess, if_neg hp, List.prefix_rfl]

@[simp] theorem gateway_write (out : Option (Nat × Written)) : (S.write out).gateway = S.gateway := by
  cases out <;> rfl

@[simp] theorem causes_write (out : Option (Nat × Written)) : (S.write out).causes = S.causes := by
  cases out <;> rfl

@[simp] theorem processes_write (out : Option (Nat × Written)) : (S.write out).processes = S.processes := by
  cases out <;> rfl

theorem links_write (out : Option (Nat × Written)) (k : Nat) :
    ((S.write out).links k).taken = (S.links k).taken ∧ ((S.write out).links k).handling = (S.links k).handling ∧
      ((S.write out).links k).sent =
        (S.links k).sent ++ (out.toList.filter fun o => o.1 = k).map Prod.snd := by
  rcases out with _ | ⟨k', written⟩
  · simp [write]
  · rw [write, links_setLink]
    by_cases hk : k = k'
    · subst hk
      simp
    · simp [hk, Ne.symm hk]

theorem frameAt_write {out : Option (Nat × Written)} {place : Place} {written : Written}
    (h : (S.write out).frameAt place = some written) :
    S.frameAt place = some written ∨ out = some (place.1, written) := by
  rw [frameAt, (S.links_write out place.1).2.2] at h
  rcases Nat.lt_or_ge place.2 (S.links place.1).sent.length with hlt | hge
  · rw [List.getElem?_append_left hlt] at h
    exact Or.inl h
  · rw [List.getElem?_append_right hge] at h
    obtain ⟨o, ho, rfl⟩ := List.mem_map.1 (List.mem_of_getElem? h)
    obtain ⟨hout, hplace⟩ := List.mem_filter.1 ho
    rw [Option.mem_toList.1 hout, ← of_decide_eq_true hplace]
    exact Or.inr rfl

theorem links_idled (e : GatewayEvent) (k : Nat) : (S.idled e k).sent = (S.links k).sent ∧
    (S.idled e k).taken = (S.links k).taken ∧
      ((S.idled e k).handling = none ∨ (S.idled e k).handling = (S.links k).handling) := by
  cases e with
  | input k' =>
      rw [idled, Function.update_apply]
      split_ifs with hk
      · rw [hk]
        exact ⟨rfl, rfl, Or.inl rfl⟩
      · exact ⟨rfl, rfl, Or.inr rfl⟩
  | _ => exact ⟨rfl, rfl, Or.inr rfl⟩

end Mesh

/-- A link beyond the connections is unused. -/
def Mesh.Unused (S : Mesh) : Prop := ∀ k, S.gateway.threads.length ≤ k → (S.links k).sent = []

theorem Step.extends {X : Setting} {S S' : Mesh} {e : Event} (h : Step X S e S') (hunused : S.Unused) :
    S.Extends S' := by
  cases h with
  | gateway _ hstep =>
      refine ⟨posts_of_step hstep, List.prefix_append .., fun k => ?_, fun p => List.prefix_refl _⟩
      rw [← (S.links_idled _ k).1]
      exact List.prefix_refl _
  | @take k frame purpose pool _ _ hstep =>
      refine ⟨posts_of_step hstep, List.prefix_refl _, fun k' => ?_, fun p => List.prefix_refl _⟩
      refine Mesh.sent_setLink { S with gateway := pool } ?_ k'
      exact List.prefix_refl _
  | @connect conn pool k hk _ _ hstep =>
      refine ⟨posts_of_step hstep, List.prefix_refl _, fun k' => ?_, fun p => ?_⟩
      · refine Mesh.sent_setLink { S with gateway := pool } ?_ k'
        exact (hunused k hk.ge).symm ▸ List.nil_prefix
      · refine Mesh.requests_setProcess _ ?_ p
        exact List.prefix_refl _
  | @process p a process out hact =>
      refine ⟨?_, ?_, fun k => ?_, fun p' => ?_⟩
      · rw [Mesh.sent, Mesh.sent, Mesh.gateway_write]
        exact List.prefix_refl _
      · rw [Mesh.causes_write]
        exact List.prefix_refl _
      · rw [((S.setProcess p process).links_write out k).2.2]
        exact List.prefix_append ..
      · rw [Mesh.processes_write]
        exact S.requests_setProcess (Process.acts_of_act hact).requests p'

end AxmolFighter.Exchange
