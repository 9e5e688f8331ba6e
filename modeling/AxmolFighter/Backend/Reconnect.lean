import AxmolFighter.Lib.Run
import AxmolFighter.Net.Transport

/-!
# Connecting again

`GatewayClient::run`: a server connects to the gateway, registers, runs its two loops over the stream until
one of them ends or the shutdown is requested, and starts again after a while. The shutdown is noticed while
the loops run or the client waits, but neither while it connects nor while it registers.

A stream has a buffer and a channel of its own. For each stream the handler is told what the reads of this
stream stand for, and on the stream is written what was given to its channel, behind the registration.
-/

namespace AxmolFighter.Backend.GatewayClient

/-! ### The client -/

def registerSerial : Int32 := -1

/-- The frame with which a server registers. -/
def registrationFrame (m : MessageMap) (serviceId instanceId : UInt32) : BackendFrame :=
  let (msgId, payload) := m.encode (.serverRegReq {
    serviceId
    instanceId
    loadScore := 0
    acceptingBindings := true
    loadMessage := "" })
  { cmd := backendCmdControl, msgId, serial := registerSerial, sessionId := 0, payload }

/-- A stream so far: what its reads have brought, what its channel was given, and what was written. -/
structure Stream where
  reads : List Bytes := []
  sent : List Bytes := []
  written : Bytes := []

/-- Where `run` is; with a stream, what is left of the data that is being written, the buffer of the loop
that reads, and the channel. -/
inductive Phase
  | connecting
  | requesting (s : Stream) (unwritten : Bytes)
  | registering (s : Stream) (buf : Bytes)
  | running (s : Stream) (buf : Bytes) (queue : List Bytes) (unwritten : Bytes)
  | sleeping
  | stopped

def Phase.stream : Phase → Option Stream
  | requesting s _ | registering s _ | running s _ _ _ => some s
  | connecting | sleeping | stopped => none

/-- What the handler is called with. -/
inductive Callback
  | gatewayConnected
  | gatewayDisconnected
  | frame (call : HandlerCall)
deriving DecidableEq

/-- The client, with the calls of its handler and the streams that have ended. -/
structure Client where
  cancelled : Bool
  phase : Phase
  callbacks : List Callback := []
  past : List Stream := []

/-- `run` is called: a shutdown may have been requested before. -/
def Client.start (cancelled : Bool) : Client where
  cancelled
  phase := if cancelled then .stopped else .connecting

/-- What can happen: the shutdown is requested or noticed; the socket connects, takes some of the bytes that
are being written, brings a read or fails; the registration or the pause has lasted its time; and someone
sends data or the write loop takes them from the channel. -/
inductive Event
  | cancel
  | noticed
  | connects
  | connectFails
  | writes (n : Nat)
  | writeFails
  | reads (chunk : Bytes)
  | readFails
  | registerTimeout
  | intervalOver
  | send (data : Bytes)
  | takes

namespace Client

/-- A stream ends before the registration is accepted. -/
def refused (c : Client) (s : Stream) : Client :=
  { c with phase := .sleeping, past := c.past ++ [s] }

/-- A stream on which the loops ran ends. -/
def disconnected (c : Client) (s : Stream) : Client :=
  { c with phase := .sleeping, callbacks := c.callbacks ++ [.gatewayDisconnected], past := c.past ++ [s] }

/-- The frames are dispatched. -/
def dispatches (c : Client) (frames : List BackendFrame) : Client :=
  { c with callbacks := c.callbacks ++ (frames.filterMap dispatchFrame).map .frame }

variable (m : MessageMap) (serviceId instanceId : UInt32) (c : Client)

/-- A read while the answer to the registration is awaited. -/
def registerRead (s : Stream) (buf chunk : Bytes) : Client :=
  if chunk.length = 0 then c.refused s
  else
    match backendFraming.scan (registrationAnswer m) (buf ++ chunk) with
    | .error _ => c.refused s
    | .ok (none, rest) => { c with phase := .registering s rest }
    | .ok (some (), rest) =>
        { c with phase := .running s rest [] [], callbacks := c.callbacks ++ [.gatewayConnected] }

/-- A read of the read loop. -/
def loopRead (s : Stream) (buf : Bytes) (queue : List Bytes) (unwritten chunk : Bytes) : Client :=
  if chunk.length = 0 then c.disconnected s
  else
    match extractFrames (buf ++ chunk) with
    | (frames, .error _) => (c.dispatches frames).disconnected s
    | (frames, .ok rest) => { c.dispatches frames with phase := .running s rest queue unwritten }

def next : Event → Option Client
  | .cancel => some { c with cancelled := true }
  | .noticed =>
      match c.phase with
      | .running s _ _ _ => if c.cancelled then some (c.disconnected s) else none
      | .sleeping => if c.cancelled then some { c with phase := .stopped } else none
      | _ => none
  | .connects =>
      match c.phase with
      | .connecting =>
          some { c with phase := .requesting {} (encodeFrame (registrationFrame m serviceId instanceId)) }
      | _ => none
  | .connectFails =>
      match c.phase with
      | .connecting => some { c with phase := .sleeping }
      | _ => none
  | .writes n =>
      match c.phase with
      | .requesting s unwritten =>
          if 0 < n ∧ n ≤ unwritten.length then
            let s := { s with written := s.written ++ unwritten.take n }
            if n = unwritten.length then some { c with phase := .registering s [] }
            else some { c with phase := .requesting s (unwritten.drop n) }
          else none
      | .running s buf queue unwritten =>
          if 0 < n ∧ n ≤ unwritten.length then
            let s := { s with written := s.written ++ unwritten.take n }
            some { c with phase := .running s buf queue (unwritten.drop n) }
          else none
      | _ => none
  | .writeFails =>
      match c.phase with
      | .requesting s _ => some (c.refused s)
      | .running s _ _ _ => some (c.disconnected s)
      | _ => none
  | .reads chunk =>
      match c.phase with
      | .registering s buf => some (c.registerRead m { s with reads := s.reads ++ [chunk] } buf chunk)
      | .running s buf queue unwritten =>
          some (c.loopRead { s with reads := s.reads ++ [chunk] } buf queue unwritten chunk)
      | _ => none
  | .readFails =>
      match c.phase with
      | .registering s _ => some (c.refused s)
      | .running s _ _ _ => some (c.disconnected s)
      | _ => none
  | .registerTimeout =>
      match c.phase with
      | .registering s _ => some (c.refused s)
      | _ => none
  | .intervalOver =>
      match c.phase with
      | .sleeping => some { c with phase := if c.cancelled then .stopped else .connecting }
      | _ => none
  -- a sender that is left from an earlier stream finds its channel closed
  | .send data =>
      match c.phase with
      | .running s buf queue unwritten =>
          some { c with phase := .running { s with sent := s.sent ++ [data] } buf (queue ++ [data]) unwritten }
      | _ => some c
  | .takes =>
      match c.phase with
      | .running s buf (data :: queue) [] => some { c with phase := .running s buf queue data }
      | _ => none

def Step (c : Client) (e : Event) (c' : Client) : Prop := c.next m serviceId instanceId e = some c'

end Client

/-! ### What the reads of a stream stand for -/

section

variable (m : MessageMap)

/-- The registration has been accepted by what was read. -/
def Registered (reads : List Bytes) : Prop := ∃ found, registerStream m [] reads = .ok (some found)

/-- The calls of the handler for a stream with these reads, until it ends. -/
def callbacksOf (reads : List Bytes) : List Callback :=
  match registerStream m [] reads with
  | .ok (some (buf, later)) =>
      .gatewayConnected :: ((readLoop buf later).1.filterMap dispatchFrame).map .frame
  | _ => []

/-- The calls for a stream that has ended. -/
def endedCallbacks (reads : List Bytes) : List Callback :=
  match registerStream m [] reads with
  | .ok (some _) => callbacksOf m reads ++ [.gatewayDisconnected]
  | _ => []

variable {m} {reads : List Bytes} {buf : Bytes}

theorem callbacksOf_none (h : ∀ found, registerStream m [] reads ≠ .ok (some found)) :
    callbacksOf m reads = [] ∧ endedCallbacks m reads = [] := by
  rw [endedCallbacks, callbacksOf]
  rcases hregister : registerStream m [] reads with e | _ | found
  · exact ⟨rfl, rfl⟩
  · exact ⟨rfl, rfl⟩
  · exact absurd hregister (h found)

theorem callbacksOf_some {later : List Bytes} (h : registerStream m [] reads = .ok (some (buf, later))) :
    callbacksOf m reads =
      .gatewayConnected :: ((readLoop buf later).1.filterMap dispatchFrame).map .frame := by
  rw [callbacksOf, h]

theorem endedCallbacks_some {later : List Bytes} (h : registerStream m [] reads = .ok (some (buf, later))) :
    endedCallbacks m reads = callbacksOf m reads ++ [.gatewayDisconnected] := by
  rw [endedCallbacks, h]

end

/-! ### What holds of a stream -/

section

variable (m : MessageMap) (request : Bytes)

/-- What was written is a part of the registration and the data that the channel was given, and it was only
given data when the registration had been accepted. -/
structure Stream.Sound (s : Stream) : Prop where
  written : s.written <+: request ++ s.sent.flatten
  sent : s.sent ≠ [] → Registered m s.reads

/-- What the phase keeps of a stream is what is left of it. -/
def Phase.Sound : Phase → Prop
  | .requesting s unwritten => s.reads = [] ∧ s.sent = [] ∧ s.written ++ unwritten = request
  | .registering s buf => s.sent = [] ∧ s.written = request ∧
      ∀ more, registerStream m [] (s.reads ++ more) = registerStream m buf more
  | .running s buf queue unwritten =>
      s.written ++ (unwritten ++ queue.flatten) = request ++ s.sent.flatten ∧
        ∃ buf₀ later frames, registerStream m [] s.reads = .ok (some (buf₀, later)) ∧
          ∀ more, readLoop buf₀ (later ++ more) = (frames ++ (readLoop buf more).1, (readLoop buf more).2)
  | .connecting | .sleeping | .stopped => True

variable {m request}

theorem Phase.Sound.stream {p : Phase} (h : p.Sound m request) {s : Stream} (hs : p.stream = some s) :
    s.Sound m request := by
  cases p with
  | requesting s' unwritten =>
      obtain rfl := Option.some.inj hs
      obtain ⟨-, hsent, hwritten⟩ := h
      refine ⟨?_, fun hne => absurd hsent hne⟩
      rw [hsent, List.flatten_nil, List.append_nil, ← hwritten]
      exact List.prefix_append ..
  | registering s' buf =>
      obtain rfl := Option.some.inj hs
      obtain ⟨hsent, hwritten, -⟩ := h
      refine ⟨?_, fun hne => absurd hsent hne⟩
      rw [hwritten]
      exact List.prefix_append ..
  | running s' buf queue unwritten =>
      obtain rfl := Option.some.inj hs
      obtain ⟨hwritten, buf₀, later, frames, hregistered, -⟩ := h
      refine ⟨?_, fun _ => ⟨_, hregistered⟩⟩
      rw [← hwritten]
      exact List.prefix_append ..
  | connecting | sleeping | stopped => cases hs

theorem Phase.Sound.unregistered {s : Stream} {buf : Bytes} (h : (Phase.registering s buf).Sound m request) :
    registerStream m [] s.reads = .ok none := by
  have hmore := h.2.2 []
  rwa [List.append_nil] at hmore

/-! ### Steps -/

/-- The streams are sound, and the handler was called for them, one after the other. -/
structure Client.Sound (m : MessageMap) (request : Bytes) (c : Client) : Prop where
  phase : c.phase.Sound m request
  past : ∀ s ∈ c.past, s.Sound m request
  callbacks : c.callbacks = c.past.flatMap (fun s => endedCallbacks m s.reads) ++
    (c.phase.stream.elim [] fun s => callbacksOf m s.reads)
  stopped : c.phase = .stopped → c.cancelled = true

namespace Client.Sound

variable {c : Client} {s : Stream} {buf chunk : Bytes} {queue : List Bytes} {unwritten : Bytes}

theorem ends (h : c.Sound m request) (hs : s.Sound m request) (calls : List Callback)
    (hcalls : (c.phase.stream.elim [] fun s => callbacksOf m s.reads) ++ calls = endedCallbacks m s.reads) :
    ({ c with phase := .sleeping, callbacks := c.callbacks ++ calls, past := c.past ++ [s] } : Client).Sound
      m request := by
  refine ⟨trivial, fun s' hs' => ?_, ?_, fun hstopped => by cases hstopped⟩
  · rcases List.mem_append.1 hs' with hs' | hs'
    · exact h.past s' hs'
    · rw [List.mem_singleton.1 hs']
      exact hs
  · show c.callbacks ++ calls = (c.past ++ [s]).flatMap _ ++ []
    rw [h.callbacks, List.append_assoc, hcalls]
    simp

theorem refused (h : c.Sound m request) (hs : s.Sound m request)
    (hnone : (c.phase.stream.elim [] fun s => callbacksOf m s.reads) = [])
    (hregister : ∀ found, registerStream m [] s.reads ≠ .ok (some found)) : (c.refused s).Sound m request := by
  have hends := h.ends hs [] (by rw [hnone, (callbacksOf_none hregister).2]; rfl)
  rwa [List.append_nil] at hends

theorem requesting_ends (h : c.Sound m request) (hphase : c.phase = .requesting s unwritten) :
    (c.refused s).Sound m request := by
  have hsound := h.phase
  rw [hphase] at hsound
  have hregister : ∀ found, registerStream m [] s.reads ≠ .ok (some found) := by
    rw [hsound.1]
    exact nofun
  refine h.refused (hsound.stream rfl) ?_ hregister
  rw [hphase]
  exact (callbacksOf_none hregister).1

theorem registering_ends (h : c.Sound m request) (hphase : c.phase = .registering s buf) :
    (c.refused s).Sound m request := by
  have hsound := h.phase
  rw [hphase] at hsound
  have hregister : ∀ found, registerStream m [] s.reads ≠ .ok (some found) := by
    rw [hsound.unregistered]
    exact nofun
  refine h.refused (hsound.stream rfl) ?_ hregister
  rw [hphase]
  exact (callbacksOf_none hregister).1

theorem running_ends (h : c.Sound m request) (hphase : c.phase = .running s buf queue unwritten) :
    (c.disconnected s).Sound m request := by
  have hsound := h.phase
  rw [hphase] at hsound
  have hs : s.Sound m request := hsound.stream rfl
  obtain ⟨-, buf₀, later, frames, hregistered, -⟩ := hsound
  refine h.ends hs _ ?_
  rw [hphase, endedCallbacks_some hregistered]
  rfl

theorem registerRead (h : c.Sound m request) (hphase : c.phase = .registering s buf) :
    (c.registerRead m { s with reads := s.reads ++ [chunk] } buf chunk).Sound m request := by
  have hsound := h.phase
  rw [hphase] at hsound
  have hbefore : registerStream m [] s.reads = .ok none := hsound.unregistered
  obtain ⟨hsent, hwritten, hmore⟩ := hsound
  have hnone : (c.phase.stream.elim [] fun s => callbacksOf m s.reads) = [] := by
    rw [hphase]
    exact (callbacksOf_none fun found hfound => by cases hbefore.symm.trans hfound).1
  have hs : ({ s with reads := s.reads ++ [chunk] } : Stream).Sound m request := by
    refine ⟨?_, fun hne => absurd hsent hne⟩
    show s.written <+: _
    rw [hwritten]
    exact List.prefix_append ..
  have hread := hmore [chunk]
  unfold Client.registerRead
  rw [registerStream] at hread
  split_ifs at hread ⊢ with hchunk
  · refine h.refused hs hnone ?_
    show ∀ found, registerStream m [] (s.reads ++ [chunk]) ≠ _
    rw [hread]
    intro found hfound
    cases hfound
  · rcases hscan : backendFraming.scan (registrationAnswer m) (buf ++ chunk) with e | ⟨_ | ⟨⟩, rest⟩
    · rw [hscan] at hread
      refine h.refused hs hnone ?_
      show ∀ found, registerStream m [] (s.reads ++ [chunk]) ≠ _
      rw [hread]
      intro found hfound
      cases hfound
    · rw [hscan] at hread
      refine ⟨⟨hsent, hwritten, fun more => ?_⟩, h.past, ?_, fun hstopped => by cases hstopped⟩
      · show registerStream m [] (s.reads ++ [chunk] ++ more) = _
        rw [List.append_assoc, hmore, List.singleton_append, registerStream, if_neg hchunk, hscan]
      · rw [h.callbacks, hnone]
        show _ = _ ++ callbacksOf m (s.reads ++ [chunk])
        have hstill : ∀ found, registerStream m [] (s.reads ++ [chunk]) ≠ .ok (some found) := by
          rw [hread]
          intro found hfound
          cases hfound
        rw [(callbacksOf_none hstill).1]
    · rw [hscan] at hread
      refine ⟨⟨?_, rest, [], [], hread, fun more => rfl⟩, h.past, ?_, fun hstopped => by cases hstopped⟩
      · show s.written ++ ([] ++ [].flatten) = request ++ s.sent.flatten
        rw [hwritten, hsent]
        rfl
      · show c.callbacks ++ [.gatewayConnected] = _ ++ callbacksOf m (s.reads ++ [chunk])
        rw [h.callbacks, hnone, callbacksOf_some hread, List.append_nil]
        rfl

theorem loopRead (h : c.Sound m request) (hphase : c.phase = .running s buf queue unwritten) :
    (c.loopRead { s with reads := s.reads ++ [chunk] } buf queue unwritten chunk).Sound m request := by
  have hsound := h.phase
  rw [hphase] at hsound
  have hsent := (hsound.stream rfl).sent
  have hwritten := (hsound.stream rfl).written
  obtain ⟨hqueued, buf₀, later, frames, hregistered, hmore⟩ := hsound
  have hnow : registerStream m [] (s.reads ++ [chunk]) = .ok (some (buf₀, later ++ [chunk])) :=
    registerStream_append hregistered [chunk]
  have hs : ({ s with reads := s.reads ++ [chunk] } : Stream).Sound m request :=
    ⟨hwritten, fun _ => ⟨_, hnow⟩⟩
  have hcalls : callbacksOf m s.reads = .gatewayConnected :: (frames.filterMap dispatchFrame).map .frame := by
    have hnothing := hmore []
    rw [List.append_nil] at hnothing
    rw [callbacksOf_some hregistered, hnothing]
    simp [readLoop]
  have hlater : callbacksOf m (s.reads ++ [chunk]) =
      callbacksOf m s.reads ++ ((readLoop buf [chunk]).1.filterMap dispatchFrame).map .frame := by
    rw [callbacksOf_some hnow, hmore [chunk], hcalls]
    simp
  have hend : endedCallbacks m (s.reads ++ [chunk]) =
      callbacksOf m s.reads ++ (((readLoop buf [chunk]).1.filterMap dispatchFrame).map .frame ++
        [.gatewayDisconnected]) := by
    rw [endedCallbacks_some hnow, hlater, List.append_assoc]
  unfold Client.loopRead
  rw [readLoop] at hlater hend
  split_ifs at hlater hend ⊢ with hchunk
  · refine h.ends hs _ ?_
    rw [hphase]
    exact hend.symm
  · rcases hextract : extractFrames (buf ++ chunk) with ⟨found, e | rest⟩
    · rw [hextract] at hend
      have hends := h.ends hs ((found.filterMap dispatchFrame).map .frame ++ [.gatewayDisconnected]) (by
        rw [hphase]
        exact hend.symm)
      rwa [← List.append_assoc] at hends
    · rw [hextract] at hlater
      refine ⟨⟨hqueued, buf₀, later ++ [chunk], frames ++ found, hnow, fun more => ?_⟩, h.past, ?_,
        fun hstopped => by cases hstopped⟩
      · rw [List.append_assoc, hmore, List.singleton_append, readLoop, if_neg hchunk, hextract, List.append_assoc]
      · show c.callbacks ++ _ =
          c.past.flatMap (fun s => endedCallbacks m s.reads) ++ callbacksOf m (s.reads ++ [chunk])
        rw [hlater, h.callbacks, hphase, List.append_assoc]
        simp [readLoop, Phase.stream]

theorem moves (h : c.Sound m request) {p : Phase} (hp : p.Sound m request)
    (hcalls : (p.stream.elim [] fun s => callbacksOf m s.reads) =
      c.phase.stream.elim [] fun s => callbacksOf m s.reads)
    (hstopped : p = .stopped → c.cancelled = true) : ({ c with phase := p } : Client).Sound m request := by
  refine ⟨hp, h.past, ?_, hstopped⟩
  rw [hcalls]
  exact h.callbacks

end Client.Sound

end

section

variable {m : MessageMap} {serviceId instanceId : UInt32} {c c' : Client}

/-- What is written first on each stream. -/
abbrev requestBytes (m : MessageMap) (serviceId instanceId : UInt32) : Bytes :=
  encodeFrame (registrationFrame m serviceId instanceId)

theorem Client.Sound.step (h : c.Sound m (requestBytes m serviceId instanceId)) {e : Event}
    (hstep : Client.Step m serviceId instanceId c e c') : c'.Sound m (requestBytes m serviceId instanceId) := by
  have hphase := h.phase
  unfold Client.Step Client.next at hstep
  cases e with
  | cancel =>
      obtain rfl := Option.some.inj hstep
      exact ⟨h.phase, h.past, h.callbacks, fun _ => rfl⟩
  | noticed =>
      cases hp : c.phase <;> simp only [hp, reduceCtorEq] at hstep <;> split_ifs at hstep with hcancelled <;>
        obtain rfl := Option.some.inj hstep
      · exact h.running_ends hp
      · exact h.moves trivial (by rw [hp]; rfl) fun _ => hcancelled
  | connects =>
      cases hp : c.phase <;> simp only [hp, Option.some.injEq, reduceCtorEq] at hstep
      subst hstep
      exact h.moves ⟨rfl, rfl, rfl⟩ (by rw [hp]; rfl) nofun
  | connectFails =>
      cases hp : c.phase <;> simp only [hp, Option.some.injEq, reduceCtorEq] at hstep
      subst hstep
      exact h.moves trivial (by rw [hp]; rfl) nofun
  | writes n =>
      cases hp : c.phase <;> simp only [hp, reduceCtorEq] at hstep <;> rw [hp] at hphase
      case requesting s unwritten =>
        obtain ⟨hreads, hsent, hwritten⟩ := hphase
        split_ifs at hstep with hn hall
        · obtain rfl := Option.some.inj hstep
          refine h.moves ⟨hsent, ?_, ?_⟩ (by rw [hp]; rfl) nofun
          · show s.written ++ unwritten.take n = _
            rw [hall, List.take_length, hwritten]
          · intro more
            show registerStream m [] (s.reads ++ more) = _
            rw [hreads, List.nil_append]
        · obtain rfl := Option.some.inj hstep
          refine h.moves ⟨hreads, hsent, ?_⟩ (by rw [hp]; rfl) nofun
          show s.written ++ unwritten.take n ++ unwritten.drop n = _
          rw [List.append_assoc, List.take_append_drop, hwritten]
      case running s buf queue unwritten =>
        obtain ⟨hwritten, hregistered⟩ := hphase
        split_ifs at hstep with hn
        obtain rfl := Option.some.inj hstep
        refine h.moves ⟨?_, hregistered⟩ (by rw [hp]; rfl) nofun
        show s.written ++ unwritten.take n ++ (unwritten.drop n ++ queue.flatten) = _
        rw [← hwritten, List.append_assoc, ← List.append_assoc (unwritten.take n), List.take_append_drop]
  | writeFails =>
      cases hp : c.phase <;> simp only [hp, Option.some.injEq, reduceCtorEq] at hstep <;> subst hstep
      · exact h.requesting_ends hp
      · exact h.running_ends hp
  | reads chunk =>
      cases hp : c.phase <;> simp only [hp, Option.some.injEq, reduceCtorEq] at hstep <;> subst hstep
      · exact h.registerRead hp
      · exact h.loopRead hp
  | readFails =>
      cases hp : c.phase <;> simp only [hp, Option.some.injEq, reduceCtorEq] at hstep <;> subst hstep
      · exact h.registering_ends hp
      · exact h.running_ends hp
  | registerTimeout =>
      cases hp : c.phase <;> simp only [hp, Option.some.injEq, reduceCtorEq] at hstep
      subst hstep
      exact h.registering_ends hp
  | intervalOver =>
      cases hp : c.phase <;> simp only [hp, Option.some.injEq, reduceCtorEq] at hstep
      subst hstep
      split_ifs with hcancelled
      · exact h.moves trivial (by rw [hp]; rfl) fun _ => hcancelled
      · exact h.moves trivial (by rw [hp]; rfl) nofun
  | send data =>
      cases hp : c.phase <;> simp only [hp, Option.some.injEq] at hstep <;> subst hstep
      case running s buf queue unwritten =>
        rw [hp] at hphase
        obtain ⟨hwritten, hregistered⟩ := hphase
        refine h.moves ⟨?_, hregistered⟩ (by rw [hp]; rfl) nofun
        show s.written ++ (unwritten ++ (queue ++ [data]).flatten) = _ ++ (s.sent ++ [data]).flatten
        simp only [List.flatten_append, ← List.append_assoc] at hwritten ⊢
        rw [hwritten]
      all_goals exact h
  | takes =>
      cases hp : c.phase <;> simp only [hp, reduceCtorEq] at hstep
      case running s buf queue unwritten =>
        rw [hp] at hphase
        rcases queue with _ | ⟨data, queue⟩
        · cases hstep
        · rcases unwritten with _ | ⟨byte, unwritten⟩
          · obtain rfl := Option.some.inj hstep
            exact h.moves hphase (by rw [hp]; rfl) nofun
          · cases hstep

theorem Client.Sound.start (cancelled : Bool) (request : Bytes) : (Client.start cancelled).Sound m request := by
  cases cancelled with
  | false => exact ⟨trivial, nofun, rfl, nofun⟩
  | true => exact ⟨trivial, nofun, rfl, fun _ => rfl⟩

theorem Client.sound_of_run {cancelled : Bool} {trace : List (Client × Event)}
    (hrun : Run (Client.Step m serviceId instanceId) (Client.start cancelled) trace c) :
    c.Sound m (requestBytes m serviceId instanceId) :=
  hrun.invariant _ (Client.Sound.start cancelled _) fun _ _ _ h hstep => h.step hstep

end

/-! ### Runs -/

/-- **Connections do not mix.** In every run of the client the handler has been called for each stream, one
after the other, with what the reads of this stream stand for: that it is connected once the registration is
accepted, with the frames behind it in order, and that it is disconnected when the stream has ended. Nothing
is carried over to another stream, and a client that has stopped has none left. -/
theorem callbacks_of_run (m : MessageMap) (serviceId instanceId : UInt32) (cancelled : Bool)
    (trace : List (Client × Event)) (c : Client)
    (hrun : Run (Client.Step m serviceId instanceId) (Client.start cancelled) trace c) :
    c.callbacks = c.past.flatMap (fun s => endedCallbacks m s.reads) ++
        (c.phase.stream.elim [] fun s => callbacksOf m s.reads) ∧
      (c.phase = .stopped → c.cancelled = true ∧ c.callbacks = c.past.flatMap fun s => endedCallbacks m s.reads) := by
  have hsound := Client.sound_of_run hrun
  refine ⟨hsound.callbacks, fun hstopped => ⟨hsound.stopped hstopped, ?_⟩⟩
  have hcalls := hsound.callbacks
  rw [hstopped] at hcalls
  simpa [Phase.stream] using hcalls

theorem Client.Sound.of_stream {m : MessageMap} {request : Bytes} {c : Client} (h : c.Sound m request) {s : Stream}
    (hs : s ∈ c.past ∨ c.phase.stream = some s) : s.Sound m request :=
  hs.elim (h.past s) h.phase.stream

open Net.NetSession in
/-- **A stream carries its own frames.** In every run of the client, if the data that are sent are frames,
then however the gateway reads a part of what was written to a stream, its delegate is called with the
registration and, in order, the frames that were sent on this stream, as far as their last byte has come;
and there are such frames only when the reads have brought that the registration is accepted. -/
theorem stream_of_run (m : MessageMap) (serviceId instanceId : UInt32) (cancelled : Bool)
    (trace : List (Client × Event)) (c : Client)
    (hrun : Run (Client.Step m serviceId instanceId) (Client.start cancelled) trace c) (s : Stream)
    (hs : s ∈ c.past ∨ c.phase.stream = some s) (frames : List BackendFrame)
    (hsent : s.sent = frames.map encodeFrame)
    (hfits : ∀ frame ∈ registrationFrame m serviceId instanceId :: frames, Fits frame) {reads : List Bytes}
    (hreads : Moderate reads) (hpart : reads.flatten <+: s.written) :
    (pollRead backendBodies (fun _ _ => true) [] [] reads).1.map BackendFrame.ofBody =
        arrived (registrationFrame m serviceId instanceId :: frames) reads.flatten.length ∧
      (frames ≠ [] → Registered m s.reads) := by
  have hsound := (Client.sound_of_run hrun).of_stream hs
  refine ⟨pollRead_arrived hfits hreads (hpart.trans ?_), fun hne => hsound.sent ?_⟩
  · rw [encodeAll_cons, encodeAll, ← hsent]
    exact hsound.written
  · rw [hsent]
    simpa using hne

section

variable {m : MessageMap} {serviceId instanceId : UInt32} {c : Client} {s : Stream}

theorem Client.step_answer (hphase : c.phase = .registering s []) {answer : BackendFrame} (hfits : Fits answer)
    (haccepted : registrationAnswer m answer = .ok (some ())) :
    Client.Step m serviceId instanceId c (.reads (encodeFrame answer)) { c with
      phase := .running { s with reads := s.reads ++ [encodeFrame answer] } [] [] []
      callbacks := c.callbacks ++ [.gatewayConnected] } := by
  have hscan : backendFraming.scan (registrationAnswer m) ([] ++ encodeFrame answer) = .ok (some (), []) := by
    have hextract := extract_encodeFrame hfits []
    rw [List.append_nil] at hextract
    exact Framing.scan_stop hextract haccepted
  have hlength := length_encodeFrame answer
  have hpos := wireSize_pos answer
  simp only [Client.Step, Client.next, hphase, Client.registerRead]
  rw [if_neg (by omega), hscan]

theorem Client.step_frame {queue : List Bytes} {unwritten : Bytes} (hphase : c.phase = .running s [] queue unwritten)
    {frame : BackendFrame} (hfits : Fits frame) :
    Client.Step m serviceId instanceId c (.reads (encodeFrame frame)) { c.dispatches [frame] with
      phase := .running { s with reads := s.reads ++ [encodeFrame frame] } [] queue unwritten } := by
  have hextract : extractFrames ([] ++ encodeFrame frame) = ([frame], .ok []) := by
    have hone := extract_encodeFrame hfits []
    rw [List.append_nil] at hone
    rw [extractFrames, List.nil_append, Framing.drain_some hone, Framing.drain_none extract_nil]
  have hlength := length_encodeFrame frame
  have hpos := wireSize_pos frame
  simp only [Client.Step, Client.next, hphase, Client.loopRead]
  rw [if_neg (by omega), hextract]

end

namespace Sample

def request : Bytes := requestBytes messages 1 0

/-- A stream that breaks while the registration is written. -/
def broken : Stream where
  written := request.take 5

/-- A stream on which a push is read and one is written. -/
def used : Stream where
  reads := [encodeFrame accepted, encodeFrame push]
  sent := [encodeFrame push]
  written := request ++ encodeFrame push

/-- The second stream, before and behind its reads. -/
def asking : Client where
  cancelled := false
  phase := .registering { written := request } []
  past := [broken]

def greeted : Client where
  cancelled := false
  phase := .running { reads := [encodeFrame accepted], written := request } [] [] []
  callbacks := [.gatewayConnected]
  past := [broken]

def pushed : Client where
  cancelled := false
  phase := .running { reads := [encodeFrame accepted, encodeFrame push], written := request } [] [] []
  callbacks := [.gatewayConnected, .frame (.controlFrame push)]
  past := [broken]

/-- The shutdown is requested while the stream is used. -/
def stopped : Client where
  cancelled := true
  phase := .stopped
  callbacks := [.gatewayConnected, .frame (.controlFrame push), .gatewayDisconnected]
  past := [broken, used]

theorem run_stopped : ∃ trace, Run (Client.Step messages 1 0) (Client.start false) trace stopped := by
  have hsteps : ∀ {c c' : Client} {trace : List (Client × Event)} {events : List Event},
      Run.record (Client.next messages 1 0) c events = some (trace, c') → Run (Client.Step messages 1 0) c trace c' :=
    fun h => Run.of_record (fun _ _ _ h => h) h
  have hconnects : Run.record (Client.next messages 1 0) (Client.start false)
      [.connects, .writes 5, .writeFails, .intervalOver, .connects, .writes 15] = some (_, asking) := rfl
  have hanswer : Client.Step messages 1 0 asking (.reads (encodeFrame accepted)) greeted :=
    Client.step_answer (c := asking) (s := { written := request }) rfl (show Fits accepted by decide) rfl
  have hpush : Client.Step messages 1 0 greeted (.reads (encodeFrame push)) pushed :=
    Client.step_frame (c := greeted) (s := { reads := [encodeFrame accepted], written := request }) rfl
      (show Fits push by decide)
  have hstops : Run.record (Client.next messages 1 0) pushed
      [.send (encodeFrame push), .takes, .writes 15, .cancel, .noticed, .intervalOver] = some (_, stopped) := rfl
  exact ⟨_, (((hsteps hconnects).next hanswer).next hpush).append (hsteps hstops)⟩

end Sample

theorem callbacks_of_run_stopped : ∃ trace,
    Run (Client.Step Sample.messages 1 0) (Client.start false) trace Sample.stopped ∧
      Sample.stopped.callbacks =
        Sample.stopped.past.flatMap fun s => endedCallbacks Sample.messages s.reads := by
  obtain ⟨trace, hrun⟩ := Sample.run_stopped
  exact ⟨trace, hrun, ((callbacks_of_run Sample.messages 1 0 false trace Sample.stopped hrun).2 rfl).2⟩

open Net.NetSession in
theorem stream_of_run_stopped : ∃ trace,
    Run (Client.Step Sample.messages 1 0) (Client.start false) trace Sample.stopped ∧
      Sample.used ∈ Sample.stopped.past ∧
      (pollRead backendBodies (fun _ _ => true) [] [] [Sample.used.written]).1.map BackendFrame.ofBody =
        [registrationFrame Sample.messages 1 0, Sample.push] ∧
      Registered Sample.messages Sample.used.reads := by
  obtain ⟨trace, hrun⟩ := Sample.run_stopped
  have hall : [Sample.used.written].flatten <+: Sample.used.written := by simp
  have hused : Sample.used ∈ Sample.stopped.past := List.mem_cons_of_mem _ List.mem_cons_self
  obtain ⟨hcalled, hregistered⟩ := stream_of_run Sample.messages 1 0 false trace Sample.stopped hrun Sample.used
    (Or.inl hused) [Sample.push] rfl (by decide)
    (show Moderate [Sample.used.written] by decide) hall
  exact ⟨trace, hrun, hused, hcalled.trans (by decide), hregistered (List.cons_ne_nil _ _)⟩

end AxmolFighter.Backend.GatewayClient
