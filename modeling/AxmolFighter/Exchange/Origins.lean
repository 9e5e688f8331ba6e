import AxmolFighter.Backend.Requests
import AxmolFighter.Exchange.Relay

/-!
# Where frames and messages come from

A frame on a link has been written for something, and what a process has to answer has come from a request that
is still on the link of the requester. These are facts about what was written and sent, and as nothing of that
goes away, they stay true. From them follows what a message that is read can complete.
-/

namespace AxmolFighter.Exchange

open Backend (Action Handled PendingResponse RpcManager ServerSource decodeResponse handleControlFrame handleFrame
  processServerMessage resolve routeForwardedFrame)
open Backend.GatewayClient (Fits)
open Backend.Requests (seedOf seedOf_inj toInt_seedOf)
open Gateway (Tx WriterMessage)

variable (X : Setting)

/-- The address that the framework has for the sender of a forwarded frame. -/
def address (server : UInt8 × UInt32) : ServerSource := ⟨server.1.toUInt32, server.2.toInt32⟩

/-- Message `i` has brought process `p` a request: it is the frame of a request of the process behind connection
`k₁`, for a target that `p` is, and `serial` is its id and `source` its address. -/
inductive Asked (S : Mesh) (p i : Nat) (source : ServerSource) (serial : Int32) : Prop
  | intro {k : Tx} {r : ForwardToServerReq} {place : Place} {frame : BackendFrame} {c : Nat} {request : Request}
      (hmessage : S.sent[i]? = some (k, .toBackend (.control (.forwardToServerReq r) 0 0))) (howner : X.owner k = p)
      (hcause : S.causes[i]? = some (some place)) (hframe : S.frameAt place = some (frame, .request c))
      (hrequest : (S.processes (X.owner place.1)).requests[c]? = some request)
      (htargets : Targets request.target (X.server k)) (hsmall : (X.ids (X.owner place.1)).2.toNat < 2 ^ 31)
      (hserial : serial = request.id) (hsource : source = address (X.server place.1))

/-- What the process behind connection `k` has written on it. -/
inductive WrittenFor (S : Mesh) (k : Nat) : BackendFrame → Purpose → Prop
  | registration : WrittenFor S k (registrationFrame X.messages (X.ids (X.owner k))) .registration
  | request {c : Nat} {request : Request} (hrequest : (S.processes (X.owner k)).requests[c]? = some request)
      (hsmall : (X.ids (X.owner k)).2.toNat < 2 ^ 31) : WrittenFor S k
        (serverFrame X.messages (X.ids (X.owner k)) request.target request.msg (-request.id)) (.request c)
  | reply {i : Nat} {source : ServerSource} {serial : Int32} (hasked : Asked X S (X.owner k) i source serial)
      (resp : Message) :
      WrittenFor S k (serverFrame X.messages (X.ids (X.owner k)) source resp serial) (.reply i)
  | push (target : ServerSource) (msg : Message) :
      WrittenFor S k (serverFrame X.messages (X.ids (X.owner k)) target msg 0) .push
  | pong (nonce : UInt64) (sessionId : UInt32) : WrittenFor S k (pongFrame X.messages nonce sessionId) .pong

/-- What has completed a request of process `p` was meant for it: an error with which the gateway has refused the
very frame of the request, or the reply that a process has written to a message with which the gateway had
forwarded that frame to it, a server that the request may go to. -/
inductive Correlated (S : Mesh) (p : Nat) (done : Completion) : Prop
  | refused {k : Tx} {code : UInt32} {text : String} {request : Request} {place : Place} {frame : BackendFrame}
      (hrequest : (S.processes p).requests[done.request]? = some request)
      (hmessage : S.sent[done.message]? =
        some (k, .toBackend (.control (.gatewayErrorResp code text) request.id 0)))
      (howner : X.owner k = p) (hcause : S.causes[done.message]? = some (some place))
      (hplace : X.owner place.1 = p) (hframe : S.frameAt place = some (frame, .request done.request))
      (hresponse : done.response = decodeResponse X.messages (X.messages.encode (.gatewayErrorResp code text)).1
        (X.messages.encode (.gatewayErrorResp code text)).2)
  | replied {k k₀ : Tx} {r r₀ : ForwardToServerReq} {request : Request} {place place₀ : Place} {i : Nat}
      {frame : BackendFrame} {resp : Message}
      (hrequest : (S.processes p).requests[done.request]? = some request)
      (hmessage : S.sent[done.message]? = some (k, .toBackend (.control (.forwardToServerReq r) 0 0)))
      (howner : X.owner k = p) (hcause : S.causes[done.message]? = some (some place))
      (hreply : S.frameAt place = some (serverFrame X.messages (X.ids (X.owner place.1))
        (address (X.server place₀.1)) resp request.id, .reply i))
      (hforwarded : S.sent[i]? = some (k₀, .toBackend (.control (.forwardToServerReq r₀) 0 0)))
      (hreplier : X.owner k₀ = X.owner place.1) (htargets : Targets request.target (X.server k₀))
      (hcause₀ : S.causes[i]? = some (some place₀)) (hplace : X.owner place₀.1 = p)
      (hframe : S.frameAt place₀ = some (frame, .request done.request))
      (hresponse : done.response = decodeResponse X.messages (X.messages.encode resp).1 (X.messages.encode resp).2)

variable {X} {S S' : Mesh} {p i k : Nat} {source : ServerSource} {serial : Int32}

theorem Asked.mono (h : Asked X S p i source serial) (hext : S.Extends S') : Asked X S' p i source serial := by
  obtain ⟨hmessage, howner, hcause, hframe, hrequest, htargets, hsmall, hserial, hsource⟩ := h
  exact ⟨hext.message hmessage, howner, hext.cause hcause, hext.frameAt hframe, hext.request hrequest, htargets,
    hsmall, hserial, hsource⟩

theorem WrittenFor.mono {frame : BackendFrame} {purpose : Purpose} (h : WrittenFor X S k frame purpose)
    (hext : S.Extends S') : WrittenFor X S' k frame purpose := by
  cases h with
  | registration => exact .registration
  | request hrequest hsmall => exact .request (hext.request hrequest) hsmall
  | reply hasked resp => exact .reply (hasked.mono hext) resp
  | push target msg => exact .push target msg
  | pong nonce sessionId => exact .pong nonce sessionId

theorem Correlated.mono {done : Completion} (h : Correlated X S p done) (hext : S.Extends S') :
    Correlated X S' p done := by
  cases h with
  | refused hrequest hmessage howner hcause hplace hframe hresponse =>
      exact .refused (hext.request hrequest) (hext.message hmessage) howner (hext.cause hcause) hplace
        (hext.frameAt hframe) hresponse
  | replied hrequest hmessage howner hcause hreply hforwarded hreplier htargets hcause₀ hplace hframe hresponse =>
      exact .replied (hext.request hrequest) (hext.message hmessage) howner (hext.cause hcause)
        (hext.frameAt hreply) (hext.message hforwarded) hreplier htargets (hext.cause hcause₀) hplace
        (hext.frameAt hframe) hresponse

/-! ### Ids -/

theorem neg_seedOf (n : Nat) : -seedOf n < 0 := by
  have hpos := toInt_seedOf n
  rw [Int32.lt_iff_toInt_lt, Int32.toInt_neg, hpos, show (0 : Int32).toInt = 0 from rfl,
    Int.bmod_eq_of_le (by omega) (by omega)]
  omega

/-! ### What the gateway makes of a frame -/

theorem WrittenFor.expected (hm : Faithful X.messages) {frame : BackendFrame} {purpose : Purpose}
    (h : WrittenFor X S k frame purpose) (hfits : Fits frame) : frame.cmd = backendCmdControl ∧
      ∀ msg, X.messages.decode frame.msgId frame.payload = .ok msg → Expected X k frame msg := by
  have hserver : ∀ target msg serial msg',
      Fits (serverFrame X.messages (X.ids (X.owner k)) target msg serial) →
      X.messages.decode (serverFrame X.messages (X.ids (X.owner k)) target msg serial).msgId
        (serverFrame X.messages (X.ids (X.owner k)) target msg serial).payload = .ok msg' →
      Expected X k (serverFrame X.messages (X.ids (X.owner k)) target msg serial) msg' := by
    intro target msg serial msg' hfits hdecode
    rw [serverFrame, hm.decode_forward hfits] at hdecode
    obtain rfl := Except.ok.inj hdecode
    exact .forward _
  cases h with
  | registration =>
      refine ⟨rfl, fun msg hdecode => ?_⟩
      obtain rfl := Except.ok.inj ((hm.registration _).symm.trans hdecode)
      exact .registration (show (-1 : Int32) ≤ 0 by decide) rfl
  | request _ _ => exact ⟨rfl, fun msg => hserver _ _ _ _ hfits⟩
  | reply _ resp => exact ⟨rfl, fun msg => hserver _ _ _ _ hfits⟩
  | push target msg => exact ⟨rfl, fun msg => hserver _ _ _ _ hfits⟩
  | pong nonce sessionId =>
      refine ⟨rfl, fun msg hdecode => ?_⟩
      obtain ⟨nonce', rfl⟩ := hm.decode_pong hdecode
      exact .pong nonce'

/-- The frame inside a frame that the gateway reads as a `ForwardToServerReq`, for whom it is, and for what. -/
inductive Carries (X : Setting) (S : Mesh) (k : Nat) (frame : BackendFrame) :
    Purpose → ServerSource → BackendFrame → Prop
  | request {c : Nat} {request : Request} (hrequest : (S.processes (X.owner k)).requests[c]? = some request)
      (hsmall : (X.ids (X.owner k)).2.toNat < 2 ^ 31) (hserial : frame.serial = -request.id) :
      Carries X S k frame (.request c) request.target (innerFrame X.messages request.msg (-request.id))
  | reply {i : Nat} {source : ServerSource} {serial : Int32} (hasked : Asked X S (X.owner k) i source serial)
      (resp : Message) (hframe : frame = serverFrame X.messages (X.ids (X.owner k)) source resp serial) :
      Carries X S k frame (.reply i) source (innerFrame X.messages resp serial)
  | push (target : ServerSource) (msg : Message) (hserial : frame.serial = 0) :
      Carries X S k frame .push target (innerFrame X.messages msg 0)

theorem WrittenFor.carries (hm : Faithful X.messages) {frame : BackendFrame} {purpose : Purpose}
    (h : WrittenFor X S k frame purpose) (hfits : Fits frame) {req : ForwardToServerReq}
    (hdecode : X.messages.decode frame.msgId frame.payload = .ok (.forwardToServerReq req)) :
    ∃ inner, Carries X S k frame purpose ⟨req.targetServiceId, req.targetInstanceId⟩ inner ∧
      tryExtractFrame req.payload = .ok (some (inner, [])) := by
  cases h with
  | registration => cases (hm.registration _).symm.trans hdecode
  | request hrequest hsmall =>
      cases (hm.decode_forward hfits).symm.trans hdecode
      exact ⟨_, .request hrequest hsmall rfl, hm.extract_wrapped hfits⟩
  | reply hasked resp =>
      cases (hm.decode_forward hfits).symm.trans hdecode
      exact ⟨_, .reply hasked resp rfl, hm.extract_wrapped hfits⟩
  | push target msg =>
      cases (hm.decode_forward hfits).symm.trans hdecode
      exact ⟨_, .push target msg rfl, hm.extract_wrapped hfits⟩
  | pong nonce sessionId =>
      obtain ⟨nonce', hpong⟩ := hm.decode_pong hdecode
      cases hpong

/-! ### What a process makes of a message -/

/-- What a frame that is handled completes is meant for it, and what it asks has been asked. -/
structure Reading (X : Setting) (S : Mesh) (p i : Nat) (rpc : RpcManager) (handled : Handled) : Prop where
  completed : ∀ c, handled.completed = some c → Correlated X S p { request := c.1, message := i, response := c.2 }
  replies : ∀ source serial, replyTo handled.action = some (source, serial) → Asked X S p i source serial
  pending : ∀ id c, handled.rpc.pendingRequests.get id = some c → rpc.pendingRequests.get id = some c
  serialSeed : handled.rpc.serialSeed = rpc.serialSeed

section Reading

variable {rpc : RpcManager} {handled : Handled}

theorem reading_of_spares (h : handled.Spares rpc) (hreply : replyTo handled.action = none) :
    Reading X S p i rpc handled := by
  obtain ⟨hcompleted, hrpc⟩ := h
  refine ⟨fun c hc => ?_, fun source serial hsome => ?_, fun id c hget => ?_, by rw [hrpc]⟩
  · rw [hcompleted] at hc
    cases hc
  · rw [hreply] at hsome
    cases hsome
  · rwa [hrpc] at hget

theorem reading_of_resolve (hserial : 0 < serial) {msgId : UInt16} {payload : Bytes}
    (h : ∀ c, rpc.pendingRequests.get serial = some c → Correlated X S p
      { request := c, message := i, response := decodeResponse X.messages msgId payload }) :
    Reading X S p i rpc (resolve X.messages rpc serial msgId payload) := by
  have hanswers : (resolve X.messages rpc serial msgId payload).Answers X.messages rpc serial msgId payload :=
    Backend.resolve_answers hserial msgId payload
  refine ⟨fun c hc => ?_, fun source serial' hsome => ?_, fun id c hget => ?_, hanswers.serialSeed⟩
  · rw [hanswers.completed, Option.map_eq_some_iff] at hc
    obtain ⟨c', hget, rfl⟩ := hc
    exact h c' hget
  · rw [Backend.resolve_action hserial] at hsome
    split_ifs at hsome <;> cases hsome
  · by_cases hid : id = serial
    · rw [hid, hanswers.removed] at hget
      cases hget
    · rwa [hanswers.kept id hid] at hget

end Reading

/-- What is on the links and among the requests. -/
structure Traced (X : Setting) (S : Mesh) : Prop where
  written : ∀ place frame purpose, S.frameAt place = some (frame, purpose) → WrittenFor X S place.1 frame purpose
  ids : ∀ p (c : Nat) request, (S.processes p).requests[c]? = some request → request.id = seedOf (c + 1)
  distinct : ∀ place place' w w', S.frameAt place = some w → S.frameAt place' = some w' →
    X.server place.1 = X.server place'.1 → X.owner place.1 = X.owner place'.1

theorem Traced.pos (h : Traced X S) {c : Nat} {request : Request}
    (hrequest : (S.processes p).requests[c]? = some request) : 0 < request.id := by
  rw [h.ids p c request hrequest, Int32.lt_iff_toInt_lt, toInt_seedOf, show (0 : Int32).toInt = 0 from rfl]
  omega

theorem Traced.inj (h : Traced X S) (hfew : (S.processes p).requests.length < 2 ^ 31 - 1) {c c' : Nat}
    {request request' : Request} (hc : (S.processes p).requests[c]? = some request)
    (hc' : (S.processes p).requests[c']? = some request') (hid : request.id = request'.id) : c = c' := by
  have hlt := (List.getElem?_eq_some_iff.1 hc).1
  have hlt' := (List.getElem?_eq_some_iff.1 hc').1
  have hmod := seedOf_inj ((h.ids p c request hc).symm.trans (hid.trans (h.ids p c' request' hc')))
  omega

section Message

variable {rpc : RpcManager} {cause : Option Place}

theorem handleFrame_controlFrame (m : MessageMap) (msg : Message) (sessionId : UInt32) :
    handleFrame m rpc ∅ (controlFrame m msg serial sessionId) =
      handleControlFrame m rpc (controlFrame m msg serial sessionId) := if_pos rfl

theorem handleFrame_positive (m : MessageMap) (msg : Message) (sessionId : UInt32) (h : 0 < serial) :
    handleFrame m rpc ∅ (controlFrame m msg serial sessionId) =
      resolve m rpc serial (m.encode msg).1 (m.encode msg).2 := by
  rw [handleFrame_controlFrame, handleControlFrame]
  exact if_pos h

theorem handleFrame_forward {m : MessageMap} (hm : Faithful m) {r : ForwardToServerReq}
    (hread : Fits (controlFrame m (.forwardToServerReq r) 0 0)) :
    handleFrame m rpc ∅ (controlFrame m (.forwardToServerReq r) 0 0) = routeForwardedFrame m rpc r := by
  have hzero : ¬ (controlFrame m (.forwardToServerReq r) 0 0).serial > 0 := (by decide : ¬ (0 : Int32) > 0)
  rw [handleFrame_controlFrame, handleControlFrame, if_neg hzero, hm.decode_forward hread]

theorem replyTo_processServerMessage {m : MessageMap} {source' : ServerSource} {inner : BackendFrame}
    (h : replyTo (processServerMessage m source inner) = some (source', serial)) :
    source' = source ∧ serial = -inner.serial ∧ inner.serial ≠ 0 := by
  rw [processServerMessage] at h
  split at h
  · split_ifs at h with hnegative hpositive
    · cases h
      exact ⟨rfl, rfl, fun hzero => absurd hnegative (by rw [hzero]; decide)⟩
    · cases h
    · cases h
  · split_ifs at h with hzero
    · cases h
      exact ⟨rfl, rfl, hzero⟩
    · cases h

theorem Mesh.behind_eq_some {k : Nat} {frame : BackendFrame} (h : S.behind cause = some (k, frame)) :
    ∃ place purpose, cause = some place ∧ place.1 = k ∧ S.frameAt place = some (frame, purpose) := by
  obtain ⟨place, hplace, h⟩ := Option.bind_eq_some_iff.1 h
  obtain ⟨⟨frame', purpose⟩, hframe, h⟩ := Option.map_eq_some_iff.1 h
  obtain ⟨rfl, rfl⟩ := Prod.mk.inj h
  exact ⟨place, purpose, hplace, rfl, hframe⟩

theorem reading_of_notice (hm : Faithful X.messages) {msg : Message} {sessionId : UInt32} (hserial : serial ≤ 0)
    (hmsg : msg.msgId ≠ forwardToServerReqId) :
    Reading X S p i rpc (handleFrame X.messages rpc ∅ (controlFrame X.messages msg serial sessionId)) := by
  have hnegative : ¬ (controlFrame X.messages msg serial sessionId).serial > 0 := Int32.not_lt.2 hserial
  rw [handleFrame_controlFrame, handleControlFrame, if_neg hnegative]
  rcases hdecode : X.messages.decode (controlFrame X.messages msg serial sessionId).msgId
    (controlFrame X.messages msg serial sessionId).payload with err | read
  · exact reading_of_spares ⟨rfl, rfl⟩ rfl
  · cases read with
    | forwardToServerReq req => exact absurd (hm.msgId_of_decode hdecode).symm hmsg
    | _ => exact reading_of_spares ⟨rfl, rfl⟩ rfl

/-- An error with which the gateway has refused a frame completes the request of the frame. -/
theorem reading_of_refusal (htraced : Traced X S) (hfew : (S.processes p).requests.length < 2 ^ 31 - 1)
    (hpending : ∀ id (c : Nat), rpc.pendingRequests.get id = some c →
      ∃ request, (S.processes p).requests[c]? = some request ∧ request.id = id)
    {place : Place} {frame : BackendFrame} {c : Nat} {request : Request} {code : UInt32} {text : String}
    (hmessage : S.sent[i]? = some (place.1, .toBackend (.control (.gatewayErrorResp code text) request.id 0)))
    (hcause : S.causes[i]? = some (some place)) (howner : X.owner place.1 = p)
    (hframe : S.frameAt place = some (frame, .request c))
    (hrequest : (S.processes p).requests[c]? = some request) :
    Reading X S p i rpc
      (handleFrame X.messages rpc ∅ (controlFrame X.messages (.gatewayErrorResp code text) request.id 0)) := by
  have hpositive := htraced.pos hrequest
  rw [handleFrame_positive _ _ _ hpositive]
  refine reading_of_resolve hpositive fun c' hget => ?_
  obtain ⟨request', hrequest', hid⟩ := hpending _ _ hget
  obtain rfl := htraced.inj hfew hrequest' hrequest hid
  exact .refused hrequest hmessage howner hcause howner hframe rfl

/-- A frame that the gateway has forwarded is a request, or a push, or completes the request that it answers. -/
theorem reading_of_forward (hm : Faithful X.messages) (htraced : Traced X S)
    (hfew : (S.processes p).requests.length < 2 ^ 31 - 1)
    (hpending : ∀ id (c : Nat), rpc.pendingRequests.get id = some c →
      ∃ request, (S.processes p).requests[c]? = some request ∧ request.id = id)
    {place : Place} {frame : BackendFrame} {purpose : Purpose} {req r : ForwardToServerReq} {k : Tx}
    (hopened : ∃ place w, place.1 = k ∧ S.frameAt place = some w) (howner : X.owner k = p)
    (hmessage : S.sent[i]? = some (k, .toBackend (.control (.forwardToServerReq r) 0 0)))
    (hcause : S.causes[i]? = some (some place)) (hframe : S.frameAt place = some (frame, purpose))
    (hfits : Fits frame) (hdecode : X.messages.decode frame.msgId frame.payload = .ok (.forwardToServerReq req))
    (hpayload : r.payload = req.payload) (hservice : r.sourceServiceId = (X.server place.1).1.toUInt32)
    (hinstance : r.sourceInstanceId = (X.server place.1).2)
    (htargets : Targets ⟨req.targetServiceId, req.targetInstanceId⟩ (X.server k))
    (hread : Fits (controlFrame X.messages (.forwardToServerReq r) 0 0)) :
    Reading X S p i rpc (handleFrame X.messages rpc ∅ (controlFrame X.messages (.forwardToServerReq r) 0 0)) := by
  obtain ⟨inner, hcarries, hextract⟩ := (htraced.written _ _ _ hframe).carries hm hfits hdecode
  rw [handleFrame_forward hm hread, routeForwardedFrame, hpayload, hextract, hservice, hinstance]
  dsimp only
  generalize htarget : (⟨req.targetServiceId, req.targetInstanceId⟩ : ServerSource) = target at htargets hcarries
  cases hcarries with
  | @request c request hrequest hsmall hserial =>
      -- The id comes back with its sign turned twice.
      have hid := htraced.ids _ c request hrequest
      have hnegative : (innerFrame X.messages request.msg (-request.id)).serial < 0 := by
        change -request.id < 0
        rw [hid]
        exact neg_seedOf _
      rw [if_neg (Int32.not_lt.2 (Int32.le_of_lt hnegative))]
      refine ⟨fun _ hnone => absurd hnone.symm (Option.some_ne_none _), fun source serial hreply => ?_, fun _ _ => id, rfl⟩
      obtain ⟨rfl, rfl, -⟩ := replyTo_processServerMessage hreply
      exact .intro hmessage howner hcause hframe hrequest htargets hsmall Int32.neg_neg rfl
  | push target msg hserial =>
      rw [if_neg (show ¬ (innerFrame X.messages msg 0).serial > 0 from (by decide : ¬ (0 : Int32) > 0))]
      refine ⟨fun _ hnone => absurd hnone.symm (Option.some_ne_none _), fun source serial hreply => ?_, fun _ _ => id, rfl⟩
      exact absurd rfl (replyTo_processServerMessage hreply).2.2
  | @reply i₀ source serial hasked resp hreply =>
      obtain ⟨hmessage₀, howner₀, hcause₀, hframe₀, hrequest, htargets₀, hsmall, rfl, rfl⟩ := hasked
      rename_i k₀ r₀ place₀ frame₀ c request
      have hpositive := htraced.pos hrequest
      -- The address names the requester again, as its instance is no negative number.
      have hserver : X.server k = X.server place₀.1 := by
        obtain ⟨hservice', hinstance'⟩ := htargets
        refine Prod.ext (hservice'.trans (UInt8.toUInt8_toUInt32 _)) ?_
        exact (hinstance' ((Gateway.toInt32_nonneg _).2 hsmall)).trans (UInt32.toUInt32_toInt32 _)
      have hplace : X.owner place₀.1 = p := by
        obtain ⟨place', w, rfl, hw⟩ := hopened
        exact (htraced.distinct place' place₀ _ _ hw hframe₀ hserver).symm.trans howner
      rw [hplace] at hrequest
      rw [if_pos (show (innerFrame X.messages resp request.id).serial > 0 from hpositive)]
      refine reading_of_resolve hpositive fun c' hget => ?_
      obtain ⟨request', hrequest', hid⟩ := hpending _ _ hget
      obtain rfl := htraced.inj hfew hrequest' hrequest hid
      rw [hreply] at hframe
      exact .replied hrequest hmessage howner hcause hframe hmessage₀ howner₀ htargets₀ hcause₀ hplace hframe₀ rfl

/-- Whatever a process reads completes only what it was meant for. -/
theorem reading_of_message (hm : Faithful X.messages) (htraced : Traced X S)
    (hfew : (S.processes p).requests.length < 2 ^ 31 - 1)
    (hpending : ∀ id (c : Nat), rpc.pendingRequests.get id = some c →
      ∃ request, (S.processes p).requests[c]? = some request ∧ request.id = id)
    {k : Tx} {data : ToBackend} (hopened : ∃ place w, place.1 = k ∧ S.frameAt place = some w)
    (howner : X.owner k = p) (hmessage : S.sent[i]? = some (k, .toBackend data)) (hcause : S.causes[i]? = some cause)
    (hjustified : Justified X (S.behind cause) k (.toBackend data)) (hread : Fits (data.frame X.messages)) :
    Reading X S p i rpc (handleFrame X.messages rpc ∅ (data.frame X.messages)) := by
  generalize hhandled : S.behind cause = handled at hjustified
  cases hjustified with
  | notice hserial hmsg => exact reading_of_notice hm hserial hmsg
  | forward hsome hfits hdecode hpayload hservice hinstance htargets =>
      subst hsome
      obtain ⟨place, purpose, rfl, rfl, hframe⟩ := Mesh.behind_eq_some hhandled
      exact reading_of_forward hm htraced hfew hpending hopened howner hmessage hcause hframe hfits hdecode hpayload
        hservice hinstance htargets hread
  | @refusal frame req code text hsome hfits hdecode hserial =>
      subst hsome
      obtain ⟨place, purpose, rfl, rfl, hframe⟩ := Mesh.behind_eq_some hhandled
      obtain ⟨inner, hcarries, -⟩ := (htraced.written _ _ _ hframe).carries hm hfits hdecode
      generalize (⟨req.targetServiceId, req.targetInstanceId⟩ : ServerSource) = target at hcarries
      -- Of what has a negative serial and is forwarded, only requests are written.
      cases hcarries with
      | @request c request hrequest hsmall hid =>
          rw [hid, Int32.neg_neg] at hmessage
          rw [hid, Int32.neg_neg]
          rw [howner] at hrequest
          exact reading_of_refusal htraced hfew hpending hmessage hcause howner hframe hrequest
      | reply hasked resp heq =>
          obtain ⟨-, -, -, -, hrequest, -, -, rfl, -⟩ := hasked
          rw [heq] at hserial
          exact absurd hserial (Int32.not_lt.2 (Int32.le_of_lt (htraced.pos hrequest)))
      | push target msg hzero =>
          rw [hzero] at hserial
          exact absurd hserial (by decide)

end Message

end AxmolFighter.Exchange
