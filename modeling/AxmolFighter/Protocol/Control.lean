import AxmolFighter.Protocol.Forwarding

/-!
# Control messages on the wire

What the generated code does with the messages by which a backend registers and hears of the others, and with
the gateway's errors. Together with `ForwardToServerReq` these are all that two backends and the gateway say to
each other in an exchange.
-/

namespace AxmolFighter

/-- A message of the generated code: the fields in the bytes are taken over one after the other. -/
def readFields {α : Type} (set : α → Wire.Field → α) (default : α) (bytes : Bytes) : Except String α :=
  match Wire.getAll bytes.length bytes with
  | some fs => .ok (fs.foldl set default)
  | none => .error "failed to decode Protobuf message"

/-- A text is written as its bytes in UTF-8. -/
def textField (number : Nat) (text : String) : List Wire.Field := bytesField number text.toUTF8.data.toList

def textOf (bytes : Bytes) : String := (String.fromUTF8? ⟨⟨bytes⟩⟩).getD ""

theorem readFields_putAll {α : Type} (set : α → Wire.Field → α) (default : α) {fs : List Wire.Field}
    (h : ∀ f ∈ fs, f.Valid) : readFields set default (Wire.putAll fs) = .ok (fs.foldl set default) := by
  rw [readFields, Wire.getAll_putAll h (Wire.length_le_putAll _)]

theorem ForwardToServerReq.length_le_write (req : ForwardToServerReq) : req.payload.length ≤ req.write.length := by
  have hpayload : req.payload.length ≤ ((bytesField 3 req.payload).flatMap Wire.Field.put).length := by
    rw [bytesField]
    split_ifs with hnil
    · rw [hnil]
      exact Nat.zero_le _
    · simp only [List.flatMap_singleton, Wire.Field.put, Wire.Value.content, List.length_cons, List.length_append]
      omega
  simp only [write, Wire.putAll, fields, List.flatMap_append, List.length_append]
  omega

namespace ServerRegReq

def fields (req : ServerRegReq) : List Wire.Field :=
  numberField 1 req.serviceId.toNat ++ (numberField 2 req.instanceId.toNat ++ (numberField 3 req.loadScore.toNat ++
    (numberField 4 req.acceptingBindings.toNat ++ textField 5 req.loadMessage)))

def set (req : ServerRegReq) (f : Wire.Field) : ServerRegReq :=
  match f with
  | ⟨1, .number n⟩ => { req with serviceId := UInt32.ofNat n }
  | ⟨2, .number n⟩ => { req with instanceId := UInt32.ofNat n }
  | ⟨3, .number n⟩ => { req with loadScore := UInt32.ofNat n }
  | ⟨4, .number n⟩ => { req with acceptingBindings := n ≠ 0 }
  | ⟨5, .bytes b⟩ => { req with loadMessage := textOf b }
  | _ => req

def read : Bytes → Except String ServerRegReq := readFields set ⟨0, 0, 0, false, ""⟩

theorem foldl_fields {req : ServerRegReq} (htext : req.loadMessage = "") :
    req.fields.foldl set ⟨0, 0, 0, false, ""⟩ = req := by
  obtain ⟨svc, inst, load, accepting, loadMessage⟩ := req
  obtain rfl : loadMessage = "" := htext
  have hu : ∀ n : UInt32, n.toNat = 0 → n = 0 := fun n hzero => UInt32.toNat_inj.1 hzero
  simp only [fields, List.foldl_append]
  rw [foldl_numberField 1 ⟨svc, 0, 0, false, ""⟩ (fun h => by rw [hu svc h]) (by simp [set]),
    foldl_numberField 2 ⟨svc, inst, 0, false, ""⟩ (fun h => by rw [hu inst h]) (by simp [set]),
    foldl_numberField 3 ⟨svc, inst, load, false, ""⟩ (fun h => by rw [hu load h]) (by simp [set])]
  cases accepting <;> rfl

theorem valid_fields {req : ServerRegReq} (htext : req.loadMessage = "") : ∀ f ∈ req.fields, f.Valid := by
  have hu : ∀ n : UInt32, n.toNat < 128 ^ 10 := fun n => n.toNat_lt.trans (by omega)
  have haccepting : req.acceptingBindings.toNat < 128 ^ 10 := by
    cases req.acceptingBindings <;> decide
  have hempty : ∀ f ∈ textField 5 req.loadMessage, f.Valid := by
    rw [htext]
    exact nofun
  simp only [fields, List.forall_mem_append]
  exact ⟨valid_numberField (by omega) (hu _), valid_numberField (by omega) (hu _),
    valid_numberField (by omega) (hu _), valid_numberField (by omega) haccepting, hempty⟩

theorem read_putAll {req : ServerRegReq} (htext : req.loadMessage = "") :
    read (Wire.putAll req.fields) = .ok req := by
  rw [read, readFields_putAll set _ (valid_fields htext), foldl_fields htext]

end ServerRegReq

/-! ### The gateway's answers -/

def endpointFields (endpoint : ServiceEndpoint) : List Wire.Field :=
  numberField 1 endpoint.serviceId.toNat ++ numberField 2 endpoint.instanceId.toNat

def setEndpoint (endpoint : ServiceEndpoint) (f : Wire.Field) : ServiceEndpoint :=
  match f with
  | ⟨1, .number n⟩ => { endpoint with serviceId := UInt32.ofNat n }
  | ⟨2, .number n⟩ => { endpoint with instanceId := UInt32.ofNat n }
  | _ => endpoint

def readEndpoint : Bytes → Except String ServiceEndpoint := readFields setEndpoint ⟨0, 0⟩

def serverRegRespFields (code : UInt32) (servers : List ServiceEndpoint) : List Wire.Field :=
  numberField 1 code.toNat ++ servers.map fun server => ⟨2, .bytes (Wire.putAll (endpointFields server))⟩

def setServerRegResp (resp : UInt32 × List ServiceEndpoint) (f : Wire.Field) : UInt32 × List ServiceEndpoint :=
  match f with
  | ⟨1, .number n⟩ => (UInt32.ofNat n, resp.2)
  | ⟨2, .bytes b⟩ => (resp.1, resp.2 ++ (readEndpoint b).toOption.toList)
  | _ => resp

def gatewayErrorFields (code : UInt32) (message : String) : List Wire.Field :=
  numberField 1 code.toNat ++ textField 2 message

def setGatewayError (resp : UInt32 × String) (f : Wire.Field) : UInt32 × String :=
  match f with
  | ⟨1, .number n⟩ => (UInt32.ofNat n, resp.2)
  | ⟨2, .bytes b⟩ => (resp.1, textOf b)
  | _ => resp

/-- The generated code for these messages, and for those that are not listed. -/
def wireMap : MessageMap where
  encode
    | .gatewayErrorResp code message => (3, Wire.putAll (gatewayErrorFields code message))
    | .serverRegReq req => (100, Wire.putAll req.fields)
    | .serverRegResp code servers => (101, Wire.putAll (serverRegRespFields code servers))
    | .serverOnlinePush serviceId instanceId => (110, Wire.putAll (endpointFields ⟨serviceId, instanceId⟩))
    | .serverOfflinePush serviceId instanceId => (111, Wire.putAll (endpointFields ⟨serviceId, instanceId⟩))
    | .forwardToServerReq req => (forwardToServerReqId, req.write)
    | .other msgId payload => (msgId, payload)
    | message => (message.msgId, [])
  decode := fun msgId payload =>
    if msgId = 3 then (readFields setGatewayError (0, "") payload).map fun resp => .gatewayErrorResp resp.1 resp.2
    else if msgId = 100 then (ServerRegReq.read payload).map .serverRegReq
    else if msgId = 101 then
      (readFields setServerRegResp (0, []) payload).map fun resp => .serverRegResp resp.1 resp.2
    else if msgId = 110 then (readEndpoint payload).map fun s => .serverOnlinePush s.serviceId s.instanceId
    else if msgId = 111 then (readEndpoint payload).map fun s => .serverOfflinePush s.serviceId s.instanceId
    else if msgId = forwardToServerReqId then (ForwardToServerReq.read payload).map .forwardToServerReq
    else if msgId ∉ [1, 2] ∧ (msgId < 100 ∨ 115 < msgId) then .ok (.other msgId payload)
    else .error "message not modelled"

theorem wireMap_msgId (msg : Message) : (wireMap.encode msg).1 = msg.msgId := by
  cases msg <;> rfl

theorem map_eq_ok {α β : Type} {f : α → β} {x : Except String α} {b : β} (h : x.map f = .ok b) :
    ∃ a, x = .ok a ∧ f a = b := by
  cases x with
  | error e => cases h
  | ok a => exact ⟨a, rfl, Except.ok.inj h⟩

theorem wireMap_typed : wireMap.Typed where
  msgId msgId payload msg h := by
    simp only [wireMap] at h
    split_ifs at h with h3 h100 h101 h110 h111 h112 hother
    · obtain ⟨_, -, rfl⟩ := map_eq_ok h
      exact h3.symm
    · obtain ⟨_, -, rfl⟩ := map_eq_ok h
      exact h100.symm
    · obtain ⟨_, -, rfl⟩ := map_eq_ok h
      exact h101.symm
    · obtain ⟨_, -, rfl⟩ := map_eq_ok h
      exact h110.symm
    · obtain ⟨_, -, rfl⟩ := map_eq_ok h
      exact h111.symm
    · obtain ⟨_, -, rfl⟩ := map_eq_ok h
      exact h112.symm
    · obtain rfl := Except.ok.inj h
      rfl
  other msgId payload msgId' payload' h := by
    simp only [wireMap] at h
    split_ifs at h with h3 h100 h101 h110 h111 h112 hother
    · obtain ⟨_, -, h⟩ := map_eq_ok h
      cases h
    · obtain ⟨_, -, h⟩ := map_eq_ok h
      cases h
    · obtain ⟨_, -, h⟩ := map_eq_ok h
      cases h
    · obtain ⟨_, -, h⟩ := map_eq_ok h
      cases h
    · obtain ⟨_, -, h⟩ := map_eq_ok h
      cases h
    · obtain ⟨_, -, h⟩ := map_eq_ok h
      cases h
    · refine ⟨fun hmem => ?_, hother.2⟩
      simp only [List.mem_cons, List.not_mem_nil, or_false] at hmem hother
      tauto

end AxmolFighter
