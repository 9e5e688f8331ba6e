import AxmolFighter.Lib.Wire
import AxmolFighter.Protocol.Message

/-!
# The parsers of the battle server

`protocol/gateway_internal.pb.cc` is generated. The `_InternalParse` of a message goes through the fields of
the payload: one with the number and the kind of a field of the message is stored, and any other is kept as
unknown (`handle_unusual`). So a field of a wrong kind is no error and leaves the default, where the Rust
side refuses the payload.

What libprotobuf finds in a payload is a parameter: its numbers and strings of bytes in their order, without
the fields of other kinds, which none of these messages has, or nothing when a field is malformed.
-/

namespace AxmolFighter.Battle.GatewayInternal

open Wire

/-! ### Fields -/

/-- A field that is a number, when all fields are read. -/
def readNumber (number : Nat) (fields : List Field) : Nat :=
  fields.foldl (fun stored field => match field.value with
    | .number n => if field.number = number then n else stored
    | .bytes _ => stored) 0

/-- A field that is a string of bytes, when all fields are read. -/
def readBytes (number : Nat) (fields : List Field) : Bytes :=
  fields.foldl (fun stored field => match field.value with
    | .number _ => stored
    | .bytes b => if field.number = number then b else stored) []

/-- `ReadVarint32` keeps the low bits. -/
def readVarint32 (number : Nat) (fields : List Field) : UInt32 := UInt32.ofNat (readNumber number fields)

def readVarint64 (number : Nat) (fields : List Field) : UInt64 := UInt64.ofNat (readNumber number fields)

/-! ### Messages -/

def parseSessionOnlinePush (fields : List Field) : Message := .sessionOnlinePush (readVarint32 1 fields)

def parseSessionOfflinePush (fields : List Field) : Message := .sessionOfflinePush (readVarint32 1 fields)

def parseServerOnlinePush (fields : List Field) : Message :=
  .serverOnlinePush (readVarint32 1 fields) (readVarint32 2 fields)

def parseServerOfflinePush (fields : List Field) : Message :=
  .serverOfflinePush (readVarint32 1 fields) (readVarint32 2 fields)

def parseForwardToServerReq (fields : List Field) : Message :=
  .forwardToServerReq {
    targetServiceId := readVarint32 1 fields
    targetInstanceId := (readVarint32 2 fields).toInt32
    payload := readBytes 3 fields
    sourceServiceId := readVarint32 4 fields
    sourceInstanceId := readVarint32 5 fields }

def parseServerPingReq (fields : List Field) : Message := .serverPingReq (readVarint64 1 fields)

/-- The parser of the message with an id, of those that `handleControlFrame` reads. -/
def internalParse (msgId : UInt16) (fields : List Field) : Option Message :=
  if msgId = sessionOnlinePushId then some (parseSessionOnlinePush fields)
  else if msgId = sessionOfflinePushId then some (parseSessionOfflinePush fields)
  else if msgId = forwardToServerReqId then some (parseForwardToServerReq fields)
  else if msgId = serverPingReqId then some (parseServerPingReq fields)
  else if msgId = serverOnlinePushId then some (parseServerOnlinePush fields)
  else if msgId = serverOfflinePushId then some (parseServerOfflinePush fields)
  else none

variable (readFields : Bytes → Option (List Field)) (m : MessageMap)

/-- The battle server's side of `message_map`: the same ids, read by the generated parsers. -/
def messageMap : MessageMap where
  encode := m.encode
  decode msgId payload :=
    match (readFields payload).bind (internalParse msgId) with
    | some msg => .ok msg
    | none => .error "ParseFromArray"

theorem msgId_internalParse {msgId : UInt16} {fields : List Field} {msg : Message}
    (h : internalParse msgId fields = some msg) : msg.msgId = msgId ∧ ∀ id payload, msg ≠ .other id payload := by
  unfold internalParse at h
  split_ifs at h with honline hoffline hforward hping hserverOnline hserverOffline
  all_goals
    obtain rfl := Option.some.inj h
    subst msgId
    exact ⟨rfl, fun _ _ heq => by cases heq⟩

theorem typed_messageMap : (messageMap readFields m).Typed := by
  have hparsed : ∀ {msgId payload msg}, (messageMap readFields m).decode msgId payload = .ok msg →
      msg.msgId = msgId ∧ ∀ id payload, msg ≠ .other id payload := by
    intro msgId payload msg h
    simp only [messageMap] at h
    split at h
    · next msg' hmsg =>
      cases h
      obtain ⟨fields, -, hparse⟩ := Option.bind_eq_some_iff.1 hmsg
      exact msgId_internalParse hparse
    · cases h
  exact ⟨fun _ _ _ h => (hparsed h).1, fun _ _ _ _ h => absurd rfl ((hparsed h).2 _ _)⟩

end AxmolFighter.Battle.GatewayInternal
