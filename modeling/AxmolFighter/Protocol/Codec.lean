import AxmolFighter.Lib.Bytes
import AxmolFighter.Lib.Framing

/-!
# Frames

The two length-prefixed formats: the client's (11-byte header) of `gateway/src/codec.rs` and the
backends' (15-byte header, with the session) of `backend-framework/src/codec.rs`. Both share one
maximum for the whole packet. Extraction works on the accumulated buffer of a connection: an error, not
enough bytes yet, or a frame and the bytes behind it.
-/

namespace AxmolFighter

/-- Length, command, message id and serial. -/
def clientHeaderSize : Nat := 11

/-- The client header and the session id. -/
def backendHeaderSize : Nat := 15

def maxPacketSize : Nat := 1024 * 1024

structure ClientFrame where
  cmd : UInt8
  msgId : UInt16
  serial : Int32
  payload : Bytes
deriving DecidableEq

structure BackendFrame where
  cmd : UInt8
  msgId : UInt16
  serial : Int32
  sessionId : UInt32
  payload : Bytes
deriving DecidableEq

/-! ### What follows the length -/

def ClientFrame.body (frame : ClientFrame) : Bytes :=
  Bytes.putU8 frame.cmd ++ (Bytes.putU16 frame.msgId ++ (Bytes.putI32 frame.serial ++ frame.payload))

def ClientFrame.ofBody (body : Bytes) : ClientFrame :=
  let (cmd, body) := Bytes.getU8 body
  let (msgId, body) := Bytes.getU16 body
  let (serial, payload) := Bytes.getI32 body
  { cmd, msgId, serial, payload }

def BackendFrame.body (frame : BackendFrame) : Bytes :=
  Bytes.putU8 frame.cmd ++ (Bytes.putU16 frame.msgId ++ (Bytes.putI32 frame.serial ++
    (Bytes.putU32 frame.sessionId ++ frame.payload)))

def BackendFrame.ofBody (body : Bytes) : BackendFrame :=
  let (cmd, body) := Bytes.getU8 body
  let (msgId, body) := Bytes.getU16 body
  let (serial, body) := Bytes.getI32 body
  let (sessionId, payload) := Bytes.getU32 body
  { cmd, msgId, serial, sessionId, payload }

@[simp] theorem ClientFrame.ofBody_body (frame : ClientFrame) : ofBody frame.body = frame := by
  simp [ofBody, body]

@[simp] theorem BackendFrame.ofBody_body (frame : BackendFrame) : ofBody frame.body = frame := by
  simp [ofBody, body]

theorem ClientFrame.length_body (frame : ClientFrame) :
    4 + frame.body.length = clientHeaderSize + frame.payload.length := by
  simp only [body, List.length_append, Bytes.length_putU8, Bytes.length_putU16, Bytes.length_putI32,
    clientHeaderSize]
  omega

theorem BackendFrame.length_body (frame : BackendFrame) :
    4 + frame.body.length = backendHeaderSize + frame.payload.length := by
  simp only [body, List.length_append, Bytes.length_putU8, Bytes.length_putU16, Bytes.length_putI32,
    Bytes.length_putU32, backendHeaderSize]
  omega

theorem ClientFrame.length_payload_ofBody (body : Bytes) :
    (ofBody body).payload.length = body.length - 7 := by
  simp only [ofBody, Bytes.getU8, Bytes.getU16, Bytes.getI32, Bytes.getU32, Bytes.get,
    List.length_drop]
  omega

theorem BackendFrame.length_payload_ofBody (body : Bytes) :
    (ofBody body).payload.length = body.length - 11 := by
  simp only [ofBody, Bytes.getU8, Bytes.getU16, Bytes.getI32, Bytes.getU32, Bytes.get,
    List.length_drop]
  omega

/-! ### Extraction and encoding -/

/-- The extractor of a format: its header size, the texts of its two errors, and its fields. -/
def tryExtract {F : Type} (headerSize : Nat) (invalid large : Nat → String) (ofBody : Bytes → F)
    (buf : Bytes) : Except String (Option (F × Bytes)) :=
  if buf.length < headerSize then .ok none
  else
    let len := (Bytes.getU32 buf).1.toNat
    if len < headerSize then .error (invalid len)
    else if len > maxPacketSize then .error (large len)
    else if buf.length < len then .ok none
    else .ok (some (ofBody ((buf.take len).drop 4), buf.drop len))

def tryExtractClientFrame : Bytes → Except String (Option (ClientFrame × Bytes)) :=
  tryExtract clientHeaderSize
    (fun len => s!"invalid client frame: len {len} < header size {clientHeaderSize}")
    (fun len => s!"client frame too large: {len} bytes") ClientFrame.ofBody

def encodeClientFrame (frame : ClientFrame) : Bytes :=
  Bytes.putU32 (UInt32.ofNat (clientHeaderSize + frame.payload.length)) ++ frame.body

def tryExtractFrame : Bytes → Except String (Option (BackendFrame × Bytes)) :=
  tryExtract backendHeaderSize (fun len => s!"invalid frame: len {len} < header size")
    (fun len => s!"frame too large: {len} bytes") BackendFrame.ofBody

def encodeFrame (frame : BackendFrame) : Bytes :=
  Bytes.putU32 (UInt32.ofNat (backendHeaderSize + frame.payload.length)) ++ frame.body

section Extract

variable {F : Type} {headerSize : Nat} {invalid large : Nat → String} {ofBody : Bytes → F}

theorem tryExtract_frame {len : Nat} {body : Bytes} (hbody : 4 + body.length = len)
    (hheader : headerSize ≤ len) (hlen : len < 2 ^ 32) (rest : Bytes) :
    tryExtract headerSize invalid large ofBody (Bytes.putU32 (UInt32.ofNat len) ++ body ++ rest) =
      if len > maxPacketSize then .error (large len) else .ok (some (ofBody body, rest)) := by
  have hpart : (Bytes.putU32 (UInt32.ofNat len) ++ body).length = len := by
    rw [List.length_append, Bytes.length_putU32, hbody]
  have hlength : (Bytes.putU32 (UInt32.ofNat len) ++ body ++ rest).length = len + rest.length := by
    rw [List.length_append, hpart]
  have hvalue : (Bytes.getU32 (Bytes.putU32 (UInt32.ofNat len) ++ body ++ rest)).1.toNat = len := by
    rw [List.append_assoc, Bytes.getU32_put]
    exact UInt32.toNat_ofNat_of_lt' hlen
  simp only [tryExtract, hlength, hvalue]
  rw [if_neg (by omega), if_neg (by omega)]
  by_cases hlarge : len > maxPacketSize
  · rw [if_pos hlarge, if_pos hlarge]
  · rw [if_neg hlarge, if_neg hlarge, if_neg (by omega), List.take_left' hpart,
      List.drop_left' hpart, List.drop_left' (Bytes.length_putU32 _)]

theorem tryExtract_some {buf rest : Bytes} {frame : F}
    (h : tryExtract headerSize invalid large ofBody buf = .ok (some (frame, rest))) :
    ∃ body, frame = ofBody body ∧ body.length ≤ maxPacketSize - 4 ∧ headerSize - 4 ≤ body.length := by
  simp only [tryExtract] at h
  split_ifs at h with hshort hinvalid hlarge hmissing
  · cases h
  · cases h
  · obtain ⟨hframe, -⟩ := Prod.mk.inj (Option.some.inj (Except.ok.inj h))
    refine ⟨_, hframe.symm, ?_, ?_⟩
    · rw [List.length_drop, List.length_take]
      omega
    · rw [List.length_drop, List.length_take]
      omega

theorem getU32_append {buf : Bytes} (hlen : 4 ≤ buf.length) (more : Bytes) :
    (Bytes.getU32 (buf ++ more)).1 = (Bytes.getU32 buf).1 := by
  simp only [Bytes.getU32, Bytes.get]
  rw [List.take_append_of_le_length hlen]

theorem tryExtract_shorter {buf rest : Bytes} {frame : F}
    (h : tryExtract headerSize invalid large ofBody buf = .ok (some (frame, rest))) :
    rest.length + headerSize ≤ buf.length := by
  simp only [tryExtract] at h
  split_ifs at h with hshort hinvalid hlarge hmissing
  · cases h
  · cases h
  · obtain ⟨-, hrest⟩ := Prod.mk.inj (Option.some.inj (Except.ok.inj h))
    rw [← hrest, List.length_drop]
    omega

theorem tryExtract_append_some (hheader : 4 ≤ headerSize) {buf rest : Bytes} {frame : F} (more : Bytes)
    (h : tryExtract headerSize invalid large ofBody buf = .ok (some (frame, rest))) :
    tryExtract headerSize invalid large ofBody (buf ++ more) = .ok (some (frame, rest ++ more)) := by
  simp only [tryExtract] at h ⊢
  split_ifs at h with hshort hinvalid hlarge hmissing
  · cases h
  · cases h
  · rw [getU32_append (by omega), List.length_append, if_neg (by omega), if_neg hinvalid, if_neg hlarge,
      if_neg (by omega), List.take_append_of_le_length (by omega), List.drop_append_of_le_length (by omega)]
    obtain ⟨hframe, hrest⟩ := Prod.mk.inj (Option.some.inj (Except.ok.inj h))
    rw [hframe, hrest]

theorem tryExtract_append_error (hheader : 4 ≤ headerSize) {buf : Bytes} {e : String} (more : Bytes)
    (h : tryExtract headerSize invalid large ofBody buf = .error e) :
    tryExtract headerSize invalid large ofBody (buf ++ more) = .error e := by
  simp only [tryExtract] at h ⊢
  split_ifs at h with hshort hinvalid hlarge hmissing
  · rw [getU32_append (by omega), List.length_append, if_neg (by omega), if_pos hinvalid]
    exact h
  · rw [getU32_append (by omega), List.length_append, if_neg (by omega), if_neg hinvalid, if_pos hlarge]
    exact h

theorem tryExtract_partial {len : Nat} {body p : Bytes}
    (hheader : 4 ≤ headerSize) (hlen : headerSize ≤ len) (hmax : len ≤ maxPacketSize)
    (hpart : p <+: Bytes.putU32 (UInt32.ofNat len) ++ body) (hproper : p.length < len) :
    tryExtract headerSize invalid large ofBody p = .ok none := by
  obtain ⟨more, hmore⟩ := hpart
  rw [tryExtract]
  by_cases hshort : p.length < headerSize
  · rw [if_pos hshort]
  · have hvalue : (Bytes.getU32 p).1.toNat = len := by
      rw [← getU32_append (by omega) more, hmore, Bytes.getU32_put]
      exact UInt32.toNat_ofNat_of_lt' (hmax.trans_lt (by decide))
    rw [if_neg hshort]
    dsimp only
    rw [hvalue, if_neg (by omega), if_neg (by omega), if_pos hproper]

end Extract

/-- The extractor of the backends' connections. -/
def backendFraming : Framing UInt8 BackendFrame String where
  extract := tryExtractFrame
  shorter := fun h => by
    have := tryExtract_shorter h
    simp only [backendHeaderSize] at this
    omega
  append_some := tryExtract_append_some (by decide)
  append_error := tryExtract_append_error (by decide)

theorem maxPacketSize_lt : maxPacketSize < 2 ^ 32 := by decide

theorem tryExtractClientFrame_encode (frame : ClientFrame)
    (hsize : clientHeaderSize + frame.payload.length ≤ maxPacketSize) (rest : Bytes) :
    tryExtractClientFrame (encodeClientFrame frame ++ rest) = .ok (some (frame, rest)) := by
  rw [tryExtractClientFrame, encodeClientFrame, tryExtract_frame frame.length_body
    (Nat.le_add_right ..) (hsize.trans_lt maxPacketSize_lt), if_neg (Nat.not_lt.2 hsize),
    ClientFrame.ofBody_body]

/-- A frame that fits is extracted as it was encoded; a longer one, if its length can be written at
all, is an error. -/
theorem tryExtractFrame_encode (frame : BackendFrame)
    (hlen : backendHeaderSize + frame.payload.length < 2 ^ 32) (rest : Bytes) :
    tryExtractFrame (encodeFrame frame ++ rest) =
      if backendHeaderSize + frame.payload.length > maxPacketSize then
        .error s!"frame too large: {backendHeaderSize + frame.payload.length} bytes"
      else .ok (some (frame, rest)) := by
  rw [tryExtractFrame, encodeFrame, tryExtract_frame frame.length_body (Nat.le_add_right ..) hlen,
    BackendFrame.ofBody_body]

theorem tryExtractClientFrame_payload {buf rest : Bytes} {frame : ClientFrame}
    (h : tryExtractClientFrame buf = .ok (some (frame, rest))) :
    clientHeaderSize + frame.payload.length ≤ maxPacketSize := by
  obtain ⟨body, rfl, hmax, hmin⟩ := tryExtract_some h
  rw [ClientFrame.length_payload_ofBody]
  simp only [clientHeaderSize, maxPacketSize] at *
  omega

theorem tryExtractFrame_payload {buf rest : Bytes} {frame : BackendFrame}
    (h : tryExtractFrame buf = .ok (some (frame, rest))) :
    backendHeaderSize + frame.payload.length ≤ maxPacketSize := by
  obtain ⟨body, rfl, hmax, hmin⟩ := tryExtract_some h
  rw [BackendFrame.length_payload_ofBody]
  simp only [backendHeaderSize, maxPacketSize] at *
  omega

end AxmolFighter
