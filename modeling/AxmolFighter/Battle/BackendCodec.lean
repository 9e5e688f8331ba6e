import AxmolFighter.Protocol.Codec

/-!
# The battle server's codec

`framework/BackendCodec.cpp` reads and writes the backends' frames on its own, with shifts on characters
at fixed offsets. It is the format of `backend-framework/src/codec.rs`. Strings are lists of signed
characters, as the compiler has them; a view of the payload is taken as its bytes.
-/

namespace AxmolFighter.Battle

/-- `std::string`. -/
abbrev Chars := List Int8

/-- The characters of a byte string. -/
def chars (bytes : Bytes) : Chars := bytes.map UInt8.toInt8

def kBackendFrameHeaderSize : Nat := 15

def kBackendFrameBodyHeaderSize : Nat := 11

def kMaxBackendPacketSize : Nat := 1024 * 1024

/-- `static_cast<unsigned char>(data[i])`. -/
def unsignedChar (data : Chars) (i : Nat) : UInt8 := (data.getD i 0).toUInt8

def readU16BE (data : Chars) : UInt16 :=
  ((unsignedChar data 0).toUInt16 <<< 8) ||| (unsignedChar data 1).toUInt16

def readU32BE (data : Chars) : UInt32 :=
  ((unsignedChar data 0).toUInt32 <<< 24) ||| ((unsignedChar data 1).toUInt32 <<< 16) |||
    ((unsignedChar data 2).toUInt32 <<< 8) ||| (unsignedChar data 3).toUInt32

def readI32BE (data : Chars) : Int32 := (readU32BE data).toInt32

def writeU16BE (data : Chars) (offset : Nat) (value : UInt16) : Chars :=
  (data.set offset ((value >>> 8) &&& 0xFF).toUInt8.toInt8).set (offset + 1) (value &&& 0xFF).toUInt8.toInt8

def writeU32BE (data : Chars) (offset : Nat) (value : UInt32) : Chars :=
  (((data.set offset ((value >>> 24) &&& 0xFF).toUInt8.toInt8).set (offset + 1)
    ((value >>> 16) &&& 0xFF).toUInt8.toInt8).set (offset + 2) ((value >>> 8) &&& 0xFF).toUInt8.toInt8).set
    (offset + 3) (value &&& 0xFF).toUInt8.toInt8

def writeI32BE (data : Chars) (offset : Nat) (value : Int32) : Chars :=
  writeU32BE data offset value.toUInt32

/-- `std::memcpy` to an offset. -/
def memcpy (data : Chars) (offset : Nat) (source : Chars) : Chars :=
  data.take offset ++ source ++ data.drop (offset + source.length)

def encodeBackendFrame (cmd : UInt8) (msgId : UInt16) (serial : Int32) (sessionId : UInt32)
    (payload : Chars) : Chars :=
  let frameLen := UInt32.ofNat (kBackendFrameHeaderSize + payload.length)
  let frame := List.replicate frameLen.toNat 0
  let frame := writeU32BE frame 0 frameLen
  let frame := frame.set 4 cmd.toInt8
  let frame := writeU16BE frame 5 msgId
  let frame := writeI32BE frame 7 serial
  let frame := writeU32BE frame 11 sessionId
  if payload.length > 0 then memcpy frame kBackendFrameHeaderSize payload else frame

def decodeBackendFrameBody (data : Chars) : Except String BackendFrame :=
  if data.length < kBackendFrameBodyHeaderSize then .error "backend frame body too short"
  else .ok {
    cmd := (data.getD 0 0).toUInt8
    msgId := readU16BE (data.drop 1)
    serial := readI32BE (data.drop 3)
    sessionId := readU32BE (data.drop 7)
    payload := (data.drop kBackendFrameBodyHeaderSize).map Int8.toUInt8 }

def decodeBackendFrame (data : Chars) : Except String BackendFrame :=
  if data.length < kBackendFrameHeaderSize then .error "backend frame too short"
  else
    let frameLen := (readU32BE data).toNat
    if frameLen < kBackendFrameHeaderSize then .error "invalid backend frame length"
    else if frameLen > kMaxBackendPacketSize then .error "backend frame too large"
    else if frameLen > data.length then .error "incomplete backend frame"
    else decodeBackendFrameBody ((data.drop 4).take (frameLen - 4))

/-! ### Shifts and digits -/

/-- The byte at a shift is a digit of the number. -/
theorem digit32 (value shift : UInt32) (k : Nat) (hshift : shift.toNat = 8 * k) (hk : k < 4) :
    ((value >>> shift) &&& 0xFF).toUInt8 = UInt8.ofNat (value.toNat / 256 ^ k) := by
  have hpow : 2 ^ (8 * k) = 256 ^ k := by rw [pow_mul, show 2 ^ 8 = 256 from rfl]
  rw [← UInt8.toNat_inj, UInt32.toNat_toUInt8, UInt32.toNat_and, UInt32.toNat_shiftRight, hshift,
    Nat.mod_eq_of_lt (by omega : 8 * k < 32), Nat.shiftRight_eq_div_pow, hpow, UInt8.toNat_ofNat']
  rw [show (0xFF : UInt32).toNat = 2 ^ 8 - 1 from rfl, Nat.and_two_pow_sub_one_eq_mod, Nat.mod_mod]

theorem digit16 (value shift : UInt16) (k : Nat) (hshift : shift.toNat = 8 * k) (hk : k < 2) :
    ((value >>> shift) &&& 0xFF).toUInt8 = UInt8.ofNat (value.toNat / 256 ^ k) := by
  have hpow : 2 ^ (8 * k) = 256 ^ k := by rw [pow_mul, show 2 ^ 8 = 256 from rfl]
  rw [← UInt8.toNat_inj, UInt16.toNat_toUInt8, UInt16.toNat_and, UInt16.toNat_shiftRight, hshift,
    Nat.mod_eq_of_lt (by omega : 8 * k < 16), Nat.shiftRight_eq_div_pow, hpow, UInt8.toNat_ofNat']
  rw [show (0xFF : UInt16).toNat = 2 ^ 8 - 1 from rfl, Nat.and_two_pow_sub_one_eq_mod, Nat.mod_mod]

theorem shift_or (hi lo k : Nat) (h : lo < 2 ^ k) : hi <<< k ||| lo = hi * 2 ^ k + lo := by
  rw [← Nat.shiftLeft_add_eq_or_of_lt h, Nat.shiftLeft_eq]

theorem toNat_readU16BE (data : Chars) :
    (readU16BE data).toNat = (unsignedChar data 0).toNat * 256 + (unsignedChar data 1).toNat := by
  have h0 := (unsignedChar data 0).toNat_lt
  have h1 := (unsignedChar data 1).toNat_lt
  rw [readU16BE, UInt16.toNat_or, UInt16.toNat_shiftLeft, UInt8.toNat_toUInt16, UInt8.toNat_toUInt16,
    show (8 : UInt16).toNat % 16 = 8 from rfl, Nat.mod_eq_of_lt (by rw [Nat.shiftLeft_eq]; omega),
    shift_or _ _ _ (by omega)]
  omega

theorem toNat_readU32BE (data : Chars) :
    (readU32BE data).toNat = (unsignedChar data 0).toNat * 256 ^ 3 + (unsignedChar data 1).toNat * 256 ^ 2 +
      (unsignedChar data 2).toNat * 256 + (unsignedChar data 3).toNat := by
  have h0 := (unsignedChar data 0).toNat_lt
  have h1 := (unsignedChar data 1).toNat_lt
  have h2 := (unsignedChar data 2).toNat_lt
  have h3 := (unsignedChar data 3).toNat_lt
  have hshift (v : UInt8) (shift : UInt32) (k : Nat) (hk : shift.toNat % 32 = k) (hle : k ≤ 24) :
      (v.toUInt32 <<< shift).toNat = v.toNat <<< k := by
    have hlt := v.toNat_lt
    have hpow : 2 ^ k ≤ 2 ^ 24 := Nat.pow_le_pow_right (by omega) hle
    rw [UInt32.toNat_shiftLeft, UInt8.toNat_toUInt32, hk, Nat.mod_eq_of_lt]
    rw [Nat.shiftLeft_eq]
    calc v.toNat * 2 ^ k ≤ 255 * 2 ^ 24 := Nat.mul_le_mul (by omega) hpow
      _ < 2 ^ 32 := by decide
  rw [readU32BE, UInt32.toNat_or, UInt32.toNat_or, UInt32.toNat_or, hshift _ 24 24 rfl (by omega),
    hshift _ 16 16 rfl (by omega), hshift _ 8 8 rfl (by omega), UInt8.toNat_toUInt32]
  -- The parts are put together from the left.
  have hfirst : (unsignedChar data 0).toNat <<< 24 ||| (unsignedChar data 1).toNat <<< 16 =
      ((unsignedChar data 0).toNat * 256 + (unsignedChar data 1).toNat) <<< 16 := by
    rw [shift_or _ _ _ (by rw [Nat.shiftLeft_eq]; omega), Nat.shiftLeft_eq, Nat.shiftLeft_eq]
    omega
  have hsecond : ((unsignedChar data 0).toNat * 256 + (unsignedChar data 1).toNat) <<< 16 |||
      (unsignedChar data 2).toNat <<< 8 = (((unsignedChar data 0).toNat * 256 +
        (unsignedChar data 1).toNat) * 256 + (unsignedChar data 2).toNat) <<< 8 := by
    rw [shift_or _ _ _ (by rw [Nat.shiftLeft_eq]; omega), Nat.shiftLeft_eq, Nat.shiftLeft_eq]
    omega
  rw [hfirst, hsecond, shift_or _ _ _ (by omega)]
  omega

/-! ### Reading -/

@[simp] theorem length_chars (b : Bytes) : (chars b).length = b.length := List.length_map ..

theorem chars_drop (b : Bytes) (n : Nat) : (chars b).drop n = chars (b.drop n) := (List.map_drop ..).symm

theorem chars_take (b : Bytes) (n : Nat) : (chars b).take n = chars (b.take n) := (List.map_take ..).symm

theorem map_chars (b : Bytes) : (chars b).map Int8.toUInt8 = b := by
  rw [chars, List.map_map]
  exact List.map_id' b

theorem unsignedChar_chars (b : Bytes) (i : Nat) : unsignedChar (chars b) i = b.getD i 0 := by
  rw [unsignedChar, chars, List.getD_eq_getElem?_getD, List.getElem?_map, List.getD_eq_getElem?_getD]
  cases b[i]? <;> rfl

theorem readU16BE_chars {b : Bytes} (h : 2 ≤ b.length) : readU16BE (chars b) = (Bytes.getU16 b).1 := by
  obtain _ | ⟨b0, _ | ⟨b1, rest⟩⟩ := b
  · simp at h
  · simp at h
  · rw [← UInt16.toNat_inj, toNat_readU16BE, unsignedChar_chars, unsignedChar_chars]
    have h0 := b0.toNat_lt
    have h1 := b1.toNat_lt
    show b0.toNat * 256 + b1.toNat = (UInt16.ofNat (256 * (256 * 0 + b0.toNat) + b1.toNat)).toNat
    rw [UInt16.toNat_ofNat_of_lt' (by rw [UInt16.size]; omega)]
    omega

theorem readU32BE_chars {b : Bytes} (h : 4 ≤ b.length) : readU32BE (chars b) = (Bytes.getU32 b).1 := by
  obtain _ | ⟨b0, _ | ⟨b1, _ | ⟨b2, _ | ⟨b3, rest⟩⟩⟩⟩ := b
  iterate 4 simp at h
  rw [← UInt32.toNat_inj, toNat_readU32BE, unsignedChar_chars, unsignedChar_chars, unsignedChar_chars,
    unsignedChar_chars]
  have h0 := b0.toNat_lt
  have h1 := b1.toNat_lt
  have h2 := b2.toNat_lt
  have h3 := b3.toNat_lt
  show b0.toNat * 256 ^ 3 + b1.toNat * 256 ^ 2 + b2.toNat * 256 + b3.toNat =
    (UInt32.ofNat (256 * (256 * (256 * (256 * 0 + b0.toNat) + b1.toNat) + b2.toNat) + b3.toNat)).toNat
  rw [UInt32.toNat_ofNat_of_lt' (by rw [UInt32.size]; omega)]
  omega

theorem decodeBackendFrameBody_chars {body : Bytes} (h : 11 ≤ body.length) :
    decodeBackendFrameBody (chars body) = .ok (.ofBody body) := by
  have hcmd : ((chars body).getD 0 0).toUInt8 = (Bytes.getU8 body).1 := by
    obtain _ | ⟨b0, rest⟩ := body
    · simp at h
    · show b0 = UInt8.ofNat (256 * 0 + b0.toNat)
      rw [Nat.mul_zero, Nat.zero_add]
      exact UInt8.ofNat_toNat.symm
  rw [decodeBackendFrameBody, length_chars, if_neg (by rw [kBackendFrameBodyHeaderSize]; omega), hcmd,
    readI32BE, chars_drop, chars_drop, chars_drop, chars_drop, readU16BE_chars (by rw [List.length_drop]; omega),
    readU32BE_chars (by rw [List.length_drop]; omega), readU32BE_chars (by rw [List.length_drop]; omega),
    map_chars]
  simp only [BackendFrame.ofBody, Bytes.getU8, Bytes.getU16, Bytes.getI32, Bytes.getU32, Bytes.get,
    List.drop_drop]
  rfl

theorem decodeBackendFrame_chars (b : Bytes) (frame : BackendFrame) :
    decodeBackendFrame (chars b) = .ok frame ↔ ∃ rest, tryExtractFrame b = .ok (some (frame, rest)) := by
  rw [decodeBackendFrame, tryExtractFrame, tryExtract, length_chars, kBackendFrameHeaderSize,
    kMaxBackendPacketSize, backendHeaderSize, maxPacketSize]
  by_cases hshort : b.length < 15
  · simp [hshort]
  · rw [if_neg hshort, if_neg hshort, readU32BE_chars (by omega)]
    dsimp only
    split_ifs with hinvalid hlarge hmissing
    · simp
    · simp
    · simp
    · have hbody : ((chars b).drop 4).take ((Bytes.getU32 b).1.toNat - 4) =
          chars ((b.take (Bytes.getU32 b).1.toNat).drop 4) := by
        rw [chars_drop, chars_take, List.drop_take]
      rw [hbody, decodeBackendFrameBody_chars (by rw [List.length_drop, List.length_take]; omega)]
      simp

/-! ### Writing -/

theorem chars_putU32 (value : UInt32) : chars (Bytes.putU32 value) =
    [((value >>> 24) &&& 0xFF).toUInt8.toInt8, ((value >>> 16) &&& 0xFF).toUInt8.toInt8,
      ((value >>> 8) &&& 0xFF).toUInt8.toInt8, (value &&& 0xFF).toUInt8.toInt8] := by
  have hlast : (value &&& 0xFF).toUInt8 = UInt8.ofNat (value.toNat / 256 ^ 0) := by
    rw [← digit32 value 0 0 rfl (by omega), UInt32.shiftRight_zero]
  rw [digit32 value 24 3 rfl (by omega), digit32 value 16 2 rfl (by omega), digit32 value 8 1 rfl (by omega),
    hlast]
  rfl

theorem chars_putU16 (value : UInt16) : chars (Bytes.putU16 value) =
    [((value >>> 8) &&& 0xFF).toUInt8.toInt8, (value &&& 0xFF).toUInt8.toInt8] := by
  have hlast : (value &&& 0xFF).toUInt8 = UInt8.ofNat (value.toNat / 256 ^ 0) := by
    rw [← digit16 value 0 0 rfl (by omega), UInt16.shiftRight_zero]
  rw [digit16 value 8 1 rfl (by omega), hlast]
  rfl

theorem chars_putU8 (value : UInt8) : chars (Bytes.putU8 value) = [value.toInt8] := by
  show [(UInt8.ofNat (value.toNat / 1)).toInt8] = _
  rw [Nat.div_one, UInt8.ofNat_toNat]

theorem chars_append (a b : Bytes) : chars (a ++ b) = chars a ++ chars b := List.map_append

theorem encodeBackendFrame_chars (frame : BackendFrame)
    (h : backendHeaderSize + frame.payload.length < 2 ^ 32) :
    encodeBackendFrame frame.cmd frame.msgId frame.serial frame.sessionId (chars frame.payload) =
      chars (encodeFrame frame) := by
  have hlen : (UInt32.ofNat (15 + frame.payload.length)).toNat = 15 + frame.payload.length :=
    UInt32.toNat_ofNat_of_lt' h
  have hheader : ∀ rest : Chars, writeU32BE (writeI32BE (writeU16BE ((writeU32BE (List.replicate 15 0 ++ rest) 0
      (UInt32.ofNat (15 + frame.payload.length))).set 4 frame.cmd.toInt8) 5 frame.msgId) 7 frame.serial) 11
        frame.sessionId = chars (Bytes.putU32 (UInt32.ofNat (15 + frame.payload.length)) ++
          (Bytes.putU8 frame.cmd ++ (Bytes.putU16 frame.msgId ++ (Bytes.putI32 frame.serial ++
            Bytes.putU32 frame.sessionId)))) ++ rest := by
    intro rest
    simp only [chars_append, Bytes.putI32, chars_putU8, chars_putU16, chars_putU32]
    rfl
  rw [encodeBackendFrame, length_chars, kBackendFrameHeaderSize]
  rw [hlen, List.replicate_add, hheader, encodeFrame, BackendFrame.body, backendHeaderSize]
  split_ifs with hpayload
  · have hsize : (chars (Bytes.putU32 (UInt32.ofNat (15 + frame.payload.length)) ++
        (Bytes.putU8 frame.cmd ++ (Bytes.putU16 frame.msgId ++ (Bytes.putI32 frame.serial ++
          Bytes.putU32 frame.sessionId))))).length = 15 := by
      simp
    rw [memcpy, List.take_left' hsize, length_chars, List.drop_of_length_le (by simp), List.append_nil,
      ← chars_append]
    simp only [List.append_assoc]
  · have hnil : frame.payload = [] := List.eq_nil_of_length_eq_zero (by omega)
    rw [hnil]
    simp

/-- A buffer that starts with a whole frame of a permitted length. -/
def StartsWithFrame (b : Bytes) : Prop :=
  backendHeaderSize ≤ b.length ∧ backendHeaderSize ≤ (Bytes.getU32 b).1.toNat ∧
    (Bytes.getU32 b).1.toNat ≤ maxPacketSize ∧ (Bytes.getU32 b).1.toNat ≤ b.length

theorem startsWithFrame_iff (b : Bytes) :
    StartsWithFrame b ↔ ∃ frame rest, tryExtractFrame b = .ok (some (frame, rest)) := by
  rw [StartsWithFrame, tryExtractFrame, tryExtract]
  by_cases hshort : b.length < backendHeaderSize
  · simp [hshort]
  · rw [if_neg hshort]
    dsimp only
    split_ifs with hinvalid hlarge hmissing
    · simp [hinvalid]
    · simp [hlarge]
    · simp [hmissing]
    · simp
      omega

/-- **One format.** The two encoders write the same bytes for every frame that fits. On every byte string
the C++ decoder gives a frame if and only if the Rust extractor gives the same, and both do exactly when
the string starts with a whole frame of a permitted length. -/
theorem one_format :
    (∀ (cmd : UInt8) (msgId : UInt16) (serial : Int32) (sessionId : UInt32) (payload : Bytes),
      15 + payload.length ≤ 1024 * 1024 →
        encodeBackendFrame cmd msgId serial sessionId (chars payload) =
          chars (encodeFrame { cmd, msgId, serial, sessionId, payload })) ∧
    (∀ (b : Bytes) (frame : BackendFrame), decodeBackendFrame (chars b) = .ok frame ↔
      ∃ rest, tryExtractFrame b = .ok (some (frame, rest))) ∧
    ∀ b : Bytes, ¬ StartsWithFrame b → (∃ e, decodeBackendFrame (chars b) = .error e) ∧
      ∀ frame rest, tryExtractFrame b ≠ .ok (some (frame, rest)) := by
  refine ⟨fun cmd msgId serial sessionId payload h =>
    encodeBackendFrame_chars { cmd, msgId, serial, sessionId, payload } (h.trans_lt (by decide)),
    decodeBackendFrame_chars,
    fun b hb => ?_⟩
  have hnone : ∀ frame rest, tryExtractFrame b ≠ .ok (some (frame, rest)) :=
    fun frame rest heq => hb ((startsWithFrame_iff b).2 ⟨frame, rest, heq⟩)
  refine ⟨?_, hnone⟩
  rcases hdecode : decodeBackendFrame (chars b) with e | frame
  · exact ⟨e, rfl⟩
  · obtain ⟨rest, hextract⟩ := (decodeBackendFrame_chars b frame).1 hdecode
    exact absurd hextract (hnone frame rest)

/-- A frame with characters beyond 127 and a negative serial, read back behind its encoding. -/
theorem one_format_signed :
    decodeBackendFrame (chars (encodeFrame ⟨101, 60000, -1, 0xFFFFFFFF, [200, 7]⟩ ++ [1])) =
      .ok ⟨101, 60000, -1, 0xFFFFFFFF, [200, 7]⟩ ∧
    encodeBackendFrame 101 60000 (-1) 0xFFFFFFFF (chars [200, 7]) =
      chars (encodeFrame ⟨101, 60000, -1, 0xFFFFFFFF, [200, 7]⟩) :=
  ⟨(one_format.2.1 _ _).2 ⟨[1], by decide⟩, one_format.1 _ _ _ _ [200, 7] (by decide)⟩

end AxmolFighter.Battle
