import AxmolFighter.Battle.BackendCodec
import AxmolFighter.Net.Transport

/-!
# The socket of the battle server

The battle server reads and writes its connection through `3rd/yasio`. Its `io_service` reads into a buffer of
fixed size, finds the length of the next packet in front of it (`__builtin_decode_len`, with the parameters that
`BackendClient::openConnection` sets) and collects the packet over as many reads as it takes (`unpack`). A
call of `do_read` reads first and then gives at most one packet, so packets that have arrived together
come out one call after the other, and when the peer has closed the connection in the meantime they are lost.

What is written waits in `send_queue_`, and `do_write` passes on as much of the first entry as the socket takes.
-/

namespace AxmolFighter.Battle

/-! ### Reading -/

/-- `u_param_t`; the length field has four bytes in network order. -/
structure UnpackParams where
  maxFrameLength : Int
  lengthFieldOffset : Nat
  lengthAdjustment : Int
  initialBytesToStrip : Nat

/-- What `openConnection` sets. -/
def unpackParams : UnpackParams where
  maxFrameLength := kMaxBackendPacketSize
  lengthFieldOffset := 0
  lengthAdjustment := 0
  initialBytesToStrip := 4

/-- `__builtin_decode_len`: no length yet is `0`. -/
def decodeLen (p : UnpackParams) (data : Bytes) : Int :=
  if p.lengthFieldOffset + 4 ≤ data.length then
    let len := (Bytes.getU32 (data.drop p.lengthFieldOffset)).1.toInt32.toInt + p.lengthAdjustment
    if p.maxFrameLength < len then -1 else len
  else 0

inductive ReadError
  /-- the end of the stream, an error of the socket, or no room for what it has -/
  | socket
  | invalidPacket
deriving DecidableEq

/-- The receiving half of an `io_transport`: the first `offset_` bytes of its buffer, and the packet that is being
collected, of which the size is known. -/
structure Transport where
  buffer : Bytes := []
  expectedSize : Option Nat := none
  expectedPacket : Bytes := []

namespace Transport

/-- `unpack`, with `data` what the buffer has now. -/
def unpack (t : Transport) (bytesWant : Nat) (data : Bytes) (bytesToStrip : Nat) : Transport × Option Bytes :=
  let packet := t.expectedPacket ++ (data.take bytesWant).drop bytesToStrip
  if bytesWant ≤ data.length then ({ buffer := data.drop bytesWant }, some packet)
  else ({ t with buffer := [], expectedPacket := packet }, none)

/-- `do_read`. The socket has some bytes, none for now, or has come to its end. -/
def doRead (t : Transport) : Option Bytes → Except ReadError (Transport × Option Bytes)
  | none => .error .socket
  | some chunk =>
      let data := t.buffer ++ chunk
      match t.expectedSize with
      | none =>
          let length := decodeLen unpackParams data
          if length > 0 then
            if length < unpackParams.initialBytesToStrip then .error .invalidPacket
            else .ok (unpack { t with expectedSize := some length.toNat } length.toNat data
              unpackParams.initialBytesToStrip)
          else if length = 0 then .ok ({ t with buffer := data }, none)
          else .error .invalidPacket
      | some size => .ok (t.unpack (size - (t.expectedPacket.length + unpackParams.initialBytesToStrip)) data 0)

/-- The packets of a sequence of calls, and the transport or why it is closed. -/
def receive (t : Transport) : List (Option Bytes) → List Bytes × Except ReadError Transport
  | [] => ([], .ok t)
  | arrival :: arrivals =>
      match t.doRead arrival with
      | .error e => ([], .error e)
      | .ok (t', packet) => (packet.toList ++ (t'.receive arrivals).1, (t'.receive arrivals).2)

end Transport

/-! ### Packets of a stream -/

theorem toInt_toInt32 (n : UInt32) :
    n.toInt32.toInt = if n.toNat < 2 ^ 31 then (n.toNat : Int) else (n.toNat : Int) - 2 ^ 32 := by
  show n.toBitVec.toInt = _
  rw [BitVec.toInt_eq_toNat_cond]
  simp only [UInt32.toNat_toBitVec]
  split_ifs <;> omega

theorem decodeLen_short {data : Bytes} (h : data.length < 4) : decodeLen unpackParams data = 0 := by
  rw [decodeLen, if_neg (by simp [unpackParams]; omega)]

theorem decodeLen_long {data : Bytes} (h : 4 ≤ data.length) : decodeLen unpackParams data =
    if (kMaxBackendPacketSize : Int) < (Bytes.getU32 data).1.toInt32.toInt then -1
    else (Bytes.getU32 data).1.toInt32.toInt := by
  simp [decodeLen, unpackParams, h]

theorem decodeLen_append (data : Bytes) (h : decodeLen unpackParams data ≠ 0) (more : Bytes) :
    4 ≤ data.length ∧ decodeLen unpackParams (data ++ more) = decodeLen unpackParams data := by
  have hlen : 4 ≤ data.length := by
    by_contra hshort
    exact h (decodeLen_short (by omega))
  refine ⟨hlen, ?_⟩
  rw [decodeLen_long hlen, decodeLen_long (by rw [List.length_append]; omega), getU32_append hlen]

/-- The packet in front of a buffer. -/
def packetOf (data : Bytes) : Except ReadError (Option (Bytes × Bytes)) :=
  let length := decodeLen unpackParams data
  if length = 0 then .ok none
  else if length < 4 then .error .invalidPacket
  else if data.length < length then .ok none
  else .ok (some ((data.take length.toNat).drop 4, data.drop length.toNat))

/-- The four cases of a buffer. -/
inductive Front (data : Bytes) : Prop
  | unknown (hzero : decodeLen unpackParams data = 0) (h : packetOf data = .ok none)
  | invalid (hne : decodeLen unpackParams data ≠ 0) (hlow : decodeLen unpackParams data < 4)
      (h : packetOf data = .error .invalidPacket)
  | part {size : Nat} (hsize : decodeLen unpackParams data = size) (hlow : 4 ≤ size) (hshort : data.length < size)
      (h : packetOf data = .ok none)
  | whole {size : Nat} (hsize : decodeLen unpackParams data = size) (hlow : 4 ≤ size) (hwhole : size ≤ data.length)
      (h : packetOf data = .ok (some ((data.take size).drop 4, data.drop size)))

theorem front (data : Bytes) : Front data := by
  by_cases hzero : decodeLen unpackParams data = 0
  · exact .unknown hzero (by simp [packetOf, hzero])
  · by_cases hlow : decodeLen unpackParams data < 4
    · exact .invalid hzero hlow (by simp [packetOf, hzero, hlow])
    · obtain ⟨size, hsize⟩ := Int.eq_ofNat_of_zero_le (by omega : 0 ≤ decodeLen unpackParams data)
      have hne : size ≠ 0 := by omega
      have hge : ¬(size : Int) < 4 := by omega
      by_cases hshort : data.length < size
      · exact .part hsize (by omega) hshort (by simp [packetOf, hsize, hne, hge, hshort])
      · exact .whole hsize (by omega) (by omega) (by simp [packetOf, hsize, hne, hge, hshort])

theorem packetOf_append {data : Bytes} (h : packetOf data ≠ .ok none) (more : Bytes) :
    packetOf (data ++ more) = (packetOf data).map (Option.map fun found => (found.1, found.2 ++ more)) := by
  rcases front data with ⟨-, hnone⟩ | ⟨hne, hlow, herror⟩ | ⟨-, -, -, hnone⟩ | @⟨size, hsize, hlow, hwhole, hsome⟩
  · exact absurd hnone h
  · rw [herror, packetOf, (decodeLen_append data hne more).2]
    simp [hne, hlow, Except.map]
  · exact absurd hnone h
  · have hsame := (decodeLen_append data (by omega) more).2
    have hne : size ≠ 0 := by omega
    have hge : ¬(size : Int) < 4 := by omega
    have hlong : ¬data.length + more.length < size := by omega
    rw [hsome, packetOf, hsame, hsize]
    simp only [Nat.cast_eq_zero, if_neg hne, if_neg hge, List.length_append, Nat.cast_lt, if_neg hlong,
      Int.toNat_natCast]
    rw [List.take_append_of_le_length hwhole, List.drop_append_of_le_length hwhole]
    rfl

/-- The packets of the battle server's connection. -/
def packetFraming : Framing UInt8 Bytes ReadError where
  extract := packetOf
  shorter {buf packet rest} h := by
    unfold packetOf at h
    simp only at h
    split_ifs at h with hzero hinvalid hshort
    · simp at h
    · simp at h
    · obtain ⟨-, rfl⟩ := Prod.mk.inj (Option.some.inj (Except.ok.inj h))
      rw [List.length_drop]
      omega
  append_some {buf packet rest} more h := by
    rw [packetOf_append (by simp [h]), h]
    rfl
  append_error {buf e} more h := by
    rw [packetOf_append (by simp [h]), h]
    rfl

/-! ### One call -/

namespace Transport

/-- What the transport has of the stream that it has not given: all of it is in the buffer, or the header has been
dropped and the rest collected. -/
def Holds (t : Transport) (rest : Bytes) : Prop :=
  match t.expectedSize with
  | none => t.buffer = rest ∧ t.expectedPacket = []
  | some size => t.buffer = [] ∧ t.expectedPacket = rest.drop 4 ∧ 4 ≤ rest.length ∧
      decodeLen unpackParams rest = size ∧ rest.length < size

theorem holds_nil : Holds {} [] := ⟨rfl, rfl⟩

theorem unpack_whole {t : Transport} {data : Bytes} {want strip : Nat} (h : want ≤ data.length) :
    t.unpack want data strip =
      ({ buffer := data.drop want }, some (t.expectedPacket ++ (data.take want).drop strip)) := by
  simp only [unpack]
  rw [if_pos h]

theorem unpack_part {t : Transport} {data : Bytes} {want strip : Nat} (h : data.length < want) :
    t.unpack want data strip =
      ({ t with buffer := [], expectedPacket := t.expectedPacket ++ data.drop strip }, none) := by
  simp only [unpack]
  rw [if_neg (by omega), List.take_of_length_le (by omega)]

/-- **A call gives the packet in front of what has come**, when there is a whole one. -/
theorem doRead_eq {t : Transport} {rest : Bytes} (h : t.Holds rest) (chunk : Bytes) :
    match packetOf (rest ++ chunk) with
    | .error e => t.doRead (some chunk) = .error e
    | .ok none => ∃ t', t.doRead (some chunk) = .ok (t', none) ∧ t'.Holds (rest ++ chunk)
    | .ok (some (packet, rest')) => ∃ t', t.doRead (some chunk) = .ok (t', some packet) ∧ t'.Holds rest' := by
  unfold Holds at h
  rcases hsize : t.expectedSize with _ | size
  · -- the length comes from the buffer
    rw [hsize] at h
    obtain ⟨rfl, hpacket⟩ := h
    have hread : t.doRead (some chunk) =
        if decodeLen unpackParams (t.buffer ++ chunk) > 0 then
          if decodeLen unpackParams (t.buffer ++ chunk) < 4 then .error .invalidPacket
          else .ok (unpack { t with expectedSize := some (decodeLen unpackParams (t.buffer ++ chunk)).toNat }
            (decodeLen unpackParams (t.buffer ++ chunk)).toNat (t.buffer ++ chunk) 4)
        else if decodeLen unpackParams (t.buffer ++ chunk) = 0 then .ok ({ t with buffer := t.buffer ++ chunk }, none)
        else .error .invalidPacket := by
      simp only [doRead, hsize]
      rfl
    generalize t.buffer ++ chunk = data at hread
    rcases front data with ⟨hzero, hnone⟩ | ⟨hne, hlow, herror⟩ | @⟨size, hfront, hlow, hshort, hnone⟩ |
      @⟨size, hfront, hlow, hwhole, hsome⟩
    · rw [hzero, if_neg (by omega), if_pos rfl] at hread
      rw [hnone]
      exact ⟨_, hread, by simp [Holds, hsize, hpacket]⟩
    · rw [herror]
      simp only
      rw [hread]
      split_ifs <;> rfl
    · rw [hfront, if_pos (by omega), if_neg (by omega), Int.toNat_natCast, unpack_part hshort] at hread
      have hlen := (decodeLen_append data (by omega) []).1
      rw [hnone]
      exact ⟨_, hread, rfl, by simp [hpacket], hlen, hfront, hshort⟩
    · rw [hfront, if_pos (by omega), if_neg (by omega), Int.toNat_natCast, unpack_whole hwhole] at hread
      rw [hsome]
      exact ⟨{ buffer := data.drop size }, by rw [hread, hpacket]; rfl, rfl, rfl⟩
  · -- the packet is being collected
    rw [hsize] at h
    obtain ⟨hbuffer, hpacket, hlen, hdecode, hshort⟩ := h
    have hsame := (decodeLen_append rest (by omega) chunk).2
    have hread : t.doRead (some chunk) = .ok (t.unpack (size - rest.length) chunk 0) := by
      have hwant : size - (t.expectedPacket.length + 4) = size - rest.length := by
        rw [hpacket, List.length_drop]
        omega
      simp [doRead, hsize, hbuffer, unpackParams, hwant]
    rcases front (rest ++ chunk) with ⟨hzero, -⟩ | ⟨-, hlow, -⟩ | @⟨size', hfront, hlow, hshort', hnone⟩ |
      @⟨size', hfront, hlow, hwhole, hsome⟩
    · omega
    · omega
    · obtain rfl : size' = size := by omega
      rw [List.length_append] at hshort'
      rw [unpack_part (by omega)] at hread
      rw [hnone]
      refine ⟨_, hread, ?_⟩
      simp only [Holds, hsize, hpacket, List.drop_zero]
      refine ⟨trivial, (List.drop_append_of_le_length hlen).symm, ?_, hfront, ?_⟩
      · rw [List.length_append]
        omega
      · rw [List.length_append]
        omega
    · obtain rfl : size' = size := by omega
      rw [List.length_append] at hwhole
      rw [unpack_whole (by omega)] at hread
      rw [hsome]
      refine ⟨{ buffer := chunk.drop (size' - rest.length) }, ?_, ?_, rfl⟩
      · rw [hread, hpacket, List.drop_zero, List.take_append, List.take_of_length_le hshort.le,
          List.drop_append_of_le_length hlen]
      · show chunk.drop (size' - rest.length) = (rest ++ chunk).drop size'
        rw [List.drop_append, List.drop_of_length_le hshort.le, List.nil_append]

/-! ### A sequence of calls -/

variable {t : Transport} {rest : Bytes}

/-- The packets that have been given are the first ones of the stream, and the others are held. -/
theorem receive_some (h : t.Holds rest) (chunks : List Bytes) :
    match (t.receive (chunks.map some)).2 with
    | .error e => packetFraming.drain (rest ++ chunks.flatten) = ((t.receive (chunks.map some)).1, .error e)
    | .ok t' => ∃ rest', t'.Holds rest' ∧ packetFraming.drain (rest ++ chunks.flatten) =
        ((t.receive (chunks.map some)).1 ++ (packetFraming.drain rest').1, (packetFraming.drain rest').2) := by
  induction chunks generalizing t rest with
  | nil => exact ⟨rest, h, by simp [receive]⟩
  | cons chunk chunks ih =>
    have hcall := doRead_eq h chunk
    rw [List.map_cons, List.flatten_cons, ← List.append_assoc, receive]
    rcases hpacket : packetOf (rest ++ chunk) with e | _ | ⟨packet, rest'⟩
    · rw [hpacket] at hcall
      simp only [hcall]
      rw [Framing.drain_append, Framing.drain_error hpacket]
    · rw [hpacket] at hcall
      obtain ⟨t', hread, hholds⟩ := hcall
      simp only [hread, Option.toList_none, List.nil_append]
      exact ih hholds
    · rw [hpacket] at hcall
      obtain ⟨t', hread, hholds⟩ := hcall
      have hmore := Framing.drain_some (packetFraming.append_some chunks.flatten hpacket)
      have hrest := ih hholds
      simp only [hread, Option.toList_some, List.singleton_append]
      rw [hmore]
      generalize t'.receive (chunks.map some) = r at hrest
      rcases hend : r.2 with e | t''
      · rw [hend] at hrest
        simp only [hrest]
      · rw [hend] at hrest
        obtain ⟨rest'', hholds', hdrain⟩ := hrest
        exact ⟨rest'', hholds', by simp [hdrain]⟩

theorem length_receive (t : Transport) (arrivals : List (Option Bytes)) :
    (t.receive arrivals).1.length ≤ arrivals.length := by
  induction arrivals generalizing t with
  | nil => simp [receive]
  | cons arrival arrivals ih =>
    rw [receive]
    rcases t.doRead arrival with e | ⟨t', packet⟩
    · simp
    · have hrest := ih t'
      cases packet with
      | none => simpa using Nat.le_succ_of_le hrest
      | some packet => simpa using hrest

theorem receive_append (t : Transport) (arrivals later : List (Option Bytes)) : t.receive (arrivals ++ later) =
    match t.receive arrivals with
    | (packets, .error e) => (packets, .error e)
    | (packets, .ok t') => (packets ++ (t'.receive later).1, (t'.receive later).2) := by
  induction arrivals generalizing t with
  | nil => simp [receive]
  | cons arrival arrivals ih =>
    rw [List.cons_append, receive, receive]
    rcases t.doRead arrival with e | ⟨t', packet⟩
    · rfl
    · simp only [ih]
      rcases t'.receive arrivals with ⟨packets, e | t''⟩
      · rfl
      · simp

theorem receive_polls (h : t.Holds rest) {n : Nat} (hn : (packetFraming.drain rest).1.length ≤ n) :
    (t.receive (List.replicate n (some []))).1 = (packetFraming.drain rest).1 := by
  induction n generalizing t rest with
  | zero =>
    rw [List.eq_nil_of_length_eq_zero (Nat.le_zero.1 hn)]
    rfl
  | succ n ih =>
    have hcall := doRead_eq h []
    rw [List.append_nil] at hcall
    rw [List.replicate_succ, receive]
    rcases hpacket : packetOf rest with e | _ | ⟨packet, rest'⟩
    · rw [hpacket] at hcall
      rw [Framing.drain_error hpacket]
      simp only [hcall]
    · rw [hpacket] at hcall
      obtain ⟨t', hread, hholds⟩ := hcall
      simp only [hread, Option.toList_none, List.nil_append]
      refine ih hholds ?_
      rw [Framing.drain_none hpacket]
      simp
    · rw [hpacket] at hcall
      obtain ⟨t', hread, hholds⟩ := hcall
      rw [Framing.drain_some hpacket] at hn ⊢
      simp only [hread, Option.toList_some, List.singleton_append]
      rw [ih hholds (by simpa using hn)]

theorem receive_first (chunks : List Bytes) :
    (receive {} (chunks.map some)).1 <+: (packetFraming.drain chunks.flatten).1 := by
  have hstream := receive_some holds_nil chunks
  rw [List.nil_append] at hstream
  generalize receive {} (chunks.map some) = r at hstream
  obtain ⟨packets, e | t⟩ := r
  · exact ⟨[], (List.append_nil _).trans (congrArg Prod.fst hstream).symm⟩
  · obtain ⟨rest, -, hdrain⟩ := hstream
    rw [hdrain]
    exact List.prefix_append ..

theorem length_receive_some (chunks : List Bytes) : (receive {} (chunks.map some)).1.length ≤ chunks.length := by
  have hlength := length_receive {} (chunks.map some)
  rwa [List.length_map] at hlength

theorem receive_rest {chunks : List Bytes} {n : Nat}
    (hn : (packetFraming.drain chunks.flatten).1.length ≤ (receive {} (chunks.map some)).1.length + n) :
    (receive {} (chunks.map some ++ List.replicate n (some []))).1 = (packetFraming.drain chunks.flatten).1 := by
  have hstream := receive_some holds_nil chunks
  rw [List.nil_append] at hstream
  rw [receive_append]
  generalize receive {} (chunks.map some) = r at hstream hn
  obtain ⟨packets, e | t⟩ := r
  · rw [hstream]
  · obtain ⟨rest, hholds, hdrain⟩ := hstream
    simp only at hdrain hn ⊢
    rw [hdrain] at hn ⊢
    rw [receive_polls hholds (by simpa using hn)]

theorem receive_end (chunks : List Bytes) (later : List (Option Bytes)) :
    (receive {} (chunks.map some ++ none :: later)).1 = (receive {} (chunks.map some)).1 := by
  rw [receive_append]
  generalize receive {} (chunks.map some) = r
  obtain ⟨packets, e | t⟩ := r
  · rfl
  · simp [receive, doRead]

/-- **Packets do not depend on the reads, but they take their time.** However a stream is cut into reads, the packets
that the calls of `do_read` have given are the first ones of the stream, at most one for each call; calls
for which the socket has nothing give all the others, and when the connection comes to its end before them the
others are lost. -/
theorem receive_reads (chunks : List Bytes) :
    let packets := (receive {} (chunks.map some)).1
    let sent := (packetFraming.drain chunks.flatten).1
    packets <+: sent ∧ packets.length ≤ chunks.length ∧
      (∀ n, sent.length ≤ packets.length + n →
        (receive {} (chunks.map some ++ List.replicate n (some []))).1 = sent) ∧
        ∀ later, (receive {} (chunks.map some ++ none :: later)).1 = packets :=
  ⟨receive_first chunks, length_receive_some chunks, fun _ => receive_rest, receive_end chunks⟩

/-- Two frames of the gateway in one read, and the end of the connection: the second one is lost. -/
example : (receive {} ([encodeFrame ⟨102, 7, 0, 0, [1]⟩ ++ encodeFrame ⟨101, 8, -1, 2, []⟩].map some ++
    [none])).1.length ≤ 1 := by
  rw [receive_end]
  exact length_receive_some _

end Transport

/-! ### Frames from the gateway -/

open Backend.GatewayClient

/-- `onRecvFrame`: the text is for the log. -/
def onRecvFrame (packet : Bytes) : Except String BackendFrame := decodeBackendFrameBody (chars packet)

theorem onRecvFrame_body (frame : BackendFrame) : onRecvFrame frame.body = .ok frame := by
  have hlen := frame.length_body
  rw [backendHeaderSize] at hlen
  rw [onRecvFrame, decodeBackendFrameBody_chars (by omega), BackendFrame.ofBody_body]

theorem decodeLen_encodeFrame {frame : BackendFrame} (h : Fits frame) {p more : Bytes} (hlen : 4 ≤ p.length)
    (hpart : p <+: encodeFrame frame ++ more) : decodeLen unpackParams p = wireSize frame := by
  obtain ⟨tail, htail⟩ := hpart
  have hsize : wireSize frame ≤ 1024 * 1024 := h
  have hvalue : (Bytes.getU32 p).1.toNat = wireSize frame := by
    rw [← getU32_append hlen tail, htail, encodeFrame, List.append_assoc, Bytes.getU32_put]
    exact UInt32.toNat_ofNat_of_lt' (by rw [UInt32.size]; exact hsize.trans_lt (by decide))
  have hmax : ¬(kMaxBackendPacketSize : Int) < (wireSize frame : Int) := by
    rw [kMaxBackendPacketSize]
    omega
  have hint : (Bytes.getU32 p).1.toInt32.toInt = wireSize frame := by
    rw [toInt_toInt32, hvalue, if_pos (by omega)]
  rw [decodeLen_long hlen, hint, if_neg hmax]

theorem packetOf_encodeFrame {frame : BackendFrame} (h : Fits frame) (more : Bytes) :
    packetOf (encodeFrame frame ++ more) = .ok (some (frame.body, more)) := by
  have hbody := frame.length_body
  have hsize : (encodeFrame frame).length = wireSize frame := length_encodeFrame frame
  have hfour : 4 ≤ wireSize frame := by rw [wireSize, backendHeaderSize]; omega
  have hdecode := decodeLen_encodeFrame h (p := encodeFrame frame ++ more) (by rw [List.length_append]; omega)
    (List.prefix_refl _)
  have hne : wireSize frame ≠ 0 := by omega
  have hge : ¬(wireSize frame : Int) < 4 := by omega
  simp only [packetOf, hdecode, Nat.cast_eq_zero, if_neg hne, if_neg hge, List.length_append, Nat.cast_lt,
    Int.toNat_natCast]
  rw [if_neg (by omega), ← hsize, List.take_left, List.drop_left, encodeFrame,
    List.drop_left' (Bytes.length_putU32 _)]

theorem packetOf_short {frame : BackendFrame} (h : Fits frame) {p : Bytes} (hpart : p <+: encodeFrame frame)
    (hshort : p.length < wireSize frame) : packetOf p = .ok none := by
  by_cases hlen : 4 ≤ p.length
  · have hdecode := decodeLen_encodeFrame h hlen (hpart.trans (List.prefix_append _ []))
    rcases front p with ⟨hzero, hnone⟩ | ⟨-, hlow, -⟩ | ⟨-, -, -, hnone⟩ | @⟨size, hsize, -, hwhole, -⟩
    · exact hnone
    · rw [wireSize, backendHeaderSize] at hdecode
      omega
    · exact hnone
    · omega
  · simp [packetOf, decodeLen_short (Nat.not_le.1 hlen)]

theorem drain_packets {frames : List BackendFrame} (h : ∀ frame ∈ frames, Fits frame) {p : Bytes}
    (hpart : p <+: encodeAll frames) :
    (packetFraming.drain p).1 = (arrived frames p.length).map BackendFrame.body := by
  have hnil : packetOf [] = .ok none := by simp [packetOf, decodeLen_short]
  induction frames generalizing p with
  | nil =>
    obtain rfl := List.prefix_nil.1 hpart
    rw [Framing.drain_none hnil]
    rfl
  | cons frame frames ih =>
    have hframe := h frame List.mem_cons_self
    rw [encodeAll_cons] at hpart
    rw [arrived]
    rcases prefix_encode hpart with ⟨hshort, hpart⟩ | ⟨p', rfl, hrest⟩
    · rw [Framing.drain_none (packetOf_short hframe hpart hshort), if_neg (Nat.not_le.2 hshort)]
      rfl
    · have hrest' := ih (fun frame' hframe' => h frame' (List.mem_cons_of_mem _ hframe')) hrest
      rw [Framing.drain_some (packetOf_encodeFrame hframe p'), List.length_append, length_encodeFrame,
        if_pos (Nat.le_add_right ..), Nat.add_sub_cancel_left, hrest', List.map_cons]

theorem map_onRecvFrame (frames : List BackendFrame) :
    (frames.map BackendFrame.body).map onRecvFrame = frames.map .ok := by
  rw [List.map_map]
  exact List.map_congr_left fun frame _ => onRecvFrame_body frame

/-- **The connection to the battle server is a queue of frames.** The gateway sends frames, and perhaps closes the
connection. Whatever the socket of the gateway does, and however the battle server reads what is on the wire,
`onRecvFrame` has decoded the first of the frames of which the last byte has come, at most one for
each call of `do_read`, and all of them after as many more calls as there are frames left. -/
theorem received_of_written (frames : List BackendFrame) (ending : List Net.NetSession.WriterMessage)
    (results : List SinkResult) {reads : List Bytes} (hfits : ∀ frame ∈ frames, Fits frame)
    (hending : ∀ message ∈ ending.head?, message.stops = true) :
    let w := Net.NetSession.pollWrite { capacity := Net.NetSession.writeCapacity } []
      (frames.map Net.NetSession.toMessage ++ ending) results
    reads.flatten <+: w.writer.sink →
      let packets := (Transport.receive {} (reads.map some)).1
      let come := arrived frames reads.flatten.length
      packets.map onRecvFrame <+: come.map .ok ∧ packets.length ≤ reads.length ∧
        (∀ n, come.length ≤ packets.length + n →
          (Transport.receive {} (reads.map some ++ List.replicate n (some []))).1.map onRecvFrame = come.map .ok) ∧
          (w.clean = true → reads.flatten = w.writer.sink → come = frames) := by
  intro w hread packets come
  have hwire : w.writer.sink <+: encodeAll frames := by
    rw [← Net.NetSession.payload_frames frames hending]
    exact Net.NetSession.sink_pollWrite _ results
  have hdrain := drain_packets hfits (hread.trans hwire)
  refine ⟨?_, Transport.length_receive_some reads, fun n hn => ?_, fun hdone hsink => ?_⟩
  · have hmap := (Transport.receive_first reads).map onRecvFrame
    rwa [hdrain, map_onRecvFrame] at hmap
  · have hcalls : (packetFraming.drain reads.flatten).1.length ≤ packets.length + n := by
      rwa [hdrain, List.length_map]
    rw [Transport.receive_rest hcalls, hdrain, map_onRecvFrame]
  · show arrived frames reads.flatten.length = frames
    rw [hsink, Net.NetSession.sink_frames hending hdone, Net.NetSession.arrived_all]

/-- Two frames that come in one read, and a call for which the socket has nothing. -/
theorem received_of_written_two :
    (Transport.receive {} ([encodeFrame ⟨102, 7, 0, 0, [1]⟩ ++ encodeFrame ⟨101, 8, -1, 2, []⟩].map some ++
      [some []])).1.map onRecvFrame = [.ok ⟨102, 7, 0, 0, [1]⟩, .ok ⟨101, 8, -1, 2, []⟩] :=
  (received_of_written [⟨102, 7, 0, 0, [1]⟩, ⟨101, 8, -1, 2, []⟩] [.close] [.accepts 4, .accepts 100, .accepts 1,
    .accepts 100, .accepts 1] (by decide) (by decide) (by decide)).2.2.1 1 (by decide)

/-! ### Frames to the gateway -/

/-- `io_send_op`. -/
structure SendOp where
  buffer : Bytes
  offset : Nat := 0

/-- What a call of `send` on the socket comes to. -/
inductive SendResult
  | takes (n : Nat)
  | waits
  | fails

/-- The sending half of an `io_transport`, and what its socket has taken. -/
structure Outgoing where
  isOpen : Bool := true
  sendQueue : List SendOp := []
  sent : Bytes := []

inductive SendEvent
  /-- `BackendClient::sendFrame` -/
  | sendFrame (frame : BackendFrame)
  /-- `do_write` -/
  | doWrite (result : SendResult)

namespace Outgoing

/-- What `sendFrame` writes. -/
def frameBytes (frame : BackendFrame) : Bytes :=
  (encodeBackendFrame frame.cmd frame.msgId frame.serial frame.sessionId (chars frame.payload)).map Int8.toUInt8

/-- `call_write`, which drops the first entry of the queue when all of it has been taken. -/
def callWrite (s : Outgoing) (op : SendOp) (ops : List SendOp) : SendResult → Option Outgoing
  | .takes n =>
      if 0 < n ∧ op.offset + n ≤ op.buffer.length then
        some { s with
          sent := s.sent ++ (op.buffer.drop op.offset).take n
          sendQueue := if op.offset + n = op.buffer.length then ops else { op with offset := op.offset + n } :: ops }
      else none
  | .waits => some s
  | .fails => some { s with isOpen := false, sendQueue := [] }

def next (s : Outgoing) : SendEvent → Option Outgoing
  | .sendFrame frame =>
      if s.isOpen then some { s with sendQueue := s.sendQueue ++ [{ buffer := frameBytes frame }] } else some s
  | .doWrite result =>
      match s.sendQueue with
      | [] => some s
      | op :: ops => s.callWrite op ops result

def Step (s : Outgoing) (e : SendEvent) (s' : Outgoing) : Prop := s.next e = some s'

/-- The frames that have been accepted while the transport was open. -/
def accepted : List (Outgoing × SendEvent) → List BackendFrame
  | [] => []
  | (s, .sendFrame frame) :: trace => if s.isOpen then frame :: accepted trace else accepted trace
  | (_, .doWrite _) :: trace => accepted trace

/-- What is still to be sent. -/
def left (queue : List SendOp) : Bytes := queue.flatMap fun op => op.buffer.drop op.offset

variable {s s' : Outgoing} {e : SendEvent} {trace trace' : List (Outgoing × SendEvent)}

theorem accepted_append : accepted (trace ++ trace') = accepted trace ++ accepted trace' := by
  induction trace with
  | nil => rfl
  | cons entry trace ih =>
    obtain ⟨s, e⟩ := entry
    cases e with
    | sendFrame frame =>
      simp only [List.cons_append, accepted, ih]
      split_ifs <;> rfl
    | doWrite result => simpa [accepted] using ih

/-- What is sent and what is left is all that has been accepted. -/
structure Sends (s : Outgoing) (frames : List BackendFrame) : Prop where
  sent : s.sent <+: (frames.map frameBytes).flatten
  left : s.isOpen = true → s.sent ++ left s.sendQueue = (frames.map frameBytes).flatten

theorem Sends.callWrite {op : SendOp} {ops : List SendOp} {result : SendResult} {frames : List BackendFrame}
    (h : Sends s frames) (hopen : s.isOpen = true) (hqueue : s.sendQueue = op :: ops)
    (hcall : s.callWrite op ops result = some s') : Sends s' frames := by
  have hleft := h.left hopen
  rw [hqueue, Outgoing.left, List.flatMap_cons] at hleft
  cases result with
  | takes n =>
    simp only [Outgoing.callWrite] at hcall
    split_ifs at hcall with hn hwhole
    · -- the entry is complete
      obtain rfl := Option.some.inj hcall
      have htake : (op.buffer.drop op.offset).take n = op.buffer.drop op.offset :=
        List.take_of_length_le (by rw [List.length_drop]; omega)
      have hall : (s.sent ++ (op.buffer.drop op.offset).take n) ++ Outgoing.left ops =
          (frames.map frameBytes).flatten := by
        rw [htake, List.append_assoc]
        exact hleft
      exact ⟨⟨_, hall⟩, fun _ => hall⟩
    · obtain rfl := Option.some.inj hcall
      have hall : (s.sent ++ (op.buffer.drop op.offset).take n) ++
          Outgoing.left ({ op with offset := op.offset + n } :: ops) = (frames.map frameBytes).flatten := by
        rw [Outgoing.left, List.flatMap_cons, List.append_assoc, ← List.append_assoc (List.take _ _),
          ← List.drop_drop, List.take_append_drop]
        exact hleft
      exact ⟨⟨_, hall⟩, fun _ => hall⟩
  | waits =>
    obtain rfl := Option.some.inj hcall
    exact h
  | fails =>
    obtain rfl := Option.some.inj hcall
    exact ⟨h.sent, fun hno => by simp at hno⟩

theorem callWrite_closed {op : SendOp} {ops : List SendOp} {result : SendResult} (hopen : s.isOpen = true)
    (hcall : s.callWrite op ops result = some s') (hno : s'.isOpen = false) : s'.sendQueue = [] := by
  cases result with
  | takes n =>
    obtain ⟨-, rfl⟩ : (0 < n ∧ op.offset + n ≤ op.buffer.length) ∧ _ = s' := by simpa [callWrite] using hcall
    simp [hopen] at hno
  | waits =>
    obtain rfl := Option.some.inj hcall
    simp [hopen] at hno
  | fails =>
    obtain rfl := Option.some.inj hcall
    rfl

theorem sends_of_run (hrun : Run Step {} trace s) :
    Sends s (accepted trace) ∧ (s.isOpen = false → s.sendQueue = []) := by
  induction hrun with
  | start => exact ⟨⟨List.prefix_refl _, fun _ => rfl⟩, by simp⟩
  | @next trace s s' e hrun hstep ih =>
    obtain ⟨hsends, hclosed⟩ := ih
    unfold Step next at hstep
    rw [accepted_append]
    cases e with
    | sendFrame frame =>
      simp only at hstep
      split_ifs at hstep with hopen
      · obtain rfl := Option.some.inj hstep
        have hleft := hsends.left hopen
        simp only [accepted, hopen, if_true]
        refine ⟨⟨?_, fun _ => ?_⟩, by simp⟩
        · rw [List.map_append, List.flatten_append]
          exact hsends.sent.trans (List.prefix_append ..)
        · rw [List.map_append, List.flatten_append, ← hleft]
          simp [left]
      · obtain rfl := Option.some.inj hstep
        simp only [accepted, if_neg hopen, List.append_nil]
        exact ⟨hsends, hclosed⟩
    | doWrite result =>
      simp only [accepted, List.append_nil]
      rcases hqueue : s.sendQueue with _ | ⟨op, ops⟩
      · rw [hqueue] at hstep
        obtain rfl := Option.some.inj hstep
        exact ⟨hsends, hclosed⟩
      · rw [hqueue] at hstep
        have hopen : s.isOpen = true := by
          by_contra hno
          simp [hclosed (by simpa using hno)] at hqueue
        exact ⟨hsends.callWrite hopen hqueue hstep, callWrite_closed hopen hstep⟩

/-- **The connection from the battle server is a queue of frames.** In every run of the sending half, however the
socket takes what is given to it, and however the gateway reads a part of what is on the wire, the
gateway's delegate is called with the frames of which the last byte has come, in order; with all
frames once the queue is empty and everything has been read. -/
theorem handled_of_run (hrun : Run Step {} trace s) (hfits : ∀ frame ∈ accepted trace, Fits frame)
    {reads : List Bytes} (hreads : Net.NetSession.Moderate reads) (hpart : reads.flatten <+: s.sent) :
    let r := Net.NetSession.pollRead Net.NetSession.backendBodies (fun _ _ => true) [] [] reads
    r.1.map BackendFrame.ofBody = arrived (accepted trace) reads.flatten.length ∧ (∃ buf, r.2 = .waiting buf) ∧
      (s.isOpen = true → s.sendQueue = [] → reads.flatten = s.sent →
        r.1.map BackendFrame.ofBody = accepted trace) := by
  intro r
  have hbytes : ((accepted trace).map frameBytes).flatten = encodeAll (accepted trace) := by
    rw [encodeAll]
    congr 1
    refine List.map_congr_left fun frame hframe => ?_
    rw [frameBytes, encodeBackendFrame_chars frame ((hfits frame hframe).trans_lt (by decide)), map_chars]
  obtain ⟨hsent, hleft⟩ := (sends_of_run hrun).1
  rw [hbytes] at hsent hleft
  have hhandled := Net.NetSession.pollRead_arrived hfits hreads (hpart.trans hsent)
  refine ⟨hhandled, Net.NetSession.pollRead_waiting hfits hreads (hpart.trans hsent), fun hopen hqueue hread => ?_⟩
  have hdone := hleft hopen
  rw [hqueue, left, List.flatMap_nil, List.append_nil] at hdone
  show r.1.map BackendFrame.ofBody = accepted trace
  rw [hhandled, hread, hdone, Net.NetSession.arrived_all]

/-- A frame that goes in two parts, and one that has not been sent. -/
def sample : List SendEvent :=
  [.sendFrame ⟨102, 7, 0, 0, [1]⟩, .doWrite (.takes 6), .doWrite .waits, .sendFrame ⟨101, 8, -1, 2, []⟩,
    .doWrite (.takes 10)]

theorem handled_of_run_sample : ∃ trace s, Run Step {} trace s ∧
    accepted trace = [⟨102, 7, 0, 0, [1]⟩, ⟨101, 8, -1, 2, []⟩] ∧
    (Net.NetSession.pollRead Net.NetSession.backendBodies (fun _ _ => true) [] []
      [s.sent]).1.map BackendFrame.ofBody = [⟨102, 7, 0, 0, [1]⟩] := by
  have hsample : (Run.record next {} sample).map (fun r => (accepted r.1, r.2.sent)) =
      some ([⟨102, 7, 0, 0, [1]⟩, ⟨101, 8, -1, 2, []⟩], encodeFrame ⟨102, 7, 0, 0, [1]⟩) := by decide
  obtain ⟨⟨trace, s⟩, hrecord, hobs⟩ := Option.map_eq_some_iff.1 hsample
  have haccepted : accepted trace = _ := congrArg Prod.fst hobs
  have hsent : s.sent = _ := congrArg Prod.snd hobs
  have hrun : Run Step {} trace s := Run.of_record (fun _ _ _ h => h) hrecord
  have hreads : Net.NetSession.Moderate [s.sent] := by
    rw [hsent]
    decide
  have hhandled := (handled_of_run hrun (by rw [haccepted]; decide) hreads (by simp)).1
  exact ⟨trace, s, hrun, haccepted, hhandled.trans (by rw [haccepted, hsent]; decide)⟩

end Outgoing

end AxmolFighter.Battle
