import AxmolFighter.Protocol.Message

/-!
# The connection to the gateway

`gateway_client.rs` reads the gateway's frames in two loops. The first waits for the answer to the
registration and hands the rest of its buffer to the second. The second reads before it looks at the
buffer, so a frame that has already arrived behind the answer waits for the next read. A frame that is
too long ends either loop, and one with an unknown command is handed to nobody.

What arrives is the list of the reads: each is what one `read_buf` appends, and a read without a byte is
the end of the connection.
-/

namespace AxmolFighter.Backend.GatewayClient

/-! ### Reading frames -/

/-- Where a loop stands when there is nothing more to read. -/
inductive ReadEnd
  | waiting (buf : Bytes)
  | eof
  | failed (error : String)
deriving DecidableEq

/-- The inner loop: the frames that are given to `dispatch_frame`, and the rest of the buffer or an error. -/
def extractFrames (buf : Bytes) : List BackendFrame × Except String Bytes := backendFraming.drain buf

/-- The frames that are given to `dispatch_frame`, and where the loop stands after the reads. -/
def readLoop (buf : Bytes) : List Bytes → List BackendFrame × ReadEnd
  | [] => ([], .waiting buf)
  | chunk :: reads =>
      if chunk.length = 0 then ([], .eof)
      else
        match extractFrames (buf ++ chunk) with
        | (frames, .error e) => (frames, .failed e)
        | (frames, .ok rest) => (frames ++ (readLoop rest reads).1, (readLoop rest reads).2)

/-- What the handler is called with. -/
inductive HandlerCall
  | controlFrame (frame : BackendFrame)
  | businessFrame (frame : BackendFrame)
deriving DecidableEq

def HandlerCall.frame : HandlerCall → BackendFrame
  | .controlFrame frame | .businessFrame frame => frame

/-- A frame with another command is handed to nobody. -/
def dispatchFrame (frame : BackendFrame) : Option HandlerCall :=
  if frame.cmd = backendCmdControl then some (.controlFrame frame)
  else if frame.cmd = backendCmdBusiness then some (.businessFrame frame)
  else none

/-! ### Registration -/

variable (m : MessageMap)

/-- Whether a frame is the answer to the registration. -/
def registrationAnswer (frame : BackendFrame) : Except String (Option Unit) :=
  if frame.cmd ≠ backendCmdControl then .ok none
  else
    match m.decode frame.msgId frame.payload with
    | .error e => .error e
    | .ok (.serverRegResp code _) =>
        if code = 0 then .ok (some ()) else .error s!"gateway registration failed, code={code}"
    | .ok _ => .ok none

/-- The rest of the buffer behind the answer, and the reads after it, once the answer is there. -/
def registerStream (buf : Bytes) : List Bytes → Except String (Option (Bytes × List Bytes))
  | [] => .ok none
  | chunk :: reads =>
      if chunk.length = 0 then .error "gateway connection closed during registration"
      else
        match backendFraming.scan (registrationAnswer m) (buf ++ chunk) with
        | .error e => .error e
        | .ok (some (), rest) => .ok (some (rest, reads))
        | .ok (none, rest) => registerStream rest reads

/-- `run` up to the end of one connection: the frames that are given to `dispatch_frame`. -/
def connection (reads : List Bytes) : List BackendFrame :=
  match registerStream m [] reads with
  | .ok (some (buf, reads)) => (readLoop buf reads).1
  | _ => []

/-- The frames that the handler is called with on one connection. -/
def received (reads : List Bytes) : List BackendFrame :=
  ((connection m reads).filterMap dispatchFrame).map HandlerCall.frame

/-! ### Reads do not matter to the read loop -/

/-- What a frame takes on the wire. -/
def wireSize (frame : BackendFrame) : Nat := backendHeaderSize + frame.payload.length

/-- The frame is short enough for the extractor. -/
def Fits (frame : BackendFrame) : Prop := wireSize frame ≤ maxPacketSize

instance (frame : BackendFrame) : Decidable (Fits frame) := inferInstanceAs (Decidable (_ ≤ _))

def encodeAll (frames : List BackendFrame) : Bytes := (frames.map encodeFrame).flatten

theorem length_encodeFrame (frame : BackendFrame) : (encodeFrame frame).length = wireSize frame := by
  have h := frame.length_body
  rw [encodeFrame, List.length_append, Bytes.length_putU32, wireSize]
  omega

theorem extract_encodeFrame {frame : BackendFrame} (h : Fits frame) (more : Bytes) :
    backendFraming.extract (encodeFrame frame ++ more) = .ok (some (frame, more)) := by
  refine (tryExtractFrame_encode frame (h.trans_lt maxPacketSize_lt) more).trans ?_
  exact if_neg (Nat.not_lt.2 h)

theorem extract_part {frame : BackendFrame} (h : Fits frame) {p : Bytes}
    (hpart : p <+: encodeFrame frame) (hproper : p ≠ encodeFrame frame) :
    backendFraming.extract p = .ok none := by
  show tryExtractFrame p = .ok none
  refine tryExtract_partial (by decide) (Nat.le_add_right ..) h hpart ?_
  rw [← wireSize, ← length_encodeFrame]
  refine lt_of_le_of_ne hpart.length_le fun hlen => hproper ?_
  exact hpart.eq_of_length hlen

/-- The loop on non-empty reads is the one of the library. -/
theorem readLoop_feed (buf : Bytes) {reads : List Bytes} (h : ∀ chunk ∈ reads, chunk ≠ []) :
    readLoop buf reads = ((backendFraming.feed buf reads).1,
      match (backendFraming.feed buf reads).2 with
      | .error e => .failed e
      | .ok rest => .waiting rest) := by
  induction reads generalizing buf with
  | nil => rfl
  | cons chunk reads ih =>
      have hchunk : ¬ chunk.length = 0 := fun hlen =>
        h chunk List.mem_cons_self (List.eq_nil_of_length_eq_zero hlen)
      rw [readLoop, if_neg hchunk, Framing.feed, extractFrames]
      rcases backendFraming.drain (buf ++ chunk) with ⟨frames, e | rest⟩
      · rfl
      · dsimp only
        rw [ih rest fun chunk' hchunk' => h chunk' (List.mem_cons_of_mem _ hchunk')]

theorem extract_nil : backendFraming.extract [] = .ok none := rfl

theorem readLoop_nil {reads : List Bytes} (h : ∀ chunk ∈ reads, chunk ≠ []) :
    readLoop [] reads = ((backendFraming.drain reads.flatten).1,
      match (backendFraming.drain reads.flatten).2 with
      | .error e => .failed e
      | .ok rest => .waiting rest) := by
  rw [readLoop_feed [] h, backendFraming.feed_eq_drain extract_nil, List.nil_append]

/-- **Framing does not depend on the reads.** Two ways to cut a stream give the same frames and the same
end; a stream of whole frames and a part of one gives these frames and waits with the part; and a frame
takes at least its header from the buffer. -/
theorem framing :
    (∀ reads reads' : List Bytes, (∀ chunk ∈ reads, chunk ≠ []) → (∀ chunk ∈ reads', chunk ≠ []) →
      reads.flatten = reads'.flatten → readLoop [] reads = readLoop [] reads') ∧
    (∀ (frames : List BackendFrame) (last : BackendFrame) (p : Bytes) (reads : List Bytes),
      (∀ frame ∈ frames, Fits frame) → Fits last → p <+: encodeFrame last → p ≠ encodeFrame last →
        (∀ chunk ∈ reads, chunk ≠ []) → reads.flatten = encodeAll frames ++ p →
          readLoop [] reads = (frames, .waiting p)) ∧
    ∀ (buf rest : Bytes) (frame : BackendFrame), tryExtractFrame buf = .ok (some (frame, rest)) →
      rest.length + backendHeaderSize ≤ buf.length := by
  refine ⟨fun reads reads' h h' heq => ?_, fun frames last p reads hframes hlast hpart hproper h heq => ?_,
    fun buf rest frame => tryExtract_shorter⟩
  · rw [readLoop_nil h, readLoop_nil h', heq]
  · have hdrain := Framing.drain_encoded (X := backendFraming)
      (fun frame hframe => extract_encodeFrame (hframes frame hframe)) p
    rw [Framing.drain_none (extract_part hlast hpart hproper), List.append_nil] at hdrain
    rw [readLoop_nil h, heq, encodeAll, hdrain]

/-- A frame and a half, in two reads. -/
theorem framing_two_reads :
    readLoop [] [(encodeFrame ⟨102, 7, 0, 0, [1]⟩).take 3,
        (encodeFrame ⟨102, 7, 0, 0, [1]⟩).drop 3 ++ (encodeFrame ⟨101, 8, -1, 2, []⟩).take 9] =
      ([⟨102, 7, 0, 0, [1]⟩], .waiting ((encodeFrame ⟨101, 8, -1, 2, []⟩).take 9)) :=
  framing.2.1 [⟨102, 7, 0, 0, [1]⟩] ⟨101, 8, -1, 2, []⟩ _ _ (by decide) (by decide) (List.take_prefix ..)
    (by decide) (by decide) (by decide)

/-! ### The hand-over -/

/-- What the gateway sends on a connection, and how it arrives: control frames before the answer, the
answer, and the frames behind it, each with a length that its first field can hold. -/
structure Handover (before : List BackendFrame) (answer : BackendFrame) (after : List BackendFrame)
    (reads : List Bytes) : Prop where
  encodable : ∀ frame ∈ before ++ answer :: after, wireSize frame < 2 ^ 32
  skipped : ∀ frame ∈ before, frame.cmd = backendCmdControl ∧
    ∃ message, m.decode frame.msgId frame.payload = .ok message ∧
      ∀ code servers, message ≠ .serverRegResp code servers
  accepted : answer.cmd = backendCmdControl ∧
    ∃ servers, m.decode answer.msgId answer.payload = .ok (.serverRegResp 0 servers)
  nonempty : ∀ chunk ∈ reads, chunk ≠ []
  stream : reads.flatten = encodeAll before ++ (encodeFrame answer ++ encodeAll after)

/-- The frames of which the last byte is among the first `n` bytes. -/
def arrived : List BackendFrame → Nat → List BackendFrame
  | [], _ => []
  | frame :: frames, n => if wireSize frame ≤ n then frame :: arrived frames (n - wireSize frame) else []

/-- The end of the answer in the stream. -/
def answerEnd (before : List BackendFrame) (answer : BackendFrame) : Nat :=
  (encodeAll before ++ encodeFrame answer).length

/-- After every read, the handler has been called with the frames behind the answer that have arrived. -/
def Prompt (before : List BackendFrame) (answer : BackendFrame) (after : List BackendFrame)
    (reads : List Bytes) : Prop :=
  ∀ k, received m (reads.take k) =
    arrived after ((reads.take k).flatten.length - answerEnd before answer)

/-- When the gateway closes the connection after the reads, the handler has been called with every frame
behind the answer, in order. -/
def Complete (after : List BackendFrame) (reads : List Bytes) : Prop :=
  received m (reads ++ [[]]) = after

/-- The frame has one of the two commands that have a handler. -/
def Dispatched (frame : BackendFrame) : Prop := frame.cmd = backendCmdControl ∨ frame.cmd = backendCmdBusiness

instance (frame : BackendFrame) : Decidable (Dispatched frame) := inferInstanceAs (Decidable (_ ∨ _))

/-- No read brings the end of the answer together with the whole first frame behind it. -/
def Apart (before : List BackendFrame) (answer : BackendFrame) (after : List BackendFrame)
    (reads : List Bytes) : Prop :=
  ∀ first rest, after = first :: rest → ∀ k,
    ¬ ((reads.take k).flatten.length < answerEnd before answer ∧
      answerEnd before answer + wireSize first ≤ (reads.take (k + 1)).flatten.length)

variable {m} {before after : List BackendFrame} {answer : BackendFrame} {reads : List Bytes}

theorem wireSize_pos (frame : BackendFrame) : 0 < wireSize frame := by
  rw [wireSize, backendHeaderSize]
  omega

theorem arrived_zero (frames : List BackendFrame) : arrived frames 0 = [] := by
  cases frames with
  | nil => rfl
  | cons frame frames => exact if_neg (Nat.not_le.2 (wireSize_pos frame))

theorem encodeAll_cons (frame : BackendFrame) (frames : List BackendFrame) :
    encodeAll (frame :: frames) = encodeFrame frame ++ encodeAll frames := rfl

theorem prefix_encode {frame : BackendFrame} {p more : Bytes} (h : p <+: encodeFrame frame ++ more) :
    p.length < wireSize frame ∧ p <+: encodeFrame frame ∨
      ∃ p', p = encodeFrame frame ++ p' ∧ p' <+: more := by
  rw [← length_encodeFrame]
  by_cases hlen : p.length < (encodeFrame frame).length
  · exact Or.inl ⟨hlen, List.prefix_of_prefix_length_le h (List.prefix_append ..) hlen.le⟩
  · obtain ⟨p', rfl⟩ := List.prefix_of_prefix_length_le (List.prefix_append _ more) h (Nat.not_lt.1 hlen)
    exact Or.inr ⟨p', rfl, (List.prefix_append_right_inj _).1 h⟩

theorem extract_short {frame : BackendFrame} (h : Fits frame) {p : Bytes}
    (hpart : p <+: encodeFrame frame) (hshort : p.length < wireSize frame) :
    backendFraming.extract p = .ok none := by
  refine extract_part h hpart ?_
  rintro rfl
  rw [length_encodeFrame] at hshort
  exact lt_irrefl _ hshort

theorem drain_arrived {frames : List BackendFrame} (h : ∀ frame ∈ frames, Fits frame) {p : Bytes}
    (hpart : p <+: encodeAll frames) : (backendFraming.drain p).1 = arrived frames p.length := by
  induction frames generalizing p with
  | nil =>
      obtain rfl := List.prefix_nil.1 hpart
      rw [Framing.drain_none extract_nil]
      rfl
  | cons frame frames ih =>
      have hframe := h frame List.mem_cons_self
      rw [encodeAll_cons] at hpart
      rw [arrived]
      rcases prefix_encode hpart with ⟨hshort, hpart⟩ | ⟨p', rfl, hrest⟩
      · rw [Framing.drain_none (extract_short hframe hpart hshort), if_neg (Nat.not_le.2 hshort)]
      · rw [Framing.drain_some (extract_encodeFrame hframe p'), List.length_append, length_encodeFrame,
          if_pos (Nat.le_add_right ..), Nat.add_sub_cancel_left,
          ih (fun frame' hframe' => h frame' (List.mem_cons_of_mem _ hframe')) hrest]

theorem registerStream_seek (buf : Bytes) {reads : List Bytes} (h : ∀ chunk ∈ reads, chunk ≠ []) :
    registerStream m buf reads =
      (backendFraming.seek (registrationAnswer m) buf reads).map
        (Option.map fun found => (found.2.1, found.2.2)) := by
  induction reads generalizing buf with
  | nil => rfl
  | cons chunk reads ih =>
      have hchunk : ¬ chunk.length = 0 := fun hlen =>
        h chunk List.mem_cons_self (List.eq_nil_of_length_eq_zero hlen)
      rw [registerStream, if_neg hchunk, Framing.seek]
      rcases backendFraming.scan (registrationAnswer m) (buf ++ chunk) with e | ⟨_ | ⟨⟩, rest⟩
      · rfl
      · exact ih rest fun chunk' hchunk' => h chunk' (List.mem_cons_of_mem _ hchunk')
      · rfl

theorem readLoop_eof (buf : Bytes) (reads : List Bytes) :
    (readLoop buf (reads ++ [[]])).1 = (readLoop buf reads).1 := by
  induction reads generalizing buf with
  | nil => rfl
  | cons chunk reads ih =>
      rw [List.cons_append, readLoop, readLoop]
      split_ifs
      · rfl
      · rcases extractFrames (buf ++ chunk) with ⟨frames, e | rest⟩
        · rfl
        · dsimp only
          rw [ih]

theorem received_eq (reads : List Bytes) :
    received m reads = (connection m reads).filter fun frame => Dispatched frame := by
  rw [received]
  induction connection m reads with
  | nil => rfl
  | cons frame frames ih =>
      rw [List.filterMap_cons, List.filter_cons, dispatchFrame]
      by_cases hcontrol : frame.cmd = backendCmdControl
      · rw [if_pos hcontrol, if_pos (decide_eq_true (show Dispatched frame from Or.inl hcontrol)), ← ih]
        rfl
      · by_cases hbusiness : frame.cmd = backendCmdBusiness
        · rw [if_neg hcontrol, if_pos hbusiness,
            if_pos (decide_eq_true (show Dispatched frame from Or.inr hbusiness)), ← ih]
          rfl
        · rw [if_neg hcontrol, if_neg hbusiness, if_neg (by simp [Dispatched, hcontrol, hbusiness]), ← ih]

theorem received_of_forall (h : ∀ frame ∈ connection m reads, Dispatched frame) :
    received m reads = connection m reads := by
  rw [received_eq, List.filter_eq_self]
  exact fun frame hframe => decide_eq_true (h frame hframe)

theorem mem_of_arrived {frame : BackendFrame} {frames : List BackendFrame} {n : Nat}
    (h : frame ∈ arrived frames n) : frame ∈ frames := by
  induction frames generalizing n with
  | nil => cases h
  | cons first frames ih =>
      rw [arrived] at h
      split_ifs at h
      · rcases List.mem_cons.1 h with rfl | h
        · exact List.mem_cons_self
        · exact List.mem_cons_of_mem _ (ih h)
      · cases h

/-! #### Frames that are too large -/

theorem extract_large {frame : BackendFrame} (h : ¬ Fits frame) (hencodable : wireSize frame < 2 ^ 32)
    (more : Bytes) : ∃ e, backendFraming.extract (encodeFrame frame ++ more) = .error e := by
  refine ⟨_, (tryExtractFrame_encode frame hencodable more).trans (if_pos ?_)⟩
  exact Nat.lt_of_not_le h

theorem drain_large {frames : List BackendFrame} (hencodable : ∀ frame ∈ frames, wireSize frame < 2 ^ 32)
    (h : ∃ frame ∈ frames, ¬ Fits frame) :
    (backendFraming.drain (encodeAll frames)).1.length < frames.length := by
  induction frames with
  | nil => simp at h
  | cons frame frames ih =>
      rw [encodeAll_cons]
      by_cases hframe : Fits frame
      · have hrest : ∃ frame ∈ frames, ¬ Fits frame := by simpa [hframe] using h
        rw [Framing.drain_some (extract_encodeFrame hframe _), List.length_cons, List.length_cons]
        have hshort := ih (fun frame' hframe' => hencodable frame' (List.mem_cons_of_mem _ hframe')) hrest
        omega
      · obtain ⟨e, hextract⟩ := extract_large hframe (hencodable frame List.mem_cons_self) (encodeAll frames)
        rw [Framing.drain_error hextract]
        exact Nat.succ_pos _

/-- Where the registration ends, a scan of what has arrived until then ends too. -/
theorem registerStream_some {buf rest : Bytes} {left : List Bytes}
    (h : registerStream m buf reads = .ok (some (rest, left))) :
    ∃ part, reads.flatten = part ++ left.flatten ∧
      backendFraming.scan (registrationAnswer m) (buf ++ part) = .ok (some (), rest) := by
  induction reads generalizing buf with
  | nil => cases h
  | cons chunk reads ih =>
      rw [registerStream] at h
      split_ifs at h
      rcases hscan : backendFraming.scan (registrationAnswer m) (buf ++ chunk) with e | ⟨_ | ⟨⟩, rest'⟩
      · rw [hscan] at h
        cases h
      · rw [hscan] at h
        obtain ⟨part, hpart, hfound⟩ := ih h
        refine ⟨chunk ++ part, by rw [List.flatten_cons, hpart, List.append_assoc], ?_⟩
        rw [← List.append_assoc, Framing.scan_append, hscan]
        exact hfound
      · rw [hscan] at h
        cases h
        exact ⟨chunk, List.flatten_cons, hscan⟩

theorem readLoop_drain (buf : Bytes) (reads : List Bytes) :
    (readLoop buf reads).1 <+: (backendFraming.drain (buf ++ reads.flatten)).1 := by
  induction reads generalizing buf with
  | nil => exact List.nil_prefix
  | cons chunk reads ih =>
      rw [readLoop, List.flatten_cons, ← List.append_assoc, Framing.drain_append, extractFrames]
      split_ifs
      · exact List.nil_prefix
      · rcases backendFraming.drain (buf ++ chunk) with ⟨frames, e | rest⟩
        · exact ⟨[], List.append_nil _⟩
        · exact (List.prefix_append_right_inj frames).2 (ih rest)

theorem exists_read {k : Nat} (hk : answerEnd before answer ≤ (reads.take k).flatten.length) :
    ∃ j, j < k ∧ (reads.take j).flatten.length < answerEnd before answer ∧
      answerEnd before answer ≤ (reads.take (j + 1)).flatten.length := by
  induction k with
  | zero =>
      rw [List.take_zero, answerEnd, List.length_append, length_encodeFrame] at hk
      have hpos := wireSize_pos answer
      rw [List.flatten_nil, List.length_nil] at hk
      omega
  | succ k ih =>
      by_cases hlast : (reads.take k).flatten.length < answerEnd before answer
      · exact ⟨k, Nat.lt_succ_self k, hlast, hk⟩
      · obtain ⟨j, hj, hread⟩ := ih (Nat.not_lt.1 hlast)
        exact ⟨j, Nat.lt_succ_of_lt hj, hread⟩

namespace Handover

theorem skips (h : Handover m before answer after reads) :
    ∀ frame ∈ before, registrationAnswer m frame = .ok none := by
  intro frame hframe
  obtain ⟨hcmd, message, hdecode, hother⟩ := h.skipped frame hframe
  rw [registrationAnswer, if_neg (not_not.2 hcmd), hdecode]
  cases message with
  | serverRegResp code servers => exact absurd rfl (hother code servers)
  | _ => rfl

theorem accepts (h : Handover m before answer after reads) :
    registrationAnswer m answer = .ok (some ()) := by
  obtain ⟨hcmd, servers, hdecode⟩ := h.accepted
  rw [registrationAnswer, if_neg (not_not.2 hcmd), hdecode]
  exact if_pos rfl

theorem scan_before (h : Handover m before answer after reads)
    (hfits : ∀ frame ∈ before ++ [answer], Fits frame) {p : Bytes}
    (hpart : p <+: encodeAll before ++ encodeFrame answer) (hshort : p.length < answerEnd before answer) :
    ∃ rest, backendFraming.scan (registrationAnswer m) p = .ok (none, rest) := by
  have hskips := h.skips
  clear h
  induction before generalizing p with
  | nil =>
      rw [answerEnd, encodeAll, List.map_nil, List.flatten_nil, List.nil_append, length_encodeFrame] at hshort
      exact ⟨p, Framing.scan_none (extract_short (hfits answer List.mem_cons_self) hpart hshort)⟩
  | cons frame frames ih =>
      rw [encodeAll_cons, List.append_assoc] at hpart
      have hframe := hfits frame List.mem_cons_self
      rcases prefix_encode hpart with ⟨hpart, hpart'⟩ | ⟨p', rfl, hrest⟩
      · exact ⟨p, Framing.scan_none (extract_short hframe hpart' hpart)⟩
      · rw [Framing.scan_skip (extract_encodeFrame hframe p') (hskips frame List.mem_cons_self)]
        refine ih (fun frame' h => hfits frame' (List.mem_cons_of_mem _ h)) hrest ?_
          fun frame' h => hskips frame' (List.mem_cons_of_mem _ h)
        rw [answerEnd, encodeAll_cons, List.append_assoc, List.length_append] at hshort
        rw [List.length_append] at hshort
        exact Nat.lt_of_add_lt_add_left hshort

theorem scan_answer (h : Handover m before answer after reads)
    (hfits : ∀ frame ∈ before ++ [answer], Fits frame) (p : Bytes) :
    backendFraming.scan (registrationAnswer m) (encodeAll before ++ (encodeFrame answer ++ p)) =
      .ok (some (), p) := by
  rw [encodeAll, Framing.scan_encoded (fun frame hframe => extract_encodeFrame (hfits frame (by simp [hframe])))
    h.skips, Framing.scan_stop (extract_encodeFrame (hfits answer (by simp)) p) h.accepts]

theorem scan_large (h : Handover m before answer after reads) (hlarge : ∃ frame ∈ before ++ [answer], ¬ Fits frame)
    (p : Bytes) : ∃ e, backendFraming.scan (registrationAnswer m) (encodeAll before ++ (encodeFrame answer ++ p)) =
      .error e := by
  have hskips := h.skips
  have hencodable : ∀ frame ∈ before ++ [answer], wireSize frame < 2 ^ 32 := by
    refine fun frame hframe => h.encodable frame ?_
    rw [List.append_cons]
    exact List.mem_append_left _ hframe
  clear h
  induction before with
  | nil =>
      obtain ⟨e, hextract⟩ := extract_large (by simpa using hlarge) (hencodable answer List.mem_cons_self) p
      exact ⟨e, Framing.scan_error hextract⟩
  | cons frame frames ih =>
      rw [encodeAll_cons, List.append_assoc]
      by_cases hframe : Fits frame
      · rw [Framing.scan_skip (extract_encodeFrame hframe _) (hskips frame List.mem_cons_self)]
        refine ih ?_ (fun frame' h => hskips frame' (List.mem_cons_of_mem _ h))
          fun frame' h => hencodable frame' (List.mem_cons_of_mem _ h)
        simpa [hframe] using hlarge
      · obtain ⟨e, hextract⟩ := extract_large hframe (hencodable frame List.mem_cons_self)
          (encodeAll frames ++ (encodeFrame answer ++ p))
        exact ⟨e, Framing.scan_error hextract⟩

theorem take_prefix (h : Handover m before answer after reads) (k : Nat) :
    (reads.take k).flatten <+: encodeAll before ++ (encodeFrame answer ++ encodeAll after) := by
  rw [← h.stream]
  conv_rhs => rw [← List.take_append_drop k reads, List.flatten_append]
  exact List.prefix_append ..

theorem take_answer (h : Handover m before answer after reads) {k : Nat}
    (hk : answerEnd before answer ≤ (reads.take k).flatten.length) :
    ∃ p, (reads.take k).flatten = encodeAll before ++ (encodeFrame answer ++ p) ∧ p <+: encodeAll after := by
  have hpart := h.take_prefix k
  rw [← List.append_assoc] at hpart
  obtain ⟨p, hp⟩ := List.prefix_of_prefix_length_le (List.prefix_append _ (encodeAll after)) hpart hk
  rw [← hp] at hpart ⊢
  exact ⟨p, List.append_assoc .., (List.prefix_append_right_inj _).1 hpart⟩

theorem scan_take (h : Handover m before answer after reads)
    (hfits : ∀ frame ∈ before ++ [answer], Fits frame) {k : Nat}
    (hk : (reads.take k).flatten.length < answerEnd before answer) :
    ∃ rest, backendFraming.scan (registrationAnswer m) ([] ++ (reads.take k).flatten) = .ok (none, rest) := by
  refine h.scan_before hfits (List.prefix_of_prefix_length_le (h.take_prefix k) ?_ hk.le) hk
  rw [← List.append_assoc]
  exact List.prefix_append ..

theorem nonempty_take (h : Handover m before answer after reads) (k : Nat) :
    ∀ chunk ∈ reads.take k, chunk ≠ [] := fun chunk hchunk => h.nonempty chunk (List.mem_of_mem_take hchunk)

theorem connection_before (h : Handover m before answer after reads)
    (hfits : ∀ frame ∈ before ++ [answer], Fits frame) {k : Nat}
    (hk : (reads.take k).flatten.length < answerEnd before answer) : connection m (reads.take k) = [] := by
  obtain ⟨rest, hscan⟩ := h.scan_take hfits hk
  rw [connection, registerStream_seek [] (h.nonempty_take k),
    backendFraming.seek_none extract_nil hscan]
  rfl

/-- With that read the registration is over: what has arrived behind the answer is handed over. -/
theorem registerStream_take (h : Handover m before answer after reads)
    (hfits : ∀ frame ∈ before ++ [answer], Fits frame) {j : Nat} {p : Bytes}
    (hj : (reads.take j).flatten.length < answerEnd before answer)
    (hp : (reads.take (j + 1)).flatten = encodeAll before ++ (encodeFrame answer ++ p)) :
    registerStream m [] (reads.take (j + 1)) = .ok (some (p, [])) := by
  obtain ⟨rest, hscan⟩ := h.scan_take hfits hj
  have hlt : j < reads.length := by
    by_contra hge
    rw [List.take_of_length_le (by omega : reads.length ≤ j + 1)] at hp
    rw [List.take_of_length_le (Nat.not_lt.1 hge), hp, answerEnd, ← List.append_assoc,
      List.length_append ] at hj
    omega
  have htake : reads.take (j + 1) = reads.take j ++ [reads[j]] := (List.take_append_getElem hlt).symm
  rw [registerStream_seek [] (h.nonempty_take _), htake,
    backendFraming.seek_some (r := ()) extract_nil hscan]
  · rfl
  · rw [htake, List.flatten_append, List.flatten_singleton] at hp
    rw [List.nil_append, hp]
    exact h.scan_answer hfits p

end Handover

theorem registerStream_append {buf rest : Bytes} {left : List Bytes}
    (h : registerStream m buf reads = .ok (some (rest, left))) (more : List Bytes) :
    registerStream m buf (reads ++ more) = .ok (some (rest, left ++ more)) := by
  induction reads generalizing buf with
  | nil => cases h
  | cons chunk reads ih =>
      rw [List.cons_append, registerStream]
      rw [registerStream] at h
      split_ifs at h ⊢ with hchunk
      rcases hscan : backendFraming.scan (registrationAnswer m) (buf ++ chunk) with e | ⟨_ | ⟨⟩, rest'⟩
      · rw [hscan] at h
        cases h
      · rw [hscan] at h
        exact ih h
      · rw [hscan] at h
        cases h
        rfl

namespace Handover

/-- What is dispatched after the read that brings the end of the answer: nothing with that read, and with
the next one everything that has arrived. -/
theorem connection_after (h : Handover m before answer after reads)
    (hfits : ∀ frame ∈ before ++ [answer], Fits frame) (hafter : ∀ frame ∈ after, Fits frame) {j : Nat}
    (hj : (reads.take j).flatten.length < answerEnd before answer)
    (hj' : answerEnd before answer ≤ (reads.take (j + 1)).flatten.length) (i : Nat) :
    connection m (reads.take (j + 1 + i)) = if (reads.drop (j + 1)).take i = [] then [] else
      arrived after ((reads.take (j + 1 + i)).flatten.length - answerEnd before answer) := by
  obtain ⟨p, hp, -⟩ := h.take_answer hj'
  have hregister := registerStream_append (h.registerStream_take hfits hj hp) ((reads.drop (j + 1)).take i)
  rw [← List.take_add, List.nil_append] at hregister
  rw [connection, hregister]
  dsimp only
  rcases hlater : (reads.drop (j + 1)).take i with _ | ⟨chunk, later⟩
  · rfl
  · rw [if_neg (by simp)]
    have hnonempty : ∀ c ∈ chunk :: later, c ≠ [] := fun c hc =>
      h.nonempty c (List.mem_of_mem_drop (List.mem_of_mem_take (hlater ▸ hc)))
    rw [readLoop_feed p hnonempty, Framing.feed_cons]
    have hstream : (reads.take (j + 1 + i)).flatten =
        encodeAll before ++ (encodeFrame answer ++ (p ++ (chunk ++ later.flatten))) := by
      rw [List.take_add, hlater, List.flatten_append, hp, List.flatten_cons]
      simp only [List.append_assoc]
    have hpart := h.take_prefix (j + 1 + i)
    rw [hstream, ← List.append_assoc, ← List.append_assoc (encodeAll before),
      List.prefix_append_right_inj] at hpart
    have hlength : (reads.take (j + 1 + i)).flatten.length =
        answerEnd before answer + (p ++ (chunk ++ later.flatten)).length := by
      rw [hstream, answerEnd, ← List.append_assoc, List.length_append]
    rw [drain_arrived hafter hpart, hlength, Nat.add_sub_cancel_left]

theorem connection_large (h : Handover m before answer after reads)
    (hlarge : ∃ frame ∈ before ++ [answer], ¬ Fits frame) {reads' : List Bytes}
    (hpart : reads'.flatten <+: reads.flatten) : connection m reads' = [] := by
  rw [connection]
  rcases hregister : registerStream m [] reads' with e | _ | ⟨rest, left⟩
  · rfl
  · rfl
  · obtain ⟨part, heq, hscan⟩ := registerStream_some hregister
    obtain ⟨more, hmore⟩ := hpart
    obtain ⟨e, herror⟩ := h.scan_large hlarge (encodeAll after)
    rw [← h.stream, ← hmore, heq, List.append_assoc, Framing.scan_append, ← List.nil_append part, hscan] at herror
    cases herror

theorem connection_drain (h : Handover m before answer after reads) {reads' : List Bytes}
    (hpart : reads'.flatten <+: reads.flatten) :
    connection m reads' <+: (backendFraming.drain (encodeAll after)).1 := by
  by_cases hfits : ∀ frame ∈ before ++ [answer], Fits frame
  · rw [connection]
    rcases hregister : registerStream m [] reads' with e | _ | ⟨rest, left⟩
    · exact List.nil_prefix
    · exact List.nil_prefix
    · obtain ⟨part, heq, hscan⟩ := registerStream_some hregister
      obtain ⟨more, hmore⟩ := hpart
      have hanswer := h.scan_answer hfits (encodeAll after)
      rw [← h.stream, ← hmore, heq, List.append_assoc, Framing.scan_append, ← List.nil_append part, hscan] at hanswer
      have hrest : rest ++ (left.flatten ++ more) = encodeAll after :=
        (Prod.mk.inj (Except.ok.inj hanswer)).2
      refine (readLoop_drain rest left).trans (Framing.drain_mono _ ?_)
      rw [← hrest, ← List.append_assoc]
      exact List.prefix_append ..
  · rw [h.connection_large (by simpa only [not_forall, exists_prop] using hfits) hpart]
    exact List.nil_prefix

end Handover

namespace Handover

/-- The handler gets every frame as it arrives if all frames fit and have a handler, and the first frame behind
the answer comes apart from it. -/
theorem prompt (h : Handover m before answer after reads) (hfits : ∀ frame ∈ before ++ [answer], Fits frame)
    (hafter : ∀ frame ∈ after, Fits frame) (hdispatched : ∀ frame ∈ after, Dispatched frame)
    (hapart : Apart before answer after reads) : Prompt m before answer after reads := by
  intro k
  have hconnection : connection m (reads.take k) =
      arrived after ((reads.take k).flatten.length - answerEnd before answer) := by
    by_cases hk : (reads.take k).flatten.length < answerEnd before answer
    · rw [h.connection_before hfits hk, Nat.sub_eq_zero_of_le hk.le, arrived_zero]
    · obtain ⟨j, hjk, hj, hj'⟩ := exists_read (Nat.not_lt.1 hk)
      obtain ⟨i, rfl⟩ := Nat.exists_eq_add_of_le (Nat.succ_le_of_lt hjk)
      rw [Nat.succ_eq_add_one, h.connection_after hfits hafter hj hj']
      split_ifs with hlater
      · -- No read after it: the first frame has not arrived.
        rw [List.take_add, hlater, List.append_nil]
        cases after with
        | nil => rfl
        | cons first rest =>
            have hfirst := hapart first rest rfl j
            rw [arrived, if_neg]
            intro hle
            exact hfirst ⟨hj, by omega⟩
      · rfl
  rw [received_of_forall, hconnection]
  intro frame hframe
  rw [hconnection] at hframe
  exact hdispatched frame (mem_of_arrived hframe)

/-- The end of the connection changes nothing once the answer has arrived. -/
theorem connection_closed (h : Handover m before answer after reads)
    (hfits : ∀ frame ∈ before ++ [answer], Fits frame) : connection m (reads ++ [[]]) = connection m reads := by
  have htotal : answerEnd before answer ≤ (reads.take reads.length).flatten.length := by
    rw [List.take_length, h.stream, ← List.append_assoc]
    exact (List.prefix_append ..).length_le
  obtain ⟨j, -, hj, hj'⟩ := exists_read htotal
  obtain ⟨p, hp, -⟩ := h.take_answer hj'
  have hregister := registerStream_append (h.registerStream_take hfits hj hp)
  have hreads := hregister (reads.drop (j + 1))
  have hclosed := hregister (reads.drop (j + 1) ++ [[]])
  rw [List.take_append_drop, List.nil_append] at hreads
  rw [← List.append_assoc, List.take_append_drop, List.nil_append] at hclosed
  rw [connection, connection, hreads, hclosed]
  exact readLoop_eof p _

theorem complete (h : Handover m before answer after reads) (hfits : ∀ frame ∈ before ++ [answer], Fits frame)
    (hafter : ∀ frame ∈ after, Fits frame) (hprompt : Prompt m before answer after reads) :
    Complete m after reads := by
  have hlast := hprompt reads.length
  rw [List.take_length, h.stream, ← List.append_assoc, answerEnd, List.length_append,
    Nat.add_sub_cancel_left] at hlast
  have hdrain := Framing.drain_encoded (X := backendFraming)
    (fun frame hframe => extract_encodeFrame (hafter frame hframe)) []
  rw [List.append_nil, Framing.drain_none extract_nil, List.append_nil] at hdrain
  rw [Complete, received, h.connection_closed hfits, ← received, hlast,
    ← drain_arrived hafter (List.prefix_refl _)]
  exact congrArg Prod.fst hdrain

theorem received_nil (h : Handover m before answer [] reads) {reads' : List Bytes}
    (hpart : reads'.flatten <+: reads.flatten) : received m reads' = [] := by
  have hnone := h.connection_drain hpart
  rw [encodeAll, List.map_nil, List.flatten_nil, Framing.drain_none extract_nil, List.prefix_nil] at hnone
  rw [received, hnone]
  rfl

theorem fits_of_complete (h : Handover m before answer after reads) (hne : after ≠ [])
    (hcomplete : Complete m after reads) : ∀ frame ∈ before ++ answer :: after, Fits frame := by
  have hpart : (reads ++ [[]]).flatten <+: reads.flatten := ⟨[], by simp⟩
  have hlength : after.length ≤ (connection m (reads ++ [[]])).length := by
    conv_lhs => rw [← show received m (reads ++ [[]]) = after from hcomplete, received_eq]
    exact List.length_filter_le ..
  rw [List.append_cons, List.forall_mem_append]
  constructor
  · by_contra hlarge
    rw [h.connection_large (by simpa only [not_forall, exists_prop] using hlarge) hpart] at hlength
    exact hne (List.eq_nil_of_length_eq_zero (Nat.le_zero.1 hlength))
  · by_contra hlarge
    have hencodable : ∀ frame ∈ after, wireSize frame < 2 ^ 32 := fun frame hframe =>
      h.encodable frame (by simp [hframe])
    have hshort := drain_large hencodable (by simpa only [not_forall, exists_prop] using hlarge)
    exact absurd (hlength.trans (h.connection_drain hpart).length_le) (Nat.not_le.2 hshort)

theorem dispatched_of_complete (hcomplete : Complete m after reads) : ∀ frame ∈ after, Dispatched frame := by
  intro frame hframe
  rw [← show received m (reads ++ [[]]) = after from hcomplete, received_eq] at hframe
  exact of_decide_eq_true (List.mem_filter.1 hframe).2

theorem apart_of_prompt (h : Handover m before answer after reads)
    (hfits : ∀ frame ∈ before ++ [answer], Fits frame) (hafter : ∀ frame ∈ after, Fits frame)
    (hprompt : Prompt m before answer after reads) : Apart before answer after reads := by
  rintro first rest rfl k ⟨hk, hk'⟩
  have hnone := h.connection_after hfits hafter hk (by omega) 0
  have hfirst := hprompt (k + 1)
  rw [List.take_zero, if_pos rfl, Nat.add_zero] at hnone
  rw [received, hnone, arrived, if_pos (by omega)] at hfirst
  cases hfirst

end Handover

/-- **The hand-over.** The handler is called with every frame behind the answer as soon as it has arrived, and
none is lost when the gateway closes the connection, if and only if there is no such frame, or: all frames fit,
every frame behind the answer has a command with a handler, and no read brings the end of the answer together
with the whole first frame behind it. -/
theorem handover (h : Handover m before answer after reads) :
    (Prompt m before answer after reads ∧ Complete m after reads) ↔
      after = [] ∨ (∀ frame ∈ before ++ answer :: after, Fits frame) ∧ (∀ frame ∈ after, Dispatched frame) ∧
        Apart before answer after reads := by
  constructor
  · rintro ⟨hprompt, hcomplete⟩
    by_cases hne : after = []
    · exact Or.inl hne
    · have hfits := h.fits_of_complete hne hcomplete
      have hparts := hfits
      rw [List.append_cons, List.forall_mem_append] at hparts
      exact Or.inr ⟨hfits, Handover.dispatched_of_complete hcomplete, h.apart_of_prompt hparts.1 hparts.2 hprompt⟩
  · rintro (rfl | ⟨hfits, hdispatched, hapart⟩)
    · refine ⟨fun k => ?_, h.received_nil ⟨[], by simp⟩⟩
      rw [h.received_nil]
      · rfl
      · rw [h.stream]
        exact h.take_prefix k
    · rw [List.append_cons, List.forall_mem_append] at hfits
      have hprompt := h.prompt hfits.1 hfits.2 hdispatched hapart
      exact ⟨hprompt, h.complete hfits.1 hfits.2 hprompt⟩

namespace Sample

/-- One message is the answer, the others are pushes. -/
def messages : MessageMap where
  encode _ := (0, [])
  decode msgId _ := .ok (if msgId = 1 then .serverRegResp 0 [] else .sessionOnlinePush msgId.toUInt32)

def accepted : BackendFrame := { cmd := backendCmdControl, msgId := 1, serial := 1, sessionId := 0, payload := [] }

def push : BackendFrame := { cmd := backendCmdControl, msgId := 2, serial := 0, sessionId := 2, payload := [] }

theorem handover_of (reads : List Bytes) (hnonempty : ∀ chunk ∈ reads, chunk ≠ [])
    (hstream : reads.flatten = encodeFrame push ++ (encodeFrame accepted ++ encodeFrame push)) :
    Handover messages [push] accepted [push] reads where
  encodable := by decide
  skipped := by
    intro frame hframe
    rw [List.mem_singleton.1 hframe]
    exact ⟨rfl, .sessionOnlinePush 2, rfl, nofun⟩
  accepted := ⟨rfl, [], rfl⟩
  nonempty := hnonempty
  stream := hstream

end Sample

/-- The push behind the answer comes with a read of its own. -/
theorem handover_apart : Prompt Sample.messages [Sample.push] Sample.accepted [Sample.push]
      [encodeFrame Sample.push ++ encodeFrame Sample.accepted, encodeFrame Sample.push] ∧
    Complete Sample.messages [Sample.push]
      [encodeFrame Sample.push ++ encodeFrame Sample.accepted, encodeFrame Sample.push] := by
  refine (handover (Sample.handover_of _ (by decide) (by decide))).2 (Or.inr ⟨by decide, by decide, ?_⟩)
  rintro first rest heq k ⟨hk, hk'⟩
  obtain ⟨rfl, rfl⟩ := List.cons.inj heq
  rcases k with _ | _ | k
  · exact absurd hk' (by decide)
  · exact absurd hk (by decide)
  · exact absurd hk (by simp; decide)

theorem received_single (chunk : Bytes) : received m [chunk] = [] ∧ received m [chunk, []] = [] := by
  rw [received, received, connection, connection, registerStream, registerStream]
  split_ifs
  · exact ⟨rfl, rfl⟩
  · rcases backendFraming.scan (registrationAnswer m) ([] ++ chunk) with e | ⟨_ | ⟨⟩, rest⟩
    · exact ⟨rfl, rfl⟩
    · exact ⟨rfl, rfl⟩
    · exact ⟨rfl, rfl⟩

/-- The answer and the push behind it come with one read: the push is held back, and lost when the
connection ends. -/
theorem push_lost : ∃ reads, Handover Sample.messages [Sample.push] Sample.accepted [Sample.push] reads ∧
    ¬ Prompt Sample.messages [Sample.push] Sample.accepted [Sample.push] reads ∧
    ¬ Complete Sample.messages [Sample.push] reads := by
  refine ⟨[encodeFrame Sample.push ++ (encodeFrame Sample.accepted ++ encodeFrame Sample.push)],
    Sample.handover_of _ (by decide) (by decide), fun h => ?_, fun h => ?_⟩
  · have hone := h 1
    rw [List.take_of_length_le (Nat.le_refl 1), (received_single _).1] at hone
    exact absurd hone (by decide)
  · exact absurd ((received_single _).2.symm.trans h) (by decide)

end AxmolFighter.Backend.GatewayClient
