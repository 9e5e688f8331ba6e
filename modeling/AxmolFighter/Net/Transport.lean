import AxmolFighter.Gateway.Delegates
import AxmolFighter.Net.SessionReader
import AxmolFighter.Net.SessionWriter

/-!
# Frames between the gateway and a backend

The two ends of a connection put together. The gateway's writer flushes after every frame and the backend's
read loop takes frames from whatever it reads; the backend writes its frames one after the other and the
gateway's reader hands them to its delegate. In both directions the receiver gets, in order, the frames of
which the last byte has come, so the connection is a queue of frames.
-/

namespace AxmolFighter.Net.NetSession

open Backend.GatewayClient Gateway

/-! ### Reads at the gateway -/

theorem clientHeader_le : 4 ≤ clientHeaderSize := by decide

theorem clientFrame_shorter {buf rest : Bytes} {frame : ClientFrame}
    (h : tryExtractClientFrame buf = .ok (some (frame, rest))) : rest.length < buf.length := by
  have hle := tryExtract_shorter h
  simp only [clientHeaderSize] at hle
  omega

/-- The extractor of the clients' connections. -/
def clientFraming : Framing UInt8 ClientFrame String where
  extract := tryExtractClientFrame
  shorter := clientFrame_shorter
  append_some := tryExtract_append_some clientHeader_le
  append_error := tryExtract_append_error clientHeader_le

/-- What `on_try_extract_frame` gives for a client: the frame without its length. -/
def clientBodies : Framing UInt8 Bytes String := clientFraming.map ClientFrame.body

/-- What `on_try_extract_frame` gives for a backend. -/
def backendBodies : Framing UInt8 Bytes String := backendFraming.map BackendFrame.body

theorem clientBodies_extract (buf : Bytes) : clientBodies.extract buf = ClientDelegate.onTryExtractFrame buf := by
  show (tryExtractClientFrame buf).map _ = _
  unfold ClientDelegate.onTryExtractFrame
  rcases tryExtractClientFrame buf with e | _ | ⟨frame, rest⟩ <;> rfl

theorem backendBodies_extract (buf : Bytes) : backendBodies.extract buf = InternalDelegate.onTryExtractFrame buf := by
  show (tryExtractFrame buf).map _ = _
  unfold InternalDelegate.onTryExtractFrame
  rcases tryExtractFrame buf with e | _ | ⟨frame, rest⟩ <;> rfl

theorem tryExtract_none {F : Type} {headerSize : Nat} {invalid large : Nat → String} {ofBody : Bytes → F}
    {buf : Bytes} (hheader : headerSize ≤ maxPacketSize)
    (h : tryExtract headerSize invalid large ofBody buf = .ok none) : buf.length ≤ maxPacketSize := by
  simp only [tryExtract] at h
  split_ifs at h with hshort hinvalid hlarge hmissing
  · omega
  · omega
  · simp at h

theorem length_clientBodies {buf : Bytes} (h : clientBodies.extract buf = .ok none) : buf.length ≤ maxPacketSize := by
  rcases hextract : tryExtractClientFrame buf with e | _ | frame
  · simp [clientBodies, clientFraming, Framing.map, hextract, Except.map] at h
  · exact tryExtract_none (by decide) hextract
  · simp [clientBodies, clientFraming, Framing.map, hextract, Except.map] at h

theorem length_backendBodies {buf : Bytes} (h : backendBodies.extract buf = .ok none) : buf.length ≤ maxPacketSize := by
  rcases hextract : tryExtractFrame buf with e | _ | frame
  · simp [backendBodies, backendFraming, Framing.map, hextract, Except.map] at h
  · exact tryExtract_none (by decide) hextract
  · simp [backendBodies, backendFraming, Framing.map, hextract, Except.map] at h

/-- A read takes at least a byte, and at most what keeps the buffer below its limit. -/
def Moderate (reads : List Bytes) : Prop := ∀ chunk ∈ reads, chunk ≠ [] ∧ maxPacketSize + chunk.length ≤ bufferLimit

instance (reads : List Bytes) : Decidable (Moderate reads) := inferInstanceAs (Decidable (∀ chunk ∈ reads, _))

/-- **What the gateway handles does not depend on the reads.** Two ways to cut what a client or a backend
sends lead to the same calls of the delegate and the same end; and no buffer becomes abnormal. -/
theorem pollRead_reads (takes : List Bytes → Bytes → Bool) {reads reads' : List Bytes} (h : Moderate reads)
    (h' : Moderate reads') (heq : reads.flatten = reads'.flatten) :
    pollRead clientBodies takes [] [] reads = pollRead clientBodies takes [] [] reads' ∧
      pollRead backendBodies takes [] [] reads = pollRead backendBodies takes [] [] reads' ∧
      (pollRead clientBodies takes [] [] reads).2 ≠ .abnormal ∧
      (pollRead backendBodies takes [] [] reads).2 ≠ .abnormal := by
  have hnormal : ∀ (X : Framing UInt8 Bytes String) (stream : Bytes), (onStream X takes [] stream).2 ≠ .abnormal := by
    intro X stream
    simp only [onStream]
    split_ifs
    · split <;> simp
    · simp
  rw [pollRead_eq (fun _ => length_clientBodies) rfl rfl h, pollRead_eq (fun _ => length_clientBodies) rfl rfl h',
    pollRead_eq (fun _ => length_backendBodies) rfl rfl h, pollRead_eq (fun _ => length_backendBodies) rfl rfl h', heq]
  exact ⟨rfl, rfl, hnormal _ _, hnormal _ _⟩

/-- Two frames of a client, in one read and in three. -/
theorem pollRead_reads_three :
    pollRead clientBodies (fun _ _ => true) [] []
        [encodeClientFrame ⟨1, 7, -1, [5]⟩ ++ encodeClientFrame ⟨1, 8, 0, []⟩] =
      pollRead clientBodies (fun _ _ => true) [] []
        [(encodeClientFrame ⟨1, 7, -1, [5]⟩).take 3, (encodeClientFrame ⟨1, 7, -1, [5]⟩).drop 3,
          encodeClientFrame ⟨1, 8, 0, []⟩] :=
  (pollRead_reads (fun _ _ => true) (by decide) (by decide) (by decide)).1

/-! ### From the gateway to a backend -/

/-- How the gateway sends a frame. -/
def toMessage (frame : BackendFrame) : WriterMessage := .send (encodeFrame frame) true

theorem arrived_prefix (frames : List BackendFrame) (n : Nat) : arrived frames n <+: frames := by
  induction frames generalizing n with
  | nil => exact List.prefix_refl _
  | cons frame frames ih =>
    rw [arrived]
    split_ifs
    · exact (List.prefix_cons_inj frame).2 (ih _)
    · exact List.nil_prefix

theorem arrived_all (frames : List BackendFrame) : arrived frames (encodeAll frames).length = frames := by
  induction frames with
  | nil => rfl
  | cons frame frames ih =>
    rw [encodeAll_cons, List.length_append, length_encodeFrame, arrived, if_pos (Nat.le_add_right _ _),
      Nat.add_sub_cancel_left, ih]

theorem handledPart_frames (frames : List BackendFrame) {ending : List WriterMessage}
    (hending : ∀ message ∈ ending.head?, message.stops = true) :
    handledPart (frames.map toMessage ++ ending) = frames.map toMessage := by
  unfold handledPart
  rw [List.takeWhile_append_of_pos]
  · cases ending with
    | nil => simp
    | cons message ending => simp [hending message rfl]
  · intro message hmessage
    obtain ⟨frame, -, rfl⟩ := List.mem_map.1 hmessage
    rfl

theorem payload_frames (frames : List BackendFrame) {ending : List WriterMessage}
    (hending : ∀ message ∈ ending.head?, message.stops = true) :
    payload (frames.map toMessage ++ ending) = encodeAll frames := by
  rw [payload, handledPart_frames frames hending, List.flatMap_map, encodeAll, ← List.flatMap_def]
  rfl

theorem sink_frames {frames : List BackendFrame} {ending : List WriterMessage} {results : List SinkResult}
    (hending : ∀ message ∈ ending.head?, message.stops = true)
    (hclean : (pollWrite { capacity := writeCapacity } [] (frames.map toMessage ++ ending) results).clean = true) :
    (pollWrite { capacity := writeCapacity } [] (frames.map toMessage ++ ending) results).writer.sink =
      encodeAll frames := by
  rw [sink_pollWrite_clean hclean ?_, payload_frames frames hending]
  intro message hmessage
  rw [handledPart_frames frames hending] at hmessage
  obtain ⟨frame, -, rfl⟩ := List.mem_map.1 hmessage
  rfl

theorem readLoop_arrived {frames : List BackendFrame} {reads : List Bytes} (hfits : ∀ frame ∈ frames, Fits frame)
    (hreads : ∀ chunk ∈ reads, chunk ≠ []) (hpart : reads.flatten <+: encodeAll frames) :
    (readLoop [] reads).1 = arrived frames reads.flatten.length := by
  rw [readLoop_nil hreads]
  exact drain_arrived hfits hpart

theorem admitted_all (handled bodies : List Bytes) :
    admitted (fun _ _ => true) handled bodies = (handled ++ bodies, true) := by
  induction bodies generalizing handled with
  | nil => simp [admitted]
  | cons body bodies ih => simp [admitted, ih]

theorem pollRead_drain {reads : List Bytes} (hreads : Moderate reads) :
    pollRead backendBodies (fun _ _ => true) [] [] reads =
      ((backendFraming.drain reads.flatten).1.map BackendFrame.body,
        match (backendFraming.drain reads.flatten).2 with
        | .error e => .failed e
        | .ok rest => .waiting rest) := by
  have hdrain : backendBodies.drain reads.flatten =
      ((backendFraming.drain reads.flatten).1.map BackendFrame.body, (backendFraming.drain reads.flatten).2) :=
    Framing.drain_map BackendFrame.body reads.flatten
  refine (pollRead_eq (fun _ => length_backendBodies) rfl rfl hreads).trans ?_
  rcases hrest : (backendFraming.drain reads.flatten).2 with e | rest
  · simp [onStream, hdrain, hrest, admitted_all]
  · simp [onStream, hdrain, hrest, admitted_all]

theorem pollRead_arrived {frames : List BackendFrame} {reads : List Bytes} (hfits : ∀ frame ∈ frames, Fits frame)
    (hreads : Moderate reads) (hpart : reads.flatten <+: encodeAll frames) :
    (pollRead backendBodies (fun _ _ => true) [] [] reads).1.map BackendFrame.ofBody =
      arrived frames reads.flatten.length := by
  rw [pollRead_drain hreads, ← drain_arrived hfits hpart, List.map_map]
  refine (List.map_congr_left fun frame _ => ?_).trans (List.map_id _)
  exact frame.ofBody_body

theorem pollRead_waiting {frames : List BackendFrame} {reads : List Bytes} (hfits : ∀ frame ∈ frames, Fits frame)
    (hreads : Moderate reads) (hpart : reads.flatten <+: encodeAll frames) :
    ∃ buf, (pollRead backendBodies (fun _ _ => true) [] [] reads).2 = .waiting buf := by
  obtain ⟨more, hmore⟩ := hpart
  have hwhole := Framing.drain_encoded (X := backendFraming)
    (fun frame hframe => extract_encodeFrame (hfits frame hframe)) []
  rw [List.append_nil, Framing.drain_none extract_nil] at hwhole
  rw [pollRead_drain hreads]
  rcases hleft : (backendFraming.drain reads.flatten).2 with e | rest
  · have happend := backendFraming.drain_append reads.flatten more
    rw [hleft, hmore] at happend
    rw [encodeAll] at happend
    rw [hwhole] at happend
    simp at happend
  · exact ⟨rest, rfl⟩

/-- **The connection from a backend is a queue of frames.** `write_loop` writes the frames of a backend one
after the other. However the gateway reads a part of this, its delegate is called with the frames of which
the last byte has come, in order, and nothing else happens. -/
theorem handled_of_written (frames : List BackendFrame) {reads : List Bytes}
    (hfits : ∀ frame ∈ frames, Fits frame) (hreads : Moderate reads) (hpart : reads.flatten <+: encodeAll frames) :
    let r := pollRead backendBodies (fun _ _ => true) [] [] reads
    r.1.map BackendFrame.ofBody = arrived frames reads.flatten.length ∧ (∃ buf, r.2 = .waiting buf) ∧
      (reads.flatten = encodeAll frames → r.1.map BackendFrame.ofBody = frames) := by
  intro r
  have hbodies : r.1.map BackendFrame.ofBody = arrived frames reads.flatten.length :=
    pollRead_arrived hfits hreads hpart
  refine ⟨hbodies, pollRead_waiting hfits hreads hpart, fun hall => ?_⟩
  rw [hbodies, hall, arrived_all]

/-- A frame and a half. -/
theorem handled_of_written_half :
    (pollRead backendBodies (fun _ _ => true) [] [] [encodeFrame ⟨102, 7, 0, 0, [1]⟩,
        (encodeFrame ⟨101, 8, -1, 2, []⟩).take 9]).1.map BackendFrame.ofBody = [⟨102, 7, 0, 0, [1]⟩] :=
  (handled_of_written [⟨102, 7, 0, 0, [1]⟩, ⟨101, 8, -1, 2, []⟩] (by decide) (by decide)
    (by decide)).1.trans (by decide)

end AxmolFighter.Net.NetSession
