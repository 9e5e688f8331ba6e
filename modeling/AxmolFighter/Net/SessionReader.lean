import AxmolFighter.Lib.Bytes
import AxmolFighter.Lib.Framing

/-!
# The reading half of a session

`poll_read` of `base/src/net/net_session.rs`: after each read the delegate takes frames from the buffer and
is called with each of them, until there is no whole frame. An error of the delegate ends the loop, and so
does a buffer that is above 10 MiB after a frame has been handled.

The last cannot happen as long as a read and a frame are short enough together. Then what the delegate is
called with, and how the loop ends, do not depend on how the stream is cut into reads (`pollRead_eq`).
-/

namespace AxmolFighter.Net.NetSession

/-- Where the loop stands after the reads. -/
inductive ReaderEnd
  | waiting (buf : Bytes)
  | closed
  | failed (error : String)
  /-- `on_recv_frame` returns an error -/
  | refused
  | abnormal
deriving DecidableEq

/-- The length above which a buffer is abnormal. -/
def bufferLimit : Nat := 10 * 1024 * 1024

section

variable {F : Type} (X : Framing UInt8 F String) (takes : List F → F → Bool)

/-- The inner loop, on a buffer and the frames that the delegate has been called with. The call for a frame
returns `Ok` if `takes` says so, which may look at the frames before it. -/
def handleFrames (handled : List F) (buf : Bytes) : List F × Except ReaderEnd Bytes :=
  if buf = [] then (handled, .ok buf)
  else
    match _h : X.extract buf with
    | .error e => (handled, .error (.failed e))
    | .ok none => (handled, .ok buf)
    | .ok (some (frame, rest)) =>
        if takes handled frame then
          if bufferLimit < rest.length then (handled ++ [frame], .error .abnormal)
          else handleFrames (handled ++ [frame]) rest
        else (handled ++ [frame], .error .refused)
termination_by buf.length
decreasing_by exact X.shorter ‹_›

/-- The loop on a list of reads; each is what one `read_buf` appends. -/
def pollRead (handled : List F) (buf : Bytes) : List Bytes → List F × ReaderEnd
  | [] => (handled, .waiting buf)
  | chunk :: reads =>
      if chunk.length = 0 then (handled, .closed)
      else
        match handleFrames X takes handled (buf ++ chunk) with
        | (handled, .error e) => (handled, e)
        | (handled, .ok rest) => pollRead handled rest reads

/-- The frames up to the first for which the call fails, and whether none does. -/
def admitted (handled : List F) : List F → List F × Bool
  | [] => (handled, true)
  | frame :: frames => if takes handled frame then admitted (handled ++ [frame]) frames else (handled ++ [frame], false)

/-- What the loop does with all that has come, as if it had come at once. -/
def onStream (handled : List F) (stream : Bytes) : List F × ReaderEnd :=
  let frames := X.drain stream
  let calls := admitted takes handled frames.1
  (calls.1, if calls.2 then
      match frames.2 with
      | .error e => .failed e
      | .ok rest => .waiting rest
    else .refused)

variable {X} {takes} {handled : List F} {buf : Bytes}

theorem admitted_append (frames more : List F) : admitted takes handled (frames ++ more) =
    if (admitted takes handled frames).2 then admitted takes (admitted takes handled frames).1 more
    else admitted takes handled frames := by
  induction frames generalizing handled with
  | nil => simp [admitted]
  | cons frame frames ih =>
    simp only [List.cons_append, admitted]
    split_ifs with hyes hall
    · rw [ih, if_pos hall]
    · rw [ih, if_neg hall]
    · simp_all
    · rfl

theorem admitted_part (handled frames : List F) : (admitted takes handled frames).1 <+: handled ++ frames := by
  induction frames generalizing handled with
  | nil => exact List.prefix_append handled []
  | cons frame frames ih =>
    rw [admitted]
    split_ifs
    · have hrest := ih (handled ++ [frame])
      rwa [List.append_assoc] at hrest
    · exact (List.prefix_append_right_inj handled).2 ⟨frames, rfl⟩

theorem handleFrames_error {e : String} (hne : buf ≠ []) (h : X.extract buf = .error e) :
    handleFrames X takes handled buf = (handled, .error (.failed e)) := by
  rw [handleFrames, if_neg hne]
  split <;> simp_all

theorem handleFrames_none (h : X.extract buf = .ok none) : handleFrames X takes handled buf = (handled, .ok buf) := by
  rw [handleFrames]
  split_ifs
  · rfl
  · split <;> simp_all

theorem handleFrames_some {frame : F} {rest : Bytes} (h : X.extract buf = .ok (some (frame, rest))) :
    handleFrames X takes handled buf =
      if takes handled frame then
        if bufferLimit < rest.length then (handled ++ [frame], .error .abnormal)
        else handleFrames X takes (handled ++ [frame]) rest
      else (handled ++ [frame], .error .refused) := by
  have hne : buf ≠ [] := by
    intro hbuf
    have hshorter := X.shorter h
    rw [hbuf, List.length_nil] at hshorter
    omega
  rw [handleFrames, if_neg hne]
  split <;> simp_all

theorem handleFrames_eq (hnil : X.extract [] = .ok none) (hlimit : buf.length ≤ bufferLimit) :
    handleFrames X takes handled buf =
      ((admitted takes handled (X.drain buf).1).1,
        if (admitted takes handled (X.drain buf).1).2 then (X.drain buf).2.mapError .failed else .error .refused) := by
  induction buf using X.buffer_induction generalizing handled with
  | herror buf e hextract =>
    have hne : buf ≠ [] := by
      rintro rfl
      simp [hnil] at hextract
    rw [handleFrames_error hne hextract, Framing.drain_error hextract]
    simp [admitted, Except.mapError]
  | hnone buf hextract =>
    rw [handleFrames_none hextract, Framing.drain_none hextract]
    simp [admitted, Except.mapError]
  | hsome buf frame rest hextract ih =>
    have hshorter := X.shorter hextract
    rw [handleFrames_some hextract, Framing.drain_some hextract]
    by_cases hyes : takes handled frame = true
    · rw [if_pos hyes, if_neg (by omega), ih (by omega)]
      simp [admitted, hyes]
    · rw [if_neg hyes]
      simp [admitted, hyes]

/-- **The reads do not matter.** If what is no whole frame and a read are together below the limit, the loop
does with the reads what it does with the stream. -/
theorem pollRead_eq {short : Nat} (hshort : ∀ buf, X.extract buf = .ok none → buf.length ≤ short)
    (hbuf : X.extract buf = .ok none) (hnil : X.extract [] = .ok none) {reads : List Bytes}
    (hreads : ∀ chunk ∈ reads, chunk ≠ [] ∧ short + chunk.length ≤ bufferLimit) :
    pollRead X takes handled buf reads = onStream X takes handled (buf ++ reads.flatten) := by
  induction reads generalizing handled buf with
  | nil =>
    simp [pollRead, onStream, Framing.drain_none hbuf, admitted]
  | cons chunk reads ih =>
    obtain ⟨hchunk, hlength⟩ := hreads chunk List.mem_cons_self
    have hlimit : (buf ++ chunk).length ≤ bufferLimit := by
      rw [List.length_append]
      have hle := hshort buf hbuf
      omega
    have hlater : ∀ chunk' ∈ reads, chunk' ≠ [] ∧ short + chunk'.length ≤ bufferLimit := fun chunk' hchunk' =>
      hreads chunk' (List.mem_cons_of_mem _ hchunk')
    rw [pollRead, if_neg (by simpa using hchunk), handleFrames_eq hnil hlimit, List.flatten_cons,
      ← List.append_assoc]
    unfold onStream
    rw [X.drain_append (buf ++ chunk) reads.flatten]
    rcases hdrain : X.drain (buf ++ chunk) with ⟨frames, e | rest⟩
    · simp only
      by_cases hall : (admitted takes handled frames).2 = true
      · simp [hall, Except.mapError]
      · simp [hall]
    · have hrest : X.extract rest = .ok none := X.drain_rest (show (X.drain (buf ++ chunk)).2 = .ok rest by rw [hdrain])
      simp only [admitted_append]
      by_cases hall : (admitted takes handled frames).2 = true
      · simp only [hall, if_true, Except.mapError]
        rw [ih hrest hlater]
        rfl
      · simp [hall]

end

end AxmolFighter.Net.NetSession
