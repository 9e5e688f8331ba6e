import AxmolFighter.Backend.GatewayClient
import AxmolFighter.Lib.BufWriter

/-!
# The writing half of a session

`poll_write` of `base/src/net/net_session.rs` takes the messages of a session's channel one after the other
and writes their data through a buffer of 64 KiB. It flushes when a message says so, but not at its end: what
is in the buffer when `Close` comes is lost. `SendAndThen` calls its callback between the write and the
flush. `SendTo` panics.

The gateway sends every frame with a flush, so what is on the wire when `Close` comes is every frame before
it, and whatever the reads of a backend are, it dispatches these frames in this order.
-/

namespace AxmolFighter.Net.NetSession

inductive WriterMessage
  | close
  | flush
  | closeDelayed
  | send (data : Bytes) (flush : Bool)
  | sendTo (data : Bytes)
  | sendAndThen (data : Bytes) (callback : Nat)
deriving DecidableEq

/-- Where the loop stands: between two messages, in one, or at its end. -/
inductive WriterEnd
  | idle
  | writing
  | closed
  | failed
  | panicked
deriving DecidableEq

/-- What the loop has written, the callbacks that it has called, and where it stands. -/
structure Writing where
  writer : BufWriter UInt8
  called : List Nat
  ended : WriterEnd

/-- `BufWriter::with_capacity(65536, writer)`. -/
def writeCapacity : Nat := 65536

/-- The branch of a message that is no end of the loop, and the callbacks that it calls. -/
def onMessage (w : BufWriter UInt8) (results : List SinkResult) :
    WriterMessage → BufWriter.Outcome UInt8 × List Nat
  | .send data flush =>
      if data = [] then (.done w results, [])
      else
        ((w.writeAll false data results).andThen fun w left => if flush then w.flush left else .done w left, [])
  | .sendAndThen data callback =>
      if data = [] then (.done w results, [callback])
      else
        let written := w.writeAll false data results
        (written.andThen BufWriter.flush, if written.isDone then [callback] else [])
  | .flush => (w.flush results, [])
  | _ => (.done w results, [])

/-- The loop on the messages of the channel, with the socket's answers. -/
def pollWrite (w : BufWriter UInt8) (called : List Nat) : List WriterMessage → List SinkResult → Writing
  | [], _ => ⟨w, called, .idle⟩
  | .close :: _, _ | .closeDelayed :: _, _ => ⟨w, called, .closed⟩
  | .sendTo _ :: _, _ => ⟨w, called, .panicked⟩
  | message :: messages, results =>
      match onMessage w results message with
      | (.done w results, callbacks) => pollWrite w (called ++ callbacks) messages results
      | (.failed w, callbacks) => ⟨w, called ++ callbacks, .failed⟩
      | (.waiting w, callbacks) => ⟨w, called ++ callbacks, .writing⟩

/-! ### Messages -/

namespace WriterMessage

/-- The message ends the loop. -/
def stops : WriterMessage → Bool
  | .close | .closeDelayed | .sendTo _ => true
  | _ => false

def payload : WriterMessage → Bytes
  | .send data _ | .sendAndThen data _ => data
  | _ => []

def callbacks : WriterMessage → List Nat
  | .sendAndThen _ callback => [callback]
  | _ => []

/-- Data are flushed at once. -/
def prompt : WriterMessage → Bool
  | .send data now => now || data.isEmpty
  | _ => true

end WriterMessage

/-- The messages that the loop handles. -/
def handledPart (messages : List WriterMessage) : List WriterMessage := messages.takeWhile fun message => !message.stops

/-- The bytes of the messages that the loop handles. -/
def payload (messages : List WriterMessage) : Bytes := (handledPart messages).flatMap WriterMessage.payload

def callbacksOf (messages : List WriterMessage) : List Nat := (handledPart messages).flatMap WriterMessage.callbacks

section

variable {w w' : BufWriter UInt8} {results left : List SinkResult} {message : WriterMessage} {data : Bytes}
  {now : Bool} {callback : Nat}

theorem onMessage_send (hdata : data ≠ []) : onMessage w results (.send data now) =
    ((w.writeAll false data results).andThen fun w left => if now then w.flush left else .done w left, []) :=
  if_neg hdata

theorem onMessage_sendAndThen (hdata : data ≠ []) : onMessage w results (.sendAndThen data callback) =
    ((w.writeAll false data results).andThen BufWriter.flush,
      if (w.writeAll false data results).isDone then [callback] else []) :=
  if_neg hdata

theorem appends_onMessage (w : BufWriter UInt8) (results : List SinkResult) (message : WriterMessage) :
    BufWriter.Appends w message.payload (onMessage w results message).1 := by
  cases message with
  | send data now =>
    by_cases hdata : data = []
    · simpa [onMessage, WriterMessage.payload, hdata] using w.appends_done results
    · have hthen : ∀ w' left, BufWriter.Appends w' ([] : Bytes) (if now then w'.flush left else .done w' left) := by
        intro w' left
        cases now with
        | true => exact w'.appends_flush left
        | false => exact w'.appends_done left
      rw [onMessage_send hdata]
      simpa [WriterMessage.payload] using (w.appends_writeAll data results).andThen hthen
  | sendAndThen data callback =>
    by_cases hdata : data = []
    · simpa [onMessage, WriterMessage.payload, hdata] using w.appends_done results
    · rw [onMessage_sendAndThen hdata]
      simpa [WriterMessage.payload] using (w.appends_writeAll data results).andThen fun w' left => w'.appends_flush left
  | flush => exact w.appends_flush results
  | close => exact w.appends_done results
  | closeDelayed => exact w.appends_done results
  | sendTo data => exact w.appends_done results

theorem buffer_onMessage (hbuffer : w.buffer = []) (hprompt : message.prompt = true)
    (h : (onMessage w results message).1 = .done w' left) : w'.buffer = [] := by
  have hflush : ∀ o : BufWriter.Outcome UInt8, o.andThen BufWriter.flush = .done w' left → w'.buffer = [] := by
    intro o ho
    cases o with
    | done w left => exact (BufWriter.flush_done ho).1
    | failed w => simp [BufWriter.Outcome.andThen] at ho
    | waiting w => simp [BufWriter.Outcome.andThen] at ho
  have hsame : (.done w results : BufWriter.Outcome UInt8) = .done w' left → w'.buffer = [] := by
    intro hdone
    simp only [BufWriter.Outcome.done.injEq] at hdone
    rw [← hdone.1, hbuffer]
  cases message with
  | send data now =>
    by_cases hdata : data = []
    · simp only [onMessage, hdata, if_true] at h
      exact hsame h
    · have hnow : now = true := by simpa [WriterMessage.prompt, hdata] using hprompt
      rw [onMessage_send hdata] at h
      simp only [hnow, if_true] at h
      exact hflush _ h
  | sendAndThen data callback =>
    by_cases hdata : data = []
    · simp only [onMessage, hdata, if_true] at h
      exact hsame h
    · rw [onMessage_sendAndThen hdata] at h
      exact hflush _ h
  | flush => exact (BufWriter.flush_done h).1
  | close => exact hsame h
  | closeDelayed => exact hsame h
  | sendTo data => exact hsame h

theorem callbacks_onMessage (w : BufWriter UInt8) (results : List SinkResult) (message : WriterMessage) :
    (onMessage w results message).2 <+: message.callbacks ∧
      ((onMessage w results message).1.isDone = true → (onMessage w results message).2 = message.callbacks) := by
  cases message with
  | sendAndThen data callback =>
    by_cases hdata : data = []
    · simp [onMessage, hdata, WriterMessage.callbacks]
    · rw [onMessage_sendAndThen hdata]
      cases hwrite : w.writeAll false data results with
      | done w' left => simp [BufWriter.Outcome.isDone, WriterMessage.callbacks]
      | failed w' => simp [BufWriter.Outcome.isDone, BufWriter.Outcome.andThen]
      | waiting w' => simp [BufWriter.Outcome.isDone, BufWriter.Outcome.andThen]
  | send data now =>
    by_cases hdata : data = []
    · simp [onMessage, hdata, WriterMessage.callbacks]
    · rw [onMessage_send hdata]
      simp [WriterMessage.callbacks]
  | flush => simp [onMessage, WriterMessage.callbacks]
  | close => simp [onMessage, WriterMessage.callbacks]
  | closeDelayed => simp [onMessage, WriterMessage.callbacks]
  | sendTo data => simp [onMessage, WriterMessage.callbacks]

end

/-! ### The loop -/

/-- The loop has come to its end, or to the end of the messages, without an error. -/
def Writing.clean (r : Writing) : Bool := r.ended = .idle || r.ended = .closed

/-- What the loop does with the messages: it writes a part of their bytes, and calls their first callbacks;
all of them if it has not failed, and nothing is left in the buffer if they were prompt. -/
structure Writes (w : BufWriter UInt8) (called : List Nat) (messages : List WriterMessage) (r : Writing) : Prop where
  bytes : r.writer.bytes <+: w.bytes ++ payload messages
  calls : r.called <+: called ++ callbacksOf messages
  bounded : w.buffer.length ≤ w.capacity → r.writer.buffer.length ≤ w.capacity
  all : r.clean = true → r.writer.bytes = w.bytes ++ payload messages ∧ r.called = called ++ callbacksOf messages
  flushed : r.clean = true → w.buffer = [] → (∀ message ∈ handledPart messages, message.prompt = true) →
    r.writer.buffer = []

theorem writes_stop (w : BufWriter UInt8) (called : List Nat) {message : WriterMessage}
    {messages : List WriterMessage} (hstop : message.stops = true) (ended : WriterEnd) :
    Writes w called (message :: messages) ⟨w, called, ended⟩ := by
  have hnone : handledPart (message :: messages) = [] := by simp [handledPart, hstop]
  exact ⟨by simp [payload, hnone], by simp [callbacksOf, hnone], id, fun _ => by simp [payload, callbacksOf, hnone],
    fun _ hbuffer _ => hbuffer⟩

theorem pollWrite_cons {message : WriterMessage} (hgoes : message.stops = false) (w : BufWriter UInt8)
    (called : List Nat) (messages : List WriterMessage) (results : List SinkResult) :
    pollWrite w called (message :: messages) results =
      match onMessage w results message with
      | (.done w results, callbacks) => pollWrite w (called ++ callbacks) messages results
      | (.failed w, callbacks) => ⟨w, called ++ callbacks, .failed⟩
      | (.waiting w, callbacks) => ⟨w, called ++ callbacks, .writing⟩ := by
  cases message with
  | close => simp [WriterMessage.stops] at hgoes
  | closeDelayed => simp [WriterMessage.stops] at hgoes
  | sendTo data => simp [WriterMessage.stops] at hgoes
  | send data now => rfl
  | sendAndThen data callback => rfl
  | flush => rfl

theorem writes_pollWrite (w : BufWriter UInt8) (called : List Nat) (messages : List WriterMessage)
    (results : List SinkResult) : Writes w called messages (pollWrite w called messages results) := by
  induction messages generalizing w called results with
  | nil =>
    exact ⟨by simp [pollWrite, payload, handledPart], by simp [pollWrite, callbacksOf, handledPart], id,
      fun _ => by simp [pollWrite, payload, callbacksOf, handledPart], fun _ hbuffer _ => hbuffer⟩
  | cons message messages ih =>
    by_cases hstop : message.stops = true
    · cases message with
      | close => exact writes_stop w called hstop .closed
      | closeDelayed => exact writes_stop w called hstop .closed
      | sendTo data => exact writes_stop w called hstop .panicked
      | send data now => simp [WriterMessage.stops] at hstop
      | sendAndThen data callback => simp [WriterMessage.stops] at hstop
      | flush => simp [WriterMessage.stops] at hstop
    · have hgoes : message.stops = false := by simpa using hstop
      have hhandled : handledPart (message :: messages) = message :: handledPart messages := by
        simp [handledPart, hgoes]
      have hpayload : payload (message :: messages) = message.payload ++ payload messages := by
        simp [payload, hhandled]
      have hcallbacks : callbacksOf (message :: messages) = message.callbacks ++ callbacksOf messages := by
        simp [callbacksOf, hhandled]
      have happends := appends_onMessage w results message
      have hcalled := callbacks_onMessage w results message
      rw [pollWrite_cons hgoes]
      rcases honMessage : onMessage w results message with ⟨outcome, callbacks⟩
      rw [honMessage] at happends hcalled
      have hstopped : ∀ (w' : BufWriter UInt8) (ended : WriterEnd), outcome.writer = w' →
          (⟨w', called ++ callbacks, ended⟩ : Writing).clean = false →
            Writes w called (message :: messages) ⟨w', called ++ callbacks, ended⟩ := by
        rintro w' ended rfl hunclean
        refine ⟨?_, ?_, happends.bounded, fun hclean => ?_, fun hclean => ?_⟩
        · rw [hpayload, ← List.append_assoc]
          exact happends.bytes.trans (List.prefix_append _ _)
        · rw [hcallbacks, ← List.append_assoc]
          exact ((List.prefix_append_right_inj called).2 hcalled.1).trans (List.prefix_append _ _)
        · rw [hunclean] at hclean
          exact absurd hclean (by simp)
        · rw [hunclean] at hclean
          exact absurd hclean (by simp)
      cases outcome with
      | failed w' => exact hstopped w' .failed rfl rfl
      | waiting w' => exact hstopped w' .writing rfl rfl
      | done w' left =>
        have hrest := ih w' (called ++ callbacks) left
        have hall : callbacks = message.callbacks := hcalled.2 rfl
        have hbytes := happends.all w' left rfl
        have hcapacity : w'.capacity = w.capacity := happends.capacity
        refine ⟨?_, ?_, fun hbounded => ?_, fun hclean => ?_, fun hclean hbuffer hprompt => ?_⟩
        · rw [hpayload, ← List.append_assoc, ← hbytes]
          exact hrest.bytes
        · rw [hcallbacks, ← List.append_assoc, ← hall]
          exact hrest.calls
        · rw [← hcapacity]
          apply hrest.bounded
          rw [hcapacity]
          exact happends.bounded hbounded
        · rw [hpayload, hcallbacks, ← List.append_assoc, ← List.append_assoc, ← hbytes, ← hall]
          exact hrest.all hclean
        · rw [hhandled] at hprompt
          refine hrest.flushed hclean ?_ fun message' hmessage' => hprompt message' (List.mem_cons_of_mem _ hmessage')
          exact buffer_onMessage hbuffer (hprompt message List.mem_cons_self) (by rw [honMessage])

theorem sink_pollWrite (messages : List WriterMessage) (results : List SinkResult) :
    (pollWrite { capacity := writeCapacity } [] messages results).writer.sink <+: payload messages := by
  have h := writes_pollWrite { capacity := writeCapacity } [] messages results
  exact (BufWriter.sink_prefix_bytes _).trans h.bytes

theorem sink_pollWrite_clean {messages : List WriterMessage} {results : List SinkResult}
    (hclean : (pollWrite { capacity := writeCapacity } [] messages results).clean = true)
    (hprompt : ∀ message ∈ handledPart messages, message.prompt = true) :
    (pollWrite { capacity := writeCapacity } [] messages results).writer.sink = payload messages := by
  have h := writes_pollWrite { capacity := writeCapacity } [] messages results
  have hbytes := (h.all hclean).1
  rw [BufWriter.bytes, h.flushed hclean rfl hprompt, List.append_nil] at hbytes
  exact hbytes

/-- **What is on the wire.** It is always a part of what the messages before the first `Close` say, in their
order; the buffer holds back at most 64 KiB. If the socket has not failed, everything before `Close` has been
written, and is on the wire if data were sent with a flush; the callbacks are called once each, in order. -/
theorem pollWrite_wire (messages : List WriterMessage) (results : List SinkResult) :
    let r := pollWrite { capacity := writeCapacity } [] messages results
    r.writer.sink <+: payload messages ∧ r.writer.buffer.length ≤ writeCapacity ∧
      r.called <+: callbacksOf messages ∧
      (r.clean = true → r.writer.bytes = payload messages ∧ r.called = callbacksOf messages ∧
        ((∀ message ∈ handledPart messages, message.prompt = true) → r.writer.sink = payload messages)) := by
  intro r
  have h := writes_pollWrite { capacity := writeCapacity } [] messages results
  refine ⟨sink_pollWrite messages results, h.bounded (Nat.zero_le _), h.calls, fun hclean => ?_⟩
  obtain ⟨hbytes, hcalled⟩ := h.all hclean
  exact ⟨hbytes, hcalled, sink_pollWrite_clean hclean⟩

end AxmolFighter.Net.NetSession
