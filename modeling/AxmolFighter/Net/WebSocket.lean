import AxmolFighter.Lib.Bytes
import AxmolFighter.Lib.Run

/-!
# The byte stream of a WebSocket

`base/src/net/ws_async_io.rs` makes a byte stream of the messages of a WebSocket. What a read does not take
of a message is kept in `read_buf` for the next one. What the WebSocket yields is given: the list of the
results of `poll_next`, and what becomes of the answer to a ping.
-/

namespace AxmolFighter.Net

/-- The buffer that the caller wants filled; there is never more in it than it can hold. -/
structure ReadBuf where
  filled : Bytes
  capacity : Nat
  fits : filled.length ≤ capacity

namespace ReadBuf

def remaining (buf : ReadBuf) : Nat := buf.capacity - buf.filled.length

def putSlice (buf : ReadBuf) (data : Bytes) (h : data.length ≤ buf.remaining) : ReadBuf where
  filled := buf.filled ++ data
  capacity := buf.capacity
  fits := by
    have hfits := buf.fits
    rw [remaining] at h
    rw [List.length_append]
    omega

end ReadBuf

/-- What becomes of the pong: `poll_ready`, and `start_send` if it is ready. -/
inductive PongSend
  | sent
  | notReady
  | failed (error : String)

/-- What `poll_next` returns. -/
inductive Polled
  | text (payload : Bytes)
  | binary (payload : Bytes)
  | ping (payload : Bytes) (pong : PongSend)
  | pong (payload : Bytes)
  | frame
  | close
  | error (error : String)
  | ended
  | pending

inductive IoError
  | connectionAborted
  | other (error : String)
deriving DecidableEq

/-- What `poll_read` returns. -/
inductive Outcome
  | ok
  | pending
  | error (e : IoError)
deriving DecidableEq

/-- A call of `poll_read` at work. -/
structure Reading where
  readBuf : Bytes
  buf : ReadBuf
  isReadDataTag : Bool := false

namespace Reading

variable (r : Reading)

/-- The start of the loop's body. -/
def takeLeftover : Reading :=
  if r.readBuf.isEmpty then r
  else {
    readBuf := r.readBuf.drop (min r.readBuf.length r.buf.remaining)
    buf := r.buf.putSlice (r.readBuf.take (min r.readBuf.length r.buf.remaining)) (by
      rw [List.length_take]
      omega)
    isReadDataTag := true }

def processData (data : Bytes) : Reading :=
  if h : data.length ≤ r.buf.remaining then { r with buf := r.buf.putSlice data h }
  else { r with
    readBuf := data.drop r.buf.remaining
    buf := r.buf.putSlice (data.take r.buf.remaining) (by
      rw [List.length_take]
      omega) }

/-- The loop goes on, or the call returns. -/
def onPolled : Polled → Except Outcome Reading
  | .text payload | .binary payload => .ok { r.processData payload with isReadDataTag := true }
  | .ping _ .sent | .ping _ .notReady => .ok r
  | .ping _ (.failed error) => .error (.error (.other error))
  | .pong _ | .frame => .ok r
  | .close => .error (.error .connectionAborted)
  | .error error => .error (.error (.other error))
  | .ended => .error .ok
  | .pending => .error (if r.isReadDataTag then .ok else .pending)

/-- The loop of `poll_read` on what `poll_next` returns: the outcome, and what of that is left. -/
def pollLoop (r : Reading) : List Polled → Option (Outcome × Reading × List Polled)
  | [] => if r.takeLeftover.buf.remaining = 0 then some (.ok, r.takeLeftover, []) else none
  | polled :: rest =>
      if r.takeLeftover.buf.remaining = 0 then some (.ok, r.takeLeftover, polled :: rest)
      else
        match r.takeLeftover.onPolled polled with
        | .ok r' => pollLoop r' rest
        | .error outcome => some (outcome, r.takeLeftover, rest)

/-- The loop comes to `poll_next` in a state, and gets a result. -/
inductive Polls : Reading → List Polled → Reading → Polled → Prop
  | here {r : Reading} {polled : Polled} {rest : List Polled} (h : r.takeLeftover.buf.remaining ≠ 0) :
      Polls r (polled :: rest) r.takeLeftover polled
  | later {r r' r'' : Reading} {polled polled' : Polled} {rest : List Polled}
      (h : r.takeLeftover.buf.remaining ≠ 0) (hgoes : r.takeLeftover.onPolled polled = .ok r')
      (hrest : Polls r' rest r'' polled') : Polls r (polled :: rest) r'' polled'

end Reading

def pollRead (readBuf : Bytes) (buf : ReadBuf) (results : List Polled) :
    Option (Outcome × Reading × List Polled) :=
  Reading.pollLoop { readBuf, buf } results

/-- The bytes that a message brings. -/
def Polled.payload : Polled → Bytes
  | .text payload | .binary payload => payload
  | _ => []

/-- The connection stays open, and the answer to a ping does not fail. -/
def Polled.Open : Polled → Prop
  | .close | .error _ | .ended | .ping _ (.failed _) => False
  | _ => True

/-- A message that brings bytes, if only none. -/
def Polled.isData : Polled → Bool
  | .text _ | .binary _ => true
  | _ => false

/-- The loop goes on after the result. -/
def Polled.goesOn : Polled → Bool
  | .text _ | .binary _ | .ping _ .sent | .ping _ .notReady | .pong _ | .frame => true
  | _ => false

namespace Reading

variable {r r' : Reading}

/-! ### The loop's body -/

/-- What has been filled, followed by what is kept. -/
def bytes (r : Reading) : Bytes := r.buf.filled ++ r.readBuf

theorem takeLeftover_bytes (r : Reading) : r.takeLeftover.bytes = r.bytes := by
  rw [takeLeftover]
  split_ifs
  · rfl
  · simp only [bytes, ReadBuf.putSlice, List.append_assoc, List.take_append_drop]

theorem takeLeftover_readBuf (h : r.takeLeftover.buf.remaining ≠ 0) : r.takeLeftover.readBuf = [] := by
  rw [takeLeftover] at h ⊢
  split_ifs at h ⊢ with hempty
  · exact List.isEmpty_iff.1 hempty
  · simp only [ReadBuf.remaining, ReadBuf.putSlice, List.length_append, List.length_take] at h ⊢
    rw [List.drop_eq_nil_iff]
    omega

theorem processData_bytes (hempty : r.readBuf = []) (data : Bytes) :
    (r.processData data).bytes = r.bytes ++ data := by
  rw [processData]
  split_ifs
  · simp only [bytes, ReadBuf.putSlice, hempty, List.append_nil]
  · simp only [bytes, ReadBuf.putSlice, hempty, List.append_nil, List.append_assoc, List.take_append_drop]

/-- A call keeps what is in the buffer; as long as it has not read data, it leaves the buffer as it is. -/
structure Extends (r r' : Reading) : Prop where
  filled : r.buf.filled <+: r'.buf.filled
  tag : r'.isReadDataTag = false → r'.buf = r.buf ∧ r.isReadDataTag = false

theorem Extends.refl (r : Reading) : r.Extends r := ⟨List.prefix_refl _, fun h => ⟨rfl, h⟩⟩

theorem Extends.trans {r'' : Reading} (h : r.Extends r') (h' : r'.Extends r'') : r.Extends r'' := by
  refine ⟨h.filled.trans h'.filled, fun htag => ?_⟩
  obtain ⟨hbuf', htag'⟩ := h'.tag htag
  obtain ⟨hbuf, htag⟩ := h.tag htag'
  exact ⟨hbuf'.trans hbuf, htag⟩

theorem extends_takeLeftover (r : Reading) : r.Extends r.takeLeftover := by
  rw [takeLeftover]
  split_ifs
  · exact .refl r
  · exact ⟨List.prefix_append _ _, nofun⟩

theorem extends_processData (r : Reading) (data : Bytes) :
    r.Extends { r.processData data with isReadDataTag := true } := by
  refine ⟨?_, nofun⟩
  rw [processData]
  split_ifs
  · exact List.prefix_append _ _
  · exact List.prefix_append _ _

theorem onPolled_ok {polled : Polled} (h : r.onPolled polled = .ok r') (hempty : r.readBuf = []) :
    r'.bytes = r.bytes ++ polled.payload ∧ r.Extends r' := by
  have hsame : r' = r → polled.payload = [] → r'.bytes = r.bytes ++ polled.payload ∧ r.Extends r' := by
    rintro rfl hpayload
    exact ⟨by rw [hpayload, List.append_nil], .refl _⟩
  cases polled with
  | text payload | binary payload =>
      cases h
      exact ⟨processData_bytes hempty payload, extends_processData r payload⟩
  | ping payload pong =>
      cases pong with
      | sent | notReady =>
          cases h
          exact hsame rfl rfl
      | failed => cases h
  | pong | frame =>
      cases h
      exact hsame rfl rfl
  | _ => cases h

theorem onPolled_error {polled : Polled} {outcome : Outcome} (h : r.onPolled polled = .error outcome)
    (hopen : polled.Open) : outcome = .ok ∨ outcome = .pending ∧ r.isReadDataTag = false := by
  cases polled with
  | text | binary | pong | frame => cases h
  | ping payload pong =>
      cases pong with
      | failed => exact hopen.elim
      | _ => cases h
  | close | error | ended => exact hopen.elim
  | pending =>
      rw [onPolled] at h
      obtain rfl := Except.error.inj h
      split_ifs with htag
      · exact Or.inl rfl
      · exact Or.inr ⟨rfl, by simpa using htag⟩

@[simp] theorem takeLeftover_capacity (r : Reading) : r.takeLeftover.buf.capacity = r.buf.capacity := by
  rw [takeLeftover]
  split_ifs
  · rfl
  · rfl

@[simp] theorem processData_capacity (r : Reading) (data : Bytes) :
    (r.processData data).buf.capacity = r.buf.capacity := by
  rw [processData]
  split_ifs
  · rfl
  · rfl

theorem onPolled_capacity {polled : Polled} (h : r.onPolled polled = .ok r') :
    r'.buf.capacity = r.buf.capacity := by
  cases polled with
  | text payload | binary payload =>
      cases h
      exact processData_capacity r payload
  | ping payload pong => cases pong <;> cases h <;> rfl
  | _ => cases h <;> rfl

theorem goesOn_of_onPolled {polled : Polled} (h : r.onPolled polled = .ok r') : polled.goesOn = true ∧
    r'.isReadDataTag = (r.isReadDataTag || polled.isData) ∧ (polled.isData = false → r' = r) := by
  have hsame : r' = r → polled.isData = false → r'.isReadDataTag = (r.isReadDataTag || polled.isData) ∧
      (polled.isData = false → r' = r) := by
    rintro rfl hdata
    exact ⟨by rw [hdata, Bool.or_false], fun _ => rfl⟩
  cases polled with
  | text | binary =>
      cases h
      exact ⟨rfl, (Bool.or_true _).symm, nofun⟩
  | ping payload pong =>
      cases pong with
      | failed => cases h
      | _ =>
          cases h
          exact ⟨rfl, hsame rfl rfl⟩
  | pong | frame =>
      cases h
      exact ⟨rfl, hsame rfl rfl⟩
  | _ => cases h

theorem payload_of_onPolled {polled : Polled} {outcome : Outcome} (h : r.onPolled polled = .error outcome) :
    polled.payload = [] := by
  cases polled with
  | text | binary => cases h
  | _ => rfl

theorem takeLeftover_tag (r : Reading) :
    r.takeLeftover.isReadDataTag = (r.isReadDataTag || !r.readBuf.isEmpty) := by
  rw [takeLeftover]
  split_ifs with hempty
  · rw [hempty, Bool.not_true, Bool.or_false]
  · rw [Bool.not_eq_true] at hempty
    rw [hempty, Bool.not_false, Bool.or_true]

/-- How a call comes to return what it returns: the buffer is full, or the last result says so. -/
inductive Stops (r : Reading) : List Polled → Outcome → Reading → Prop
  | full {used : List Polled} {r' : Reading} (hused : ∀ polled ∈ used, polled.goesOn = true)
      (hfull : r'.buf.remaining = 0) (hcapacity : r'.buf.capacity = r.buf.capacity) : Stops r used .ok r'
  | polled (before : List Polled) (last : Polled) {outcome : Outcome} {r' : Reading}
      (hbefore : ∀ polled ∈ before, polled.goesOn = true) (hempty : r'.readBuf = [])
      (htag : r'.isReadDataTag = (r.isReadDataTag || !r.readBuf.isEmpty || before.any Polled.isData))
      (hlast : r'.onPolled last = .error outcome) : Stops r (before ++ [last]) outcome r'

theorem Stops.cons {r₁ : Reading} {polled : Polled} {used : List Polled} {outcome : Outcome}
    (h : Stops r₁ used outcome r') (hremaining : r.takeLeftover.buf.remaining ≠ 0)
    (hon : r.takeLeftover.onPolled polled = .ok r₁) : Stops r (polled :: used) outcome r' := by
  obtain ⟨hgoes, htag₁, hsame⟩ := goesOn_of_onPolled hon
  cases h with
  | full hused hfull hcapacity =>
      refine .full (List.forall_mem_cons.2 ⟨hgoes, hused⟩) hfull ?_
      rw [hcapacity, onPolled_capacity hon, takeLeftover_capacity]
  | polled before last hbefore hempty htag hlast =>
      refine .polled (polled :: before) last (List.forall_mem_cons.2 ⟨hgoes, hbefore⟩) hempty ?_ hlast
      rw [htag, htag₁, takeLeftover_tag, List.any_cons]
      rcases hdata : polled.isData with _ | _
      · -- only a message leaves something to keep
        have hnone : r₁.readBuf = [] := by
          rw [hsame hdata]
          exact takeLeftover_readBuf hremaining
        simp [hnone]
      · simp

/-! ### A call -/

theorem pollLoop_stops {results rest : List Polled} {outcome : Outcome}
    (h : r.pollLoop results = some (outcome, r', rest)) :
    ∃ used, results = used ++ rest ∧ r'.bytes = r.bytes ++ used.flatMap Polled.payload ∧ r.Extends r' ∧
      r.Stops used outcome r' := by
  have hfull : ∀ (r : Reading) (rest : List Polled), r.takeLeftover.buf.remaining = 0 →
      ∃ used : List Polled, rest = used ++ rest ∧ r.takeLeftover.bytes = r.bytes ++ used.flatMap Polled.payload ∧
        r.Extends r.takeLeftover ∧ r.Stops used .ok r.takeLeftover := by
    intro r rest hremaining
    refine ⟨[], rfl, ?_, extends_takeLeftover r, .full (fun _ h => absurd h List.not_mem_nil) hremaining (takeLeftover_capacity r)⟩
    rw [takeLeftover_bytes, List.flatMap_nil, List.append_nil]
  induction results generalizing r with
  | nil =>
      rw [pollLoop] at h
      split_ifs at h with hremaining
      cases h
      exact hfull r [] hremaining
  | cons polled results ih =>
      rw [pollLoop] at h
      split_ifs at h with hremaining
      · cases h
        exact hfull r (polled :: results) hremaining
      · have hempty := takeLeftover_readBuf hremaining
        rcases hon : r.takeLeftover.onPolled polled with ended | r₁
        · rw [hon] at h
          cases h
          refine ⟨[polled], rfl, ?_, extends_takeLeftover r, ?_⟩
          · rw [takeLeftover_bytes, List.flatMap_singleton, payload_of_onPolled hon, List.append_nil]
          · refine .polled [] polled (fun _ h => absurd h List.not_mem_nil) hempty ?_ hon
            rw [takeLeftover_tag, List.any_nil, Bool.or_false]
        · rw [hon] at h
          obtain ⟨hbytes, hextends⟩ := onPolled_ok hon hempty
          obtain ⟨used, hused, hbytes', hextends', hstops⟩ := ih h
          refine ⟨polled :: used, by rw [hused, List.cons_append], ?_,
            (extends_takeLeftover r).trans (hextends.trans hextends'), hstops.cons hremaining hon⟩
          rw [hbytes', hbytes, takeLeftover_bytes, List.flatMap_cons, List.append_assoc]

theorem pollLoop_spec {results rest : List Polled} {outcome : Outcome}
    (h : r.pollLoop results = some (outcome, r', rest)) (hopen : ∀ polled ∈ results, polled.Open) :
    ∃ used, results = used ++ rest ∧ r'.bytes = r.bytes ++ used.flatMap Polled.payload ∧ r.Extends r' ∧
      (outcome = .ok ∨ outcome = .pending ∧ r'.isReadDataTag = false) := by
  obtain ⟨used, hused, hbytes, hextends, hstops⟩ := pollLoop_stops h
  refine ⟨used, hused, hbytes, hextends, ?_⟩
  cases hstops with
  | full => exact Or.inl rfl
  | polled before last _ _ _ hlast =>
      refine onPolled_error hlast (hopen last ?_)
      rw [hused]
      exact List.mem_append_left _ (List.mem_append_right _ List.mem_cons_self)

theorem Polls.readBuf {results : List Polled} {polled : Polled} (h : Polls r results r' polled) :
    r'.readBuf = [] := by
  induction h with
  | here hremaining => exact takeLeftover_readBuf hremaining
  | later _ _ _ ih => exact ih

end Reading

/-! ### Calls in a row -/

/-- The buffer of a call, and the results of `poll_next` that it consumes. -/
structure ReadCall where
  buf : ReadBuf
  results : List Polled

/-- `read_buf` before and after a call. -/
def ReadCall.Step (readBuf : Bytes) (call : ReadCall) (readBuf' : Bytes) : Prop :=
  ∃ outcome r, pollRead readBuf call.buf call.results = some (outcome, r, []) ∧ readBuf' = r.readBuf

/-- The bytes that the caller gets of a call. -/
def delivered (e : Bytes × ReadCall) : Bytes :=
  match pollRead e.1 e.2.buf e.2.results with
  | some (.ok, r, _) => r.buf.filled.drop e.2.buf.filled.length
  | _ => []

def consumed (e : Bytes × ReadCall) : Bytes := e.2.results.flatMap Polled.payload

theorem ReadCall.Step.bytes {readBuf readBuf' : Bytes} {call : ReadCall} (h : Step readBuf call readBuf')
    (hopen : ∀ polled ∈ call.results, polled.Open) :
    delivered (readBuf, call) ++ readBuf' = readBuf ++ consumed (readBuf, call) := by
  obtain ⟨outcome, r, hread, rfl⟩ := h
  obtain ⟨used, hused, hbytes, ⟨⟨more, hmore⟩, htag⟩, houtcome⟩ := Reading.pollLoop_spec hread hopen
  rw [List.append_nil] at hused
  rw [Reading.bytes, ← hmore, Reading.bytes, List.append_assoc, List.append_assoc,
    List.append_cancel_left_eq, ← hused] at hbytes
  rw [delivered, hread, consumed]
  rcases houtcome with rfl | ⟨rfl, hfalse⟩
  · show r.buf.filled.drop call.buf.filled.length ++ _ = _
    rw [← hmore, List.drop_left]
    exact hbytes
  · -- a call that is pending has filled nothing
    rw [(htag hfalse).1] at hmore
    have hnone : more = [] := List.append_cancel_left (hmore.trans (List.append_nil _).symm)
    rw [hnone] at hbytes
    exact hbytes

/-- After each call, the bytes that were returned, followed by those that are kept, are those of the messages
consumed; and data is only processed when nothing is kept. -/
theorem lossless_of_run {trace : List (Bytes × ReadCall)} {readBuf : Bytes}
    (hrun : Run ReadCall.Step [] trace readBuf) (hopen : ∀ e ∈ trace, ∀ polled ∈ e.2.results, polled.Open) :
    trace.flatMap delivered ++ readBuf = trace.flatMap consumed ∧
      ∀ e ∈ trace, ∀ r polled, Reading.Polls { readBuf := e.1, buf := e.2.buf } e.2.results r polled →
        r.readBuf = [] := by
  refine ⟨?_, fun e _ r polled hpolls => hpolls.readBuf⟩
  induction hrun with
  | start => rfl
  | @next trace readBuf readBuf' call hrun hstep ih =>
      have ih := ih fun e he => hopen e (List.mem_append_left _ he)
      have hcall := hstep.bytes (hopen _ (List.mem_append_right _ List.mem_cons_self))
      rw [List.flatMap_append, List.flatMap_append, List.flatMap_singleton, List.flatMap_singleton,
        List.append_assoc, hcall, ← ih, List.append_assoc]

/-- A buffer with room for some bytes. -/
def ReadBuf.new (capacity : Nat) : ReadBuf := ⟨[], capacity, Nat.zero_le _⟩

/-- A message that does not fit is read in two calls, the second with the next message. -/
theorem lossless_of_run_split : ∃ trace, Run ReadCall.Step [] trace [] ∧
    trace.flatMap delivered = [1, 2, 3, 4] ∧ trace.flatMap consumed = [1, 2, 3, 4] := by
  have hfirst : ReadCall.Step [] ⟨.new 2, [.ping [] .notReady, .binary [1, 2, 3]]⟩ [3] :=
    ⟨.ok, _, rfl, rfl⟩
  have hsecond : ReadCall.Step [3] ⟨.new 8, [.text [], .text [4], .pending]⟩ [] := ⟨.ok, _, rfl, rfl⟩
  have hrun := (Run.start.next hfirst).next hsecond
  have hlossless := (lossless_of_run hrun (by
    intro e he polled hpolled
    simp only [List.nil_append, List.cons_append, List.mem_cons, List.not_mem_nil, or_false] at he
    rcases he with rfl | rfl
    · simp only [List.mem_cons, List.not_mem_nil, or_false] at hpolled
      rcases hpolled with rfl | rfl <;> trivial
    · simp only [List.mem_cons, List.not_mem_nil, or_false] at hpolled
      rcases hpolled with rfl | rfl | rfl <;> trivial)).1
  rw [List.append_nil] at hlossless
  exact ⟨_, hrun, hlossless.trans rfl, rfl⟩

end AxmolFighter.Net
