import AxmolFighter.Net.WebSocket

/-!
# The end of the byte stream

The reading loop of `base/src/net/net_session.rs` takes a success without bytes for a closed socket, and
gives up when a read fails; what is in the buffer of a read that fails is lost. One read may take several
messages before it comes to a pending, an empty or a closing one, so it matters what the call has taken by
then: an empty message sets the flag as data does, and `Close` and errors are returned over the data.
-/

namespace AxmolFighter.Net

/-- What the call returns. -/
def outcome (e : Bytes × ReadCall) : Option Outcome := (pollRead e.1 e.2.buf e.2.results).map Prod.fst

/-- The call says that the stream has ended. -/
def SaysEnd (e : Bytes × ReadCall) : Prop := outcome e = some .ok ∧ delivered e = []

def Fails (e : Bytes × ReadCall) : Prop := ∃ error, outcome e = some (.error error)

/-- The end is reported when it is there, and after all that came before it. -/
structure Truthful (trace : List (Bytes × ReadCall)) : Prop where
  ended : ∀ e ∈ trace, SaysEnd e → .ended ∈ e.2.results
  complete : ∀ before e, before ++ [e] <+: trace → SaysEnd e ∨ Fails e →
    before.flatMap delivered = (before ++ [e]).flatMap consumed

/-- The bytes that there are for a call: what was left over, and what comes in messages. -/
def available (e : Bytes × ReadCall) : Bytes := e.1 ++ consumed e

/-- A call that comes to a pending result after a message has bytes; one that fails has none. -/
def Clear (e : Bytes × ReadCall) : Prop :=
  match e.2.results.getLast? with
  | some .pending => (∃ polled ∈ e.2.results, polled.isData = true) → available e ≠ []
  | some .close | some (.error _) | some (.ping _ (.failed _)) => available e = []
  | _ => True

/-! ### A call -/

/-- What a call is to do in a run that has been truthful so far. -/
def TruthfulCall (trace : List (Bytes × ReadCall)) (e : Bytes × ReadCall) : Prop :=
  (SaysEnd e → .ended ∈ e.2.results) ∧
    (SaysEnd e ∨ Fails e → trace.flatMap delivered = (trace ++ [e]).flatMap consumed)

theorem Truthful.snoc {trace : List (Bytes × ReadCall)} {e : Bytes × ReadCall} :
    Truthful (trace ++ [e]) ↔ Truthful trace ∧ TruthfulCall trace e := by
  constructor
  · intro h
    refine ⟨⟨fun e' he' => h.ended e' (List.mem_append_left _ he'), fun before e' hupto => ?_⟩,
      h.ended e (List.mem_append_right _ List.mem_cons_self), h.complete trace e (List.prefix_refl _)⟩
    exact h.complete before e' (hupto.trans (List.prefix_append _ _))
  · rintro ⟨h, hended, hcomplete⟩
    refine ⟨fun e' he' => ?_, fun before e' hupto => ?_⟩
    · rcases List.mem_append.1 he' with he' | he'
      · exact h.ended e' he'
      · obtain rfl := List.mem_singleton.1 he'
        exact hended
    · rcases List.prefix_concat_iff.1 hupto with heq | hupto
      · obtain ⟨rfl, rfl⟩ := List.append_inj' heq rfl |>.imp_right List.singleton_inj.1
        exact hcomplete
      · exact h.complete before e' hupto

namespace ReadCall

variable {readBuf readBuf' : Bytes} {call : ReadCall} {trace : List (Bytes × ReadCall)}

/-- A call takes everything there is, into the buffer or to keep it. -/
theorem Step.taken (h : Step readBuf call readBuf') : ∃ outcome r taken,
    pollRead readBuf call.buf call.results = some (outcome, r, []) ∧ readBuf' = r.readBuf ∧
      r.buf.filled = call.buf.filled ++ taken ∧ taken ++ readBuf' = available (readBuf, call) ∧
        (r.isReadDataTag = false → taken = []) ∧
        Reading.Stops { readBuf, buf := call.buf } call.results outcome r := by
  obtain ⟨outcome, r, hread, rfl⟩ := h
  obtain ⟨used, hused, hbytes, ⟨⟨taken, htaken⟩, htag⟩, hstops⟩ := Reading.pollLoop_stops hread
  rw [List.append_nil] at hused
  obtain rfl := hused
  refine ⟨outcome, r, taken, hread, rfl, htaken.symm, ?_, fun hfalse => ?_, hstops⟩
  · rw [Reading.bytes, ← htaken, Reading.bytes, List.append_assoc, List.append_assoc,
      List.append_cancel_left_eq] at hbytes
    exact hbytes
  · rw [(htag hfalse).1] at htaken
    exact List.append_cancel_left (htaken.trans (List.append_nil _).symm)

theorem delivered_eq {o : Outcome} {r : Reading} {rest : List Polled} {taken : Bytes}
    (hread : pollRead readBuf call.buf call.results = some (o, r, rest))
    (hfilled : r.buf.filled = call.buf.filled ++ taken) (h : o = .ok ∨ taken = []) :
    delivered (readBuf, call) = taken := by
  rw [delivered, hread]
  cases o with
  | ok =>
      show r.buf.filled.drop call.buf.filled.length = taken
      rw [hfilled, List.drop_left]
  | pending | error => exact (h.resolve_left fun hok => by cases hok).symm

theorem saysEnd_iff {o : Outcome} {r : Reading} {rest : List Polled} {taken : Bytes}
    (hread : pollRead readBuf call.buf call.results = some (o, r, rest))
    (hfilled : r.buf.filled = call.buf.filled ++ taken) : SaysEnd (readBuf, call) ↔ o = .ok ∧ taken = [] := by
  unfold SaysEnd outcome
  rw [hread, Option.map_some, Option.some.injEq]
  refine and_congr_right fun h => ?_
  rw [delivered_eq hread hfilled (.inl h)]

theorem fails_iff {o : Outcome} {r : Reading} {rest : List Polled}
    (hread : pollRead readBuf call.buf call.results = some (o, r, rest)) :
    Fails (readBuf, call) ↔ ∃ error, o = .error error := by
  unfold Fails outcome
  rw [hread, Option.map_some]
  simp only [Option.some.injEq]

theorem clear_concat {buf : ReadBuf} {before : List Polled} {last : Polled} :
    Clear (readBuf, ⟨buf, before ++ [last]⟩) ↔
      match last with
      | .pending => (∃ polled ∈ before ++ [last], polled.isData = true) →
          available (readBuf, ⟨buf, before ++ [last]⟩) ≠ []
      | .close | .error _ | .ping _ (.failed _) => available (readBuf, ⟨buf, before ++ [last]⟩) = []
      | _ => True := by
  unfold Clear
  rw [List.getLast?_concat]
  cases last with
  | ping payload pong => cases pong <;> rfl
  | _ => rfl

theorem clear_of_goesOn {buf : ReadBuf} {results : List Polled} (h : ∀ polled ∈ results, polled.goesOn = true) :
    Clear (readBuf, ⟨buf, results⟩) := by
  unfold Clear
  rcases hlast : results.getLast? with _ | last
  · trivial
  · have hgoes := h last (List.mem_of_getLast? hlast)
    cases last with
    | ping payload pong =>
        cases pong with
        | failed => cases hgoes
        | _ => trivial
    | text | binary | pong | frame => trivial
    | _ => cases hgoes

theorem Step.bytes_of_clear (h : Step readBuf call readBuf') (hclear : Clear (readBuf, call)) :
    delivered (readBuf, call) ++ readBuf' = readBuf ++ consumed (readBuf, call) := by
  obtain ⟨o, r, taken, hread, rfl, hfilled, htaken, htag, hstops⟩ := h.taken
  rw [delivered_eq hread hfilled, htaken, available]
  obtain ⟨buf, results⟩ := call
  cases hstops with
  | full => exact .inl rfl
  | polled before last _ _ _ hlast =>
      have hempty : available (readBuf, ⟨buf, before ++ [last]⟩) = [] → taken = [] := by
        intro h
        exact (List.append_eq_nil_iff.1 (htaken.trans h)).1
      have hclear := clear_concat.1 hclear
      cases last with
      | text | binary | pong | frame => cases hlast
      | ping payload pong =>
          cases pong with
          | failed => exact .inr (hempty hclear)
          | _ => cases hlast
      | close | error => exact .inr (hempty hclear)
      | ended =>
          cases hlast
          exact .inl rfl
      | pending =>
          rw [Reading.onPolled] at hlast
          obtain rfl := Except.error.inj hlast
          split_ifs with hread'
          · exact .inl rfl
          · exact .inr (htag (Bool.not_eq_true _ ▸ hread'))

theorem Step.truthful (h : Step readBuf call readBuf') (hbuf : call.buf.remaining ≠ 0)
    (hbefore : trace.flatMap delivered ++ readBuf = trace.flatMap consumed) :
    TruthfulCall trace (readBuf, call) ↔ Clear (readBuf, call) := by
  obtain ⟨o, r, taken, hread, rfl, hfilled, htaken, htag, hstops⟩ := h.taken
  have hall : trace.flatMap delivered = (trace ++ [(readBuf, call)]).flatMap consumed ↔
      available (readBuf, call) = [] := by
    rw [List.flatMap_append, List.flatMap_singleton, ← hbefore, List.append_assoc]
    exact List.self_eq_append_right
  unfold TruthfulCall
  rw [hall, saysEnd_iff hread hfilled, fails_iff hread]
  obtain ⟨buf, results⟩ := call
  cases hstops with
  | full hused hfull hcapacity =>
      refine iff_of_true ?_ (clear_of_goesOn hused)
      -- the buffer was not full before
      have hsome : taken ≠ [] := by
        rintro rfl
        rw [List.append_nil] at hfilled
        refine hbuf ?_
        rw [ReadBuf.remaining] at hfull ⊢
        rw [← hfilled, ← hfull, hcapacity]
      simp [hsome]
  | polled before last hgoes hempty htag' hlast =>
      change taken ++ r.readBuf = available (readBuf, ⟨buf, before ++ [last]⟩) at htaken
      rw [hempty, List.append_nil] at htaken
      change (_ → Polled.ended ∈ before ++ [last]) ∧ (_ → available (readBuf, ⟨buf, before ++ [last]⟩) = []) ↔
        Clear (readBuf, ⟨buf, before ++ [last]⟩)
      rw [clear_concat, ← htaken]
      have hended : Polled.ended ∉ before := fun h => absurd (hgoes _ h) (by decide)
      cases last with
      | text | binary | pong | frame => cases hlast
      | ping payload pong =>
          cases pong with
          | failed =>
              cases hlast
              simp
          | _ => cases hlast
      | close | error =>
          cases hlast
          simp
      | ended =>
          cases hlast
          simp
      | pending =>
          rw [Reading.onPolled] at hlast
          obtain rfl := Except.error.inj hlast
          have hnone : Polled.ended ∉ before ++ [.pending] := by simp [hended]
          have hdata : (∃ polled ∈ before ++ [Polled.pending], polled.isData = true) ↔
              before.any Polled.isData = true := by
            simp [Polled.isData]
          rw [hdata]
          split_ifs with hread'
          · -- the flag is set, so the call says that there are bytes
            have hsets : readBuf ≠ [] ∨ before.any Polled.isData = true := by
              simpa [hread'] using htag'.symm
            constructor
            · intro h _ hempty
              exact hnone (h.1 ⟨rfl, hempty⟩)
            · intro h
              have hbytes : taken ≠ [] := by
                rcases hsets with hleft | hdata
                · rw [htaken]
                  exact List.append_ne_nil_of_left_ne_nil hleft _
                · exact h hdata
              simp [hbytes]
          · rw [Bool.not_eq_true] at hread'
            have hnodata : before.any Polled.isData = false := by
              rw [hread'] at htag'
              simpa using (Bool.or_eq_false_iff.1 htag'.symm).2
            simp [hnodata]

end ReadCall

/-! ### Calls in a row -/

/-- Calls that are clear lose nothing, also those that fail. -/
theorem lossless_of_clear {trace : List (Bytes × ReadCall)} {readBuf : Bytes}
    (hrun : Run ReadCall.Step [] trace readBuf) (hclear : ∀ e ∈ trace, Clear e) :
    trace.flatMap delivered ++ readBuf = trace.flatMap consumed := by
  induction hrun with
  | start => rfl
  | @next trace readBuf readBuf' call hrun hstep ih =>
      have ih := ih fun e he => hclear e (List.mem_append_left _ he)
      have hcall := hstep.bytes_of_clear (hclear _ (List.mem_append_right _ List.mem_cons_self))
      rw [List.flatMap_append, List.flatMap_append, List.flatMap_singleton, List.flatMap_singleton,
        List.append_assoc, hcall, ← ih, List.append_assoc]

/-- The end is reported truthfully in the runs whose calls are clear. -/
theorem truthful_iff {trace : List (Bytes × ReadCall)} {readBuf : Bytes}
    (hrun : Run ReadCall.Step [] trace readBuf) (hbuf : ∀ e ∈ trace, e.2.buf.remaining ≠ 0) :
    Truthful trace ↔ ∀ e ∈ trace, Clear e := by
  induction hrun with
  | start => exact iff_of_true ⟨nofun, fun before e h => by simp at h⟩ nofun
  | @next trace readBuf readBuf' call hrun hstep ih =>
      have ih := ih fun e he => hbuf e (List.mem_append_left _ he)
      have hcall := hbuf _ (List.mem_append_right _ List.mem_cons_self)
      rw [Truthful.snoc, ih, List.forall_mem_append, List.forall_mem_singleton]
      exact and_congr_right fun hclear => hstep.truthful hcall (lossless_of_clear hrun hclear)

/-- After a message that fits, a pending result; then the end. -/
theorem truthful_iff_ended : ∃ trace readBuf, Run ReadCall.Step [] trace readBuf ∧ Truthful trace ∧
    trace.map delivered = [[1, 2], []] := by
  have hfirst : ReadCall.Step [] ⟨.new 4, [.text [], .binary [1, 2], .pending]⟩ [] := ⟨.ok, _, rfl, rfl⟩
  have hsecond : ReadCall.Step [] ⟨.new 4, [.pong [], .ended]⟩ [] := ⟨.ok, _, rfl, rfl⟩
  have hrun := (Run.start.next hfirst).next hsecond
  refine ⟨_, _, hrun, (truthful_iff hrun (by simp [ReadBuf.new, ReadBuf.remaining])).2 ?_, rfl⟩
  intro e he
  simp only [List.nil_append, List.cons_append, List.mem_cons, List.not_mem_nil, or_false] at he
  rcases he with rfl | rfl
  · intro _
    exact List.cons_ne_nil 1 [2]
  · trivial

/-- After an empty message the stream is said to have ended; and what a call has taken is lost if it comes to
`Close`. -/
theorem empty_message_ends : (∃ trace readBuf, Run ReadCall.Step [] trace readBuf ∧
    trace.map (fun e => e.2.results) = [[.binary [], .pending]] ∧ ¬ Truthful trace) ∧
      ∃ trace readBuf, Run ReadCall.Step [] trace readBuf ∧
        trace.map (fun e => e.2.results) = [[.binary [1], .close]] ∧ ¬ Truthful trace := by
  refine ⟨⟨[([], ⟨.new 4, [.binary [], .pending]⟩)], [], Run.start.next ⟨.ok, _, rfl, rfl⟩, rfl, fun h => ?_⟩,
    ⟨[([], ⟨.new 4, [.binary [1], .close]⟩)], [], Run.start.next ⟨.error .connectionAborted, _, rfl, rfl⟩, rfl,
      fun h => ?_⟩⟩
  · have hended := h.ended _ List.mem_cons_self ⟨rfl, rfl⟩
    simp at hended
  · have hlost := h.complete [] _ (List.prefix_refl _) (.inr ⟨_, rfl⟩)
    cases hlost

end AxmolFighter.Net
