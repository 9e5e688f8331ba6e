import Mathlib.Data.List.Basic

/-!
# A buffered writer

A writer collects bytes in a buffer in front of a sink. The sink takes a part of what it is given at a time,
and may fail; the list of its answers drives the operations, and an operation that has used them all is
still waiting. What has been written stands in the sink and, behind it, in the buffer (`bytes`): an
operation appends to it a part of its data, all of it when it is done, and a flush that is done leaves
nothing in the buffer.
-/

/-- The answer of the sink to a write, or to a flush. A write of which it takes nothing has failed. -/
inductive SinkResult
  | accepts (n : Nat)
  | fails
deriving DecidableEq

structure BufWriter (B : Type) where
  capacity : Nat
  buffer : List B := []
  sink : List B := []

namespace BufWriter

variable {B : Type}

/-- Where an operation stands, and the answers that it has not used. -/
inductive Outcome (B : Type)
  | done (w : BufWriter B) (left : List SinkResult)
  | failed (w : BufWriter B)
  | waiting (w : BufWriter B)

namespace Outcome

def writer : Outcome B → BufWriter B
  | .done w _ | .failed w | .waiting w => w

def isDone : Outcome B → Bool
  | .done _ _ => true
  | _ => false

/-- The next operation, if the first is done. -/
def andThen (o : Outcome B) (f : BufWriter B → List SinkResult → Outcome B) : Outcome B :=
  match o with
  | .done w left => f w left
  | o => o

end Outcome

/-- All that has been written. -/
def bytes (w : BufWriter B) : List B := w.sink ++ w.buffer

/-- The sink takes the first `n` bytes of the buffer. -/
def drain (w : BufWriter B) (n : Nat) : BufWriter B :=
  { w with sink := w.sink ++ w.buffer.take n, buffer := w.buffer.drop n }

/-- The buffer is written out, and then the sink is flushed. -/
def flush (w : BufWriter B) : List SinkResult → Outcome B
  | [] => .waiting w
  | .fails :: _ => .failed w
  | .accepts n :: results =>
      if w.buffer = [] then .done w results
      else if n = 0 then .failed w
      else (w.drain n).flush results

/-- Data that do not fit behind what is in the buffer wait until it has been written out (`flushing`); data
that are as long as the buffer go to the sink themselves. -/
def writeAll (flushing : Bool) (w : BufWriter B) (data : List B) : List SinkResult → Outcome B
  | [] =>
      if data = [] then .done w []
      else if (flushing = true ∨ w.capacity < w.buffer.length + data.length) ∧ w.buffer ≠ [] then .waiting w
      else if w.capacity ≤ data.length then .waiting w
      else .done { w with buffer := w.buffer ++ data } []
  | result :: results =>
      if data = [] then .done w (result :: results)
      else if (flushing = true ∨ w.capacity < w.buffer.length + data.length) ∧ w.buffer ≠ [] then
        match result with
        | .fails => .failed w
        | .accepts n => if n = 0 then .failed w else writeAll true (w.drain n) data results
      else if w.capacity ≤ data.length then
        match result with
        | .fails => .failed w
        | .accepts n =>
            if n = 0 then .failed w
            else writeAll false { w with sink := w.sink ++ data.take n } (data.drop n) results
      else .done { w with buffer := w.buffer ++ data } (result :: results)

@[simp] theorem bytes_drain (w : BufWriter B) (n : Nat) : (w.drain n).bytes = w.bytes := by
  simp [bytes, drain]

@[simp] theorem capacity_drain (w : BufWriter B) (n : Nat) : (w.drain n).capacity = w.capacity := rfl

theorem length_buffer_drain (w : BufWriter B) (n : Nat) :
    (w.drain n).buffer.length = w.buffer.length - n := by simp [drain]

theorem sink_prefix_bytes (w : BufWriter B) : w.sink <+: w.bytes := List.prefix_append _ _

/-! ### Flushing -/

theorem bytes_flush (w : BufWriter B) (results : List SinkResult) :
    (w.flush results).writer.bytes = w.bytes := by
  induction results generalizing w with
  | nil => rfl
  | cons result results ih =>
    cases result with
    | fails => rfl
    | accepts n =>
      unfold flush
      split_ifs
      · rfl
      · rfl
      · rw [ih, bytes_drain]

theorem flush_done {w w' : BufWriter B} {results left : List SinkResult} (h : w.flush results = .done w' left) :
    w'.buffer = [] ∧ w'.sink = w.bytes := by
  have hempty : w'.buffer = [] := by
    induction results generalizing w with
    | nil => simp [flush] at h
    | cons result results ih =>
      cases result with
      | fails => simp [flush] at h
      | accepts n =>
        unfold flush at h
        split_ifs at h with hbuffer
        · simp only [Outcome.done.injEq] at h
          rw [← h.1, hbuffer]
        · exact ih h
  have hbytes := bytes_flush w results
  rw [h] at hbytes
  refine ⟨hempty, ?_⟩
  simpa [bytes, Outcome.writer, hempty] using hbytes

theorem length_flush_le (w : BufWriter B) (results : List SinkResult) :
    (w.flush results).writer.buffer.length ≤ w.buffer.length := by
  induction results generalizing w with
  | nil => exact Nat.le_refl _
  | cons result results ih =>
    cases result with
    | fails => exact Nat.le_refl _
    | accepts n =>
      unfold flush
      split_ifs
      · exact Nat.le_refl _
      · exact Nat.le_refl _
      · have hdrain := w.length_buffer_drain n
        have hle := ih (w.drain n)
        omega

/-! ### Writing -/

theorem buffer_eq_nil {flushing : Bool} {w : BufWriter B} {data : List B}
    (hfull : ¬ ((flushing = true ∨ w.capacity < w.buffer.length + data.length) ∧ w.buffer ≠ []))
    (hlong : w.capacity ≤ data.length) : w.buffer = [] := by
  by_contra hbuffer
  have hpos := List.length_pos_iff.2 hbuffer
  exact hfull ⟨.inr (by omega), hbuffer⟩

theorem bytes_writeAll_prefix (flushing : Bool) (w : BufWriter B) (data : List B) (results : List SinkResult) :
    (writeAll flushing w data results).writer.bytes <+: w.bytes ++ data := by
  induction results generalizing flushing w data with
  | nil =>
    unfold writeAll
    split_ifs <;> simp [Outcome.writer, bytes]
  | cons result results ih =>
    unfold writeAll
    split_ifs with hdata hfull hlong
    · simp [Outcome.writer]
    · cases result with
      | fails => simp [Outcome.writer]
      | accepts n =>
        simp only
        split_ifs
        · simp [Outcome.writer]
        · simpa using ih true (w.drain n) data
    · cases result with
      | fails => simp [Outcome.writer]
      | accepts n =>
        simp only
        split_ifs
        · simp [Outcome.writer]
        · have hbuffer := buffer_eq_nil hfull hlong
          have hpart := ih false { w with sink := w.sink ++ data.take n } (data.drop n)
          simpa [bytes, hbuffer] using hpart
    · simp [Outcome.writer, bytes]

theorem bytes_writeAll_done {flushing : Bool} {w w' : BufWriter B} {data : List B} {results left : List SinkResult}
    (h : writeAll flushing w data results = .done w' left) : w'.bytes = w.bytes ++ data := by
  induction results generalizing flushing w data with
  | nil =>
    unfold writeAll at h
    split_ifs at h with hdata hfull hlong
    · simp only [Outcome.done.injEq] at h
      rw [← h.1, hdata, List.append_nil]
    · simp only [Outcome.done.injEq] at h
      rw [← h.1]
      simp [bytes]
  | cons result results ih =>
    unfold writeAll at h
    split_ifs at h with hdata hfull hlong
    · simp only [Outcome.done.injEq] at h
      rw [← h.1, hdata, List.append_nil]
    · cases result with
      | fails => simp at h
      | accepts n =>
        simp only at h
        split_ifs at h
        rw [ih h, bytes_drain]
    · cases result with
      | fails => simp at h
      | accepts n =>
        simp only at h
        split_ifs at h
        rw [ih h]
        simp [bytes, buffer_eq_nil hfull hlong]
    · simp only [Outcome.done.injEq] at h
      rw [← h.1]
      simp [bytes]

theorem length_append_le {flushing : Bool} {w : BufWriter B} {data : List B}
    (hfull : ¬ ((flushing = true ∨ w.capacity < w.buffer.length + data.length) ∧ w.buffer ≠ []))
    (hlong : ¬ w.capacity ≤ data.length) : (w.buffer ++ data).length ≤ w.capacity := by
  rw [List.length_append]
  by_contra hover
  refine hfull ⟨.inr (by omega), fun hbuffer => ?_⟩
  rw [hbuffer, List.length_nil] at hover
  omega

theorem length_writeAll_le (flushing : Bool) {w : BufWriter B} (data : List B) (results : List SinkResult)
    (h : w.buffer.length ≤ w.capacity) :
    (writeAll flushing w data results).writer.buffer.length ≤ w.capacity := by
  induction results generalizing flushing w data with
  | nil =>
    unfold writeAll
    split_ifs with hdata hfull hlong
    · exact h
    · exact h
    · exact h
    · exact length_append_le hfull hlong
  | cons result results ih =>
    unfold writeAll
    split_ifs with hdata hfull hlong
    · exact h
    · cases result with
      | fails => exact h
      | accepts n =>
        simp only
        split_ifs
        · exact h
        · refine ih true data ?_
          rw [length_buffer_drain, capacity_drain]
          omega
    · cases result with
      | fails => exact h
      | accepts n =>
        simp only
        split_ifs
        · exact h
        · exact ih false (data.drop n) h
    · exact length_append_le hfull hlong

theorem capacity_flush (w : BufWriter B) (results : List SinkResult) :
    (w.flush results).writer.capacity = w.capacity := by
  induction results generalizing w with
  | nil => rfl
  | cons result results ih =>
    cases result with
    | fails => rfl
    | accepts n =>
      unfold flush
      split_ifs
      · rfl
      · rfl
      · rw [ih, capacity_drain]

theorem capacity_writeAll (flushing : Bool) (w : BufWriter B) (data : List B) (results : List SinkResult) :
    (writeAll flushing w data results).writer.capacity = w.capacity := by
  induction results generalizing flushing w data with
  | nil =>
    unfold writeAll
    split_ifs <;> rfl
  | cons result results ih =>
    unfold writeAll
    split_ifs
    · rfl
    · cases result with
      | fails => rfl
      | accepts n =>
        simp only
        split_ifs
        · rfl
        · rw [ih, capacity_drain]
    · cases result with
      | fails => rfl
      | accepts n =>
        simp only
        split_ifs
        · rfl
        · rw [ih]
    · rfl

/-! ### What an operation does -/

/-- An operation appends a part of the data, all of them when it is done, and keeps to the buffer. -/
structure Appends (w : BufWriter B) (data : List B) (o : Outcome B) : Prop where
  bytes : o.writer.bytes <+: w.bytes ++ data
  all : ∀ w' left, o = .done w' left → w'.bytes = w.bytes ++ data
  capacity : o.writer.capacity = w.capacity
  bounded : w.buffer.length ≤ w.capacity → o.writer.buffer.length ≤ w.capacity

theorem appends_done (w : BufWriter B) (left : List SinkResult) : Appends w [] (.done w left) where
  bytes := by simp [Outcome.writer]
  all w' left' h := by
    simp only [Outcome.done.injEq] at h
    rw [← h.1, List.append_nil]
  capacity := rfl
  bounded := id

theorem appends_writeAll (w : BufWriter B) (data : List B) (results : List SinkResult) :
    Appends w data (w.writeAll false data results) where
  bytes := bytes_writeAll_prefix false w data results
  all _ _ h := bytes_writeAll_done h
  capacity := capacity_writeAll false w data results
  bounded := length_writeAll_le false data results

theorem appends_flush (w : BufWriter B) (results : List SinkResult) : Appends w [] (w.flush results) where
  bytes := by simp [bytes_flush]
  all w' left h := by
    have hbytes := bytes_flush w results
    rw [h] at hbytes
    rw [List.append_nil]
    exact hbytes
  capacity := capacity_flush w results
  bounded h := Nat.le_trans (length_flush_le w results) h

theorem Appends.andThen {w : BufWriter B} {data data' : List B} {o : Outcome B}
    {f : BufWriter B → List SinkResult → Outcome B} (h : Appends w data o)
    (hf : ∀ w' left, Appends w' data' (f w' left)) : Appends w (data ++ data') (o.andThen f) := by
  have hpart : o.writer.bytes <+: w.bytes ++ (data ++ data') := by
    rw [← List.append_assoc]
    exact h.bytes.trans (List.prefix_append _ _)
  cases o with
  | done w' left =>
    have hbytes : w'.bytes = w.bytes ++ data := h.all w' left rfl
    have hw' := hf w' left
    refine ⟨?_, fun w'' left' hdone => ?_, hw'.capacity.trans h.capacity, fun hbounded => ?_⟩
    · rw [← List.append_assoc, ← hbytes]
      exact hw'.bytes
    · rw [← List.append_assoc, ← hbytes]
      exact hw'.all w'' left' hdone
    · have hcapacity : w'.capacity = w.capacity := h.capacity
      rw [← hcapacity]
      apply hw'.bounded
      rw [hcapacity]
      exact h.bounded hbounded
  | failed w' => exact ⟨hpart, fun _ _ hdone => by simp [Outcome.andThen] at hdone, h.capacity, h.bounded⟩
  | waiting w' => exact ⟨hpart, fun _ _ hdone => by simp [Outcome.andThen] at hdone, h.capacity, h.bounded⟩

end BufWriter
