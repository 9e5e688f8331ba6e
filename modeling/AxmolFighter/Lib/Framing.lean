import Mathlib.Data.List.Basic

/-!
# Frames from a stream

A reader accumulates what arrives in a buffer and takes frames from its front for as long as there is a
whole one. What an extractor has decided about a buffer it does not take back when more bytes arrive
(`Framing`), so the frames that a stream gives do not depend on how it is cut into reads
(`feed_eq_drain`).
-/

/-- An extractor: an error, no whole frame yet, or a frame and what is behind it. Frames take space, and
neither a frame nor an error depends on what is behind it. -/
structure Framing (B F E : Type) where
  extract : List B → Except E (Option (F × List B))
  shorter : ∀ {buf frame rest}, extract buf = .ok (some (frame, rest)) → rest.length < buf.length
  append_some : ∀ {buf frame rest} (more : List B), extract buf = .ok (some (frame, rest)) →
    extract (buf ++ more) = .ok (some (frame, rest ++ more))
  append_error : ∀ {buf e} (more : List B), extract buf = .error e → extract (buf ++ more) = .error e

namespace Framing

variable {B F E R : Type} (X : Framing B F E)

/-! ### One buffer -/

/-- All whole frames of a buffer, and the bytes behind them or the error that comes next. -/
def drain (buf : List B) : List F × Except E (List B) :=
  match _h : X.extract buf with
  | .error e => ([], .error e)
  | .ok none => ([], .ok buf)
  | .ok (some (frame, rest)) => (frame :: (drain rest).1, (drain rest).2)
termination_by buf.length
decreasing_by all_goals exact X.shorter ‹_›

/-- The frames of a buffer up to the first at which `stop` has a result. -/
def scan (stop : F → Except E (Option R)) (buf : List B) : Except E (Option R × List B) :=
  match _h : X.extract buf with
  | .error e => .error e
  | .ok none => .ok (none, buf)
  | .ok (some (frame, rest)) =>
      match stop frame with
      | .error e => .error e
      | .ok (some r) => .ok (some r, rest)
      | .ok none => scan stop rest
termination_by buf.length
decreasing_by exact X.shorter ‹_›

variable {X} {buf rest : List B} {frame : F} {e : E} {stop : F → Except E (Option R)}

theorem drain_error (h : X.extract buf = .error e) : X.drain buf = ([], .error e) := by
  rw [drain]
  split <;> simp_all

theorem drain_none (h : X.extract buf = .ok none) : X.drain buf = ([], .ok buf) := by
  rw [drain]
  split <;> simp_all

theorem drain_some (h : X.extract buf = .ok (some (frame, rest))) :
    X.drain buf = (frame :: (X.drain rest).1, (X.drain rest).2) := by
  rw [drain]
  split <;> simp_all

theorem scan_error (h : X.extract buf = .error e) : X.scan stop buf = .error e := by
  rw [scan]
  split <;> simp_all

theorem scan_none (h : X.extract buf = .ok none) : X.scan stop buf = .ok (none, buf) := by
  rw [scan]
  split <;> simp_all

theorem scan_fail (h : X.extract buf = .ok (some (frame, rest))) (hstop : stop frame = .error e) :
    X.scan stop buf = .error e := by
  rw [scan]
  split
  · simp_all
  · simp_all
  · rename_i frame' rest' hframe
    obtain ⟨rfl, rfl⟩ := Prod.mk.inj (Option.some.inj (Except.ok.inj (hframe.symm.trans h)))
    rw [hstop]

theorem scan_skip (h : X.extract buf = .ok (some (frame, rest))) (hstop : stop frame = .ok none) :
    X.scan stop buf = X.scan stop rest := by
  rw [scan]
  split
  · simp_all
  · simp_all
  · rename_i frame' rest' hframe
    obtain ⟨rfl, rfl⟩ := Prod.mk.inj (Option.some.inj (Except.ok.inj (hframe.symm.trans h)))
    rw [hstop]

theorem scan_stop {r : R} (h : X.extract buf = .ok (some (frame, rest)))
    (hstop : stop frame = .ok (some r)) : X.scan stop buf = .ok (some r, rest) := by
  rw [scan]
  split
  · simp_all
  · simp_all
  · rename_i frame' rest' hframe
    obtain ⟨rfl, rfl⟩ := Prod.mk.inj (Option.some.inj (Except.ok.inj (hframe.symm.trans h)))
    rw [hstop]

variable (X)

/-- A property of buffers that follows from the one of the bytes behind the first frame. -/
theorem buffer_induction {P : List B → Prop} (herror : ∀ buf e, X.extract buf = .error e → P buf)
    (hnone : ∀ buf, X.extract buf = .ok none → P buf)
    (hsome : ∀ buf frame rest, X.extract buf = .ok (some (frame, rest)) → P rest → P buf)
    (buf : List B) : P buf := by
  induction hlen : buf.length using Nat.strongRecOn generalizing buf with
  | ind n ih =>
      rcases h : X.extract buf with e | _ | ⟨frame, rest⟩
      · exact herror buf e h
      · exact hnone buf h
      · exact hsome buf frame rest h (ih _ (hlen ▸ X.shorter h) rest rfl)

theorem drain_rest (h : (X.drain buf).2 = .ok rest) : X.extract rest = .ok none := by
  induction buf using X.buffer_induction with
  | herror buf e hextract =>
      rw [drain_error hextract] at h
      cases h
  | hnone buf hextract =>
      rw [drain_none hextract] at h
      cases h
      exact hextract
  | hsome buf frame rest' hextract ih =>
      rw [drain_some hextract] at h
      exact ih h

/-- The frames of a buffer to which more is appended: the same first, and no other error. -/
theorem drain_append (buf more : List B) : X.drain (buf ++ more) =
    match (X.drain buf).2 with
    | .error e => ((X.drain buf).1, .error e)
    | .ok rest => ((X.drain buf).1 ++ (X.drain (rest ++ more)).1, (X.drain (rest ++ more)).2) := by
  induction buf using X.buffer_induction with
  | herror buf e hextract => rw [drain_error hextract, drain_error (X.append_error more hextract)]
  | hnone buf hextract =>
      rw [drain_none hextract]
      rfl
  | hsome buf frame rest hextract ih =>
      rw [drain_some hextract, drain_some (X.append_some more hextract), ih]
      cases (X.drain rest).2 <;> rfl

/-- A part of a stream gives the first of its frames. -/
theorem drain_mono {part whole : List B} (h : part <+: whole) : (X.drain part).1 <+: (X.drain whole).1 := by
  obtain ⟨more, rfl⟩ := h
  rw [X.drain_append part more]
  rcases (X.drain part).2 with e | rest
  · exact List.prefix_refl (X.drain part).1
  · exact List.prefix_append (X.drain part).1 _

/-- What a scan leaves without a result is not a whole frame. -/
theorem scan_rest (h : X.scan stop buf = .ok (none, rest)) : X.extract rest = .ok none := by
  induction buf using X.buffer_induction with
  | herror buf e hextract =>
      rw [scan_error hextract] at h
      cases h
  | hnone buf hextract =>
      rw [scan_none hextract] at h
      cases h
      exact hextract
  | hsome buf frame rest' hextract ih =>
      rcases hstop : stop frame with e | _ | r
      · rw [scan_fail hextract hstop] at h
        cases h
      · rw [scan_skip hextract hstop] at h
        exact ih h
      · rw [scan_stop hextract hstop] at h
        cases h

theorem scan_append (buf more : List B) : X.scan stop (buf ++ more) =
    match X.scan stop buf with
    | .error e => .error e
    | .ok (some r, rest) => .ok (some r, rest ++ more)
    | .ok (none, rest) => X.scan stop (rest ++ more) := by
  induction buf using X.buffer_induction with
  | herror buf e hextract => rw [scan_error hextract, scan_error (X.append_error more hextract)]
  | hnone buf hextract => rw [scan_none hextract]
  | hsome buf frame rest hextract ih =>
      have hmore := X.append_some more hextract
      rcases hstop : stop frame with e | _ | r
      · rw [scan_fail hextract hstop, scan_fail hmore hstop]
      · rw [scan_skip hextract hstop, scan_skip hmore hstop, ih]
      · rw [scan_stop hextract hstop, scan_stop hmore hstop]

/-! ### Reads -/

/-- What arrives in reads is appended to the buffer one read at a time, and the buffer is drained after
every read. -/
def feed : List B → List (List B) → List F × Except E (List B)
  | buf, [] => ([], .ok buf)
  | buf, chunk :: chunks =>
      match X.drain (buf ++ chunk) with
      | (frames, .error e) => (frames, .error e)
      | (frames, .ok rest) => (frames ++ (feed rest chunks).1, (feed rest chunks).2)

theorem feed_cons (buf chunk : List B) (chunks : List (List B)) :
    X.feed buf (chunk :: chunks) = X.drain (buf ++ (chunk ++ chunks.flatten)) := by
  induction chunks generalizing buf chunk with
  | nil =>
      rw [List.flatten_nil, List.append_nil, feed]
      rcases h : X.drain (buf ++ chunk) with ⟨frames, e | rest⟩
      · rfl
      · simp [feed]
  | cons next chunks ih =>
      rw [List.flatten_cons, ← List.append_assoc, drain_append, feed]
      rcases X.drain (buf ++ chunk) with ⟨frames, e | rest⟩
      · rfl
      · dsimp only
        rw [ih]

/-- **The reads do not matter.** -/
theorem feed_eq_drain (hbuf : X.extract buf = .ok none) (chunks : List (List B)) :
    X.feed buf chunks = X.drain (buf ++ chunks.flatten) := by
  cases chunks with
  | nil => rw [List.flatten_nil, List.append_nil, drain_none hbuf, feed]
  | cons chunk chunks => rw [feed_cons, List.flatten_cons]

/-- Reads until a scan has a result: the result, the rest of the buffer and the reads that are left. -/
def seek (stop : F → Except E (Option R)) :
    List B → List (List B) → Except E (Option (R × List B × List (List B)))
  | _, [] => .ok none
  | buf, chunk :: chunks =>
      match X.scan stop (buf ++ chunk) with
      | .error e => .error e
      | .ok (some r, rest) => .ok (some (r, rest, chunks))
      | .ok (none, rest) => seek stop rest chunks

/-- Reads without a result leave what a scan of all of them leaves. -/
theorem seek_append (hbuf : X.extract buf = .ok none) {chunks : List (List B)}
    (h : X.scan stop (buf ++ chunks.flatten) = .ok (none, rest)) (later : List (List B)) :
    X.seek stop buf (chunks ++ later) = X.seek stop rest later := by
  induction chunks generalizing buf with
  | nil =>
      rw [List.flatten_nil, List.append_nil, scan_none hbuf] at h
      cases h
      rfl
  | cons chunk chunks ih =>
      rw [List.flatten_cons, ← List.append_assoc, scan_append] at h
      rw [List.cons_append, seek]
      rcases hscan : X.scan stop (buf ++ chunk) with e | ⟨_ | r, rest'⟩
      · rw [hscan] at h
        cases h
      · rw [hscan] at h
        exact ih (X.scan_rest hscan) h
      · rw [hscan] at h
        cases h

theorem seek_none (hbuf : X.extract buf = .ok none) {chunks : List (List B)}
    (h : X.scan stop (buf ++ chunks.flatten) = .ok (none, rest)) : X.seek stop buf chunks = .ok none := by
  have hseek := X.seek_append hbuf h []
  rwa [List.append_nil] at hseek

theorem seek_some (hbuf : X.extract buf = .ok none) {chunks : List (List B)} {chunk rest' : List B} {r : R}
    (h : X.scan stop (buf ++ chunks.flatten) = .ok (none, rest))
    (hsome : X.scan stop (buf ++ (chunks.flatten ++ chunk)) = .ok (some r, rest'))
    (later : List (List B)) :
    X.seek stop buf (chunks ++ chunk :: later) = .ok (some (r, rest', later)) := by
  rw [← List.append_assoc, scan_append, h] at hsome
  have hscan : X.scan stop (rest ++ chunk) = .ok (some r, rest') := hsome
  rw [X.seek_append hbuf h, seek, hscan]

/-! ### Encoded frames -/

variable {X} {encode : F → List B}

/-- A concatenation of encoded frames gives these frames first. -/
theorem drain_encoded {frames : List F}
    (h : ∀ frame ∈ frames, ∀ more, X.extract (encode frame ++ more) = .ok (some (frame, more)))
    (more : List B) : X.drain ((frames.map encode).flatten ++ more) =
      (frames ++ (X.drain more).1, (X.drain more).2) := by
  induction frames with
  | nil => rfl
  | cons frame frames ih =>
      have hframe := h frame List.mem_cons_self ((frames.map encode).flatten ++ more)
      rw [List.map_cons, List.flatten_cons, List.append_assoc, drain_some hframe,
        ih fun frame' hframe' => h frame' (List.mem_cons_of_mem _ hframe')]
      rfl

theorem scan_encoded {frames : List F}
    (h : ∀ frame ∈ frames, ∀ more, X.extract (encode frame ++ more) = .ok (some (frame, more)))
    (hstop : ∀ frame ∈ frames, stop frame = .ok none) (more : List B) :
    X.scan stop ((frames.map encode).flatten ++ more) = X.scan stop more := by
  induction frames with
  | nil => rfl
  | cons frame frames ih =>
      have hframe := h frame List.mem_cons_self ((frames.map encode).flatten ++ more)
      rw [List.map_cons, List.flatten_cons, List.append_assoc,
        scan_skip hframe (hstop frame List.mem_cons_self),
        ih (fun frame' hframe' => h frame' (List.mem_cons_of_mem _ hframe'))
          fun frame' hframe' => hstop frame' (List.mem_cons_of_mem _ hframe')]

/-! ### Frames in another form -/

/-- The extractor that gives each frame in another form. -/
def map {G : Type} (X : Framing B F E) (f : F → G) : Framing B G E where
  extract buf := (X.extract buf).map (Option.map (Prod.map f id))
  shorter {buf frame rest} h := by
    rcases hextract : X.extract buf with e | _ | ⟨frame', rest'⟩
    · simp [hextract, Except.map] at h
    · simp [hextract, Except.map] at h
    · simp only [hextract, Except.map, Option.map_some, Except.ok.injEq, Option.some.injEq, Prod.map,
        Prod.mk.injEq, id] at h
      rw [← h.2]
      exact X.shorter hextract
  append_some {buf frame rest} more h := by
    rcases hextract : X.extract buf with e | _ | ⟨frame', rest'⟩
    · simp [hextract, Except.map] at h
    · simp [hextract, Except.map] at h
    · simp only [hextract, Except.map, Option.map_some, Except.ok.injEq, Option.some.injEq, Prod.map,
        Prod.mk.injEq, id] at h
      simp [X.append_some more hextract, Except.map, Prod.map, h.1, h.2]
  append_error {buf e} more h := by
    rcases hextract : X.extract buf with e' | _ | ⟨frame', rest'⟩
    · simp only [hextract, Except.map, Except.error.injEq] at h
      simp [X.append_error more hextract, Except.map, h]
    · simp [hextract, Except.map] at h
    · simp [hextract, Except.map] at h

theorem drain_map {G : Type} (f : F → G) (buf : List B) :
    (X.map f).drain buf = ((X.drain buf).1.map f, (X.drain buf).2) := by
  induction buf using X.buffer_induction with
  | herror buf e hextract =>
      have hmap : (X.map f).extract buf = .error e := by simp [map, hextract, Except.map]
      rw [drain_error hextract, drain_error hmap, List.map_nil]
  | hnone buf hextract =>
      have hmap : (X.map f).extract buf = .ok none := by simp [map, hextract, Except.map]
      rw [drain_none hextract, drain_none hmap, List.map_nil]
  | hsome buf frame rest hextract ih =>
      have hmap : (X.map f).extract buf = .ok (some (f frame, rest)) := by
        simp [map, hextract, Except.map, Prod.map]
      rw [drain_some hextract, drain_some hmap, ih, List.map_cons]

end Framing
