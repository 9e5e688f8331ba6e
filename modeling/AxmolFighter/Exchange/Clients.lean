import AxmolFighter.Gateway.Uplink
import AxmolFighter.Net.Transport

/-!
# From what a client writes to the backends' channels

The bytes of a client are cut into reads in any way, its connection is given the frames that the reader takes from
them, and the handlers of all connections are interleaved. What the backends' channels get under the client's session
are frames that the client wrote, none twice, and in the order in which it wrote them.
-/

namespace AxmolFighter.Exchange

open Gateway Net.NetSession

/-! ### What the reader takes -/

def ClientFits (frame : ClientFrame) : Prop := clientHeaderSize + frame.payload.length ≤ maxPacketSize

instance (frame : ClientFrame) : Decidable (ClientFits frame) := inferInstanceAs (Decidable (_ ≤ _))

/-- What the client puts on its connection for these frames. -/
def encodeClientFrames (frames : List ClientFrame) : Bytes := (frames.map encodeClientFrame).flatten

variable {frames : List ClientFrame} {reads : List Bytes} {takes : List Bytes → Bytes → Bool}

theorem drain_clients (hfits : ∀ frame ∈ frames, ClientFits frame) :
    (clientFraming.drain (encodeClientFrames frames)).1 = frames := by
  have hextract : ∀ frame ∈ frames, ∀ more,
      clientFraming.extract (encodeClientFrame frame ++ more) = .ok (some (frame, more)) :=
    fun frame hframe more => tryExtractClientFrame_encode frame (hfits frame hframe) more
  have hwhole := Framing.drain_encoded hextract []
  rw [List.append_nil, Framing.drain_none (show clientFraming.extract [] = .ok none from rfl), List.append_nil]
    at hwhole
  rw [encodeClientFrames, hwhole]

theorem drain_clientBodies (stream : Bytes) :
    (clientBodies.drain stream).1 = (clientFraming.drain stream).1.map ClientFrame.body :=
  congrArg Prod.fst (Framing.drain_map ClientFrame.body stream)

theorem map_ofBody (frames : List ClientFrame) : (frames.map ClientFrame.body).map ClientFrame.ofBody = frames := by
  rw [List.map_map]
  refine (List.map_congr_left fun frame _ => ?_).trans (List.map_id _)
  exact frame.ofBody_body

theorem pollRead_clients (hfits : ∀ frame ∈ frames, ClientFits frame) (hreads : Moderate reads)
    (hpart : reads.flatten <+: encodeClientFrames frames) :
    (pollRead clientBodies takes [] [] reads).1.map ClientFrame.ofBody <+: frames := by
  have hcalls : (pollRead clientBodies takes [] [] reads).1 <+: (clientBodies.drain reads.flatten).1 := by
    rw [pollRead_eq (fun _ => length_clientBodies) rfl rfl hreads]
    exact admitted_part [] (clientBodies.drain reads.flatten).1
  have hcome := clientFraming.drain_mono hpart
  rw [drain_clients hfits] at hcome
  rw [drain_clientBodies] at hcalls
  have hframes := hcalls.map ClientFrame.ofBody
  rw [map_ofBody] at hframes
  exact hframes.trans hcome

theorem pollRead_clients_all (hfits : ∀ frame ∈ frames, ClientFits frame) (hreads : Moderate reads)
    (hall : reads.flatten = encodeClientFrames frames) :
    (pollRead clientBodies (fun _ _ => true) [] [] reads).1.map ClientFrame.ofBody = frames := by
  rw [pollRead_eq (fun _ => length_clientBodies) rfl rfl hreads]
  show (admitted _ [] (clientBodies.drain reads.flatten).1).1.map ClientFrame.ofBody = frames
  rw [admitted_all, hall]
  show ([] ++ (clientBodies.drain (encodeClientFrames frames)).1).map ClientFrame.ofBody = frames
  rw [List.nil_append, drain_clientBodies, drain_clients hfits, map_ofBody]

/-! ### What the backends get -/

/-- **The gateway takes a client's frames once and in order.** However the client's bytes are cut into reads and
whatever the other connections do in between: what the backends' channels have got under the session of the
client are frames that it wrote, unchanged, none twice, in the order in which it wrote them. -/
theorem relayed_of_written {m : MessageMap} {rules : List RouteRule}
    {trace : List (Pool signature Shared Connection × Pool.Event signature Connection Input)}
    {pool : Pool signature Shared Connection} (hrun : Run (Pool.Step (system m)) (initial rules) trace pool)
    (hconnections : pool.threads.length < 2 ^ 32 - 1) {k : Nat} (hfits : ∀ frame ∈ frames, ClientFits frame)
    (hreads : Moderate reads) (hpart : reads.flatten <+: encodeClientFrames frames)
    (hgiven : clientFrames k trace <+: (pollRead clientBodies takes [] [] reads).1.map ClientFrame.ofBody) :
    (pool.shared.relayed k).Sublist frames := by
  have hread : (pollRead clientBodies takes [] [] reads).1.map ClientFrame.ofBody <+: frames :=
    pollRead_clients hfits hreads hpart
  exact (relayed_sublist hrun hconnections k).trans (hgiven.trans hread).sublist

/-- A backend registers; a client asks for the status and sends a business frame, both in one read. -/
def Sample.uplink : List (Pool.Slot Connection Input) :=
  [.opens (.accept 1 0 (.internal {})), .input 0 .start, .call 0, .input 0 (.backendFrame Gateway.Sample.register)] ++
    List.replicate 7 (.call 0) ++
    [.opens (.accept 2 1 (.client {})), .input 1 .start, .call 1, .input 1 (.clientFrame Gateway.Sample.statusRequest)] ++
    List.replicate 5 (.call 1) ++ [.input 1 (.clientFrame Gateway.Sample.business)] ++ List.replicate 4 (.call 1)

theorem relayed_of_written_sample : ∃ trace pool,
    Run (Pool.Step (system Gateway.Sample.messages)) (initial Gateway.Sample.rules) trace pool ∧
      pool.shared.relayed 1 = [Gateway.Sample.business] ∧
      (pool.shared.relayed 1).Sublist [Gateway.Sample.statusRequest, Gateway.Sample.business] := by
  have hplayed : (Run.schedule (executor Gateway.Sample.messages).advance (initial Gateway.Sample.rules)
      Sample.uplink).map (fun r => (r.2.threads.length, r.2.shared.relayed 1, clientFrames 1 r.1)) =
        some (2, [Gateway.Sample.business], [Gateway.Sample.statusRequest, Gateway.Sample.business]) := by
    decide +kernel
  obtain ⟨⟨trace, pool⟩, hschedule, hobserved⟩ := Option.map_eq_some_iff.1 hplayed
  obtain ⟨hthreads, hobserved⟩ := Prod.mk.inj hobserved
  obtain ⟨hrelayed, hframes⟩ := Prod.mk.inj hobserved
  have hrun : Run (Pool.Step (system Gateway.Sample.messages)) (initial Gateway.Sample.rules) trace pool :=
    Run.of_schedule (fun _ _ _ _ hadvance => (executor _).advance_sound hadvance) hschedule
  have hfits : ∀ frame ∈ [Gateway.Sample.statusRequest, Gateway.Sample.business], ClientFits frame := by decide
  have hreads : Moderate [encodeClientFrames [Gateway.Sample.statusRequest, Gateway.Sample.business]] := by decide
  have hall : [encodeClientFrames [Gateway.Sample.statusRequest, Gateway.Sample.business]].flatten =
      encodeClientFrames [Gateway.Sample.statusRequest, Gateway.Sample.business] := List.flatten_singleton
  have hread := pollRead_clients_all hfits hreads hall
  have hgiven : clientFrames 1 trace <+: (pollRead clientBodies (fun _ _ => true) [] []
      [encodeClientFrames [Gateway.Sample.statusRequest, Gateway.Sample.business]]).1.map ClientFrame.ofBody :=
    ⟨[], by rw [List.append_nil, hframes, hread]⟩
  refine ⟨trace, pool, hrun, hrelayed, relayed_of_written hrun ?_ hfits hreads ⟨[], by rw [List.append_nil, hall]⟩ hgiven⟩
  show pool.threads.length < 2 ^ 32 - 1
  have hlength : pool.threads.length = 2 := hthreads
  omega

end AxmolFighter.Exchange
