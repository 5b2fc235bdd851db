import Screencast.Proofs.Stream.Frames
import Screencast.Proofs.Stream.Transfer
import Screencast.Proofs.Video.Delivery
import Screencast.Proofs.Video.Service

/-!
What arrives on the video channel, whatever becomes of the encoders and of the sink. It is a part,
from the front, of one header and the frames of the buffers that were fetched, over all attempts;
or of the error marker, when nothing was fetched (`stream_of_run`).
-/

namespace Screencast

namespace Delivery

def units (deliveries : List Delivery) : List AccessUnit := deliveries.map (·.unit)

/-- One header, and a frame for each buffer. -/
def stream (codec : VideoCodec) : List Delivery → Bytes
  | [] => []
  | first :: rest => codec.header first.size ++ AccessUnit.frames (units (first :: rest))

example :
    stream .h264
      [⟨⟨32, 64⟩, none, ⟨[1, 2], 5, .config⟩⟩, ⟨⟨64, 32⟩, none, ⟨[3], 9, .keyFrame⟩⟩] =
    [0x68, 0x32, 0x36, 0x34, 0, 0, 0, 8, 0, 0, 0, 32, 0, 0, 0, 64,
      0x80, 0, 0, 0, 0, 0, 0, 0, 0, 0, 0, 2, 1, 2,
      0x40, 0, 0, 0, 0, 0, 0, 0, 0, 0, 0, 1, 3] := by decide

variable {codec : VideoCodec} {seen : List Delivery}

theorem stream_snoc (some : seen ≠ []) (d : Delivery) {bytes : Bytes}
    (more : AccessUnit.frames (units seen ++ [d.unit]) = AccessUnit.frames (units seen) ++ bytes) :
    stream codec (seen ++ [d]) = stream codec seen ++ bytes := by
  cases seen with
  | nil => exact absurd rfl some
  | cons first rest =>
    have all : units (first :: rest ++ [d]) = units (first :: rest) ++ [d.unit] := List.map_append
    simp only [stream, List.cons_append] at all ⊢
    rw [all, more, List.append_assoc]

theorem stream_grows (codec : VideoCodec) (seen : List Delivery) (d : Delivery) :
    stream codec seen <+: stream codec (seen ++ [d]) := by
  cases seen with
  | nil => exact ⟨_, rfl⟩
  | cons first rest =>
    rw [stream_snoc (by simp) d (AccessUnit.frames_snoc _ _)]
    exact List.prefix_append ..

end Delivery

open Delivery (units stream stream_snoc stream_grows)

/-! ### Where a session is in its stream -/

namespace VideoStage

/-- The write under way. -/
def transfer? : VideoStage → Option Transfer
  | .sendHeader _ _ _ t | .sendPacket _ _ t | .announce _ t => some t
  | _ => none

/-- The session was stopped, or its result is settled. -/
def isLast : VideoStage → Bool
  | .tearDown _ (.ok .stopped) | .conclude _ (.ok .stopped) | .announce _ _ | .ended _ => true
  | _ => false

/-- The session was stopped and will write nothing more. -/
def Leaving : VideoStage → Prop
  | .tearDown _ (.ok .stopped) | .conclude _ (.ok .stopped) | .ended (.ok ()) => True
  | _ => False

theorem Working.early {stage : VideoStage} {a : Attempt} (h : stage.Working a) :
    stage.transfer? = none ∧ stage.isLast = false := by
  unfold Working at h
  split at h
  all_goals first | exact ⟨rfl, rfl⟩ | contradiction

theorem Leaving.last {stage : VideoStage} (h : stage.Leaving) : stage.isLast = true := by
  unfold Leaving at h
  split at h <;> first | rfl | contradiction

end VideoStage

/-- What a framer and a sink come to between two writes. -/
inductive AtRest (codec : VideoCodec) (seen : List Delivery) (framer : Framer) (sink : Sink)
    (written : Bytes) : Prop
  | blank (nothing : seen = []) (framer : framer = { codec := .video codec })
      (written : written = [])
  | between (some : seen ≠ []) (framer : framer = .opened codec (units seen))
      (written : written = stream codec seen)
  /-- A write has failed. -/
  | cut (sent : framer.headerSent = true) (dead : sink.Dead) (cut : written <+: stream codec seen)

theorem AtRest.cut_stream {codec : VideoCodec} {seen : List Delivery} {framer : Framer}
    {sink : Sink} {written : Bytes} (rest : AtRest codec seen framer sink written) :
    written <+: stream codec seen := by
  cases rest with
  | blank nothing framer nil => exact ⟨_, by rw [nil]; rfl⟩
  | between some framer all => exact ⟨[], by rw [all, List.append_nil]⟩
  | cut sent dead cut => exact cut

namespace VideoOutline

/-- What was written of the stream, by what the session is doing. -/
inductive Writing (codec : VideoCodec) (seen : List Delivery) (s : VideoOutline)
    (written : Bytes) : Prop
  | rest (idle : s.stage.transfer? = none) (rest : AtRest codec seen s.framer s.sink written)
  | header {a : Attempt} {output : OutputBuffer} {data : Bytes} {t : Transfer} {d : Delivery}
      (stage : s.stage = .sendHeader a output data t) (only : seen = [d])
      (unit : d.unit = output.info.unit data) (framer : s.framer = .opened codec [])
      (missing : written ++ t.rest = codec.header d.size)
  | frame {a : Attempt} {output : OutputBuffer} {t : Transfer}
      (stage : s.stage = .sendPacket a output t) (some : seen ≠ [])
      (framer : s.framer = .opened codec (units seen))
      (missing : written ++ t.rest = stream codec seen)
  /-- A frame is being written after a write has failed. -/
  | lost {a : Attempt} {output : OutputBuffer} {t : Transfer}
      (stage : s.stage = .sendPacket a output t) (sent : s.framer.headerSent = true)
      (dead : s.sink.Dead) (cut : written <+: stream codec seen)
  | left (stage : s.stage.Leaving) (cut : written <+: stream codec seen)
  | marking {e : Error} {t : Transfer} (stage : s.stage = .announce e t) (nothing : seen = [])
      (told : e.isDisconnect = false) (missing : written ++ t.rest = Framer.errorMarker)
  | marked {e : Error} (stage : s.stage = .ended (.error e)) (nothing : seen = [])
      (told : e.isDisconnect = false) (cut : written <+: Framer.errorMarker)

variable {codec : VideoCodec} {seen : List Delivery} {s s' : VideoOutline} {base written : Bytes}
  {g g' : DeviceGeometry} {fetched : Option Fetched}

theorem Writing.atRest (w : Writing codec seen s written) (idle : s.stage.transfer? = none)
    (early : s.stage.isLast = false) : AtRest codec seen s.framer s.sink written := by
  cases w with
  | rest idle rest => exact rest
  | header stage | frame stage | lost stage | marking stage =>
    simp [stage, VideoStage.transfer?] at idle
  | left stage => simp [stage.last] at early
  | marked stage => simp [stage, VideoStage.isLast] at early

/-- What the sink has taken is at any time the front of the stream, or of a mark. -/
theorem Writing.front (w : Writing codec seen s written) :
    written <+: stream codec seen ∨
      seen = [] ∧ (∃ e, s.outcome? = some (.error e) ∧ e.isDisconnect = false) ∧
        written <+: Framer.errorMarker := by
  cases w with
  | rest idle rest => exact .inl rest.cut_stream
  | @header _ _ _ t d stage only unit framer missing =>
    refine .inl ⟨t.rest ++ AccessUnit.frames (units [d]), ?_⟩
    rw [only, stream, ← missing, List.append_assoc]
  | @frame _ _ t stage some framer missing => exact .inl ⟨t.rest, missing⟩
  | lost stage sent dead cut => exact .inl cut
  | left leaving cut => exact .inl cut
  | @marking e t stage nothing told missing =>
    exact .inr ⟨nothing, ⟨e, by simp [VideoSession.outcome?, stage], told⟩, t.rest, missing⟩
  | @marked e stage nothing told cut =>
    exact .inr ⟨nothing, ⟨e, by simp [VideoSession.outcome?, stage], told⟩, cut⟩

/-- Most steps leave framer and sink alone. -/
theorem Writing.quiet (w : Writing codec seen s written) (idle : s.stage.transfer? = none)
    (early : s.stage.isLast = false) (after : s'.stage.transfer? = none)
    (framer : s'.framer = s.framer) (sink : s'.sink = s.sink) : Writing codec seen s' written := by
  refine .rest after ?_
  rw [framer, sink]
  exact w.atRest idle early

/-- The frame of the last unit is still to be written. -/
theorem writing_frame {before : List AccessUnit} {a : Attempt} {output : OutputBuffer}
    {data : Bytes} (framer : s.framer = .opened codec before) (some : seen ≠ [])
    (all : units seen = before ++ [output.info.unit data])
    (missing : ∀ bytes,
      AccessUnit.frames (units seen) = AccessUnit.frames before ++ bytes →
        written ++ bytes = stream codec seen) :
    Writing codec seen (s.beginPacket a output data) written := by
  obtain ⟨bytes, packed, more⟩ := Framer.packet_opened codec before (output.info.unit data)
  rw [← all] at packed more
  have begun : s.beginPacket a output data = { s with
      framer := .opened codec (units seen), stage := .sendPacket a output { rest := bytes } } := by
    simp [VideoSession.beginPacket, framer, packed]
  rw [begun]
  exact .frame rfl some rfl (missing bytes more)

theorem writing_lost {a : Attempt} {output : OutputBuffer} {data : Bytes}
    (sent : s.framer.headerSent = true) (dead : s.sink.Dead) (cut : written <+: stream codec seen) :
    Writing codec seen (s.beginPacket a output data) written := by
  unfold VideoSession.beginPacket
  split
  · exact .rest rfl (.cut sent dead cut)
  · rename_i packed
    exact .rest rfl (.cut (by rw [Framer.headerSent_packet packed]; exact sent) dead cut)
  · rename_i packed
    exact .lost rfl (by rw [Framer.headerSent_packet packed]; exact sent) dead cut

/-- Only a session that has written nothing leaves a mark. -/
theorem writing_exit (rest : AtRest codec seen s.framer s.sink written)
    (result : Except Error Unit) : Writing codec seen (s.exit result) written := by
  unfold VideoSession.exit
  split
  · exact .rest rfl rest
  · rename_i e
    split
    · exact .rest rfl rest
    · rename_i heard
      obtain ⟨present, unsent⟩ : e.isDisconnect = false ∧ s.framer.headerSent = false := by
        simpa using heard
      cases rest with
      | blank nothing framer nil =>
        have marks : s.framer.disable true =
            ({ codec := .video codec, headerSent := true }, some Framer.errorMarker) := by
          simp [framer, Framer.disable, Framer.opening]
        rw [marks]
        exact .marking rfl nothing present (by simp [nil])
      | between some framer => simp [framer, Framer.opened] at unsent
      | cut sent => simp [sent] at unsent

/-- The sink has taken `base`, and then what `Writing` says. -/
def Streams (codec : VideoCodec) (base : Bytes) (seen : List Delivery) (s : VideoOutline) : Prop :=
  ∃ written, s.sink.accepted = base ++ written ∧ Writing codec seen s written

theorem Streams.quiet (streams : Streams codec base seen s)
    (idle : s.stage.transfer? = none) (early : s.stage.isLast = false)
    (after : s'.stage.transfer? = none) (framer : s'.framer = s.framer) (sink : s'.sink = s.sink) :
    Streams codec base seen s' := by
  obtain ⟨written, accepted, w⟩ := streams
  exact ⟨written, by rw [sink]; exact accepted, w.quiet idle early after framer sink⟩

theorem Writing.sendingHeader (w : Writing codec seen s written) {a : Attempt}
    {output : OutputBuffer} {data : Bytes} {t : Transfer}
    (stage : s.stage = .sendHeader a output data t) :
    ∃ d, seen = [d] ∧ d.unit = output.info.unit data ∧ s.framer = .opened codec [] ∧
      written ++ t.rest = codec.header d.size := by
  cases w with
  | header same only unit framer missing =>
    cases stage.symm.trans same
    exact ⟨_, only, unit, framer, missing⟩
  | rest idle => simp [stage, VideoStage.transfer?] at idle
  | frame other | lost other | marking other | marked other => cases stage.symm.trans other
  | left leaving => simp [stage, VideoStage.Leaving] at leaving

theorem Writing.sendingPacket (w : Writing codec seen s written) {a : Attempt}
    {output : OutputBuffer} {t : Transfer} (stage : s.stage = .sendPacket a output t) :
    (seen ≠ [] ∧ s.framer = .opened codec (units seen) ∧ written ++ t.rest = stream codec seen) ∨
      (s.framer.headerSent = true ∧ s.sink.Dead ∧ written <+: stream codec seen) := by
  cases w with
  | frame same some framer missing =>
    cases stage.symm.trans same
    exact .inl ⟨some, framer, missing⟩
  | lost same sent dead cut => exact .inr ⟨sent, dead, cut⟩
  | rest idle => simp [stage, VideoStage.transfer?] at idle
  | header other | marking other | marked other => cases stage.symm.trans other
  | left leaving => simp [stage, VideoStage.Leaving] at leaving

theorem Writing.sendingMark (w : Writing codec seen s written) {e : Error} {t : Transfer}
    (stage : s.stage = .announce e t) :
    seen = [] ∧ e.isDisconnect = false ∧ written ++ t.rest = Framer.errorMarker := by
  cases w with
  | marking same nothing told missing =>
    cases stage.symm.trans same
    exact ⟨nothing, told, missing⟩
  | rest idle => simp [stage, VideoStage.transfer?] at idle
  | header other | frame other | lost other | marked other => cases stage.symm.trans other
  | left leaving => simp [stage, VideoStage.Leaving] at leaving

/-- Whatever the session was writing when it was stopped, nothing follows. -/
theorem Streams.abandon (streams : Streams codec base seen s) {a : Attempt}
    (delivering : s.stage.Delivering a) :
    Streams codec base seen { s with stage := .tearDown a (.ok .stopped) } := by
  obtain ⟨written, accepted, w⟩ := streams
  refine ⟨written, accepted, .left trivial ?_⟩
  rcases w.front with cut | ⟨-, ⟨e, settled, -⟩, -⟩
  · exact cut
  · simp [delivering.outcome?] at settled

/-- The first buffer is preceded by a header, in whatever attempt it comes. -/
theorem Streams.header (streams : Streams codec base seen s) {a : Attempt}
    {output : OutputBuffer} {data bytes : Bytes} {framer : Framer} {calls : List VideoCall}
    {d : Delivery} (stage : s.stage = .deliver a output)
    (opened : s.framer.videoHeader a.size = (framer, some bytes)) (size : d.size = a.size)
    (unit : d.unit = output.info.unit data) :
    Streams codec base (seen ++ [d]) { s.record calls with
      framer, stage := .sendHeader a output data { rest := bytes } } := by
  obtain ⟨written, accepted, w⟩ := streams
  cases w.atRest (by rw [stage]; rfl) (by rw [stage]; rfl) with
  | blank nothing start nil =>
    rw [start, Framer.videoHeader_start] at opened
    cases opened
    exact ⟨written, accepted, .header rfl (by rw [nothing]; rfl) unit rfl (by rw [nil, size]; rfl)⟩
  | between some start =>
    rw [start, Framer.videoHeader_of_sent rfl] at opened
    cases opened
  | cut sent =>
    rw [Framer.videoHeader_of_sent sent] at opened
    cases opened

theorem Streams.packet (streams : Streams codec base seen s) {a : Attempt}
    {output : OutputBuffer} {data : Bytes} {framer : Framer} {calls : List VideoCall}
    {d : Delivery} (stage : s.stage = .deliver a output)
    (opened : s.framer.videoHeader a.size = (framer, none))
    (unit : d.unit = output.info.unit data) :
    Streams codec base (seen ++ [d])
      ({ s.record calls with framer }.beginPacket a output data) := by
  obtain ⟨written, accepted, w⟩ := streams
  refine ⟨written, by rw [VideoSession.beginPacket_sink]; exact accepted, ?_⟩
  cases w.atRest (by rw [stage]; rfl) (by rw [stage]; rfl) with
  | blank nothing start =>
    rw [start, Framer.videoHeader_start] at opened
    cases opened
  | between some start all =>
    rw [start, Framer.videoHeader_of_sent rfl] at opened
    cases opened
    have more : units (seen ++ [d]) = units seen ++ [d.unit] := List.map_append
    refine writing_frame rfl (by simp) (by rw [more, unit]) fun bytes added => ?_
    rw [more] at added
    rw [all, stream_snoc some d added]
  | cut sent dead cut =>
    rw [Framer.videoHeader_of_sent sent] at opened
    cases opened
    exact writing_lost sent dead (cut.trans (stream_grows ..))

theorem Streams.headerWaits (streams : Streams codec base seen s) {a : Attempt}
    {output : OutputBuffer} {data : Bytes} {t rest : Transfer} {sink : Sink}
    (stage : s.stage = .sendHeader a output data t)
    (sent : s.sink.transfer t = (sink, .stalls rest)) :
    Streams codec base seen { s with sink, stage := .sendHeader a output data rest } := by
  obtain ⟨written, accepted, w⟩ := streams
  obtain ⟨d, only, unit, framer, missing⟩ := w.sendingHeader stage
  obtain ⟨taken, more, left, -⟩ := Sink.transfer_stalls sent
  refine ⟨written ++ taken, by rw [more, accepted, List.append_assoc],
    .header rfl only unit framer ?_⟩
  rw [List.append_assoc, ← left, missing]

theorem Streams.headerDone (streams : Streams codec base seen s) {a : Attempt}
    {output : OutputBuffer} {data : Bytes} {t : Transfer} {sink : Sink}
    (stage : s.stage = .sendHeader a output data t)
    (sent : s.sink.transfer t = (sink, .ends (.ok ()))) :
    Streams codec base seen ({ s with sink }.beginPacket a output data) := by
  obtain ⟨written, accepted, w⟩ := streams
  obtain ⟨d, only, unit, framer, missing⟩ := w.sendingHeader stage
  obtain ⟨more, -⟩ := Sink.transfer_done sent
  refine ⟨written ++ t.rest, ?_, writing_frame framer (by simp [only]) ?_ fun bytes added => ?_⟩
  · rw [VideoSession.beginPacket_sink, more, accepted, List.append_assoc]
  · simp [only, units, unit]
  · rw [only] at added ⊢
    rw [missing, stream, added]
    rfl

theorem Streams.headerFails (streams : Streams codec base seen s) {a : Attempt}
    {output : OutputBuffer} {data : Bytes} {t : Transfer} {sink : Sink} {e : Error}
    (stage : s.stage = .sendHeader a output data t)
    (sent : s.sink.transfer t = (sink, .ends (.error e))) :
    Streams codec base seen { s with sink, stage := .giveBack a output (.error e) } := by
  obtain ⟨written, accepted, w⟩ := streams
  obtain ⟨d, only, unit, framer, missing⟩ := w.sendingHeader stage
  obtain ⟨taken, more, ⟨left, begins⟩, dead, -⟩ := Sink.transfer_failed sent
  refine ⟨written ++ taken, by rw [more, accepted, List.append_assoc],
    .rest rfl (.cut (by rw [framer]; rfl) dead ⟨left ++ AccessUnit.frames (units seen), ?_⟩)⟩
  rw [only, stream, ← missing, ← begins]
  simp only [List.append_assoc]

theorem Streams.packetWaits (streams : Streams codec base seen s) {a : Attempt}
    {output : OutputBuffer} {t rest : Transfer} {sink : Sink}
    (stage : s.stage = .sendPacket a output t)
    (sent : s.sink.transfer t = (sink, .stalls rest)) :
    Streams codec base seen { s with sink, stage := .sendPacket a output rest } := by
  obtain ⟨written, accepted, w⟩ := streams
  obtain ⟨taken, more, left, lost⟩ := Sink.transfer_stalls sent
  refine ⟨written ++ taken, by rw [more, accepted, List.append_assoc], ?_⟩
  rcases w.sendingPacket stage with ⟨some, framer, missing⟩ | ⟨opened, dead, cut⟩
  · refine .frame rfl some framer ?_
    rw [List.append_assoc, ← left, missing]
  · obtain ⟨nothing, dead⟩ := lost dead
    refine .lost rfl opened dead ?_
    rw [nothing, List.append_nil]
    exact cut

theorem Streams.packetEnds (streams : Streams codec base seen s) {a : Attempt}
    {output : OutputBuffer} {t : Transfer} {sink : Sink} {result : Except Error Unit}
    (stage : s.stage = .sendPacket a output t)
    (sent : s.sink.transfer t = (sink, .ends result)) :
    Streams codec base seen { s with sink, stage := .giveBack a output result } := by
  obtain ⟨written, accepted, w⟩ := streams
  rcases result with e | _
  · obtain ⟨taken, more, ⟨left, begins⟩, dead, lost⟩ := Sink.transfer_failed sent
    refine ⟨written ++ taken, by rw [more, accepted, List.append_assoc], .rest rfl ?_⟩
    rcases w.sendingPacket stage with ⟨some, framer, missing⟩ | ⟨opened, gone, cut⟩
    · refine .cut (by rw [framer]; rfl) dead ⟨left, ?_⟩
      rw [← missing, ← begins, List.append_assoc]
    · refine .cut opened dead ?_
      rw [lost gone, List.append_nil]
      exact cut
  · obtain ⟨more, lost⟩ := Sink.transfer_done sent
    refine ⟨written ++ t.rest, by rw [more, accepted, List.append_assoc], .rest rfl ?_⟩
    rcases w.sendingPacket stage with ⟨some, framer, missing⟩ | ⟨opened, gone, cut⟩
    · exact .between some framer missing
    · obtain ⟨nothing, dead⟩ := lost gone
      refine .cut opened dead ?_
      rw [nothing, List.append_nil]
      exact cut

theorem Streams.tearDown (streams : Streams codec base seen s) {a : Attempt}
    {ending : Except Error Ending} {calls : List VideoCall} (stage : s.stage = .tearDown a ending) :
    Streams codec base seen { s.record calls with stage := .conclude a.size ending } := by
  obtain ⟨written, accepted, w⟩ := streams
  refine ⟨written, accepted, ?_⟩
  cases w with
  | rest idle rest => exact .rest rfl rest
  | left leaving cut =>
    refine .left ?_ cut
    rw [stage] at leaving
    unfold VideoStage.Leaving at leaving ⊢
    split at leaving <;> simp_all
  | header other | frame other | lost other | marking other | marked other =>
    cases stage.symm.trans other

theorem Streams.finish (streams : Streams codec base seen s) {size : Size}
    {ending : Except Error Ending} {result : Except Error Unit} {downsize : Bool}
    (stage : s.stage = .conclude size ending)
    (concludes : Ending.Concludes downsize size ending result) :
    Streams codec base seen (s.exit result) := by
  obtain ⟨written, accepted, w⟩ := streams
  refine ⟨written, by rw [VideoSession.exit_sink]; exact accepted, ?_⟩
  cases w with
  | rest idle rest => exact writing_exit rest result
  | left leaving cut =>
    rw [stage] at leaving
    cases concludes with
    | done final => exact .left trivial cut
    | exhausted | failed => exact leaving.elim
  | header other | frame other | lost other | marking other | marked other =>
    cases stage.symm.trans other

theorem Streams.markWaits (streams : Streams codec base seen s) {e : Error}
    {t rest : Transfer} {sink : Sink} (stage : s.stage = .announce e t)
    (sent : s.sink.transfer t = (sink, .stalls rest)) :
    Streams codec base seen { s with sink, stage := .announce e rest } := by
  obtain ⟨written, accepted, w⟩ := streams
  obtain ⟨nothing, told, missing⟩ := w.sendingMark stage
  obtain ⟨taken, more, left, -⟩ := Sink.transfer_stalls sent
  refine ⟨written ++ taken, by rw [more, accepted, List.append_assoc], .marking rfl nothing told ?_⟩
  rw [List.append_assoc, ← left, missing]

theorem Streams.markEnds (streams : Streams codec base seen s) {e : Error}
    {t : Transfer} {sink : Sink} {result : Except Error Unit} (stage : s.stage = .announce e t)
    (sent : s.sink.transfer t = (sink, .ends result)) :
    Streams codec base seen { s with sink, stage := .ended (.error e) } := by
  obtain ⟨written, accepted, w⟩ := streams
  obtain ⟨nothing, told, missing⟩ := w.sendingMark stage
  rcases result with e | _
  · obtain ⟨taken, more, ⟨left, begins⟩, -⟩ := Sink.transfer_failed sent
    refine ⟨written ++ taken, by rw [more, accepted, List.append_assoc],
      .marked rfl nothing told ⟨left, ?_⟩⟩
    rw [← missing, ← begins, List.append_assoc]
  · obtain ⟨more, -⟩ := Sink.transfer_done sent
    refine ⟨written ++ t.rest, by rw [more, accepted, List.append_assoc],
      .marked rfl nothing told ⟨[], ?_⟩⟩
    rw [missing, List.append_nil]

theorem Streams.unfetched (streams : Streams codec base seen s') :
    Streams codec base (seen ++ s.deliveries none s') s' := by
  simpa [deliveries] using streams

theorem Streams.step (streams : Streams codec base seen s)
    (step : Step s g fetched s' g') :
    Streams codec base (seen ++ s.deliveries fetched s') s' := by
  cases step with
  | header stage opened => exact streams.header stage opened rfl rfl
  | packet stage opened => exact streams.packet stage opened rfl
  | observe stage | measure stage | noEncoder stage | encoder stage | noDisplay stage
  | display stage | skip stage | restart stage | smaller stage =>
    exact .unfetched (streams.quiet (by rw [stage]; rfl) (by rw [stage]; rfl) rfl rfl rfl)
  | configure stage goesOn =>
    refine .unfetched (streams.quiet (by rw [stage]; rfl) (by rw [stage]; rfl) ?_ rfl rfl)
    rcases goesOn with rfl | ⟨e, rfl⟩ <;> rfl
  | work working goesOn =>
    obtain ⟨idle, early⟩ := working.early
    refine .unfetched (streams.quiet idle early ?_ rfl rfl)
    rcases goesOn with working | ⟨output, rfl⟩ | ⟨ending, rfl⟩
    · exact working.early.1
    · rfl
    · rfl
  | abandon delivering => exact .unfetched (streams.abandon delivering)
  | headerWaits stage sent => exact .unfetched (streams.headerWaits stage sent)
  | headerDone stage sent => exact .unfetched (streams.headerDone stage sent)
  | headerFails stage sent => exact .unfetched (streams.headerFails stage sent)
  | packetWaits stage sent => exact .unfetched (streams.packetWaits stage sent)
  | packetEnds stage sent => exact .unfetched (streams.packetEnds stage sent)
  | tearDown stage => exact .unfetched (streams.tearDown stage)
  | finish stage concludes => exact .unfetched (streams.finish stage concludes)
  | markWaits stage sent => exact .unfetched (streams.markWaits stage sent)
  | markEnds stage sent => exact .unfetched (streams.markEnds stage sent)

/-- A sink may get room or break at any time, as long as a dead one does not come back to life. -/
theorem Writing.onSink (w : Writing codec seen s written) {sink : Sink}
    (dead : s.sink.Dead → sink.Dead) : Writing codec seen { s with sink } written := by
  cases w with
  | rest idle rest =>
    refine .rest idle ?_
    cases rest with
    | blank nothing framer nil => exact .blank nothing framer nil
    | between some framer all => exact .between some framer all
    | cut sent gone cut => exact .cut sent (dead gone) cut
  | header stage only unit framer missing => exact .header stage only unit framer missing
  | frame stage some framer missing => exact .frame stage some framer missing
  | lost stage sent gone cut => exact .lost stage sent (dead gone) cut
  | left leaving cut => exact .left leaving cut
  | marking stage nothing told missing => exact .marking stage nothing told missing
  | marked stage nothing told cut => exact .marked stage nothing told cut

theorem Streams.around (streams : Streams codec base seen s)
    (around : Around s g s' g') : Streams codec base seen s' := by
  cases around with
  | still | turn => exact streams
  | start idle => exact streams.quiet (by rw [idle]; rfl) (by rw [idle]; rfl) rfl rfl rfl
  | drain n =>
    obtain ⟨written, accepted, w⟩ := streams
    exact ⟨written, accepted, w.onSink fun gone => gone.drain n⟩
  | hangUp e =>
    obtain ⟨written, accepted, w⟩ := streams
    exact ⟨written, accepted, w.onSink fun _ => .breakWith _ e⟩

end VideoOutline

/-- Whatever the encoders and the sink do, the desktop never sees anything but the front of one
stream with the frames of all attempts, or of the mark that there will be none. The session makes
the calls that it notes. -/
theorem Device.stream_of_run {σ : Type} [EncoderHost σ] (d : Device) (host : σ)
    (setup : VideoSetup) (sink : Sink) (moves : List (VideoMove σ)) :
    let world : VideoWorld σ := ⟨d.encodeScreen host setup true true sink, d⟩
    let fetched := world.trace VideoOutline.deliveries moves
    (∃ written, (world.run moves).session.sink.accepted = sink.accepted ++ written ∧
      (written <+: stream setup.codec fetched ∨
        fetched = [] ∧ (∃ e, (world.run moves).session.outcome? = some (.error e) ∧
          e.isDisconnect = false) ∧ written <+: Framer.errorMarker)) ∧
      (∀ delivery ∈ fetched,
        delivery.format = some (world.session.baseFormat.withSize delivery.size)) ∧
      (world.run moves).session.Faithful (world.run moves).device := by
  intro world fetched
  have start : VideoOutline.Streams setup.codec sink.accepted [] world.session.outline :=
    ⟨[], (List.append_nil _).symm, .rest rfl (.blank rfl rfl rfl)⟩
  have streams := VideoWorld.run_invariant (w := world) VideoOutline.deliveries
    (P := fun seen s _ => VideoOutline.Streams setup.codec sink.accepted seen s) start
    (fun streams step => streams.step step) (fun streams around => streams.around around) moves
  have announced := VideoWorld.run_invariant (w := world) VideoOutline.deliveries
    (P := fun seen s _ => VideoOutline.Announced world.session.baseFormat seen s)
    ⟨rfl, by simp, by simp [world, encodeScreen, VideoSession.outline, VideoStage.configured?]⟩
    (fun announced step => announced.step step)
    (fun announced around => announced.around around) moves
  obtain ⟨written, accepted, w⟩ := streams
  exact ⟨⟨written, accepted, w.front⟩, announced.told, VideoSession.faithful _ _⟩

end Screencast
