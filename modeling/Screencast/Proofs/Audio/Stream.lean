import Screencast.Proofs.Audio.Run
import Screencast.Proofs.Stream.Frames
import Screencast.Proofs.Stream.Transfer

/-!
What arrives on the audio channel, whatever becomes of the encoder, of the source and of the sink. A
session has written as much of its stream as its stage says (`AudioStage.Wrote`): a header and the
frames of what there was to be written, or a mark alone, if it could not be set up.
-/

namespace Screencast

/-- What is to be written of a buffer: nothing if it is empty, or cannot be read. -/
def OutputBuffer.unit? (output : OutputBuffer) (content : Except EncoderError Bytes) :
    Option AccessUnit :=
  match content with
  | .ok data => if output.info.size = 0 then none else some (output.info.unit data)
  | .error _ => none

namespace AudioEvent

/-- What is to be written after an event. -/
def unit? : AudioEvent → Option AccessUnit
  | .packed unit => some unit
  | .outputTaken output content => output.unit? content
  | _ => none

def units (seen : List AudioEvent) : List AccessUnit := seen.filterMap unit?

end AudioEvent

open AudioEvent (unit? units)

/-- A header, and a frame for each unit. -/
def AudioCodec.stream (codec : AudioCodec) (units : List AccessUnit) : Bytes :=
  codec.header ++ AccessUnit.frames units

/-- The bytes that say that there will be no sound, by choice or because of an error. -/
def Framer.IsMark (bytes : Bytes) : Prop := bytes = disabledMarker ∨ bytes = errorMarker

/-- The framer of a session, once it has written a header and these units. -/
abbrev AudioCodec.framer (codec : AudioCodec) (units : List AccessUnit) : Framer :=
  .after { codec := .audio codec } units

/-- How much a session has written when it is in a stage, on a sink that had `base` before. -/
def AudioStage.Wrote (codec : AudioCodec) (base : Bytes) (seen : List AudioEvent) (framer : Framer)
    (sink : Sink) : AudioStage → Prop
  | .idle | .check | .openEncoder | .configure _ | .startCapture _ | .startEncoder _ =>
    (units seen = [] ∧ .encodes ∉ seen) ∧ framer = { codec := .audio codec } ∧ sink.accepted = base
  | .announce t _ =>
    (units seen = [] ∧ .encodes ∉ seen) ∧ ∃ mark, Framer.IsMark mark ∧ sink.Owes base mark t
  | .recordHeader t | .encoding _ _ (.header t) =>
    units seen = [] ∧ framer = codec.framer [] ∧ sink.Owes base codec.header t
  | .recordRead | .encoding _ _ .idle =>
    framer = codec.framer (units seen) ∧ sink.accepted = base ++ codec.stream (units seen)
  | .recordWrite t | .encoding _ _ (.writing _ t) =>
    framer = codec.framer (units seen) ∧ sink.Owes base (codec.stream (units seen)) t
  | .tearDown _ _ | .stopCapture _ | .ended _ =>
    sink.Has base (codec.stream (units seen)) ∨
      (units seen = [] ∧ .encodes ∉ seen) ∧ ∃ mark, Framer.IsMark mark ∧ sink.Has base mark

variable {codec : AudioCodec} {base : Bytes} {seen : List AudioEvent}

theorem units_append {events : List AudioEvent} :
    units (seen ++ events) = units seen ++ units events := List.filterMap_append

theorem units_taken {output : OutputBuffer} {data : Bytes} (used : output.info.size ≠ 0) :
    units (seen ++ [.outputTaken output (.ok data)]) = units seen ++ [output.info.unit data] := by
  rw [units_append]
  simp [units, unit?, OutputBuffer.unit?, used]

theorem AudioCodec.stream_nil (codec : AudioCodec) : codec.stream [] = codec.header := by
  simp [stream, AccessUnit.frames]

/-- Another unit adds its frame. -/
theorem AudioCodec.packet (codec : AudioCodec) (units : List AccessUnit) (unit : AccessUnit) :
    ∃ bytes, (codec.framer units).packet unit = .ok (codec.framer (units ++ [unit]), some bytes) ∧
      codec.stream (units ++ [unit]) = codec.stream units ++ bytes := by
  obtain ⟨bytes, packed, more⟩ :=
    Framer.packet_after (f := { codec := .audio codec }) rfl units unit
  refine ⟨bytes, packed, ?_⟩
  rw [stream, more, stream, List.append_assoc]

/-- A block that is captured is packed at once, behind the units before it. -/
theorem AudioSession.beginRecordWrite_framer {σ γ : Type} {s : AudioSession σ γ}
    {units : List AccessUnit} (framer : s.framer = codec.framer units) (data : Bytes) :
    ∃ bytes, s.beginRecordWrite data = { s with
        framer := codec.framer (units ++ [⟨data, s.clock.pts, .none⟩])
        clock := s.clock.advance data.length
        stage := .recordWrite { rest := bytes } } ∧
      codec.stream (units ++ [⟨data, s.clock.pts, .none⟩]) = codec.stream units ++ bytes := by
  obtain ⟨bytes, packed, more⟩ := codec.packet units ⟨data, s.clock.pts, .none⟩
  exact ⟨bytes, by simp [beginRecordWrite, framer, packed], more⟩

/-- A unit that is begun on a sink that has all before. -/
theorem Sink.owes_packet {sink : Sink} {units : List AccessUnit} {unit : AccessUnit}
    {framer : Framer} {output : Framer.Output}
    (has : sink.accepted = base ++ codec.stream units)
    (packed : (codec.framer units).packet unit = .ok (framer, output)) :
    ∃ bytes, output = some bytes ∧ framer = codec.framer (units ++ [unit]) ∧
      sink.Owes base (codec.stream (units ++ [unit])) { rest := bytes } := by
  obtain ⟨bytes, all, more⟩ := codec.packet units unit
  rw [all] at packed
  cases packed
  exact ⟨bytes, rfl, rfl, codec.stream units, has, more.symm⟩

/-- What happens without anything to be written leaves the stream as it is. -/
theorem AudioStage.Wrote.more {stage : AudioStage} {framer : Framer} {sink : Sink}
    {events : List AudioEvent} (wrote : stage.Wrote codec base seen framer sink)
    (silent : units events = []) (quiet : .encodes ∉ events) :
    stage.Wrote codec base (seen ++ events) framer sink := by
  have same : units (seen ++ events) = units seen := by rw [units_append, silent, List.append_nil]
  have nothing : units seen = [] ∧ .encodes ∉ seen →
      units (seen ++ events) = [] ∧ .encodes ∉ seen ++ events := fun ⟨unwritten, before⟩ =>
    ⟨same.trans unwritten, fun now => (List.mem_append.mp now).elim before quiet⟩
  cases stage with
  | idle | check | openEncoder | configure | startCapture | startEncoder | announce =>
    exact ⟨nothing wrote.1, wrote.2⟩
  | recordHeader | recordRead | recordWrite =>
    unfold AudioStage.Wrote
    rw [same]
    exact wrote
  | encoding encoder input output =>
    cases output <;> unfold AudioStage.Wrote <;> rw [same] <;> exact wrote
  | tearDown | stopCapture | ended =>
    unfold AudioStage.Wrote
    rw [same]
    exact Or.imp_right (fun ⟨before, marks⟩ => ⟨same ▸ nothing before, marks⟩) wrote

namespace AudioOutline

/-- The session has written as much as its stage says. -/
def Streams (codec : AudioCodec) (base : Bytes) (seen : List AudioEvent) (s : AudioOutline) :
    Prop :=
  s.stage.Wrote codec base seen s.framer s.sink

variable {s s' : AudioOutline} {events : List AudioEvent}

/-- A session that could not be set up has written nothing so far, and marks its stream. -/
theorem streams_disable {isError : Bool} {sequel : Sequel}
    (nothing : units seen = [] ∧ .encodes ∉ seen) (framer : s.framer = { codec := .audio codec })
    (none : s.sink.accepted = base) : Streams codec base seen (s.disable isError sequel) := by
  have marks : s.framer.disable isError = ({ codec := .audio codec, headerSent := true },
      some (if isError then Framer.errorMarker else Framer.disabledMarker)) := by
    rw [framer]
    rfl
  have disabled : s.disable isError sequel = { s with
      framer := { codec := .audio codec, headerSent := true }
      stage := .announce
        { rest := if isError then Framer.errorMarker else Framer.disabledMarker } sequel } := by
    unfold AudioSession.disable
    rw [marks]
  rw [disabled]
  refine ⟨nothing, _, ?_, [], by rw [none, List.append_nil], rfl⟩
  cases isError
  · exact .inl rfl
  · exact .inr rfl

theorem wrote_of_leads {framer : Framer} {sink : Sink} {sequel : Sequel} {next : AudioStage}
    (nothing : units seen = [] ∧ .encodes ∉ seen) {mark : Bytes} (marks : Framer.IsMark mark)
    (has : sink.Has base mark) (leads : sequel.Leads next) :
    next.Wrote codec base seen framer sink := by
  cases leads <;> exact .inr ⟨nothing, mark, marks, has⟩

/-- Whatever comes of giving a buffer back, the session goes on only if the buffer was written. -/
theorem wrote_of_after {framer : Framer} {sink : Sink} {encoder : Nat} {input : InputStage}
    {output : OutputBuffer} {written : Except Error Unit} {next : AudioStage}
    (has : sink.Has base (codec.stream (units seen)))
    (whole : written = .ok () → framer = codec.framer (units seen) ∧
      sink.accepted = base ++ codec.stream (units seen))
    (after : AudioStage.AfterOutput encoder input output written next) :
    next.Wrote codec base seen framer sink := by
  cases after with
  | fail | last => exact .inl has
  | next written => exact whole written

/-- However far the output side is, nothing else was written. -/
theorem has_encoding {framer : Framer} {sink : Sink} {encoder : Nat} {input : InputStage}
    {output : OutputStage}
    (wrote : AudioStage.Wrote codec base seen framer sink (.encoding encoder input output)) :
    sink.Has base (codec.stream (units seen)) := by
  cases output with
  | header t =>
    obtain ⟨nothing, -, owes⟩ := wrote
    rw [nothing, codec.stream_nil]
    exact owes.has
  | idle => exact ⟨_, wrote.2, List.prefix_refl _⟩
  | writing output t => exact wrote.2.has

/-- The input side writes nothing. -/
theorem wrote_encoding {framer : Framer} {sink : Sink} {encoder : Nat} {before after : InputStage}
    {output : OutputStage}
    (wrote : AudioStage.Wrote codec base seen framer sink (.encoding encoder before output)) :
    AudioStage.Wrote codec base seen framer sink (.encoding encoder after output) := by
  cases output <;> exact wrote

/-- Room for more bytes, or none at all, does not change what was taken. -/
theorem wrote_onSink {stage : AudioStage} {framer : Framer} {sink after : Sink}
    (same : after.accepted = sink.accepted) (wrote : stage.Wrote codec base seen framer sink) :
    stage.Wrote codec base seen framer after := by
  unfold AudioStage.Wrote Sink.Owes Sink.Has at wrote ⊢
  rw [same]
  exact wrote

/-- Without anything to follow it the header is the whole stream. -/
theorem has_header {sink : Sink} (nothing : units seen = []) (has : sink.Has base codec.header) :
    sink.Has base (codec.stream (units seen)) := by
  rwa [nothing, codec.stream_nil]

theorem wrote_header {framer : Framer} {sink after : Sink} {t : Transfer}
    (header : units seen = [] ∧ framer = codec.framer [] ∧ sink.Owes base codec.header t)
    (written : sink.transfer t = (after, .ends (.ok ()))) :
    framer = codec.framer (units seen) ∧
      after.accepted = base ++ codec.stream (units seen) := by
  obtain ⟨nothing, opened, owes⟩ := header
  rw [nothing, codec.stream_nil]
  exact ⟨opened, owes.done written⟩

theorem has_all {sink : Sink} {all : Bytes} (accepted : sink.accepted = base ++ all) :
    sink.Has base all := ⟨all, accepted, List.prefix_refl all⟩

theorem SettingUp.streams (step : SettingUp s events s') (streams : Streams codec base seen s) :
    Streams codec base (seen ++ events) s' := by
  unfold Streams at streams
  cases step with
  | available stage =>
    rw [stage] at streams
    refine AudioStage.Wrote.more ?_ rfl (by simp)
    dsimp only
    split <;> exact streams
  | refuse stage =>
    rw [stage] at streams
    exact AudioStage.Wrote.more (streams_disable streams.1 streams.2.1 streams.2.2) rfl (by simp)
  | noEncoder stage | misfit stage | idleEncoder stage =>
    rw [stage] at streams
    rw [List.append_nil]
    exact streams_disable streams.1 streams.2.1 streams.2.2
  | encoder stage | configure stage =>
    rw [stage] at streams
    rw [List.append_nil]
    exact streams
  | silent stage =>
    rw [stage] at streams
    exact AudioStage.Wrote.more (streams_disable streams.1 streams.2.1 streams.2.2) rfl (by simp)
  | @capture encoder stage =>
    rw [stage] at streams
    have before : AudioStage.Wrote codec base seen s.framer s.sink (.startEncoder encoder) :=
      streams
    exact before.more rfl (by simp)
  | recordFirst stage opened =>
    rw [stage] at streams
    obtain ⟨⟨nothing, -⟩, framer, accepted⟩ := streams
    rw [framer, Framer.audioHeader_start] at opened
    cases opened
    have header : AudioStage.Wrote codec base seen (codec.framer []) s.sink
        (.recordHeader { rest := codec.header }) :=
      ⟨nothing, rfl, [], by rw [List.append_nil]; exact accepted, rfl⟩
    exact header.more rfl (by simp)
  | startEncoder stage opened =>
    rw [stage] at streams
    obtain ⟨⟨nothing, -⟩, framer, accepted⟩ := streams
    rw [framer, Framer.audioHeader_start] at opened
    cases opened
    exact ⟨by rw [units_append, nothing]; rfl, rfl, [], by rw [List.append_nil]; exact accepted,
      rfl⟩
  | markWaits stage written =>
    rw [stage] at streams
    obtain ⟨nothing, mark, marks, owes⟩ := streams
    rw [List.append_nil]
    exact ⟨nothing, mark, marks, owes.stalls written⟩
  | @markEnds t sequel sink told stage written =>
    rw [stage] at streams
    obtain ⟨nothing, mark, marks, owes⟩ := streams
    rw [List.append_nil]
    obtain ⟨next, follows, leads⟩ := AudioSession.follow_eq { s with sink } sequel told
    rw [follows]
    exact wrote_of_leads nothing marks (owes.ends written) leads

theorem Recording.streams (step : Recording s events s') (streams : Streams codec base seen s) :
    Streams codec base (seen ++ events) s' := by
  unfold Streams at streams
  cases step with
  | recordHeaderWaits stage written =>
    rw [stage] at streams
    rw [List.append_nil]
    exact ⟨streams.1, streams.2.1, streams.2.2.stalls written⟩
  | recordWriteWaits stage written =>
    rw [stage] at streams
    rw [List.append_nil]
    exact ⟨streams.1, streams.2.stalls written⟩
  | recordNext stage written =>
    rw [List.append_nil]
    rcases stage with stage | stage <;> rw [stage] at streams
    · exact wrote_header streams written
    · exact ⟨streams.1, streams.2.done written⟩
  | recordFails stage written =>
    rw [List.append_nil]
    rcases stage with stage | stage <;> rw [stage] at streams
    · exact .inl (has_header streams.1 (streams.2.2.ends written))
    · exact .inl (streams.2.ends written)
  | recordStops stage =>
    rw [List.append_nil]
    rcases stage with stage | ⟨t, stage⟩ <;> rw [stage] at streams
    · exact .inl (has_all streams.2)
    · exact .inl streams.2.has
  | recordUnread stage | recordSilence stage =>
    rw [stage] at streams
    rw [List.append_nil]
    exact .inl (has_all streams.2)
  | @recordBlock capacity data stage =>
    rw [stage] at streams
    obtain ⟨framer, accepted⟩ := streams
    obtain ⟨bytes, begun, more⟩ := AudioSession.beginRecordWrite_framer
      (s := s.record [.capture (.read capacity (.ok data))]) framer data
    rw [begun]
    refine ⟨by rw [units_append]; rfl, codec.stream (units seen), accepted, ?_⟩
    rw [units_append]
    exact more.symm

theorem Filling.streams (step : Filling s events s') (streams : Streams codec base seen s) :
    Streams codec base (seen ++ events) s' := by
  unfold Streams at streams
  cases step with
  | takeInput stage taken goesOn =>
    rw [stage] at streams
    refine AudioStage.Wrote.more ?_ rfl (by simp)
    rcases goesOn with ⟨capacity, rfl⟩ | ⟨e, rfl⟩
    · exact wrote_encoding streams
    · exact .inl (has_encoding streams)
  | inputUnread stage =>
    rw [stage] at streams
    rw [List.append_nil]
    exact .inl (has_encoding streams)
  | queue stage sound goesOn =>
    rw [stage] at streams
    rw [List.append_nil]
    rcases goesOn with rfl | ⟨e, rfl⟩
    · exact wrote_encoding streams
    · exact .inl (has_encoding streams)

theorem Draining.streams (step : Draining s events s') (streams : Streams codec base seen s) :
    Streams codec base (seen ++ events) s' := by
  unfold Streams at streams
  cases step with
  | headerWaits stage written =>
    rw [stage] at streams
    rw [List.append_nil]
    exact ⟨streams.1, streams.2.1, streams.2.2.stalls written⟩
  | packetWaits stage written =>
    rw [stage] at streams
    rw [List.append_nil]
    exact ⟨streams.1, streams.2.stalls written⟩
  | headerDone stage written =>
    rw [stage] at streams
    rw [List.append_nil]
    exact wrote_header streams written
  | headerFails stage written =>
    rw [stage] at streams
    rw [List.append_nil]
    exact .inl (has_header streams.1 (streams.2.2.ends written))
  | skip stage taken unwritten after =>
    rw [stage] at streams
    obtain ⟨framer, accepted⟩ := streams
    cases unwritten with
    | missing e =>
      exact AudioStage.Wrote.more (wrote_of_after (has_all accepted) (by simp) after) rfl (by simp)
    | empty data unused =>
      refine AudioStage.Wrote.more ?_ (by simp [units, unit?, OutputBuffer.unit?, unused]) (by simp)
      exact wrote_of_after (has_all accepted) (fun _ => ⟨framer, accepted⟩) after
    | refused used packed | implied used packed =>
      rw [framer] at packed
      obtain ⟨bytes, all, -⟩ := codec.packet (units seen) (AccessUnit.mk _ _ _)
      cases packed.symm.trans all
  | packetBegins stage taken used packed written =>
    rw [stage] at streams
    obtain ⟨framer, accepted⟩ := streams
    rw [framer] at packed
    obtain ⟨bytes, same, rfl, owes⟩ := Sink.owes_packet accepted packed
    cases same
    rw [← units_taken used] at owes
    exact ⟨by rw [units_taken used], owes.stalls written⟩
  | packetWhole stage taken used packed written after =>
    rw [stage] at streams
    obtain ⟨framer, accepted⟩ := streams
    rw [framer] at packed
    obtain ⟨bytes, same, rfl, owes⟩ := Sink.owes_packet accepted packed
    cases same
    rw [← units_taken used] at owes
    refine wrote_of_after (owes.ends written) ?_ after
    rintro rfl
    exact ⟨by rw [units_taken used], owes.done written⟩
  | packetEnds stage written after =>
    rw [stage] at streams
    obtain ⟨framer, owes⟩ := streams
    rw [List.append_nil]
    refine wrote_of_after (owes.ends written) ?_ after
    rintro rfl
    exact ⟨framer, owes.done written⟩

theorem Ending.streams (step : Ending s events s') (streams : Streams codec base seen s) :
    Streams codec base (seen ++ events) s' := by
  unfold Streams at streams
  cases step with
  | finish stage =>
    rw [stage] at streams
    rw [List.append_nil]
    exact .inl (has_encoding streams)
  | release stage | leave stage | stopCapture stage =>
    rw [stage] at streams
    rw [List.append_nil]
    exact streams

theorem Step.streams (step : Step s events s') (streams : Streams codec base seen s) :
    Streams codec base (seen ++ events) s' := by
  cases step with
  | settingUp step => exact step.streams streams
  | recording step => exact step.streams streams
  | filling step => exact step.streams streams
  | draining step => exact step.streams streams
  | ending step => exact step.streams streams

theorem Around.streams (around : Around s events s') (streams : Streams codec base seen s) :
    Streams codec base (seen ++ events) s' := by
  unfold Streams at streams
  cases around with
  | still | stop | fail | leave =>
    rw [List.append_nil]
    exact streams
  | start idle =>
    rw [idle] at streams
    rw [List.append_nil]
    exact streams
  | input | output => exact AudioStage.Wrote.more streams rfl (by simp)
  | drain | hangUp =>
    rw [List.append_nil]
    exact wrote_onSink rfl streams

end AudioOutline

/-- At any time the sink has the front of the stream, or of a mark. -/
theorem AudioOutline.Streams.front {s : AudioOutline} (streams : Streams codec base seen s) :
    s.sink.Has base (codec.stream (units seen)) ∨
      (units seen = [] ∧ .encodes ∉ seen) ∧ ∃ mark, Framer.IsMark mark ∧ s.sink.Has base mark := by
  unfold Streams at streams
  cases stage : s.stage with
  | idle | check | openEncoder | configure | startCapture | startEncoder =>
    rw [stage] at streams
    exact .inl ⟨[], by rw [List.append_nil]; exact streams.2.2, List.nil_prefix⟩
  | announce t sequel =>
    rw [stage] at streams
    obtain ⟨nothing, mark, marks, owes⟩ := streams
    exact .inr ⟨nothing, mark, marks, owes.has⟩
  | recordHeader t =>
    rw [stage] at streams
    exact .inl (has_header streams.1 streams.2.2.has)
  | recordRead =>
    rw [stage] at streams
    exact .inl (has_all streams.2)
  | recordWrite t =>
    rw [stage] at streams
    exact .inl streams.2.has
  | encoding encoder input output =>
    rw [stage] at streams
    exact .inl (has_encoding streams)
  | tearDown | stopCapture | ended =>
    rw [stage] at streams
    exact streams

/-- Whatever else becomes of the session, of its encoder and of the sink, a session has written as
much as its stage says. -/
theorem AudioWorld.streams_of_run {σ γ : Type} [EncoderHost σ] [PcmSource γ] {o : Options}
    (codecMeta : o.sendCodecMeta = true) (frameMeta : o.sendFrameMeta = true) (setup : AudioSetup)
    (host : σ) (source : γ) (sink : Sink) (moves : List (AudioMove σ γ)) :
    let w := run { session := o.audioSession setup host source sink } moves
    AudioOutline.Streams setup.codec sink.accepted w.events w.session.outline := by
  intro w
  refine run_invariant (w := { session := o.audioSession setup host source sink })
    (P := fun seen s => AudioOutline.Streams setup.codec sink.accepted seen s)
    ⟨⟨rfl, by simp⟩, ?_, rfl⟩ (fun streams step => step.streams streams)
    (fun streams around => around.streams streams) moves
  simp [AudioSession.outline, Options.audioSession, codecMeta, frameMeta]

end Screencast
