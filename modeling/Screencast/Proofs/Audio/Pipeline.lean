import Mathlib.Data.List.Basic
import Screencast.Capture.Scripted
import Screencast.Encoder.Scripted
import Screencast.Proofs.Audio.Order
import Screencast.Proofs.Audio.Service
import Screencast.Proofs.Audio.Stream

/-!
Encoded sound keeps its order on both sides of the encoder, whatever the encoder, the source, the
sink and the scheduler do (`encoded_of_run`). Buffers are taken in the order in which they are
announced (`Queued`), and handled in the order in which they are taken.
-/

namespace Screencast

namespace AudioEvent

def inputReady? : AudioEvent → Option Nat
  | .inputReady index => some index
  | _ => none

def outputReady? : AudioEvent → Option OutputBuffer
  | .outputReady output => some output
  | _ => none

end AudioEvent

open AudioCall (block? submitted?)
open AudioEvent (inputReady? inputTaken? outputReady? outputTaken? packed? unit? units)
open Handled (ofRun Continues)

/-- No encoder has been asked for. -/
def AudioStage.isEarly : AudioStage → Bool
  | .idle | .check | .openEncoder => true
  | _ => false

namespace AudioOutline

/-- Buffers are taken from the queues in the order in which they were announced. -/
structure Queued (seen : List AudioEvent) (s : AudioOutline) : Prop where
  inputs : s.listening.bridge.inputs.Ordered (seen.filterMap inputReady?)
    (seen.filterMap inputTaken?)
  outputs : s.listening.bridge.outputs.Ordered (seen.filterMap outputReady?)
    ((seen.filterMap outputTaken?).map (·.1))
  early (stage : s.stage.isEarly = true) : s.listening.reporter = none ∧
    seen.filterMap inputReady? = [] ∧ seen.filterMap outputReady? = []

variable {s s' : AudioOutline} {seen events : List AudioEvent}

/-- Most of what happens leaves the queues alone. -/
theorem Queued.keep (queued : Queued seen s)
    (inputs : s'.listening.bridge.inputs = s.listening.bridge.inputs)
    (outputs : s'.listening.bridge.outputs = s.listening.bridge.outputs)
    (early : s'.stage.isEarly = true →
      s.stage.isEarly = true ∧ s'.listening.reporter = s.listening.reporter)
    (silent : events.filterMap inputReady? = [] ∧ events.filterMap inputTaken? = [] ∧
      events.filterMap outputReady? = [] ∧ events.filterMap outputTaken? = []) :
    Queued (seen ++ events) s' := by
  obtain ⟨inputReady, inputTaken, outputReady, outputTaken⟩ := silent
  constructor
  · simpa [inputs, inputReady, inputTaken] using queued.inputs
  · simpa [outputs, outputReady, outputTaken] using queued.outputs
  · intro stage
    simpa [(early stage).2, inputReady, outputReady] using queued.early (early stage).1

theorem isEarly_of_leads {sequel : Sequel} {next : AudioStage} (leads : sequel.Leads next) :
    next.isEarly = false := by
  cases leads <;> rfl

theorem Queued.record (queued : Queued seen s) (calls : List AudioCall) :
    Queued seen (s.record calls) := ⟨queued.inputs, queued.outputs, queued.early⟩

/-- A session that was not set up has taken nothing. -/
theorem Queued.disable (queued : Queued seen s) {isError : Bool} {sequel : Sequel}
    (silent : events.filterMap inputReady? = [] ∧ events.filterMap inputTaken? = [] ∧
      events.filterMap outputReady? = [] ∧ events.filterMap outputTaken? = []) :
    Queued (seen ++ events) (s.disable isError sequel) := by
  refine queued.keep (by simp) (by simp) (fun early => ?_) silent
  obtain ⟨framer, next, disabled, ⟨t, rfl⟩ | leads⟩ := s.disable_eq isError sequel
  · rw [disabled] at early
    cases early
  · rw [disabled] at early
    cases (isEarly_of_leads leads).symm.trans early

/-- An output buffer is taken from the front of its queue. -/
theorem Queued.takeOutput (queued : Queued seen s) {listening : Listening} {output : OutputBuffer}
    {content : Except EncoderError Bytes}
    (taken : s.listening.takeOutput = (listening, .item output)) (now : s'.listening = listening)
    (late : s'.stage.isEarly = false) :
    Queued (seen ++ [.outputTaken output content]) s' := by
  obtain ⟨outputs, front, rfl⟩ := Listening.takeOutput_item taken
  refine ⟨?_, ?_, fun early => by cases late.symm.trans early⟩
  · have ready : [AudioEvent.outputTaken output content].filterMap inputReady? = [] := rfl
    have other : [AudioEvent.outputTaken output content].filterMap inputTaken? = [] := rfl
    simpa [now, ready, other] using queued.inputs
  · have ready : [AudioEvent.outputTaken output content].filterMap outputReady? = [] := rfl
    have this : [AudioEvent.outputTaken output content].filterMap outputTaken? =
        [(output, content)] := rfl
    simpa [now, ready, this] using queued.outputs.take front

theorem isEarly_of_after {encoder : Nat} {input : InputStage} {output : OutputBuffer}
    {written : Except Error Unit} {next : AudioStage}
    (after : AudioStage.AfterOutput encoder input output written next) : next.isEarly = false := by
  cases after <;> rfl

theorem SettingUp.queued (step : SettingUp s events s') (queued : Queued seen s) :
    Queued (seen ++ events) s' := by
  cases step with
  | available stage =>
    exact queued.keep rfl rfl (fun _ => ⟨by rw [stage]; rfl, rfl⟩) ⟨rfl, rfl, rfl, rfl⟩
  | refuse => exact queued.disable ⟨rfl, rfl, rfl, rfl⟩
  | noEncoder | misfit | silent | idleEncoder =>
    exact (queued.record _).disable ⟨rfl, rfl, rfl, rfl⟩
  | encoder stage =>
    obtain ⟨-, noInput, noOutput⟩ := queued.early (by rw [stage]; rfl)
    have noneTaken : seen.filterMap inputTaken? = [] :=
      List.prefix_nil.mp (noInput ▸ queued.inputs.taken_front)
    have noneWritten : (seen.filterMap outputTaken?).map (·.1) = [] :=
      List.prefix_nil.mp (noOutput ▸ queued.outputs.taken_front)
    rw [List.append_nil]
    refine ⟨?_, ?_, fun early => by cases early⟩
    · rw [noInput, noneTaken]
      exact .fresh _
    · rw [noOutput, noneWritten]
      exact .fresh _
  | configure | startEncoder | capture | markWaits =>
    exact queued.keep rfl rfl (fun early => by cases early) ⟨rfl, rfl, rfl, rfl⟩
  | @recordFirst framer output =>
    exact queued.keep rfl rfl (fun early => by cases output <;> cases early) ⟨rfl, rfl, rfl, rfl⟩
  | @markEnds t sequel sink told =>
    obtain ⟨next, follows, leads⟩ := AudioSession.follow_eq { s with sink } sequel told
    rw [follows]
    refine queued.keep rfl rfl (fun early => ?_) ⟨rfl, rfl, rfl, rfl⟩
    cases (isEarly_of_leads leads).symm.trans early

theorem Recording.queued (step : Recording s events s') (queued : Queued seen s) :
    Queued (seen ++ events) s' := by
  cases step with
  | recordHeaderWaits | recordWriteWaits | recordNext | recordFails | recordStops | recordUnread
  | recordSilence =>
    exact queued.keep rfl rfl (fun early => by cases early) ⟨rfl, rfl, rfl, rfl⟩
  | @recordBlock capacity data =>
    obtain ⟨framer, next, begun, goesOn⟩ := AudioSession.beginRecordWrite_eq
      (s.record [.capture (.read capacity (.ok data))]) data
    rw [begun]
    refine queued.keep rfl rfl (fun early => ?_) ⟨rfl, rfl, rfl, rfl⟩
    rcases goesOn with ⟨t, rfl⟩ | ⟨e, rfl⟩ <;> cases early

theorem Filling.queued (step : Filling s events s') (queued : Queued seen s) :
    Queued (seen ++ events) s' := by
  cases step with
  | @takeInput encoder index output listening next stage taken goesOn =>
    obtain ⟨inputs, front, rfl⟩ := Listening.takeInput_item taken
    refine ⟨?_, ?_, fun early => by rcases goesOn with ⟨_, rfl⟩ | ⟨_, rfl⟩ <;> cases early⟩
    · have ready : [AudioEvent.inputTaken index].filterMap inputReady? = [] := rfl
      have this : [AudioEvent.inputTaken index].filterMap inputTaken? = [index] := rfl
      simpa [ready, this] using queued.inputs.take front
    · have ready : [AudioEvent.inputTaken index].filterMap outputReady? = [] := rfl
      have other : [AudioEvent.inputTaken index].filterMap outputTaken? = [] := rfl
      simpa [ready, other] using queued.outputs
  | inputUnread =>
    exact queued.keep rfl rfl (fun early => by cases early) ⟨rfl, rfl, rfl, rfl⟩
  | queue stage sound goesOn =>
    refine queued.keep rfl rfl (fun early => ?_) ⟨rfl, rfl, rfl, rfl⟩
    rcases goesOn with rfl | ⟨e, rfl⟩ <;> cases early

theorem Draining.queued (step : Draining s events s') (queued : Queued seen s) :
    Queued (seen ++ events) s' := by
  cases step with
  | headerWaits | headerDone | headerFails | packetWaits =>
    exact queued.keep rfl rfl (fun early => by cases early) ⟨rfl, rfl, rfl, rfl⟩
  | skip stage taken unwritten after => exact queued.takeOutput taken rfl (isEarly_of_after after)
  | packetWhole stage taken used packed written after =>
    exact queued.takeOutput taken rfl (isEarly_of_after after)
  | packetBegins stage taken => exact queued.takeOutput taken rfl rfl
  | packetEnds stage written after =>
    refine queued.keep rfl rfl (fun early => ?_) ⟨rfl, rfl, rfl, rfl⟩
    cases (isEarly_of_after after).symm.trans early

theorem Ending.queued (step : Ending s events s') (queued : Queued seen s) :
    Queued (seen ++ events) s' := by
  cases step with
  | finish | leave | stopCapture =>
    exact queued.keep rfl rfl (fun early => by cases early) ⟨rfl, rfl, rfl, rfl⟩
  | release =>
    rw [List.append_nil]
    exact ⟨queued.inputs.close, queued.outputs.close, fun early => by cases early⟩

theorem Step.queued (step : Step s events s') (queued : Queued seen s) :
    Queued (seen ++ events) s' := by
  cases step with
  | settingUp step => exact step.queued queued
  | recording step => exact step.queued queued
  | filling step => exact step.queued queued
  | draining step => exact step.queued queued
  | ending step => exact step.queued queued

theorem Around.queued (around : Around s events s') (queued : Queued seen s) :
    Queued (seen ++ events) s' := by
  cases around with
  | still | stop | drain | hangUp =>
    exact queued.keep rfl rfl (fun early => ⟨early, rfl⟩) ⟨rfl, rfl, rfl, rfl⟩
  | start idle => exact queued.keep rfl rfl (fun _ => ⟨by rw [idle]; rfl, rfl⟩) ⟨rfl, rfl, rfl, rfl⟩
  | @input encoder index listening announced =>
    obtain ⟨heard, inputs, pushed, rfl⟩ := Listening.input_accepted announced
    refine ⟨?_, ?_, fun early => by simp [(queued.early early).1] at heard⟩
    · have this : [AudioEvent.inputReady index].filterMap inputReady? = [index] := rfl
      have other : [AudioEvent.inputReady index].filterMap inputTaken? = [] := rfl
      simpa [this, other] using queued.inputs.push pushed
    · have ready : [AudioEvent.inputReady index].filterMap outputReady? = [] := rfl
      have other : [AudioEvent.inputReady index].filterMap outputTaken? = [] := rfl
      simpa [ready, other] using queued.outputs
  | @output encoder output listening announced =>
    obtain ⟨heard, outputs, pushed, rfl⟩ := Listening.output_accepted announced
    refine ⟨?_, ?_, fun early => by simp [(queued.early early).1] at heard⟩
    · have ready : [AudioEvent.outputReady output].filterMap inputReady? = [] := rfl
      have other : [AudioEvent.outputReady output].filterMap inputTaken? = [] := rfl
      simpa [ready, other] using queued.inputs
    · have this : [AudioEvent.outputReady output].filterMap outputReady? = [output] := rfl
      have other : [AudioEvent.outputReady output].filterMap outputTaken? = [] := rfl
      simpa [this, other] using queued.outputs.push pushed
  | fail encoder e =>
    refine queued.keep ?_ ?_ (fun early => ⟨early, ?_⟩) ⟨rfl, rfl, rfl, rfl⟩ <;>
      (dsimp only [Listening.error]; split <;> rfl)
  | leave encoder =>
    rw [List.append_nil]
    unfold Listening.leave
    split
    · exact ⟨queued.inputs.dropProducer, queued.outputs.dropProducer,
        fun early => ⟨rfl, (queued.early early).2⟩⟩
    · exact queued

end AudioOutline

/-- Where no sound is packed as it is, what there is to be written is in the buffers taken. -/
theorem units_of_outputs {seen : List AudioEvent} (plain : seen.filterMap packed? = []) :
    units seen = (seen.filterMap outputTaken?).filterMap fun taken => taken.1.unit? taken.2 := by
  rw [units, List.filterMap_filterMap]
  refine List.filterMap_congr fun event member => ?_
  cases event with
  | packed unit => exact absurd (List.filterMap_eq_nil_iff.mp plain _ member) (by simp [packed?])
  | checked | began | encodes | inputReady | inputTaken | outputReady => rfl
  | outputTaken output content => rfl

/-- Whatever happens around it and wherever it ends, a session that encodes submits one input buffer
after the other, each with the next block, and writes the frames of the output buffers in the order
in which they were announced, with none after the end of the stream. It makes the calls that it
notes. -/
theorem AudioWorld.encoded_of_run {σ γ : Type} [EncoderHost σ] [PcmSource γ] {o : Options}
    (codecMeta : o.sendCodecMeta = true) (frameMeta : o.sendFrameMeta = true) {setup : AudioSetup}
    (encodes : setup.encodes = true) (host : σ) (source : γ) (sink : Sink)
    (moves : List (AudioMove σ γ)) :
    let w := run { session := o.audioSession setup host source sink } moves
    let blocks := w.session.calls.filterMap block?
    let submitted := w.session.calls.filterMap submitted?
    let inputs := w.events.filterMap inputTaken?
    let outputs := w.events.filterMap outputTaken?
    (inputs <+: w.events.filterMap inputReady? ∧
      (∃ pending : Option Nat, inputs = submitted.map (·.1) ++ pending.toList) ∧
      (blocks.flatten.length < 2 ^ 46 → submitted.map (·.2) = timed blocks)) ∧
    (outputs.map (·.1) <+: w.events.filterMap outputReady? ∧
      (∀ taken ∈ outputs.dropLast, Continues taken) ∧
      ∃ written, w.session.sink.accepted = sink.accepted ++ written ∧
        (written <+: setup.codec.stream (outputs.filterMap fun taken => taken.1.unit? taken.2) ∨
          .encodes ∉ w.events ∧ ∃ mark, Framer.IsMark mark ∧ written <+: mark)) ∧
    w.session.Faithful := by
  intro w blocks submitted inputs outputs
  have total : (ofRun w.events w.session.calls).Over w.session.clock := by
    have orderly := orderly_of_run o setup host source sink moves
    rw [encodes] at orderly
    exact orderly.over
  have queued : AudioOutline.Queued w.events w.session.outline :=
    run_invariant (w := { session := o.audioSession setup host source sink })
      (P := fun seen s => AudioOutline.Queued seen s)
      ⟨.fresh _, .fresh _, fun _ => ⟨rfl, rfl, rfl⟩⟩ (fun queued step => step.queued queued)
      (fun queued around => around.queued queued) moves
  have wrote : w.session.outline.sink.Has sink.accepted (setup.codec.stream (units w.events)) ∨
      (units w.events = [] ∧ .encodes ∉ w.events) ∧
        ∃ mark, Framer.IsMark mark ∧ w.session.outline.sink.Has sink.accepted mark :=
    (streams_of_run codecMeta frameMeta setup host source sink moves).front
  rw [units_of_outputs total.encodes.packed] at wrote
  refine ⟨⟨queued.inputs.taken_front, total.fed, fun short => (total.encodes.clocked short).2⟩,
    ⟨queued.outputs.taken_front, total.drained, ?_⟩, w.session.faithful⟩
  rcases wrote with ⟨written, accepted, front⟩ | ⟨⟨-, unset⟩, mark, marks, written, accepted, front⟩
  · exact ⟨written, accepted, .inl front⟩
  · exact ⟨written, accepted, .inr ⟨unset, mark, marks, front⟩⟩

/-- Two blocks and two output buffers by turns. The second output buffer ends the stream, and the
third is announced in vain. -/
theorem AudioWorld.encoded_of_run_interleaved :
    let host : ScriptedEncoders :=
      { catalogue := [("opus", "audio/opus")], buffers := [⟨1, 0, [1, 2]⟩, ⟨1, 1, [3]⟩] }
    let source : ScriptedSource := { reads := [.block 5, .block 3, .block 9] }
    let options : Options := { socketDir := "" }
    let moves : List (AudioMove ScriptedEncoders ScriptedSource) :=
      .start :: List.replicate 5 (.go 0) ++
        [ .input 1 0, .output 1 ⟨0, ⟨0, 2, .config⟩⟩, .go 3, .go 2, .go 3, .go 2, .input 1 1
        , .output 1 ⟨1, ⟨9, 1, ⟨4⟩⟩⟩, .output 1 ⟨2, ⟨10, 1, .none⟩⟩, .go 2, .go 2, .go 3, .go 0
        , .go 0 ]
    let w := run { session := options.audioSession options.audioSetup host source {} } moves
    let units := (w.session.calls.filterMap submitted?).map (·.2)
    units = [⟨[0, 1, 2, 3, 4], 0, .none⟩, ⟨[31, 32, 33], 20, .none⟩] ∧
      ∃ written, w.session.sink.accepted = [] ++ written ∧
        written <+: AudioCodec.stream .opus [⟨[1, 2], 0, .config⟩, ⟨[3], 9, ⟨4⟩⟩] := by
  intro host source options moves w units
  have blocks : w.session.calls.filterMap block? = [[0, 1, 2, 3, 4], [31, 32, 33]] := by
    decide +kernel
  have outputs : (w.events.filterMap outputTaken?).filterMap (fun taken => taken.1.unit? taken.2) =
      [⟨[1, 2], 0, .config⟩, ⟨[3], 9, ⟨4⟩⟩] := by decide +kernel
  have encodes : .encodes ∈ w.events := by decide +kernel
  have encoded :=
    @encoded_of_run _ _ _ _ options rfl rfl options.audioSetup rfl host source {} moves
  dsimp only at encoded
  dsimp only [w] at blocks outputs encodes
  rw [outputs, blocks] at encoded
  obtain ⟨⟨-, -, times⟩, ⟨-, -, written, accepted, front⟩, -⟩ := encoded
  dsimp only [units, w]
  rw [times (by decide)]
  refine ⟨by decide, written, accepted, ?_⟩
  rcases front with stream | ⟨unset, -⟩
  · exact stream
  · exact absurd encodes unset

end Screencast
