import Mathlib.Tactic.Common
import Screencast.Audio.Session

/-!
What one step of an audio session does, said once. The outline of a session leaves out the inside of
its encoder and of its source; `AudioOutline.Step` lists the steps it can take, whatever those two,
the sink and the scheduler decide, and what each step learns from outside. A session is set up,
plain sound is recorded or the two sides of an encoding go on, and then everything is given back.
-/

namespace Screencast

/-- What happens to a session, apart from the calls it makes. -/
inductive AudioEvent where
  /-- Whether sound can be captured at all. -/
  | checked (result : Except Error Unit)
  /-- Whether the source was started. -/
  | began (result : Except Error Unit)
  /-- The encoder was started, and both of its sides are served. -/
  | encodes
  /-- An input buffer is announced to be free. -/
  | inputReady (index : Nat)
  | inputTaken (index : Nat)
  /-- An output buffer is announced to be filled. -/
  | outputReady (output : OutputBuffer)
  /-- An output buffer is taken, and asked for its content. -/
  | outputTaken (output : OutputBuffer) (content : Except EncoderError Bytes)
  /-- A block of plain sound is to be written. -/
  | packed (unit : AccessUnit)
deriving DecidableEq, Repr

/-- A session without its encoders and its source. -/
abbrev AudioOutline := AudioSession Unit Unit

/-- Where an output buffer leads to once it is written, or was not to be written, and is given
back. -/
inductive AudioStage.AfterOutput (encoder : Nat) (input : InputStage) (output : OutputBuffer)
    (written : Except Error Unit) : AudioStage → Prop
  | fail (e : Error) :
      AfterOutput encoder input output written (.tearDown (some encoder) (.error e))
  | last (whole : written = .ok ()) (flagged : output.info.flags.isEndOfStream = true) :
      AfterOutput encoder input output written (.tearDown (some encoder) (.ok ()))
  | next (whole : written = .ok ()) (more : output.info.flags.isEndOfStream = false) :
      AfterOutput encoder input output written (.encoding encoder input .idle)

/-- Why a buffer leaves nothing to be written, the framer then, and whether that is an error. -/
inductive Framer.Unwritten (f : Framer) (output : OutputBuffer) :
    Except EncoderError Bytes → Framer → Except Error Unit → Prop
  | missing (e : EncoderError) : Unwritten f output (.error e) f (.error (.codec e))
  | empty (data : Bytes) (unused : output.info.size = 0) : Unwritten f output (.ok data) f (.ok ())
  | refused {data : Bytes} {e : Error} (used : output.info.size ≠ 0)
      (packed : f.packet (output.info.unit data) = .error e) :
      Unwritten f output (.ok data) f (.error e)
  | implied {data : Bytes} {framer : Framer} (used : output.info.size ≠ 0)
      (packed : f.packet (output.info.unit data) = .ok (framer, none)) :
      Unwritten f output (.ok data) framer (.ok ())

/-- A session takes what it needs, or tells the desktop that there will be no sound. -/
inductive AudioOutline.SettingUp (s : AudioOutline) : List AudioEvent → AudioOutline → Prop
  | available (stage : s.stage = .check) :
      SettingUp s [.checked (.ok ())]
        { s with stage := if s.setup.encodes then .openEncoder else .startCapture none }
  | refuse {e : Error} {isError : Bool} (stage : s.stage = .check)
      (mark : isError = false ↔ ∃ capability, e = .unsupported capability) :
      SettingUp s [.checked (.error e)] (s.disable isError (.refuse e))
  | noEncoder {calls : List EncoderCall} {e : Error} (stage : s.stage = .openEncoder)
      (made : calls = [] ∨ ∃ name, calls = [.create name none]) :
      SettingUp s [] ((s.record (calls.map .encoder)).disable true (.fail e))
  | encoder {name : String} {encoder : Nat} (stage : s.stage = .openEncoder) :
      SettingUp s [] { s.record [.encoder (.create name (some encoder))] with
        listening := {}, stage := .configure encoder }
  | configure {encoder : Nat} {format : EncoderFormat} (stage : s.stage = .configure encoder) :
      SettingUp s [] { s.record [.encoder (.configure encoder format)] with
        stage := .startCapture (some encoder) }
  | misfit {encoder : Nat} {format : EncoderFormat} {e : Error}
      (stage : s.stage = .configure encoder) :
      SettingUp s [] ((s.record [.encoder (.configure encoder format)]).disable true
        (.giveBack encoder e))
  | silent {held : Option Nat} {e : Error} (stage : s.stage = .startCapture held) :
      SettingUp s [.began (.error e)] ((s.record [.capture .start]).disable true
        (held.elim (.fail e) fun encoder => .giveBack encoder e))
  | capture {encoder : Nat} (stage : s.stage = .startCapture (some encoder)) :
      SettingUp s [.began (.ok ())] { s.record [.capture .start] with
        stage := .startEncoder encoder }
  | recordFirst {framer : Framer} {output : Framer.Output} (stage : s.stage = .startCapture none)
      (opened : s.framer.audioHeader = (framer, output)) :
      SettingUp s [.began (.ok ())] { s.record [.capture .start] with
        framer, stage := output.elim .recordRead fun bytes => .recordHeader { rest := bytes } }
  | idleEncoder {encoder : Nat} {e : Error} (stage : s.stage = .startEncoder encoder) :
      SettingUp s [] ((s.record [.encoder (.start encoder)]).disable true (.giveBack encoder e))
  | startEncoder {encoder : Nat} {framer : Framer} {output : Framer.Output}
      (stage : s.stage = .startEncoder encoder) (opened : s.framer.audioHeader = (framer, output)) :
      SettingUp s [.encodes] { s.record [.encoder (.start encoder)] with
        framer, listening.reporter := some encoder
        stage := .encoding encoder .idle
          (output.elim .idle fun bytes => .header { rest := bytes }) }
  | markWaits {t rest : Transfer} {sequel : Sequel} {sink : Sink}
      (stage : s.stage = .announce t sequel) (written : s.sink.transfer t = (sink, .stalls rest)) :
      SettingUp s [] { s with sink, stage := .announce rest sequel }
  | markEnds {t : Transfer} {sequel : Sequel} {sink : Sink} {told : Except Error Unit}
      (stage : s.stage = .announce t sequel) (written : s.sink.transfer t = (sink, .ends told)) :
      SettingUp s [] ({ s with sink }.follow sequel told)

/-- Plain sound is written as it is captured. -/
inductive AudioOutline.Recording (s : AudioOutline) : List AudioEvent → AudioOutline → Prop
  | recordHeaderWaits {t rest : Transfer} {sink : Sink} (stage : s.stage = .recordHeader t)
      (written : s.sink.transfer t = (sink, .stalls rest)) :
      Recording s [] { s with sink, stage := .recordHeader rest }
  | recordWriteWaits {t rest : Transfer} {sink : Sink} (stage : s.stage = .recordWrite t)
      (written : s.sink.transfer t = (sink, .stalls rest)) :
      Recording s [] { s with sink, stage := .recordWrite rest }
  | recordNext {t : Transfer} {sink : Sink}
      (stage : s.stage = .recordHeader t ∨ s.stage = .recordWrite t)
      (written : s.sink.transfer t = (sink, .ends (.ok ()))) :
      Recording s [] { s with sink, stage := .recordRead }
  | recordFails {t : Transfer} {sink : Sink} {e : Error}
      (stage : s.stage = .recordHeader t ∨ s.stage = .recordWrite t)
      (written : s.sink.transfer t = (sink, .ends (.error e))) :
      Recording s [] { s with sink, stage := .tearDown none (.error e) }
  | recordStops (stage : s.stage = .recordRead ∨ ∃ t, s.stage = .recordWrite t)
      (stopping : s.stopping = true) : Recording s [] { s with stage := .tearDown none (.ok ()) }
  | recordUnread {capacity : Nat} {e : IoError} (stage : s.stage = .recordRead) :
      Recording s [] { s.record [.capture (.read capacity (.error e))] with
        stage := .tearDown none (.error (.io e)) }
  | recordSilence {capacity : Nat} (stage : s.stage = .recordRead) :
      Recording s [] { s.record [.capture (.read capacity (.ok []))] with
        stage := .tearDown none (.error AudioSession.noSound) }
  | recordBlock {capacity : Nat} {data : Bytes} (stage : s.stage = .recordRead)
      (sound : data ≠ []) :
      Recording s [.packed ⟨data, s.clock.pts, .none⟩]
        ((s.record [.capture (.read capacity (.ok data))]).beginRecordWrite data)

/-- The input side of an encoding goes on. -/
inductive AudioOutline.Filling (s : AudioOutline) : List AudioEvent → AudioOutline → Prop
  | takeInput {encoder index : Nat} {output : OutputStage} {listening : Listening}
      {next : AudioStage} (stage : s.stage = .encoding encoder .idle output)
      (taken : s.listening.takeInput = (listening, .item index))
      (goesOn : (∃ capacity, next = .encoding encoder (.reading index capacity) output) ∨
        ∃ e, next = .tearDown (some encoder) (.error e)) :
      Filling s [.inputTaken index] { s with listening, stage := next }
  | inputUnread {encoder index capacity : Nat} {output : OutputStage}
      {result : Except IoError Bytes} {e : Error}
      (stage : s.stage = .encoding encoder (.reading index capacity) output)
      (silence : ∀ data, result = .ok data → data = []) :
      Filling s [] { s.record [.capture (.read capacity result)] with
        stage := .tearDown (some encoder) (.error e) }
  | queue {encoder index capacity : Nat} {output : OutputStage} {data : Bytes}
      {next : AudioStage} (stage : s.stage = .encoding encoder (.reading index capacity) output)
      (sound : data ≠ [])
      (goesOn : next = .encoding encoder .idle output ∨
        ∃ e, next = .tearDown (some encoder) (.error e)) :
      Filling s []
        { (s.record [.capture (.read capacity (.ok data))]).record
            [.encoder (.submitInput encoder index ⟨data, s.clock.pts, .none⟩)] with
          clock := s.clock.advance data.length, stage := next }

/-- The output side of an encoding goes on. -/
inductive AudioOutline.Draining (s : AudioOutline) : List AudioEvent → AudioOutline → Prop
  | headerWaits {encoder : Nat} {input : InputStage} {t rest : Transfer} {sink : Sink}
      (stage : s.stage = .encoding encoder input (.header t))
      (written : s.sink.transfer t = (sink, .stalls rest)) :
      Draining s [] { s with sink, stage := .encoding encoder input (.header rest) }
  | headerDone {encoder : Nat} {input : InputStage} {t : Transfer} {sink : Sink}
      (stage : s.stage = .encoding encoder input (.header t))
      (written : s.sink.transfer t = (sink, .ends (.ok ()))) :
      Draining s [] { s with sink, stage := .encoding encoder input .idle }
  | headerFails {encoder : Nat} {input : InputStage} {t : Transfer} {sink : Sink} {e : Error}
      (stage : s.stage = .encoding encoder input (.header t))
      (written : s.sink.transfer t = (sink, .ends (.error e))) :
      Draining s [] { s with sink, stage := .tearDown (some encoder) (.error e) }
  | skip {encoder : Nat} {input : InputStage} {output : OutputBuffer} {listening : Listening}
      {content : Except EncoderError Bytes} {framer : Framer} {written : Except Error Unit}
      {next : AudioStage} (stage : s.stage = .encoding encoder input .idle)
      (taken : s.listening.takeOutput = (listening, .item output))
      (unwritten : s.framer.Unwritten output content framer written)
      (after : AudioStage.AfterOutput encoder input output written next) :
      Draining s [.outputTaken output content]
        { (s.record [.encoder (.readOutput encoder output.index)]).record
            [.encoder (.returnOutput encoder output.index)] with
          listening, framer, stage := next }
  | packetBegins {encoder : Nat} {input : InputStage} {output : OutputBuffer}
      {listening : Listening} {data bytes : Bytes} {framer : Framer} {sink : Sink}
      {rest : Transfer} (stage : s.stage = .encoding encoder input .idle)
      (taken : s.listening.takeOutput = (listening, .item output))
      (used : output.info.size ≠ 0)
      (packed : s.framer.packet (output.info.unit data) = .ok (framer, some bytes))
      (written : s.sink.transfer { rest := bytes } = (sink, .stalls rest)) :
      Draining s [.outputTaken output (.ok data)]
        { s.record [.encoder (.readOutput encoder output.index)] with
          listening, framer, sink, stage := .encoding encoder input (.writing output rest) }
  | packetWhole {encoder : Nat} {input : InputStage} {output : OutputBuffer}
      {listening : Listening} {data bytes : Bytes} {framer : Framer} {sink : Sink}
      {result : Except Error Unit} {next : AudioStage}
      (stage : s.stage = .encoding encoder input .idle)
      (taken : s.listening.takeOutput = (listening, .item output))
      (used : output.info.size ≠ 0)
      (packed : s.framer.packet (output.info.unit data) = .ok (framer, some bytes))
      (written : s.sink.transfer { rest := bytes } = (sink, .ends result))
      (after : AudioStage.AfterOutput encoder input output result next) :
      Draining s [.outputTaken output (.ok data)]
        { (s.record [.encoder (.readOutput encoder output.index)]).record
            [.encoder (.returnOutput encoder output.index)] with
          listening, framer, sink, stage := next }
  | packetWaits {encoder : Nat} {input : InputStage} {output : OutputBuffer}
      {t rest : Transfer} {sink : Sink}
      (stage : s.stage = .encoding encoder input (.writing output t))
      (written : s.sink.transfer t = (sink, .stalls rest)) :
      Draining s [] { s with sink, stage := .encoding encoder input (.writing output rest) }
  | packetEnds {encoder : Nat} {input : InputStage} {output : OutputBuffer} {t : Transfer}
      {sink : Sink} {result : Except Error Unit} {next : AudioStage}
      (stage : s.stage = .encoding encoder input (.writing output t))
      (written : s.sink.transfer t = (sink, .ends result))
      (after : AudioStage.AfterOutput encoder input output result next) :
      Draining s [] { s.record [.encoder (.returnOutput encoder output.index)] with
        sink
        stage := next }

/-- An encoding ends, and everything is given back. -/
inductive AudioOutline.Ending (s : AudioOutline) : List AudioEvent → AudioOutline → Prop
  | finish {encoder : Nat} {input : InputStage} {output : OutputStage}
      {result : Except Error Unit} (stage : s.stage = .encoding encoder input output)
      (why : result = .ok () → s.stopping = true) :
      Ending s [] { s with stage := .tearDown (some encoder) result }
  | release {encoder : Nat} {result : Except Error Unit}
      (stage : s.stage = .tearDown (some encoder) result) :
      Ending s []
        { s.record [.encoder (.closeQueues encoder), .encoder (.stop encoder),
            .encoder (.release encoder)] with
          listening := s.listening.close, stage := .stopCapture result }
  | leave {result : Except Error Unit} (stage : s.stage = .tearDown none result) :
      Ending s [] { s with stage := .stopCapture result }
  | stopCapture {result : Except Error Unit} (stage : s.stage = .stopCapture result) :
      Ending s [] { s.record [.capture .stop] with stage := .ended result }

/-- A step of a session, with the events in it. -/
inductive AudioOutline.Step (s : AudioOutline) (events : List AudioEvent) (s' : AudioOutline) :
    Prop
  | settingUp (step : SettingUp s events s')
  | recording (step : Recording s events s')
  | filling (step : Filling s events s')
  | draining (step : Draining s events s')
  | ending (step : Ending s events s')

/-! ### Telling the desktop that there will be no sound -/

/-- What follows, whether or not the desktop could be told. -/
inductive Sequel.Leads : Sequel → AudioStage → Prop
  | refuse (e reported : Error) : Leads (.refuse e) (.ended (.error reported))
  | fail (e : Error) : Leads (.fail e) (.ended (.error e))
  | giveBack (encoder : Nat) (e : Error) :
      Leads (.giveBack encoder e) (.tearDown (some encoder) (.error e))

namespace AudioSession

variable {σ γ : Type}

theorem follow_eq (s : AudioSession σ γ) (sequel : Sequel) (told : Except Error Unit) :
    ∃ next, s.follow sequel told = { s with stage := next } ∧ sequel.Leads next := by
  unfold follow
  split
  · exact ⟨_, rfl, .refuse _ _⟩
  · exact ⟨_, rfl, .refuse _ _⟩
  · exact ⟨_, rfl, .fail _⟩
  · exact ⟨_, rfl, .giveBack _ _⟩

theorem disable_eq (s : AudioSession σ γ) (isError : Bool) (sequel : Sequel) :
    ∃ framer next, s.disable isError sequel = { s with framer, stage := next } ∧
      ((∃ t, next = .announce t sequel) ∨ sequel.Leads next) := by
  unfold disable
  split
  · obtain ⟨next, follows, leads⟩ := follow_eq { s with framer := _ } sequel (.ok ())
    exact ⟨_, next, follows, .inr leads⟩
  · exact ⟨_, _, rfl, .inl ⟨_, rfl⟩⟩

/-- A packet that is begun leaves the source alone, and the session goes on to write it or fails. -/
theorem beginRecordWrite_eq (s : AudioSession σ γ) (data : Bytes) :
    ∃ framer next, s.beginRecordWrite data =
        { s with framer, clock := s.clock.advance data.length, stage := next } ∧
      ((∃ t, next = .recordWrite t) ∨ ∃ e, next = .tearDown none (.error e)) := by
  unfold beginRecordWrite
  dsimp only
  split
  · exact ⟨_, _, rfl, .inr ⟨_, rfl⟩⟩
  · exact ⟨_, _, rfl, .inl ⟨_, rfl⟩⟩

theorem beginRecordWrite_calls (s : AudioSession σ γ) (data : Bytes) :
    (s.beginRecordWrite data).calls = s.calls := by
  obtain ⟨framer, next, begun, -⟩ := s.beginRecordWrite_eq data
  rw [begun]

/-- Telling the desktop changes the framer and the stage, and the sink later. -/
@[simp] theorem disable_setup (s : AudioSession σ γ) (isError : Bool) (sequel : Sequel) :
    (s.disable isError sequel).setup = s.setup := by
  obtain ⟨framer, next, disabled, -⟩ := s.disable_eq isError sequel
  rw [disabled]

@[simp] theorem disable_listening (s : AudioSession σ γ) (isError : Bool) (sequel : Sequel) :
    (s.disable isError sequel).listening = s.listening := by
  obtain ⟨framer, next, disabled, -⟩ := s.disable_eq isError sequel
  rw [disabled]

theorem stage_of_result? {s : AudioSession σ γ} {result : Except Error Unit}
    (h : s.result? = some result) : s.stage = .ended result := by
  unfold result? at h
  split at h <;> cases h
  assumption

end AudioSession

namespace AudioOutline

variable {s s' : AudioOutline} {events : List AudioEvent}

/-! ### Where a session is when it takes a step -/

theorem SettingUp.not_encoding (step : SettingUp s events s') (encoder : Nat) (input : InputStage)
    (output : OutputStage) : s.stage ≠ .encoding encoder input output := by
  intro inside
  cases step with
  | available stage | refuse stage | noEncoder stage | encoder stage | configure stage
  | misfit stage | silent stage | capture stage | recordFirst stage | idleEncoder stage
  | startEncoder stage | markWaits stage | markEnds stage => cases inside.symm.trans stage

theorem Recording.stage_eq (step : Recording s events s') :
    (∃ t, s.stage = .recordHeader t) ∨ s.stage = .recordRead ∨ ∃ t, s.stage = .recordWrite t := by
  cases step with
  | recordHeaderWaits stage => exact .inl ⟨_, stage⟩
  | recordWriteWaits stage => exact .inr (.inr ⟨_, stage⟩)
  | recordNext stage | recordFails stage =>
    rcases stage with stage | stage
    · exact .inl ⟨_, stage⟩
    · exact .inr (.inr ⟨_, stage⟩)
  | recordStops stage => exact .inr stage
  | recordUnread stage | recordSilence stage | recordBlock stage => exact .inr (.inl stage)

theorem Filling.stage_eq (step : Filling s events s') :
    ∃ encoder input output, s.stage = .encoding encoder input output := by
  cases step with
  | takeInput stage | inputUnread stage | queue stage => exact ⟨_, _, _, stage⟩

theorem Draining.stage_eq (step : Draining s events s') :
    ∃ encoder input output, s.stage = .encoding encoder input output := by
  cases step with
  | headerWaits stage | headerDone stage | headerFails stage | skip stage | packetBegins stage
  | packetWhole stage | packetWaits stage | packetEnds stage => exact ⟨_, _, _, stage⟩

theorem Step.setup_eq (step : Step s events s') : s'.setup = s.setup := by
  cases step with
  | settingUp step =>
    cases step with
    | refuse => exact AudioSession.disable_setup ..
    | noEncoder | misfit | silent | idleEncoder => exact (AudioSession.disable_setup ..).trans rfl
    | @markEnds t sequel sink told =>
      obtain ⟨next, follows, -⟩ := AudioSession.follow_eq { s with sink } sequel told
      rw [follows]
    | available | encoder | configure | capture | recordFirst | startEncoder | markWaits => rfl
  | recording step =>
    cases step with
    | @recordBlock capacity data =>
      obtain ⟨framer, next, begun, -⟩ := AudioSession.beginRecordWrite_eq
        (s.record [.capture (.read capacity (.ok data))]) data
      rw [begun]
      rfl
    | recordHeaderWaits | recordWriteWaits | recordNext | recordFails | recordStops | recordUnread
    | recordSilence => rfl
  | filling step | draining step | ending step => cases step <;> rfl

end AudioOutline

end Screencast
