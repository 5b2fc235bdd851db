import Screencast.Proofs.Audio.Outline
import Screencast.Proofs.Encoder.Creation
import Screencast.Proofs.Encoder.Listening
import Screencast.Proofs.Scheduling

/-!
Every step of an audio session is one of those that its outline can take, with the events that the
session learns of in it (`step_outline`). Each stage has its lemma, by the choices that encoders and
the source have there; which stages have which ways on is said once (`advance_of_step`).
-/

namespace Screencast

namespace AudioSession

variable {σ γ : Type}

/-- What encoders and the source decide is left out. -/
def outline (s : AudioSession σ γ) : AudioOutline :=
  { setup := s.setup, host := (), source := (), framer := s.framer, sink := s.sink
    clock := s.clock, listening := s.listening, stage := s.stage, stopping := s.stopping
    calls := s.calls }

theorem outline_follow (s : AudioSession σ γ) (sequel : Sequel) (told : Except Error Unit) :
    (s.follow sequel told).outline = s.outline.follow sequel told := by
  rcases sequel with e | e | ⟨encoder, e⟩ <;> rcases told with e' | _ <;> rfl

theorem outline_disable (s : AudioSession σ γ) (isError : Bool) (sequel : Sequel) :
    (s.disable isError sequel).outline = s.outline.disable isError sequel := by
  have framer : s.outline.framer = s.framer := rfl
  unfold disable
  rw [framer]
  rcases s.framer.disable isError with ⟨framer, _ | bytes⟩
  · exact outline_follow ..
  · rfl

theorem outline_beginRecordWrite (s : AudioSession σ γ) (data : Bytes) :
    (s.beginRecordWrite data).outline = s.outline.beginRecordWrite data := by
  have framer : s.outline.framer = s.framer := rfl
  have clock : s.outline.clock = s.clock := rfl
  unfold beginRecordWrite
  dsimp only
  rw [framer, clock]
  rcases s.framer.packet ⟨data, s.clock.pts, .none⟩ with e | ⟨framer, bytes⟩ <;> rfl

open AudioOutline (Step)

variable {s next : AudioSession σ γ}

theorem announce_outline {t : Transfer} {sequel : Sequel} (stage : s.stage = .announce t sequel)
    (h : s.announce? t sequel = some next) : Step s.outline [] next.outline := by
  unfold announce? at h
  split at h
  · cases h
  · rename_i written
    cases h
    exact .settingUp (.markWaits stage written)
  · rename_i written
    cases h
    rw [outline_follow]
    exact .settingUp (.markEnds stage written)

theorem stopBranch_outline (stage : s.stage = .recordRead ∨ ∃ t, s.stage = .recordWrite t)
    (h : s.stopBranch = some next) : Step s.outline [] next.outline := by
  unfold stopBranch at h
  split at h <;> cases h
  rename_i stopping
  exact .recording (.recordStops stage stopping)

/-! ### What depends on encoders alone -/

section

variable [EncoderHost σ]

theorem openEncoder_outline (stage : s.stage = .openEncoder) :
    Step s.outline [] s.openEncoder.outline := by
  unfold openEncoder
  dsimp only [record]
  cases openEncoder_settled s.host s.setup.codec.mime s.setup.encoderName with
  | refused result calls final =>
    rw [result]
    dsimp only
    rw [outline_disable]
    exact .settingUp (.noEncoder stage calls)
  | made result calls =>
    rw [result, calls]
    exact .settingUp (.encoder stage)

theorem configure_outline {encoder : Nat} (stage : s.stage = .configure encoder) :
    Step s.outline [] (s.configure encoder).outline := by
  unfold configure
  dsimp only
  split
  · exact .settingUp (.configure stage)
  · rw [outline_disable]
    exact .settingUp (.misfit stage)

/-- A block that was read is submitted, and the clock goes on past it. -/
theorem queue_outline (s : AudioSession σ γ) (encoder index : Nat) (data : Bytes)
    (output : OutputStage) :
    ∃ next, (next = .encoding encoder .idle output ∨
        ∃ e, next = .tearDown (some encoder) (.error e)) ∧
      (s.queue encoder index data output).listening = s.listening ∧
      (s.queue encoder index data output).outline =
        { s.outline.record [.encoder (.submitInput encoder index ⟨data, s.clock.pts, .none⟩)] with
          clock := s.clock.advance data.length, stage := next } := by
  unfold queue
  dsimp only
  split
  · exact ⟨_, .inr ⟨_, rfl⟩, rfl, rfl⟩
  · exact ⟨_, .inl rfl, rfl, rfl⟩

/-- Whatever comes of giving a buffer back, nothing else is changed by it. -/
theorem giveBack_outline (s : AudioSession σ γ) (encoder : Nat) (input : InputStage)
    (buffer : OutputBuffer) (written : Except Error Unit) :
    ∃ next, AudioStage.AfterOutput encoder input buffer written next ∧
      (s.giveBack encoder input buffer written).listening = s.listening ∧
      (s.giveBack encoder input buffer written).outline =
        { s.outline.record [.encoder (.returnOutput encoder buffer.index)] with
          stage := next } := by
  unfold giveBack
  dsimp only
  split
  · exact ⟨_, .fail _, rfl, rfl⟩
  · exact ⟨_, .fail _, rfl, rfl⟩
  · split
    · rename_i flagged
      exact ⟨_, .last rfl flagged, rfl, rfl⟩
    · rename_i more
      exact ⟨_, .next rfl (by simpa using more), rfl, rfl⟩

theorem tearDown_outline {held : Option Nat} {result : Except Error Unit}
    (stage : s.stage = .tearDown held result) :
    Step s.outline [] (s.tearDown held result).outline := by
  rcases held with _ | encoder
  · exact .ending (.leave stage)
  · exact .ending (.release stage)

end

/-! ### What depends on the source alone -/

section

variable [PcmSource γ]

theorem check_outline (stage : s.stage = .check) :
    Step s.outline [.checked (PcmSource.check s.source).2] s.check.outline := by
  unfold check
  rcases PcmSource.check s.source with ⟨source, e | _⟩
  · dsimp only
    rw [outline_disable]
    refine .settingUp (.refuse stage ?_)
    cases e <;> simp
  · exact .settingUp (.available stage)

theorem startCapture_outline {held : Option Nat} (stage : s.stage = .startCapture held) :
    Step s.outline [.began (PcmSource.start s.source).2] (s.startCapture held).outline := by
  have source : (s.record [.capture .start]).source = s.source := rfl
  unfold startCapture
  dsimp only
  rw [source]
  rcases PcmSource.start s.source with ⟨source, e | _⟩
  · rcases held with _ | encoder <;> dsimp only <;> rw [outline_disable]
    · exact .settingUp (@AudioOutline.SettingUp.silent _ none _ stage)
    · exact .settingUp (@AudioOutline.SettingUp.silent _ (some encoder) _ stage)
  · rcases held with _ | encoder
    · have framer : (s.record [.capture .start]).framer = s.framer := rfl
      dsimp only
      rw [framer]
      rcases opened : s.framer.audioHeader with ⟨framer, _ | bytes⟩
      · exact .settingUp (@AudioOutline.SettingUp.recordFirst _ _ none stage opened)
      · exact .settingUp (@AudioOutline.SettingUp.recordFirst _ _ (some bytes) stage opened)
    · exact .settingUp (.capture stage)

theorem recordHeader_outline {t : Transfer} (stage : s.stage = .recordHeader t)
    (h : s.recordHeader? t = some next) : Step s.outline [] next.outline := by
  unfold recordHeader? at h
  split at h <;> cases h <;> rename_i written
  · exact .recording (.recordHeaderWaits stage written)
  · exact .recording (.recordNext (.inl stage) written)
  · exact .recording (.recordFails (.inl stage) written)

theorem writeBranch_outline {t : Transfer} (stage : s.stage = .recordWrite t)
    (h : s.writeBranch t = some next) : Step s.outline [] next.outline := by
  unfold writeBranch at h
  split at h <;> cases h <;> rename_i written
  · exact .recording (.recordWriteWaits stage written)
  · exact .recording (.recordNext (.inr stage) written)
  · exact .recording (.recordFails (.inr stage) written)

theorem stopCapture_outline {result : Except Error Unit} (stage : s.stage = .stopCapture result)
    (h : s.stopCapture? result = some next) : Step s.outline [] next.outline := by
  unfold stopCapture? at h
  split at h <;> cases h
  exact .ending (.stopCapture stage)

end

/-! ### What a session learns -/

variable [EncoderHost σ] [PcmSource γ]

/-- The events of a step from `s` to `next`. While sound is encoded, the step has taken a buffer if
the queues are what taking one leaves; while it is recorded, it has read if it made a call. -/
def learned (s next : AudioSession σ γ) : List AudioEvent :=
  match s.stage with
  | .check => [.checked (PcmSource.check s.source).2]
  | .startCapture _ => [.began (PcmSource.start s.source).2]
  | .startEncoder encoder =>
    match (EncoderHost.start s.host encoder).2 with
    | .ok () => [.encodes]
    | .error _ => []
  | .recordRead =>
    match PcmSource.answer? s.source packetSize with
    | some (_, .ok (byte :: data)) =>
      if s.calls.length < next.calls.length then [.packed ⟨byte :: data, s.clock.pts, .none⟩]
      else []
    | _ => []
  | .encoding encoder _ _ =>
    (match s.listening.takeInput with
      | (listening, .item index) => if next.listening = listening then [.inputTaken index] else []
      | _ => []) ++
    (match s.listening.takeOutput with
      | (listening, .item output) =>
        if next.listening = listening then
          [.outputTaken output (EncoderHost.readOutput s.host encoder output.index)]
        else []
      | _ => [])
  | _ => []

theorem startEncoder_outline {encoder : Nat} (stage : s.stage = .startEncoder encoder) :
    Step s.outline (s.learned (s.startEncoder encoder)) (s.startEncoder encoder).outline := by
  have host : (s.record [.encoder (.start encoder)]).host = s.host := rfl
  have framer : (s.record [.encoder (.start encoder)]).framer = s.framer := rfl
  simp only [learned, stage]
  unfold startEncoder
  dsimp only
  rw [host, framer]
  rcases EncoderHost.start s.host encoder with ⟨host, e | _⟩
  · dsimp only
    rw [outline_disable]
    exact .settingUp (.idleEncoder stage)
  · dsimp only
    rcases opened : s.framer.audioHeader with ⟨framer, _ | bytes⟩
    · exact .settingUp (@AudioOutline.SettingUp.startEncoder _ _ _ none stage opened)
    · exact .settingUp (@AudioOutline.SettingUp.startEncoder _ _ _ (some bytes) stage opened)

theorem readBranch_outline (stage : s.stage = .recordRead) (h : s.readBranch = some next) :
    Step s.outline (s.learned next) next.outline := by
  obtain ⟨⟨source, result⟩, answered, rfl⟩ := Option.map_eq_some_iff.mp h
  simp only [learned, stage, answered]
  rcases result with e | _ | ⟨byte, data⟩
  · exact .recording (.recordUnread stage)
  · exact .recording (.recordSilence stage)
  · have read : s.calls.length < (s.calls ++
        [AudioCall.capture (.read packetSize (.ok (byte :: data)))]).length := by simp
    simp only [outline_beginRecordWrite, beginRecordWrite_calls, record, read, if_true]
    exact .recording (.recordBlock stage (by simp))

/-! ### Encoding -/

section

variable {encoder : Nat} {input : InputStage} {output : OutputStage}

/-- A step that leaves the queues alone has taken nothing. -/
theorem step_of_kept (stage : s.stage = .encoding encoder input output)
    (same : next.listening = s.listening) (step : Step s.outline [] next.outline) :
    Step s.outline (s.learned next) next.outline := by
  have nothing : s.learned next = [] := by
    simp only [learned, stage, same, List.append_eq_nil_iff]
    constructor
    · split
      · rename_i listening index taken
        have shorter := (Listening.takeInput_shorter taken).1
        exact if_neg fun eq => by rw [eq] at shorter; omega
      · rfl
    · split
      · rename_i listening buffer taken
        have shorter := (Listening.takeOutput_shorter taken).1
        exact if_neg fun eq => by rw [eq] at shorter; omega
      · rfl
  rwa [nothing]

theorem step_of_takeInput {index : Nat} (stage : s.stage = .encoding encoder input output)
    (taken : s.listening.takeInput = (next.listening, .item index))
    (step : Step s.outline [.inputTaken index] next.outline) :
    Step s.outline (s.learned next) next.outline := by
  have learns : s.learned next = [.inputTaken index] := by
    simp only [learned, stage, taken, if_true, List.append_right_eq_self]
    split
    · rename_i listening buffer other
      have shorter := (Listening.takeInput_shorter taken).1
      have same := (Listening.takeOutput_shorter other).2
      exact if_neg fun eq => by rw [eq, same] at shorter; omega
    · rfl
  rwa [learns]

theorem step_of_takeOutput {buffer : OutputBuffer}
    (stage : s.stage = .encoding encoder input output)
    (taken : s.listening.takeOutput = (next.listening, .item buffer))
    (step : Step s.outline
      [.outputTaken buffer (EncoderHost.readOutput s.host encoder buffer.index)] next.outline) :
    Step s.outline (s.learned next) next.outline := by
  have learns : s.learned next =
      [.outputTaken buffer (EncoderHost.readOutput s.host encoder buffer.index)] := by
    simp only [learned, stage, taken, if_true, List.append_left_eq_self]
    split
    · rename_i listening index other
      have shorter := (Listening.takeOutput_shorter taken).1
      have same := (Listening.takeInput_shorter other).2
      exact if_neg fun eq => by rw [eq, same] at shorter; omega
    · rfl
  rwa [learns]

theorem inputBranch_outline (stage : s.stage = .encoding encoder input output)
    (h : s.inputBranch encoder input output = some next) :
    Step s.outline (s.learned next) next.outline := by
  cases input with
  | idle =>
    simp only [inputBranch] at h
    split at h
    · cases h
    · rename_i listening taken
      cases h
      exact step_of_kept stage (Listening.takeInput_ended taken)
        (Listening.takeInput_ended taken ▸ .ending (.finish stage (by simp)))
    · rename_i listening index taken
      cases h
      unfold beginFill
      split
      · exact step_of_takeInput stage taken (.filling (.takeInput stage taken (.inr ⟨_, rfl⟩)))
      · exact step_of_takeInput stage taken (.filling (.takeInput stage taken (.inl ⟨_, rfl⟩)))
  | reading index capacity =>
    obtain ⟨⟨source, result⟩, -, rfl⟩ := Option.map_eq_some_iff.mp h
    rcases result with e | _ | ⟨byte, data⟩
    · exact step_of_kept stage rfl (.filling (.inputUnread stage (by simp)))
    · exact step_of_kept stage rfl (.filling (.inputUnread stage (by simp)))
    · obtain ⟨next, goesOn, same, queued⟩ := queue_outline
        ({ s with source }.record [.capture (.read capacity (.ok (byte :: data)))]) encoder index
        (byte :: data) output
      refine step_of_kept stage same ?_
      dsimp only
      rw [queued]
      exact .filling (.queue stage (by simp) goesOn)

/-- A buffer that leaves nothing to be written is given back at once. -/
theorem skip_outline {asked : AudioSession σ γ} {buffer : OutputBuffer} {listening : Listening}
    {framer : Framer} {content : Except EncoderError Bytes} {written : Except Error Unit}
    (stage : s.stage = .encoding encoder input .idle)
    (taken : s.listening.takeOutput = (listening, .item buffer))
    (read : EncoderHost.readOutput s.host encoder buffer.index = content)
    (unwritten : s.framer.Unwritten buffer content framer written)
    (same : asked.outline = { s.outline.record [.encoder (.readOutput encoder buffer.index)] with
      listening, framer }) :
    Step s.outline (s.learned (asked.giveBack encoder input buffer written))
      (asked.giveBack encoder input buffer written).outline := by
  obtain ⟨next, after, kept, given⟩ := giveBack_outline asked encoder input buffer written
  have queues : asked.listening = listening := congrArg AudioSession.listening same
  refine step_of_takeOutput stage (by rw [kept, queues]; exact taken) ?_
  rw [given, same, read]
  exact .draining (.skip stage taken unwritten after)

/-- Any other buffer is written as far as the sink takes it. -/
theorem writeFirst_outline {asked : AudioSession σ γ} {buffer : OutputBuffer}
    {listening : Listening} {framer : Framer} {data bytes : Bytes}
    (stage : s.stage = .encoding encoder input .idle)
    (taken : s.listening.takeOutput = (listening, .item buffer))
    (read : EncoderHost.readOutput s.host encoder buffer.index = .ok data)
    (used : buffer.info.size ≠ 0)
    (packed : s.framer.packet (buffer.info.unit data) = .ok (framer, some bytes))
    (same : asked.outline = { s.outline.record [.encoder (.readOutput encoder buffer.index)] with
      listening, framer })
    (h : asked.writeBuffer? encoder input buffer { rest := bytes } = some next) :
    Step s.outline (s.learned next) next.outline := by
  have queues : asked.listening = listening := congrArg AudioSession.listening same
  have sink : asked.sink = s.sink := by
    have sinks := congrArg AudioSession.sink same
    exact sinks
  unfold writeBuffer? at h
  rw [sink] at h
  split at h
  · cases h
  · rename_i sink rest written
    cases h
    refine step_of_takeOutput stage (by dsimp only; rw [queues]; exact taken) ?_
    have stalled :
        outline { asked with sink, stage := .encoding encoder input (.writing buffer rest) } =
        { asked.outline with sink, stage := .encoding encoder input (.writing buffer rest) } := rfl
    rw [stalled, same, read]
    exact .draining (.packetBegins stage taken used packed written)
  · rename_i sink result written
    cases h
    obtain ⟨next, after, kept, given⟩ :=
      giveBack_outline { asked with sink } encoder input buffer result
    have ended : outline { asked with sink } = { asked.outline with sink } := rfl
    refine step_of_takeOutput stage (by rw [kept]; dsimp only; rw [queues]; exact taken) ?_
    rw [given, ended, same, read]
    exact .draining (.packetWhole stage taken used packed written after)

theorem deliver_outline {buffer : OutputBuffer} {listening : Listening}
    (stage : s.stage = .encoding encoder input .idle)
    (taken : s.listening.takeOutput = (listening, .item buffer))
    (h : deliver { s with listening } encoder input buffer = some next) :
    Step s.outline (s.learned next) next.outline := by
  have host : ({ s with listening }.record [.encoder (.readOutput encoder buffer.index)]).host =
      s.host := rfl
  have framer : ({ s with listening }.record [.encoder (.readOutput encoder buffer.index)]).framer =
      s.framer := rfl
  simp only [deliver, host, framer] at h
  rcases read : EncoderHost.readOutput s.host encoder buffer.index with e | data
  · rw [read] at h
    cases h
    exact skip_outline stage taken read (.missing e) rfl
  · rw [read] at h
    dsimp only at h
    by_cases unused : buffer.info.size = 0
    · rw [if_pos unused] at h
      cases h
      exact skip_outline stage taken read (.empty data unused) rfl
    · rw [if_neg unused] at h
      split at h
      · rename_i packed
        cases h
        exact skip_outline stage taken read (.refused unused packed) rfl
      · rename_i packed
        cases h
        exact skip_outline stage taken read (.implied unused packed) rfl
      · rename_i packed
        exact writeFirst_outline stage taken read unused packed rfl h

theorem outputBranch_outline (stage : s.stage = .encoding encoder input output)
    (h : s.outputBranch encoder input output = some next) :
    Step s.outline (s.learned next) next.outline := by
  cases output with
  | header t =>
    simp only [outputBranch] at h
    split at h <;> cases h <;> rename_i written
    · exact step_of_kept stage rfl (.draining (.headerWaits stage written))
    · exact step_of_kept stage rfl (.draining (.headerDone stage written))
    · exact step_of_kept stage rfl (.draining (.headerFails stage written))
  | idle =>
    simp only [outputBranch] at h
    split at h
    · cases h
    · rename_i listening taken
      cases h
      exact step_of_kept stage (Listening.takeOutput_ended taken)
        (Listening.takeOutput_ended taken ▸ .ending (.finish stage (by simp)))
    · rename_i listening buffer taken
      exact deliver_outline stage taken h
  | writing buffer t =>
    simp only [outputBranch, writeBuffer?] at h
    split at h
    · cases h
    · rename_i written
      cases h
      exact step_of_kept stage rfl (.draining (.packetWaits stage written))
    · rename_i sink result written
      cases h
      obtain ⟨next, after, kept, given⟩ :=
        giveBack_outline { s with sink } encoder input buffer result
      refine step_of_kept stage kept ?_
      rw [given]
      exact .draining (.packetEnds stage written after)

end

/-! ### Step by step -/

/-- What a step comes to in each stage. Whichever side of an encoding ends first ends both. -/
inductive Advance (s : AudioSession σ γ) : AudioSession σ γ → Prop
  | check (stage : s.stage = .check) : Advance s s.check
  | announce {t : Transfer} {sequel : Sequel} {next : AudioSession σ γ}
      (stage : s.stage = .announce t sequel) (told : s.announce? t sequel = some next) :
      Advance s next
  | openEncoder (stage : s.stage = .openEncoder) : Advance s s.openEncoder
  | configure {encoder : Nat} (stage : s.stage = .configure encoder) :
      Advance s (s.configure encoder)
  | startCapture {held : Option Nat} (stage : s.stage = .startCapture held) :
      Advance s (s.startCapture held)
  | startEncoder {encoder : Nat} (stage : s.stage = .startEncoder encoder) :
      Advance s (s.startEncoder encoder)
  | finish {encoder : Nat} {input : InputStage} {output : OutputStage}
      (stage : s.stage = .encoding encoder input output) (stopping : s.stopping = true) :
      Advance s (s.finish encoder (.ok ()))
  | fail {encoder : Nat} {input : InputStage} {output : OutputStage} {e : Error}
      (stage : s.stage = .encoding encoder input output)
      (failed : s.listening.failure? = some e) : Advance s (s.finish encoder (.error e))
  | input {encoder : Nat} {input : InputStage} {output : OutputStage} {next : AudioSession σ γ}
      (stage : s.stage = .encoding encoder input output)
      (ready : s.inputBranch encoder input output = some next) : Advance s next
  | output {encoder : Nat} {input : InputStage} {output : OutputStage} {next : AudioSession σ γ}
      (stage : s.stage = .encoding encoder input output)
      (ready : s.outputBranch encoder input output = some next) : Advance s next
  | recordHeader {t : Transfer} {next : AudioSession σ γ} (stage : s.stage = .recordHeader t)
      (written : s.recordHeader? t = some next) : Advance s next
  | stopRecording {next : AudioSession σ γ}
      (stage : s.stage = .recordRead ∨ ∃ t, s.stage = .recordWrite t)
      (stopped : s.stopBranch = some next) : Advance s next
  | recordRead {next : AudioSession σ γ} (stage : s.stage = .recordRead)
      (read : s.readBranch = some next) : Advance s next
  | recordWrite {t : Transfer} {next : AudioSession σ γ} (stage : s.stage = .recordWrite t)
      (written : s.writeBranch t = some next) : Advance s next
  | tearDown {held : Option Nat} {result : Except Error Unit}
      (stage : s.stage = .tearDown held result) : Advance s (s.tearDown held result)
  | stopCapture {result : Except Error Unit} {next : AudioSession σ γ}
      (stage : s.stage = .stopCapture result) (stopped : s.stopCapture? result = some next) :
      Advance s next

theorem advance_of_step {pick : Nat} (h : s.step pick = some next) : s.Advance next := by
  unfold step at h
  cases stage : s.stage with simp only [stage, reduceCtorEq] at h
  | check =>
    cases h
    exact .check stage
  | announce t sequel =>
    exact .announce stage h
  | openEncoder =>
    cases h
    exact .openEncoder stage
  | configure encoder =>
    cases h
    exact .configure stage
  | startCapture held =>
    simp only [startCapture?] at h
    split at h <;> cases h
    exact .startCapture stage
  | startEncoder encoder =>
    cases h
    exact .startEncoder stage
  | encoding encoder input output =>
    simp only [encode] at h
    have branches := mem_of_firstReady h
    simp only [List.mem_cons, List.not_mem_nil, or_false] at branches
    rcases branches with stopped | failed | inputs | outputs
    · split at stopped <;> cases stopped
      rename_i stopping
      exact .finish stage stopping
    · obtain ⟨e, reported, rfl⟩ := Option.map_eq_some_iff.mp failed.symm
      exact .fail stage reported
    · exact .input stage inputs.symm
    · exact .output stage outputs.symm
  | recordHeader t =>
    exact .recordHeader stage h
  | recordRead =>
    have branches := mem_of_firstReady h
    simp only [List.mem_cons, List.not_mem_nil, or_false] at branches
    rcases branches with stopped | read
    · exact .stopRecording (.inl stage) stopped.symm
    · exact .recordRead stage read.symm
  | recordWrite t =>
    have branches := mem_of_firstReady h
    simp only [List.mem_cons, List.not_mem_nil, or_false] at branches
    rcases branches with stopped | written
    · exact .stopRecording (.inr ⟨t, stage⟩) stopped.symm
    · exact .recordWrite stage written.symm
  | tearDown held result =>
    cases h
    exact .tearDown stage
  | stopCapture result =>
    exact .stopCapture stage h

/-- A recording that is stopped learns nothing any more. -/
theorem learned_of_stop (stage : s.stage = .recordRead ∨ ∃ t, s.stage = .recordWrite t)
    (h : s.stopBranch = some next) : s.learned next = [] := by
  have made : next.calls = s.calls := by
    unfold stopBranch at h
    split at h <;> cases h
    rfl
  rcases stage with stage | ⟨t, stage⟩
  · simp only [learned, stage, made, Nat.lt_irrefl, if_false]
    split <;> rfl
  · simp only [learned, stage]

/-- Every step of a session is one of those that its outline can take. -/
theorem step_outline {pick : Nat} (h : s.step pick = some next) :
    Step s.outline (s.learned next) next.outline := by
  cases advance_of_step h with
  | check stage => simpa only [learned, stage] using check_outline stage
  | announce stage told => simpa only [learned, stage] using announce_outline stage told
  | openEncoder stage => simpa only [learned, stage] using openEncoder_outline stage
  | configure stage => simpa only [learned, stage] using configure_outline stage
  | startCapture stage => simpa only [learned, stage] using startCapture_outline stage
  | startEncoder stage => exact startEncoder_outline stage
  | finish stage stopping =>
    exact step_of_kept stage rfl (.ending (.finish stage fun _ => stopping))
  | fail stage failed => exact step_of_kept stage rfl (.ending (.finish stage (by simp)))
  | input stage ready => exact inputBranch_outline stage ready
  | output stage ready => exact outputBranch_outline stage ready
  | recordHeader stage written =>
    simpa only [learned, stage] using recordHeader_outline stage written
  | stopRecording stage stopped =>
    rw [learned_of_stop stage stopped]
    exact stopBranch_outline stage stopped
  | recordRead stage read => exact readBranch_outline stage read
  | recordWrite stage written => simpa only [learned, stage] using writeBranch_outline stage written
  | tearDown stage => simpa only [learned, stage] using tearDown_outline stage
  | stopCapture stage stopped => simpa only [learned, stage] using stopCapture_outline stage stopped

end AudioSession

end Screencast
