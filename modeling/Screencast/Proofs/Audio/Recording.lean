import Mathlib.Data.List.Basic
import Screencast.Capture.Scripted
import Screencast.Encoder.Scripted
import Screencast.Proofs.Audio.Order
import Screencast.Proofs.Audio.Service
import Screencast.Proofs.Audio.Stream
import Screencast.Proofs.Audio.Waiting

/-!
Plain sound arrives as it was captured. On a sink that takes everything, a session that records
writes a header and one frame for each block that it reads (`AudioStage.Recorded`), with the time of
its position; and a read that brings nothing ends it with an error, after all frames.
-/

namespace Screencast

/-- A read that brought nothing. -/
def AudioCall.isSilence : AudioCall → Bool
  | .capture (.read _ (.ok [])) => true
  | _ => false

open AudioCall (block? isSilence)
open AudioEvent (outputTaken? packed? units)

/-- What a session that records has written when it is in a stage, on a sink that takes everything.
A frame is missing only while it is to be written, or if the session was told to stop before it
was. -/
def AudioStage.Recorded (codec : AudioCodec) (base : Bytes) (seen : List AudioEvent)
    (s : AudioOutline) : AudioStage → Prop
  | .idle | .check | .startCapture none | .announce _ (.refuse _) | .announce _ (.fail _) =>
    .began (.ok ()) ∉ seen ∧ s.calls.any isSilence = false
  | .recordHeader _ => s.sink.accepted = base ∧ s.calls.any isSilence = false
  | .recordRead =>
    s.sink.accepted = base ++ codec.stream (units seen) ∧ s.calls.any isSilence = false
  | .recordWrite _ =>
    s.sink.accepted = base ++ codec.stream (units seen).dropLast ∧ s.calls.any isSilence = false
  | .tearDown none result | .stopCapture result | .ended result =>
    (.began (.ok ()) ∈ seen →
      s.sink.accepted = base ++ codec.stream (units seen) ∨
        s.stopping = true ∧ s.sink.accepted = base ++ codec.stream (units seen).dropLast) ∧
    (s.calls.any isSilence = true → s.sink.accepted = base ++ codec.stream (units seen) ∧
      result = .error AudioSession.noSound)
  | _ => False

namespace AudioOutline

variable {codec : AudioCodec} {base : Bytes} {seen events : List AudioEvent} {s s' : AudioOutline}

/-- A step leaves the sink alone, or goes on with a transfer. -/
theorem Step.sink_eq (step : Step s events s') :
    s'.sink = s.sink ∨ ∃ t, s'.sink = (s.sink.transfer t).1 := by
  have disabled (s : AudioOutline) isError sequel : (s.disable isError sequel).sink = s.sink := by
    obtain ⟨framer, next, disabled, -⟩ := s.disable_eq isError sequel
    rw [disabled]
  cases step with
  | settingUp step =>
    cases step with
    | refuse | noEncoder | misfit | silent | idleEncoder => exact .inl (disabled _ _ _)
    | @markEnds t sequel sink told stage written =>
      obtain ⟨next, follows, -⟩ := AudioSession.follow_eq { s with sink } sequel told
      rw [follows]
      exact .inr ⟨t, by rw [written]⟩
    | markWaits stage written => exact .inr ⟨_, by rw [written]⟩
    | available | encoder | configure | capture | recordFirst | startEncoder => exact .inl rfl
  | recording step =>
    cases step with
    | @recordBlock capacity data =>
      obtain ⟨framer, next, begun, -⟩ := AudioSession.beginRecordWrite_eq
        (s.record [.capture (.read capacity (.ok data))]) data
      rw [begun]
      exact .inl rfl
    | recordHeaderWaits stage written | recordWriteWaits stage written | recordNext stage written
    | recordFails stage written => exact .inr ⟨_, by rw [written]⟩
    | recordStops | recordUnread | recordSilence => exact .inl rfl
  | draining step =>
    cases step with
    | headerWaits stage written | headerDone stage written | headerFails stage written
    | packetWaits stage written | packetBegins stage taken used packed written
    | packetWhole stage taken used packed written | packetEnds stage written =>
      exact .inr ⟨_, by rw [written]⟩
    | skip => exact .inl rfl
  | filling step | ending step => cases step <;> exact .inl rfl

theorem Step.open (step : Step s events s') (opened : s'.sink.Open) : s.sink.Open := by
  rcases step.sink_eq with same | ⟨t, moved⟩
  · rwa [same] at opened
  · rw [moved] at opened
    exact Sink.open_of_transfer opened

theorem Step.opens (step : Step s events s') (opened : s.sink.Open) : s'.sink.Open :=
  opened.moved step.sink_eq

theorem Around.open (around : Around s events s') (opened : s'.sink.Open) : s.sink.Open := by
  cases around with
  | still | start | stop | input | output | fail | leave => exact opened
  | drain n => exact ⟨opened.quota, opened.failure, Option.map_eq_none_iff.mp opened.limit⟩
  | hangUp e => cases opened.failure

/-- Nothing is missing, and no read was silent. -/
theorem recorded_over {result : Except Error Unit}
    (whole : s.sink.accepted = base ++ codec.stream (units seen))
    (sound : s.calls.any isSilence = false) :
    AudioStage.Recorded codec base seen s (.ended result) :=
  ⟨fun _ => .inl whole, fun silence => by simp [sound] at silence⟩

/-- A session that could not be set up has not begun to capture. -/
theorem recorded_of_leads {sequel : Sequel} {next : AudioStage} {t : Transfer}
    (recorded : AudioStage.Recorded codec base seen s (.announce t sequel))
    (leads : sequel.Leads next) : next.Recorded codec base seen s := by
  cases leads with
  | refuse | fail =>
    exact ⟨fun begun => absurd begun recorded.1, fun silence => by simp [recorded.2] at silence⟩
  | giveBack => exact recorded.elim

theorem recorded_disable {isError : Bool} {sequel : Sequel}
    (recorded : ∀ t, AudioStage.Recorded codec base seen s (.announce t sequel)) :
    (s.disable isError sequel).stage.Recorded codec base seen (s.disable isError sequel) := by
  obtain ⟨framer, next, disabled, ⟨t, rfl⟩ | leads⟩ := s.disable_eq isError sequel <;> rw [disabled]
  · have marks := recorded t
    cases sequel <;> exact marks
  · have leaves := recorded_of_leads (recorded default) leads
    cases leads <;> exact leaves

/-- A call that is not a silent read does not make a silent one of those before. -/
theorem any_isSilence_record {call : AudioCall} (sound : call.isSilence = false) :
    (s.record [call]).calls.any isSilence = s.calls.any isSilence := by
  simp [AudioSession.record, sound]

theorem SettingUp.recorded (step : SettingUp s events s') (plain : s.setup.encodes = false)
    (streams : Streams codec base seen s) (opened : s.sink.Open)
    (recorded : s.stage.Recorded codec base seen s) :
    s'.stage.Recorded codec base (seen ++ events) s' := by
  unfold Streams at streams
  cases step with
  | available stage =>
    rw [stage] at recorded
    rw [plain]
    exact ⟨by simpa using recorded.1, recorded.2⟩
  | refuse stage =>
    rw [stage] at recorded
    exact recorded_disable fun t => ⟨by simpa using recorded.1, recorded.2⟩
  | @silent held e stage =>
    rw [stage] at recorded
    cases held with
    | none =>
      exact recorded_disable fun t =>
        ⟨by simpa using recorded.1, (any_isSilence_record rfl).trans recorded.2⟩
    | some encoder => exact recorded.elim
  | recordFirst stage header =>
    rw [stage] at recorded streams
    obtain ⟨-, framer, accepted⟩ := streams
    rw [framer, Framer.audioHeader_start] at header
    cases header
    exact ⟨accepted, (any_isSilence_record rfl).trans recorded.2⟩
  | @markEnds t sequel sink told stage =>
    rw [stage] at recorded
    rw [List.append_nil]
    obtain ⟨next, follows, leads⟩ := AudioSession.follow_eq { s with sink } sequel told
    rw [follows]
    cases leads with
    | refuse | fail =>
      exact ⟨fun begun => absurd begun recorded.1, fun silence => by simp [recorded.2] at silence⟩
    | giveBack => exact recorded.elim
  -- an open sink takes all at once
  | markWaits stage written =>
    rw [opened.transfer] at written
    cases written
  | noEncoder stage | encoder stage | configure stage | misfit stage | capture stage
  | idleEncoder stage | startEncoder stage =>
    rw [stage] at recorded
    exact recorded.elim

theorem Recording.recorded (step : Recording s events s') (streams : Streams codec base seen s)
    (opened : s.sink.Open) (recorded : s.stage.Recorded codec base seen s) :
    s'.stage.Recorded codec base (seen ++ events) s' := by
  unfold Streams at streams
  cases step with
  -- an open sink takes all at once
  | recordHeaderWaits stage written | recordWriteWaits stage written | recordFails stage written =>
    rw [opened.transfer] at written
    cases written
  | recordNext stage written =>
    rw [List.append_nil]
    rcases stage with stage | stage <;> rw [stage] at recorded streams
    · exact ⟨(wrote_header streams written).2, recorded.2⟩
    · exact ⟨streams.2.done written, recorded.2⟩
  | recordStops stage stopping =>
    rw [List.append_nil]
    rcases stage with stage | ⟨t, stage⟩ <;> rw [stage] at recorded
    · exact recorded_over recorded.1 recorded.2
    · exact ⟨fun _ => .inr ⟨stopping, recorded.1⟩, fun silence => by simp [recorded.2] at silence⟩
  | recordUnread stage =>
    rw [stage] at recorded
    rw [List.append_nil]
    exact recorded_over recorded.1 ((any_isSilence_record rfl).trans recorded.2)
  | recordSilence stage =>
    rw [stage] at recorded
    rw [List.append_nil]
    exact ⟨fun _ => .inl recorded.1, fun _ => ⟨recorded.1, rfl⟩⟩
  | @recordBlock capacity data stage sound =>
    rw [stage] at recorded streams
    obtain ⟨byte, data, rfl⟩ := List.exists_cons_of_ne_nil sound
    obtain ⟨bytes, begun, -⟩ := AudioSession.beginRecordWrite_framer
      (s := s.record [.capture (.read capacity (.ok (byte :: data)))]) streams.1 (byte :: data)
    have last : (units (seen ++ [.packed ⟨byte :: data, s.clock.pts, .none⟩])).dropLast =
        units seen := by
      rw [units_append]
      exact List.dropLast_concat
    rw [begun]
    exact ⟨last ▸ recorded.1, (any_isSilence_record rfl).trans recorded.2⟩

theorem Ending.recorded (step : Ending s events s')
    (recorded : s.stage.Recorded codec base seen s) :
    s'.stage.Recorded codec base (seen ++ events) s' := by
  cases step with
  | leave stage =>
    rw [stage] at recorded
    rw [List.append_nil]
    exact recorded
  | stopCapture stage =>
    rw [stage] at recorded
    rw [List.append_nil]
    exact ⟨recorded.1, fun silence => recorded.2 ((any_isSilence_record rfl).symm.trans silence)⟩
  | finish stage | release stage =>
    rw [stage] at recorded
    exact recorded.elim

theorem Step.recorded (step : Step s events s') (plain : s.setup.encodes = false)
    (streams : Streams codec base seen s) (opened : s.sink.Open)
    (recorded : s.stage.Recorded codec base seen s) :
    s'.stage.Recorded codec base (seen ++ events) s' := by
  have inside : ¬ ∃ encoder input output, s.stage = .encoding encoder input output := by
    rintro ⟨encoder, input, output, stage⟩
    rw [stage] at recorded
    exact recorded
  cases step with
  | settingUp step => exact step.recorded plain streams opened recorded
  | recording step => exact step.recorded streams opened recorded
  | filling step => exact absurd step.stage_eq inside
  | draining step => exact absurd step.stage_eq inside
  | ending step => exact step.recorded recorded

/-- What happens around a session does not write, read or begin anything. -/
theorem recorded_around {stage : AudioStage} (recorded : stage.Recorded codec base seen s)
    (accepted : s'.sink.accepted = s.sink.accepted) (calls : s'.calls = s.calls)
    (stopping : s.stopping = true → s'.stopping = true) (silent : units events = [])
    (quiet : .began (.ok ()) ∉ events) : stage.Recorded codec base (seen ++ events) s' := by
  have same : units (seen ++ events) = units seen := by rw [units_append, silent, List.append_nil]
  have begun : .began (.ok ()) ∈ seen ++ events ↔ .began (.ok ()) ∈ seen := by simp [quiet]
  unfold AudioStage.Recorded
  rw [same, begun, accepted, calls]
  cases stage with
  | idle | check | recordHeader | recordRead | recordWrite => exact recorded
  | announce t sequel => cases sequel <;> exact recorded
  | startCapture held => cases held <;> exact recorded
  | stopCapture | ended =>
    exact ⟨fun now => (recorded.1 now).imp_right fun ⟨told, front⟩ => ⟨stopping told, front⟩,
      recorded.2⟩
  | tearDown held result =>
    cases held with
    | none =>
      exact ⟨fun now => (recorded.1 now).imp_right fun ⟨told, front⟩ => ⟨stopping told, front⟩,
        recorded.2⟩
    | some encoder => exact recorded.elim
  | openEncoder | configure | startEncoder | encoding => exact recorded.elim

theorem Around.recorded (around : Around s events s')
    (recorded : s.stage.Recorded codec base seen s) :
    s'.stage.Recorded codec base (seen ++ events) s' := by
  cases around with
  | still | input | output | fail | leave | drain | hangUp =>
    exact recorded_around recorded rfl rfl id rfl (by simp)
  | start idle =>
    rw [idle] at recorded
    rw [List.append_nil]
    exact recorded
  | stop => exact recorded_around recorded rfl rfl (fun _ => rfl) rfl (by simp)

end AudioOutline

/-! ### Reading plain sound back -/

theorem AccessUnit.origin_timed (blocks : List Bytes) : origin (timed blocks) = 0 := by
  cases blocks with
  | nil => rfl
  | cons block blocks =>
    have plain : (BufferFlags.none).isConfig = false := rfl
    rw [timed, List.mapIdx_cons, origin_media plain]
    simp [soundTime]

/-- What the desktop reads of plain sound: each block, with the time of its position. -/
def AudioCodec.playback (codec : AudioCodec) (blocks : List Bytes) : Playback where
  codec := (ChannelCodec.audio codec).id
  size := none
  packets := blocks.mapIdx fun i block =>
    ⟨false, false, soundTime (blocks.take i).flatten.length, block⟩

theorem AudioCodec.read_stream (codec : AudioCodec) {blocks : List Bytes}
    (short : ∀ block ∈ blocks, block.length < 2 ^ 32) (total : blocks.flatten.length < 2 ^ 46) :
    Playback.read? (codec.stream (timed blocks)) = some (codec.playback blocks) := by
  have fits : ∀ unit ∈ timed blocks, unit.data.length < 2 ^ 32 := by
    intro unit member
    obtain ⟨i, inside, rfl⟩ := List.mem_mapIdx.mp member
    exact short _ (List.getElem_mem inside)
  have items := AccessUnit.items?_frames 0 fits
  have packets : (timed blocks).map (.ofUnit 0) = (codec.playback blocks).packets := by
    refine List.ext_getElem (by simp [timed, playback]) fun i inside _ => ?_
    have split : blocks.flatten = (blocks.take i).flatten ++ (blocks.drop i).flatten := by
      rw [← List.flatten_append, List.take_append_drop]
    have small : soundTime (blocks.take i).flatten.length < 2 ^ 62 := by
      rw [split, List.length_append] at total
      unfold soundTime
      omega
    have plain (data : Bytes) (pts : Nat) :
        Received.ofUnit 0 ⟨data, pts, .none⟩ = ⟨false, false, pts % 2 ^ 62, data⟩ := by
      simp [Received.ofUnit, BufferFlags.none, BufferFlags.isConfig, BufferFlags.isKeyFrame]
    simp only [timed, playback, List.getElem_map, List.getElem_mapIdx, plain,
      Nat.mod_eq_of_lt small]
  rw [packets] at items
  have front : codec.header =
      Bytes.ofNat 4 (ChannelCodec.audio codec).id ++ Bytes.ofNat 4 ([] : Bytes).length ++ [] :=
    (List.append_nil _).symm
  rw [stream, AccessUnit.frames, AccessUnit.origin_timed, front,
    Playback.read?_header (ChannelCodec.id_lt _) (by simp) items]
  rfl

/-- Since it had `base`, the sink has taken a header and one frame for each block, and that is read
back as the blocks, each with the time of its position. -/
structure Sink.HasSound (s : Sink) (base : Bytes) (codec : AudioCodec) (blocks : List Bytes) :
    Prop where
  accepted : s.accepted = base ++ codec.stream (timed blocks)
  read : Playback.read? (codec.stream (timed blocks)) = some (codec.playback blocks)

/-- The blocks that a source has read, if it kept to what it was asked for. -/
structure ReadBlocks (blocks : List Bytes) : Prop where
  short : ∀ block ∈ blocks, block.length ≤ AudioSession.packetSize
  total : blocks.flatten.length < 2 ^ 46

theorem ReadBlocks.front {done missing : List Bytes} (read : ReadBlocks (done ++ missing)) :
    ReadBlocks done := by
  have total := read.total
  rw [List.flatten_append, List.length_append] at total
  exact ⟨fun block member => read.short block (List.mem_append_left _ member), by omega⟩

theorem ReadBlocks.sound {blocks : List Bytes} (read : ReadBlocks blocks) {s : Sink} {base : Bytes}
    {codec : AudioCodec} (accepted : s.accepted = base ++ codec.stream (timed blocks)) :
    s.HasSound base codec blocks := by
  refine ⟨accepted, codec.read_stream (fun block member => ?_) read.total⟩
  have fits := read.short block member
  have size : AudioSession.packetSize = 4096 := rfl
  omega

namespace AudioSession

variable {σ γ : Type} [EncoderHost σ] [PcmSource γ] {s : AudioSession σ γ}

/-- How far a session that records has come with the blocks it has read. -/
structure Recorded (s : AudioSession σ γ) (base : Bytes) (blocks : List Bytes) : Prop where
  /-- The header is to be written, and nothing was read. -/
  opens {t : Transfer} (stage : s.stage = .recordHeader t) : s.sink.accepted = base ∧ blocks = []
  /-- The last frame may be missing as long as it is to be written, and when the session was told to
  stop before that. -/
  frames (opened : ∀ t, s.stage ≠ .recordHeader t) : ∃ done missing, blocks = done ++ missing ∧
    s.sink.HasSound base s.setup.codec done ∧ missing.length ≤ 1 ∧ (missing = [] ∨
      (∃ t, s.stage = .recordWrite t) ∨ s.stopping = true ∧ s.stage ≠ .recordRead)
  /-- What is to be written is written in one step, if no stop comes first. -/
  goesOn {t : Transfer} (stage : s.stage = .recordHeader t ∨ s.stage = .recordWrite t)
    (running : s.stopping = false) (pick : Nat) : ∃ next, s.step pick = some next ∧
      next.stage = .recordRead ∧ next.calls = s.calls
  /-- A read that brings nothing ends the session with a fatal error, and no frame is missing. -/
  silence (silent : s.calls.any isSilence = true) : s.sink.HasSound base s.setup.codec blocks ∧
    noSound.isFatal = true ∧ ∀ pick, PcmSource.responds s.source = true →
      (s.run pick).result? = some (.error noSound)

/-- On an open sink a write that was begun is whole after one step. -/
theorem step_of_recordWrite {t : Transfer}
    (stage : s.stage = .recordHeader t ∨ s.stage = .recordWrite t) (opened : s.sink.Open)
    (running : s.stopping = false) (pick : Nat) :
    ∃ next, s.step pick = some next ∧ next.stage = .recordRead ∧ next.calls = s.calls := by
  refine ⟨{ s with sink := s.sink.taking t.rest }.beginRecordRead, ?_, rfl, rfl⟩
  rcases stage with stage | stage
  · simp only [step, stage, recordHeader?, opened.transfer]
  · have noStop : s.stopBranch = none := by simp [stopBranch, running]
    have writes : s.writeBranch t =
        some { s with sink := s.sink.taking t.rest }.beginRecordRead := by
      simp only [writeBranch, opened.transfer]
    simp only [step, stage, noStop, writes, firstReady_pair]
    split <;> rfl

/-- A session that holds no encoder and is about to end does so as soon as its source responds. -/
theorem result?_of_closing {result : Except Error Unit}
    (closing : s.stage = .tearDown none result ∨ s.stage = .stopCapture result ∨
      s.stage = .ended result)
    (responds : PcmSource.responds s.source = true) (pick : Nat) :
    (s.run pick).result? = some result := by
  have ended {s : AudioSession σ γ} (h : s.stage = .ended result) : s.result? = some result := by
    rw [result?, h]
  have enough : patience = 0xfffffffd + 3 := rfl
  rw [run, enough]
  rcases closing with stage | stage | stage
  · refine ended ?_
    rw [stage_of_tearDown stage, responds, if_pos rfl]
  · have stops : s.step pick = some { s.record [.capture .stop] with
        source := PcmSource.stop s.source, stage := .ended result } := by
      simp only [step, stage, stopCapture?, responds, if_true]
    rw [settle_of_step stops, settle_of_waits rfl]
    exact ended rfl
  · have waits : s.step pick = none := by simp only [step, stage]
    rw [settle_of_waits waits]
    exact ended stage

end AudioSession

namespace AudioOutline

variable {codec : AudioCodec} {base : Bytes} {seen : List AudioEvent} {s : AudioOutline}

/-- Once sound is captured and the header is there, all is there, or all but the last frame. -/
theorem front_of_recorded (recorded : s.stage.Recorded codec base seen s)
    (begun : .began (.ok ()) ∈ seen) (opened : ∀ t, s.stage ≠ .recordHeader t) :
    s.sink.accepted = base ++ codec.stream (units seen) ∨
      ((∃ t, s.stage = .recordWrite t) ∨ s.stopping = true ∧ s.stage ≠ .recordRead) ∧
        s.sink.accepted = base ++ codec.stream (units seen).dropLast := by
  cases stage : s.stage with
  | idle | check =>
    rw [stage] at recorded
    exact absurd begun recorded.1
  | announce t sequel =>
    rw [stage] at recorded
    cases sequel with
    | refuse | fail => exact absurd begun recorded.1
    | giveBack => exact recorded.elim
  | startCapture held =>
    rw [stage] at recorded
    cases held with
    | none => exact absurd begun recorded.1
    | some encoder => exact recorded.elim
  | recordHeader t => exact absurd stage (opened t)
  | recordRead =>
    rw [stage] at recorded
    exact .inl recorded.1
  | recordWrite t =>
    rw [stage] at recorded
    exact .inr ⟨.inl ⟨t, rfl⟩, recorded.1⟩
  | tearDown held result =>
    rw [stage] at recorded
    cases held with
    | none => exact (recorded.1 begun).imp_right fun ⟨told, front⟩ => ⟨.inr ⟨told, by simp⟩, front⟩
    | some encoder => exact recorded.elim
  | stopCapture | ended =>
    rw [stage] at recorded
    exact (recorded.1 begun).imp_right fun ⟨told, front⟩ => ⟨.inr ⟨told, by simp⟩, front⟩
  | openEncoder | configure | startEncoder | encoding =>
    rw [stage] at recorded
    exact recorded.elim

theorem closing_of_silence (recorded : s.stage.Recorded codec base seen s)
    (silence : s.calls.any isSilence = true) :
    s.sink.accepted = base ++ codec.stream (units seen) ∧
      (s.stage = .tearDown none (.error AudioSession.noSound) ∨
        s.stage = .stopCapture (.error AudioSession.noSound) ∨
        s.stage = .ended (.error AudioSession.noSound)) := by
  have loud : s.calls.any isSilence ≠ false := by simp [silence]
  cases stage : s.stage with
  | idle | check | recordHeader | recordRead | recordWrite =>
    rw [stage] at recorded
    exact absurd recorded.2 loud
  | announce t sequel =>
    rw [stage] at recorded
    cases sequel with
    | refuse | fail => exact absurd recorded.2 loud
    | giveBack => exact recorded.elim
  | startCapture held =>
    rw [stage] at recorded
    cases held with
    | none => exact absurd recorded.2 loud
    | some encoder => exact recorded.elim
  | tearDown held result =>
    rw [stage] at recorded
    cases held with
    | none =>
      obtain ⟨whole, rfl⟩ := recorded.2 silence
      exact ⟨whole, .inl rfl⟩
    | some encoder => exact recorded.elim
  | stopCapture result =>
    rw [stage] at recorded
    obtain ⟨whole, rfl⟩ := recorded.2 silence
    exact ⟨whole, .inr (.inl rfl)⟩
  | ended result =>
    rw [stage] at recorded
    obtain ⟨whole, rfl⟩ := recorded.2 silence
    exact ⟨whole, .inr (.inr rfl)⟩
  | openEncoder | configure | startEncoder | encoding =>
    rw [stage] at recorded
    exact recorded.elim

end AudioOutline

/-- Where nothing is taken from an encoder, what there is to be written is the sound as it is. -/
theorem units_of_packed {seen : List AudioEvent} (plain : seen.filterMap outputTaken? = []) :
    units seen = seen.filterMap packed? := by
  refine List.filterMap_congr fun event member => ?_
  cases event with
  | outputTaken =>
    exact absurd (List.filterMap_eq_nil_iff.mp plain _ member) (by simp [outputTaken?])
  | packed | checked | began | encodes | inputReady | inputTaken | outputReady => rfl

namespace AudioWorld

variable {σ γ : Type} [EncoderHost σ] [PcmSource γ]

/-- A sink that takes everything does so until the desktop goes away. -/
theorem open_of_run {w : AudioWorld σ γ} (opened : w.session.sink.Open)
    {moves : List (AudioMove σ γ)} (connected : ∀ e, .hangUp e ∉ moves) :
    (w.run moves).session.sink.Open := by
  induction moves generalizing w with
  | nil => exact opened
  | cons move moves ih =>
    refine ih ?_ fun e later => connected e (.tail _ later)
    cases move with
    | go pick =>
      cases stepped : w.session.step pick with
      | none => simpa [apply, stepped] using opened
      | some next =>
        have still : next.sink.Open := (AudioSession.step_outline stepped).opens opened
        simpa [apply, stepped] using still
    | start =>
      have same : w.session.start.sink = w.session.sink := by
        unfold AudioSession.start
        split <;> rfl
      exact same ▸ opened
    | stop | encoders | sound | input | output | fail | leave => exact opened
    | drain n => exact opened.drain n
    | hangUp e => exact absurd (.head _) (connected e)

/-- A session that records has written what its stage says, as long as the sink is open. -/
theorem whole_of_run {o : Options} (codecMeta : o.sendCodecMeta = true)
    (frameMeta : o.sendFrameMeta = true) {setup : AudioSetup} (plain : setup.encodes = false)
    (host : σ) (source : γ) {sink : Sink} (opened : sink.Open) {moves : List (AudioMove σ γ)}
    (connected : ∀ e, .hangUp e ∉ moves) :
    let w := run { session := o.audioSession setup host source sink } moves
    w.session.setup = setup ∧
      w.session.stage.Recorded setup.codec sink.accepted w.events w.session.outline := by
  intro w
  have start : AudioOutline.Streams setup.codec sink.accepted []
      (o.audioSession setup host source sink).outline :=
    streams_of_run codecMeta frameMeta setup host source sink []
  obtain ⟨same, -, recorded⟩ := run_invariant
    (w := { session := o.audioSession setup host source sink })
    (P := fun seen s => s.setup = setup ∧ AudioOutline.Streams setup.codec sink.accepted seen s ∧
      (s.sink.Open → s.stage.Recorded setup.codec sink.accepted seen s))
    ⟨rfl, start, fun _ => ⟨by simp, rfl⟩⟩
    (fun ⟨same, streams, recorded⟩ step => ⟨step.setup_eq.trans same, step.streams streams,
      fun after =>
        step.recorded (same ▸ plain) streams (step.open after) (recorded (step.open after))⟩)
    (fun ⟨same, streams, recorded⟩ around => ⟨around.setup_eq.trans same, around.streams streams,
      fun after => around.recorded (recorded (around.open after))⟩) moves
  have still : w.session.sink.Open :=
    open_of_run (w := { session := o.audioSession setup host source sink }) opened connected
  exact ⟨same, recorded still⟩

/-- However the source splits it, and whatever else happens, plain sound goes to a sink that takes
everything without loss, repetition or drift. The session makes the calls that it notes. -/
theorem recorded_of_run {o : Options} (codecMeta : o.sendCodecMeta = true)
    (frameMeta : o.sendFrameMeta = true) {setup : AudioSetup} (plain : setup.encodes = false)
    (host : σ) (source : γ) {sink : Sink} (opened : sink.Open) {moves : List (AudioMove σ γ)}
    (connected : ∀ e, .hangUp e ∉ moves) :
    let w := run { session := o.audioSession setup host source sink } moves
    let blocks := w.session.calls.filterMap block?
    (ReadBlocks blocks → .began (.ok ()) ∈ w.events →
      w.session.Recorded sink.accepted blocks) ∧ w.session.Faithful := by
  intro w blocks
  refine ⟨fun read begun => ?_, w.session.faithful⟩
  obtain ⟨same, recorded⟩ : w.session.setup = setup ∧
      w.session.outline.stage.Recorded setup.codec sink.accepted w.events w.session.outline :=
    whole_of_run codecMeta frameMeta plain host source opened connected
  have streams : AudioOutline.Streams setup.codec sink.accepted w.events w.session.outline :=
    streams_of_run codecMeta frameMeta setup host source sink moves
  have still : w.session.sink.Open :=
    open_of_run (w := { session := o.audioSession setup host source sink }) opened connected
  have records : (Handled.ofRun w.events w.session.calls).Records w.session.clock := by
    have orderly := orderly_of_run o setup host source sink moves
    rw [plain] at orderly
    exact orderly.records
  have all : units w.events = timed blocks :=
    (units_of_packed records.outputs).trans (records.clocked read.total).2
  refine ⟨fun {t} header => ?_, fun header => ?_,
    fun stage running pick => AudioSession.step_of_recordWrite stage still running pick,
    fun silent => ?_⟩
  · have stage : w.session.outline.stage = .recordHeader t := header
    unfold AudioOutline.Streams at streams
    rw [stage] at recorded streams
    exact ⟨recorded.1, List.mapIdx_eq_nil_iff.mp (all.symm.trans streams.1)⟩
  · have front := AudioOutline.front_of_recorded recorded begun header
    rw [all] at front
    rw [same]
    rcases front with whole | ⟨unfinished, front⟩
    · exact ⟨blocks, [], (List.append_nil _).symm, read.sound whole, by simp, .inl rfl⟩
    · rcases List.eq_nil_or_concat' blocks with none | ⟨done, last, split⟩
      · rw [none] at front read
        exact ⟨[], [], none, read.sound front, by simp, .inl rfl⟩
      · rw [split, timed_snoc, List.dropLast_concat] at front
        rw [split] at read
        exact ⟨done, [last], split, read.front.sound front, by simp, .inr unfinished⟩
  · obtain ⟨whole, closing⟩ := AudioOutline.closing_of_silence recorded silent
    rw [all] at whole
    rw [same]
    exact ⟨read.sound whole, rfl, fun pick responds =>
      AudioSession.result?_of_closing (s := w.session) closing responds pick⟩

/-- Two blocks, the first of which ends inside a sample, and then a read that brings nothing. -/
theorem recorded_of_run_silence :
    let o : Options := { socketDir := "", audioCodec := .raw }
    let host : ScriptedEncoders := { catalogue := [] }
    let source : ScriptedSource := { reads := [.block 193, .block 7, .block 0] }
    let moves : List (AudioMove ScriptedEncoders ScriptedSource) :=
      .start :: List.replicate 8 (.go 0)
    let w := run { session := o.audioSession o.audioSetup host source {} } moves
    ∃ written, w.session.sink.accepted = [] ++ written ∧
      (Playback.read? written).map (·.packets) = some
        [ ⟨false, false, 0, ScriptedSource.block 0 193⟩
        , ⟨false, false, 1000, ScriptedSource.block 1 7⟩ ] ∧
      (w.session.run 0).result? = some (.error AudioSession.noSound) := by
  intro o host source moves w
  have blocks : w.session.calls.filterMap block? =
      [ScriptedSource.block 0 193, ScriptedSource.block 1 7] := by decide +kernel
  have begun : .began (.ok ()) ∈ w.events := by decide +kernel
  have silent : w.session.calls.any isSilence = true := by decide +kernel
  have opened : Sink.Open {} := ⟨by simp, rfl, rfl⟩
  have recorded := @recorded_of_run ScriptedEncoders ScriptedSource _ _ o rfl rfl o.audioSetup rfl
    host source {} opened moves (by simp [moves])
  dsimp only at recorded
  dsimp only [w] at blocks begun silent
  rw [blocks] at recorded
  have read : ReadBlocks [ScriptedSource.block 0 193, ScriptedSource.block 1 7] :=
    ⟨by decide +kernel, by decide +kernel⟩
  obtain ⟨⟨accepted, played⟩, -, ends⟩ := (recorded.1 read begun).silence silent
  refine ⟨_, accepted, ?_, ends 0 rfl⟩
  rw [played]
  decide +kernel

end AudioWorld

end Screencast
