import Screencast.Proofs.Audio.Refinement
import Screencast.Proofs.Service

/-!
What an audio session notes of its calls is what it does. Every step asks the encoders and the
source for the calls it notes, in their order and for nothing else that is to be noted, and closes
the queues where it says so (`step_performs`).
-/

namespace Screencast

namespace AudioCall

def encoder? : AudioCall → Option EncoderCall
  | .encoder call => some call
  | .capture _ => none

def capture? : AudioCall → Option CaptureCall
  | .encoder _ => none
  | .capture call => some call

/-- There are new queues with every encoder. -/
def Opens : AudioCall → Prop
  | .encoder (.create _ (some _)) => True
  | _ => False

end AudioCall

namespace AudioSession

variable {σ γ : Type} [EncoderHost σ] [PcmSource γ] {s middle s' : AudioSession σ γ}
  {made more : List AudioCall}

/-- The calls that are noted were made. -/
structure Performs (s : AudioSession σ γ) (made : List AudioCall) (s' : AudioSession σ γ) :
    Prop where
  calls : s'.calls = s.calls ++ made
  encoders : Asked EncoderHost.Takes s.host (made.filterMap (·.encoder?)) s'.host
  sound : Asked PcmSource.Takes s.source (made.filterMap (·.capture?)) s'.source
  closes : ∀ encoder, .encoder (.closeQueues encoder) ∈ made → s'.listening = s.listening.close
  /-- Closed queues are not opened again. -/
  kept : s.listening.Closed → (∀ call ∈ made, ¬ call.Opens) → s'.listening.Closed

namespace Performs

theorem still (calls : s'.calls = s.calls) (host : s'.host = s.host) (source : s'.source = s.source)
    (kept : s.listening.Closed → s'.listening.Closed) : s.Performs [] s' where
  calls := by rw [calls, List.append_nil]
  encoders := by
    rw [host]
    exact .nil _
  sound := by
    rw [source]
    exact .nil _
  closes := by simp
  kept closed _ := kept closed

theorem nothing (s : AudioSession σ γ) : s.Performs [] s := .still rfl rfl rfl id

/-- A single call on an encoder, other than to close its queues. -/
theorem call {call : EncoderCall} (takes : EncoderHost.Takes s.host (some call) s'.host)
    (calls : s'.calls = s.calls ++ [.encoder call]) (source : s'.source = s.source)
    (bridge : s'.listening.bridge = s.listening.bridge)
    (other : ∀ encoder, call ≠ .closeQueues encoder) : s.Performs [.encoder call] s' where
  calls := calls
  encoders := .one takes
  sound := by
    rw [source]
    exact .nil _
  closes encoder member := by
    cases List.mem_singleton.mp member
    exact absurd rfl (other encoder)
  kept closed _ := by
    unfold Listening.Closed
    rw [bridge]
    exact closed

theorem capture {call : CaptureCall} (takes : PcmSource.Takes s.source (some call) s'.source)
    (calls : s'.calls = s.calls ++ [.capture call]) (host : s'.host = s.host)
    (listening : s'.listening = s.listening) : s.Performs [.capture call] s' where
  calls := calls
  encoders := by
    rw [host]
    exact .nil _
  sound := .one takes
  closes := by simp
  kept closed _ := by rwa [listening]

/-- One call after the other, as long as no queues are closed. -/
theorem trans (first : s.Performs made middle) (rest : middle.Performs more s')
    (unclosed : ∀ encoder, .encoder (.closeQueues encoder) ∉ made ++ more) :
    s.Performs (made ++ more) s' where
  calls := by rw [rest.calls, first.calls, List.append_assoc]
  encoders := by
    rw [List.filterMap_append]
    exact first.encoders.append rest.encoders
  sound := by
    rw [List.filterMap_append]
    exact first.sound.append rest.sound
  closes encoder member := absurd member (unclosed encoder)
  kept closed unopened := by
    rw [List.forall_mem_append] at unopened
    exact rest.kept (first.kept closed unopened.1) unopened.2

/-- Then a read is begun. -/
theorem beginRead {capacity : Nat} (before : s.Performs made middle)
    (calls : s'.calls = middle.calls) (host : s'.host = middle.host)
    (source : s'.source = PcmSource.beginRead middle.source capacity)
    (listening : s'.listening = middle.listening) : s.Performs made s' where
  calls := calls.trans before.calls
  encoders := by
    rw [host]
    exact before.encoders
  sound := by
    have begun := before.sound.append (.quiet (.beginRead capacity))
    rwa [List.append_nil, ← source] at begun
  closes encoder member := listening.trans (before.closes encoder member)
  kept closed unopened := by
    rw [listening]
    exact before.kept closed unopened

theorem disable (before : s.Performs made s') (isError : Bool) (sequel : Sequel) :
    s.Performs made (s'.disable isError sequel) := by
  obtain ⟨framer, next, disabled, -⟩ := s'.disable_eq isError sequel
  rw [disabled]
  exact ⟨before.calls, before.encoders, before.sound, before.closes, before.kept⟩

theorem follow (before : s.Performs made s') (sequel : Sequel) (told : Except Error Unit) :
    s.Performs made (s'.follow sequel told) := by
  obtain ⟨next, follows, -⟩ := s'.follow_eq sequel told
  rw [follows]
  exact ⟨before.calls, before.encoders, before.sound, before.closes, before.kept⟩

theorem beginRecordWrite (before : s.Performs made s') (data : Bytes) :
    s.Performs made (s'.beginRecordWrite data) := by
  obtain ⟨framer, next, begun, -⟩ := s'.beginRecordWrite_eq data
  rw [begun]
  exact ⟨before.calls, before.encoders, before.sound, before.closes, before.kept⟩

end Performs

/-! ### Beginning and end -/

theorem check_performs (s : AudioSession σ γ) : s.Performs [] s.check := by
  unfold check
  rcases answered : PcmSource.check s.source with ⟨source, answer⟩
  have checks (stage : AudioStage) : s.Performs [] { s with source, stage } :=
    ⟨(List.append_nil _).symm, .nil _, .quiet (.check answered), by simp, fun closed _ => closed⟩
  rcases answer with e | _
  · exact (checks s.stage).disable ..
  · exact checks _

theorem announce_performs {t : Transfer} {sequel : Sequel} (h : s.announce? t sequel = some s') :
    s.Performs [] s' := by
  unfold announce? at h
  split at h <;> cases h
  · exact .still rfl rfl rfl id
  · refine Performs.follow ?_ ..
    exact .still rfl rfl rfl id

theorem openEncoder_performs (s : AudioSession σ γ) : ∃ made, s.Performs made s.openEncoder := by
  have settled := openEncoder_settled s.host s.setup.codec.mime s.setup.encoderName
  unfold openEncoder
  dsimp only
  generalize Screencast.openEncoder s.host s.setup.codec.mime s.setup.encoderName = c at settled
  cases settled with
  | refused result calls final asked =>
    rw [result]
    dsimp only
    rcases calls with none | ⟨name, one⟩
    · rw [none] at asked ⊢
      refine ⟨[], Performs.disable ?_ ..⟩
      exact ⟨rfl, asked, .nil _, by simp, fun closed _ => closed⟩
    · rw [one] at asked ⊢
      refine ⟨[.encoder (.create name .none)], Performs.disable ?_ ..⟩
      exact ⟨rfl, asked, .nil _, by simp, fun closed _ => closed⟩
  | made result calls asked =>
    rw [result, calls]
    rw [calls] at asked
    refine ⟨_, rfl, asked, .nil _, by simp, fun _ unopened => ?_⟩
    exact (unopened _ List.mem_cons_self trivial).elim

theorem configure_performs (s : AudioSession σ γ) (encoder : Nat) :
    s.Performs [.encoder (.configure encoder s.format)] (s.configure encoder) := by
  unfold configure
  dsimp only
  split
  · exact .call (.configure ‹_›) rfl rfl rfl (by simp)
  · refine Performs.disable ?_ ..
    exact .call (.configure ‹_›) rfl rfl rfl (by simp)

theorem startCapture_performs (s : AudioSession σ γ) (encoder : Option Nat) :
    s.Performs [.capture .start] (s.startCapture encoder) := by
  unfold startCapture
  dsimp only
  split
  · exact .capture (.start ‹_›) rfl rfl rfl
  · have started (framer : Framer) :
        s.Performs [.capture .start] { s.record [.capture .start] with source := ‹γ›, framer } :=
      .capture (.start ‹_›) rfl rfl rfl
    split
    · exact (started _).beginRead rfl rfl rfl rfl
    · exact .capture (.start ‹_›) rfl rfl rfl
  all_goals
    refine Performs.disable ?_ ..
    exact .capture (.start ‹_›) rfl rfl rfl

theorem startEncoder_performs (s : AudioSession σ γ) (encoder : Nat) :
    s.Performs [.encoder (.start encoder)] (s.startEncoder encoder) := by
  unfold startEncoder
  dsimp only
  split
  · refine Performs.disable ?_ ..
    exact .call (.start ‹_›) rfl rfl rfl (by simp)
  · split <;> exact .call (.start ‹_›) rfl rfl rfl (by simp)

theorem tearDown_performs (s : AudioSession σ γ) (encoder : Option Nat)
    (result : Except Error Unit) : ∃ made, s.Performs made (s.tearDown encoder result) := by
  cases encoder with
  | none => exact ⟨[], .still rfl rfl rfl id⟩
  | some encoder =>
    exact ⟨_, rfl, .noted (.closeQueues _) (.noted (.stop _) (.one (.release _))), .nil _,
      fun _ _ => rfl, fun _ _ => s.listening.closed_close⟩

theorem stopCapture_performs {result : Except Error Unit} (h : s.stopCapture? result = some s') :
    s.Performs [.capture .stop] s' := by
  unfold stopCapture? at h
  split at h <;> cases h
  exact .capture .stop rfl rfl rfl

/-! ### Recording -/

theorem recordHeader_performs {t : Transfer} (h : s.recordHeader? t = some s') :
    s.Performs [] s' := by
  unfold recordHeader? at h
  split at h <;> cases h
  · exact .still rfl rfl rfl id
  · exact (Performs.nothing s).beginRead rfl rfl rfl rfl
  · exact .still rfl rfl rfl id

theorem writeBranch_performs {t : Transfer} (h : s.writeBranch t = some s') :
    s.Performs [] s' := by
  unfold writeBranch at h
  split at h <;> cases h
  · exact .still rfl rfl rfl id
  · exact (Performs.nothing s).beginRead rfl rfl rfl rfl
  · exact .still rfl rfl rfl id

theorem readBranch_performs (h : s.readBranch = some s') : ∃ made, s.Performs made s' := by
  obtain ⟨⟨source, result⟩, answered, rfl⟩ := Option.map_eq_some_iff.mp h
  have reads (stage : AudioStage) : s.Performs [.capture (.read packetSize result)]
      { s.record [.capture (.read packetSize result)] with source, stage } :=
    .capture (.read answered) rfl rfl rfl
  rcases result with e | _ | ⟨byte, data⟩
  · exact ⟨_, reads _⟩
  · exact ⟨_, reads _⟩
  · exact ⟨_, (reads s.stage).beginRecordWrite _⟩

theorem stopBranch_performs (h : s.stopBranch = some s') : s.Performs [] s' := by
  unfold stopBranch at h
  split at h <;> cases h
  exact .still rfl rfl rfl id

/-! ### Encoding -/

section

variable {encoder : Nat} {input : InputStage} {output : OutputStage} {buffer : OutputBuffer}

theorem beginFill_performs (s : AudioSession σ γ) (encoder index : Nat) (output : OutputStage) :
    s.Performs [] (s.beginFill encoder index output) := by
  unfold beginFill
  split
  · exact .still rfl rfl rfl id
  · exact (Performs.nothing s).beginRead rfl rfl rfl rfl

theorem queue_performs (s : AudioSession σ γ) (encoder index : Nat) (data : Bytes)
    (output : OutputStage) :
    s.Performs [.encoder (.submitInput encoder index ⟨data, s.clock.pts, .none⟩)]
      (s.queue encoder index data output) := by
  unfold queue
  dsimp only
  split <;> exact .call (.submitInput ‹_›) rfl rfl rfl (by simp)

theorem inputBranch_performs (h : s.inputBranch encoder input output = some s') :
    ∃ made, s.Performs made s' := by
  cases input with
  | idle =>
    have left (closed : s.listening.Closed) : s.listening.takeInput.1.Closed := closed.takeInput
    simp only [inputBranch] at h
    split at h <;> rename_i taken <;> cases h <;> rw [taken] at left
    · exact ⟨[], .still rfl rfl rfl left⟩
    · have takes (listening : Listening) (stays : s.listening.Closed → listening.Closed) :
          s.Performs [] { s with listening } := .still rfl rfl rfl stays
      exact ⟨[], (takes _ left).trans (beginFill_performs ..) (by simp)⟩
  | reading index capacity =>
    obtain ⟨⟨source, result⟩, answered, rfl⟩ := Option.map_eq_some_iff.mp h
    have reads (stage : AudioStage) : s.Performs [.capture (.read capacity result)]
        { s.record [.capture (.read capacity result)] with source, stage } :=
      .capture (.read answered) rfl rfl rfl
    rcases result with e | _ | ⟨byte, data⟩
    · exact ⟨_, reads _⟩
    · exact ⟨_, reads _⟩
    · exact ⟨_, (reads s.stage).trans (queue_performs ..) (by simp)⟩

theorem giveBack_performs (s : AudioSession σ γ) (encoder : Nat) (input : InputStage)
    (buffer : OutputBuffer) (written : Except Error Unit) :
    s.Performs [.encoder (.returnOutput encoder buffer.index)]
      (s.giveBack encoder input buffer written) := by
  unfold giveBack
  dsimp only
  split
  · exact .call (.returnOutput ‹_›) rfl rfl rfl (by simp)
  · exact .call (.returnOutput ‹_›) rfl rfl rfl (by simp)
  · split <;> exact .call (.returnOutput ‹_›) rfl rfl rfl (by simp)

/-- The buffer is given back unless more of it is to be written. -/
theorem writeBuffer_performs {t : Transfer}
    (h : s.writeBuffer? encoder input buffer t = some s') :
    s.Performs [] s' ∨ s.Performs [.encoder (.returnOutput encoder buffer.index)] s' := by
  unfold writeBuffer? at h
  split at h <;> cases h
  · exact .inl (.still rfl rfl rfl id)
  · have writes (sink : Sink) : s.Performs [] { s with sink } := .still rfl rfl rfl id
    exact .inr ((writes _).trans (giveBack_performs ..) (by simp))

theorem deliver_performs (h : s.deliver encoder input buffer = some s') :
    s.Performs [.encoder (.readOutput encoder buffer.index)] s' ∨
      s.Performs [.encoder (.readOutput encoder buffer.index),
        .encoder (.returnOutput encoder buffer.index)] s' := by
  have reads (framer : Framer) : s.Performs [.encoder (.readOutput encoder buffer.index)]
      { s.record [.encoder (.readOutput encoder buffer.index)] with framer } :=
    .call (.readOutput ..) rfl rfl rfl (by simp)
  have returns (framer : Framer) (written : Except Error Unit) :
      s.Performs [.encoder (.readOutput encoder buffer.index),
          .encoder (.returnOutput encoder buffer.index)]
        (giveBack { s.record [.encoder (.readOutput encoder buffer.index)] with framer } encoder
          input buffer written) :=
    (reads framer).trans (giveBack_performs ..) (by simp)
  unfold deliver at h
  dsimp only at h
  split at h
  · cases h
    exact .inr (returns s.framer _)
  · split at h
    · cases h
      exact .inr (returns s.framer _)
    · split at h
      · cases h
        exact .inr (returns s.framer _)
      · cases h
        exact .inr (returns _ _)
      · exact (writeBuffer_performs h).imp (fun waits => (reads _).trans waits (by simp))
          fun done => (reads _).trans done (by simp)

theorem outputBranch_performs (h : s.outputBranch encoder input output = some s') :
    ∃ made, s.Performs made s' := by
  cases output with
  | header t =>
    simp only [outputBranch] at h
    split at h <;> cases h <;> exact ⟨[], .still rfl rfl rfl id⟩
  | idle =>
    have left (closed : s.listening.Closed) : s.listening.takeOutput.1.Closed := closed.takeOutput
    simp only [outputBranch] at h
    split at h <;> rename_i taken <;> rw [taken] at left
    · cases h
    · cases h
      exact ⟨[], .still rfl rfl rfl left⟩
    · have takes (listening : Listening) (stays : s.listening.Closed → listening.Closed) :
          s.Performs [] { s with listening } := .still rfl rfl rfl stays
      rcases deliver_performs h with waits | done
      · exact ⟨_, (takes _ left).trans waits (by simp)⟩
      · exact ⟨_, (takes _ left).trans done (by simp)⟩
  | writing buffer t =>
    rcases writeBuffer_performs h with waits | done
    · exact ⟨_, waits⟩
    · exact ⟨_, done⟩

end

/-- Every step makes the calls that it notes. -/
theorem step_performs {pick : Nat} (h : s.step pick = some s') : ∃ made, s.Performs made s' := by
  cases advance_of_step h with
  | check => exact ⟨_, s.check_performs⟩
  | announce stage told => exact ⟨_, announce_performs told⟩
  | openEncoder => exact s.openEncoder_performs
  | configure => exact ⟨_, s.configure_performs _⟩
  | startCapture => exact ⟨_, s.startCapture_performs _⟩
  | startEncoder => exact ⟨_, s.startEncoder_performs _⟩
  | finish | fail => exact ⟨[], .still rfl rfl rfl id⟩
  | input stage ready => exact inputBranch_performs ready
  | output stage ready => exact outputBranch_performs ready
  | recordHeader stage written => exact ⟨_, recordHeader_performs written⟩
  | stopRecording stage stopped => exact ⟨_, stopBranch_performs stopped⟩
  | recordRead stage read => exact readBranch_performs read
  | recordWrite stage written => exact ⟨_, writeBranch_performs written⟩
  | tearDown => exact s.tearDown_performs _ _
  | stopCapture stage stopped => exact ⟨_, stopCapture_performs stopped⟩

/-- Whatever comes next, the session makes the calls that it notes. -/
def Faithful (s : AudioSession σ γ) : Prop :=
  ∀ pick next, s.step pick = some next → ∃ made, s.Performs made next

theorem faithful (s : AudioSession σ γ) : s.Faithful := fun _ _ => step_performs

end AudioSession

end Screencast
