import Screencast.Audio.Session
import Screencast.Proofs.Scheduling
import Screencast.Proofs.Stream.Transfer

/-!
What an audio session waits for (`Waits`), with an encoder or without. Next to a read and next to a
packet it hears the stop signal, and has ended as soon as its source is stopped (`stage_of_stop`).
Where it tells the desktop that there will be no sound, where it writes the header of plain sound,
and while its source starts or stops, it does not hear it (`run_of_stop`).
-/

namespace Screencast

namespace AudioSession

variable {σ γ : Type} {s : AudioSession σ γ}

theorem stop_stopBranch (s : AudioSession σ γ) :
    s.stop.stopBranch = some { s.stop with stage := .tearDown none (.ok ()) } := rfl

theorem announce?_eq_none {t : Transfer} {sequel : Sequel} :
    s.announce? t sequel = none ↔ (s.sink.transfer t).2 = .waits := by
  unfold announce?
  split <;> rename_i written <;> simp [written]

section

variable [EncoderHost σ] {encoder : Nat} {input : InputStage} {output : OutputStage}

theorem writeBuffer?_eq_none {buffer : OutputBuffer} {t : Transfer} :
    s.writeBuffer? encoder input buffer t = none ↔ (s.sink.transfer t).2 = .waits := by
  unfold writeBuffer?
  split <;> rename_i written <;> simp [written]

/-- A write that has just begun does not wait yet. -/
theorem deliver_ne_none (s : AudioSession σ γ) (buffer : OutputBuffer) :
    s.deliver encoder input buffer ≠ none := by
  unfold deliver
  dsimp only
  split
  · simp
  · split
    · simp
    · split
      · simp
      · simp
      · intro waits
        have stalled := (Sink.transfer_waits (writeBuffer?_eq_none.mp waits)).1
        cases stalled

/-- The output side waits for a buffer, or for the sink. -/
def OutputWaits (s : AudioSession σ γ) : OutputStage → Prop
  | .idle => s.listening.takeOutput.2 = .empty
  | .header t | .writing _ t => (s.sink.transfer t).2 = .waits

theorem outputBranch_eq_none :
    s.outputBranch encoder input output = none ↔ s.OutputWaits output := by
  cases output with
  | header t =>
    unfold outputBranch OutputWaits
    dsimp only
    split <;> rename_i written <;> simp [written]
  | idle =>
    unfold outputBranch OutputWaits
    dsimp only
    split <;> rename_i taken <;> simp [taken, deliver_ne_none]
  | writing buffer t => exact writeBuffer?_eq_none

end

variable [PcmSource γ]

/-- The input side waits for a buffer, or for sound to fill it. -/
def InputWaits (s : AudioSession σ γ) : InputStage → Prop
  | .idle => s.listening.takeInput.2 = .empty
  | .reading _ capacity => PcmSource.answer? s.source capacity = none

/-- What a session waits for. -/
inductive Waits (s : AudioSession σ γ) : Prop
  | mark {t : Transfer} {sequel : Sequel} (stage : s.stage = .announce t sequel)
      (waits : (s.sink.transfer t).2 = .waits)
  | encoding {encoder : Nat} {input : InputStage} {output : OutputStage}
      (stage : s.stage = .encoding encoder input output) (sound : s.listening.failure? = none)
      (inputs : s.InputWaits input) (outputs : s.OutputWaits output)
  | startCapture {encoder : Option Nat} (stage : s.stage = .startCapture encoder)
      (busy : PcmSource.responds s.source = false)
  | stopCapture {result : Except Error Unit} (stage : s.stage = .stopCapture result)
      (busy : PcmSource.responds s.source = false)
  | recordHeader {t : Transfer} (stage : s.stage = .recordHeader t)
      (waits : (s.sink.transfer t).2 = .waits)
  | recordRead (stage : s.stage = .recordRead)
      (silent : PcmSource.answer? s.source packetSize = none)
  | recordWrite {t : Transfer} (stage : s.stage = .recordWrite t)
      (waits : (s.sink.transfer t).2 = .waits)

theorem recordHeader?_eq_none {t : Transfer} :
    s.recordHeader? t = none ↔ (s.sink.transfer t).2 = .waits := by
  unfold recordHeader?
  split <;> rename_i written <;> simp [written]

theorem startCapture?_eq_none {encoder : Option Nat} :
    s.startCapture? encoder = none ↔ PcmSource.responds s.source = false := by
  simp [startCapture?]

theorem stopCapture?_eq_none {result : Except Error Unit} :
    s.stopCapture? result = none ↔ PcmSource.responds s.source = false := by
  simp [stopCapture?]

theorem readBranch_eq_none :
    s.readBranch = none ↔ PcmSource.answer? s.source packetSize = none := by
  rw [readBranch, Option.map_eq_none_iff]

theorem writeBranch_eq_none {t : Transfer} :
    s.writeBranch t = none ↔ (s.sink.transfer t).2 = .waits := by
  unfold writeBranch
  split <;> rename_i written <;> simp [written]

variable [EncoderHost σ] {encoder : Nat} {input : InputStage} {output : OutputStage}

theorem inputBranch_eq_none :
    s.inputBranch encoder input output = none ↔ s.InputWaits input := by
  cases input with
  | idle =>
    unfold inputBranch InputWaits
    dsimp only
    split <;> rename_i taken <;> simp [taken]
  | reading index capacity => rw [inputBranch, Option.map_eq_none_iff, InputWaits]

/-- The session has been started, and has not ended. -/
def underWay (s : AudioSession σ γ) : Bool :=
  match s.stage with
  | .idle | .ended _ => false
  | _ => true

theorem waits_of_step {pick : Nat} (going : s.underWay = true) (waits : s.step pick = none) :
    s.Waits := by
  unfold step at waits
  cases stage : s.stage with
  | idle | ended result => simp [underWay, stage] at going
  | announce t sequel =>
    simp only [stage] at waits
    exact .mark stage (announce?_eq_none.mp waits)
  | encoding encoder input output =>
    simp only [stage] at waits
    have unready := firstReady_eq_none_iff.mp waits
    have failed := unready (s.listening.failure?.map fun e => s.finish encoder (.error e)) (by simp)
    have inputs := unready (s.inputBranch encoder input output) (by simp)
    have outputs := unready (s.outputBranch encoder input output) (by simp)
    exact .encoding stage (Option.map_eq_none_iff.mp failed) (inputBranch_eq_none.mp inputs)
      (outputBranch_eq_none.mp outputs)
  | startCapture encoder =>
    simp only [stage] at waits
    exact .startCapture stage (startCapture?_eq_none.mp waits)
  | stopCapture result =>
    simp only [stage] at waits
    exact .stopCapture stage (stopCapture?_eq_none.mp waits)
  | recordHeader t =>
    simp only [stage] at waits
    exact .recordHeader stage (recordHeader?_eq_none.mp waits)
  | recordRead =>
    simp only [stage] at waits
    exact .recordRead stage (readBranch_eq_none.mp (firstReady_eq_none waits).2)
  | recordWrite t =>
    simp only [stage] at waits
    exact .recordWrite stage (writeBranch_eq_none.mp (firstReady_eq_none waits).2)
  | check | openEncoder | configure | startEncoder | tearDown =>
    simp [stage] at waits

/-! ### The stop signal -/

/-- The encoder is given back, then the source, which may take its time, and that is all. -/
theorem stage_of_tearDown {pick : Nat} {held : Option Nat} {result : Except Error Unit}
    (stage : s.stage = .tearDown held result) (fuel : Nat) :
    (settle (step pick) (fuel + 2) s).stage =
      if PcmSource.responds s.source then .ended result else .stopCapture result := by
  obtain ⟨after, torn, stopping, source⟩ : ∃ after, s.tearDown held result = after ∧
      after.stage = .stopCapture result ∧ after.source = s.source := by
    cases held <;> exact ⟨_, rfl, rfl, rfl⟩
  have givesBack : s.step pick = some after := by simp only [step, stage, torn]
  rw [settle_of_step givesBack]
  cases responds : PcmSource.responds s.source with
  | true =>
    have stops : after.step pick = some { after.record [.capture .stop] with
        source := PcmSource.stop after.source, stage := .ended result } := by
      simp only [step, stopping, stopCapture?, source, responds, if_true]
    rw [settle_of_step stops, settle_of_waits rfl]
    simp
  | false =>
    have waits : after.step pick = none := by
      simp only [step, stopping]
      exact stopCapture?_eq_none.mpr (source.symm ▸ responds)
    rw [settle_of_waits waits, stopping]
    simp

/-- The session is not where it tells the desktop that there will be no sound, where it writes the
header of plain sound, or where its source starts or stops. -/
def hears (s : AudioSession σ γ) : Bool :=
  match s.stage with
  | .announce _ _ | .recordHeader _ | .startCapture _ | .stopCapture _ => false
  | _ => true

/-- A session that has to wait, and hears the stop signal, is ready to give back what it holds, and
ready for nothing else. -/
theorem Waits.step_stop (waits : s.Waits) (hears : s.hears = true) :
    ∃ held, ∀ pick, s.stop.step pick =
      some { s.stop with stage := .tearDown held (.ok ()) } := by
  cases waits with
  | mark stage | recordHeader stage | startCapture stage | stopCapture stage =>
    simp [AudioSession.hears, stage] at hears
  | @encoding encoder input output stage sound inputs outputs =>
    refine ⟨some encoder, fun pick => ?_⟩
    have encodes : s.stop.stage = .encoding encoder input output := stage
    have stopping : s.stop.stopping = true := rfl
    have failed : s.stop.listening.failure? = none := sound
    have noInput : s.stop.inputBranch encoder input output = none :=
      inputBranch_eq_none.mpr inputs
    have noOutput : s.stop.outputBranch encoder input output = none :=
      outputBranch_eq_none.mpr outputs
    simp only [step, encodes, encode, stopping, if_true, failed, Option.map_none, noInput, noOutput]
    exact firstReady_of_only (by simp)
  | recordRead stage silent =>
    refine ⟨none, fun pick => ?_⟩
    have reads : s.stop.stage = .recordRead := stage
    have noSound : s.stop.readBranch = none := readBranch_eq_none.mpr silent
    simp only [step, reads, stop_stopBranch, noSound]
    exact firstReady_of_only (by simp)
  | @recordWrite t stage waits =>
    refine ⟨none, fun pick => ?_⟩
    have writes : s.stop.stage = .recordWrite t := stage
    have full : s.stop.writeBranch t = none := writeBranch_eq_none.mpr waits
    simp only [step, writes, stop_stopBranch, full]
    exact firstReady_of_only (by simp)

theorem Waits.stage_of_stop (waits : s.Waits) (hears : s.hears = true) (pick : Nat) :
    (s.stop.run pick).stage =
      if PcmSource.responds s.source then .ended (.ok ()) else .stopCapture (.ok ()) := by
  obtain ⟨held, stops⟩ := waits.step_stop hears
  have enough : patience = 0xfffffffd + 3 := rfl
  rw [run, enough, settle_of_step (stops pick)]
  exact stage_of_tearDown rfl _

/-- Where a session does not hear the stop signal it goes on to wait, for its sink or its source. -/
theorem Waits.run_of_stop (waits : s.Waits) (deaf : s.hears = false) :
    (s.sink.Full ∨ PcmSource.responds s.source = false) ∧ ∀ pick, s.stop.run pick = s.stop := by
  cases waits with
  | encoding stage | recordRead stage | recordWrite stage => simp [hears, stage] at deaf
  | @startCapture encoder stage busy =>
    refine ⟨.inr busy, fun pick => settle_of_waits ?_ patience⟩
    have starts : s.stop.stage = .startCapture encoder := stage
    have waiting : s.stop.startCapture? encoder = none := startCapture?_eq_none.mpr busy
    simp only [step, starts, waiting]
  | @stopCapture result stage busy =>
    refine ⟨.inr busy, fun pick => settle_of_waits ?_ patience⟩
    have stops : s.stop.stage = .stopCapture result := stage
    have waiting : s.stop.stopCapture? result = none := stopCapture?_eq_none.mpr busy
    simp only [step, stops, waiting]
  | @mark t sequel stage waits =>
    refine ⟨.inl (Sink.transfer_waits waits).2, fun pick => settle_of_waits ?_ patience⟩
    have marks : s.stop.stage = .announce t sequel := stage
    have full : s.stop.announce? t sequel = none := announce?_eq_none.mpr waits
    simp only [step, marks, full]
  | @recordHeader t stage waits =>
    refine ⟨.inl (Sink.transfer_waits waits).2, fun pick => settle_of_waits ?_ patience⟩
    have writes : s.stop.stage = .recordHeader t := stage
    have full : s.stop.recordHeader? t = none := recordHeader?_eq_none.mpr waits
    simp only [step, writes, full]

end AudioSession

end Screencast
