import Screencast.Proofs.Scheduling
import Screencast.Proofs.Stream.Transfer
import Screencast.Video.Session

/-!
What a video session waits for (`Waits`). Wherever it waits but in its last write, the stop signal
ends it (`stage_of_stop`); there it does not hear the signal (`run_of_stop`).
-/

namespace Screencast

namespace VideoSession

variable {σ : Type}

/-- What a session waits for. -/
inductive Waits (s : VideoSession σ) (d : Device) : Prop
  /-- For a buffer, a failure or a rotation. -/
  | output {a : Attempt} (stage : s.stage = .await a) (sound : s.listening.failure? = none)
      (seen : s.seen = d.rotationVersion) (empty : s.listening.takeOutput.2 = .empty)
  | header {a : Attempt} {output : OutputBuffer} {data : Bytes} {t : Transfer}
      (stage : s.stage = .sendHeader a output data t) (waits : (s.sink.transfer t).2 = .waits)
  | packet {a : Attempt} {output : OutputBuffer} {t : Transfer}
      (stage : s.stage = .sendPacket a output t) (waits : (s.sink.transfer t).2 = .waits)
  | mark {e : Error} {t : Transfer} (stage : s.stage = .announce e t)
      (waits : (s.sink.transfer t).2 = .waits)

variable {s : VideoSession σ} {d : Device} {a : Attempt}

theorem stop_stopBranch (s : VideoSession σ) (a : Attempt) :
    s.stop.stopBranch a = some { s.stop with stage := .tearDown a (.ok .stopped) } := rfl

theorem rotationBranch_eq_none : s.rotationBranch d a = none ↔ s.seen = d.rotationVersion := by
  unfold rotationBranch
  split
  · rename_i seen
    simp [seen]
  · rename_i unseen
    simp [unseen]

theorem outputBranch_eq_none : s.outputBranch a = none ↔ s.listening.takeOutput.2 = .empty := by
  unfold outputBranch
  split <;> rename_i taken <;> simp [taken]

theorem sendHeader?_eq_none {output : OutputBuffer} {data : Bytes} {t : Transfer} :
    s.sendHeader? a output data t = none ↔ (s.sink.transfer t).2 = .waits := by
  unfold sendHeader?
  split <;> rename_i written <;> simp [written]

theorem sendPacket?_eq_none {output : OutputBuffer} {t : Transfer} :
    s.sendPacket? a output t = none ↔ (s.sink.transfer t).2 = .waits := by
  unfold sendPacket?
  split <;> rename_i written <;> simp [written]

theorem announce?_eq_none {e : Error} {t : Transfer} :
    s.announce? e t = none ↔ (s.sink.transfer t).2 = .waits := by
  unfold announce?
  split <;> rename_i written <;> simp [written]

/-- The session is not where it tells the desktop that there will be no video. -/
def hears (s : VideoSession σ) : Bool :=
  match s.stage with
  | .announce _ _ => false
  | _ => true

/-- The session has been started, and has not ended. -/
def underWay (s : VideoSession σ) : Bool :=
  match s.stage with
  | .idle | .ended _ => false
  | _ => true

variable [EncoderHost σ]

theorem waits_of_step {pick : Nat} (going : s.underWay = true) (waits : s.step pick d = none) :
    s.Waits d := by
  unfold step at waits
  cases stage : s.stage with
  | idle | ended result => simp [underWay, stage] at going
  | await a =>
    simp only [stage, Option.map_eq_none_iff] at waits
    have unready := firstReady_eq_none_iff.mp waits
    have failed := unready (s.failureBranch a) (by simp)
    have turned := unready (s.rotationBranch d a) (by simp)
    have output := unready (s.outputBranch a) (by simp)
    exact .output stage (Option.map_eq_none_iff.mp failed) (rotationBranch_eq_none.mp turned)
      (outputBranch_eq_none.mp output)
  | deliver a output =>
    simp only [stage, Option.map_eq_none_iff] at waits
    exact absurd (firstReady_eq_none waits).2 (by simp)
  | sendHeader a output data t =>
    simp only [stage, Option.map_eq_none_iff] at waits
    exact .header stage (sendHeader?_eq_none.mp (firstReady_eq_none waits).2)
  | sendPacket a output t =>
    simp only [stage, Option.map_eq_none_iff] at waits
    exact .packet stage (sendPacket?_eq_none.mp (firstReady_eq_none waits).2)
  | announce e t =>
    simp only [stage, Option.map_eq_none_iff] at waits
    exact .mark stage (announce?_eq_none.mp waits)
  | observe | measure | openEncoder | createDisplay | configure | createSurface | project | bind
  | startEncoder | giveBack | tearDown | conclude => simp [stage] at waits

/-! ### The stop signal -/

/-- A step of a session together with its device. -/
def next? (pick : Nat) (w : VideoSession σ × Device) : Option (VideoSession σ × Device) :=
  w.1.step pick w.2

theorem run_eq (pick : Nat) (s : VideoSession σ) (d : Device) :
    s.run pick d = settle (next? pick) patience (s, d) := rfl

/-- At the end of an attempt that was stopped, encoder and display are given back, and that is
all. -/
theorem stage_of_tearDown {pick : Nat} (stage : s.stage = .tearDown a (.ok .stopped))
    (fuel : Nat) : (settle (next? pick) (fuel + 2) (s, d)).1.stage = .ended (.ok ()) := by
  obtain ⟨after, left, torn, concluding⟩ : ∃ after left,
      s.tearDown d a (.ok .stopped) = (after, left) ∧
        after.stage = .conclude a.size (.ok .stopped) := ⟨_, _, rfl, rfl⟩
  have givesBack : next? pick (s, d) = some (after, left) := by
    simp only [next?, step, stage, torn]
  have concludes : next? pick (after, left) =
      some ({ after with stage := .ended (.ok ()) }, left) := by
    simp only [next?, step, concluding, conclude, exit]
  rw [settle_of_step givesBack, settle_of_step concludes, settle_of_waits rfl]

/-- A session that has to wait, and hears the stop signal, is ready to give up its attempt, and
ready for nothing else. -/
theorem Waits.step_stop (waits : s.Waits d) (hears : s.hears = true) :
    ∃ a, ∀ pick, s.stop.step pick d =
      some ({ s.stop with stage := .tearDown a (.ok .stopped) }, d) := by
  cases waits with
  | @output a stage sound seen empty =>
    refine ⟨a, fun pick => ?_⟩
    have awaits : s.stop.stage = .await a := stage
    have failed : s.stop.failureBranch a = none := Option.map_eq_none_iff.mpr sound
    have turned : s.stop.rotationBranch d a = none := rotationBranch_eq_none.mpr seen
    have output : s.stop.outputBranch a = none := outputBranch_eq_none.mpr empty
    simp only [step, awaits, await, stop_stopBranch, failed, turned, output]
    rw [firstReady_of_only (by simp), Option.map_some]
  | @header a output data t stage waits =>
    refine ⟨a, fun pick => ?_⟩
    have sends : s.stop.stage = .sendHeader a output data t := stage
    have stalled := (Sink.transfer_waits waits).1
    have full : s.stop.sendHeader? a output data t = none := sendHeader?_eq_none.mpr waits
    simp only [step, sends, stalled, if_true, stop_stopBranch, full]
    rw [firstReady_of_only (by simp), Option.map_some]
  | @packet a output t stage waits =>
    refine ⟨a, fun pick => ?_⟩
    have sends : s.stop.stage = .sendPacket a output t := stage
    have stalled := (Sink.transfer_waits waits).1
    have full : s.stop.sendPacket? a output t = none := sendPacket?_eq_none.mpr waits
    simp only [step, sends, stalled, if_true, stop_stopBranch, full]
    rw [firstReady_of_only (by simp), Option.map_some]
  | mark stage => simp [VideoSession.hears, stage] at hears

theorem Waits.stage_of_stop (waits : s.Waits d) (hears : s.hears = true) (pick : Nat) :
    (s.stop.run pick d).1.stage = .ended (.ok ()) := by
  obtain ⟨a, stops⟩ := waits.step_stop hears
  have enough : patience = 0xfffffffd + 3 := rfl
  have gives : next? pick (s.stop, d) =
      some ({ s.stop with stage := .tearDown a (.ok .stopped) }, d) := stops pick
  rw [run_eq, enough, settle_of_step gives]
  exact stage_of_tearDown rfl _

/-- In the middle of its last write a session goes on to wait for its sink. -/
theorem Waits.run_of_stop (waits : s.Waits d) (deaf : s.hears = false) :
    s.sink.Full ∧ ∀ pick, s.stop.run pick d = (s.stop, d) := by
  cases waits with
  | output stage | header stage | packet stage => simp [hears, stage] at deaf
  | @mark e t stage waits =>
    refine ⟨(Sink.transfer_waits waits).2, fun pick => ?_⟩
    have marks : s.stop.stage = .announce e t := stage
    have full : s.stop.announce? e t = none := announce?_eq_none.mpr waits
    have stuck : next? pick (s.stop, d) = none := by
      simp only [next?, step, marks, full, Option.map_none]
    rw [run_eq, settle_of_waits stuck]

end VideoSession

end Screencast
