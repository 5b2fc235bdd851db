import Screencast.Capture.Scripted
import Screencast.Encoder.Scripted
import Screencast.Proofs.Audio.Waiting
import Screencast.Proofs.Video.Waiting

/-!
The tasks that write the streams of a session, told to stop while they have to wait. Whatever the
desktop does, they have ended after the next poll, unless it keeps them in one of the few writes
that do not hear the stop signal (`ended_by_stop`); there the desktop can hold them
(`held_past_stop`).
-/

namespace Screencast

variable {σ γ : Type} [EncoderHost σ] [PcmSource γ]

/-- A task that has to wait ends without an error when it is polled after it was told to stop, as
soon as its source of sound, if it has one, is stopped. The exceptions are the start of the source
and writes on a full sink: of the mark that there will be no stream, and of the header of plain
sound. -/
theorem ended_by_stop :
    (∀ (s : VideoSession σ) (d : Device) (pick : Nat), s.underWay = true → s.step pick d = none →
      (s.hears = true → ∀ pick, (s.stop.run pick d).1.stage = .ended (.ok ())) ∧
      (s.hears = false → s.sink.Full ∧ ∀ pick, s.stop.run pick d = (s.stop, d))) ∧
    ∀ (s : AudioSession σ γ) (pick : Nat), s.underWay = true → s.step pick = none →
      (s.hears = true → ∀ pick, (s.stop.run pick).stage =
        if PcmSource.responds s.source then .ended (.ok ()) else .stopCapture (.ok ())) ∧
      (s.hears = false → (s.sink.Full ∨ PcmSource.responds s.source = false) ∧
        ∀ pick, s.stop.run pick = s.stop) := by
  constructor
  · intro s d pick going stuck
    have waits := VideoSession.waits_of_step going stuck
    exact ⟨waits.stage_of_stop, waits.run_of_stop⟩
  · intro s pick going stuck
    have waits := AudioSession.waits_of_step going stuck
    exact ⟨waits.stage_of_stop, waits.run_of_stop⟩

/-- A desktop that takes three bytes of a header, of four or of eight, does not hold an encoder. -/
theorem ended_by_stop_in_header :
    let o : Options := { socketDir := "" }
    let host : ScriptedEncoders := { catalogue := [("opus", "audio/opus")] }
    let source : ScriptedSource := {}
    let s := (o.audioSession o.audioSetup host source { limit := some 3 }).start.run 0
    s.underWay = true ∧ s.step 0 = none ∧ s.hears = true ∧
      ∀ pick, (s.stop.run pick).stage = .ended (.ok ()) := by
  intro o host source s
  have going : s.underWay = true := by decide +kernel
  have stuck : s.step 0 = none := Option.isNone_iff_eq_none.mp (by decide +kernel)
  have hears : s.hears = true := by decide +kernel
  have ends := (@ended_by_stop ScriptedEncoders ScriptedSource _ _).2 s 0 going stuck
  exact ⟨going, stuck, hears, ends.1 hears⟩

/-- A desktop that takes three bytes of the header of plain sound, and no more, holds the session
past its stop. One that takes nothing holds a video session that has found no encoder. -/
theorem held_past_stop :
    (let o : Options := { socketDir := "", audioCodec := .raw }
    let host : ScriptedEncoders := { catalogue := [] }
    let source : ScriptedSource := {}
    let s := (o.audioSession o.audioSetup host source { limit := some 3 }).start.run 0
    s.underWay = true ∧ s.step 0 = none ∧ s.sink.accepted = [0, 0x72, 0x61] ∧
      ∀ pick, (s.stop.run pick).result? = none) ∧
    (let o : Options := { socketDir := "" }
    let host : ScriptedEncoders := { catalogue := [] }
    let d := Device.unused { naturalSize := ⟨1080, 1920⟩ }
    let s := ((d.encodeScreen host o.videoSetup true true { limit := some 0 }).start.run 0 d).1
    s.underWay = true ∧ s.step 0 d = none ∧ ∀ pick, (s.stop.run pick d).1.result? = none) := by
  constructor
  · intro o host source s
    have going : s.underWay = true := by decide +kernel
    have stuck : s.step 0 = none := Option.isNone_iff_eq_none.mp (by decide +kernel)
    have deaf : s.hears = false := by decide +kernel
    have stays := ((AudioSession.waits_of_step going stuck).run_of_stop deaf).2
    refine ⟨going, stuck, by decide +kernel, fun pick => ?_⟩
    rw [stays pick]
    exact Option.isNone_iff_eq_none.mp (by decide +kernel)
  · intro o host d s
    have going : s.underWay = true := by decide +kernel
    have stuck : s.step 0 d = none := Option.isNone_iff_eq_none.mp (by decide +kernel)
    have deaf : s.hears = false := by decide +kernel
    have stays := ((VideoSession.waits_of_step going stuck).run_of_stop deaf).2
    refine ⟨going, stuck, fun pick => ?_⟩
    rw [stays pick]
    exact Option.isNone_iff_eq_none.mp (by decide +kernel)

end Screencast
