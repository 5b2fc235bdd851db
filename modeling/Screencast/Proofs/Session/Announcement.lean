import Screencast.Proofs.Audio.Announcement
import Screencast.Proofs.Video.Announcement

/-!
What the desktop knows of a stream that failed. On a sink that takes everything, with codec meta, a
task that fails has written a header, which begins the stream, or a marker that there will be none
(`announced_of_run`). There is one exception. The header of encoded sound is written by one of two
sides that go on together, and the encoding ends with the first of them, or with a failure of the
encoder; so an error that comes first leaves nothing behind (`unannounced_of_race`).
-/

namespace Screencast

open AudioEvent (isRefusal)
open Framer (fresh)

/-- Whatever has failed and in whichever order the branches are tried, a task has announced its
stream, unless the desktop itself is gone; or an error of the encoding came before the header. -/
theorem announced_of_run {o : Options} (codecMeta : o.sendCodecMeta = true) {sink : Sink}
    (opened : sink.Open) :
    (∀ {σ : Type} [EncoderHost σ] (d : Device) (host : σ) (setup : VideoSetup)
        (moves : List (VideoMove σ)) (e : Error),
      let world : VideoWorld σ :=
        ⟨d.encodeScreen host setup o.sendCodecMeta o.sendFrameMeta sink, d⟩
      (∀ e, .hangUp e ∉ moves) → (world.run moves).session.result? = some (.error e) →
        e.isDisconnect = false →
        (fresh (.video setup.codec) o.sendFrameMeta).Announced setup.codec.Opens false
          sink.accepted (world.run moves).session.sink.accepted) ∧
    ∀ {σ γ : Type} [EncoderHost σ] [PcmSource γ] (setup : AudioSetup) (host : σ) (source : γ)
        (moves : List (AudioMove σ γ)) (e : Error),
      let world : AudioWorld σ γ := { session := o.audioSession setup host source sink }
      (∀ e, .hangUp e ∉ moves) → (world.run moves).session.result? = some (.error e) →
        if setup.encodes && world.overtaken moves then
          (world.run moves).session.sink.accepted = sink.accepted
        else
          (fresh (.audio setup.codec) o.sendFrameMeta).Announced (· = setup.codec.header)
            ((world.run moves).events.any isRefusal) sink.accepted
            (world.run moves).session.sink.accepted := by
  constructor
  · intro σ _ d host setup moves e world connected failed present
    dsimp only [world] at failed ⊢
    rw [codecMeta] at failed ⊢
    exact d.told_of_run host setup o.sendFrameMeta opened connected present failed
  · intro σ γ _ _ setup host source moves e world connected failed
    exact AudioWorld.leaves_of_run codecMeta setup host source opened connected failed

/-- Sound that cannot be captured here is told as a stream that is switched off, and a display that
cannot be created as an error. -/
theorem announced_of_run_refused :
    let o : Options := { socketDir := "" }
    let host : ScriptedEncoders := { catalogue := [("avc", "video/avc")] }
    let source : ScriptedSource := { checkOutcomes := [some (.unsupported "audio capture")] }
    let device : Device := .unused
      { naturalSize := ⟨1080, 1920⟩, script := { createDisplay := [some .channelClosed] } }
    let sounds : List (AudioMove ScriptedEncoders ScriptedSource) := [.start, .go 0, .go 0]
    let pictures : List (VideoMove ScriptedEncoders) := .start :: List.replicate 6 (.go 0)
    let audio : AudioWorld ScriptedEncoders ScriptedSource :=
      { session := o.audioSession o.audioSetup host source {} }
    let video : VideoWorld ScriptedEncoders :=
      ⟨device.encodeScreen host o.videoSetup o.sendCodecMeta o.sendFrameMeta {}, device⟩
    (audio.run sounds).session.result? = some (.error (.unsupported "audio capture")) ∧
      (audio.run sounds).session.sink.accepted = [0, 0, 0, 0] ∧
      (video.run pictures).session.result? = some (.error .channelClosed) ∧
      (fresh (.video .h264) true).Announced VideoCodec.h264.Opens false []
        (video.run pictures).session.sink.accepted := by
  intro o host source device sounds pictures audio video
  have unheard : (audio.run sounds).session.result? =
      some (.error (.unsupported "audio capture")) := by decide +kernel
  have unseen : (video.run pictures).session.result? = some (.error .channelClosed) := by
    decide +kernel
  have opened : Sink.Open {} := ⟨by simp, rfl, rfl⟩
  obtain ⟨shown, sounded⟩ := announced_of_run (o := o) rfl opened
  have told := sounded o.audioSetup host source sounds (.unsupported "audio capture")
    (by simp [sounds]) unheard
  refine ⟨unheard, ?_, unseen, shown device host o.videoSetup pictures .channelClosed
    (by simp [pictures]) unseen rfl⟩
  have intime : audio.overtaken sounds = false := by decide +kernel
  have refused : (audio.run sounds).events.any isRefusal = true := by decide +kernel
  dsimp only [audio] at intime refused told
  rw [intime, Bool.and_false, if_neg (by simp), refused] at told
  cases told with
  | headed able => cases able
  | marked mark => exact mark

/-- An encoder fails as soon as it was started, and that is looked at before the output side is. -/
theorem unannounced_of_race :
    let o : Options := { socketDir := "" }
    let host : ScriptedEncoders := { catalogue := [("opus", "audio/opus")] }
    let source : ScriptedSource := {}
    let moves : List (AudioMove ScriptedEncoders ScriptedSource) :=
      .start :: List.replicate 5 (.go 0) ++ [.fail 1 (.io ⟨.other, some "lost"⟩)] ++
        List.replicate 3 (.go 0)
    let world : AudioWorld ScriptedEncoders ScriptedSource :=
      { session := o.audioSession o.audioSetup host source {} }
    (world.run moves).session.result? = some (.error (.codec (.io ⟨.other, some "lost"⟩))) ∧
      (world.run moves).session.sink.accepted = [] ∧
      ¬(fresh (.audio .opus) true).Announced (· = AudioCodec.opus.header)
        ((world.run moves).events.any isRefusal) [] (world.run moves).session.sink.accepted := by
  intro o host source moves world
  have nothing : (world.run moves).session.sink.accepted = [] := by decide +kernel
  refine ⟨by decide +kernel, nothing, fun announced => ?_⟩
  rw [nothing] at announced
  cases announced with
  | headed able headed =>
    obtain ⟨header, packets, rfl, -, none⟩ := headed
    cases none
  | marked mark =>
    cases refused : (world.run moves).events.any isRefusal <;> rw [refused] at mark <;> cases mark

end Screencast
