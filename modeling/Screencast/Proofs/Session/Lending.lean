import Screencast.Capture.Scripted
import Screencast.Encoder.Scripted
import Screencast.Proofs.Audio.Returning
import Screencast.Proofs.Video.Returning

/-!
Where the output buffers of the encoders are: each goes back to its encoder once and before the next
one is taken, and not more is written of it than was announced and than there is (`lent_of_run`).
Only the last one may be left behind, by what ends the session while it is written.
-/

namespace Screencast

open Lending (Behind Ledger)

/-- Whatever the encoders and the desktop do, all buffers but the last have gone back to them. That
one is at hand, or it was left behind in the middle of its writing: for the stop signal, and where
sound is encoded also for a failure of the encoder or for the end of the input side. The sessions
make the calls that they note. -/
theorem lent_of_run (o : Options) :
    (∀ {σ : Type} [EncoderHost σ] (d : Device) (host : σ) (setup : VideoSetup) (sink : Sink)
        (moves : List (VideoMove σ)),
      let world : VideoWorld σ :=
        ⟨d.encodeScreen host setup o.sendCodecMeta o.sendFrameMeta sink, d⟩
      let s := (world.run moves).session
      Ledger s.stage.loan? s.sink.accepted (world.lendings moves) ∧
        s.calls.filterMap (·.returned?) = (world.lendings moves).filterMap (·.returned?) ∧
        s.Faithful (world.run moves).device ∧
        ∀ pick after left, s.step pick (world.run moves).device = some after →
          .abandoned left ∈ s.lendings after.1 →
          s.stopping = true ∧ ∃ a, after.1.stage = .tearDown a (.ok .stopped)) ∧
    ∀ {σ γ : Type} [EncoderHost σ] [PcmSource γ] (setup : AudioSetup) (host : σ) (source : γ)
        (sink : Sink) (moves : List (AudioMove σ γ)),
      let world : AudioWorld σ γ := { session := o.audioSession setup host source sink }
      let s := (world.run moves).session
      Ledger s.stage.loan? s.sink.accepted (world.lendings moves) ∧
        s.calls.filterMap (·.returned?) = (world.lendings moves).filterMap (·.returned?) ∧
        s.Faithful ∧
        ∀ pick next left, s.step pick = some next → .abandoned left ∈ s.lendings next →
          ∃ encoder input output t, s.stage = .encoding encoder input (.writing output t) ∧
            (∃ result, next.stage = .tearDown (some encoder) result) ∧
            (s.stopping = true ∨ (∃ e, s.listening.failure? = some e) ∨
              s.inputBranch encoder input (.writing output t) = some next) := by
  constructor
  · intro σ _ d host setup sink moves world s
    have begun : world.session.Lends [] := ⟨[], Behind.start, .free rfl⟩
    obtain ⟨last, behind, lends⟩ := VideoWorld.lends_of_run begun moves
    refine ⟨⟨last, behind, lends.pending⟩, ?_, VideoSession.faithful _ _, ?_⟩
    · exact VideoWorld.returned_of_lendings world moves
    · intro pick after left stepped gone
      exact VideoSession.stopping_of_abandoned stepped gone
  · intro σ γ _ _ setup host source sink moves world s
    have begun : world.session.outline.Lends [] := ⟨[], Behind.start, .free rfl⟩
    obtain ⟨last, behind, lends⟩ := AudioWorld.lends_of_run begun moves
    refine ⟨⟨last, behind, lends.pending⟩, ?_, s.faithful, ?_⟩
    · exact AudioWorld.returned_of_lendings world moves
    · intro pick next left stepped gone
      exact AudioSession.ended_of_abandoned stepped gone

/-- The first buffer holds a byte more than was announced. The desktop takes its packet whole, and
three bytes of the next one, which the stop signal leaves behind. -/
theorem lent_of_run_stopped :
    let o : Options := { socketDir := "" }
    let host : ScriptedEncoders :=
      { catalogue := [("opus", "audio/opus")], buffers := [⟨1, 0, [1, 2, 9]⟩, ⟨1, 1, [3]⟩] }
    let source : ScriptedSource := {}
    let moves : List (AudioMove ScriptedEncoders ScriptedSource) :=
      .start :: List.replicate 5 (.go 0) ++
        [.output 1 ⟨0, ⟨0, 2, .config⟩⟩, .output 1 ⟨1, ⟨9, 1, .none⟩⟩] ++
        List.replicate 3 (.go 3) ++ [.stop] ++ List.replicate 5 (.go 0)
    let world : AudioWorld ScriptedEncoders ScriptedSource :=
      { session := o.audioSession o.audioSetup host source { limit := some 25 } }
    let s := (world.run moves).session
    s.result? = some (.ok ()) ∧ Ledger none s.sink.accepted (world.lendings moves) ∧
      (world.lendings moves).getLast? = some (.abandoned s.sink.accepted) ∧
      s.calls.filterMap (·.returned?) = [(1, 0)] := by
  intro o host source moves world s
  have ended : s.result? = some (.ok ()) := by decide +kernel
  have free : s.stage.loan? = none := by decide +kernel
  have last : (world.lendings moves).getLast? = some (.abandoned s.sink.accepted) := by
    decide +kernel
  have given : (world.lendings moves).filterMap (·.returned?) = [(1, 0)] := by decide +kernel
  have lent := (lent_of_run o).2 o.audioSetup host source { limit := some 25 } moves
  dsimp only at lent
  dsimp only [s, world] at free last given ⊢
  rw [free, given] at lent
  obtain ⟨ledger, called, -⟩ := lent
  exact ⟨ended, ledger, last, called⟩

end Screencast
