import Screencast.Audio.Encoding
import Screencast.Audio.Recording

/-!
Running an audio session.
-/

namespace Screencast.AudioSession

variable {σ γ : Type} [EncoderHost σ] [PcmSource γ]

/-- One step, or nothing as long as the session has to wait. When more than one thing can happen,
`pick` decides. -/
def step (pick : Nat) (s : AudioSession σ γ) : Option (AudioSession σ γ) :=
  match s.stage with
  | .idle | .ended _ => none
  | .check => some s.check
  | .announce t sequel => s.announce? t sequel
  | .openEncoder => some s.openEncoder
  | .configure encoder => some (s.configure encoder)
  | .startCapture encoder => s.startCapture? encoder
  | .startEncoder encoder => some (s.startEncoder encoder)
  | .encoding encoder input output => s.encode pick encoder input output
  | .recordHeader t => s.recordHeader? t
  | .recordRead => firstReady pick [s.stopBranch, s.readBranch]
  | .recordWrite t => firstReady pick [s.stopBranch, s.writeBranch t]
  | .tearDown encoder result => some (s.tearDown encoder result)
  | .stopCapture result => s.stopCapture? result

/-- Goes on until it has to wait or ends. -/
def run (pick : Nat) (s : AudioSession σ γ) : AudioSession σ γ := settle (step pick) patience s

end Screencast.AudioSession
