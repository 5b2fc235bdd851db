import Screencast.Capture.Synthetic
import Screencast.Config.Settings
import Screencast.Encoder.Synthetic
import Screencast.Session.Basic

/-!
A server for a device that has no screen, encoders or microphone of its own: all of them are
synthetic, and time passes in turns.
-/

namespace Screencast

abbrev SyntheticSession := Session SyntheticEncoders SyntheticSource

def Settings.session (s : Settings) : Except Error SyntheticSession := do
  let options ← s.options
  return {
    options
    device := .unused { naturalSize := ⟨s.device.width, s.device.height⟩ }
    videoHost := {}
    audioHost := {}
    source := {} }

namespace SyntheticSession

/-- The encoder of the moment makes one report. -/
def turnVideo (v : VideoSession SyntheticEncoders) : VideoSession SyntheticEncoders :=
  match v.listening.reporter.bind (v.host.report? v.listening) with
  | some (host, listening) => { v with host, listening }
  | none => v

/-- The encoder of the moment reports until it has to wait, and ten milliseconds of sound pass. -/
def turnAudio (a : AudioSession SyntheticEncoders SyntheticSource) :
    AudioSession SyntheticEncoders SyntheticSource :=
  let (host, listening) := settle (fun (host, listening) =>
    listening.reporter.bind (host.report? listening)) patience (a.host, a.listening)
  { a with host, listening, source := a.source.tick }

/-- One turn of time, and what follows from it. -/
def turn (s : SyntheticSession) : SyntheticSession :=
  Session.run 0 { s with video := s.video.map turnVideo, audio := s.audio.map turnAudio }

/-- Lets time pass, no more than so many turns, until something is the case or the session ends. -/
def turnUntil (p : SyntheticSession → Bool) : Nat → SyntheticSession → SyntheticSession
  | 0, s => s
  | n + 1, s => if p s || s.result?.isSome then s else turnUntil p n s.turn

/-- The desktop waits for so many bytes on each channel. Every turn adds to the streams that run,
after a few in which they begin. -/
def awaitBytes (s : SyntheticSession) (counts : PerChannel Nat) : SyntheticSession :=
  s.turnUntil
    (fun s => ChannelKind.all.all fun kind => counts.get kind ≤ (s.received kind).length)
    (counts.video + counts.audio + counts.control + 8)

/-- The desktop waits for the end of the session. -/
def awaitEnd (s : SyntheticSession) : SyntheticSession := s.turnUntil (fun _ => false) 8

/-- The desktop connects channels, one after the other as far as it can, and sends something on the
control channel. -/
def welcome (s : SyntheticSession) (kinds : List ChannelKind) (control : Bytes) :
    SyntheticSession :=
  let connected := kinds.foldl (fun s kind => Session.run 0 ((s.connect? kind).getD s))
    (Session.run 0 s)
  Session.run 0 ((connected.send? .control control).getD connected)

/-- The desktop closes channels and waits for the end. -/
def farewell (s : SyntheticSession) (kinds : List ChannelKind) : SyntheticSession :=
  awaitEnd (Session.run 0 (kinds.foldl Session.disconnect s))

end SyntheticSession

end Screencast
