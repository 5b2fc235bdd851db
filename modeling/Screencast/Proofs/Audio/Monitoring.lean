import Screencast.Proofs.Audio.Run
import Screencast.Proofs.Audio.Service

/-!
Audio sessions whose encoders and source keep the calls they receive. In any run these are the calls
that the session notes, and the queues are closed from when it says so until there are new ones
(`received_of_run`).
-/

namespace Screencast

/-- A move around such a session. Nobody else makes calls on its encoders and its source. -/
def AudioMove.monitored {σ γ : Type}
    (w : AudioWorld (Monitored σ EncoderCall) (Monitored γ CaptureCall)) :
    AudioMove σ γ → AudioMove (Monitored σ EncoderCall) (Monitored γ CaptureCall)
  | .go pick => .go pick
  | .start => .start
  | .stop => .stop
  | .encoders inner => .encoders { w.session.host with inner }
  | .sound inner => .sound { w.session.source with inner }
  | .input encoder index => .input encoder index
  | .output encoder o => .output encoder o
  | .fail encoder e => .fail encoder e
  | .leave encoder => .leave encoder
  | .drain n => .drain n
  | .hangUp e => .hangUp e

namespace AudioWorld

variable {σ γ : Type} [EncoderHost σ] [PcmSource γ]

def monitored (w : AudioWorld (Monitored σ EncoderCall) (Monitored γ CaptureCall)) :
    List (AudioMove σ γ) → List (AudioMove (Monitored σ EncoderCall) (Monitored γ CaptureCall))
  | [] => []
  | move :: moves => move.monitored w :: (w.apply (move.monitored w)).monitored moves

/-- The calls that a session has noted are those that have reached its encoders, its source and its
queues. -/
structure Received (w : AudioWorld (Monitored σ EncoderCall) (Monitored γ CaptureCall)) :
    Prop where
  encoders : w.session.host.received =
    (w.session.calls.filterMap (·.encoder?)).filter EncoderCall.isHeard
  sound : w.session.source.received = w.session.calls.filterMap (·.capture?)
  /-- Closed queues stay closed until there is a new encoder. -/
  queues : ∀ encoder before after,
    w.session.calls = before ++ .encoder (.closeQueues encoder) :: after →
      (∀ call ∈ after, ¬ call.Opens) → w.session.listening.Closed

variable {w : AudioWorld (Monitored σ EncoderCall) (Monitored γ CaptureCall)}

theorem Received.go {next : AudioSession (Monitored σ EncoderCall) (Monitored γ CaptureCall)}
    {events : List AudioEvent} {pick : Nat} (received : w.Received)
    (stepped : w.session.step pick = some next) : Received ⟨next, events⟩ := by
  obtain ⟨made, performs⟩ := AudioSession.step_performs stepped
  refine ⟨?_, ?_, ?_⟩
  · rw [performs.encoders.encoder_received, received.encoders, performs.calls,
      List.filterMap_append, List.filter_append]
  · rw [performs.sound.sound_received, received.sound, performs.calls, List.filterMap_append]
  · intro encoder before later split unopened
    rw [performs.calls] at split
    refine since_append (received.queues encoder) (fun closes => ?_) performs.kept split unopened
    rw [performs.closes encoder closes]
    exact Listening.closed_close _

omit [EncoderHost σ] [PcmSource γ] in
/-- What an encoder reports does not open the queues. -/
theorem Received.report {listening : Listening} {events : List AudioEvent} (received : w.Received)
    (kept : w.session.listening.Closed → listening.Closed) :
    Received { session := { w.session with listening }, events } where
  encoders := received.encoders
  sound := received.sound
  queues encoder before after split unopened :=
    kept (received.queues encoder before after split unopened)

theorem Received.apply (received : w.Received) (move : AudioMove σ γ) :
    (w.apply (move.monitored w)).Received := by
  cases move with
  | go pick =>
    simp only [AudioMove.monitored, AudioWorld.apply]
    split
    · rename_i next stepped
      exact received.go stepped
    · exact received
  | start =>
    change Received { w with session := w.session.start }
    unfold AudioSession.start
    split <;> exact ⟨received.encoders, received.sound, received.queues⟩
  | input encoder index => exact received.report fun closed => closed.input encoder index
  | output encoder o => exact received.report fun closed => closed.output encoder o
  | fail encoder e => exact received.report fun closed => closed.error encoder e
  | leave encoder => exact received.report fun closed => closed.leave encoder
  | stop | encoders | sound | drain | hangUp =>
    exact ⟨received.encoders, received.sound, received.queues⟩

theorem received_of_run (received : w.Received) (moves : List (AudioMove σ γ)) :
    (w.run (w.monitored moves)).Received := by
  induction moves generalizing w with
  | nil => exact received
  | cons move moves ih => exact ih (received.apply move)

end AudioWorld

end Screencast
