import Screencast.Proofs.Audio.Refinement

/-!
Runs of an audio session among everything that can happen around it. Between two of its steps it
may be told to stop, the encoders and the source may change in any way and report what they like,
and the desktop may make room or go away. What every step and every such change preserves holds
after any run (`run_invariant`).
-/

namespace Screencast

/-- An audio session, and what has happened to it. -/
structure AudioWorld (σ γ : Type) where
  session : AudioSession σ γ
  events : List AudioEvent := []

/-- What may happen next. -/
inductive AudioMove (σ γ : Type) where
  /-- The session takes a step, unless it has to wait. -/
  | go (pick : Nat)
  | start
  | stop
  /-- The encoders go on by themselves. -/
  | encoders (host : σ)
  /-- The source goes on by itself. -/
  | sound (source : γ)
  /-- An encoder announces a free buffer. -/
  | input (encoder index : Nat)
  /-- An encoder announces a filled buffer. -/
  | output (encoder : Nat) (o : OutputBuffer)
  | fail (encoder : Nat) (e : EncoderError)
  /-- An encoder will not report any more. -/
  | leave (encoder : Nat)
  /-- The desktop makes room for so many bytes. -/
  | drain (n : Nat)
  /-- The desktop is gone. -/
  | hangUp (e : IoError)

/-- An announcement counts once the queue has taken it; until then the encoder waits. -/
def Pushed.noted (pushed : Pushed) (event : AudioEvent) : List AudioEvent :=
  if pushed = .accepted then [event] else []

/-- What may happen around the outline of a session, with the events in it. -/
inductive AudioOutline.Around (s : AudioOutline) : List AudioEvent → AudioOutline → Prop
  | still : Around s [] s
  | start (stage : s.stage = .idle) : Around s [] { s with stage := .check }
  | stop : Around s [] { s with stopping := true }
  | input {encoder index : Nat} {listening : Listening}
      (announced : s.listening.input encoder index = (listening, .accepted)) :
      Around s [.inputReady index] { s with listening }
  | output {encoder : Nat} {o : OutputBuffer} {listening : Listening}
      (announced : s.listening.output encoder o = (listening, .accepted)) :
      Around s [.outputReady o] { s with listening }
  | fail (encoder : Nat) (e : EncoderError) :
      Around s [] { s with listening := s.listening.error encoder e }
  | leave (encoder : Nat) : Around s [] { s with listening := s.listening.leave encoder }
  | drain (n : Nat) : Around s [] { s with sink := s.sink.drain n }
  | hangUp (e : IoError) : Around s [] { s with sink := s.sink.breakWith e }

theorem AudioOutline.Around.setup_eq {s s' : AudioOutline} {events : List AudioEvent}
    (around : Around s events s') : s'.setup = s.setup := by
  cases around <;> rfl

namespace AudioWorld

variable {σ γ : Type} [EncoderHost σ] [PcmSource γ]

def apply (w : AudioWorld σ γ) : AudioMove σ γ → AudioWorld σ γ
  | .go pick =>
    match w.session.step pick with
    | some next => ⟨next, w.events ++ w.session.learned next⟩
    | none => w
  | .start => { w with session := w.session.start }
  | .stop => { w with session := w.session.stop }
  | .encoders host => { w with session.host := host }
  | .sound source => { w with session.source := source }
  | .input encoder index =>
    let (listening, pushed) := w.session.listening.input encoder index
    { session := { w.session with listening }
      events := w.events ++ pushed.noted (.inputReady index) }
  | .output encoder o =>
    let (listening, pushed) := w.session.listening.output encoder o
    { session := { w.session with listening }, events := w.events ++ pushed.noted (.outputReady o) }
  | .fail encoder e => { w with session.listening := w.session.listening.error encoder e }
  | .leave encoder => { w with session.listening := w.session.listening.leave encoder }
  | .drain n => { w with session.sink := w.session.sink.drain n }
  | .hangUp e => { w with session.sink := w.session.sink.breakWith e }

def run (w : AudioWorld σ γ) (moves : List (AudioMove σ γ)) : AudioWorld σ γ := moves.foldl apply w

variable {w : AudioWorld σ γ}

/-- What happens next is a step of the outline, or something around it. -/
theorem apply_outline (w : AudioWorld σ γ) (move : AudioMove σ γ) :
    ∃ events, (w.apply move).events = w.events ++ events ∧
      (AudioOutline.Step w.session.outline events (w.apply move).session.outline ∨
        AudioOutline.Around w.session.outline events (w.apply move).session.outline) := by
  cases move with
  | go pick =>
    cases stepped : w.session.step pick with
    | none => exact ⟨[], by simp [apply, stepped], .inr (by simpa [apply, stepped] using .still)⟩
    | some next =>
      exact ⟨w.session.learned next, by simp [apply, stepped],
        .inl (by simpa [apply, stepped] using AudioSession.step_outline stepped)⟩
  | start =>
    refine ⟨[], (List.append_nil _).symm, .inr ?_⟩
    change AudioOutline.Around w.session.outline [] w.session.start.outline
    unfold AudioSession.start
    split
    · rename_i idle
      exact .start idle
    · exact .still
  | stop => exact ⟨[], (List.append_nil _).symm, .inr .stop⟩
  | encoders host | sound source => exact ⟨[], (List.append_nil _).symm, .inr .still⟩
  | input encoder index =>
    rcases announced : w.session.listening.input encoder index with ⟨listening, pushed⟩
    refine ⟨pushed.noted (.inputReady index), by simp [apply, announced], .inr ?_⟩
    simp only [apply, announced]
    by_cases accepted : pushed = .accepted
    · rw [Pushed.noted, if_pos accepted]
      exact .input (accepted ▸ announced)
    · rw [Pushed.noted, if_neg accepted, Listening.input_other announced accepted]
      exact .still
  | output encoder o =>
    rcases announced : w.session.listening.output encoder o with ⟨listening, pushed⟩
    refine ⟨pushed.noted (.outputReady o), by simp [apply, announced], .inr ?_⟩
    simp only [apply, announced]
    by_cases accepted : pushed = .accepted
    · rw [Pushed.noted, if_pos accepted]
      exact .output (accepted ▸ announced)
    · rw [Pushed.noted, if_neg accepted, Listening.output_other announced accepted]
      exact .still
  | fail encoder e => exact ⟨[], (List.append_nil _).symm, .inr (.fail encoder e)⟩
  | leave encoder => exact ⟨[], (List.append_nil _).symm, .inr (.leave encoder)⟩
  | drain n => exact ⟨[], (List.append_nil _).symm, .inr (.drain n)⟩
  | hangUp e => exact ⟨[], (List.append_nil _).symm, .inr (.hangUp e)⟩

variable {P : List AudioEvent → AudioOutline → Prop}

/-- What holds at the start and is kept by every step and by every change around, holds after any
run. It may speak of what has happened on the way. -/
theorem run_invariant (start : P w.events w.session.outline)
    (step : ∀ {seen s events s'}, P seen s → AudioOutline.Step s events s' → P (seen ++ events) s')
    (around : ∀ {seen s events s'}, P seen s → AudioOutline.Around s events s' →
      P (seen ++ events) s') (moves : List (AudioMove σ γ)) :
    P (w.run moves).events (w.run moves).session.outline := by
  induction moves generalizing w with
  | nil => exact start
  | cons move moves ih =>
    refine ih ?_
    obtain ⟨events, noted, steps | changes⟩ := w.apply_outline move <;> rw [noted]
    · exact step start steps
    · exact around start changes

end AudioWorld

end Screencast
