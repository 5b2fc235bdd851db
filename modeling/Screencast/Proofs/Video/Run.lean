import Screencast.Proofs.Video.Refinement

/-!
Runs of a video session among everything that can happen around it. Between two of its steps it may
be told to stop, the encoders and the platform may change in any way, the desktop may make room or
go away, and the device may turn; nobody else changes the maximum of the video. What every step and
every such change preserves holds after any run (`run_invariant`).
-/

namespace Screencast

/-- A video session, and the device that it shows. -/
structure VideoWorld (σ : Type) where
  session : VideoSession σ
  device : Device

/-- What may happen next. -/
inductive VideoMove (σ : Type) where
  /-- The session takes a step, unless it has to wait. -/
  | go (pick : Nat)
  | start
  | stop
  /-- The encoders go on by themselves. -/
  | encoders (host : σ)
  /-- Buffers and errors are reported, or encoders leave. -/
  | report (listening : Listening)
  /-- The desktop makes room for so many bytes. -/
  | drain (n : Nat)
  /-- The desktop is gone. -/
  | hangUp (e : IoError)
  /-- The first half of a change of rotation. -/
  | turn (rotation : Nat)
  /-- The second half of a change of rotation. -/
  | publish (rotation : Nat)
  /-- Whatever else happens on the platform, future failures of its calls included. -/
  | platform (p : Platform)

/-- What may happen around the outline of a session. -/
inductive VideoOutline.Around (s : VideoOutline) (g : DeviceGeometry) :
    VideoOutline → DeviceGeometry → Prop
  | still : Around s g s g
  | start (stage : s.stage = .idle) : Around s g { s with stage := .observe } g
  | drain (n : Nat) : Around s g { s with sink := s.sink.drain n } g
  | hangUp (e : IoError) : Around s g { s with sink := s.sink.breakWith e } g
  | turn (rotation : Nat) : Around s g s (g.turn rotation)

namespace VideoWorld

variable {σ : Type} [EncoderHost σ]

/-- The world after a step of the session, if it does not have to wait. -/
def next? (w : VideoWorld σ) (pick : Nat) : Option (VideoWorld σ) :=
  (w.session.step pick w.device).map fun (session, device) => ⟨session, device⟩

def apply (w : VideoWorld σ) : VideoMove σ → VideoWorld σ
  | .go pick => (w.next? pick).getD w
  | .start => { w with session := w.session.start }
  | .stop => { w with session := w.session.stop }
  | .encoders host => { w with session.host := host }
  | .report listening => { w with session.listening := listening }
  | .drain n => { w with session.sink := w.session.sink.drain n }
  | .hangUp e => { w with session.sink := w.session.sink.breakWith e }
  | .turn rotation => { w with device := w.device.turnGeometry rotation }
  | .publish rotation => { w with device := w.device.publishRotation rotation }
  | .platform p => { w with device.platform := p }

def run (w : VideoWorld σ) (moves : List (VideoMove σ)) : VideoWorld σ := moves.foldl apply w

/-- Says what is to be noted of a step, from the outline before, what was fetched, and the outline
after. -/
abbrev Notes (ε : Type) := VideoOutline → Option Fetched → VideoOutline → List ε

variable {ε : Type} (notes : Notes ε)

def noted (w : VideoWorld σ) : VideoMove σ → List ε
  | .go pick =>
    match w.next? pick with
    | some after => notes w.session.outline (w.session.fetched? after.session) after.session.outline
    | none => []
  | _ => []

theorem noted_of_ne_go (w : VideoWorld σ) {move : VideoMove σ} (other : ∀ pick, move ≠ .go pick) :
    w.noted notes move = [] := by
  cases move with
  | go pick => exact absurd rfl (other pick)
  | start | stop | encoders | report | drain | hangUp | turn | publish | platform => rfl

/-- What is noted of the steps of a run, in their order. -/
def trace (w : VideoWorld σ) : List (VideoMove σ) → List ε
  | [] => []
  | move :: moves => w.noted notes move ++ (w.apply move).trace moves

theorem around {w : VideoWorld σ} {move : VideoMove σ} (other : ∀ pick, move ≠ .go pick) :
    VideoOutline.Around w.session.outline w.device.geometry (w.apply move).session.outline
      (w.apply move).device.geometry := by
  cases move with
  | go pick => exact absurd rfl (other pick)
  | start =>
    change VideoOutline.Around w.session.outline w.device.geometry w.session.start.outline
      w.device.geometry
    unfold VideoSession.start
    split
    · rename_i idle
      exact .start idle
    · exact .still
  | stop | encoders host | report listening | publish rotation | platform p => exact .still
  | drain n => exact .drain n
  | hangUp e => exact .hangUp e
  | turn rotation => exact .turn rotation

variable {P : List ε → VideoOutline → DeviceGeometry → Prop}

/-- What holds at the start and is kept by every step and by every change around, holds after any
run. It may speak of what was noted on the way. -/
theorem run_invariant {w : VideoWorld σ} (start : P [] w.session.outline w.device.geometry)
    (step : ∀ {seen s g fetched s' g'}, P seen s g → VideoOutline.Step s g fetched s' g' →
      P (seen ++ notes s fetched s') s' g')
    (around : ∀ {seen s g s' g'}, P seen s g → VideoOutline.Around s g s' g' → P seen s' g')
    (moves : List (VideoMove σ)) :
    P (w.trace notes moves) (w.run moves).session.outline (w.run moves).device.geometry := by
  suffices h : ∀ seen, P seen w.session.outline w.device.geometry →
      P (seen ++ w.trace notes moves) (w.run moves).session.outline
        (w.run moves).device.geometry from h [] start
  clear start
  induction moves generalizing w with
  | nil =>
    intro seen holds
    simpa [trace, run] using holds
  | cons move moves ih =>
    intro seen holds
    have after : P (seen ++ w.noted notes move) (w.apply move).session.outline
        (w.apply move).device.geometry := by
      by_cases steps : ∃ pick, move = .go pick
      · obtain ⟨pick, rfl⟩ := steps
        cases next : w.next? pick with
        | none => simpa [noted, apply, next] using holds
        | some w' =>
          obtain ⟨went, stepped, rfl⟩ := Option.map_eq_some_iff.mp next
          simpa [noted, apply, next] using step holds (VideoSession.step_outline stepped)
      · have other : ∀ pick, move ≠ .go pick := fun pick same => steps ⟨pick, same⟩
        rw [w.noted_of_ne_go notes other, List.append_nil]
        exact around holds (VideoWorld.around other)
    have rest := ih _ after
    rw [List.append_assoc] at rest
    exact rest

end VideoWorld

end Screencast
