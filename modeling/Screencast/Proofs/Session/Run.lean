import Screencast.Proofs.Control.Course
import Screencast.Proofs.Session.Opening
import Screencast.Proofs.Session.Supervision

/-!
Runs of a session in which its tasks take turns in any order. The main task, each processor and all
that is around them may go on at any moment, and a processor may end in any way, whatever it was
doing. The order in which a session polls its tasks is one of these (`exists_move_of_step`).
-/

namespace Screencast

/-- What is to be noted about a session. -/
inductive SessionEvent where
  | stopRequested
  /-- A processor was started for each of these channels. -/
  | served (kinds : List ChannelKind)
  | ended (kind : ChannelKind) (outcome : Outcome)
  /-- All processors were told to stop. -/
  | stopped
  /-- All processors were waited for, and are left like this. -/
  | joined (workers : List (ChannelKind × Worker))
  | returned (result : Except Error Unit)
deriving DecidableEq, Repr

/-- What happens around a session. -/
inductive SessionChange (σ γ : Type) where
  | device (event : DeviceEvent)
  | connect (kind : ChannelKind)
  | send (kind : ChannelKind) (bytes : Bytes)
  | disconnect (kind : ChannelKind)
  /-- Somebody makes or removes sockets. -/
  | directory (dir : SocketDir)
  /-- Encoders, sound and the desktop act on the processors. -/
  | processors (control : Option ControlSession) (audio : Option (AudioSession σ γ))
      (video : Option (VideoSession σ))

/-- What may happen next. -/
inductive SessionMove (σ γ : Type) where
  /-- The server goes on towards the processors. -/
  | advance (pick : Nat)
  /-- A processor takes a step, unless it has to wait. -/
  | work (kind : ChannelKind) (pick : Nat)
  /-- A processor that has not ended does so. -/
  | finish (kind : ChannelKind) (outcome : Outcome)
  /-- The main task goes on, unless it has to wait. -/
  | supervise (pick : Nat)
  | requestStop
  | around (change : SessionChange σ γ)

namespace Session

variable {σ γ : Type}

def change (s : Session σ γ) : SessionChange σ γ → Session σ γ
  | .device event => s.onDevice event.act
  | .connect kind => (s.connect? kind).getD s
  | .send kind bytes => (s.send? kind bytes).getD s
  | .disconnect kind => s.disconnect kind
  | .directory dir => { s with dir }
  | .processors control audio video => { s with control, audio, video }

end Session

/-- What is to be noted when a session comes to a stage. -/
def SessionStage.news : SessionStage → List SessionEvent
  | .serving supervisor => [.served (supervisor.workers.map (·.1))]
  | .ended result => [.returned result]
  | _ => []

/-- What is to be noted when the main task comes to a stage. -/
def Supervisor.news (s : Supervisor) : List SessionEvent :=
  match s.stage with
  | .waiting => []
  | .joining _ => [.stopped]
  | .ended result => [.joined s.workers, .returned result]

/-- A session, and what has happened to it. -/
structure SessionWorld (σ γ : Type) where
  session : Session σ γ
  events : List SessionEvent := []

namespace SessionWorld

variable {σ γ : Type} [EncoderHost σ] [PcmSource γ]

/-- Goes on once there is a main task that watches over processors. -/
def serving (w : SessionWorld σ γ) (go : Supervisor → SessionWorld σ γ) : SessionWorld σ γ :=
  match w.session.stage with
  | .serving supervisor => go supervisor
  | _ => w

def apply (w : SessionWorld σ γ) : SessionMove σ γ → SessionWorld σ γ
  | .advance pick =>
    if w.session.stage.opens then
      match w.session.step pick with
      | some session => ⟨session, w.events ++ session.stage.news⟩
      | none => w
    else w
  | .work kind pick => w.serving fun _ =>
    { w with session := (w.session.stepProcessor? pick kind).getD w.session }
  | .finish kind outcome => w.serving fun supervisor =>
    if supervisor.runs kind then
      { session := { w.session with stage := .serving (supervisor.report kind outcome) }
        events := w.events ++ [.ended kind outcome] }
    else w
  | .supervise pick => w.serving fun supervisor =>
    match w.session.supervise? pick supervisor, supervisor.step pick w.session.stopRequested with
    | some session, some next => ⟨session, w.events ++ next.news⟩
    | _, _ => w
  | .requestStop => ⟨w.session.requestStop, w.events ++ [.stopRequested]⟩
  | .around change => { w with session := w.session.change change }

def run (w : SessionWorld σ γ) (moves : List (SessionMove σ γ)) : SessionWorld σ γ :=
  moves.foldl apply w

variable {w : SessionWorld σ γ}

/-- A step of the session is one of these moves. -/
theorem exists_move_of_step {pick : Nat} {next : Session σ γ}
    (h : w.session.step pick = some next) : ∃ move, (w.apply move).session = next := by
  cases stage : w.session.stage with
  | creating | binding | accepting | connecting | greeting =>
    exact ⟨.advance pick, by simp [apply, stage, SessionStage.opens, h]⟩
  | ended => simp [Session.step, stage] at h
  | serving supervisor =>
    simp only [Session.step, stage] at h
    rcases Option.or_eq_some_iff.mp h with works | ⟨-, waits⟩
    · obtain ⟨kind, -, stepped⟩ := List.exists_of_findSome?_eq_some works
      exact ⟨.work kind pick, by simp only [apply, serving, stage, stepped, Option.getD_some]⟩
    · rcases Option.or_eq_some_iff.mp waits with reports | ⟨-, supervises⟩
      · obtain ⟨kind, running, reported⟩ := List.exists_of_findSome?_eq_some reports
        obtain ⟨outcome, -, rfl⟩ := Option.map_eq_some_iff.mp reported
        have runs : supervisor.runs kind = true := (List.mem_filter.mp running).2
        exact ⟨.finish kind outcome, by simp only [apply, serving, stage, runs, if_true]⟩
      · obtain ⟨after, stepped, -⟩ := Option.map_eq_some_iff.mp supervises
        exact ⟨.supervise pick, by simp only [apply, serving, stage, supervises, stepped]⟩

end SessionWorld

/-! ### What a move can do -/

namespace Session

variable {σ γ : Type} {s next : Session σ γ}

theorem Kept.refl (s : Session σ γ) : s.Kept s := ⟨rfl, rfl, rfl⟩

theorem kept_cut (s : Session σ γ) (kind : ChannelKind) :
    s.Kept (s.cut kind) ∧ (s.cut kind).stage = s.stage := by
  cases kind <;> exact ⟨⟨rfl, rfl, rfl⟩, rfl⟩

theorem kept_disconnect (s : Session σ γ) (kind : ChannelKind) :
    s.Kept (s.disconnect kind) ∧ (s.disconnect kind).stage = s.stage := by
  unfold disconnect
  split
  · exact ⟨⟨rfl, rfl, rfl⟩, rfl⟩
  · obtain ⟨⟨options, stopRequested, watch⟩, stage⟩ := kept_cut
      { s with lines := s.lines.set kind ((s.lines.get kind).map Line.closeDesktopEnd) } kind
    exact ⟨⟨options, stopRequested, watch⟩, stage⟩

theorem watch_act (event : DeviceEvent) (d : Device) : (event.act d).watch = d.watch := by
  cases event with
  | turn rotation => exact d.watch_turnScreen rotation
  | freeze rotation => exact d.watch_freezeScreen rotation
  | thaw | screen => rfl
  | clipboard text => exact d.watch_appSetsClipboard text

/-- Where nothing comes of it, the session stays as it is. -/
theorem kept_getD {after : Option (Session σ γ)}
    (kept : ∀ next, after = some next → s.Kept next ∧ next.stage = s.stage) :
    s.Kept (after.getD s) ∧ (after.getD s).stage = s.stage := by
  cases after with
  | none => exact ⟨.refl s, rfl⟩
  | some next => exact kept next rfl

theorem kept_connect? {kind : ChannelKind} (h : s.connect? kind = some next) :
    s.Kept next ∧ next.stage = s.stage := by
  unfold connect? at h
  split at h
  · cases h
  · split at h <;> cases h
    · exact ⟨⟨rfl, rfl, rfl⟩, rfl⟩
    · obtain ⟨kept, stage⟩ := s.kept_disconnect kind
      exact ⟨⟨kept.options, kept.stopRequested, kept.watch⟩, stage⟩

theorem kept_send? {kind : ChannelKind} {bytes : Bytes} (h : s.send? kind bytes = some next) :
    s.Kept next ∧ next.stage = s.stage := by
  unfold send? at h
  split at h
  · split at h <;> cases h
    exact ⟨.refl s, rfl⟩
  · cases h
  · split at h
    · cases h
    · split at h <;> cases h <;> exact ⟨⟨rfl, rfl, rfl⟩, rfl⟩

theorem kept_change (s : Session σ γ) (change : SessionChange σ γ) :
    s.Kept (s.change change) ∧ (s.change change).stage = s.stage := by
  cases change with
  | device event =>
    have same := watch_act event s.device
    dsimp only [Session.change, onDevice]
    split <;> exact ⟨⟨rfl, rfl, same⟩, rfl⟩
  | connect kind => exact kept_getD fun next => kept_connect?
  | send kind bytes => exact kept_getD fun next => kept_send?
  | disconnect kind => exact s.kept_disconnect kind
  | directory | processors => exact ⟨⟨rfl, rfl, rfl⟩, rfl⟩

theorem kept_stepProcessor? [EncoderHost σ] [PcmSource γ] {pick : Nat} {kind : ChannelKind}
    (h : s.stepProcessor? pick kind = some next) : s.Kept next ∧ next.stage = s.stage := by
  cases kind with
  | control =>
    obtain ⟨c, -, stepped⟩ := Option.bind_eq_some_iff.mp h
    obtain ⟨⟨after, device⟩, moved, rfl⟩ := Option.map_eq_some_iff.mp stepped
    exact ⟨⟨rfl, rfl, (ControlSession.step_cases moved).watch⟩, rfl⟩
  | audio =>
    obtain ⟨a, -, stepped⟩ := Option.bind_eq_some_iff.mp h
    obtain ⟨after, -, rfl⟩ := Option.map_eq_some_iff.mp stepped
    exact ⟨⟨rfl, rfl, rfl⟩, rfl⟩
  | video =>
    obtain ⟨v, -, stepped⟩ := Option.bind_eq_some_iff.mp h
    obtain ⟨⟨after, device⟩, moved, rfl⟩ := Option.map_eq_some_iff.mp stepped
    exact ⟨⟨rfl, rfl, VideoSession.watch_step moved⟩, rfl⟩

end Session

namespace SessionWorld

variable {σ γ : Type}

/-- What one move can do. -/
inductive Moves (w : SessionWorld σ γ) : SessionWorld σ γ → Prop
  /-- Nothing that the main task hears of. -/
  | aside {session : Session σ γ} (kept : w.session.Kept session)
      (stage : session.stage = w.session.stage) : Moves w { w with session }
  | requestStop : Moves w ⟨w.session.requestStop, w.events ++ [.stopRequested]⟩
  | advance {session : Session σ γ} (opening : w.session.stage.opens = true)
      (opens : w.session.Watches → w.session.Opens session) :
      Moves w ⟨session, w.events ++ session.stage.news⟩
  | finish {supervisor : Supervisor} {kind : ChannelKind} (outcome : Outcome)
      (stage : w.session.stage = .serving supervisor) (runs : supervisor.runs kind = true) :
      Moves w ⟨{ w.session with stage := .serving (supervisor.report kind outcome) },
        w.events ++ [.ended kind outcome]⟩
  | supervise {pick : Nat} {supervisor next : Supervisor} {session : Session σ γ}
      (stage : w.session.stage = .serving supervisor)
      (stepped : supervisor.step pick w.session.stopRequested = some next)
      (supervised : w.session.supervise? pick supervisor = some session) :
      Moves w ⟨session, w.events ++ next.news⟩

variable {w : SessionWorld σ γ}

theorem moves_serving {go : Supervisor → SessionWorld σ γ}
    (moves : ∀ supervisor, w.session.stage = .serving supervisor → w.Moves (go supervisor)) :
    w.Moves (w.serving go) := by
  unfold serving
  split
  · rename_i supervisor stage
    exact moves supervisor stage
  · exact .aside (.refl _) rfl

variable [EncoderHost σ] [PcmSource γ]

/-- Whatever move is made, it comes to one of these. -/
theorem moves_apply (w : SessionWorld σ γ) (move : SessionMove σ γ) : w.Moves (w.apply move) := by
  have still : w.Moves w := .aside (.refl _) rfl
  cases move with
  | advance pick =>
    dsimp only [apply]
    split
    · rename_i opening
      split
      · rename_i session stepped
        exact .advance opening fun watches => Session.step_opens opening watches stepped
      · exact still
    · exact still
  | work kind pick =>
    refine moves_serving fun supervisor _ => ?_
    have works : ∀ next, w.session.stepProcessor? pick kind = some next →
        w.session.Kept next ∧ next.stage = w.session.stage := fun next =>
      Session.kept_stepProcessor?
    exact .aside (Session.kept_getD works).1 (Session.kept_getD works).2
  | finish kind outcome =>
    refine moves_serving fun supervisor stage => ?_
    split
    · rename_i runs
      exact .finish outcome stage runs
    · exact still
  | supervise pick =>
    refine moves_serving fun supervisor stage => ?_
    split
    · rename_i session next supervised stepped
      exact .supervise stage stepped supervised
    · exact still
  | requestStop => exact .requestStop
  | around change => exact .aside (w.session.kept_change change).1 (w.session.kept_change change).2

theorem run_invariant {P : SessionWorld σ γ → Prop} (start : P w)
    (move : ∀ {w w'}, P w → Moves w w' → P w') (moves : List (SessionMove σ γ)) :
    P (w.run moves) := by
  induction moves generalizing w with
  | nil => exact start
  | cons first moves ih => exact ih (move start (w.moves_apply first))

end SessionWorld

end Screencast
