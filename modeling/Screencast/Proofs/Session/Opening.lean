import Mathlib.Data.List.Nodup
import Screencast.Proofs.Device.Watching
import Screencast.Proofs.Scheduling
import Screencast.Session.Basic

/-!
The way of a session to its processors. Each step goes on to the next stage, starts one processor
for each enabled channel, or ends the session; and the rotation is watched from the moment the
device is made until the session ends, whichever way it ends (`Session.Opens`).
-/

namespace Screencast

/-- The session is on its way to its processors. -/
def SessionStage.opens : SessionStage → Bool
  | .creating | .binding | .accepting | .connecting | .greeting => true
  | .serving _ | .ended _ => false

/-- There is a device, and it was not released. -/
def SessionStage.holds : SessionStage → Bool
  | .creating | .ended _ => false
  | .binding | .accepting | .connecting | .greeting | .serving _ => true

namespace Session

variable {σ γ : Type}

/-- The rotation is watched exactly as long as there is a device. -/
def Watches (s : Session σ γ) : Prop := s.device.watch = (s.stage.holds, s.stage.holds)

/-- The channels for which a processor is started. -/
def kinds (o : Options) : List ChannelKind := processors.filter o.enabled.contains

theorem nodup_kinds (o : Options) : (kinds o).Nodup :=
  List.Nodup.filter _ (by decide)

/-- What a session is asked for and holds stays as it is. -/
structure Kept (s now : Session σ γ) : Prop where
  options : now.options = s.options
  stopRequested : now.stopRequested = s.stopRequested
  watch : now.device.watch = s.device.watch

/-- What a step on the way to the processors can do. -/
structure Opens (s next : Session σ γ) : Prop where
  options : next.options = s.options
  stopRequested : next.stopRequested = s.stopRequested
  stage : next.stage.opens = true ∨ next.stage = .serving (.start (kinds s.options)) ∨
    ∃ result, next.stage = .ended result
  watches : next.Watches

variable {s now next : Session σ γ}

/-- However far the session has come, it may end there. -/
theorem Kept.finish (kept : s.Kept now) {watched : Bool}
    (paired : s.device.watch = (watched, watched)) (result : Except Error Unit) :
    s.Opens (now.finish result) :=
  ⟨kept.options, kept.stopRequested, .inr (.inr ⟨result, rfl⟩),
    now.device.watch_release (kept.watch.trans paired)⟩

theorem opens_createDevice (stage : s.stage = .creating) (watches : s.Watches) :
    s.Opens s.createDevice := by
  unfold Watches at watches
  rw [stage] at watches
  rcases created : Device.create s.options s.device.platform with ⟨platform, e | device⟩
  · have same := Device.rotationWatched_create (congrArg Prod.snd created)
    rw [created] at same
    have kept : s.Kept { s with device.platform := platform } :=
      ⟨rfl, rfl, congrArg (·, s.device.watchesRotation) same⟩
    simp only [createDevice, created]
    exact kept.finish watches _
  · have watched := Device.watch_create (congrArg Prod.snd created)
    simp only [createDevice, created]
    split
    · exact ⟨rfl, rfl, .inl rfl, watched⟩
    · exact ⟨rfl, rfl, .inl rfl, watched⟩

section

variable (held : s.device.watch = (true, true))

include held

theorem opens_bind : s.Opens s.bind := by
  unfold bind
  split
  · exact ⟨rfl, rfl, .inl rfl, held⟩
  · rename_i dir e bound
    have kept : s.Kept { s with dir } := ⟨rfl, rfl, rfl⟩
    exact kept.finish held _

theorem opens_accept? (stage : s.stage = .accepting) (h : s.accept? = some next) :
    s.Opens next := by
  unfold accept? at h
  dsimp only at h
  split at h
  · rename_i kind line found
    cases h
    split
    · refine ⟨rfl, rfl, .inl (congrArg SessionStage.opens stage), ?_⟩
      unfold Watches
      dsimp only
      rw [stage]
      exact held
    · have kept : s.Kept { s with
          lines := s.lines.set kind (some (line.accept s.options.sendDummyByte).1) } :=
        ⟨rfl, rfl, rfl⟩
      exact kept.finish held _
  · split at h <;> cases h
    exact ⟨rfl, rfl, .inl rfl, held⟩

theorem Kept.connectAll (kept : s.Kept now) (kinds : List ChannelKind) :
    s.Opens (now.connectAll kinds) := by
  induction kinds generalizing now with
  | nil => exact ⟨kept.options, kept.stopRequested, .inl rfl, kept.watch.trans held⟩
  | cons kind kinds ih =>
    unfold Session.connectAll
    split
    · exact ih ⟨kept.options, kept.stopRequested, kept.watch⟩
    · exact kept.finish held _

end

/-- A processor is started for each enabled channel, and the device is watched as before. -/
theorem serve_eq (s : Session σ γ) : ∃ device control audio video, s.serve = { s with
      device, control, audio, video, stage := .serving (.start (kinds s.options)) } ∧
    device.watch = s.device.watch := by
  unfold serve
  dsimp only
  cases s.options.control with
  | false => exact ⟨_, _, _, _, rfl, rfl⟩
  | true =>
    refine ⟨_, _, _, _, rfl, ?_⟩
    cases autosync : s.options.clipboardAutosync <;> simp [Device.control, Device.watch]

theorem Kept.serve (kept : s.Kept now) (held : s.device.watch = (true, true)) :
    s.Opens now.serve := by
  obtain ⟨device, control, audio, video, served, same⟩ := now.serve_eq
  rw [served]
  exact ⟨kept.options, kept.stopRequested, .inr (.inl (by rw [kept.options])),
    (same.trans kept.watch).trans held⟩

theorem opens_greet (held : s.device.watch = (true, true)) : s.Opens s.greet := by
  unfold greet
  split
  · exact Kept.serve ⟨rfl, rfl, rfl⟩ held
  · split
    · exact Kept.finish ⟨rfl, rfl, rfl⟩ held _
    · rename_i kind line found
      split
      · exact Kept.finish ⟨rfl, rfl, rfl⟩ held _
      · rename_i sink other outcome written
        have kept : s.Kept { s with lines := s.lines.set kind (some { line with sink }) } :=
          ⟨rfl, rfl, rfl⟩
        exact kept.serve held

/-- A session that has not come to its processors goes on towards them, or ends. -/
theorem step_opens [EncoderHost σ] [PcmSource γ] {pick : Nat} (opening : s.stage.opens = true)
    (watches : s.Watches) (h : s.step pick = some next) : s.Opens next := by
  have begin : s.Kept s := ⟨rfl, rfl, rfl⟩
  -- while the channels are opened the stop signal ends the session
  have stopped {branch : Option (Session σ γ)} (held : s.device.watch = (true, true))
      (opens : ∀ next, branch = some next → s.Opens next)
      (h : firstReady pick [if s.stopRequested then some (s.finish (.ok ())) else none, branch] =
        some next) : s.Opens next := by
    have ready := mem_of_firstReady h
    rw [List.mem_cons, List.mem_singleton] at ready
    rcases ready with stops | goesOn
    · split at stops <;> cases stops
      exact begin.finish held _
    · exact opens next goesOn.symm
  unfold Watches at watches
  unfold step at h
  cases stage : s.stage with
  | creating =>
    simp only [stage] at h
    cases h
    exact opens_createDevice stage watches
  | binding =>
    rw [stage] at watches
    simp only [stage, open?] at h
    refine stopped watches (fun next bound => ?_) h
    cases bound
    exact opens_bind watches
  | accepting =>
    rw [stage] at watches
    simp only [stage, open?] at h
    exact stopped watches (fun next accepted => opens_accept? watches stage accepted) h
  | connecting =>
    rw [stage] at watches
    simp only [stage, open?] at h
    refine stopped watches (fun next connected => ?_) h
    cases connected
    exact begin.connectAll watches _
  | greeting =>
    rw [stage] at watches
    simp only [stage] at h
    cases h
    exact opens_greet watches
  | serving | ended => simp [stage, SessionStage.opens] at opening

end Session

end Screencast
