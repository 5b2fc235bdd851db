import Screencast.Proofs.Control.Serving
import Screencast.Video.Session

/-!
Whether the rotation of a device is watched. Only making and releasing the device changes that:
nothing that the desktop asks for does, nothing that the platform does by itself, and no step of the
processors that hold the device (`watch_of_control`, `watch_of_video`).
-/

namespace Screencast

namespace Device

/-- Whether the platform reports rotations, and whether the device knows that it does. -/
def watch (d : Device) : Bool × Bool := (d.platform.rotationWatched, d.watchesRotation)

variable (d : Device)

/-! ### Rotation -/

@[simp] theorem watch_turnScreen (rotation : Nat) : (d.turnScreen rotation).watch = d.watch := by
  unfold turnScreen
  dsimp only
  split <;> rfl

@[simp] theorem watch_freezeScreen (rotation : Nat) :
    (d.freezeScreen rotation).watch = d.watch := by
  unfold freezeScreen
  dsimp only
  split
  · exact watch_turnScreen _ rotation
  · rfl

@[simp] theorem watch_rotate : d.rotate.watch = d.watch := by
  unfold rotate
  dsimp only
  split
  · exact watch_freezeScreen _ _
  · exact watch_freezeScreen { d with platform := d.platform.record _ } _

/-! ### Input and clipboard -/

theorem rotationWatched_inject (p : Platform) (id : Nat) (mode : InjectionMode)
    (event : InputEvent) :
    (p.inject id mode event).1.rotationWatched = p.rotationWatched := by
  unfold Platform.inject
  dsimp only
  split <;> rfl

@[simp] theorem watch_inject (event : InputEvent) (mode : InjectionMode) :
    (d.inject event mode).1.watch = d.watch := by
  unfold inject
  split
  · exact congrArg (·, d.watchesRotation) (rotationWatched_inject _ _ _ _)
  · rfl

@[simp] theorem watch_pressKey (keycode : UInt32) (mode : InjectionMode) :
    (d.pressKey keycode mode).1.watch = d.watch := by
  have pressed := d.watch_inject (.key { action := Action.down, keycode }) .async
  unfold pressKey
  split <;> rename_i now taken <;> rw [taken] at pressed
  · exact pressed
  · exact (watch_inject _ _ _).trans pressed

@[simp] theorem watch_clipboardChanged : d.clipboardChanged.watch = d.watch := by
  unfold clipboardChanged hearClipboard
  split
  · split <;> rfl
  · rfl

theorem watch_appSetsClipboard (text : String) : (d.appSetsClipboard text).watch = d.watch :=
  watch_clipboardChanged _

theorem rotationWatched_setText (p : Platform) (text : String) :
    (p.setText text).1.rotationWatched = p.rotationWatched := by
  unfold Platform.setText
  dsimp only
  split <;> rfl

@[simp] theorem watch_setText (text : String) : (d.setText text).1.watch = d.watch := by
  have same := rotationWatched_setText d.platform text
  unfold setText
  split <;> rename_i platform set <;> rw [set] at same
  · exact (watch_clipboardChanged _).trans (congrArg (·, d.watchesRotation) same)
  · exact congrArg (·, d.watchesRotation) same

theorem watch_quietly {α : Type} {change : Device → Device × α}
    (kept : ∀ d, (change d).1.watch = d.watch) : (d.quietly change).1.watch = d.watch :=
  kept { d with settingClipboard := true }

@[simp] theorem watch_pasteText (text : String) : (d.pasteText text).1.watch = d.watch := by
  have set := d.watch_setText text
  unfold pasteText
  split <;> rename_i now taken <;> rw [taken] at set
  · exact set
  · exact (watch_pressKey _ _ _).trans set

@[simp] theorem watch_typeText (text : String) : (d.typeText text).1.watch = d.watch := by
  unfold typeText
  split
  · rfl
  · refine d.watch_quietly fun d => ?_
    dsimp only
    split
    · exact (watch_setText _ _).trans (watch_pasteText d text)
    · exact watch_pasteText d text

@[simp] theorem watch_setPowerMode (mode : UInt8) : (d.setPowerMode mode).1.watch = d.watch := by
  have same : (d.platform.setPowerMode mode).1.rotationWatched = d.platform.rotationWatched := by
    unfold Platform.setPowerMode
    dsimp only
    split <;> rfl
  unfold setPowerMode
  split <;> rename_i platform set <;> rw [set] at same <;>
    exact congrArg (·, d.watchesRotation) same

/-! ### What the desktop asks for -/

theorem watch_touch (t : Touch) : (d.touch t).watch = d.watch := by
  unfold touch
  split <;> simp

theorem watch_scroll (s : Scroll) : (d.scroll s).watch = d.watch := by
  unfold scroll
  split <;> simp

theorem watch_backOrWake (action : UInt8) : (d.backOrWake action).watch = d.watch := by
  unfold backOrWake
  split
  · simp
  · split <;> simp

theorem watch_pressCopyKey (key : CopyKey) : (d.pressCopyKey key).watch = d.watch := by
  unfold pressCopyKey
  split
  · cases key <;> simp
  · rfl

theorem watch_updateClipboard (c : ClipboardUpdate) : (d.updateClipboard c).watch = d.watch := by
  have filled : (d.fillClipboard c.text).1.watch = d.watch :=
    d.watch_quietly fun d => d.watch_setText c.text
  unfold updateClipboard
  split <;> rename_i now taken <;> rw [taken] at filled
  · split
    · exact (watch_pressKey _ _ _).trans filled
    · exact filled
  · exact filled

theorem watch_wake : d.wake.watch = d.watch := by
  unfold wake
  split <;> simp

theorem watch_handle (m : ControlMessage) : (d.handle m).1.watch = d.watch := by
  have ifInput {after : Device} (kept : after.watch = d.watch) :
      (if d.supportsInput = true then after else d).watch = d.watch := by
    split
    · exact kept
    · rfl
  cases m with
  | key key => exact ifInput (d.watch_inject _ _)
  | typeText text => exact ifInput (d.watch_typeText text)
  | touch touch => exact ifInput (d.watch_touch touch)
  | scroll scroll => exact ifInput (d.watch_scroll scroll)
  | backOrWake action => exact ifInput (d.watch_backOrWake action)
  | openNotifications | openSettings | closePanels => rfl
  | fetchClipboard key => exact d.watch_pressCopyKey key
  | fillClipboard update => exact d.watch_updateClipboard update
  | setPower mode => exact ifInput (d.watch_setPowerMode mode)
  | rotate => exact d.watch_rotate

/-! ### Beginning and end -/

theorem rotationWatched_watchRotation (p : Platform) (id : Nat) :
    (p.watchRotation id).1.rotationWatched =
      (p.rotationWatched || (p.watchRotation id).2.toBool) := by
  unfold Platform.watchRotation
  dsimp only
  split
  · exact (Bool.or_false _).symm
  · exact (Bool.or_true _).symm

theorem watch_create {options : Options} {platform : Platform} {d : Device}
    (created : (create options platform).2 = .ok d) : d.watch = (true, true) := by
  unfold create at created
  split at created
  · cases created
  · have watched := rotationWatched_watchRotation platform options.displayId
    split at created <;> rename_i p asked
    · cases created
    · cases created
      rw [asked] at watched
      have listens : p.watchClipboard.1.rotationWatched = p.rotationWatched := by
        unfold Platform.watchClipboard
        dsimp only
        split <;> rfl
      refine Prod.ext ?_ rfl
      dsimp only [watch]
      split
      · rw [listens, watched]
        exact Bool.or_true _
      · rw [watched]
        exact Bool.or_true _

/-- What comes back of a device that could not be made is watched no more than before. -/
theorem rotationWatched_create {options : Options} {platform : Platform} {e : Error}
    (refused : (create options platform).2 = .error e) :
    (create options platform).1.rotationWatched = platform.rotationWatched := by
  have watched := rotationWatched_watchRotation platform options.displayId
  cases described : platform.describeDisplay options.displayId with
  | error e => simp only [create, described]
  | ok info =>
    rcases asked : platform.watchRotation options.displayId with ⟨p, e | _⟩
    · simp only [create, described, asked]
      rw [asked] at watched
      exact watched.trans (Bool.or_false _)
    · simp only [create, described, asked] at refused
      cases refused

theorem watch_release {watched : Bool} (paired : d.watch = (watched, watched)) :
    d.release.watch = (false, false) := by
  unfold release
  dsimp only
  split
  · rfl
  · rename_i unwatched
    obtain ⟨platform, rfl⟩ := Prod.mk.inj paired
    have none : d.watchesRotation = false := Bool.eq_false_iff.mpr unwatched
    exact Prod.ext (platform.trans none) none

end Device

/-! ### The processors that hold the device -/

/-- Reading, carrying out and answering messages leaves the watch alone. -/
theorem ControlSession.Step.watch {c c' : ControlSession} {d d' : Device} (step : Step c d c' d') :
    d'.watch = d.watch := by
  cases step with
  | write | take | receive | close | halt | finish => rfl
  | begin =>
    split
    · exact d.watch_wake
    · rfl
  | handle => exact d.watch_handle _

namespace VideoSession

variable {σ : Type}

theorem watch_createDisplay [EncoderHost σ] (s : VideoSession σ) (d : Device) (encoder : Nat)
    (size : Size) : (s.createDisplay d encoder size).2.watch = d.watch := by
  have same : d.platform.createDisplay.1.rotationWatched = d.platform.rotationWatched := by
    unfold Platform.createDisplay
    split <;> rfl
  unfold createDisplay
  dsimp only
  split <;> rename_i created <;> rw [created] at same <;>
    exact congrArg (·, d.watchesRotation) same

theorem watch_bind (s : VideoSession σ) (d : Device) (a : Attempt) (surface : Nat)
    (p : Projection) : (s.bind d a surface p).2.watch = d.watch := by
  have same : (d.platform.setSurface p).1.rotationWatched = d.platform.rotationWatched := by
    unfold Platform.setSurface
    split <;> rfl
  unfold bind
  dsimp only
  split <;> rename_i set <;> rw [set] at same <;> exact congrArg (·, d.watchesRotation) same

theorem watch_conclude (s : VideoSession σ) (d : Device) (size : Size)
    (ending : Except Error Ending) : (s.conclude d size ending).2.watch = d.watch := by
  unfold conclude
  split
  · rfl
  · rfl
  · split
    · split <;> rfl
    · rfl
  · rfl

/-- A display comes and goes, and the maximum of the video is lowered; the watch is left alone. -/
theorem watch_step [EncoderHost σ] {s : VideoSession σ} {d : Device} {pick : Nat}
    {next : VideoSession σ × Device} (h : s.step pick d = some next) : next.2.watch = d.watch := by
  have mapped : ∀ branch : Option (VideoSession σ),
      branch.map (fun s => (s, d)) = some next → next.2.watch = d.watch := by
    intro branch taken
    obtain ⟨after, -, rfl⟩ := Option.map_eq_some_iff.mp taken
    rfl
  unfold step at h
  dsimp only at h
  cases stage : s.stage with
  | idle | ended =>
    simp only [stage] at h
    cases h
  | observe | measure | openEncoder | configure | createSurface | project | startEncoder | giveBack
  | tearDown =>
    simp only [stage] at h
    cases h
    rfl
  | createDisplay encoder size =>
    simp only [stage] at h
    cases h
    exact s.watch_createDisplay d encoder size
  | bind a surface p =>
    simp only [stage] at h
    cases h
    exact s.watch_bind d a surface p
  | await | deliver | sendHeader | sendPacket | announce =>
    simp only [stage] at h
    exact mapped _ h
  | conclude size ending =>
    simp only [stage] at h
    cases h
    exact s.watch_conclude d size ending

end VideoSession

end Screencast
