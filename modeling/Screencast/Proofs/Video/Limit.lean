import Screencast.Proofs.Config.Settings
import Screencast.Proofs.Video.Fallback

/-!
The maximum size that is set. It is rounded to the grid, cuts off the larger side when the session
starts, and from there the larger side only goes down (`Limited`): so no encoder is ever configured
with a larger one (`limited_of_run`). A maximum below the grid is rounded to none at all
(`unlimited_below_grid`).
-/

namespace Screencast

open SizeEvent

theorem le_of_sideAfter {side k a : Nat} (h : sideAfter side k = some a) : a ≤ side := by
  cases k with
  | zero => exact Nat.le_of_eq (Option.some.inj h).symm
  | succ k => exact Nat.le_of_lt (sideAfter_lt h)

namespace VideoOutline

variable {first : Nat} {format : EncoderFormat} {events : List SizeEvent} {s s' : VideoOutline}
  {g g' : DeviceGeometry} {fetched : Option Fetched}

/-- An encoder is configured in one place, with the size of the attempt under way. -/
theorem Step.configures (step : Step s g fetched s' g') :
    ∃ calls, s'.calls = s.calls ++ calls ∧
      ((∀ call ∈ calls, call.configured? = none) ∨
        ∃ a, s.stage = .configure a ∧
          calls = [.encoder (.configure a.encoder (s.baseFormat.withSize a.size))]) := by
  cases step with
  | configure stage => exact ⟨_, rfl, .inr ⟨_, stage, rfl⟩⟩
  | work stage goesOn uses => exact ⟨_, rfl, .inl fun call made => (uses call made).2⟩
  | skip stage uses => exact ⟨_, rfl, .inl fun call made => (uses call made).2⟩
  | noEncoder stage made =>
    refine ⟨_, rfl, .inl ?_⟩
    rcases made with rfl | ⟨name, rfl⟩ <;> simp [VideoCall.configured?]
  | encoder | noDisplay | display | header | tearDown =>
    exact ⟨_, rfl, .inl (by simp [VideoCall.configured?, VideoCall.tearDown])⟩
  | packet => exact ⟨_, VideoSession.beginPacket_calls .., .inl (by simp [VideoCall.configured?])⟩
  | headerDone =>
    exact ⟨[], (VideoSession.beginPacket_calls ..).trans (List.append_nil _).symm, .inl (by simp)⟩
  | finish =>
    exact ⟨[], (VideoSession.exit_calls ..).trans (List.append_nil _).symm, .inl (by simp)⟩
  | observe | measure | abandon | headerWaits | headerFails | packetWaits | packetEnds | restart
  | smaller | markWaits | markEnds => exact ⟨[], (List.append_nil _).symm, .inl (by simp)⟩

/-- The format of an encoder, with a size that is not larger than the first one. -/
def Fits (first : Nat) (format told : EncoderFormat) : Prop :=
  ∃ size : Size, told = format.withSize size ∧ size.larger ≤ first

/-- A session that follows the candidates has configured its encoders with sizes that fit. -/
structure Limited (first : Nat) (format : EncoderFormat) (events : List SizeEvent)
    (s : VideoOutline) (g : DeviceGeometry) : Prop where
  following : Following first events s g
  base : s.baseFormat = format
  calls : ∀ call ∈ s.calls, ∀ told ∈ call.configured?, Fits first format told

/-- The attempt under way has the larger side that is left. -/
theorem Following.fits (following : Following first events s g) {a : Attempt}
    (stage : s.stage = .configure a) : a.size.larger ≤ first := by
  rcases following.now with ⟨side, trying⟩ | ⟨before, size, exhausted⟩
  · rw [trying.sizes a.size (by rw [stage]; rfl)]
    exact le_of_sideAfter trying.left
  · have settled := exhausted.outcome
    simp [VideoSession.outcome?, stage] at settled

theorem Limited.step (limited : Limited first format events s g)
    (step : Step s g fetched s' g') :
    Limited first format (events ++ s.sizeEvents fetched s') s' g' := by
  refine ⟨limited.following.step step, ?_, ?_⟩
  · rw [← limited.base, VideoSession.baseFormat, VideoSession.baseFormat, step.setup_eq]
  · obtain ⟨calls, made, kind⟩ := step.configures
    intro call member told configured
    rw [made] at member
    rcases List.mem_append.mp member with before | now
    · exact limited.calls call before told configured
    · rcases kind with plain | ⟨a, stage, rfl⟩
      · simp [plain call now] at configured
      · obtain rfl := List.mem_singleton.mp now
        obtain rfl : s.baseFormat.withSize a.size = told := Option.some.inj configured
        exact ⟨a.size, by rw [limited.base], limited.following.fits stage⟩

theorem Limited.around (limited : Limited first format events s g)
    (around : Around s g s' g') : Limited first format events s' g' := by
  have following := limited.following.around around
  cases around with
  | still | start | drain | hangUp | turn => exact ⟨following, limited.base, limited.calls⟩

end VideoOutline

/-- The options hold the maximum that was set, rounded down to the grid. -/
theorem Settings.maxSize_options {s : Settings} {options : Options}
    (accepted : s.options = .ok options) : options.maxSize = onGrid s.video.maxSize := by
  obtain ⟨texts, -, rfl⟩ := options_eq_ok_iff.mp accepted
  rfl

namespace Device

variable {σ : Type} [EncoderHost σ]

/-- A maximum on the grid is not exceeded by the video of a device, when there is one. -/
theorem larger_create_le {options : Options} {platform : Platform} {d : Device}
    (created : (create options platform).2 = .ok d) (grid : 8 ∣ options.maxSize)
    (some : 0 < options.maxSize) : d.layout.videoSize.larger ≤ options.maxSize := by
  rw [ScreenLayout.larger_videoSize, layout, geometry_create created]
  change (Size.forVideo _ options.maxSize).larger ≤ options.maxSize
  rw [Size.larger_forVideo _ grid, if_neg (Nat.ne_of_gt some)]
  exact Nat.min_le_right _ _

/-- Whatever the encoders reject and however the device turns, no encoder is configured with a size
beyond the maximum that was set, if that is on the grid at least. The session makes the calls that
it notes. -/
theorem limited_of_run {settings : Settings} {options : Options}
    (accepted : settings.options = .ok options) (limit : 8 ≤ settings.video.maxSize)
    {platform : Platform} {d : Device} (created : (create options platform).2 = .ok d) (host : σ)
    (codecMeta frameMeta : Bool) (sink : Sink) (moves : List (VideoMove σ)) :
    let world : VideoWorld σ := ⟨d.encodeScreen host options.videoSetup codecMeta frameMeta sink, d⟩
    (∀ call ∈ (world.run moves).session.calls, ∀ format ∈ call.configured?,
      ∃ size, format.size? = some size ∧ format = world.session.baseFormat.withSize size ∧
        size.larger ≤ settings.video.maxSize) ∧
      (world.run moves).session.Faithful (world.run moves).device := by
  intro world
  refine ⟨fun call member format configured => ?_, VideoSession.faithful _ _⟩
  have rounded := Settings.maxSize_options accepted
  have grid : 8 ∣ options.maxSize := by rw [rounded]; exact Nat.dvd_mul_left 8 _
  have positive : 0 < options.maxSize := by rw [rounded, onGrid]; omega
  let first := d.layout.videoSize.larger
  have side := hasSide_create created grid
  have start : VideoOutline.Limited first world.session.baseFormat [] world.session.outline
      d.geometry := by
    refine ⟨⟨rfl, .nil first, .inl ⟨first, rfl, side, ?_⟩⟩, rfl, ?_⟩
    · simp [world, encodeScreen, VideoSession.outline, VideoStage.size?]
    · simp [world, encodeScreen, VideoSession.outline]
  have limited := VideoWorld.run_invariant VideoOutline.sizeEvents
    (P := VideoOutline.Limited first world.session.baseFormat) start
    (fun limited step => limited.step step) (fun limited around => limited.around around) moves
  obtain ⟨size, rfl, fits⟩ := limited.calls call member format configured
  refine ⟨size, EncoderFormat.size?_withSize _ (Nat.lt_of_le_of_lt fits side.lt), rfl, ?_⟩
  calc size.larger
    _ ≤ first := fits
    _ ≤ options.maxSize := larger_create_le created grid positive
    _ = onGrid settings.video.maxSize := rounded
    _ ≤ settings.video.maxSize := onGrid_le _

/-- A maximum between two points of the grid, an encoder that rejects it, and a turn. -/
theorem limited_of_run_rejected :
    let settings : Settings := { Settings.ofTempDir "" with video := { maxSize := 1023 } }
    let options : Options := { socketDir := "", maxSize := 1016 }
    let platform : Platform := { naturalSize := ⟨1440, 3200⟩ }
    let host : ScriptedEncoders :=
      { catalogue := [("avc", "video/avc")], rejectAbove := some 900 }
    let moves : List (VideoMove ScriptedEncoders) :=
      .start :: List.replicate 15 (.go 0) ++ .turn 1 :: .publish 1 :: List.replicate 12 (.go 0)
    settings.options = .ok options ∧ 8 ≤ settings.video.maxSize ∧
      ∃ d, (create options platform).2 = .ok d ∧
        let world : VideoWorld ScriptedEncoders :=
          ⟨d.encodeScreen host options.videoSetup true true {}, d⟩
        ((world.run moves).session.calls.filterMap (·.configured?)).filterMap (·.size?) =
            [⟨456, 1016⟩, ⟨360, 800⟩, ⟨800, 360⟩] ∧
          ∀ call ∈ (world.run moves).session.calls, ∀ format ∈ call.configured?,
            ∃ size, format.size? = some size ∧ format = world.session.baseFormat.withSize size ∧
              size.larger ≤ settings.video.maxSize := by
  have accepted : Settings.options { Settings.ofTempDir "" with video := { maxSize := 1023 } } =
      .ok { socketDir := "", maxSize := 1016 } := by rfl
  intro settings options platform host moves
  refine ⟨accepted, by decide, _, rfl, by decide +kernel, ?_⟩
  exact (@limited_of_run _ _ settings options accepted (by decide) platform _ rfl host true true {}
    moves).1

/-- A maximum that is too small for the grid is rounded to 0, which stands for no maximum. -/
theorem unlimited_below_grid :
    let settings : Settings := { Settings.ofTempDir "" with video := { maxSize := 5 } }
    let options : Options := { socketDir := "", maxSize := 0 }
    let platform : Platform := { naturalSize := ⟨1080, 1920⟩ }
    let host : ScriptedEncoders := { catalogue := [("avc", "video/avc")] }
    let moves : List (VideoMove ScriptedEncoders) := .start :: List.replicate 5 (.go 0)
    settings.options = .ok options ∧
      ∃ d, (create options platform).2 = .ok d ∧
        let world : VideoWorld ScriptedEncoders :=
          ⟨d.encodeScreen host options.videoSetup true true {}, d⟩
        ∃ call ∈ (world.run moves).session.calls, ∃ format ∈ call.configured?,
          format.size? = some ⟨1080, 1920⟩ ∧ settings.video.maxSize < 1080 := by
  have accepted : Settings.options { Settings.ofTempDir "" with video := { maxSize := 5 } } =
      .ok { socketDir := "", maxSize := 0 } := by rfl
  intro settings options platform host moves
  refine ⟨accepted, _, rfl, ?_⟩
  decide +kernel

end Device

end Screencast
