import Screencast.Encoder.Scripted
import Screencast.Proofs.Video.Run
import Screencast.Proofs.Video.Service
import Screencast.Proofs.Video.Sighting
import Screencast.Proofs.Video.Waiting

/-!
No rotation is lost. A session marks the rotations as seen before it reads the geometry, and a
rotation changes the geometry before it is published. So what a session has read is either current,
or it has yet to hear of a rotation (`Watching`), however the steps of the two are interleaved.
-/

namespace Screencast

/-- The attempt of a session that waits for its encoder. -/
def VideoStage.awaited? : VideoStage → Option Attempt
  | .await a => some a
  | _ => none

theorem VideoStage.eq_await {stage : VideoStage} {a : Attempt} (h : stage.awaited? = some a) :
    stage = .await a := by
  unfold awaited? at h
  split at h <;> cases h
  rfl

namespace VideoSession

variable {σ : Type}

/-- Encoder and display of an attempt are set up for the geometry of the device. -/
structure Shows (s : VideoSession σ) (d : Device) (a : Attempt) : Prop where
  size : a.size = d.layout.videoSize
  formatted : lastTold? VideoCall.formatted? s.calls =
    some (a.encoder, s.baseFormat.withSize d.layout.videoSize)
  bound : lastTold? VideoCall.bound? s.calls = some (a.display, projection d)

/-- The encoder of an attempt was configured with the size of the attempt. -/
structure Sized (s : VideoSession σ) (d : Device) (fresh : Prop) (a : Attempt) : Prop where
  current : fresh → a.size = d.layout.videoSize
  formatted : lastTold? VideoCall.formatted? s.calls =
    some (a.encoder, s.baseFormat.withSize a.size)

/-- What an attempt has read of the geometry is current where the session is `fresh`: where it has
seen every rotation there was. -/
inductive Abreast (s : VideoSession σ) (d : Device) (fresh : Prop) : Phase → Prop
  | apart : Abreast s d fresh .apart
  | measured {size : Size} (current : fresh → size = d.layout.videoSize) :
    Abreast s d fresh (.measured size)
  | configured {a : Attempt} (sized : Sized s d fresh a) : Abreast s d fresh (.configured a)
  | projected {a : Attempt} {p : Projection} (sized : Sized s d fresh a)
      (current : fresh → p = projection d) : Abreast s d fresh (.projected a p)
  | bound {a : Attempt} {p : Projection} (sized : Sized s d fresh a)
      (bound : lastTold? VideoCall.bound? s.calls = some (a.display, p))
      (current : fresh → p = projection d) : Abreast s d fresh (.bound a)

variable {s s' : VideoSession σ} {d d' : Device} {fresh fresh' : Prop} {a : Attempt} {phase : Phase}

/-- The same was read of the geometry, by the same calls. -/
structure SameReading (s s' : VideoSession σ) : Prop where
  setup : s'.setup = s.setup
  seen : s'.seen = s.seen
  calls : s'.calls = s.calls
  phase : s'.stage.phase = s.stage.phase

theorem SameReading.start (s : VideoSession σ) : s.SameReading s.start := by
  unfold VideoSession.start
  split
  · rename_i idle
    exact ⟨rfl, rfl, rfl, by rw [idle]; rfl⟩
  · exact ⟨rfl, rfl, rfl, rfl⟩

/-- A session that was not fresh does not become so, and a fresh one stays so only under the same
geometry. -/
def Lasts (d d' : Device) (fresh fresh' : Prop) : Prop := fresh' → fresh ∧ d.SameView d'

theorem Sized.keep (sized : Sized s d fresh a) (lasts : Lasts d d' fresh fresh')
    (base : s'.baseFormat = s.baseFormat)
    (told : lastTold? VideoCall.formatted? s'.calls = lastTold? VideoCall.formatted? s.calls) :
    Sized s' d' fresh' a where
  current isFresh := by
    obtain ⟨wasFresh, view⟩ := lasts isFresh
    rw [view.layout]
    exact sized.current wasFresh
  formatted := by
    rw [told, base]
    exact sized.formatted

/-- Nothing that is not about the geometry matters. -/
theorem Abreast.keep (abreast : Abreast s d fresh phase) (lasts : Lasts d d' fresh fresh')
    (base : s'.baseFormat = s.baseFormat) {calls : List VideoCall}
    (made : s'.calls = s.calls ++ calls)
    (plain : ∀ call ∈ calls, call.formatted? = none ∧ call.bound? = none) :
    Abreast s' d' fresh' phase := by
  have formatted : lastTold? VideoCall.formatted? s'.calls =
      lastTold? VideoCall.formatted? s.calls := by
    rw [made]
    exact lastTold?_append fun call member => (plain call member).1
  have bounds : lastTold? VideoCall.bound? s'.calls = lastTold? VideoCall.bound? s.calls := by
    rw [made]
    exact lastTold?_append fun call member => (plain call member).2
  have projects {p : Projection} (current : fresh → p = projection d) (isFresh : fresh') :
      p = projection d' := by
    obtain ⟨wasFresh, view⟩ := lasts isFresh
    rw [view.projection]
    exact current wasFresh
  cases abreast with
  | apart => exact .apart
  | measured current =>
    refine .measured fun isFresh => ?_
    obtain ⟨wasFresh, view⟩ := lasts isFresh
    rw [view.layout]
    exact current wasFresh
  | configured sized => exact .configured (sized.keep lasts base formatted)
  | projected sized current =>
    exact .projected (sized.keep lasts base formatted) (projects current)
  | bound sized bound current =>
    exact .bound (sized.keep lasts base formatted) (bounds.trans bound) (projects current)

/-- One step reads what there is to read, commits to it, or does neither. -/
theorem Abreast.sighting (abreast : Abreast s d fresh s.stage.phase)
    (sighting : Sighting s d s' d') (base : s'.baseFormat = s.baseFormat)
    (same : s'.seen = s.seen → fresh' → fresh) : Abreast s' d' fresh' s'.stage.phase := by
  cases sighting with
  | onward view seen made plain phase =>
    rw [phase]
    exact abreast.keep (fun isFresh => ⟨same seen isFresh, view⟩) base made plain
  | measure view seen phase =>
    rw [phase]
    refine .measured fun _ => ?_
    rw [view.layout]
  | configure view seen made before phase =>
    rw [before] at abreast
    rw [phase]
    cases abreast with
    | measured current =>
      refine .configured ⟨fun isFresh => ?_, ?_⟩
      · rw [view.layout]
        exact current (same seen isFresh)
      · rw [base]
        exact lastTold?_told made rfl
  | project view seen made before phase =>
    rw [before] at abreast
    rw [phase]
    cases abreast with
    | configured sized =>
      refine .projected (sized.keep (fun isFresh => ⟨same seen isFresh, view⟩) base ?_) fun _ => ?_
      · rw [made]
      · rw [view.projection]
  | bind view seen made before phase =>
    rw [before] at abreast
    rw [phase]
    cases abreast with
    | projected sized current =>
      refine .bound (sized.keep (fun isFresh => ⟨same seen isFresh, view⟩) base ?_)
        (lastTold?_told made rfl) ?_
      · rw [made]
        exact lastTold?_append (by simp [VideoCall.formatted?])
      · intro isFresh
        rw [view.projection]
        exact current (same seen isFresh)
  | leave version seen phase =>
    rw [phase]
    exact .apart

end VideoSession

/-! ### Rotations in two halves -/

/-- A session and its device, where a rotation is published after the geometry has followed it. -/
structure TurningWorld (σ : Type) where
  world : VideoWorld σ
  /-- The rotations that the geometry has followed and that are not published yet. -/
  halfway : List Nat := []

namespace TurningWorld

variable {σ : Type}

/-- There is no rotation that the session has not seen, and none between its halves. -/
structure Fresh (w : TurningWorld σ) : Prop where
  seen : w.world.session.seen = w.world.device.rotationVersion
  whole : w.halfway = []

/-- A session cannot have seen what is not published, and what it has read is current unless it has
yet to hear of a rotation. -/
structure Watching (base : EncoderFormat) (w : TurningWorld σ) : Prop where
  base : w.world.session.baseFormat = base
  seen : w.world.session.seen ≤ w.world.device.rotationVersion
  abreast : VideoSession.Abreast w.world.session w.world.device w.Fresh w.world.session.stage.phase

variable {base : EncoderFormat} {w : TurningWorld σ}

/-- Whatever happens around a session touches neither its calls nor what it has read. -/
theorem Watching.around (watching : Watching base w) {w' : TurningWorld σ}
    (same : w.world.session.SameReading w'.world.session)
    (version : w.world.device.rotationVersion ≤ w'.world.device.rotationVersion)
    (lasts : VideoSession.Lasts w.world.device w'.world.device w.Fresh w'.Fresh) :
    Watching base w' where
  base := by
    rw [VideoSession.baseFormat, same.setup]
    exact watching.base
  seen := by
    rw [same.seen]
    exact Nat.le_trans watching.seen version
  abreast := by
    rw [same.phase]
    have format : w'.world.session.baseFormat = w.world.session.baseFormat := by
      rw [VideoSession.baseFormat, VideoSession.baseFormat, same.setup]
    have silent : w'.world.session.calls = w.world.session.calls ++ [] := by
      rw [same.calls, List.append_nil]
    exact watching.abreast.keep lasts format silent (by simp)

theorem Watching.shows (watching : Watching base w) (fresh : w.Fresh) {a : Attempt}
    (waiting : w.world.session.stage = .await a) : w.world.session.Shows w.world.device a := by
  have abreast := watching.abreast
  rw [waiting, VideoStage.phase] at abreast
  cases abreast with
  | bound sized bound current =>
    have size := sized.current fresh
    refine ⟨size, ?_, ?_⟩
    · rw [sized.formatted, size]
    · rw [bound, current fresh]

theorem watching_start (d : Device) (host : σ) (setup : VideoSetup) (codecMeta frameMeta : Bool)
    (sink : Sink) (halfway : List Nat) :
    let session := d.encodeScreen host setup codecMeta frameMeta sink
    Watching session.baseFormat ⟨⟨session, d⟩, halfway⟩ := by
  intro session
  exact ⟨rfl, Nat.le_refl _, .apart⟩

variable [EncoderHost σ]

def apply (w : TurningWorld σ) (move : VideoMove σ) : TurningWorld σ :=
  match move with
  | .turn rotation => { world := w.world.apply move, halfway := rotation :: w.halfway }
  | .publish rotation =>
    if rotation ∈ w.halfway then
      { world := w.world.apply move, halfway := w.halfway.erase rotation }
    else w
  | _ => { w with world := w.world.apply move }

def run (w : TurningWorld σ) (moves : List (VideoMove σ)) : TurningWorld σ := moves.foldl apply w

theorem Watching.go (watching : Watching base w) (pick : Nat) :
    Watching base (w.apply (.go pick)) := by
  change Watching base { w with world := (w.world.next? pick).getD w.world }
  cases next : w.world.next? pick with
  | none => exact watching
  | some world =>
    obtain ⟨after, stepped, rfl⟩ := Option.map_eq_some_iff.mp next
    have setup : after.1.setup = w.world.session.setup :=
      (VideoSession.step_outline stepped).setup_eq
    have format : after.1.baseFormat = w.world.session.baseFormat := by
      rw [VideoSession.baseFormat, VideoSession.baseFormat, setup]
    have sighting := VideoSession.step_sighting stepped
    have version := sighting.version_eq
    refine ⟨format.trans watching.base, ?_, watching.abreast.sighting sighting format ?_⟩
    · have bound := watching.seen
      rw [Option.getD_some, version]
      rcases sighting.seen_eq with same | caughtUp
      · rw [same]
        exact bound
      · exact Nat.le_of_eq caughtUp
    · intro same fresh
      refine ⟨?_, fresh.whole⟩
      rw [← same, ← version]
      exact fresh.seen

/-- Between its halves a rotation is not seen, and neither is it right after. -/
theorem Watching.apply (watching : Watching base w) (move : VideoMove σ) :
    Watching base (w.apply move) := by
  have still (session : VideoSession σ) (same : w.world.session.SameReading session) :
      Watching base { w with world.session := session } := by
    refine watching.around same (Nat.le_refl _) fun fresh => ⟨⟨?_, fresh.whole⟩, .rfl⟩
    rw [← same.seen]
    exact fresh.seen
  cases move with
  | go pick => exact watching.go pick
  | start => exact still _ (.start _)
  | stop | encoders host | report listening | drain n | hangUp e =>
    exact still _ ⟨rfl, rfl, rfl, rfl⟩
  | turn rotation =>
    refine watching.around ⟨rfl, rfl, rfl, rfl⟩ (Nat.le_refl _) fun fresh => ?_
    exact absurd fresh.whole (List.cons_ne_nil _ _)
  | publish rotation =>
    change Watching base (if rotation ∈ w.halfway then
      { world := w.world.apply (.publish rotation), halfway := w.halfway.erase rotation } else w)
    split
    · refine watching.around ⟨rfl, rfl, rfl, rfl⟩ (Nat.le_succ _) fun fresh => ?_
      have caughtUp : w.world.session.seen = w.world.device.rotationVersion + 1 := fresh.seen
      have behind := watching.seen
      omega
    · exact watching
  | platform p =>
    refine watching.around ⟨rfl, rfl, rfl, rfl⟩ (Nat.le_refl _) fun fresh => ?_
    exact ⟨⟨fresh.seen, fresh.whole⟩, ⟨rfl, rfl, rfl⟩⟩

theorem Watching.run (watching : Watching base w) (moves : List (VideoMove σ)) :
    Watching base (w.run moves) := by
  induction moves generalizing w with
  | nil => exact watching
  | cons move moves ih => exact ih (watching.apply move)

/-- A session that has to wait for its encoder has seen all that was published. -/
theorem seen_of_waits {s : VideoSession σ} {d : Device} {a : Attempt} {pick : Nat}
    (stage : s.stage = .await a) (waits : s.step pick d = none) : s.seen = d.rotationVersion := by
  have going : s.underWay = true := by simp [VideoSession.underWay, stage]
  cases VideoSession.waits_of_step going waits with
  | output other sound seen empty => exact seen
  | header other | packet other | mark other => exact absurd (stage.symm.trans other) (by simp)

end TurningWorld

namespace Device

variable {σ : Type} [EncoderHost σ]

/-- However rotations come between the steps of a session: where it waits for an encoder, and there
is no rotation that it has not seen and none between its halves, encoder and display are set up for
the geometry there is. The session makes the calls that it notes. -/
theorem shows_of_run (d : Device) (host : σ) (setup : VideoSetup) (codecMeta frameMeta : Bool)
    (sink : Sink) (halfway : List Nat) (moves : List (VideoMove σ)) :
    let session := d.encodeScreen host setup codecMeta frameMeta sink
    let w := (TurningWorld.mk ⟨session, d⟩ halfway).run moves
    (∀ a, w.world.session.stage = .await a → w.Fresh →
      w.world.session.Shows w.world.device a) ∧ w.world.session.Faithful w.world.device := by
  intro session w
  have watching : w.Watching session.baseFormat := (TurningWorld.watching_start ..).run moves
  exact ⟨fun a waiting fresh => watching.shows fresh waiting, VideoSession.faithful _ _⟩

/-- The screen is turned after its size was read and before the projection is, and the rotation is
published while the encoder is set up. The second attempt shows what the first could not. -/
theorem shows_of_run_turned :
    let d : Device :=
      { unused { naturalSize := ⟨1440, 3200⟩ } with
        geometry := .start 0 ⟨1440, 3200⟩ none 0 .unlocked }
    let host : ScriptedEncoders := { catalogue := [("avc", "video/avc")] }
    let setup : VideoSetup :=
      { codec := .h264, bitRate := 8000000, maxFps := 60, codecOptions := [] }
    let moves : List (VideoMove ScriptedEncoders) :=
      .start :: List.replicate 2 (.go 0) ++ .turn 1 :: List.replicate 4 (.go 0) ++
        .publish 1 :: List.replicate 16 (.go 0)
    let w := (TurningWorld.mk ⟨d.encodeScreen host setup true true {}, d⟩ []).run moves
    let a : Attempt := ⟨2, 2, ⟨3200, 1440⟩⟩
    w.world.session.stage = .await a ∧ w.Fresh ∧ w.world.session.Shows w.world.device a := by
  intro d host setup moves w a
  have shows := (shows_of_run d host setup true true {} [] moves).1
  have waiting : w.world.session.stage = .await a := VideoStage.eq_await (by decide +kernel)
  have fresh : w.Fresh := ⟨by decide +kernel, by decide +kernel⟩
  dsimp only [w] at waiting fresh ⊢
  exact ⟨waiting, fresh, shows a waiting fresh⟩

/-- Where a session has to wait for its encoder it has seen what was published, so that only a
rotation between its halves can be missing. -/
theorem shows_of_waits (d : Device) (host : σ) (setup : VideoSetup) (codecMeta frameMeta : Bool)
    (sink : Sink) (halfway : List Nat) (moves : List (VideoMove σ)) :
    let session := d.encodeScreen host setup codecMeta frameMeta sink
    let w := (TurningWorld.mk ⟨session, d⟩ halfway).run moves
    ∀ a pick, w.world.session.stage = .await a →
      w.world.session.step pick w.world.device = none → w.halfway = [] →
      w.world.session.Shows w.world.device a := by
  intro session w a pick waiting waits whole
  have watching : w.Watching session.baseFormat := (TurningWorld.watching_start ..).run moves
  have seen := TurningWorld.seen_of_waits waiting waits
  exact watching.shows ⟨seen, whole⟩ waiting

end Device

end Screencast
