import Screencast.Proofs.Stream.Announcement
import Screencast.Proofs.Video.Stream

/-!
What a video session that fails has told the desktop, on a sink that takes everything. Its header is
in front of the first packet of all attempts, and it exits through one place, where a marker is
written if no header was; so at any time between two writes there is nothing on the channel, or a
header (`VideoStage.Told`).
-/

namespace Screencast

open Framer (fresh)

/-- What opens a stream of pictures: a header for pictures of some size. -/
def VideoCodec.Opens (codec : VideoCodec) (header : Bytes) : Prop :=
  ∃ size, header = codec.header size

/-- Nothing was written, or a header with packets behind it. -/
def VideoCodec.Begun (codec : VideoCodec) (framed : Bool) (base : Bytes) (framer : Framer)
    (accepted : Bytes) : Prop :=
  framer = fresh (.video codec) framed ∧ accepted = base ∨
    (fresh (.video codec) framed).Headed codec.Opens base framer accepted

/-- What a session has told the desktop when it is in a stage, on a sink that takes everything and
had `base` before. Nothing more is known of one that was stopped. -/
def VideoStage.Told (codec : VideoCodec) (framed : Bool) (base : Bytes) (framer : Framer)
    (accepted : Bytes) : VideoStage → Prop
  | .sendHeader a _ _ t =>
    framer = (fresh (.video codec) framed).begun ∧ accepted = base ∧ t.rest = codec.header a.size
  | .sendPacket _ _ t =>
    (fresh (.video codec) framed).Headed codec.Opens base framer (accepted ++ t.rest)
  | .announce _ t => accepted = base ∧ t.rest = Framer.errorMarker
  | .ended (.error e) =>
    e.isDisconnect = false →
      (fresh (.video codec) framed).Announced codec.Opens false base accepted
  | .tearDown _ (.ok .stopped) | .conclude _ (.ok .stopped) | .ended (.ok _) => True
  | _ => codec.Begun framed base framer accepted

variable {codec : VideoCodec} {framed : Bool} {base : Bytes}

namespace VideoStage

/-- Between two writes, unless the session was stopped or has failed. -/
theorem Told.begun {stage : VideoStage} {framer : Framer} {accepted : Bytes}
    (told : stage.Told codec framed base framer accepted) (idle : stage.transfer? = none)
    (early : stage.isLast = false) : codec.Begun framed base framer accepted := by
  unfold Told at told
  split at told
  · cases idle
  · cases idle
  · cases idle
  · cases early
  · cases early
  · cases early
  · cases early
  · exact told

theorem told_of_begun {stage : VideoStage} {framer : Framer} {accepted : Bytes}
    (begun : codec.Begun framed base framer accepted) (idle : stage.transfer? = none)
    (going : ∀ e, stage ≠ .ended (.error e)) : stage.Told codec framed base framer accepted := by
  unfold Told
  split
  · cases idle
  · cases idle
  · cases idle
  · exact absurd rfl (going _)
  · trivial
  · trivial
  · trivial
  · exact begun

end VideoStage

namespace VideoOutline

variable {s s' : VideoOutline} {g g' : DeviceGeometry} {fetched : Option Fetched}

/-- What a session has told the desktop, by its stage. -/
def Tells (codec : VideoCodec) (framed : Bool) (base : Bytes) (s : VideoOutline) : Prop :=
  s.stage.Told codec framed base s.framer s.sink.accepted

/-- A packet that is begun comes behind the header. -/
theorem tells_beginPacket
    (headed : (fresh (.video codec) framed).Headed codec.Opens base s.framer s.sink.accepted)
    (a : Attempt) (output : OutputBuffer) (data : Bytes) :
    Tells codec framed base (s.beginPacket a output data) := by
  unfold Tells VideoSession.beginPacket
  split
  · exact .inr headed
  · rename_i packed
    exact .inr (headed.silent packed)
  · rename_i packed
    exact headed.packet packed

/-- A session that fails without a header writes a marker, unless the desktop is gone. -/
theorem tells_exit (begun : codec.Begun framed base s.framer s.sink.accepted) (e : Error) :
    Tells codec framed base (s.exit (.error e)) := by
  unfold Tells VideoSession.exit
  dsimp only
  rcases begun with ⟨framer, nothing⟩ | headed
  · rw [framer, Framer.disable_fresh]
    split
    · rename_i gone
      have disconnected : e.isDisconnect = true := by simpa [fresh] using gone
      exact fun present => by simp [disconnected] at present
    · exact ⟨nothing, rfl⟩
  · rw [headed.sent, Bool.or_true, if_pos rfl]
    exact fun _ => .headed rfl headed

theorem Step.tells (step : Step s g fetched s' g') (opened : s.sink.Open)
    (tells : Tells codec framed base s) : Tells codec framed base s' := by
  unfold Tells at tells
  cases step with
  | observe stage | measure stage | noEncoder stage | encoder stage | noDisplay stage
  | display stage | skip stage | restart stage | smaller stage =>
    rw [stage] at tells
    exact tells
  | configure stage goesOn =>
    rw [stage] at tells
    rcases goesOn with rfl | ⟨e, rfl⟩ <;> exact tells
  | @work a calls next working goesOn =>
    obtain ⟨idle, early⟩ := working.early
    have begun := tells.begun idle early
    rcases goesOn with working | ⟨output, rfl⟩ | ⟨ending, rfl⟩
    · obtain ⟨idle, early⟩ := working.early
      refine VideoStage.told_of_begun begun idle fun e failed => ?_
      have failed : next = .ended (.error e) := failed
      simp [failed, VideoStage.isLast] at early
    · exact begun
    · exact VideoStage.told_of_begun begun rfl (by simp)
  | abandon => trivial
  | @header a output data bytes framer stage header =>
    rw [stage] at tells
    rcases tells with ⟨start, nothing⟩ | headed
    · rw [start, Framer.videoHeader_fresh] at header
      cases header
      exact ⟨rfl, nothing, rfl⟩
    · rw [Framer.videoHeader_of_sent headed.sent] at header
      cases header
  | @packet a output data framer stage header =>
    rw [stage] at tells
    rcases tells with ⟨start, nothing⟩ | headed
    · rw [start, Framer.videoHeader_fresh] at header
      cases header
    · rw [Framer.videoHeader_of_sent headed.sent] at header
      cases header
      exact tells_beginPacket (s := s.record [.encoder (.readOutput a.encoder output.index)])
        headed a output data
  -- an open sink takes all at once
  | headerWaits stage written | headerFails stage written | packetWaits stage written
  | markWaits stage written =>
    rw [opened.transfer] at written
    cases written
  | @headerDone a output data t sink stage written =>
    rw [opened.transfer] at written
    cases written
    rw [stage] at tells
    obtain ⟨framer, nothing, rest⟩ := tells
    refine tells_beginPacket (s := { s with sink := s.sink.taking t.rest }) ?_ a output data
    dsimp only
    rw [framer, Sink.taking, nothing, rest]
    exact .header ⟨a.size, rfl⟩
  | @packetEnds a output t sink result stage written =>
    rw [opened.transfer] at written
    cases written
    rw [stage] at tells
    exact .inr tells
  | markEnds stage written =>
    rw [opened.transfer] at written
    cases written
    rw [stage] at tells
    obtain ⟨nothing, mark⟩ := tells
    refine fun _ => .marked ?_
    dsimp only
    rw [Sink.taking, nothing, mark]
    rfl
  -- the end of an attempt
  | @tearDown a ending stage =>
    rw [stage] at tells
    rcases ending with e | (_ | _ | _) <;> exact tells
  | finish stage concludes =>
    rw [stage] at tells
    cases concludes with
    | done => trivial
    | exhausted | failed => exact tells_exit tells _

theorem Around.tells (around : Around s g s' g') (tells : Tells codec framed base s) :
    Tells codec framed base s' := by
  cases around with
  | start idle =>
    unfold Tells at tells
    rw [idle] at tells
    exact tells
  | still | drain | hangUp | turn => exact tells

/-- A step leaves the sink alone, or goes on with a transfer. -/
theorem Step.sink_eq (step : Step s g fetched s' g') :
    s'.sink = s.sink ∨ ∃ t, s'.sink = (s.sink.transfer t).1 := by
  cases step with
  | headerWaits stage written | headerFails stage written | packetWaits stage written
  | packetEnds stage written | markWaits stage written | markEnds stage written =>
    exact .inr ⟨_, by rw [written]⟩
  | headerDone stage written =>
    rw [VideoSession.beginPacket_sink]
    exact .inr ⟨_, by rw [written]⟩
  | packet => exact .inl (VideoSession.beginPacket_sink ..)
  | finish => exact .inl (VideoSession.exit_sink ..)
  | observe | measure | noEncoder | encoder | noDisplay | display | configure | work | abandon
  | skip | header | tearDown | restart | smaller => exact .inl rfl

theorem Step.opens (step : Step s g fetched s' g') (opened : s.sink.Open) : s'.sink.Open :=
  opened.moved step.sink_eq

end VideoOutline

namespace VideoWorld

variable {σ : Type} [EncoderHost σ]

/-- A sink that takes everything does so until the desktop goes away. -/
theorem open_of_apply {w : VideoWorld σ} (opened : w.session.sink.Open) {move : VideoMove σ}
    (connected : ∀ e, move ≠ .hangUp e) : (w.apply move).session.sink.Open := by
  cases move with
  | go pick =>
    cases next : w.next? pick with
    | none => simpa [apply, next] using opened
    | some after =>
      obtain ⟨went, stepped, rfl⟩ := Option.map_eq_some_iff.mp next
      have still : went.1.sink.Open := (VideoSession.step_outline stepped).opens opened
      simpa [apply, next] using still
  | start =>
    have same : w.session.start.sink = w.session.sink := by
      unfold VideoSession.start
      split <;> rfl
    exact same ▸ opened
  | drain n => exact opened.drain n
  | hangUp e => exact absurd rfl (connected e)
  | stop | encoders | report | turn | publish | platform => exact opened

theorem tells_of_apply {w : VideoWorld σ} (opened : w.session.sink.Open)
    (tells : w.session.outline.Tells codec framed base) (move : VideoMove σ) :
    (w.apply move).session.outline.Tells codec framed base := by
  by_cases steps : ∃ pick, move = .go pick
  · obtain ⟨pick, rfl⟩ := steps
    cases next : w.next? pick with
    | none => simpa [apply, next] using tells
    | some after =>
      obtain ⟨went, stepped, rfl⟩ := Option.map_eq_some_iff.mp next
      have told := (VideoSession.step_outline stepped).tells opened tells
      simpa [apply, next] using told
  · exact (VideoWorld.around fun pick same => steps ⟨pick, same⟩).tells tells

/-- As long as the desktop is there, a session has told it what its stage says. -/
theorem tells_of_run {w : VideoWorld σ} (opened : w.session.sink.Open)
    {moves : List (VideoMove σ)} (connected : ∀ e, .hangUp e ∉ moves)
    (tells : w.session.outline.Tells codec framed base) :
    (w.run moves).session.outline.Tells codec framed base := by
  induction moves generalizing w with
  | nil => exact tells
  | cons move moves ih =>
    refine ih (open_of_apply opened fun e same => connected e (same ▸ .head _))
      (fun e later => connected e (.tail _ later)) ?_
    exact tells_of_apply opened tells move

end VideoWorld

/-- A session that fails while the desktop is there has announced its stream. -/
theorem Device.told_of_run {σ : Type} [EncoderHost σ] (d : Device) (host : σ)
    (setup : VideoSetup) (frameMeta : Bool) {sink : Sink} (opened : sink.Open)
    {moves : List (VideoMove σ)} (connected : ∀ e, .hangUp e ∉ moves) {e : Error}
    (present : e.isDisconnect = false) :
    let world : VideoWorld σ := ⟨d.encodeScreen host setup true frameMeta sink, d⟩
    (world.run moves).session.result? = some (.error e) →
      (fresh (.video setup.codec) frameMeta).Announced setup.codec.Opens false sink.accepted
        (world.run moves).session.sink.accepted := by
  intro world failed
  have start : world.session.outline.Tells setup.codec frameMeta sink.accepted :=
    .inl ⟨rfl, rfl⟩
  have tells := VideoWorld.tells_of_run opened connected start
  have stage : (world.run moves).session.outline.stage = .ended (.error e) :=
    VideoSession.stage_of_result? failed
  unfold VideoOutline.Tells at tells
  rw [stage] at tells
  exact tells present

end Screencast
