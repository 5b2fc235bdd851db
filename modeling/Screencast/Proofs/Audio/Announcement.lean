import Screencast.Proofs.Audio.Recording
import Screencast.Proofs.Stream.Announcement

/-!
What an audio session that fails has told the desktop, on a sink that takes everything. Until its
header is written it writes nothing but a marker, and then only packets; so what the stage is tells
what is on the channel (`AudioStage.Told`). One way out tells nothing: while its header waits to be
written the encoding can already be ended by an error of the other side (`AudioStage.overtakes`).
-/

namespace Screencast

/-- The check whether sound can be captured says that this platform cannot. -/
def AudioEvent.isRefusal : AudioEvent → Bool
  | .checked (.error (.unsupported _)) => true
  | _ => false

open AudioEvent (isRefusal)
open Framer (fresh)

/-- The encoding was ended by an error while its header was not written. -/
def AudioStage.overtakes : AudioStage → AudioStage → Bool
  | .encoding _ _ (.header _), .tearDown _ (.error _) => true
  | _, _ => false

theorem AudioStage.not_overtakes {before after : AudioStage}
    (other : ∀ encoder e, after ≠ .tearDown encoder (.error e)) :
    before.overtakes after = false := by
  unfold overtakes
  split
  · exact absurd rfl (other _ _)
  · rfl

theorem AudioStage.overtakes_self (stage : AudioStage) : stage.overtakes stage = false := by
  cases stage with
  | encoding encoder input output => cases output <;> rfl
  | idle | check | announce | openEncoder | configure | startCapture | startEncoder | recordHeader
  | recordRead | recordWrite | tearDown | stopCapture | ended => rfl

/-- A session that fails has announced its stream; or an error came before the header. -/
def AudioCodec.Leaves (codec : AudioCodec) (framed refused overtaken : Bool)
    (base accepted : Bytes) : Prop :=
  if overtaken then accepted = base
  else (fresh (.audio codec) framed).Announced (· = codec.header) refused base accepted

/-- A header was written, with or without packets behind it. -/
abbrev AudioCodec.Headed (codec : AudioCodec) (framed : Bool) (base : Bytes) (framer : Framer)
    (accepted : Bytes) : Prop :=
  (fresh (.audio codec) framed).Headed (· = codec.header) base framer accepted

/-- What a session has told the desktop when it is in a stage, on a sink that takes everything and
had `base` before. Nothing more is known of one that ends without an error. -/
def AudioStage.Told (codec : AudioCodec) (framed : Bool) (base : Bytes) (refused overtaken : Bool)
    (framer : Framer) (accepted : Bytes) : AudioStage → Prop
  | .idle | .check | .openEncoder | .configure _ | .startCapture _ | .startEncoder _ =>
    (refused = false ∧ overtaken = false) ∧ framer = fresh (.audio codec) framed ∧ accepted = base
  | .announce t _ =>
    overtaken = false ∧ accepted = base ∧
      t.rest = if refused then Framer.disabledMarker else Framer.errorMarker
  | .recordHeader t | .encoding _ _ (.header t) =>
    (refused = false ∧ overtaken = false) ∧ framer = (fresh (.audio codec) framed).begun ∧
      accepted = base ∧ t.rest = codec.header
  | .recordRead | .encoding _ _ .idle =>
    (refused = false ∧ overtaken = false) ∧ codec.Headed framed base framer accepted
  | .recordWrite t =>
    (refused = false ∧ overtaken = false) ∧ codec.Headed framed base framer (accepted ++ t.rest)
  -- an encoded packet is taken at once
  | .encoding _ _ (.writing _ _) => False
  | .tearDown _ (.error _) | .stopCapture (.error _) | .ended (.error _) =>
    codec.Leaves framed refused overtaken base accepted
  | .tearDown _ (.ok _) | .stopCapture (.ok _) | .ended (.ok _) => True

namespace AudioOutline

variable {codec : AudioCodec} {framed refused overtaken : Bool} {base : Bytes}
  {events : List AudioEvent} {s s' : AudioOutline}

/-- What a session has told the desktop, by its stage. -/
def Tells (codec : AudioCodec) (framed : Bool) (base : Bytes) (refused overtaken : Bool)
    (s : AudioOutline) : Prop :=
  s.stage.Told codec framed base refused overtaken s.framer s.sink.accepted

theorem leaves_of_headed {framer : Framer} {accepted : Bytes}
    (plain : refused = false ∧ overtaken = false)
    (headed : codec.Headed framed base framer accepted) :
    codec.Leaves framed refused overtaken base accepted := by
  rw [plain.2]
  exact .headed plain.1 headed

/-- A session that cannot be set up goes on to write the marker, and nothing else. -/
theorem tells_disable {isError : Bool} {sequel : Sequel}
    (same : isError = !refused) (intime : overtaken = false)
    (framer : s.framer = fresh (.audio codec) framed) (nothing : s.sink.accepted = base) :
    Tells codec framed base refused overtaken (s.disable isError sequel) := by
  have disabled : s.disable isError sequel = { s with
      framer := (fresh (.audio codec) framed).begun
      stage := .announce
        { rest := if isError then Framer.errorMarker else Framer.disabledMarker } sequel } := by
    unfold AudioSession.disable
    rw [framer, Framer.disable_fresh]
  rw [disabled]
  refine ⟨intime, nothing, ?_⟩
  rw [same]
  cases refused <;> rfl

/-- A header that is taken at once. -/
theorem told_of_header {framer : Framer} {sink : Sink} {t : Transfer}
    (told : (refused = false ∧ overtaken = false) ∧
      framer = (fresh (.audio codec) framed).begun ∧ sink.accepted = base ∧
      t.rest = codec.header) :
    (refused = false ∧ overtaken = false) ∧
      codec.Headed framed base framer (sink.taking t.rest).accepted := by
  obtain ⟨plain, framer, nothing, rest⟩ := told
  refine ⟨plain, ?_⟩
  rw [framer, Sink.taking, nothing, rest]
  exact .header rfl

/-- A packet that is begun comes behind the header; if it cannot be packed, the header is all. -/
theorem tells_beginRecordWrite (plain : refused = false ∧ overtaken = false)
    (headed : codec.Headed framed base s.framer s.sink.accepted) (data : Bytes) :
    Tells codec framed base refused overtaken (s.beginRecordWrite data) := by
  unfold Tells AudioSession.beginRecordWrite
  dsimp only
  split
  · exact leaves_of_headed plain headed
  · rename_i packed
    exact ⟨plain, headed.packet packed⟩

/-- Before its header is written an encoding ends without an announcement, and afterwards with
one. -/
theorem leaves_of_encoding {encoder : Nat} {input : InputStage} {output : OutputStage}
    {framer : Framer} {accepted : Bytes} (e : Error)
    (told : AudioStage.Told codec framed base refused overtaken framer accepted
      (.encoding encoder input output)) :
    AudioStage.Told codec framed base refused
      (overtaken || AudioStage.overtakes (.encoding encoder input output)
        (.tearDown (some encoder) (.error e))) framer accepted
      (.tearDown (some encoder) (.error e)) := by
  cases output with
  | header t =>
    rw [AudioStage.overtakes, Bool.or_true]
    exact told.2.2.1
  | idle =>
    have behind : AudioStage.overtakes (.encoding encoder input .idle)
        (.tearDown (some encoder) (.error e)) = false := rfl
    rw [behind, Bool.or_false]
    exact leaves_of_headed told.1 told.2
  | writing => exact told.elim

/-- The input side does not write. -/
theorem told_encoding {encoder : Nat} {before after : InputStage} {output : OutputStage}
    {framer : Framer} {accepted : Bytes}
    (told : AudioStage.Told codec framed base refused overtaken framer accepted
      (.encoding encoder before output)) :
    AudioStage.Told codec framed base refused overtaken framer accepted
      (.encoding encoder after output) := by
  cases output <;> exact told

/-- A buffer that was given back leaves its packet behind the header, if there is one. -/
theorem told_of_after {encoder : Nat} {input : InputStage} {output : OutputBuffer}
    {written : Except Error Unit} {next : AudioStage} {framer : Framer} {accepted : Bytes}
    (plain : refused = false ∧ overtaken = false)
    (headed : codec.Headed framed base framer accepted)
    (after : AudioStage.AfterOutput encoder input output written next) :
    next.Told codec framed base refused overtaken framer accepted := by
  cases after with
  | fail e => exact leaves_of_headed plain headed
  | last => trivial
  | next => exact ⟨plain, headed⟩

/-- A step that brings no refusal, and does not overtake a header. -/
theorem Tells.noted {before : AudioStage} (tells : Tells codec framed base refused overtaken s)
    (able : events.any isRefusal = false) (intime : before.overtakes s.stage = false) :
    Tells codec framed base (refused || events.any isRefusal)
      (overtaken || before.overtakes s.stage) s := by
  rwa [able, intime, Bool.or_false, Bool.or_false]

theorem SettingUp.tells (step : SettingUp s events s') (opened : s.sink.Open)
    (tells : Tells codec framed base refused overtaken s) :
    Tells codec framed base (refused || events.any isRefusal)
      (overtaken || s.stage.overtakes s'.stage) s' := by
  unfold Tells at tells
  cases step with
  | available stage =>
    rw [stage] at tells ⊢
    refine Tells.noted ?_ rfl rfl
    unfold Tells
    dsimp only
    split <;> exact tells
  | @refuse e isError stage mark =>
    rw [stage] at tells ⊢
    obtain ⟨⟨able, intime⟩, framer, nothing⟩ := tells
    have first : AudioStage.check.overtakes (s.disable isError (.refuse e)).stage = false := rfl
    rw [able, first, intime]
    refine tells_disable ?_ rfl framer nothing
    cases e with
    | unsupported => simpa [isRefusal] using mark
    | configuration | invalidEncoder | codec | fallbackExhausted | protocol | io | channelClosed
    | sessionFailed => simpa [isRefusal] using mark
  | noEncoder stage | misfit stage | idleEncoder stage | silent stage =>
    rw [stage] at tells ⊢
    obtain ⟨⟨able, intime⟩, framer, nothing⟩ := tells
    exact Tells.noted (tells_disable (by rw [able]; rfl) intime framer nothing) rfl rfl
  | encoder stage | configure stage | capture stage =>
    rw [stage] at tells ⊢
    exact Tells.noted tells rfl rfl
  | recordFirst stage header | startEncoder stage header =>
    rw [stage] at tells ⊢
    obtain ⟨plain, framer, nothing⟩ := tells
    rw [framer, Framer.audioHeader_fresh] at header
    cases header
    exact Tells.noted ⟨plain, rfl, nothing, rfl⟩ rfl rfl
  | @markEnds t sequel sink told stage written =>
    rw [stage] at tells
    obtain ⟨intime, nothing, mark⟩ := tells
    rw [opened.transfer] at written
    cases written
    refine Tells.noted ?_ rfl (by rw [stage]; rfl)
    have marked : codec.Leaves framed refused overtaken base (s.sink.taking t.rest).accepted := by
      rw [intime, Sink.taking, nothing, mark]
      exact .marked rfl
    obtain ⟨next, follows, leads⟩ :=
      AudioSession.follow_eq { s with sink := s.sink.taking t.rest } sequel (.ok ())
    rw [follows]
    cases leads <;> exact marked
  -- an open sink takes all at once
  | markWaits stage written =>
    rw [opened.transfer] at written
    cases written

theorem Recording.tells (step : Recording s events s') (opened : s.sink.Open)
    (tells : Tells codec framed base refused overtaken s) :
    Tells codec framed base (refused || events.any isRefusal)
      (overtaken || s.stage.overtakes s'.stage) s' := by
  unfold Tells at tells
  cases step with
  -- an open sink takes all at once
  | recordHeaderWaits stage written | recordWriteWaits stage written | recordFails stage written =>
    rw [opened.transfer] at written
    cases written
  | @recordNext t sink stage written =>
    rw [opened.transfer] at written
    cases written
    rcases stage with stage | stage <;> rw [stage] at tells ⊢
    · exact Tells.noted (told_of_header tells) rfl rfl
    · exact Tells.noted tells rfl rfl
  | recordStops => trivial
  | recordUnread stage | recordSilence stage =>
    rw [stage] at tells ⊢
    exact Tells.noted (leaves_of_headed tells.1 tells.2) rfl rfl
  | @recordBlock capacity data stage sound =>
    rw [stage] at tells ⊢
    exact Tells.noted (tells_beginRecordWrite
      (s := s.record [.capture (.read capacity (.ok data))]) tells.1 tells.2 data) rfl rfl

theorem Filling.tells (step : Filling s events s')
    (tells : Tells codec framed base refused overtaken s) :
    Tells codec framed base (refused || events.any isRefusal)
      (overtaken || s.stage.overtakes s'.stage) s' := by
  unfold Tells at tells
  cases step with
  | @takeInput encoder index output listening next stage taken goesOn =>
    rw [stage] at tells ⊢
    rcases goesOn with ⟨capacity, rfl⟩ | ⟨e, rfl⟩
    · exact Tells.noted (told_encoding tells) rfl (AudioStage.not_overtakes (by simp))
    · have able : [AudioEvent.inputTaken index].any isRefusal = false := rfl
      rw [able, Bool.or_false]
      exact leaves_of_encoding e tells
  | @inputUnread encoder index capacity output result e stage =>
    rw [stage] at tells ⊢
    rw [List.any_nil, Bool.or_false]
    exact leaves_of_encoding e tells
  | queue stage sound goesOn =>
    rw [stage] at tells ⊢
    rcases goesOn with rfl | ⟨e, rfl⟩
    · exact Tells.noted (told_encoding tells) rfl (AudioStage.not_overtakes (by simp))
    · rw [List.any_nil, Bool.or_false]
      exact leaves_of_encoding e tells

theorem Draining.tells (step : Draining s events s') (opened : s.sink.Open)
    (tells : Tells codec framed base refused overtaken s) :
    Tells codec framed base (refused || events.any isRefusal)
      (overtaken || s.stage.overtakes s'.stage) s' := by
  unfold Tells at tells
  cases step with
  -- an open sink takes all at once
  | headerWaits stage written | headerFails stage written | packetWaits stage written
  | packetBegins stage taken used packed written =>
    rw [opened.transfer] at written
    cases written
  | headerDone stage written =>
    rw [opened.transfer] at written
    cases written
    rw [stage] at tells ⊢
    exact Tells.noted (told_of_header tells) rfl rfl
  | skip stage taken unwritten after =>
    rw [stage] at tells ⊢
    refine Tells.noted (told_of_after tells.1 ?_ after) rfl rfl
    cases unwritten with
    | missing | empty | refused => exact tells.2
    | implied used packed => exact tells.2.silent packed
  | packetWhole stage taken used packed written after =>
    rw [opened.transfer] at written
    cases written
    rw [stage] at tells ⊢
    exact Tells.noted (told_of_after tells.1 (tells.2.packet packed) after) rfl rfl
  | packetEnds stage =>
    rw [stage] at tells
    exact tells.elim

theorem Ending.tells (step : Ending s events s')
    (tells : Tells codec framed base refused overtaken s) :
    Tells codec framed base (refused || events.any isRefusal)
      (overtaken || s.stage.overtakes s'.stage) s' := by
  unfold Tells at tells
  cases step with
  | @finish encoder input output result stage why =>
    rw [stage] at tells ⊢
    cases result with
    | ok => trivial
    | error e =>
      rw [List.any_nil, Bool.or_false]
      exact leaves_of_encoding e tells
  | @release encoder result stage | @leave result stage =>
    rw [stage] at tells ⊢
    cases result with
    | ok => trivial
    | error e => exact Tells.noted tells rfl rfl
  | @stopCapture result stage =>
    rw [stage] at tells ⊢
    cases result with
    | ok => trivial
    | error e => exact Tells.noted tells rfl rfl

theorem Step.tells (step : Step s events s') (opened : s.sink.Open)
    (tells : Tells codec framed base refused overtaken s) :
    Tells codec framed base (refused || events.any isRefusal)
      (overtaken || s.stage.overtakes s'.stage) s' := by
  cases step with
  | settingUp step => exact step.tells opened tells
  | recording step => exact step.tells opened tells
  | filling step => exact step.tells tells
  | draining step => exact step.tells opened tells
  | ending step => exact step.tells tells

theorem Around.tells (around : Around s events s')
    (tells : Tells codec framed base refused overtaken s) :
    Tells codec framed base (refused || events.any isRefusal)
      (overtaken || s.stage.overtakes s'.stage) s' := by
  have still : s.stage.overtakes s.stage = false := s.stage.overtakes_self
  cases around with
  | start idle =>
    unfold Tells at tells
    rw [idle] at tells ⊢
    exact Tells.noted tells rfl rfl
  | still | stop | input | output | fail | leave | drain | hangUp =>
    exact Tells.noted tells rfl still

end AudioOutline

namespace AudioWorld

variable {σ γ : Type} [EncoderHost σ] [PcmSource γ]

/-- At some point an error ended the encoding while its header was not written. -/
def overtaken (w : AudioWorld σ γ) : List (AudioMove σ γ) → Bool
  | [] => false
  | move :: moves =>
    w.session.stage.overtakes (w.apply move).session.stage || (w.apply move).overtaken moves

/-- As long as the desktop is there, a session has told it what its stage says. -/
theorem tells_of_run {codec : AudioCodec} {framed already : Bool} {base : Bytes}
    {w : AudioWorld σ γ} (opened : w.session.sink.Open) {moves : List (AudioMove σ γ)}
    (connected : ∀ e, .hangUp e ∉ moves)
    (tells : w.session.outline.Tells codec framed base (w.events.any isRefusal) already) :
    (w.run moves).session.outline.Tells codec framed base ((w.run moves).events.any isRefusal)
      (already || w.overtaken moves) := by
  induction moves generalizing w already with
  | nil => rwa [overtaken, Bool.or_false]
  | cons move moves ih =>
    have later : ∀ e, .hangUp e ∉ moves := fun e member => connected e (.tail _ member)
    have still : (w.run [move]).session.sink.Open := open_of_run opened fun e member =>
      connected e (List.mem_singleton.mp member ▸ .head _)
    obtain ⟨events, noted, steps⟩ := w.apply_outline move
    have next : (w.apply move).session.outline.Tells codec framed base
        ((w.apply move).events.any isRefusal)
        (already || w.session.stage.overtakes (w.apply move).session.stage) := by
      rw [noted, List.any_append]
      exact steps.elim (·.tells opened tells) (·.tells tells)
    rw [overtaken, ← Bool.or_assoc]
    exact ih still later next

theorem encoding_of_overtaken {w : AudioWorld σ γ} {moves : List (AudioMove σ γ)}
    (overtaken : w.overtaken moves = true) :
    ∃ before encoder input output,
      (w.run before).session.stage = .encoding encoder input output := by
  induction moves generalizing w with
  | nil => cases overtaken
  | cons move moves ih =>
    rcases Bool.or_eq_true_iff.mp overtaken with now | later
    · unfold AudioStage.overtakes at now
      split at now
      · rename_i stage _
        exact ⟨[], _, _, _, stage⟩
      · cases now
    · obtain ⟨before, found⟩ := ih later
      exact ⟨move :: before, found⟩

/-- Plain sound is written by one task, so nothing can come before its header. -/
theorem not_overtaken (o : Options) {setup : AudioSetup} (plain : setup.encodes = false) (host : σ)
    (source : γ) (sink : Sink) (moves : List (AudioMove σ γ)) :
    overtaken { session := o.audioSession setup host source sink } moves = false := by
  refine Bool.eq_false_iff.mpr fun overtaken => ?_
  obtain ⟨before, encoder, input, output, stage⟩ := encoding_of_overtaken overtaken
  have orderly := orderly_of_run o setup host source sink before
  dsimp only at orderly
  rw [stage, plain] at orderly
  exact absurd orderly.1 (by simp)

/-- A session that fails while the desktop is there has announced its stream, unless it encodes and
the error came before the header; then it has written nothing. -/
theorem leaves_of_run {o : Options} (codecMeta : o.sendCodecMeta = true) (setup : AudioSetup)
    (host : σ) (source : γ) {sink : Sink} (opened : sink.Open) {moves : List (AudioMove σ γ)}
    (connected : ∀ e, .hangUp e ∉ moves) {e : Error} :
    let world : AudioWorld σ γ := { session := o.audioSession setup host source sink }
    (world.run moves).session.result? = some (.error e) →
      setup.codec.Leaves o.sendFrameMeta ((world.run moves).events.any isRefusal)
        (setup.encodes && world.overtaken moves) sink.accepted
        (world.run moves).session.sink.accepted := by
  intro world failed
  have start : world.session.outline.Tells setup.codec o.sendFrameMeta sink.accepted
      (world.events.any isRefusal) false := by
    refine ⟨⟨rfl, rfl⟩, ?_, rfl⟩
    simp [world, AudioSession.outline, Options.audioSession, Framer.fresh, codecMeta]
  have tells := tells_of_run opened connected start
  have stage : (world.run moves).session.outline.stage = .ended (.error e) :=
    AudioSession.stage_of_result? failed
  unfold AudioOutline.Tells at tells
  rw [stage] at tells
  cases way : setup.encodes with
  | true => exact tells
  | false =>
    have intime : world.overtaken moves = false := not_overtaken o way host source sink moves
    rw [intime] at tells
    exact tells

end AudioWorld

end Screencast
