import Screencast.Capture.Scripted
import Screencast.Encoder.Scripted
import Screencast.Proofs.Audio.Monitoring
import Screencast.Proofs.Audio.Run

/-!
The encoder and the source of an audio session are given back, wherever the session fails or is told
to stop. What a session has used so far follows from its stage (`AudioStage.Kept`); every step keeps
that, and what it says of the end, for the session and for those that receive its calls, is
`returned_of_run`.
-/

namespace Screencast

namespace AudioCall

/-- A call that uses an encoder, or the source next to it, and gives neither back. -/
def Uses (encoder : Nat) : AudioCall → Prop
  | .encoder (.configure e _) | .encoder (.start e) | .encoder (.submitInput e _ _)
  | .encoder (.readOutput e _) | .encoder (.returnOutput e _) => e = encoder
  | .capture .start | .capture (.read _ _) => True
  | _ => False

/-- A call that uses the source alone. -/
def Captures : AudioCall → Prop
  | .capture .start | .capture (.read _ _) => True
  | _ => False

/-- A call that leaves nothing to be given back, unless the source has started. -/
def Fruitless : AudioCall → Prop
  | .capture .start | .encoder (.create _ none) => True
  | _ => False

/-- The calls that give an encoder back, in the only order they are made in. -/
def giveBack (encoder : Nat) : List AudioCall :=
  [.encoder (.closeQueues encoder), .encoder (.stop encoder), .encoder (.release encoder)]

/-- What was created is given back once, and so is the source. -/
structure Returned (seen : List AudioEvent) (calls : List AudioCall) : Prop where
  /-- No other encoder is touched before or after. -/
  encoders {before after : List AudioCall} {name : String} {encoder : Nat}
    (created : calls = before ++ .encoder (.create name (some encoder)) :: after) :
    ∃ uses rest, after = uses ++ giveBack encoder ++ rest ∧ (∀ call ∈ uses, call.Uses encoder) ∧
      ∀ call, .encoder call ∉ before ++ rest
  source (began : .began (.ok ()) ∈ seen) :
    ∃ before, calls = before ++ [.capture .stop] ∧ .capture .stop ∉ before

end AudioCall

open AudioCall (Uses Captures Fruitless giveBack Returned)

/-- An encoder was created first and has been used since. -/
def Held (encoder : Nat) (calls : List AudioCall) : Prop :=
  ∃ name uses, calls = .encoder (.create name (some encoder)) :: uses ∧
    ∀ call ∈ uses, call.Uses encoder

/-- All is given back except for the source. -/
def Released (calls : List AudioCall) : Prop :=
  (∀ call ∈ calls, call.Captures) ∨ ∃ encoder used, calls = used ++ giveBack encoder ∧
    Held encoder used

/-- What a session has used when it is in a stage. -/
def AudioStage.Kept (seen : List AudioEvent) (calls : List AudioCall) : AudioStage → Prop
  | .idle | .check | .openEncoder | .startCapture none | .announce _ (.refuse _) =>
    calls = [] ∧ .began (.ok ()) ∉ seen
  | .announce _ (.fail _) => (∀ call ∈ calls, call.Fruitless) ∧ .began (.ok ()) ∉ seen
  | .configure encoder | .startCapture (some encoder) | .startEncoder encoder
  | .encoding encoder _ _ | .announce _ (.giveBack encoder _) | .tearDown (some encoder) _ =>
    Held encoder calls
  | .recordHeader _ | .recordRead | .recordWrite _ | .tearDown none _ =>
    ∀ call ∈ calls, call.Captures
  | .stopCapture _ => Released calls
  | .ended _ => ((∀ call ∈ calls, call.Fruitless) ∧ .began (.ok ()) ∉ seen) ∨
    ∃ before, calls = before ++ [.capture .stop] ∧ Released before

/-- The session is over because sound cannot be captured, or is about to tell the desktop so. -/
def AudioStage.Refusing : AudioStage → Prop
  | .announce _ (.refuse _) | .ended _ => True
  | _ => False

/-! ### Using, and giving back -/

variable {encoder : Nat} {calls : List AudioCall} {seen : List AudioEvent}

theorem Held.use {call : AudioCall} (held : Held encoder calls) (uses : call.Uses encoder) :
    Held encoder (calls ++ [call]) := by
  obtain ⟨name, used, rfl, all⟩ := held
  refine ⟨name, used ++ [call], rfl, fun c made => ?_⟩
  rcases List.mem_append.mp made with before | last
  · exact all c before
  · rw [List.mem_singleton.mp last]
    exact uses

theorem captures_snoc {call : AudioCall} (captures : ∀ call ∈ calls, call.Captures)
    (last : call.Captures) : ∀ c ∈ calls ++ [call], c.Captures :=
  List.forall_mem_append.mpr ⟨captures, List.forall_mem_singleton.mpr last⟩

theorem Held.stop_not_mem (held : Held encoder calls) : .capture .stop ∉ calls := by
  obtain ⟨name, used, rfl, all⟩ := held
  intro made
  rcases List.mem_cons.mp made with same | used
  · cases same
  · exact all _ used

/-- What has to be given back once the desktop was told is what had to be before. -/
theorem AudioStage.Kept.of_leads {t : Transfer} {sequel : Sequel} {next : AudioStage}
    (kept : AudioStage.Kept seen calls (.announce t sequel)) (leads : sequel.Leads next) :
    next.Kept seen calls := by
  cases leads with
  | refuse e =>
    obtain ⟨nothing, quiet⟩ := kept
    exact .inl ⟨by simp [nothing], quiet⟩
  | fail e => exact .inl kept
  | giveBack encoder e => exact kept

/-- How much is written of the mark does not matter. -/
theorem AudioStage.Kept.of_announce {t rest : Transfer} {sequel : Sequel}
    (kept : AudioStage.Kept seen calls (.announce t sequel)) :
    AudioStage.Kept seen calls (.announce rest sequel) := by
  cases sequel <;> exact kept

theorem Held.afterOutput {input : InputStage} {output : OutputBuffer}
    {written : Except Error Unit} {next : AudioStage} (held : Held encoder calls)
    (after : AudioStage.AfterOutput encoder input output written next) : next.Kept seen calls := by
  cases after <;> exact held

/-- Whatever is announced changes nothing about that. -/
theorem AudioStage.Kept.more {stage : AudioStage} {events : List AudioEvent}
    (kept : stage.Kept seen calls) (quiet : .began (.ok ()) ∉ events) :
    stage.Kept (seen ++ events) calls := by
  have still : .began (.ok ()) ∉ seen → .began (.ok ()) ∉ seen ++ events := fun before now =>
    (List.mem_append.mp now).elim before quiet
  unfold AudioStage.Kept at kept ⊢
  split
  all_goals first | exact ⟨kept.1, still kept.2⟩ | exact kept | skip
  exact kept.imp_left fun ⟨nothing, before⟩ => ⟨nothing, still before⟩

namespace AudioOutline

variable {s s' : AudioOutline} {events : List AudioEvent}

theorem kept_disable {isError : Bool} {sequel : Sequel}
    (kept : ∀ t, AudioStage.Kept seen s.calls (.announce t sequel)) :
    (s.disable isError sequel).stage.Kept seen (s.disable isError sequel).calls := by
  obtain ⟨framer, next, disabled, ⟨t, rfl⟩ | leads⟩ := s.disable_eq isError sequel <;> rw [disabled]
  · exact kept t
  · exact (kept default).of_leads leads

theorem SettingUp.kept (step : SettingUp s events s') (kept : s.stage.Kept seen s.calls) :
    s'.stage.Kept (seen ++ events) s'.calls := by
  cases step with
  | available stage =>
    rw [stage] at kept
    obtain ⟨nothing, quiet⟩ := kept
    dsimp only
    split <;> exact ⟨nothing, by simpa using quiet⟩
  | refuse stage =>
    rw [stage] at kept
    obtain ⟨nothing, quiet⟩ := kept
    exact kept_disable fun t => ⟨nothing, by simpa using quiet⟩
  | noEncoder stage made =>
    rw [stage] at kept
    obtain ⟨nothing, quiet⟩ := kept
    refine kept_disable fun t => ⟨?_, by simpa using quiet⟩
    rcases made with rfl | ⟨name, rfl⟩ <;> simp [AudioSession.record, nothing, Fruitless]
  | @encoder name encoder stage =>
    rw [stage] at kept
    exact ⟨name, [], by simp [AudioSession.record, kept.1], by simp⟩
  | configure stage =>
    rw [stage] at kept
    exact Held.use kept rfl
  | misfit stage =>
    rw [stage] at kept
    exact kept_disable fun t => Held.use kept rfl
  | @silent held e stage =>
    rw [stage] at kept
    refine kept_disable fun t => ?_
    cases held with
    | none =>
      obtain ⟨nothing, quiet⟩ := kept
      exact ⟨by simp [AudioSession.record, nothing, Fruitless], by simpa using quiet⟩
    | some encoder => exact Held.use kept trivial
  | capture stage =>
    rw [stage] at kept
    exact Held.use kept trivial
  | @recordFirst framer output stage opened =>
    rw [stage] at kept
    have only : ∀ call ∈ s.calls ++ [.capture .start], call.Captures := by
      simp [kept.1, Captures]
    cases output <;> exact only
  | idleEncoder stage =>
    rw [stage] at kept
    exact kept_disable fun t => Held.use kept rfl
  | startEncoder stage =>
    rw [stage] at kept
    exact Held.use kept rfl
  | markWaits stage =>
    rw [stage] at kept
    rw [List.append_nil]
    exact AudioStage.Kept.of_announce kept
  | @markEnds t sequel sink told stage =>
    rw [stage] at kept
    rw [List.append_nil]
    obtain ⟨next, follows, leads⟩ := AudioSession.follow_eq { s with sink } sequel told
    rw [follows]
    exact AudioStage.Kept.of_leads kept leads

theorem Recording.kept (step : Recording s events s') (kept : s.stage.Kept seen s.calls) :
    s'.stage.Kept (seen ++ events) s'.calls := by
  cases step with
  | recordHeaderWaits stage | recordWriteWaits stage =>
    rw [stage] at kept
    exact kept
  | recordNext stage | recordFails stage =>
    rcases stage with stage | stage <;> rw [stage] at kept <;> exact kept
  | recordStops stage =>
    rcases stage with stage | ⟨t, stage⟩ <;> rw [stage] at kept <;> exact kept
  | recordUnread stage | recordSilence stage =>
    rw [stage] at kept
    exact captures_snoc kept trivial
  | @recordBlock capacity data stage =>
    rw [stage] at kept
    obtain ⟨framer, next, begun, ⟨t, rfl⟩ | ⟨e, rfl⟩⟩ := AudioSession.beginRecordWrite_eq
      (s.record [.capture (.read capacity (.ok data))]) data <;>
      rw [begun] <;> exact captures_snoc kept trivial

theorem Filling.kept (step : Filling s events s') (kept : s.stage.Kept seen s.calls) :
    s'.stage.Kept (seen ++ events) s'.calls := by
  cases step with
  | takeInput stage taken goesOn =>
    rw [stage] at kept
    rcases goesOn with ⟨capacity, rfl⟩ | ⟨e, rfl⟩ <;> exact kept
  | inputUnread stage =>
    rw [stage] at kept
    exact Held.use kept trivial
  | queue stage sound goesOn =>
    rw [stage] at kept
    rcases goesOn with rfl | ⟨e, rfl⟩
    all_goals
      refine Held.use (Held.use kept ?_) ?_
      · trivial
      · rfl

theorem Draining.kept (step : Draining s events s') (kept : s.stage.Kept seen s.calls) :
    s'.stage.Kept (seen ++ events) s'.calls := by
  cases step with
  | headerWaits stage | headerDone stage | headerFails stage | packetWaits stage =>
    rw [stage] at kept
    exact kept
  | skip stage taken unwritten after | packetWhole stage taken used packed written after =>
    rw [stage] at kept
    refine Held.afterOutput (.use (.use kept ?_) ?_) after <;> rfl
  | packetBegins stage =>
    rw [stage] at kept
    exact Held.use kept rfl
  | packetEnds stage written after =>
    rw [stage] at kept
    refine Held.afterOutput (.use kept ?_) after
    rfl

theorem Ending.kept (step : Ending s events s') (kept : s.stage.Kept seen s.calls) :
    s'.stage.Kept (seen ++ events) s'.calls := by
  cases step with
  | finish stage =>
    rw [stage] at kept
    exact kept
  | release stage =>
    rw [stage] at kept
    exact .inr ⟨_, _, rfl, kept⟩
  | leave stage =>
    rw [stage] at kept
    exact .inl kept
  | stopCapture stage =>
    rw [stage] at kept
    exact .inr ⟨_, rfl, kept⟩

/-- What is used is kept in mind: every step leaves as much to be given back as its stage says. -/
theorem Step.kept (step : Step s events s') (kept : s.stage.Kept seen s.calls) :
    s'.stage.Kept (seen ++ events) s'.calls := by
  cases step with
  | settingUp step => exact step.kept kept
  | recording step => exact step.kept kept
  | filling step => exact step.kept kept
  | draining step => exact step.kept kept
  | ending step => exact step.kept kept

theorem Around.kept (around : Around s events s') (kept : s.stage.Kept seen s.calls) :
    s'.stage.Kept (seen ++ events) s'.calls := by
  cases around with
  | start idle =>
    rw [idle] at kept
    rw [List.append_nil]
    exact kept
  | still | stop | fail | leave | drain | hangUp =>
    rw [List.append_nil]
    exact kept
  | input announced => exact kept.more (by simp)
  | output announced => exact kept.more (by simp)

/-- A session that was refused has only to tell the desktop. -/
theorem SettingUp.refusing (step : SettingUp s events s') (nothing : s.calls = [])
    (refusing : s.stage.Refusing) : s'.calls = [] ∧ s'.stage.Refusing := by
  cases step with
  | @markWaits t rest sequel sink stage =>
    rw [stage] at refusing
    cases sequel with
    | refuse e => exact ⟨nothing, trivial⟩
    | fail | giveBack => exact refusing.elim
  | @markEnds t sequel sink reply stage =>
    rw [stage] at refusing
    obtain ⟨next, follows, leads⟩ := AudioSession.follow_eq { s with sink } sequel reply
    rw [follows]
    cases leads with
    | refuse e => exact ⟨nothing, trivial⟩
    | fail | giveBack => exact refusing.elim
  | available stage | refuse stage | noEncoder stage | encoder stage | configure stage
  | misfit stage | silent stage | capture stage | recordFirst stage | idleEncoder stage
  | startEncoder stage =>
    rw [stage] at refusing
    exact refusing.elim

theorem Step.refusing (step : Step s events s') (nothing : s.calls = [])
    (refusing : s.stage.Refusing) : s'.calls = [] ∧ s'.stage.Refusing := by
  have inside : ¬ ∃ encoder input output, s.stage = .encoding encoder input output := by
    rintro ⟨encoder, input, output, stage⟩
    rw [stage] at refusing
    exact refusing
  cases step with
  | settingUp step => exact step.refusing nothing refusing
  | recording step =>
    rcases step.stage_eq with ⟨t, stage⟩ | stage | ⟨t, stage⟩ <;> rw [stage] at refusing <;>
      exact refusing.elim
  | filling step => exact absurd step.stage_eq inside
  | draining step => exact absurd step.stage_eq inside
  | ending step =>
    cases step with
    | finish stage | release stage | leave stage | stopCapture stage =>
      rw [stage] at refusing
      exact refusing.elim

/-- A session is refused before it has taken anything. -/
theorem Step.refuses {e : Error} (step : Step s events s') (kept : s.stage.Kept seen s.calls)
    (now : .checked (.error e) ∈ events) : s'.calls = [] ∧ s'.stage.Refusing := by
  cases step with
  | settingUp step =>
    cases step with
    | @refuse reason isError stage =>
      rw [stage] at kept
      obtain ⟨framer, next, disabled, ⟨t, rfl⟩ | leads⟩ := s.disable_eq isError (.refuse reason)
      · rw [disabled]
        exact ⟨kept.1, trivial⟩
      · rw [disabled]
        cases leads
        exact ⟨kept.1, trivial⟩
    | _ => simp at now
  | recording step | filling step | draining step | ending step => cases step <;> simp at now

/-- What is to be kept of a session that was refused is nothing. -/
theorem Step.refused (step : Step s events s') (kept : s.stage.Kept seen s.calls)
    (refused : ∀ e, .checked (.error e) ∈ seen → s.calls = [] ∧ s.stage.Refusing) :
    ∀ e, .checked (.error e) ∈ seen ++ events → s'.calls = [] ∧ s'.stage.Refusing := by
  intro e told
  rcases List.mem_append.mp told with before | now
  · obtain ⟨nothing, refusing⟩ := refused e before
    exact step.refusing nothing refusing
  · exact step.refuses kept now

theorem Around.refused (around : Around s events s')
    (refused : ∀ e, .checked (.error e) ∈ seen → s.calls = [] ∧ s.stage.Refusing) :
    ∀ e, .checked (.error e) ∈ seen ++ events → s'.calls = [] ∧ s'.stage.Refusing := by
  intro e told
  cases around with
  | start idle =>
    obtain ⟨-, refusing⟩ := refused e (by simpa using told)
    rw [idle] at refusing
    exact refusing.elim
  | still | stop | fail | leave | drain | hangUp | input | output =>
    exact refused e (by simpa using told)

end AudioOutline

theorem Released.stop_not_mem (released : Released calls) : .capture .stop ∉ calls := by
  rcases released with captures | ⟨encoder, used, rfl, held⟩
  · exact fun made => captures _ made
  · intro made
    rcases List.mem_append.mp made with before | last
    · exact held.stop_not_mem before
    · simp [giveBack] at last

/-- An encoder that is released by now was the first thing to be created, and is the only one. -/
theorem Released.created (released : Released calls) {before after : List AudioCall}
    {name : String} (created : calls = before ++ .encoder (.create name (some encoder)) :: after) :
    before = [] ∧ ∃ uses, after = uses ++ giveBack encoder ∧ ∀ call ∈ uses, call.Uses encoder := by
  rcases released with captures | ⟨e, used, rfl, first, uses, rfl, all⟩
  · have member : .encoder (.create name (some encoder)) ∈ calls := by simp [created]
    exact (captures _ member).elim
  · cases before with
    | nil =>
      obtain ⟨same, rfl⟩ := List.cons.inj created
      cases same
      exact ⟨rfl, uses, rfl, all⟩
    | cons call before =>
      obtain ⟨-, later⟩ := List.cons.inj created
      have member : .encoder (.create name (some encoder)) ∈ uses ++ giveBack e := by
        rw [show uses ++ giveBack e = _ from later]
        simp
      rcases List.mem_append.mp member with used | last
      · exact (all _ used).elim
      · simp [giveBack] at last

theorem Released.returned (released : Released calls) :
    Returned seen (calls ++ [.capture .stop]) where
  encoders {before after name encoder} created := by
    rcases List.eq_nil_or_concat after with rfl | ⟨rest, call, rfl⟩
    · have last := (List.append_inj' created rfl).2
      simp at last
    · rw [List.concat_eq_append, ← List.cons_append, ← List.append_assoc] at created
      obtain ⟨created, last⟩ := List.append_inj' created rfl
      obtain ⟨rfl, uses, rfl, all⟩ := released.created created
      exact ⟨uses, [call], by rw [List.concat_eq_append], all, by simp [← last]⟩
  source began := ⟨calls, rfl, released.stop_not_mem⟩

namespace AudioWorld

variable {σ γ : Type} [EncoderHost σ] [PcmSource γ]

/-- A session that reports its result has given back what it has taken. If sound cannot be captured
at all, it never takes anything. -/
structure Returns (w : AudioWorld σ γ) : Prop where
  refused : ∀ e, .checked (.error e) ∈ w.events → w.session.calls = []
  returned : ∀ result, w.session.result? = some result → Returned w.events w.session.calls

theorem returns_of_run {w : AudioWorld σ γ} (idle : w.session.stage = .idle)
    (silent : w.session.calls = []) (fresh : w.events = []) (moves : List (AudioMove σ γ)) :
    (w.run moves).Returns := by
  have begun : w.session.outline.stage.Kept w.events w.session.outline.calls := by
    change w.session.stage.Kept w.events w.session.calls
    rw [idle, silent, fresh]
    exact ⟨rfl, by simp⟩
  obtain ⟨kept, refused⟩ := run_invariant (w := w)
    (P := fun seen s => s.stage.Kept seen s.calls ∧
      ∀ e, .checked (.error e) ∈ seen → s.calls = [] ∧ s.stage.Refusing)
    ⟨begun, by simp [fresh]⟩
    (fun ⟨kept, refused⟩ step => ⟨step.kept kept, step.refused kept refused⟩)
    (fun ⟨kept, refused⟩ around => ⟨around.kept kept, around.refused refused⟩) moves
  refine ⟨fun e told => (refused e told).1, fun result ended => ?_⟩
  have stage : (w.run moves).session.outline.stage = .ended result :=
    AudioSession.stage_of_result? ended
  change (w.run moves).session.outline.stage.Kept (w.run moves).events
    (w.run moves).session.calls at kept
  rw [stage] at kept
  rcases kept with ⟨fruitless, quiet⟩ | ⟨before, calls, released⟩
  · refine ⟨fun {before after name encoder} created => ?_, fun began => absurd began quiet⟩
    have member : .encoder (.create name (some encoder)) ∈ (w.run moves).session.calls := by
      simp [created]
    exact (fruitless _ member).elim
  · rw [calls]
    exact released.returned

/-- Wherever it fails and whenever it is told to stop, a session that reports its result has given
back what it has taken. If sound cannot be captured at all, it never takes anything. The encoders
and the source receive what the session notes, and the queues are closed where it says so. -/
theorem returned_of_run (o : Options) (setup : AudioSetup) (host : σ) (source : γ) (sink : Sink)
    (moves : List (AudioMove σ γ)) :
    let world : AudioWorld σ γ := { session := o.audioSession setup host source sink }
    let heard : AudioWorld (Monitored σ EncoderCall) (Monitored γ CaptureCall) :=
      { session := o.audioSession setup { inner := host } { inner := source } sink }
    (world.run moves).Returns ∧ (heard.run (heard.monitored moves)).Returns ∧
      (heard.run (heard.monitored moves)).Received := by
  intro world heard
  exact ⟨returns_of_run rfl rfl rfl moves, returns_of_run rfl rfl rfl _,
    received_of_run ⟨rfl, rfl, by simp [heard, Options.audioSession]⟩ moves⟩

end AudioWorld

/-- An encoder that refuses its format is given back, although the source was never started. -/
example :
    let host : ScriptedEncoders :=
      { catalogue := [("opus", "audio/opus")], script := { configure := [some (.rejected "")] } }
    let options : Options := { socketDir := "", sendCodecMeta := false }
    let session := options.audioSession options.audioSetup host ({} : ScriptedSource) {}
    (AudioWorld.run { session } (.start :: List.replicate 7 (.go 0))).session.calls =
      [.encoder (.create "opus" (some 1)), .encoder (.configure 1 session.format)] ++ giveBack 1 ++
        [.capture .stop] := by
  rfl

end Screencast
