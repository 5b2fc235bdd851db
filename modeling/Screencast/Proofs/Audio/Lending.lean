import Screencast.Proofs.Audio.Run
import Screencast.Proofs.Audio.Service
import Screencast.Proofs.Encoder.Lending

/-!
The output buffers of an audio session. At most one is at hand, and only while it is written
(`AudioStage.Lends`), and every step keeps that (`Step.lends`). A buffer that is given back in the
step in which it is taken never shows in a stage.
-/

namespace Screencast

open Lending (Behind Pending ofStep)

namespace AudioCall

def returned? : AudioCall → Option (Nat × Nat)
  | .encoder call => call.returned?
  | .capture _ => none

theorem filterMap_returned (calls : List AudioCall) :
    (calls.filterMap (·.encoder?)).filterMap (·.returned?) = calls.filterMap (·.returned?) := by
  rw [List.filterMap_filterMap]
  refine List.filterMap_congr fun call _ => ?_
  cases call <;> rfl

end AudioCall

namespace AudioStage

/-- The output buffer at hand. -/
def loan? : AudioStage → Option Loan
  | .encoding encoder _ (.writing output _) => some ⟨encoder, output⟩
  | _ => none

/-- The encoding is over. -/
def isOver : AudioStage → Bool
  | .tearDown _ _ | .stopCapture _ | .ended _ => true
  | _ => false

/-- What has happened to the last output buffer when a session is in a stage. -/
inductive Lends (sink : Sink) : AudioStage → List Lending → Prop
  | writing {encoder : Nat} {input : InputStage} {output : OutputBuffer}
      {data packet base : Bytes} {t : Transfer} (packs : Loan.Packs ⟨encoder, output⟩ data packet)
      (owes : sink.Owes base packet t) :
      Lends sink (.encoding encoder input (.writing output t))
        (Loan.begun ⟨encoder, output⟩ base (some (.ok data)))
  | free {stage : AudioStage} (free : stage.loan? = none) : Lends sink stage []
  | abandoned {stage : AudioStage} {loan : Loan} {base left : Bytes}
      {content : Option (Except EncoderError Bytes)} (finished : stage.isOver = true)
      (accounts : loan.Accounts base content left) :
      Lends sink stage (loan.begun base content ++ [.abandoned left])

variable {stage : AudioStage} {sink after : Sink} {last : List Lending}

theorem loan_of_over (finished : stage.isOver = true) : stage.loan? = none := by
  unfold isOver at finished
  split at finished
  · rfl
  · rfl
  · rfl
  · cases finished

theorem loan_of_after {encoder : Nat} {input : InputStage} {output : OutputBuffer}
    {written : Except Error Unit} (after : AfterOutput encoder input output written stage) :
    stage.loan? = none := by
  cases after <;> rfl

/-- What a session has at hand is what is pending. -/
theorem Lends.pending (lends : stage.Lends sink last) : Pending stage.loan? sink.accepted last := by
  cases lends with
  | writing packs owes => exact .held (Loan.accounts_of_has (.inl rfl) packs owes.has)
  | free free =>
    rw [free]
    exact .none _
  | abandoned finished accounts =>
    rw [loan_of_over finished]
    exact .abandoned accounts

/-- Only what the sink has accepted counts. -/
theorem Lends.onSink (lends : stage.Lends sink last) (same : after.accepted = sink.accepted) :
    stage.Lends after last := by
  cases lends with
  | writing packs owes =>
    refine .writing packs ?_
    rw [Sink.Owes, same]
    exact owes
  | free free => exact .free free
  | abandoned finished accounts => exact .abandoned finished accounts

/-- The input side goes on by itself. -/
theorem Lends.input {encoder : Nat} {input next : InputStage} {output : OutputStage}
    (lends : (encoding encoder input output).Lends sink last) :
    (encoding encoder next output).Lends sink last := by
  cases lends with
  | writing packs owes => exact .writing packs owes
  | free free =>
    refine .free ?_
    cases output with
    | writing => cases free
    | header | idle => rfl
  | abandoned finished => cases finished

/-- From one stage without a buffer to the next. -/
theorem Lends.pass {next : AudioStage} (lends : stage.Lends sink last) (free : stage.loan? = none)
    (nextFree : next.loan? = none) (finished : stage.isOver = true → next.isOver = true) :
    next.Lends after last := by
  cases lends with
  | writing => cases free
  | free => exact .free nextFree
  | abandoned was accounts => exact .abandoned (finished was) accounts

end AudioStage

namespace AudioOutline

/-- The output buffer that a step takes from the queue. -/
def took? (s s' : AudioOutline) : Option Loan :=
  match s.stage with
  | .encoding encoder _ _ => (s.listening.took? s'.listening).map (⟨encoder, ·⟩)
  | _ => none

/-- The calls on encoders that a step makes. -/
def madeCalls (s s' : AudioOutline) : List EncoderCall :=
  (s'.calls.drop s.calls.length).filterMap (·.encoder?)

/-- What a step from `s` to `s'` does with output buffers, which have this content. -/
def lendings (content : Nat → Nat → Except EncoderError Bytes) (s s' : AudioOutline) :
    List Lending :=
  ofStep content (s.took? s') s.stage.loan? s'.stage.loan? s.sink.accepted s'.sink.accepted
    (s.madeCalls s')

def Lends (s : AudioOutline) (entries : List Lending) : Prop :=
  ∃ last, Behind last entries ∧ s.stage.Lends s.sink last

variable {content : Nat → Nat → Except EncoderError Bytes} {s s' : AudioOutline}
  {events : List AudioEvent} {entries : List Lending} {calls : List AudioCall}

theorem madeCalls_eq (made : s'.calls = s.calls ++ calls) :
    s.madeCalls s' = calls.filterMap (·.encoder?) := by
  rw [madeCalls, made, List.drop_left]

/-! ### Outside the encoding -/

/-- A step that neither takes a buffer nor has one. -/
structure Apart (s s' : AudioOutline) : Prop where
  made : ∃ calls, s'.calls = s.calls ++ calls ∧
    ∀ call ∈ calls.filterMap (·.encoder?), call.lends = false
  free : s'.stage.loan? = none
  finished : s.stage.isOver = true → s'.stage.isOver = true

/-- Nothing was left behind yet, since the encoding is not over. -/
theorem Apart.going (going : s.stage.isOver = false) (made : s'.calls = s.calls ++ calls)
    (plain : ∀ call ∈ calls.filterMap (·.encoder?), call.lends = false)
    (free : s'.stage.loan? = none) : Apart s s' :=
  ⟨⟨calls, made, plain⟩, free, fun finished => by rw [going] at finished; cases finished⟩

theorem Apart.silent (going : s.stage.isOver = false) (same : s'.calls = s.calls)
    (free : s'.stage.loan? = none) : Apart s s' :=
  .going going (same.trans (List.append_nil _).symm) nofun free

theorem loan_of_leads {sequel : Sequel} {next : AudioStage} (leads : sequel.Leads next) :
    next.loan? = none := by
  cases leads <;> rfl

/-- The desktop is told that there will be no sound. -/
theorem disable_apart {u : AudioOutline} {isError : Bool} {sequel : Sequel}
    (going : s.stage.isOver = false) (made : u.calls = s.calls ++ calls)
    (plain : ∀ call ∈ calls.filterMap (·.encoder?), call.lends = false) :
    Apart s (u.disable isError sequel) := by
  obtain ⟨framer, next, disabled, goesOn⟩ := u.disable_eq isError sequel
  have free : next.loan? = none := by
    rcases goesOn with ⟨t, rfl⟩ | leads
    · rfl
    · exact loan_of_leads leads
  rw [disabled]
  exact .going going made plain free

theorem SettingUp.apart (step : SettingUp s events s') : Apart s s' := by
  cases step with
  | available stage =>
    refine .silent (by rw [stage]; rfl) rfl ?_
    dsimp only
    split
    · rfl
    · rfl
  | refuse stage => exact disable_apart (by rw [stage]; rfl) (List.append_nil _).symm nofun
  | @noEncoder calls e stage made =>
    refine disable_apart (by rw [stage]; rfl) rfl ?_
    rcases made with rfl | ⟨name, rfl⟩
    · exact nofun
    · simp [AudioCall.encoder?, EncoderCall.lends]
  | misfit stage | silent stage | idleEncoder stage =>
    exact disable_apart (by rw [stage]; rfl) rfl (by simp [AudioCall.encoder?, EncoderCall.lends])
  | encoder stage | configure stage | capture stage =>
    exact .going (by rw [stage]; rfl) rfl (by simp [AudioCall.encoder?, EncoderCall.lends]) rfl
  | @recordFirst framer output stage =>
    refine .going (by rw [stage]; rfl) rfl (by simp [AudioCall.encoder?, EncoderCall.lends]) ?_
    cases output <;> rfl
  | @startEncoder encoder framer output stage =>
    refine .going (by rw [stage]; rfl) rfl (by simp [AudioCall.encoder?, EncoderCall.lends]) ?_
    cases output <;> rfl
  | markWaits stage => exact .silent (by rw [stage]; rfl) rfl rfl
  | @markEnds t sequel sink told stage =>
    obtain ⟨next, follows, leads⟩ := AudioSession.follow_eq { s with sink } sequel told
    rw [follows]
    exact .silent (by rw [stage]; rfl) rfl (loan_of_leads leads)

theorem Recording.apart (step : Recording s events s') : Apart s s' := by
  cases step with
  | recordHeaderWaits stage | recordWriteWaits stage =>
    exact .silent (by rw [stage]; rfl) rfl rfl
  | recordNext stage | recordFails stage =>
    refine .silent ?_ rfl rfl
    rcases stage with stage | stage
    · rw [stage]
      rfl
    · rw [stage]
      rfl
  | recordStops stage =>
    refine .silent ?_ rfl rfl
    rcases stage with stage | ⟨t, stage⟩
    · rw [stage]
      rfl
    · rw [stage]
      rfl
  | recordUnread stage | recordSilence stage =>
    exact .going (by rw [stage]; rfl) rfl (by simp [AudioCall.encoder?]) rfl
  | @recordBlock capacity data stage =>
    obtain ⟨framer, next, begun, goesOn⟩ := AudioSession.beginRecordWrite_eq
      (s.record [.capture (.read capacity (.ok data))]) data
    rw [begun]
    refine .going (by rw [stage]; rfl) rfl (by simp [AudioCall.encoder?]) ?_
    rcases goesOn with ⟨t, rfl⟩ | ⟨e, rfl⟩
    · rfl
    · rfl

/-! ### While sound is encoded -/

section

variable {encoder : Nat} {input : InputStage} {output : OutputStage} {buffer : OutputBuffer}

/-- The output side goes on as it was. -/
theorem Lends.on {last : List Lending} (behind : Behind last entries)
    (made : s'.calls = s.calls ++ calls)
    (plain : ∀ call ∈ calls.filterMap (·.encoder?), call.lends = false) (idle : s.took? s' = none)
    (kept : s.stage.loan?.isSome = true → s'.stage.loan?.isSome = true)
    (lends : s'.stage.Lends s'.sink last) : s'.Lends (entries ++ s.lendings content s') := by
  have silent : s.lendings content s' = [] := by
    rw [lendings, madeCalls_eq made, Lending.ofStep_plain plain, idle]
    cases held : s.stage.loan? with
    | none => rfl
    | some loan =>
      obtain ⟨left, still⟩ := Option.isSome_iff_exists.mp (kept (by rw [held]; rfl))
      rw [still]
      rfl
  rw [silent, List.append_nil]
  exact ⟨last, behind, lends⟩

/-- The input side goes on by itself. -/
theorem Lends.onward {next : InputStage} (lends : s.Lends entries)
    (before : s.stage = .encoding encoder input output)
    (after : s'.stage = .encoding encoder next output) (made : s'.calls = s.calls ++ calls)
    (plain : ∀ call ∈ calls.filterMap (·.encoder?), call.lends = false) (idle : s.took? s' = none)
    (sink : s'.sink = s.sink) : s'.Lends (entries ++ s.lendings content s') := by
  obtain ⟨last, behind, lends⟩ := lends
  rw [before] at lends
  refine Lends.on behind made plain idle (fun held => ?_) ?_
  · rw [before] at held
    rw [after]
    cases output with
    | writing => rfl
    | header | idle => cases held
  · rw [after, sink]
    exact lends.input

/-- Another branch ends the encoding. -/
theorem Lends.off (lends : s.Lends entries) (stage : s.stage = .encoding encoder input output)
    (made : s'.calls = s.calls ++ calls)
    (plain : ∀ call ∈ calls.filterMap (·.encoder?), call.lends = false) (idle : s.took? s' = none)
    (finished : s'.stage.isOver = true)
    (sink : s.stage.loan?.isSome = true → s'.sink.accepted = s.sink.accepted) :
    s'.Lends (entries ++ s.lendings content s') := by
  obtain ⟨last, behind, lends⟩ := lends
  have pending := lends.pending
  have noted : s.lendings content s' =
      if s.stage.loan?.isSome then [.abandoned s'.sink.accepted] else [] := by
    rw [lendings, madeCalls_eq made, Lending.ofStep_plain plain, idle,
      AudioStage.loan_of_over finished, Option.isNone_none, Bool.and_true]
    rfl
  rw [noted]
  cases held : s.stage.loan? with
  | none =>
    rw [stage] at lends held
    refine ⟨last, by simpa using behind, ?_⟩
    exact lends.pass held (AudioStage.loan_of_over finished) fun _ => finished
  | some loan =>
    rw [held] at pending
    rw [sink (by rw [held]; rfl)]
    cases pending with
    | held accounts => exact ⟨_, behind.more _, .abandoned finished accounts⟩

theorem took?_same (same : s'.listening = s.listening) : s.took? s' = none := by
  unfold took?
  split
  · rw [same, Listening.took?_same]
    rfl
  · rfl

theorem took?_item (stage : s.stage = .encoding encoder input output)
    (taken : s.listening.takeOutput = (s'.listening, .item buffer)) :
    s.took? s' = some ⟨encoder, buffer⟩ := by
  rw [took?, stage, Listening.took?_item taken]
  rfl

theorem took?_input {index : Nat} (taken : s.listening.takeInput = (s'.listening, .item index)) :
    s.took? s' = none := by
  unfold took?
  split
  · rw [Listening.took?_input taken]
    rfl
  · rfl

/-- Before a buffer is taken there is none. -/
theorem Lends.idle (lends : s.Lends entries) (stage : s.stage = .encoding encoder input .idle) :
    Behind [] entries := by
  obtain ⟨last, behind, lends⟩ := lends
  rw [stage] at lends
  cases lends with
  | free => exact behind
  | abandoned finished => cases finished

/-- A buffer is taken, read and given back in one step. -/
theorem Lends.whole (lends : s.Lends entries) (stage : s.stage = .encoding encoder input .idle)
    (taken : s.listening.takeOutput = (s'.listening, .item buffer))
    (made : s'.calls = s.calls ++
      [.encoder (.readOutput encoder buffer.index), .encoder (.returnOutput encoder buffer.index)])
    (free : s'.stage.loan? = none)
    (accounts : Loan.Accounts ⟨encoder, buffer⟩ s.sink.accepted
      (some (content encoder buffer.index)) s'.sink.accepted) :
    s'.Lends (entries ++ s.lendings content s') := by
  have noted : s.lendings content s' =
      Loan.begun ⟨encoder, buffer⟩ s.sink.accepted (some (content encoder buffer.index)) ++
        [.returned encoder buffer.index s'.sink.accepted] := by
    simp [lendings, ofStep, took?_item stage taken, stage, AudioStage.loan?, madeCalls_eq made,
      AudioCall.encoder?, Lending.ofCall?, EncoderCall.returned?, Loan.begun]
  rw [noted]
  exact ⟨[], ((lends.idle stage).more _).close (.story accounts), .free free⟩

/-- A buffer is taken and read, and its writing has to wait for the sink. -/
theorem Lends.begins (lends : s.Lends entries) (stage : s.stage = .encoding encoder input .idle)
    (taken : s.listening.takeOutput = (s'.listening, .item buffer))
    (made : s'.calls = s.calls ++ [.encoder (.readOutput encoder buffer.index)])
    (writes : s'.stage.Lends s'.sink
      (Loan.begun ⟨encoder, buffer⟩ s.sink.accepted (some (content encoder buffer.index)))) :
    s'.Lends (entries ++ s.lendings content s') := by
  have noted : s.lendings content s' =
      Loan.begun ⟨encoder, buffer⟩ s.sink.accepted (some (content encoder buffer.index)) := by
    simp [lendings, ofStep, took?_item stage taken, stage, AudioStage.loan?,
      madeCalls_eq made, AudioCall.encoder?, Lending.ofCall?, Loan.begun]
  rw [noted]
  exact ⟨_, (lends.idle stage).more _, writes⟩

/-- The writing of a buffer comes to an end, and it is given back. -/
theorem Lends.ends {t : Transfer} {result : Except Error Unit} (lends : s.Lends entries)
    (stage : s.stage = .encoding encoder input (.writing buffer t))
    (written : s.sink.transfer t = (s'.sink, .ends result)) (idle : s.took? s' = none)
    (made : s'.calls = s.calls ++ [.encoder (.returnOutput encoder buffer.index)])
    (free : s'.stage.loan? = none) : s'.Lends (entries ++ s.lendings content s') := by
  have noted : s.lendings content s' = [.returned encoder buffer.index s'.sink.accepted] := by
    simp [lendings, ofStep, idle, stage, AudioStage.loan?, madeCalls_eq made,
      AudioCall.encoder?, Lending.ofCall?, EncoderCall.returned?]
  rw [noted]
  obtain ⟨last, behind, lends⟩ := lends
  rw [stage] at lends
  cases lends with
  | writing packs owes =>
    have accounts := Loan.accounts_of_has (.inl rfl) packs (owes.ends written)
    exact ⟨[], (behind.more _).close (.story accounts), .free free⟩
  | free free => cases free
  | abandoned finished => cases finished

/-- The content of the buffers that are taken, as far as it is known. -/
def Asks (content : Nat → Nat → Except EncoderError Bytes) (s : AudioOutline)
    (events : List AudioEvent) : Prop :=
  ∀ encoder input output, s.stage = .encoding encoder input output →
    ∀ buffer data, .outputTaken buffer data ∈ events → content encoder buffer.index = data

theorem Filling.lends (step : Filling s events s') (lends : s.Lends entries) :
    s'.Lends (entries ++ s.lendings content s') := by
  cases step with
  | takeInput stage taken goesOn =>
    rcases goesOn with ⟨capacity, rfl⟩ | ⟨e, rfl⟩
    · exact lends.onward stage rfl (List.append_nil _).symm nofun (took?_input taken) rfl
    · exact lends.off stage (List.append_nil _).symm nofun (took?_input taken) rfl fun _ => rfl
  | inputUnread stage =>
    exact lends.off stage rfl (by simp [AudioCall.encoder?]) (took?_same rfl) rfl fun _ => rfl
  | queue stage sound goesOn =>
    rcases goesOn with rfl | ⟨e, rfl⟩
    · exact lends.onward stage rfl (List.append_assoc ..)
        (by simp [AudioCall.encoder?, EncoderCall.lends]) (took?_same rfl) rfl
    · exact lends.off stage (List.append_assoc ..)
        (by simp [AudioCall.encoder?, EncoderCall.lends]) (took?_same rfl) rfl fun _ => rfl

theorem Draining.lends (step : Draining s events s') (asks : Asks content s events)
    (lends : s.Lends entries) : s'.Lends (entries ++ s.lendings content s') := by
  cases step with
  | headerWaits stage written | headerDone stage written =>
    obtain ⟨last, behind, lends⟩ := lends
    rw [stage] at lends
    refine Lends.on behind (List.append_nil _).symm nofun (took?_same rfl)
      (by simp [stage, AudioStage.loan?]) ?_
    exact lends.pass rfl rfl nofun
  | headerFails stage written =>
    exact lends.off stage (List.append_nil _).symm nofun (took?_same rfl) rfl
      (by simp [stage, AudioStage.loan?])
  | skip stage taken unwritten after =>
    exact lends.whole stage taken (List.append_assoc ..) (AudioStage.loan_of_after after)
      (Loan.accounts_start ..)
  | packetWhole stage taken used packed written after =>
    refine lends.whole stage taken (List.append_assoc ..) (AudioStage.loan_of_after after) ?_
    rw [asks _ _ _ stage _ _ (.head _)]
    exact Loan.accounts_of_has (.inl rfl) (Framer.packs_of_packet packed)
      ((s.sink.owes_start _).ends written)
  | packetBegins stage taken used packed written =>
    refine lends.begins stage taken rfl ?_
    rw [asks _ _ _ stage _ _ (.head _)]
    exact .writing (Framer.packs_of_packet packed) ((s.sink.owes_start _).stalls written)
  | packetWaits stage written =>
    obtain ⟨last, behind, lends⟩ := lends
    rw [stage] at lends
    refine Lends.on behind (List.append_nil _).symm nofun (took?_same rfl) (fun _ => rfl) ?_
    cases lends with
    | writing packs owes => exact .writing packs (owes.stalls written)
    | free free => cases free
    | abandoned finished => cases finished
  | packetEnds stage written after =>
    exact lends.ends stage written (took?_same rfl) rfl (AudioStage.loan_of_after after)

end

/-! ### Every step -/

theorem Apart.lends (apart : Apart s s')
    (outside : ∀ encoder input output, s.stage ≠ .encoding encoder input output)
    (lends : s.Lends entries) : s'.Lends (entries ++ s.lendings content s') := by
  obtain ⟨⟨calls, made, plain⟩, free, finished⟩ := apart
  have before : s.stage.loan? = none := by
    unfold AudioStage.loan?
    split
    · rename_i stage
      exact absurd stage (outside _ _ _)
    · rfl
  have idle : s.took? s' = none := by
    unfold took?
    split
    · rename_i stage
      exact absurd stage (outside _ _ _)
    · rfl
  obtain ⟨last, behind, lends⟩ := lends
  refine Lends.on behind made plain idle (by simp [before]) ?_
  exact lends.pass before free finished

theorem Ending.lends (step : Ending s events s') (lends : s.Lends entries) :
    s'.Lends (entries ++ s.lendings content s') := by
  cases step with
  | finish stage =>
    exact lends.off stage (List.append_nil _).symm nofun (took?_same rfl) rfl fun _ => rfl
  | release stage =>
    exact Apart.lends ⟨⟨_, rfl, by simp [AudioCall.encoder?, EncoderCall.lends]⟩, rfl, fun _ => rfl⟩
      (by simp [stage]) lends
  | leave stage =>
    exact Apart.lends ⟨⟨[], (List.append_nil _).symm, nofun⟩, rfl, fun _ => rfl⟩ (by simp [stage])
      lends
  | stopCapture stage =>
    exact Apart.lends ⟨⟨_, rfl, by simp [AudioCall.encoder?]⟩, rfl, fun _ => rfl⟩ (by simp [stage])
      lends

/-- Every step of a session keeps its ledger. -/
theorem Step.lends (step : Step s events s') (asks : Asks content s events)
    (lends : s.Lends entries) : s'.Lends (entries ++ s.lendings content s') := by
  cases step with
  | settingUp step => exact step.apart.lends step.not_encoding lends
  | recording step =>
    refine step.apart.lends ?_ lends
    rcases step.stage_eq with ⟨t, stage⟩ | stage | ⟨t, stage⟩ <;> simp [stage]
  | filling step => exact step.lends lends
  | draining step => exact step.lends asks lends
  | ending step => exact step.lends lends

end AudioOutline

end Screencast
