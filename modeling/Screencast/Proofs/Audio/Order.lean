import Screencast.Proofs.Audio.Run
import Screencast.Proofs.Capture.Clock

/-!
What a session handles, it handles in order (`AudioStage.Orderly`). Sound that is read goes on at
once with the time of its position, into a packet or into the input buffer that was taken for it;
and nothing is taken from an encoder after a buffer that ends the session.
-/

namespace Screencast

namespace AudioCall

/-- The sound that a call has read. -/
def block? : AudioCall → Option Bytes
  | .capture (.read _ (.ok (byte :: data))) => some (byte :: data)
  | _ => none

/-- The input buffer that a call has submitted, and what is in it. -/
def submitted? : AudioCall → Option (Nat × AccessUnit)
  | .encoder (.submitInput _ index unit) => some (index, unit)
  | _ => none

end AudioCall

namespace AudioEvent

def packed? : AudioEvent → Option AccessUnit
  | .packed unit => some unit
  | _ => none

def inputTaken? : AudioEvent → Option Nat
  | .inputTaken index => some index
  | _ => none

/-- The buffer that was taken, and its content if it could be read. -/
def outputTaken? : AudioEvent → Option (OutputBuffer × Except EncoderError Bytes)
  | .outputTaken output content => some (output, content)
  | _ => none

end AudioEvent

/-- What a session has handled so far. -/
structure Handled where
  blocks : List Bytes := []
  packed : List AccessUnit := []
  inputs : List Nat := []
  submitted : List (Nat × AccessUnit) := []
  outputs : List (OutputBuffer × Except EncoderError Bytes) := []

namespace Handled

def ofRun (seen : List AudioEvent) (calls : List AudioCall) : Handled where
  blocks := calls.filterMap AudioCall.block?
  packed := seen.filterMap AudioEvent.packed?
  inputs := seen.filterMap AudioEvent.inputTaken?
  submitted := calls.filterMap AudioCall.submitted?
  outputs := seen.filterMap AudioEvent.outputTaken?

def append (h more : Handled) : Handled :=
  ⟨h.blocks ++ more.blocks, h.packed ++ more.packed, h.inputs ++ more.inputs,
    h.submitted ++ more.submitted, h.outputs ++ more.outputs⟩

theorem ofRun_append (seen events : List AudioEvent) (calls more : List AudioCall) :
    ofRun (seen ++ events) (calls ++ more) = (ofRun seen calls).append (ofRun events more) := by
  simp [ofRun, append]

@[simp] theorem append_nothing (h : Handled) : h.append {} = h := by
  simp [append]

/-- A buffer after which a session goes on. -/
def Continues (taken : OutputBuffer × Except EncoderError Bytes) : Prop :=
  taken.1.info.flags.isEndOfStream = false ∧ ∃ data, taken.2 = .ok data

/-- Every block became a packet, with the time of its position. -/
structure Records (h : Handled) (clock : SoundClock) : Prop where
  clocked : clock.Clocked h.blocks h.packed
  outputs : h.outputs = []

/-- Every block was submitted, with the time of its position. -/
structure Encodes (h : Handled) (clock : SoundClock) : Prop where
  clocked : clock.Clocked h.blocks (h.submitted.map (·.2))
  packed : h.packed = []

/-- The buffers that were taken were submitted in this order, apart from the last one. -/
def Fed (h : Handled) (pending : Option Nat) : Prop :=
  h.inputs = h.submitted.map (·.1) ++ pending.toList

end Handled

/-- The input buffer at hand. -/
def InputStage.pending? : InputStage → Option Nat
  | .idle => none
  | .reading index _ => some index

/-- The last output buffer is being written, or there is none to be written. -/
def OutputStage.Drains (outputs : List (OutputBuffer × Except EncoderError Bytes)) :
    OutputStage → Prop
  | .header _ | .idle => ∀ taken ∈ outputs, Handled.Continues taken
  | .writing output _ => ∃ before data, outputs = before ++ [(output, .ok data)] ∧
      ∀ taken ∈ before, Handled.Continues taken

/-- What a session has handled in order, when it is over. -/
structure Handled.Over (h : Handled) (clock : SoundClock) : Prop where
  encodes : h.Encodes clock
  fed : ∃ pending, h.Fed pending
  drained : ∀ taken ∈ h.outputs.dropLast, Continues taken

/-- What a session has handled when it is in a stage, by the way that its setup says. -/
def AudioStage.Orderly (encodes : Bool) (h : Handled) (clock : SoundClock) : AudioStage → Prop
  | .idle | .check | .announce _ (.refuse _) | .announce _ (.fail _) => h = {} ∧ clock = {}
  | .openEncoder | .configure _ | .startCapture (some _) | .startEncoder _
  | .announce _ (.giveBack _ _) => encodes = true ∧ h = {} ∧ clock = {}
  | .startCapture none => encodes = false ∧ h = {} ∧ clock = {}
  | .recordHeader _ | .recordRead | .recordWrite _ | .tearDown none _ =>
    encodes = false ∧ h.Records clock
  | .encoding _ input output =>
    encodes = true ∧ h.Encodes clock ∧ h.Fed input.pending? ∧ output.Drains h.outputs
  | .tearDown (some _) _ => encodes = true ∧ h.Over clock
  | .stopCapture _ | .ended _ =>
    (encodes = false → h.Records clock) ∧ (encodes = true → h.Over clock)

namespace Handled

variable {seen events : List AudioEvent} {calls more : List AudioCall}

theorem ofRun_silent (silent : ofRun events more = {}) :
    ofRun (seen ++ events) (calls ++ more) = ofRun seen calls := by
  rw [ofRun_append, silent, append_nothing]

theorem ofRun_events (silent : ofRun events [] = {}) :
    ofRun (seen ++ events) calls = ofRun seen calls := by
  have kept : ofRun (seen ++ events) (calls ++ []) = ofRun seen calls := ofRun_silent silent
  rwa [List.append_nil] at kept

theorem clocked_nothing : SoundClock.Clocked {} [] [] := fun _ => ⟨rfl, rfl⟩

theorem records_nothing : Records {} {} := ⟨clocked_nothing, rfl⟩

theorem encodes_nothing : Encodes {} {} := ⟨clocked_nothing, rfl⟩

variable {h : Handled} {clock : SoundClock} {data : Bytes} {index : Nat} {pending : Option Nat}

theorem Records.block (records : h.Records clock) (data : Bytes) :
    (h.append { blocks := [data], packed := [⟨data, clock.pts, .none⟩] }).Records
      (clock.advance data.length) :=
  ⟨records.clocked.snoc data, by simp [append, records.outputs]⟩

theorem Encodes.submit (encodes : h.Encodes clock) (index : Nat) (data : Bytes) :
    (h.append { blocks := [data], submitted := [(index, ⟨data, clock.pts, .none⟩)] }).Encodes
      (clock.advance data.length) := by
  refine ⟨?_, by simp [append, encodes.packed]⟩
  simpa [append] using encodes.clocked.snoc data

/-- Taking a buffer, on either side, leaves what was submitted alone. -/
theorem Encodes.take (encodes : h.Encodes clock) (inputs : List Nat)
    (outputs : List (OutputBuffer × Except EncoderError Bytes)) :
    (h.append { inputs, outputs }).Encodes clock :=
  ⟨by simpa [append] using encodes.clocked, by simp [append, encodes.packed]⟩

theorem Fed.take (fed : h.Fed none) (index : Nat) :
    (h.append { inputs := [index] }).Fed (some index) := by
  simpa [Fed, append] using fed

theorem Fed.submit (fed : h.Fed (some index)) (data : Bytes) (unit : AccessUnit) :
    (h.append { blocks := [data], submitted := [(index, unit)] }).Fed none := by
  simpa [Fed, append] using fed

theorem Fed.output (fed : h.Fed pending)
    (outputs : List (OutputBuffer × Except EncoderError Bytes)) :
    (h.append { outputs }).Fed pending := by
  simpa [Fed, append] using fed

end Handled

open Handled (ofRun ofRun_silent ofRun_events ofRun_append Continues)

theorem OutputStage.Drains.dropLast {output : OutputStage}
    {outputs : List (OutputBuffer × Except EncoderError Bytes)} (drains : output.Drains outputs) :
    ∀ taken ∈ outputs.dropLast, Continues taken := by
  cases output with
  | header | idle => exact fun taken member => drains taken (List.dropLast_subset _ member)
  | writing output t =>
    obtain ⟨before, data, rfl, all⟩ := drains
    rwa [List.dropLast_concat]

theorem Handled.Over.of_encoding {h : Handled} {clock : SoundClock} {input : InputStage}
    {output : OutputStage} (encodes : h.Encodes clock) (fed : h.Fed input.pending?)
    (drains : output.Drains h.outputs) : h.Over clock :=
  ⟨encodes, ⟨_, fed⟩, drains.dropLast⟩

/-- A session goes on after a buffer only if it was written and does not end the stream. -/
theorem AudioStage.Orderly.of_after {h : Handled} {clock : SoundClock} {encoder : Nat}
    {input : InputStage} {output : OutputBuffer} {written : Except Error Unit} {next : AudioStage}
    {before : List (OutputBuffer × Except EncoderError Bytes)}
    {content : Except EncoderError Bytes} (encodes : h.Encodes clock) (fed : h.Fed input.pending?)
    (last : h.outputs = before ++ [(output, content)]) (all : ∀ taken ∈ before, Continues taken)
    (whole : written = .ok () → ∃ data, content = .ok data)
    (after : AudioStage.AfterOutput encoder input output written next) :
    next.Orderly true h clock := by
  have total : h.Over clock := ⟨encodes, ⟨_, fed⟩, by rwa [last, List.dropLast_concat]⟩
  cases after with
  | fail | last => exact ⟨rfl, total⟩
  | next written more =>
    refine ⟨rfl, encodes, fed, fun taken member => ?_⟩
    rw [last] at member
    rcases List.mem_append.mp member with earlier | now
    · exact all taken earlier
    · rw [List.mem_singleton.mp now]
      exact ⟨more, whole written⟩

/-- A buffer is taken, and given back at once. -/
theorem AudioStage.Orderly.of_taken {encodes : Bool} {h : Handled} {clock : SoundClock}
    {encoder : Nat} {input : InputStage} {output : OutputBuffer}
    {content : Except EncoderError Bytes} {written : Except Error Unit} {next : AudioStage}
    (orderly : AudioStage.Orderly encodes h clock (.encoding encoder input .idle))
    (whole : written = .ok () → ∃ data, content = .ok data)
    (after : AudioStage.AfterOutput encoder input output written next) :
    next.Orderly encodes (h.append { outputs := [(output, content)] }) clock := by
  obtain ⟨rfl, encoded, fed, drains⟩ := orderly
  exact .of_after (encoded.take [] [_]) (fed.output [_]) rfl drains whole after

/-- How much is written of the mark does not matter. -/
theorem AudioStage.Orderly.of_announce {encodes : Bool} {h : Handled} {clock : SoundClock}
    {t rest : Transfer} {sequel : Sequel}
    (orderly : AudioStage.Orderly encodes h clock (.announce t sequel)) :
    AudioStage.Orderly encodes h clock (.announce rest sequel) := by
  cases sequel <;> exact orderly

theorem Handled.over_nothing : Handled.Over {} {} := ⟨encodes_nothing, ⟨none, rfl⟩, by simp⟩

/-- A session that was not set up has handled nothing, in order. -/
theorem AudioStage.Orderly.of_leads {encodes : Bool} {h : Handled} {clock : SoundClock}
    {t : Transfer} {sequel : Sequel} {next : AudioStage}
    (orderly : AudioStage.Orderly encodes h clock (.announce t sequel))
    (leads : sequel.Leads next) : next.Orderly encodes h clock := by
  cases leads with
  | refuse | fail =>
    obtain ⟨rfl, rfl⟩ := orderly
    exact ⟨fun _ => Handled.records_nothing, fun _ => Handled.over_nothing⟩
  | giveBack =>
    obtain ⟨way, rfl, rfl⟩ := orderly
    exact ⟨way, Handled.over_nothing⟩

/-- Wherever a session is that encodes, it could end there. -/
theorem AudioStage.Orderly.over {stage : AudioStage} {h : Handled} {clock : SoundClock}
    (orderly : stage.Orderly true h clock) : h.Over clock := by
  have nothing : h = {} ∧ clock = {} → h.Over clock := by
    rintro ⟨rfl, rfl⟩
    exact Handled.over_nothing
  cases stage with
  | idle | check => exact nothing orderly
  | announce t sequel =>
    cases sequel with
    | refuse | fail => exact nothing orderly
    | giveBack => exact nothing orderly.2
  | openEncoder | configure | startEncoder => exact nothing orderly.2
  | startCapture held => cases held <;> exact nothing orderly.2
  | encoding encoder input output =>
    obtain ⟨-, encodes, fed, drains⟩ := orderly
    exact .of_encoding encodes fed drains
  | recordHeader | recordRead | recordWrite => exact absurd orderly.1 (by simp)
  | tearDown held result =>
    cases held with
    | none => exact absurd orderly.1 (by simp)
    | some encoder => exact orderly.2
  | stopCapture | ended => exact orderly.2 rfl

theorem AudioStage.Orderly.records {stage : AudioStage} {h : Handled} {clock : SoundClock}
    (orderly : stage.Orderly false h clock) : h.Records clock := by
  have nothing : h = {} ∧ clock = {} → h.Records clock := by
    rintro ⟨rfl, rfl⟩
    exact Handled.records_nothing
  cases stage with
  | idle | check => exact nothing orderly
  | announce t sequel =>
    cases sequel with
    | refuse | fail => exact nothing orderly
    | giveBack => exact absurd orderly.1 (by simp)
  | openEncoder | configure | startEncoder | encoding => exact absurd orderly.1 (by simp)
  | startCapture held =>
    cases held with
    | none => exact nothing orderly.2
    | some encoder => exact absurd orderly.1 (by simp)
  | recordHeader | recordRead | recordWrite => exact orderly.2
  | tearDown held result =>
    cases held with
    | none => exact orderly.2
    | some encoder => exact absurd orderly.1 (by simp)
  | stopCapture | ended => exact orderly.1 rfl

namespace AudioOutline

variable {s s' : AudioOutline} {seen events : List AudioEvent}

theorem orderly_disable {isError : Bool} {sequel : Sequel}
    (orderly : ∀ t, AudioStage.Orderly s.setup.encodes (ofRun seen s.calls) s.clock
      (.announce t sequel)) :
    (s.disable isError sequel).stage.Orderly (s.disable isError sequel).setup.encodes
      (ofRun seen (s.disable isError sequel).calls) (s.disable isError sequel).clock := by
  obtain ⟨framer, next, disabled, ⟨t, rfl⟩ | leads⟩ := s.disable_eq isError sequel <;> rw [disabled]
  · exact orderly t
  · exact (orderly default).of_leads leads

theorem SettingUp.orderly (step : SettingUp s events s')
    (orderly : s.stage.Orderly s.setup.encodes (ofRun seen s.calls) s.clock) :
    s'.stage.Orderly s'.setup.encodes (ofRun (seen ++ events) s'.calls) s'.clock := by
  cases step with
  | available stage =>
    rw [stage] at orderly
    rw [ofRun_events rfl]
    dsimp only
    cases way : s.setup.encodes
    · exact ⟨rfl, orderly⟩
    · exact ⟨rfl, orderly⟩
  | refuse stage =>
    rw [stage] at orderly
    refine orderly_disable fun t => ?_
    rw [ofRun_events rfl]
    exact orderly
  | noEncoder stage made =>
    rw [stage] at orderly
    refine orderly_disable fun t => ?_
    rcases made with rfl | ⟨name, rfl⟩ <;> rw [AudioSession.record, ofRun_silent rfl] <;>
      exact orderly.2
  | encoder stage | configure stage | capture stage =>
    rw [stage] at orderly
    rw [AudioSession.record, ofRun_silent rfl]
    exact orderly
  | misfit stage | idleEncoder stage =>
    rw [stage] at orderly
    refine orderly_disable fun t => ?_
    rw [AudioSession.record, ofRun_silent rfl]
    exact orderly
  | @silent held e stage =>
    rw [stage] at orderly
    refine orderly_disable fun t => ?_
    rw [AudioSession.record, ofRun_silent rfl]
    cases held with
    | none => exact orderly.2
    | some encoder => exact orderly
  | @recordFirst framer output stage opened =>
    rw [stage] at orderly
    obtain ⟨way, nothing, fresh⟩ := orderly
    rw [AudioSession.record, ofRun_silent rfl, nothing, fresh]
    cases output <;> exact ⟨way, Handled.records_nothing⟩
  | @startEncoder encoder framer output stage opened =>
    rw [stage] at orderly
    obtain ⟨way, nothing, fresh⟩ := orderly
    rw [AudioSession.record, ofRun_silent rfl, nothing, fresh]
    refine ⟨way, Handled.encodes_nothing, rfl, ?_⟩
    cases output <;> simp [OutputStage.Drains]
  | markWaits stage written =>
    rw [stage] at orderly
    rw [ofRun_events rfl]
    exact AudioStage.Orderly.of_announce orderly
  | @markEnds t sequel sink told stage written =>
    rw [stage] at orderly
    rw [ofRun_events rfl]
    obtain ⟨next, follows, leads⟩ := AudioSession.follow_eq { s with sink } sequel told
    rw [follows]
    exact AudioStage.Orderly.of_leads orderly leads

theorem Recording.orderly (step : Recording s events s')
    (orderly : s.stage.Orderly s.setup.encodes (ofRun seen s.calls) s.clock) :
    s'.stage.Orderly s'.setup.encodes (ofRun (seen ++ events) s'.calls) s'.clock := by
  cases step with
  | recordHeaderWaits stage | recordWriteWaits stage =>
    rw [stage] at orderly
    rw [ofRun_events rfl]
    exact orderly
  | recordNext stage | recordFails stage =>
    rw [ofRun_events rfl]
    rcases stage with stage | stage <;> rw [stage] at orderly <;> exact orderly
  | recordStops stage =>
    rw [ofRun_events rfl]
    rcases stage with stage | ⟨t, stage⟩ <;> rw [stage] at orderly <;> exact orderly
  | recordUnread stage | recordSilence stage =>
    rw [stage] at orderly
    rw [AudioSession.record, ofRun_silent rfl]
    exact orderly
  | @recordBlock capacity data stage sound =>
    rw [stage] at orderly
    obtain ⟨way, records⟩ := orderly
    obtain ⟨byte, data, rfl⟩ := List.exists_cons_of_ne_nil sound
    obtain ⟨framer, next, begun, goesOn⟩ := AudioSession.beginRecordWrite_eq
      (s.record [.capture (.read capacity (.ok (byte :: data)))]) (byte :: data)
    rw [begun, AudioSession.record, ofRun_append]
    rcases goesOn with ⟨t, rfl⟩ | ⟨e, rfl⟩ <;> exact ⟨way, records.block _⟩

theorem Filling.orderly (step : Filling s events s')
    (orderly : s.stage.Orderly s.setup.encodes (ofRun seen s.calls) s.clock) :
    s'.stage.Orderly s'.setup.encodes (ofRun (seen ++ events) s'.calls) s'.clock := by
  cases step with
  | @takeInput encoder index output listening next stage taken goesOn =>
    rw [stage] at orderly
    obtain ⟨way, encodes, fed, drains⟩ := orderly
    have handled := ofRun_append seen [.inputTaken index] s.calls []
    rw [List.append_nil] at handled
    have same : ((ofRun seen s.calls).append { inputs := [index] }).outputs =
        (ofRun seen s.calls).outputs := List.append_nil _
    dsimp only
    rw [handled]
    rcases goesOn with ⟨capacity, rfl⟩ | ⟨e, rfl⟩
    · exact ⟨way, encodes.take [index] [], fed.take index, same ▸ drains⟩
    · exact ⟨way, encodes.take [index] [], ⟨_, fed.take index⟩, same ▸ drains.dropLast⟩
  | @inputUnread encoder index capacity output result e stage silence =>
    rw [stage] at orderly
    obtain ⟨way, encodes, fed, drains⟩ := orderly
    have nothing : ofRun [] [.capture (.read capacity result)] = {} := by
      rcases result with e | data
      · rfl
      · rw [silence data rfl]
        rfl
    rw [AudioSession.record, ofRun_silent nothing]
    exact ⟨way, .of_encoding encodes fed drains⟩
  | @queue encoder index capacity output data next stage sound goesOn =>
    rw [stage] at orderly
    obtain ⟨way, encodes, fed, drains⟩ := orderly
    obtain ⟨byte, data, rfl⟩ := List.exists_cons_of_ne_nil sound
    have handled := ofRun_append seen [] s.calls [.capture (.read capacity (.ok (byte :: data))),
      .encoder (.submitInput encoder index ⟨byte :: data, s.clock.pts, .none⟩)]
    have same : ((ofRun seen s.calls).append
          { blocks := [byte :: data]
            submitted := [(index, ⟨byte :: data, s.clock.pts, .none⟩)] }).outputs =
        (ofRun seen s.calls).outputs := List.append_nil _
    dsimp only [AudioSession.record]
    rw [List.append_assoc, List.singleton_append, handled]
    rcases goesOn with rfl | ⟨e, rfl⟩
    · exact ⟨way, encodes.submit index _, fed.submit _ _, same ▸ drains⟩
    · exact ⟨way, encodes.submit index _, ⟨_, fed.submit _ _⟩, same ▸ drains.dropLast⟩

theorem Draining.orderly (step : Draining s events s')
    (orderly : s.stage.Orderly s.setup.encodes (ofRun seen s.calls) s.clock) :
    s'.stage.Orderly s'.setup.encodes (ofRun (seen ++ events) s'.calls) s'.clock := by
  cases step with
  | headerFails stage =>
    rw [stage] at orderly
    obtain ⟨way, encodes, fed, drains⟩ := orderly
    rw [ofRun_events rfl]
    exact ⟨way, .of_encoding encodes fed drains⟩
  | headerWaits stage | headerDone stage | packetWaits stage =>
    rw [stage] at orderly
    rw [ofRun_events rfl]
    exact orderly
  | @skip encoder input output listening content framer written next stage taken unwritten after =>
    rw [stage] at orderly
    have handled := ofRun_append seen [.outputTaken output content] s.calls
      [.encoder (.readOutput encoder output.index), .encoder (.returnOutput encoder output.index)]
    dsimp only [AudioSession.record]
    rw [List.append_assoc, List.singleton_append, handled]
    refine AudioStage.Orderly.of_taken orderly ?_ after
    rintro rfl
    cases unwritten <;> exact ⟨_, rfl⟩
  | @packetWhole encoder input output listening data bytes framer sink result next stage taken used
      packed written after =>
    rw [stage] at orderly
    have handled := ofRun_append seen [.outputTaken output (.ok data)] s.calls
      [.encoder (.readOutput encoder output.index), .encoder (.returnOutput encoder output.index)]
    dsimp only [AudioSession.record]
    rw [List.append_assoc, List.singleton_append, handled]
    exact AudioStage.Orderly.of_taken orderly (fun _ => ⟨data, rfl⟩) after
  | @packetBegins encoder input output listening data bytes framer sink rest stage taken used packed
      written =>
    rw [stage] at orderly
    obtain ⟨way, encodes, fed, drains⟩ := orderly
    rw [AudioSession.record, ofRun_append]
    exact ⟨way, encodes.take [] [_], fed.output [_], _, data, rfl, drains⟩
  | packetEnds stage written after =>
    rw [stage] at orderly
    obtain ⟨way, encodes, fed, before, data, last, all⟩ := orderly
    rw [AudioSession.record, ofRun_silent rfl]
    dsimp only
    rw [way]
    exact .of_after encodes fed last all (fun _ => ⟨data, rfl⟩) after

theorem Ending.orderly (step : Ending s events s')
    (orderly : s.stage.Orderly s.setup.encodes (ofRun seen s.calls) s.clock) :
    s'.stage.Orderly s'.setup.encodes (ofRun (seen ++ events) s'.calls) s'.clock := by
  cases step with
  | finish stage =>
    rw [stage] at orderly
    obtain ⟨way, encodes, fed, drains⟩ := orderly
    rw [ofRun_events rfl]
    exact ⟨way, .of_encoding encodes fed drains⟩
  | release stage =>
    rw [stage] at orderly
    rw [AudioSession.record, ofRun_silent rfl]
    exact ⟨fun other => absurd (orderly.1.symm.trans other) (by simp), fun _ => orderly.2⟩
  | leave stage =>
    rw [stage] at orderly
    rw [ofRun_events rfl]
    exact ⟨fun _ => orderly.2, fun other => absurd (orderly.1.symm.trans other) (by simp)⟩
  | stopCapture stage =>
    rw [stage] at orderly
    rw [AudioSession.record, ofRun_silent rfl]
    exact orderly

theorem Step.orderly (step : Step s events s')
    (orderly : s.stage.Orderly s.setup.encodes (ofRun seen s.calls) s.clock) :
    s'.stage.Orderly s'.setup.encodes (ofRun (seen ++ events) s'.calls) s'.clock := by
  cases step with
  | settingUp step => exact step.orderly orderly
  | recording step => exact step.orderly orderly
  | filling step => exact step.orderly orderly
  | draining step => exact step.orderly orderly
  | ending step => exact step.orderly orderly

theorem Around.orderly (around : Around s events s')
    (orderly : s.stage.Orderly s.setup.encodes (ofRun seen s.calls) s.clock) :
    s'.stage.Orderly s'.setup.encodes (ofRun (seen ++ events) s'.calls) s'.clock := by
  cases around with
  | start idle =>
    rw [idle] at orderly
    rw [ofRun_events rfl]
    exact orderly
  | still | stop | input | output | fail | leave | drain | hangUp =>
    rw [ofRun_events rfl]
    exact orderly

end AudioOutline

/-- Whatever happens around it, a session handles in order what it handles. -/
theorem AudioWorld.orderly_of_run {σ γ : Type} [EncoderHost σ] [PcmSource γ] (o : Options)
    (setup : AudioSetup) (host : σ) (source : γ) (sink : Sink) (moves : List (AudioMove σ γ)) :
    let w := run { session := o.audioSession setup host source sink } moves
    w.session.stage.Orderly setup.encodes (ofRun w.events w.session.calls) w.session.clock := by
  intro w
  obtain ⟨same, orderly⟩ := run_invariant
    (w := { session := o.audioSession setup host source sink })
    (P := fun seen s => s.setup = setup ∧
      s.stage.Orderly s.setup.encodes (ofRun seen s.calls) s.clock)
    ⟨rfl, rfl, rfl⟩ (fun ⟨same, orderly⟩ step => ⟨step.setup_eq.trans same, step.orderly orderly⟩)
    (fun ⟨same, orderly⟩ around => ⟨around.setup_eq.trans same, around.orderly orderly⟩) moves
  rwa [same] at orderly

end Screencast
