import Mathlib.Tactic.Common
import Screencast.Video.Session

/-!
What one step of a video session does, said once. The outline of a session leaves out the encoders
and what they report; `VideoOutline.Step` lists the steps it can take, whatever encoders, displays
and the scheduler decide.
-/

namespace Screencast

/-- A call that uses an encoder or a display, and gives neither back. -/
def VideoCall.Uses (encoder display : Nat) : VideoCall → Prop
  | .encoder (.configure e _) | .encoder (.surface e) | .encoder (.start e)
  | .encoder (.readOutput e _) | .encoder (.returnOutput e _) => e = encoder
  | .display (.setSurface d _ _) => d = display
  | _ => False

/-- The format that a call configures an encoder with. -/
def VideoCall.configured? : VideoCall → Option EncoderFormat
  | .encoder (.configure _ format) => some format
  | _ => none

/-- What the calls told last, if they told anything. -/
def lastTold? {α : Type} (tells : VideoCall → Option α) (calls : List VideoCall) : Option α :=
  (calls.filterMap tells).getLast?

theorem lastTold?_append {α : Type} {tells : VideoCall → Option α} {calls more : List VideoCall}
    (nothing : ∀ call ∈ more, tells call = none) :
    lastTold? tells (calls ++ more) = lastTold? tells calls := by
  have silent : more.filterMap tells = [] := List.filterMap_eq_nil_iff.mpr nothing
  rw [lastTold?, List.filterMap_append, silent, List.append_nil, lastTold?]

theorem lastTold?_told {α : Type} {tells : VideoCall → Option α} {calls before : List VideoCall}
    {call : VideoCall} {a : α} (made : calls = before ++ [call]) (told : tells call = some a) :
    lastTold? tells calls = some a := by
  simp [lastTold?, made, told]

/-- The calls that give an encoder and a display back, in the only order they are made in. -/
def VideoCall.tearDown (encoder display : Nat) : List VideoCall :=
  [ .encoder (.closeQueues encoder), .encoder (.stop encoder), .encoder (.release encoder)
  , .display (.destroy display) ]

/-- The stages of an attempt between its configuration and its end, writing apart. -/
def VideoStage.Working (a : Attempt) : VideoStage → Prop
  | .createSurface b | .project b _ | .bind b _ _ | .startEncoder b | .await b
  | .giveBack b _ _ => b = a
  | _ => False

/-- The stages in which an output buffer is read and written. -/
def VideoStage.Delivering (a : Attempt) : VideoStage → Prop
  | .deliver b _ | .sendHeader b _ _ _ | .sendPacket b _ _ => b = a
  | _ => False

/-- A unit that was fetched from an encoder, and the attempt that did so. -/
structure Fetched where
  attempt : Attempt
  unit : AccessUnit
deriving DecidableEq, Repr

/-- A session without its encoders. -/
abbrev VideoOutline := VideoSession Unit

/-- How a session ends after an attempt, if it ends there. -/
inductive Ending.Concludes (downsize : Bool) (size : Size) :
    Except Error Ending → Except Error Unit → Prop
  | done {ending : Ending} (final : ending ≠ .restart) :
      Concludes downsize size (.ok ending) (.ok ())
  | exhausted {reason : String} (enabled : downsize = true) (last : nextFallback? size = none) :
      Concludes downsize size (.error (.codec (.rejected reason)))
        (.error (.fallbackExhausted size.larger))
  | failed {e : Error} (other : downsize = true → ∀ reason, e ≠ .codec (.rejected reason)) :
      Concludes downsize size (.error e) (.error e)

/-- A step of a session with this geometry, and the unit that it fetches. -/
inductive VideoOutline.Step (s : VideoOutline) (g : DeviceGeometry) :
    Option Fetched → VideoOutline → DeviceGeometry → Prop
  -- an attempt takes what it needs
  | observe (stage : s.stage = .observe) : Step s g none { s with stage := .measure } g
  | measure (stage : s.stage = .measure) :
      Step s g none { s with stage := .openEncoder g.layout.videoSize } g
  | noEncoder {size : Size} {calls : List VideoCall} {e : Error}
      (stage : s.stage = .openEncoder size)
      (made : calls = [] ∨ ∃ name, calls = [.encoder (.create name none)])
      (final : ∀ reason, e ≠ .codec (.rejected reason)) :
      Step s g none { s.record calls with stage := .conclude size (.error e) } g
  | encoder {size : Size} {name : String} {encoder : Nat} (stage : s.stage = .openEncoder size) :
      Step s g none { s.record [.encoder (.create name (some encoder))] with
        stage := .createDisplay encoder size } g
  | noDisplay {encoder : Nat} {size : Size} {name : String} {secure : Bool} {e : Error}
      (stage : s.stage = .createDisplay encoder size) :
      Step s g none
        { s.record [.display (.create name secure none), .encoder (.release encoder)] with
          stage := .conclude size (.error e) } g
  | display {encoder : Nat} {size : Size} {name : String} {secure : Bool} {display : Nat}
      (stage : s.stage = .createDisplay encoder size) :
      Step s g none { s.record [.display (.create name secure (some display))] with
        stage := .configure ⟨encoder, display, size⟩ } g
  | configure {a : Attempt} {next : VideoStage} (stage : s.stage = .configure a)
      (goesOn : next = .createSurface a ∨ ∃ e, next = .tearDown a (.error e)) :
      Step s g none
        { s.record [.encoder (.configure a.encoder (s.baseFormat.withSize a.size))] with
          stage := next } g
  -- it is under way; the stop signal is heard while it waits and while it writes
  | work {a : Attempt} {calls : List VideoCall} {next : VideoStage} (stage : s.stage.Working a)
      (goesOn : next.Working a ∨ (∃ output, next = .deliver a output) ∨
        ∃ ending, next = .tearDown a ending)
      (uses : ∀ call ∈ calls, call.Uses a.encoder a.display ∧ call.configured? = none) :
      Step s g none { s.record calls with stage := next } g
  | abandon {a : Attempt} (stage : s.stage.Delivering a) :
      Step s g none { s with stage := .tearDown a (.ok .stopped) } g
  -- a buffer is at hand
  | skip {a : Attempt} {output : OutputBuffer} {written : Except Error Unit}
      {calls : List VideoCall} (stage : s.stage = .deliver a output)
      (uses : ∀ call ∈ calls, call.Uses a.encoder a.display ∧ call.configured? = none) :
      Step s g none { s.record calls with stage := .giveBack a output written } g
  | header {a : Attempt} {output : OutputBuffer} {data bytes : Bytes} {framer : Framer}
      (stage : s.stage = .deliver a output)
      (opened : s.framer.videoHeader a.size = (framer, some bytes)) :
      Step s g (some ⟨a, output.info.unit data⟩)
        { s.record [.encoder (.readOutput a.encoder output.index)] with
          framer, stage := .sendHeader a output data { rest := bytes } } g
  | packet {a : Attempt} {output : OutputBuffer} {data : Bytes} {framer : Framer}
      (stage : s.stage = .deliver a output)
      (opened : s.framer.videoHeader a.size = (framer, none)) :
      Step s g (some ⟨a, output.info.unit data⟩)
        ({ s.record [.encoder (.readOutput a.encoder output.index)] with framer }.beginPacket a
          output data) g
  -- a write is under way
  | headerWaits {a : Attempt} {output : OutputBuffer} {data : Bytes} {t rest : Transfer}
      {sink : Sink} (stage : s.stage = .sendHeader a output data t)
      (written : s.sink.transfer t = (sink, .stalls rest)) :
      Step s g none { s with sink, stage := .sendHeader a output data rest } g
  | headerDone {a : Attempt} {output : OutputBuffer} {data : Bytes} {t : Transfer} {sink : Sink}
      (stage : s.stage = .sendHeader a output data t)
      (written : s.sink.transfer t = (sink, .ends (.ok ()))) :
      Step s g none ({ s with sink }.beginPacket a output data) g
  | headerFails {a : Attempt} {output : OutputBuffer} {data : Bytes} {t : Transfer} {sink : Sink}
      {e : Error} (stage : s.stage = .sendHeader a output data t)
      (written : s.sink.transfer t = (sink, .ends (.error e))) :
      Step s g none { s with sink, stage := .giveBack a output (.error e) } g
  | packetWaits {a : Attempt} {output : OutputBuffer} {t rest : Transfer} {sink : Sink}
      (stage : s.stage = .sendPacket a output t)
      (written : s.sink.transfer t = (sink, .stalls rest)) :
      Step s g none { s with sink, stage := .sendPacket a output rest } g
  | packetEnds {a : Attempt} {output : OutputBuffer} {t : Transfer} {sink : Sink}
      {result : Except Error Unit} (stage : s.stage = .sendPacket a output t)
      (written : s.sink.transfer t = (sink, .ends result)) :
      Step s g none { s with sink, stage := .giveBack a output result } g
  -- the attempt is over, and maybe the session
  | tearDown {a : Attempt} {ending : Except Error Ending} (stage : s.stage = .tearDown a ending) :
      Step s g none { s.record (VideoCall.tearDown a.encoder a.display) with
        stage := .conclude a.size ending } g
  | restart {size : Size} (stage : s.stage = .conclude size (.ok .restart)) :
      Step s g none { s with stage := .observe } g
  | smaller {size : Size} {reason : String} {maxSize : Nat}
      (stage : s.stage = .conclude size (.error (.codec (.rejected reason))))
      (enabled : s.setup.downsize = true) (next : nextFallback? size = some maxSize) :
      Step s g none { s with stage := .observe } (g.limitSize maxSize)
  | finish {size : Size} {ending : Except Error Ending} {result : Except Error Unit}
      (stage : s.stage = .conclude size ending)
      (concludes : Ending.Concludes s.setup.downsize size ending result) :
      Step s g none (s.exit result) g
  | markWaits {e : Error} {t rest : Transfer} {sink : Sink} (stage : s.stage = .announce e t)
      (written : s.sink.transfer t = (sink, .stalls rest)) :
      Step s g none { s with sink, stage := .announce e rest } g
  | markEnds {e : Error} {t : Transfer} {sink : Sink} {result : Except Error Unit}
      (stage : s.stage = .announce e t) (written : s.sink.transfer t = (sink, .ends result)) :
      Step s g none { s with sink, stage := .ended (.error e) } g

@[simp] theorem VideoSession.record_nil {σ : Type} (s : VideoSession σ) : s.record [] = s := by
  simp [record]

namespace VideoOutline.Step

variable {s : VideoOutline} {g : DeviceGeometry} {a : Attempt}

/-- A single call of an attempt, after which it goes on or ends. -/
theorem call {call : VideoCall} {next : VideoStage} (stage : s.stage.Working a)
    (goesOn : next.Working a ∨ ∃ ending, next = .tearDown a ending)
    (uses : call.Uses a.encoder a.display)
    (plain : call.configured? = none) : Step s g none { s.record [call] with stage := next } g := by
  refine .work stage ?_ (by simp [uses, plain])
  rcases goesOn with working | ending
  · exact .inl working
  · exact .inr (.inr ending)

theorem silent {next : VideoStage} (stage : s.stage.Working a)
    (goesOn : next.Working a ∨ (∃ output, next = .deliver a output) ∨
      ∃ ending, next = .tearDown a ending) :
    Step s g none { s with stage := next } g := by
  have step : Step s g none { s.record [] with stage := next } g := .work stage goesOn (by simp)
  rwa [VideoSession.record_nil] at step

/-- An output buffer that is not read is given back. -/
theorem unread {output : OutputBuffer} (stage : s.stage = .deliver a output) :
    Step s g none { s with stage := .giveBack a output (.ok ()) } g := by
  have step : Step s g none { s.record [] with stage := .giveBack a output (.ok ()) } g :=
    .skip stage (by simp)
  rwa [VideoSession.record_nil] at step

end VideoOutline.Step

/-! ### Beginning a packet, and ending -/

namespace VideoSession

variable {σ : Type}

/-- A packet that is begun changes the framer and the stage, and stays in its attempt. -/
theorem beginPacket_eq (s : VideoSession σ) (a : Attempt) (output : OutputBuffer) (data : Bytes) :
    ∃ framer next, s.beginPacket a output data = { s with framer, stage := next } ∧
      ((∃ result, next = .giveBack a output result) ∨ ∃ t, next = .sendPacket a output t) := by
  unfold beginPacket
  split
  · exact ⟨_, _, rfl, .inl ⟨_, rfl⟩⟩
  · exact ⟨_, _, rfl, .inl ⟨_, rfl⟩⟩
  · exact ⟨_, _, rfl, .inr ⟨_, rfl⟩⟩

@[simp] theorem beginPacket_calls (s : VideoSession σ) (a : Attempt) (output : OutputBuffer)
    (data : Bytes) : (s.beginPacket a output data).calls = s.calls := by
  obtain ⟨framer, next, begun, -⟩ := s.beginPacket_eq a output data
  rw [begun]

@[simp] theorem beginPacket_setup (s : VideoSession σ) (a : Attempt) (output : OutputBuffer)
    (data : Bytes) : (s.beginPacket a output data).setup = s.setup := by
  obtain ⟨framer, next, begun, -⟩ := s.beginPacket_eq a output data
  rw [begun]

@[simp] theorem beginPacket_sink (s : VideoSession σ) (a : Attempt) (output : OutputBuffer)
    (data : Bytes) : (s.beginPacket a output data).sink = s.sink := by
  obtain ⟨framer, next, begun, -⟩ := s.beginPacket_eq a output data
  rw [begun]

theorem stage_of_result? {s : VideoSession σ} {result : Except Error Unit}
    (h : s.result? = some result) : s.stage = .ended result := by
  unfold result? at h
  split at h <;> cases h
  assumption

/-- The result of the session once it is settled; the desktop may still have to be told. -/
def outcome? (s : VideoSession σ) : Option (Except Error Unit) :=
  match s.stage with
  | .announce e _ => some (.error e)
  | .ended result => some result
  | _ => none

/-- A session exits at once, or tells the desktop of its error first. -/
theorem exit_eq (s : VideoSession σ) (result : Except Error Unit) :
    ∃ framer next, s.exit result = { s with framer, stage := next } ∧
      (next = .ended result ∨ ∃ e t, result = .error e ∧ next = .announce e t) := by
  unfold exit
  split
  · exact ⟨_, _, rfl, .inl rfl⟩
  · split
    · exact ⟨_, _, rfl, .inl rfl⟩
    · split
      · exact ⟨_, _, rfl, .inl rfl⟩
      · exact ⟨_, _, rfl, .inr ⟨_, _, rfl, rfl⟩⟩

@[simp] theorem exit_calls (s : VideoSession σ) (result : Except Error Unit) :
    (s.exit result).calls = s.calls := by
  obtain ⟨framer, next, exits, -⟩ := s.exit_eq result
  rw [exits]

@[simp] theorem exit_setup (s : VideoSession σ) (result : Except Error Unit) :
    (s.exit result).setup = s.setup := by
  obtain ⟨framer, next, exits, -⟩ := s.exit_eq result
  rw [exits]

@[simp] theorem exit_sink (s : VideoSession σ) (result : Except Error Unit) :
    (s.exit result).sink = s.sink := by
  obtain ⟨framer, next, exits, -⟩ := s.exit_eq result
  rw [exits]

theorem exit_outcome (s : VideoSession σ) (result : Except Error Unit) :
    (s.exit result).outcome? = some result := by
  obtain ⟨framer, next, exits, rfl | ⟨e, t, rfl, rfl⟩⟩ := s.exit_eq result <;> rw [exits] <;> rfl

end VideoSession

theorem VideoOutline.Step.setup_eq {s s' : VideoOutline} {g g' : DeviceGeometry}
    {fetched : Option Fetched} (step : Step s g fetched s' g') : s'.setup = s.setup := by
  cases step with
  | packet | headerDone => exact VideoSession.beginPacket_setup ..
  | finish => exact VideoSession.exit_setup ..
  | observe | measure | noEncoder | encoder | noDisplay | display | configure | work | abandon
  | skip | header | headerWaits | headerFails | packetWaits | packetEnds | tearDown | restart
  | smaller | markWaits | markEnds => rfl

/-! ### Telling the desktop at the end -/

theorem VideoStage.Working.outcome? {s : VideoOutline} {a : Attempt} (h : s.stage.Working a) :
    s.outcome? = none := by
  unfold VideoStage.Working at h
  unfold VideoSession.outcome?
  split at h <;> simp [*]

theorem VideoStage.Delivering.outcome? {s : VideoOutline} {a : Attempt}
    (h : s.stage.Delivering a) : s.outcome? = none := by
  unfold VideoStage.Delivering at h
  unfold VideoSession.outcome?
  split at h <;> simp [*]

/-- Once its outcome is settled, all that a session does is to tell the desktop. -/
theorem VideoOutline.Step.settled {s s' : VideoOutline} {g g' : DeviceGeometry}
    {fetched : Option Fetched} {result : Except Error Unit} (settled : s.outcome? = some result)
    (step : Step s g fetched s' g') :
    ∃ e t, s.stage = .announce e t ∧ s'.outcome? = some result ∧ s'.calls = s.calls := by
  cases step with
  | markWaits stage | markEnds stage =>
    refine ⟨_, _, stage, ?_, rfl⟩
    rw [← settled]
    simp [VideoSession.outcome?, stage]
  | work working => simp [working.outcome?] at settled
  | abandon delivering => simp [delivering.outcome?] at settled
  | observe stage | measure stage | noEncoder stage | encoder stage | noDisplay stage
  | display stage | configure stage | skip stage | header stage | packet stage | headerWaits stage
  | headerDone stage | headerFails stage | packetWaits stage | packetEnds stage | tearDown stage
  | restart stage | smaller stage | finish stage =>
    simp [VideoSession.outcome?, stage] at settled

end Screencast
