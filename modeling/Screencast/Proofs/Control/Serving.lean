import Screencast.Control.Session
import Screencast.Proofs.Control.Grammar
import Screencast.Proofs.Control.Halting

/-!
What the task that serves the control channel can do in one step (`step_cases`), and when it has to
wait (`waits`). Each step takes it further (`Step.distance_lt`), so it comes to that.
-/

namespace Screencast

namespace MessageWriter

def pushAll (w : MessageWriter) (messages : List DeviceMessage) : MessageWriter :=
  messages.foldl push w

variable {w : MessageWriter}

/-- What the pushes of others leave as it is. -/
structure Kept (w after : MessageWriter) : Prop where
  bounded : w.Bounded → after.Bounded
  sink : after.sink = w.sink
  stopping : after.stopping = w.stopping

theorem kept_push (w : MessageWriter) (m : DeviceMessage) : Kept w (w.push m) := by
  unfold push wake
  split
  · exact ⟨id, rfl, rfl⟩
  · split
    · exact ⟨fun _ _ stage => (by cases stage), rfl, rfl⟩
    · exact ⟨id, rfl, rfl⟩

theorem kept_pushAll (w : MessageWriter) (messages : List DeviceMessage) :
    Kept w (w.pushAll messages) := by
  induction messages generalizing w with
  | nil => exact ⟨id, rfl, rfl⟩
  | cons m messages ih =>
    have first := kept_push w m
    have rest := ih (w.push m)
    exact ⟨rest.bounded ∘ first.bounded, rest.sink.trans first.sink,
      rest.stopping.trans first.stopping⟩

theorem Step.limit {taken : Option DeviceMessage} {after : MessageWriter}
    (step : Step w taken after) : after.sink.limit = w.sink.limit := by
  cases step with
  | @finish rest _ stage written | @fail rest _ _ stage written | @partly rest _ _ stage written =>
    have limit := Sink.writeOr_limit stuck w.sink rest
    rwa [written] at limit
  | halt | take | miss | lookAgain | fallAsleep | getUp => rfl

end MessageWriter

namespace Device

/-- What a message has done once its answers are passed on. -/
def carry (d : Device) (m : ControlMessage) : Device := { (d.handle m).1 with heard := [] }

/-- What the desktop is told of it. -/
def told (d : Device) (m : ControlMessage) : List DeviceMessage :=
  (d.handle m).1.heard.map .clipboard ++ (d.handle m).2.toList

end Device

def Arrival.data : Arrival → Bytes
  | .bytes b => b
  | .eof | .error _ => []

namespace ControlSession

open ControlMessage (decode)

theorem passOn_eq (c : ControlSession) (d : Device) :
    c.passOn d =
      ({ c with writer := c.writer.pushAll (d.heard.map .clipboard) }, { d with heard := [] }) := by
  have pushed (texts : List String) (c : ControlSession) :
      texts.foldl (fun c text => c.push (.clipboard text)) c =
        { c with writer := c.writer.pushAll (texts.map .clipboard) } := by
    induction texts generalizing c with
    | nil => rfl
    | cons text texts ih => exact ih (c.push (.clipboard text))
  exact Prod.ext (pushed d.heard c) rfl

theorem carryOut_eq (c : ControlSession) (d : Device) (m : ControlMessage) :
    c.carryOut d m = ({ c with writer := c.writer.pushAll (d.told m) }, d.carry m) := by
  unfold carryOut Device.told Device.carry
  obtain ⟨after, answer⟩ := d.handle m
  simp only [passOn_eq]
  cases answer with
  | none => simp
  | some answer => simp [push, MessageWriter.pushAll]

/-- Why reading comes to its end. -/
inductive Close (buffer : Bytes) (arrivals : List Arrival) : Except Error Unit → Prop where
  | malformed {e : MessageFault} {rest : Bytes} (found : decode buffer = .malformed e rest) :
      Close buffer arrivals (.error (.protocol e))
  | overrun (found : decode buffer = .overrun) :
      Close buffer arrivals (.error (.io .bytesRemaining))
  | eof {rest : List Arrival} (none : decode buffer = .incomplete)
      (next : arrivals = .eof :: rest) :
      Close buffer arrivals (if buffer.isEmpty then .ok () else .error (.io .bytesRemaining))
  | error {e : IoError} {rest : List Arrival} (none : decode buffer = .incomplete)
      (next : arrivals = .error e :: rest) : Close buffer arrivals (.error (.io e))

/-- What one step can do. -/
inductive Step (c : ControlSession) (d : Device) : ControlSession → Device → Prop where
  | write {taken : Option DeviceMessage} {writer : MessageWriter}
      (step : c.writer.Step taken writer) : Step c d { c with writer } d
  | begin (stage : c.stage = .starting) :
      Step c d { c with stage := .reading } (if c.powerOn then d.wake else d)
  | take {m : ControlMessage} {buffer : Bytes} (stage : c.stage = .reading)
      (found : decode c.buffer = .message m buffer) :
      Step c d { c with buffer, stage := .handling m } d
  | receive {b : Bytes} {arrivals : List Arrival} (stage : c.stage = .reading)
      (none : decode c.buffer = .incomplete) (next : c.arrivals = .bytes b :: arrivals) :
      Step c d { c with arrivals, buffer := c.buffer ++ b } d
  | close {result : Except Error Unit} {arrivals : List Arrival} {buffer : Bytes}
      (stage : c.stage = .reading) (why : Close c.buffer c.arrivals result) :
      Step c d ({ c with arrivals, buffer }.leave result) d
  | handle {m : ControlMessage} (stage : c.stage = .handling m) :
      Step c d { c with writer := c.writer.pushAll (d.told m), stage := .reading } (d.carry m)
  | halt (stopping : c.stopping = true)
      (running : c.stage = .reading ∨ ∃ m, c.stage = .handling m) : Step c d (c.leave (.ok ())) d
  | finish {result : Except Error Unit} (stage : c.stage = .leaving result)
      (through : c.writer.hasEnded = true) : Step c d { c with stage := .ended result } d

variable {c c' : ControlSession} {d d' : Device} {pick : Nat}

theorem step_of_read (stage : c.stage = .reading) (h : c.read? = some c') : Step c d c' d := by
  unfold read? at h
  split at h
  · rename_i m buffer found
    cases h
    exact .take stage found
  · rename_i e buffer found
    cases h
    exact .close stage (.malformed found)
  · rename_i found
    cases h
    exact .close stage (.overrun found)
  · rename_i none
    split at h
    · cases h
    · rename_i b arrivals next
      cases h
      exact .receive stage none next
    · rename_i e arrivals next
      cases h
      exact .close stage (.error none next)
    · rename_i arrivals next
      cases h
      exact .close stage (.eof none next)

/-- What has been decided between a stop and something else. -/
theorem stopped_or {stopping : Bool} {halted next : ControlSession × Device}
    {other : Option (ControlSession × Device)}
    (h : firstReady pick [if stopping then some halted else none, other] = some next) :
    stopping = true ∧ next = halted ∨ other = some next := by
  have branches := mem_of_firstReady h
  simp only [List.mem_cons, List.not_mem_nil, or_false] at branches
  obtain stopped | ready := branches
  · split at stopped
    · rename_i stopping
      exact .inl ⟨stopping, Option.some.inj stopped⟩
    · cases stopped
  · exact .inr ready.symm

theorem step_of_reader (h : stepReader pick c d = some (c', d')) : Step c d c' d' := by
  unfold stepReader at h
  dsimp only at h
  cases stage : c.stage with
  | idle | ended => simp only [stage] at h; cases h
  | starting =>
    simp only [stage] at h
    cases h
    exact .begin stage
  | reading =>
    simp only [stage] at h
    obtain ⟨stopping, same⟩ | ready := stopped_or h
    · cases same
      exact .halt stopping (.inl stage)
    · obtain ⟨after, read, same⟩ := Option.map_eq_some_iff.mp ready
      cases same
      exact step_of_read stage read
  | handling m =>
    simp only [stage, carryOut_eq] at h
    obtain ⟨stopping, same⟩ | handled := stopped_or h
    · cases same
      exact .halt stopping (.inr ⟨m, stage⟩)
    · cases handled
      exact .handle stage
  | leaving result =>
    simp only [stage] at h
    split at h
    · rename_i through
      cases h
      exact .finish stage through
    · cases h

theorem step_cases (h : step pick (c, d) = some (c', d')) : Step c d c' d' := by
  unfold step at h
  split at h
  · rename_i after written
    cases h
    unfold stepWriter at written
    split at written
    · cases written
    · cases written
    · cases written
    · obtain ⟨writer, stepped, rfl⟩ := Option.map_eq_some_iff.mp written
      exact .write (MessageWriter.step_taken stepped)
  · exact step_of_reader h

theorem Step.stopping (step : Step c d c' d') : c'.stopping = c.stopping := by
  cases step <;> rfl

theorem Step.stage_ne_idle (step : Step c d c' d') (started : c.stage ≠ .idle) :
    c'.stage ≠ .idle := by
  cases step with
  | write | receive => exact started
  | begin | take | close | handle | halt | finish => rintro ⟨⟩

/-! ### How far the task is from having to wait -/

/-- What there is left to read. -/
def load (c : ControlSession) : Nat :=
  2 * (c.buffer ++ c.arrivals.flatMap Arrival.data).length + c.arrivals.length

/-- How many steps the reading side has in front of it, at most. -/
def reach (c : ControlSession) : Nat :=
  match c.stage with
  | .idle | .ended _ => 0
  | .leaving _ => 1
  | .reading => 2 + c.load
  | .starting | .handling _ => 3 + c.load

/-- Each step of the reading side may give the writer as much to do as it can ever have. -/
def distance (c : ControlSession) : Nat :=
  c.reach * (MessageWriter.farthest + 1) + c.writer.distance

/-- What holds whatever the sink does. -/
structure Tidy (c : ControlSession) : Prop where
  bounded : c.writer.Bounded
  /-- Whoever waits for the writer has stopped it. -/
  stopped : ∀ result, c.stage = .leaving result → c.writer.stopping = true

/-- What holds as long as the sink always has room. -/
structure Sound (c : ControlSession) : Prop where
  bounded : c.writer.Bounded
  room : c.writer.sink.limit = none
  /-- Whoever waits for the writer has stopped it. -/
  stopped : ∀ result, c.stage = .leaving result → c.writer.stopping = true

theorem Sound.tidy (sound : c.Sound) : c.Tidy := ⟨sound.bounded, sound.stopped⟩

theorem Tidy.keep (tidy : c.Tidy) (step : Step c d c' d') : c'.Tidy := by
  obtain ⟨bounded, stopped⟩ := tidy
  cases step with
  | write step =>
    exact ⟨step.bounded bounded, fun result stage => step.stopping.trans (stopped result stage)⟩
  | begin | take | finish => exact ⟨bounded, by rintro _ ⟨⟩⟩
  | receive stage none next => exact ⟨bounded, stopped⟩
  | close | halt => exact ⟨bounded, fun _ _ => rfl⟩
  | @handle m =>
    have kept := MessageWriter.kept_pushAll c.writer (d.told m)
    exact ⟨kept.bounded bounded, by rintro _ ⟨⟩⟩

theorem Step.limit (step : Step c d c' d') : c'.writer.sink.limit = c.writer.sink.limit := by
  cases step with
  | write step => exact step.limit
  | @handle m => exact congrArg Sink.limit (MessageWriter.kept_pushAll c.writer (d.told m)).sink
  | begin | take | receive | close | halt | finish => rfl

theorem Sound.keep (sound : c.Sound) (step : Step c d c' d') : c'.Sound :=
  have tidy := sound.tidy.keep step
  ⟨tidy.bounded, step.limit.trans sound.room, tidy.stopped⟩

theorem distance_lt_of_reach (bounded : c'.writer.Bounded) (less : c'.reach < c.reach) :
    c'.distance < c.distance := by
  have writer := bounded.distance_le
  have rest : (c'.reach + 1) * (MessageWriter.farthest + 1) ≤
      c.reach * (MessageWriter.farthest + 1) := Nat.mul_le_mul_right _ less
  rw [Nat.add_mul, Nat.one_mul] at rest
  unfold distance
  omega

theorem Step.distance_lt (tidy : c.Tidy) (step : Step c d c' d') :
    c'.distance < c.distance := by
  have bounded := (tidy.keep step).bounded
  cases step with
  | write step => exact Nat.add_lt_add_left step.distance_lt _
  | begin stage | finish stage | close stage | handle stage =>
    apply distance_lt_of_reach bounded
    simp only [reach, stage, load, leave]
    omega
  | halt stopping running =>
    apply distance_lt_of_reach bounded
    obtain stage | ⟨m, stage⟩ := running <;> simp only [reach, stage, load, leave] <;> omega
  | take stage found =>
    apply distance_lt_of_reach bounded
    have shorter := ControlMessage.decode_incremental.shorter found
    simp only [reach, stage, load, List.length_append]
    omega
  | receive stage none next =>
    apply distance_lt_of_reach bounded
    simp only [reach, stage, load, next, Arrival.data, List.flatMap_cons, List.length_append,
      List.length_cons]
    omega

theorem waits_to_read (h : c.read? = none) : decode c.buffer = .incomplete ∧ c.arrivals = [] := by
  unfold read? at h
  split at h
  · cases h
  · cases h
  · cases h
  · rename_i none
    split at h
    · rename_i empty
      exact ⟨none, empty⟩
    · cases h
    · cases h
    · cases h

/-- Where the task is when it has to wait. -/
theorem waits (tidy : c.Tidy) (h : step pick (c, d) = none) :
    match c.stage with
    | .starting | .handling _ => False
    | .leaving _ => (∃ rest, c.writer.stage = .writing rest) ∧ c.writer.sink.Full
    | .reading => c.stopping = false ∧ decode c.buffer = .incomplete ∧ c.arrivals = []
    | .idle | .ended _ => True := by
  unfold step at h
  split at h
  · cases h
  · rename_i written
    unfold stepReader at h
    dsimp only at h
    cases stage : c.stage with
    | idle | ended => trivial
    | starting => simp only [stage] at h; cases h
    | handling m =>
      simp only [stage, carryOut_eq] at h
      exact absurd (firstReady_eq_none h).2 (by simp)
    | reading =>
      simp only [stage] at h
      obtain ⟨stopped, nothing⟩ := firstReady_eq_none h
      obtain ⟨none, empty⟩ := waits_to_read (Option.map_eq_none_iff.mp nothing)
      exact ⟨by simpa using stopped, none, empty⟩
    | leaving result =>
      simp only [stage, stepWriter, Option.map_eq_none_iff] at h written
      have place := MessageWriter.waits_for_sink (tidy.stopped result stage) written
      cases writer : c.writer.stage with
      | ended result => simp [MessageWriter.hasEnded, writer] at h
      | writing rest =>
        simp only [writer] at place
        exact ⟨⟨rest, rfl⟩, place⟩
      | looking | tiring | asleep => simp [writer] at place

/-- The task comes to where it has to wait. -/
theorem step_settled (tidy : c.Tidy) (pick : Nat) {fuel : Nat} (enough : c.distance ≤ fuel) :
    step pick (settle (step pick) fuel (c, d)) = none :=
  step_settle (P := fun s => s.1.Tidy) (fun tidy stepped => tidy.keep (step_cases stepped))
    (fun s => s.1.distance) (fun tidy stepped => (step_cases stepped).distance_lt tidy) tidy
    enough

end ControlSession

end Screencast
