import Screencast.Control.Outbox
import Screencast.Control.Wire
import Screencast.Scheduling
import Screencast.Stream.Sink

/-!
The task that writes device messages to the control channel. Whoever has a message for the desktop
leaves it in the outbox and then wakes the task. A task that is not asleep keeps this as a permit,
which makes it look into the outbox once more before it falls asleep.

The task listens to its stop signal between two messages only: a message that it has begun to write
is written to its end.
-/

namespace Screencast

inductive WriterStage where
  /-- About to look into the outbox. -/
  | looking
  /-- The outbox was empty, and the task is about to fall asleep. -/
  | tiring
  | asleep (woken : Bool)
  | writing (rest : Bytes)
  | ended (result : Except Error Unit)
deriving Repr, Inhabited

structure MessageWriter where
  outbox : Outbox := {}
  /-- The task was to be woken and was not asleep. -/
  permit : Bool := false
  stage : WriterStage := .looking
  stopping : Bool := false
  sink : Sink := {}

namespace MessageWriter

/-- The first half of a push. -/
def leave (w : MessageWriter) (m : DeviceMessage) : MessageWriter :=
  { w with outbox := w.outbox.push m }

/-- The second half of a push. -/
def wake (w : MessageWriter) : MessageWriter :=
  match w.stage with
  | .asleep false => { w with stage := .asleep true }
  | _ => { w with permit := true }

/-- A sequence number of 0 is never acknowledged. -/
def push (w : MessageWriter) (m : DeviceMessage) : MessageWriter :=
  if m = .ack 0 then w else (w.leave m).wake

def stop (w : MessageWriter) : MessageWriter := { w with stopping := true }

def hasEnded (w : MessageWriter) : Bool :=
  match w.stage with
  | .ended _ => true
  | _ => false

/-- A sink that takes no byte of a message is of no use any more. -/
def stuck : IoError := ⟨.writeZero, some "failed to write frame to transport"⟩

/-- Begins with the next message, if there is one. -/
def look (w : MessageWriter) : MessageWriter :=
  match w.outbox.take? with
  | some (m, outbox) => { w with outbox, stage := .writing m.encode }
  | none => { w with stage := .tiring }

/-- Falls asleep, unless there is a permit. -/
def tire (w : MessageWriter) : MessageWriter :=
  if w.permit then { w with permit := false, stage := .looking }
  else { w with stage := .asleep false }

/-- Goes on towards the next message, unless it has to wait for one. -/
def seek? (w : MessageWriter) : Option MessageWriter :=
  match w.stage with
  | .looking => some w.look
  | .tiring => some w.tire
  | .asleep true => some { w with stage := .looking }
  | _ => none

/-- Writes on, unless the sink takes nothing for now. -/
def write? (w : MessageWriter) (rest : Bytes) : Option MessageWriter :=
  match w.sink.writeOr stuck rest with
  | (sink, .done) => some { w with sink, stage := .looking }
  | (sink, .failed e) => some { w with sink, stage := .ended (.error (.io e)) }
  | (sink, .stalled left) =>
    if left.length = rest.length then none else some { w with sink, stage := .writing left }

/-- One step, or nothing as long as the writer has to wait. When it could go on towards a message
and is to stop as well, `pick` decides. -/
def step (pick : Nat) (w : MessageWriter) : Option MessageWriter :=
  match w.stage with
  | .ended _ => none
  | .writing rest => w.write? rest
  | _ =>
    let halted := if w.stopping then some { w with stage := .ended (.ok ()) } else none
    firstReady pick [halted, w.seek?]

/-- Goes on until it has to wait or ends. -/
def poll (pick : Nat) (w : MessageWriter) : MessageWriter := settle (step pick) patience w

end MessageWriter

end Screencast
