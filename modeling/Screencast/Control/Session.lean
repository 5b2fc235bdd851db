import Screencast.Control.Handling
import Screencast.Control.Writer

/-!
The task that serves the control channel: it reads messages, carries them out one after the other,
and has a writer beside it for what the device tells the desktop. When it is through with reading
it stops the writer and waits for it.
-/

namespace Screencast

/-- What the desktop's end of the channel does. -/
inductive Arrival where
  | bytes (b : Bytes)
  | eof
  | error (e : IoError)
deriving DecidableEq, Repr, Inhabited

inductive ControlStage where
  | idle
  | starting
  | reading
  | handling (m : ControlMessage)
  /-- Waits for the writer. -/
  | leaving (result : Except Error Unit)
  | ended (result : Except Error Unit)
deriving Repr, Inhabited

structure ControlSession where
  writer : MessageWriter
  powerOn : Bool
  stage : ControlStage := .idle
  stopping : Bool := false
  /-- What has arrived and was not read yet. -/
  arrivals : List Arrival := []
  /-- What was read and is no whole message yet. -/
  buffer : Bytes := []

namespace ControlSession

def name : String := "Controller"

def start (c : ControlSession) : ControlSession :=
  match c.stage with
  | .idle => { c with stage := .starting }
  | _ => c

def stop (c : ControlSession) : ControlSession :=
  match c.stage with
  | .idle => { c with stopping := true }
  | _ => { c with stopping := true, writer := c.writer.stop }

def receive (c : ControlSession) (a : Arrival) : ControlSession :=
  { c with arrivals := c.arrivals ++ [a] }

/-- Tells the desktop something. -/
def push (c : ControlSession) (m : DeviceMessage) : ControlSession :=
  { c with writer := c.writer.push m }

/-- Tells the desktop of the changes of the clipboard that the device has heard. -/
def passOn (c : ControlSession) (d : Device) : ControlSession × Device :=
  (d.heard.foldl (fun c text => c.push (.clipboard text)) c, { d with heard := [] })

def leave (c : ControlSession) (result : Except Error Unit) : ControlSession :=
  { c with stage := .leaving result, writer := c.writer.stop }

/-- Reads on: the next message of the buffer, or else what has arrived. -/
def read? (c : ControlSession) : Option ControlSession :=
  match ControlMessage.decode c.buffer with
  | .message m buffer => some { c with buffer, stage := .handling m }
  | .malformed e buffer => some ({ c with buffer }.leave (.error (.protocol e)))
  | .overrun => some (c.leave (.error (.io .bytesRemaining)))
  | .incomplete =>
    match c.arrivals with
    | [] => none
    | .bytes b :: arrivals => some { c with arrivals, buffer := c.buffer ++ b }
    | .error e :: arrivals => some ({ c with arrivals }.leave (.error (.io e)))
    | .eof :: arrivals =>
      let result := if c.buffer.isEmpty then .ok () else .error (.io .bytesRemaining)
      some ({ c with arrivals }.leave result)

def carryOut (c : ControlSession) (d : Device) (m : ControlMessage) : ControlSession × Device :=
  let (d, answer) := d.handle m
  let (c, d) := c.passOn d
  (answer.elim c c.push, d)

/-- One step of the reading side, or nothing as long as it has to wait. When it is to stop and
could go on as well, `pick` decides. -/
def stepReader (pick : Nat) (c : ControlSession) (d : Device) : Option (ControlSession × Device) :=
  let stopped := if c.stopping then some (c.leave (.ok ()), d) else none
  match c.stage with
  | .idle | .ended _ => none
  | .starting => some ({ c with stage := .reading }, if c.powerOn then d.wake else d)
  | .reading => firstReady pick [stopped, c.read?.map fun c => (c, d)]
  | .handling m =>
    let (after, d) := c.carryOut d m
    firstReady pick [stopped, some ({ after with stage := .reading }, d)]
  | .leaving result =>
    if c.writer.hasEnded then some ({ c with stage := .ended result }, d) else none

/-- One step of the writer, once there is one. -/
def stepWriter (pick : Nat) (c : ControlSession) : Option ControlSession :=
  match c.stage with
  | .idle | .starting | .ended _ => none
  | _ => (c.writer.step pick).map fun writer => { c with writer }

/-- The writer writes what there is before the next message is looked at. -/
def step (pick : Nat) (s : ControlSession × Device) : Option (ControlSession × Device) :=
  match stepWriter pick s.1 with
  | some c => some (c, s.2)
  | none => stepReader pick s.1 s.2

/-- How the task ended, if it has. -/
def result? (c : ControlSession) : Option (Except Error Unit) :=
  match c.stage with
  | .ended result => some result
  | _ => none

end ControlSession

/-- The device listens to its clipboard only if the changes are to be told to the desktop. -/
def Device.control (d : Device) (sink : Sink) (autosync powerOn : Bool) : ControlSession × Device :=
  ({ writer := { sink }, powerOn }, if autosync then { d with listening := true } else d)

end Screencast
