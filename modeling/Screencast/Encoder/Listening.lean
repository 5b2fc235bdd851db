import Screencast.Encoder.Bridge

/-!
The bridge of the moment, and the encoder that reports into it. What any other encoder reports is
not heard: it is one that was given up before.
-/

namespace Screencast

structure Listening where
  bridge : Bridge := .ofCapacity Bridge.depth
  reporter : Option Nat := none
deriving DecidableEq, Repr, Inhabited

namespace Listening

def hears (l : Listening) (encoder : Nat) : Bool := l.reporter = some encoder

def input (l : Listening) (encoder index : Nat) : Listening × Pushed :=
  if l.hears encoder then
    let (bridge, pushed) := l.bridge.onInput index
    ({ l with bridge }, pushed)
  else (l, .refused)

def output (l : Listening) (encoder : Nat) (o : OutputBuffer) : Listening × Pushed :=
  if l.hears encoder then
    let (bridge, pushed) := l.bridge.onOutput o
    ({ l with bridge }, pushed)
  else (l, .refused)

def error (l : Listening) (encoder : Nat) (e : EncoderError) : Listening :=
  if l.hears encoder then { l with bridge := l.bridge.noteError e } else l

/-- The encoder will not report any more. -/
def leave (l : Listening) (encoder : Nat) : Listening :=
  if l.hears encoder then { bridge := l.bridge.dropProducer } else l

def isClosed (l : Listening) (encoder : Nat) : Bool := !l.hears encoder || l.bridge.isClosed

def close (l : Listening) : Listening := { l with bridge := l.bridge.close }

def takeInput (l : Listening) : Listening × Taken Nat :=
  let (inputs, taken) := l.bridge.inputs.take
  ({ l with bridge := { l.bridge with inputs } }, taken)

def takeOutput (l : Listening) : Listening × Taken OutputBuffer :=
  let (outputs, taken) := l.bridge.outputs.take
  ({ l with bridge := { l.bridge with outputs } }, taken)

/-- The error that was reported, if there was one. -/
def failure? (l : Listening) : Option Error :=
  if l.bridge.hasFailed then some l.bridge.takeFailure.2 else none

end Listening

end Screencast
