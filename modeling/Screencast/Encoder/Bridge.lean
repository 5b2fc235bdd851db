import Screencast.Error
import Screencast.Queue
import Screencast.Stream.Packet

/-!
How an encoder reports to the task that drives it: input buffers to be filled and output buffers to
be drained go through two bounded queues, and of several errors the first is kept until it is taken.
-/

namespace Screencast

structure OutputBuffer where
  index : Nat
  info : BufferInfo
deriving DecidableEq, Repr, Inhabited

structure Bridge where
  inputs : Queue Nat
  outputs : Queue OutputBuffer
  /-- The error to be handed out. -/
  error : Option EncoderError := none
  /-- An error was reported at some time. -/
  hasFailed : Bool := false
deriving DecidableEq, Repr, Inhabited

namespace Bridge

def ofCapacity (capacity : Nat) : Bridge where
  inputs := { capacity }
  outputs := { capacity }

/-- The capacity of the queues of a session. -/
def depth : Nat := 64

def onInput (b : Bridge) (index : Nat) : Bridge × Pushed :=
  let (inputs, pushed) := b.inputs.push index
  ({ b with inputs }, pushed)

def onOutput (b : Bridge) (output : OutputBuffer) : Bridge × Pushed :=
  let (outputs, pushed) := b.outputs.push output
  ({ b with outputs }, pushed)

def noteError (b : Bridge) (e : EncoderError) : Bridge :=
  { b with error := b.error.or (some e), hasFailed := true }

/-- What the reporting side sees. -/
def isClosed (b : Bridge) : Bool := b.outputs.isClosed

/-- One more may report. -/
def addProducer (b : Bridge) : Bridge :=
  { b with inputs := b.inputs.addProducer, outputs := b.outputs.addProducer }

/-- The reporting side goes away. -/
def dropProducer (b : Bridge) : Bridge :=
  { b with inputs := b.inputs.dropProducer, outputs := b.outputs.dropProducer }

/-- The driving side stops listening. -/
def close (b : Bridge) : Bridge :=
  { b with inputs := b.inputs.close.1, outputs := b.outputs.close.1 }

def takeFailure (b : Bridge) : Bridge × Error :=
  ({ b with error := none }, .codec (b.error.getD (.rejected "unspecified encoder failure")))

end Bridge

end Screencast
