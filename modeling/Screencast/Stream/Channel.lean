import Screencast.Stream.Framer
import Screencast.Stream.Sink

/-!
A stream channel: the framer and the sink that takes its bytes. A call that meets a full sink is
abandoned there; what was accepted stays written.
-/

namespace Screencast

structure Channel where
  framer : Framer
  sink : Sink

namespace Channel

inductive Reply where
  | ok
  | pending
  | error (e : Error)
deriving DecidableEq, Repr, Inhabited

inductive Call where
  | videoHeader (size : Size)
  | audioHeader
  | disable (error : Bool)
  | packet (unit : AccessUnit)
deriving DecidableEq, Repr, Inhabited

/-- What the call leaves to be written. -/
def Call.frame (call : Call) (f : Framer) : Except Error (Framer × Framer.Output) :=
  match call with
  | videoHeader size => .ok (f.videoHeader size)
  | audioHeader => .ok f.audioHeader
  | disable error => .ok (f.disable error)
  | packet unit => f.packet unit

def perform (c : Channel) (call : Call) : Channel × Reply :=
  match call.frame c.framer with
  | .error e => (c, .error e)
  | .ok (framer, none) => (⟨framer, c.sink⟩, .ok)
  | .ok (framer, some bytes) =>
    let (sink, written) := c.sink.write bytes
    (⟨framer, sink⟩, match written with
      | .done => .ok
      | .stalled _ => .pending
      | .failed e => .error (.io e))

end Channel

end Screencast
