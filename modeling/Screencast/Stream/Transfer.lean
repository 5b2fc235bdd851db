import Screencast.Stream.Framer
import Screencast.Stream.Sink

/-!
A write that is under way and may have to wait for the sink in the middle.
-/

namespace Screencast

structure Transfer where
  rest : Bytes
  /-- The sink has made it wait. -/
  stalled : Bool := false
deriving DecidableEq, Repr, Inhabited

/-- What a try to go on with a transfer comes to. -/
inductive Progress where
  /-- The sink takes nothing for now. -/
  | waits
  | stalls (rest : Transfer)
  | ends (result : Except Error Unit)
deriving Repr, Inhabited

/-- Goes on with a transfer. The sink is left as it is when it takes nothing once more. -/
def Sink.transfer (s : Sink) (t : Transfer) : Sink × Progress :=
  match s.write t.rest with
  | (s, .done) => (s, .ends (.ok ()))
  | (s, .failed e) => (s, .ends (.error (.io e)))
  | (after, .stalled rest) =>
    if t.stalled && rest.length = t.rest.length then (s, .waits)
    else (after, .stalls { rest, stalled := true })

end Screencast
