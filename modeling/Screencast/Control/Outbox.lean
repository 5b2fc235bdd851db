import Screencast.Control.Message

/-!
What the device has to tell the desktop and did not get to yet: at most one clipboard text and one
acknowledgement. A newer one of the same kind takes the place of the older.
-/

namespace Screencast

structure Outbox where
  clipboard : Option String := none
  ack : Option UInt64 := none
deriving DecidableEq, Repr, Inhabited

namespace Outbox

def push (o : Outbox) : DeviceMessage → Outbox
  | .clipboard text => { o with clipboard := some text }
  | .ack sequence => { o with ack := some sequence }

/-- Acknowledgements go first, since the desktop may be waiting for one. -/
def take? (o : Outbox) : Option (DeviceMessage × Outbox) :=
  match o.ack, o.clipboard with
  | some sequence, _ => some (.ack sequence, { o with ack := none })
  | none, some text => some (.clipboard text, { o with clipboard := none })
  | none, none => none

end Outbox

end Screencast
