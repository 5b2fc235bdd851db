import Screencast.Bytes
import Screencast.Error

/-!
Where sound is captured from, as the session uses it, and the record of its calls. A read is begun,
and answered when there is sound. To start and to stop may take a source a while, too.
-/

namespace Screencast

class PcmSource (γ : Type) where
  /-- Whether the platform can capture sound at all. -/
  check : γ → γ × Except Error Unit
  start : γ → γ × Except Error Unit
  /-- Begins to read at most this many bytes. -/
  beginRead : γ → Nat → γ
  /-- The bytes read; nothing as long as there is no sound. -/
  answer? : γ → Nat → Option (γ × Except IoError Bytes)
  stop : γ → γ
  /-- Whether it is able to start or stop for now; whoever calls it waits until then. -/
  responds : γ → Bool := fun _ => true

inductive CaptureCall where
  | start
  /-- The size of the buffer, and what was read. -/
  | read (capacity : Nat) (result : Except IoError Bytes)
  | stop
deriving Repr, Inhabited

end Screencast
