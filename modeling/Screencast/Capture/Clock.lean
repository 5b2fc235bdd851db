import Screencast.Stream.Framer

/-!
The clock of captured sound: the timestamp of a block follows from the bytes captured before it.
-/

namespace Screencast

structure SoundClock where
  bytes : Nat := 0
deriving DecidableEq, Repr, Inhabited

namespace SoundClock

/-- Bytes of one sample of all channels. -/
def frameSize : Nat := audioFormat.channels * audioFormat.bytesPerSample

/-- In microseconds, reckoned in words of 64 bits. -/
def pts (c : SoundClock) : Nat :=
  c.bytes / frameSize * 1000000 % UInt64.size / audioFormat.sampleRate

/-- Past a block of `length` bytes. -/
def advance (c : SoundClock) (length : Nat) : SoundClock := ⟨(c.bytes + length) % UInt64.size⟩

end SoundClock

end Screencast
