import Screencast.Bytes

/-!
What an encoder produces: chunks of data with a timestamp and attributes, and the words that carry
both on the wire.
-/

namespace Screencast

/-- Attributes of a buffer, as a word: bit 0 key frame, bit 1 codec configuration, bit 2 end of
stream. Other bits are kept and mean nothing. -/
structure BufferFlags where
  bits : Nat
deriving DecidableEq, Repr, Inhabited

namespace BufferFlags

def none : BufferFlags := ⟨0⟩

def keyFrame : BufferFlags := ⟨1⟩

def config : BufferFlags := ⟨2⟩

def isKeyFrame (f : BufferFlags) : Bool := f.bits.testBit 0

def isConfig (f : BufferFlags) : Bool := f.bits.testBit 1

def isEndOfStream (f : BufferFlags) : Bool := f.bits.testBit 2

end BufferFlags

/-- What an encoder says about a buffer: a timestamp in microseconds on its own clock, and how many
bytes are in use. -/
structure BufferInfo where
  pts : Nat
  size : Nat
  flags : BufferFlags
deriving DecidableEq, Repr, Inhabited

/-- One encoded chunk: a picture, a block of sound, or codec configuration. -/
structure AccessUnit where
  data : Bytes
  pts : Nat
  flags : BufferFlags
deriving DecidableEq, Repr, Inhabited

/-- The first `info.size` bytes of a buffer, or all if there are fewer. -/
def BufferInfo.unit (info : BufferInfo) (buffer : Bytes) : AccessUnit :=
  ⟨buffer.take info.size, info.pts, info.flags⟩

namespace Packet

/-- Bit 63 of the word in front of a packet. -/
def configBit : Nat := 0x8000000000000000

/-- Bit 62 of the word in front of a packet. -/
def keyFrameBit : Nat := 0x4000000000000000

/-- What stands in front of each packet: timestamp and flags, then the length. -/
def frameMeta (word size : Nat) : Bytes := Bytes.ofNat 8 word ++ Bytes.ofNat 4 size

end Packet

end Screencast
