import Screencast.Bytes

/-!
ADTS, the framing of AAC without a container: a header of seven bytes, without checksum, in front
of each frame. It holds the profile (LC), the sampling rate as an index, the number of channels and
the length of header and frame together, in 13 bits.
-/

namespace Screencast.Adts

def headerSize : Nat := 7

def rateTable : List Nat :=
  [96000, 88200, 64000, 48000, 44100, 32000, 24000, 22050, 16000, 12000, 11025, 8000, 7350]

/-- The seven bytes for the rate with this index and for this whole length. -/
def headerBytes (rate channels length : Nat) : List Nat :=
  [ 0xff
  , 0xf1
  , 0x40 + rate * 4 + channels / 4 % 2
  , channels % 4 * 64 + length / 2048 % 4
  , length / 8 % 256
  , length % 8 * 32 + 0x1f
  , 0xfc ]

/-- There is no header for other sampling rates, nor for frames whose length does not fit. -/
def header? (payload sampleRate channels : Nat) : Option Bytes :=
  match rateTable.idxOf? sampleRate with
  | none => none
  | some rate =>
    let length := payload + headerSize
    if length > 0x1fff then none
    else some ((headerBytes rate channels length).map UInt8.ofNat)

end Screencast.Adts
