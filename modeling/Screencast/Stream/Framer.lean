import Screencast.Error
import Screencast.Geometry.Basic
import Screencast.Options.Codec
import Screencast.Stream.Adts
import Screencast.Stream.Packet

/-!
The byte format of a stream channel. With codec meta it opens with a header (codec id, length of
what follows, for video the picture size), or with a marker alone if the stream is not sent. With
frame meta each access unit follows its timestamp, flags and length; timestamps start at the first
unit that is not configuration. Without frame meta units stand back to back, AAC units as ADTS.
-/

namespace Screencast

/-- How sound is captured: 48 kHz, two channels of 16 bits. -/
structure AudioFormat where
  sampleRate : Nat := 48000
  channels : Nat := 2
  bytesPerSample : Nat := 2
deriving DecidableEq, Repr

def audioFormat : AudioFormat := {}

structure Framer where
  codec : ChannelCodec
  codecMeta : Bool := true
  frameMeta : Bool := true
  /-- A header or a marker was written, or left out for want of codec meta. -/
  headerSent : Bool := false
  /-- The timestamp of the first unit that was not configuration. -/
  origin : Option Nat := none
deriving DecidableEq, Repr, Inhabited

namespace Framer

/-- What a call leaves to be written: nothing at all, or some bytes (maybe none) and a flush. -/
abbrev Output := Option Bytes

def disabledMarker : Bytes := Bytes.ofNat 4 0

def errorMarker : Bytes := Bytes.ofNat 4 1

def opening (f : Framer) (bytes : Bytes) : Framer × Output :=
  if f.headerSent then (f, none)
  else ({ f with headerSent := true }, if f.codecMeta then some bytes else none)

/-- Only the first header or marker is written. -/
def header (f : Framer) (about : Bytes) : Framer × Output :=
  f.opening (Bytes.ofNat 4 f.codec.id ++ Bytes.ofNat 4 about.length ++ about)

def videoHeader (f : Framer) (size : Size) : Framer × Output :=
  f.header (Bytes.ofNat 4 size.width ++ Bytes.ofNat 4 size.height)

def audioHeader (f : Framer) : Framer × Output := f.header []

/-- Tells the desktop that the stream will not be sent, because of an error or by choice. -/
def disable (f : Framer) (error : Bool) : Framer × Output :=
  f.opening (if error then errorMarker else disabledMarker)

/-- The word in front of a unit. Configuration has no timestamp and does not set the origin. -/
def word (f : Framer) (unit : AccessUnit) : Framer × Nat :=
  if unit.flags.isConfig then (f, Packet.configBit)
  else
    let origin := f.origin.getD unit.pts
    let key := if unit.flags.isKeyFrame then Packet.keyFrameBit else 0
    ({ f with origin := some origin }, key + (unit.pts - origin) % Packet.keyFrameBit)

/-- ADTS headers imply the codec configuration, so its units are left out. -/
def adtsPacket (f : Framer) (unit : AccessUnit) : Except Error (Framer × Output) :=
  if unit.flags.isConfig then .ok (f, none)
  else
    match Adts.header? unit.data.length audioFormat.sampleRate audioFormat.channels with
    | some header => .ok (f, some (header ++ unit.data))
    | none => .error (.configuration (.oversizedAacFrame unit.data.length))

def packet (f : Framer) (unit : AccessUnit) : Except Error (Framer × Output) :=
  if !f.headerSent then .error (.configuration .packetBeforeHeader)
  else if f.codec = .audio .aac && !f.frameMeta then f.adtsPacket unit
  else if f.frameMeta then
    let (f, word) := f.word unit
    .ok (f, some (Packet.frameMeta word unit.data.length ++ unit.data))
  else .ok (f, some unit.data)

end Framer

end Screencast
