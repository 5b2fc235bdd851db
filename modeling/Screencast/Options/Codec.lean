import Screencast.Error

/-!
The codecs a stream can use, their names, MIME types and four-character codes.
-/

namespace Screencast

inductive VideoCodec where
  | h264
  | h265
  | av1
deriving DecidableEq, Repr, Inhabited

inductive AudioCodec where
  | opus
  | aac
  /-- PCM as captured; no encoder is involved. -/
  | raw
deriving DecidableEq, Repr, Inhabited

namespace VideoCodec

def name : VideoCodec → String
  | h264 => "h264"
  | h265 => "h265"
  | av1 => "av1"

def mime : VideoCodec → String
  | h264 => "video/avc"
  | h265 => "video/hevc"
  | av1 => "video/av01"

/-- The characters `h264`, `h265` and `av1` as a word. -/
def id : VideoCodec → Nat
  | h264 => 0x68323634
  | h265 => 0x68323635
  | av1 => 0x00617631

def parse (text : String) : Except Error VideoCodec :=
  match text with
  | "h264" => .ok h264
  | "h265" => .ok h265
  | "av1" => .ok av1
  | _ => .error (.configuration (.unknownVideoCodec text))

end VideoCodec

namespace AudioCodec

def name : AudioCodec → String
  | opus => "opus"
  | aac => "aac"
  | raw => "raw"

def mime : AudioCodec → String
  | opus => "audio/opus"
  | aac => "audio/mp4a-latm"
  | raw => "audio/raw"

/-- The characters `opus`, `aac` and `raw` as a word. -/
def id : AudioCodec → Nat
  | opus => 0x6f707573
  | aac => 0x00616163
  | raw => 0x00726177

def parse (text : String) : Except Error AudioCodec :=
  match text with
  | "opus" => .ok opus
  | "aac" => .ok aac
  | "raw" => .ok raw
  | _ => .error (.configuration (.unknownAudioCodec text))

end AudioCodec

/-- What one channel carries. -/
inductive ChannelCodec where
  | video (codec : VideoCodec)
  | audio (codec : AudioCodec)
deriving DecidableEq, Repr, Inhabited

def ChannelCodec.id : ChannelCodec → Nat
  | video codec => codec.id
  | audio codec => codec.id

end Screencast
