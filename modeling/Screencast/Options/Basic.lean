import Screencast.Geometry.ScreenLayout
import Screencast.Options.Codec
import Screencast.Options.CodecOption

/-!
The options of a session, and the textual forms of those that have one.
-/

namespace Screencast

/-- A crop is written `width:height:x:y`, white space around the numbers allowed. It is not empty,
does not start left of or above the screen, and its edges fit signed 32-bit words. -/
def Crop.parse (text : String) : Except Error Rect :=
  let numbers := (Text.fields ':' text.toList).mapM fun field =>
    Text.int32? (String.ofList (Text.trimChars field))
  match numbers with
  | some [width, height, x, y] =>
    if 0 < width && 0 < height && 0 ≤ x && 0 ≤ y &&
        x + width ≤ 2147483647 && y + height ≤ 2147483647 then
      .ok ⟨x, y, x + width, y + height⟩
    else .error (.configuration (.crop text))
  | _ => .error (.configuration (.crop text))

/-- Encoders take bit rates as signed 32-bit words. -/
def boundBitRate (stream : String) (bitRate : Nat) : Except Error Nat :=
  if bitRate ≤ 2147483647 then .ok bitRate
  else .error (.configuration (.bitRate stream bitRate))

def OrientationLock.parse (text : String) : Except Error OrientationLock :=
  match text with
  | "" | "unlocked" | "-1" => .ok .unlocked
  | "initial" | "-2" => .ok .initial
  | _ => match Text.natural? 3 text with
    | some r => .ok (.locked r)
    | none => .error (.configuration (.lockOrientation text))

structure Options where
  video : Bool := true
  audio : Bool := true
  control : Bool := true
  videoCodec : VideoCodec := .h264
  audioCodec : AudioCodec := .opus
  videoEncoder : Option String := none
  audioEncoder : Option String := none
  videoCodecOptions : List CodecOption := []
  audioCodecOptions : List CodecOption := []
  videoBitRate : Nat := 8000000
  audioBitRate : Nat := 128000
  /-- 0 means no limit. -/
  maxFps : Nat := 0
  /-- 0 means the size of the screen. -/
  maxSize : Nat := 0
  crop : Option Rect := none
  lock : OrientationLock := .unlocked
  displayId : Nat := 0
  sendFrameMeta : Bool := true
  sendCodecMeta : Bool := true
  sendDeviceMeta : Bool := true
  sendDummyByte : Bool := true
  /-- Listen for the desktop instead of connecting to it. -/
  tunnelForward : Bool := true
  /-- The directory of the socket files. -/
  socketDir : String
  clipboardAutosync : Bool := true
  powerOn : Bool := true
deriving DecidableEq, Repr, Inhabited

/-- The maximum is rounded down to the grid of the encoder. -/
def Options.limitedTo (o : Options) (maxSize : Nat) : Options :=
  { o with maxSize := onGrid maxSize }

end Screencast
