import Screencast.Encoder.Format
import Screencast.Options.Basic
import Screencast.Record.Failure
import Screencast.Record.Geometry

/-!
Records of options and encoder formats. Numbers of single precision stand as their bits.
-/

namespace Screencast

namespace OptionValue

def typeName : OptionValue → String
  | int _ => "int"
  | long _ => "long"
  | float _ => "float"
  | string _ => "string"

instance : Recorded OptionValue := ⟨fun
  | int n => record n
  | long n => .wide n
  | float x => record x.bits.toNat
  | string s => record s⟩

end OptionValue

instance : Recorded CodecOption := ⟨fun o => .table
  [ ("key", record o.key), ("type", record o.value.typeName), ("value", record o.value)
  , ("display", record o.value.text) ]⟩

instance : Recorded EncoderFormat := ⟨fun f =>
  .list (f.entries.map fun (key, value) =>
    record [record key, record value.typeName, record value])⟩

instance : Recorded Options := ⟨fun o => .table
  [ ("video", record o.video), ("audio", record o.audio), ("control", record o.control)
  , ("video_codec", record o.videoCodec.name), ("audio_codec", record o.audioCodec.name)
  , ("video_encoder", record o.videoEncoder), ("audio_encoder", record o.audioEncoder)
  , ("video_codec_options", record o.videoCodecOptions)
  , ("audio_codec_options", record o.audioCodecOptions)
  , ("video_bit_rate", record o.videoBitRate), ("audio_bit_rate", record o.audioBitRate)
  , ("max_fps", record o.maxFps), ("max_size", record o.maxSize), ("crop", record o.crop)
  , ("lock", record o.lock), ("display_id", record o.displayId)
  , ("send_frame_meta", record o.sendFrameMeta), ("send_codec_meta", record o.sendCodecMeta)
  , ("send_device_meta", record o.sendDeviceMeta), ("send_dummy_byte", record o.sendDummyByte)
  , ("tunnel_forward", record o.tunnelForward), ("socket_dir", record o.socketDir)
  , ("clipboard_autosync", record o.clipboardAutosync), ("power_on", record o.powerOn) ]⟩

namespace Value

def optionValue (v : Value) : Reading OptionValue := do
  match ← v.string "type" with
  | "int" => return .int (← v.signed 32 "value")
  | "long" => return .long (← v.signed 64 "value")
  | "float" => return .float ⟨UInt32.ofNat (← v.nat 32 "value")⟩
  | "string" => return .string (← v.string "value")
  | _ => throw "type"

/-- A list of options in its textual form; an absent one is empty. -/
def codecOptions (v : Value) (key : String) : Reading (Except Error (List CodecOption)) := do
  return CodecOption.parseAll (← v.stringOr "" key)

/-- A format made for video or audio, or from a MIME type alone, with entries set afterwards. -/
def encoderFormat (v : Value) : Reading (Except Error EncoderFormat) := do
  let mime ← v.string "mime"
  let bitRate ← v.natOr 0 32 "bit_rate"
  let maxFps ← v.natOr 0 32 "max_fps"
  let sampleRate ← v.natOr 0 32 "sample_rate"
  let channels ← v.natOr 0 32 "channels"
  let build ← v.named
    [ ("video", EncoderFormat.video mime bitRate maxFps)
    , ("audio", EncoderFormat.audio mime bitRate sampleRate channels)
    , ("new", (EncoderFormat.ofMime mime).withOptions) ] "type"
  let size ← v.read? size? "size"
  let sets ← v.each (fun s => do return (← s.string "key", ← s.optionValue)) "sets"
  return (← v.codecOptions "options").map fun options =>
    sets.foldl (fun f (key, value) => f.set key value)
      (size.elim (build options) (build options).withSize)

/-- Options that are absent have their defaults. -/
def options (v : Value) (socketDir : String) : Reading (Except Error Options) := do
  let videoCodec ← v.stringOr "h264" "video_codec"
  let audioCodec ← v.stringOr "opus" "audio_codec"
  let lock ← v.stringOr "" "lock"
  let videoCodecOptions ← v.codecOptions "video_codec_options"
  let audioCodecOptions ← v.codecOptions "audio_codec_options"
  let base : Options :=
    { socketDir
      video := ← v.flagOr true "video"
      audio := ← v.flagOr true "audio"
      control := ← v.flagOr true "control"
      videoEncoder := ← v.read? text? "video_encoder"
      audioEncoder := ← v.read? text? "audio_encoder"
      videoBitRate := ← v.natOr 8000000 32 "video_bit_rate"
      audioBitRate := ← v.natOr 128000 32 "audio_bit_rate"
      maxFps := ← v.natOr 0 32 "max_fps"
      maxSize := ← v.natOr 0 32 "max_size"
      crop := ← v.read? rect? "crop"
      displayId := ← v.natOr 0 32 "display_id"
      sendFrameMeta := ← v.flagOr true "send_frame_meta"
      sendCodecMeta := ← v.flagOr true "send_codec_meta"
      sendDeviceMeta := ← v.flagOr true "send_device_meta"
      sendDummyByte := ← v.flagOr true "send_dummy_byte"
      tunnelForward := ← v.flagOr true "tunnel_forward"
      clipboardAutosync := ← v.flagOr true "clipboard_autosync"
      powerOn := ← v.flagOr true "power_on" }
  return do
    return { base with
      videoCodec := ← VideoCodec.parse videoCodec
      audioCodec := ← AudioCodec.parse audioCodec
      lock := ← OrientationLock.parse lock
      videoCodecOptions := ← videoCodecOptions
      audioCodecOptions := ← audioCodecOptions }

end Value

end Screencast
