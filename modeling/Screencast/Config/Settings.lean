import Screencast.Config.Form
import Screencast.Options.Basic

/-!
The settings of a server, section by section, and the options of a session that they stand for.
-/

namespace Screencast

structure ConnectionSettings where
  /-- The directory of the socket files. -/
  socketDir : String
  /-- Listen for the desktop instead of connecting to it. -/
  tunnelForward : Bool := true
  sendDummyByte : Bool := true
  sendDeviceMeta : Bool := true
  sendCodecMeta : Bool := true
  sendFrameMeta : Bool := true
deriving DecidableEq, Repr, Inhabited

structure VideoSettings where
  enabled : Bool := true
  codec : VideoCodec := .h264
  /-- A blank name leaves the choice to the platform. -/
  encoder : String := ""
  bitRate : Nat := 8000000
  maxFps : Nat := 0
  maxSize : Nat := 0
  crop : String := ""
  lockOrientation : String := "unlocked"
  displayId : Nat := 0
  codecOptions : String := ""
deriving DecidableEq, Repr, Inhabited

structure AudioSettings where
  enabled : Bool := true
  codec : AudioCodec := .opus
  encoder : String := ""
  bitRate : Nat := 128000
  codecOptions : String := ""
deriving DecidableEq, Repr, Inhabited

structure ControlSettings where
  enabled : Bool := true
  clipboardAutosync : Bool := true
  powerOn : Bool := true
deriving DecidableEq, Repr, Inhabited

/-- The screen of the synthetic device, as it is held upright. -/
structure DeviceSettings where
  width : Nat := 1080
  height : Nat := 1920
deriving DecidableEq, Repr, Inhabited

structure LogSettings where
  level : String := "info"
deriving DecidableEq, Repr, Inhabited

structure Settings where
  connection : ConnectionSettings
  video : VideoSettings := {}
  audio : AudioSettings := {}
  control : ControlSettings := {}
  device : DeviceSettings := {}
  logging : LogSettings := {}
deriving DecidableEq, Repr, Inhabited

namespace Settings

/-- Sockets are in the directory for temporary files unless another one is set. -/
def ofTempDir (tempDir : String) : Settings := { connection := { socketDir := tempDir } }

/-! ### Form -/

def connectionForm (default : ConnectionSettings) : Form ConnectionSettings := .table default
  [ Form.text.field "socket_dir" (·.socketDir) fun s x => { s with socketDir := x }
  , Form.flag.field "tunnel_forward" (·.tunnelForward) fun s x => { s with tunnelForward := x }
  , Form.flag.field "send_dummy_byte" (·.sendDummyByte) fun s x => { s with sendDummyByte := x }
  , Form.flag.field "send_device_meta" (·.sendDeviceMeta) fun s x => { s with sendDeviceMeta := x }
  , Form.flag.field "send_codec_meta" (·.sendCodecMeta) fun s x => { s with sendCodecMeta := x }
  , Form.flag.field "send_frame_meta" (·.sendFrameMeta) fun s x => { s with sendFrameMeta := x } ]

def videoForm : Form VideoSettings := .table {}
  [ Form.flag.field "enabled" (·.enabled) fun s x => { s with enabled := x }
  , (Form.choice VideoCodec.name [.h264, .h265, .av1]).field "codec" (·.codec)
      fun s x => { s with codec := x }
  , Form.text.field "encoder" (·.encoder) fun s x => { s with encoder := x }
  , (Form.word 32).field "bit_rate" (·.bitRate) fun s x => { s with bitRate := x }
  , (Form.word 16).field "max_fps" (·.maxFps) fun s x => { s with maxFps := x }
  , (Form.word 32).field "max_size" (·.maxSize) fun s x => { s with maxSize := x }
  , Form.text.field "crop" (·.crop) fun s x => { s with crop := x }
  , Form.text.field "lock_orientation" (·.lockOrientation)
      fun s x => { s with lockOrientation := x }
  , (Form.word 32).field "display_id" (·.displayId) fun s x => { s with displayId := x }
  , Form.text.field "codec_options" (·.codecOptions) fun s x => { s with codecOptions := x } ]

def audioForm : Form AudioSettings := .table {}
  [ Form.flag.field "enabled" (·.enabled) fun s x => { s with enabled := x }
  , (Form.choice AudioCodec.name [.opus, .aac, .raw]).field "codec" (·.codec)
      fun s x => { s with codec := x }
  , Form.text.field "encoder" (·.encoder) fun s x => { s with encoder := x }
  , (Form.word 32).field "bit_rate" (·.bitRate) fun s x => { s with bitRate := x }
  , Form.text.field "codec_options" (·.codecOptions) fun s x => { s with codecOptions := x } ]

def controlForm : Form ControlSettings := .table {}
  [ Form.flag.field "enabled" (·.enabled) fun s x => { s with enabled := x }
  , Form.flag.field "clipboard_autosync" (·.clipboardAutosync)
      fun s x => { s with clipboardAutosync := x }
  , Form.flag.field "power_on" (·.powerOn) fun s x => { s with powerOn := x } ]

def deviceForm : Form DeviceSettings := .table {}
  [ (Form.word 32).field "width" (·.width) fun s x => { s with width := x }
  , (Form.word 32).field "height" (·.height) fun s x => { s with height := x } ]

def logForm : Form LogSettings := .table {}
  [Form.text.field "level" (·.level) fun s x => { s with level := x }]

def form (tempDir : String) : Form Settings :=
  let default := ofTempDir tempDir
  .table default
    [ (connectionForm default.connection).field "connection" (·.connection)
        fun s x => { s with connection := x }
    , videoForm.field "video" (·.video) fun s x => { s with video := x }
    , audioForm.field "audio" (·.audio) fun s x => { s with audio := x }
    , controlForm.field "control" (·.control) fun s x => { s with control := x }
    , deviceForm.field "device" (·.device) fun s x => { s with device := x }
    , logForm.field "logging" (·.logging) fun s x => { s with logging := x } ]

/-! ### Options -/

/-- A trimmed text, unless nothing is left of it. -/
def nonBlank? (text : String) : Option String :=
  let trimmed := Text.trim text
  if trimmed.isEmpty then none else some trimmed

/-- The options of a session. Codec options are checked before bit rates, these before the crop, the
orientation lock, and at last whether any channel is enabled. -/
def options (s : Settings) : Except Error Options := do
  let videoCodecOptions ← CodecOption.parseAll s.video.codecOptions
  let audioCodecOptions ← CodecOption.parseAll s.audio.codecOptions
  let videoBitRate ← boundBitRate "video" s.video.bitRate
  let audioBitRate ← boundBitRate "audio" s.audio.bitRate
  let crop ← (nonBlank? s.video.crop).mapM Crop.parse
  let lock ← OrientationLock.parse (Text.trim s.video.lockOrientation)
  let options : Options :=
    { videoCodecOptions, audioCodecOptions, videoBitRate, audioBitRate, crop, lock
      video := s.video.enabled
      audio := s.audio.enabled
      control := s.control.enabled
      videoCodec := s.video.codec
      audioCodec := s.audio.codec
      videoEncoder := nonBlank? s.video.encoder
      audioEncoder := nonBlank? s.audio.encoder
      maxFps := s.video.maxFps
      displayId := s.video.displayId
      sendFrameMeta := s.connection.sendFrameMeta
      sendCodecMeta := s.connection.sendCodecMeta
      sendDeviceMeta := s.connection.sendDeviceMeta
      sendDummyByte := s.connection.sendDummyByte
      tunnelForward := s.connection.tunnelForward
      socketDir := s.connection.socketDir
      clipboardAutosync := s.control.clipboardAutosync
      powerOn := s.control.powerOn }
  if options.video || options.audio || options.control then
    return options.limitedTo s.video.maxSize
  else throw (.configuration .everyChannelDisabled)

end Settings

end Screencast
