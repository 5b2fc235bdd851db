import Screencast.Capture.Clock
import Screencast.Capture.Source
import Screencast.Encoder.Host
import Screencast.Encoder.Listening
import Screencast.Options.Basic
import Screencast.Scheduling
import Screencast.Stream.Transfer

/-!
The task that captures sound and writes the audio channel: its stages, and how it begins and ends.
Either an encoder stands between the source and the channel, or sound is written as it is captured.
When sound cannot be had the desktop is told before the task ends. Every call on encoders and on
the source is recorded.
-/

namespace Screencast

structure AudioSetup where
  codec : AudioCodec
  encoderName : Option String := none
  bitRate : Nat
  codecOptions : List CodecOption
  /-- An encoder stands between the source and the channel. -/
  encodes : Bool
deriving DecidableEq, Repr, Inhabited

def Options.audioSetup (o : Options) : AudioSetup :=
  { codec := o.audioCodec
    encoderName := o.audioEncoder
    bitRate := o.audioBitRate
    codecOptions := o.audioCodecOptions
    encodes := o.audioCodec != .raw }

inductive AudioCall where
  | encoder (call : EncoderCall)
  | capture (call : CaptureCall)
deriving Repr, Inhabited

/-- What follows once the desktop was told that there will be no sound. -/
inductive Sequel where
  /-- Sound cannot be captured; but if the desktop could not be told, that is the error. -/
  | refuse (e : Error)
  /-- Nothing has to be given back. -/
  | fail (e : Error)
  /-- The encoder has to be given back, and the source stopped. -/
  | giveBack (encoder : Nat) (e : Error)
deriving Repr, Inhabited

/-- Where the filling of input buffers waits. -/
inductive InputStage where
  /-- For an input buffer. -/
  | idle
  /-- For sound to fill the buffer. -/
  | reading (index capacity : Nat)
deriving DecidableEq, Repr, Inhabited

/-- Where the writing of output buffers waits. -/
inductive OutputStage where
  /-- For the header to be written. -/
  | header (t : Transfer)
  /-- For an output buffer. -/
  | idle
  /-- For the buffer to be written. -/
  | writing (output : OutputBuffer) (t : Transfer)
deriving Repr, Inhabited

inductive AudioStage where
  | idle
  | check
  | announce (t : Transfer) (sequel : Sequel)
  | openEncoder
  | configure (encoder : Nat)
  | startCapture (encoder : Option Nat)
  | startEncoder (encoder : Nat)
  | encoding (encoder : Nat) (input : InputStage) (output : OutputStage)
  | recordHeader (t : Transfer)
  /-- A read has been begun. -/
  | recordRead
  | recordWrite (t : Transfer)
  /-- The encoder is given back, if there is one. -/
  | tearDown (encoder : Option Nat) (result : Except Error Unit)
  | stopCapture (result : Except Error Unit)
  | ended (result : Except Error Unit)
deriving Repr, Inhabited

/-- Encoders come from a `σ`, sound from a `γ`. -/
structure AudioSession (σ γ : Type) where
  setup : AudioSetup
  host : σ
  source : γ
  framer : Framer
  sink : Sink
  clock : SoundClock := {}
  listening : Listening := {}
  stage : AudioStage := .idle
  stopping : Bool := false
  calls : List AudioCall := []

def Options.audioSession {σ γ : Type} (o : Options) (setup : AudioSetup) (host : σ) (source : γ)
    (sink : Sink) : AudioSession σ γ :=
  { setup
    host
    source
    framer :=
      { codec := .audio setup.codec, codecMeta := o.sendCodecMeta, frameMeta := o.sendFrameMeta }
    sink }

namespace AudioSession

variable {σ γ : Type}

def name (s : AudioSession σ γ) : String :=
  if s.setup.encodes then "Audio encoder" else "Audio recorder"

def start (s : AudioSession σ γ) : AudioSession σ γ :=
  match s.stage with
  | .idle => { s with stage := .check }
  | _ => s

def stop (s : AudioSession σ γ) : AudioSession σ γ := { s with stopping := true }

def record (s : AudioSession σ γ) (calls : List AudioCall) : AudioSession σ γ :=
  { s with calls := s.calls ++ calls }

def result? (s : AudioSession σ γ) : Option (Except Error Unit) :=
  match s.stage with
  | .ended result => some result
  | _ => none

/-! ### Telling the desktop that there will be no sound -/

def follow (s : AudioSession σ γ) (sequel : Sequel) (told : Except Error Unit) :
    AudioSession σ γ :=
  match sequel, told with
  | .refuse _, .error e => { s with stage := .ended (.error e) }
  | .refuse e, .ok () | .fail e, _ => { s with stage := .ended (.error e) }
  | .giveBack encoder e, _ => { s with stage := .tearDown (some encoder) (.error e) }

def disable (s : AudioSession σ γ) (isError : Bool) (sequel : Sequel) : AudioSession σ γ :=
  match s.framer.disable isError with
  | (framer, none) => { s with framer }.follow sequel (.ok ())
  | (framer, some bytes) => { s with framer, stage := .announce { rest := bytes } sequel }

/-- The stop signal is not heard here. -/
def announce? (s : AudioSession σ γ) (t : Transfer) (sequel : Sequel) :
    Option (AudioSession σ γ) :=
  match s.sink.transfer t with
  | (_, .waits) => none
  | (sink, .stalls t) => some { s with sink, stage := .announce t sequel }
  | (sink, .ends told) => some ({ s with sink }.follow sequel told)

/-! ### Beginning and end -/

section

variable [PcmSource γ]

/-- A missing capability is told as a stream that is switched off, anything else as an error. -/
def check (s : AudioSession σ γ) : AudioSession σ γ :=
  match PcmSource.check s.source with
  | (source, .ok ()) =>
    { s with source, stage := if s.setup.encodes then .openEncoder else .startCapture none }
  | (source, .error e) =>
    let isError := match e with
      | .unsupported _ => false
      | _ => true
    { s with source }.disable isError (.refuse e)

/-- Begins a read of the size that a packet of plain sound has: 1024 samples of all channels. -/
def packetSize : Nat := 1024 * SoundClock.frameSize

def beginRecordRead (s : AudioSession σ γ) : AudioSession σ γ :=
  { s with source := PcmSource.beginRead s.source packetSize, stage := .recordRead }

/-- With an encoder, the encoder is next; without one, the header. -/
def startCapture (s : AudioSession σ γ) (encoder : Option Nat) : AudioSession σ γ :=
  let s := s.record [.capture .start]
  match PcmSource.start s.source, encoder with
  | (source, .ok ()), some encoder => { s with source, stage := .startEncoder encoder }
  | (source, .ok ()), none =>
    match s.framer.audioHeader with
    | (framer, none) => { s with source, framer }.beginRecordRead
    | (framer, some bytes) => { s with source, framer, stage := .recordHeader { rest := bytes } }
  | (source, .error e), some encoder => { s with source }.disable true (.giveBack encoder e)
  | (source, .error e), none => { s with source }.disable true (.fail e)

/-- The stop signal is not heard while the source takes its time to start. -/
def startCapture? (s : AudioSession σ γ) (encoder : Option Nat) : Option (AudioSession σ γ) :=
  if PcmSource.responds s.source then some (s.startCapture encoder) else none

/-- The source is stopped even if it was not started. -/
def stopCapture? (s : AudioSession σ γ) (result : Except Error Unit) :
    Option (AudioSession σ γ) :=
  if PcmSource.responds s.source then
    some { s.record [.capture .stop] with
      source := PcmSource.stop s.source, stage := .ended result }
  else none

end

/-- The queues are closed first, so that an encoder that waits for room in them goes on. -/
def tearDown [EncoderHost σ] (s : AudioSession σ γ) (encoder : Option Nat)
    (result : Except Error Unit) : AudioSession σ γ :=
  match encoder with
  | none => { s with stage := .stopCapture result }
  | some encoder =>
    let host := EncoderHost.release (EncoderHost.stop s.host encoder) encoder
    { s.record [ .encoder (.closeQueues encoder), .encoder (.stop encoder)
               , .encoder (.release encoder) ] with
      host, listening := s.listening.close, stage := .stopCapture result }

/-- Reading no bytes is an error, since sound does not end. -/
def noSound : Error := .io ⟨.other, some "could not read audio: 0"⟩

end AudioSession

end Screencast
