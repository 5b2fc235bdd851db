import Screencast.Device.Basic
import Screencast.Encoder.Host
import Screencast.Encoder.Listening
import Screencast.Scheduling
import Screencast.Stream.Transfer
import Screencast.Video.Fallback

/-!
The task that encodes the screen and writes the video channel. It goes through attempts. Each has
one encoder and one virtual display, and gives both back before the next attempt takes any: when
the device turns, a new attempt begins with the new geometry, and when the encoder rejects the
size, with a smaller one. Every call on encoders and displays is recorded.
-/

namespace Screencast

structure VideoSetup where
  codec : VideoCodec
  encoderName : Option String := none
  bitRate : Nat
  maxFps : Nat
  codecOptions : List CodecOption
  /-- Try smaller sizes when the encoder rejects one. -/
  downsize : Bool := true
deriving DecidableEq, Repr, Inhabited

def Options.videoSetup (o : Options) : VideoSetup :=
  { codec := o.videoCodec
    encoderName := o.videoEncoder
    bitRate := o.videoBitRate
    maxFps := o.maxFps
    codecOptions := o.videoCodecOptions }

inductive VideoCall where
  | encoder (call : EncoderCall)
  | display (call : DisplayCall)
deriving DecidableEq, Repr, Inhabited

/-- What an attempt holds, and the size it encodes. -/
structure Attempt where
  encoder : Nat
  display : Nat
  size : Size
deriving DecidableEq, Repr, Inhabited

/-- How an attempt ended without an error. -/
inductive Ending where
  | stopped
  | endOfStream
  | restart
deriving DecidableEq, Repr, Inhabited

inductive VideoStage where
  | idle
  /-- The rotations published so far are about to count as seen. -/
  | observe
  /-- The size is about to be read from the geometry. -/
  | measure
  | openEncoder (size : Size)
  | createDisplay (encoder : Nat) (size : Size)
  | configure (a : Attempt)
  | createSurface (a : Attempt)
  /-- The projection is about to be read from the geometry. -/
  | project (a : Attempt) (surface : Nat)
  | bind (a : Attempt) (surface : Nat) (projection : Projection)
  | startEncoder (a : Attempt)
  /-- For output, the stop signal, a rotation or a failure. -/
  | await (a : Attempt)
  /-- An output buffer was taken. -/
  | deliver (a : Attempt) (output : OutputBuffer)
  | sendHeader (a : Attempt) (output : OutputBuffer) (data : Bytes) (t : Transfer)
  | sendPacket (a : Attempt) (output : OutputBuffer) (t : Transfer)
  /-- The buffer goes back to the encoder, whatever became of its content. -/
  | giveBack (a : Attempt) (output : OutputBuffer) (written : Except Error Unit)
  /-- Encoder and display are given back. -/
  | tearDown (a : Attempt) (ending : Except Error Ending)
  | conclude (size : Size) (ending : Except Error Ending)
  /-- Tells the desktop that there will be no video. -/
  | announce (e : Error) (t : Transfer)
  | ended (result : Except Error Unit)
deriving Repr, Inhabited

structure VideoSession (σ : Type) where
  setup : VideoSetup
  host : σ
  framer : Framer
  sink : Sink
  /-- The version of the rotation that was seen last. -/
  seen : Nat
  listening : Listening := {}
  stage : VideoStage := .idle
  stopping : Bool := false
  calls : List VideoCall := []

namespace VideoSession

def name : String := "Screen encoder"

/-- The name of the virtual display. -/
def displayName : String := "mirror"

variable {σ : Type}

def start (s : VideoSession σ) : VideoSession σ :=
  match s.stage with
  | .idle => { s with stage := .observe }
  | _ => s

def stop (s : VideoSession σ) : VideoSession σ := { s with stopping := true }

def record (s : VideoSession σ) (calls : List VideoCall) : VideoSession σ :=
  { s with calls := s.calls ++ calls }

def result? (s : VideoSession σ) : Option (Except Error Unit) :=
  match s.stage with
  | .ended result => some result
  | _ => none

/-- The format without a size. -/
def baseFormat (s : VideoSession σ) : EncoderFormat :=
  .video s.setup.codec.mime s.setup.bitRate s.setup.maxFps s.setup.codecOptions

/-! ### The stages of an attempt -/

section

variable [EncoderHost σ]

def openEncoder (s : VideoSession σ) (size : Size) : VideoSession σ :=
  let c := Screencast.openEncoder s.host s.setup.codec.mime s.setup.encoderName
  let s := { s.record (c.calls.map .encoder) with host := c.host }
  match c.result with
  | .ok encoder => { s with stage := .createDisplay encoder size }
  | .error e => { s with stage := .conclude size (.error e) }

/-- Without a display the encoder is given back at once. -/
def createDisplay (s : VideoSession σ) (d : Device) (encoder : Nat) (size : Size) :
    VideoSession σ × Device :=
  let secure : Bool := d.platform.apiLevel ≤ ApiLevel.secureDisplayMax
  match d.platform.createDisplay with
  | (platform, .ok display) =>
    let s := s.record [.display (.create displayName secure (some display))]
    ({ s with listening := {}, stage := .configure ⟨encoder, display, size⟩ }, { d with platform })
  | (platform, .error e) =>
    let s := s.record
      [.display (.create displayName secure none), .encoder (.release encoder)]
    ({ s with host := EncoderHost.release s.host encoder, stage := .conclude size (.error e) },
      { d with platform })

def configure (s : VideoSession σ) (a : Attempt) : VideoSession σ :=
  let format := s.baseFormat.withSize a.size
  let s := s.record [.encoder (.configure a.encoder format)]
  match EncoderHost.configure s.host a.encoder format with
  | (host, .ok ()) => { s with host, stage := .createSurface a }
  | (host, .error e) => { s with host, stage := .tearDown a (.error (.codec e)) }

def createSurface (s : VideoSession σ) (a : Attempt) : VideoSession σ :=
  let s := s.record [.encoder (.surface a.encoder)]
  match EncoderHost.surface s.host a.encoder with
  | (host, .ok surface) => { s with host, stage := .project a surface }
  | (host, .error e) => { s with host, stage := .tearDown a (.error (.codec e)) }

def projection (d : Device) : Projection :=
  { orientation := d.layout.videoRotation
    contentRect := d.layout.contentRect
    videoRect := d.layout.unlockedVideoSize.toRect
    layerStack := d.layerStack }

def bind (s : VideoSession σ) (d : Device) (a : Attempt) (surface : Nat) (p : Projection) :
    VideoSession σ × Device :=
  let s := s.record [.display (.setSurface a.display surface p)]
  match d.platform.setSurface p with
  | (platform, .ok ()) => ({ s with stage := .startEncoder a }, { d with platform })
  | (platform, .error e) => ({ s with stage := .tearDown a (.error e) }, { d with platform })

def startEncoder (s : VideoSession σ) (a : Attempt) : VideoSession σ :=
  let s := s.record [.encoder (.start a.encoder)]
  match EncoderHost.start s.host a.encoder with
  | (host, .ok ()) =>
    { s with host, listening.reporter := some a.encoder, stage := .await a }
  | (host, .error e) => { s with host, stage := .tearDown a (.error (.codec e)) }

/-! ### Waiting for output -/

def stopBranch (s : VideoSession σ) (a : Attempt) : Option (VideoSession σ) :=
  if s.stopping then some { s with stage := .tearDown a (.ok .stopped) } else none

def failureBranch (s : VideoSession σ) (a : Attempt) : Option (VideoSession σ) :=
  s.listening.failure?.map fun e => { s with stage := .tearDown a (.error e) }

/-- A rotation that was not seen yet calls for a new attempt. -/
def rotationBranch (s : VideoSession σ) (d : Device) (a : Attempt) : Option (VideoSession σ) :=
  if s.seen = d.rotationVersion then none
  else some { s with seen := d.rotationVersion, stage := .tearDown a (.ok .restart) }

def outputBranch (s : VideoSession σ) (a : Attempt) : Option (VideoSession σ) :=
  match s.listening.takeOutput with
  | (_, .empty) => none
  | (listening, .item output) => some { s with listening, stage := .deliver a output }
  | (listening, .ended) =>
    some { s with listening, stage := .tearDown a (.error .channelClosed) }

/-- When more than one thing has happened, `pick` decides. -/
def await (pick : Nat) (s : VideoSession σ) (d : Device) (a : Attempt) :
    Option (VideoSession σ) :=
  firstReady pick
    [s.stopBranch a, s.failureBranch a, s.rotationBranch d a, s.outputBranch a]

/-! ### Writing a buffer -/

def beginPacket (s : VideoSession σ) (a : Attempt) (output : OutputBuffer) (data : Bytes) :
    VideoSession σ :=
  match s.framer.packet (output.info.unit data) with
  | .error e => { s with stage := .giveBack a output (.error e) }
  | .ok (framer, none) => { s with framer, stage := .giveBack a output (.ok ()) }
  | .ok (framer, some bytes) => { s with framer, stage := .sendPacket a output { rest := bytes } }

/-- The header goes in front of the first buffer that is not empty. -/
def deliver (s : VideoSession σ) (a : Attempt) (output : OutputBuffer) : VideoSession σ :=
  if output.info.size = 0 then { s with stage := .giveBack a output (.ok ()) }
  else
    let s := s.record [.encoder (.readOutput a.encoder output.index)]
    match EncoderHost.readOutput s.host a.encoder output.index with
    | .error e => { s with stage := .giveBack a output (.error (.codec e)) }
    | .ok data =>
      match s.framer.videoHeader a.size with
      | (framer, some bytes) =>
        { s with framer, stage := .sendHeader a output data { rest := bytes } }
      | (framer, none) => { s with framer }.beginPacket a output data

def sendHeader? (s : VideoSession σ) (a : Attempt) (output : OutputBuffer) (data : Bytes)
    (t : Transfer) : Option (VideoSession σ) :=
  match s.sink.transfer t with
  | (_, .waits) => none
  | (sink, .stalls t) => some { s with sink, stage := .sendHeader a output data t }
  | (sink, .ends (.ok ())) => some ({ s with sink }.beginPacket a output data)
  | (sink, .ends (.error e)) => some { s with sink, stage := .giveBack a output (.error e) }

def sendPacket? (s : VideoSession σ) (a : Attempt) (output : OutputBuffer) (t : Transfer) :
    Option (VideoSession σ) :=
  match s.sink.transfer t with
  | (_, .waits) => none
  | (sink, .stalls t) => some { s with sink, stage := .sendPacket a output t }
  | (sink, .ends result) => some { s with sink, stage := .giveBack a output result }

/-- A buffer that cannot be given back ends the attempt, and so does one that was not written. -/
def giveBack (s : VideoSession σ) (a : Attempt) (output : OutputBuffer)
    (written : Except Error Unit) : VideoSession σ :=
  let s := s.record [.encoder (.returnOutput a.encoder output.index)]
  let (host, returned) := EncoderHost.returnOutput s.host a.encoder output.index
  let s := { s with host }
  match returned, written with
  | .error e, _ => { s with stage := .tearDown a (.error (.codec e)) }
  | .ok (), .error e => { s with stage := .tearDown a (.error e) }
  | .ok (), .ok () =>
    if output.info.flags.isEndOfStream then { s with stage := .tearDown a (.ok .endOfStream) }
    else { s with stage := .await a }

/-! ### The end of an attempt -/

/-- The queues are closed first, so that an encoder that waits for room in them goes on. -/
def tearDown (s : VideoSession σ) (d : Device) (a : Attempt) (ending : Except Error Ending) :
    VideoSession σ × Device :=
  let s := s.record
    [ .encoder (.closeQueues a.encoder), .encoder (.stop a.encoder), .encoder (.release a.encoder)
    , .display (.destroy a.display) ]
  let host := EncoderHost.release (EncoderHost.stop s.host a.encoder) a.encoder
  ({ s with host, listening := s.listening.close, stage := .conclude a.size ending },
    { d with platform := d.platform.dropDisplay })

end

/-- The desktop is told of a failure unless it has a header already, or is gone. -/
def exit (s : VideoSession σ) (result : Except Error Unit) : VideoSession σ :=
  match result with
  | .ok () => { s with stage := .ended result }
  | .error e =>
    if e.isDisconnect || s.framer.headerSent then { s with stage := .ended result }
    else match s.framer.disable true with
      | (framer, none) => { s with framer, stage := .ended result }
      | (framer, some bytes) => { s with framer, stage := .announce e { rest := bytes } }

/-- A rejected size is followed by a smaller one, as long as there is any. -/
def conclude (s : VideoSession σ) (d : Device) (size : Size) (ending : Except Error Ending) :
    VideoSession σ × Device :=
  match ending with
  | .ok .restart => ({ s with stage := .observe }, d)
  | .ok _ => (s.exit (.ok ()), d)
  | .error (.codec (.rejected reason)) =>
    if s.setup.downsize then
      match nextFallback? size with
      | some maxSize => ({ s with stage := .observe }, d.limitSize maxSize)
      | none => (s.exit (.error (.fallbackExhausted size.larger)), d)
    else (s.exit (.error (.codec (.rejected reason))), d)
  | .error e => (s.exit (.error e), d)

/-- Whether the mark arrives makes no difference. -/
def announce? (s : VideoSession σ) (e : Error) (t : Transfer) : Option (VideoSession σ) :=
  match s.sink.transfer t with
  | (_, .waits) => none
  | (sink, .stalls t) => some { s with sink, stage := .announce e t }
  | (sink, .ends _) => some { s with sink, stage := .ended (.error e) }

/-! ### Running -/

variable [EncoderHost σ]

/-- One step, or nothing as long as the session has to wait. A write is given up for the stop
signal only when the sink makes it wait. -/
def step (pick : Nat) (s : VideoSession σ) (d : Device) : Option (VideoSession σ × Device) :=
  let alone (s : VideoSession σ) : Option (VideoSession σ × Device) := some (s, d)
  match s.stage with
  | .idle | .ended _ => none
  | .observe => alone { s with seen := d.rotationVersion, stage := .measure }
  | .measure => alone { s with stage := .openEncoder d.layout.videoSize }
  | .openEncoder size => alone (s.openEncoder size)
  | .createDisplay encoder size => some (s.createDisplay d encoder size)
  | .configure a => alone (s.configure a)
  | .createSurface a => alone (s.createSurface a)
  | .project a surface => alone { s with stage := .bind a surface (projection d) }
  | .bind a surface p => some (s.bind d a surface p)
  | .startEncoder a => alone (s.startEncoder a)
  | .await a => (s.await pick d a).map fun s => (s, d)
  | .deliver a output =>
    (firstReady pick [s.stopBranch a, some (s.deliver a output)]).map fun s => (s, d)
  | .sendHeader a output data t =>
    let stopped := if t.stalled then s.stopBranch a else none
    (firstReady pick [stopped, s.sendHeader? a output data t]).map fun s => (s, d)
  | .sendPacket a output t =>
    let stopped := if t.stalled then s.stopBranch a else none
    (firstReady pick [stopped, s.sendPacket? a output t]).map fun s => (s, d)
  | .giveBack a output written => alone (s.giveBack a output written)
  | .tearDown a ending => some (s.tearDown d a ending)
  | .conclude size ending => some (s.conclude d size ending)
  | .announce e t => (s.announce? e t).map fun s => (s, d)

/-- Goes on until it has to wait or ends. -/
def run (pick : Nat) (s : VideoSession σ) (d : Device) : VideoSession σ × Device :=
  settle (fun (s, d) => step pick s d) patience (s, d)

end VideoSession

/-- The video session of these options; the rotation of the moment counts as seen. -/
def Device.encodeScreen {σ : Type} (d : Device) (host : σ) (setup : VideoSetup)
    (codecMeta frameMeta : Bool) (sink : Sink) : VideoSession σ :=
  { setup
    host
    framer := { codec := .video setup.codec, codecMeta, frameMeta }
    sink
    seen := d.rotationVersion }

end Screencast
