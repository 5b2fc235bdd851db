import Screencast.Audio.Session
import Screencast.Session.Line
import Screencast.Session.Supervisor
import Screencast.Stream.NameField
import Screencast.Video.Session

/-!
A session from its beginning to its end. The server makes the device, opens the channels with the
desktop, sends the name of the device on the first of them, and starts one processor for each. At
the end, whatever it is, sockets and endpoints are gone and the device is released.
-/

namespace Screencast

inductive SessionStage where
  /-- The device is about to be made. -/
  | creating
  /-- The server is about to listen. -/
  | binding
  /-- For the desktop to connect. -/
  | accepting
  /-- The server is about to connect to the desktop. -/
  | connecting
  /-- All channels are open. -/
  | greeting
  | serving (supervisor : Supervisor)
  | ended (result : Except Error Unit)
deriving Repr, Inhabited

/-- Encoders come from a `σ`, sound from a `γ`. -/
structure Session (σ γ : Type) where
  options : Options
  device : Device
  dir : SocketDir := {}
  videoHost : σ
  audioHost : σ
  source : γ
  stage : SessionStage := .creating
  stopRequested : Bool := false
  /-- The channels that the desktop has connected. -/
  lines : PerChannel (Option Line) := ⟨none, none, none⟩
  /-- Further connections of the desktop, instead of those above. An endpoint serves only one, so
  these wait until it is gone. -/
  waiting : PerChannel (Option Line) := ⟨none, none, none⟩
  control : Option ControlSession := none
  audio : Option (AudioSession σ γ) := none
  video : Option (VideoSession σ) := none

def Options.enabled (o : Options) : List ChannelKind :=
  ChannelKind.all.filter (PerChannel.get ⟨o.video, o.audio, o.control⟩)

namespace Session

variable {σ γ : Type}

def result? (s : Session σ γ) : Option (Except Error Unit) :=
  match s.stage with
  | .ended result => some result
  | _ => none

def enabled (s : Session σ γ) : List ChannelKind := s.options.enabled

/-- Where the bytes of a channel go. -/
def sink? (s : Session σ γ) (kind : ChannelKind) : Option Sink :=
  let processor : Option Sink := match kind with
    | .video => s.video.map (·.sink)
    | .audio => s.audio.map (·.sink)
    | .control => s.control.map (·.writer.sink)
  processor.or ((s.lines.get kind).map (·.sink))

/-- The connection that the desktop has on a channel. -/
def desktopLine? (s : Session σ γ) (kind : ChannelKind) : Option Line :=
  (s.waiting.get kind).or (s.lines.get kind)

/-- What the desktop has received on a channel since it last connected it. -/
def received (s : Session σ γ) (kind : ChannelKind) : Bytes :=
  if (s.waiting.get kind).isSome then [] else ((s.sink? kind).map (·.accepted)).getD []

/-- The channels that the server has closed under the desktop. -/
def hangUps (s : Session σ γ) : List ChannelKind :=
  ChannelKind.all.filter fun kind => (s.desktopLine? kind).any (·.isHungUp)

/-! ### What happens to the server -/

def requestStop (s : Session σ γ) : Session σ γ := { s with stopRequested := true }

/-- Something happens on the device. -/
def onDevice (s : Session σ γ) (act : Device → Device) : Session σ γ :=
  let device := act s.device
  match s.control with
  | none => { s with device }
  | some c =>
    let (c, device) := c.passOn device
    { s with control := some c, device }

/-- Nothing can be written to the processor of a channel any more, or read by it. -/
def cut (s : Session σ γ) (kind : ChannelKind) : Session σ γ :=
  match kind with
  | .video =>
    { s with video := s.video.map fun v => { v with sink := v.sink.breakWith Line.brokenPipe } }
  | .audio =>
    { s with audio := s.audio.map fun a => { a with sink := a.sink.breakWith Line.brokenPipe } }
  | .control =>
    { s with control := s.control.map fun c =>
        { c with writer.sink := c.writer.sink.breakWith Line.brokenPipe }.receive .eof }

/-- The desktop closes a channel. -/
def disconnect (s : Session σ γ) (kind : ChannelKind) : Session σ γ :=
  match s.waiting.get kind with
  | some line => { s with waiting := s.waiting.set kind (some line.closeDesktopEnd) }
  | none =>
    { s with lines := s.lines.set kind ((s.lines.get kind).map Line.closeDesktopEnd) }.cut kind

/-- The desktop connects a channel, unless nobody listens there. A connection that it has there
already is closed. -/
def connect? (s : Session σ γ) (kind : ChannelKind) : Option (Session σ γ) :=
  if !s.dir.listens kind then none
  else if (s.lines.get kind).isNone then some { s with lines := s.lines.set kind (some {}) }
  else
    let s := s.disconnect kind
    some { s with waiting := s.waiting.set kind (some {}) }

/-- The desktop sends on a channel, if it is open. Only the control channel is read, and nothing
reads from a connection that waits. -/
def send? (s : Session σ γ) (kind : ChannelKind) (bytes : Bytes) : Option (Session σ γ) :=
  match s.waiting.get kind, s.lines.get kind with
  | some line, _ => if line.isOpen then some s else none
  | none, none => none
  | none, some line =>
    if !line.isOpen then none
    else match kind, s.control with
      | .control, some c => some { s with control := some (c.receive (.bytes bytes)) }
      | _, _ =>
        let line := { line with arrivals := line.arrivals ++ [.bytes bytes] }
        some { s with lines := s.lines.set kind (some line) }

/-! ### The end -/

/-- Removes the endpoints, and turns away whoever waits there. -/
def unbind (s : Session σ γ) : Session σ γ :=
  { s with
    dir := s.dir.unbind
    waiting := s.waiting.map fun line => line.map Line.closeServerEnd }

def finish (s : Session σ γ) (result : Except Error Unit) : Session σ γ :=
  { s.unbind with
    lines := s.lines.map fun line => line.map Line.closeServerEnd
    device := s.device.release
    stage := .ended result }

/-! ### The device and the channels -/

def createDevice (s : Session σ γ) : Session σ γ :=
  match Device.create s.options s.device.platform with
  | (platform, .error e) => { s with device := { s.device with platform } }.finish (.error e)
  | (_, .ok device) =>
    { s with device, stage := if s.options.tunnelForward then .binding else .connecting }

def bind (s : Session σ γ) : Session σ γ :=
  match s.dir.bindAll s.enabled with
  | (dir, .ok ()) => { s with dir, stage := .accepting }
  | (dir, .error e) => { s with dir }.finish (.error (.io e))

/-- Accepts a channel. With the last one the endpoints have done their service. -/
def accept? (s : Session σ γ) : Option (Session σ γ) :=
  let next := s.enabled.findSome? fun kind =>
    ((s.lines.get kind).filter (!·.accepted)).map fun line => (kind, line)
  match next with
  | some (kind, line) =>
    let (line, result) := line.accept s.options.sendDummyByte
    let s := { s with lines := s.lines.set kind (some line) }
    some (match result with
      | .ok () => s
      | .error e => s.finish (.error e))
  | none =>
    if s.enabled.all fun kind => (s.lines.get kind).any (·.accepted) then
      some { s.unbind with stage := .greeting }
    else none

/-- Connects to the desktop, channel by channel. -/
def connectAll (s : Session σ γ) : List ChannelKind → Session σ γ
  | [] => { s with stage := .greeting }
  | kind :: rest =>
    match s.dir.connect kind with
    | .ok () => { s with lines := s.lines.set kind (some { accepted := true }) }.connectAll rest
    | .error e => s.finish (.error (.io e))

/-! ### The processors -/

def processors : List ChannelKind := [.control, .audio, .video]

section

variable [EncoderHost σ] [PcmSource γ]

/-- Starts a processor for each channel. -/
def serve (s : Session σ γ) : Session σ γ :=
  let o := s.options
  let line (kind : ChannelKind) : Line := (s.lines.get kind).getD {}
  let (control, device) :=
    if o.control then
      let (c, device) := s.device.control (line .control).sink o.clipboardAutosync o.powerOn
      (some { c with arrivals := (line .control).arrivals }.start, device)
    else (none, s.device)
  let audio := o.audioSession o.audioSetup s.audioHost s.source (line .audio).sink
  let video := device.encodeScreen s.videoHost o.videoSetup o.sendCodecMeta o.sendFrameMeta
    (line .video).sink
  { s with
    device
    control
    audio := if o.audio then some audio.start else none
    video := if o.video then some video.start else none
    stage := .serving (.start (processors.filter s.enabled.contains)) }

/-- Sends the name of the device, if it is to be sent, before anything else. -/
def greet (s : Session σ γ) : Session σ γ :=
  if !s.options.sendDeviceMeta then s.serve
  else match s.enabled.head?.bind fun kind => (s.lines.get kind).map fun line => (kind, line) with
    | none => s.finish (.error (.configuration .noChannelForDeviceMeta))
    | some (kind, line) =>
      match line.sink.write (nameField s.device.platform.name) with
      | (_, .failed e) => s.finish (.error (.io e))
      | (sink, _) => { s with lines := s.lines.set kind (some { line with sink }) }.serve

def stepControl? (pick : Nat) (s : Session σ γ) : Option (Session σ γ) :=
  s.control.bind fun c => (ControlSession.step pick (c, s.device)).map fun (c, device) =>
    { s with control := some c, device }

def stepAudio? (pick : Nat) (s : Session σ γ) : Option (Session σ γ) :=
  s.audio.bind fun a => (a.step pick).map fun a => { s with audio := some a }

def stepVideo? (pick : Nat) (s : Session σ γ) : Option (Session σ γ) :=
  s.video.bind fun v => (v.step pick s.device).map fun (v, device) =>
    { s with video := some v, device }

def stepProcessor? (pick : Nat) (s : Session σ γ) : ChannelKind → Option (Session σ γ)
  | .control => s.stepControl? pick
  | .audio => s.stepAudio? pick
  | .video => s.stepVideo? pick

end

/-- How the processor of a channel ended, if it has. -/
def outcome? (s : Session σ γ) (kind : ChannelKind) : Option Outcome :=
  let result : Option (Except Error Unit) := match kind with
    | .control => s.control.bind (·.result?)
    | .audio => s.audio.bind (·.result?)
    | .video => s.video.bind (·.result?)
  result.map Outcome.ofResult

/-- Tells the supervisor of a processor that has ended. -/
def report? (s : Session σ γ) (supervisor : Supervisor) : Option (Session σ γ) :=
  (processors.filter supervisor.runs).findSome? fun kind =>
    (s.outcome? kind).map fun outcome =>
      { s with stage := .serving (supervisor.report kind outcome) }

/-- Tells all processors to stop, and shuts the sockets down so that none waits for the desktop. -/
def stopAll (s : Session σ γ) : Session σ γ :=
  let stopped :=
    { s with
      control := s.control.map ControlSession.stop
      audio := s.audio.map AudioSession.stop
      video := s.video.map VideoSession.stop }
  ChannelKind.all.foldl cut stopped

def supervise? (pick : Nat) (s : Session σ γ) (supervisor : Supervisor) : Option (Session σ γ) :=
  (supervisor.step pick s.stopRequested).map fun next =>
    match next.stage with
    | .waiting => { s with stage := .serving next }
    | .joining _ => { s.stopAll with stage := .serving next }
    | .ended result => s.finish result

/-! ### Running -/

variable [EncoderHost σ] [PcmSource γ]

/-- Goes on opening the channels. -/
def open? (s : Session σ γ) : Option (Session σ γ) :=
  match s.stage with
  | .binding => some s.bind
  | .accepting => s.accept?
  | .connecting => some (s.connectAll s.enabled)
  | _ => none

/-- One step, or nothing as long as all tasks have to wait. As long as the channels are not open,
stopping is no failure; when they could be opened as well, `pick` decides. -/
def step (pick : Nat) (s : Session σ γ) : Option (Session σ γ) :=
  match s.stage with
  | .creating => some s.createDevice
  | .binding | .accepting | .connecting =>
    firstReady pick [if s.stopRequested then some (s.finish (.ok ())) else none, s.open?]
  | .greeting => some s.greet
  | .serving supervisor =>
    (processors.findSome? (s.stepProcessor? pick)).or
      ((s.report? supervisor).or (s.supervise? pick supervisor))
  | .ended _ => none

/-- Goes on until all tasks have to wait or the session has ended. -/
def run (pick : Nat) (s : Session σ γ) : Session σ γ := settle (step pick) patience s

end Session

end Screencast
