import Screencast.Encoder.Host
import Screencast.Encoder.Listening

/-!
Encoders of a device that has no hardware. Each runs on its own once it is started: it announces a
codec configuration, and then a video encoder makes up pictures on a clock of its own, while an
audio encoder answers each input block with its beginning.
-/

namespace Screencast

structure SyntheticSetup where
  /-- A video encoder stops by itself after this many pictures. -/
  maxFrames : Option Nat := none
  rejectAbove : Option Nat := none
  keyFrameInterval : Nat := 60
  /-- The timestamp of the first picture. -/
  firstPts : Nat := 1000000
  frameSize : Nat := 128
  /-- A video encoder fails after this many pictures. -/
  errorAfter : Option Nat := none
deriving DecidableEq, Repr, Inhabited

/-- What a running encoder does next. -/
inductive SyntheticTask where
  | announce
  /-- Offers its input buffers from this one on. -/
  | offer (slot : Nat)
  /-- Waits for input. -/
  | encode
  /-- Gives an input buffer back after its block was encoded. -/
  | giveBack (slot : Nat)
  /-- Makes up the picture with this number. -/
  | draw (n : Nat)
  /-- Says that it will not report any more. -/
  | leave
  | ended
deriving DecidableEq, Repr, Inhabited

structure SyntheticEncoder where
  name : String
  mime : String
  configured : Bool := false
  running : Bool := false
  task : SyntheticTask := .ended
  /-- The index of the next output buffer. -/
  nextIndex : Nat := 0
  outputs : List (Nat × Bytes) := []
  /-- Queued input: buffer, data and timestamp. -/
  inputs : List (Nat × Bytes × Nat) := []
  takesInput : Bool := false
deriving Repr, Inhabited

/-- What an encoder reports. -/
inductive EncoderReport where
  | input (index : Nat)
  | output (buffer : OutputBuffer)
  | error (e : EncoderError)
  /-- It will not report any more. -/
  | ended
deriving DecidableEq, Repr, Inhabited

structure SyntheticEncoders where
  setup : SyntheticSetup := {}
  encoders : List SyntheticEncoder := []
  started : Nat := 0
  released : Nat := 0
  /-- Pictures made up by all encoders; they share one clock. -/
  frames : Nat := 0
  /-- The sizes that were to be configured, rejected ones included. -/
  sizes : List Size := []
deriving Repr, Inhabited

namespace SyntheticEncoders

def catalogue : Catalogue :=
  [ ("mock.avc.encoder", "video/avc")
  , ("mock.hevc.encoder", "video/hevc")
  , ("mock.av1.encoder", "video/av01")
  , ("mock.opus.encoder", "audio/opus")
  , ("mock.aac.encoder", "audio/mp4a-latm") ]

def slots : Nat := 4

def inputSize : Nat := 4096

def frameDuration : Nat := 16666

def configData : Bytes := [0x00, 0x00, 0x00, 0x01, 0x67, 0x42]

def created (h : SyntheticEncoders) : Nat := h.encoders.length

/-- Encoders are numbered from 1 in the order of creation. -/
def get? (h : SyntheticEncoders) (encoder : Nat) : Option SyntheticEncoder :=
  if encoder = 0 then none else h.encoders[encoder - 1]?

def put (h : SyntheticEncoders) (encoder : Nat) (e : SyntheticEncoder) : SyntheticEncoders :=
  { h with encoders := h.encoders.set (encoder - 1) e }

def isAudio (e : SyntheticEncoder) : Bool := "audio/".isPrefixOf e.mime

def find (choice : EncoderChoice) : Except EncoderError String :=
  match catalogue.choose? choice with
  | some name => .ok name
  | none => match choice with
    | .byName name => .error (.unsupported s!"no encoder named {name}")
    | .byMime mime => .error (.unsupported s!"no encoder for {mime}")

def create (h : SyntheticEncoders) (name : String) : SyntheticEncoders × Except EncoderError Nat :=
  match catalogue.lookup name with
  | some mime => ({ h with encoders := h.encoders ++ [{ name, mime }] }, .ok (h.created + 1))
  | none => (h, .error (.unsupported s!"no encoder named {name}"))

/-- A size is refused when it is too large or empty. -/
def checkSize (c : SyntheticSetup) (size : Size) : Except EncoderError Unit :=
  let text := size.text
  match c.rejectAbove with
  | some limit =>
    if size.larger > limit then .error (.rejected s!"{text} exceeds {limit}") else nonEmpty text
  | none => nonEmpty text
where
  nonEmpty (text : String) : Except EncoderError Unit :=
    if size.width = 0 || size.height = 0 then .error (.rejected s!"invalid size {text}")
    else .ok ()

def checkFormat (c : SyntheticSetup) (e : SyntheticEncoder) (format : EncoderFormat) :
    Except EncoderError Unit := do
  if let some size := format.size? then checkSize c size
  let name := e.name
  let mime := e.mime
  if format.get? "mime" = some (.string mime) then return ()
  else throw (.unsupported s!"{name} only encodes {mime}")

def configure (h : SyntheticEncoders) (encoder : Nat) (format : EncoderFormat) :
    SyntheticEncoders × Except EncoderError Unit :=
  match h.get? encoder with
  | none => (h, .error (.unsupported "released"))
  | some e =>
    let h := { h with sizes := h.sizes ++ format.size?.toList }
    match checkFormat h.setup e format with
    | .error fault => (h, .error fault)
    | .ok () => (h.put encoder { e with configured := true }, .ok ())

def surface (h : SyntheticEncoders) (encoder : Nat) : SyntheticEncoders × Except EncoderError Nat :=
  match h.get? encoder with
  | none => (h, .error (.unsupported "no input surface"))
  | some e =>
    if isAudio e || !e.configured then (h, .error (.unsupported "no input surface"))
    else (h, .ok h.created)

def start (h : SyntheticEncoders) (encoder : Nat) : SyntheticEncoders × Except EncoderError Unit :=
  match h.get? encoder with
  | none => (h, .error (.rejected "start before configure"))
  | some e =>
    if !e.configured then (h, .error (.rejected "start before configure"))
    else
      let e := { e with
        running := true
        task := .announce
        nextIndex := 0
        inputs := []
        takesInput := isAudio e }
      ({ h.put encoder e with started := h.started + 1 }, .ok ())

def inputRoom (h : SyntheticEncoders) (encoder index : Nat) : Except EncoderError Nat :=
  match h.get? encoder with
  | some e =>
    if isAudio e && index < slots then .ok inputSize else .error (.invalidBuffer index)
  | none => .error (.invalidBuffer index)

def submitInput (h : SyntheticEncoders) (encoder index : Nat) (unit : AccessUnit) :
    SyntheticEncoders × Except EncoderError Unit :=
  match h.get? encoder with
  | none => (h, .error (.invalidBuffer index))
  | some e =>
    if slots ≤ index || !e.takesInput then (h, .error (.invalidBuffer index))
    else if e.task = .ended then (h, .error (.io ⟨.other, some "encoder stopped"⟩))
    else
      (h.put encoder { e with inputs := e.inputs ++ [(index, unit.data, unit.pts)] }, .ok ())

def readOutput (h : SyntheticEncoders) (encoder index : Nat) : Except EncoderError Bytes :=
  match (h.get? encoder).bind fun e => e.outputs.lookup index with
  | some data => .ok data
  | none => .error (.invalidBuffer index)

def returnOutput (h : SyntheticEncoders) (encoder index : Nat) :
    SyntheticEncoders × Except EncoderError Unit :=
  match h.get? encoder with
  | none => (h, .error (.invalidBuffer index))
  | some e =>
    if (e.outputs.lookup index).isNone then (h, .error (.invalidBuffer index))
    else
      let outputs := e.outputs.filter fun output => output.1 != index
      (h.put encoder { e with outputs }, .ok ())

def stop (h : SyntheticEncoders) (encoder : Nat) : SyntheticEncoders :=
  match h.get? encoder with
  | none => h
  | some e => h.put encoder { e with running := false, takesInput := false }

def release (h : SyntheticEncoders) (encoder : Nat) : SyntheticEncoders :=
  let h := h.stop encoder
  let h := { h with released := h.released + 1 }
  match h.get? encoder with
  | none => h
  | some e => h.put encoder { e with outputs := [] }

instance : EncoderHost SyntheticEncoders where
  names _ mime := catalogue.names mime
  find _ := find
  create := create
  configure := configure
  surface := surface
  start := start
  inputRoom := inputRoom
  submitInput := submitInput
  readOutput := readOutput
  returnOutput := returnOutput
  stop := stop
  release := release

/-- Fills the next output buffer. -/
def emit (e : SyntheticEncoder) (data : Bytes) (pts : Nat) (flags : BufferFlags) :
    SyntheticEncoder × EncoderReport :=
  let index := e.nextIndex
  let outputs := (index, data) :: e.outputs.filter fun output => output.1 != index
  ({ e with nextIndex := index + 1, outputs }, .output ⟨index, ⟨pts, data.length, flags⟩⟩)

/-- The next report of an encoder, if it does not have to wait for input. `heard` says whether
anyone still listens; an encoder that is stopped or not heard ends. -/
def advance (h : SyntheticEncoders) (encoder : Nat) (heard : Bool) :
    Option (SyntheticEncoders × EncoderReport) :=
  (h.get? encoder).bind fun e =>
    let becomes (e : SyntheticEncoder) (report : EncoderReport) := some (h.put encoder e, report)
    let last := becomes { e with task := .ended } .ended
    match e.task with
    | .ended => none
    | .leave => last
    | .announce =>
      let (e, report) := emit e configData 0 .config
      let next := if isAudio e then .offer 0 else .draw 0
      becomes { e with task := if heard then next else .leave } report
    | .offer slot =>
      let next := if slot + 1 < slots then .offer (slot + 1) else .encode
      if heard then becomes { e with task := next } (.input slot) else last
    | .giveBack slot => if heard then becomes { e with task := .encode } (.input slot) else last
    | .encode =>
      if !e.running || !heard then last
      else match e.inputs with
        | [] => none
        | (slot, data, pts) :: inputs =>
          let (e, report) := emit { e with inputs } (data.take h.setup.frameSize) pts .none
          becomes { e with task := .giveBack slot } report
    | .draw n =>
      if !e.running || !heard || h.setup.maxFrames.any (· ≤ n) then last
      else if h.setup.errorAfter = some n then
        becomes { e with task := .leave } (.error (.io ⟨.other, some "mock encoder failure"⟩))
      else
        let flags := if n % max h.setup.keyFrameInterval 1 = 0 then .keyFrame else .none
        let pts := h.setup.firstPts + h.frames * frameDuration
        let data := List.replicate h.setup.frameSize (UInt8.ofNat (n % 251))
        let (e, report) := emit { e with task := .draw (n + 1) } data pts flags
        some ({ h.put encoder e with frames := h.frames + 1 }, report)

/-- The next report is made. The encoder waits as long as there is no room for it. -/
def report? (h : SyntheticEncoders) (l : Listening) (encoder : Nat) :
    Option (SyntheticEncoders × Listening) :=
  (h.advance encoder (!l.isClosed encoder)).bind fun (h, report) =>
    let unlessFull (told : Listening × Pushed) :=
      if told.2 = .full then none else some (h, told.1)
    match report with
    | .input index => unlessFull (l.input encoder index)
    | .output buffer => unlessFull (l.output encoder buffer)
    | .error e => some (h, l.error encoder e)
    | .ended => some (h, l.leave encoder)

end SyntheticEncoders

end Screencast
